import Mathlib.Data.List.Induction
import ServiceSocket.Proofs.Kernel.History
import ServiceSocket.Proofs.Ownership.Actions

/-!
# One owner for each descriptor

The trace of a session lists the calls of its actions; a descriptor that the caller hands
over comes right before the calls of the action that takes it.  Along a trace the ledger
changes by what is obtained and by what is closed, so a ledger that begins and ends empty
has closed each descriptor as often as it was obtained.
-/

namespace ServiceSocket

inductive Entry where
  | handed (d : Descriptor)
  | called (event : Event)

namespace Entry

def gained? : Entry -> Option Descriptor
  | .handed d => some d
  | .called event => event.gained?

def closed? : Entry -> Option Descriptor
  | .handed _ => none
  | .called event => event.closed?

def named? : Entry -> Option Descriptor
  | .handed _ => none
  | .called event => event.call.target?

def heldAfter (held : Multiset Descriptor) : Entry -> Multiset Descriptor
  | .handed d => d ::ₘ held
  | .called event => event.heldAfter held

variable {held : Multiset Descriptor} {d : Descriptor} {entry : Entry}

theorem named?_eq_some (h : entry.closed? = some d) : entry.named? = some d := by
  cases entry with
  | handed _ => cases h
  | called event => exact (Event.closed?_eq_some h).1

theorem closed?_eq_none (h : entry.gained? = some d) : entry.closed? = none := by
  cases entry with
  | handed _ => rfl
  | called event =>
      cases hclosed : event.closed? with
      | none => exact hclosed
      | some other =>
          rw [gained?, (Event.closed?_eq_some hclosed).2] at h
          cases h

theorem gained?_eq_none (h : entry.closed? = some d) : entry.gained? = none := by
  cases entry with
  | handed _ => cases h
  | called event => exact (Event.closed?_eq_some h).2

theorem heldAfter_of_gained
    (h : entry.gained? = some d) : entry.heldAfter held = d ::ₘ held := by
  cases entry with
  | handed _ =>
      cases h
      rfl
  | called event => exact Event.heldAfter_of_gained h

theorem heldAfter_of_closed
    (h : entry.closed? = some d) : entry.heldAfter held = held.erase d := by
  cases entry with
  | handed _ => cases h
  | called event => exact Event.heldAfter_of_closed h

theorem heldAfter_of_neither
    (hgained : entry.gained? = none)
    (hclosed : entry.closed? = none) :
    entry.heldAfter held = held := by
  cases entry with
  | handed _ => cases hgained
  | called event => exact Event.heldAfter_of_neither hgained hclosed

end Entry

/-!
# Counting
-/

def gains (d : Descriptor) (trace : List Entry) : Nat :=
  trace.countP fun entry => entry.gained? = some d

def closes (d : Descriptor) (trace : List Entry) : Nat :=
  trace.countP fun entry => entry.closed? = some d

/-- A descriptor is obtained only when it has been closed as often as it was obtained
before: the system hands out none that is open, and nor does the caller. -/
def Fresh (trace : List Entry) : Prop :=
  forall before entry after d, trace = before ++ entry :: after -> entry.gained? = some d ->
    gains d before = closes d before

theorem fresh_iff {whole : List Entry} :
    Fresh whole <-> forall n, n < whole.length -> forall d, d ∈ whole[n]?.bind Entry.gained? ->
      gains d (whole.take n) = closes d (whole.take n) := by
  constructor
  · intro h n hn d hgained
    rw [List.getElem?_eq_getElem hn] at hgained
    refine h _ whole[n] (whole.drop (n + 1)) d ?_ hgained
    rw [List.getElem_cons_drop, List.take_append_drop]
  · intro h before entry after d hsplit hgained
    have hn : before.length < whole.length := by
      rw [hsplit, List.length_append, List.length_cons]
      exact Nat.lt_add_of_pos_right (Nat.succ_pos _)
    have hcount := h before.length hn d
    rw [hsplit] at hcount
    simpa [hgained] using hcount

instance (whole : List Entry) : Decidable (Fresh whole) :=
  decidable_of_iff _ fresh_iff.symm

/-- Each call names a descriptor that is on the ledger then. -/
def NamesHeld : Multiset Descriptor -> List Entry -> Prop
  | _, [] => True
  | held, entry :: rest =>
      (forall d, entry.named? = some d -> d ∈ held) ∧ NamesHeld (entry.heldAfter held) rest

def heldThrough (held : Multiset Descriptor) (trace : List Entry) : Multiset Descriptor :=
  trace.foldl Entry.heldAfter held

section

variable {held : Multiset Descriptor} {d : Descriptor} {entry : Entry}
  {first second trace : List Entry}

theorem gains_append : gains d (first ++ second) = gains d first + gains d second :=
  List.countP_append

theorem closes_append : closes d (first ++ second) = closes d first + closes d second :=
  List.countP_append

theorem gains_cons : gains d (entry :: trace) = gains d [entry] + gains d trace := by
  rw [← gains_append, List.singleton_append]

theorem closes_cons : closes d (entry :: trace) = closes d [entry] + closes d trace := by
  rw [← closes_append, List.singleton_append]

theorem gains_singleton_of_some (h : entry.gained? = some d) : gains d [entry] = 1 := by
  simp [gains, h]

theorem closes_singleton_of_some (h : entry.closed? = some d) : closes d [entry] = 1 := by
  simp [closes, h]

theorem heldThrough_append :
    heldThrough held (first ++ second) = heldThrough (heldThrough held first) second :=
  List.foldl_append

theorem namesHeld_append :
    NamesHeld held (first ++ second) <->
      NamesHeld held first ∧ NamesHeld (heldThrough held first) second := by
  induction first generalizing held with
  | nil => exact ⟨fun h => ⟨trivial, h⟩, fun h => h.2⟩
  | cons entry rest ih =>
      change _ ∧ NamesHeld _ (rest ++ second) <-> _
      rw [ih]
      exact and_assoc.symm

theorem Entry.heldAfter_count
    (h : forall d, entry.named? = some d -> d ∈ held)
    (d : Descriptor) :
    (entry.heldAfter held).count d + closes d [entry] = held.count d + gains d [entry] := by
  cases hgained : entry.gained? with
  | some other =>
      rw [heldAfter_of_gained hgained, Multiset.count_cons]
      simp [gains, closes, hgained, closed?_eq_none hgained, eq_comm]
  | none =>
      cases hclosed : entry.closed? with
      | some other =>
          have hmem : other ∈ held := h other (named?_eq_some hclosed)
          rw [heldAfter_of_closed hclosed]
          by_cases heq : d = other
          · have hpos : 0 < held.count d := Multiset.count_pos.mpr (heq ▸ hmem)
            rw [← heq, Multiset.count_erase_self, closes_singleton_of_some (heq ▸ hclosed)]
            simp only [gains, List.countP_singleton, hgained]
            exact Nat.sub_add_cancel hpos
          · rw [Multiset.count_erase_of_ne heq]
            simp [gains, closes, hgained, hclosed, Ne.symm heq]
      | none =>
          rw [heldAfter_of_neither hgained hclosed]
          simp [gains, closes, hgained, hclosed]

theorem heldThrough_count
    (h : NamesHeld held trace)
    (d : Descriptor) :
    (heldThrough held trace).count d + closes d trace = held.count d + gains d trace := by
  induction trace generalizing held with
  | nil => rfl
  | cons entry rest ih =>
      have hentry := Entry.heldAfter_count h.1 d
      have hrest := ih h.2
      change (heldThrough (entry.heldAfter held) rest).count d + _ = _
      rw [closes_cons, gains_cons]
      omega

theorem NamesHeld.closes_lt
    (h : NamesHeld held trace)
    {before after : List Entry}
    (hsplit : trace = before ++ entry :: after)
    (hnamed : entry.named? = some d) :
    closes d before < held.count d + gains d before := by
  rw [hsplit, namesHeld_append] at h
  have hmem : d ∈ heldThrough held before := h.2.1 d hnamed
  have hcount := heldThrough_count h.1 d
  have hpos := Multiset.count_pos.mpr hmem
  omega

/-!
# Obtained once, closed once
-/

theorem Fresh.gains_le
    (h : Fresh trace)
    {before after : List Entry}
    (hsplit : trace = before ++ after) :
    gains d before ≤ closes d before + 1 := by
  induction before using List.reverseRecOn generalizing after with
  | nil => exact Nat.zero_le 1
  | append_singleton before entry ih =>
      rw [List.append_assoc, List.singleton_append] at hsplit
      have hbefore := ih hsplit
      rw [gains_append, closes_append]
      by_cases hgained : entry.gained? = some d
      · rw [h before entry after d hsplit hgained, gains_singleton_of_some hgained]
        exact Nat.add_le_add_right (Nat.le_add_right _ _) 1
      · have hnone : gains d [entry] = 0 := by
          simp [gains, hgained]
        omega

/-- Between obtaining a descriptor and obtaining it again or ending, it is closed once. -/
theorem Fresh.closes_eq_one
    (h : Fresh trace)
    (hall : closes d trace = gains d trace)
    {middle rest : List Entry}
    (hsplit : trace = first ++ entry :: (middle ++ rest))
    (hgained : entry.gained? = some d)
    (hmiddle : gains d middle = 0)
    (hrest : forall next tail, rest = next :: tail -> next.gained? = some d) :
    closes d middle = 1 := by
  have hfirst := h first entry (middle ++ rest) d hsplit hgained
  have hsplit' : trace = (first ++ entry :: middle) ++ rest := by
    rw [hsplit, List.append_assoc, List.cons_append]
  have hequal : gains d (first ++ entry :: middle) = closes d (first ++ entry :: middle) := by
    cases rest with
    | nil =>
        rw [List.append_nil] at hsplit'
        rw [← hsplit', hall]
    | cons next tail => exact h _ next tail d hsplit' (hrest next tail rfl)
  have hnone : closes d [entry] = 0 := by
    simp [closes, Entry.closed?_eq_none hgained]
  rw [gains_append, closes_append, gains_cons, closes_cons, hfirst, hmiddle, hnone,
    gains_singleton_of_some hgained] at hequal
  omega

theorem Fresh.named?_ne
    (h : Fresh trace)
    (hheld : NamesHeld 0 trace)
    {shut : Entry} {middle after : List Entry}
    (hsplit : trace = first ++ shut :: (middle ++ entry :: after))
    (hclosed : shut.closed? = some d)
    (hmiddle : gains d middle = 0) :
    entry.named? ≠ some d := by
  intro hnamed
  have hsplit' : trace = (first ++ shut :: middle) ++ entry :: after := by
    rw [hsplit, List.append_assoc, List.cons_append]
  have hbefore := h.gains_le (d := d) hsplit
  have hlt := hheld.closes_lt hsplit' hnamed
  have hnone : gains d [shut] = 0 := by
    simp [gains, Entry.gained?_eq_none hclosed]
  rw [gains_append, closes_append, gains_cons, closes_cons, hmiddle, hnone,
    closes_singleton_of_some hclosed, Multiset.count_zero] at hlt
  omega

/-!
# Along programs
-/

open Program in
theorem Program.Meets.follow {p : Program α} {halt : Halt -> Multiset Descriptor -> Prop}
    {post : α -> Multiset Descriptor -> Prop} {events : List Event} {outcome : Outcome α}
    (h : p.Meets ledger halt post held)
    (branch : Branch p events outcome) :
    NamesHeld held (events.map .called) ∧
      outcome.Ends halt post (heldThrough held (events.map .called)) := by
  induction branch generalizing held with
  | done value => exact ⟨trivial, h⟩
  | halt reason => exact ⟨trivial, h⟩
  | call c next answer rest ih =>
      have hrest := ih (h.2 answer _ rfl)
      exact ⟨⟨h.1, hrest.1⟩, hrest.2⟩

theorem handed_follow (given : List Descriptor) (own : Multiset Descriptor) :
    NamesHeld own (given.map .handed) ∧
      heldThrough own (given.map .handed) = ↑given + own := by
  induction given generalizing own with
  | nil => exact ⟨trivial, (zero_add own).symm⟩
  | cons d rest ih =>
      refine ⟨⟨?_, (ih (d ::ₘ own)).1⟩, ?_⟩
      · intro other hnamed
        cases hnamed
      · change heldThrough (d ::ₘ own) _ = _
        rw [(ih (d ::ₘ own)).2, ← Multiset.cons_coe, Multiset.cons_add, Multiset.add_cons]

end

namespace Session

def entries (turn : Turn Session Action Answer) : List Entry :=
  turn.input.handed.map .handed ++ turn.events.map .called

/-- The trace of some actions and of letting go of what is left after them. -/
def trace (turns : List (Turn Session Action Answer)) (ending : List Event) : List Entry :=
  turns.flatMap entries ++ ending.map .called

structure KeepsOwners (turn : Turn Session Action Answer) : Prop where
  /-- Calls name descriptors of the items that the action mentions or that it obtained. -/
  named : forall before entry after d, entries turn = before ++ entry :: after ->
    entry.named? = some d ->
    closes d before < (turn.start.only turn.input.names).owned.count d + gains d before
  /-- What they had or obtained is closed or left to them. -/
  left : forall d, (turn.finish.only turn.input.names).owned.count d + closes d (entries turn) =
    (turn.start.only turn.input.names).owned.count d + gains d (entries turn)
  others : turn.finish.without turn.input.names = turn.start.without turn.input.names
  /-- What fails has closed all it obtained or was given. -/
  failed : forall name recipe error, turn.input = .make name recipe ->
    turn.answer = .failed error ->
    turn.finish = turn.start.useUp recipe ∧
    forall d, (turn.start.useUp recipe).owned.count d + closes d (entries turn) =
      turn.start.owned.count d + gains d (entries turn)
  /-- An item that was asked to close holds nothing more, however the system answered. -/
  shut : forall name request item, turn.input = .ask name request ->
    turn.start.find? name = some item -> item.closes request = true ->
    exists changed, turn.finish.find? name = some changed ∧ changed.owned = 0

variable {s last : Session} {turn : Turn Session Action Answer} {patience : Nat}
  {turns : List (Turn Session Action Answer)}

theorem entries_follow {own : Multiset Descriptor}
    {result : Answer × Session -> Multiset Descriptor}
    (hcarries : (turn.start.act turn.input patience).Carries (↑turn.input.handed + own) result)
    (hfollows : turn.Follows fun s action => s.act action patience) :
    NamesHeld own (entries turn) ∧
      heldThrough own (entries turn) = result (turn.answer, turn.finish) := by
  have hhanded := handed_follow turn.input.handed own
  have hcalled := hcarries.follow hfollows
  constructor
  · rw [entries, namesHeld_append, hhanded.2]
    exact ⟨hhanded.1, hcalled.1⟩
  · rw [entries, heldThrough_append, hhanded.2]
    exact hcalled.2

theorem keepsOwners_of_follows
    (hs : turn.start.IsSorted)
    (hfollows : turn.Follows fun s action => s.act action patience) :
    KeepsOwners turn := by
  have hown := entries_follow
    (act_only_carries hs (fun _ hname => hname) patience) hfollows
  have hall := entries_follow (act_carries hs turn.input patience) hfollows
  have hreturns := act_returns hs (fun _ hname => hname) patience _ _ hfollows
  constructor
  · intro before entry after d hsplit hnamed
    exact hown.1.closes_lt hsplit hnamed
  · intro d
    rw [← heldThrough_count hown.1 d, hown.2]
  · exact hreturns.2
  · intro name recipe error hinput hanswer
    have hfinish : turn.finish = turn.start.useUp recipe := by
      rw [Turn.Follows, hinput] at hfollows
      rcases make_returns _ name recipe patience _ _ hfollows with h | ⟨_, h⟩ | ⟨item, h⟩
      · rw [hanswer] at h
        cases h
      · exact congrArg Prod.snd h
      · rw [hanswer] at h
        cases h
    constructor
    · exact hfinish
    · intro d
      rw [← heldThrough_count hall.1 d, hall.2, hfinish]
  · intro name request item hinput hfind hcloses
    rw [Turn.Follows, hinput] at hfollows
    exact act_returns_closed hfind hcloses patience _ _ hfollows

theorem turns_follow
    (history : History (fun s action => s.act action patience) s turns last)
    (hs : s.IsSorted) :
    NamesHeld s.owned (turns.flatMap entries) ∧
      heldThrough s.owned (turns.flatMap entries) = last.owned ∧
      forall turn, turn ∈ turns -> KeepsOwners turn := by
  induction history with
  | nil s => exact ⟨trivial, rfl, by simp⟩
  | @cons s mid last input events answer turns first rest ih =>
      let turn : Turn Session Action Answer := ⟨s, input, events, answer, mid⟩
      have hturn : turn.Follows fun s action => s.act action patience := first
      have hown := entries_follow (act_carries hs input patience) hturn
      have hmid := (act_returns hs (fun _ hname => hname) patience _ _ first).1
      rcases ih hmid with ⟨hnames, hheld, hkeeps⟩
      rw [List.flatMap_cons, namesHeld_append, heldThrough_append]
      change (_ ∧ NamesHeld (heldThrough s.owned (entries turn)) _) ∧
        heldThrough (heldThrough s.owned (entries turn)) _ = _ ∧ _
      rw [hown.2]
      refine ⟨⟨hown.1, hnames⟩, hheld, ?_⟩
      intro other hmem
      rcases List.mem_cons.mp hmem with hmem | hmem
      · rw [hmem]
        exact keepsOwners_of_follows hs hturn
      · exact hkeeps other hmem

/-- A session that lets go of everything in the end has closed each descriptor that it
obtained or was given exactly once, and no call names one after that. -/
theorem every_descriptor_closed_once {ending : List Event}
    (history : History (fun s action => s.act action patience) {} turns last)
    (finished : Program.Branch last.finish ending (.returned ()))
    (fresh : Fresh (trace turns ending)) :
    (forall d, closes d (trace turns ending) = gains d (trace turns ending)) ∧
    (forall first entry middle rest d, trace turns ending = first ++ entry :: (middle ++ rest) ->
      entry.gained? = some d -> gains d middle = 0 ->
      (forall next tail, rest = next :: tail -> next.gained? = some d) -> closes d middle = 1) ∧
    (forall first shut middle entry after d,
      trace turns ending = first ++ shut :: (middle ++ entry :: after) ->
      shut.closed? = some d -> gains d middle = 0 -> entry.named? ≠ some d) ∧
    (forall before entry after d, trace turns ending = before ++ entry :: after ->
      entry.named? = some d -> closes d before < gains d before) ∧
    forall turn, turn ∈ turns -> KeepsOwners turn := by
  rcases turns_follow history isSorted_empty with ⟨hnames, hheld, hkeeps⟩
  have hending := last.finish_carries.follow finished
  have htrace : NamesHeld 0 (trace turns ending) := by
    rw [trace, namesHeld_append]
    exact ⟨hnames, hheld ▸ hending.1⟩
  have hempty : heldThrough 0 (trace turns ending) = 0 := by
    rw [trace, heldThrough_append]
    exact (congrArg (heldThrough · _) hheld).trans hending.2
  have hall (d : Descriptor) : closes d (trace turns ending) = gains d (trace turns ending) := by
    have hcount := heldThrough_count htrace d
    rw [hempty, Multiset.count_zero, zero_add, zero_add] at hcount
    exact hcount
  refine ⟨hall, ?_, ?_, ?_, hkeeps⟩
  · intro first entry middle rest d hsplit hgained hmiddle hrest
    exact fresh.closes_eq_one (hall d) hsplit hgained hmiddle hrest
  · intro first shut middle entry after d hsplit hclosed hmiddle
    exact fresh.named?_ne htrace hsplit hclosed hmiddle
  · intro before entry after d hsplit hnamed
    have hlt := htrace.closes_lt hsplit hnamed
    rw [Multiset.count_zero, zero_add] at hlt
    exact hlt

/-- A listener is closed in vain and asked to close once more; its number goes to a socket
that cannot be taken over, while the connection from it stays open until the end. -/
theorem every_descriptor_closed_once_after_failures :
    exists (turns : List (Turn Session Action Answer)) (last : Session) (ending : List Event),
      History (fun s action => s.act action 1) {} turns last ∧
      Program.Branch last.finish ending (.returned ()) ∧
      turns.map Turn.input =
        [.make "listener" (.listen "tipc" (some (.ofName 9 9))),
          .make "caller" (.accept "listener"), .ask "listener" .close, .ask "listener" .close,
          .make "socket" (.adopt ⟨3⟩)] ∧
      Fresh (trace turns ending) ∧
      closes ⟨3⟩ (trace turns ending) = 2 ∧ closes ⟨4⟩ (trace turns ending) = 1 := by
  let address : Address := .ofName 9 9
  let caller : Item := .connection ⟨some ⟨4⟩, none, address.toRecord.toAddress?, none, none⟩
  let listening : String × Item := ("listener", .listener ⟨some ⟨3⟩, address, none⟩)
  let closed : String × Item := ("listener", .listener ⟨none, address, none⟩)
  have listens : Program.Branch
      (({} : Session).act (.make "listener" (.listen "tipc" (some address))) 1)
      [⟨.openStream .tipc, .ok ⟨3⟩⟩, ⟨.bind ⟨3⟩ _, .ok ()⟩, ⟨.listen ⟨3⟩ 128, .ok ()⟩,
        ⟨.localRecord ⟨3⟩, .error ⟨107⟩⟩]
      (.returned (.made, ⟨[listening]⟩)) :=
    .call _ _ _ (.call _ _ _ (.call _ _ _ (.call _ _ _ (.done _))))
  have accepts : Program.Branch
      ((Session.mk [listening]).act (.make "caller" (.accept "listener")) 1)
      [⟨.accept ⟨3⟩, .ok (⟨4⟩, address.toRecord)⟩,
        ⟨.localRecord ⟨4⟩, .error ⟨107⟩⟩, ⟨.configure ⟨4⟩ (.noDelay true), .ok ()⟩]
      (.returned (.made, ⟨[("caller", caller), listening]⟩)) :=
    .call _ _ _ (.call _ _ _ (.call _ _ _ (.done _)))
  have closesInVain : Program.Branch
      ((Session.mk [("caller", caller), listening]).act (.ask "listener" .close) 1)
      [⟨.close ⟨3⟩, .error ⟨5⟩⟩] (.returned (_, ⟨[("caller", caller), closed]⟩)) :=
    .call _ _ _ (.done _)
  have closesAgain : Program.Branch
      ((Session.mk [("caller", caller), closed]).act (.ask "listener" .close) 1)
      [] (.returned (_, ⟨[("caller", caller), closed]⟩)) :=
    .done _
  have refuses : Program.Branch
      ((Session.mk [("caller", caller), closed]).act (.make "socket" (.adopt ⟨3⟩)) 1)
      [⟨.localRecord ⟨3⟩, .error ⟨88⟩⟩, ⟨.close ⟨3⟩, .ok ()⟩]
      (.returned (_, ⟨[("caller", caller), closed]⟩)) :=
    .call _ _ _ (.call _ _ _ (.done _))
  have finishes : Program.Branch (Session.mk [("caller", caller), closed]).finish
      [⟨.close ⟨4⟩, .ok ()⟩] (.returned ()) :=
    .call _ _ _ (.done _)
  have history : History (fun (s : Session) (action : Action) => s.act action 1) {} _ _ :=
    .cons listens (.cons accepts (.cons closesInVain
      (.cons closesAgain (.cons refuses (.nil _)))))
  have hclosed := (every_descriptor_closed_once history finishes (of_decide_eq_true rfl)).1
  refine ⟨_, _, _, history, finishes, rfl, of_decide_eq_true rfl, ?_, ?_⟩
  · rw [hclosed]
    rfl
  · rw [hclosed]
    rfl

end Session
end ServiceSocket
