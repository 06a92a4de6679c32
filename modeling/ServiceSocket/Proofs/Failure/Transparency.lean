import ServiceSocket.Proofs.Ownership.Ledger

/-!
# Transparent failures

An operation makes many calls, and each may fail.  Some failures it absorbs; the first one
that it does not absorb ends it, and is what it reports.  A monitor follows an operation up
to that failure and remembers on the way which failed calls have still to be repeated.
-/

namespace ServiceSocket

/-!
# Failures of calls
-/

namespace Event

/-- The failure that the system answers with.  A failure that a socket remembers is one as
well, although the call that takes it has not failed. -/
def failure? : Event -> Option Errno
  | ⟨.openStream _, .error errno⟩ | ⟨.bind _ _, .error errno⟩ | ⟨.connect _ _, .error errno⟩
  | ⟨.listen _ _, .error errno⟩ | ⟨.accept _, .error errno⟩ | ⟨.localRecord _, .error errno⟩
  | ⟨.peerRecord _, .error errno⟩ | ⟨.receive _ _, .error errno⟩
  | ⟨.send _ _ _ _, .error errno⟩ | ⟨.shutdown _ _, .error errno⟩
  | ⟨.configure _ _, .error errno⟩ | ⟨.linger _, .error errno⟩ | ⟨.waitLimit _ _, .error errno⟩
  | ⟨.takeFailure _, .error errno⟩ | ⟨.poll _ _ _, .error errno⟩
  | ⟨.isNonblocking _, .error errno⟩ | ⟨.setNonblocking _ _, .error errno⟩
  | ⟨.duplicate _, .error errno⟩ | ⟨.close _, .error errno⟩ => some errno
  | ⟨.takeFailure _, .ok errno⟩ => if errno.code = 0 then none else some errno
  | _ => none

def heldThrough (held : Multiset Descriptor) (events : List Event) : Multiset Descriptor :=
  events.foldl heldAfter held

end Event

namespace Call

def isRepeatable : Call -> Bool
  | .poll _ _ _ | .send _ _ _ _ => true
  | _ => false

/-- A poll is repeated for what is left of the time, any other call as it was. -/
def repeats : Call -> Call -> Bool
  | .poll d direction _, .poll other otherDirection _ =>
      d == other && direction == otherDirection
  | again, c => again == c

theorem repeats_self (c : Call) : c.repeats c = true := by
  cases c <;> simp [repeats]

end Call

/-- Which failures an operation absorbs beside those of waiting and sending. -/
structure Tolerance where
  connecting : Bool := false
  noDelay : Bool := false
  localRecord : Bool := false
  peerRecord : Bool := false
  close : Bool := false

def Tolerance.absorbs (t : Tolerance) : Call -> Errno -> Bool
  | .poll _ _ _, errno => errno == .interrupted
  | .send _ _ _ _, errno => errno == .interrupted || errno == .wouldBlock
  | .connect _ _, errno => t.connecting && (errno == .inProgress || errno == .wouldBlock)
  | .configure _ (.noDelay _), _ => t.noDelay
  | .localRecord _, _ => t.localRecord
  | .peerRecord _, _ => t.peerRecord
  | .close _, _ => t.close
  | _, _ => false

def Event.unabsorbed? (t : Tolerance) (event : Event) : Option Errno :=
  event.failure?.filter fun errno => ! t.absorbs event.call errno

/-- An operation of this name on this address reports the first failure that it does not
absorb, and nothing that it absorbs. -/
structure Transparent (t : Tolerance) (operation : String) (address : Option Address)
    (given : Multiset Descriptor) (events : List Event)
    (outcome : Program.Outcome (Except Error α)) : Prop where
  /-- The failure ends the operation, which then does nothing but close what it holds. -/
  ends : forall before event after errno, events = before ++ event :: after ->
    (forall earlier, earlier ∈ before -> earlier.unabsorbed? t = none) ->
    event.unabsorbed? t = some errno ->
    outcome = .returned (.error
      (.op operation Network.tipc (Address.describe address) (.io (.os errno)))) ∧
    forall between later rest, after = between ++ later :: rest ->
      exists d, d ∈ Event.heldThrough given (before ++ event :: between) ∧ later.call = .close d
  /-- What is absorbed is not reported, and it does not make the operation fail: something
  else is called before that, other than to close. -/
  absorbs : (forall event, event ∈ events -> event.unabsorbed? t = none) ->
    forall error, outcome = .returned (.error error) ->
      (forall errno, error.cause ≠ .ofErrno errno) ∧
      forall before event after, events = before ++ event :: after -> event.closed? = none ->
        event.failure?.isSome = true -> exists later, later ∈ after ∧ later.closed? = none
  /-- What waits or sends and fails is repeated, unless the operation fails. -/
  repeats : forall value, outcome = .returned (.ok value) ->
    forall before event after, events = before ++ event :: after ->
      event.call.isRepeatable = true -> event.failure?.isSome = true ->
      exists again, again ∈ after ∧ again.call.repeats event.call = true

/-!
# The course of an operation
-/

structure Course where
  held : Multiset Descriptor
  failure : Option Errno
  /-- The calls that failed and are still to be repeated. -/
  putOff : List Call
  stumbled : Bool

def Course.calm (held : Multiset Descriptor) (stumbled : Bool) : Course :=
  ⟨held, none, [], stumbled⟩

def Event.putOff (event : Event) : List Call :=
  if event.call.isRepeatable && event.failure?.isSome then [event.call] else []

def Course.next (t : Tolerance) (s : Course) (event : Event) : Course where
  held := event.heldAfter s.held
  failure := s.failure.or (event.unabsorbed? t)
  putOff := event.putOff ++ s.putOff.filter (! event.call.repeats ·)
  stumbled := if event.closed?.isSome then s.stumbled else event.failure?.isSome

def reporting (t : Tolerance) : Monitor Course where
  step s event after := after = s.next t event
  allowed s c := s.failure.isSome = true -> exists d, d ∈ s.held ∧ c = .close d

namespace Course

def through (t : Tolerance) (s : Course) (events : List Event) : Course :=
  events.foldl (next t) s

variable {t : Tolerance} {s last : Course} {events : List Event} {errno : Errno}

theorem through_append {first second : List Event} :
    s.through t (first ++ second) = (s.through t first).through t second :=
  List.foldl_append

theorem path_iff : (reporting t).Path s events last <-> last = s.through t events := by
  induction events generalizing s with
  | nil =>
      rw [Monitor.path_nil_iff]
      exact eq_comm
  | cons event events ih =>
      rw [Monitor.path_cons_iff]
      constructor
      · intro h
        rcases h with ⟨mid, hstep, hrest⟩
        rw [hstep] at hrest
        exact ih.mp hrest
      · intro hlast
        exact ⟨_, rfl, ih.mpr hlast⟩

theorem held_through : (s.through t events).held = Event.heldThrough s.held events := by
  induction events generalizing s with
  | nil => rfl
  | cons event events ih => exact ih

theorem failure_through_of_some
    (h : s.failure = some errno) : (s.through t events).failure = some errno := by
  induction events generalizing s with
  | nil => exact h
  | cons event events ih =>
      apply ih
      rw [next, h, Option.some_or]

theorem failure_through_of_none
    (h : s.failure = none)
    (hevents : forall event, event ∈ events -> event.unabsorbed? t = none) :
    (s.through t events).failure = none := by
  induction events generalizing s with
  | nil => exact h
  | cons event events ih =>
      apply ih
      · rw [next, h, Option.none_or]
        exact hevents event List.mem_cons_self
      · intro later hlater
        exact hevents later (List.mem_cons_of_mem event hlater)

theorem failure_through {before after : List Event} {event : Event}
    (h : s.failure = none)
    (hbefore : forall earlier, earlier ∈ before -> earlier.unabsorbed? t = none)
    (hevent : event.unabsorbed? t = some errno) :
    (s.through t (before ++ event :: after)).failure = some errno := by
  rw [through_append]
  apply failure_through_of_some (s := (s.through t before).next t event)
  rw [next, failure_through_of_none h hbefore, hevent, Option.none_or]

theorem mem_putOff_through (events : List Event) {c : Call}
    (hc : c ∈ s.putOff) :
    c ∈ (s.through t events).putOff ∨
      exists again, again ∈ events ∧ again.call.repeats c = true := by
  induction events generalizing s with
  | nil => exact .inl hc
  | cons event events ih =>
      cases hrepeats : event.call.repeats c with
      | true => exact .inr ⟨event, List.mem_cons_self, hrepeats⟩
      | false =>
          have hnext : c ∈ (s.next t event).putOff := by
            apply List.mem_append_right
            rw [List.mem_filter, hrepeats]
            exact ⟨hc, rfl⟩
          rcases ih hnext with hlast | ⟨again, hagain, hrepeats⟩
          · exact .inl hlast
          · exact .inr ⟨again, List.mem_cons_of_mem event hagain, hrepeats⟩

theorem stumbled_through (events : List Event)
    (h : s.stumbled = true) :
    (s.through t events).stumbled = true ∨ exists later, later ∈ events ∧ later.closed? = none := by
  induction events generalizing s with
  | nil => exact .inl h
  | cons event events ih =>
      cases hclosed : event.closed? with
      | none => exact .inr ⟨event, List.mem_cons_self, hclosed⟩
      | some d =>
          have hnext : (s.next t event).stumbled = true := by
            rw [next, hclosed]
            exact h
          rcases ih hnext with hlast | ⟨later, hlater, hclosed⟩
          · exact .inl hlast
          · exact .inr ⟨later, List.mem_cons_of_mem event hlater, hclosed⟩

end Course

/-!
# Operations under the monitor
-/

/-- The error tells of the failure that the operation has met.  If there was none it tells
of none, and does not follow on a failure that was absorbed. -/
def Error.Blames (context : Error -> Error) (error : Error) (s : Course) : Prop :=
  match s.failure with
  | some errno => error = context (.ofErrno errno)
  | none => s.stumbled = false ∧ forall errno, error.cause ≠ .ofErrno errno

namespace Attempt

variable {t : Tolerance} {own : Multiset Descriptor}

/-- On every way through the attempt an error blames the failure that was met, and there is
neither a failure nor a call to be repeated when it ends with a value. -/
def IsTransparent (t : Tolerance) (context : Error -> Error) (body : Attempt α)
    (own : Multiset Descriptor) : Prop :=
  body.Meets (reporting t) (fun _ s => s.failure = none) (Error.Blames context)
    (fun _ s => s.failure = none ∧ s.putOff = []) (.calm own false)

theorem IsTransparent.transparent {operation : String} {address : Option Address}
    {body : Attempt α} {events : List Event} {outcome : Program.Outcome (Except Error α)}
    (h : body.IsTransparent t (Error.inContext operation Network.tipc address) own)
    (branch : Program.Branch body.run events outcome) :
    Transparent t operation address own events outcome := by
  rcases Program.Meets.of_branch h branch with ⟨hobeyed, hends⟩
  have hlast := hends _ (Course.path_iff.mpr rfl)
  constructor
  · intro before event after errno hevents hbefore hevent
    have hfailure (later : List Event) :
        ((Course.calm own false).through t (before ++ event :: later)).failure = some errno :=
      Course.failure_through rfl hbefore hevent
    constructor
    · rw [hevents] at hlast
      rcases outcome with (error | value) | reason
      · have hblames : error.Blames _ _ := hlast
        rw [Error.Blames, hfailure] at hblames
        rw [hblames]
        rfl
      · have hcalm := hlast.1
        rw [hfailure] at hcalm
        cases hcalm
      · rw [Program.Outcome.Ends, hfailure] at hlast
        cases hlast
    · intro between later rest hafter
      rw [hafter, ← List.cons_append, ← List.append_assoc] at hevents
      have hallowed := hobeyed _ later rest _ hevents (Course.path_iff.mpr rfl)
      rcases hallowed (Option.isSome_of_eq_some (hfailure between)) with ⟨d, hd, hclose⟩
      rw [Course.held_through] at hd
      exact ⟨d, hd, hclose⟩
  · intro habsorbed error houtcome
    rw [houtcome] at hlast
    have hblames : error.Blames _ _ := hlast
    rw [Error.Blames, Course.failure_through_of_none rfl habsorbed] at hblames
    refine ⟨hblames.2, ?_⟩
    intro before event after hevents hclosed hfailed
    have hstumbled : (((Course.calm own false).through t before).next t event).stumbled = true := by
      rw [Course.next, hclosed, hfailed]
      rfl
    rcases Course.stumbled_through (t := t) after hstumbled with hleft | hlater
    · have hsteady := hblames.1
      rw [hevents, Course.through_append] at hsteady
      exact absurd (hleft.symm.trans hsteady) Bool.true_eq_false.mp
    · exact hlater
  · intro value houtcome before event after hevents hrepeatable hfailed
    rw [houtcome, hevents, Course.through_append] at hlast
    have hputOff : event.call ∈
        (((Course.calm own false).through t before).next t event).putOff := by
      apply List.mem_append_left
      rw [Event.putOff, hrepeatable, hfailed]
      exact List.mem_singleton_self event.call
    rcases Course.mem_putOff_through (t := t) after hputOff with hleft | hagain
    · have hdone : (((Course.calm own false).through t before).next t event
          |>.through t after).putOff = [] := hlast.2
      rw [hdone] at hleft
      cases hleft
    · exact hagain

end Attempt
end ServiceSocket
