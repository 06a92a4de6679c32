import ServiceSocket.Proofs.Virtual.Waiting

/-!
# What the virtual system answers

A call begins by taking its intervention, if there is one.  Interventions only run out, so
all but finitely many calls do just what they say: a poll comes back because the socket is
ready or because its time is up, and a send that finds room takes something.
-/

namespace ServiceSocket
namespace Virtual

/-!
# Room for sending
-/

namespace Socket

def WaitsForRoom (socket : Socket) : Prop :=
  socket.nonblocking = false ∧ System.limitOf socket.sendLimit = none

theorem lasting_waitsForRoom : Lasting WaitsForRoom := by
  intro socket happening h
  rcases happening with _ | _ | _ | (_ | _) | _ <;> exact h

theorem followsConnecting_canSend : FollowsConnecting canSend :=
  followsConnecting_isReady .output

theorem canSend_iff {socket : Socket} {now : Nat} : socket.canSend now = true <->
    socket.isConnecting now = false ∧
      (socket.untaken < socket.plan.capacity ∨ socket.gone = true ∨ socket.writeShut = true) := by
  simp [canSend, or_assoc]

theorem lasting_canSend (now : Nat) : Lasting fun socket => socket.canSend now = true := by
  intro socket happening h
  rcases happening with _ | _ | _ | (_ | count) | _
  · exact h
  · exact h
  · exact canSend_iff.mpr ⟨(canSend_iff.mp h).1, .inr (.inl rfl)⟩
  · refine canSend_iff.mpr ⟨(canSend_iff.mp h).1, (canSend_iff.mp h).2.imp_left ?_⟩
    exact Nat.lt_of_le_of_lt (Nat.zero_le _)
  · refine canSend_iff.mpr ⟨(canSend_iff.mp h).1, (canSend_iff.mp h).2.imp_left ?_⟩
    exact Nat.lt_of_le_of_lt (Nat.sub_le _ count)
  · exact h

theorem canSend_of_le {socket : Socket} {now later : Nat}
    (hle : now ≤ later)
    (h : socket.canSend now = true) :
    socket.canSend later = true := by
  rcases canSend_iff.mp h with ⟨hconnected, hroom⟩
  refine canSend_iff.mpr ⟨?_, hroom⟩
  rw [Bool.eq_false_iff] at hconnected ⊢
  exact mt (isConnecting_of_le hle) hconnected

def MaySend (now : Nat) (dontWait : Bool) (socket : Socket) : Prop :=
  socket.canSend now = true ∨ dontWait = false ∧ socket.WaitsForRoom

theorem lasting_maySend (now : Nat) (dontWait : Bool) : Lasting (MaySend now dontWait) := by
  intro socket happening h
  rcases h with hroom | ⟨hdontWait, hwaits⟩
  · exact .inl (lasting_canSend now socket happening hroom)
  · exact .inr ⟨hdontWait, lasting_waitsForRoom socket happening hwaits⟩

end Socket

namespace System

variable {s after : System} {d : Descriptor} {number : Nat}

/-!
# Beginning a call
-/

theorem takeIntervention_takes (name : CallName) (queue : List (CallName × Intervention)) :
    (exists before intervention behind, queue = before ++ (name, intervention) :: behind ∧
        takeIntervention name queue = (intervention, before ++ behind)) ∨
      takeIntervention name queue = ({}, queue) := by
  induction queue with
  | nil => exact .inr rfl
  | cons head rest ih =>
      rcases head with ⟨other, intervention⟩
      unfold takeIntervention
      split
      next hname =>
          rw [hname]
          exact .inl ⟨[], intervention, rest, rfl, rfl⟩
      next =>
          rcases ih with ⟨before, found, behind, hrest, htaken⟩ | hnone
          · refine .inl ⟨(other, intervention) :: before, found, behind, ?_, ?_⟩
            · rw [hrest, List.cons_append]
            · rw [htaken, List.cons_append]
          · rw [hnone]
            exact .inr rfl

theorem takeIntervention_cases (name : CallName) (queue : List (CallName × Intervention)) :
    (takeIntervention name queue).2.length < queue.length ∨
      takeIntervention name queue = ({}, queue) := by
  rcases takeIntervention_takes name queue with
    ⟨before, intervention, behind, hqueue, htaken⟩ | hnone
  · refine .inl ?_
    rw [htaken, hqueue, List.length_append, List.length_append, List.length_cons]
    exact Nat.lt_succ_self _
  · exact .inr hnone

/-- This holds unless an intervention has been used up. -/
def Undisturbed (s after : System) (P : Prop) : Prop :=
  after.interventions.length < s.interventions.length ∨
    after.interventions = s.interventions ∧ P

namespace Undisturbed

variable {begun : System} {P Q : Prop}

theorem of_eq
    (h : s.Undisturbed begun P)
    (hsame : after.interventions = begun.interventions)
    (hPQ : P -> Q) :
    s.Undisturbed after Q := by
  rcases h with hfewer | ⟨hnone, hP⟩
  · rw [← hsame] at hfewer
    exact .inl hfewer
  · exact .inr ⟨hsame.trans hnone, hPQ hP⟩

theorem trans {R : Prop}
    (h : s.Undisturbed begun P)
    (hrest : begun.Undisturbed after Q)
    (hPQ : P -> Q -> R) :
    s.Undisturbed after R := by
  rcases h with hfewer | ⟨hnone, hP⟩
  · rcases hrest with hless | ⟨hsame, _⟩
    · exact .inl (Nat.lt_trans hless hfewer)
    · rw [← hsame] at hfewer
      exact .inl hfewer
  · rcases hrest with hless | ⟨hsame, hQ⟩
    · rw [hnone] at hless
      exact .inl hless
    · exact .inr ⟨hsame.trans hnone, hPQ hP hQ⟩

theorem of_nil
    (h : s.Undisturbed after P)
    (hnone : s.interventions = []) :
    after.interventions = [] ∧ P := by
  rcases h with hfewer | ⟨hsame, hP⟩
  · rw [hnone] at hfewer
    cases hfewer
  · exact ⟨hsame.trans hnone, hP⟩

theorem length_le
    (h : s.Undisturbed after P) :
    after.interventions.length ≤ s.interventions.length := by
  rcases h with hfewer | ⟨hnone, _⟩
  · exact Nat.le_of_lt hfewer
  · exact Nat.le_of_eq (congrArg List.length hnone)

end Undisturbed

/-- A call begins at the same time and with nothing special about it, unless an intervention
says otherwise. -/
structure Begins (s : System) (intervention : Intervention) (begun : System) : Prop where
  goesOn : s.GoesOn begun
  isSettled : begun.IsSettled
  undisturbed : s.Undisturbed begun (intervention = {} ∧ begun.now = s.now)

theorem Begins.of_nil {intervention : Intervention}
    (h : s.Begins intervention after)
    (hnone : s.interventions = []) :
    intervention = {} ∧ after.interventions = [] ∧ after.now = s.now := by
  rcases h.undisturbed.of_nil hnone with ⟨hinterventions, hintervention, hnow⟩
  exact ⟨hintervention, hinterventions, hnow⟩

theorem draw_begins (name : CallName) : s.Begins (s.draw name).1 (s.draw name).2 where
  goesOn := by
    have hadvance := advanceTo_goesOn
      (s := { s with interventions := (takeIntervention name s.interventions).2 })
      (Nat.le_add_right s.now (takeIntervention name s.interventions).1.delay)
    exact ⟨hadvance.now_le, hadvance.descriptors_eq, hadvance.isSome_eq, hadvance.keeps⟩
  isSettled := advanceTo_isSettled
  undisturbed := by
    rcases takeIntervention_cases name s.interventions with hfewer | hnone
    · refine .inl ?_
      rw [draw, interventions_advanceTo]
      exact hfewer
    · refine .inr ?_
      rw [draw, hnone]
      exact ⟨interventions_advanceTo, rfl, now_advanceTo⟩

theorem plans_draw (s : System) (name : CallName) : (s.draw name).2.plans = s.plans :=
  plans_settle

theorem draw_eq
    (hsettled : s.IsSettled)
    (hnone : s.interventions = [])
    (name : CallName) :
    s.draw name = ({}, s) := by
  rw [draw, hnone]
  change (({} : Intervention), System.settle { s with interventions := [] }) = _
  rw [← hnone, settle_of_isSettled hsettled]

inductive Handles (s : System) (d : Descriptor)
    (body : System -> Nat -> Socket -> Intervention -> Result α × System) :
    Except Errno α -> System -> Prop where
  | unknown (hnumber : s.socketOf d = none) : Handles s d body (.error .badDescriptor) s
  | demanded {number : Nat} {intervention : Intervention} {begun : System} {entry : Entry}
      {errno : Errno} (hnumber : s.socketOf d = some number) (begins : s.Begins intervention begun)
      (hfailure : intervention.failure = some errno) :
      Handles s d body (.error errno) (begun.record entry)
  | missing {number : Nat} {intervention : Intervention} {begun : System} {entry : Entry}
      (hnumber : s.socketOf d = some number) (begins : s.Begins intervention begun) :
      Handles s d body (.error .badDescriptor) (begun.record entry)
  | done {number : Nat} {intervention : Intervention} {begun ended : System} {entry : Entry}
      {socket : Socket} {result : Result α} (hnumber : s.socketOf d = some number)
      (begins : s.Begins intervention begun) (hsocket : begun.socket? number = some socket)
      (hbody : body begun number socket intervention = (result, ended)) :
      Handles s d body (result.map Prod.fst) (ended.record entry)

theorem onSocket_handles {name : CallName} {arguments : List Argument}
    {body : System -> Nat -> Socket -> Intervention -> Result α × System}
    {answer : Except Errno α}
    (h : s.onSocket name d arguments body = (answer, after)) :
    s.Handles d body answer after := by
  have begins := s.draw_begins name
  unfold onSocket at h
  cases hnumber : s.socketOf d with
  | none =>
      rw [hnumber] at h
      cases h
      exact .unknown hnumber
  | some number =>
      rcases hdraw : s.draw name with ⟨intervention, begun⟩
      rw [hdraw] at begins
      rw [hnumber, hdraw] at h
      dsimp only at h
      cases hfailure : intervention.failure with
      | some errno =>
          rw [hfailure] at h
          cases h
          exact .demanded hnumber begins hfailure
      | none =>
          rw [hfailure] at h
          cases hsocket : begun.socket? number with
          | none =>
              rw [hsocket] at h
              cases h
              exact .missing hnumber begins
          | some socket =>
              rw [hsocket] at h
              cases h
              exact .done hnumber begins hsocket rfl

/-!
# Polling
-/

theorem GoesOn.record (h : s.GoesOn after) (entry : Entry) : s.GoesOn (after.record entry) :=
  ⟨h.now_le, h.descriptors_eq, h.isSome_eq, h.keeps⟩

inductive PollEnds (s : System) (d : Descriptor) (direction : Direction) (milliseconds : Nat)
    (after : System) : Except Errno Nat -> Prop where
  | failed : PollEnds s d direction milliseconds after (.error .badDescriptor)
  | ready {number : Nat}
      (hnumber : s.socketOf d = some number)
      (hready : (after.socket? number).any (Socket.isReady direction after.now) = true) :
      PollEnds s d direction milliseconds after (.ok 1)
  | gaveUp {number : Nat}
      (hnumber : s.socketOf d = some number)
      (hnow : after.now = s.now + milliseconds * 1_000_000)
      (hnot : (after.socket? number).any (Socket.isReady direction after.now) = false) :
      PollEnds s d direction milliseconds after (.ok 0)

structure Polls (s : System) (d : Descriptor) (direction : Direction) (milliseconds : Nat)
    (answer : Except Errno Nat) (after : System) : Prop where
  goesOn : s.GoesOn after
  ends : s.Undisturbed after (PollEnds s d direction milliseconds after answer)

theorem poll_polls {direction : Direction} {milliseconds : Nat} {answer : Except Errno Nat}
    (h : s.poll d direction milliseconds = (answer, after)) :
    s.Polls d direction milliseconds answer after := by
  cases onSocket_handles h with
  | unknown hnumber => exact ⟨GoesOn.refl s, .inr ⟨rfl, .failed⟩⟩
  | demanded hnumber begins hfailure =>
      refine ⟨begins.goesOn.record _, begins.undisturbed.of_eq rfl ?_⟩
      rintro ⟨hnone, _⟩
      rw [hnone] at hfailure
      cases hfailure
  | missing hnumber begins =>
      exact ⟨begins.goesOn.record _, begins.undisturbed.of_eq rfl fun _ => .failed⟩
  | @done number intervention begun ended entry socket result hnumber begins hsocket hbody =>
      cases hbound : intervention.bound with
      | some count =>
          rw [hbound] at hbody
          cases hbody
          refine ⟨begins.goesOn.record _, begins.undisturbed.of_eq rfl ?_⟩
          rintro ⟨hnone, _⟩
          rw [hnone] at hbound
          cases hbound
      | none =>
          rw [hbound] at hbody
          have waits := wait_waits_for (Socket.followsConnecting_isReady direction)
            begins.isSettled number (milliseconds * 1_000_000)
          rcases hwait : begun.wait number (Socket.isReady direction)
            (some (begun.now + milliseconds * 1_000_000)) with ⟨ready, waited⟩
          rw [hwait] at waits
          dsimp only at hbody
          rw [hwait] at hbody
          cases hbody
          refine ⟨(begins.goesOn.trans waits.goesOn).record _,
            begins.undisturbed.of_eq waits.interventions_eq ?_⟩
          rintro ⟨_, hnow⟩
          cases ready with
          | true => exact .ready hnumber (waits.found rfl)
          | false =>
              rcases waits.gaveUp rfl _ rfl with ⟨hlast, hnot⟩
              refine .gaveUp hnumber ?_ ?_
              · change waited.now = _
                rw [hlast, hnow]
              · change (waited.socket? number).any (Socket.isReady direction waited.now) = false
                rw [hlast]
                exact hnot

/-!
# Waiting inside a call
-/

inductive Blocks (s : System) (number : Nat) (ready : Nat -> Socket -> Bool) (dontWait : Bool)
    (limit : WaitLimit) (after : System) : Except Errno Unit -> Prop where
  | ready (hready : (after.socket? number).any (ready after.now) = true) :
      Blocks s number ready dontWait limit after (.ok ())
  | forever (hlimit : limitOf limit = none) :
      Blocks s number ready dontWait limit after (.error .deadlock)
  | notReady
      (hlimited : dontWait = true ∨ limitOf limit ≠ none)
      (hnot : (after.socket? number).any (ready after.now) = false) :
      Blocks s number ready dontWait limit after (.error .wouldBlock)

theorem block_blocks {ready : Nat -> Socket -> Bool}
    (hready : Socket.FollowsConnecting ready)
    {dontWait : Bool} {limit : WaitLimit} {answer : Except Errno Unit}
    (hsettled : s.IsSettled)
    (h : s.block number ready dontWait limit = (answer, after)) :
    s.GoesOn after ∧ after.interventions = s.interventions ∧
      s.Blocks number ready dontWait limit after answer := by
  unfold block at h
  split at h
  next hdontWait =>
      split at h
      next hnow =>
          cases h
          exact ⟨GoesOn.refl s, rfl, .ready hnow⟩
      next hnot =>
          cases h
          exact ⟨GoesOn.refl s, rfl, .notReady (.inl hdontWait) (Bool.eq_false_iff.mpr hnot)⟩
  next =>
      cases hlimit : limitOf limit with
      | none =>
          rw [hlimit] at h
          have waits := wait_waits hready hsettled number none (by simp)
          rcases hwait : s.wait number ready none with ⟨found, waited⟩
          rw [hwait] at waits h
          cases h
          refine ⟨waits.goesOn, waits.interventions_eq, ?_⟩
          cases found with
          | true => exact .ready (waits.found rfl)
          | false => exact .forever hlimit
      | some time =>
          rw [hlimit] at h
          have waits := wait_waits_for hready hsettled number time
          dsimp only at h
          rcases hwait : s.wait number ready (some (s.now + time)) with ⟨found, waited⟩
          rw [hwait] at waits h
          cases h
          refine ⟨waits.goesOn, waits.interventions_eq, ?_⟩
          cases found with
          | true => exact .ready (waits.found rfl)
          | false =>
              rcases waits.gaveUp rfl _ rfl with ⟨hlast, hnot⟩
              refine .notReady (.inr ?_) (hlast ▸ hnot)
              rw [hlimit]
              exact Option.some_ne_none time

/-!
# Sending
-/

def Decides : Except Errno Nat -> Prop
  | .ok _ => True
  | .error errno => errno.kind ≠ .interrupted ∧ errno.kind ≠ .wouldBlock

theorem block_canSend {socket : Socket} {dontWait : Bool} {answer : Except Errno Unit}
    (hsettled : s.IsSettled)
    (hsocket : s.socket? number = some socket)
    (hmay : socket.MaySend s.now dontWait)
    (h : s.block number Socket.canSend (socket.nonblocking || dontWait) socket.sendLimit =
      (answer, after)) :
    answer = .ok () ∨ answer = .error .deadlock := by
  rcases block_blocks Socket.followsConnecting_canSend hsettled h with ⟨goesOn, _, blocks⟩
  cases blocks with
  | ready hready => exact .inl rfl
  | forever hlimit => exact .inr rfl
  | notReady hlimited hnot =>
      exfalso
      rcases hmay with hroom | ⟨hdontWait, hnonblocking, hlimit⟩
      · rcases goesOn.socket hsocket (Socket.lasting_canSend s.now) hroom with
          ⟨eased, heased, hkept⟩
        rw [heased, Option.any_some, Socket.canSend_of_le goesOn.now_le hkept] at hnot
        cases hnot
      · rw [hdontWait, hnonblocking, hlimit] at hlimited
        simp at hlimited

structure Sends (s : System) (d : Descriptor) (dontWait : Bool) (answer : Except Errno Nat)
    (after : System) : Prop where
  now_le : s.now ≤ after.now
  descriptors_eq : after.descriptors = s.descriptors
  keeps : forall number, s.Has number Socket.WaitsForRoom -> after.Has number Socket.WaitsForRoom
  ends : s.Undisturbed after
    ((forall number, s.socketOf d = some number ->
      s.Has number fun socket => socket.MaySend s.now dontWait) -> Decides answer)

theorem Sends.socketOf_eq {dontWait : Bool} {answer : Except Errno Nat}
    (h : s.Sends d dontWait answer after)
    (other : Descriptor) :
    after.socketOf other = s.socketOf other := by
  rw [socketOf, h.descriptors_eq, socketOf]

theorem GoesOn.sends {dontWait : Bool} {answer : Except Errno Nat}
    (h : s.GoesOn after)
    (hends : s.Undisturbed after
      ((forall number, s.socketOf d = some number ->
        s.Has number fun socket => socket.MaySend s.now dontWait) -> Decides answer)) :
    s.Sends d dontWait answer after where
  now_le := h.now_le
  descriptors_eq := h.descriptors_eq
  keeps number := h.keeps number _ Socket.lasting_waitsForRoom
  ends := hends

theorem Sends.taken {dontWait : Bool} {answer : Except Errno Nat} {f : Socket -> Socket}
    (h : s.Sends d dontWait answer after)
    (entry : Entry)
    (hf : forall socket, socket.WaitsForRoom -> (f socket).WaitsForRoom) :
    s.Sends d dontWait answer ((after.update number f).record entry) where
  now_le := Nat.le_trans h.now_le (Nat.le_of_eq (now_update f).symm)
  descriptors_eq := (descriptors_update f).trans h.descriptors_eq
  keeps other hother := (h.keeps other hother).update_keeps hf
  ends := h.ends.of_eq (interventions_update f) id

theorem send_sends {bytes : List UInt8} {quiet dontWait : Bool} {answer : Except Errno Nat}
    (h : s.send d bytes quiet dontWait = (answer, after)) :
    s.Sends d dontWait answer after := by
  cases onSocket_handles h with
  | unknown hnumber => exact (GoesOn.refl s).sends (.inr ⟨rfl, fun _ => ⟨by decide, by decide⟩⟩)
  | demanded hnumber begins hfailure =>
      refine (begins.goesOn.record _).sends (begins.undisturbed.of_eq rfl ?_)
      rintro ⟨hnone, _⟩
      rw [hnone] at hfailure
      cases hfailure
  | missing hnumber begins =>
      refine (begins.goesOn.record _).sends (begins.undisturbed.of_eq rfl ?_)
      exact fun _ _ => ⟨by decide, by decide⟩
  | @done number intervention begun ended entry socket result hnumber begins hsocket hbody =>
      -- The socket may still send when the call has begun.
      have hends {answer : Except Errno Nat} {ended : System}
          (hsame : ended.interventions = begun.interventions)
          (hdecides : socket.MaySend begun.now dontWait -> Decides answer) :
          s.Undisturbed ended
            ((forall number, s.socketOf d = some number ->
              s.Has number fun socket => socket.MaySend s.now dontWait) -> Decides answer) := by
        apply begins.undisturbed.of_eq hsame
        rintro ⟨_, hnow⟩ hmay
        apply hdecides
        rw [hnow]
        exact begins.goesOn.keeps number _ (Socket.lasting_maySend s.now dontWait)
          (hmay number hnumber) socket hsocket
      split at hbody
      next =>
          cases hbody
          exact (begins.goesOn.record _).sends (hends rfl fun _ => ⟨by decide, by decide⟩)
      next =>
          split at hbody
          next =>
              cases hbody
              exact (begins.goesOn.record _).sends (hends rfl fun _ => trivial)
          next =>
              rcases hblock : begun.block number Socket.canSend (socket.nonblocking || dontWait)
                socket.sendLimit with ⟨waited, eased⟩
              rw [hblock] at hbody
              rcases block_blocks Socket.followsConnecting_canSend begins.isSettled hblock with
                ⟨goesOn, hsame, _⟩
              have hgoesOn := begins.goesOn.trans goesOn
              have decided {answer : Except Errno Nat} {entry : Entry} (h : Decides answer) :
                  s.Sends d dontWait answer (eased.record entry) :=
                (hgoesOn.record _).sends (hends hsame fun _ => h)
              rcases waited with errno | _
              · cases hbody
                apply (hgoesOn.record _).sends (hends hsame _)
                intro hmay
                rcases block_canSend begins.isSettled hsocket hmay hblock with hready | hnever
                · cases hready
                · cases hnever
                  exact ⟨by decide, by decide⟩
              · dsimp only at hbody
                cases heased : eased.socket? number with
                | none =>
                    rw [heased] at hbody
                    cases hbody
                    exact decided ⟨by decide, by decide⟩
                | some ready =>
                    rw [heased] at hbody
                    dsimp only at hbody
                    split at hbody
                    next =>
                        cases hbody
                        exact decided ⟨by decide, by decide⟩
                    next =>
                        cases hbody
                        refine Sends.taken (hgoesOn.sends (hends hsame ?_)) _ fun _ hwaits => hwaits
                        exact fun _ => trivial

/-!
# A full socket that does not wait
-/

/-- The socket is full, the peer is still there, and nobody waits for room. -/
structure Jams (s : System) (d : Descriptor) : Prop where
  interventions_eq : s.interventions = []
  isSettled : s.IsSettled
  full : exists number socket, s.socketOf d = some number ∧ s.socket? number = some socket ∧
    socket.nonblocking = true ∧ socket.gone = false ∧ socket.writeShut = false ∧
    socket.canSend s.now = false

theorem Jams.send
    (h : s.Jams d)
    {bytes : List UInt8}
    (hbytes : bytes ≠ [])
    (quiet dontWait : Bool) :
    exists after,
      s.send d bytes quiet dontWait = (.error .wouldBlock, after) ∧ after.Jams d ∧
      after.now = s.now ∧ after.sockets = s.sockets := by
  rcases h.full with ⟨number, socket, hnumber, hsocket, hnonblocking, hgone, hshut, hfull⟩
  have hempty : bytes.isEmpty = false := by simpa using hbytes
  have hsend : s.send d bytes quiet dontWait =
      s.finish .send number [.number bytes.length, .flag quiet, .flag dontWait]
        (.error .wouldBlock) := by
    simp only [System.send, onSocket, hnumber, draw_eq h.isSettled h.interventions_eq, hsocket,
      hgone, hshut, hempty, hnonblocking, block, Option.any_some, hfull, Bool.or_self,
      Bool.true_or, Bool.false_eq_true, if_true, if_false]
  exact ⟨_, hsend, ⟨h.interventions_eq, h.isSettled, h.full⟩, rfl, rfl⟩

end System
end Virtual
end ServiceSocket
