import ServiceSocket.Proofs.Deadline.Clock
import ServiceSocket.Proofs.Failure.Reports
import ServiceSocket.Proofs.Kernel.Recording

/-!
# The rounds of a wait

A wait goes round: it reads the clock and polls for what is left until the deadline.  An
interruption and an early end only lead to another round, so the last poll decides how the
wait ends, unless the clock does.
-/

namespace ServiceSocket

open Program

/-!
# Polls
-/

namespace Event

def polled? : Event -> Option (Except Errno Nat)
  | ⟨.poll _ _ _, answer⟩ => some answer
  | _ => none

end Event

def polls (events : List Event) : List (Except Errno Nat) :=
  events.filterMap Event.polled?

def lastPoll? (events : List Event) : Option (Except Errno Nat) :=
  (polls events).getLast?

namespace Readiness

/-- The time of a poll covers the time left and goes beyond it by a millisecond at most.  When
no poll can be that long it is the longest one. -/
structure Covers (left : Int) (milliseconds : Nat) : Prop where
  pos : 1 ≤ milliseconds
  le_longest : milliseconds ≤ 2 ^ 31 - 1
  covers : left < milliseconds * 10 ^ 6 ∧ milliseconds * 10 ^ 6 ≤ left + 10 ^ 6 ∨
    milliseconds = 2 ^ 31 - 1 ∧ (2 ^ 31 - 1) * 10 ^ 6 ≤ left

theorem covers_pollTime (left : Duration) : Covers left.nanoseconds (pollTime left) := by
  have hquotient := Nat.div_add_mod left.nanoseconds 1_000_000
  have hrest := Nat.mod_lt left.nanoseconds (y := 1_000_000) (by decide)
  unfold pollTime Duration.milliseconds longestPoll
  constructor
  · omega
  · omega
  · omega

theorem covers_of_until?_eq_some {reading deadline : Instant} {left : Duration}
    (h : reading.until? deadline = some left) :
    reading.nanoseconds < deadline.nanoseconds ∧
      Covers (deadline.nanoseconds - reading.nanoseconds) (pollTime left) := by
  rcases Instant.left_of_until?_eq_some h with ⟨hbefore, hleft⟩
  have hcovers := covers_pollTime left
  rw [hleft] at hcovers
  exact ⟨hbefore, hcovers⟩

/-!
# Rounds
-/

inductive Rounds (d : Descriptor) (direction : Direction) (deadline : Instant) :
    Nat -> List Event -> Outcome (Except Error Unit) -> Prop where
  | spent : Rounds d direction deadline 0 [] (.halted .outOfPatience)
  | late {patience : Nat} {reading : Instant} (hlate : reading.until? deadline = none) :
      Rounds d direction deadline (patience + 1) [⟨.now, reading⟩] (.returned (.error .timeout))
  | ready {patience : Nat} {reading : Instant} {left : Duration} {count : Nat}
      (hleft : reading.until? deadline = some left) :
      Rounds d direction deadline (patience + 1)
        [⟨.now, reading⟩, ⟨.poll d direction (pollTime left), .ok (count + 1)⟩]
        (.returned (.ok ()))
  | failed {patience : Nat} {reading : Instant} {left : Duration} {errno : Errno}
      (hleft : reading.until? deadline = some left)
      (hkind : errno.kind ≠ .interrupted) :
      Rounds d direction deadline (patience + 1)
        [⟨.now, reading⟩, ⟨.poll d direction (pollTime left), .error errno⟩]
        (.returned (.error (.ofErrno errno)))
  | expired {patience : Nat} {reading later : Instant} {left : Duration}
      (hleft : reading.until? deadline = some left)
      (hlate : later.until? deadline = none) :
      Rounds d direction deadline (patience + 1)
        [⟨.now, reading⟩, ⟨.poll d direction (pollTime left), .ok 0⟩, ⟨.now, later⟩]
        (.returned (.error .timeout))
  | interrupted {patience : Nat} {reading : Instant} {left : Duration} {errno : Errno}
      {events : List Event} {outcome : Outcome (Except Error Unit)}
      (hleft : reading.until? deadline = some left)
      (hkind : errno.kind = .interrupted)
      (rest : Rounds d direction deadline patience events outcome) :
      Rounds d direction deadline (patience + 1)
        (⟨.now, reading⟩ :: ⟨.poll d direction (pollTime left), .error errno⟩ :: events) outcome
  | early {patience : Nat} {reading later : Instant} {left more : Duration}
      {events : List Event} {outcome : Outcome (Except Error Unit)}
      (hleft : reading.until? deadline = some left)
      (hmore : later.until? deadline = some more)
      (rest : Rounds d direction deadline patience events outcome) :
      Rounds d direction deadline (patience + 1)
        (⟨.now, reading⟩ :: ⟨.poll d direction (pollTime left), .ok 0⟩ :: ⟨.now, later⟩ :: events)
        outcome

variable {d : Descriptor} {direction : Direction} {deadline : Instant} {patience : Nat}
  {events : List Event} {outcome : Outcome (Except Error Unit)}

theorem rounds_of_branch
    (branch : Branch (pollUntil d direction deadline patience).run events outcome) :
    Rounds d direction deadline patience events outcome := by
  induction patience generalizing events outcome with
  | zero =>
      cases branch
      exact .spent
  | succ patience ih =>
      refine (Attempt.meets_recorder_iff (P := Rounds d direction deadline (patience + 1))
        (s := [])).mp ?_ events outcome branch
      simp only [pollUntil_succ_meets_iff, Monitor.allowed_and_iff]
      intro reading begun hbegun
      rw [hbegun]
      cases hleft : reading.until? deadline with
      | none => exact .late hleft
      | some left =>
          intro answer polled hpolled
          rw [hpolled]
          rcases answer with errno | count | count
          · dsimp only
            split
            next hkind =>
                apply Attempt.meets_recorder_iff.mpr
                intro events outcome branch
                exact .interrupted hleft hkind (ih branch)
            next hkind => exact .failed hleft hkind
          · intro later read hread
            rw [hread]
            cases hmore : later.until? deadline with
            | none => exact .expired hleft hmore
            | some more =>
                apply Attempt.meets_recorder_iff.mpr
                intro events outcome branch
                exact .early hleft hmore (ih branch)
          · exact .ready hleft

/-!
# The last poll decides
-/

/-- A poll that is answered so leads to another round, and so does none at all. -/
def LeavesOpen : Option (Except Errno Nat) -> Prop
  | none => True
  | some (.ok count) => count = 0
  | some (.error errno) => errno = .interrupted

inductive Verdict (deadline : Instant) (events : List Event) :
    Outcome (Except Error Unit) -> Prop where
  | ready {count : Nat} (hlast : lastPoll? events = some (.ok (count + 1))) :
      Verdict deadline events (.returned (.ok ()))
  | failed {errno : Errno}
      (hlast : lastPoll? events = some (.error errno))
      (herrno : errno ≠ .interrupted) :
      Verdict deadline events (.returned (.error (.ofErrno errno)))
  | timedOut (before : List Event) {reading : Instant}
      (hlast : LeavesOpen (lastPoll? events))
      (hevents : events = before ++ [⟨.now, reading⟩])
      (hlate : deadline.nanoseconds ≤ reading.nanoseconds) :
      Verdict deadline events (.returned (.error .timeout))
  | spent (hlast : LeavesOpen (lastPoll? events)) :
      Verdict deadline events (.halted .outOfPatience)

theorem lastPoll?_cons_poll {time : Nat} {answer : Except Errno Nat} :
    lastPoll? (⟨.poll d direction time, answer⟩ :: events) =
      some ((lastPoll? events).getD answer) :=
  List.getLast?_cons

theorem leavesOpen_getD {answer : Except Errno Nat} {last : Option (Except Errno Nat)}
    (hanswer : LeavesOpen (some answer))
    (hlast : LeavesOpen last) :
    LeavesOpen (some (last.getD answer)) := by
  cases last with
  | none => exact hanswer
  | some answer => exact hlast

namespace Verdict

theorem cons_now
    (h : Verdict deadline events outcome)
    (reading : Instant) :
    Verdict deadline (⟨.now, reading⟩ :: events) outcome := by
  cases h with
  | ready hlast => exact .ready hlast
  | failed hlast herrno => exact .failed hlast herrno
  | timedOut before hlast hevents hlate =>
      refine .timedOut (⟨.now, reading⟩ :: before) hlast ?_ hlate
      rw [hevents, List.cons_append]
  | spent hlast => exact .spent hlast

theorem cons_poll
    (h : Verdict deadline events outcome)
    (time : Nat) {answer : Except Errno Nat}
    (hanswer : LeavesOpen (some answer)) :
    Verdict deadline (⟨.poll d direction time, answer⟩ :: events) outcome := by
  have hopen (hlast : LeavesOpen (lastPoll? events)) :
      LeavesOpen (lastPoll? (⟨.poll d direction time, answer⟩ :: events)) := by
    rw [lastPoll?_cons_poll]
    exact leavesOpen_getD hanswer hlast
  cases h with
  | ready hlast =>
      apply Verdict.ready
      rw [lastPoll?_cons_poll, hlast]
      rfl
  | failed hlast herrno =>
      apply Verdict.failed _ herrno
      rw [lastPoll?_cons_poll, hlast]
      rfl
  | timedOut before hlast hevents hlate =>
      refine .timedOut (⟨.poll d direction time, answer⟩ :: before) (hopen hlast) ?_ hlate
      rw [hevents, List.cons_append]
  | spent hlast => exact .spent (hopen hlast)

end Verdict

namespace Rounds

theorem verdict
    (h : Rounds d direction deadline patience events outcome) :
    Verdict deadline events outcome := by
  induction h with
  | spent => exact .spent trivial
  | @late patience reading hlate =>
      exact .timedOut [] trivial rfl (le_of_until?_eq_none hlate)
  | ready hleft => exact .ready rfl
  | failed hleft hkind => exact .failed rfl (mt Errno.kind_eq_interrupted_iff.mpr hkind)
  | @expired patience reading later left hleft hlate =>
      exact .timedOut [⟨.now, reading⟩, ⟨.poll d direction (pollTime left), .ok 0⟩]
        rfl rfl (le_of_until?_eq_none hlate)
  | interrupted hleft hkind rest ih =>
      apply (ih.cons_poll _ _).cons_now
      exact Errno.kind_eq_interrupted_iff.mp hkind
  | early hleft hmore rest ih =>
      apply ((ih.cons_now _).cons_poll _ _).cons_now
      rfl

theorem length_polls {reason : Halt}
    (h : Rounds d direction deadline patience events (.halted reason)) :
    (polls events).length = patience := by
  generalize hend : Outcome.halted reason = outcome at h
  induction h with
  | spent => rfl
  | interrupted hleft hkind rest ih => exact congrArg Nat.succ (ih hend)
  | early hleft hmore rest ih => exact congrArg Nat.succ (ih hend)
  | late hlate => cases hend
  | ready hleft => cases hend
  | failed hleft hkind => cases hend
  | expired hleft hlate => cases hend

/-!
# Every call has its place
-/

/-- Between which events of a wait an event may stand. -/
def Places (d : Descriptor) (direction : Direction) (deadline : Instant) (before : List Event)
    (event : Event) (after : List Event) : Prop :=
  (exists reading, event = ⟨.now, reading⟩ ∧ (reading.until? deadline = none -> after = [])) ∨
    exists earlier reading left answer, before = earlier ++ [⟨.now, reading⟩] ∧
      reading.until? deadline = some left ∧
      event = ⟨.poll d direction (pollTime left), answer⟩

theorem Places.append {before after : List Event} {event : Event}
    (h : Places d direction deadline before event after)
    (first : List Event) :
    Places d direction deadline (first ++ before) event after := by
  rcases h with hread | ⟨earlier, reading, left, answer, hbefore, hpoll⟩
  · exact .inl hread
  · refine .inr ⟨first ++ earlier, reading, left, answer, ?_, hpoll⟩
    rw [hbefore, List.append_assoc]

theorem places
    (h : Rounds d direction deadline patience events outcome)
    {before : List Event} {event : Event} {after : List Event}
    (hevents : events = before ++ event :: after) :
    Places d direction deadline before event after := by
  have read {reading : Instant} {left : Duration} {before after : List Event}
      (hleft : reading.until? deadline = some left) :
      Places d direction deadline before ⟨.now, reading⟩ after := by
    refine .inl ⟨reading, rfl, ?_⟩
    intro hlate
    rw [hleft] at hlate
    cases hlate
  have polled {reading : Instant} {left : Duration} {answer : Except Errno Nat}
      {after : List Event} (hleft : reading.until? deadline = some left) :
      Places d direction deadline [⟨.now, reading⟩]
        ⟨.poll d direction (pollTime left), answer⟩ after :=
    .inr ⟨[], reading, left, answer, rfl, hleft, rfl⟩
  induction h generalizing before with
  | spent => simp at hevents
  | late hlate =>
      rcases before with _ | ⟨_, before⟩
      · cases hevents
        exact .inl ⟨_, rfl, fun _ => rfl⟩
      · simp at hevents
  | ready hleft | failed hleft hkind =>
      rcases before with _ | ⟨_, _ | ⟨_, before⟩⟩
      · cases hevents
        exact read hleft
      · cases hevents
        exact polled hleft
      · simp at hevents
  | expired hleft hlate =>
      rcases before with _ | ⟨_, _ | ⟨_, _ | ⟨_, before⟩⟩⟩
      · cases hevents
        exact read hleft
      · cases hevents
        exact polled hleft
      · cases hevents
        exact .inl ⟨_, rfl, fun _ => rfl⟩
      · simp at hevents
  | interrupted hleft hkind rest ih =>
      rcases before with _ | ⟨_, _ | ⟨_, before⟩⟩
      · cases hevents
        exact read hleft
      · cases hevents
        exact polled hleft
      · cases hevents
        exact (ih rfl).append [_, _]
  | early hleft hmore rest ih =>
      rcases before with _ | ⟨_, _ | ⟨_, _ | ⟨_, before⟩⟩⟩
      · cases hevents
        exact read hleft
      · cases hevents
        exact polled hleft
      · cases hevents
        exact read hmore
      · cases hevents
        exact (ih rfl).append [_, _, _]

end Rounds

/-!
# Waiting
-/

/-- What can be said of a wait with a deadline on any system. -/
structure Awaits (d : Descriptor) (direction : Direction) (deadline : Instant) (patience : Nat)
    (events : List Event) (outcome : Outcome (Except Error Unit)) : Prop where
  ready_iff : outcome = .returned (.ok ()) <->
    exists count, lastPoll? events = some (.ok (count + 1))
  failed_iff : forall errno, outcome = .returned (.error (.io (.os errno))) <->
    lastPoll? events = some (.error errno) ∧ errno ≠ .interrupted
  /-- The last thing done before a timeout is to read the clock. -/
  timedOut : outcome = .returned (.error .timeout) ->
    exists before reading, events = before ++ [⟨.now, reading⟩] ∧
      deadline.nanoseconds ≤ reading.nanoseconds
  /-- There is no other way to end than these and that the patience is used up. -/
  ends : outcome = .returned (.ok ()) ∨ outcome = .returned (.error .timeout) ∨
    (exists errno, outcome = .returned (.error (.io (.os errno)))) ∨
    outcome = .halted .outOfPatience ∧ (polls events).length = patience
  /-- Once the deadline has come nothing more is done. -/
  late : forall before reading after, events = before ++ ⟨.now, reading⟩ :: after ->
    deadline.nanoseconds ≤ reading.nanoseconds -> after = []
  /-- The clock is read just before each poll, which covers the time that is left. -/
  polls : forall before event after, events = before ++ event :: after -> event.call ≠ .now ->
    exists earlier reading time answer, before = earlier ++ [⟨.now, reading⟩] ∧
      event = ⟨.poll d direction time, answer⟩ ∧
      reading.nanoseconds < deadline.nanoseconds ∧
      Covers (deadline.nanoseconds - reading.nanoseconds) time

theorem Rounds.awaits
    (h : Rounds d direction deadline patience events outcome) :
    Awaits d direction deadline patience events outcome where
  ready_iff := by
    constructor
    · intro hready
      rw [hready] at h
      cases h.verdict with
      | ready hlast => exact ⟨_, hlast⟩
    · rintro ⟨count, hready⟩
      cases h.verdict with
      | ready hlast => rfl
      | failed hlast herrno =>
          rw [hready] at hlast
          cases hlast
      | timedOut _ hlast hevents hlate =>
          rw [hready] at hlast
          cases hlast
      | spent hlast =>
          rw [hready] at hlast
          cases hlast
  failed_iff := by
    intro errno
    constructor
    · intro hfailed
      rw [hfailed] at h
      cases h.verdict with
      | failed hlast herrno => exact ⟨hlast, herrno⟩
    · rintro ⟨hfailed, herrno⟩
      cases h.verdict with
      | ready hlast =>
          rw [hfailed] at hlast
          cases hlast
      | failed hlast =>
          rw [hfailed] at hlast
          cases hlast
          rfl
      | timedOut _ hlast hevents hlate =>
          rw [hfailed] at hlast
          exact absurd hlast herrno
      | spent hlast =>
          rw [hfailed] at hlast
          exact absurd hlast herrno
  timedOut := by
    intro htimeout
    rw [htimeout] at h
    cases h.verdict with
    | timedOut _ hlast hevents hlate => exact ⟨_, _, hevents, hlate⟩
  ends := by
    cases hend : h.verdict with
    | ready hlast => exact .inl rfl
    | timedOut _ hlast hevents hlate => exact .inr (.inl rfl)
    | @failed errno hlast herrno => exact .inr (.inr (.inl ⟨errno, rfl⟩))
    | spent hlast => exact .inr (.inr (.inr ⟨rfl, h.length_polls⟩))
  late := by
    intro before reading after hevents hlate
    rcases h.places hevents with ⟨_, hread, hlast⟩ | ⟨_, _, _, _, _, _, hpoll⟩
    · cases hread
      exact hlast (until?_eq_none hlate)
    · cases hpoll
  polls := by
    intro before event after hevents hcall
    rcases h.places hevents with ⟨_, hread, _⟩ |
      ⟨earlier, reading, left, answer, hbefore, hleft, hpoll⟩
    · rw [hread] at hcall
      exact absurd rfl hcall
    · rcases covers_of_until?_eq_some hleft with ⟨hahead, hcovers⟩
      exact ⟨earlier, reading, pollTime left, answer, hbefore, hpoll, hahead, hcovers⟩

/-- Without a deadline there is nothing to wait for.  With one, what the last poll was
answered with is what the caller is told, unless the deadline has come. -/
theorem wait_tells_last_poll {deadline : Option Instant}
    (branch : Branch (wait d direction deadline patience).run events outcome) :
    (deadline = none -> events = [] ∧ outcome = .returned (.ok ())) ∧
    forall t, deadline = some t -> Awaits d direction t patience events outcome := by
  constructor
  · intro hnone
    rw [hnone] at branch
    cases branch
    exact ⟨rfl, rfl⟩
  · intro t hsome
    rw [hsome] at branch
    exact (rounds_of_branch branch).awaits

/-- A poll is interrupted and one ends early before the deadline comes. -/
theorem wait_tells_last_poll_at_deadline :
    exists events outcome,
      Branch (wait ⟨7⟩ .output (some ⟨1_500_000⟩) 3).run events outcome ∧
      Awaits ⟨7⟩ .output ⟨1_500_000⟩ 3 events outcome ∧
      outcome = .returned (.error .timeout) := by
  have branch : Branch (wait ⟨7⟩ .output (some ⟨1_500_000⟩) 3).run
      [⟨.now, ⟨0⟩⟩, ⟨.poll ⟨7⟩ .output 2, .error .interrupted⟩, ⟨.now, ⟨400_000⟩⟩,
        ⟨.poll ⟨7⟩ .output 2, .ok 0⟩, ⟨.now, ⟨1_400_000⟩⟩, ⟨.now, ⟨1_400_000⟩⟩,
        ⟨.poll ⟨7⟩ .output 1, .ok 0⟩, ⟨.now, ⟨1_500_000⟩⟩] (.returned _) :=
    .call _ _ _ (.call _ _ _ (.call _ _ _ (.call _ _ _ (.call _ _ _ (.call _ _ _
      (.call _ _ _ (.call _ _ _ (.done _))))))))
  exact ⟨_, _, branch, (wait_tells_last_poll branch).2 _ rfl, rfl⟩

end Readiness
end ServiceSocket
