import Mathlib.Algebra.Group.Int.Defs
import Mathlib.Algebra.Group.Nat.Defs
import Mathlib.Algebra.Order.Floor.Div
import ServiceSocket.Proofs.Readiness

/-!
# Time in the course of a program

A poll takes at most the time it is asked for.  Receiving and accepting take none if the
poll just before found the socket ready, sending takes none if it is told not to wait, and
connecting takes any time.  All other calls take none.

A call that waits goes round when it is set back: a poll is interrupted or ends before its
time, or a send is interrupted, finds no room or takes only a part.  Otherwise it goes round
only after a poll as long as polls can be.
-/

namespace ServiceSocket

structure Moment where
  now : Int
  /-- The descriptor that the last call found ready for input. -/
  ready : Option Descriptor
  /-- When connecting was last said to be going on. -/
  pending : Option Instant
  /-- How many calls there were that did not read the clock. -/
  actions : Nat
  setbacks : Nat

def Call.isInstant : Call -> Bool
  | .poll _ _ _ | .receive _ _ | .accept _ | .send _ _ _ _ | .connect _ _ => false
  | _ => true

def Event.isAction (event : Event) : Bool :=
  event.call ≠ .now

/-- Whether a call that took so much time was set back. -/
def Event.isSetback (time : Int) : Event -> Bool
  | ⟨.poll _ _ _, .error errno⟩ => errno.kind = .interrupted
  | ⟨.poll _ _ milliseconds, .ok 0⟩ => time < milliseconds * 10 ^ 6
  | ⟨.send _ _ _ _, .error errno⟩ => errno.kind = .interrupted ∨ errno.kind = .wouldBlock
  | ⟨.send _ bytes _ _, .ok count⟩ => count < bytes.length
  | _ => false

theorem Event.isSetback_of_isInstant {event : Event}
    (h : event.call.isInstant = true)
    (time : Int) :
    event.isSetback time = false := by
  rcases event with ⟨c, answer⟩
  cases c <;> first | rfl | cases h

namespace Moment

def start (now : Int) : Moment :=
  ⟨now, none, none, 0, 0⟩

def MayTake (s : Moment) (time : Int) : Call -> Prop
  | .poll _ _ milliseconds => time ≤ milliseconds * 10 ^ 6
  | .receive d _ | .accept d => s.ready = some d -> time = 0
  | .send _ _ _ dontWait => dontWait = true -> time = 0
  | .connect _ _ => True
  | _ => time = 0

def Shows (s : Moment) : Event -> Prop
  | ⟨.now, reading⟩ => reading = ⟨s.now⟩
  | _ => True

def readyAfter : Event -> Option Descriptor
  | ⟨.poll d .input _, .ok (_ + 1)⟩ => some d
  | _ => none

def pendingAfter (s : Moment) (now : Int) : Event -> Option Instant
  | ⟨.connect _ _, .error errno⟩ => if errno = .inProgress then some ⟨now⟩ else s.pending
  | _ => s.pending

/-- The time goes on in the course of a call as the call lets it. -/
structure Passes (s : Moment) (event : Event) (after : Moment) : Prop where
  forward : s.now ≤ after.now
  takes : s.MayTake (after.now - s.now) event.call
  shows : s.Shows event
  ready_eq : after.ready = readyAfter event
  pending_eq : after.pending = s.pendingAfter after.now event
  actions_eq : after.actions = s.actions + event.isAction.toNat
  setbacks_eq : after.setbacks = s.setbacks + (event.isSetback (after.now - s.now)).toNat

theorem passes_of_mayTake {s : Moment} {event : Event} (time : Nat)
    (htakes : s.MayTake time event.call)
    (hshows : s.Shows event) :
    s.Passes event ⟨s.now + time, readyAfter event, s.pendingAfter (s.now + time) event,
      s.actions + event.isAction.toNat, s.setbacks + (event.isSetback time).toNat⟩ := by
  have htime : s.now + time - s.now = (time : Int) := by omega
  refine ⟨Int.le_add_of_nonneg_right (Int.natCast_nonneg time), ?_, hshows, rfl, rfl, rfl, ?_⟩
  · dsimp only
    rw [htime]
    exact htakes
  · dsimp only
    rw [htime]

structure Stands (s after : Moment) : Prop where
  now_eq : after.now = s.now
  pending_eq : after.pending = s.pending
  setbacks_eq : after.setbacks = s.setbacks

theorem Stands.trans {s mid after : Moment}
    (first : s.Stands mid)
    (second : mid.Stands after) :
    s.Stands after :=
  ⟨second.now_eq.trans first.now_eq, second.pending_eq.trans first.pending_eq,
    second.setbacks_eq.trans first.setbacks_eq⟩

end Moment

def clock : Monitor Moment where
  step := Moment.Passes
  allowed _ _ := True

instance : clock.Follows := ⟨fun _ _ => trivial⟩

namespace clock

variable {s after last : Moment} {events : List Event}

theorem actions_eq
    (path : clock.Path s events last) :
    last.actions = s.actions + events.countP Event.isAction := by
  induction path with
  | nil s => rfl
  | @cons s mid last event events first rest ih =>
      have hfirst : mid.actions = s.actions + event.isAction.toNat := first.actions_eq
      have hhead : event.isAction.toNat = if event.isAction = true then 1 else 0 := by
        cases event.isAction <;> rfl
      rw [ih, hfirst, List.countP_cons, hhead]
      omega

theorem step_instant {event : Event}
    (step : clock.step s event after)
    (hinstant : event.call.isInstant = true) :
    s.Stands after := by
  rcases step with ⟨_, takes, _, _, pending_eq, _, setbacks_eq⟩
  rw [Event.isSetback_of_isInstant hinstant] at setbacks_eq
  rcases event with ⟨c, answer⟩
  refine ⟨?_, ?_, setbacks_eq⟩
  · cases c <;> first | exact Int.sub_eq_zero.mp takes | cases hinstant
  · cases c <;> first | exact pending_eq | cases hinstant

theorem step_now {reading : Instant}
    (step : clock.step s ⟨.now, reading⟩ after) :
    reading = ⟨s.now⟩ ∧ s.Stands after :=
  ⟨step.shows, step_instant step rfl⟩

end clock

/-!
# Waiting in time
-/

theorem Instant.left_of_until?_eq_some {now deadline : Instant} {left : Duration}
    (h : now.until? deadline = some left) :
    now.nanoseconds < deadline.nanoseconds ∧
      (left.nanoseconds : Int) = deadline.nanoseconds - now.nanoseconds := by
  unfold until? at h
  split at h
  next hbefore =>
      cases h
      exact ⟨hbefore, Int.toNat_of_nonneg (Int.sub_nonneg_of_le (Int.le_of_lt hbefore))⟩
  next => cases h

namespace Readiness

variable {d : Descriptor} {direction : Direction} {deadline : Instant} {s : Moment}

theorem pollTime_le {now after : Int} {left : Duration}
    (hleft : (Instant.mk now).until? deadline = some left)
    (htime : after - now ≤ (pollTime left : Int) * 10 ^ 6) :
    after ≤ deadline.nanoseconds + 10 ^ 6 := by
  have hpoll : pollTime left ≤ left.nanoseconds / 10 ^ 6 + 1 := Nat.min_le_left _ _
  have hround : left.nanoseconds / 10 ^ 6 * 10 ^ 6 ≤ left.nanoseconds := Nat.div_mul_le_self _ _
  have hrest : (left.nanoseconds : Int) = deadline.nanoseconds - now :=
    (Instant.left_of_until?_eq_some hleft).2
  omega

theorem le_of_until?_eq_none {now : Int}
    (h : (Instant.mk now).until? deadline = none) : deadline.nanoseconds ≤ now := by
  unfold Instant.until? at h
  split at h
  next => cases h
  next hafter => exact Int.not_lt.mp hafter

theorem until?_eq_none {now : Int}
    (h : deadline.nanoseconds ≤ now) : (Instant.mk now).until? deadline = none :=
  if_neg (Int.not_lt.mpr h)

theorem nanoseconds_of_after? {t : Instant} {timeout : Duration}
    (h : t.after? timeout = some deadline) :
    deadline.nanoseconds = t.nanoseconds + timeout.nanoseconds := by
  unfold Instant.after? at h
  dsimp only at h
  split at h
  next =>
      cases h
      rfl
  next => cases h

theorem cause_ofErrno_ne {errno : Errno} : (Error.ofErrno errno).cause ≠ .timeout := by
  intro h
  cases h

/-!
# Stretches of time
-/

/-- How many stretches as long as the longest poll it takes to come to a deadline; the last one
need not be used up. -/
def stretches (deadline : Instant) (now : Int) : Nat :=
  (deadline.nanoseconds - now).toNat ⌈/⌉ (longestPoll * 1_000_000)

theorem stretches_le (deadline : Instant) {now later : Int}
    (h : now ≤ later) : stretches deadline later ≤ stretches deadline now :=
  (gc_smul_ceilDiv (by decide)).monotone_l (by omega)

theorem stretches_pos {now : Int} {left : Duration}
    (hleft : (Instant.mk now).until? deadline = some left) :
    0 < stretches deadline now := by
  have hahead := (Instant.left_of_until?_eq_some hleft).1
  dsimp only at hahead
  unfold stretches
  rw [Nat.ceilDiv_eq_add_pred_div]
  exact Nat.div_pos (by omega) (by decide)

/-- When a poll has taken its time and the deadline has still not come, the poll was as long as
polls can be. -/
theorem pollTime_eq_longestPoll {now later : Int} {left : Duration}
    (hleft : (Instant.mk now).until? deadline = some left)
    (hlater : now + pollTime left * 1_000_000 ≤ later)
    (hmore : later < deadline.nanoseconds) :
    pollTime left = longestPoll := by
  have hrest : (left.nanoseconds : Int) = deadline.nanoseconds - now :=
    (Instant.left_of_until?_eq_some hleft).2
  have hquotient := Nat.div_add_mod left.nanoseconds 1_000_000
  have hremainder := Nat.mod_lt left.nanoseconds (y := 1_000_000) (by decide)
  unfold pollTime Duration.milliseconds at *
  omega

theorem stretches_lt {now later : Int} {left more : Duration}
    (hleft : (Instant.mk now).until? deadline = some left)
    (hlater : now + pollTime left * 1_000_000 ≤ later)
    (hmore : (Instant.mk later).until? deadline = some more) :
    stretches deadline later < stretches deadline now := by
  have hahead := (Instant.left_of_until?_eq_some hmore).1
  dsimp only at hahead
  rw [pollTime_eq_longestPoll hleft hlater hahead] at hlater
  unfold stretches
  rw [Nat.ceilDiv_eq_add_pred_div, Nat.ceilDiv_eq_add_pred_div]
  unfold longestPoll at *
  omega

end Readiness

/-!
# Progress
-/

namespace Moment

open Readiness

variable {s after : Moment} {deadline : Instant}

/-- The setbacks so far less the stretches that are left until the deadline.  No call lowers this,
and every round of a wait raises it. -/
def progress (deadline : Instant) (s : Moment) : Int :=
  s.setbacks - stretches deadline s.now

theorem Stands.progress_eq
    (h : s.Stands after) : after.progress deadline = s.progress deadline := by
  rw [progress, progress, h.now_eq, h.setbacks_eq]

theorem progress_le {event : Event}
    (step : clock.step s event after) :
    s.progress deadline ≤ after.progress deadline := by
  have hsetbacks := step.setbacks_eq
  have hstretches := stretches_le deadline step.forward
  unfold progress
  omega

theorem progress_lt_of_isSetback {event : Event}
    (step : clock.step s event after)
    (h : event.isSetback (after.now - s.now) = true) :
    s.progress deadline < after.progress deadline := by
  have hsetbacks := step.setbacks_eq
  have hstretches := stretches_le deadline step.forward
  rw [h] at hsetbacks
  unfold progress
  rw [hsetbacks, Bool.toNat_true]
  omega

/-- A poll that finds nothing before the deadline is set back or takes a whole stretch. -/
theorem progress_lt_of_early {d : Descriptor} {direction : Direction} {left more : Duration}
    (hleft : (Instant.mk s.now).until? deadline = some left)
    (step : clock.step s ⟨.poll d direction (pollTime left), .ok 0⟩ after)
    (hmore : (Instant.mk after.now).until? deadline = some more) :
    s.progress deadline < after.progress deadline := by
  by_cases hearly : after.now - s.now < pollTime left * 10 ^ 6
  · exact progress_lt_of_isSetback step (decide_eq_true hearly)
  · have hsetbacks := step.setbacks_eq
    have hstretches := stretches_lt hleft (by omega) hmore
    unfold progress
    omega

structure Within (deadline : Instant) (latest : Int) (pending : Option Instant) (made : Int)
    (s : Moment) : Prop where
  now_le : s.now ≤ latest
  pending_eq : s.pending = pending
  made_le : made ≤ s.progress deadline

theorem Within.stands {latest : Int} {pending : Option Instant} {made : Int}
    (hs : s.Within deadline latest pending made)
    (h : s.Stands after) :
    after.Within deadline latest pending made := by
  refine ⟨?_, h.pending_eq.trans hs.pending_eq, ?_⟩
  · rw [h.now_eq]
    exact hs.now_le
  · rw [h.progress_eq]
    exact hs.made_le

end Moment

/-!
# Waiting
-/

namespace Readiness

variable {d : Descriptor} {direction : Direction} {deadline : Instant} {s : Moment}

/-- What waiting until a deadline keeps to.  The patience that is left and the progress made are
together at least what they were at first. -/
theorem pollUntil_meets {latest : Int} {pending : Option Instant} {made total : Int}
    (hlatest : deadline.nanoseconds + 10 ^ 6 ≤ latest)
    (patience : Nat)
    (hs : s.Within deadline latest pending made)
    (htotal : total ≤ patience + s.progress deadline) :
    (pollUntil d direction deadline patience).Meets clock
      (fun reason after => after.Within deadline latest pending made ∧
        reason = .outOfPatience ∧ total ≤ after.progress deadline)
      (fun error after => after.Within deadline latest pending made ∧
        (error.cause = .timeout -> deadline.nanoseconds ≤ after.now))
      (fun _ after => after.Within deadline latest pending made ∧
        (direction = .input -> after.ready = some d)) s := by
  induction patience generalizing s with
  | zero => exact ⟨hs, rfl, by omega⟩
  | succ patience ih =>
      simp only [pollUntil_succ_meets_iff, Monitor.allowed_and_iff]
      intro reading begun hread
      rcases clock.step_now hread with ⟨hreading, hbegun⟩
      have hbegins := hs.stands hbegun
      rw [← hbegun.progress_eq] at htotal
      rw [hreading, ← hbegun.now_eq]
      cases hleft : (Instant.mk begun.now).until? deadline with
      | none => exact ⟨hbegins, fun _ => le_of_until?_eq_none hleft⟩
      | some left =>
          intro answer polled hpoll
          have hpolled : polled.Within deadline latest pending made := by
            refine ⟨?_, hpoll.pending_eq.trans hbegins.pending_eq, ?_⟩
            · exact Int.le_trans (pollTime_le hleft hpoll.takes) hlatest
            · exact Int.le_trans hbegins.made_le (Moment.progress_le hpoll)
          rcases answer with errno | count | count
          · dsimp only
            split
            next hkind =>
                have hprogress : begun.progress deadline < polled.progress deadline :=
                  Moment.progress_lt_of_isSetback hpoll (decide_eq_true hkind)
                exact ih hpolled (by omega)
            next => exact ⟨hpolled, fun hcause => absurd hcause cause_ofErrno_ne⟩
          · intro late later hlate
            rcases clock.step_now hlate with ⟨hreading, hlater⟩
            have hlasts := hpolled.stands hlater
            rw [hreading]
            cases hmore : (Instant.mk polled.now).until? deadline with
            | none =>
                refine ⟨hlasts, ?_⟩
                intro _
                rw [hlater.now_eq]
                exact le_of_until?_eq_none hmore
            | some more =>
                have hprogress := Moment.progress_lt_of_early hleft hpoll hmore
                rw [← hlater.progress_eq] at hprogress
                exact ih hlasts (by omega)
          · constructor
            · exact hpolled
            · intro hinput
              rw [hpoll.ready_eq, hinput]
              rfl

/-- A wait that comes too late fails whatever is to follow it. -/
theorem pollUntil_late_meets {post : Unit -> Moment -> Prop}
    (hlate : deadline.nanoseconds ≤ s.now)
    (patience : Nat) :
    (pollUntil d direction deadline (patience + 1)).Meets clock (fun _ _ => False)
      (fun error after => error.cause = .timeout ∧ after.actions = s.actions) post s := by
  simp only [pollUntil_succ_meets_iff, Monitor.allowed_and_iff]
  intro reading begun hread
  rw [(clock.step_now hread).1, until?_eq_none hlate]
  exact ⟨rfl, hread.actions_eq⟩

end Readiness
end ServiceSocket
