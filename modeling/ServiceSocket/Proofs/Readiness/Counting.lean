import ServiceSocket.Proofs.Readiness.Ending
import ServiceSocket.Proofs.Virtual.Interventions

/-!
# How often a wait polls

On the virtual system a poll that leads to another one has used up an intervention, or it has
lasted as long as a poll can.  So a wait polls at most once for each intervention in polling and
once for each stretch of that length until the deadline, the last one of which may be shorter.
-/

namespace ServiceSocket
namespace Readiness

open Program
open Virtual (system System)

variable {s after : System} {d : Descriptor} {direction : Direction} {deadline : Instant}

/-!
# Polls
-/

def mostPolls (deadline : Instant) (s : System) : Nat :=
  s.interventionsIn .poll + stretches deadline s.now

theorem mostPolls_pos {left : Duration}
    (hleft : (Instant.mk s.now).until? deadline = some left) :
    0 < mostPolls deadline s :=
  Nat.lt_of_lt_of_le (stretches_pos hleft) (Nat.le_add_left ..)

theorem mostPolls_lt {polled : System} {left : Duration} {answer : Except Errno Nat}
    (hleft : (Instant.mk s.now).until? deadline = some left)
    (hpoll : s.poll d direction (pollTime left) = (answer, polled))
    (hopen : LeavesOpen (some answer))
    (hmore : answer = .ok 0 -> exists more, (Instant.mk polled.now).until? deadline = some more) :
    mostPolls deadline polled < mostPolls deadline s := by
  have hgoesOn := (System.poll_polls hpoll).goesOn.now_le
  have hahead := stretches_le deadline (Int.ofNat_le.mpr hgoesOn)
  unfold mostPolls
  rcases System.poll_ends hpoll with hfewer | ⟨hsame, hends⟩
  · omega
  · cases hends with
    | failed => cases hopen
    | ready => cases hopen
    | gaveUp hnumber hnow hnot =>
        rcases hmore rfl with ⟨more, hmore⟩
        have hless := stretches_lt hleft (by omega) hmore
        omega

/-- Each poll but the last one leaves the rest to fewer polls, so there are no more of them than
there can be. -/
theorem Rounds.length_polls_le {patience : Nat} {events : List Event}
    {outcome : Outcome (Except Error Unit)}
    (h : Rounds d direction deadline patience events outcome)
    (path : system.Path s events after) :
    (polls events).length ≤ mostPolls deadline s := by
  induction h generalizing s with
  | spent | late => exact Nat.zero_le _
  | ready hleft | failed hleft hkind | expired hleft hlate =>
      rcases path with _ | ⟨⟨⟩, _⟩
      exact mostPolls_pos hleft
  | interrupted hleft hkind rest ih =>
      rcases path with _ | ⟨⟨⟩, _ | ⟨hpoll, path⟩⟩
      have hless := mostPolls_lt hleft hpoll (Errno.kind_eq_interrupted_iff.mp hkind) nofun
      exact Nat.lt_of_le_of_lt (ih path) hless
  | early hleft hmore rest ih =>
      rcases path with _ | ⟨⟨⟩, _ | ⟨hpoll, _ | ⟨⟨⟩, path⟩⟩⟩
      have hless := mostPolls_lt hleft hpoll rfl fun _ => ⟨_, hmore⟩
      exact Nat.lt_of_le_of_lt (ih path) hless

/-!
# Waiting
-/

/-- Without a deadline a wait comes back at once.  With one it comes back on every virtual system,
and until then it has polled at most once for each intervention in polling and for each stretch
that has begun by the deadline. -/
theorem wait_returns_within_stretches (s : System) (d : Descriptor) (direction : Direction) :
    (forall patience, (wait d direction none patience).run.run System.answer s =
      (.returned (.ok ()), s)) ∧
    forall deadline : Instant, exists result after, forall patience,
      s.interventionsIn .poll + stretches deadline s.now < patience ->
      (wait d direction (some deadline) patience).run.run System.answer s =
          (.returned result, after) ∧
        exists events, Branch (wait d direction (some deadline) patience).run events
            (.returned result) ∧ system.Path s events after ∧
          (polls events).length ≤ s.interventionsIn .poll + stretches deadline s.now := by
  refine ⟨fun _ => rfl, ?_⟩
  intro deadline
  have hends (patience : Nat) (hpatience : mostPolls deadline s < patience) :
      exists result after, (pollUntil d direction deadline patience).run.run System.answer s =
          (.returned result, after) ∧
        exists events, Branch (pollUntil d direction deadline patience).run events
            (.returned result) ∧ system.Path s events after ∧
          (polls events).length ≤ mostPolls deadline s := by
    rcases path_run System.answer (pollUntil d direction deadline patience).run s with
      ⟨events, branch, path⟩
    have rounds := rounds_of_branch branch
    have hle := rounds.length_polls_le path
    rcases hrun : (pollUntil d direction deadline patience).run.run System.answer s with
      ⟨result | reason, after⟩
    · rw [hrun] at branch path
      exact ⟨result, after, rfl, events, branch, path, hle⟩
    · rw [hrun] at rounds
      rw [rounds.length_polls] at hle
      exact absurd hle (Nat.not_le.mpr hpatience)
  rcases hends _ (Nat.lt_succ_self _) with ⟨result, after, hrun, _⟩
  refine ⟨result, after, ?_⟩
  intro patience hpatience
  have hsame := (pollUntil_extends d direction deadline).run_eq hrun hpatience
  rcases hends patience hpatience with ⟨other, last, hother, hevents⟩
  rw [hsame] at hother
  cases hother
  exact ⟨hsame, hevents⟩

/-- A socket with nothing to receive.  One poll will be interrupted, and one will end at once. -/
def unready : System where
  sockets := [Virtual.Socket.ofPlan .tipc {}]
  descriptors := [some 1]
  interventions := [(.poll, { failure := some .interrupted }), (.send, {}),
    (.poll, { bound := some 0 })]

/-- The deadline is a millisecond further away than a poll can reach, so besides the two polls that
are intervened in it takes two more. -/
theorem wait_returns_within_stretches_of_longest_poll :
    unready.interventionsIn .poll + stretches ⟨2_147_483_648_000_000⟩ unready.now < 5 ∧
    exists events after,
      (wait ⟨0⟩ .input (some ⟨2_147_483_648_000_000⟩) 5).run.run System.answer unready =
        (.returned (.error .timeout), after) ∧
      system.Path unready events after ∧ (polls events).length ≤ 4 ∧ after.log.length = 4 := by
  have hstretches : stretches ⟨2_147_483_648_000_000⟩ unready.now = 2 := by
    rw [stretches, Nat.ceilDiv_eq_add_pred_div]
    decide
  have hbound : unready.interventionsIn .poll + stretches ⟨2_147_483_648_000_000⟩ unready.now =
      4 := by
    rw [hstretches]
    rfl
  have hresult : ((wait ⟨0⟩ .input (some ⟨2_147_483_648_000_000⟩) 5).run.run System.answer
      unready).1 = .returned (.error .timeout) := rfl
  have hlog : ((wait ⟨0⟩ .input (some ⟨2_147_483_648_000_000⟩) 5).run.run System.answer
      unready).2.log.length = 4 := rfl
  rcases (wait_returns_within_stretches unready ⟨0⟩ .input).2 ⟨2_147_483_648_000_000⟩ with
    ⟨result, after, hends⟩
  rw [hbound] at hends ⊢
  rcases hends 5 (by decide) with ⟨hrun, events, _, path, hle⟩
  rw [hrun] at hresult hlog ⊢
  cases hresult
  exact ⟨by decide, events, after, rfl, path, hle, hlog⟩

end Readiness
end ServiceSocket
