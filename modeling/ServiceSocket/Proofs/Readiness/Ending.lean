import ServiceSocket.Proofs.Kernel.Answering
import ServiceSocket.Proofs.Kernel.Patience
import ServiceSocket.Proofs.Readiness.Rounds
import ServiceSocket.Proofs.Virtual.Answers

/-!
# A wait ends

On the virtual system each round of a wait uses up an intervention or lets all the time of
its poll pass.  There are only so many interventions, and only so many of the longest polls
fit into the time that is left, so a wait with enough patience ends.
-/

namespace ServiceSocket

def Virtual.system : Monitor Virtual.System :=
  .answering Virtual.System.answer

instance : Virtual.system.Follows := ⟨fun _ _ => trivial⟩

namespace Readiness

open Virtual (system System Socket)

variable {s after : System} {d : Descriptor} {direction : Direction} {deadline : Instant}

def longestPolls (deadline : Instant) (now : Nat) : Nat :=
  (deadline.nanoseconds - now).toNat / (longestPoll * 1_000_000)

theorem longestPolls_le (deadline : Instant) {now later : Nat}
    (h : now ≤ later) : longestPolls deadline later ≤ longestPolls deadline now :=
  Nat.div_le_div_right (by omega)

theorem left_of_early {now later : Nat} {left more : Duration}
    (hleft : (Instant.mk now).until? deadline = some left)
    (hlater : later = now + pollTime left * 1_000_000)
    (hmore : (Instant.mk later).until? deadline = some more) :
    (deadline.nanoseconds - now).toNat =
      (deadline.nanoseconds - later).toNat + longestPoll * 1_000_000 := by
  rcases covers_of_until?_eq_some hleft with ⟨hnow, hcovers⟩
  have hahead := (covers_of_until?_eq_some hmore).1
  dsimp only at hnow hcovers hahead
  unfold longestPoll
  rcases hcovers.covers with ⟨hpast, _⟩ | ⟨hlongest, hlong⟩
  · omega
  · omega

theorem longestPolls_lt {now later : Nat} {left more : Duration}
    (hleft : (Instant.mk now).until? deadline = some left)
    (hlater : later = now + pollTime left * 1_000_000)
    (hmore : (Instant.mk later).until? deadline = some more) :
    longestPolls deadline later < longestPolls deadline now := by
  unfold longestPolls
  rw [left_of_early hleft hlater hmore, Nat.add_div_right _ (by decide)]
  exact Nat.lt_succ_self _

/-!
# Polling until the deadline
-/

/-- The socket is not ready, or that has not been asked since the start. -/
def NotFound (s : System) (d : Descriptor) (direction : Direction) (after : System) : Prop :=
  after = s ∨ exists number, s.socketOf d = some number ∧
    (after.socket? number).any (Socket.isReady direction after.now) = false

/-- The time is up and the socket has not become ready. -/
def RunsOut (s : System) (d : Descriptor) (direction : Direction) (deadline : Instant)
    (after : System) : Prop :=
  s.GoesOn after ∧ deadline.nanoseconds ≤ after.now ∧
    s.Undisturbed after (NotFound s d direction after)

def Finds (s : System) (d : Descriptor) (direction : Direction) (after : System) : Prop :=
  s.GoesOn after ∧ s.Undisturbed after (exists number, s.socketOf d = some number ∧
    (after.socket? number).any (Socket.isReady direction after.now) = true)

theorem pollUntil_meets_system {patience : Nat}
    (hpatience : s.interventions.length + longestPolls deadline s.now < patience) :
    (pollUntil d direction deadline patience).Meets system (fun _ _ => False)
      (fun error after => error.cause = .timeout -> RunsOut s d direction deadline after)
      (fun _ => Finds s d direction) s := by
  induction patience generalizing s with
  | zero => exact absurd hpatience (Nat.not_lt_zero _)
  | succ patience ih =>
      simp only [pollUntil_succ_meets_iff, Monitor.allowed_and_iff]
      rintro reading begun ⟨⟩
      cases hleft : (Instant.mk s.now).until? deadline with
      | none =>
          intro _
          exact ⟨System.GoesOn.refl s, le_of_until?_eq_none hleft, .inr ⟨rfl, .inl rfl⟩⟩
      | some left =>
          intro answer polled hpoll
          have polls := System.poll_polls hpoll
          -- The rest of the wait goes on from where the poll has ended.
          have resume {P : Prop}
              (hless : polled.interventions.length + longestPolls deadline polled.now <
                s.interventions.length + longestPolls deadline s.now)
              (hpolled : s.Undisturbed polled P) (hnot : P -> NotFound s d direction polled) :
              (pollUntil d direction deadline patience).Meets system (fun _ _ => False)
                (fun error after => error.cause = .timeout -> RunsOut s d direction deadline after)
                (fun _ => Finds s d direction) polled := by
            apply (ih (by omega)).mono
            · intro error after hend hcause
              rcases hend hcause with ⟨goesOn, hlate, hrest⟩
              refine ⟨polls.goesOn.trans goesOn, hlate, hpolled.trans hrest ?_⟩
              rintro hP (hsame | ⟨number, hnumber, hready⟩)
              · rw [hsame]
                exact hnot hP
              · rw [polls.goesOn.socketOf_eq] at hnumber
                exact .inr ⟨number, hnumber, hready⟩
            · rintro _ after ⟨goesOn, hrest⟩
              refine ⟨polls.goesOn.trans goesOn, hpolled.trans hrest ?_⟩
              rintro _ ⟨number, hnumber, hready⟩
              rw [polls.goesOn.socketOf_eq] at hnumber
              exact ⟨number, hnumber, hready⟩
          have hahead := longestPolls_le deadline polls.goesOn.now_le
          rcases answer with errno | count | count
          · dsimp only
            split
            next hkind =>
                rcases polls.ends with hfewer | ⟨_, hends⟩
                · exact resume (by omega) (.inl hfewer) False.elim
                · cases hends
                  cases hkind
            next => exact fun hcause => absurd hcause cause_ofErrno_ne
          · rintro late later ⟨⟩
            cases hmore : (Instant.mk polled.now).until? deadline with
            | none =>
                intro _
                refine ⟨polls.goesOn, le_of_until?_eq_none hmore, polls.ends.of_eq rfl ?_⟩
                intro hends
                cases hends with
                | gaveUp hnumber hnow hnot => exact .inr ⟨_, hnumber, hnot⟩
            | some more =>
                rcases polls.ends with hfewer | ⟨hsame, hends⟩
                · exact resume (by omega) (.inl hfewer) False.elim
                · cases hends with
                  | gaveUp hnumber hnow hnot =>
                      have hless := longestPolls_lt hleft hnow hmore
                      have hcount := congrArg List.length hsame
                      apply resume (by omega) (.inr ⟨hsame, hnot⟩)
                      exact fun hnot => .inr ⟨_, hnumber, hnot⟩
          · refine ⟨polls.goesOn, polls.ends.of_eq rfl ?_⟩
            intro hends
            cases hends with
            | ready hnumber hready => exact ⟨_, hnumber, hready⟩

/-!
# More patience
-/

theorem pollUntil_extends (d : Descriptor) (direction : Direction) (deadline : Instant) :
    Attempt.Extends (pollUntil d direction deadline) := by
  intro patience
  induction patience with
  | zero => trivial
  | succ patience ih =>
      rw [pollUntil, pollUntil]
      apply Attempt.extendedBy_bind (.refl _)
      intro reading
      split
      next => exact .refl _
      next left _ =>
          apply Attempt.extendedBy_bind (.refl _)
          intro answer
          split
          next =>
              split
              next => exact ih
              next => exact .refl _
          next =>
              apply Attempt.extendedBy_bind (.refl _)
              intro late
              split
              next => exact .refl _
              next => exact ih
          next => exact .refl _

theorem wait_extends (d : Descriptor) (direction : Direction) (deadline : Option Instant) :
    Attempt.Extends (wait d direction deadline) := by
  cases deadline with
  | none => exact fun _ => .refl _
  | some deadline => exact pollUntil_extends d direction deadline

end Readiness
end ServiceSocket
