import ServiceSocket.Proofs.Virtual.Answers

/-!
# Interventions that are left

A call uses up one intervention in calls of its name, or none.  So the interventions in polling
run out only by polling, and a poll that uses up none ends by itself.
-/

namespace ServiceSocket
namespace Virtual
namespace System

variable {s after : System} {d : Descriptor} {direction : Direction}

def interventionsIn (s : System) (name : CallName) : Nat :=
  s.interventions.countP fun entry => entry.1 = name

theorem interventions_waitRounds (number : Nat) (ready : Nat -> Socket -> Bool) (limit : Option Nat)
    (rounds : Nat) (s : System) :
    (waitRounds number ready limit rounds s).2.interventions = s.interventions := by
  induction rounds generalizing s with
  | zero => rfl
  | succ rounds ih =>
      unfold waitRounds
      split
      next => rfl
      next =>
          split
          next => rw [ih, interventions_advanceTo]
          next =>
              split
              next => rw [ih, interventions_advanceTo]
              next => exact interventions_advanceTo
          next => exact interventions_advanceTo
          next => rfl

theorem interventions_onSocket {name : CallName} {arguments : List Argument}
    {body : System -> Nat -> Socket -> Intervention -> Result α × System}
    (hbody : forall begun number socket intervention,
      (body begun number socket intervention).2.interventions = begun.interventions) :
    (s.onSocket name d arguments body).2.interventions = s.interventions ∨
      (s.onSocket name d arguments body).2.interventions =
        (takeIntervention name s.interventions).2 := by
  have hdraw : (s.draw name).2.interventions = (takeIntervention name s.interventions).2 :=
    interventions_advanceTo
  unfold onSocket
  split
  next => exact .inl rfl
  next number _ =>
      refine .inr ?_
      dsimp only
      split
      next => exact hdraw
      next => exact hdraw
      next => exact (hbody _ _ _ _).trans hdraw

theorem interventions_poll (s : System) (d : Descriptor) (direction : Direction)
    (milliseconds : Nat) :
    (s.poll d direction milliseconds).2.interventions = s.interventions ∨
      (s.poll d direction milliseconds).2.interventions =
        (takeIntervention .poll s.interventions).2 := by
  apply interventions_onSocket
  intro begun number socket intervention
  split
  next => rfl
  next => exact interventions_waitRounds ..

/-- A poll is intervened in, and that intervention is gone, or it ends by itself. -/
theorem poll_ends {milliseconds : Nat} {answer : Except Errno Nat}
    (h : s.poll d direction milliseconds = (answer, after)) :
    after.interventionsIn .poll < s.interventionsIn .poll ∨
      after.interventionsIn .poll = s.interventionsIn .poll ∧
        s.PollEnds d direction milliseconds after answer := by
  have hinterventions := interventions_poll s d direction milliseconds
  rw [h] at hinterventions
  rcases (poll_polls h).ends with hfewer | ⟨hsame, hends⟩
  · refine .inl ?_
    rcases hinterventions with hsame | hdrawn
    · rw [hsame] at hfewer
      exact absurd hfewer (Nat.lt_irrefl _)
    · rcases takeIntervention_takes .poll s.interventions with
        ⟨before, intervention, behind, hqueue, htaken⟩ | hnone
      · rw [interventionsIn, interventionsIn, hdrawn, htaken, hqueue, List.countP_append,
          List.countP_append, List.countP_cons_of_pos (by simp)]
        exact Nat.lt_succ_self _
      · rw [hdrawn, hnone] at hfewer
        exact absurd hfewer (Nat.lt_irrefl _)
  · refine .inr ⟨?_, hends⟩
    rw [interventionsIn, hsame, interventionsIn]

end System
end Virtual
end ServiceSocket
