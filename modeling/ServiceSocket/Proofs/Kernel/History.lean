import ServiceSocket.Kernel.Program

/-!
# Histories

An object is asked one thing after another, and each time it answers and goes on as what
it has become.  A history lists what was asked, the calls that were made for it, and what
came of it.
-/

namespace ServiceSocket

structure Turn (σ ι α : Type) where
  start : σ
  input : ι
  events : List Event
  answer : α
  finish : σ

open Program in
/-- The turns lead from one object to another, each along some branch of its program. -/
inductive History (step : σ -> ι -> Program (α × σ)) : σ -> List (Turn σ ι α) -> σ -> Prop where
  | nil (s : σ) : History step s [] s
  | cons {s mid last : σ} {input : ι} {events : List Event} {answer : α}
      {turns : List (Turn σ ι α)}
      (first : Branch (step s input) events (.returned (answer, mid)))
      (rest : History step mid turns last) :
      History step s (⟨s, input, events, answer, mid⟩ :: turns) last

def Turn.Follows (step : σ -> ι -> Program (α × σ)) (turn : Turn σ ι α) : Prop :=
  Program.Branch (step turn.start turn.input) turn.events (.returned (turn.answer, turn.finish))

namespace History

variable {step : σ -> ι -> Program (α × σ)} {s last : σ} {turns : List (Turn σ ι α)}

/-- What every turn keeps holds before each of them and at the end. -/
theorem invariant {I : σ -> Prop} {P : Turn σ ι α -> Prop}
    (h : History step s turns last)
    (hturns : forall turn, turn ∈ turns -> P turn)
    (hstep : forall turn, P turn -> turn.Follows step -> I turn.start -> I turn.finish)
    (hs : I s) :
    I last ∧ forall turn, turn ∈ turns -> I turn.start ∧ turn.Follows step := by
  induction h with
  | nil s => exact ⟨hs, by simp⟩
  | cons first rest ih =>
      have hmid := hstep _ (hturns _ (List.mem_cons_self ..)) first hs
      have hrest := ih (fun turn hmem => hturns turn (List.mem_cons_of_mem _ hmem)) hmid
      constructor
      · exact hrest.1
      · intro turn hmem
        rcases List.mem_cons.mp hmem with hhead | htail
        · rw [hhead]
          exact ⟨hs, first⟩
        · exact hrest.2 turn htail

theorem split {before after : List (Turn σ ι α)} {turn : Turn σ ι α}
    (h : History step s (before ++ turn :: after) last) :
    History step s before turn.start ∧ turn.Follows step ∧ History step turn.finish after last := by
  induction before generalizing s with
  | nil =>
      cases h with
      | cons first rest => exact ⟨.nil s, first, rest⟩
  | cons earlier before ih =>
      cases h with
      | cons first rest =>
          rcases ih rest with ⟨hbefore, hturn, hafter⟩
          exact ⟨.cons first hbefore, hturn, hafter⟩

end History
end ServiceSocket
