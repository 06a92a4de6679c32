import ServiceSocket.Proofs.Kernel.Monitor

/-!
# Systems as monitors

A system that answers every call itself leaves one way through a program, which is its run.
So what a program does on such a system is computed along the program's tree like anything
else that a monitor says.
-/

namespace ServiceSocket

/-- The monitor of a system that answers each call and changes in doing so. -/
def Monitor.answering (answer : (c : Call) -> σ -> c.Answer × σ) : Monitor σ where
  step s event after := answer event.call s = (event.answer, after)
  allowed _ _ := True

variable {answer : (c : Call) -> σ -> c.Answer × σ} {halt : Halt -> σ -> Prop} {s : σ}

instance : (Monitor.answering answer).Follows := ⟨fun _ _ => trivial⟩

theorem Program.meets_answering_iff {p : Program α} {post : α -> σ -> Prop} :
    p.Meets (.answering answer) halt post s <->
      (p.run answer s).1.Ends halt post (p.run answer s).2 := by
  induction p generalizing s with
  | done value => rfl
  | halt reason => rfl
  | call c next ih =>
      rw [run, ← ih, meets_call, Monitor.allowed_and_iff]
      constructor
      · intro h
        exact h _ _ rfl
      · intro h given mid hstep
        have hgiven : answer c s = (given, mid) := hstep
        rw [hgiven] at h
        exact h

theorem Program.path_run (answer : (c : Call) -> σ -> c.Answer × σ) (p : Program α) (s : σ) :
    exists events, Branch p events (p.run answer s).1 ∧
      (Monitor.answering answer).Path s events (p.run answer s).2 := by
  induction p generalizing s with
  | done value => exact ⟨[], .done value, .nil s⟩
  | halt reason => exact ⟨[], .halt reason, .nil s⟩
  | call c next ih =>
      rcases ih (answer c s).1 (answer c s).2 with ⟨events, branch, path⟩
      exact ⟨_, .call c next _ branch, .cons rfl path⟩

def Program.Outcome.made? : Outcome (Except Error α) -> Option α
  | .returned (.ok value) => some value
  | _ => none

def Program.Outcome.failed? : Outcome (Except Error α) -> Option Error
  | .returned (.error error) => some error
  | _ => none

def Program.Outcome.halted? : Outcome α -> Option Halt
  | .halted reason => some reason
  | .returned _ => none

theorem Attempt.returns_of_meets {body : Attempt α} {fail : Error -> σ -> Prop}
    {post : α -> σ -> Prop}
    (h : body.Meets (.answering answer) (fun _ _ => False) fail post s) :
    exists result after, body.run.run answer s = (.returned result, after) ∧
      either fail post result after := by
  have hends := Program.meets_answering_iff.mp h
  rcases hrun : body.run.run answer s with ⟨result | reason, after⟩
  · rw [hrun] at hends
    exact ⟨result, after, rfl, hends⟩
  · rw [hrun] at hends
    exact hends.elim

end ServiceSocket
