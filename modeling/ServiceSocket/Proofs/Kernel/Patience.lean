import ServiceSocket.Kernel.Program

/-!
# More patience

A program with less patience does what one with more does, as long as its patience lasts.
So a value that is returned once is returned with any more patience, and a loop that is
given enough has one result.
-/

namespace ServiceSocket
namespace Program

/-- The other program does the same and goes on where this one runs out of patience. -/
def ExtendedBy : Program α -> Program α -> Prop
  | .done value, other => other = .done value
  | .halt .outOfPatience, _ => True
  | .halt .beyondClock, other => other = .halt .beyondClock
  | .call c next, other =>
      exists more, other = .call c more ∧ forall answer, (next answer).ExtendedBy (more answer)

variable {p q : Program α}

theorem ExtendedBy.refl (p : Program α) : p.ExtendedBy p := by
  induction p with
  | done value => rfl
  | halt reason => cases reason <;> trivial
  | call c next ih => exact ⟨next, rfl, ih⟩

theorem ExtendedBy.bind {f g : α -> Program β}
    (h : p.ExtendedBy q)
    (hf : forall value, (f value).ExtendedBy (g value)) :
    (p >>= f).ExtendedBy (q >>= g) := by
  induction p generalizing q with
  | done value =>
      have hq : q = .done value := h
      rw [hq]
      exact hf value
  | halt reason =>
      cases reason with
      | outOfPatience => trivial
      | beyondClock =>
          have hq : q = .halt .beyondClock := h
          rw [hq]
          rfl
  | call c next ih =>
      rcases h with ⟨more, hq, hnext⟩
      rw [hq]
      exact ⟨fun answer => (more answer).bind g, rfl, fun answer => ih answer (hnext answer)⟩

theorem ExtendedBy.map (h : p.ExtendedBy q) (f : α -> β) : (f <$> p).ExtendedBy (f <$> q) := by
  rw [map_eq_pure_bind, map_eq_pure_bind]
  exact h.bind fun value => .refl (.done (f value))

/-- However a program has ended, it still ends so, unless its patience ran out. -/
theorem ExtendedBy.run_eq {answer : (c : Call) -> σ -> c.Answer × σ} {s after : σ}
    {outcome : Outcome α}
    (h : p.ExtendedBy q)
    (hrun : p.run answer s = (outcome, after))
    (hends : outcome ≠ .halted .outOfPatience) :
    q.run answer s = (outcome, after) := by
  induction p generalizing q s with
  | done value =>
      have hq : q = .done value := h
      rw [hq]
      exact hrun
  | halt reason =>
      cases reason with
      | outOfPatience =>
          cases hrun
          exact absurd rfl hends
      | beyondClock =>
          have hq : q = .halt .beyondClock := h
          rw [hq]
          exact hrun
  | call c next ih =>
      rcases h with ⟨more, hq, hnext⟩
      rw [run] at hrun
      rw [hq, run]
      exact ih (answer c s).1 (hnext _) hrun

end Program

/-!
# Attempts
-/

namespace Attempt

theorem extendedBy_bind {body other : Attempt α} {f g : α -> Attempt β}
    (h : body.run.ExtendedBy other.run)
    (hf : forall value, (f value).run.ExtendedBy (g value).run) :
    (body >>= f).run.ExtendedBy (other >>= g).run := by
  rw [ExceptT.run_bind, ExceptT.run_bind]
  apply h.bind
  intro result
  cases result with
  | ok value => exact hf value
  | error error => rfl

theorem extendedBy_inContext {operation : String} {address : Option Address}
    {body other : Attempt α}
    (h : body.run.ExtendedBy other.run) :
    (inContext operation address body).run.ExtendedBy (inContext operation address other).run :=
  h.map _

theorem extendedBy_guarding {d : Descriptor} {body other : Attempt α}
    (h : body.run.ExtendedBy other.run) :
    (d.guarding body).run.ExtendedBy (d.guarding other).run :=
  h.bind fun _ => .refl _

def Extends (body : Nat -> Attempt α) : Prop :=
  forall patience, (body patience).run.ExtendedBy (body (patience + 1)).run

theorem Extends.ends_eq {body : Nat -> Attempt α} {answer : (c : Call) -> σ -> c.Answer × σ}
    {s after : σ} {outcome : Program.Outcome (Except Error α)} {enough patience : Nat}
    (h : Extends body)
    (hrun : (body enough).run.run answer s = (outcome, after))
    (hends : outcome ≠ .halted .outOfPatience)
    (hpatience : enough ≤ patience) :
    (body patience).run.run answer s = (outcome, after) := by
  induction hpatience with
  | refl => exact hrun
  | step _ ih => exact (h _).run_eq ih hends

theorem Extends.run_eq {body : Nat -> Attempt α} {answer : (c : Call) -> σ -> c.Answer × σ}
    {s after : σ} {result : Except Error α} {enough patience : Nat}
    (h : Extends body)
    (hrun : (body enough).run.run answer s = (.returned result, after))
    (hpatience : enough ≤ patience) :
    (body patience).run.run answer s = (.returned result, after) :=
  h.ends_eq hrun nofun hpatience

end Attempt
end ServiceSocket
