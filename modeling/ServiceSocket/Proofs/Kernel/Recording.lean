import ServiceSocket.Proofs.Kernel.Monitor

/-!
# Recording

A recorder is the monitor that trusts in nothing, allows everything and remembers what
happened.  What is computed along a program under it is a statement about the branches of
the program, so that both forms can be used for either.
-/

namespace ServiceSocket

def recorder : Monitor (List Event) where
  step s event after := after = s ++ [event]
  allowed _ _ := True

instance : recorder.Follows := ⟨fun _ _ => trivial⟩

namespace Program

variable {P : List Event -> Outcome α -> Prop} {s : List Event}

theorem meets_recorder_iff {p : Program α} :
    p.Meets recorder (fun reason after => P after (.halted reason))
        (fun value after => P after (.returned value)) s <->
      forall events outcome, Branch p events outcome -> P (s ++ events) outcome := by
  constructor
  · intro h events outcome branch
    induction branch generalizing s with
    | done value =>
        rw [List.append_nil]
        exact h
    | halt reason =>
        rw [List.append_nil]
        exact h
    | call c next answer rest ih =>
        rw [List.append_cons]
        exact ih (h.2 answer _ rfl)
  · intro h
    induction p generalizing s with
    | done value =>
        have hend := h [] _ (.done value)
        rw [List.append_nil] at hend
        exact hend
    | halt reason =>
        have hend := h [] _ (.halt reason)
        rw [List.append_nil] at hend
        exact hend
    | call c next ih =>
        rw [meets_call, Monitor.allowed_and_iff]
        intro answer mid hmid
        rw [hmid]
        apply ih
        intro events outcome branch
        rw [← List.append_cons]
        exact h _ outcome (.call c next answer branch)

def Asks (p : Program α) (event : α -> Event) : Prop :=
  forall (halt : Halt -> List Event -> Prop) (post : α -> List Event -> Prop) s,
    (forall answer, post answer (s ++ [event answer])) -> p.Meets recorder halt post s

theorem asks_ask (c : Call) : (ask c).Asks fun answer => ⟨c, answer⟩ := by
  intro halt post s h
  rw [ask, meets_call, Monitor.allowed_and_iff]
  intro answer asked hasked
  rw [hasked]
  exact h answer

theorem Makes.flatMap_eq_nil {f : Event -> List β} {Q : Call -> Prop} {p : Program α}
    (h : p.Makes Q)
    (hf : forall event : Event, Q event.call -> f event = []) :
    p.Meets recorder (fun _ events => events.flatMap f = [])
      (fun _ events => events.flatMap f = []) [] := by
  apply Makes.meets (I := fun events : List Event => events.flatMap f = []) h
  · intro _ _ _ _
    trivial
  · intro s c answer mid hs hc hmid
    rw [hmid, List.flatMap_append, hs, List.flatMap_singleton]
    exact hf ⟨c, answer⟩ hc
  · rfl

theorem Meets.recorded {halt : Halt -> List Event -> Prop} {post : α -> List Event -> Prop}
    {p : Program α} {events : List Event} {outcome : Outcome α}
    (h : p.Meets recorder halt post s)
    (branch : Branch p events outcome) :
    outcome.Ends halt post (s ++ events) :=
  (meets_recorder_iff (P := fun after outcome => outcome.Ends halt post after)).mp h events
    outcome branch

end Program

theorem Attempt.meets_recorder_iff {P : List Event -> Program.Outcome (Except Error α) -> Prop}
    {s : List Event} {body : Attempt α} :
    body.Meets recorder (fun reason after => P after (.halted reason))
        (fun error after => P after (.returned (.error error)))
        (fun value after => P after (.returned (.ok value))) s <->
      forall events outcome, Program.Branch body.run events outcome -> P (s ++ events) outcome := by
  rw [← Program.meets_recorder_iff, meets_run]

open Program in
theorem Attempt.recorded {P : List Event -> Outcome (Except Error α) -> Prop} {s : List Event}
    {body : Attempt α}
    (h : forall events outcome, Branch body.run events outcome -> P events outcome) :
    body.Meets recorder
      (fun reason after => exists events, after = s ++ events ∧ P events (.halted reason))
      (fun error after => exists events, after = s ++ events ∧ P events (.returned (.error error)))
      (fun value after => exists events, after = s ++ events ∧ P events (.returned (.ok value)))
      s := by
  refine (Attempt.meets_recorder_iff (P := fun after outcome => exists events, after = s ++ events ∧
    P events outcome)).mpr ?_
  intro events outcome branch
  exact ⟨events, rfl, h events outcome branch⟩

end ServiceSocket
