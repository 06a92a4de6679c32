import ServiceSocket.Proofs.Readiness.Rounds

/-!
# Waiting before a call

A call that may wait is made only when a wait before it has found the socket ready, and it is
the last thing that is done.
-/

namespace ServiceSocket

open Program

def Program.Outcome.value? : Outcome (Except Error α) -> Option α
  | .returned (.ok value) => some value
  | _ => none

namespace Readiness

variable {d : Descriptor} {direction : Direction} {deadline : Option Instant} {patience : Nat}
  {events : List Event}

/-- Without a deadline there is nothing to wait for. -/
inductive Waits (d : Descriptor) (direction : Direction) (patience : Nat) :
    Option Instant -> List Event -> Outcome (Except Error Unit) -> Prop where
  | unbounded : Waits d direction patience none [] (.returned (.ok ()))
  | bounded {due : Instant} {events : List Event} {outcome : Outcome (Except Error Unit)}
      (hrounds : Rounds d direction due patience events outcome) :
      Waits d direction patience (some due) events outcome

theorem waits_of_branch {outcome : Outcome (Except Error Unit)}
    (branch : Branch (wait d direction deadline patience).run events outcome) :
    Waits d direction patience deadline events outcome := by
  cases deadline with
  | none =>
      cases branch
      exact .unbounded
  | some due => exact .bounded (rounds_of_branch branch)

inductive IsWaiting (d : Descriptor) (direction : Direction) : Event -> Prop where
  | reads (reading : Instant) : IsWaiting d direction ⟨.now, reading⟩
  | polls (time : Nat) (answer : Except Errno Nat) :
      IsWaiting d direction ⟨.poll d direction time, answer⟩

theorem Waits.isWaiting {outcome : Outcome (Except Error Unit)}
    (h : Waits d direction patience deadline events outcome) :
    forall event, event ∈ events -> IsWaiting d direction event := by
  cases h with
  | unbounded => exact List.forall_mem_nil _
  | bounded hrounds =>
      intro event hmem
      rcases List.append_of_mem hmem with ⟨before, after, hevents⟩
      rcases hrounds.places hevents with ⟨reading, hread, _⟩ | ⟨_, _, left, answer, _, _, hpoll⟩
      · rw [hread]
        exact .reads reading
      · rw [hpoll]
        exact .polls _ answer

/-- What is recorded of an operation that waits and then makes one call, on a descriptor that
may be gone, and what that comes to. -/
inductive Takes (held : Option Descriptor) (direction : Direction) (deadline : Option Instant)
    (patience : Nat) (event : Descriptor -> Except Errno α -> Event) :
    List Event -> Outcome (Except Error α) -> Prop where
  | closed (hclosed : held = none) (error : Error) :
      Takes held direction deadline patience event [] (.returned (.error error))
  | unready {d : Descriptor} {waited : List Event} {cause : Error}
      (hopen : held = some d)
      (hwaits : Waits d direction patience deadline waited (.returned (.error cause)))
      (error : Error) :
      Takes held direction deadline patience event waited (.returned (.error error))
  | waiting {d : Descriptor} {waited : List Event} {reason : Halt}
      (hopen : held = some d)
      (hwaits : Waits d direction patience deadline waited (.halted reason)) :
      Takes held direction deadline patience event waited (.halted reason)
  | refused {d : Descriptor} {waited : List Event}
      (hopen : held = some d)
      (hwaits : Waits d direction patience deadline waited (.returned (.ok ())))
      (errno : Errno) (error : Error) :
      Takes held direction deadline patience event (waited ++ [event d (.error errno)])
        (.returned (.error error))
  | taken {d : Descriptor} {waited : List Event}
      (hopen : held = some d)
      (hwaits : Waits d direction patience deadline waited (.returned (.ok ()))) (value : α) :
      Takes held direction deadline patience event (waited ++ [event d (.ok value)])
        (.returned (.ok value))

section

variable {held : Option Descriptor} {event : Descriptor -> Except Errno α -> Event}

theorem takes_of_branch {operation : String} {address : Option Address}
    {owner : Except Error Descriptor} {ask : Descriptor -> Program (Except Errno α)}
    {outcome : Outcome (Except Error α)}
    (howner : owner = held.elim (.error .invalidDescriptor) .ok)
    (hask : forall d, (ask d).Asks (event d))
    (branch : Branch (Attempt.inContext operation address do
      let d ← owner
      wait d direction deadline patience
      Attempt.ofCall (ask d)).run events outcome) :
    Takes held direction deadline patience event events outcome := by
  refine (Attempt.meets_recorder_iff (P := Takes held direction deadline patience event)
    (s := [])).mp ?_ events outcome branch
  rw [howner, Attempt.meets_inContext, Attempt.meets_bind, Attempt.meets_liftExcept]
  cases held with
  | none => exact .closed rfl _
  | some d =>
      rw [Option.elim_some, Attempt.either_ok, Attempt.meets_bind]
      apply (Attempt.recorded fun _ _ => waits_of_branch).weaken
      · intro reason after hend
        rcases hend with ⟨waited, hafter, hwaits⟩
        rw [hafter]
        exact .waiting rfl hwaits
      · intro cause after hend
        rcases hend with ⟨waited, hafter, hwaits⟩
        rw [hafter]
        exact .unready rfl hwaits _
      · intro _ after hend
        rcases hend with ⟨waited, hafter, hwaits⟩
        rw [hafter, Attempt.meets_ofCall]
        apply hask d
        intro answer
        cases answer with
        | error errno => exact .refused rfl hwaits errno _
        | ok value => exact .taken rfl hwaits value

namespace Takes

variable {outcome : Outcome (Except Error α)}

theorem places
    (h : Takes held direction deadline patience event events outcome)
    {before : List Event} {place : Event} {after : List Event}
    (hevents : events = before ++ place :: after)
    (hplace : forall d, ¬ IsWaiting d direction place) :
    after = [] ∧ exists d answer, held = some d ∧ place = event d answer ∧
      Waits d direction patience deadline before (.returned (.ok ())) ∧
      forall value, answer = .ok value -> outcome = .returned (.ok value) := by
  have absent {d : Descriptor} {waited : List Event} {result : Outcome (Except Error Unit)}
      (hwaits : Waits d direction patience deadline waited result) : place ∉ waited :=
    fun hmem => hplace d (hwaits.isWaiting place hmem)
  have hmem : place ∈ events := by
    rw [hevents]
    exact List.mem_append_right _ List.mem_cons_self
  cases h with
  | closed => cases hmem
  | unready hopen hwaits | waiting hopen hwaits => exact absurd hmem (absent hwaits)
  | refused hopen hwaits errno =>
      rcases (List.append_cons_inj_of_notMem (absent hwaits) List.not_mem_nil).mp hevents with
        ⟨hbefore, hevent, hafter⟩
      rw [hbefore] at hwaits
      refine ⟨hafter.symm, _, _, hopen, hevent.symm, hwaits, ?_⟩
      intro value hanswer
      cases hanswer
  | taken hopen hwaits value =>
      rcases (List.append_cons_inj_of_notMem (absent hwaits) List.not_mem_nil).mp hevents with
        ⟨hbefore, hevent, hafter⟩
      rw [hbefore] at hwaits
      refine ⟨hafter.symm, _, _, hopen, hevent.symm, hwaits, ?_⟩
      intro other hanswer
      cases hanswer
      rfl

theorem flatMap_eq {f : Event -> List β} {gain : α -> List β}
    (hwaiting : forall d place, IsWaiting d direction place -> f place = [])
    (hrefused : forall d errno, f (event d (.error errno)) = [])
    (hgain : forall d value, f (event d (.ok value)) = gain value)
    (h : Takes held direction deadline patience event events outcome) :
    events.flatMap f = outcome.value?.elim [] gain := by
  have nothing {d : Descriptor} {waited : List Event} {result : Outcome (Except Error Unit)}
      (hwaits : Waits d direction patience deadline waited result) : waited.flatMap f = [] :=
    List.flatMap_eq_nil_iff.mpr fun place hmem => hwaiting d place (hwaits.isWaiting place hmem)
  cases h with
  | closed => rfl
  | unready hopen hwaits | waiting hopen hwaits => exact nothing hwaits
  | refused hopen hwaits errno =>
      rw [List.flatMap_append, nothing hwaits, List.flatMap_singleton, hrefused]
      rfl
  | taken hopen hwaits value =>
      rw [List.flatMap_append, nothing hwaits, List.flatMap_singleton, hgain]
      rfl

end Takes

end

end Readiness
end ServiceSocket
