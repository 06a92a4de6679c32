import Mathlib.Algebra.Order.Group.Multiset
import ServiceSocket.Proofs.Kernel.Monitor

/-!
# Ownership of descriptors

The ledger of a program lists the descriptors that it holds, each as often as it was
obtained.  A call may only name a descriptor on the ledger, and closing strikes it off.
What a program does with a ledger it does beside any other descriptors, which it leaves
alone.
-/

namespace ServiceSocket

/-!
# The ledger
-/

namespace Call

def target? : Call -> Option Descriptor
  | .openStream _ | .now => none
  | .bind d _ | .connect d _ | .listen d _ | .accept d | .localRecord d | .peerRecord d
  | .receive d _ | .send d _ _ _ | .shutdown d _ | .configure d _ | .linger d
  | .waitLimit d _ | .takeFailure d | .poll d _ _ | .isNonblocking d | .setNonblocking d _
  | .duplicate d | .close d => some d

def isPassive : Call -> Bool
  | .openStream _ | .accept _ | .duplicate _ | .close _ => false
  | _ => true

/-- The call uses a descriptor of these and gets or closes none. -/
def Uses (own : Multiset Descriptor) (c : Call) : Prop :=
  c.isPassive = true ∧ forall d, c.target? = some d -> d ∈ own

end Call

namespace Event

def gained? : Event -> Option Descriptor
  | ⟨.openStream _, .ok d⟩ => some d
  | ⟨.accept _, .ok (d, _)⟩ => some d
  | ⟨.duplicate _, .ok d⟩ => some d
  | _ => none

def closed? : Event -> Option Descriptor
  | ⟨.close d, _⟩ => some d
  | _ => none

def heldAfter (held : Multiset Descriptor) (event : Event) : Multiset Descriptor :=
  match event.gained?, event.closed? with
  | some d, _ => d ::ₘ held
  | none, some d => held.erase d
  | none, none => held

theorem closed?_eq_some {event : Event} {d : Descriptor}
    (h : event.closed? = some d) :
    event.call.target? = some d ∧ event.gained? = none := by
  rcases event with ⟨c, answer⟩
  cases c <;> first | exact ⟨h, rfl⟩ | cases h

theorem heldAfter_of_gained {held : Multiset Descriptor} {event : Event} {d : Descriptor}
    (h : event.gained? = some d) : event.heldAfter held = d ::ₘ held := by
  simp only [heldAfter, h]

theorem heldAfter_of_closed {held : Multiset Descriptor} {event : Event} {d : Descriptor}
    (h : event.closed? = some d) : event.heldAfter held = held.erase d := by
  simp only [heldAfter, (closed?_eq_some h).2, h]

theorem heldAfter_of_neither {held : Multiset Descriptor} {event : Event}
    (hgained : event.gained? = none)
    (hclosed : event.closed? = none) :
    event.heldAfter held = held := by
  simp only [heldAfter, hgained, hclosed]

theorem heldAfter_of_isPassive {held : Multiset Descriptor} {event : Event}
    (h : event.call.isPassive = true) : event.heldAfter held = held := by
  rcases event with ⟨c, answer⟩
  cases c <;> first | rfl | cases h

end Event

def ledger : Monitor (Multiset Descriptor) where
  step held event after := after = event.heldAfter held
  allowed held c := forall d, c.target? = some d -> d ∈ held

/-!
# Programs with a ledger
-/

/-- With these descriptors and no others, the program ends holding those that go with its
value. -/
def Program.Carries (p : Program α) (own : Multiset Descriptor)
    (result : α -> Multiset Descriptor) : Prop :=
  p.Meets ledger (fun _ _ => True) (fun value held => held = result value) own

/-- As for programs; an error goes with the descriptors `failed`. -/
def Attempt.Carries (body : Attempt α) (own failed : Multiset Descriptor)
    (result : α -> Multiset Descriptor) : Prop :=
  body.Meets ledger (fun _ _ => True) (fun _ held => held = failed)
    (fun value held => held = result value) own

namespace Program

variable {own : Multiset Descriptor}

theorem heldAfter_add {own frame : Multiset Descriptor} {event : Event}
    (hallowed : ledger.allowed own event.call) :
    event.heldAfter (own + frame) = event.heldAfter own + frame := by
  cases hgained : event.gained? with
  | some d =>
      rw [Event.heldAfter_of_gained hgained, Event.heldAfter_of_gained hgained]
      exact (Multiset.cons_add d own frame).symm
  | none =>
      cases hclosed : event.closed? with
      | some d =>
          rw [Event.heldAfter_of_closed hclosed, Event.heldAfter_of_closed hclosed]
          exact Multiset.erase_add_left_pos frame (hallowed d (Event.closed?_eq_some hclosed).1)
      | none =>
          rw [Event.heldAfter_of_neither hgained hclosed,
            Event.heldAfter_of_neither hgained hclosed]

/-- What a program does with some descriptors it does beside any others. -/
theorem Meets.frame {halt : Halt -> Multiset Descriptor -> Prop} {p : Program α}
    {post : α -> Multiset Descriptor -> Prop}
    (h : p.Meets ledger halt post own)
    (frame : Multiset Descriptor) :
    p.Meets ledger (fun reason held => exists kept, held = kept + frame ∧ halt reason kept)
      (fun value held => exists kept, held = kept + frame ∧ post value kept) (own + frame) := by
  induction p generalizing own with
  | done value => exact ⟨own, rfl, h⟩
  | halt reason => exact ⟨own, rfl, h⟩
  | call c next ih =>
      constructor
      · intro d htarget
        exact Multiset.mem_add.mpr (.inl (h.1 d htarget))
      · intro answer after hstep
        rw [hstep, heldAfter_add h.1]
        exact ih answer (h.2 answer _ rfl)

theorem Carries.frame {p : Program α} {result : α -> Multiset Descriptor}
    (h : p.Carries own result)
    (frame : Multiset Descriptor) :
    p.Carries (own + frame) (fun value => result value + frame) := by
  apply (Meets.frame h frame).weaken
  · intro _ _ _
    trivial
  · intro value held hheld
    rcases hheld with ⟨kept, hheld, hkept⟩
    rw [hheld, hkept]

theorem Carries.bind {p : Program α} {f : α -> Program β} {middle : α -> Multiset Descriptor}
    {result : β -> Multiset Descriptor}
    (hp : p.Carries own middle)
    (hf : forall value, (f value).Carries (middle value) result) :
    (p >>= f).Carries own result := by
  rw [Carries, meets_bind]
  apply Meets.mono hp
  intro value held hheld
  rw [hheld]
  exact hf value

theorem carries_of_uses {p : Program α}
    (h : p.Makes (Call.Uses own)) : p.Carries own (fun _ => own) := by
  apply (Makes.meets (I := (· = own)) h _ _ rfl).weaken
  · intro _ _ _
    trivial
  · intro _ held hheld
    exact hheld
  · intro held c hheld hc d htarget
    rw [hheld]
    exact hc.2 d htarget
  · intro held c answer after hheld hc hstep
    rw [hstep, Event.heldAfter_of_isPassive hc.1, hheld]

theorem Carries.meets {p : Program α} {result : α -> Multiset Descriptor}
    (h : p.Carries own result)
    (frame : Multiset Descriptor) {post : α -> Multiset Descriptor -> Prop}
    (hpost : forall value, post value (result value + frame)) :
    p.Meets ledger (fun _ _ => True) post (own + frame) := by
  apply Meets.mono (h.frame frame)
  intro value held hheld
  rw [hheld]
  exact hpost value

end Program

namespace Attempt

variable {own failed : Multiset Descriptor}

theorem Carries.frame {body : Attempt α} {result : α -> Multiset Descriptor}
    (h : body.Carries own failed result)
    (frame : Multiset Descriptor) :
    body.Carries (own + frame) (failed + frame) (fun value => result value + frame) := by
  apply Program.Meets.weaken (Program.Meets.frame h frame)
  · intro _ _ _
    trivial
  · intro outcome held hheld
    rcases hheld with ⟨kept, hheld, hkept⟩
    cases outcome with
    | ok value =>
        change held = result value + frame
        rw [hheld, hkept]
    | error error =>
        change held = failed + frame
        rw [hheld, hkept]

theorem Carries.bind {body : Attempt α} {f : α -> Attempt β} {middle : α -> Multiset Descriptor}
    {result : β -> Multiset Descriptor}
    (hbody : body.Carries own failed middle)
    (hf : forall value, (f value).Carries (middle value) failed result) :
    (body >>= f).Carries own failed result := by
  rw [Carries, meets_bind]
  apply Meets.mono hbody
  · intro error held hheld
    exact hheld
  · intro value held hheld
    rw [hheld]
    exact hf value

theorem carries_of_uses {body : Attempt α}
    (h : body.run.Makes (Call.Uses own)) : body.Carries own own (fun _ => own) := by
  apply Program.Meets.mono (Program.carries_of_uses h)
  intro outcome held hheld
  cases outcome with
  | ok value => exact hheld
  | error error => exact hheld

@[simp] theorem carries_inContext {operation : String} {address : Option Address}
    {body : Attempt α} {result : α -> Multiset Descriptor} :
    (inContext operation address body).Carries own failed result <->
      body.Carries own failed result := by
  rw [Carries, meets_inContext]
  rfl

theorem Carries.map {body : Attempt α} {f : α -> β} {result : β -> Multiset Descriptor}
    (h : body.Carries own failed fun value => result (f value)) :
    (f <$> body).Carries own failed result := by
  rw [map_eq_pure_bind]
  exact h.bind fun _ => rfl

end Attempt

theorem Program.Carries.lift {own failed : Multiset Descriptor} {p : Program α}
    {result : α -> Multiset Descriptor}
    (h : p.Carries own result) :
    (liftM p : Attempt α).Carries own failed result := by
  rw [Attempt.Carries, Attempt.meets_lift]
  exact h

/-!
# Getting and closing descriptors
-/

namespace Descriptor

variable {d : Descriptor}

theorem openStream_carries (family : Family) :
    (Attempt.ofCall (openStream family)).Carries 0 0 fun d => {d} := by
  simp only [Attempt.Carries, Attempt.meets_ofCall, openStream, Program.ask,
    Program.meets_call, Program.meets_done]
  constructor
  · intro d htarget
    cases htarget
  · intro answer held hstep
    cases answer with
    | error errno => exact hstep
    | ok d => exact hstep

theorem allowed_of_target {c : Call}
    (htarget : c.target? = some d) : ledger.allowed {d} c := by
  intro other hother
  rw [htarget] at hother
  cases hother
  exact Multiset.mem_singleton_self d

theorem accept_carries :
    (Attempt.ofCall d.accept).Carries {d} {d} fun caller => {caller.1, d} := by
  simp only [Attempt.Carries, Attempt.meets_ofCall, accept, Program.ask, Program.meets_call,
    Program.meets_done]
  constructor
  · exact allowed_of_target rfl
  · intro answer held hstep
    rcases answer with errno | ⟨copy, record⟩
    · exact hstep
    · exact hstep

theorem duplicate_carries :
    (Attempt.ofCall d.duplicate).Carries {d} {d} fun copy => {copy, d} := by
  simp only [Attempt.Carries, Attempt.meets_ofCall, duplicate, Program.ask,
    Program.meets_call, Program.meets_done]
  constructor
  · exact allowed_of_target rfl
  · intro answer held hstep
    cases answer with
    | error errno => exact hstep
    | ok copy => exact hstep

theorem close_carries : d.close.Carries {d} fun _ => 0 := by
  constructor
  · exact allowed_of_target rfl
  · intro answer held hstep
    exact hstep.trans (Multiset.erase_singleton d)

theorem release_carries : d.release.Carries {d} fun _ => 0 := by
  rw [Program.Carries, release, Program.meets_bind]
  exact close_carries

theorem guarding_carries {body : Attempt α} {result : α -> Multiset Descriptor}
    (h : body.Carries {d} {d} result) : (d.guarding body).Carries {d} 0 result := by
  rw [Attempt.Carries, meets_guarding]
  apply Attempt.Meets.mono h
  · intro error held hheld
    rw [hheld]
    exact release_carries
  · intro value held hheld
    exact hheld

end Descriptor
end ServiceSocket
