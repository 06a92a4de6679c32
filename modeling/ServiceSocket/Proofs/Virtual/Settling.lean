import Mathlib.Data.List.TakeDrop
import ServiceSocket.Virtual.Calls

/-!
# The virtual system goes on

While calls wait, peers act and the clock moves forward.  What peers cannot change about a
socket stays as it is, and nothing that is due is left in the schedule.
-/

namespace ServiceSocket
namespace Virtual

/-!
# Sockets
-/

/-- No doing of a peer makes an end of this. -/
def Socket.Lasting (Q : Socket -> Prop) : Prop :=
  forall (socket : Socket) (happening : Happening), Q socket -> Q (happening.apply socket)

theorem Socket.Lasting.and {P Q : Socket -> Prop}
    (hP : Lasting P)
    (hQ : Lasting Q) :
    Lasting fun socket => P socket ∧ Q socket := by
  intro socket happening h
  exact ⟨hP socket happening h.1, hQ socket happening h.2⟩

namespace System

variable {s t : System} {number : Nat} {Q : Socket -> Prop}

def Has (s : System) (number : Nat) (Q : Socket -> Prop) : Prop :=
  forall socket, s.socket? number = some socket -> Q socket

theorem Has.mono {R : Socket -> Prop}
    (h : s.Has number Q)
    (hQR : forall socket, Q socket -> R socket) :
    s.Has number R := by
  intro socket hsocket
  exact hQR socket (h socket hsocket)

theorem socket?_update (changed : Nat) (f : Socket -> Socket) :
    (s.update changed f).socket? number =
      if number = changed then (s.socket? number).map f else s.socket? number := by
  cases changed with
  | zero =>
      cases number with
      | zero => rfl
      | succ index => rfl
  | succ place =>
      cases number with
      | zero => rfl
      | succ index =>
          simp only [update, socket?, List.getElem?_modify, Nat.add_right_cancel_iff,
            Option.map_eq_map]
          by_cases h : place = index
          · simp only [h, if_true]
          · simp only [h, Ne.symm h, if_false, Option.map_id']

theorem Has.update {R : Socket -> Prop} {f : Socket -> Socket}
    (h : s.Has number Q)
    (hf : forall socket, Q socket -> R (f socket)) :
    (s.update number f).Has number R := by
  intro socket hsocket
  rw [socket?_update, if_pos rfl] at hsocket
  rcases Option.map_eq_some_iff.mp hsocket with ⟨old, hold, hnew⟩
  rw [← hnew]
  exact hf old (h old hold)

theorem Has.update_keeps {changed : Nat} {f : Socket -> Socket}
    (h : s.Has number Q)
    (hf : forall socket, Q socket -> Q (f socket)) :
    (s.update changed f).Has number Q := by
  by_cases hnumber : number = changed
  · rw [hnumber] at h ⊢
    exact h.update hf
  · intro socket hsocket
    rw [socket?_update, if_neg hnumber] at hsocket
    exact h socket hsocket

/-!
# The parts of a state
-/

@[simp] theorem now_update (f : Socket -> Socket) : (s.update number f).now = s.now := by
  cases number <;> rfl

@[simp] theorem descriptors_update (f : Socket -> Socket) :
    (s.update number f).descriptors = s.descriptors := by
  cases number <;> rfl

theorem socketOf_update (f : Socket -> Socket) (d : Descriptor) :
    (s.update number f).socketOf d = s.socketOf d := by
  rw [socketOf, descriptors_update, socketOf]

@[simp] theorem interventions_update (f : Socket -> Socket) :
    (s.update number f).interventions = s.interventions := by
  cases number <;> rfl

@[simp] theorem plans_update (f : Socket -> Socket) : (s.update number f).plans = s.plans := by
  cases number <;> rfl

@[simp] theorem schedule_update (f : Socket -> Socket) :
    (s.update number f).schedule = s.schedule := by
  cases number <;> rfl

/-!
# Going on
-/

/-- The clock has not gone back, and everything that peers cannot change is as it was. -/
structure GoesOn (s after : System) : Prop where
  now_le : s.now ≤ after.now
  descriptors_eq : after.descriptors = s.descriptors
  isSome_eq : forall number, (after.socket? number).isSome = (s.socket? number).isSome
  keeps : forall number Q, Socket.Lasting Q -> s.Has number Q -> after.Has number Q

namespace GoesOn

theorem refl (s : System) : s.GoesOn s :=
  ⟨Nat.le_refl _, rfl, fun _ => rfl, fun _ _ _ h => h⟩

theorem trans {mid after : System}
    (first : s.GoesOn mid)
    (second : mid.GoesOn after) :
    s.GoesOn after where
  now_le := Nat.le_trans first.now_le second.now_le
  descriptors_eq := second.descriptors_eq.trans first.descriptors_eq
  isSome_eq number := (second.isSome_eq number).trans (first.isSome_eq number)
  keeps number Q hQ h := second.keeps number Q hQ (first.keeps number Q hQ h)

theorem socketOf_eq {after : System}
    (h : s.GoesOn after)
    (d : Descriptor) :
    after.socketOf d = s.socketOf d := by
  rw [socketOf, h.descriptors_eq, socketOf]

theorem socket {after : System} {socket : Socket}
    (h : s.GoesOn after)
    (hsocket : s.socket? number = some socket)
    (hQ : Socket.Lasting Q)
    (hholds : Q socket) :
    exists eased, after.socket? number = some eased ∧ Q eased := by
  have hsome := h.isSome_eq number
  rw [hsocket] at hsome
  rcases Option.isSome_iff_exists.mp hsome with ⟨eased, heased⟩
  have hkept : s.Has number Q := by
    intro other hother
    rw [hsocket] at hother
    cases hother
    exact hholds
  exact ⟨eased, heased, h.keeps number Q hQ hkept eased heased⟩

end GoesOn

theorem goesOn_update (changed : Nat) {f : Socket -> Socket}
    (hf : forall Q, Socket.Lasting Q -> forall socket, Q socket -> Q (f socket)) :
    s.GoesOn (s.update changed f) where
  now_le := Nat.le_of_eq (now_update f).symm
  descriptors_eq := descriptors_update f
  isSome_eq number := by
    rw [socket?_update]
    split
    next => exact Option.isSome_map
    next => rfl
  keeps _ Q hQ h := h.update_keeps (hf Q hQ)

/-!
# Settling
-/

theorem settle_eq : s.settle =
    (s.schedule.takeWhile fun item => item.moment ≤ s.now).foldl
      (fun s item => s.update item.socket fun socket => item.happening.apply socket)
      { s with schedule := s.schedule.dropWhile fun item => item.moment ≤ s.now } := by
  rw [settle, List.span_eq_takeWhile_dropWhile]

theorem foldl_update_keeps {P : System -> Prop}
    (hP : forall (t : System) (item : Scheduled), P t ->
      P (t.update item.socket fun socket => item.happening.apply socket))
    (due : List Scheduled)
    (h : P t) :
    P (due.foldl
      (fun s item => s.update item.socket fun socket => item.happening.apply socket) t) := by
  induction due generalizing t with
  | nil => exact h
  | cons item due ih => exact ih (hP t item h)

theorem settle_goesOn : s.GoesOn s.settle := by
  rw [settle_eq]
  apply foldl_update_keeps (P := s.GoesOn)
  · intro t item h
    apply h.trans (goesOn_update item.socket _)
    intro Q hQ socket hsocket
    exact hQ socket item.happening hsocket
  · exact ⟨Nat.le_refl _, rfl, fun _ => rfl, fun _ _ _ h => h⟩

theorem settle_keeps {β : Type} (field : System -> β)
    (hupdate : forall (t : System) (number : Nat) (f : Socket -> Socket),
      field (t.update number f) = field t)
    (hschedule : forall (t : System) (later : List Scheduled),
      field { t with schedule := later } = field t) :
    field s.settle = field s := by
  rw [settle_eq]
  apply foldl_update_keeps (P := fun t => field t = field s)
  · intro t item h
    exact (hupdate t _ _).trans h
  · exact hschedule s _

@[simp] theorem now_settle : s.settle.now = s.now :=
  settle_keeps System.now (fun _ _ f => now_update f) fun _ _ => rfl

@[simp] theorem interventions_settle : s.settle.interventions = s.interventions :=
  settle_keeps System.interventions (fun _ _ f => interventions_update f) fun _ _ => rfl

@[simp] theorem plans_settle : s.settle.plans = s.plans :=
  settle_keeps System.plans (fun _ _ f => plans_update f) fun _ _ => rfl

theorem schedule_settle :
    s.settle.schedule = s.schedule.dropWhile fun item => item.moment ≤ s.now := by
  rw [settle_eq]
  apply foldl_update_keeps (P := fun t =>
    t.schedule = s.schedule.dropWhile fun item => item.moment ≤ s.now)
  · intro t item h
    exact (schedule_update _).trans h
  · rfl

def IsSettled (s : System) : Prop :=
  forall item, s.schedule.head? = some item -> s.now < item.moment

theorem settle_isSettled : s.settle.IsSettled := by
  intro item hitem
  rw [schedule_settle] at hitem
  have hlater := List.head?_dropWhile_not (fun item : Scheduled => decide (item.moment ≤ s.now))
    s.schedule
  rw [hitem] at hlater
  simpa using hlater

theorem settle_of_isSettled (h : s.IsSettled) : s.settle = s := by
  rw [settle_eq]
  cases hschedule : s.schedule with
  | nil =>
      simp only [List.takeWhile_nil, List.dropWhile_nil, List.foldl_nil]
      rw [← hschedule]
  | cons item rest =>
      have hlater : decide (item.moment ≤ s.now) = false := by
        simpa using h item (by rw [hschedule]; rfl)
      simp only [List.takeWhile_cons, List.dropWhile_cons, hlater, List.foldl_nil,
        Bool.false_eq_true, if_false]
      rw [← hschedule]

end System
end Virtual
end ServiceSocket
