import ServiceSocket.Proofs.Virtual.Settling

/-!
# Waiting on the virtual system

A wait goes from moment to moment.  It ends as soon as the socket is ready; a wait with a
limit that finds nothing ends exactly at the limit, and then the socket is not ready.
-/

namespace ServiceSocket
namespace Virtual

/-!
# Connecting
-/

namespace Socket

theorem isConnecting_of_le {socket : Socket} {now later : Nat}
    (hle : now ≤ later)
    (h : socket.isConnecting later = true) :
    socket.isConnecting now = true := by
  unfold isConnecting at h ⊢
  cases hconnecting : socket.connecting with
  | no =>
      rw [hconnecting] at h
      exact h
  | till moment =>
      rw [hconnecting] at h
      simp only [decide_eq_true_eq] at h ⊢
      omega
  | forever => rfl

theorem lasting_connecting (connecting : Connecting) :
    Lasting fun socket => socket.connecting = connecting := by
  intro socket happening h
  rcases happening with _ | _ | _ | (_ | _) | _ <;> exact h

/-- Readiness changes with time only because a connection completes. -/
def FollowsConnecting (ready : Nat -> Socket -> Bool) : Prop :=
  forall socket now later, socket.isConnecting now = socket.isConnecting later ->
    ready now socket = ready later socket

theorem followsConnecting_isReady (direction : Direction) :
    FollowsConnecting (isReady direction) := by
  intro socket now later h
  cases direction with
  | input => rfl
  | output => simp only [isReady, canSend, h]

end Socket

namespace System

variable {s : System} {number : Nat}

theorem GoesOn.connecting_eq {after : System}
    (h : s.GoesOn after)
    (number : Nat) :
    (after.socket? number).map Socket.connecting = (s.socket? number).map Socket.connecting := by
  cases hbefore : s.socket? number with
  | none =>
      have hnone := h.isSome_eq number
      rw [hbefore] at hnone
      rw [Option.not_isSome_iff_eq_none.mp (Bool.eq_false_iff.mp hnone)]
  | some socket =>
      rcases h.socket hbefore (Socket.lasting_connecting socket.connecting) rfl with
        ⟨eased, heased, hconnecting⟩
      rw [heased]
      exact congrArg some hconnecting

/-!
# Moving the clock
-/

@[simp] theorem now_advanceTo {moment : Nat} : (s.advanceTo moment).now = moment :=
  now_settle

@[simp] theorem interventions_advanceTo {moment : Nat} :
    (s.advanceTo moment).interventions = s.interventions :=
  interventions_settle

theorem advanceTo_goesOn {moment : Nat} (h : s.now ≤ moment) : s.GoesOn (s.advanceTo moment) :=
  have hmoment : s.GoesOn { s with now := moment } :=
    ⟨h, rfl, fun _ => rfl, fun _ _ _ hQ => hQ⟩
  hmoment.trans settle_goesOn

theorem advanceTo_isSettled {moment : Nat} : (s.advanceTo moment).IsSettled :=
  settle_isSettled

theorem schedule_advanceTo {moment : Nat} :
    (s.advanceTo moment).schedule = s.schedule.dropWhile fun item => item.moment ≤ moment :=
  schedule_settle

theorem socket?_advanceTo {moment : Nat}
    (h : forall item, s.schedule.head? = some item -> moment < item.moment) :
    (s.advanceTo moment).socket? number = s.socket? number := by
  have hnone : s.schedule.takeWhile (fun item => decide (item.moment ≤ moment)) = [] := by
    cases hschedule : s.schedule with
    | nil => rfl
    | cons item rest =>
        have hlater := h item (by rw [hschedule]; rfl)
        rw [List.takeWhile_cons_of_neg]
        simpa using hlater
  rw [advanceTo, settle_eq]
  simp only [hnone, List.foldl_nil]
  cases number <;> rfl

/-!
# Moments still to come
-/

theorem completion?_eq_some_iff {moment : Nat} : s.completion? number = some moment <->
    (s.socket? number).map Socket.connecting = some (.till moment) ∧ s.now < moment := by
  unfold completion?
  cases (s.socket? number).map Socket.connecting with
  | none => simp
  | some connecting =>
      cases connecting with
      | no => simp
      | forever => simp
      | till other =>
          by_cases h : s.now < other
          · simp only [h, if_true, Option.some.injEq, Connecting.till.injEq]
            constructor
            · intro hother
              exact ⟨hother, hother ▸ h⟩
            · exact And.left
          · simp only [h, if_false, Option.some.injEq, Connecting.till.injEq]
            constructor
            · intro hother
              cases hother
            · rintro ⟨hother, hnow⟩
              exact absurd (hother ▸ hnow) h

theorem nextMoment?_eq_some {moment : Nat}
    (h : s.nextMoment? number = some moment) :
    ((exists item, s.schedule.head? = some item ∧ item.moment = moment) ∨
      s.completion? number = some moment) ∧
    (forall item, s.schedule.head? = some item -> moment ≤ item.moment) ∧
    forall other, s.completion? number = some other -> moment ≤ other := by
  unfold nextMoment? at h
  cases hhead : s.schedule.head? with
  | none =>
      have hcompletion : s.completion? number = some moment := by
        rw [hhead] at h
        cases hother : s.completion? number <;> rw [hother] at h <;> exact h
      refine ⟨.inr hcompletion, by simp, ?_⟩
      intro other hother
      rw [hcompletion] at hother
      cases hother
      exact Nat.le_refl _
  | some item =>
      rw [hhead] at h
      cases hcompletion : s.completion? number with
      | none =>
          rw [hcompletion] at h
          cases h
          simp
      | some completion =>
          rw [hcompletion] at h
          cases h
          refine ⟨?_, ?_, ?_⟩
          · rcases Nat.le_total item.moment completion with hle | hle
            · exact .inl ⟨item, rfl, (Nat.min_eq_left hle).symm⟩
            · exact .inr (congrArg some (Nat.min_eq_right hle).symm)
          · intro other hother
            cases hother
            exact Nat.min_le_left ..
          · intro other hother
            cases hother
            exact Nat.min_le_right ..

theorem nextMoment?_eq_none
    (h : s.nextMoment? number = none) :
    s.schedule.head? = none ∧ s.completion? number = none := by
  unfold nextMoment? at h
  cases hhead : s.schedule.head? with
  | none =>
      rw [hhead] at h
      exact ⟨rfl, h⟩
  | some item =>
      rw [hhead] at h
      cases hcompletion : s.completion? number <;> rw [hcompletion] at h <;> cases h

theorem now_lt_of_nextMoment?
    (hsettled : s.IsSettled)
    {moment : Nat}
    (h : s.nextMoment? number = some moment) :
    s.now < moment := by
  rcases (nextMoment?_eq_some h).1 with ⟨item, hhead, hmoment⟩ | hcompletion
  · rw [← hmoment]
    exact hsettled item hhead
  · exact (completion?_eq_some_iff.mp hcompletion).2

theorem completion?_of_advanceTo {moment completion : Nat}
    (hle : s.now ≤ moment)
    (h : (s.advanceTo moment).completion? number = some completion) :
    s.completion? number = some completion ∧ moment < completion := by
  rw [completion?_eq_some_iff, (advanceTo_goesOn hle).connecting_eq number, now_advanceTo] at h
  exact ⟨completion?_eq_some_iff.mpr ⟨h.1, Nat.lt_of_le_of_lt hle h.2⟩, h.2⟩

/-- How many moments there can be at which something changes for a socket. -/
def momentsLeft (s : System) (number : Nat) : Nat :=
  s.schedule.length + (s.completion? number).isSome.toNat

theorem momentsLeft_advanceTo
    (hsettled : s.IsSettled)
    {moment : Nat}
    (h : s.nextMoment? number = some moment) :
    (s.advanceTo moment).momentsLeft number < s.momentsLeft number := by
  have hnow := Nat.le_of_lt (now_lt_of_nextMoment? hsettled h)
  have hlength := (List.dropWhile_sublist (fun item : Scheduled => decide (item.moment ≤ moment))
    (l := s.schedule)).length_le
  unfold momentsLeft
  rw [schedule_advanceTo]
  rcases (nextMoment?_eq_some h).1 with ⟨item, hhead, hmoment⟩ | hreached
  · have hfewer : (s.schedule.dropWhile fun item => decide (item.moment ≤ moment)).length <
        s.schedule.length := by
      rcases List.head?_eq_some_iff.mp hhead with ⟨rest, hrest⟩
      rw [hrest, List.dropWhile_cons_of_pos (by simpa using Nat.le_of_eq hmoment)]
      exact Nat.lt_succ_of_le (List.dropWhile_sublist _).length_le
    have hno : ((s.advanceTo moment).completion? number).isSome.toNat ≤
        (s.completion? number).isSome.toNat := by
      cases hafter : (s.advanceTo moment).completion? number with
      | none => exact Nat.zero_le _
      | some other =>
          have hsame := (completion?_of_advanceTo hnow hafter).1
          exact Nat.le_of_eq (by rw [hsame])
    omega
  · have hnone : (s.advanceTo moment).completion? number = none := by
      cases hafter : (s.advanceTo moment).completion? number with
      | none => rfl
      | some other =>
          rcases completion?_of_advanceTo hnow hafter with ⟨hsame, hlater⟩
          rw [hreached] at hsame
          cases hsame
          exact absurd hlater (Nat.lt_irrefl _)
    rw [hreached, hnone]
    exact Nat.lt_succ_of_le hlength

/-!
# Waiting
-/

structure Waits (s : System) (number : Nat) (ready : Nat -> Socket -> Bool) (limit : Option Nat)
    (answer : Bool) (after : System) : Prop where
  goesOn : s.GoesOn after
  interventions_eq : after.interventions = s.interventions
  found : answer = true -> (after.socket? number).any (ready after.now) = true
  /-- A wait with a limit gives up at the limit and not before. -/
  gaveUp : answer = false -> forall last, limit = some last ->
    after.now = last ∧ (after.socket? number).any (ready last) = false

theorem later_of_nextMoment? {last : Nat}
    (h : forall moment, s.nextMoment? number = some moment -> last < moment) :
    (forall item, s.schedule.head? = some item -> last < item.moment) ∧
      forall completion, s.completion? number = some completion -> last < completion := by
  cases hmoment : s.nextMoment? number with
  | none =>
      rcases nextMoment?_eq_none hmoment with ⟨hschedule, hcompletion⟩
      rw [hschedule, hcompletion]
      exact ⟨by simp, by simp⟩
  | some moment =>
      have hlast := h moment hmoment
      rcases (nextMoment?_eq_some hmoment).2 with ⟨hschedule, hcompletion⟩
      constructor
      · exact fun item hitem => Nat.lt_of_lt_of_le hlast (hschedule item hitem)
      · exact fun other hother => Nat.lt_of_lt_of_le hlast (hcompletion other hother)

theorem isConnecting_of_later {last : Nat} {socket : Socket}
    (hlast : s.now ≤ last)
    (hsocket : s.socket? number = some socket)
    (hlater : forall completion, s.completion? number = some completion -> last < completion) :
    socket.isConnecting last = socket.isConnecting s.now := by
  unfold Socket.isConnecting
  cases hconnecting : socket.connecting with
  | no => rfl
  | forever => rfl
  | till completion =>
      by_cases hnow : s.now < completion
      · have hcompletion : s.completion? number = some completion := by
          rw [completion?_eq_some_iff, hsocket, Option.map_some, hconnecting]
          exact ⟨rfl, hnow⟩
        simp [hnow, hlater completion hcompletion]
      · have hpast : ¬ last < completion := by omega
        simp [hnow, hpast]

/-- Nothing more happens before the limit, so that what was not ready is not ready then. -/
theorem waits_of_give_up {ready : Nat -> Socket -> Bool}
    (hready : Socket.FollowsConnecting ready)
    {last : Nat}
    (hlast : s.now ≤ last)
    (hnot : (s.socket? number).any (ready s.now) = false)
    (hnext : forall moment, s.nextMoment? number = some moment -> last < moment) :
    s.Waits number ready (some last) false (s.advanceTo last) where
  goesOn := advanceTo_goesOn hlast
  interventions_eq := interventions_advanceTo
  found := by
    intro h
    cases h
  gaveUp := by
    intro _ other hother
    cases hother
    rcases later_of_nextMoment? hnext with ⟨hschedule, hcompletion⟩
    refine ⟨now_advanceTo, ?_⟩
    rw [socket?_advanceTo hschedule]
    cases hsocket : s.socket? number with
    | none => rfl
    | some socket =>
        rw [hsocket, Option.any_some] at hnot
        rw [Option.any_some, hready socket last s.now, hnot]
        exact isConnecting_of_later hlast hsocket hcompletion

theorem waitRounds_waits {ready : Nat -> Socket -> Bool}
    (hready : Socket.FollowsConnecting ready)
    {limit : Option Nat} {rounds : Nat}
    (hsettled : s.IsSettled)
    (hlimit : forall last, limit = some last -> s.now ≤ last)
    (hrounds : s.momentsLeft number < rounds) :
    s.Waits number ready limit (waitRounds number ready limit rounds s).1
      (waitRounds number ready limit rounds s).2 := by
  induction rounds generalizing s with
  | zero => exact absurd hrounds (Nat.not_lt_zero _)
  | succ rounds ih =>
      -- The clock moves to the next moment, and the rest of the wait goes on from there.
      have advance {moment : Nat} (hmoment : s.nextMoment? number = some moment)
          (hbefore : forall last, limit = some last -> moment ≤ last) :
          s.Waits number ready limit
            (waitRounds number ready limit rounds (s.advanceTo moment)).1
            (waitRounds number ready limit rounds (s.advanceTo moment)).2 := by
        have hfewer := momentsLeft_advanceTo hsettled hmoment
        have hrest := ih (s := s.advanceTo moment) advanceTo_isSettled (by simpa using hbefore)
          (by omega)
        have hnow := Nat.le_of_lt (now_lt_of_nextMoment? hsettled hmoment)
        exact ⟨(advanceTo_goesOn hnow).trans hrest.goesOn,
          hrest.interventions_eq.trans interventions_advanceTo, hrest.found, hrest.gaveUp⟩
      unfold waitRounds
      split
      next hnow =>
          exact ⟨GoesOn.refl s, rfl, fun _ => hnow, by simp⟩
      next hnot =>
          have hnot : (s.socket? number).any (ready s.now) = false := by simpa using hnot
          split
          next moment hmoment => exact advance hmoment (by simp)
          next moment last hmoment =>
              split
              next hle => exact advance hmoment (by simpa using hle)
              next hle =>
                  apply waits_of_give_up hready (hlimit last rfl) hnot
                  intro other hother
                  rw [hmoment] at hother
                  cases hother
                  exact Nat.not_le.mp hle
          next last hmoment =>
              apply waits_of_give_up hready (hlimit last rfl) hnot
              intro other hother
              rw [hmoment] at hother
              cases hother
          next hmoment =>
              exact ⟨GoesOn.refl s, rfl, by simp, by simp⟩

theorem wait_waits {ready : Nat -> Socket -> Bool}
    (hready : Socket.FollowsConnecting ready)
    (hsettled : s.IsSettled)
    (number : Nat) (limit : Option Nat)
    (hlimit : forall last, limit = some last -> s.now ≤ last) :
    s.Waits number ready limit (s.wait number ready limit).1 (s.wait number ready limit).2 := by
  apply waitRounds_waits hready hsettled hlimit
  have hcompletion := Bool.toNat_le (s.completion? number).isSome
  unfold momentsLeft
  omega

theorem wait_waits_for {ready : Nat -> Socket -> Bool}
    (hready : Socket.FollowsConnecting ready)
    (hsettled : s.IsSettled)
    (number time : Nat) :
    s.Waits number ready (some (s.now + time)) (s.wait number ready (some (s.now + time))).1
      (s.wait number ready (some (s.now + time))).2 := by
  apply wait_waits hready hsettled
  intro last hlast
  cases hlast
  exact Nat.le_add_right _ _

end System
end Virtual
end ServiceSocket
