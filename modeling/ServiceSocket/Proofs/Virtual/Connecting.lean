import ServiceSocket.Proofs.Virtual.Answers

/-!
# Connecting on the virtual system

A new socket behaves as it was planned.  When it is told to connect without waiting, it is
not writable until its peer has completed the connection.
-/

namespace ServiceSocket
namespace Virtual

/-- The peer has completed a connection that was started at a moment. -/
def Handshake.CompleteBy (start moment : Nat) : Handshake -> Prop
  | .after nanoseconds => start + nanoseconds ≤ moment
  | .never => False

theorem Handshake.CompleteBy.of_le {handshake : Handshake} {start moment later : Nat}
    (h : handshake.CompleteBy start moment)
    (hle : moment ≤ later) :
    handshake.CompleteBy start later := by
  cases handshake with
  | after nanoseconds => exact Nat.le_trans h hle
  | never => exact h

/-- A socket that was told to connect is not writable at a moment: the connection is not
complete, or there is no room for a single byte. -/
def Plan.Stalls (plan : Plan) (start moment : Nat) : Prop :=
  ¬ plan.handshake.CompleteBy start moment ∨ plan.capacity = 0

theorem Plan.Stalls.of_le {plan : Plan} {start moment later : Nat}
    (h : plan.Stalls start later)
    (hle : moment ≤ later) :
    plan.Stalls start moment :=
  h.imp_left fun hpending hcomplete => hpending (hcomplete.of_le hle)

def Handshake.connecting (start : Nat) : Handshake -> Connecting
  | .after nanoseconds => .till (start + nanoseconds)
  | .never => .forever

namespace Socket

variable {plan : Plan} {connecting : Connecting} {start now : Nat} {socket : Socket}

structure Unsent (plan : Plan) (connecting : Connecting) (socket : Socket) : Prop where
  plan_eq : socket.plan = plan
  untaken_eq : socket.untaken = 0
  connecting_eq : socket.connecting = connecting

theorem unsent_ofPlan (stack : Stack) (plan : Plan) : (ofPlan stack plan).Unsent plan .no :=
  ⟨rfl, rfl, rfl⟩

theorem lasting_unsent (plan : Plan) (connecting : Connecting) :
    Lasting (Unsent plan connecting) := by
  intro socket happening h
  refine ⟨?_, ?_, lasting_connecting connecting socket happening h.connecting_eq⟩
  · rcases happening with _ | _ | _ | (_ | count) | _ <;> exact h.plan_eq
  · rcases happening with _ | _ | _ | (_ | count) | _
    · exact h.untaken_eq
    · exact h.untaken_eq
    · exact h.untaken_eq
    · rfl
    · change socket.untaken - count = 0
      rw [h.untaken_eq, Nat.zero_sub]
    · exact h.untaken_eq

theorem lasting_nonblocking (nonblocking : Bool) :
    Lasting fun socket => socket.nonblocking = nonblocking := by
  intro socket happening h
  rcases happening with _ | _ | _ | (_ | _) | _ <;> exact h

theorem Unsent.isConnecting_iff
    (h : socket.Unsent plan (plan.handshake.connecting start)) :
    socket.isConnecting now = true <-> ¬ plan.handshake.CompleteBy start now := by
  rw [isConnecting, h.connecting_eq]
  cases plan.handshake with
  | after nanoseconds =>
      change decide (now < start + nanoseconds) = true <-> ¬ start + nanoseconds ≤ now
      rw [decide_eq_true_eq, Nat.not_le]
  | never => exact ⟨fun _ => id, fun _ => rfl⟩

theorem Unsent.completeBy
    (h : socket.Unsent plan (plan.handshake.connecting start))
    (hroom : socket.canSend now = true) :
    plan.handshake.CompleteBy start now := by
  have hconnected := (canSend_iff.mp hroom).1
  by_contra hpending
  rw [h.isConnecting_iff.mpr hpending] at hconnected
  cases hconnected

theorem Unsent.stalls
    (h : socket.Unsent plan (plan.handshake.connecting start))
    (hfull : socket.canSend now = false) :
    plan.Stalls start now := by
  cases hconnecting : socket.isConnecting now with
  | true => exact .inl (h.isConnecting_iff.mp hconnecting)
  | false =>
      refine .inr ?_
      by_contra hcapacity
      have hroom : socket.canSend now = true := by
        refine canSend_iff.mpr ⟨hconnecting, .inl ?_⟩
        rw [h.untaken_eq, h.plan_eq]
        exact Nat.pos_of_ne_zero hcapacity
      rw [hroom] at hfull
      cases hfull

end Socket

namespace System

variable {s after : System} {d : Descriptor} {plan : Plan} {Q R : Socket -> Prop}

/-- Nothing intervenes, and this holds of the socket of the descriptor. -/
structure Calm (s : System) (d : Descriptor) (Q : Socket -> Prop) : Prop where
  interventions_eq : s.interventions = []
  socket : exists number, s.socketOf d = some number ∧ s.Has number Q

/-!
# Making a socket
-/

def nextPlan (s : System) : Plan :=
  s.plans.head?.getD {}

theorem openStream_makes
    (hnone : s.interventions = [])
    {family : Family} {opened : Descriptor}
    (h : s.openStream family = (.ok opened, after)) :
    after.now = s.now ∧ after.Calm opened (Socket.Unsent s.nextPlan .no) := by
  have hplans := s.plans_draw .socket
  have begins := s.draw_begins .socket
  rcases hdraw : s.draw .socket with ⟨intervention, begun⟩
  rw [hdraw] at begins hplans
  dsimp only at begins hplans
  rcases begins.of_nil hnone with ⟨hintervention, hinterventions, hnow⟩
  unfold openStream at h
  rw [hdraw, hintervention] at h
  cases h
  refine ⟨hnow, hinterventions, begun.sockets.length + 1, ?_, ?_⟩
  · change ((begun.descriptors ++
      [some (begun.sockets.length + 1)])[begun.descriptors.length]?).join = _
    rw [List.getElem?_concat_length]
    rfl
  · intro socket hsocket
    change (begun.sockets ++
      [Socket.ofPlan .tipc (begun.plans.head?.getD {})])[begun.sockets.length]? = _ at hsocket
    rw [List.getElem?_concat_length, hplans] at hsocket
    cases hsocket
    exact Socket.unsent_ofPlan ..

theorem Calm.nonblocking_eq
    (calm : s.Calm d Q)
    {told : Bool}
    (h : s.isNonblocking d = .ok told) :
    s.Calm d fun socket => Q socket ∧ socket.nonblocking = told := by
  rcases calm.socket with ⟨number, hnumber, hsocket⟩
  refine ⟨calm.interventions_eq, number, hnumber, ?_⟩
  intro socket hfound
  rw [isNonblocking, hnumber, Option.bind_some, hfound] at h
  cases h
  exact ⟨hsocket socket hfound, rfl⟩

theorem changing_ok
    (calm : s.Calm d Q)
    (hlasting : Socket.Lasting Q)
    {name : CallName} {arguments : List Argument} {change : Socket -> Socket}
    (h : s.changing name d arguments change = (.ok (), after))
    (hchange : forall socket, Q socket -> R (change socket)) :
    after.now = s.now ∧ after.Calm d R := by
  rcases calm.socket with ⟨number, hnumber, hsocket⟩
  generalize hok : Except.ok () = answer at h
  cases onSocket_handles h with
  | unknown => cases hok
  | demanded => cases hok
  | missing => cases hok
  | @done found intervention begun ended entry socket result hfound begins hbegun hbody =>
      rw [hnumber] at hfound
      cases hfound
      cases hbody
      rcases begins.of_nil calm.interventions_eq with ⟨_, hinterventions, hnow⟩
      have hbegun := (begins.goesOn.socketOf_eq d).trans hnumber
      exact ⟨(now_update change).trans hnow, (interventions_update change).trans hinterventions,
        number, (socketOf_update change d).trans hbegun,
        Has.update (begins.goesOn.keeps number Q hlasting hsocket) hchange⟩

/-!
# Connecting without waiting
-/

structure Pends (s : System) (d : Descriptor) (plan : Plan) (start : Nat) : Prop where
  interventions_eq : s.interventions = []
  socket : exists number socket, s.socketOf d = some number ∧ s.socket? number = some socket ∧
    socket.Unsent plan (plan.handshake.connecting start)
  pending : ¬ plan.handshake.CompleteBy start s.now

inductive ConnectEnds (d : Descriptor) (plan : Plan) (start : Nat) (after : System) :
    Except Errno Unit -> Prop where
  | failed : ConnectEnds d plan start after (.error .badDescriptor)
  | atOnce (hcomplete : plan.handshake.CompleteBy start after.now) :
      ConnectEnds d plan start after (.ok ())
  | goesOn (pends : after.Pends d plan start) : ConnectEnds d plan start after (.error .inProgress)

theorem pends_of_told {number : Nat} {socket : Socket} (connecting : Connecting)
    (hnone : s.interventions = [])
    (hnumber : s.socketOf d = some number)
    (hsocket : s.socket? number = some socket)
    (hunsent : socket.Unsent plan .no)
    (hconnecting : connecting = plan.handshake.connecting s.now)
    (hpending : ¬ plan.handshake.CompleteBy s.now s.now)
    (record : Record) (entry : Entry) :
    ((s.update number fun socket =>
      { socket with target := some record, connecting }).record entry).Pends d plan s.now where
  interventions_eq := (interventions_update _).trans hnone
  socket := by
    refine ⟨number, { socket with target := some record, connecting },
      (socketOf_update _ d).trans hnumber, (socket?_update number _).trans ?_, hunsent.plan_eq,
      hunsent.untaken_eq, hconnecting⟩
    rw [if_pos rfl, hsocket]
    rfl
  pending hcomplete := hpending (hcomplete.of_le (Nat.le_of_eq (now_update _)))

theorem connect_ends
    (calm : s.Calm d fun socket => socket.Unsent plan .no ∧ socket.nonblocking = true)
    {record : Record} {answer : Except Errno Unit}
    (h : s.connect d record = (answer, after)) :
    after.now = s.now ∧ ConnectEnds d plan s.now after answer := by
  rcases calm.socket with ⟨number, hnumber, hsocket⟩
  cases onSocket_handles h with
  | unknown hunknown =>
      rw [hnumber] at hunknown
      cases hunknown
  | demanded hfound begins hfailure =>
      rw [(begins.of_nil calm.interventions_eq).1] at hfailure
      cases hfailure
  | missing hfound begins => exact ⟨(begins.of_nil calm.interventions_eq).2.2, .failed⟩
  | @done found intervention begun ended entry socket result hfound begins hbegun hbody =>
      rcases begins.of_nil calm.interventions_eq with ⟨_, hinterventions, hnow⟩
      rw [hnumber] at hfound
      cases hfound
      have hlasting := (Socket.lasting_unsent plan .no).and (Socket.lasting_nonblocking true)
      rcases begins.goesOn.keeps number _ hlasting hsocket socket hbegun with
        ⟨hunsent, hnonblocking⟩
      rw [hnonblocking, hunsent.plan_eq] at hbody
      have pends (connecting : Connecting) := pends_of_told connecting hinterventions
        ((begins.goesOn.socketOf_eq d).trans hnumber) hbegun hunsent
      rw [← hnow]
      cases hhandshake : plan.handshake with
      | never =>
          rw [hhandshake] at hbody pends
          cases hbody
          exact ⟨now_update _, .goesOn (pends .forever rfl id record entry)⟩
      | after nanoseconds =>
          rw [hhandshake] at hbody pends
          cases nanoseconds with
          | zero =>
              cases hbody
              refine ⟨now_update _, .atOnce ?_⟩
              rw [hhandshake]
              exact Nat.le_of_eq (now_update _).symm
          | succ delay =>
              cases hbody
              have hpending : ¬ begun.now + (delay + 1) ≤ begun.now :=
                Nat.not_le.mpr (Nat.lt_add_of_pos_right (Nat.succ_pos delay))
              exact ⟨now_update _, .goesOn (pends (.till _) rfl hpending record entry)⟩

end System
end Virtual
end ServiceSocket
