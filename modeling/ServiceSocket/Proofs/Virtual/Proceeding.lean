import ServiceSocket.Proofs.Virtual.Answers

/-!
# What no call takes back

Every call takes no time or lets the clock move forward, by an intervention or by waiting.
Sockets stay, numbers of descriptors are not given out again, and nothing but setting it
changes how long a socket lingers.
-/

namespace ServiceSocket

def Call.setsLinger : Call -> Bool
  | .configure _ (.linger _) => true
  | _ => false

namespace Virtual

theorem Socket.lasting_linger (option : Linger) :
    Lasting fun socket => socket.linger = option := by
  intro socket happening h
  rcases happening with _ | _ | _ | (_ | _) | _ <;> exact h

namespace System

variable {s after : System} {d : Descriptor} {number : Nat}

def linger? (s : System) (number : Nat) : Option Linger :=
  (s.socket? number).map Socket.linger

/-- What all calls keep, but for those that set the option. -/
structure Proceeds (s after : System) : Prop where
  now_le : s.now ≤ after.now
  length_le : s.descriptors.length ≤ after.descriptors.length
  /-- A number that has been given out stands for the same socket or for none. -/
  socketOf_eq : forall (d : Descriptor) number, d.number < s.descriptors.length ->
    after.socketOf d = some number -> s.socketOf d = some number
  linger?_eq : forall number option, s.linger? number = some option ->
    after.linger? number = some option

namespace Proceeds

theorem trans {mid : System}
    (first : s.Proceeds mid)
    (second : mid.Proceeds after) :
    s.Proceeds after where
  now_le := Nat.le_trans first.now_le second.now_le
  length_le := Nat.le_trans first.length_le second.length_le
  socketOf_eq d number hd hnumber :=
    first.socketOf_eq d number hd
      (second.socketOf_eq d number (Nat.lt_of_lt_of_le hd first.length_le) hnumber)
  linger?_eq number option h :=
    second.linger?_eq number option (first.linger?_eq number option h)

theorem record (h : s.Proceeds after) (entry : Entry) : s.Proceeds (after.record entry) :=
  ⟨h.now_le, h.length_le, h.socketOf_eq, h.linger?_eq⟩

end Proceeds

theorem GoesOn.proceeds (h : s.GoesOn after) : s.Proceeds after where
  now_le := h.now_le
  length_le := Nat.le_of_eq (congrArg List.length h.descriptors_eq.symm)
  socketOf_eq d number _ hnumber := by rw [← h.socketOf_eq, hnumber]
  linger?_eq number option hoption := by
    rcases Option.map_eq_some_iff.mp hoption with ⟨socket, hsocket, hlinger⟩
    rcases h.socket hsocket (Socket.lasting_linger option) hlinger with ⟨eased, heased, hkept⟩
    exact Option.map_eq_some_iff.mpr ⟨eased, heased, hkept⟩

theorem Proceeds.refl (s : System) : s.Proceeds s :=
  (GoesOn.refl s).proceeds

/-!
# Changing sockets and descriptors
-/

theorem proceeds_update (changed : Nat) {f : Socket -> Socket}
    (hf : forall socket, (f socket).linger = socket.linger) :
    s.Proceeds (s.update changed f) where
  now_le := Nat.le_of_eq (now_update f).symm
  length_le := Nat.le_of_eq (congrArg List.length (descriptors_update f).symm)
  socketOf_eq d number _ hnumber := by rw [← socketOf_update f, hnumber]
  linger?_eq number option hoption := by
    rw [linger?, socket?_update]
    split
    next => rw [Option.map_map, ← hoption]; exact congrArg (Option.map · _) (funext hf)
    next => exact hoption

theorem proceeds_addDescriptor (number : Nat) : s.Proceeds (s.addDescriptor number).2 where
  now_le := Nat.le_refl s.now
  length_le := by
    rw [addDescriptor, List.length_append]
    exact Nat.le_add_right ..
  socketOf_eq d found hd hfound := by
    rw [socketOf, addDescriptor, List.getElem?_append_left hd] at hfound
    exact hfound
  linger?_eq _ _ hoption := hoption

theorem proceeds_make (stack : Stack) (plan : Plan) : s.Proceeds (s.make stack plan).2 := by
  have hsockets : s.Proceeds { s with sockets := s.sockets ++ [Socket.ofPlan stack plan] } := by
    refine ⟨Nat.le_refl _, Nat.le_refl _, fun _ _ _ hnumber => hnumber, ?_⟩
    intro number option hoption
    cases number with
    | zero => cases hoption
    | succ index =>
        rcases Option.map_eq_some_iff.mp hoption with ⟨socket, hsocket, hlinger⟩
        refine Option.map_eq_some_iff.mpr ⟨socket, ?_, hlinger⟩
        exact (List.getElem?_append_left (List.getElem?_eq_some_iff.mp hsocket).1).trans hsocket
  exact hsockets.trans (proceeds_addDescriptor _)

theorem proceeds_release (d : Descriptor) :
    s.Proceeds { s with descriptors := s.descriptors.set d.number none } where
  now_le := Nat.le_refl s.now
  length_le := Nat.le_of_eq List.length_set.symm
  socketOf_eq other number _ hnumber := by
    rw [socketOf, List.getElem?_set] at hnumber
    split at hnumber
    next => split at hnumber <;> cases hnumber
    next => exact hnumber
  linger?_eq _ _ hoption := hoption

/-!
# One call
-/

/-- What a call on a descriptor does to its socket decides what it leaves. -/
theorem onSocket_keeps {P : System -> Prop} {name : CallName} {arguments : List Argument}
    {body : System -> Nat -> Socket -> Intervention -> Result α × System}
    {answer : Except Errno α}
    (hgoesOn : forall begun, s.GoesOn begun -> P begun)
    (hrecord : forall ended entry, P ended -> P (ended.record entry))
    (hbody : forall (begun ended : System) number socket intervention result, s.GoesOn begun ->
      begun.IsSettled -> body begun number socket intervention = (result, ended) -> P ended)
    (h : s.onSocket name d arguments body = (answer, after)) :
    P after := by
  cases onSocket_handles h with
  | unknown => exact hgoesOn s (GoesOn.refl s)
  | demanded hnumber begins => exact hrecord _ _ (hgoesOn _ begins.goesOn)
  | missing hnumber begins => exact hrecord _ _ (hgoesOn _ begins.goesOn)
  | done hnumber begins hsocket hdone =>
      exact hrecord _ _ (hbody _ _ _ _ _ _ begins.goesOn begins.isSettled hdone)

theorem onSocket_proceeds {name : CallName} {arguments : List Argument}
    {body : System -> Nat -> Socket -> Intervention -> Result α × System}
    {answer : Except Errno α}
    (hbody : forall (begun ended : System) number socket intervention result, begun.IsSettled ->
      body begun number socket intervention = (result, ended) -> begun.Proceeds ended)
    (h : s.onSocket name d arguments body = (answer, after)) :
    s.Proceeds after := by
  refine onSocket_keeps (P := s.Proceeds) ?_ ?_ ?_ h
  · exact fun _ goesOn => goesOn.proceeds
  · exact fun _ entry proceeds => proceeds.record entry
  · intro begun ended number socket intervention result goesOn hsettled hdone
    exact goesOn.proceeds.trans (hbody _ _ _ _ _ _ hsettled hdone)

theorem changing_proceeds {name : CallName} {arguments : List Argument}
    {change : Socket -> Socket} {answer : Except Errno Unit}
    (h : s.changing name d arguments change = (answer, after))
    (hchange : forall socket, (change socket).linger = socket.linger) :
    s.Proceeds after := by
  refine onSocket_proceeds ?_ h
  rintro begun ended number socket intervention result _ ⟨⟩
  exact proceeds_update number hchange

theorem reporting_proceeds {name : CallName} {arguments : List Argument}
    {report : Nat -> Socket -> Except Errno α} {answer : Except Errno α}
    (h : s.reporting name d arguments report = (answer, after)) :
    s.Proceeds after := by
  refine onSocket_proceeds ?_ h
  rintro begun ended number socket intervention result _ ⟨⟩
  exact Proceeds.refl begun

theorem openStream_proceeds {family : Family} {answer : Except Errno Descriptor}
    (h : s.openStream family = (answer, after)) : s.Proceeds after := by
  have begins := s.draw_begins .socket
  rcases hdraw : s.draw .socket with ⟨intervention, begun⟩
  rw [hdraw] at begins
  unfold openStream at h
  rw [hdraw] at h
  dsimp only at h
  split at h
  next =>
      cases h
      exact begins.goesOn.proceeds.record _
  next =>
      have hplans : begun.Proceeds { begun with plans := begun.plans.tail } :=
        ⟨Nat.le_refl _, Nat.le_refl _, fun _ _ _ hnumber => hnumber, fun _ _ hoption => hoption⟩
      cases h
      exact (begins.goesOn.proceeds.trans (hplans.trans (proceeds_make ..))).record _

theorem connect_proceeds {record : Record} {answer : Except Errno Unit}
    (h : s.connect d record = (answer, after)) : s.Proceeds after := by
  refine onSocket_proceeds ?_ h
  intro begun ended number socket intervention result _ hbody
  split at hbody <;> cases hbody <;> exact proceeds_update number fun _ => rfl

theorem accept_proceeds {answer : Except Errno (Descriptor × Record)}
    (h : s.accept d = (answer, after)) : s.Proceeds after := by
  refine onSocket_proceeds ?_ h
  intro begun ended number socket intervention result hsettled hbody
  rcases hblock : begun.block number (fun _ => Socket.canAccept) socket.nonblocking
    socket.receiveLimit with ⟨waited, eased⟩
  have hwaited := (block_blocks (fun _ _ _ _ => rfl) hsettled hblock).1.proceeds
  rw [hblock] at hbody
  dsimp only at hbody
  split at hbody
  next =>
      cases hbody
      exact hwaited
  next =>
      cases hbody
      refine (hwaited.trans (proceeds_update number ?_)).trans (proceeds_make ..)
      exact fun _ => rfl
  next =>
      cases hbody
      exact hwaited

theorem receive_proceeds {limit : Nat} {answer : Except Errno (List UInt8)}
    (h : s.receive d limit = (answer, after)) : s.Proceeds after := by
  refine onSocket_proceeds ?_ h
  intro begun ended number socket intervention result hsettled hbody
  split at hbody
  next =>
      cases hbody
      exact Proceeds.refl begun
  next =>
      rcases hblock : begun.block number (fun _ => Socket.canReceive) socket.nonblocking
        socket.receiveLimit with ⟨waited, eased⟩
      have hwaited := (block_blocks (fun _ _ _ _ => rfl) hsettled hblock).1.proceeds
      rw [hblock] at hbody
      dsimp only at hbody
      split at hbody
      next =>
          cases hbody
          exact hwaited
      next =>
          cases hbody
          exact hwaited
      next =>
          cases hbody
          exact hwaited.trans (proceeds_update number fun _ => rfl)

theorem send_proceeds {bytes : List UInt8} {quiet dontWait : Bool} {answer : Except Errno Nat}
    (h : s.send d bytes quiet dontWait = (answer, after)) : s.Proceeds after := by
  refine onSocket_proceeds ?_ h
  intro begun ended number socket intervention result hsettled hbody
  split at hbody
  next =>
      cases hbody
      exact Proceeds.refl begun
  next =>
      split at hbody
      next =>
          cases hbody
          exact Proceeds.refl begun
      next =>
          rcases hblock : begun.block number Socket.canSend (socket.nonblocking || dontWait)
            socket.sendLimit with ⟨waited, eased⟩
          have hwaited :=
            (block_blocks Socket.followsConnecting_canSend hsettled hblock).1.proceeds
          rw [hblock] at hbody
          dsimp only at hbody
          split at hbody
          next =>
              cases hbody
              exact hwaited
          next =>
              cases hbody
              exact hwaited
          next =>
              split at hbody
              next =>
                  cases hbody
                  exact hwaited
              next =>
                  cases hbody
                  exact hwaited.trans (proceeds_update number fun _ => rfl)

theorem configure_proceeds {setting : Setting} {answer : Except Errno Unit}
    (h : s.configure d setting = (answer, after))
    (hsetting : forall socket, (applySetting socket setting).linger = socket.linger) :
    s.Proceeds after := by
  refine onSocket_proceeds ?_ h
  intro begun ended number socket intervention result _ hbody
  split at hbody
  next =>
      cases hbody
      exact proceeds_update number hsetting
  next =>
      cases hbody
      exact Proceeds.refl begun

theorem takeFailure_proceeds {answer : Except Errno Errno}
    (h : s.takeFailure d = (answer, after)) : s.Proceeds after := by
  refine onSocket_proceeds ?_ h
  rintro begun ended number socket intervention result _ ⟨⟩
  exact proceeds_update number fun _ => rfl

theorem duplicate_proceeds {answer : Except Errno Descriptor}
    (h : s.duplicate d = (answer, after)) : s.Proceeds after := by
  refine onSocket_proceeds ?_ h
  rintro begun ended number socket intervention result _ ⟨⟩
  refine (proceeds_update number ?_).trans (proceeds_addDescriptor number)
  exact fun _ => rfl

theorem close_proceeds {answer : Except Errno Unit}
    (h : s.close d = (answer, after)) : s.Proceeds after := by
  unfold close at h
  cases hnumber : s.socketOf d with
  | none =>
      rw [hnumber] at h
      cases h
      exact Proceeds.refl s
  | some number =>
      have begins := s.draw_begins .close
      rcases hdraw : s.draw .close with ⟨intervention, begun⟩
      rw [hdraw] at begins
      rw [hnumber, hdraw] at h
      dsimp only at h
      have hclosed := begins.goesOn.proceeds.trans
        ((proceeds_update number (f := fun socket =>
          { socket with descriptors := socket.descriptors - 1 }) fun _ => rfl).trans
            (proceeds_release d))
      split at h <;> cases h <;> exact hclosed.record _

/-!
# Every call
-/

theorem answer_proceeds {c : Call}
    (hc : c.setsLinger = false)
    {given : c.Answer}
    (h : s.answer c = (given, after)) :
    s.Proceeds after := by
  cases c with
  | openStream family => exact openStream_proceeds h
  | bind d record => exact changing_proceeds h fun _ => rfl
  | connect d record => exact connect_proceeds h
  | listen d backlog => exact changing_proceeds h fun _ => rfl
  | accept d => exact accept_proceeds h
  | localRecord d => exact reporting_proceeds h
  | peerRecord d => exact reporting_proceeds h
  | receive d limit => exact receive_proceeds h
  | send d bytes quiet dontWait => exact send_proceeds h
  | shutdown d half => exact changing_proceeds h fun _ => by cases half <;> rfl
  | configure d setting =>
      refine configure_proceeds h fun socket => ?_
      rcases setting with value | _ | _ | _ | _ | ⟨_ | _, _⟩
      · cases hc
      all_goals rfl
  | linger d => exact reporting_proceeds h
  | waitLimit d direction => cases direction <;> exact reporting_proceeds h
  | takeFailure d => exact takeFailure_proceeds h
  | poll d direction milliseconds => exact (poll_polls h).goesOn.proceeds
  | isNonblocking d =>
      cases h
      exact Proceeds.refl s
  | setNonblocking d enabled => exact changing_proceeds h fun _ => rfl
  | duplicate d => exact duplicate_proceeds h
  | close d => exact close_proceeds h
  | now =>
      cases h
      exact Proceeds.refl s

theorem configure_now_le {setting : Setting} {answer : Except Errno Unit}
    (h : s.configure d setting = (answer, after)) : s.now ≤ after.now := by
  refine onSocket_keeps (P := fun after => s.now ≤ after.now) ?_ ?_ ?_ h
  · exact fun _ goesOn => goesOn.now_le
  · exact fun _ _ hended => hended
  · intro begun ended number socket intervention result goesOn _ hbody
    split at hbody
    next =>
        cases hbody
        exact Nat.le_trans goesOn.now_le (Nat.le_of_eq (now_update _).symm)
    next =>
        cases hbody
        exact goesOn.now_le

theorem now_le_answer {c : Call} {given : c.Answer}
    (h : s.answer c = (given, after)) : s.now ≤ after.now := by
  cases hc : c.setsLinger with
  | false => exact (answer_proceeds hc h).now_le
  | true =>
      cases c with
      | configure d setting => exact configure_now_le h
      | _ => cases hc

end System
end Virtual
end ServiceSocket
