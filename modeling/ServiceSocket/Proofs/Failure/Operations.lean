import ServiceSocket.Dialer
import ServiceSocket.Listener
import ServiceSocket.Proofs.Failure.Reports

/-!
# Which failures operations absorb

Every operation on an open connection or listener, and every way to make one, reports the
first failure that it does not absorb.
-/

namespace ServiceSocket

open Attempt

variable {t : Tolerance} {own : Multiset Descriptor} {declines : Prop} {d : Descriptor}

/-!
# On one descriptor
-/

namespace Descriptor

theorem configure_reports (setting : Setting) :
    (ofCall (d.configure setting)).Reports {} id declines own own fun _ => own :=
  reports_ofCall (.configure d setting) id
    (fun answer b => by cases answer <;> cases setting <;> exact ⟨_, rfl⟩)

theorem close_reports (operation : String) (address : Option Address) :
    (inContext operation address (ofCall d.close)).Reports {}
      (Error.inContext operation Network.tipc address) declines 0 0 fun _ => 0 := by
  apply Reports.inContext
  exact reports_ofCall (.close d) id (fun answer b => by cases answer <;> exact ⟨_, rfl⟩)

end Descriptor

/-!
# On a connection
-/

namespace Connection

variable {c : Connection} (hopen : c.descriptor = some d)

include hopen

theorem held_eq : c.held = .ok d := by
  rw [held, hopen]

theorem read_reports (limit patience : Nat) :
    (c.read limit patience).Reports t (Error.inContext "read" Network.tipc c.remoteAddress)
      True own own fun _ => own := by
  apply Reports.inContext
  apply reports_bind_of_eq_ok (held_eq hopen)
  apply (Readiness.wait_reports _ _).bind
  intro _
  exact reports_ofCall (.receive d limit) id (fun answer b => by cases answer <;> exact ⟨_, rfl⟩)

theorem write_reports (bytes : List UInt8) (patience : Nat) :
    (c.write bytes patience).Reports t (Error.inContext "write" Network.tipc c.remoteAddress)
      True own own fun _ => own := by
  apply Reports.inContext
  apply reports_bind_of_eq_ok (held_eq hopen)
  exact sendAll_reports c.writeDeadline patience 0 bytes

theorem shutdown_reports (half : Half) :
    (c.shutdown half).Reports t (Error.inContext "shutdown" Network.tipc c.remoteAddress)
      declines own own fun _ => own := by
  apply reports_bind_of_eq_ok (held_eq hopen)
  apply Reports.inContext
  exact reports_ofCall (.shutdown d half) id (fun answer b => by cases answer <;> exact ⟨_, rfl⟩)

theorem configure_reports (setting : Setting) :
    (c.configure setting).Reports {} (Error.inContext "set" Network.tipc c.remoteAddress)
      declines own own fun _ => own := by
  apply reports_bind_of_eq_ok (held_eq hopen)
  apply Reports.inContext
  exact Descriptor.configure_reports setting

theorem setKeepAlivePeriod_reports (period : Duration) :
    (c.setKeepAlivePeriod period).Reports {}
      (Error.inContext "set" Network.tipc c.remoteAddress) declines own own fun _ => own := by
  apply reports_bind_of_eq_ok (held_eq hopen)
  apply Reports.inContext
  apply (Descriptor.configure_reports _).bind
  intro _
  apply (Descriptor.configure_reports _).bind
  intro _
  exact Descriptor.configure_reports _

theorem linger_reports :
    c.linger.Reports t (Error.inContext "get" Network.tipc c.remoteAddress) declines own own
      fun _ => own := by
  apply reports_bind_of_eq_ok (held_eq hopen)
  have hget : (ofCall d.linger).Reports t id declines own own fun _ => own :=
    reports_ofCall (.linger d) id (fun answer b => by cases answer <;> exact ⟨_, rfl⟩)
  apply (hget.inContext "get" c.remoteAddress).bind
  intro value
  exact reports_pure rfl

end Connection

/-!
# Making connections
-/

theorem Connection.establish_absorbs
    (hnoDelay : t.noDelay = true)
    (d : Descriptor) (near far : Option Address) :
    (establish d near far).Absorbs t own := by
  apply (Descriptor.tryNoDelay_absorbs hnoDelay true).bind
  intro _
  exact Program.absorbs_pure

/-- What taking over a socket absorbs.  It also closes a socket without a service address,
and is then indifferent to how that goes. -/
def Connection.adoptTolerance : Tolerance where
  noDelay := true
  peerRecord := true
  close := true

theorem Connection.adopt_reports (d : Descriptor) :
    (adopt d).Reports adoptTolerance (Error.inContext "file" Network.tipc none) True {d} 0
      fun _ => {d} := by
  refine Descriptor.guarding_reports ?_ fun _ => rfl
  intro b
  rw [meets_bind, meets_inContext, meets_ofCall]
  refine ⟨Course.allowed_calm _, ?_⟩
  intro answer after hafter
  cases hafter
  rcases answer with errno | record
  · exact Course.fails_of_failure rfl rfl
  · simp only [either_mapError_ok, Program.meets_done]
    cases record.toAddress? with
    | none =>
        refine ⟨rfl, ⟨rfl, ?_⟩, fun _ => trivial⟩
        intro errno hcause
        cases hcause
    | some address =>
        have htail : Attempt.Reports adoptTolerance (Error.inContext "file" Network.tipc none)
            True (do
              let peer ← d.peerAddress?
              establish d address peer) {d} {d} fun _ => {d} := by
          apply (reports_lift (Descriptor.peerAddress?_absorbs rfl)).bind
          intro peer
          exact reports_lift (establish_absorbs rfl d address peer)
        exact htail false

namespace Dialer

theorem takeFailure_reports {rest : Attempt α}
    (hrest : rest.Reports t id declines own own fun _ => own) :
    Attempt.Reports t id declines (do
      let failure ← ofCall d.takeFailure
      if failure.code ≠ 0 then throw (.ofErrno failure)
      rest) own own fun _ => own := by
  intro b
  rw [meets_bind, meets_ofCall]
  refine ⟨Course.allowed_calm _, ?_⟩
  intro answer after hafter
  cases hafter
  rcases answer with errno | failure
  · exact Course.fails_of_failure rfl rfl
  · simp only [either_mapError_ok, Program.meets_done]
    by_cases hfailure : failure.code = 0
    · rw [if_neg (not_not_intro hfailure)]
      have hevent : Event.unabsorbed? t ⟨.takeFailure d, .ok failure⟩ = none := by
        rw [Event.unabsorbed?, Event.failure?, if_pos hfailure]
        rfl
      have hsound : exists after, (Course.calm own b).next t ⟨.takeFailure d, .ok failure⟩ =
          .calm own after := Course.next_calm rfl rfl hevent
      rcases hsound with ⟨after, hafter⟩
      rw [hafter]
      exact hrest after
    · rw [if_pos hfailure]
      exact Course.owes_calm.blames (P := fun _ => False) rfl (if_neg hfailure)
        Bool.false_ne_true

theorem connectWithin_reports
    (hconnecting : t.connecting = true)
    (target : Record) (timeout : Duration) (patience : Nat) :
    (connectWithin d target timeout patience).Reports t id True own own fun _ => own := by
  have hback (enabled : Bool) :
      (ofCall (d.setNonblocking enabled)).Reports t id True own own fun _ => own :=
    Descriptor.setNonblocking_reports enabled
  apply (hback true).bind
  intro _ b
  rw [meets_bind, meets_lift]
  refine ⟨Course.allowed_calm _, ?_⟩
  intro answer after hafter
  cases hafter
  rcases answer with errno | _
  · simp only [Program.meets_done]
    split
    next hgoes =>
      have hgoesOn : exists after, (Course.calm own b).next t ⟨.connect d target, .error errno⟩ =
          .calm own after :=
        Course.next_calm rfl rfl (Event.unabsorbed?_eq_none_of_absorbs rfl
          ((Tolerance.absorbs_connect_iff hconnecting).mpr hgoes))
      rcases hgoesOn with ⟨after, hafter⟩
      rw [hafter]
      have hnow : Program.now.Absorbs t own :=
        Program.absorbs_call rfl rfl (fun _ => rfl) fun _ => Program.absorbs_pure
      refine Reports.bind (reports_lift hnow) ?_ after
      intro now
      cases now.after? timeout with
      | none => exact fun _ => rfl
      | some deadline =>
          apply (Readiness.wait_reports _ _).bind
          intro _
          exact takeFailure_reports (hback false)
    next hgoes =>
      exact Course.owes_calm.blames (P := fun _ => False) rfl rfl
        (mt (Tolerance.absorbs_connect_iff hconnecting).mp hgoes)
  · exact hback false false

theorem reach_reports {dialer : Dialer}
    (hconnecting : t.connecting = dialer.timeout.isSome)
    (target : Record) (patience : Nat) :
    Attempt.Reports t id (dialer.timeout.isSome = true) (match dialer.timeout with
      | some timeout => connectWithin d target timeout patience
      | none => Attempt.ofCall (d.connect target)) own own fun _ => own := by
  cases htimeout : dialer.timeout with
  | some timeout =>
      rw [htimeout] at hconnecting
      exact (connectWithin_reports hconnecting _ _ _).mono fun _ => rfl
  | none =>
      have hfails (errno : Errno) : ¬ t.absorbs (.connect d target) errno = true := by
        rw [Tolerance.absorbs, hconnecting, htimeout]
        exact Bool.false_ne_true
      apply reports_ofCall (.connect d target) id
      intro answer b
      rcases answer with errno | _
      · rw [Course.next, Event.unabsorbed?_eq_some rfl (hfails errno)]
        exact ⟨_, rfl⟩
      · exact ⟨_, rfl⟩

theorem join_reports {dialer : Dialer}
    (hconnecting : t.connecting = dialer.timeout.isSome)
    (target : Address) (patience : Nat) :
    (dialer.join d target patience).Reports t id (dialer.timeout.isSome = true) own own
      fun _ => own := by
  unfold join
  cases dialer.localAddress with
  | none => exact reach_reports hconnecting _ _
  | some address =>
      have hbind : (ofCall (d.bind address.toRecord)).Reports t id
          (dialer.timeout.isSome = true) own own fun _ => own :=
        reports_ofCall (.bind d address.toRecord) id
          (fun answer b => by cases answer <;> exact ⟨_, rfl⟩)
      apply hbind.bind
      intro _
      exact reach_reports hconnecting _ _

/-- What a dialer absorbs.  It also closes the socket when the time is up, and is then
indifferent to how that goes. -/
def tolerance (dialer : Dialer) : Tolerance where
  connecting := dialer.timeout.isSome
  noDelay := true
  localRecord := true
  peerRecord := true
  close := dialer.timeout.isSome

theorem connect_tells (dialer : Dialer) (target : Address) (patience : Nat) :
    (dialer.connect target patience).Tells dialer.tolerance
      (Error.inContext "dial" Network.tipc target) 0 := by
  have hopened : (ofCall (Descriptor.openStream .tipc)).Reports dialer.tolerance id False 0 0
      fun d => {d} := Descriptor.openStream_reports .tipc
  apply (hopened.inContext "dial" target).bind_tells
  intro d
  have hjoin : (dialer.join d target patience).Reports dialer.tolerance id
      (dialer.timeout.isSome = true) {d} {d} fun _ => {d} := join_reports rfl target patience
  apply (Descriptor.guarding_reports (hjoin.inContext "dial" target) id).bind_tells
  intro _
  apply tells_lift_bind (Descriptor.localAddress?_absorbs rfl)
  intro near
  apply tells_lift_bind (Descriptor.peerAddress?_absorbs rfl)
  intro far
  apply tells_lift_bind (Connection.establish_absorbs rfl d near _)
  intro connection
  split
  · exact tells_pure
  · apply tells_lift_bind (Descriptor.tryNoDelay_absorbs rfl false)
    intro _
    exact tells_pure

theorem dial_isTransparent (dialer : Dialer) (network : String) (target : Option Address)
    (patience : Nat) :
    (dialer.dial network target patience).IsTransparent dialer.tolerance
      (Error.inContext "dial" Network.tipc target) 0 := by
  unfold dial
  cases Network.lookup network with
  | none =>
      refine ⟨rfl, ?_⟩
      intro errno hcause
      cases hcause
  | some entry =>
      cases target with
      | none =>
          refine ⟨rfl, ?_⟩
          intro errno hcause
          cases hcause
      | some target => exact (connect_tells dialer target patience).isTransparent

end Dialer

/-!
# Listeners
-/

namespace Listener

section Open

variable {l : Listener} (hopen : l.descriptor = some d)

include hopen

theorem held_eq : l.held = .ok d := by
  rw [held, hopen]

theorem accept_tells
    (hnoDelay : t.noDelay = true)
    (hrecord : t.localRecord = true)
    (patience : Nat) :
    (l.accept patience).Tells t (Error.inContext "accept" Network.tipc l.address) 0 := by
  have hcaller : Attempt.Reports t (Error.inContext "accept" Network.tipc l.address) True
      (l.inContext "accept" do
        let d ← l.held
        Readiness.wait d .input l.deadline patience
        Attempt.ofCall d.accept) 0 0 fun caller => {caller.1} := by
    apply Reports.inContext
    apply reports_bind_of_eq_ok (held_eq hopen)
    apply (Readiness.wait_reports _ _).bind
    intro _
    exact reports_ofCall (.accept d) id (fun answer b => by cases answer <;> exact ⟨_, rfl⟩)
  apply hcaller.bind_tells
  intro caller
  rcases caller with ⟨d, record⟩
  apply tells_lift_bind (Descriptor.localAddress?_absorbs hrecord)
  intro near
  exact tells_lift (Connection.establish_absorbs hnoDelay d near _)

theorem duplicate_reports :
    l.duplicate.Reports {} (Error.inContext "dup" Network.tipc l.address) False 0 0
      fun copy => {copy} := by
  apply reports_bind_of_eq_ok (held_eq hopen)
  apply Reports.inContext
  have hcopy : (ofCall d.duplicate).Reports {} id False 0 0 fun copy => {copy} :=
    reports_ofCall (.duplicate d) id (fun answer b => by cases answer <;> exact ⟨_, rfl⟩)
  apply hcopy.bind
  intro copy
  apply (Descriptor.guarding_reports (Descriptor.setNonblocking_reports false) False.elim).bind
  intro _
  exact reports_pure rfl

end Open

namespace Builder

/-- What making a listener absorbs. -/
def tolerance : Tolerance where
  localRecord := true

theorem bind_tells (b : Builder) (address : Address) :
    (b.bind address).Tells tolerance
      (Error.inContext "listen" Network.tipc (b.requested address)) 0 := by
  have hopened : (ofCall (Descriptor.openStream .tipc)).Reports tolerance id False 0 0
      fun d => {d} := Descriptor.openStream_reports .tipc
  apply (hopened.inContext "listen" (b.requested address)).bind_tells
  intro d
  have hbind : (ofCall (d.bind (b.requested address).toRecord)).Reports tolerance id False {d}
      {d} fun _ => {d} :=
    reports_ofCall (.bind d _) id (fun answer b => by cases answer <;> exact ⟨_, rfl⟩)
  have hlisten : (ofCall (d.listen b.backlog)).Reports tolerance id False {d} {d}
      fun _ => {d} :=
    reports_ofCall (.listen d _) id (fun answer b => by cases answer <;> exact ⟨_, rfl⟩)
  have hmade : Attempt.Reports tolerance
      (Error.inContext "listen" Network.tipc (b.requested address)) False (do
        let bound ← d.localAddress?
        return (⟨some d, bound.getD (b.requested address), none⟩ : Listener)) {d} {d}
      fun _ => {d} := by
    apply (reports_lift (Descriptor.localAddress?_absorbs rfl)).bind
    intro bound
    exact reports_pure rfl
  have hcalls := (hbind.bind fun _ => hlisten).inContext "listen" (b.requested address)
  exact (Descriptor.guarding_reports (hcalls.bind fun _ => hmade) False.elim).tells

theorem listen_isTransparent (b : Builder) (network : String) (address : Option Address) :
    (b.listen network address).IsTransparent tolerance
      (Error.inContext "listen" Network.tipc (address.map b.requested)) 0 := by
  unfold listen
  cases Network.lookup network with
  | none =>
      refine ⟨rfl, ?_⟩
      intro errno hcause
      cases hcause
  | some entry =>
      cases address with
      | none =>
          refine ⟨rfl, ?_⟩
          intro errno hcause
          cases hcause
      | some address => exact (bind_tells b address).isTransparent

end Builder
end Listener
end ServiceSocket
