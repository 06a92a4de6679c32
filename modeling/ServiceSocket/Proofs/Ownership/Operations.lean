import ServiceSocket.Dialer
import ServiceSocket.Proofs.Ownership.Uses

/-!
# Operations that get or close descriptors

What is made holds the descriptor that was got for it, and an attempt that fails has closed
what it had got.
-/

namespace ServiceSocket

/-!
# Making connections
-/

namespace Connection

theorem establish_meets (d : Descriptor) (near far : Option Address) :
    (establish d near far).Meets ledger (fun _ _ => True)
      (fun c held => held = {d} ∧ c.descriptor = some d) {d} := by
  rw [establish, Program.meets_bind]
  apply Program.Meets.mono (Program.carries_of_uses
    (Descriptor.tryConfigure_uses (Multiset.mem_singleton_self d) _))
  intro _ held hheld
  exact ⟨hheld, rfl⟩

theorem establish_carries (d : Descriptor) (near far : Option Address) :
    (establish d near far).Carries {d} owned := by
  apply Program.Meets.mono (establish_meets d near far)
  intro c held hheld
  rw [owned_eq hheld.2]
  exact hheld.1

theorem adopt_carries (d : Descriptor) : (adopt d).Carries {d} 0 owned := by
  apply Descriptor.guarding_carries
  have hd := Multiset.mem_singleton_self d
  have hrecord : (Attempt.ofCall d.localRecord).Carries {d} {d} fun _ => {d} :=
    Attempt.carries_of_uses (Attempt.makes_ofCall.mpr (Descriptor.ask_uses hd rfl rfl))
  apply (Attempt.carries_inContext.mpr hrecord).bind
  intro record
  cases record.toAddress? with
  | none => rfl
  | some address =>
      apply (Program.carries_of_uses (Descriptor.peerAddress?_uses hd)).lift.bind
      intro peer
      exact (establish_carries d address peer).lift

end Connection

namespace Dialer

theorem connectWithin_uses {own : Multiset Descriptor} {d : Descriptor}
    (hd : d ∈ own)
    (target : Record) (timeout : Duration) (patience : Nat) :
    (connectWithin d target timeout patience).run.Makes (Call.Uses own) := by
  have hback (enabled : Bool) :
      (Attempt.ofCall (d.setNonblocking enabled)).run.Makes (Call.Uses own) :=
    Attempt.makes_ofCall.mpr (Descriptor.setNonblocking_uses hd enabled)
  apply Attempt.makes_bind (hback true)
  intro _
  apply Attempt.makes_bind (Attempt.makes_lift (Descriptor.ask_uses hd rfl rfl))
  intro answer
  cases answer with
  | ok _ => exact hback false
  | error errno =>
      dsimp only
      split
      · apply Attempt.makes_bind (Attempt.makes_lift (Program.makes_ask Call.uses_now))
        intro now
        cases now.after? timeout with
        | none => trivial
        | some deadline =>
            apply Attempt.makes_bind (Descriptor.wait_uses hd _ _ _)
            intro _
            apply Attempt.makes_bind (Attempt.makes_ofCall.mpr (Descriptor.ask_uses hd rfl rfl))
            intro failure
            split
            · trivial
            · exact hback false
      · trivial

theorem reach_uses {own : Multiset Descriptor} {d : Descriptor}
    (hd : d ∈ own)
    (timeout : Option Duration) (target : Record) (patience : Nat) :
    ExceptT.run (match timeout with
      | some timeout => connectWithin d target timeout patience
      | none => Attempt.ofCall (d.connect target)) |>.Makes (Call.Uses own) := by
  cases timeout with
  | some timeout => exact connectWithin_uses hd _ _ _
  | none => exact Attempt.makes_ofCall.mpr (Descriptor.ask_uses hd rfl rfl)

theorem join_uses {own : Multiset Descriptor} {d : Descriptor}
    (hd : d ∈ own)
    (dialer : Dialer) (target : Address) (patience : Nat) :
    (dialer.join d target patience).run.Makes (Call.Uses own) := by
  have hreach := reach_uses hd dialer.timeout target.toRecord patience
  unfold join
  cases dialer.localAddress with
  | none => exact hreach
  | some address =>
      apply Attempt.makes_bind (Attempt.makes_ofCall.mpr (Descriptor.ask_uses hd rfl rfl))
      intro _
      exact hreach

theorem finish_carries (dialer : Dialer) (d : Descriptor) (target : Address) :
    Attempt.Carries (do
        let near ← d.localAddress?
        let far ← d.peerAddress?
        let connection ← Connection.establish d near (far.getD target)
        unless dialer.noDelay do
          d.tryConfigure (.noDelay false)
        return connection) {d} 0 Connection.owned := by
  have hd := Multiset.mem_singleton_self d
  apply (Program.carries_of_uses (Descriptor.localAddress?_uses hd)).lift.bind
  intro near
  apply (Program.carries_of_uses (Descriptor.peerAddress?_uses hd)).lift.bind
  intro far
  rw [Attempt.Carries, Attempt.meets_bind, Attempt.meets_lift]
  apply Program.Meets.mono (Connection.establish_meets d near (far.getD target))
  intro connection held hheld
  rcases hheld with ⟨hheld, hopen⟩
  have howned := Connection.owned_eq hopen
  rw [hheld]
  split
  · exact howned.symm
  · apply (Program.carries_of_uses (Descriptor.tryConfigure_uses hd _)).lift.bind
    intro _
    exact howned.symm

theorem connect_carries (dialer : Dialer) (target : Address) (patience : Nat) :
    (dialer.connect target patience).Carries 0 0 Connection.owned := by
  apply (Attempt.carries_inContext.mpr (Descriptor.openStream_carries .tipc)).bind
  intro d
  have hjoin := Attempt.carries_of_uses
    (join_uses (Multiset.mem_singleton_self d) dialer target patience)
  apply (Descriptor.guarding_carries (Attempt.carries_inContext.mpr hjoin)).bind
  intro _
  exact finish_carries dialer d target

theorem dial_carries (dialer : Dialer) (network : String) (target : Option Address)
    (patience : Nat) : (dialer.dial network target patience).Carries 0 0 Connection.owned := by
  unfold dial
  cases Network.lookup network with
  | none => rfl
  | some entry =>
      cases target with
      | none => rfl
      | some target => exact connect_carries dialer target patience

end Dialer

theorem Connection.dial_carries (network : String) (near far : Option Address)
    (patience : Nat) :
    (Connection.dial network near far patience).Carries 0 0 Connection.owned :=
  Dialer.dial_carries _ network far patience

/-!
# Listeners
-/

namespace Listener

def owned (l : Listener) : Multiset Descriptor :=
  l.descriptor.elim 0 ({·})

theorem owned_eq {l : Listener} {d : Descriptor}
    (hopen : l.descriptor = some d) : l.owned = {d} := by
  rw [owned, hopen]
  rfl

namespace Builder

theorem bind_carries (b : Builder) (address : Address) :
    (b.bind address).Carries 0 0 Listener.owned := by
  apply (Attempt.carries_inContext.mpr (Descriptor.openStream_carries .tipc)).bind
  intro d
  have hd := Multiset.mem_singleton_self d
  apply Descriptor.guarding_carries
  have hcalls : Attempt.Carries (do
      Attempt.ofCall (d.bind (b.requested address).toRecord)
      Attempt.ofCall (d.listen b.backlog)) {d} {d} fun _ => {d} :=
    Attempt.carries_of_uses (Attempt.makes_bind
      (Attempt.makes_ofCall.mpr (Descriptor.ask_uses hd rfl rfl)) fun _ =>
        Attempt.makes_ofCall.mpr (Descriptor.ask_uses hd rfl rfl))
  apply (Attempt.carries_inContext.mpr hcalls).bind
  intro _
  apply (Program.carries_of_uses (Descriptor.localAddress?_uses hd)).lift.bind
  intro bound
  rfl

theorem listen_carries (b : Builder) (network : String) (address : Option Address) :
    (b.listen network address).Carries 0 0 Listener.owned := by
  unfold listen
  cases Network.lookup network with
  | none => rfl
  | some entry =>
      cases address with
      | none => rfl
      | some address => exact bind_carries b address

end Builder

theorem listen_carries (network : String) (address : Option Address) :
    (Listener.listen network address).Carries 0 0 Listener.owned :=
  Builder.listen_carries {} network address

variable {l : Listener}

theorem held_bind_carries {f : Descriptor -> Attempt α} {result : α -> Multiset Descriptor}
    (hf : forall d, l.descriptor = some d -> (f d).Carries {d} {d} result) :
    ((liftM l.held : Attempt Descriptor) >>= f).Carries l.owned l.owned result := by
  cases hopen : l.descriptor with
  | none =>
      rw [held, hopen]
      rfl
  | some d =>
      rw [held, hopen, owned_eq hopen]
      exact hf d hopen

theorem accept_carries (patience : Nat) :
    (l.accept patience).Carries l.owned l.owned fun c => c.owned + l.owned := by
  have hcaller : Attempt.Carries (l.inContext "accept" do
      let d ← l.held
      Readiness.wait d .input l.deadline patience
      Attempt.ofCall d.accept) l.owned l.owned fun caller => {caller.1} + l.owned := by
    rw [inContext, Attempt.carries_inContext]
    apply held_bind_carries
    intro d hopen
    rw [owned_eq hopen]
    apply (Attempt.carries_of_uses
      (Descriptor.wait_uses (Multiset.mem_singleton_self d) _ _ _)).bind
    intro _
    exact Descriptor.accept_carries
  apply hcaller.bind
  intro caller
  rcases caller with ⟨d, record⟩
  have hnear := Program.carries_of_uses
    (Descriptor.localAddress?_uses (Multiset.mem_singleton_self d))
  apply (hnear.frame l.owned).lift.bind
  intro near
  exact ((Connection.establish_carries d near record.toAddress?).frame l.owned).lift

theorem duplicate_carries :
    l.duplicate.Carries l.owned l.owned fun copy => {copy} + l.owned := by
  apply held_bind_carries
  intro d hopen
  rw [inContext, Attempt.carries_inContext, owned_eq hopen]
  apply Descriptor.duplicate_carries.bind
  intro copy
  have hwaits := Descriptor.guarding_carries (Attempt.carries_of_uses
    (Attempt.makes_ofCall.mpr
      (Descriptor.setNonblocking_uses (Multiset.mem_singleton_self copy) false)))
  have hframe := hwaits.frame {d}
  rw [zero_add] at hframe
  apply hframe.bind
  intro _
  rfl

end Listener

namespace Tcp.Listener

variable {l : Listener}

theorem acceptAny_carries (d : Descriptor) (patience : Nat) :
    (Attempt.ofCall (acceptAny d patience)).Carries {d} {d} fun caller => {caller.1, d} := by
  induction patience with
  | zero => trivial
  | succ patience ih =>
      rw [Attempt.Carries, Attempt.meets_ofCall, acceptAny, Program.meets_bind]
      apply Program.Meets.mono (Attempt.meets_ofCall.mp Descriptor.accept_carries)
      intro answer held hheld
      cases answer with
      | ok caller => exact hheld
      | error errno =>
          change held = {d} at hheld
          dsimp only
          split
          · rw [hheld]
            exact Attempt.meets_ofCall.mp ih
          · exact hheld

theorem accept_carries (patience : Nat) :
    (l.accept patience).Carries l.owned l.owned fun c => c.owned + l.owned := by
  apply (acceptAny_carries l.descriptor patience).bind
  intro caller
  rcases caller with ⟨d, record⟩
  have hd := Multiset.mem_singleton_self d
  have hcheck : Attempt.Carries (do
      if (Endpoint.ofRecord? record).isNone then
        throw (.io (.message .invalidInput "invalid argument"))
      Attempt.ofCall (d.configure (.noDelay true))) {d} {d} fun _ => {d} := by
    split
    · rfl
    · exact Attempt.carries_of_uses (Attempt.makes_ofCall.mpr
        (Descriptor.ask_uses hd rfl rfl))
  have hframe := (Descriptor.guarding_carries hcheck).frame l.owned
  rw [zero_add] at hframe
  apply hframe.bind
  intro _
  rfl

end Tcp.Listener

/-!
# Closing and letting go
-/

theorem Descriptor.attempt_close_carries (d : Descriptor) {operation : String}
    {address : Option Address} :
    (Attempt.inContext operation address (Attempt.ofCall d.close)).run.Carries {d}
      fun _ => 0 := by
  rw [Program.Carries, Attempt.meets_run, Attempt.meets_inContext, Attempt.meets_ofCall]
  apply Program.Meets.mono Descriptor.close_carries
  intro answer held hheld
  cases answer with
  | ok _ => exact hheld
  | error errno => exact hheld

namespace Connection

theorem close_carries (c : Connection) :
    c.close.Carries c.owned fun result => result.2.owned := by
  unfold close
  cases hopen : c.descriptor with
  | none => rfl
  | some d =>
      rw [owned_eq hopen]
      refine Program.Carries.bind (Descriptor.attempt_close_carries d) ?_
      intro result
      rfl

theorem release_carries (c : Connection) : c.release.Carries c.owned fun _ => 0 := by
  unfold release owned
  cases c.descriptor with
  | none => rfl
  | some d => exact Descriptor.release_carries

end Connection

namespace Listener

theorem close_carries (l : Listener) :
    l.close.Carries l.owned fun result => result.2.owned := by
  unfold close
  cases hopen : l.descriptor with
  | none => rfl
  | some d =>
      rw [owned_eq hopen]
      refine Program.Carries.bind (Descriptor.attempt_close_carries d) ?_
      intro result
      rfl

theorem release_carries (l : Listener) : l.release.Carries l.owned fun _ => 0 := by
  unfold release owned
  cases l.descriptor with
  | none => rfl
  | some d => exact Descriptor.release_carries

end Listener

/-!
# Any network
-/

namespace AnyListener

def owned : AnyListener -> Multiset Descriptor
  | .service l => l.owned
  | .tcp l => l.owned

variable {l : AnyListener}

theorem accept_carries (patience : Nat) :
    (l.accept patience).Carries l.owned l.owned fun c => c.owned + l.owned := by
  cases l with
  | service l => exact Attempt.Carries.map (Listener.accept_carries patience)
  | tcp l => exact Attempt.Carries.map (Tcp.Listener.accept_carries patience)

theorem address_uses : l.address.Makes (Call.Uses l.owned) := by
  cases l with
  | service l => trivial
  | tcp l => exact Program.makes_map.mpr Tcp.Listener.endpoint_uses

theorem close_carries : l.close.Carries l.owned fun result => result.2.owned := by
  cases l with
  | service l =>
      refine Program.Carries.bind (Listener.close_carries l) ?_
      intro result
      rfl
  | tcp l =>
      refine Program.Carries.bind (Program.carries_of_uses Tcp.Listener.close_uses) ?_
      intro _
      rfl

end AnyListener

namespace AnyConnection

variable {c : AnyConnection}

theorem setDeadline_carries (deadline : Option Instant) :
    (c.setDeadline deadline).Carries c.owned fun result => result.2.owned := by
  cases c with
  | service c =>
      cases hopen : c.descriptor with
      | none =>
          simp only [setDeadline, Connection.setDeadline, Connection.held, hopen]
          rfl
      | some d =>
          simp only [setDeadline, Connection.setDeadline, Connection.held, hopen]
          exact Connection.owned_eq hopen
  | tcp c =>
      cases deadline with
      | some deadline => rfl
      | none =>
          have hlimit (direction : Direction) := Program.carries_of_uses
            (Tcp.setWaitLimit_uses c.descriptor_mem_owned direction none)
          have hset : (c.setDeadline none).Carries c.owned fun result => result.2.owned := by
            apply (hlimit .input).bind
            intro result
            cases result with
            | error error => rfl
            | ok _ =>
                apply (hlimit .output).bind
                intro result
                rfl
          refine Program.Carries.bind hset ?_
          intro result
          rfl

theorem close_carries : c.close.Carries c.owned fun result => result.2.owned := by
  cases c with
  | service c =>
      refine Program.Carries.bind (Connection.close_carries c) ?_
      intro result
      rfl
  | tcp c =>
      refine Program.Carries.bind (Program.carries_of_uses Tcp.Connection.close_uses) ?_
      intro _
      rfl

theorem release_carries : c.release.Carries c.owned fun _ => 0 := by
  cases c with
  | service c => exact Connection.release_carries c
  | tcp c => exact Descriptor.release_carries

end AnyConnection
end ServiceSocket
