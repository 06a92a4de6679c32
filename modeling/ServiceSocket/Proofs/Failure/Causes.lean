import ServiceSocket.Dialer
import ServiceSocket.Listener
import ServiceSocket.Proofs.Failure.Layers
import ServiceSocket.Proofs.Kernel.Monitor

/-!
# What an attempt can fail with

An attempt fails with the number of the call that has failed, or because its time is up.  All
else is a decision of the library's own.
-/

namespace ServiceSocket

open Program

/-!
# Errors of attempts
-/

namespace Attempt

structure FailsWith (body : Attempt α) (P : Error -> Prop) : Prop where
  returns : body.run.Returns fun result => forall error, result = .error error -> P error

variable {body : Attempt α} {P : Error -> Prop}

theorem FailsWith.of_branch
    (h : body.FailsWith P)
    {events : List Event} {error : Error}
    (branch : Branch body.run events (.returned (.error error))) :
    P error :=
  h.returns events _ branch error rfl

theorem failsWith_pure {value : α} : (pure value : Attempt α).FailsWith P :=
  ⟨returns_pure nofun⟩

theorem failsWith_throw {error : Error} (h : P error) : (throw error : Attempt α).FailsWith P := by
  constructor
  refine returns_pure ?_
  rintro _ ⟨⟩
  exact h

theorem failsWith_halt (reason : Halt) : FailsWith (α := α) (ExceptT.mk (.halt reason)) P := by
  constructor
  intro events result branch
  cases branch

theorem FailsWith.bind {f : α -> Attempt β}
    (h : body.FailsWith P)
    (hf : forall value, (f value).FailsWith P) :
    (body >>= f).FailsWith P := by
  constructor
  rw [ExceptT.run_bind]
  refine h.returns.bind ?_
  intro result hresult
  cases result with
  | ok value => exact (hf value).returns
  | error error =>
      refine returns_pure ?_
      rintro _ ⟨⟩
      exact hresult error rfl

theorem failsWith_lift (p : Program α) : (liftM p : Attempt α).FailsWith P := by
  constructor
  change Program.Returns (Except.ok <$> p) _
  rw [map_eq_pure_bind]
  exact returns_bind fun _ => returns_pure nofun

theorem failsWith_ofCall (p : Program (Except Errno α))
    (h : forall errno, P (.ofErrno errno)) : (ofCall p).FailsWith P := by
  constructor
  change Program.Returns (Except.mapError Error.ofErrno <$> p) _
  rw [map_eq_pure_bind]
  refine returns_bind fun answer => returns_pure ?_
  intro error herror
  cases answer with
  | ok value => cases herror
  | error errno =>
      cases herror
      exact h errno

theorem FailsWith.inContext {operation : String} {address : Option Address}
    (h : body.FailsWith fun error => P (error.inContext operation Network.tipc address)) :
    (inContext operation address body).FailsWith P := by
  constructor
  change Program.Returns (Except.mapError _ <$> body.run) _
  rw [map_eq_pure_bind]
  refine h.returns.bind fun result hresult => returns_pure ?_
  intro error herror
  cases result with
  | ok value => cases herror
  | error cause =>
      cases herror
      exact hresult cause rfl

end Attempt

theorem Descriptor.guarding_failsWith {body : Attempt α} {P : Error -> Prop} {d : Descriptor}
    (h : body.FailsWith P) : (d.guarding body).FailsWith P := by
  constructor
  refine h.returns.bind ?_
  intro result hresult
  cases result with
  | ok value => exact returns_pure hresult
  | error error => exact returns_bind fun _ => returns_pure hresult

/-!
# Failures of the system
-/

section

variable {Q : Error -> Prop}

theorem Readiness.pollUntil_failsWith {P : Error -> Prop}
    (htimeout : P .timeout)
    (hrefused : forall errno : Errno, errno.kind ≠ .interrupted -> P (.ofErrno errno))
    (d : Descriptor) (direction : Direction) (deadline : Instant) (patience : Nat) :
    (pollUntil d direction deadline patience).FailsWith P := by
  induction patience with
  | zero => exact Attempt.failsWith_halt _
  | succ patience ih =>
      apply (Attempt.failsWith_lift _).bind
      intro reading
      split
      next => exact Attempt.failsWith_throw htimeout
      next =>
          apply (Attempt.failsWith_lift _).bind
          intro answer
          split
          next errno =>
              split
              next => exact ih
              next hkind => exact Attempt.failsWith_throw (hrefused errno hkind)
          next =>
              apply (Attempt.failsWith_lift _).bind
              intro late
              split
              next => exact Attempt.failsWith_throw htimeout
              next => exact ih
          next => exact Attempt.failsWith_pure

theorem Readiness.wait_failsWith {P : Error -> Prop}
    (htimeout : P .timeout)
    (hrefused : forall errno : Errno, errno.kind ≠ .interrupted -> P (.ofErrno errno))
    (d : Descriptor) (direction : Direction) (deadline : Option Instant) (patience : Nat) :
    (wait d direction deadline patience).FailsWith P := by
  cases deadline with
  | none => exact Attempt.failsWith_pure
  | some due => exact pollUntil_failsWith htimeout hrefused d direction due patience

theorem Dialer.connectWithin_failsWith {P : Error -> Prop}
    (htimeout : P .timeout)
    (hrefused : forall errno, P (.ofErrno errno))
    (d : Descriptor) (target : Record) (timeout : Duration) (patience : Nat) :
    (connectWithin d target timeout patience).FailsWith P := by
  have hback : (Attempt.ofCall (d.setNonblocking false)).FailsWith P :=
    Attempt.failsWith_ofCall _ hrefused
  apply (Attempt.failsWith_ofCall _ hrefused).bind
  intro _
  apply (Attempt.failsWith_lift _).bind
  intro answer
  split
  next => exact hback
  next errno =>
      split
      next =>
          apply (Attempt.failsWith_lift _).bind
          intro reading
          split
          next => exact Attempt.failsWith_halt _
          next =>
              apply (Readiness.wait_failsWith htimeout (fun errno _ => hrefused errno) _ _ _ _).bind
              intro _
              apply (Attempt.failsWith_ofCall _ hrefused).bind
              intro failure
              split
              next => exact Attempt.failsWith_throw (hrefused _)
              next => exact hback
      next => exact Attempt.failsWith_throw (hrefused errno)

theorem Dialer.join_failsWith {P : Error -> Prop}
    (htimeout : P .timeout)
    (hrefused : forall errno, P (.ofErrno errno))
    (dialer : Dialer) (d : Descriptor) (target : Address) (patience : Nat) :
    (dialer.join d target patience).FailsWith P := by
  unfold join
  cases dialer.localAddress with
  | none =>
      cases dialer.timeout with
      | none => exact Attempt.failsWith_ofCall _ hrefused
      | some timeout => exact connectWithin_failsWith htimeout hrefused _ _ _ _
  | some near =>
      apply (Attempt.failsWith_ofCall _ hrefused).bind
      intro _
      cases dialer.timeout with
      | none => exact Attempt.failsWith_ofCall _ hrefused
      | some timeout => exact connectWithin_failsWith htimeout hrefused _ _ _ _

theorem Dialer.connect_failsWith
    (htimeout : Q .timeout)
    (hrefused : forall errno, Q (.ofErrno errno))
    (dialer : Dialer) (target : Address) (patience : Nat) :
    (dialer.connect target patience).FailsWith fun error => Q error.cause := by
  apply (Attempt.FailsWith.inContext (Attempt.failsWith_ofCall _ hrefused)).bind
  intro d
  have hjoin : (dialer.join d target patience).FailsWith fun error => Q error.cause :=
    join_failsWith (P := fun error => Q error.cause) htimeout hrefused dialer d target patience
  apply (Descriptor.guarding_failsWith (Attempt.FailsWith.inContext hjoin)).bind
  intro _
  apply (Attempt.failsWith_lift _).bind
  intro near
  apply (Attempt.failsWith_lift _).bind
  intro far
  apply (Attempt.failsWith_lift _).bind
  intro connection
  split
  next => exact Attempt.failsWith_pure
  next => exact (Attempt.failsWith_lift _).bind fun _ => Attempt.failsWith_pure

theorem Listener.Builder.bind_failsWith
    (hrefused : forall errno, Q (.ofErrno errno))
    (b : Builder) (address : Address) :
    (b.bind address).FailsWith fun error => Q error.cause := by
  apply (Attempt.FailsWith.inContext (Attempt.failsWith_ofCall _ hrefused)).bind
  intro d
  apply Descriptor.guarding_failsWith
  have hcall (p : Program (Except Errno Unit)) :
      (Attempt.ofCall p).FailsWith fun error => Q error.cause :=
    Attempt.failsWith_ofCall p hrefused
  apply (Attempt.FailsWith.inContext ((hcall _).bind fun _ => hcall _)).bind
  intro _
  exact (Attempt.failsWith_lift _).bind fun _ => Attempt.failsWith_pure

end

end ServiceSocket
