import ServiceSocket.Proofs.Operation
import ServiceSocket.Proofs.Readiness

/-!
# Which calls a connection makes

Every operation of a connection makes its calls on the descriptor that the connection holds, and
each makes only calls of its own kind.  A closed connection makes none.
-/

namespace ServiceSocket

theorem Program.Makes.mono {P Q : Call -> Prop} {p : Program α}
    (h : p.Makes P)
    (hPQ : forall call, P call -> Q call) :
    p.Makes Q := by
  refine Makes.meets (I := fun _ => True) h ?_ (fun _ _ _ _ _ _ _ => trivial) trivial
  exact fun _ call _ hcall => hPQ call hcall

/-!
# Kinds of calls
-/

namespace Call

inductive Reads (d : Descriptor) (limit : Nat) : Call -> Prop where
  | now : Reads d limit .now
  | poll (time : Nat) : Reads d limit (.poll d .input time)
  | receive : Reads d limit (.receive d limit)

inductive Writes (d : Descriptor) : Call -> Prop where
  | now : Writes d .now
  | poll (time : Nat) : Writes d (.poll d .output time)
  | send (bytes : List UInt8) (dontWait : Bool) : Writes d (.send d bytes true dontWait)

inductive KeepsAlive (d : Descriptor) (period : Duration) : Call -> Prop where
  | enable : KeepsAlive d period (.configure d (.keepAlive true))
  | idle : KeepsAlive d period
      (.configure d (.keepIdle (Connection.keepAliveSeconds period)))
  | interval : KeepsAlive d period
      (.configure d (.keepInterval (Connection.keepAliveSeconds period)))

end Call

namespace Connection

def On (c : Connection) (P : Descriptor -> Call -> Prop) (call : Call) : Prop :=
  exists d, c.descriptor = some d ∧ P d call

/-- The calls that an operation may make on a descriptor. -/
def Operation.MayCall (operation : Operation) (d : Descriptor) (call : Call) : Prop :=
  match operation with
  | .read limit => call.Reads d limit
  | .write _ | .copyFrom _ => call.Writes d
  | .closeRead => call = .shutdown d .reading
  | .closeWrite => call = .shutdown d .writing
  | .setLinger seconds => call = .configure d (.linger (lingerOf seconds))
  | .linger => call = .linger d
  | .setKeepAlive enabled => call = .configure d (.keepAlive enabled)
  | .setKeepAlivePeriod period => call.KeepsAlive d period
  | .setNoDelay enabled => call = .configure d (.noDelay enabled)
  | .setDeadline _ | .setReadDeadline _ | .setWriteDeadline _ => False
  | .close => call = .close d

variable {c : Connection}

theorem held_bind_makes {P : Descriptor -> Call -> Prop} {f : Descriptor -> Attempt α}
    (hf : forall d, (f d).run.Makes (P d)) :
    ((liftM c.held : Attempt Descriptor) >>= f).run.Makes (c.On P) := by
  cases hopen : c.descriptor with
  | none =>
      rw [held, hopen]
      trivial
  | some d =>
      rw [held, hopen]
      exact (hf d).mono fun call hcall => ⟨d, hopen, hcall⟩

theorem held_ofCall_makes (call : Descriptor -> Call)
    {ask : Descriptor -> Program (Except Errno α)}
    (hask : forall d, (ask d).Makes (· = call d))
    (operation : String) :
    (do
      let d ← c.held
      c.inContext operation (Attempt.ofCall (ask d)) : Attempt α).run.Makes
      (c.On fun d => (· = call d)) := by
  apply held_bind_makes
  intro d
  rw [inContext, Attempt.makes_inContext, Attempt.makes_ofCall]
  exact hask d

/-!
# Reading and writing
-/

theorem read_makes (limit patience : Nat) :
    (c.read limit patience).run.Makes (c.On fun d call => call.Reads d limit) := by
  rw [read, inContext, Attempt.makes_inContext]
  apply held_bind_makes
  intro d
  apply Attempt.makes_bind (Readiness.wait_makes d .input _ _ .now .poll)
  intro _
  exact Attempt.makes_ofCall.mpr (Program.makes_ask .receive)

theorem sendAll_makes (d : Descriptor) (deadline : Option Instant) (patience sent : Nat)
    (bytes : List UInt8) :
    (sendAll d deadline patience sent bytes).run.Makes (Call.Writes d) := by
  induction patience generalizing sent bytes with
  | zero => cases bytes <;> trivial
  | succ patience ih =>
      cases bytes with
      | nil => trivial
      | cons b rest =>
          apply Attempt.makes_bind (Readiness.wait_makes d .output _ _ .now .poll)
          intro _
          apply Attempt.makes_bind (Attempt.makes_lift (Program.makes_ask (.send _ _)))
          intro answer
          rcases answer with errno | n | n
          · dsimp only
            split
            · exact ih sent (b :: rest)
            · trivial
          · trivial
          · exact ih _ _

theorem write_makes (bytes : List UInt8) (patience : Nat) :
    (c.write bytes patience).run.Makes (c.On fun d => Call.Writes d) := by
  rw [write, inContext, Attempt.makes_inContext]
  apply held_bind_makes
  intro d
  exact sendAll_makes d c.writeDeadline patience 0 bytes

theorem writeAll_makes (patience : Nat) (bytes : List UInt8) :
    (c.writeAll patience bytes).Makes (c.On fun d => Call.Writes d) := by
  induction patience generalizing bytes with
  | zero => cases bytes <;> trivial
  | succ patience ih =>
      cases bytes with
      | nil => trivial
      | cons b rest =>
          apply Program.Makes.bind (write_makes (b :: rest) patience)
          intro result
          rcases result with error | n | n
          · dsimp only
            split
            · exact ih (b :: rest)
            · trivial
          · trivial
          · exact ih _

theorem copyAll_makes (patience copied : Nat) (source : Source) :
    (c.copyAll patience copied source).Makes (c.On fun d => Call.Writes d) := by
  induction patience generalizing copied source with
  | zero => trivial
  | succ patience ih =>
      rw [copyAll]
      rcases source.read copyBuffer with ⟨error | bytes, rest⟩
      · dsimp only
        split
        · exact ih copied rest
        · trivial
      · cases bytes with
        | nil => trivial
        | cons b piece =>
            apply Program.Makes.bind (writeAll_makes patience (b :: piece))
            intro result
            cases result with
            | error error => trivial
            | ok _ => exact ih _ rest

theorem copyFrom_makes (source : Source) (patience : Nat) :
    (c.copyFrom source patience).Makes (c.On fun d => Call.Writes d) := by
  unfold copyFrom
  cases c.held with
  | error error => trivial
  | ok d => exact Program.Makes.bind (copyAll_makes patience 0 source) fun _ => trivial

/-!
# Options, half closing and closing
-/

theorem shutdown_makes (half : Half) :
    (c.shutdown half).run.Makes (c.On fun d => (· = .shutdown d half)) :=
  held_ofCall_makes (fun d => .shutdown d half) (fun _ => Program.makes_ask rfl) "shutdown"

theorem configure_makes (setting : Setting) :
    (c.configure setting).run.Makes (c.On fun d => (· = .configure d setting)) :=
  held_ofCall_makes (fun d => .configure d setting) (fun _ => Program.makes_ask rfl) "set"

theorem linger_makes : c.linger.run.Makes (c.On fun d => (· = .linger d)) := by
  apply held_bind_makes
  intro d
  apply Attempt.makes_bind
  · rw [inContext, Attempt.makes_inContext, Attempt.makes_ofCall]
    exact Program.makes_ask rfl
  · intro value
    trivial

theorem setKeepAlivePeriod_makes (period : Duration) :
    (c.setKeepAlivePeriod period).run.Makes (c.On fun d call => call.KeepsAlive d period) := by
  apply held_bind_makes
  intro d
  have hcall {setting : Setting} (hsetting : (Call.configure d setting).KeepsAlive d period) :
      (Attempt.ofCall (d.configure setting)).run.Makes fun call => call.KeepsAlive d period :=
    Attempt.makes_ofCall.mpr (Program.makes_ask hsetting)
  rw [inContext, Attempt.makes_inContext]
  apply Attempt.makes_bind (hcall .enable)
  intro _
  apply Attempt.makes_bind (hcall .idle)
  intro _
  exact hcall .interval

theorem close_makes : c.close.Makes (c.On fun d => (· = .close d)) := by
  unfold close
  cases hopen : c.descriptor with
  | none => trivial
  | some d =>
      refine Program.Makes.bind (P := c.On fun d => (· = .close d)) ?_ fun _ => trivial
      rw [inContext, Attempt.makes_inContext, Attempt.makes_ofCall]
      exact Program.makes_ask ⟨d, hopen, rfl⟩

/-!
# All operations
-/

theorem keep_makes {P : Call -> Prop} {body : Attempt α}
    (h : body.run.Makes P)
    (object : σ) (reply : α -> Reply) :
    (ServiceSocket.Operation.keep object body reply).Makes P :=
  h.bind fun _ => trivial

theorem replace_makes {P : Call -> Prop} (object : σ) (result : Except Error σ) :
    (ServiceSocket.Operation.replace object result).Makes P := by
  cases result <;> trivial

theorem perform_makes (c : Connection) (operation : Operation) (patience : Nat) :
    (c.perform operation patience).Makes (c.On operation.MayCall) := by
  cases operation with
  | read limit => exact keep_makes (read_makes limit patience) ..
  | write bytes => exact keep_makes (write_makes bytes patience) ..
  | copyFrom source => exact (copyFrom_makes source patience).bind fun _ => trivial
  | closeRead => exact keep_makes (shutdown_makes .reading) ..
  | closeWrite => exact keep_makes (shutdown_makes .writing) ..
  | setLinger seconds => exact keep_makes (configure_makes _) ..
  | linger => exact keep_makes linger_makes ..
  | setKeepAlive enabled => exact keep_makes (configure_makes _) ..
  | setKeepAlivePeriod period => exact keep_makes (setKeepAlivePeriod_makes period) ..
  | setNoDelay enabled => exact keep_makes (configure_makes _) ..
  | setDeadline due | setReadDeadline due | setWriteDeadline due => exact replace_makes ..
  | close => exact close_makes.bind fun _ => trivial

end Connection
end ServiceSocket
