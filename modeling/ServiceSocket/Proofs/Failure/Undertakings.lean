import ServiceSocket.Proofs.Closing
import ServiceSocket.Proofs.Failure.Operations

/-!
# The first failure is reported

All that can be undertaken with connections and listeners, what each undertaking is called
in its errors, which address these name, and which failures it absorbs.
-/

namespace ServiceSocket

open Attempt

/-- Something asked of a connection or listener, or the making of a new one. -/
inductive Undertaking where
  | ask (c : Connection) (operation : Connection.Operation)
  | askListener (l : Listener) (operation : Listener.Operation)
  | dial (dialer : Dialer) (network : String) (target : Option Address)
  | connect (dialer : Dialer) (target : Address)
  | listen (b : Listener.Builder) (network : String) (address : Option Address)
  | bind (b : Listener.Builder) (address : Address)
  | adopt (d : Descriptor)

def Connection.Operation.label : Connection.Operation -> String
  | .read _ => "read"
  | .write _ => "write"
  | .copyFrom _ => "readfrom"
  | .closeRead | .closeWrite => "shutdown"
  | .linger => "get"
  | .close => "close"
  | .setLinger _ | .setKeepAlive _ | .setKeepAlivePeriod _ | .setNoDelay _ | .setDeadline _
  | .setReadDeadline _ | .setWriteDeadline _ => "set"

def Listener.Operation.label : Listener.Operation -> String
  | .accept => "accept"
  | .setDeadline _ => "set"
  | .duplicate => "dup"
  | .close => "close"

namespace Undertaking

def attempt (patience : Nat) : Undertaking -> Attempt Reply
  | .ask c operation => ExceptT.mk (Prod.fst <$> c.perform operation patience)
  | .askListener l operation => ExceptT.mk (Prod.fst <$> l.perform operation patience)
  | .dial dialer network target => .connection <$> dialer.dial network target patience
  | .connect dialer target => .connection <$> dialer.connect target patience
  | .listen b network address => .listener <$> b.listen network address
  | .bind b address => .listener <$> b.bind address
  | .adopt d => .connection <$> Connection.adopt d

def label : Undertaking -> String
  | .ask _ operation => operation.label
  | .askListener _ operation => operation.label
  | .dial _ _ _ | .connect _ _ => "dial"
  | .listen _ _ _ | .bind _ _ => "listen"
  | .adopt _ => "file"

def subject : Undertaking -> Option Address
  | .ask c _ => c.remoteAddress
  | .askListener l _ => l.address
  | .dial _ _ target => target
  | .connect _ target => target
  | .listen b _ address => address.map b.requested
  | .bind b address => b.requested address
  | .adopt _ => none

def tolerance : Undertaking -> Tolerance
  | .ask _ _ => {}
  | .askListener _ .accept => { noDelay := true, localRecord := true }
  | .askListener _ _ => {}
  | .dial dialer _ _ | .connect dialer _ => dialer.tolerance
  | .listen _ _ _ | .bind _ _ => Listener.Builder.tolerance
  | .adopt _ => Connection.adoptTolerance

def given : Undertaking -> Multiset Descriptor
  | .adopt d => {d}
  | _ => 0

end Undertaking

variable {t : Tolerance} {own : Multiset Descriptor} {context : Error -> Error}

namespace Operation

theorem keep_isTransparent {body : Attempt α}
    (h : body.IsTransparent t context own)
    (object : σ) (reply : α -> Reply) :
    Attempt.IsTransparent t context (ExceptT.mk (Prod.fst <$> keep object body reply)) own := by
  rw [IsTransparent, meets_mk, Program.meets_map, keep, Program.meets_bind, meets_run]
  exact h

theorem replace_isTransparent (object changed : σ) :
    Attempt.IsTransparent t context
      (ExceptT.mk (Prod.fst <$> replace object (.ok changed))) own :=
  ⟨rfl, rfl⟩

end Operation

theorem IsDead.isTransparent {step : σ -> ι -> Program (Except Error Reply × σ)} {s : σ}
    (h : IsDead step s)
    (input : ι) :
    Attempt.IsTransparent t context (ExceptT.mk (Prod.fst <$> step s input)) own := by
  rcases h input with ⟨error, hstep, htells⟩
  rw [hstep]
  refine ⟨rfl, ?_⟩
  intro errno
  rw [htells.cause_eq]
  intro hcause
  cases hcause

namespace Connection

theorem perform_isTransparent (c : Connection) {operation : Operation}
    (hcopy : forall source, operation ≠ .copyFrom source)
    (patience : Nat) :
    Attempt.IsTransparent {} (Error.inContext operation.label Network.tipc c.remoteAddress)
      (ExceptT.mk (Prod.fst <$> c.perform operation patience)) 0 := by
  cases hopen : c.descriptor with
  | none => exact (isDead patience hopen).isTransparent operation
  | some d =>
      have keeps {α : Type} {body : Attempt α} (reply : α -> Reply) (hbody : body.Reports {}
          (Error.inContext operation.label Network.tipc c.remoteAddress) True 0 0 fun _ => 0) :=
        Operation.keep_isTransparent hbody.tells.isTransparent c reply
      cases operation with
      | read limit => exact keeps _ (read_reports hopen limit patience)
      | write bytes => exact keeps _ (write_reports hopen bytes patience)
      | copyFrom source => exact absurd rfl (hcopy source)
      | closeRead => exact keeps _ (shutdown_reports hopen _)
      | closeWrite => exact keeps _ (shutdown_reports hopen _)
      | setLinger seconds => exact keeps _ (configure_reports hopen _)
      | linger => exact keeps _ (linger_reports hopen)
      | setKeepAlive enabled => exact keeps _ (configure_reports hopen _)
      | setKeepAlivePeriod period => exact keeps _ (setKeepAlivePeriod_reports hopen period)
      | setNoDelay enabled => exact keeps _ (configure_reports hopen _)
      | setDeadline deadline =>
          rw [perform, setDeadline, held_eq hopen]
          exact Operation.replace_isTransparent c _
      | setReadDeadline deadline =>
          rw [perform, setReadDeadline, held_eq hopen]
          exact Operation.replace_isTransparent c _
      | setWriteDeadline deadline =>
          rw [perform, setWriteDeadline, held_eq hopen]
          exact Operation.replace_isTransparent c _
      | close =>
          have hclose : (c.inContext "close" (ofCall d.close)).Reports {}
              (Error.inContext "close" Network.tipc c.remoteAddress) False 0 0 fun _ => 0 :=
            Descriptor.close_reports "close" c.remoteAddress
          rw [IsTransparent, meets_mk, Program.meets_map, perform, Program.meets_bind, close,
            hopen, Program.meets_bind, meets_run]
          exact hclose.tells.isTransparent

end Connection

namespace Listener

theorem perform_isTransparent (l : Listener) (operation : Operation) (patience : Nat) :
    Attempt.IsTransparent (Undertaking.askListener l operation).tolerance
      (Error.inContext operation.label Network.tipc l.address)
      (ExceptT.mk (Prod.fst <$> l.perform operation patience)) 0 := by
  cases hopen : l.descriptor with
  | none => exact (isDead patience hopen).isTransparent operation
  | some d =>
      cases operation with
      | accept =>
          exact Operation.keep_isTransparent (accept_tells hopen rfl rfl patience).isTransparent
            l _
      | setDeadline deadline =>
          rw [perform, setDeadline, held_eq hopen]
          exact Operation.replace_isTransparent l _
      | duplicate =>
          exact Operation.keep_isTransparent (duplicate_reports hopen).tells.isTransparent l _
      | close =>
          have hclose : (l.inContext "close" (ofCall d.close)).Reports {}
              (Error.inContext "close" Network.tipc l.address) False 0 0 fun _ => 0 :=
            Descriptor.close_reports "close" l.address
          rw [IsTransparent, meets_mk, Program.meets_map, perform, Program.meets_bind, close,
            hopen, Program.meets_bind, meets_run]
          exact hclose.tells.isTransparent

end Listener

namespace Undertaking

/-- Whatever is undertaken reports the first failure that it does not absorb. -/
theorem first_failure_reported (u : Undertaking)
    (hcopy : forall c source, u ≠ .ask c (.copyFrom source))
    {patience : Nat} {events : List Event} {outcome : Program.Outcome (Except Error Reply)}
    (branch : Program.Branch (u.attempt patience).run events outcome) :
    Transparent u.tolerance u.label u.subject u.given events outcome := by
  apply IsTransparent.transparent _ branch
  cases u with
  | ask c operation =>
      apply Connection.perform_isTransparent c
      intro source hoperation
      exact hcopy c source (congrArg _ hoperation)
  | askListener l operation => exact Listener.perform_isTransparent l operation patience
  | dial dialer network target =>
      exact (Dialer.dial_isTransparent dialer network target patience).map _
  | connect dialer target => exact (Dialer.connect_tells dialer target patience).isTransparent.map _
  | listen b network address =>
      exact (Listener.Builder.listen_isTransparent b network address).map _
  | bind b address => exact (Listener.Builder.bind_tells b address).isTransparent.map _
  | adopt d => exact (Connection.adopt_reports d).tells.isTransparent.map _

/-- Dialling goes on after an interrupted poll, learns that the peer refuses, and says so even
though closing fails as well. -/
theorem first_failure_reported_by_dial : exists events outcome,
    Program.Branch ((connect ⟨some ⟨1500000⟩, true, none⟩ (.ofName 1 2)).attempt 3).run events
      outcome ∧
    Transparent (connect ⟨some ⟨1500000⟩, true, none⟩ (.ofName 1 2)).tolerance "dial"
      (some (.ofName 1 2)) 0 events outcome ∧
    outcome = .returned (.error (.op "dial" "tipc" (Address.describe (some (.ofName 1 2)))
      (.io (.os ⟨111⟩)))) := by
  have branch : Program.Branch
      ((connect ⟨some ⟨1500000⟩, true, none⟩ (.ofName 1 2)).attempt 3).run
      [⟨.openStream .tipc, .ok ⟨7⟩⟩, ⟨.isNonblocking ⟨7⟩, .ok false⟩,
        ⟨.setNonblocking ⟨7⟩ true, .ok ()⟩,
        ⟨.connect ⟨7⟩ (Address.ofName 1 2).toRecord, .error .inProgress⟩, ⟨.now, ⟨0⟩⟩,
        ⟨.now, ⟨0⟩⟩, ⟨.poll ⟨7⟩ .output 2, .error .interrupted⟩, ⟨.now, ⟨0⟩⟩,
        ⟨.poll ⟨7⟩ .output 2, .ok 1⟩, ⟨.takeFailure ⟨7⟩, .ok ⟨111⟩⟩,
        ⟨.close ⟨7⟩, .error ⟨5⟩⟩] (.returned _) :=
    .call _ _ _ (.call _ _ _ (.call _ _ _ (.call _ _ _ (.call _ _ _ (.call _ _ _
      (.call _ _ _ (.call _ _ _ (.call _ _ _ (.call _ _ _ (.call _ _ _ (.done _)))))))))))
  exact ⟨_, _, branch, first_failure_reported _ (fun _ _ h => by cases h) branch, rfl⟩

/-- Closing is not among the calls whose failure is always reported: a socket that is refused
for its address is closed, and the refusal is reported whatever comes of that. -/
theorem closing_failure_absorbed :
    ¬ forall (u : Undertaking) (patience : Nat) (events : List Event)
      (outcome : Program.Outcome (Except Error Reply)),
      (forall c source, u ≠ .ask c (.copyFrom source)) ->
      Program.Branch (u.attempt patience).run events outcome ->
      Transparent { u.tolerance with close := false } u.label u.subject u.given events
        outcome := by
  intro h
  have branch : Program.Branch ((adopt ⟨7⟩).attempt 0).run
      [⟨.localRecord ⟨7⟩, .ok (.ofBytes [2, 0, 0, 80, 1, 2, 3, 4] 16)⟩,
        ⟨.close ⟨7⟩, .error ⟨5⟩⟩] (.returned _) :=
    .call _ _ _ (.call _ _ _ (.done _))
  have hends := (h _ 0 _ _ (fun _ _ h => by cases h) branch).ends [_] _ [] ⟨5⟩ rfl
    (fun _ hearlier => by rw [List.mem_singleton.mp hearlier]; rfl) rfl
  cases hends.1

end Undertaking
end ServiceSocket
