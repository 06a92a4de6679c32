import ServiceSocket.Proofs.Connection.Sending
import ServiceSocket.Proofs.Ownership.Operations

/-!
# Ownership of items

An item answers with nothing but its own descriptors, and what it has become holds what is
left of them.
-/

namespace ServiceSocket
namespace Session
namespace Item

def owned : Item -> Multiset Descriptor
  | .connection c => c.owned
  | .tcpConnection c => c.owned
  | .anyConnection c => c.owned
  | .listener l => l.owned
  | .tcpListener l => l.owned
  | .descriptor d => {d}

def closes : Item -> Request -> Bool
  | .connection _, .close | .connection _, .anyClose => true
  | .anyConnection (.service _), .anyClose => true
  | .listener _, .close | .listener _, .anyClose => true
  | _, _ => false

theorem ofAnyConnection_owned (c : AnyConnection) : (ofAnyConnection c).owned = c.owned := by
  cases c <;> rfl

theorem ofAnyListener_owned (l : AnyListener) : (ofAnyListener l).owned = l.owned := by
  cases l <;> rfl

theorem release_carries (item : Item) : item.release.Carries item.owned fun _ => 0 := by
  cases item with
  | connection c => exact c.release_carries
  | tcpConnection c => exact Descriptor.release_carries
  | anyConnection c => exact AnyConnection.release_carries
  | listener l => exact l.release_carries
  | tcpListener l => exact Descriptor.release_carries
  | descriptor d => exact Descriptor.release_carries

/-!
# Answers
-/

theorem bind_keep_carries {item : Item} {p : Program α} {answer : α -> Answer}
    (h : p.Makes (Call.Uses item.owned)) :
    (p >>= fun value => item.keep (answer value)).Carries item.owned fun result => result.2.owned :=
  (Program.carries_of_uses h).bind fun _ => rfl

theorem attempt_carries {item : Item} {body : Attempt α} {answer : α -> Answer}
    (h : body.run.Makes (Call.Uses item.owned)) :
    (item.attempt body answer).Carries item.owned fun result => result.2.owned :=
  bind_keep_carries h

theorem replace_carries {item : Item} {deadline : Program (Option Instant)}
    {result : Option Instant -> Except Error α} {wrap : α -> Item}
    (hdeadline : deadline.Makes (Call.Uses item.owned))
    (howned : forall deadline value, result deadline = .ok value ->
      (wrap value).owned = item.owned) :
    (deadline >>= fun deadline => item.replace (result deadline) wrap).Carries item.owned
      fun result => result.2.owned := by
  apply (Program.carries_of_uses hdeadline).bind
  intro deadline
  cases hresult : result deadline with
  | error error =>
      rw [replace]
      rfl
  | ok value =>
      rw [replace]
      exact (howned deadline value hresult).symm

theorem deadlineAt_uses {own : Multiset Descriptor} (offset : Option Int) :
    (deadlineAt offset).Makes (Call.Uses own) :=
  deadlineAt_makes offset Call.uses_now

/-!
# Service connections
-/

theorem eq_of_bind_pure {ε α β : Type} {result : Except ε α} {next changed : β}
    (h : (do let _ ← result; return next) = Except.ok changed) :
    changed = next := by
  cases result with
  | error error => cases h
  | ok value =>
      cases h
      rfl

theorem askConnection_carries (c : Connection) (request : Request) (patience : Nat) :
    (askConnection c request patience).Carries c.owned fun result => result.2.owned := by
  cases request with
  | isOpen => rfl
  | localAddress => rfl
  | remoteAddress => rfl
  | read limit => exact attempt_carries (Connection.read_uses limit patience)
  | write bytes => exact attempt_carries (Connection.write_uses bytes patience)
  | copyFrom source => exact bind_keep_carries (Connection.copyFrom_uses source patience)
  | closeRead => exact attempt_carries (Connection.shutdown_uses .reading)
  | closeWrite => exact attempt_carries (Connection.shutdown_uses .writing)
  | setLinger seconds => exact attempt_carries (Connection.configure_uses _)
  | linger => exact attempt_carries Connection.linger_uses
  | setKeepAlive enabled => exact attempt_carries (Connection.configure_uses _)
  | setKeepAlivePeriod period => exact attempt_carries (Connection.setKeepAlivePeriod_uses period)
  | setNoDelay enabled => exact attempt_carries (Connection.configure_uses _)
  | setDeadline offset =>
      refine replace_carries (deadlineAt_uses offset) ?_
      intro deadline changed hset
      rw [eq_of_bind_pure hset]
      rfl
  | setReadDeadline offset =>
      refine replace_carries (deadlineAt_uses offset) ?_
      intro deadline changed hset
      rw [eq_of_bind_pure hset]
      rfl
  | setWriteDeadline offset =>
      refine replace_carries (deadlineAt_uses offset) ?_
      intro deadline changed hset
      rw [eq_of_bind_pure hset]
      rfl
  | close =>
      refine Program.Carries.bind (Connection.close_carries c) ?_
      intro result
      rfl
  | _ => rfl

/-!
# Other items
-/

theorem askAnyConnection_carries (c : AnyConnection) {wrap : AnyConnection -> Item}
    (hwrap : forall c, (wrap c).owned = c.owned)
    (request : Request) (patience : Nat) :
    (askAnyConnection c wrap request patience).Carries c.owned fun result => result.2.owned := by
  have hitem := (hwrap c).symm
  cases request with
  | anyLocalAddress =>
      rw [hitem]
      exact bind_keep_carries (hitem ▸ AnyConnection.localAddress_uses)
  | anyRemoteAddress =>
      rw [hitem]
      exact bind_keep_carries (hitem ▸ AnyConnection.remoteAddress_uses)
  | anyRead limit =>
      rw [hitem]
      exact bind_keep_carries (hitem ▸ AnyConnection.read_uses limit patience)
  | anyWrite bytes =>
      rw [hitem]
      exact bind_keep_carries (hitem ▸ AnyConnection.write_uses bytes patience)
  | anySetDeadline offset =>
      refine Program.Carries.bind (Program.carries_of_uses (deadlineAt_uses offset)) ?_
      intro deadline
      refine Program.Carries.bind (AnyConnection.setDeadline_carries deadline) ?_
      intro result
      exact (hwrap result.2).symm
  | anyClose =>
      refine Program.Carries.bind AnyConnection.close_carries ?_
      intro result
      exact (hwrap result.2).symm
  | _ => exact hitem

theorem askTcpConnection_carries (c : Tcp.Connection) (request : Request) :
    (askTcpConnection c request).Carries c.owned fun result => result.2.owned := by
  cases request with
  | waitLimits =>
      refine Program.Carries.bind
        (Program.carries_of_uses (Tcp.Connection.waitLimit_uses .input)) ?_
      intro reading
      exact bind_keep_carries (Tcp.Connection.waitLimit_uses .output)
  | _ => rfl

theorem askListener_carries (l : Listener) (request : Request) :
    (askListener l request).Carries l.owned fun result => result.2.owned := by
  cases request with
  | setDeadline offset =>
      refine replace_carries (deadlineAt_uses offset) ?_
      intro deadline changed hset
      rw [eq_of_bind_pure hset]
      rfl
  | close =>
      refine Program.Carries.bind (Listener.close_carries l) ?_
      intro result
      rfl
  | _ => rfl

theorem askAnyListener_carries (l : AnyListener) (request : Request) :
    (askAnyListener l request).Carries l.owned fun result => result.2.owned := by
  have hitem := (ofAnyListener_owned l).symm
  cases request with
  | anyAddress =>
      rw [hitem]
      exact bind_keep_carries (hitem ▸ AnyListener.address_uses)
  | anyClose =>
      refine Program.Carries.bind AnyListener.close_carries ?_
      intro result
      exact (ofAnyListener_owned result.2).symm
  | _ => exact hitem

theorem ask_carries (item : Item) (request : Request) (patience : Nat) :
    (item.ask request patience).Carries item.owned fun result => result.2.owned := by
  cases item with
  | connection c =>
      unfold ask
      dsimp only
      split
      · exact askAnyConnection_carries (.service c) ofAnyConnection_owned request patience
      · exact askConnection_carries c request patience
  | tcpConnection c =>
      unfold ask
      dsimp only
      split
      · exact askAnyConnection_carries (.tcp c) ofAnyConnection_owned request patience
      · exact askTcpConnection_carries c request
  | anyConnection c => exact askAnyConnection_carries c (fun _ => rfl) request patience
  | listener l =>
      unfold ask
      dsimp only
      split
      · exact askAnyListener_carries (.service l) request
      · exact askListener_carries l request
  | tcpListener l => exact askAnyListener_carries (.tcp l) request
  | descriptor d => rfl

/-!
# Closing
-/

theorem returns_closed_connection (c : Connection) :
    c.close.Returns fun result => result.2.owned = 0 := by
  unfold Connection.close
  cases hopen : c.descriptor with
  | none =>
      apply Program.returns_pure
      simp [Connection.owned, hopen]
  | some d =>
      apply Program.returns_bind
      intro result
      exact Program.returns_pure rfl

theorem returns_closed_listener (l : Listener) :
    l.close.Returns fun result => result.2.owned = 0 := by
  unfold Listener.close
  cases hopen : l.descriptor with
  | none =>
      apply Program.returns_pure
      simp [Listener.owned, hopen]
  | some d =>
      apply Program.returns_bind
      intro result
      exact Program.returns_pure rfl

theorem returns_closed_anyConnection (c : Connection) :
    (AnyConnection.service c).close.Returns fun result => result.2.owned = 0 := by
  unfold AnyConnection.close
  refine (returns_closed_connection c).bind ?_
  intro result hresult
  exact Program.returns_pure hresult

theorem returns_closed_anyListener (l : Listener) :
    (AnyListener.service l).close.Returns fun result => result.2.owned = 0 := by
  unfold AnyListener.close
  refine (returns_closed_listener l).bind ?_
  intro result hresult
  exact Program.returns_pure hresult

theorem ask_returns_closed {item : Item} {request : Request}
    (h : item.closes request = true)
    (patience : Nat) :
    (item.ask request patience).Returns fun result => result.2.owned = 0 := by
  cases item with
  | connection c =>
      cases request <;> try cases h
      · exact (returns_closed_connection c).bind fun _ hresult => Program.returns_pure hresult
      · exact (returns_closed_anyConnection c).bind fun result hresult =>
          Program.returns_pure ((ofAnyConnection_owned result.2).trans hresult)
  | anyConnection c =>
      cases c with
      | service c =>
          cases request <;> try cases h
          exact (returns_closed_anyConnection c).bind fun _ hresult =>
            Program.returns_pure hresult
      | tcp c => cases request <;> cases h
  | listener l =>
      cases request <;> try cases h
      · exact (returns_closed_listener l).bind fun _ hresult => Program.returns_pure hresult
      · exact (returns_closed_anyListener l).bind fun result hresult =>
          Program.returns_pure ((ofAnyListener_owned result.2).trans hresult)
  | _ => cases request <;> cases h

end Item
end Session
end ServiceSocket
