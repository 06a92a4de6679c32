import ServiceSocket.Connection

/-!
# Listeners for services

A listener owns one descriptor until it is closed, and gives out a connection for every
peer that calls its address.  Its builder chooses how many callers may wait and how far
the name is published.
-/

namespace ServiceSocket

structure Listener where
  /-- None once the listener is closed. -/
  descriptor : Option Descriptor
  address : Address
  deadline : Option Instant
deriving DecidableEq

namespace Listener

def held (l : Listener) : Except Error Descriptor :=
  match l.descriptor with
  | some d => .ok d
  | none => .error .invalidDescriptor

def inContext (l : Listener) (operation : String) (body : Attempt α) : Attempt α :=
  Attempt.inContext operation l.address body

/-- Wait for the next connection, until the deadline at the latest.  Once the system has
handed a connection over, nothing can keep it from the caller. -/
def accept (l : Listener) (patience : Nat) : Attempt Connection := do
  let (d, record) ← l.inContext "accept" do
    let d ← l.held
    Readiness.wait d .input l.deadline patience
    Attempt.ofCall d.accept
  Connection.establish d (← d.localAddress?) record.toAddress?

def setDeadline (l : Listener) (deadline : Option Instant) : Except Error Listener := do
  let _ ← l.held
  return { l with deadline }

/-- Make a second descriptor of the socket, one that waits.  Closing either leaves the
other open. -/
def duplicate (l : Listener) : Attempt Descriptor := do
  let d ← l.held
  l.inContext "dup" do
    let copy ← Attempt.ofCall d.duplicate
    copy.guarding (Attempt.ofCall (copy.setNonblocking false))
    return copy

/-- Stop listening.  The listener counts as closed even if the system reports a failure;
the connections it has given out stay open. -/
def close (l : Listener) : Program (Except Error Unit × Listener) := do
  match l.descriptor with
  | none => return (.error .invalidDescriptor, l)
  | some d =>
      let result ← (l.inContext "close" (Attempt.ofCall d.close)).run
      return (result, { l with descriptor := none })

def release (l : Listener) : Program Unit :=
  match l.descriptor with
  | none => return ()
  | some d => d.release

/-!
# Building
-/

def defaultBacklog : Int32 := 128

structure Builder where
  backlog : Int32 := defaultBacklog
  /-- Publishes the name this far, whatever the address says. -/
  scope : Option Scope := none

namespace Builder

def requested (b : Builder) (address : Address) : Address :=
  match b.scope with
  | some scope => address.withScope scope
  | none => address

/-- Bind to an address and listen.  The listener's address is the one the system reports,
if that is a service address. -/
def bind (b : Builder) (address : Address) : Attempt Listener := do
  let wanted := b.requested address
  let d ← Attempt.inContext "listen" wanted (Attempt.ofCall (Descriptor.openStream .tipc))
  d.guarding do
    Attempt.inContext "listen" wanted do
      Attempt.ofCall (d.bind wanted.toRecord)
      Attempt.ofCall (d.listen b.backlog)
    let bound ← d.localAddress?
    return ⟨some d, bound.getD wanted, none⟩

def listen (b : Builder) (network : String) (address : Option Address) :
    Attempt Listener :=
  match Network.lookup network, address with
  | none, _ =>
      throw (.inContext "listen" network address (.unknownNetwork network))
  | some _, none => throw (.inContext "listen" network none .missingAddress)
  | some _, some address => b.bind address

end Builder

def listen (network : String) (address : Option Address) : Attempt Listener :=
  ({} : Builder).listen network address

end Listener
end ServiceSocket
