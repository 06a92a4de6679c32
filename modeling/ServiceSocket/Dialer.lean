import ServiceSocket.Connection

/-!
# Dialling a service

A dialer makes connections.  It can bound how long connecting takes, bind the near end to
an address first, and leave small writes to be collected.
-/

namespace ServiceSocket

structure Dialer where
  timeout : Option Duration := none
  noDelay : Bool := true
  /-- Binds the near end before connecting. -/
  localAddress : Option Address := none

namespace Dialer

/-- Connect in at most the given time: start connecting without waiting, wait until the
socket is writable, and then ask how it went. -/
def connectWithin (d : Descriptor) (target : Record) (timeout : Duration)
    (patience : Nat) : Attempt Unit := do
  Attempt.ofCall (d.setNonblocking true)
  match ← d.connect target with
  | .ok () => pure ()
  | .error errno =>
      if errno.kind = .wouldBlock ∨ errno = .inProgress then
        match (← Program.now).after? timeout with
        | none => ExceptT.mk (.halt .beyondClock)
        | some deadline =>
            Readiness.wait d .output deadline patience
            let failure ← Attempt.ofCall d.takeFailure
            if failure.code ≠ 0 then throw (.ofErrno failure)
      else throw (.ofErrno errno)
  Attempt.ofCall (d.setNonblocking false)

def join (dialer : Dialer) (d : Descriptor) (target : Address) (patience : Nat) :
    Attempt Unit := do
  if let some address := dialer.localAddress then
    Attempt.ofCall (d.bind address.toRecord)
  match dialer.timeout with
  | some timeout => connectWithin d target.toRecord timeout patience
  | none => Attempt.ofCall (d.connect target.toRecord)

/-- Connect to an address.  The far end counts as the target when the system does not
report a service address for it. -/
def connect (dialer : Dialer) (target : Address) (patience : Nat) :
    Attempt Connection := do
  let d ← Attempt.inContext "dial" target (Attempt.ofCall (Descriptor.openStream .tipc))
  d.guarding (Attempt.inContext "dial" target (dialer.join d target patience))
  let near ← d.localAddress?
  let far ← d.peerAddress?
  let connection ← Connection.establish d near (far.getD target)
  unless dialer.noDelay do
    d.tryConfigure (.noDelay false)
  return connection

/-- Dial on a network.  The network and then the presence of an address are checked
before any call is made. -/
def dial (dialer : Dialer) (network : String) (target : Option Address) (patience : Nat) :
    Attempt Connection :=
  match Network.lookup network, target with
  | none, _ => throw (.inContext "dial" network target (.unknownNetwork network))
  | some _, none => throw (.inContext "dial" network none .missingAddress)
  | some _, some target => dialer.connect target patience

end Dialer

def Connection.dial (network : String) (near far : Option Address) (patience : Nat) :
    Attempt Connection :=
  ({ localAddress := near } : Dialer).dial network far patience

end ServiceSocket
