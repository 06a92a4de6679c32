import ServiceSocket.Connection
import ServiceSocket.Listener
import ServiceSocket.Tcp

/-!
# Connections and listeners of any network

Callers that do not care which network they are on hold their connections and listeners
through the types of this module.  Addresses are then only a network and a text, and
reading and writing report the errors of byte streams.
-/

namespace ServiceSocket

structure AnyAddress where
  network : String
  text : String
deriving DecidableEq

namespace AnyAddress

def ofAddress (address : Address) : AnyAddress :=
  ⟨Network.tipc, address.render⟩

def ofEndpoint (endpoint : Tcp.Endpoint) : AnyAddress :=
  ⟨Network.tcp, endpoint.render⟩

end AnyAddress

inductive AnyConnection where
  | service (c : Connection)
  | tcp (c : Tcp.Connection)
deriving DecidableEq

namespace AnyConnection

def localAddress : AnyConnection -> Program (Option AnyAddress)
  | .service c => return c.localAddress.map .ofAddress
  | .tcp c => Option.map .ofEndpoint <$> c.localEndpoint

def remoteAddress : AnyConnection -> Program (Option AnyAddress)
  | .service c => return c.remoteAddress.map .ofAddress
  | .tcp c => Option.map .ofEndpoint <$> c.remoteEndpoint

def read (c : AnyConnection) (limit patience : Nat) :
    Program (Except IoError (List UInt8)) :=
  match c with
  | .service c => Except.mapError Error.toIoError <$> (c.read limit patience).run
  | .tcp c => c.read limit

def write (c : AnyConnection) (bytes : List UInt8) (patience : Nat) :
    Program (Except IoError Nat) :=
  match c with
  | .service c => Except.mapError Error.toIoError <$> (c.write bytes patience).run
  | .tcp c => c.write bytes

/-- Nothing is held back by a connection, so there is nothing to push out. -/
def flush (_ : AnyConnection) : Except IoError Unit :=
  .ok ()

def setDeadline (c : AnyConnection) (deadline : Option Instant) :
    Program (Except Error Unit × AnyConnection) :=
  match c with
  | .service c =>
      match c.setDeadline deadline with
      | .ok changed => return (.ok (), .service changed)
      | .error error => return (.error error, .service c)
  | .tcp c => do
      let (result, changed) ← c.setDeadline deadline
      return (result, .tcp changed)

def close : AnyConnection -> Program (Except Error Unit × AnyConnection)
  | .service c => do
      let (result, closed) ← c.close
      return (result, .service closed)
  | .tcp c => do
      return (← c.close.run, .tcp c)

def release : AnyConnection -> Program Unit
  | .service c => c.release
  | .tcp c => c.release

end AnyConnection

inductive AnyListener where
  | service (l : Listener)
  | tcp (l : Tcp.Listener)
deriving DecidableEq

namespace AnyListener

def accept (l : AnyListener) (patience : Nat) : Attempt AnyConnection :=
  match l with
  | .service l => .service <$> l.accept patience
  | .tcp l => .tcp <$> l.accept patience

def address : AnyListener -> Program AnyAddress
  | .service l => return .ofAddress l.address
  | .tcp l => .ofEndpoint <$> l.endpoint

def close : AnyListener -> Program (Except Error Unit × AnyListener)
  | .service l => do
      let (result, closed) ← l.close
      return (result, .service closed)
  | .tcp l => do
      return (← l.close.run, .tcp l)

end AnyListener
end ServiceSocket
