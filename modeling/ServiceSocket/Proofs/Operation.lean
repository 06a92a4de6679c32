import ServiceSocket.Connection
import ServiceSocket.Listener

/-!
# Operations

What can be asked of a connection or a listener, and what is said in reply.  Each operation
goes on with the object as it has become, so that operations can follow one another.
-/

namespace ServiceSocket

inductive Reply where
  | done
  | bytes (value : List UInt8)
  | count (value : Nat)
  | duration (value : Option Duration)
  | connection (value : Connection)
  | listener (value : Listener)
  | descriptor (value : Descriptor)

namespace Operation

def keep (object : σ) (body : Attempt α) (reply : α -> Reply) :
    Program (Except Error Reply × σ) := do
  return ((← body.run).map reply, object)

def replace (object : σ) (result : Except Error σ) : Program (Except Error Reply × σ) :=
  match result with
  | .ok changed => return (.ok .done, changed)
  | .error error => return (.error error, object)

end Operation

/-!
# On connections
-/

namespace Connection

inductive Operation where
  | read (limit : Nat)
  | write (bytes : List UInt8)
  | copyFrom (source : Source)
  | closeRead
  | closeWrite
  | setLinger (seconds : Int32)
  | linger
  | setKeepAlive (enabled : Bool)
  | setKeepAlivePeriod (period : Duration)
  | setNoDelay (enabled : Bool)
  | setDeadline (deadline : Option Instant)
  | setReadDeadline (deadline : Option Instant)
  | setWriteDeadline (deadline : Option Instant)
  | close

open ServiceSocket.Operation in
def perform (c : Connection) (operation : Operation) (patience : Nat) :
    Program (Except Error Reply × Connection) :=
  match operation with
  | .read limit => keep c (c.read limit patience) .bytes
  | .write bytes => keep c (c.write bytes patience) .count
  | .copyFrom source => do
      let (result, _) ← c.copyFrom source patience
      return (result.map .count, c)
  | .closeRead => keep c c.closeRead fun _ => .done
  | .closeWrite => keep c c.closeWrite fun _ => .done
  | .setLinger seconds => keep c (c.setLinger seconds) fun _ => .done
  | .linger => keep c c.linger .duration
  | .setKeepAlive enabled => keep c (c.setKeepAlive enabled) fun _ => .done
  | .setKeepAlivePeriod period => keep c (c.setKeepAlivePeriod period) fun _ => .done
  | .setNoDelay enabled => keep c (c.setNoDelay enabled) fun _ => .done
  | .setDeadline deadline => replace c (c.setDeadline deadline)
  | .setReadDeadline deadline => replace c (c.setReadDeadline deadline)
  | .setWriteDeadline deadline => replace c (c.setWriteDeadline deadline)
  | .close => do
      let (result, closed) ← c.close
      return (result.map fun _ => .done, closed)

end Connection

/-!
# On listeners
-/

namespace Listener

inductive Operation where
  | accept
  | setDeadline (deadline : Option Instant)
  | duplicate
  | close

open ServiceSocket.Operation in
def perform (l : Listener) (operation : Operation) (patience : Nat) :
    Program (Except Error Reply × Listener) :=
  match operation with
  | .accept => keep l (l.accept patience) .connection
  | .setDeadline deadline => replace l (l.setDeadline deadline)
  | .duplicate => keep l l.duplicate .descriptor
  | .close => do
      let (result, closed) ← l.close
      return (result.map fun _ => .done, closed)

end Listener
end ServiceSocket
