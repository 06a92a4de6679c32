import ServiceSocket.Connection
import ServiceSocket.Dialer
import ServiceSocket.Transport

/-!
# Items and what is asked of them

A session holds items under names.  Each kind of item knows some of the requests; to all
others the answer is that there is nothing of that kind here.
-/

namespace ServiceSocket
namespace Session

inductive Item where
  | connection (c : Connection)
  | tcpConnection (c : Tcp.Connection)
  | anyConnection (c : AnyConnection)
  | listener (l : Listener)
  | tcpListener (l : Tcp.Listener)
  | descriptor (d : Descriptor)
deriving DecidableEq

/-- What the virtual system shows of a socket. -/
structure SocketState where
  descriptors : Nat
  nonblocking : Bool
  waiting : Nat
  untaken : Nat
  readShut : Bool
  writeShut : Bool
deriving DecidableEq

inductive Answer where
  | done
  | made
  | missing
  | flag (value : Bool)
  | number (value : Int)
  | bytes (value : List UInt8)
  | address (value : Option Address)
  | anyAddress (value : Option AnyAddress)
  | duration (value : Option Duration)
  | waitLimits (reading writing : Except IoError (Option Duration))
  | descriptor (value : Option Descriptor)
  | copied (result : Except Error Nat) (left : Nat)
  | socket (state : SocketState)
  | failed (error : Error)
  | ioFailed (error : IoError)
  | halted (reason : Halt)

namespace Answer

def ofExcept (result : Except Error α) (answer : α -> Answer) : Answer :=
  match result with
  | .ok value => answer value
  | .error error => .failed error

def ofIo (result : Except IoError α) (answer : α -> Answer) : Answer :=
  match result with
  | .ok value => answer value
  | .error error => .ioFailed error

def ofUnit (result : Except Error Unit) : Answer :=
  ofExcept result fun _ => .done

end Answer

/-- What can be asked of an item.  Deadlines are given in nanoseconds from now. -/
inductive Request where
  | isOpen
  | localAddress
  | remoteAddress
  | read (limit : Nat)
  | write (bytes : List UInt8)
  | copyFrom (source : Source)
  | closeRead
  | closeWrite
  | setLinger (seconds : Int32)
  | linger
  | setKeepAlive (enabled : Bool)
  | setKeepAlivePeriod (period : Duration)
  | setNoDelay (enabled : Bool)
  | setDeadline (offset : Option Int)
  | setReadDeadline (offset : Option Int)
  | setWriteDeadline (offset : Option Int)
  | close
  | address
  | rawDescriptor
  | anyLocalAddress
  | anyRemoteAddress
  | anyRead (limit : Nat)
  | anyWrite (bytes : List UInt8)
  | anyFlush
  | anySetDeadline (offset : Option Int)
  | anyAddress
  | anyClose
  | waitLimits
  | forgetDeadline

def deadlineAt (offset : Option Int) : Program (Option Instant) := do
  match offset with
  | none => return none
  | some offset => return some ((← Program.now).shift offset)

namespace Item

def release : Item -> Program Unit
  | .connection c => c.release
  | .tcpConnection c => c.release
  | .anyConnection c => c.release
  | .listener l => l.release
  | .tcpListener l => l.release
  | .descriptor d => d.release

/-!
# Service connections
-/

def keep (item : Item) (answer : Answer) : Program (Answer × Item) :=
  return (answer, item)

def attempt (item : Item) (body : Attempt α) (answer : α -> Answer) :
    Program (Answer × Item) := do
  return (Answer.ofExcept (← body.run) answer, item)

def replace (item : Item) (result : Except Error α) (wrap : α -> Item) :
    Program (Answer × Item) :=
  match result with
  | .ok value => return (.done, wrap value)
  | .error error => return (.failed error, item)

def askConnection (c : Connection) (request : Request) (patience : Nat) :
    Program (Answer × Item) :=
  let item := Item.connection c
  match request with
  | .isOpen => item.keep (.flag c.isOpen)
  | .localAddress => item.keep (.address c.localAddress)
  | .remoteAddress => item.keep (.address c.remoteAddress)
  | .read limit => item.attempt (c.read limit patience) .bytes
  | .write bytes => item.attempt (c.write bytes patience) fun count => .number count
  | .copyFrom source => do
      let (result, rest) ← c.copyFrom source patience
      item.keep (.copied result rest.length)
  | .closeRead => item.attempt c.closeRead fun _ => .done
  | .closeWrite => item.attempt c.closeWrite fun _ => .done
  | .setLinger seconds => item.attempt (c.setLinger seconds) fun _ => .done
  | .linger => item.attempt c.linger .duration
  | .setKeepAlive enabled => item.attempt (c.setKeepAlive enabled) fun _ => .done
  | .setKeepAlivePeriod period => item.attempt (c.setKeepAlivePeriod period) fun _ => .done
  | .setNoDelay enabled => item.attempt (c.setNoDelay enabled) fun _ => .done
  | .setDeadline offset => do
      item.replace (c.setDeadline (← deadlineAt offset)) .connection
  | .setReadDeadline offset => do
      item.replace (c.setReadDeadline (← deadlineAt offset)) .connection
  | .setWriteDeadline offset => do
      item.replace (c.setWriteDeadline (← deadlineAt offset)) .connection
  | .close => do
      let (result, closed) ← c.close
      return (.ofUnit result, .connection closed)
  | _ => item.keep .missing

/-!
# Connections of any network
-/

def askAnyConnection (c : AnyConnection) (wrap : AnyConnection -> Item) (request : Request)
    (patience : Nat) : Program (Answer × Item) :=
  let item := wrap c
  match request with
  | .anyLocalAddress => do item.keep (.anyAddress (← c.localAddress))
  | .anyRemoteAddress => do item.keep (.anyAddress (← c.remoteAddress))
  | .anyRead limit => do item.keep (.ofIo (← c.read limit patience) .bytes)
  | .anyWrite bytes => do
      item.keep (.ofIo (← c.write bytes patience) fun count => .number count)
  | .anyFlush => item.keep (.ofIo c.flush fun _ => .done)
  | .anySetDeadline offset => do
      let (result, changed) ← c.setDeadline (← deadlineAt offset)
      return (.ofUnit result, wrap changed)
  | .anyClose => do
      let (result, closed) ← c.close
      return (.ofUnit result, wrap closed)
  | _ => item.keep .missing

def ofAnyConnection : AnyConnection -> Item
  | .service c => .connection c
  | .tcp c => .tcpConnection c

def askTcpConnection (c : Tcp.Connection) (request : Request) : Program (Answer × Item) :=
  let item := Item.tcpConnection c
  match request with
  | .waitLimits => do
      let reading ← c.waitLimit .input
      let writing ← c.waitLimit .output
      item.keep (.waitLimits reading writing)
  | .forgetDeadline => return (.done, .tcpConnection c.forgetDeadline)
  | _ => item.keep .missing

/-!
# Listeners
-/

def askListener (l : Listener) (request : Request) : Program (Answer × Item) :=
  let item := Item.listener l
  match request with
  | .address => item.keep (.address l.address)
  | .setDeadline offset => do
      item.replace (l.setDeadline (← deadlineAt offset)) .listener
  | .rawDescriptor => item.keep (.descriptor l.descriptor)
  | .close => do
      let (result, closed) ← l.close
      return (.ofUnit result, .listener closed)
  | _ => item.keep .missing

def ofAnyListener : AnyListener -> Item
  | .service l => .listener l
  | .tcp l => .tcpListener l

def askAnyListener (l : AnyListener) (request : Request) : Program (Answer × Item) :=
  let item := ofAnyListener l
  match request with
  | .anyAddress => do item.keep (.anyAddress (some (← l.address)))
  | .anyClose => do
      let (result, closed) ← l.close
      return (.ofUnit result, ofAnyListener closed)
  | _ => item.keep .missing

/-!
# All items
-/

def isShared : Request -> Bool
  | .anyLocalAddress | .anyRemoteAddress | .anyRead _ | .anyWrite _ | .anyFlush
  | .anySetDeadline _ | .anyAddress | .anyClose => true
  | _ => false

def ask (item : Item) (request : Request) (patience : Nat) : Program (Answer × Item) :=
  match item with
  | .connection c =>
      if isShared request then
        askAnyConnection (.service c) ofAnyConnection request patience
      else askConnection c request patience
  | .tcpConnection c =>
      if isShared request then askAnyConnection (.tcp c) ofAnyConnection request patience
      else askTcpConnection c request
  | .anyConnection c => askAnyConnection c .anyConnection request patience
  | .listener l =>
      if isShared request then askAnyListener (.service l) request
      else askListener l request
  | .tcpListener l => askAnyListener (.tcp l) request
  | .descriptor _ => item.keep .missing

end Item
end Session
end ServiceSocket
