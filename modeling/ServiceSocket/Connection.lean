import ServiceSocket.Readiness

/-!
# Connections between services

A connection owns one descriptor until it is closed.  The addresses of its ends are those
reported when it was made, and they stay readable after it is closed; its two deadlines
belong to the connection and not to the socket, so they change only when they are set.

A source is copied into a connection piece by piece until it ends, and each piece is written
in full before the next is read.  A read that was interrupted is repeated, and so is a write
that reports an interruption.
-/

namespace ServiceSocket

structure Connection where
  /-- None once the connection is closed. -/
  descriptor : Option Descriptor
  localAddress : Option Address
  remoteAddress : Option Address
  readDeadline : Option Instant
  writeDeadline : Option Instant
deriving DecidableEq

namespace Connection

/-!
# Making
-/

/-- Wrap a connected socket.  Data is sent without delay from now on, unless the socket
does not know that option. -/
def establish (d : Descriptor) (localAddress remoteAddress : Option Address) :
    Program Connection := do
  d.tryConfigure (.noDelay true)
  return ⟨some d, localAddress, remoteAddress, none, none⟩

/-- Take over a connected socket, which must have a service address of its own.  The
descriptor is closed when it has none. -/
def adopt (d : Descriptor) : Attempt Connection :=
  d.guarding do
    let record ← Attempt.inContext "file" none (Attempt.ofCall d.localRecord)
    match record.toAddress? with
    | none => Attempt.inContext "file" none (throw .invalidDescriptor)
    | some address => establish d address (← d.peerAddress?)

/-!
# State
-/

def isOpen (c : Connection) : Bool :=
  c.descriptor.isSome

def held (c : Connection) : Except Error Descriptor :=
  match c.descriptor with
  | some d => .ok d
  | none => .error .invalidDescriptor

def inContext (c : Connection) (operation : String) (body : Attempt α) : Attempt α :=
  Attempt.inContext operation c.remoteAddress body

/-!
# Reading and writing
-/

/-- Take at most `limit` bytes, waiting until the read deadline at the latest.  No bytes
at all mean the end of the stream. -/
def read (c : Connection) (limit patience : Nat) : Attempt (List UInt8) :=
  c.inContext "read" do
    let d ← c.held
    Readiness.wait d .input c.readDeadline patience
    Attempt.ofCall (d.receive limit)

/-- Send bytes until all are accepted, and count them from `sent` on.  With a deadline a
send takes only what there is room for, so that a peer which has stopped reading cannot
hold it past the deadline. -/
def sendAll (d : Descriptor) (deadline : Option Instant) :
    Nat -> Nat -> List UInt8 -> Attempt Nat
  | _, sent, [] => return sent
  | 0, _, _ :: _ => ExceptT.mk (.halt .outOfPatience)
  | patience + 1, sent, b :: rest => do
      Readiness.wait d .output deadline patience
      match ← d.send (b :: rest) deadline.isSome with
      | .ok 0 => throw (.io (.bare .writeZero))
      | .ok n => sendAll d deadline patience (sent + n) ((b :: rest).drop n)
      | .error errno =>
          if errno.kind = .interrupted ∨ errno.kind = .wouldBlock then
            sendAll d deadline patience sent (b :: rest)
          else throw (.ofErrno errno)

def write (c : Connection) (bytes : List UInt8) (patience : Nat) : Attempt Nat :=
  c.inContext "write" do
    let d ← c.held
    sendAll d c.writeDeadline patience 0 bytes

/-!
# Half closing
-/

def shutdown (c : Connection) (half : Half) : Attempt Unit := do
  let d ← c.held
  c.inContext "shutdown" (Attempt.ofCall (d.shutdown half))

def closeRead (c : Connection) : Attempt Unit :=
  c.shutdown .reading

def closeWrite (c : Connection) : Attempt Unit :=
  c.shutdown .writing

/-!
# Options
-/

def configure (c : Connection) (setting : Setting) : Attempt Unit := do
  let d ← c.held
  c.inContext "set" (Attempt.ofCall (d.configure setting))

/-- The option for a number of seconds.  A negative number lets the system send what is
left in the background, zero discards it, and a positive number limits how long the
system tries. -/
def lingerOf (seconds : Int32) : Linger :=
  if 0 ≤ seconds then ⟨true, seconds⟩ else ⟨false, 0⟩

def setLinger (c : Connection) (seconds : Int32) : Attempt Unit :=
  c.configure (.linger (lingerOf seconds))

def linger (c : Connection) : Attempt (Option Duration) := do
  let d ← c.held
  let value ← c.inContext "get" (Attempt.ofCall d.linger)
  return if value.enabled then some (.ofSeconds (UInt64.ofInt value.seconds.toInt).toNat)
    else none

def setKeepAlive (c : Connection) (enabled : Bool) : Attempt Unit :=
  c.configure (.keepAlive enabled)

def keepAliveSeconds (period : Duration) : Nat :=
  min period.seconds 0x7fff_ffff

/-- Probe an idle connection after the period and then at that interval.  The first
option that is refused ends the attempt. -/
def setKeepAlivePeriod (c : Connection) (period : Duration) : Attempt Unit := do
  let d ← c.held
  c.inContext "set" do
    Attempt.ofCall (d.configure (.keepAlive true))
    Attempt.ofCall (d.configure (.keepIdle (keepAliveSeconds period)))
    Attempt.ofCall (d.configure (.keepInterval (keepAliveSeconds period)))

def setNoDelay (c : Connection) (enabled : Bool) : Attempt Unit :=
  c.configure (.noDelay enabled)

/-!
# Deadlines
-/

def setDeadline (c : Connection) (deadline : Option Instant) : Except Error Connection := do
  let _ ← c.held
  return { c with readDeadline := deadline, writeDeadline := deadline }

def setReadDeadline (c : Connection) (deadline : Option Instant) :
    Except Error Connection := do
  let _ ← c.held
  return { c with readDeadline := deadline }

def setWriteDeadline (c : Connection) (deadline : Option Instant) :
    Except Error Connection := do
  let _ ← c.held
  return { c with writeDeadline := deadline }

/-!
# Closing
-/

/-- Close the connection.  It counts as closed even if the system reports a failure. -/
def close (c : Connection) : Program (Except Error Unit × Connection) := do
  match c.descriptor with
  | none => return (.error .invalidDescriptor, c)
  | some d =>
      let result ← (c.inContext "close" (Attempt.ofCall d.close)).run
      return (result, { c with descriptor := none })

def release (c : Connection) : Program Unit :=
  match c.descriptor with
  | none => return ()
  | some d => d.release

end Connection

/-!
# Copying a source
-/

/-- What a source still has to give: chunks of bytes, and reads that fail. -/
abbrev Source := List (Except IoError (List UInt8))

namespace Source

/-- Read into a buffer of the given size.  The rest of a chunk that is too long stays;
an empty chunk, like having none left, is the end. -/
def read (size : Nat) : Source -> Except IoError (List UInt8) × Source
  | [] => (.ok [], [])
  | .error error :: rest => (.error error, rest)
  | .ok chunk :: rest =>
      if chunk.length ≤ size then (.ok chunk, rest)
      else (.ok (chunk.take size), .ok (chunk.drop size) :: rest)

end Source

namespace Connection

def copyBuffer : Nat := 8192

def writeAll (c : Connection) : Nat -> List UInt8 -> Program (Except IoError Unit)
  | _, [] => return .ok ()
  | 0, _ :: _ => .halt .outOfPatience
  | patience + 1, b :: rest => do
      match ← (c.write (b :: rest) patience).run with
      | .ok 0 => return .error (.message .writeZero "failed to write whole buffer")
      | .ok n => c.writeAll patience ((b :: rest).drop n)
      | .error error =>
          if error.toIoError.kind = .interrupted then c.writeAll patience (b :: rest)
          else return .error error.toIoError

def copyAll (c : Connection) :
    Nat -> Nat -> Source -> Program (Except IoError Nat × Source)
  | 0, _, _ => .halt .outOfPatience
  | patience + 1, copied, source =>
      match source.read copyBuffer with
      | (.error error, rest) =>
          if error.kind = .interrupted then c.copyAll patience copied rest
          else return (.error error, rest)
      | (.ok [], rest) => return (.ok copied, rest)
      | (.ok (b :: piece), rest) => do
          match ← c.writeAll patience (b :: piece) with
          | .error error => return (.error error, rest)
          | .ok () => c.copyAll patience (copied + (b :: piece).length) rest

/-- Copy everything from a source into the connection.  The second result is what is left
of the source. -/
def copyFrom (c : Connection) (source : Source) (patience : Nat) :
    Program (Except Error Nat × Source) := do
  let context := Error.inContext "readfrom" Network.tipc c.remoteAddress
  match c.held with
  | .error error => return (.error (context error), source)
  | .ok _ =>
      let (result, rest) ← c.copyAll patience 0 source
      return (result.mapError fun error => context (.io error), rest)

end Connection
end ServiceSocket
