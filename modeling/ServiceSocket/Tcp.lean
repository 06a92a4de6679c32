import ServiceSocket.Address.Record
import ServiceSocket.Text
import ServiceSocket.Kernel.Program

/-!
# Connections between hosts

An internet address with a port has a text of its own.  Addresses of four bytes are written
with dots.  Addresses of eight groups are written in hexadecimal between brackets, with the
first of the longest runs of zero groups left out if it has more than one; an address that
stands for one of four bytes shows it as such.

A connection over the internet leaves the waiting to its socket, whose own limits are
relative to the start of each call.  The deadline is absolute, so the limit that matches
the time left is set anew before every read and write, and a deadline that has passed
fails without a call.  A listener repeats an interrupted call by itself and refuses peers
whose address it cannot read.
-/

namespace ServiceSocket
namespace Tcp

/-!
# Endpoints
-/

inductive Endpoint where
  | v4 (address : Vector UInt8 4) (port : UInt16)
  /-- The zone tells apart equal addresses on different links; zero is none. -/
  | v6 (address : Vector UInt16 8) (port : UInt16) (zone : UInt32)
deriving DecidableEq

namespace Endpoint

def wildcard : Endpoint :=
  .v4 #v[0, 0, 0, 0] 0

/-!
# Records
-/

def pairAt (s : Vector UInt8 128) (i : Nat) (h : i + 1 < 128) : UInt16 :=
  UInt16.ofNat (s[i].toNat * 0x100 + s[i + 1].toNat)

/-- The endpoint that a record holds, if it is of an internet family. -/
def ofRecord? (record : Record) : Option Endpoint :=
  let s := record.storage
  let port := pairAt s 2 (by decide)
  if record.family = .inet ∧ 16 ≤ record.length then
    some (.v4 #v[s[4], s[5], s[6], s[7]] port)
  else if record.family = .inet6 ∧ 28 ≤ record.length then
    some (.v6 (Vector.ofFn fun i => pairAt s (8 + 2 * i.val) (by omega)) port
      (Word.ofBytes s[24] s[25] s[26] s[27]))
  else
    none

/-!
# Text
-/

def dotted (address : List UInt8) : List Char :=
  List.intercalate ['.'] (address.map fun b => Decimal.render b.toNat)

def groups (gs : List UInt16) : List Char :=
  List.intercalate [':'] (gs.map fun g => Nat.toDigits 16 g.toNat)

def leadingZeros (gs : List UInt16) : Nat :=
  (gs.takeWhile (· == 0)).length

/-- The start and length of the first of the longest runs of zeros. -/
def longestZeros : List UInt16 -> Nat × Nat
  | [] => (0, 0)
  | g :: rest =>
      let (start, length) := longestZeros rest
      if leadingZeros (g :: rest) ≠ 0 ∧ length ≤ leadingZeros (g :: rest) then
        (0, leadingZeros (g :: rest))
      else
        (start + 1, length)

def text6 (gs : List UInt16) : List Char :=
  match gs with
  | [0, 0, 0, 0, 0, 0xffff, a, b] =>
      "::ffff:".toList ++
        dotted [(a / 256).toUInt8, a.toUInt8, (b / 256).toUInt8, b.toUInt8]
  | _ =>
      let (start, length) := longestZeros gs
      if 1 < length then
        groups (gs.take start) ++ [':', ':'] ++ groups (gs.drop (start + length))
      else
        groups gs

def render : Endpoint -> String
  | .v4 address port =>
      String.ofList (dotted address.toList ++ ':' :: Decimal.render port.toNat)
  | .v6 address port zone =>
      String.ofList
        ('[' :: text6 address.toList
          ++ (if zone = 0 then [] else '%' :: Decimal.render zone.toNat)
          ++ [']', ':'] ++ Decimal.render port.toNat)

end Endpoint

/-!
# Connections
-/

structure Connection where
  descriptor : Descriptor
  deadline : Option Instant
deriving DecidableEq

/-- A limit in whole microseconds, but never the zero that stands for no limit. -/
def waitLimitOf (d : Duration) : WaitLimit :=
  let seconds := min d.seconds 0x7fff_ffff_ffff_ffff
  let microseconds := d.fraction / 1_000
  if seconds = 0 ∧ microseconds = 0 then ⟨0, 1⟩ else ⟨seconds, microseconds⟩

def durationOf (limit : WaitLimit) : Option Duration :=
  if limit.seconds = 0 ∧ limit.microseconds = 0 then none
  else some ⟨limit.seconds * 1_000_000_000 + limit.microseconds * 1_000⟩

/-- Set how long the socket waits in one direction.  A limit of no time at all cannot be
set, as it would be none. -/
def setWaitLimit (d : Descriptor) (direction : Direction) (limit : Option Duration) :
    Program (Except IoError Unit) :=
  match limit with
  | none => Except.mapError .os <$> d.configure (.waitLimit direction ⟨0, 0⟩)
  | some limit =>
      if limit.nanoseconds = 0 then
        return .error (.message .invalidInput "cannot set a 0 duration timeout")
      else Except.mapError .os <$> d.configure (.waitLimit direction (waitLimitOf limit))

namespace Connection

def ofDescriptor (d : Descriptor) : Connection :=
  ⟨d, none⟩

def bounded (c : Connection) (direction : Direction)
    (body : Program (Except Errno α)) : Program (Except IoError α) := do
  let arm (left : Option Duration) : Program (Except IoError α) := do
    match ← setWaitLimit c.descriptor direction left with
    | .error error => return .error error
    | .ok () => Except.mapError .os <$> body
  match c.deadline with
  | none => arm none
  | some deadline =>
      match (← Program.now).until? deadline with
      | none => return .error Error.timeout.toIoError
      | some left => arm left

def read (c : Connection) (limit : Nat) : Program (Except IoError (List UInt8)) :=
  c.bounded .input (c.descriptor.receive limit)

def write (c : Connection) (bytes : List UInt8) : Program (Except IoError Nat) :=
  c.bounded .output (c.descriptor.send bytes false)

def waitLimit (c : Connection) (direction : Direction) :
    Program (Except IoError (Option Duration)) := do
  match ← c.descriptor.waitLimit direction with
  | .error errno => return .error (.os errno)
  | .ok limit => return .ok (durationOf limit)

def endpointOf (answer : Except Errno Record) : Option Endpoint :=
  match answer with
  | .ok record => Endpoint.ofRecord? record
  | .error _ => none

def localEndpoint (c : Connection) : Program (Option Endpoint) :=
  endpointOf <$> c.descriptor.localRecord

def remoteEndpoint (c : Connection) : Program (Option Endpoint) :=
  endpointOf <$> c.descriptor.peerRecord

/-- Bound reading and writing.  Clearing the deadline also clears the socket's limits,
which can fail when the deadline is already gone. -/
def setDeadline (c : Connection) (deadline : Option Instant) :
    Program (Except Error Unit × Connection) := do
  let changed := { c with deadline }
  match deadline with
  | some _ => return (.ok (), changed)
  | none =>
      match ← setWaitLimit c.descriptor .input none with
      | .error error => return (.error (.io error), changed)
      | .ok () =>
          let result ← setWaitLimit c.descriptor .output none
          return (result.mapError .io, changed)

/-- Shut both directions down; the descriptor stays until the connection is released. -/
def close (c : Connection) : Attempt Unit :=
  Attempt.ofCall (c.descriptor.shutdown .both)

def forgetDeadline (c : Connection) : Connection :=
  ofDescriptor c.descriptor

def release (c : Connection) : Program Unit :=
  c.descriptor.release

end Connection

/-!
# Listeners
-/

structure Listener where
  descriptor : Descriptor
deriving DecidableEq

namespace Listener

/-- Take the next caller; an interruption is not seen. -/
def acceptAny (d : Descriptor) : Nat -> Program (Except Errno (Descriptor × Record))
  | 0 => .halt .outOfPatience
  | patience + 1 => do
      match ← d.accept with
      | .error errno =>
          if errno.kind = .interrupted then acceptAny d patience else return .error errno
      | .ok caller => return .ok caller

def accept (l : Listener) (patience : Nat) : Attempt Connection := do
  let (d, record) ← Attempt.ofCall (acceptAny l.descriptor patience)
  d.guarding do
    if (Endpoint.ofRecord? record).isNone then
      throw (.io (.message .invalidInput "invalid argument"))
    Attempt.ofCall (d.configure (.noDelay true))
  return Connection.ofDescriptor d

/-- The endpoint the system reports, and the wildcard when it reports none. -/
def endpoint (l : Listener) : Program Endpoint := do
  return (Connection.endpointOf (← l.descriptor.localRecord)).getD Endpoint.wildcard

/-- Shut the socket down; the descriptor stays until the listener is released. -/
def close (l : Listener) : Attempt Unit :=
  Attempt.ofCall (l.descriptor.shutdown .both)

def release (l : Listener) : Program Unit :=
  l.descriptor.release

end Listener
end Tcp
end ServiceSocket
