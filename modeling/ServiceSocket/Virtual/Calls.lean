import ServiceSocket.Virtual.System

/-!
# How the virtual system answers

Each call takes the next intervention for its name.  A failure that it demands is the
answer, and nothing else happens; otherwise the call does what is described here.  Every
call but reading the clock and the blocking mode is logged with its result.
-/

namespace ServiceSocket
namespace Virtual
namespace System

abbrev Result (α : Type) := Except Errno (α × Int)

def Result.number (result : Result α) : Int :=
  match result with
  | .ok (_, number) => number
  | .error errno => -errno.code

def finish (s : System) (name : CallName) (socket : Option Nat) (arguments : List Argument)
    (result : Result α) : Except Errno α × System :=
  (result.map Prod.fst, s.record ⟨name, socket, arguments, result.number⟩)

def onSocket (s : System) (name : CallName) (d : Descriptor) (arguments : List Argument)
    (body : System -> Nat -> Socket -> Intervention -> Result α × System) :
    Except Errno α × System :=
  match s.socketOf d with
  | none => (.error .badDescriptor, s)
  | some number =>
      let (intervention, s) := s.draw name
      match intervention.failure, s.socket? number with
      | some errno, _ => s.finish name number arguments (.error errno)
      | none, none => s.finish name number arguments (.error .badDescriptor)
      | none, some socket =>
          let (result, s) := body s number socket intervention
          s.finish name number arguments result

def changing (s : System) (name : CallName) (d : Descriptor) (arguments : List Argument)
    (change : Socket -> Socket) : Except Errno Unit × System :=
  s.onSocket name d arguments fun s number _ _ => (.ok ((), 0), s.update number change)

def reporting (s : System) (name : CallName) (d : Descriptor) (arguments : List Argument)
    (report : Nat -> Socket -> Except Errno α) : Except Errno α × System :=
  s.onSocket name d arguments fun s number socket _ =>
    ((report number socket).map fun value => (value, 0), s)

/-!
# Making sockets and connecting
-/

def streamType : Int := 1

def openStream (s : System) (family : Family) : Except Errno Descriptor × System :=
  let (intervention, s) := s.draw .socket
  let arguments := [.number family.number.toNat, .number streamType]
  match intervention.failure with
  | some errno => s.finish .socket none arguments (.error errno)
  | none =>
      let plan := s.plans.head?.getD {}
      let (d, s) := { s with plans := s.plans.tail }.make .tipc plan
      s.finish .socket none arguments (.ok (d, s.sockets.length))

/-- A nonblocking socket starts connecting and says so; every other one waits for the
connection without time passing. -/
def connect (s : System) (d : Descriptor) (record : Record) : Except Errno Unit × System :=
  s.onSocket .connect d [.bytes record.bytes] fun s number socket _ =>
    let start (connecting : Connecting) : System :=
      s.update number fun socket => { socket with target := some record, connecting }
    match socket.nonblocking, socket.plan.handshake with
    | true, .never => (.error .inProgress, start .forever)
    | true, .after (delay + 1) => (.error .inProgress, start (.till (s.now + (delay + 1))))
    | _, _ => (.ok ((), 0), start .no)

def accept (s : System) (d : Descriptor) : Except Errno (Descriptor × Record) × System :=
  s.onSocket .accept d [] fun s number socket _ =>
    let (waited, s) :=
      s.block number (fun _ => Socket.canAccept) socket.nonblocking socket.receiveLimit
    match waited, (s.socket? number).map Socket.callers with
    | .error errno, _ => (.error errno, s)
    | .ok (), some (plan :: callers) =>
        let (d, s) := (s.update number fun socket => { socket with callers }).make
          socket.stack plan
        let made := s.sockets.length
        let report := (Socket.ofPlan socket.stack plan).callerReport made
        (.ok ((d, report), made), s)
    | .ok (), _ => (.error .wouldBlock, s)

/-!
# Receiving and sending
-/

def clip (intervention : Intervention) (count : Nat) : Nat :=
  match intervention.bound with
  | some bound => min bound count
  | none => count

def receive (s : System) (d : Descriptor) (limit : Nat) :
    Except Errno (List UInt8) × System :=
  s.onSocket .recv d [.number limit] fun s number socket intervention =>
    if limit = 0 then (.ok ([], 0), s)
    else
      let (waited, s) :=
        s.block number (fun _ => Socket.canReceive) socket.nonblocking socket.receiveLimit
      match waited, s.socket? number with
      | .error errno, _ => (.error errno, s)
      | .ok (), none => (.error .badDescriptor, s)
      | .ok (), some socket =>
          let taken := socket.inbox.take (clip intervention limit)
          (.ok (taken, taken.length),
            s.update number fun socket =>
              { socket with inbox := socket.inbox.drop taken.length })

def send (s : System) (d : Descriptor) (bytes : List UInt8) (quiet dontWait : Bool) :
    Except Errno Nat × System :=
  s.onSocket .send d [.number bytes.length, .flag quiet, .flag dontWait]
    fun s number socket intervention =>
      if socket.gone || socket.writeShut then (.error .brokenPipe, s)
      else if bytes.isEmpty then (.ok (0, 0), s)
      else
        let (waited, s) :=
          s.block number Socket.canSend (socket.nonblocking || dontWait) socket.sendLimit
        match waited, s.socket? number with
        | .error errno, _ => (.error errno, s)
        | .ok (), none => (.error .badDescriptor, s)
        | .ok (), some socket =>
            if socket.gone || socket.writeShut then (.error .brokenPipe, s)
            else
              let room := min bytes.length (socket.plan.capacity - socket.untaken)
              let taken := clip intervention room
              (.ok (taken, taken),
                s.update number fun socket =>
                  { socket with
                    untaken := socket.untaken + taken
                    sent := socket.sent ++ bytes.take taken })

/-!
# Options
-/

/-- The longest time between probes that can be set, in seconds. -/
def longestProbe : Nat := 32767

def isAllowed : Setting -> Bool
  | .keepIdle seconds => 1 ≤ seconds && seconds ≤ longestProbe
  | .keepInterval seconds => 1 ≤ seconds && seconds ≤ longestProbe
  | _ => true

def applySetting (socket : Socket) : Setting -> Socket
  | .linger value => { socket with linger := value }
  | .waitLimit .input limit => { socket with receiveLimit := limit }
  | .waitLimit .output limit => { socket with sendLimit := limit }
  | _ => socket

def configure (s : System) (d : Descriptor) (setting : Setting) :
    Except Errno Unit × System :=
  s.onSocket .setsockopt d [.word (settingLabel setting), settingValue setting]
    fun s number _ _ =>
      if isAllowed setting then
        (.ok ((), 0), s.update number fun socket => applySetting socket setting)
      else (.error .invalidArgument, s)

def takeFailure (s : System) (d : Descriptor) : Except Errno Errno × System :=
  s.onSocket .getsockopt d [.word "SO_ERROR"] fun s number socket _ =>
    (.ok (socket.failure, 0), s.update number fun socket => { socket with failure := ⟨0⟩ })

/-!
# Polling
-/

/-- A count that an intervention demands is the answer at once. -/
def poll (s : System) (d : Descriptor) (direction : Direction) (milliseconds : Nat) :
    Except Errno Nat × System :=
  s.onSocket .poll d [.word (directionLabel direction), .number milliseconds]
    fun s number _ intervention =>
      match intervention.bound with
      | some count => (.ok (count, count), s)
      | none =>
          let (ready, s) :=
            s.wait number (Socket.isReady direction) (some (s.now + milliseconds * 1_000_000))
          (.ok (ready.toNat, ready.toNat), s)

/-!
# Shutting down and closing
-/

def applyHalf (half : Half) (socket : Socket) : Socket :=
  match half with
  | .reading => { socket with readShut := true }
  | .writing => { socket with writeShut := true }
  | .both => { socket with readShut := true, writeShut := true }

def duplicate (s : System) (d : Descriptor) : Except Errno Descriptor × System :=
  s.onSocket .dup d [] fun s number _ _ =>
    let (copy, s) := (s.update number fun socket =>
      { socket with descriptors := socket.descriptors + 1 }).addDescriptor number
    (.ok (copy, number), s)

/-- The descriptor is given up even when the call fails. -/
def close (s : System) (d : Descriptor) : Except Errno Unit × System :=
  match s.socketOf d with
  | none => (.error .badDescriptor, s)
  | some number =>
      let (intervention, s) := s.draw .close
      let s := s.update number fun socket =>
        { socket with descriptors := socket.descriptors - 1 }
      let s := { s with descriptors := s.descriptors.set d.number none }
      match intervention.failure with
      | some errno => s.finish .close number [] (.error errno)
      | none => s.finish .close number [] (.ok ((), 0))

/-!
# All calls
-/

def isNonblocking (s : System) (d : Descriptor) : Except Errno Bool :=
  match (s.socketOf d).bind s.socket? with
  | some socket => .ok socket.nonblocking
  | none => .error .badDescriptor

def answer (c : Call) (s : System) : c.Answer × System :=
  match c with
  | .openStream family => s.openStream family
  | .bind d record =>
      s.changing .bind d [.bytes record.bytes] fun socket =>
        { socket with bound := some record }
  | .connect d record => s.connect d record
  | .listen d backlog => s.changing .listen d [.number backlog.toInt] id
  | .accept d => s.accept d
  | .localRecord d => s.reporting .getsockname d [] fun number => Socket.localReport number
  | .peerRecord d => s.reporting .getpeername d [] fun _ => Socket.peerReport
  | .receive d limit => s.receive d limit
  | .send d bytes quiet dontWait => s.send d bytes quiet dontWait
  | .shutdown d half =>
      s.changing .shutdown d [.word (halfLabel half)] fun socket => applyHalf half socket
  | .configure d setting => s.configure d setting
  | .linger d =>
      s.reporting .getsockopt d [.word "SO_LINGER"] fun _ socket => .ok socket.linger
  | .waitLimit d .input =>
      s.reporting .getsockopt d [.word "SO_RCVTIMEO"] fun _ socket => .ok socket.receiveLimit
  | .waitLimit d .output =>
      s.reporting .getsockopt d [.word "SO_SNDTIMEO"] fun _ socket => .ok socket.sendLimit
  | .takeFailure d => s.takeFailure d
  | .poll d direction milliseconds => s.poll d direction milliseconds
  | .isNonblocking d => (s.isNonblocking d, s)
  | .setNonblocking d enabled =>
      s.changing .nonblocking d [.flag enabled] fun socket =>
        { socket with nonblocking := enabled }
  | .duplicate d => s.duplicate d
  | .close d => s.close d
  | .now => (⟨s.now⟩, s)

end System
end Virtual
end ServiceSocket
