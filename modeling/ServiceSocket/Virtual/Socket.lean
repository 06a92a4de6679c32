import ServiceSocket.Kernel.Call

/-!
# Virtual sockets

A socket of the virtual system holds what its peer has sent and what the peer has not yet
taken.  A plan says how a socket that is yet to be made will behave.
-/

namespace ServiceSocket
namespace Virtual

inductive Stack where
  | tipc
  | tcp
deriving DecidableEq

/-- How long a peer takes to complete a connection, in nanoseconds. -/
inductive Handshake where
  | after (nanoseconds : Nat)
  | never
deriving DecidableEq

structure Plan where
  localReport : Option (Except Errno Record) := none
  peerReport : Option (Except Errno Record) := none
  inbox : List UInt8 := []
  ended : Bool := false
  capacity : Nat := 65536
  handshake : Handshake := .after 0
  failure : Errno := ⟨0⟩
  nonblocking : Bool := false

/-- A connection that has been started but not completed. -/
inductive Connecting where
  | no
  | till (moment : Nat)
  | forever
deriving DecidableEq

structure Socket where
  stack : Stack
  plan : Plan
  bound : Option Record := none
  target : Option Record := none
  inbox : List UInt8
  ended : Bool
  /-- The peer takes nothing more. -/
  gone : Bool := false
  /-- How many of the bytes sent the peer has not taken. -/
  untaken : Nat := 0
  callers : List Plan := []
  connecting : Connecting := .no
  failure : Errno
  nonblocking : Bool
  linger : Linger := ⟨false, 0⟩
  receiveLimit : WaitLimit := ⟨0, 0⟩
  sendLimit : WaitLimit := ⟨0, 0⟩
  readShut : Bool := false
  writeShut : Bool := false
  descriptors : Nat := 1
  sent : List UInt8 := []

namespace Socket

def ofPlan (stack : Stack) (plan : Plan) : Socket where
  stack
  plan
  inbox := plan.inbox
  ended := plan.ended
  failure := plan.failure
  nonblocking := plan.nonblocking

/-!
# Readiness
-/

def canReceive (s : Socket) : Bool :=
  !s.inbox.isEmpty || s.ended || s.readShut

def canAccept (s : Socket) : Bool :=
  !s.callers.isEmpty

def isConnecting (now : Nat) (s : Socket) : Bool :=
  match s.connecting with
  | .no => false
  | .till moment => now < moment
  | .forever => true

def canSend (now : Nat) (s : Socket) : Bool :=
  !s.isConnecting now && (s.untaken < s.plan.capacity || s.gone || s.writeShut)

def isReady (direction : Direction) (now : Nat) (s : Socket) : Bool :=
  match direction with
  | .input => s.canReceive || s.canAccept
  | .output => s.canSend now

/-!
# Reports
-/

/-- The address of this end when neither the plan nor a bind gives one: an identity
that holds the socket's number, or that number as a port of this host. -/
def defaultReport (stack : Stack) (number : Nat) : Record :=
  match stack with
  | .tipc =>
      Address.toRecord ⟨.identity, ⟨0⟩, UInt32.ofNat number, 0x01001001, 0⟩
  | .tcp =>
      Record.ofBytes
        (Family.inet.toBytes.toList
          ++ [UInt8.ofNat (number / 0x100), UInt8.ofNat number, 127, 0, 0, 1]) 16

def localReport (number : Nat) (s : Socket) : Except Errno Record :=
  match s.plan.localReport with
  | some report => report
  | none => .ok (s.bound.getD (defaultReport s.stack number))

def peerReport (s : Socket) : Except Errno Record :=
  match s.plan.peerReport, s.target with
  | some report, _ => report
  | none, some target => .ok target
  | none, none => .error .notConnected

def callerReport (number : Nat) (s : Socket) : Record :=
  match s.peerReport, s.stack with
  | .ok record, _ => record
  | .error _, .tipc => Record.empty
  | .error _, .tcp => defaultReport .tcp number

end Socket

/-!
# The peer's doings
-/

/-- What a peer does to a socket. -/
inductive Happening where
  | feed (bytes : List UInt8)
  | finish
  | leave
  /-- Take so many of the bytes sent, or all of them. -/
  | drain (count : Option Nat)
  | call (plan : Plan)

def Happening.apply (s : Socket) : Happening -> Socket
  | .feed bytes => { s with inbox := s.inbox ++ bytes }
  | .finish => { s with ended := true }
  | .leave => { s with gone := true }
  | .drain none => { s with untaken := 0 }
  | .drain (some count) => { s with untaken := s.untaken - count }
  | .call plan => { s with callers := s.callers ++ [plan] }

end Virtual
end ServiceSocket
