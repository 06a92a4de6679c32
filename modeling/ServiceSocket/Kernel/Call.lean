import ServiceSocket.Address.Record
import ServiceSocket.Clock
import ServiceSocket.Failure.Errno

/-!
# System calls

The calls that the library makes on the operating system, and what each is answered with.
A call names its socket by a descriptor.  Nothing is said here about when a call succeeds
or what it does.
-/

namespace ServiceSocket

/-- A handle on a socket; several descriptors may belong to one socket. -/
structure Descriptor where
  number : Nat
deriving DecidableEq

inductive Direction where
  | input
  | output
deriving DecidableEq

inductive Half where
  | reading
  | writing
  | both
deriving DecidableEq

/-- How long a socket waits by itself, in seconds and microseconds; zero is for ever. -/
structure WaitLimit where
  seconds : Nat
  microseconds : Nat
deriving DecidableEq

structure Linger where
  enabled : Bool
  seconds : Int32
deriving DecidableEq

inductive Setting where
  | linger (value : Linger)
  | noDelay (enabled : Bool)
  | keepAlive (enabled : Bool)
  | keepIdle (seconds : Nat)
  | keepInterval (seconds : Nat)
  | waitLimit (direction : Direction) (limit : WaitLimit)
deriving DecidableEq

inductive Call where
  | openStream (family : Family)
  | bind (d : Descriptor) (record : Record)
  | connect (d : Descriptor) (record : Record)
  | listen (d : Descriptor) (backlog : Int32)
  | accept (d : Descriptor)
  | localRecord (d : Descriptor)
  | peerRecord (d : Descriptor)
  | receive (d : Descriptor) (limit : Nat)
  /-- Offer bytes for sending.  `quiet` asks for an error instead of a signal when the peer
  is gone, and `dontWait` for an error instead of waiting for room. -/
  | send (d : Descriptor) (bytes : List UInt8) (quiet dontWait : Bool)
  | shutdown (d : Descriptor) (half : Half)
  | configure (d : Descriptor) (setting : Setting)
  | linger (d : Descriptor)
  | waitLimit (d : Descriptor) (direction : Direction)
  | takeFailure (d : Descriptor)
  /-- Wait at most so many milliseconds until the socket is ready. -/
  | poll (d : Descriptor) (direction : Direction) (milliseconds : Nat)
  | isNonblocking (d : Descriptor)
  | setNonblocking (d : Descriptor) (enabled : Bool)
  | duplicate (d : Descriptor)
  | close (d : Descriptor)
  | now
deriving DecidableEq

abbrev Call.Answer : Call -> Type
  | .openStream _ => Except Errno Descriptor
  | .bind _ _ => Except Errno Unit
  | .connect _ _ => Except Errno Unit
  | .listen _ _ => Except Errno Unit
  | .accept _ => Except Errno (Descriptor × Record)
  | .localRecord _ => Except Errno Record
  | .peerRecord _ => Except Errno Record
  | .receive _ _ => Except Errno (List UInt8)
  | .send _ _ _ _ => Except Errno Nat
  | .shutdown _ _ => Except Errno Unit
  | .configure _ _ => Except Errno Unit
  | .linger _ => Except Errno Linger
  | .waitLimit _ _ => Except Errno WaitLimit
  | .takeFailure _ => Except Errno Errno
  | .poll _ _ _ => Except Errno Nat
  | .isNonblocking _ => Except Errno Bool
  | .setNonblocking _ _ => Except Errno Unit
  | .duplicate _ => Except Errno Descriptor
  | .close _ => Except Errno Unit
  | .now => Instant

end ServiceSocket
