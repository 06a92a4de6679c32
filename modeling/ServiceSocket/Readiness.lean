import ServiceSocket.Kernel.Program

/-!
# Waiting until a socket is ready

Sockets wait by themselves for as long as it takes.  Before a call that might wait past a
deadline, the socket is polled for the time that is left, so that the caller is released
when the deadline comes.  Waiting changes nothing about the socket.
-/

namespace ServiceSocket
namespace Readiness

def longestPoll : Nat := 0x7fff_ffff

/-- The milliseconds to poll for when so much time is left.  They are rounded up, so that
a poll that finds nothing ends at the deadline or after it. -/
def pollTime (left : Duration) : Nat :=
  min (left.milliseconds + 1) longestPoll

/-- Poll until the socket is ready, a poll fails, or the deadline comes.  A poll may end
early, without a result or by an interruption, and is then repeated for what is left. -/
def pollUntil (d : Descriptor) (direction : Direction) (deadline : Instant) :
    Nat -> Attempt Unit
  | 0 => ExceptT.mk (.halt .outOfPatience)
  | patience + 1 => do
      match (← Program.now).until? deadline with
      | none => throw .timeout
      | some left =>
          match ← d.poll direction (pollTime left) with
          | .error errno =>
              if errno.kind = .interrupted then pollUntil d direction deadline patience
              else throw (.ofErrno errno)
          | .ok 0 =>
              match (← Program.now).until? deadline with
              | none => throw .timeout
              | some _ => pollUntil d direction deadline patience
          | .ok _ => return ()

/-- Wait until the socket is ready or the deadline comes.  Without a deadline the call
that follows does the waiting. -/
def wait (d : Descriptor) (direction : Direction) (deadline : Option Instant)
    (patience : Nat) : Attempt Unit :=
  match deadline with
  | none => return ()
  | some deadline => pollUntil d direction deadline patience

end Readiness
end ServiceSocket
