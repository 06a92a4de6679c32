import ServiceSocket.Kernel.Call

/-!
# The log of calls

Every call that the virtual system answers is logged under its name, with the number of
its socket, what it was given, and one number for what came of it: a count, a socket, or
the negative of an error number.
-/

namespace ServiceSocket
namespace Virtual

inductive CallName where
  | socket
  | bind
  | connect
  | listen
  | accept
  | getsockname
  | getpeername
  | recv
  | send
  | shutdown
  | setsockopt
  | getsockopt
  | poll
  | nonblocking
  | dup
  | close
deriving DecidableEq

inductive Argument where
  | number (value : Int)
  | flag (value : Bool)
  | word (value : String)
  | bytes (value : List UInt8)
  | pair (first second : Int)

/-- A call that was made: on which socket, with what, and what came of it. -/
structure Entry where
  name : CallName
  socket : Option Nat
  arguments : List Argument
  result : Int

/-!
# Parts of calls
-/

def settingLabel : Setting -> String
  | .linger _ => "SO_LINGER"
  | .noDelay _ => "TCP_NODELAY"
  | .keepAlive _ => "SO_KEEPALIVE"
  | .keepIdle _ => "TCP_KEEPIDLE"
  | .keepInterval _ => "TCP_KEEPINTVL"
  | .waitLimit .input _ => "SO_RCVTIMEO"
  | .waitLimit .output _ => "SO_SNDTIMEO"

def settingValue : Setting -> Argument
  | .linger value => .pair value.enabled.toNat value.seconds.toInt
  | .noDelay enabled => .number enabled.toNat
  | .keepAlive enabled => .number enabled.toNat
  | .keepIdle seconds => .number seconds
  | .keepInterval seconds => .number seconds
  | .waitLimit _ limit => .pair limit.seconds limit.microseconds

def directionLabel : Direction -> String
  | .input => "in"
  | .output => "out"

def halfLabel : Half -> String
  | .reading => "read"
  | .writing => "write"
  | .both => "both"

end Virtual
end ServiceSocket
