import ServiceSocket.Address.Text
import ServiceSocket.Failure.Errno
import ServiceSocket.Network

/-!
# Errors

There are two levels of failure.  An `IoError` is what a stream of bytes reports; an
`Error` is what the operations of this library report.  Each can hold the other: a
library error may be caused by a failed system call, and a library error that has to pass
through an interface for byte streams is wrapped whole, so that neither its text nor its
kind is lost.
-/

namespace ServiceSocket

mutual

inductive IoError where
  | os (errno : Errno)
  /-- Nothing is known but the kind. -/
  | bare (kind : FailureKind)
  | message (kind : FailureKind) (text : String)
  /-- A library error under the kind that it has for callers of a byte stream. -/
  | wrapped (kind : FailureKind) (error : Error)

inductive Error where
  | io (error : IoError)
  | unknownNetwork (network : String)
  | malformedAddress (detail : String)
  | missingAddress
  | invalidDescriptor
  | timeout
  | op (operation network address : String) (source : Error)

end

deriving instance DecidableEq for IoError, Error

namespace IoError

def kind : IoError -> FailureKind
  | .os errno => errno.kind
  | .bare kind => kind
  | .message kind _ => kind
  | .wrapped kind _ => kind

def errno? : IoError -> Option Errno
  | .os errno => some errno
  | _ => none

end IoError

/-!
# Texts
-/

mutual

def IoError.text : IoError -> String
  | .os errno => errno.message
  | .bare kind => kind.description
  | .message _ text => text
  | .wrapped _ error => error.text

def Error.text : Error -> String
  | .io error => "I/O error: " ++ error.text
  | .unknownNetwork network => "unknown network " ++ network
  | .malformedAddress detail => "malformed address: " ++ detail
  | .missingAddress => "missing address"
  | .invalidDescriptor => "invalid descriptor"
  | .timeout => "i/o timeout"
  | .op operation network address source =>
      operation ++ " " ++ network ++ " " ++ address ++ ": " ++ source.text

end

/-!
# Chains of sources
-/

mutual

/-- How many errors stand behind this one; a wrapper is not counted. -/
def IoError.depth : IoError -> Nat
  | .wrapped _ error => error.depth
  | _ => 0

def Error.depth : Error -> Nat
  | .op _ _ _ source => source.depth + 1
  | .io error => error.depth + 1
  | _ => 0

end

namespace Error

def inContext (operation network : String) (address : Option Address) (error : Error) :
    Error :=
  .op operation network (Address.describe address) error

def cause : Error -> Error
  | .op _ _ _ source => source.cause
  | error => error

def kind (error : Error) : FailureKind :=
  match error.cause with
  | .io error => error.kind
  | .timeout => .timedOut
  | .invalidDescriptor => .notConnected
  | .unknownNetwork _ | .malformedAddress _ | .missingAddress => .invalidInput
  | .op _ _ _ _ => .other

def isTimeout (error : Error) : Bool :=
  match error.cause with
  | .timeout => true
  | .io error => error.kind == .timedOut
  | _ => false

/-- The error as a byte stream reports it.  What came from a byte stream goes back as it
was; everything else is wrapped. -/
def toIoError : Error -> IoError
  | .io error => error
  | error => .wrapped error.kind error

def ofErrno (errno : Errno) : Error :=
  .io (.os errno)

def ofTextFault (fault : Address.TextFault) : Error :=
  .malformedAddress fault.message

/-!
# Layers
-/

inductive Layer where
  | stream
  | context (operation network : String) (address : Option Address)

def wrap (error : Error) : Layer -> Error
  | .stream => .io error.toIoError
  | .context operation network address => error.inContext operation network address

/-- Put layers around an error, the first one innermost. -/
def wrapAll (error : Error) (layers : List Layer) : Error :=
  layers.foldl wrap error

end Error

/-!
# Addresses from texts
-/

namespace Address

def ofText (text : String) : Except Error Address :=
  (parse text).mapError Error.ofTextFault

/-- Only the network of service addresses has any, and it is checked before the text is
looked at. -/
def resolve (network text : String) : Except Error Address :=
  if network = Network.tipc then (parse text).mapError Error.ofTextFault
  else .error (.unknownNetwork network)

end Address
end ServiceSocket
