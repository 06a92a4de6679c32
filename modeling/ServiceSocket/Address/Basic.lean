/-!
# Service addresses

A service address names a logical service instead of a host: one instance of a service,
or a range of its instances.  The same five fields also carry the identities that the
system reports for sockets that have no name.
-/

namespace ServiceSocket

/-- What an address names.  Any byte that the system reports is kept as it is. -/
structure AddressKind where
  code : UInt8
deriving DecidableEq

namespace AddressKind

def nameRange : AddressKind := ⟨1⟩

/-- All members of a range at once; it shares its code with `nameRange`. -/
def multicast : AddressKind := ⟨1⟩

def name : AddressKind := ⟨2⟩

def identity : AddressKind := ⟨3⟩

end AddressKind

structure Scope where
  level : Int8
deriving DecidableEq

namespace Scope

def zone : Scope := ⟨1⟩

def cluster : Scope := ⟨2⟩

def node : Scope := ⟨3⟩

instance : Inhabited Scope := ⟨zone⟩

end Scope

/--
A service address.  In a range `inst` is the lower bound and `domain` the upper bound, in
whatever order they were given; elsewhere `domain` restricts where the name is looked up.
-/
structure Address where
  kind : AddressKind
  scope : Scope
  service : UInt32
  inst : UInt32
  domain : UInt32
deriving DecidableEq

namespace Address

def ofName (service inst : UInt32) : Address :=
  ⟨.name, .zone, service, inst, 0⟩

def ofRange (service low high : UInt32) : Address :=
  ⟨.nameRange, .zone, service, low, high⟩

def withScope (address : Address) (scope : Scope) : Address :=
  { address with scope }

def range? (address : Address) : Option (UInt32 × UInt32) :=
  if address.kind = .nameRange then some (address.inst, address.domain) else none

def isWildcard (_ : Address) : Bool :=
  false

end Address
end ServiceSocket
