/-!
# Networks and address families

Callers name a network; the system knows it by the number of its address family.  The
table below is the only place where the two meet.
-/

namespace ServiceSocket

structure Family where
  number : UInt16
deriving DecidableEq

namespace Family

def unspecified : Family := ⟨0⟩

def inet : Family := ⟨2⟩

def inet6 : Family := ⟨10⟩

def tipc : Family := ⟨30⟩

end Family

namespace Network

def tipc : String := "tipc"

def tcp : String := "tcp"

structure Entry where
  network : String
  family : Family
deriving DecidableEq

def families : List Entry :=
  [⟨tipc, Family.tipc⟩]

/-- Names are compared exactly, so `"TIPC"` is not a network. -/
def lookup (network : String) : Option Entry :=
  families.find? fun entry => entry.network == network

end Network
end ServiceSocket
