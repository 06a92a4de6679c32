import ServiceSocket.Address.Basic
import ServiceSocket.Network

/-!
# Records of socket addresses

The system passes addresses as records: a storage of 128 bytes of which a claimed number
counts.  The first two bytes hold the family.  The record of a service address goes on
with the kind, the scope, and a payload of twelve bytes: service, instance and domain,
each with its least significant byte first.
-/

namespace ServiceSocket

/-!
# Words of four bytes
-/

namespace Word

/-- The four bytes of a word, the least significant first. -/
def toBytes (w : UInt32) : Vector UInt8 4 :=
  #v[UInt8.ofNat w.toNat, UInt8.ofNat (w.toNat / 0x100), UInt8.ofNat (w.toNat / 0x1_0000),
    UInt8.ofNat (w.toNat / 0x100_0000)]

def ofBytes (b0 b1 b2 b3 : UInt8) : UInt32 :=
  UInt32.ofNat (b0.toNat + 0x100 * b1.toNat + 0x1_0000 * b2.toNat + 0x100_0000 * b3.toNat)

theorem ofBytes_toBytes (w : UInt32) :
    ofBytes (toBytes w)[0] (toBytes w)[1] (toBytes w)[2] (toBytes w)[3] = w := by
  have bound := w.toNat_lt
  apply UInt32.toNat_inj.mp
  simp only [ofBytes, toBytes, UInt32.toNat_ofNat', Vector.getElem_mk,
    List.getElem_toArray, List.getElem_cons_zero, List.getElem_cons_succ,
    UInt8.toNat_ofNat']
  omega

theorem ofNat_eq_of_mod_eq {n : Nat} {b : UInt8}
    (h : n % 0x100 = b.toNat) : UInt8.ofNat n = b := by
  apply UInt8.toNat_inj.mp
  rw [UInt8.toNat_ofNat']
  exact h

theorem toBytes_ofBytes (b0 b1 b2 b3 : UInt8) :
    toBytes (ofBytes b0 b1 b2 b3) = #v[b0, b1, b2, b3] := by
  have h0 := b0.toNat_lt
  have h1 := b1.toNat_lt
  have h2 := b2.toNat_lt
  have h3 := b3.toNat_lt
  have value : (ofBytes b0 b1 b2 b3).toNat =
      b0.toNat + 0x100 * b1.toNat + 0x1_0000 * b2.toNat + 0x100_0000 * b3.toNat := by
    rw [ofBytes, UInt32.toNat_ofNat']
    omega
  rw [toBytes, value, ofNat_eq_of_mod_eq, ofNat_eq_of_mod_eq, ofNat_eq_of_mod_eq,
    ofNat_eq_of_mod_eq]
  all_goals omega

end Word

namespace Family

/-- The two bytes of a family number, the least significant first. -/
def toBytes (family : Family) : Vector UInt8 2 :=
  #v[UInt8.ofNat family.number.toNat, UInt8.ofNat (family.number.toNat / 0x100)]

def ofBytes (b0 b1 : UInt8) : Family :=
  ⟨UInt16.ofNat (b0.toNat + 0x100 * b1.toNat)⟩

end Family

/-!
# Payloads
-/

/-- The part of a service address's record that holds the three words. -/
abbrev Payload := Vector UInt8 12

namespace Address

def payload (address : Address) : Payload :=
  Word.toBytes address.service ++ Word.toBytes address.inst ++ Word.toBytes address.domain

/-- The address whose kind and scope travel beside its payload. -/
def ofPayload (kind : AddressKind) (scope : Scope) (p : Payload) : Address where
  kind
  scope
  service := Word.ofBytes p[0] p[1] p[2] p[3]
  inst := Word.ofBytes p[4] p[5] p[6] p[7]
  domain := Word.ofBytes p[8] p[9] p[10] p[11]

end Address

/-!
# Records
-/

/-- A storage of fixed size and the number of its bytes that are claimed to count. -/
structure Record where
  storage : Vector UInt8 128
  length : Nat
deriving DecidableEq

namespace Record

/-- The record with the given bytes in front of a storage of zeros. -/
def ofBytes (bytes : List UInt8) (length : Nat) : Record :=
  ⟨Vector.ofFn fun i => bytes.getD i.val 0, length⟩

def bytes (record : Record) : List UInt8 :=
  record.storage.toList.take record.length

def empty : Record :=
  ofBytes [] 0

def family (record : Record) : Family :=
  Family.ofBytes record.storage[0] record.storage[1]

def serviceLength : Nat := 16

inductive Class where
  /-- A service address whose payload has not been taken apart. -/
  | service (kind : AddressKind) (scope : Scope) (payload : Payload)
  | foreign (family : Family)
  /-- A record of no family, or too short to be read. -/
  | unrecognized
deriving DecidableEq

def payload (record : Record) : Payload :=
  Vector.ofFn fun i => record.storage[4 + i.val]

def classify (record : Record) : Class :=
  if record.length < 2 then .unrecognized
  else if record.family = .unspecified then .unrecognized
  else if record.family ≠ .tipc then .foreign record.family
  else if record.length < serviceLength then .unrecognized
  else
    .service ⟨record.storage[2]⟩ ⟨record.storage[3].toInt8⟩ record.payload

theorem classify_eq_service_iff {record : Record} {kind : AddressKind} {scope : Scope}
    {p : Payload} : record.classify = .service kind scope p <->
      serviceLength ≤ record.length ∧ record.family = .tipc ∧ kind = ⟨record.storage[2]⟩ ∧
        scope = ⟨record.storage[3].toInt8⟩ ∧ p = record.payload := by
  constructor
  · intro h
    unfold classify at h
    split at h
    next => cases h
    next =>
        split at h
        next => cases h
        next =>
            split at h
            next => cases h
            next hfamily =>
                split at h
                next => cases h
                next hlength =>
                    cases h
                    exact ⟨Nat.not_lt.mp hlength, Decidable.not_not.mp hfamily, rfl, rfl, rfl⟩
  · rintro ⟨hlength, hfamily, rfl, rfl, rfl⟩
    have hlong : ¬ record.length < 2 := Nat.not_lt.mpr (Nat.le_trans (by decide) hlength)
    rw [classify, if_neg hlong, hfamily, if_neg (by decide), if_neg (Decidable.not_not.mpr rfl),
      if_neg (Nat.not_lt.mpr hlength)]

def ofParts (kind : AddressKind) (scope : Scope) (payload : Payload) : Record :=
  ofBytes
    (Family.tipc.toBytes.toList ++ [kind.code, scope.level.toUInt8] ++ payload.toList)
    serviceLength

namespace Class

def isService : Class -> Bool
  | .service _ _ _ => true
  | _ => false

def toRecord? : Class -> Option Record
  | .service kind scope payload => some (ofParts kind scope payload)
  | _ => none

def toAddress? : Class -> Option Address
  | .service kind scope payload => some (Address.ofPayload kind scope payload)
  | _ => none

def ofAddress (address : Address) : Class :=
  .service address.kind address.scope address.payload

end Class

def toAddress? (record : Record) : Option Address :=
  record.classify.toAddress?

end Record

namespace Address

def toRecord (address : Address) : Record :=
  Record.ofParts address.kind address.scope address.payload

/-- Whether the class of an address is the class of its record. -/
def isClassKept (address : Address) : Bool :=
  Record.Class.ofAddress address == address.toRecord.classify

end Address
end ServiceSocket
