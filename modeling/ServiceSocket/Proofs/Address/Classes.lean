import ServiceSocket.Proofs.Address.Codec

/-!
# What a record is taken for

The family in front of a record and the number of bytes that it claims decide its class.  The
storage behind the claimed bytes may hold anything, and none of it is ever read into an
address.
-/

namespace ServiceSocket

theorem Family.number_ofBytes (b0 b1 : UInt8) :
    (ofBytes b0 b1).number.toNat = b0.toNat + 0x100 * b1.toNat := by
  have h0 := b0.toNat_lt
  have h1 := b1.toNat_lt
  rw [ofBytes, UInt16.toNat_ofNat']
  omega

theorem Scope.eq_iff {scope : Scope} {b : UInt8} :
    scope = ⟨b.toInt8⟩ <-> scope.level.toUInt8 = b := by
  constructor
  · intro h
    rw [h]
    exact UInt8.toUInt8_toInt8 b
  · intro h
    rw [← h, Int8.toInt8_toUInt8]

namespace Record

variable {record other : Record}

/-!
# Classes
-/

def familyNumber (record : Record) : Nat :=
  Nat.ofDigits 256 [(record.storage.get 0).toNat, (record.storage.get 1).toNat]

theorem family_eq_iff {family : Family} :
    record.family = family <-> record.familyNumber = family.number.toNat := by
  have hnumber : record.familyNumber = record.family.number.toNat := by
    rw [Record.family, Family.number_ofBytes, familyNumber, Nat.ofDigits_cons,
      Nat.ofDigits_singleton]
    rfl
  rw [hnumber, UInt16.toNat_inj]
  constructor
  · exact congrArg Family.number
  · exact congrArg Family.mk

theorem classify_eq_foreign_iff {family : Family} :
    record.classify = .foreign family <->
      2 ≤ record.length ∧ record.family = family ∧ family ≠ .unspecified ∧ family ≠ .tipc := by
  constructor
  · intro h
    unfold classify at h
    split at h
    next => cases h
    next hlong =>
        split at h
        next => cases h
        next hspecified =>
            split at h
            next hforeign =>
                cases h
                exact ⟨Nat.not_lt.mp hlong, rfl, hspecified, hforeign⟩
            next =>
                split at h
                next => cases h
                next => cases h
  · intro h
    rcases h with ⟨hlong, hfamily, hspecified, hforeign⟩
    rw [classify, if_neg (Nat.not_lt.mpr hlong), hfamily, if_neg hspecified, if_pos hforeign]

theorem classify_eq_unrecognized_iff :
    record.classify = .unrecognized <->
      record.length < 2 ∨ record.family = .unspecified ∨
        record.family = .tipc ∧ record.length < serviceLength := by
  constructor
  · intro h
    by_cases hlong : record.length < 2
    · exact .inl hlong
    · by_cases hunspecified : record.family = .unspecified
      · exact .inr (.inl hunspecified)
      · by_cases hforeign : record.family = .tipc
        · refine .inr (.inr ⟨hforeign, ?_⟩)
          by_contra hlength
          have hservice := classify_eq_service_iff.mpr
            ⟨Nat.not_lt.mp hlength, hforeign, rfl, rfl, rfl⟩
          rw [hservice] at h
          cases h
        · have hother := classify_eq_foreign_iff.mpr
            ⟨Nat.not_lt.mp hlong, rfl, hunspecified, hforeign⟩
          rw [hother] at h
          cases h
  · intro h
    cases hclass : record.classify with
    | service kind scope p =>
        rcases classify_eq_service_iff.mp hclass with ⟨hlength, htipc, _⟩
        rcases h with hshort | hunspecified | hpart
        · exact absurd hshort (Nat.not_lt.mpr (Nat.le_trans (by decide) hlength))
        · rw [htipc] at hunspecified
          cases hunspecified
        · exact absurd hpart.2 (Nat.not_lt.mpr hlength)
    | foreign family =>
        rcases classify_eq_foreign_iff.mp hclass with ⟨hlong, hfamily, hspecified, hforeign⟩
        rw [hfamily] at h
        rcases h with hshort | hunspecified | hpart
        · exact absurd hshort (Nat.not_lt.mpr hlong)
        · exact absurd hunspecified hspecified
        · exact absurd hpart.1 hforeign
    | unrecognized => rfl

theorem isService_iff :
    record.classify.isService = true <-> serviceLength ≤ record.length ∧ record.family = .tipc := by
  constructor
  · intro h
    cases hclass : record.classify with
    | service kind scope p =>
        rcases classify_eq_service_iff.mp hclass with ⟨hlength, hfamily, _⟩
        exact ⟨hlength, hfamily⟩
    | foreign family =>
        rw [hclass] at h
        cases h
    | unrecognized =>
        rw [hclass] at h
        cases h
  · intro h
    rw [classify_eq_service_iff.mpr ⟨h.1, h.2, rfl, rfl, rfl⟩]
    rfl

theorem toList_payload (record : Record) :
    record.payload.toList = (record.storage.toList.drop 4).take 12 := by
  apply List.ext_getElem
  · simp
  · intro i hi _
    simp [payload]

namespace Class

theorem isSome_toAddress? (c : Class) : c.toAddress?.isSome = c.isService := by
  cases c <;> rfl

theorem isSome_toRecord? (c : Class) : c.toRecord?.isSome = c.isService := by
  cases c <;> rfl

end Class

/-!
# Bytes that are not claimed
-/

theorem bytes_ofBytes_append {front behind : List UInt8}
    (h : front.length ≤ 128) :
    (ofBytes (front ++ behind) front.length).bytes = front := by
  apply List.ext_getElem
  · simp [bytes, ofBytes, h]
  · intro i hi hi'
    simp [bytes, ofBytes, List.getElem?_append_left hi', hi']

theorem getElem?_bytes {i : Nat}
    (hlength : i < record.length)
    (h : i < 128) :
    record.bytes[i]? = some record.storage[i] := by
  rw [bytes, List.getElem?_take_of_lt hlength, Vector.getElem?_toList,
    Vector.getElem?_eq_getElem h]

theorem storage_eq_of_take {n i : Nat}
    (hlengths : other.length = record.length)
    (h : other.bytes.take n = record.bytes.take n)
    (hn : i < n)
    (hlength : i < record.length)
    (hi : i < 128) :
    other.storage[i] = record.storage[i] := by
  have hother := getElem?_bytes (hlengths ▸ hlength) hi
  rw [← List.getElem?_take_of_lt hn, h, List.getElem?_take_of_lt hn,
    getElem?_bytes hlength hi] at hother
  exact (Option.some.inj hother).symm

/-- Of a record only the claimed bytes up to the end of a service address are looked at. -/
theorem classify_eq_of_take
    (hlengths : other.length = record.length)
    (h : other.bytes.take serviceLength = record.bytes.take serviceLength) :
    other.classify = record.classify := by
  have hbyte {i : Nat} (hi : i < serviceLength) (hlength : i < record.length) :=
    storage_eq_of_take hlengths h hi hlength (Nat.lt_trans hi (by decide))
  have hfamily (hlong : 2 ≤ record.length) : other.family = record.family := by
    rw [family, hbyte (by decide) (Nat.lt_of_lt_of_le (by decide) hlong),
      hbyte (by decide) hlong, family]
  cases hclass : record.classify with
  | service kind scope p =>
      rcases classify_eq_service_iff.mp hclass with ⟨hlength, htipc, hkind, hscope, hp⟩
      have hclaimed {i : Nat} (hi : i < serviceLength) :=
        hbyte hi (Nat.lt_of_lt_of_le hi hlength)
      have hpayload : other.payload = record.payload := by
        apply Vector.ext
        intro i hi
        rw [payload, payload, Vector.getElem_ofFn, Vector.getElem_ofFn]
        exact hclaimed (Nat.add_lt_add_left hi 4)
      apply classify_eq_service_iff.mpr
      rw [hlengths, hfamily (Nat.le_trans (by decide) hlength), hclaimed (by decide),
        hclaimed (by decide), hpayload]
      exact ⟨hlength, htipc, hkind, hscope, hp⟩
  | foreign family =>
      rcases classify_eq_foreign_iff.mp hclass with ⟨hlong, hnamed, hneither⟩
      apply classify_eq_foreign_iff.mpr
      rw [hlengths, hfamily hlong]
      exact ⟨hlong, hnamed, hneither⟩
  | unrecognized =>
      apply classify_eq_unrecognized_iff.mpr
      rw [hlengths]
      by_cases hshort : record.length < 2
      · exact .inl hshort
      · rw [hfamily (Nat.not_lt.mp hshort)]
        exact classify_eq_unrecognized_iff.mp hclass

/-- A record is a service address exactly if it claims sixteen bytes at least and its family is
that of service addresses, and then its parts are the bytes behind the family.  It is foreign
exactly if it claims a family at least and that is another one than none, and it is not
recognized in every other case.  Only a service address is read as an address or written again,
and records that claim the same bytes are taken for the same. -/
theorem claimed_bytes_decide_class (record : Record) :
    (forall kind scope p, record.classify = .service kind scope p <->
      16 ≤ record.length ∧ record.familyNumber = Family.tipc.number.toNat ∧
        kind.code = record.storage.get 2 ∧ scope.level.toUInt8 = record.storage.get 3 ∧
        p.toList = (record.storage.toList.drop 4).take 12) ∧
    (forall family, record.classify = .foreign family <->
      2 ≤ record.length ∧ record.familyNumber = family.number.toNat ∧
        family ≠ .unspecified ∧ family ≠ .tipc) ∧
    (record.classify = .unrecognized <->
      record.length < 2 ∨ record.familyNumber = Family.unspecified.number.toNat ∨
        record.familyNumber = Family.tipc.number.toNat ∧ record.length < 16) ∧
    (record.toAddress?.isSome = true <->
      16 ≤ record.length ∧ record.familyNumber = Family.tipc.number.toNat) ∧
    (record.classify.toRecord?.isSome = true <->
      16 ≤ record.length ∧ record.familyNumber = Family.tipc.number.toNat) ∧
    forall other : Record, other.length = record.length ->
      other.bytes.take 16 = record.bytes.take 16 ->
      other.classify = record.classify ∧ other.toAddress? = record.toAddress? ∧
        other.classify.toRecord? = record.classify.toRecord? := by
  have hservice : record.classify.isService = true <->
      16 ≤ record.length ∧ record.familyNumber = Family.tipc.number.toNat := by
    rw [isService_iff, family_eq_iff]
    rfl
  refine ⟨?_, ?_, ?_, ?_, ?_, ?_⟩
  · intro kind scope p
    rw [classify_eq_service_iff, family_eq_iff, ← Vector.toList_inj, toList_payload]
    have hkind : kind = ⟨record.storage[2]⟩ <-> kind.code = record.storage.get 2 := by
      constructor
      · exact congrArg AddressKind.code
      · exact congrArg AddressKind.mk
    rw [hkind, Scope.eq_iff]
    rfl
  · intro family
    rw [classify_eq_foreign_iff, family_eq_iff]
  · rw [classify_eq_unrecognized_iff, family_eq_iff, family_eq_iff]
    rfl
  · rw [toAddress?, Class.isSome_toAddress?]
    exact hservice
  · rw [Class.isSome_toRecord?]
    exact hservice
  · intro other hlengths hbytes
    have hclass := classify_eq_of_take hlengths hbytes
    rw [toAddress?, toAddress?, hclass]
    exact ⟨rfl, rfl, rfl⟩

/-- Two records that claim sixteen bytes, with different bytes behind them, are read as one
address. -/
theorem claimed_bytes_decide_class_before_stale_bytes :
    exists record other : Record, record.storage[16] = 66 ∧ other.storage[16] = 77 ∧
      other.length = record.length ∧ other.bytes.take 16 = record.bytes.take 16 ∧
      record.toAddress? = some ⟨.name, .cluster, 1, 2, 0⟩ ∧
      other.toAddress? = record.toAddress? := by
  let front : List UInt8 := [30, 0, 2, 2, 1, 0, 0, 0, 2, 0, 0, 0, 0, 0, 0, 0]
  let record : Record := .ofBytes (front ++ [66, 66]) 16
  let other : Record := .ofBytes (front ++ [77, 77]) 16
  have hlengths : other.length = record.length := by
    have hrecord : record.length = 16 := rfl
    have hother : other.length = 16 := rfl
    rw [hrecord, hother]
  have hbytes : other.bytes.take 16 = record.bytes.take 16 := by
    have hrecord : record.bytes = front := bytes_ofBytes_append (by decide)
    have hother : other.bytes = front := bytes_ofBytes_append (by decide)
    rw [hrecord, hother]
  have hclass := (claimed_bytes_decide_class record).2.2.2.2.2 other hlengths hbytes
  refine ⟨record, other, ?_, ?_, hlengths, hbytes, ?_, hclass.2.1⟩
  · exact storage_ofBytes _ _ _
  · exact storage_ofBytes _ _ _
  · decide +kernel

end Record
end ServiceSocket
