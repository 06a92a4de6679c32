import Mathlib.Data.Nat.Digits.Defs
import Mathlib.Tactic.IntervalCases
import ServiceSocket.Address.Record

/-!
# Addresses and their records

An address and its record tell the same.  The record of an address is read back as that
address, whether it is taken apart at once or classified first, and a record that is read as
an address is written again as its first sixteen bytes.
-/

namespace ServiceSocket

/-!
# Numbers in bytes
-/

namespace Word

theorem ofDigits_toBytes (w : UInt32) :
    Nat.ofDigits 256 ((toBytes w).toList.map UInt8.toNat) = w.toNat := by
  have bound := w.toNat_lt
  simp only [toBytes, Vector.toList_mk, List.map_cons, List.map_nil, UInt8.toNat_ofNat',
    Nat.ofDigits_cons, Nat.ofDigits_nil]
  omega

end Word

namespace Family

theorem toBytes_eq_of_ofBytes_eq {family : Family} {b0 b1 : UInt8}
    (h : ofBytes b0 b1 = family) : family.toBytes = #v[b0, b1] := by
  have h0 := b0.toNat_lt
  have h1 := b1.toNat_lt
  have hnumber : family.number.toNat = b0.toNat + 0x100 * b1.toNat := by
    rw [← h, ofBytes, UInt16.toNat_ofNat']
    omega
  rw [toBytes, hnumber, Word.ofNat_eq_of_mod_eq, Word.ofNat_eq_of_mod_eq]
  all_goals omega

end Family

/-!
# Payloads
-/

namespace Address

theorem toList_payload (a : Address) :
    a.payload.toList = (Word.toBytes a.service).toList ++ (Word.toBytes a.inst).toList ++
      (Word.toBytes a.domain).toList := by
  unfold payload
  rw [← Vector.toList_append, ← Vector.toList_append]

theorem ofPayload_payload (a : Address) : ofPayload a.kind a.scope a.payload = a := by
  have hbyte {i : Nat} (h : i < 12) : a.payload[i] = a.payload.toList.getD i 0 := by
    simp [h]
  rw [ofPayload]
  simp only [hbyte, toList_payload]
  rcases a with ⟨kind, scope, service, inst, domain⟩
  rw [mk.injEq]
  exact ⟨rfl, rfl, Word.ofBytes_toBytes service, Word.ofBytes_toBytes inst,
    Word.ofBytes_toBytes domain⟩

theorem payload_ofPayload (kind : AddressKind) (scope : Scope) (p : Payload) :
    (ofPayload kind scope p).payload = p := by
  apply Vector.toList_inj.mp
  rw [toList_payload, ofPayload]
  simp only [Word.toBytes_ofBytes, Vector.toList_mk, List.cons_append, List.nil_append]
  apply List.ext_getElem
  · rw [Vector.length_toList]
    rfl
  · intro i hi _
    simp only [Vector.getElem_toList]
    simp only [List.length_cons, List.length_nil] at hi
    interval_cases i <;> rfl

end Address

/-!
# Records
-/

namespace Record

/-- The number that some of the bytes stand for, the least significant first. -/
def number (record : Record) (offset size : Nat) : Nat :=
  Nat.ofDigits 256 (((record.bytes.drop offset).take size).map UInt8.toNat)

theorem storage_ofBytes (bytes : List UInt8) (length : Nat) {i : Nat}
    (h : i < 128) : (ofBytes bytes length).storage[i] = bytes.getD i 0 := by
  simp [ofBytes]

theorem bytes_ofBytes {bytes : List UInt8}
    (h : bytes.length ≤ 128) : (ofBytes bytes bytes.length).bytes = bytes := by
  apply List.ext_getElem
  · simp [Record.bytes, ofBytes, h]
  · intro i hi hi'
    simp [Record.bytes, ofBytes, hi']

def parts (kind : AddressKind) (scope : Scope) (p : Payload) : List UInt8 :=
  30 :: 0 :: kind.code :: scope.level.toUInt8 :: p.toList

theorem ofParts_eq (kind : AddressKind) (scope : Scope) (p : Payload) :
    ofParts kind scope p = ofBytes (parts kind scope p) serviceLength := rfl

theorem length_parts (kind : AddressKind) (scope : Scope) (p : Payload) :
    (parts kind scope p).length = serviceLength := by
  simp [parts, serviceLength]

theorem bytes_ofParts (kind : AddressKind) (scope : Scope) (p : Payload) :
    (ofParts kind scope p).bytes = parts kind scope p := by
  have hlength := length_parts kind scope p
  have hbound : (parts kind scope p).length ≤ 128 := by
    rw [hlength]
    decide
  have hbytes := bytes_ofBytes hbound
  rw [hlength] at hbytes
  exact hbytes

theorem payload_ofParts (kind : AddressKind) (scope : Scope) (p : Payload) :
    (ofParts kind scope p).payload = p := by
  apply Vector.ext
  intro i hi
  rw [payload, Vector.getElem_ofFn, ofParts_eq, storage_ofBytes]
  simp [parts, Nat.add_comm 4 i, hi]

theorem classify_ofParts (kind : AddressKind) (scope : Scope) (p : Payload) :
    (ofParts kind scope p).classify = .service kind scope p := by
  have hfamily : (ofParts kind scope p).family = .tipc := by
    simp only [family, ofParts_eq, storage_ofBytes, parts]
    rfl
  have hkind : (ofParts kind scope p).storage[2] = kind.code := by
    rw [ofParts_eq, storage_ofBytes]
    rfl
  have hscope : (ofParts kind scope p).storage[3] = scope.level.toUInt8 := by
    rw [ofParts_eq, storage_ofBytes]
    rfl
  have hlength : (ofParts kind scope p).length = serviceLength := rfl
  rw [classify, hfamily, hlength, payload_ofParts, hkind, hscope]
  simp only [Int8.toInt8_toUInt8]
  rfl

theorem parts_of_classify {record : Record} {kind : AddressKind} {scope : Scope} {p : Payload}
    (h : record.classify = .service kind scope p) :
    parts kind scope p = record.bytes.take serviceLength := by
  rcases classify_eq_service_iff.mp h with ⟨hlength, hfamily, rfl, rfl, rfl⟩
  have hbytes := Family.toBytes_eq_of_ofBytes_eq hfamily
  have h0 : record.storage[0] = 30 := (congrArg (fun v => v[0]) hbytes).symm
  have h1 : record.storage[1] = 0 := (congrArg (fun v => v[1]) hbytes).symm
  apply List.ext_getElem
  · simp [length_parts, bytes, serviceLength] at hlength ⊢
    omega
  · intro i hi hi'
    rw [length_parts, serviceLength] at hi
    simp only [bytes, List.getElem_take, Vector.getElem_toList]
    interval_cases i <;> simp [parts, payload, h0, h1]

end Record

namespace Address

/-- The record of an address has sixteen bytes that tell all of the address, and both ways of
reading it and both ways of writing it agree.  Whatever is read as an address is written
again as the sixteen bytes it was read from. -/
theorem records_stand_for_addresses :
    (forall a : Address,
      a.toRecord.length = 16 ∧
      a.toRecord.number 0 2 = Family.tipc.number.toNat ∧
      a.toRecord.number 2 1 = a.kind.code.toNat ∧
      a.toRecord.number 3 1 = a.scope.level.toUInt8.toNat ∧
      a.toRecord.number 4 4 = a.service.toNat ∧
      a.toRecord.number 8 4 = a.inst.toNat ∧
      a.toRecord.number 12 4 = a.domain.toNat ∧
      a.toRecord.toAddress? = some a ∧
      Record.Class.ofAddress a = a.toRecord.classify ∧
      (Record.Class.ofAddress a).toRecord? = some a.toRecord) ∧
    (forall record : Record, record.classify.isService = true ->
      exists written : Record, written.length = 16 ∧ written.bytes = record.bytes.take 16 ∧
        record.classify.toRecord? = some written ∧
        record.toAddress?.map toRecord = some written) ∧
    forall (kind : AddressKind) (scope : Scope) (p : Payload),
      (ofPayload kind scope p).payload = p := by
  refine ⟨?_, ?_, payload_ofPayload⟩
  · intro a
    have hclass : a.toRecord.classify = .service a.kind a.scope a.payload :=
      Record.classify_ofParts a.kind a.scope a.payload
    have hbytes : a.toRecord.bytes = Record.parts a.kind a.scope a.payload :=
      Record.bytes_ofParts a.kind a.scope a.payload
    have haddress : a.toRecord.toAddress? = some a := by
      rw [Record.toAddress?, hclass, Record.Class.toAddress?, ofPayload_payload]
    refine ⟨rfl, ?_, ?_, ?_, ?_, ?_, ?_, haddress, hclass.symm, rfl⟩
    all_goals rw [Record.number, hbytes, Record.parts, toList_payload]
    · rfl
    · rfl
    · rfl
    · exact Word.ofDigits_toBytes a.service
    · exact Word.ofDigits_toBytes a.inst
    · exact Word.ofDigits_toBytes a.domain
  · intro record hservice
    cases hclass : record.classify with
    | service kind scope p =>
        refine ⟨Record.ofParts kind scope p, rfl, ?_, rfl, ?_⟩
        · rw [Record.bytes_ofParts, Record.parts_of_classify hclass]
          rfl
        · rw [Record.toAddress?, hclass, Record.Class.toAddress?, Option.map_some, toRecord,
            payload_ofPayload]
          rfl
    | foreign family =>
        rw [hclass] at hservice
        cases hservice
    | unrecognized =>
        rw [hclass] at hservice
        cases hservice

/-- A record that claims four bytes too many, with a scope below zero. -/
theorem records_stand_for_addresses_with_bytes_behind :
    exists record written : Record, record.length = 20 ∧
      record.bytes = [30, 0, 9, 200, 1, 2, 3, 4, 5, 6, 7, 8, 9, 10, 11, 12, 66, 66, 66, 66] ∧
      record.classify.isService = true ∧
      written.bytes = [30, 0, 9, 200, 1, 2, 3, 4, 5, 6, 7, 8, 9, 10, 11, 12] ∧
      record.toAddress?.map toRecord = some written := by
  let record : Record :=
    .ofBytes [30, 0, 9, 200, 1, 2, 3, 4, 5, 6, 7, 8, 9, 10, 11, 12, 66, 66, 66, 66] 20
  have hbytes : record.bytes =
      [30, 0, 9, 200, 1, 2, 3, 4, 5, 6, 7, 8, 9, 10, 11, 12, 66, 66, 66, 66] :=
    Record.bytes_ofBytes (by decide)
  have hservice : record.classify.isService = true := by decide
  rcases records_stand_for_addresses.2.1 record hservice with ⟨written, _, hwritten, _, hread⟩
  rw [hbytes] at hwritten
  exact ⟨record, written, rfl, hbytes, hservice, hwritten, hread⟩

end Address
end ServiceSocket
