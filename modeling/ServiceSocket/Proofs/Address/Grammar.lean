import ServiceSocket.Failure.Basic
import ServiceSocket.Proofs.Address.Slices

/-!
# The grammar of address texts

A text spells an address if it is made of two or three fields with the separators between
them.  Reading accepts exactly the texts that spell an address.
-/

namespace ServiceSocket
namespace Address

/-!
# Fields
-/

/-- Some digits, with any number of leading zeros, and the number of 32 bits they stand
for. -/
structure IsField (digits : List Char) (n : UInt32) : Prop where
  isNumeral : Decimal.IsNumeral digits
  value_eq : n.toNat = Decimal.value digits

theorem isDigit_delimiter : delimiter.isDigit = false := rfl

theorem isDigit_rangeDelimiter : rangeDelimiter.isDigit = false := rfl

theorem IsField.notMem {digits : List Char} {n : UInt32}
    (h : IsField digits n)
    {c : Char}
    (hc : c.isDigit = false) :
    c ∉ digits := by
  intro hmem
  rw [h.isNumeral.2 c hmem] at hc
  cases hc

theorem readNumeral_eq_ok_iff {text : List Char} {n : UInt32} :
    readNumeral text = .ok n <-> IsField text n := by
  unfold readNumeral
  constructor
  · intro h
    split at h
    next => cases h
    next hempty =>
        split at h
        next => cases h
        next hdigits =>
            split at h
            next hfits =>
                cases h
                have hall : forall c, c ∈ text -> c.isDigit = true := by simpa using hdigits
                have hne : text ≠ [] := by simpa using hempty
                exact ⟨⟨hne, hall⟩, Nat.mod_eq_of_lt hfits⟩
            next => cases h
  · intro h
    have hne : ¬ text.isEmpty = true := by simpa using h.isNumeral.1
    have hall : text.all Char.isDigit = true := List.all_eq_true.mpr h.isNumeral.2
    have hfits : Decimal.value text < UInt32.size := by
      rw [← h.value_eq]
      exact n.toNat_lt
    rw [if_neg hne, hall, if_neg (by decide), if_pos hfits, ← h.value_eq,
      UInt32.ofNat_toNat]

theorem readField_eq_ok_iff {field : Field} {text : List Char} {n : UInt32} :
    readField field text = .ok n <-> IsField text n := by
  rw [← readNumeral_eq_ok_iff, readField]
  cases readNumeral text with
  | error fault =>
      constructor
      · intro h
        cases h
      · intro h
        cases h
  | ok value =>
      change Except.ok value = .ok n <-> _
      rw [Except.ok.injEq, Except.ok.injEq]

/-!
# Texts
-/

theorem ok_of_bind {ε α β : Type} {result : Except ε α} {f : α -> Except ε β} {value : β}
    (h : result >>= f = .ok value) :
    exists first, result = .ok first ∧ f first = .ok value := by
  cases result with
  | error error => cases h
  | ok first => exact ⟨first, rfl, h⟩

inductive Spells : List Char -> Address -> Prop where
  | name {first second : List Char} {service inst : UInt32}
      (hservice : IsField first service)
      (hinst : IsField second inst) :
      Spells (first ++ delimiter :: second) (ofName service inst)
  | range {first second third : List Char} {service low high : UInt32}
      (hservice : IsField first service)
      (hlow : IsField second low)
      (hhigh : IsField third high) :
      Spells (first ++ delimiter :: (second ++ rangeDelimiter :: third))
        (ofRange service low high)

theorem Spells.readChars_eq {text : List Char} {address : Address}
    (h : Spells text address) : readChars text = .ok address := by
  cases h with
  | name hservice hinst =>
      rw [readChars, splitLast_append _ (hinst.notMem isDigit_delimiter)]
      simp only [readField_eq_ok_iff.mpr hservice]
      rw [splitLast_eq_none_iff.mpr (hinst.notMem isDigit_rangeDelimiter)]
      simp only [readField_eq_ok_iff.mpr hinst]
      rfl
  | @range first second third service low high hservice hlow hhigh =>
      have habsent : delimiter ∉ second ++ rangeDelimiter :: third := by
        intro hmem
        rcases List.mem_append.mp hmem with hmem | hmem
        · exact hlow.notMem isDigit_delimiter hmem
        · rcases List.mem_cons.mp hmem with hmem | hmem
          · cases hmem
          · exact hhigh.notMem isDigit_delimiter hmem
      rw [readChars, splitLast_append _ habsent]
      simp only [readField_eq_ok_iff.mpr hservice]
      rw [splitLast_append _ (hhigh.notMem isDigit_rangeDelimiter)]
      simp only [readField_eq_ok_iff.mpr hlow, readField_eq_ok_iff.mpr hhigh]
      rfl

theorem spells_of_readChars {text : List Char} {address : Address}
    (h : readChars text = .ok address) : Spells text address := by
  unfold readChars at h
  cases hsplit : splitLast delimiter text with
  | none =>
      rw [hsplit] at h
      cases h
  | some parts =>
      rcases parts with ⟨head, rest⟩
      rw [hsplit] at h
      rw [(eq_of_splitLast hsplit).1]
      rcases ok_of_bind h with ⟨service, hservice, h⟩
      rw [readField_eq_ok_iff] at hservice
      cases hrange : splitLast rangeDelimiter rest with
      | none =>
          rw [hrange] at h
          rcases ok_of_bind h with ⟨inst, hinst, h⟩
          cases h
          exact .name hservice (readField_eq_ok_iff.mp hinst)
      | some bounds =>
          rcases bounds with ⟨before, behind⟩
          rw [hrange] at h
          rw [(eq_of_splitLast hrange).1]
          rcases ok_of_bind h with ⟨low, hlow, h⟩
          rcases ok_of_bind h with ⟨high, hhigh, h⟩
          cases h
          exact .range hservice (readField_eq_ok_iff.mp hlow) (readField_eq_ok_iff.mp hhigh)

theorem readChars_eq_ok_iff {text : List Char} {address : Address} :
    readChars text = .ok address <-> Spells text address := by
  constructor
  · exact spells_of_readChars
  · exact Spells.readChars_eq

/-- Reading accepts the texts that spell an address and no others, wherever it is asked for,
and the cuts it makes in the bytes of a text are all between characters. -/
theorem parse_accepts_grammar (text : String) :
    (forall address, parse text = .ok address <-> Spells text.toList address) ∧
    ((exists address, Spells text.toList address) ∨
      exists detail, (parse text).mapError Error.ofTextFault = .error (.malformedAddress detail)) ∧
    ofText text = (parse text).mapError Error.ofTextFault ∧
    resolve Network.tipc text = (parse text).mapError Error.ofTextFault ∧
    (readSlices text.toList).run = some (parse text) := by
  refine ⟨?_, ?_, rfl, ?_, ?_⟩
  · intro address
    exact readChars_eq_ok_iff
  · cases hread : parse text with
    | error fault => exact .inr ⟨fault.message, rfl⟩
    | ok address => exact .inl ⟨address, readChars_eq_ok_iff.mp hread⟩
  · exact if_pos rfl
  · exact readSlices_eq text.toList

end Address
end ServiceSocket
