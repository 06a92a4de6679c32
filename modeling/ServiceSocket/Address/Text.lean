import ServiceSocket.Address.Basic
import ServiceSocket.Text

/-!
# The text of a service address

A single instance is written `service;instance` and a range `service;low-high`.  Every
field is an unsigned decimal number of 32 bits.  Reading takes the last `;` and, behind
it, the last `-`, and then checks the fields from left to right, so an error always
blames the leftmost field that is wrong.
-/

namespace ServiceSocket
namespace Address

def delimiter : Char := ';'

def rangeDelimiter : Char := '-'

/-- The text of an address that is absent or has no text of its own. -/
def absentText : String := "<nil>"

/-!
# Writing
-/

def joinName (service inst : UInt32) : String :=
  String.ofList (Decimal.render service.toNat ++ delimiter :: Decimal.render inst.toNat)

def joinRange (service low high : UInt32) : String :=
  String.ofList
    (Decimal.render service.toNat ++ delimiter ::
      (Decimal.render low.toNat ++ rangeDelimiter :: Decimal.render high.toNat))

def render (address : Address) : String :=
  if address.kind = .name then joinName address.service address.inst
  else if address.kind = .nameRange then
    joinRange address.service address.inst address.domain
  else absentText

def describe (address : Option Address) : String :=
  match address with
  | some address => address.render
  | none => absentText

/-!
# Faults
-/

inductive Field where
  | service
  | inst
  | rangeStart
  | rangeEnd
deriving DecidableEq

inductive NumeralFault where
  | empty
  | invalid (text : List Char)
  | outOfRange (text : List Char)
deriving DecidableEq

inductive TextFault where
  | missingDelimiter (text : List Char)
  | badField (field : Field) (fault : NumeralFault)
deriving DecidableEq

def Field.label : Field -> String
  | .service => "service"
  | .inst => "instance"
  | .rangeStart => "range start"
  | .rangeEnd => "range end"

def TextFault.message : TextFault -> String
  | .missingDelimiter text => "missing ';' in " ++ String.ofList (Text.quoted text)
  | .badField field .empty => "empty " ++ field.label
  | .badField field (.invalid text) =>
      "invalid " ++ field.label ++ ": " ++ String.ofList (Text.quoted text)
  | .badField field (.outOfRange text) =>
      field.label ++ " out of range: " ++ String.ofList text

/-!
# Reading
-/

/-- The parts before and behind the last occurrence of a character. -/
def splitLast (separator : Char) : List Char -> Option (List Char × List Char)
  | [] => none
  | c :: rest =>
      match splitLast separator rest with
      | some (before, behind) => some (c :: before, behind)
      | none => if c = separator then some ([], rest) else none

theorem splitLast_eq_none_iff {separator : Char} {text : List Char} :
    splitLast separator text = none <-> separator ∉ text := by
  induction text with
  | nil => simp [splitLast]
  | cons c rest ih =>
      rw [splitLast]
      cases h : splitLast separator rest with
      | some parts =>
          have : separator ∈ rest := by
            apply Classical.byContradiction
            intro absent
            rw [ih.mpr absent] at h
            cases h
          simp [this]
      | none =>
          have absent : separator ∉ rest := ih.mp h
          by_cases hc : c = separator
          · simp [hc]
          · simp [hc, absent, Ne.symm hc]

theorem eq_of_splitLast {separator : Char} {text before behind : List Char}
    (h : splitLast separator text = some (before, behind)) :
    text = before ++ separator :: behind ∧ separator ∉ behind := by
  induction text generalizing before with
  | nil => cases h
  | cons c rest ih =>
      rw [splitLast] at h
      cases hrest : splitLast separator rest with
      | some parts =>
          rw [hrest] at h
          cases h
          obtain ⟨hsplit, habsent⟩ := ih hrest
          exact ⟨by rw [hsplit, List.cons_append], habsent⟩
      | none =>
          rw [hrest] at h
          by_cases hc : c = separator
          · rw [if_pos hc] at h
            cases h
            exact ⟨by rw [hc, List.nil_append], splitLast_eq_none_iff.mp hrest⟩
          · rw [if_neg hc] at h
            cases h

theorem splitLast_append {separator : Char} (before : List Char) {behind : List Char}
    (habsent : separator ∉ behind) :
    splitLast separator (before ++ separator :: behind) = some (before, behind) := by
  induction before with
  | nil =>
      rw [List.nil_append, splitLast, splitLast_eq_none_iff.mpr habsent]
      exact if_pos rfl
  | cons c before ih => rw [List.cons_append, splitLast, ih]

/-- A number that fits in 32 bits, from a numeral with any number of leading zeros. -/
def readNumeral (text : List Char) : Except NumeralFault UInt32 :=
  if text.isEmpty then .error .empty
  else if !text.all Char.isDigit then .error (.invalid text)
  else if Decimal.value text < UInt32.size then .ok (UInt32.ofNat (Decimal.value text))
  else .error (.outOfRange text)

def readField (field : Field) (text : List Char) : Except TextFault UInt32 :=
  (readNumeral text).mapError (.badField field)

def readChars (text : List Char) : Except TextFault Address :=
  match splitLast delimiter text with
  | none => .error (.missingDelimiter text)
  | some (head, rest) => do
      let service ← readField .service head
      match splitLast rangeDelimiter rest with
      | none =>
          let inst ← readField .inst rest
          return ofName service inst
      | some (before, behind) =>
          let low ← readField .rangeStart before
          let high ← readField .rangeEnd behind
          return ofRange service low high

/-- Read an address; the result always has zone scope. -/
def parse (text : String) : Except TextFault Address :=
  readChars text.toList

def isReadBack (address : Address) : Bool :=
  match parse address.render with
  | .ok read => read == address
  | .error _ => false

end Address
end ServiceSocket
