import Mathlib.Algebra.Group.Nat.Defs
import ServiceSocket.Address.Text

/-!
# Reading an address by its bytes

A text is stored as bytes, so the place of a separator is an offset in bytes, and a slice
between two offsets is a text only if neither falls inside a character.  Reading the slices
of a text never meets such an offset and comes to the same result as reading its
characters.
-/

namespace ServiceSocket
namespace Text

/-!
# Offsets
-/

def bytes (text : List Char) : List UInt8 :=
  text.flatMap String.utf8EncodeChar

/-- The parts before and behind an offset; none if it is inside a character or past the
end, where no slice may begin or end. -/
def cutAt? : List Char -> Nat -> Option (List Char × List Char)
  | text, 0 => some ([], text)
  | [], _ + 1 => none
  | c :: rest, n + 1 =>
      if c.utf8Size ≤ n + 1 then
        (cutAt? rest (n + 1 - c.utf8Size)).map fun parts => (c :: parts.1, parts.2)
      else none

def lastOffset? (separator : Char) : List Char -> Option Nat
  | [] => none
  | c :: rest =>
      match lastOffset? separator rest with
      | some offset => some (c.utf8Size + offset)
      | none => if c = separator then some 0 else none

theorem length_bytes_cons (c : Char) (text : List Char) :
    (bytes (c :: text)).length = c.utf8Size + (bytes text).length := by
  simp [bytes]

theorem length_bytes_append (first second : List Char) :
    (bytes (first ++ second)).length = (bytes first).length + (bytes second).length := by
  simp [bytes]

theorem cutAt?_append (before behind : List Char) :
    cutAt? (before ++ behind) (bytes before).length = some (before, behind) := by
  induction before with
  | nil => cases behind <;> rfl
  | cons c before ih =>
      have hpos := Char.utf8Size_pos c
      obtain ⟨n, hn⟩ : exists n, c.utf8Size + (bytes before).length = n + 1 :=
        ⟨c.utf8Size + (bytes before).length - 1, by omega⟩
      have hfits : c.utf8Size ≤ n + 1 := by omega
      have hrest : n + 1 - c.utf8Size = (bytes before).length := by omega
      rw [length_bytes_cons, hn, List.cons_append, cutAt?, if_pos hfits, hrest, ih]
      rfl

theorem lastOffset?_eq (separator : Char) (text : List Char) :
    lastOffset? separator text =
      (Address.splitLast separator text).map fun parts => (bytes parts.1).length := by
  induction text with
  | nil => rfl
  | cons c rest ih =>
      rw [lastOffset?, Address.splitLast, ih]
      cases Address.splitLast separator rest with
      | some parts => simp [length_bytes_cons]
      | none =>
          by_cases hc : c = separator
          · simp [hc, bytes]
          · simp [hc]

theorem cuts_of_splitLast {separator : Char} {text before behind : List Char}
    (hsize : separator.utf8Size = 1)
    (h : Address.splitLast separator text = some (before, behind)) :
    cutAt? text (bytes before).length = some (before, separator :: behind) ∧
      cutAt? text ((bytes before).length + 1) = some (before ++ [separator], behind) := by
  rcases Address.eq_of_splitLast h with ⟨htext, _⟩
  constructor
  · rw [htext]
    exact cutAt?_append before (separator :: behind)
  · have hoffset : (bytes before).length + 1 = (bytes (before ++ [separator])).length := by
      rw [length_bytes_append, length_bytes_cons, hsize]
      rfl
    rw [hoffset, htext, ← List.singleton_append, ← List.append_assoc]
    exact cutAt?_append (before ++ [separator]) behind

/-!
# Digits
-/

def isDigitByte (b : UInt8) : Bool :=
  48 ≤ b && b ≤ 57

theorem isDigitByte_ofNat_add {n base : Nat}
    (hbase : 128 ≤ base)
    (hbyte : n + base < 256) :
    isDigitByte (UInt8.ofNat (n + base)) = false := by
  simp [isDigitByte, UInt8.le_iff_toNat_le]
  omega

/-- Only a digit has a byte that is the byte of a digit. -/
theorem all_isDigitByte_utf8EncodeChar (c : Char) :
    (String.utf8EncodeChar c).all isDigitByte = c.isDigit := by
  by_cases hascii : c.utf8Size = 1
  · rw [String.utf8EncodeChar_eq_singleton hascii, List.all_cons, List.all_nil, Bool.and_true]
    have hval : c.toNat ≤ 127 := Char.utf8Size_eq_one_iff.mp hascii
    have hbyte : c.toUInt8.toNat = c.toNat := by
      change c.toNat % 256 = c.toNat
      omega
    simp [isDigitByte, Char.isDigit, UInt8.le_iff_toNat_le, UInt32.le_iff_toNat_le, hbyte]
  · have hlarge : ¬ c.toNat ≤ 127 := fun h => hascii (Char.utf8Size_eq_one_iff.mpr h)
    have hdigit : c.isDigit = false := by
      simp [Char.isDigit, UInt32.le_iff_toNat_le]
      omega
    -- The first byte of a longer character says how long it is.
    have hfirst : exists n base rest, 128 ≤ base ∧ n + base < 256 ∧
        String.utf8EncodeChar c = UInt8.ofNat (n + base) :: rest := by
      unfold String.utf8EncodeChar
      dsimp only
      split
      next hshort => exact absurd hshort hlarge
      next =>
          split
          next => exact ⟨_, 0xc0, _, by decide, by omega, rfl⟩
          next =>
              split
              next => exact ⟨_, 0xe0, _, by decide, by omega, rfl⟩
              next => exact ⟨_, 0xf0, _, by decide, by omega, rfl⟩
    rcases hfirst with ⟨n, base, rest, hbase, hbyte, hencode⟩
    rw [hdigit, hencode, List.all_cons, isDigitByte_ofNat_add hbase hbyte, Bool.false_and]

theorem all_isDigitByte (text : List Char) :
    (bytes text).all isDigitByte = text.all Char.isDigit := by
  induction text with
  | nil => rfl
  | cons c rest ih =>
      rw [bytes, List.flatMap_cons, List.all_append, List.all_cons,
        all_isDigitByte_utf8EncodeChar]
      exact congrArg _ ih

/-- The value of digits, read from left to right and given up as soon as it takes more than
32 bits. -/
def readDigits : Nat -> List Char -> Option UInt32
  | value, [] => some (UInt32.ofNat value)
  | value, c :: rest =>
      if 2 ^ 32 ≤ value * 10 then none
      else if 2 ^ 32 ≤ value * 10 + (c.toNat - '0'.toNat) then none
      else readDigits (value * 10 + (c.toNat - '0'.toNat)) rest

theorem le_ofDigitChars (value : Nat) (digits : List Char) :
    value ≤ Nat.ofDigitChars 10 digits value := by
  induction digits generalizing value with
  | nil => exact Nat.le_refl _
  | cons c rest ih =>
      rw [Nat.ofDigitChars_cons]
      have hrest := ih (10 * value + (c.toNat - '0'.toNat))
      omega

/-- Giving up early is giving up on the whole numeral, as the value only grows. -/
theorem readDigits_eq {value : Nat}
    (hvalue : value < 2 ^ 32)
    (digits : List Char) :
    readDigits value digits =
      if Nat.ofDigitChars 10 digits value < 2 ^ 32 then
        some (UInt32.ofNat (Nat.ofDigitChars 10 digits value))
      else none := by
  induction digits generalizing value with
  | nil =>
      rw [readDigits, Nat.ofDigitChars_nil, if_pos hvalue]
  | cons c rest ih =>
      have hgrows := le_ofDigitChars (10 * value + (c.toNat - '0'.toNat)) rest
      rw [readDigits, Nat.ofDigitChars_cons, Nat.mul_comm value 10]
      by_cases htimes : 2 ^ 32 ≤ 10 * value
      · rw [if_pos htimes, if_neg (by omega)]
      · rw [if_neg htimes]
        by_cases hplus : 2 ^ 32 ≤ 10 * value + (c.toNat - '0'.toNat)
        · rw [if_pos hplus, if_neg (by omega)]
        · rw [if_neg hplus, ih (by omega)]

end Text

/-!
# Reading slices
-/

namespace Address

def sliceField (field : Field) (text : List Char) : Except TextFault UInt32 :=
  if text.isEmpty then .error (.badField field .empty)
  else if !(Text.bytes text).all Text.isDigitByte then .error (.badField field (.invalid text))
  else
    match Text.readDigits 0 text with
    | some n => .ok n
    | none => .error (.badField field (.outOfRange text))

/-- Read an address by cutting its text at the offsets of its separators.  Nothing comes
back if a cut falls inside a character. -/
def readSlices (text : List Char) : ExceptT TextFault Option Address :=
  match Text.lastOffset? delimiter text with
  | none => throw (.missingDelimiter text)
  | some offset => do
      let (head, _) ← (Text.cutAt? text offset : Option _)
      let service ← (sliceField .service head : Except _ _)
      let (_, rest) ← (Text.cutAt? text (offset + 1) : Option _)
      match Text.lastOffset? rangeDelimiter rest with
      | none =>
          let inst ← (sliceField .inst rest : Except _ _)
          return ofName service inst
      | some offset =>
          let (before, _) ← (Text.cutAt? rest offset : Option _)
          let low ← (sliceField .rangeStart before : Except _ _)
          let (_, behind) ← (Text.cutAt? rest (offset + 1) : Option _)
          let high ← (sliceField .rangeEnd behind : Except _ _)
          return ofRange service low high

theorem sliceField_eq (field : Field) (text : List Char) :
    sliceField field text = readField field text := by
  unfold sliceField readField readNumeral
  rw [Text.all_isDigitByte, Text.readDigits_eq (by decide)]
  by_cases hempty : text.isEmpty = true
  · rw [if_pos hempty, if_pos hempty]
    rfl
  · rw [if_neg hempty, if_neg hempty]
    cases text.all Char.isDigit with
    | false => rfl
    | true =>
        change _ = Except.mapError _ (if Nat.ofDigitChars 10 text 0 < 2 ^ 32 then _ else _)
        by_cases hfits : Nat.ofDigitChars 10 text 0 < 2 ^ 32
        · rw [if_pos hfits, if_pos hfits]
          rfl
        · rw [if_neg hfits, if_neg hfits]
          rfl

section Lifting

variable {ε α β : Type} {f : α -> ExceptT ε Option β}

theorem liftM_some_bind (value : α) :
    (liftM (some value) : ExceptT ε Option α) >>= f = f value := rfl

theorem liftM_ok_bind (value : α) :
    (liftM (Except.ok value : Except ε α) : ExceptT ε Option α) >>= f = f value := rfl

theorem liftM_error_bind (error : ε) :
    (liftM (Except.error error : Except ε α) : ExceptT ε Option α) >>= f = throw error := rfl

end Lifting

theorem readSlices_eq (text : List Char) :
    (readSlices text).run = some (readChars text) := by
  unfold readSlices readChars
  rw [Text.lastOffset?_eq]
  cases hsplit : splitLast delimiter text with
  | none => rfl
  | some parts =>
      rcases parts with ⟨head, rest⟩
      rcases Text.cuts_of_splitLast (by decide) hsplit with ⟨hhead, hrest⟩
      simp only [Option.map_some, hhead, hrest, sliceField_eq, liftM_some_bind]
      cases readField .service head with
      | error fault =>
          rw [liftM_error_bind]
          rfl
      | ok service =>
          rw [liftM_ok_bind, Text.lastOffset?_eq]
          cases hrange : splitLast rangeDelimiter rest with
          | none =>
              dsimp only [Option.map_none]
              cases readField .inst rest with
              | error fault =>
                  rw [liftM_error_bind]
                  rfl
              | ok inst =>
                  rw [liftM_ok_bind]
                  rfl
          | some bounds =>
              rcases bounds with ⟨before, behind⟩
              rcases Text.cuts_of_splitLast (by decide) hrange with ⟨hbefore, hbehind⟩
              simp only [Option.map_some, hbefore, hbehind, liftM_some_bind]
              cases readField .rangeStart before with
              | error fault =>
                  rw [liftM_error_bind]
                  rfl
              | ok low =>
                  rw [liftM_ok_bind]
                  cases readField .rangeEnd behind with
                  | error fault =>
                      rw [liftM_error_bind]
                      rfl
                  | ok high =>
                      rw [liftM_ok_bind]
                      rfl

end Address
end ServiceSocket
