import ServiceSocket.Proofs.Address.RoundTrip

/-!
# The canonical text of an address

An address is spelled by many texts, since a number may be written with zeros in front of it
that add nothing.  Reading a text and writing the address again takes these zeros away and
leaves the rest as it is.  So two texts spell the same address exactly if they are the same
text without such zeros.
-/

namespace ServiceSocket

/-!
# Zeros in front of a number
-/

namespace Decimal

variable {digits rest : List Char} {c : Char}

/-- There is a zero in front of other digits. -/
def IsPadded (digits : List Char) : Prop :=
  exists next rest, digits = '0' :: next :: rest

def trim : List Char -> List Char
  | [] => []
  | c :: rest => if c = '0' ∧ rest ≠ [] then trim rest else c :: rest

theorem not_isPadded_nil : ¬ IsPadded [] := by
  rintro ⟨next, rest, hpadded⟩
  cases hpadded

theorem isPadded_cons_iff : IsPadded (c :: rest) <-> c = '0' ∧ rest ≠ [] := by
  constructor
  · rintro ⟨next, more, hpadded⟩
    injection hpadded with hzero hrest
    exact ⟨hzero, hrest ▸ List.cons_ne_nil next more⟩
  · rintro ⟨hzero, hrest⟩
    rcases List.exists_cons_of_ne_nil hrest with ⟨next, more, hmore⟩
    exact ⟨next, more, by rw [hzero, hmore]⟩

theorem trim_cons_of_isPadded (h : IsPadded (c :: rest)) : trim (c :: rest) = trim rest :=
  if_pos (isPadded_cons_iff.mp h)

theorem trim_of_not_isPadded (h : ¬ IsPadded digits) : trim digits = digits := by
  cases digits with
  | nil => rfl
  | cons c rest => exact if_neg (mt isPadded_cons_iff.mpr h)

theorem not_isPadded_trim (digits : List Char) : ¬ IsPadded (trim digits) := by
  induction digits with
  | nil => exact not_isPadded_nil
  | cons c rest ih =>
      by_cases hpadded : IsPadded (c :: rest)
      · rw [trim_cons_of_isPadded hpadded]
        exact ih
      · rw [trim_of_not_isPadded hpadded]
        exact hpadded

theorem trim_eq_self_iff : trim digits = digits <-> ¬ IsPadded digits := by
  constructor
  · intro h
    rw [← h]
    exact not_isPadded_trim digits
  · exact trim_of_not_isPadded

theorem eq_zeros_append_trim (digits : List Char) :
    exists n, digits = List.replicate n '0' ++ trim digits := by
  induction digits with
  | nil => exact ⟨0, rfl⟩
  | cons c rest ih =>
      by_cases hpadded : IsPadded (c :: rest)
      · rcases ih with ⟨n, hrest⟩
        refine ⟨n + 1, ?_⟩
        rw [trim_cons_of_isPadded hpadded, (isPadded_cons_iff.mp hpadded).1, List.replicate_succ,
          List.cons_append, ← hrest]
      · exact ⟨0, (trim_of_not_isPadded hpadded).symm⟩

theorem trim_ne_nil (h : digits ≠ []) : trim digits ≠ [] := by
  induction digits with
  | nil => exact h
  | cons c rest ih =>
      by_cases hpadded : IsPadded (c :: rest)
      · rw [trim_cons_of_isPadded hpadded]
        exact ih (isPadded_cons_iff.mp hpadded).2
      · rw [trim_of_not_isPadded hpadded]
        exact h

theorem mem_of_mem_trim (h : c ∈ trim digits) : c ∈ digits := by
  rcases eq_zeros_append_trim digits with ⟨n, hdigits⟩
  rw [hdigits]
  exact List.mem_append_right _ h

theorem isNumeral_trim (h : IsNumeral digits) : IsNumeral (trim digits) :=
  ⟨trim_ne_nil h.1, fun c hc => h.2 c (mem_of_mem_trim hc)⟩

theorem value_trim (digits : List Char) : value (trim digits) = value digits := by
  have hzeros (n : Nat) : value (List.replicate n '0' ++ trim digits) = value (trim digits) := by
    induction n with
    | zero => rfl
    | succ n ih => exact ih
  rcases eq_zeros_append_trim digits with ⟨n, hdigits⟩
  rw [← hzeros n, ← hdigits]

/-!
# Writing a number that was read
-/

theorem toNat_of_isDigit (hc : c.isDigit = true) : 48 ≤ c.toNat ∧ c.toNat ≤ 57 := by
  simpa [Char.isDigit, UInt32.le_iff_toNat_le] using hc

theorem render_digit (hc : c.isDigit = true) : render (c.toNat - '0'.toNat) = [c] := by
  have hrange := toNat_of_isDigit hc
  have hsmall : c.toNat - 48 < 10 := by omega
  change render (c.toNat - 48) = [c]
  rw [render, Nat.toDigits_of_lt_base hsmall]
  congr 1
  apply Char.toNat_inj.mp
  rw [Nat.toNat_digitChar_of_lt_ten hsmall]
  omega

theorem render_append {n : Nat}
    (hn : 0 < n)
    (hdigits : forall c, c ∈ digits -> c.isDigit = true) :
    render n ++ digits = render (Nat.ofDigitChars 10 digits n) := by
  induction digits generalizing n with
  | nil => exact List.append_nil _
  | cons c rest ih =>
      have hc : c.isDigit = true := hdigits c List.mem_cons_self
      have hsmall : c.toNat - 48 < 10 := by
        have hrange := toNat_of_isDigit hc
        omega
      have hlonger : render n ++ [c] = render (10 * n + (c.toNat - '0'.toNat)) := by
        rw [← render_digit hc]
        exact Nat.toDigits_append_toDigits (by decide) hn hsmall
      calc
        render n ++ c :: rest = render n ++ [c] ++ rest := List.append_cons _ _ _
        _ = render (10 * n + (c.toNat - '0'.toNat)) ++ rest := by rw [hlonger]
        _ = render (Nat.ofDigitChars 10 rest (10 * n + (c.toNat - '0'.toNat))) :=
            ih (by omega) fun d hd => hdigits d (List.mem_cons_of_mem c hd)
        _ = render (Nat.ofDigitChars 10 (c :: rest) n) := by rw [Nat.ofDigitChars_cons]

theorem render_value_of_not_isPadded
    (hnumeral : IsNumeral digits)
    (hpadded : ¬ IsPadded digits) :
    render (value digits) = digits := by
  rcases hnumeral with ⟨hsome, hdigits⟩
  cases digits with
  | nil => exact absurd rfl hsome
  | cons c rest =>
      have hc : c.isDigit = true := hdigits c List.mem_cons_self
      by_cases hzero : c = '0'
      · have hrest : rest = [] := Classical.byContradiction fun hmore =>
          hpadded (isPadded_cons_iff.mpr ⟨hzero, hmore⟩)
        rw [hzero, hrest]
        rfl
      · have hpos : 0 < c.toNat - '0'.toNat := by
          have hrange := toNat_of_isDigit hc
          have hne : c.toNat ≠ '0'.toNat := fun h => hzero (Char.toNat_inj.mp h)
          change c.toNat ≠ 48 at hne
          change 0 < c.toNat - 48
          omega
        have hvalue : value (c :: rest) = Nat.ofDigitChars 10 rest (c.toNat - '0'.toNat) := by
          rw [value, Nat.ofDigitChars_cons, Nat.mul_zero, Nat.zero_add]
        rw [hvalue, ← render_append hpos fun d hd => hdigits d (List.mem_cons_of_mem c hd),
          render_digit hc]
        rfl

theorem render_value (h : IsNumeral digits) : render (value digits) = trim digits := by
  rw [← value_trim]
  exact render_value_of_not_isPadded (isNumeral_trim h) (not_isPadded_trim digits)

end Decimal

/-!
# The fields of a text
-/

namespace Text

/-- A text cut up into runs of digits.  Each run but the first has the character in front of
it that separates it from the run before, and any run may be empty. -/
structure Fields where
  first : List Char
  others : List (Char × List Char)
  first_isDigit : forall c, c ∈ first -> c.isDigit = true
  others_isDigit : forall other, other ∈ others ->
    other.1.isDigit = false ∧ forall c, c ∈ other.2 -> c.isDigit = true

namespace Fields

def toList (fields : Fields) : List Char :=
  fields.first ++ fields.others.flatMap fun other => other.1 :: other.2

def runs (fields : Fields) : List (List Char) :=
  fields.first :: fields.others.map Prod.snd

def empty : Fields where
  first := []
  others := []
  first_isDigit := List.forall_mem_nil _
  others_isDigit := List.forall_mem_nil _

def cons (c : Char) (fields : Fields) : Fields :=
  if h : c.isDigit = true then
    { fields with
      first := c :: fields.first
      first_isDigit := List.forall_mem_cons.mpr ⟨h, fields.first_isDigit⟩ }
  else
    { first := []
      others := (c, fields.first) :: fields.others
      first_isDigit := List.forall_mem_nil _
      others_isDigit := List.forall_mem_cons.mpr
        ⟨⟨Bool.eq_false_iff.mpr h, fields.first_isDigit⟩, fields.others_isDigit⟩ }

def ofList : List Char -> Fields
  | [] => empty
  | c :: rest => cons c (ofList rest)

def trim (fields : Fields) : Fields where
  first := Decimal.trim fields.first
  others := fields.others.map fun other => (other.1, Decimal.trim other.2)
  first_isDigit c hc := fields.first_isDigit c (Decimal.mem_of_mem_trim hc)
  others_isDigit := by
    intro trimmed hmem
    rcases List.mem_map.mp hmem with ⟨other, hother, htrimmed⟩
    rcases fields.others_isDigit other hother with ⟨hseparator, hdigits⟩
    rw [← htrimmed]
    exact ⟨hseparator, fun c hc => hdigits c (Decimal.mem_of_mem_trim hc)⟩

theorem toList_cons (c : Char) (fields : Fields) : (cons c fields).toList = c :: fields.toList := by
  unfold cons
  split <;> rfl

theorem toList_ofList (text : List Char) : (ofList text).toList = text := by
  induction text with
  | nil => rfl
  | cons c rest ih => rw [ofList, toList_cons, ih]

theorem ofList_toList (fields : Fields) : ofList fields.toList = fields := by
  rcases fields with ⟨first, others, hfirst, hothers⟩
  induction others generalizing first with
  | nil =>
      induction first with
      | nil => rfl
      | cons c rest ih =>
          rcases List.forall_mem_cons.mp hfirst with ⟨hc, hrest⟩
          change cons c (ofList (toList ⟨rest, [], hrest, hothers⟩)) = _
          rw [ih hrest]
          exact dif_pos hc
  | cons other others ihothers =>
      rcases List.forall_mem_cons.mp hothers with ⟨⟨hseparator, hdigits⟩, hmore⟩
      induction first with
      | nil =>
          change cons other.1 (ofList (toList ⟨other.2, others, hdigits, hmore⟩)) = _
          rw [ihothers other.2 hdigits hmore]
          exact dif_neg (Bool.eq_false_iff.mp hseparator)
      | cons c rest ih =>
          rcases List.forall_mem_cons.mp hfirst with ⟨hc, hrest⟩
          change cons c (ofList (toList ⟨rest, other :: others, hrest, hothers⟩)) = _
          rw [ih hrest]
          exact dif_pos hc

theorem toList_inj {one two : Fields} : one.toList = two.toList <-> one = two := by
  constructor
  · intro h
    rw [← ofList_toList one, h, ofList_toList]
  · intro h
    rw [h]

theorem trim_eq_self_iff {fields : Fields} :
    fields.trim = fields <-> forall run, run ∈ fields.runs -> ¬ Decimal.IsPadded run := by
  have hothers :
      (fields.others.map fun other => (other.1, Decimal.trim other.2)) = fields.others <->
      forall other, other ∈ fields.others -> (other.1, Decimal.trim other.2) = id other := by
    rw [← List.map_inj_left, List.map_id]
  rw [trim, mk.injEq, hothers, runs, List.forall_mem_cons, List.forall_mem_map,
    Decimal.trim_eq_self_iff]
  apply and_congr_right
  intro _
  apply forall_congr'
  intro other
  apply imp_congr_right
  intro _
  rw [id, Prod.ext_iff, ← Decimal.trim_eq_self_iff]
  exact and_iff_right rfl

end Fields

/-- The text without the zeros in front of other digits at the start of a field. -/
def canonical (text : List Char) : List Char :=
  (Fields.ofList text).trim.toList

theorem canonical_eq_self_iff {text : List Char} :
    canonical text = text <->
      forall run, run ∈ (Fields.ofList text).runs -> ¬ Decimal.IsPadded run := by
  rw [← Fields.trim_eq_self_iff, ← Fields.toList_inj, Fields.toList_ofList]
  rfl

theorem canonical_toList (fields : Fields) : canonical fields.toList = fields.trim.toList := by
  rw [canonical, Fields.ofList_toList]

end Text

/-!
# What is read and written again
-/

namespace Address

theorem IsField.render_eq {digits : List Char} {n : UInt32}
    (h : IsField digits n) : Decimal.render n.toNat = Decimal.trim digits := by
  rw [h.value_eq, Decimal.render_value h.isNumeral]

theorem Spells.isWritten {text : List Char} {address : Address}
    (h : Spells text address) : address.IsWritten ∧ address.told = address := by
  cases h with
  | name hservice hinst => exact ⟨.inl rfl, rfl⟩
  | range hservice hlow hhigh => exact ⟨.inr rfl, rfl⟩

theorem Spells.toList_render {text : List Char} {address : Address}
    (h : Spells text address) : address.render.toList = Text.canonical text := by
  cases h with
  | @name first second service inst hservice hinst =>
      have hcanonical := Text.canonical_toList {
        first := first
        others := [(delimiter, second)]
        first_isDigit := hservice.isNumeral.2
        others_isDigit := List.forall_mem_singleton.mpr ⟨isDigit_delimiter, hinst.isNumeral.2⟩ }
      rw [render_of_name rfl, joinName, String.toList_ofList, ofName]
      simp only [hservice.render_eq, hinst.render_eq]
      simpa [Text.Fields.toList, Text.Fields.trim] using hcanonical.symm
  | @range first second third service low high hservice hlow hhigh =>
      have hcanonical := Text.canonical_toList {
        first := first
        others := [(delimiter, second), (rangeDelimiter, third)]
        first_isDigit := hservice.isNumeral.2
        others_isDigit := List.forall_mem_cons.mpr ⟨⟨isDigit_delimiter, hlow.isNumeral.2⟩,
          List.forall_mem_singleton.mpr ⟨isDigit_rangeDelimiter, hhigh.isNumeral.2⟩⟩ }
      rw [render_of_nameRange rfl, joinRange, String.toList_ofList, ofRange]
      simp only [hservice.render_eq, hlow.render_eq, hhigh.render_eq]
      simpa [Text.Fields.toList, Text.Fields.trim] using hcanonical.symm

/-- Reading a text and writing what was read only takes away the zeros in front of other
digits.  What is written is read as the same address, it is the text itself if no number of
that was padded, and it is the same for two texts exactly if they spell the same address. -/
theorem rewriting_trims_numbers {text : String} {address : Address}
    (h : parse text = .ok address) :
    address.render.toList = Text.canonical text.toList ∧
    parse address.render = .ok address ∧
    (address.render = text <->
      forall run, run ∈ (Text.Fields.ofList text.toList).runs -> ¬ Decimal.IsPadded run) ∧
    forall (other : String) (read : Address), parse other = .ok read ->
      (read = address <-> Text.canonical other.toList = Text.canonical text.toList) := by
  have hspells := spells_of_readChars h
  have hrender := hspells.toList_render
  have hread : parse address.render = .ok address := by
    rw [parse_render hspells.isWritten.1, hspells.isWritten.2]
  refine ⟨hrender, hread, ?_, ?_⟩
  · rw [← Text.canonical_eq_self_iff, ← hrender, String.toList_inj]
  · intro other read hother
    have hspells' := spells_of_readChars hother
    rw [← hrender, ← hspells'.toList_render, String.toList_inj]
    constructor
    · intro hsame
      rw [hsame]
    · intro hsame
      have hback := parse_render hspells'.isWritten.1
      rw [hspells'.isWritten.2, hsame, hread] at hback
      exact (Except.ok.inj hback).symm

/-- A text with two padded numbers and a zero, and another text of the same address. -/
theorem rewriting_trims_numbers_of_padded_range :
    (ofRange 7 0 100).render.toList = Text.canonical "007;00-0100".toList ∧
    Text.canonical "007;00-0100".toList = "7;0-100".toList ∧
    (ofRange 7 0 100).render ≠ "007;00-0100" ∧
    Text.canonical "07;0-100".toList = Text.canonical "007;00-0100".toList := by
  have hread : parse "007;00-0100" = .ok (ofRange 7 0 100) := rfl
  have hother : parse "07;0-100" = .ok (ofRange 7 0 100) := rfl
  rcases rewriting_trims_numbers hread with ⟨hrender, _, _, hsame⟩
  exact ⟨hrender, by decide, by decide, (hsame _ _ hother).mp rfl⟩

end Address
end ServiceSocket
