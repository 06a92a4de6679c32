import ServiceSocket.Proofs.Address.Grammar

/-!
# What is wrong with a text

The last `;` and, behind it, the last `-` cut a text into fields.  A text that spells no
address has a field that is no numeral of 32 bits, and the error is about the leftmost of
these.
-/

namespace ServiceSocket
namespace Address

/-!
# Messages
-/

/-- The same fault without the text it shows. -/
def TextFault.blank : TextFault -> TextFault
  | .missingDelimiter _ => .missingDelimiter []
  | .badField field .empty => .badField field .empty
  | .badField field (.invalid _) => .badField field (.invalid [])
  | .badField field (.outOfRange _) => .badField field (.outOfRange [])

def TextFault.blanks : List TextFault :=
  .missingDelimiter [] :: [Field.service, .inst, .rangeStart, .rangeEnd].flatMap fun field =>
    [.badField field .empty, .badField field (.invalid []), .badField field (.outOfRange [])]

def TextFault.opening (fault : TextFault) : List Char :=
  fault.message.toList.take 15

theorem TextFault.blank_mem_blanks (fault : TextFault) : fault.blank ∈ blanks := by
  rcases fault with text | ⟨field, problem⟩
  · exact List.mem_cons_self
  · cases field <;> cases problem <;> simp [blank, blanks]

theorem take_append_ofList {front : String} {n : Nat}
    (h : n ≤ front.toList.length)
    (text : List Char) :
    (front ++ String.ofList text).toList.take n = front.toList.take n := by
  rw [String.toList_append, List.take_append_of_le_length h]

theorem TextFault.opening_blank (fault : TextFault) : fault.blank.opening = fault.opening := by
  rcases fault with text | ⟨field, _ | text | text⟩
  · have hlong : 15 ≤ "missing ';' in ".toList.length := by decide
    exact (take_append_ofList hlong _).trans (take_append_ofList hlong _).symm
  · rfl
  · have hlong : 15 ≤ ("invalid " ++ field.label ++ ": ").toList.length := by
      cases field <;> decide
    exact (take_append_ofList hlong _).trans (take_append_ofList hlong _).symm
  · have hlong : 15 ≤ (field.label ++ " out of range: ").toList.length := by
      cases field <;> decide
    exact (take_append_ofList hlong _).trans (take_append_ofList hlong _).symm

theorem TextFault.eq_of_opening_eq :
    forall one, one ∈ blanks -> forall two, two ∈ blanks ->
      one.opening = two.opening -> one = two := by
  decide +kernel

/-- A message tells which field it is about and what is wrong there, whatever text it shows. -/
theorem TextFault.blank_eq_of_message_eq {one two : TextFault}
    (h : one.message = two.message) : one.blank = two.blank := by
  apply eq_of_opening_eq _ one.blank_mem_blanks _ two.blank_mem_blanks
  rw [opening_blank, opening_blank, opening, h, opening]

/-!
# Numerals
-/

/-- A numeral of 32 bits, with any number of zeros in front. -/
def Fits (content : List Char) : Prop :=
  Decimal.IsNumeral content ∧ Decimal.value content ≤ 2 ^ 32 - 1

theorem IsField.fits {content : List Char} {n : UInt32} (h : IsField content n) : Fits content := by
  have hsize : n.toNat < 2 ^ 32 := n.toNat_lt
  rw [h.value_eq] at hsize
  exact ⟨h.isNumeral, by omega⟩

theorem Fits.exists_isField {content : List Char}
    (h : Fits content) : exists n, IsField content n := by
  rcases h with ⟨hnumeral, hsize⟩
  have hmod : Decimal.value content % 2 ^ 32 = Decimal.value content :=
    Nat.mod_eq_of_lt (by omega)
  exact ⟨UInt32.ofNat (Decimal.value content), hnumeral, hmod⟩

def NumeralFault.Shows (content : List Char) : NumeralFault -> Prop
  | .empty => True
  | .invalid text => text = content
  | .outOfRange text => text = content

theorem NumeralFault.Shows.eq_of_blank_eq {content : List Char} {one two : NumeralFault}
    {first second : Field}
    (hone : one.Shows content)
    (htwo : two.Shows content)
    (h : (TextFault.badField first one).blank = (TextFault.badField second two).blank) :
    one = two := by
  cases one <;> cases two <;> cases h
  · rfl
  · exact congrArg _ (hone.trans htwo.symm)
  · exact congrArg _ (hone.trans htwo.symm)

inductive Describes (content : List Char) : NumeralFault -> Prop where
  | empty (hnone : content = []) : Describes content .empty
  | invalid (hsome : content ≠ []) (hother : exists c, c ∈ content ∧ c.isDigit = false) :
      Describes content (.invalid content)
  | outOfRange
      (hnumeral : Decimal.IsNumeral content)
      (hlarge : 2 ^ 32 - 1 < Decimal.value content) : Describes content (.outOfRange content)

theorem Describes.shows {content : List Char} {problem : NumeralFault}
    (h : Describes content problem) : problem.Shows content := by
  cases h with
  | empty => trivial
  | invalid => rfl
  | outOfRange => rfl

theorem Describes.readNumeral_eq {content : List Char} {problem : NumeralFault}
    (h : Describes content problem) : readNumeral content = .error problem := by
  cases h with
  | empty hnone =>
      rw [hnone]
      rfl
  | invalid hsome hother =>
      rcases hother with ⟨c, hmem, hc⟩
      have hempty : ¬ content.isEmpty = true := mt List.isEmpty_iff.mp hsome
      have hall : content.all Char.isDigit = false :=
        List.all_eq_false.mpr ⟨c, hmem, Bool.eq_false_iff.mp hc⟩
      rw [readNumeral, if_neg hempty, hall]
      rfl
  | outOfRange hnumeral hlarge =>
      have hempty : ¬ content.isEmpty = true := mt List.isEmpty_iff.mp hnumeral.1
      have hall : content.all Char.isDigit = true := List.all_eq_true.mpr hnumeral.2
      have hsize : ¬ Decimal.value content < UInt32.size := by
        change ¬ Decimal.value content < 2 ^ 32
        omega
      rw [readNumeral, if_neg hempty, hall, if_neg (by decide), if_neg hsize]

theorem exists_describes {content : List Char}
    (h : ¬ Fits content) : exists problem, Describes content problem := by
  by_cases hnone : content = []
  · exact ⟨_, .empty hnone⟩
  · by_cases hdigits : forall c, c ∈ content -> c.isDigit = true
    · have hlarge : 2 ^ 32 - 1 < Decimal.value content :=
        Nat.lt_of_not_le fun hsize => h ⟨⟨hnone, hdigits⟩, hsize⟩
      exact ⟨_, .outOfRange ⟨hnone, hdigits⟩ hlarge⟩
    · simp only [Classical.not_forall, Bool.not_eq_true] at hdigits
      rcases hdigits with ⟨c, hmem, hc⟩
      exact ⟨_, .invalid hnone ⟨c, hmem, hc⟩⟩

theorem describes_of_readNumeral {content : List Char} {problem : NumeralFault}
    (h : readNumeral content = .error problem) : Describes content problem := by
  have hnot : ¬ Fits content := by
    intro hfits
    rcases hfits.exists_isField with ⟨n, hfield⟩
    rw [readNumeral_eq_ok_iff.mpr hfield] at h
    cases h
  rcases exists_describes hnot with ⟨other, hother⟩
  rw [hother.readNumeral_eq] at h
  cases h
  exact hother

theorem Describes.not_fits {content : List Char} {problem : NumeralFault}
    (h : Describes content problem) : ¬ Fits content := by
  intro hfits
  rcases hfits.exists_isField with ⟨n, hfield⟩
  have hread := h.readNumeral_eq
  rw [readNumeral_eq_ok_iff.mpr hfield] at hread
  cases hread

theorem Describes.unique {content : List Char} {problem other : NumeralFault}
    (h : Describes content problem)
    (hother : Describes content other) :
    problem = other := by
  have hread := h.readNumeral_eq
  rw [hother.readNumeral_eq] at hread
  cases hread
  rfl

theorem describes_of_readField {field : Field} {content : List Char} {fault : TextFault}
    (h : readField field content = .error fault) :
    exists problem, fault = .badField field problem ∧ Describes content problem := by
  unfold readField at h
  cases hread : readNumeral content with
  | error problem =>
      rw [hread] at h
      cases h
      exact ⟨problem, rfl, describes_of_readNumeral hread⟩
  | ok n =>
      rw [hread] at h
      cases h

/-- A message that is about a field and tells what is wrong with its content. -/
structure Blames (message : String) (field : Field) (content : List Char) : Prop where
  names : forall other problem,
    message = (TextFault.badField other problem).message -> other = field
  empty_iff : message = "empty " ++ field.label <-> content = []
  invalid_iff :
    message = "invalid " ++ field.label ++ ": " ++ String.ofList (Text.quoted content) <->
      content ≠ [] ∧ exists c, c ∈ content ∧ c.isDigit = false
  outOfRange_iff : message = field.label ++ " out of range: " ++ String.ofList content <->
    Decimal.IsNumeral content ∧ 2 ^ 32 - 1 < Decimal.value content

theorem Describes.message_eq_iff {content : List Char} {problem : NumeralFault} (field : Field)
    (other : NumeralFault)
    (h : Describes content problem)
    (hshows : other.Shows content) :
    (TextFault.badField field problem).message = (TextFault.badField field other).message <->
      Describes content other := by
  constructor
  · intro hmessage
    rw [← h.shows.eq_of_blank_eq hshows (TextFault.blank_eq_of_message_eq hmessage)]
    exact h
  · intro hother
    rw [h.unique hother]

theorem Describes.blames {content : List Char} {problem : NumeralFault} (field : Field)
    (h : Describes content problem) :
    Blames (TextFault.badField field problem).message field content where
  names other problem' hmessage := by
    have hblank := TextFault.blank_eq_of_message_eq hmessage
    cases problem <;> cases problem' <;> cases hblank <;> rfl
  empty_iff := by
    refine (h.message_eq_iff field .empty trivial).trans ?_
    constructor
    · rintro ⟨hnone⟩
      exact hnone
    · exact .empty
  invalid_iff := by
    refine (h.message_eq_iff field (.invalid content) rfl).trans ?_
    constructor
    · intro hdescribes
      cases hdescribes with
      | invalid hsome hother => exact ⟨hsome, hother⟩
    · intro hinvalid
      exact .invalid hinvalid.1 hinvalid.2
  outOfRange_iff := by
    refine (h.message_eq_iff field (.outOfRange content) rfl).trans ?_
    constructor
    · intro hdescribes
      cases hdescribes with
      | outOfRange hnumeral hlarge => exact ⟨hnumeral, hlarge⟩
    · intro hlarge
      exact .outOfRange hlarge.1 hlarge.2

/-!
# Fields
-/

/-- The fields a text is cut into, from left to right. -/
inductive FallsInto : List Char -> List (Field × List Char) -> Prop where
  | name {service inst : List Char} (hinst : delimiter ∉ inst) (hsingle : rangeDelimiter ∉ inst) :
      FallsInto (service ++ delimiter :: inst) [(.service, service), (.inst, inst)]
  | range {service low high : List Char}
      (hbounds : delimiter ∉ low ++ rangeDelimiter :: high)
      (hhigh : rangeDelimiter ∉ high) :
      FallsInto (service ++ delimiter :: (low ++ rangeDelimiter :: high))
        [(.service, service), (.rangeStart, low), (.rangeEnd, high)]

theorem exists_fallsInto {text : List Char}
    (h : delimiter ∈ text) : exists fields, FallsInto text fields := by
  cases hsplit : splitLast delimiter text with
  | none => exact absurd h (splitLast_eq_none_iff.mp hsplit)
  | some parts =>
      rcases parts with ⟨service, rest⟩
      rcases eq_of_splitLast hsplit with ⟨htext, hrest⟩
      rw [htext]
      cases hrange : splitLast rangeDelimiter rest with
      | none => exact ⟨_, .name hrest (splitLast_eq_none_iff.mp hrange)⟩
      | some bounds =>
          rcases eq_of_splitLast hrange with ⟨hbounds, hhigh⟩
          rw [hbounds] at hrest ⊢
          exact ⟨_, .range hrest hhigh⟩

def readFields : List (Field × List Char) -> Except TextFault (List UInt32)
  | [] => .ok []
  | (field, content) :: rest => do
      let n ← readField field content
      return n :: (← readFields rest)

theorem FallsInto.readChars_eq {text : List Char} {fields : List (Field × List Char)}
    (h : FallsInto text fields) :
    exists build : List UInt32 -> Address, readChars text = (readFields fields).map build := by
  cases h with
  | @name service inst hinst hsingle =>
      exists fun numbers => ofName (numbers.getD 0 0) (numbers.getD 1 0)
      rw [readChars, splitLast_append _ hinst]
      simp only [splitLast_eq_none_iff.mpr hsingle, readFields]
      cases readField .service service with
      | error fault => rfl
      | ok n => cases readField .inst inst <;> rfl
  | @range service low high hbounds hhigh =>
      exists fun numbers => ofRange (numbers.getD 0 0) (numbers.getD 1 0) (numbers.getD 2 0)
      rw [readChars, splitLast_append _ hbounds]
      simp only [splitLast_append _ hhigh, readFields]
      cases readField .service service with
      | error fault => rfl
      | ok n =>
          cases readField .rangeStart low with
          | error fault => rfl
          | ok m => cases readField .rangeEnd high <;> rfl

theorem FallsInto.readFields_eq {text : List Char} {fields : List (Field × List Char)}
    {fault : TextFault}
    (hfields : FallsInto text fields)
    (h : readChars text = .error fault) :
    readFields fields = .error fault := by
  rcases hfields.readChars_eq with ⟨build, hbuild⟩
  rw [hbuild] at h
  cases hread : readFields fields with
  | error other =>
      rw [hread] at h
      cases h
      rfl
  | ok numbers =>
      rw [hread] at h
      cases h

theorem error_of_bind {ε α β : Type} {result : Except ε α} {f : α -> Except ε β} {error : ε}
    (h : result >>= f = .error error) :
    result = .error error ∨ exists first, result = .ok first ∧ f first = .error error := by
  cases result with
  | error other =>
      cases h
      exact .inl rfl
  | ok first => exact .inr ⟨first, rfl, h⟩

theorem exists_leftmost_of_readFields {fields : List (Field × List Char)} {fault : TextFault}
    (h : readFields fields = .error fault) :
    exists before field content after, fields = before ++ (field, content) :: after ∧
      (forall valid, valid ∈ before -> Fits valid.2) ∧
      exists problem, fault = .badField field problem ∧ Describes content problem := by
  induction fields with
  | nil => cases h
  | cons entry rest ih =>
      rcases entry with ⟨field, content⟩
      rcases error_of_bind h with hread | ⟨n, hread, h⟩
      · exact ⟨[], field, content, rest, rfl, List.forall_mem_nil _, describes_of_readField hread⟩
      · rcases error_of_bind h with hrest | ⟨_, _, h⟩
        · rcases ih hrest with ⟨before, wrong, text, after, hsplit, hvalid, hfault⟩
          refine ⟨(field, content) :: before, wrong, text, after, ?_, ?_, hfault⟩
          · rw [hsplit, List.cons_append]
          · exact List.forall_mem_cons.mpr ⟨(readField_eq_ok_iff.mp hread).fits, hvalid⟩
        · cases h

/-- An error about a text without a `;` says so.  Any other error is about the leftmost
field that is no numeral of 32 bits, and tells which of the three ways it is wrong in. -/
theorem rejection_blames_leftmost_field {text : String} {fault : TextFault}
    (h : parse text = .error fault) :
    resolve Network.tipc text = .error (.malformedAddress fault.message) ∧
    (delimiter ∉ text.toList ->
      fault.message = "missing ';' in " ++ String.ofList (Text.quoted text.toList)) ∧
    (delimiter ∈ text.toList -> exists fields, FallsInto text.toList fields) ∧
    forall fields, FallsInto text.toList fields ->
      exists before field content after, fields = before ++ (field, content) :: after ∧
        (forall valid, valid ∈ before -> Fits valid.2) ∧ ¬ Fits content ∧
        Blames fault.message field content := by
  refine ⟨?_, ?_, exists_fallsInto, ?_⟩
  · rw [resolve, if_pos rfl, h]
    rfl
  · intro habsent
    rw [parse, readChars, splitLast_eq_none_iff.mpr habsent] at h
    cases h
    rfl
  · intro fields hfields
    rcases exists_leftmost_of_readFields (hfields.readFields_eq h) with
      ⟨before, field, content, after, hsplit, hvalid, problem, hfault, hdescribes⟩
    refine ⟨before, field, content, after, hsplit, hvalid, hdescribes.not_fits, ?_⟩
    rw [hfault]
    exact hdescribes.blames field

/-- Two fields are wrong, and the error is about the first of them. -/
theorem rejection_blames_leftmost_field_of_range :
    exists fault, parse "007;4294967296-" = .error fault ∧
      fault.message = "range start out of range: 4294967296" ∧
      exists before field content after,
        [(Field.service, ['0', '0', '7']), (.rangeStart, "4294967296".toList), (.rangeEnd, [])] =
          before ++ (field, content) :: after ∧
        (forall valid, valid ∈ before -> Fits valid.2) ∧ ¬ Fits content ∧
        Blames fault.message field content := by
  have hread : parse "007;4294967296-" =
      .error (.badField .rangeStart (.outOfRange "4294967296".toList)) := rfl
  have hfields : FallsInto (['0', '0', '7'] ++ delimiter :: ("4294967296".toList ++ '-' :: []))
      [(.service, ['0', '0', '7']), (.rangeStart, "4294967296".toList), (.rangeEnd, [])] :=
    .range (by decide) (by decide)
  exact ⟨_, hread, by decide, (rejection_blames_leftmost_field hread).2.2.2 _ hfields⟩

end Address
end ServiceSocket
