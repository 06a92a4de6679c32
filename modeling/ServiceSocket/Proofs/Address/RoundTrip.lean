import ServiceSocket.Proofs.Address.Grammar

/-!
# Reading an address back from its text

The text of an address tells its kind, its service and its instances, and the upper bound of
a range.  It tells no scope, and of a single instance no domain, so reading it back puts
zone scope and no domain in their place.  An address of any other kind has no text of its
own.
-/

namespace ServiceSocket
namespace Address

variable {a b : Address}

/-- The address is of a kind that is written as a text of its own. -/
def IsWritten (a : Address) : Prop :=
  a.kind = .name ∨ a.kind = .nameRange

/-- What its text tells about an address that is written. -/
def told (a : Address) : Address :=
  { a with scope := .zone, domain := if a.kind = .name then 0 else a.domain }

/-!
# What is written spells what is told
-/

theorem isField_render (n : UInt32) : IsField (Decimal.render n.toNat) n where
  isNumeral := Decimal.isNumeral_render n.toNat
  value_eq := (Decimal.value_render n.toNat).symm

theorem spells_joinName (service inst : UInt32) :
    Spells (joinName service inst).toList (ofName service inst) := by
  rw [joinName, String.toList_ofList]
  exact .name (isField_render service) (isField_render inst)

theorem spells_joinRange (service low high : UInt32) :
    Spells (joinRange service low high).toList (ofRange service low high) := by
  rw [joinRange, String.toList_ofList]
  exact .range (isField_render service) (isField_render low) (isField_render high)

theorem render_of_name (hkind : a.kind = .name) : a.render = joinName a.service a.inst :=
  if_pos hkind

theorem render_of_nameRange
    (hkind : a.kind = .nameRange) :
    a.render = joinRange a.service a.inst a.domain := by
  have hname : a.kind ≠ .name := by
    rw [hkind]
    decide
  rw [render, if_neg hname, if_pos hkind]

theorem render_of_not_isWritten (h : ¬ a.IsWritten) : a.render = absentText := by
  rcases not_or.mp h with ⟨hname, hrange⟩
  rw [render, if_neg hname, if_neg hrange]

theorem told_of_name (hkind : a.kind = .name) : a.told = ofName a.service a.inst := by
  rw [told, if_pos hkind, hkind]
  rfl

theorem told_of_nameRange
    (hkind : a.kind = .nameRange) : a.told = ofRange a.service a.inst a.domain := by
  have hname : a.kind ≠ .name := by
    rw [hkind]
    decide
  rw [told, if_neg hname, hkind]
  rfl

theorem spells_render (h : a.IsWritten) : Spells a.render.toList a.told := by
  rcases h with hkind | hkind
  · rw [render_of_name hkind, told_of_name hkind]
    exact spells_joinName a.service a.inst
  · rw [render_of_nameRange hkind, told_of_nameRange hkind]
    exact spells_joinRange a.service a.inst a.domain

/-!
# Reading back
-/

theorem parse_render (h : a.IsWritten) : parse a.render = .ok a.told :=
  (spells_render h).readChars_eq

theorem parse_absentText : parse absentText = .error (.missingDelimiter absentText.toList) := by
  rw [parse, readChars, splitLast_eq_none_iff.mpr (by decide)]

theorem parse_render_eq_ok_iff {read : Address} :
    parse a.render = .ok read <-> a.IsWritten ∧ read = a.told := by
  by_cases h : a.IsWritten
  · rw [parse_render h]
    constructor
    · intro hread
      exact ⟨h, (Except.ok.inj hread).symm⟩
    · intro hread
      rw [hread.2]
  · rw [render_of_not_isWritten h, parse_absentText]
    constructor
    · intro hread
      cases hread
    · intro hread
      exact absurd hread.1 h

theorem told_eq_self_iff :
    a.told = a <-> a.scope = .zone ∧ (a.kind = .name -> a.domain = 0) := by
  constructor
  · intro h
    constructor
    · exact (congrArg Address.scope h).symm
    · intro hname
      have hdomain := congrArg Address.domain h
      rw [told, if_pos hname] at hdomain
      exact hdomain.symm
  · intro h
    rcases a with ⟨kind, scope, service, inst, domain⟩
    rcases h with ⟨hscope, hdomain⟩
    rw [told, mk.injEq]
    refine ⟨rfl, hscope.symm, rfl, rfl, ?_⟩
    by_cases hname : kind = .name
    · rw [if_pos hname]
      exact (hdomain hname).symm
    · exact if_neg hname

theorem told_eq_told_iff :
    a.told = b.told <-> a.kind = b.kind ∧ a.service = b.service ∧ a.inst = b.inst ∧
      (a.kind = .name ∨ a.domain = b.domain) := by
  unfold told
  rw [Address.mk.injEq]
  constructor
  · rintro ⟨hkind, -, hservice, hinst, hdomain⟩
    refine ⟨hkind, hservice, hinst, ?_⟩
    rw [← hkind] at hdomain
    by_cases hname : a.kind = .name
    · exact .inl hname
    · rw [if_neg hname, if_neg hname] at hdomain
      exact .inr hdomain
  · rintro ⟨hkind, hservice, hinst, hdomain⟩
    refine ⟨hkind, rfl, hservice, hinst, ?_⟩
    rw [← hkind]
    rcases hdomain with hname | hdomain
    · rw [if_pos hname, if_pos hname]
    · rw [hdomain]

theorem told_eq_of_render_eq
    (ha : a.IsWritten)
    (hb : b.IsWritten)
    (h : a.render = b.render) :
    a.told = b.told := by
  have hread := parse_render ha
  rw [h, parse_render hb] at hread
  exact (Except.ok.inj hread).symm

/-- An address is read back exactly if it is of a kind that is written, and it comes back with
zone scope and, as a single instance, without a domain.  So it is the same again if it had
those before, and addresses that are written alike differ in nothing else. -/
theorem written_address_is_read_back (a : Address) :
    (forall read, parse a.render = .ok read <-> (a.kind = .name ∨ a.kind = .nameRange) ∧
      read = { a with scope := .zone, domain := if a.kind = .name then 0 else a.domain }) ∧
    (parse a.render = .ok a <->
      a.scope = .zone ∧ (a.kind = .nameRange ∨ a.kind = .name ∧ a.domain = 0)) ∧
    ((a.kind = .name ∨ a.kind = .nameRange) ∨ a.render = "<nil>") ∧
    (forall read, parse "<nil>" ≠ .ok read) ∧
    (forall b : Address, a.kind = .name ∨ a.kind = .nameRange ->
      b.kind = .name ∨ b.kind = .nameRange ->
      a.render = b.render -> a.kind = b.kind ∧ a.service = b.service ∧ a.inst = b.inst ∧
        (a.kind = .nameRange -> a.domain = b.domain)) := by
  refine ⟨?_, ?_, ?_, ?_, ?_⟩
  · intro read
    exact parse_render_eq_ok_iff
  · rw [parse_render_eq_ok_iff, eq_comm, told_eq_self_iff]
    constructor
    · rintro ⟨hname | hrange, hscope, hdomain⟩
      · exact ⟨hscope, .inr ⟨hname, hdomain hname⟩⟩
      · exact ⟨hscope, .inl hrange⟩
    · rintro ⟨hscope, hrange | ⟨hname, hdomain⟩⟩
      · refine ⟨.inr hrange, hscope, ?_⟩
        intro hname
        rw [hrange] at hname
        cases hname
      · exact ⟨.inl hname, hscope, fun _ => hdomain⟩
  · by_cases h : a.IsWritten
    · exact .inl h
    · exact .inr (render_of_not_isWritten h)
  · intro read hread
    have habsent := parse_absentText
    rw [absentText, hread] at habsent
    cases habsent
  · intro b ha hb h
    rcases told_eq_told_iff.mp (told_eq_of_render_eq ha hb h) with
      ⟨hkind, hservice, hinst, hdomain⟩
    refine ⟨hkind, hservice, hinst, ?_⟩
    intro hrange
    rcases hdomain with hname | hdomain
    · rw [hrange] at hname
      cases hname
    · exact hdomain

/-- Two addresses of one range that are written alike and differ in scope. -/
theorem written_address_is_read_back_in_zone :
    Address.render ⟨.nameRange, .node, 7, 9, 3⟩ = "7;9-3" ∧
    Address.render (ofRange 7 9 3) = "7;9-3" ∧
    parse "7;9-3" = .ok (ofRange 7 9 3) ∧
    parse "7;9-3" ≠ .ok ⟨.nameRange, .node, 7, 9, 3⟩ ∧
    Address.domain ⟨.nameRange, .node, 7, 9, 3⟩ = (ofRange 7 9 3).domain := by
  have hread := written_address_is_read_back ⟨.nameRange, .node, 7, 9, 3⟩
  have htext : Address.render ⟨.nameRange, .node, 7, 9, 3⟩ = "7;9-3" := by decide
  have hother : Address.render (ofRange 7 9 3) = "7;9-3" := by decide
  rw [htext] at hread
  refine ⟨htext, hother, ?_, ?_, ?_⟩
  · exact (hread.1 _).mpr ⟨.inr rfl, rfl⟩
  · intro hsame
    exact absurd (hread.2.1.mp hsame).1 (by decide)
  · exact (hread.2.2.2.2 (ofRange 7 9 3) (.inr rfl) (.inr rfl) hother.symm).2.2.2 rfl

end Address
end ServiceSocket
