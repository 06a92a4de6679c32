import ServiceSocket.Proofs.Ownership.Items
import ServiceSocket.Session.Basic

/-!
# Ownership of sessions

The descriptors of a session are those of its items.  An action sees and changes only the
items under the names it mentions, so what it does with their descriptors it does beside
those of all other items.
-/

namespace ServiceSocket
namespace Session

/-!
# Items under names
-/

def IsSorted (s : Session) : Prop :=
  s.items.Pairwise fun first second => first.1 < second.1

def owned (s : Session) : Multiset Descriptor :=
  (s.items.map fun entry => entry.2.owned).sum

def only (s : Session) (names : List String) : Session :=
  ⟨s.items.filter fun entry => decide (entry.1 ∈ names)⟩

def without (s : Session) (names : List String) : Session :=
  ⟨s.items.filter fun entry => !decide (entry.1 ∈ names)⟩

def ownedBy (item : Option Item) : Multiset Descriptor :=
  item.elim 0 Item.owned

variable {s : Session} {name : String} {item : Item} {names : List String}

theorem isSorted_empty : ({} : Session).IsSorted := List.Pairwise.nil

theorem IsSorted.erase (h : s.IsSorted) (name : String) : (s.erase name).IsSorted :=
  List.Pairwise.filter _ h

theorem IsSorted.only (h : s.IsSorted) (names : List String) : (s.only names).IsSorted :=
  List.Pairwise.filter _ h

theorem eq_or_mem_of_mem_insertSorted {entry : String × Item} {items : List (String × Item)}
    (h : entry ∈ insertSorted name item items) :
    entry = (name, item) ∨ entry ∈ items := by
  induction items with
  | nil => exact .inl (List.mem_singleton.mp h)
  | cons head rest ih =>
      rcases head with ⟨other, held⟩
      rw [insertSorted] at h
      split at h
      next => exact List.mem_cons.mp h
      next =>
          split at h
          next =>
              rcases List.mem_cons.mp h with h | h
              · exact .inl h
              · exact .inr (List.mem_cons_of_mem _ h)
          next =>
              rcases List.mem_cons.mp h with h | h
              · rw [h]
                exact .inr (List.mem_cons_self ..)
              · rcases ih h with h | h
                · exact .inl h
                · exact .inr (List.mem_cons_of_mem _ h)

theorem lt_of_not_lt_of_ne {first second : String}
    (hlt : ¬ first < second)
    (hne : first ≠ second) :
    second < first := by
  apply Classical.byContradiction
  intro hge
  exact hne (String.le_antisymm (String.not_lt.mp hge) (String.not_lt.mp hlt))

theorem IsSorted.insert
    (h : s.IsSorted)
    (name : String) (item : Item) :
    (s.insert name item).IsSorted := by
  rcases s with ⟨items⟩
  change (insertSorted name item items).Pairwise fun first second => first.1 < second.1
  change items.Pairwise fun first second => first.1 < second.1 at h
  induction items with
  | nil => exact List.pairwise_singleton _ _
  | cons head rest ih =>
      rcases head with ⟨other, held⟩
      rcases List.pairwise_cons.mp h with ⟨hhead, hrest⟩
      rw [insertSorted]
      split
      next hlt =>
          refine List.pairwise_cons.mpr ⟨?_, h⟩
          intro entry hmem
          rcases List.mem_cons.mp hmem with hmem | hmem
          · rw [hmem]
            exact hlt
          · exact String.lt_trans hlt (hhead entry hmem)
      next hlt =>
          split
          next heq =>
              rw [heq]
              exact List.pairwise_cons.mpr ⟨hhead, hrest⟩
          next hne =>
              refine List.pairwise_cons.mpr ⟨?_, ih hrest⟩
              intro entry hmem
              rcases eq_or_mem_of_mem_insertSorted hmem with hmem | hmem
              · rw [hmem]
                exact lt_of_not_lt_of_ne hlt hne
              · exact hhead entry hmem

/-!
# Descriptors under names
-/

theorem owned_cons (entry : String × Item) (items : List (String × Item)) :
    (Session.mk (entry :: items)).owned = entry.2.owned + (Session.mk items).owned := by
  rw [owned, List.map_cons, List.sum_cons]
  rfl

theorem filter_ne_of_lt {items : List (String × Item)}
    (h : forall entry, entry ∈ items -> name < entry.1) :
    (items.filter fun entry => entry.1 != name) = items := by
  apply List.filter_eq_self.mpr
  intro entry hmem
  apply bne_iff_ne.mpr
  intro heq
  have hlt := h entry hmem
  rw [heq] at hlt
  exact String.lt_irrefl name hlt

theorem owned_eq
    (h : s.IsSorted)
    (name : String) :
    s.owned = ownedBy (s.find? name) + (s.erase name).owned := by
  rcases s with ⟨items⟩
  change items.Pairwise fun first second => first.1 < second.1 at h
  induction items with
  | nil => rfl
  | cons head rest ih =>
      rcases head with ⟨other, held⟩
      rcases List.pairwise_cons.mp h with ⟨hhead, hrest⟩
      by_cases heq : other = name
      · have hfind : (Session.mk ((other, held) :: rest)).find? name = some held := by
          simp [find?, heq]
        have herase : (Session.mk ((other, held) :: rest)).erase name = ⟨rest⟩ := by
          rw [← heq]
          simp [erase, filter_ne_of_lt hhead]
        rw [hfind, herase, owned_cons]
        rfl
      · have hfind : (Session.mk ((other, held) :: rest)).find? name =
            (Session.mk rest).find? name := by
          simp [find?, heq]
        have herase : (Session.mk ((other, held) :: rest)).erase name =
            ⟨(other, held) :: ((Session.mk rest).erase name).items⟩ := by
          simp [erase, heq]
        rw [hfind, herase, owned_cons, owned_cons, ih hrest]
        exact add_left_comm _ _ _

theorem insert_owned
    (h : s.IsSorted)
    (name : String) (item : Item) :
    (s.insert name item).owned = item.owned + (s.erase name).owned := by
  rcases s with ⟨items⟩
  change (Session.mk (insertSorted name item items)).owned = _
  change items.Pairwise fun first second => first.1 < second.1 at h
  induction items with
  | nil => rfl
  | cons head rest ih =>
      rcases head with ⟨other, held⟩
      rcases List.pairwise_cons.mp h with ⟨hhead, hrest⟩
      rw [insertSorted]
      split
      next hlt =>
          have hall : forall entry, entry ∈ (other, held) :: rest -> name < entry.1 := by
            intro entry hmem
            rcases List.mem_cons.mp hmem with hmem | hmem
            · rw [hmem]
              exact hlt
            · exact String.lt_trans hlt (hhead entry hmem)
          rw [owned_cons, erase, filter_ne_of_lt hall]
      next hlt =>
          split
          next heq =>
              have herase : (Session.mk ((other, held) :: rest)).erase name = ⟨rest⟩ := by
                rw [heq]
                simp [erase, filter_ne_of_lt hhead]
              rw [owned_cons, herase]
          next hne =>
              have herase : (Session.mk ((other, held) :: rest)).erase name =
                  ⟨(other, held) :: ((Session.mk rest).erase name).items⟩ := by
                simp [erase, Ne.symm hne]
              rw [owned_cons, ih hrest, herase, owned_cons]
              exact add_left_comm _ _ _

/-!
# Looking at some names only
-/

theorem find?_only (s : Session)
    (hname : name ∈ names) : (s.only names).find? name = s.find? name := by
  have hpred : (fun entry : String × Item =>
      decide (decide (entry.1 ∈ names) = true ∧ (entry.1 == name) = true)) =
        fun entry => entry.1 == name := by
    funext entry
    by_cases heq : entry.1 = name
    · simp [heq, hname]
    · simp [heq]
  rw [find?, only, List.find?_filter, hpred]
  rfl

theorem erase_only (s : Session) (name : String) (names : List String) :
    (s.erase name).only names = (s.only names).erase name := by
  rw [only, erase, List.filter_filter, only, erase, List.filter_filter]
  congr 2
  funext entry
  exact Bool.and_comm _ _

theorem erase_without (s : Session)
    (hname : name ∈ names) : (s.erase name).without names = s.without names := by
  rw [without, erase, List.filter_filter, without]
  congr 2
  funext entry
  by_cases heq : entry.1 = name
  · simp [heq, hname]
  · simp [heq]

theorem insertSorted_of_lt {items : List (String × Item)}
    (h : forall entry, entry ∈ items -> name < entry.1) :
    insertSorted name item items = (name, item) :: items := by
  cases items with
  | nil => rfl
  | cons head rest => exact if_pos (h head (List.mem_cons_self ..))

theorem insert_only
    (h : s.IsSorted)
    (hname : name ∈ names)
    (item : Item) :
    (s.insert name item).only names = (s.only names).insert name item := by
  rcases s with ⟨items⟩
  change items.Pairwise fun first second => first.1 < second.1 at h
  change Session.mk ((insertSorted name item items).filter _) =
    Session.mk (insertSorted name item (items.filter _))
  congr 1
  induction items with
  | nil => simp [insertSorted, hname]
  | cons head rest ih =>
      rcases head with ⟨other, held⟩
      rcases List.pairwise_cons.mp h with ⟨hhead, hrest⟩
      rw [insertSorted]
      split
      next hlt =>
          have hall : forall entry, entry ∈ ((other, held) :: rest).filter
              (fun entry => decide (entry.1 ∈ names)) -> name < entry.1 := by
            intro entry hmem
            rcases List.mem_cons.mp (List.mem_filter.mp hmem).1 with hmem | hmem
            · rw [hmem]
              exact hlt
            · exact String.lt_trans hlt (hhead entry hmem)
          rw [List.filter_cons_of_pos (by simpa using hname), insertSorted_of_lt hall]
      next hlt =>
          split
          next heq =>
              have hother : other ∈ names := heq ▸ hname
              rw [List.filter_cons_of_pos (by simpa using hname),
                List.filter_cons_of_pos (by simpa using hother), insertSorted, if_neg hlt,
                if_pos heq]
          next hne =>
              by_cases hother : other ∈ names
              · rw [List.filter_cons_of_pos (by simpa using hother),
                  List.filter_cons_of_pos (by simpa using hother), insertSorted, if_neg hlt,
                  if_neg hne, ih hrest]
              · rw [List.filter_cons_of_neg (by simpa using hother),
                  List.filter_cons_of_neg (by simpa using hother), ih hrest]

theorem insert_without (s : Session)
    (hname : name ∈ names)
    (item : Item) :
    (s.insert name item).without names = s.without names := by
  rcases s with ⟨items⟩
  change Session.mk ((insertSorted name item items).filter _) = Session.mk (items.filter _)
  congr 1
  induction items with
  | nil => simp [insertSorted, hname]
  | cons head rest ih =>
      rcases head with ⟨other, held⟩
      rw [insertSorted]
      split
      next => rw [List.filter_cons_of_neg (by simpa using hname)]
      next =>
          split
          next heq =>
              have hother : other ∈ names := heq ▸ hname
              rw [List.filter_cons_of_neg (by simpa using hname),
                List.filter_cons_of_neg (by simpa using hother)]
          next => rw [List.filter_cons, List.filter_cons, ih]

theorem find?_insert (s : Session) (name : String) (item : Item) :
    (s.insert name item).find? name = some item := by
  rcases s with ⟨items⟩
  change ((insertSorted name item items).find? fun entry => entry.1 == name).map Prod.snd = _
  induction items with
  | nil => simp [insertSorted]
  | cons head rest ih =>
      rcases head with ⟨other, held⟩
      rw [insertSorted]
      split
      next => simp
      next =>
          split
          next => simp
          next hne =>
              rw [List.find?_cons_of_neg (by simpa using Ne.symm hne)]
              exact ih

end Session
end ServiceSocket
