import ServiceSocket.Proofs.Ownership.Sessions

/-!
# Ownership in the course of an action

An action begins with the descriptors of the items it mentions, and with one more if the
caller hands one over; it ends with those of the items that are then under these names.
-/

namespace ServiceSocket
namespace Session

namespace Recipe

def handed : Recipe -> List Descriptor
  | .adopt d | .adoptInstead d _ | .tcpConnection d | .tcpListener d => [d]
  | _ => []

def names : Recipe -> List String
  | .adoptHeld name | .adoptInstead _ name | .accept name | .anyAccept name
  | .duplicate name => [name]
  | _ => []

end Recipe

namespace Action

def handed : Action -> List Descriptor
  | .make _ recipe => recipe.handed
  | _ => []

def names : Action -> List String
  | .make name recipe => name :: recipe.names
  | .ask name _ => [name]
  | .drop name => [name]

end Action

variable {s : Session} {names : List String}

/-!
# Making
-/

theorem releaseHeld_carries (item : Option Item) :
    (releaseHeld item).Carries (ownedBy item) fun _ => 0 := by
  cases item with
  | none => rfl
  | some item => exact item.release_carries

theorem handed_of_prepare_eq_none {recipe : Recipe} {patience : Nat}
    (h : s.prepare recipe patience = none) : recipe.handed = [] := by
  cases recipe <;> first | rfl | cases h

theorem prepare_carries
    (hs : s.IsSorted)
    {recipe : Recipe} {patience : Nat} {body : Attempt Item}
    (h : s.prepare recipe patience = some body) :
    body.Carries (↑recipe.handed + s.owned)
      (ownedBy (s.setAside recipe) + (s.useUp recipe).owned)
      (fun item => item.owned + (ownedBy (s.setAside recipe) + (s.useUp recipe).owned)) := by
  have hmade {body : Attempt Item} (hbody : body.Carries 0 0 Item.owned) :
      body.Carries (0 + s.owned) (0 + s.owned) fun item => item.owned + (0 + s.owned) := by
    have hframe := hbody.frame (0 + s.owned)
    simpa only [zero_add] using hframe
  have hgiven {body : Attempt Item} {d : Descriptor} (hbody : body.Carries {d} 0 Item.owned) :
      body.Carries ({d} + s.owned) (0 + s.owned) fun item => item.owned + (0 + s.owned) := by
    have hframe := hbody.frame s.owned
    simpa only [zero_add] using hframe
  have hneeds {body : Attempt Item} {name : String} {needed : Item}
      (hfind : s.find? name = some needed) (hbody : body.Carries needed.owned needed.owned
        fun item => item.owned + needed.owned) :
      body.Carries (0 + s.owned) (0 + s.owned) fun item => item.owned + (0 + s.owned) := by
    have hframe := hbody.frame (s.erase name).owned
    have howned : needed.owned + (s.erase name).owned = s.owned := by
      rw [owned_eq hs name, hfind]
      rfl
    simpa only [zero_add, add_assoc, howned] using hframe
  have hadopt (d : Descriptor) :
      Attempt.Carries (Item.connection <$> Connection.adopt d) {d} 0 Item.owned :=
    Attempt.Carries.map (Connection.adopt_carries d)
  cases recipe with
  | dial network near far =>
      cases h
      exact hmade (Attempt.Carries.map (Connection.dial_carries network near far patience))
  | dialer dialer network far =>
      cases h
      exact hmade (Attempt.Carries.map (dialer.dial_carries network far patience))
  | connect dialer far =>
      cases h
      exact hmade (Attempt.Carries.map (dialer.connect_carries far patience))
  | listen network address =>
      cases h
      exact hmade (Attempt.Carries.map (Listener.listen_carries network address))
  | builder builder network address =>
      cases h
      exact hmade (Attempt.Carries.map (builder.listen_carries network address))
  | bind builder address =>
      cases h
      exact hmade (Attempt.Carries.map (builder.bind_carries address))
  | adopt d =>
      cases h
      exact hgiven (hadopt d)
  | adoptHeld name =>
      dsimp only [prepare] at h
      split at h
      next d hfind =>
          cases h
          have howned : s.owned = {d} + (s.erase name).owned := by
            rw [owned_eq hs name, hfind]
            rfl
          have hframe := (hadopt d).frame (s.erase name).owned
          change Attempt.Carries _ (0 + s.owned) (0 + (s.erase name).owned)
            fun (item : Item) => item.owned + (0 + (s.erase name).owned)
          rw [howned]
          simpa only [zero_add] using hframe
      next => cases h
  | adoptInstead d name =>
      cases h
      have hframe := hgiven (hadopt d)
      change Attempt.Carries _ ({d} + s.owned) (ownedBy (s.find? name) + (s.erase name).owned)
        fun (item : Item) => item.owned + (ownedBy (s.find? name) + (s.erase name).owned)
      rw [← owned_eq hs name]
      simpa only [zero_add] using hframe
  | tcpConnection d =>
      cases h
      exact hgiven (show Attempt.Carries (return _) _ _ _ from rfl)
  | tcpListener d =>
      cases h
      exact hgiven (show Attempt.Carries (return _) _ _ _ from rfl)
  | accept name =>
      dsimp only [prepare] at h
      split at h
      next l hfind =>
          cases h
          exact hneeds hfind (Attempt.Carries.map (Listener.accept_carries patience))
      next => cases h
  | anyAccept name =>
      dsimp only [prepare] at h
      split at h
      next l hfind =>
          cases h
          exact hneeds hfind (Attempt.Carries.map (AnyListener.accept_carries patience))
      next l hfind =>
          cases h
          exact hneeds hfind (Attempt.Carries.map (AnyListener.accept_carries patience))
      next => cases h
  | duplicate name =>
      dsimp only [prepare] at h
      split at h
      next l hfind =>
          cases h
          exact hneeds hfind (Attempt.Carries.map Listener.duplicate_carries)
      next => cases h

theorem IsSorted.useUp (hs : s.IsSorted) (recipe : Recipe) : (s.useUp recipe).IsSorted := by
  cases recipe with
  | adoptHeld name => exact hs.erase name
  | adoptInstead d name => exact hs.erase name
  | _ => exact hs

theorem make_carries
    (hs : s.IsSorted)
    (name : String) (recipe : Recipe) (patience : Nat) :
    (s.make name recipe patience).Carries (↑recipe.handed + s.owned)
      fun result => result.2.owned := by
  unfold make
  cases hprepare : s.prepare recipe patience with
  | none =>
      rw [handed_of_prepare_eq_none hprepare, Multiset.coe_nil, zero_add]
      rfl
  | some body =>
      rw [Program.Carries, Program.meets_bind, Attempt.meets_run]
      apply Attempt.Meets.mono (prepare_carries hs hprepare)
      · intro error held hheld
        rw [hheld, Program.meets_bind]
        apply (releaseHeld_carries (s.setAside recipe)).meets (s.useUp recipe).owned
        intro _
        exact zero_add _
      · intro item held hheld
        have hsorted := hs.useUp recipe
        rw [Program.meets_bind, hheld.trans (add_left_comm _ _ _)]
        apply (releaseHeld_carries (s.setAside recipe)).meets
          (item.owned + (s.useUp recipe).owned)
        intro _
        rw [zero_add, Program.meets_bind, owned_eq hsorted name, add_left_comm]
        apply (releaseHeld_carries ((s.useUp recipe).find? name)).meets
          (item.owned + ((s.useUp recipe).erase name).owned)
        intro _
        rw [zero_add]
        exact (insert_owned hsorted name item).symm

/-!
# Acting
-/

theorem act_carries
    (hs : s.IsSorted)
    (action : Action) (patience : Nat) :
    (s.act action patience).Carries (↑action.handed + s.owned) fun result => result.2.owned := by
  cases action with
  | make name recipe => exact make_carries hs name recipe patience
  | ask name request =>
      change Program.Carries _ (0 + s.owned) _
      rw [zero_add, act]
      cases hfind : s.find? name with
      | none => rfl
      | some item =>
          rw [Program.Carries, Program.meets_bind, owned_eq hs name, hfind]
          apply (item.ask_carries request patience).meets (s.erase name).owned
          intro result
          exact (insert_owned hs name result.2).symm
  | drop name =>
      change Program.Carries _ (0 + s.owned) _
      rw [zero_add, act]
      cases hfind : s.find? name with
      | none => rfl
      | some item =>
          rw [Program.Carries, Program.meets_bind, owned_eq hs name, hfind]
          apply item.release_carries.meets (s.erase name).owned
          intro _
          exact zero_add _

theorem finish_carries (s : Session) : s.finish.Carries s.owned fun _ => 0 := by
  rcases s with ⟨items⟩
  induction items with
  | nil => rfl
  | cons entry rest ih =>
      rw [owned_cons]
      change Program.Meets ledger _ (_ >>= _) _ _
      rw [Program.meets_bind]
      apply entry.2.release_carries.meets (Session.mk rest).owned
      intro _
      rw [zero_add]
      exact ih

/-!
# What an action does not mention
-/

theorem prepare_only (s : Session) {recipe : Recipe}
    (hnames : forall name, name ∈ recipe.names -> name ∈ names)
    (patience : Nat) :
    (s.only names).prepare recipe patience = s.prepare recipe patience := by
  have hfind : forall name, name ∈ recipe.names -> (s.only names).find? name = s.find? name :=
    fun name hname => find?_only s (hnames name hname)
  cases recipe <;> first | rfl | simp only [prepare, hfind _ (List.mem_singleton_self _)]

theorem setAside_only (s : Session) {recipe : Recipe}
    (hnames : forall name, name ∈ recipe.names -> name ∈ names) :
    (s.only names).setAside recipe = s.setAside recipe := by
  cases recipe with
  | adoptInstead d name => exact find?_only s (hnames name (List.mem_singleton_self _))
  | _ => rfl

theorem useUp_only (s : Session) (recipe : Recipe) (names : List String) :
    (s.only names).useUp recipe = (s.useUp recipe).only names := by
  cases recipe with
  | adoptHeld name => exact (erase_only s name names).symm
  | adoptInstead d name => exact (erase_only s name names).symm
  | _ => rfl

/-- An action does the same if the items that it does not mention are not there. -/
theorem act_only
    (hs : s.IsSorted)
    {action : Action}
    (hnames : forall name, name ∈ action.names -> name ∈ names)
    (patience : Nat) :
    (s.only names).act action patience =
      (fun result => (result.1, result.2.only names)) <$> s.act action patience := by
  cases action with
  | make name recipe =>
      have hname : name ∈ names := hnames name (List.mem_cons_self ..)
      have hrecipe : forall other, other ∈ recipe.names -> other ∈ names :=
        fun other hmem => hnames other (List.mem_cons_of_mem _ hmem)
      simp only [act, make, prepare_only s hrecipe]
      cases s.prepare recipe patience with
      | none => rfl
      | some body =>
          simp only [setAside_only s hrecipe, useUp_only, map_bind]
          congr
          funext result
          congr
          funext _
          cases result with
          | error error => rfl
          | ok item =>
              simp only [find?_only _ hname, map_bind, map_pure,
                insert_only (hs.useUp recipe) hname]
  | ask name request =>
      have hname : name ∈ names := hnames name (List.mem_singleton_self _)
      simp only [act, find?_only s hname]
      cases s.find? name with
      | none => rfl
      | some item => simp only [map_bind, map_pure, insert_only hs hname]
  | drop name =>
      have hname : name ∈ names := hnames name (List.mem_singleton_self _)
      simp only [act, find?_only s hname]
      cases s.find? name with
      | none => rfl
      | some item => simp only [map_bind, map_pure, erase_only]

theorem act_only_carries
    (hs : s.IsSorted)
    {action : Action}
    (hnames : forall name, name ∈ action.names -> name ∈ names)
    (patience : Nat) :
    (s.act action patience).Carries (↑action.handed + (s.only names).owned)
      fun result => (result.2.only names).owned := by
  have hcarries := act_carries (hs.only names) action patience
  rw [act_only hs hnames, Program.Carries, Program.meets_map] at hcarries
  exact hcarries

/-!
# What an action leaves
-/

theorem useUp_without (s : Session) {recipe : Recipe}
    (hnames : forall name, name ∈ recipe.names -> name ∈ names) :
    (s.useUp recipe).without names = s.without names := by
  cases recipe with
  | adoptHeld name => exact erase_without s (hnames name (List.mem_singleton_self _))
  | adoptInstead d name => exact erase_without s (hnames name (List.mem_singleton_self _))
  | _ => rfl

theorem make_returns (s : Session) (name : String) (recipe : Recipe) (patience : Nat) :
    (s.make name recipe patience).Returns fun result =>
      result = (.missing, s) ∨ (exists error, result = (.failed error, s.useUp recipe)) ∨
        exists item, result = (.made, (s.useUp recipe).insert name item) := by
  unfold make
  cases s.prepare recipe patience with
  | none => exact Program.returns_pure (.inl rfl)
  | some body =>
      apply Program.returns_bind
      intro result
      apply Program.returns_bind
      intro _
      cases result with
      | error error => exact Program.returns_pure (.inr (.inl ⟨error, rfl⟩))
      | ok item =>
          apply Program.returns_bind
          intro _
          exact Program.returns_pure (.inr (.inr ⟨item, rfl⟩))

theorem act_returns
    (hs : s.IsSorted)
    {action : Action}
    (hnames : forall name, name ∈ action.names -> name ∈ names)
    (patience : Nat) :
    (s.act action patience).Returns fun result =>
      result.2.IsSorted ∧ result.2.without names = s.without names := by
  cases action with
  | make name recipe =>
      have hname : name ∈ names := hnames name (List.mem_cons_self ..)
      have huse : (s.useUp recipe).without names = s.without names :=
        useUp_without s fun other hmem => hnames other (List.mem_cons_of_mem _ hmem)
      intro events result branch
      rcases make_returns s name recipe patience events result branch with
        h | ⟨error, h⟩ | ⟨item, h⟩
      · rw [h]
        exact ⟨hs, rfl⟩
      · rw [h]
        exact ⟨hs.useUp recipe, huse⟩
      · rw [h]
        exact ⟨(hs.useUp recipe).insert name item, (insert_without _ hname item).trans huse⟩
  | ask name request =>
      have hname : name ∈ names := hnames name (List.mem_singleton_self _)
      unfold act
      dsimp only
      cases s.find? name with
      | none => exact Program.returns_pure ⟨hs, rfl⟩
      | some item =>
          apply Program.returns_bind
          intro result
          exact Program.returns_pure ⟨hs.insert name result.2, insert_without s hname result.2⟩
  | drop name =>
      have hname : name ∈ names := hnames name (List.mem_singleton_self _)
      unfold act
      dsimp only
      cases s.find? name with
      | none => exact Program.returns_pure ⟨hs, rfl⟩
      | some item =>
          apply Program.returns_bind
          intro _
          exact Program.returns_pure ⟨hs.erase name, erase_without s hname⟩

theorem act_returns_closed {name : String} {item : Item} {request : Request}
    (hfind : s.find? name = some item)
    (hcloses : item.closes request = true)
    (patience : Nat) :
    (s.act (.ask name request) patience).Returns fun result =>
      exists changed, result.2.find? name = some changed ∧ changed.owned = 0 := by
  unfold act
  simp only [hfind]
  refine (Item.ask_returns_closed hcloses patience).bind ?_
  intro result hresult
  exact Program.returns_pure ⟨result.2, find?_insert s name result.2, hresult⟩

end Session
end ServiceSocket
