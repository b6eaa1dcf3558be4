import SchemaDesign.Proofs.Derivation.Outline

namespace SchemaDesign

open SchemaDesign.Derivation

variable {m : ConceptualModel} {settings : Settings} {name key : String}

namespace ConceptualModel

/--
The table of the entity has `key` as its only key column. Either this is the key attribute of an entity that is no
child, or the entity is listed once as a child and inherits the key: it has no key of its own, or one of that name.
Where it refers to its parent by the key, no other column of its table may have taken the name.
-/
inductive Identified (m : ConceptualModel) (settings : Settings) : String → String → Prop
  | own {name : String} (e : Entity) (own : Attribute) (he : m.entity? name = some e)
    (hroot : name ∉ m.listed) (hkey : e.key? = some own) : Identified m settings name own.name
  | inherited {name key : String} (e : Entity) (g : Inheritance) (he : m.entity? name = some e)
    (hg : g ∈ m.inheritances) (hname : name ∈ g.children) (honce : m.listed.count name = 1)
    (hparent : Identified m settings g.parent key) (hown : ∀ own ∈ e.key?, own.name = key)
    (hfree : g.strategyIn settings = .tablePerClass → storedKeys e = [] →
      ∀ t ∈ (related m).value.schema.table? name, key ∉ t.names) : Identified m settings name key

theorem Identified.entity (h : m.Identified settings name key) :
    ∃ e, m.entity? name = some e ∧ ∀ own ∈ e.key?, own.name = key := by
  cases h with
  | own e own he _ hkey =>
    refine ⟨e, he, ?_⟩
    intro own' hattribute
    rw [hkey, Option.mem_some_iff] at hattribute
    rw [hattribute]
  | inherited e g he _ _ _ _ hown => exact ⟨e, he, hown⟩

theorem Identified.parent {g : Inheritance} (h : m.Identified settings name key) (hg : g ∈ m.inheritances)
    (hname : name ∈ g.children) : m.listed.count name = 1 ∧ m.Identified settings g.parent key := by
  cases h with
  | own e own _ hroot =>
    exfalso
    apply hroot
    exact List.mem_flatMap.2 ⟨g, hg, hname⟩
  | inherited e g' _ hg' hname' honce hparent =>
    rw [group_eq_of_listed_once hg' hg honce hname' hname]
    exact ⟨honce, hparent⟩

theorem Identified.found_eq (h : m.Identified settings name key) (hnames : (m.entities.map (·.name)).Nodup)
    {unvisited : List Entity} (hunvisited : unvisited ⊆ m.entities) {found : String}
    (hfound : keyName?.go m unvisited name = some found) : found = key := by
  -- The induction follows the way from child to parent, with whatever the search has passed before.
  induction h generalizing unvisited with
  | @own name e' own he' hroot hkey =>
    obtain ⟨e'', he'', rfl⟩ := exists_of_go hfound
    rw [entity?_eq_some hnames (hunvisited he''), Option.some_inj] at he'
    subst he'
    rw [go_eq hnames hunvisited he'' rfl, hkey] at hfound
    simpa using hfound.symm
  | @inherited name key e' g he' hg hmember honce hparent hown' hfree ih =>
    obtain ⟨e'', he'', rfl⟩ := exists_of_go hfound
    rw [entity?_eq_some hnames (hunvisited he''), Option.some_inj] at he'
    subst he'
    rw [go_eq hnames hunvisited he'' rfl] at hfound
    cases hkey : e''.key? with
    | some own =>
      rw [hkey] at hfound
      rw [← hown' own hkey]
      simpa using hfound.symm
    | none =>
      rw [hkey, Option.bind_eq_some_iff] at hfound
      obtain ⟨parent, hparent', hfound⟩ := hfound
      obtain ⟨g', hg', hmember', heq⟩ := parent?_eq_some hparent'
      rw [← heq, group_eq_of_listed_once hg hg' honce hmember hmember'] at hfound
      exact ih (List.Subset.trans (otherEntities_subset _ _) hunvisited) hfound

theorem Identified.keyName?_eq (h : m.Identified settings name key) (hm : m.Valid) {found : String}
    (hfound : m.keyName? name = some found) : found = key :=
  h.found_eq hm.entityNames (List.Subset.refl _) hfound

theorem identified_of_not_child (hm : m.Valid) {e : Entity} (he : m.entity? name = some e)
    (hchild : m.isChild name = false) : ∃ key, m.Identified settings name key := by
  have hroot : name ∉ m.listed := by
    rw [← isChild_iff, hchild]
    simp
  cases hkey : e.key? with
  | some own => exact ⟨own.name, .own e own he hroot hkey⟩
  | none =>
    have := hm.keyed e (mem_of_entity? he) (Entity.key?_eq_none_iff.1 hkey)
    rw [name_of_entity? he, hchild] at this
    contradiction

end ConceptualModel

end SchemaDesign
