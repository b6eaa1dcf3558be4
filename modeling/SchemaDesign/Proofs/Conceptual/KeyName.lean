import Mathlib.Data.List.Nodup
import SchemaDesign.Conceptual.KeyName

namespace SchemaDesign

namespace Entity

variable {e : Entity}

theorem key?_eq_none_iff : e.key? = none ↔ e.attributes.countP (·.isKey) = 0 := by
  rw [key?, List.find?_eq_none, List.countP_eq_zero]

theorem key?_eq_some (hsingle : e.attributes.countP (·.isKey) ≤ 1) {a : Attribute}
    (ha : a ∈ e.attributes) (hkey : a.isKey = true) : e.key? = some a := by
  have hmem : a ∈ e.attributes.filter (·.isKey) := List.mem_filter.2 ⟨ha, hkey⟩
  rw [List.countP_eq_length_filter] at hsingle
  rw [key?, ← List.head?_filter]
  generalize e.attributes.filter (·.isKey) = keys at hmem hsingle
  cases keys with
  | nil => contradiction
  | cons b keys =>
    have hlast : keys = [] := by
      rw [List.length_cons] at hsingle
      apply List.eq_nil_of_length_eq_zero
      omega
    rw [hlast, List.mem_singleton] at hmem
    rw [hmem]
    rfl

end Entity

namespace ConceptualModel

variable {m : ConceptualModel} {name : String} {e : Entity}

section Entities

theorem isSome_entity? : (m.entity? name).isSome = true ↔ name ∈ m.entities.map (·.name) := by
  simp [entity?]

theorem name_of_entity? (h : m.entity? name = some e) : e.name = name := by
  simpa using List.find?_some h

theorem mem_of_entity? (h : m.entity? name = some e) : e ∈ m.entities :=
  List.mem_of_find?_eq_some h

theorem find?_unvisited (hnames : (m.entities.map (·.name)).Nodup) {unvisited : List Entity}
    (hunvisited : unvisited ⊆ m.entities) (he : e ∈ unvisited) :
    unvisited.find? (·.name = e.name) = some e := by
  cases hfind : unvisited.find? (·.name = e.name) with
  | none =>
    rw [List.find?_eq_none] at hfind
    have := hfind e he
    simp at this
  | some e' =>
    congr 1
    apply List.inj_on_of_nodup_map hnames (hunvisited (List.mem_of_find?_eq_some hfind)) (hunvisited he)
    simpa using List.find?_some hfind

theorem entity?_eq_some (hnames : (m.entities.map (·.name)).Nodup) (he : e ∈ m.entities) :
    m.entity? e.name = some e :=
  find?_unvisited hnames (List.Subset.refl _) he

end Entities

section Groups

def listed (m : ConceptualModel) : List String :=
  m.inheritances.flatMap (·.children)

theorem isChild_iff : m.isChild name = true ↔ name ∈ m.listed := by
  simp [isChild, listed]

theorem listed_once {front back : List Inheritance} {g : Inheritance}
    (hsplit : m.inheritances = front ++ g :: back) (honce : m.listed.count name = 1)
    (hname : name ∈ g.children) :
    g.children.count name = 1 ∧ (∀ g' ∈ front, name ∉ g'.children) ∧ ∀ g' ∈ back, name ∉ g'.children := by
  have hpositive : 0 < g.children.count name := List.count_pos_iff.2 hname
  rw [listed, hsplit, List.flatMap_append, List.flatMap_cons, List.count_append, List.count_append] at honce
  have hfront : (front.flatMap (·.children)).count name = 0 := by omega
  have hback : (back.flatMap (·.children)).count name = 0 := by omega
  rw [List.count_eq_zero, List.mem_flatMap] at hfront hback
  refine ⟨by omega, ?_, ?_⟩
  . intro g' hg' hmem
    exact hfront ⟨g', hg', hmem⟩
  . intro g' hg' hmem
    exact hback ⟨g', hg', hmem⟩

theorem group_eq_of_listed_once {g g' : Inheritance} (hg : g ∈ m.inheritances) (hg' : g' ∈ m.inheritances)
    (honce : m.listed.count name = 1) (hname : name ∈ g.children) (hname' : name ∈ g'.children) : g' = g := by
  obtain ⟨front, back, hsplit⟩ := List.append_of_mem hg
  obtain ⟨_, hfront, hback⟩ := listed_once hsplit honce hname
  rw [hsplit, List.mem_append, List.mem_cons] at hg'
  rcases hg' with hg' | heq | hg'
  . exact absurd hname' (hfront g' hg')
  . exact heq
  . exact absurd hname' (hback g' hg')

theorem exists_first_group {groups : List Inheritance} (h : ∃ g ∈ groups, name ∈ g.children) :
    ∃ front g back, groups = front ++ g :: back ∧ name ∈ g.children ∧ ∀ g' ∈ front, name ∉ g'.children := by
  cases hfind : groups.find? fun g => name ∈ g.children with
  | none =>
    rw [List.find?_eq_none] at hfind
    obtain ⟨g, hg, hname⟩ := h
    exact absurd hname (by simpa using hfind g hg)
  | some g =>
    obtain ⟨hname, front, back, hsplit, hfront⟩ := List.find?_eq_some_iff_append.1 hfind
    refine ⟨front, g, back, hsplit, by simpa using hname, ?_⟩
    intro g' hg'
    simpa using hfront g' hg'

end Groups

section Search

def FirstParent (m : ConceptualModel) (child parent : String) : Prop :=
  ∃ front g back, m.inheritances = front ++ g :: back ∧ child ∈ g.children ∧ (∀ g' ∈ front, child ∉ g'.children)
    ∧ g.parent = parent

variable {parent : String}

theorem firstParent_iff : m.FirstParent name parent ↔ m.parent? name = some parent := by
  rw [parent?, Option.map_eq_some_iff]
  constructor
  . rintro ⟨front, g, back, hsplit, hmember, hfirst, hparent⟩
    refine ⟨g, ?_, hparent⟩
    rw [hsplit, List.find?_append, List.find?_eq_none.2 (by simpa using hfirst)]
    simp [hmember]
  . rintro ⟨g, hfind, hparent⟩
    obtain ⟨hmember, front, back, hsplit, hfirst⟩ := List.find?_eq_some_iff_append.1 hfind
    refine ⟨front, g, back, hsplit, by simpa using hmember, ?_, hparent⟩
    intro g' hg'
    simpa using hfirst g' hg'

theorem parent?_eq_some (h : m.parent? name = some parent) :
    ∃ g ∈ m.inheritances, name ∈ g.children ∧ g.parent = parent := by
  obtain ⟨front, g, back, hsplit, hmember, -, hparent⟩ := firstParent_iff.2 h
  refine ⟨g, ?_, hmember, hparent⟩
  simp [hsplit]

theorem otherEntities_subset (entities : List Entity) (name : String) :
    otherEntities entities name ⊆ entities := by
  intro e he
  exact (List.mem_filter.1 he).1

theorem keyName?_go_eq (unvisited : List Entity) (name : String) :
    keyName?.go m unvisited name
      =
    (unvisited.find? (·.name = name)).bind fun e =>
      match e.key? with
      | some own => some own.name
      | none => (m.parent? name).bind (keyName?.go m (otherEntities unvisited name)) := by
  rw [keyName?.go]
  split
  . next hnone => rw [hnone, Option.bind_none]
  . next e he =>
    rw [he, Option.bind_some]
    cases e.key? with
    | some own => rfl
    | none => cases m.parent? name <;> rfl

theorem go_eq (hnames : (m.entities.map (·.name)).Nodup) {unvisited : List Entity}
    (hunvisited : unvisited ⊆ m.entities) (he : e ∈ unvisited) (hname : e.name = name) :
    keyName?.go m unvisited name
      =
    match e.key? with
    | some own => some own.name
    | none => (m.parent? name).bind (keyName?.go m (otherEntities unvisited name)) := by
  have hfound := find?_unvisited hnames hunvisited he
  rw [hname] at hfound
  rw [keyName?_go_eq, hfound, Option.bind_some]

theorem exists_of_go {unvisited : List Entity} {found : String}
    (h : keyName?.go m unvisited name = some found) : ∃ e ∈ unvisited, e.name = name := by
  rw [keyName?_go_eq, Option.bind_eq_some_iff] at h
  obtain ⟨e, he, -⟩ := h
  refine ⟨e, List.mem_of_find?_eq_some he, ?_⟩
  simpa using List.find?_some he

end Search

end ConceptualModel

end SchemaDesign
