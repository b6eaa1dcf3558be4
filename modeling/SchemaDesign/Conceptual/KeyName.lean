import SchemaDesign.Conceptual.Basic

/-!
This module contains the name of the key that identifies an entity. A child of an inheritance group that has
no key of its own is identified by the one of its parent.
-/

namespace SchemaDesign.ConceptualModel

def parent? (m : ConceptualModel) (child : String) : Option String :=
  (m.inheritances.find? fun g => child ∈ g.children).map (·.parent)

def otherEntities (entities : List Entity) (name : String) : List Entity :=
  entities.filter (·.name ≠ name)

theorem length_otherEntities_lt {entities : List Entity} {name : String} {e : Entity}
    (h : entities.find? (·.name = name) = some e) :
    (otherEntities entities name).length < entities.length := by
  rw [otherEntities, ← List.countP_eq_length_filter]
  refine Nat.lt_of_le_of_ne List.countP_le_length fun hall => ?_
  have := List.countP_eq_length.1 hall e (List.mem_of_find?_eq_some h)
  have := List.find?_some h
  simp_all

/--
The first key attribute of the nearest entity that has one, going from child to parent. There is none if this
way leads to an undeclared entity, to an end without a key, or back to where it has been.
-/
def keyName? (m : ConceptualModel) (entity : String) : Option String :=
  go m.entities entity
where
  go (unvisited : List Entity) (name : String) : Option String :=
    match _h : unvisited.find? (·.name = name) with
    | none => none
    | some e =>
      match e.key? with
      | some key => some key.name
      | none =>
        match m.parent? name with
        | none => none
        | some parent => go (otherEntities unvisited name) parent
  termination_by unvisited.length
  decreasing_by exact length_otherEntities_lt _h

end SchemaDesign.ConceptualModel
