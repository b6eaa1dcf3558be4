import SchemaDesign.Proofs.Conceptual.Check
import SchemaDesign.Proofs.Conceptual.KeyName
import SchemaDesign.Proofs.Derivation.Reference

namespace SchemaDesign

namespace Derivation

variable {m : ConceptualModel} {settings : Settings} {d d' : Draft} {p : Issue → Prop}

def Draft.keys? (d : Draft) (table : String) : Option (List Column) :=
  (d.schema.table? table).map (·.keys)

def Draft.keyNames? (d : Draft) (table : String) : Option (List String) :=
  (d.schema.table? table).map (·.keyNames)

theorem Draft.keyNames?_eq (d : Draft) (table : String) :
    d.keyNames? table = (d.keys? table).map (·.map (·.name)) := by
  unfold keyNames? keys?
  rw [Option.map_map]
  rfl

section Entities

def entityTable (e : Entity) : Table :=
  ⟨e.name, attributeColumns e.attributes⟩

def storedKeys (e : Entity) : List String :=
  ((e.attributes.filter (!·.isDerived)).filter (·.isKey)).map (·.name)

theorem keyNames_entityTable (e : Entity) : (entityTable e).keyNames = storedKeys e := by
  simp [entityTable, attributeColumns, Table.keyNames, Table.keys, storedKeys, List.filter_map,
    Function.comp_def]

theorem key?_isSome_of_storedKeys {e : Entity} (h : storedKeys e ≠ []) : e.key?.isSome = true := by
  obtain ⟨k, hk⟩ := List.exists_mem_of_ne_nil _ h
  obtain ⟨a, ha, _⟩ := List.mem_map.1 hk
  rw [List.mem_filter, List.mem_filter] at ha
  rw [Entity.key?, List.find?_isSome]
  exact ⟨a, ha.1.1, ha.2⟩

def ofEntities (entities : List Entity) : Draft :=
  ⟨⟨entities.map entityTable⟩, [], [], []⟩

theorem names_ofEntities (entities : List Entity) :
    (ofEntities entities).schema.names = entities.map (·.name) := by
  simp [ofEntities, LogicalModel.names, entityTable]

theorem value_entityStep_ofEntities {front : List Entity} {e : Entity}
    (h : e.name ∉ front.map (·.name)) :
    (entityTables.step (ofEntities front) e) = pure (ofEntities (front ++ [e])) := by
  unfold entityTables.step
  rw [if_neg]
  . simp [ofEntities, Draft.add, LogicalModel.add, entityTable]
  . rw [LogicalModel.hasTable_iff, names_ofEntities]
    exact h

theorem entityTables_eq (h : (m.entities.map (·.name)).Nodup) :
    entityTables m .empty = pure (ofEntities m.entities) := by
  suffices hall : ∀ back front, m.entities = front ++ back →
      back.foldlM entityTables.step (ofEntities front) = pure (ofEntities m.entities) by
    exact hall m.entities [] rfl
  intro back
  induction back with
  | nil =>
    intro front hsplit
    rw [hsplit, List.append_nil]
    rfl
  | cons e back ih =>
    intro front hsplit
    rw [List.foldlM_cons, value_entityStep_ofEntities, pure_bind]
    . apply ih
      simp [hsplit]
    . rw [hsplit, List.map_append, List.nodup_append] at h
      intro hmem
      exact h.2.2 e.name hmem e.name (by simp) rfl

theorem keys?_ofEntities (name : String) :
    (ofEntities m.entities).keys? name = (m.entity? name).map fun e => (entityTable e).keys := by
  unfold Draft.keys? LogicalModel.table? ConceptualModel.entity? ofEntities
  rw [List.find?_map, Option.map_map]
  rfl

end Entities

section Relations

variable {r : Relation}

theorem keys?_relation (h : RelationStep m d r d') {name : String} (hname : name ∈ d.schema.names) :
    d'.keys? name = d.keys? name := by
  unfold Draft.keys?
  cases h with
  | skip => rfl
  | reference holder target key =>
    rw [Draft.modify, LogicalModel.table?_modify]
    . rw [Option.map_map]
      congr 1
      funext t
      simp only [Function.comp_apply]
      split
      . apply keys_extend
      . rfl
    . intro t
      apply name_extend
  | table keys =>
    obtain ⟨t, ht⟩ := Option.isSome_iff_exists.1 (LogicalModel.isSome_table?.2 hname)
    simp [Draft.represent, Draft.add, LogicalModel.table?_add, ht]

end Relations

section Groups

variable {name parent key : String} {children : List String} {table : Table}

theorem keyNames?_tablePerClass :
    (tablePerClass d parent key children).keyNames? name
      =
    (d.schema.table? name).map fun t => ((referToParent parent key)^[children.count name] t).keyNames := by
  unfold Draft.keyNames?
  rw [tablePerClass_eq, table?_modifyEach, Option.map_map]
  . rfl
  . intro t
    rfl

theorem keyNames?_singleTable (h : name ∉ children) :
    (singleTable d parent key children).keyNames? name = d.keyNames? name := by
  unfold Draft.keyNames?
  rw [table?_singleTable, if_neg h, Option.map_map]
  congr 1
  funext t
  simp only [Function.comp_apply]
  split
  . apply keyNames_foldInto
  . rfl

theorem keyNames?_tablePerSubclass (h : name ≠ table.name) :
    (tablePerSubclass d table children).keyNames? name
      =
    (d.schema.table? name).map fun t => ((inheritColumns table.columns)^[children.count name] t).keyNames := by
  unfold Draft.keyNames?
  rw [table?_tablePerSubclass, if_neg h, Option.map_map]
  rfl

end Groups

end Derivation

end SchemaDesign
