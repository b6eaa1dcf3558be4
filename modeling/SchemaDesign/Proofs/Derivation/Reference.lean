import SchemaDesign.Proofs.Derivation.Flatten

namespace SchemaDesign.Derivation

variable {m : ConceptualModel} {settings : Settings} {d d' : Draft} {fk : ForeignKey}

def Placeable (m : ConceptualModel) (d : Draft) (fk : ForeignKey) : Prop :=
  fk.table ∈ d.schema.names ∧ m.keyName? fk.table = some fk.column

theorem placeable_of_keyedTable {ps : List Participant} {keys : List (Participant × String)}
    {name : String} (hkeys : HasKeys m d ps keys) (h : fk ∈ (keyedTable name keys).references) :
    Placeable m d fk := by
  obtain ⟨entry, hentry, htable, hcolumn⟩ := mem_references_keyedTable h
  unfold Placeable
  rw [htable, hcolumn]
  exact ⟨LogicalModel.hasTable_iff.1 (hkeys.table entry hentry), hkeys.key entry hentry⟩

section Entity

variable {e : Entity}

theorem value_entityStep :
    (entityTables.step d e).value
      =
    if d.schema.hasTable e.name then d else d.add ⟨e.name, attributeColumns e.attributes⟩ := by
  unfold entityTables.step
  split
  . rfl
  . rfl

theorem references_attributeColumns (attributes : List Attribute) (name : String) :
    Table.references ⟨name, attributeColumns attributes⟩ = [] := by
  simp [Table.references, attributeColumns]

theorem references_entityStep :
    (entityTables.step d e).value.schema.references = d.schema.references := by
  rw [value_entityStep]
  split
  . rfl
  . simp [Draft.add, LogicalModel.add, LogicalModel.references, references_attributeColumns]

end Entity

section Relation

variable {r : Relation}

theorem mem_references_relation (h : RelationStep m d r d') (hfk : fk ∈ d'.schema.references) :
    fk ∈ d.schema.references ∨ Placeable m d fk := by
  cases h with
  | skip => exact Or.inl hfk
  | reference holder target key _ htarget hkey _ =>
    cases LogicalModel.mem_references_modify hfk with
    | inl hold => exact Or.inl hold
    | inr hnew =>
      obtain ⟨t, ht, _, hfk⟩ := hnew
      cases mem_references_extend hfk with
      | inl hold => exact Or.inl (LogicalModel.mem_references.2 ⟨t, ht, hold⟩)
      | inr hplaced =>
        apply Or.inr
        unfold Placeable
        rw [hplaced.1, hplaced.2]
        exact ⟨LogicalModel.hasTable_iff.1 htarget, hkey⟩
  | table keys _ _ hkeys =>
    simp only [Draft.represent, Draft.add, LogicalModel.mem_references_add] at hfk
    cases hfk with
    | inl hold => exact Or.inl hold
    | inr hnew => exact Or.inr (placeable_of_keyedTable hkeys (mem_references_appendAttributes hnew))

theorem folded_relation (h : RelationStep m d r d') : d'.folded = d.folded := by
  cases h with
  | skip => rfl
  | reference => rfl
  | table => rfl

theorem dissolved_relation (h : RelationStep m d r d') : d'.dissolved = d.dissolved := by
  cases h with
  | skip => rfl
  | reference => rfl
  | table => rfl

theorem names_relation (h : RelationStep m d r d') :
    d'.schema.names = d.schema.names
      ∨ (d'.schema.names = d.schema.names ++ [r.name] ∧ r.name ∉ d.schema.names) := by
  cases h with
  | skip => exact Or.inl rfl
  | reference holder target key =>
    apply Or.inl
    apply LogicalModel.names_modify
    intro t
    apply name_extend
  | table keys _ hfree =>
    apply Or.inr
    constructor
    . simp [Draft.represent, Draft.add]
    . rwa [← LogicalModel.hasTable_eq_false_iff]

end Relation

section Associative

variable {a : AssociativeEntity} {table : String}

@[simp]
theorem names_describe : (describe d a table).schema.names = d.schema.names := by
  apply LogicalModel.names_modify
  intro t
  apply name_appendAttributes

theorem mem_references_describe (h : fk ∈ (describe d a table).schema.references) :
    fk ∈ d.schema.references := by
  cases LogicalModel.mem_references_modify h with
  | inl hold => exact hold
  | inr hnew =>
    obtain ⟨t, ht, _, hfk⟩ := hnew
    exact LogicalModel.mem_references.2 ⟨t, ht, mem_references_appendAttributes hfk⟩

theorem mem_references_associative (h : AssociativeStep m d a d') (hfk : fk ∈ d'.schema.references) :
    fk ∈ d.schema.references
      ∨ (∃ table old, d.tableOf? a.relation = some table ∧ d.schema.hasTable a.name = false
          ∧ old ∈ d.schema.references ∧ fk = redirect table a.name old)
      ∨ Placeable m d fk := by
  cases h with
  | skip => exact Or.inl hfk
  | keep table => exact Or.inl (mem_references_describe hfk)
  | rename table htable hfree =>
    have hrenamed := mem_references_describe hfk
    simp only [LogicalModel.references_rename, List.mem_map] at hrenamed
    obtain ⟨old, hold, rfl⟩ := hrenamed
    exact Or.inr (Or.inl ⟨table, old, htable, hfree, hold, rfl⟩)
  | add r keys _ _ _ hkeys =>
    have hadded := mem_references_describe hfk
    simp only [Draft.add, LogicalModel.mem_references_add] at hadded
    cases hadded with
    | inl hold => exact Or.inl hold
    | inr hnew => exact Or.inr (Or.inr (placeable_of_keyedTable hkeys hnew))

theorem folded_associative (h : AssociativeStep m d a d') : d'.folded = d.folded := by
  cases h with
  | skip => rfl
  | keep => rfl
  | rename => rfl
  | add => rfl

theorem dissolved_associative (h : AssociativeStep m d a d') : d'.dissolved = d.dissolved := by
  cases h with
  | skip => rfl
  | keep => rfl
  | rename => rfl
  | add => rfl

end Associative

end SchemaDesign.Derivation
