import SchemaDesign.Logical.Basic

namespace SchemaDesign

namespace Column

@[simp]
theorem name_referring (name table column : String) : (referring name table column).name = name := rfl

@[simp]
theorem name_keyReferring (name table column : String) :
    (keyReferring name table column).name = name := rfl

end Column

namespace Table

def names (t : Table) : List String :=
  t.columns.map (·.name)

def keyNames (t : Table) : List String :=
  t.keys.map (·.name)

variable {t : Table} {name : String}

theorem hasColumn_iff : t.hasColumn name = true ↔ name ∈ t.names := by
  simp [hasColumn, names]

theorem hasColumn_eq_false_iff : t.hasColumn name = false ↔ name ∉ t.names := by
  rw [← hasColumn_iff]
  simp

theorem mem_references {fk : ForeignKey} :
    fk ∈ t.references ↔ ∃ c ∈ t.columns, c.reference = some fk := by
  simp [references]

theorem mem_keyNames : name ∈ t.keyNames ↔ ∃ c ∈ t.columns, c.isKey = true ∧ c.name = name := by
  simp [keyNames, keys, and_assoc]

theorem keyNames_sublist (t : Table) : t.keyNames.Sublist t.names := by
  unfold keyNames keys names
  exact List.filter_sublist.map _

theorem keyNames_ne_nil_of_head? {c : Column} (h : t.keys.head? = some c) : t.keyNames ≠ [] := by
  unfold keyNames
  intro hnil
  rw [List.map_eq_nil_iff] at hnil
  simp [hnil] at h

@[simp]
theorem name_append (t : Table) (c : Column) : (t.append c).name = t.name := rfl

@[simp]
theorem names_append (t : Table) (c : Column) : (t.append c).names = t.names ++ [c.name] := by
  simp [append, names]

@[simp]
theorem references_append (t : Table) (c : Column) :
    (t.append c).references = t.references ++ c.reference.toList := by
  simp only [append, references, List.filterMap_append, List.filterMap_cons, List.filterMap_nil]
  cases c.reference with
  | none => rfl
  | some fk => rfl

theorem mem_references_append_self {c : Column} {fk : ForeignKey} (h : c.reference = some fk) :
    fk ∈ (t.append c).references := by
  simp [h]

end Table

namespace LogicalModel

def names (m : LogicalModel) : List String :=
  m.tables.map (·.name)

def references (m : LogicalModel) : List ForeignKey :=
  m.tables.flatMap (·.references)

variable {m : LogicalModel} {name : String}

theorem hasTable_iff : m.hasTable name = true ↔ name ∈ m.names := by
  simp [hasTable, names]

theorem hasTable_eq_false_iff : m.hasTable name = false ↔ name ∉ m.names := by
  rw [← hasTable_iff]
  simp

theorem isSome_table? : (m.table? name).isSome = true ↔ name ∈ m.names := by
  simp [table?, names]

theorem table?_eq_none_iff : m.table? name = none ↔ name ∉ m.names := by
  rw [← isSome_table?]
  simp

theorem name_of_table? {t : Table} (h : m.table? name = some t) : t.name = name := by
  simpa using List.find?_some h

theorem mem_of_table? {t : Table} (h : m.table? name = some t) : t ∈ m.tables :=
  List.mem_of_find?_eq_some h

theorem mem_names_of_table? {t : Table} (h : m.table? name = some t) : name ∈ m.names := by
  rw [← isSome_table?, h]
  rfl

theorem mem_references {fk : ForeignKey} :
    fk ∈ m.references ↔ ∃ t ∈ m.tables, fk ∈ t.references := by
  simp [references]

end LogicalModel

end SchemaDesign
