import SchemaDesign.Logical.Edit
import SchemaDesign.Proofs.Logical.Table

namespace SchemaDesign

def redirect (old new : String) (fk : ForeignKey) : ForeignKey :=
  if fk.table = old then { fk with table := new } else fk

section Redirect

variable {old new : String}

theorem table_redirect (fk : ForeignKey) :
    (redirect old new fk).table = if fk.table = old then new else fk.table := by
  unfold redirect
  split
  . rfl
  . rfl

@[simp]
theorem column_redirect (fk : ForeignKey) : (redirect old new fk).column = fk.column := by
  unfold redirect
  split
  . rfl
  . rfl

end Redirect

namespace Table

def mapReferences (f : ForeignKey → ForeignKey) (t : Table) : Table :=
  { t with columns := t.columns.map fun c => { c with reference := c.reference.map f } }

variable (f : ForeignKey → ForeignKey) (t : Table)

@[simp]
theorem name_mapReferences : (t.mapReferences f).name = t.name := rfl

@[simp]
theorem names_mapReferences : (t.mapReferences f).names = t.names := by
  simp [mapReferences, names]

@[simp]
theorem hasColumn_mapReferences (name : String) : (t.mapReferences f).hasColumn name = t.hasColumn name := by
  simp [mapReferences, hasColumn, Function.comp_def]

@[simp]
theorem keyNames_mapReferences : (t.mapReferences f).keyNames = t.keyNames := by
  simp [mapReferences, keyNames, keys, List.filter_map, Function.comp_def]

@[simp]
theorem references_mapReferences : (t.mapReferences f).references = t.references.map f := by
  simp only [mapReferences, references, List.filterMap_map, List.map_filterMap]
  rfl

def rename (old new : String) (t : Table) : Table :=
  if t.name = old then { t.mapReferences (redirect old new) with name := new }
  else t.mapReferences (redirect old new)

variable (old new : String)

@[simp]
theorem name_rename : (t.rename old new).name = if t.name = old then new else t.name := by
  unfold rename
  split
  . rfl
  . rfl

@[simp]
theorem names_rename : (t.rename old new).names = t.names := by
  rw [← names_mapReferences (redirect old new) t]
  unfold rename
  split
  . rfl
  . rfl

@[simp]
theorem references_rename : (t.rename old new).references = t.references.map (redirect old new) := by
  rw [← references_mapReferences]
  unfold rename
  split
  . rfl
  . rfl

end Table

namespace LogicalModel

variable {m : LogicalModel} {name : String} {fk : ForeignKey}

@[simp]
theorem names_add (t : Table) : (m.add t).names = m.names ++ [t.name] := by
  simp [add, names]

theorem table?_add (t : Table) :
    (m.add t).table? name = (m.table? name).or (if t.name = name then some t else none) := by
  simp only [add, table?, List.find?_append, List.find?_singleton, decide_eq_true_eq]

theorem mem_references_add {t : Table} :
    fk ∈ (m.add t).references ↔ fk ∈ m.references ∨ fk ∈ t.references := by
  simp [add, references, List.flatMap_append]

theorem forall_tables_add {P : Table → Prop} {t : Table} (h : ∀ u ∈ m.tables, P u) (ht : P t) :
    ∀ u ∈ (m.add t).tables, P u := by
  simp only [add, List.forall_mem_append, List.forall_mem_singleton]
  exact ⟨h, ht⟩

section Modify

variable {f : Table → Table} (hf : ∀ t, (f t).name = t.name) {target : String}

include hf in
theorem name_modified (t : Table) : (if t.name = target then f t else t).name = t.name := by
  split
  . exact hf t
  . rfl

include hf in
@[simp]
theorem names_modify : (m.modify target f).names = m.names := by
  simp only [modify, names, List.map_map]
  apply List.map_congr_left
  intro t _
  exact name_modified hf t

include hf in
theorem table?_modify :
    (m.modify target f).table? name
      =
    (m.table? name).map fun t => if name = target then f t else t := by
  simp only [modify, table?, List.find?_map, Function.comp_def, name_modified hf]
  cases hfind : m.tables.find? fun t => t.name = name with
  | none => rfl
  | some t =>
    have : t.name = name := by simpa using List.find?_some hfind
    simp [this]

end Modify

theorem mem_tables_modify {f : Table → Table} {target : String} {t : Table}
    (h : t ∈ (m.modify target f).tables) :
    t ∈ m.tables ∨ ∃ u ∈ m.tables, u.name = target ∧ t = f u := by
  simp only [modify, List.mem_map] at h
  obtain ⟨u, hu, rfl⟩ := h
  split
  . next hname => exact Or.inr ⟨u, hu, hname, rfl⟩
  . exact Or.inl hu

theorem forall_tables_modify {P : Table → Prop} {f : Table → Table} {target : String} (h : ∀ t ∈ m.tables, P t)
    (hf : ∀ t, P t → P (f t)) : ∀ t ∈ (m.modify target f).tables, P t := by
  intro t ht
  cases mem_tables_modify ht with
  | inl hold => exact h t hold
  | inr hnew =>
    obtain ⟨u, hu, _, rfl⟩ := hnew
    exact hf u (h u hu)

theorem mem_references_modify {f : Table → Table} {target : String}
    (h : fk ∈ (m.modify target f).references) :
    fk ∈ m.references ∨ ∃ t ∈ m.tables, t.name = target ∧ fk ∈ (f t).references := by
  obtain ⟨t, ht, hfk⟩ := mem_references.1 h
  cases mem_tables_modify ht with
  | inl hold => exact Or.inl (mem_references.2 ⟨t, hold, hfk⟩)
  | inr hnew =>
    obtain ⟨u, hu, hname, rfl⟩ := hnew
    exact Or.inr ⟨u, hu, hname, hfk⟩

theorem mem_references_modify_of_mem {f : Table → Table} {target : String}
    (hf : ∀ t, t.references ⊆ (f t).references) (h : fk ∈ m.references) :
    fk ∈ (m.modify target f).references := by
  obtain ⟨t, ht, hfk⟩ := mem_references.1 h
  apply mem_references.2
  refine ⟨_, List.mem_map_of_mem ht, ?_⟩
  split
  . exact hf t hfk
  . exact hfk

@[simp]
theorem names_remove (removed : List String) :
    (m.remove removed).names = m.names.filter (· ∉ removed) := by
  simp [remove, names, List.filter_map, Function.comp_def]

theorem table?_remove (removed : List String) :
    (m.remove removed).table? name = if name ∈ removed then none else m.table? name := by
  simp only [remove, table?, List.find?_filter]
  split
  . next hmem =>
    rw [List.find?_eq_none]
    grind
  . next hmem =>
    congr 1
    funext t
    grind

theorem mem_references_remove {removed : List String} (h : fk ∈ (m.remove removed).references) :
    fk ∈ m.references := by
  obtain ⟨t, ht, hfk⟩ := mem_references.1 h
  rw [remove, List.mem_filter] at ht
  exact mem_references.2 ⟨t, ht.1, hfk⟩

theorem tables_mapReferences (f : ForeignKey → ForeignKey) :
    (m.mapReferences f).tables = m.tables.map (·.mapReferences f) := rfl

theorem mapReferences_id (m : LogicalModel) : m.mapReferences id = m := by
  simp [mapReferences]

@[simp]
theorem names_mapReferences (f : ForeignKey → ForeignKey) : (m.mapReferences f).names = m.names := by
  simp [names, tables_mapReferences, Function.comp_def]

theorem table?_mapReferences (f : ForeignKey → ForeignKey) :
    (m.mapReferences f).table? name = (m.table? name).map (·.mapReferences f) := by
  unfold table?
  rw [tables_mapReferences, List.find?_map]
  rfl

@[simp]
theorem references_mapReferences (f : ForeignKey → ForeignKey) :
    (m.mapReferences f).references = m.references.map f := by
  simp [references, tables_mapReferences, List.map_flatMap, List.flatMap_map]

section Rename

variable {old new : String}

theorem tables_rename : (m.rename old new).tables = m.tables.map (·.rename old new) := by
  simp only [rename, modify, mapReferences, List.map_map]
  rfl

theorem names_rename : (m.rename old new).names = m.names.map fun n => if n = old then new else n := by
  simp [names, tables_rename, Function.comp_def]

theorem mem_names_rename :
    name ∈ (m.rename old new).names
      ↔
    (name ∈ m.names ∧ name ≠ old) ∨ (old ∈ m.names ∧ name = new) := by
  rw [names_rename]
  grind

theorem table?_rename_of_ne (hold : name ≠ old) (hnew : name ≠ new) :
    (m.rename old new).table? name = (m.table? name).map (·.mapReferences (redirect old new)) := by
  unfold table?
  rw [tables_rename, List.find?_map]
  have hsame : (fun t : Table => decide (t.name = name)) ∘ Table.rename old new
      = fun t => decide (t.name = name) := by
    funext t
    simp only [Function.comp_apply, Table.name_rename]
    grind
  rw [hsame]
  cases hfind : m.tables.find? fun t => t.name = name with
  | none => rfl
  | some t =>
    have : t.name = name := by simpa using List.find?_some hfind
    simp only [Option.map_some, Table.rename]
    rw [if_neg]
    rwa [this]

theorem table?_rename_self (hfree : new ∉ m.names) :
    (m.rename old new).table? new = (m.table? old).map (·.rename old new) := by
  unfold table?
  rw [tables_rename, List.find?_map, ← List.head?_filter, ← List.head?_filter]
  congr 2
  apply List.filter_congr
  intro t ht
  -- No other table has the new name.
  have hother : t.name ≠ new := by
    intro heq
    rw [← heq] at hfree
    exact hfree (List.mem_map_of_mem ht)
  simp only [Function.comp_apply, Table.name_rename]
  grind

theorem references_rename : (m.rename old new).references = m.references.map (redirect old new) := by
  simp [references, tables_rename, List.map_flatMap, List.flatMap_map]

end Rename

end LogicalModel

end SchemaDesign
