import Mathlib.Logic.Function.Iterate
import SchemaDesign.Proofs.Derivation.Step

namespace SchemaDesign.Derivation

section ModifyEach

def modifyEach (f : Table → Table) (d : Draft) (names : List String) : Draft :=
  names.foldl (fun d name => d.modify name f) d

variable {f : Table → Table} {d : Draft} {names : List String}

theorem modifyEach_cons (name : String) :
    modifyEach f d (name :: names) = modifyEach f (d.modify name f) names := rfl

@[simp]
theorem folded_modifyEach : (modifyEach f d names).folded = d.folded := by
  induction names generalizing d with
  | nil => rfl
  | cons name names ih =>
    rw [modifyEach_cons, ih]
    rfl

@[simp]
theorem dissolved_modifyEach : (modifyEach f d names).dissolved = d.dissolved := by
  induction names generalizing d with
  | nil => rfl
  | cons name names ih =>
    rw [modifyEach_cons, ih]
    rfl

@[simp]
theorem relationTables_modifyEach : (modifyEach f d names).relationTables = d.relationTables := by
  induction names generalizing d with
  | nil => rfl
  | cons name names ih =>
    rw [modifyEach_cons, ih]
    rfl

variable (hf : ∀ t, (f t).name = t.name)

include hf in
theorem names_modifyEach : (modifyEach f d names).schema.names = d.schema.names := by
  induction names generalizing d with
  | nil => rfl
  | cons name names ih =>
    rw [modifyEach_cons, ih]
    exact LogicalModel.names_modify hf

include hf in
theorem table?_modifyEach (name : String) :
    (modifyEach f d names).schema.table? name
      =
    (d.schema.table? name).map f^[names.count name] := by
  induction names generalizing d with
  | nil => simp [modifyEach]
  | cons first names ih =>
    rw [modifyEach_cons, ih]
    simp only [Draft.modify, LogicalModel.table?_modify hf, Option.map_map, List.count_cons]
    congr 1
    funext t
    by_cases h : name = first
    . simp [h]
    . simp [h, Ne.symm h]

theorem forall_tables_modifyEach {P : Table → Prop} (hd : ∀ t ∈ d.schema.tables, P t)
    (hmodified : ∀ t, P t → P (f t)) : ∀ t ∈ (modifyEach f d names).schema.tables, P t := by
  induction names generalizing d with
  | nil => exact hd
  | cons name names ih =>
    rw [modifyEach_cons]
    apply ih
    exact LogicalModel.forall_tables_modify hd hmodified

theorem references_modifyEach {P : ForeignKey → Prop} (hd : ∀ fk ∈ d.schema.references, P fk)
    (hmodified : ∀ t, (∀ fk ∈ t.references, P fk) → ∀ fk ∈ (f t).references, P fk) :
    ∀ fk ∈ (modifyEach f d names).schema.references, P fk := by
  induction names generalizing d with
  | nil => exact hd
  | cons name names ih =>
    rw [modifyEach_cons]
    apply ih
    intro fk hfk
    cases LogicalModel.mem_references_modify hfk with
    | inl hold => exact hd fk hold
    | inr hnew =>
      obtain ⟨t, ht, _, hfk⟩ := hnew
      apply hmodified t _ fk hfk
      intro fk' hfk'
      exact hd fk' (LogicalModel.mem_references.2 ⟨t, ht, hfk'⟩)

end ModifyEach

variable {d : Draft} {parent key : String} {children : List String}

theorem tablePerClass_eq :
    tablePerClass d parent key children = modifyEach (referToParent parent key) d children := rfl

section SingleTable

@[simp]
theorem names_singleTable :
    (singleTable d parent key children).schema.names = d.schema.names.filter (· ∉ children) := by
  simp only [singleTable, LogicalModel.names_remove]
  rw [Draft.modify, LogicalModel.names_modify]
  intro t
  exact (foldInto_grows _ t).name_eq

theorem folded_singleTable :
    (singleTable d parent key children).folded
      =
    children.map (fun child => (child, (parent, key))) ++ d.folded := rfl

@[simp]
theorem dissolved_singleTable : (singleTable d parent key children).dissolved = d.dissolved := rfl

theorem table?_singleTable (name : String) :
    (singleTable d parent key children).schema.table? name
      =
    if name ∈ children then none
    else (d.schema.table? name).map fun t =>
      if name = parent then foldInto (children.filterMap d.schema.table?) t else t := by
  simp only [singleTable, LogicalModel.table?_remove]
  rw [Draft.modify, LogicalModel.table?_modify]
  intro t
  exact (foldInto_grows _ t).name_eq

theorem mem_references_singleTable {fk : ForeignKey}
    (h : fk ∈ (singleTable d parent key children).schema.references) : fk ∈ d.schema.references := by
  -- The columns that are folded in bring their references along.
  have hmodified := LogicalModel.mem_references_remove h
  cases LogicalModel.mem_references_modify hmodified with
  | inl hold => exact hold
  | inr hnew =>
    obtain ⟨t, ht, _, hfk⟩ := hnew
    cases (foldInto_grows _ t).mem_references hfk with
    | inl hold => exact LogicalModel.mem_references.2 ⟨t, ht, hold⟩
    | inr hchild =>
      obtain ⟨c, ⟨_, hplain | ⟨u, hu, hc⟩⟩, href⟩ := hchild
      . simp [hplain] at href
      . obtain ⟨child, _, hchild⟩ := List.mem_filterMap.1 hu
        apply LogicalModel.mem_references.2
        exact ⟨u, LogicalModel.mem_of_table? hchild, Table.mem_references.2 ⟨c, hc, href⟩⟩

end SingleTable

section TablePerSubclass

variable {table : Table}

theorem inheritColumns_inheritColumns (inherited : List Column) (t : Table) :
    inheritColumns inherited (inheritColumns inherited t) = inheritColumns inherited t := by
  have hnone : (inherited.filter fun c => !inherited.any (·.name = c.name)) = [] := by
    rw [List.filter_eq_nil_iff]
    intro c hc
    simp only [Bool.not_eq_true', Bool.not_eq_false, List.any_eq_true]
    exact ⟨c, hc, decide_eq_true rfl⟩
  simp only [inheritColumns, List.filter_append, hnone, List.nil_append, List.filter_filter, Bool.and_self]

theorem iterate_inheritColumns {n : Nat} (hn : n ≠ 0) (inherited : List Column) (t : Table) :
    (inheritColumns inherited)^[n] t = inheritColumns inherited t := by
  obtain ⟨k, rfl⟩ := Nat.exists_eq_succ_of_ne_zero hn
  rw [Function.iterate_succ_apply]
  exact Function.iterate_fixed (inheritColumns_inheritColumns inherited t) k

theorem tablePerSubclass_eq :
    tablePerSubclass d table children
      =
    { modifyEach (inheritColumns table.columns) d children with
      schema := (modifyEach (inheritColumns table.columns) d children).schema.remove [table.name]
      dissolved := table.name :: d.dissolved } := by
  have hdissolved : (modifyEach (inheritColumns table.columns) d children).dissolved = d.dissolved :=
    dissolved_modifyEach
  rw [← hdissolved]
  rfl

@[simp]
theorem names_tablePerSubclass :
    (tablePerSubclass d table children).schema.names = d.schema.names.filter (· ≠ table.name) := by
  rw [tablePerSubclass_eq]
  simp only [LogicalModel.names_remove, List.mem_singleton]
  rw [names_modifyEach]
  intro t
  rfl

@[simp]
theorem folded_tablePerSubclass : (tablePerSubclass d table children).folded = d.folded := by
  rw [tablePerSubclass_eq]
  apply folded_modifyEach

@[simp]
theorem dissolved_tablePerSubclass :
    (tablePerSubclass d table children).dissolved = table.name :: d.dissolved := by
  rw [tablePerSubclass_eq]

@[simp]
theorem relationTables_tablePerSubclass :
    (tablePerSubclass d table children).relationTables = d.relationTables := by
  rw [tablePerSubclass_eq]
  apply relationTables_modifyEach

theorem table?_tablePerSubclass (name : String) :
    (tablePerSubclass d table children).schema.table? name
      =
    if name = table.name then none
    else (d.schema.table? name).map (inheritColumns table.columns)^[children.count name] := by
  rw [tablePerSubclass_eq]
  simp only [LogicalModel.table?_remove, List.mem_singleton]
  rw [table?_modifyEach]
  intro t
  rfl

theorem mem_references_tablePerSubclass (hparent : table ∈ d.schema.tables) {fk : ForeignKey}
    (h : fk ∈ (tablePerSubclass d table children).schema.references) : fk ∈ d.schema.references := by
  -- A copy of a parent refers to what the parent refers to.
  rw [tablePerSubclass_eq] at h
  apply references_modifyEach _ _ fk (LogicalModel.mem_references_remove h)
  . intro fk hfk
    exact hfk
  . intro t ht fk hfk
    cases mem_references_inheritColumns hfk with
    | inl hold => exact LogicalModel.mem_references.2 ⟨table, hparent, hold⟩
    | inr hown => exact ht fk hown

end TablePerSubclass

theorem mem_references_tablePerClass {fk : ForeignKey}
    (h : fk ∈ (tablePerClass d parent key children).schema.references) :
    fk ∈ d.schema.references ∨ (fk.table = parent ∧ fk.column = key) := by
  rw [tablePerClass_eq] at h
  apply references_modifyEach _ _ fk h
  . intro fk hfk
    exact Or.inl hfk
  . intro t ht fk hfk
    cases mem_references_referToParent hfk with
    | inl hold => exact ht fk hold
    | inr hnew => exact Or.inr hnew

section Step

variable {settings : Settings} {g : Inheritance} {table : Table}

theorem mem_references_flatten (hparent : d.schema.table? g.parent = some table) {fk : ForeignKey}
    (h : fk ∈ (flatten settings d g table key children).schema.references) :
    fk ∈ d.schema.references ∨ (fk.table = g.parent ∧ fk.column = key) := by
  unfold flatten at h
  split at h
  . exact mem_references_tablePerClass h
  . exact Or.inl (mem_references_singleTable h)
  . exact Or.inl (mem_references_tablePerSubclass (LogicalModel.mem_of_table? hparent) h)

theorem mem_folded_flatten {entry : String × String × String}
    (h : entry ∈ (flatten settings d g table key children).folded) :
    entry ∈ d.folded ∨ entry.2 = (g.parent, key) := by
  unfold flatten at h
  split at h
  . rw [tablePerClass_eq, folded_modifyEach] at h
    exact Or.inl h
  . rw [folded_singleTable, List.mem_append, List.mem_map] at h
    rcases h with ⟨child, _, rfl⟩ | hold
    . exact Or.inr rfl
    . exact Or.inl hold
  . rw [folded_tablePerSubclass] at h
    exact Or.inl h

variable {P : String → String → Prop} (hkey : P g.parent key)

include hkey in
theorem references_flatten (hparent : d.schema.table? g.parent = some table)
    (hd : ∀ fk ∈ d.schema.references, P fk.table fk.column) :
    ∀ fk ∈ (flatten settings d g table key children).schema.references, P fk.table fk.column := by
  intro fk hfk
  cases mem_references_flatten hparent hfk with
  | inl hold => exact hd fk hold
  | inr hnew =>
    rw [hnew.1, hnew.2]
    exact hkey

include hkey in
theorem folded_flatten (hd : ∀ entry ∈ d.folded, P entry.2.1 entry.2.2) :
    ∀ entry ∈ (flatten settings d g table key children).folded, P entry.2.1 entry.2.2 := by
  intro entry hentry
  cases mem_folded_flatten hentry with
  | inl hold => exact hd entry hold
  | inr hnew =>
    rw [hnew]
    exact hkey

end Step

end SchemaDesign.Derivation
