import SchemaDesign.Proofs.Document.Item
import SchemaDesign.Proofs.Validation.Logical
import SchemaDesign.Typing
import SchemaDesign.Validation.Physical

namespace SchemaDesign

open Text Document

variable {settings : Settings} {rules : List TypeRule} {m : LogicalModel} {p : Issue → Prop}

section Types

theorem isPhrase_integerType (dialect : Dialect) : IsPhrase dialect.integerType.toList := by
  cases dialect <;> decide

theorem toList_sql_text (dialect : Dialect) (textLength : Nat) :
    (TypeKind.text.sql dialect textLength).toList = "VARCHAR".toList ++ '(' :: ((toString textLength).toList ++ [')']) := by
  simp [TypeKind.sql]

theorem isPhrase_sql (kind : TypeKind) (dialect : Dialect) (textLength : Nat) :
    IsPhrase (kind.sql dialect textLength).toList := by
  cases kind with
  | text =>
    rw [toList_sql_text]
    apply (isPhrase_of_isIdentifier (isIdentifier_toString textLength)).toIsExpression.call
    decide
  | integer => exact isPhrase_integerType dialect
  | serial | reference | timestamp | date | money | float | boolean | longText | discriminator =>
    simp only [TypeKind.sql]
    decide

theorem isPhrase_plainType {sqlType : String} (h : IsPhrase sqlType.toList) (dialect : Dialect) :
    IsPhrase (plainType sqlType dialect).toList := by
  unfold plainType serialBase
  split
  . split
    . decide
    . exact isPhrase_integerType dialect
  . exact h

theorem isPhrase_settledType (l : LocatedColumn) : IsPhrase (Typing.settledType settings rules m l).toList := by
  unfold Typing.settledType
  split
  . apply isPhrase_sql
  . apply isPhrase_sql

theorem isPhrase_referringType (l : LocatedColumn) (fk : ForeignKey) :
    IsPhrase (Typing.referringType settings rules m l fk).value.toList := by
  unfold Typing.referringType
  cases m.resolve? l fk with
  | none =>
    simp only [Outcome.value_bind, Outcome.value_pure]
    apply isPhrase_plainType
    apply isPhrase_sql
  | some found =>
    apply isPhrase_plainType
    apply isPhrase_sql

end Types

section Values

theorem isPhrase_column (table : String) (c : Column) :
    IsPhrase (Typing.column settings rules m table c).value.sqlType.toList := by
  unfold Typing.column
  cases c.reference with
  | none => apply isPhrase_settledType
  | some fk => apply isPhrase_referringType

theorem toColumn_column (table : String) (c : Column) :
    (Typing.column settings rules m table c).value.toColumn
      =
    { c with reference := c.reference.map Typing.withActions } := by
  unfold Typing.column
  cases c.reference with
  | none => rfl
  | some fk => rfl

theorem value_column (table : String) (c : Column) :
    (Typing.column settings rules m table c).value
      =
    ⟨c.name, (Typing.column settings rules m table c).value.sqlType, c.isKey, c.reference.map Typing.withActions,
      Typing.constraints c⟩ := by
  unfold Typing.column
  cases c.reference with
  | none => rfl
  | some fk => rfl

theorem constraint_of_mem {c : Column} {constraint : Constraint} (h : constraint ∈ Typing.constraints c) :
    constraint = .notNull ∨ constraint = .unique := by
  unfold Typing.constraints at h
  rw [List.mem_append] at h
  cases h with
  | inl hfilled =>
    split at hfilled
    . exact Or.inl (List.mem_singleton.1 hfilled)
    . contradiction
  | inr hmail =>
    split at hmail
    . exact Or.inr (List.mem_singleton.1 hmail)
    . contradiction

theorem value_table (t : Table) :
    (Typing.table settings rules m t).value
      =
    ⟨t.name, t.columns.map fun c => (Typing.column settings rules m t.name c).value⟩ := by
  simp only [Typing.table, Outcome.value_bind, Outcome.value_pure, Outcome.value_mapM]

theorem tables_toPhysicalWith :
    (m.toPhysicalWith settings rules).value.tables
      =
    m.tables.map fun t => (Typing.table settings rules m t).value := by
  simp only [LogicalModel.toPhysicalWith, Outcome.value_bind, Outcome.value_pure, Outcome.value_mapM]

theorem toLogical_toPhysicalWith :
    (m.toPhysicalWith settings rules).value.toLogical = m.mapReferences Typing.withActions := by
  rw [PhysicalModel.toLogical, tables_toPhysicalWith, List.map_map, LogicalModel.mapReferences]
  congr 1
  apply List.map_congr_left
  intro t _
  simp only [Function.comp_apply, value_table, PhysicalTable.toTable, List.map_map, Function.comp_def,
    toColumn_column]

theorem isPhrase_sqlType : ∀ t ∈ (m.toPhysicalWith settings rules).value.tables, ∀ c ∈ t.columns,
    IsPhrase c.sqlType.toList := by
  rw [tables_toPhysicalWith, List.forall_mem_map]
  intro t _
  rw [value_table, List.forall_mem_map]
  intro c _
  apply isPhrase_column

end Values

section Reports

theorem located_of_resolved {fk : ForeignKey} (h : ∃ t, m.table? fk.table = some t ∧ fk.column ∈ t.names) :
    m.located.any (·.isAt fk.table fk.column) = true := by
  obtain ⟨t, ht, hcolumn⟩ := h
  obtain ⟨c, hc, hname⟩ := List.mem_map.1 hcolumn
  rw [List.any_eq_true]
  refine ⟨⟨t.name, c⟩, ?_, ?_⟩
  . exact List.mem_flatMap.2 ⟨t, LogicalModel.mem_of_table? ht, List.mem_map_of_mem hc⟩
  . simp [LocatedColumn.isAt, LogicalModel.name_of_table? ht, hname]

theorem reports_toPhysicalWith (h : m.Consistent) : (m.toPhysicalWith settings rules).Reports p := by
  simp only [LogicalModel.toPhysicalWith, Typing.table, Outcome.reports_bind, Outcome.reports_mapM,
    Outcome.reports_pure, and_true]
  intro t ht c hc
  unfold Typing.column
  split
  . simp only [Outcome.reports_bind, Outcome.reports_pure, and_self]
  . next fk hfk =>
    have hfk := Table.mem_references.2 ⟨c, hc, hfk⟩
    have hlocated := located_of_resolved (h.resolved fk (LogicalModel.mem_references.2 ⟨t, ht, hfk⟩))
    simp only [Typing.referringType, hlocated, Outcome.reports_bind, Outcome.reports_pure, and_true]
    split <;> simp

theorem check_toPhysicalWith (h : m.Consistent) :
    (m.toPhysicalWith settings rules).value.check.hasErrors = false := by
  have hlogical : (m.toPhysicalWith settings rules).value.toLogical.check.hasErrors = false := by
    rw [toLogical_toPhysicalWith]
    apply LogicalModel.check_of_consistent
    apply h.mapReferences
    intro fk
    exact ⟨rfl, rfl⟩
  rw [Outcome.hasErrors_eq_false_iff] at hlogical ⊢
  simp only [PhysicalModel.check, Outcome.reports_bind, Outcome.reports_each]
  refine ⟨hlogical, ?_⟩
  intro t ht c hc
  have htype := isPhrase_sqlType t ht c hc
  unfold PhysicalModel.checkColumn
  rw [trim_eq_self htype.trimmed, if_neg]
  . -- A type that does not go with the one it refers to is no error.
    split
    . simp [Issue.severity]
    . apply Outcome.reports_pure
  . simpa using htype.nonempty

end Reports

end SchemaDesign
