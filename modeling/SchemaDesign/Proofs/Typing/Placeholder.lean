import SchemaDesign.Proofs.Ddl.Order
import SchemaDesign.Proofs.Typing.Counting

/-!
This module contains which columns of a typed model have a placeholder for their type. The name rules give it to the
keys that bear the name of an identifier, and no reference takes it over. A script decides anew which columns count up,
from their types and their names, and comes to the same columns in every dialect.
-/

namespace SchemaDesign

open LogicalModel

def PhysicalModel.placeholders (m : PhysicalModel) : List (String × String) :=
  m.tables.flatMap fun t => (t.columns.filter (isSerial ·.sqlType)).map fun c => (t.name, c.name)

section Columns

variable {settings : Settings} {m : LogicalModel} {l : LocatedColumn}

theorem firstWord_mapType {d : Dialect} {kind : TypeKind} (h : d.usesBackticks = true ∨ kind ≠ .serial)
    (dialect : Dialect) (textLength : Nat) :
    Dialect.firstWord (d.mapType (kind.sql dialect textLength)).toList ∉ Dialect.serialTypes := by
  cases kind with
  | text =>
    have hword : ∀ cs, Dialect.firstWord ('V' :: cs) ∉ Dialect.serialTypes := by
      intro cs hmem
      have hserial : ∀ word ∈ Dialect.serialTypes, word.head? ≠ some 'V' := by decide
      exact hserial _ hmem rfl
    rw [mapType_text, toList_sql_text]
    exact hword _
  | integer | serial | reference | timestamp | date | money | float | boolean | longText | discriminator =>
    simp only [TypeKind.sql]
    revert h
    cases d <;> cases dialect <;> decide

theorem legible_column (d : Dialect) (hdistinct : m.HasDistinctColumns) (hl : l ∈ m.located) :
    d.Legible (Typing.column settings TypeRule.standard m l.table l.column).value := by
  obtain ⟨kind, hkind⟩ : ∃ kind : TypeKind, (Typing.column settings TypeRule.standard m l.table l.column).value.sqlType
      = kind.sql settings.dialect settings.textLength := exists_kind_column l.table l.column
  refine ⟨isTidy_column d l.table l.column, ?_⟩
  rw [PhysicalColumn.dialectType]
  split
  . next hcounting =>
    apply iff_of_true _ hcounting
    split <;> decide
  . next hcounting =>
    apply iff_of_false _ hcounting
    rw [hkind]
    apply firstWord_mapType
    by_contra hserial
    simp only [not_or, Bool.not_eq_true, ne_eq, not_not] at hserial
    obtain ⟨hd, rfl⟩ := hserial
    apply hcounting
    rw [isCounting_column hdistinct hl, ← isSerial_column hdistinct hl, hkind, hd, TypeKind.sql]
    decide

end Columns

section Model

variable {settings : Settings} {m : LogicalModel}

theorem exists_located {t : PhysicalTable} {c : PhysicalColumn} (ht : t ∈ (m.toPhysical settings).value.tables)
    (hc : c ∈ t.columns) :
    ∃ l ∈ m.located, c = (Typing.column settings TypeRule.standard m l.table l.column).value := by
  rw [toPhysical, tables_toPhysicalWith] at ht
  obtain ⟨u, hu, rfl⟩ := List.mem_map.1 ht
  rw [value_table] at hc
  obtain ⟨column, hcolumn, rfl⟩ := List.mem_map.1 hc
  exact ⟨⟨u.name, column⟩, List.mem_flatMap.2 ⟨u, hu, List.mem_map_of_mem hcolumn⟩, rfl⟩

theorem countingColumns_toPhysical (m : LogicalModel) (hdistinct : m.HasDistinctColumns) (settings : Settings)
    (d : Dialect) :
    let physical := (m.toPhysical settings).value
    (∀ t ∈ physical.tables, ∀ c ∈ t.columns,
      isSerial c.sqlType = true
        ↔
      c.isKey = true ∧ c.reference = none ∧ (ColumnFacts.of c.name c.isKey).isIdName = true)
    ∧ (d.countingColumns (physical.sql d)).Perm physical.placeholders := by
  intro physical
  have horder : physical.dependencyOrder.Perm physical.tables := physical.perm_dependencyOrder
  refine ⟨?_, ?_⟩
  . intro t ht c hc
    obtain ⟨l, hl, rfl⟩ := exists_located ht hc
    rw [isSerial_column hdistinct hl, reference_column, name_column, isKey_column, Column.isIdentifier, Column.isOwnKey,
      Bool.and_eq_true, Bool.and_eq_true, and_assoc, Option.isNone_iff_eq_none, Option.map_eq_none_iff]
    rfl
  . rw [Dialect.countingColumns_sql]
    . apply horder.flatMap
      intro t ht
      apply List.Perm.of_eq
      congr 1
      apply List.filter_congr
      intro c hc
      obtain ⟨l, hl, rfl⟩ := exists_located (horder.mem_iff.1 ht) hc
      rw [isCounting_column hdistinct hl, isSerial_column hdistinct hl]
    . intro t ht c hc
      obtain ⟨l, hl, rfl⟩ := exists_located (horder.mem_iff.1 ht) hc
      exact legible_column d hdistinct hl

def mixedKeys : LogicalModel :=
  ⟨[⟨"two\n\"lines",
      [⟨"id\",\n", true, none⟩, ⟨"line\n_id", true, none⟩, ⟨"nb_seats", true, none⟩, ⟨"owner_id", false, none⟩]⟩,
    ⟨"Seat", [.keyReferring "id_seat" "Row" "idRow", ⟨"label", true, none⟩]⟩,
    ⟨"Row", [⟨"idRow", true, none⟩]⟩,
    ⟨"Row", [.keyReferring "id_row" "Ghost" "id", ⟨"seat\x60_id", true, none⟩]⟩]⟩

theorem countingColumns_toPhysical_mixedKeys :
    let settings : Settings := { Settings.standard with dialect := .postgresql }
    let physical := (mixedKeys.toPhysical settings).value
    let counting := [("two\n\"lines", "line\n_id"), ("Row", "idRow"), ("Row", "seat\x60_id")]
    mixedKeys.HasDistinctColumns
    ∧ (Dialect.postgresql.countingColumns (physical.sql .postgresql)).Perm counting
    ∧ (Dialect.mysql.countingColumns (physical.sql .mysql)).Perm counting := by
  intro settings physical counting
  have hdistinct : mixedKeys.HasDistinctColumns := by decide
  have hplaceholders : physical.placeholders = counting := by decide +kernel
  have hcounting := fun d => (countingColumns_toPhysical mixedKeys hdistinct settings d).2
  refine ⟨hdistinct, ?_, ?_⟩
  . rw [← hplaceholders]
    exact hcounting .postgresql
  . rw [← hplaceholders]
    exact hcounting .mysql

end Model

end SchemaDesign
