import SchemaDesign.Ddl.Script
import SchemaDesign.Proofs.Typing

/-!
This module contains that a script does not tell in which dialect its model was typed. The dialects only differ in how
they spell an integer column, and the script of each dialect spells such a column in its own way again.
-/

namespace SchemaDesign

open Text

section MapColumns

variable (f : PhysicalColumn → PhysicalColumn)

def PhysicalTable.mapColumns (t : PhysicalTable) : PhysicalTable :=
  { t with columns := t.columns.map f }

def PhysicalModel.mapColumns (m : PhysicalModel) : PhysicalModel :=
  ⟨m.tables.map (·.mapColumns f)⟩

structure KeepsDefinition (d : Dialect) : Prop where
  toColumn : ∀ c, (f c).toColumn = c.toColumn
  columnTail : ∀ c, d.columnTail (f c) = d.columnTail c

variable {f}

section Order

variable (hf : ∀ c, (f c).toColumn = c.toColumn) {m : PhysicalModel}

include hf

theorem PhysicalTable.toTable_mapColumns (t : PhysicalTable) : (t.mapColumns f).toTable = t.toTable := by
  simp only [toTable, mapColumns, List.map_map, Function.comp_def, hf]

namespace PhysicalModel

theorem parents_mapColumns (name : String) : (m.mapColumns f).parents name = m.parents name := by
  unfold parents mapColumns
  rw [← List.map_reverse, List.find?_map]
  simp only [List.any_map, Function.comp_def, PhysicalTable.mapColumns]
  cases m.tables.reverse.find? fun t => t.name = name with
  | none => rfl
  | some t =>
    have htable := t.toTable_mapColumns hf
    unfold PhysicalTable.mapColumns at htable
    simp only [Option.map_some, htable]

theorem isReady_mapColumns (created : List String) (t : PhysicalTable) :
    (m.mapColumns f).isReady created (t.mapColumns f) = m.isReady created t := by
  unfold isReady
  rw [parents_mapColumns hf]
  rfl

theorem ready_mapColumns (created : List String) (ts : List PhysicalTable) :
    (m.mapColumns f).ready created (ts.map (·.mapColumns f)) = (m.ready created ts).map (·.mapColumns f) := by
  simp only [ready, List.filter_map, Function.comp_def, isReady_mapColumns hf]

theorem waiting_mapColumns (created : List String) (ts : List PhysicalTable) :
    (m.mapColumns f).waiting created (ts.map (·.mapColumns f)) = (m.waiting created ts).map (·.mapColumns f) := by
  simp only [waiting, List.filter_map, Function.comp_def, isReady_mapColumns hf]

theorem createRounds_mapColumns (created : List String) (remaining : List PhysicalTable) :
    (m.mapColumns f).createRounds created (remaining.map (·.mapColumns f))
      =
    (m.createRounds created remaining).map (·.mapColumns f) := by
  have hready := m.ready_mapColumns hf created remaining
  fun_induction m.createRounds created remaining with
  | case1 created remaining hnone =>
    rw [hnone, List.map_nil] at hready
    unfold createRounds
    split
    . rfl
    . next hsome => simp [hready] at hsome
  | case2 created remaining t ts hsome ih =>
    rw [hsome, List.map_cons] at hready
    rw [createRounds]
    split
    . next hnone => simp [hready] at hnone
    . next u us hus =>
      obtain ⟨rfl, rfl⟩ := List.cons.inj (hus.symm.trans hready)
      have hnames : (ts.map (·.mapColumns f)).map (·.name) = ts.map (·.name) := by
        rw [List.map_map]
        rfl
      have hrest := ih (m.ready_mapColumns hf _ _)
      rw [List.map_append, ← hrest, waiting_mapColumns hf]
      simp only [List.map_cons, hnames]
      rfl

theorem dependencyOrder_mapColumns :
    (m.mapColumns f).dependencyOrder = m.dependencyOrder.map (·.mapColumns f) :=
  m.createRounds_mapColumns hf [] m.tables

end PhysicalModel

end Order

section Script

variable {d : Dialect} (hf : KeepsDefinition f d)

include hf

theorem KeepsDefinition.name (c : PhysicalColumn) : (f c).name = c.name :=
  congrArg Column.name (hf.toColumn c)

theorem KeepsDefinition.isKey (c : PhysicalColumn) : (f c).isKey = c.isKey :=
  congrArg Column.isKey (hf.toColumn c)

theorem KeepsDefinition.reference (c : PhysicalColumn) : (f c).reference = c.reference :=
  congrArg Column.reference (hf.toColumn c)

theorem Dialect.columnLine_mapColumns (width : Nat) (c : PhysicalColumn) :
    d.columnLine width (f c) = d.columnLine width c := by
  simp only [columnLine, hf.name, hf.columnTail]

theorem Dialect.primaryKeyLines_mapColumns (t : PhysicalTable) :
    d.primaryKeyLines (t.mapColumns f) = d.primaryKeyLines t := by
  simp only [primaryKeyLines, PhysicalTable.mapColumns, List.filter_map, Function.comp_def, hf.isKey]
  cases t.columns.filter (·.isKey) with
  | nil => rfl
  | cons c cs => simp only [List.map_cons, List.map_map, Function.comp_def, hf.name]

theorem Dialect.foreignKeyLines_mapColumns (t : PhysicalTable) :
    d.foreignKeyLines (t.mapColumns f) = d.foreignKeyLines t := by
  unfold foreignKeyLines PhysicalTable.mapColumns
  rw [List.filterMap_map]
  congr 1
  funext c
  rw [Function.comp_apply, hf.name, hf.reference]

theorem Dialect.createTable_mapColumns (t : PhysicalTable) : d.createTable (t.mapColumns f) = d.createTable t := by
  have hwidths : ((t.mapColumns f).columns.map fun c => displayWidth (d.quote c.name).toList)
      = t.columns.map fun c => displayWidth (d.quote c.name).toList := by
    simp only [PhysicalTable.mapColumns, List.map_map, Function.comp_def, hf.name]
  have hlines : ∀ width, (t.mapColumns f).columns.map (d.columnLine width) = t.columns.map (d.columnLine width) := by
    intro width
    simp only [PhysicalTable.mapColumns, List.map_map, Function.comp_def, columnLine_mapColumns hf]
  have hname : (t.mapColumns f).name = t.name := rfl
  unfold createTable
  dsimp only
  rw [hwidths, hlines, hname, primaryKeyLines_mapColumns hf, foreignKeyLines_mapColumns hf]

theorem PhysicalModel.sql_mapColumns (m : PhysicalModel) : (m.mapColumns f).sql d = m.sql d := by
  have htables : (m.mapColumns f).dependencyOrder.map (fun t => "\n" ++ d.createTable t ++ "\n")
      = m.dependencyOrder.map fun t => "\n" ++ d.createTable t ++ "\n" := by
    rw [dependencyOrder_mapColumns hf.toColumn, List.map_map]
    apply List.map_congr_left
    intro t _
    rw [Function.comp_apply, Dialect.createTable_mapColumns hf]
  unfold sql
  rw [htables]

end Script

end MapColumns

section Respelled

def respell (sqlType : String) : String :=
  if sqlType = "INTEGER" then "INT" else sqlType

def PhysicalColumn.respelled (c : PhysicalColumn) : PhysicalColumn :=
  { c with sqlType := respell c.sqlType }

variable {d : Dialect}

theorem apply_respell {α : Type} {f : String → α} (h : f "INT" = f "INTEGER") (sqlType : String) :
    f (respell sqlType) = f sqlType := by
  unfold respell
  split
  . next hinteger => rw [hinteger, h]
  . rfl

theorem PhysicalColumn.isCounting_respelled (c : PhysicalColumn) : c.respelled.isCounting = c.isCounting := by
  have hserial : isSerial "INT" = isSerial "INTEGER" := by decide
  have hinteger : isInteger "INT" = isInteger "INTEGER" := by decide
  simp only [isCounting, respelled, apply_respell hserial, apply_respell hinteger]

theorem PhysicalColumn.dialectType_respelled (c : PhysicalColumn) : c.respelled.dialectType d = c.dialectType d := by
  have hwide : isWide "INT" = isWide "INTEGER" := by decide
  have hmapped : d.mapType "INT" = d.mapType "INTEGER" := by cases d <;> decide
  rw [dialectType, isCounting_respelled]
  simp only [dialectType, respelled, apply_respell hwide, apply_respell hmapped]

theorem keepsDefinition_respelled (d : Dialect) : KeepsDefinition PhysicalColumn.respelled d := by
  constructor
  . intro c
    rfl
  . intro c
    rw [Dialect.columnTail, PhysicalColumn.isCounting_respelled, PhysicalColumn.dialectType_respelled]
    rfl

end Respelled

section Typed

variable (settings : Settings) (rules : List TypeRule) (m : LogicalModel) (d₁ d₂ : Dialect)

theorem respell_integerType : respell d₁.integerType = respell d₂.integerType := by
  cases d₁ <;> cases d₂ <;> decide

theorem respell_inferType (c : Column) :
    respell (Typing.inferType { settings with dialect := d₁ } rules c)
      =
    respell (Typing.inferType { settings with dialect := d₂ } rules c) := by
  unfold Typing.inferType
  dsimp only
  cases TypeKind.infer rules (.of c.name c.isKey) with
  | integer => exact respell_integerType d₁ d₂
  | serial | reference | timestamp | date | money | float | boolean | longText | discriminator | text => rfl

theorem respell_plainType (sqlType : String) :
    respell (plainType sqlType d₁) = respell (plainType sqlType d₂) := by
  unfold plainType serialBase
  split
  . split
    . rfl
    . exact respell_integerType d₁ d₂
  . rfl

theorem respell_plainType_inferType (c : Column) :
    respell (plainType (Typing.inferType { settings with dialect := d₁ } rules c) d₁)
      =
    respell (plainType (Typing.inferType { settings with dialect := d₂ } rules c) d₂) := by
  unfold Typing.inferType
  dsimp only
  cases TypeKind.infer rules (.of c.name c.isKey) with
  | integer =>
    simp only [TypeKind.sql]
    cases d₁ <;> cases d₂ <;> decide
  | serial | reference | timestamp | date | money | float | boolean | longText | discriminator | text =>
    exact respell_plainType d₁ d₂ _

theorem respelled_column (table : String) (c : Column) :
    (Typing.column { settings with dialect := d₁ } rules m table c).value.respelled
      =
    (Typing.column { settings with dialect := d₂ } rules m table c).value.respelled := by
  unfold Typing.column PhysicalColumn.respelled
  cases c.reference with
  | none =>
    simp only [Outcome.value_bind, Outcome.value_pure, Typing.settledType, PhysicalColumn.mk.injEq, true_and, and_true]
    cases LogicalModel.lastAt? (LogicalModel.resolve?.settled m) table c.name with
    | none => simp only [respell_inferType settings rules d₁ d₂]
    | some last => simp only [respell_inferType settings rules d₁ d₂]
  | some fk =>
    simp only [Outcome.value_bind, Outcome.value_pure, Typing.referringType, PhysicalColumn.mk.injEq, true_and,
      and_true]
    cases m.resolve? ⟨table, c⟩ fk with
    | none => simp only [Outcome.value_bind, Outcome.value_pure, respell_plainType_inferType settings rules d₁ d₂]
    | some found => simp only [Outcome.value_bind, Outcome.value_pure, respell_plainType_inferType settings rules d₁ d₂]

theorem mapColumns_toPhysicalWith :
    (m.toPhysicalWith { settings with dialect := d₁ } rules).value.mapColumns PhysicalColumn.respelled
      =
    (m.toPhysicalWith { settings with dialect := d₂ } rules).value.mapColumns PhysicalColumn.respelled := by
  unfold PhysicalModel.mapColumns
  rw [tables_toPhysicalWith, tables_toPhysicalWith, List.map_map, List.map_map]
  congr 1
  apply List.map_congr_left
  intro t _
  simp only [Function.comp_apply, value_table, PhysicalTable.mapColumns, List.map_map, Function.comp_def,
    respelled_column settings rules m d₁ d₂]

theorem sql_toPhysicalWith_eq (d : Dialect) :
    (m.toPhysicalWith { settings with dialect := d₁ } rules).value.sql d
      =
    (m.toPhysicalWith { settings with dialect := d₂ } rules).value.sql d := by
  rw [← PhysicalModel.sql_mapColumns (keepsDefinition_respelled d), mapColumns_toPhysicalWith settings rules m d₁ d₂,
    PhysicalModel.sql_mapColumns (keepsDefinition_respelled d)]

end Typed

end SchemaDesign
