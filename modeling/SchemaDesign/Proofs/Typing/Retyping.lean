import SchemaDesign.Proofs.Typing

/-!
This module contains the typing of a model that has been typed already. The search for the end of a chain of references
looks at places and not at actions, so a model whose references get their actions is typed as it was without them.
-/

namespace SchemaDesign

namespace LocatedColumn

def mapReference (f : ForeignKey → ForeignKey) (l : LocatedColumn) : LocatedColumn :=
  { l with column := { l.column with reference := l.column.reference.map f } }

variable (f : ForeignKey → ForeignKey)

@[simp]
theorem isAt_mapReference (l : LocatedColumn) (table name : String) :
    (l.mapReference f).isAt table name = l.isAt table name := rfl

theorem mapReference_of_none {l : LocatedColumn} (h : l.column.reference = none) : l.mapReference f = l := by
  obtain ⟨table, name, isKey, reference⟩ := l
  simp only at h
  rw [h]
  rfl

end LocatedColumn

namespace LogicalModel

variable {m : LogicalModel} (f : ForeignKey → ForeignKey)

theorem located_mapReferences : (m.mapReferences f).located = m.located.map (·.mapReference f) := by
  simp only [located, mapReferences, List.flatMap_map, List.map_flatMap, List.map_map]
  rfl

theorem lastAt?_map_mapReference (columns : List LocatedColumn) (table name : String) :
    lastAt? (columns.map (·.mapReference f)) table name = (lastAt? columns table name).map (·.mapReference f) := by
  rw [lastAt?, lastAt?, ← List.map_reverse, List.find?_map]
  rfl

theorem elsewhere_map_mapReference (columns : List LocatedColumn) (table name : String) :
    elsewhere (columns.map (·.mapReference f)) table name = (elsewhere columns table name).map (·.mapReference f) := by
  rw [elsewhere, elsewhere, List.filter_map]
  rfl

theorem settled_mapReferences : resolve?.settled (m.mapReferences f) = resolve?.settled m := by
  have hkept : ∀ l ∈ resolve?.settled m, l.mapReference f = id l := by
    intro l hl
    rw [resolve?.settled, List.mem_filter, Option.isNone_iff_eq_none] at hl
    exact l.mapReference_of_none f hl.2
  calc resolve?.settled (m.mapReferences f)
    _ = (resolve?.settled m).map (·.mapReference f) := by
      rw [resolve?.settled, resolve?.settled, located_mapReferences, List.filter_map]
      simp [Function.comp_def, LocatedColumn.mapReference]
    _ = resolve?.settled m := by rw [List.map_congr_left hkept, List.map_id]

theorem referring_mapReferences :
    resolve?.referring (m.mapReferences f) = (resolve?.referring m).map (·.mapReference f) := by
  rw [resolve?.referring, resolve?.referring, located_mapReferences, List.filter_map]
  simp [Function.comp_def, LocatedColumn.mapReference]

theorem resolve?_go_eq (unvisited : List LocatedColumn) (fk : ForeignKey) :
    resolve?.go m unvisited fk
      =
    (lastAt? (resolve?.settled m) fk.table fk.column).or
      ((lastAt? unvisited fk.table fk.column).bind fun next =>
        next.column.reference.bind fun fk' => resolve?.go m (elsewhere unvisited fk.table fk.column) fk') := by
  rw [resolve?.go]
  cases lastAt? (resolve?.settled m) fk.table fk.column with
  | some found => rfl
  | none =>
    dsimp only
    split
    . next hnone => rw [hnone]; rfl
    . next next hnext =>
      rw [hnext]
      cases hreference : next.column.reference with
      | none => simp [hreference]
      | some fk' => simp [hreference]

variable {f} (hf : ∀ fk, (f fk).table = fk.table ∧ (f fk).column = fk.column)

include hf

theorem resolve?_go_mapReferences_eq (unvisited : List LocatedColumn) (fk : ForeignKey) :
    resolve?.go (m.mapReferences f) (unvisited.map (·.mapReference f)) (f fk)
      =
    (lastAt? (resolve?.settled m) fk.table fk.column).or
      ((lastAt? unvisited fk.table fk.column).bind fun next =>
        next.column.reference.bind fun fk' =>
          resolve?.go (m.mapReferences f) ((elsewhere unvisited fk.table fk.column).map (·.mapReference f)) (f fk')) := by
  rw [resolve?_go_eq, settled_mapReferences, (hf fk).1, (hf fk).2, lastAt?_map_mapReference, elsewhere_map_mapReference,
    Option.bind_map]
  simp only [Function.comp_def, LocatedColumn.mapReference, Option.bind_map]

theorem resolve?_go_mapReferences (unvisited : List LocatedColumn) (fk : ForeignKey) :
    resolve?.go (m.mapReferences f) (unvisited.map (·.mapReference f)) (f fk) = resolve?.go m unvisited fk := by
  fun_induction resolve?.go m unvisited fk with
  | case1 unvisited fk found hfound => rw [resolve?_go_mapReferences_eq hf, hfound, Option.some_or]
  | case2 unvisited fk hsettled hnext =>
    rw [resolve?_go_mapReferences_eq hf, hsettled, hnext]
    rfl
  | case3 unvisited fk hsettled next hnext hreference =>
    rw [resolve?_go_mapReferences_eq hf, hsettled, hnext]
    simp [hreference]
  | case4 unvisited fk hsettled next hnext fk' hreference ih =>
    rw [resolve?_go_mapReferences_eq hf, hsettled, hnext]
    simpa [hreference] using ih

theorem resolve?_mapReferences (l : LocatedColumn) (fk : ForeignKey) :
    (m.mapReferences f).resolve? (l.mapReference f) (f fk) = m.resolve? l fk := by
  rw [resolve?, resolve?, referring_mapReferences, elsewhere_map_mapReference]
  exact resolve?_go_mapReferences hf _ fk

end LogicalModel

namespace Typing

variable {settings : Settings} {rules : List TypeRule} {m : LogicalModel} {f : ForeignKey → ForeignKey}

theorem settledType_mapReferences (l : LocatedColumn) :
    settledType settings rules (m.mapReferences f) l = settledType settings rules m l := by
  rw [settledType, settledType, LogicalModel.settled_mapReferences]

theorem referringType_mapReferences (hf : ∀ fk, (f fk).table = fk.table ∧ (f fk).column = fk.column)
    (l : LocatedColumn) (fk : ForeignKey) :
    referringType settings rules (m.mapReferences f) (l.mapReference f) (f fk)
      =
    referringType settings rules m l fk := by
  have hlocated : (m.mapReferences f).located.any (·.isAt fk.table fk.column)
      = m.located.any (·.isAt fk.table fk.column) := by
    rw [LogicalModel.located_mapReferences, List.any_map]
    rfl
  rw [referringType, referringType, LogicalModel.resolve?_mapReferences hf, (hf fk).1, (hf fk).2, hlocated]
  rfl

theorem withActions_withActions (fk : ForeignKey) : withActions (withActions fk) = withActions fk := rfl

theorem constraints_mapReference (c : Column) :
    constraints { c with reference := c.reference.map f } = constraints c := by
  simp [constraints]

theorem column_withActions (table : String) (c : Column) :
    column settings rules (m.mapReferences withActions) table { c with reference := c.reference.map withActions }
      =
    column settings rules m table c := by
  obtain ⟨name, isKey, reference⟩ := c
  cases reference with
  | none =>
    simp only [column, Option.map_none, settledType_mapReferences]
  | some fk =>
    have hplace : ∀ fk, (withActions fk).table = fk.table ∧ (withActions fk).column = fk.column := fun _ => ⟨rfl, rfl⟩
    have htype := @referringType_mapReferences settings rules m _ hplace ⟨table, name, isKey, some fk⟩ fk
    have hconstraints := constraints_mapReference (f := withActions) ⟨name, isKey, some fk⟩
    simp only [LocatedColumn.mapReference, Option.map_some] at htype hconstraints
    simp only [column, Option.map_some, htype, hconstraints, withActions_withActions]

theorem table_withActions (t : Table) :
    table settings rules (m.mapReferences withActions) (t.mapReferences withActions) = table settings rules m t := by
  have hcolumns : (column settings rules (m.mapReferences withActions) t.name) ∘
        (fun c => { c with reference := c.reference.map withActions })
      = column settings rules m t.name := funext (column_withActions t.name)
  simp only [table, Table.mapReferences, List.mapM_map, hcolumns]

end Typing

namespace LogicalModel

variable (m : LogicalModel) (settings : Settings) (rules : List TypeRule)

theorem toPhysicalWith_withActions :
    (m.mapReferences Typing.withActions).toPhysicalWith settings rules = m.toPhysicalWith settings rules := by
  have htables : Typing.table settings rules (m.mapReferences Typing.withActions)
        ∘ Table.mapReferences Typing.withActions
      = Typing.table settings rules m := funext Typing.table_withActions
  simp only [toPhysicalWith, tables_mapReferences, List.mapM_map, htables]

theorem toPhysicalWith_toLogical :
    (m.toPhysicalWith settings rules).value.toLogical
        = m.mapReferences (fun fk =>
            { fk with
              onDelete := some (fk.onDelete.getD .cascade)
              onUpdate := some (fk.onUpdate.getD .cascade) })
      ∧
    (m.toPhysicalWith settings rules).value.toLogical.toPhysicalWith settings rules
        = m.toPhysicalWith settings rules := by
  constructor
  . exact toLogical_toPhysicalWith
  . rw [toLogical_toPhysicalWith, toPhysicalWith_withActions]

end LogicalModel

end SchemaDesign
