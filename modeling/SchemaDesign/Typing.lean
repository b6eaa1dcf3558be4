import SchemaDesign.Outcome
import SchemaDesign.Physical.Basic
import SchemaDesign.Settings
import SchemaDesign.Typing.Reference
import SchemaDesign.Typing.Rule
import SchemaDesign.Typing.Serial

/-!
This module contains the typing of a logical model. A column without a reference gets the type that the rules
tell from its name. A column with one gets the type of the column that the reference leads to, with the
placeholder of a counting column replaced by its integer type.
-/

namespace SchemaDesign

namespace Typing

def inferType (settings : Settings) (rules : List TypeRule) (c : Column) : String :=
  (TypeKind.infer rules (.of c.name c.isKey)).sql settings.dialect settings.textLength

def settledType (settings : Settings) (rules : List TypeRule) (m : LogicalModel) (l : LocatedColumn) :
    String :=
  -- Of several columns of one name in one table the last one without a reference decides for all.
  match LogicalModel.lastAt? (LogicalModel.resolve?.settled m) l.table l.column.name with
  | some last => inferType settings rules last.column
  | none => inferType settings rules l.column

def referringType (settings : Settings) (rules : List TypeRule) (m : LogicalModel) (l : LocatedColumn)
    (fk : ForeignKey) : Outcome String := do
  let sqlType ← match m.resolve? l fk with
    | some found => pure (inferType settings rules found.column)
    | none => do
      Outcome.reportIf (!m.located.any (·.isAt fk.table fk.column)) l.table
        (.unknownReference (l.table ++ "." ++ l.column.name) (fk.table ++ "." ++ fk.column))
      pure (inferType settings rules l.column)
  return plainType sqlType settings.dialect

def withActions (fk : ForeignKey) : ForeignKey :=
  { fk with
    onDelete := some (fk.onDelete.getD .cascade)
    onUpdate := some (fk.onUpdate.getD .cascade) }

def constraints (c : Column) : List Constraint :=
  (if c.isKey || c.reference.isSome then [.notNull] else [])
    ++ if Text.occursIn "email".toList (Text.lowercase c.name.toList) then [.unique] else []

def column (settings : Settings) (rules : List TypeRule) (m : LogicalModel) (table : String)
    (c : Column) : Outcome PhysicalColumn := do
  let sqlType ← match c.reference with
    | none => pure (settledType settings rules m ⟨table, c⟩)
    | some fk => referringType settings rules m ⟨table, c⟩ fk
  return ⟨c.name, sqlType, c.isKey, c.reference.map withActions, constraints c⟩

def table (settings : Settings) (rules : List TypeRule) (m : LogicalModel) (t : Table) :
    Outcome PhysicalTable := do
  let columns ← t.columns.mapM (column settings rules m t.name)
  return ⟨t.name, columns⟩

end Typing

def LogicalModel.toPhysicalWith (m : LogicalModel) (settings : Settings) (rules : List TypeRule) :
    Outcome PhysicalModel := do
  let tables ← m.tables.mapM (Typing.table settings rules m)
  return ⟨tables⟩

def LogicalModel.toPhysical (m : LogicalModel) (settings : Settings) : Outcome PhysicalModel :=
  m.toPhysicalWith settings TypeRule.standard

end SchemaDesign
