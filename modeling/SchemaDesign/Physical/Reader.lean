import SchemaDesign.Document.Declaration
import SchemaDesign.Physical.Basic

namespace SchemaDesign

open Text Document

namespace PhysicalColumn

def addConstraint (c : PhysicalColumn) (constraint : Constraint) : PhysicalColumn :=
  { c with constraints := addNew c.constraints constraint }

def applyFlag (c : PhysicalColumn) : Flag → PhysicalColumn
  | .primaryKey => { c with isKey := true }
  | .foreignKey reference => { c with reference := some reference }
  | .notNull => c.addConstraint .notNull
  | .unique => c.addConstraint .unique
  | .check expression => c.addConstraint (.check expression)
  | _ => c

def read (owner : String) (item : List Char) : Outcome (Option PhysicalColumn) :=
  match readParts item with
  | some ⟨head, flags⟩ =>
    let (name, sqlType) := (cut isBlank head).getD (head, [])
    let name' := String.ofList name
    let sqlType := trim sqlType
    if !isIdentifier name then
      malformed
    else if sqlType.isEmpty then do
      Outcome.reportIn owner (.missingType name')
      return none
    else do
      let column ← readFlags name' owner applyFlag ⟨name', String.ofList sqlType, false, none, []⟩ flags
      return some { column with constraints := Constraint.arrange column.constraints }
  | none => malformed
where
  malformed : Outcome (Option PhysicalColumn) := do
    Outcome.reportIn owner (.malformedItem (String.ofList item))
    return none

end PhysicalColumn

def PhysicalTable.read (block : Block) : Outcome PhysicalTable := do
  let columns ← readDistinct PhysicalColumn.name (PhysicalColumn.read block.name) block.name block.items
  return ⟨block.name, columns⟩

def PhysicalModel.read (text : String) : Outcome PhysicalModel := do
  let tables ← readTables PhysicalTable.read text
  return ⟨tables⟩

end SchemaDesign
