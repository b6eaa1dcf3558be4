import SchemaDesign.Document.Declaration

namespace SchemaDesign

open Text Document

namespace Column

def applyFlag (c : Column) : Flag → Column
  | .primaryKey => { c with isKey := true }
  | .foreignKey reference => { c with reference := some reference }
  | _ => c

def read (owner : String) (item : List Char) : Outcome (Option Column) :=
  match readParts item with
  | some ⟨head, flags⟩ =>
    if isIdentifier head then do
      let name := String.ofList head
      let column ← readFlags name owner applyFlag (.plain name) flags
      return some column
    else
      malformed
  | none => malformed
where
  malformed : Outcome (Option Column) := do
    Outcome.reportIn owner (.malformedItem (String.ofList item))
    return none

end Column

def Table.read (block : Block) : Outcome Table := do
  let columns ← readDistinct Column.name (Column.read block.name) block.name block.items
  return ⟨block.name, columns⟩

def LogicalModel.read (text : String) : Outcome LogicalModel := do
  let tables ← readTables Table.read text
  return ⟨tables⟩

end SchemaDesign
