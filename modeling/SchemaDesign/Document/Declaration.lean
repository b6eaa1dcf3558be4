import SchemaDesign.Document.Block
import SchemaDesign.Document.Flag

namespace SchemaDesign.Document

open Text

def readDistinct {α : Type} (name : α → String) (read : List Char → Outcome (Option α))
    (owner : String) (items : List (List Char)) : Outcome (List α) :=
  items.foldlM step []
where
  step (declared : List α) (item : List Char) : Outcome (List α) := do
    match ← read item with
    | none => return declared
    | some d =>
      if declared.any (name · = name d) then
        Outcome.reportIn owner (.duplicateColumn owner (name d))
        return declared
      else
        return declared ++ [d]

def readFlags {α : Type} (column owner : String) (apply : α → Flag → α) (declared : α)
    (flags : List (List Char)) : Outcome α :=
  flags.foldlM step declared
where
  step (declared : α) (flag : List Char) : Outcome α := do
    let reading := readFlag column flag
    let declared ← match reading.result with
      | .ok meaning => pure (apply declared meaning)
      | .error issue => do
        Outcome.reportIn owner issue
        pure declared
    Outcome.reportAll (some owner) reading.warnings
    return declared

def readTables {α : Type} (read : Block → Outcome α) (text : String) : Outcome (List α) := do
  let blocks ← Document.blocks text
  Outcome.collect step blocks
where
  step (block : Block) : Outcome (Option α) := do
    if block.hasKeyword "TABLE" then
      block.rejectExtra
      let table ← read block
      return some table
    else
      Outcome.reportIn block.name (.unknownKeyword block.keyword)
      return none

end SchemaDesign.Document
