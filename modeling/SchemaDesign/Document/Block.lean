import SchemaDesign.Document.Item
import SchemaDesign.Outcome

/-!
This module contains the blocks `KEYWORD NAME extra { body }` that a document consists of. The brace that
opens a body may stand on a line of its own. Braces inside a body are matched, and those in comments do not
count.
-/

namespace SchemaDesign.Document

open Text

structure Block where
  keyword : String
  name : String
  extra : String
  body : String
deriving DecidableEq, Repr

namespace Block

def hasKeyword (b : Block) (keyword : String) : Bool :=
  spells b.keyword.toList keyword

def items (b : Block) : List (List Char) :=
  Document.items b.body.toList

def rejectExtra (b : Block) : Outcome Unit :=
  Outcome.reportIf (b.extra ≠ "") b.name
    (.malformedItem (b.keyword ++ " " ++ b.name ++ " " ++ b.extra))

end Block

structure Header where
  keyword : Option (List Char)
  name : Option (List Char)
  extra : List Char
deriving DecidableEq, Repr

def Header.ofLine (line : List Char) : Header :=
  let ws := words line
  ⟨ws[0]?, ws[1]?, unwords (ws.drop 2)⟩

def reportStray (strays : List (List Char)) : Outcome Unit :=
  Outcome.reportAll none (strays.map fun line => .strayText (String.ofList line))

/--
The block with this text before and between its braces, if the text names one. The header is the last line
before the brace, and what stands above it belongs to no block.
-/
def closeBlock (header body : List Char) : Outcome (Option Block) := do
  let headerLines := lines header
  match headerLines.getLast? with
  | none =>
    Outcome.report none (.missingName "")
    return none
  | some line =>
    reportStray headerLines.dropLast
    match Header.ofLine line with
    | ⟨some keyword, some name, extra⟩ =>
      return some ⟨String.ofList keyword, String.ofList name, String.ofList extra, String.ofList body⟩
    | _ =>
      Outcome.report none (.missingName (String.ofList line))
      return none

def reportUnterminated (header : List Char) : Outcome Unit :=
  let h := Header.ofLine ((lines header).getLast?.getD [])
  let name := h.name.map String.ofList
  Outcome.report name (.unterminatedBlock (String.ofList (h.keyword.getD [])) (name.getD ""))

inductive Pending where
  | header (text : List Char)
  | body (header : List Char) (depth : Nat) (text : List Char)
deriving DecidableEq, Repr

def readBlocks : Pending → List Glyph → Outcome (List Block)
  | .header text, [] => do
    reportStray (lines text.reverse)
    return []
  | .body header _ _, [] => do
    reportUnterminated header.reverse
    return []
  | .header text, ⟨c, inComment⟩ :: gs =>
    if inComment then
      readBlocks (.header text) gs
    else if c = '\x7b' then
      readBlocks (.body text 0 []) gs
    else if c = '\x7d' then do
      -- The brace is dropped, and the header around it is read on.
      Outcome.report none (.strayText "\x7d")
      readBlocks (.header text) gs
    else
      readBlocks (.header (c :: text)) gs
  | .body header depth text, ⟨c, inComment⟩ :: gs =>
    if inComment then
      readBlocks (.body header depth (c :: text)) gs
    else if c = '\x7b' then
      readBlocks (.body header (depth + 1) (c :: text)) gs
    else if c = '\x7d' then
      match depth with
      | 0 => do
        let block ← closeBlock header.reverse text.reverse
        let blocks ← readBlocks (.header []) gs
        return block.toList ++ blocks
      | depth + 1 => readBlocks (.body header depth (c :: text)) gs
    else
      readBlocks (.body header depth (c :: text)) gs

def blocks (text : String) : Outcome (List Block) :=
  readBlocks (.header []) (glyphs text.toList)

end SchemaDesign.Document
