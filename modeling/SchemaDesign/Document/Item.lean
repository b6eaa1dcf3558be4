import SchemaDesign.Text.Alphanumeric
import SchemaDesign.Document.Comment

/-!
This module contains the items that the body of a block consists of, and the flags in brackets at the end of
an item.
-/

namespace SchemaDesign.Document

open Text

def bracketDepth (depth : Nat) (c : Char) : Nat :=
  if c = '(' || c = '[' then depth + 1
  -- A closing bracket without an opening one is passed over.
  else if c = ')' || c = ']' then depth - 1
  else depth

def splitCommas (depth : Nat) : List Char → List (List Char)
  | [] => [[]]
  | c :: cs =>
    if c = ',' && depth = 0 then
      [] :: splitCommas 0 cs
    else
      (splitCommas (bracketDepth depth c) cs).modifyHead (c :: ·)

def lineItems (line : List Char) : List (List Char) :=
  if opensComment line then []
  else ((splitCommas 0 line).map trim).filter (!·.isEmpty)

def items (body : List Char) : List (List Char) :=
  (lines body).flatMap lineItems

structure Parts where
  head : List Char
  flags : List (List Char)
deriving DecidableEq, Repr

def splitHead (depth : Nat) : List Char → List Char × List Char
  | [] => ([], [])
  | c :: cs =>
    if c = '[' && depth = 0 then
      ([], c :: cs)
    else
      let depth := if c = '(' then depth + 1 else if c = ')' then depth - 1 else depth
      let (head, rest) := splitHead depth cs
      (c :: head, rest)

def completeFlag (flag : List Char) : List (List Char) :=
  [trim flag].filter (!·.isEmpty)

/--
The flags of a sequence of bracket groups. Commas separate the flags of a group unless they stand in a further
bracket. Nothing but blanks may stand between groups, and each group has to be closed.
-/
def readGroups (text : List Char) : Option (List (List Char)) :=
  go 0 [] text
where
  go : Nat → List Char → List Char → Option (List (List Char))
    | 0, _, [] => some []
    | _ + 1, _, [] => none
    | 0, _, c :: cs =>
      if c = '[' then go 1 [] cs
      else if isBlank c then go 0 [] cs
      else none
    | depth + 1, flag, c :: cs =>
      if c = '[' || c = '(' then
        go (depth + 2) (flag ++ [c]) cs
      else if c = ']' || c = ')' then
        if depth = 0 then (go 0 [] cs).map (completeFlag flag ++ ·)
        else go depth (flag ++ [c]) cs
      else if c = ',' && depth = 0 then
        (go 1 [] cs).map (completeFlag flag ++ ·)
      else
        go (depth + 1) (flag ++ [c]) cs

def readParts (item : List Char) : Option Parts :=
  let (head, groups) := splitHead 0 item
  (readGroups groups).map fun flags => ⟨trim head, flags⟩

end SchemaDesign.Document
