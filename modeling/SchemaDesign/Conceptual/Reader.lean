import SchemaDesign.Conceptual.Basic
import SchemaDesign.Document.Declaration

namespace SchemaDesign

open Text Document

namespace Attribute

def applyFlag (a : Attribute) : Flag → Attribute
  | .primaryKey => { a with isKey := true }
  | .derived => { a with isDerived := true }
  | _ => a

def read (owner : String) (item : List Char) : Outcome (Option Attribute) :=
  match readParts item with
  | some ⟨head, flags⟩ =>
    if isIdentifier head then
      let name := String.ofList head
      pure (some (flags.foldl (step name) ⟨name, false, false⟩))
    else
      malformed
  | none => malformed
where
  step (name : String) (a : Attribute) (flag : List Char) : Attribute :=
    match (readFlag name flag).result with
    | .ok meaning => a.applyFlag meaning
    -- At this level no flag is refused, not even one that cannot be read.
    | .error _ => a
  malformed : Outcome (Option Attribute) := do
    Outcome.reportIn owner (.malformedItem (String.ofList item))
    return none

def readAll (owner : String) (items : List (List Char)) : Outcome (List Attribute) :=
  readDistinct Attribute.name (Attribute.read owner) owner items

end Attribute

def Entity.read (block : Block) : Outcome Entity := do
  let attributes ← Attribute.readAll block.name block.items
  return ⟨block.name, attributes⟩

def Participant.parts? (item : List Char) : Option (List Char × List Char) :=
  match cut (· = '(') item with
  | none => none
  | some (entity, rest) =>
    match dropLast? ')' rest with
    | none => none
    | some bounds =>
      if isIdentifier (trim entity) && bounds.all (fun c => c != '(' && c != ')') then
        some (trim entity, bounds)
      else
        none

def Participant.read (owner : String) (entity bounds : List Char) : Outcome (Option Participant) :=
  match (cut (· = ',') bounds).bind fun (min, max) => Cardinality.ofBounds? min max with
  | some cardinality => pure (some ⟨String.ofList entity, cardinality⟩)
  | none => do
    Outcome.reportIn owner (.invalidCardinality owner ("(" ++ String.ofList bounds ++ ")"))
    return none

def Relation.read (block : Block) : Outcome Relation := do
  let items := block.items
  let participants ← Outcome.collect
    (fun (entity, bounds) => Participant.read block.name entity bounds)
    (items.filterMap Participant.parts?)
  let attributes ← Attribute.readAll block.name (items.filter (Participant.parts? · |>.isNone))
  return ⟨block.name, participants, attributes⟩

namespace Inheritance

structure Draft where
  parent : Option String
  children : List String
  strategy : Option InheritanceStrategy
  inChildren : Bool
deriving DecidableEq, Repr

def readItem (owner : String) (draft : Draft) (item : List Char) : Outcome Draft :=
  let (word, operand) := (cut isBlank item).getD (item, [])
  let operand := trim operand
  let operand' := String.ofList operand
  if spells word "PARENT" then
    let draft := { draft with inChildren := false }
    if isIdentifier operand then
      pure { draft with parent := some operand' }
    else
      malformed draft
  else if spells word "CHILDREN" then
    let draft := { draft with inChildren := true }
    if isIdentifier operand then
      pure { draft with children := draft.children ++ [operand'] }
    else if operand.isEmpty then
      pure draft
    else
      malformed draft
  else if spells word "STRATEGY" then
    let draft := { draft with inChildren := false }
    match InheritanceStrategy.ofName? operand' with
    | some strategy => pure { draft with strategy := some strategy }
    | none => do
      Outcome.reportIn owner (.unknownStrategy operand')
      return draft
  else if draft.inChildren && isIdentifier item then
    pure { draft with children := draft.children ++ [String.ofList item] }
  else
    malformed draft
where
  malformed (draft : Draft) : Outcome Draft := do
    Outcome.reportIn owner (.malformedItem (String.ofList item))
    return draft

def read (block : Block) : Outcome (Option Inheritance) := do
  let draft ← block.items.foldlM (readItem block.name) ⟨none, [], none, false⟩
  Outcome.reportIf draft.children.isEmpty block.name (.missingChildren block.name)
  match draft.parent with
  | none =>
    Outcome.reportIn block.name (.missingParent block.name)
    return none
  | some parent =>
    if draft.children.isEmpty then
      return none
    else
      return some ⟨block.name, parent, draft.children, draft.strategy⟩

end Inheritance

def AssociativeEntity.relation? (extra : List Char) : Option (List Char) :=
  match words extra with
  | [on, relation] => if isOn on && isIdentifier relation then some relation else none
  | _ => none

def AssociativeEntity.read (block : Block) : Outcome (Option AssociativeEntity) :=
  match relation? block.extra.toList with
  | none => do
    Outcome.reportIn block.name (.missingAssociation block.name)
    return none
  | some relation => do
    let attributes ← Attribute.readAll block.name block.items
    return some ⟨block.name, String.ofList relation, attributes⟩

namespace ConceptualModel

def readBlock (block : Block) : Outcome ConceptualModel :=
  if block.hasKeyword "ENTITY" then do
    block.rejectExtra
    let entity ← Entity.read block
    return { empty with entities := [entity] }
  else if block.hasKeyword "RELATION" then do
    block.rejectExtra
    let relation ← Relation.read block
    return { empty with relations := [relation] }
  else if block.hasKeyword "INHERITANCE" then do
    block.rejectExtra
    let group ← Inheritance.read block
    return { empty with inheritances := group.toList }
  else if block.hasKeyword "ASSOCIATIVE" then do
    let associative ← AssociativeEntity.read block
    return { empty with associatives := associative.toList }
  else do
    block.rejectExtra
    Outcome.reportIn block.name (.unknownKeyword block.keyword)
    return empty

def warnOfOrphans (m : ConceptualModel) : Outcome Unit :=
  Outcome.each (fun name => Outcome.reportIn name (.orphanEntity name)) m.orphans

def read (text : String) : Outcome ConceptualModel := do
  let blocks ← Document.blocks text
  let parts ← blocks.mapM readBlock
  let m := parts.foldr append empty
  m.warnOfOrphans
  return m

end ConceptualModel

end SchemaDesign
