import SchemaDesign.Derivation.Draft

/-!
This module contains the derivation of inheritance groups, one after another. Each group is flattened into
tables by its own strategy or by the one of the settings.
-/

namespace SchemaDesign.Derivation

def discriminator : String := "type_discriminator"

def referToParent (parent parentKey : String) (t : Table) : Table :=
  -- A key of the same name gives way to the reference.
  let own := { t with
    columns := t.columns.filter fun c => !(c.name = parentKey && c.isKey && c.reference.isNone) }
  let name := own.freshName parentKey (some (lowercaseName parent))
  { own with columns := .keyReferring name parent parentKey :: own.columns }

def tablePerClass (d : Draft) (parent parentKey : String) (children : List String) : Draft :=
  children.foldl (fun d child => d.modify child (referToParent parent parentKey)) d

def foldInto (children : List Table) (parent : Table) : Table :=
  let withDiscriminator :=
    if parent.hasColumn discriminator then parent else parent.append (.plain discriminator)
  (children.flatMap fun t => t.columns.filter (!·.isKey)).foldl
    (fun t c => if t.hasColumn c.name then t else t.append c) withDiscriminator

def singleTable (d : Draft) (parent parentKey : String) (children : List String) : Draft :=
  let d := d.modify parent (foldInto (children.filterMap d.schema.table?))
  { d with
    schema := d.schema.remove children
    folded := children.map (fun child => (child, (parent, parentKey))) ++ d.folded }

def inheritColumns (inherited : List Column) (t : Table) : Table :=
  { t with columns := inherited ++ t.columns.filter fun c => !inherited.any (·.name = c.name) }

def tablePerSubclass (d : Draft) (parent : Table) (children : List String) : Draft :=
  let d := children.foldl (fun d child => d.modify child (inheritColumns parent.columns)) d
  { d with schema := d.schema.remove [parent.name], dissolved := parent.name :: d.dissolved }

def knownChildren (d : Draft) (group : Inheritance) : Outcome (List String) :=
  Outcome.collect step group.children
where
  step (child : String) : Outcome (Option String) := do
    if d.schema.hasTable child then
      return some child
    else
      Outcome.reportIn group.name (.unknownReference group.name child)
      return none

def inheritance (settings : Settings) (d : Draft) (group : Inheritance) : Outcome Draft := do
  match d.schema.table? group.parent with
  | none =>
    Outcome.reportIn group.name (.unknownReference group.name group.parent)
    return d
  | some parent =>
    match parent.keys.head? with
    | none =>
      Outcome.reportIn group.name (.missingPrimaryKey group.parent)
      return d
    | some key =>
      let children ← knownChildren d group
      match group.strategy.getD settings.inheritance with
      | .tablePerClass => return tablePerClass d group.parent key.name children
      | .singleTable => return singleTable d group.parent key.name children
      | .tablePerSubclass => return tablePerSubclass d parent children

def inheritances (m : ConceptualModel) (settings : Settings) (d : Draft) : Outcome Draft :=
  m.inheritances.foldlM (inheritance settings) d

end SchemaDesign.Derivation
