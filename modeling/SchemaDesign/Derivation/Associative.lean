import SchemaDesign.Derivation.Relation

/-!
This module contains the derivation of associative entities, which name the table of a relation and add
attributes to it.
-/

namespace SchemaDesign.Derivation

def Draft.tableOf? (d : Draft) (relation : String) : Option String :=
  (d.relationTables.lookup relation).filter d.schema.hasTable

/--
Find or make the table of an associative entity. The table of its relation takes its name, unless that is
taken. A relation without a table gets one with the keys of all participants.
-/
def promote (m : ConceptualModel) (d : Draft) (a : AssociativeEntity) (r : Relation) :
    Outcome (Option (Draft × String)) := do
  match d.tableOf? r.name with
  | some table =>
    if table = a.name then
      return some (d, table)
    else if d.schema.hasTable a.name then
      Outcome.reportIn a.name (.duplicateName a.name)
      return some (d, table)
    else
      return some ({ d with schema := d.schema.rename table a.name }, a.name)
  | none =>
    if d.schema.hasTable a.name then
      Outcome.reportIn a.name (.duplicateName a.name)
      return none
    else
      match ← participantKeys m d r.name r.participants with
      | none => return none
      | some keys => return some (d.add (keyedTable a.name keys), a.name)

def associative (m : ConceptualModel) (d : Draft) (a : AssociativeEntity) : Outcome Draft := do
  match m.relation? a.relation with
  | none =>
    Outcome.reportIn a.name (.unknownReference a.name a.relation)
    return d
  | some r =>
    match ← promote m d a r with
    | none => return d
    | some (d, table) =>
      return (d.modify table (appendAttributes · a.attributes)).represent r.name table

def associatives (m : ConceptualModel) (d : Draft) : Outcome Draft :=
  m.associatives.foldlM (associative m) d

end SchemaDesign.Derivation
