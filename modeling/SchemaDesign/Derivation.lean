import SchemaDesign.Derivation.Associative
import SchemaDesign.Derivation.Inheritance

/-!
This module contains the derivation of a logical model from a conceptual one. Entities become tables, then
relations become references or tables, then inheritance groups are flattened, and at last associative
entities are promoted.
-/

namespace SchemaDesign

namespace Derivation

def retarget (folded : List (String × (String × String))) (fk : ForeignKey) : ForeignKey :=
  match folded.lookup fk.table with
  | some (table, column) => { fk with table := table, column := column }
  | none => fk

def reportFlattened (dissolved : List String) (m : LogicalModel) : Outcome Unit :=
  Outcome.each (fun t => Outcome.each (check t) t.columns) m.tables
where
  check (t : Table) (c : Column) : Outcome Unit :=
    match c.reference with
    | some fk =>
      Outcome.reportIf (fk.table ∈ dissolved) t.name
        (.flattenedReference (t.name ++ "." ++ c.name) fk.table)
    | none => pure ()

def finish (d : Draft) : Outcome LogicalModel := do
  let schema := d.schema.mapReferences (retarget d.folded)
  reportFlattened d.dissolved schema
  return schema

end Derivation

def ConceptualModel.toLogical (m : ConceptualModel) (settings : Settings) : Outcome LogicalModel := do
  let d ← Derivation.entityTables m .empty
  let d ← Derivation.relations m d
  let d ← Derivation.inheritances m settings d
  let d ← Derivation.associatives m d
  Derivation.finish d

end SchemaDesign
