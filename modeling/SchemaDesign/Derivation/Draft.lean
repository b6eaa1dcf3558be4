import SchemaDesign.Conceptual.KeyName
import SchemaDesign.Logical.Edit
import SchemaDesign.Logical.FreshName
import SchemaDesign.Outcome

namespace SchemaDesign

def lowercaseName (name : String) : String :=
  String.ofList (Text.lowercase name.toList)

namespace Derivation

structure Draft where
  schema : LogicalModel
  -- The latest entry for a name comes first, and counts.
  relationTables : List (String × String)
  folded : List (String × (String × String))
  dissolved : List String
deriving DecidableEq, Repr

namespace Draft

def empty : Draft := ⟨.empty, [], [], []⟩

def add (d : Draft) (t : Table) : Draft :=
  { d with schema := d.schema.add t }

def modify (d : Draft) (table : String) (f : Table → Table) : Draft :=
  { d with schema := d.schema.modify table f }

def represent (d : Draft) (relation table : String) : Draft :=
  { d with relationTables := (relation, table) :: d.relationTables }

end Draft

def attributeColumns (attributes : List Attribute) : List Column :=
  (attributes.filter (!·.isDerived)).map fun a => ⟨a.name, a.isKey, none⟩

def appendAttributes (t : Table) (attributes : List Attribute) : Table :=
  (attributes.filter (!·.isDerived)).foldl
    (fun t a => if t.hasColumn a.name then t else t.append (.plain a.name)) t

def entityTables (m : ConceptualModel) (d : Draft) : Outcome Draft :=
  m.entities.foldlM step d
where
  step (d : Draft) (e : Entity) : Outcome Draft := do
    if d.schema.hasTable e.name then
      Outcome.reportIn e.name (.duplicateName e.name)
      return d
    else
      return d.add ⟨e.name, attributeColumns e.attributes⟩

end Derivation

end SchemaDesign
