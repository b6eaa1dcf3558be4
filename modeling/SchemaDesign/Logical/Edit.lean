import SchemaDesign.Logical.Basic

namespace SchemaDesign.LogicalModel

def add (m : LogicalModel) (t : Table) : LogicalModel :=
  ⟨m.tables ++ [t]⟩

def modify (m : LogicalModel) (name : String) (f : Table → Table) : LogicalModel :=
  ⟨m.tables.map fun t => if t.name = name then f t else t⟩

def remove (m : LogicalModel) (names : List String) : LogicalModel :=
  ⟨m.tables.filter (·.name ∉ names)⟩

def mapReferences (m : LogicalModel) (f : ForeignKey → ForeignKey) : LogicalModel :=
  ⟨m.tables.map fun t =>
    { t with columns := t.columns.map fun c => { c with reference := c.reference.map f } }⟩

def rename (m : LogicalModel) (old new : String) : LogicalModel :=
  (m.mapReferences fun fk => if fk.table = old then { fk with table := new } else fk).modify old
    fun t => { t with name := new }

end SchemaDesign.LogicalModel
