import SchemaDesign.Logical.Basic

namespace SchemaDesign

inductive Constraint where
  | notNull
  | unique
  | check (expression : String)
deriving DecidableEq, Repr

namespace Constraint

def isCheck : Constraint → Bool
  | check _ => true
  | _ => false

def arrange (cs : List Constraint) : List Constraint :=
  cs.filter (· = notNull) ++ cs.filter (· = unique) ++ cs.filter isCheck

end Constraint

structure PhysicalColumn where
  name : String
  sqlType : String
  isKey : Bool
  reference : Option ForeignKey
  constraints : List Constraint
deriving DecidableEq, Repr

def PhysicalColumn.toColumn (c : PhysicalColumn) : Column :=
  ⟨c.name, c.isKey, c.reference⟩

structure PhysicalTable where
  name : String
  columns : List PhysicalColumn
deriving DecidableEq, Repr

namespace PhysicalTable

def column? (t : PhysicalTable) (name : String) : Option PhysicalColumn :=
  t.columns.find? (·.name = name)

def toTable (t : PhysicalTable) : Table :=
  ⟨t.name, t.columns.map (·.toColumn)⟩

end PhysicalTable

structure PhysicalModel where
  tables : List PhysicalTable
deriving DecidableEq, Repr

namespace PhysicalModel

def table? (m : PhysicalModel) (name : String) : Option PhysicalTable :=
  m.tables.find? (·.name = name)

def toLogical (m : PhysicalModel) : LogicalModel :=
  ⟨m.tables.map (·.toTable)⟩

end PhysicalModel

end SchemaDesign
