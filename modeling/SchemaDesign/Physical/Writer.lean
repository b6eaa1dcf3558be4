import SchemaDesign.Logical.Writer
import SchemaDesign.Physical.Basic

namespace SchemaDesign

def Constraint.write : Constraint → String
  | notNull => " [NOT NULL]"
  | unique => " [UNIQUE]"
  | check expression => " [CHECK(" ++ expression ++ ")]"

def PhysicalColumn.write (c : PhysicalColumn) : String :=
  "    " ++ c.name ++ " " ++ c.sqlType ++ writeKeys c.isKey c.reference
    ++ String.join (c.constraints.map Constraint.write) ++ "\n"

def PhysicalTable.write (t : PhysicalTable) : String :=
  writeTable t.name (t.columns.map PhysicalColumn.write)

def PhysicalModel.write (m : PhysicalModel) : String :=
  "\n".intercalate (m.tables.map PhysicalTable.write)

end SchemaDesign
