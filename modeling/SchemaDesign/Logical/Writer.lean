import SchemaDesign.Logical.Basic

namespace SchemaDesign

def ForeignKey.write (fk : ForeignKey) : String :=
  " [FK -> " ++ fk.table ++ "." ++ fk.column ++ clause " ON DELETE " fk.onDelete
    ++ clause " ON UPDATE " fk.onUpdate ++ "]"
where
  clause (event : String) : Option ReferentialAction → String
    | none => ""
    | some action => event ++ action.sql

def writeKeys (isKey : Bool) (reference : Option ForeignKey) : String :=
  (if isKey then " [PK]" else "") ++
    match reference with
    | none => ""
    | some fk => fk.write

def Column.write (c : Column) : String :=
  "    " ++ c.name ++ writeKeys c.isKey c.reference ++ "\n"

def writeTable (name : String) (lines : List String) : String :=
  "TABLE " ++ name ++ " \x7b\n" ++ String.join lines ++ "\x7d\n"

def Table.write (t : Table) : String :=
  writeTable t.name (t.columns.map Column.write)

def LogicalModel.write (m : LogicalModel) : String :=
  "\n".intercalate (m.tables.map Table.write)

end SchemaDesign
