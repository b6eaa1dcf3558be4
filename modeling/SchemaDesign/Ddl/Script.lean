import SchemaDesign.Ddl.Order
import SchemaDesign.Ddl.TypeName
import SchemaDesign.Text.DisplayWidth
import SchemaDesign.Typing.Rule
import SchemaDesign.Typing.Serial

namespace SchemaDesign

open Text

def baseType (sqlType : String) : String :=
  String.ofList (typeParts sqlType.toList).1

def isInteger (sqlType : String) : Bool :=
  ["INT", "INTEGER", "BIGINT", "SERIAL", "BIGSERIAL"].contains (baseType sqlType)

def isWide (sqlType : String) : Bool :=
  ["BIGINT", "BIGSERIAL"].contains (baseType sqlType)

namespace PhysicalColumn

def isCounting (c : PhysicalColumn) : Bool :=
  c.isKey && c.reference.isNone &&
    (isSerial c.sqlType || (isInteger c.sqlType && (ColumnFacts.of c.name true).isIdName))

def dialectType (d : Dialect) (c : PhysicalColumn) : String :=
  if c.isCounting && !d.usesBackticks then
    if isWide c.sqlType then "BIGSERIAL" else "SERIAL"
  else
    d.mapType c.sqlType

end PhysicalColumn

def Constraint.sql : Constraint → String
  | notNull => "NOT NULL"
  | unique => "UNIQUE"
  | check expression => "CHECK (" ++ expression ++ ")"

namespace Dialect

def columnTail (d : Dialect) (c : PhysicalColumn) : String :=
  " ".intercalate <|
    c.dialectType d :: c.constraints.map Constraint.sql
      ++ if c.isCounting && d.usesBackticks then ["AUTO_INCREMENT"] else []

def constraintName (table column : String) : String :=
  String.ofList (lowercase ("fk_" ++ table ++ "_" ++ column).toList)

def foreignKey (d : Dialect) (table : String) (column : String) (fk : ForeignKey) : String :=
  (if d.usesBackticks then "CONSTRAINT " ++ d.quote (constraintName table column) ++ " " else "")
    ++ "FOREIGN KEY (" ++ d.quote column ++ ") REFERENCES " ++ d.quote fk.table
    ++ " (" ++ d.quote fk.column ++ ")" ++ clause " ON DELETE " fk.onDelete
    ++ clause " ON UPDATE " fk.onUpdate
where
  clause (event : String) : Option ReferentialAction → String
    | none => ""
    | some action => event ++ action.sql

def indent : String := "    "

def columnLine (d : Dialect) (width : Nat) (c : PhysicalColumn) : String :=
  let name := d.quote c.name
  let padding := List.replicate (width - displayWidth name.toList) ' '
  indent ++ name ++ String.ofList padding ++ " " ++ d.columnTail c

def primaryKeyLines (d : Dialect) (t : PhysicalTable) : List String :=
  match t.columns.filter (·.isKey) with
  | [] => []
  | keys => [indent ++ "PRIMARY KEY (" ++ ", ".intercalate (keys.map (d.quote ·.name)) ++ ")"]

def foreignKeyLines (d : Dialect) (t : PhysicalTable) : List String :=
  t.columns.filterMap fun c =>
    c.reference.map fun fk => indent ++ d.foreignKey t.name c.name fk

def createTable (d : Dialect) (t : PhysicalTable) : String :=
  let width := (t.columns.map fun c => displayWidth (d.quote c.name).toList).foldl max 0
  let lines := t.columns.map (d.columnLine width) ++ d.primaryKeyLines t ++ d.foreignKeyLines t
  "CREATE TABLE " ++ d.quote t.name ++ " (\n" ++ ",\n".intercalate lines ++ "\n)"
    ++ d.tableTrailer ++ ";"

end Dialect

def PhysicalModel.sql (m : PhysicalModel) (d : Dialect) : String :=
  "-- Generated by merise\n-- Dialect: " ++ d.title ++ "\n"
    ++ String.join (m.dependencyOrder.map fun t => "\n" ++ d.createTable t ++ "\n")

end SchemaDesign
