import SchemaDesign.Dialect
import SchemaDesign.Text.Blank

namespace SchemaDesign

open Text

def typeParts (sqlType : List Char) : List Char × List Char :=
  (trim (upcase (sqlType.takeWhile (· ≠ '('))), sqlType.dropWhile (· ≠ '('))

def Dialect.typeName? (d : Dialect) (name : String) : Option String :=
  if d.usesBackticks then
    match name with
    | "BOOLEAN" => some "TINYINT(1)"
    | "BOOL" => some "TINYINT(1)"
    | "TIMESTAMP" => some "DATETIME"
    | "SERIAL" => some "INT"
    | "BIGSERIAL" => some "BIGINT"
    | "INTEGER" => some "INT"
    | "DOUBLE PRECISION" => some "DOUBLE"
    | _ => none
  else
    match name with
    | "DOUBLE" => some "DOUBLE PRECISION"
    | "DATETIME" => some "TIMESTAMP"
    | "INT" => some "INTEGER"
    | _ => none

def Dialect.mapType (d : Dialect) (sqlType : String) : String :=
  let trimmed := trim sqlType.toList
  if !d.usesBackticks && spells trimmed "TINYINT(1)" then
    "BOOLEAN"
  else
    let (name, parameters) := typeParts trimmed
    match d.typeName? (String.ofList name) with
    | some name => name ++ String.ofList parameters
    | none => String.ofList trimmed

end SchemaDesign
