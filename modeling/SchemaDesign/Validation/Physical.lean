import SchemaDesign.Physical.Basic
import SchemaDesign.Typing.Serial
import SchemaDesign.Validation.Logical

namespace SchemaDesign

open Text

def normalType (sqlType : String) : List Char :=
  let compact := upcase (unwords (words sqlType.toList))
  if compact = "INTEGER".toList then "INT".toList else compact

def typesCompatible (found expected : String) : Bool :=
  normalType found == normalType expected ||
    -- The placeholder of a column that counts up also goes with its integer type in any dialect.
    (isSerial expected &&
      [Dialect.mysql, .postgresql].any fun d => normalType (serialBase expected d) == normalType found)

namespace PhysicalModel

def target? (m : PhysicalModel) (fk : ForeignKey) : Option PhysicalColumn :=
  (m.table? fk.table).bind (·.column? fk.column)

def checkColumn (m : PhysicalModel) (t : PhysicalTable) (c : PhysicalColumn) : Outcome Unit :=
  if (trim c.sqlType.toList).isEmpty then
    Outcome.reportIn t.name (.emptyType (t.name ++ "." ++ c.name))
  else
    match c.reference.bind m.target? with
    | some target =>
      Outcome.reportIf (!typesCompatible c.sqlType target.sqlType) t.name
        (.foreignKeyTypeMismatch (t.name ++ "." ++ c.name) c.sqlType target.sqlType)
    | none => pure ()

def check (m : PhysicalModel) : Outcome Unit := do
  m.toLogical.check
  Outcome.each (fun t => Outcome.each (m.checkColumn t) t.columns) m.tables

end PhysicalModel

end SchemaDesign
