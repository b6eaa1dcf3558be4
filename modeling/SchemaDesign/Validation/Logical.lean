import SchemaDesign.Logical.Cycle
import SchemaDesign.Outcome

namespace SchemaDesign.LogicalModel

def missingTarget? (m : LogicalModel) (fk : ForeignKey) : Option String :=
  match m.table? fk.table with
  | none => some fk.table
  | some t => if t.hasColumn fk.column then none else some (fk.table ++ "." ++ fk.column)

def checkReference (m : LogicalModel) (t : Table) (c : Column) : Outcome Unit :=
  match c.reference.bind m.missingTarget? with
  | some target => Outcome.reportIn t.name (.unknownReference (t.name ++ "." ++ c.name) target)
  | none => pure ()

def checkTable (m : LogicalModel) (before : List Table) (t : Table) : Outcome Unit := do
  Outcome.reportIf (before.any (·.name = t.name)) t.name (.duplicateName t.name)
  Outcome.reportIf t.keys.isEmpty t.name (.missingPrimaryKey t.name)
  Outcome.each (m.checkReference t) t.columns

def warnOfCycles (m : LogicalModel) : Outcome Unit :=
  Outcome.each (fun path => Outcome.reportIn (path.headD "") (.foreignKeyCycle path)) m.findCycles

def check (m : LogicalModel) : Outcome Unit := do
  Outcome.eachAfter m.checkTable m.tables
  m.warnOfCycles

end SchemaDesign.LogicalModel
