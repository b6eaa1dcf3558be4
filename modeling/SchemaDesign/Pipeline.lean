import SchemaDesign.Conceptual.Reader
import SchemaDesign.Ddl.Script
import SchemaDesign.Derivation
import SchemaDesign.Logical.Reader
import SchemaDesign.Physical.Reader
import SchemaDesign.Typing
import SchemaDesign.Validation.Conceptual
import SchemaDesign.Validation.Physical

/-!
This module contains the ways from a document to a model of a later level or to a script. Every stage runs to
its end, and the way ends after the first stage by which an error has been found.
-/

namespace SchemaDesign

inductive Stage where
  | readConceptual
  | readLogical
  | readPhysical
  | derive
  | assignTypes
deriving DecidableEq, Repr

def Stage.title : Stage → String
  | readConceptual => "conceptual model"
  | readLogical => "logical model"
  | readPhysical => "physical model"
  | derive => "logical conversion"
  | assignTypes => "physical conversion"

structure Rejection where
  stage : Stage
  diagnostics : Diagnostics
deriving DecidableEq, Repr

def Rejection.message (r : Rejection) : String :=
  r.stage.title ++ " rejected with " ++ toString r.diagnostics.errors.length ++ " error(s)"

/--
A way through stages: from the diagnostics so far to a rejection, or to a value and the diagnostics so far.
-/
abbrev Pipeline (α : Type) := StateT Diagnostics (Except Rejection) α

namespace Pipeline

def accept {α : Type} (stage : Stage) (step : Outcome α) : Pipeline α := fun known =>
  let all := known.merge step.diagnostics
  if all.hasErrors then .error ⟨stage, all⟩ else .ok (step.value, all)

def run {α : Type} (p : Pipeline α) : Except Rejection (Outcome α) :=
  (p []).map fun (value, diagnostics) => ⟨value, diagnostics⟩

def readConceptual (text : String) : Pipeline ConceptualModel := do
  let m ← accept .readConceptual (ConceptualModel.read text)
  accept .readConceptual m.check
  return m

def readLogical (text : String) : Pipeline LogicalModel := do
  let m ← accept .readLogical (LogicalModel.read text)
  accept .readLogical m.check
  return m

def readPhysical (text : String) : Pipeline PhysicalModel := do
  let m ← accept .readPhysical (PhysicalModel.read text)
  accept .readPhysical m.check
  return m

def derive (settings : Settings) (m : ConceptualModel) : Pipeline LogicalModel := do
  let logical ← accept .derive (m.toLogical settings)
  accept .derive logical.check
  return logical

def assignTypes (settings : Settings) (m : LogicalModel) : Pipeline PhysicalModel := do
  let physical ← accept .assignTypes (m.toPhysical settings)
  accept .assignTypes physical.check
  return physical

end Pipeline

open Pipeline

abbrev Staged (α : Type) := Except Rejection (Outcome α)

def conceptualToLogical (text : String) (settings : Settings) : Staged LogicalModel :=
  run do derive settings (← readConceptual text)

def conceptualToPhysical (text : String) (settings : Settings) : Staged PhysicalModel :=
  run do assignTypes settings (← derive settings (← readConceptual text))

def conceptualToSql (text : String) (settings : Settings) : Staged String :=
  run do return (← assignTypes settings (← derive settings (← readConceptual text))).sql settings.dialect

def logicalToPhysical (text : String) (settings : Settings) : Staged PhysicalModel :=
  run do assignTypes settings (← readLogical text)

def logicalToSql (text : String) (settings : Settings) : Staged String :=
  run do return (← assignTypes settings (← readLogical text)).sql settings.dialect

def physicalToSql (text : String) (settings : Settings) : Staged String :=
  run do return (← readPhysical text).sql settings.dialect

def checkConceptual (text : String) : Staged Unit :=
  run do discard (readConceptual text)

def checkLogical (text : String) : Staged Unit :=
  run do discard (readLogical text)

def checkPhysical (text : String) : Staged Unit :=
  run do discard (readPhysical text)

end SchemaDesign
