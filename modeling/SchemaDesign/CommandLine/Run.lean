import SchemaDesign.CommandLine.Arguments
import SchemaDesign.Compile
import SchemaDesign.Settings.Reader

namespace SchemaDesign.CommandLine

structure Host (m : Type → Type) where
  read : String → m (Except String String)
  write : String → String → m (Except String Unit)

inductive Ending where
  | refused (reason : Refusal)
  | unreadable (file reason : String)
  | invalidSettings (file : String)
  | unsupported (source : Level) (target : Target)
  | rejected (rejection : Rejection)
  | unwritable (warnings : Diagnostics) (file reason : String)
  | stored (warnings : Diagnostics)
  | printed (warnings : Diagnostics) (text : String)
deriving DecidableEq, Repr

namespace Ending

def usageLine : String :=
  "Usage: merise [OPTIONS] <INPUT>\n"

def exitCode : Ending → Nat
  | refused .help | stored _ | printed .. => 0
  | rejected _ => 1
  | refused .usage | unreadable .. | invalidSettings _ | unsupported .. | unwritable .. => 2

def stdout : Ending → String
  | refused .help => "Compile Merise models to relational schemas and SQL DDL\n\n" ++ usageLine
  | printed _ text => text
  | _ => ""

def stderr : Ending → String
  | refused .help => ""
  | refused .usage => usageLine
  | unreadable file reason => "Failed to read " ++ file ++ ": " ++ reason ++ "\n"
  | invalidSettings file => "Invalid config " ++ file ++ "\n"
  | unsupported source target =>
    "Cannot produce " ++ target.title ++ " from a " ++ source.title ++ " model\n"
  | rejected rejection => rejection.diagnostics.render ++ rejection.message ++ "\n"
  | unwritable warnings file reason =>
    warnings.render ++ "Failed to write " ++ file ++ ": " ++ reason ++ "\n"
  | stored warnings => warnings.render
  | printed warnings _ => warnings.render

end Ending

def produce? (source : Level) (target : Target) (text : String) (settings : Settings) :
    Option (Staged String) :=
  match source, target with
  | .conceptual, .logical => some (written LogicalModel.write (conceptualToLogical text settings))
  | .conceptual, .physical => some (written PhysicalModel.write (conceptualToPhysical text settings))
  | .conceptual, .sql => some (conceptualToSql text settings)
  | .conceptual, .check => some (written (fun _ => "") (checkConceptual text))
  | .logical, .physical => some (written PhysicalModel.write (logicalToPhysical text settings))
  | .logical, .sql => some (logicalToSql text settings)
  | .logical, .check => some (written (fun _ => "") (checkLogical text))
  | .physical, .sql => some (physicalToSql text settings)
  | .physical, .check => some (written (fun _ => "") (checkPhysical text))
  | .logical, .logical | .physical, .logical | .physical, .physical => none
where
  written {α : Type} (write : α → String) (staged : Staged α) : Staged String :=
    staged.map fun outcome => ⟨write outcome.value, outcome.diagnostics⟩

def Arguments.applyTo (a : Arguments) (s : Settings) : Settings :=
  -- Options come before what is set in a file.
  ⟨a.strategy.getD s.inheritance, a.dialect.getD s.dialect, a.textLength.getD s.textLength⟩

variable {m : Type → Type} [Monad m]

def loadSettings (host : Host m) (a : Arguments) : m (Except Ending Settings) :=
  match a.config with
  | none => return .ok (a.applyTo .standard)
  | some file => do
    match ← host.read file with
    | .error reason => return .error (.unreadable file reason)
    | .ok text =>
      match Settings.read text with
      | none => return .error (.invalidSettings file)
      | some s => return .ok (a.applyTo s)

def deliver (host : Host m) (a : Arguments) (settings : Settings) (text : String) : m Ending := do
  let source := a.source.getD .conceptual
  let target := a.target.getD .sql
  match produce? source target text settings with
  | none => return .unsupported source target
  | some (.error rejection) => return .rejected rejection
  | some (.ok outcome) =>
    match a.output with
    | none => return .printed outcome.diagnostics outcome.value
    | some file =>
      match ← host.write file outcome.value with
      | .ok () => return .stored outcome.diagnostics
      | .error reason => return .unwritable outcome.diagnostics file reason

def run (host : Host m) (args : List String) : m Ending := do
  match Arguments.read args with
  | .error reason => return .refused reason
  | .ok (input, a) =>
    match ← loadSettings host a with
    | .error ending => return ending
    | .ok settings =>
      match ← host.read input with
      | .error reason => return .unreadable input reason
      | .ok text => deliver host a settings text

end SchemaDesign.CommandLine
