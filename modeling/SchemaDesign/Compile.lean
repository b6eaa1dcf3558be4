import SchemaDesign.Level
import SchemaDesign.Logical.Writer
import SchemaDesign.Physical.Writer
import SchemaDesign.Pipeline

/-!
This module contains the ways from text to text, for callers that name their choices by text as well.
-/

namespace SchemaDesign

inductive CompileError where
  | unknownDialect (name : String)
  | unknownStrategy (name : String)
  | unknownLevel (name : String)
  | rejected (rejection : Rejection)
deriving DecidableEq, Repr

def CompileError.message : CompileError → String
  | unknownDialect name => "unknown dialect `" ++ name ++ "`"
  | unknownStrategy name => "unknown inheritance strategy `" ++ name ++ "`"
  | unknownLevel name => "unknown model level `" ++ name ++ "`"
  | rejected rejection => rejection.message ++ "\n" ++ rejection.diagnostics.render

namespace Compile

def settings (dialect strategy : Option String) : Except CompileError Settings := do
  let dialect ← match dialect with
    | none => pure Settings.standard.dialect
    | some name =>
      match Dialect.ofName? name with
      | some dialect => pure dialect
      | none => throw (.unknownDialect name)
  let inheritance ← match strategy with
    | none => pure Settings.standard.inheritance
    | some name =>
      match InheritanceStrategy.ofName? name with
      | some strategy => pure strategy
      | none => throw (.unknownStrategy name)
  return { Settings.standard with dialect := dialect, inheritance := inheritance }

def textOf {α : Type} (write : α → String) (staged : Staged α) : Except CompileError String :=
  match staged with
  | .ok outcome => .ok (write outcome.value)
  | .error rejection => .error (.rejected rejection)

def toSql (source : String) (dialect strategy : Option String) : Except CompileError String := do
  textOf id (conceptualToSql source (← settings dialect strategy))

def toLogical (source : String) (strategy : Option String) : Except CompileError String := do
  textOf LogicalModel.write (conceptualToLogical source (← settings none strategy))

def toPhysical (source : String) (dialect strategy : Option String) :
    Except CompileError String := do
  textOf PhysicalModel.write (conceptualToPhysical source (← settings dialect strategy))

def validate (source : String) (level : Option String) : Except CompileError String := do
  let name := level.getD "conceptual"
  let staged := match Level.ofName? name with
    | some .conceptual => some (checkConceptual source)
    | some .logical => some (checkLogical source)
    | some .physical => some (checkPhysical source)
    | none => none
  match staged with
  | none => throw (.unknownLevel name)
  | some (.error rejection) => throw (.rejected rejection)
  | some (.ok outcome) => return outcome.diagnostics.render

end Compile

end SchemaDesign
