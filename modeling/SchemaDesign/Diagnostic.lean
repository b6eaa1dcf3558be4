import SchemaDesign.Distinct

/-!
This module contains the faults that can be found in a design, and the lists in which they are recorded.
No fault stops the reading, checking or conversion of a model: each is recorded with its scope, and
whoever asked decides whether the errors among them matter.
-/

namespace SchemaDesign

inductive Severity where
  | error
  | warning
deriving DecidableEq, Repr

inductive Issue where
  | unknownKeyword (keyword : String)
  | missingName (header : String)
  | unterminatedBlock (keyword name : String)
  | strayText (text : String)
  | malformedItem (text : String)
  | invalidCardinality (relation value : String)
  | unknownStrategy (value : String)
  | missingParent (group : String)
  | missingChildren (group : String)
  | missingAssociation (name : String)
  | missingType (column : String)
  | duplicateColumn (table column : String)
  | missingPrimaryKey (owner : String)
  | multiplePrimaryKeys (entity : String) (count : Nat)
  | duplicateName (name : String)
  | tooFewParticipants (relation : String) (count : Nat)
  | unknownReference (source target : String)
  | emptyType (column : String)
  | flattenedReference (column parent : String)
  | orphanEntity (entity : String)
  | foreignKeyCycle (path : List String)
  | unknownReferentialAction (action : String)
  | foreignKeyTypeMismatch (column found expected : String)
deriving DecidableEq, Repr

namespace Issue

def severity : Issue → Severity
  | orphanEntity _ | foreignKeyCycle _ | unknownReferentialAction _ | foreignKeyTypeMismatch .. =>
    .warning
  | _ => .error

def message : Issue → String
  | unknownKeyword keyword => "unknown block keyword `" ++ keyword ++ "`"
  | missingName header => "block header `" ++ header ++ "` has no name"
  | unterminatedBlock keyword name => "block `" ++ keyword ++ " " ++ name ++ "` is never closed"
  | strayText text => "unexpected text outside of a block: `" ++ text ++ "`"
  | malformedItem text => "malformed item `" ++ text ++ "`"
  | invalidCardinality relation value =>
    "relation `" ++ relation ++ "` has invalid cardinality `" ++ value ++ "`"
  | unknownStrategy value => "unknown inheritance strategy `" ++ value ++ "`"
  | missingParent group => "inheritance group `" ++ group ++ "` has no PARENT"
  | missingChildren group => "inheritance group `" ++ group ++ "` has no CHILDREN"
  | missingAssociation name =>
    "associative entity `" ++ name ++ "` must be declared `ON <relation>`"
  | missingType column => "column `" ++ column ++ "` has no SQL type"
  | duplicateColumn table column =>
    "column `" ++ column ++ "` is declared twice in `" ++ table ++ "`"
  | missingPrimaryKey owner => "`" ++ owner ++ "` has no primary key"
  | multiplePrimaryKeys entity count =>
    "entity `" ++ entity ++ "` has " ++ toString count ++ " primary keys, expected exactly one"
  | duplicateName name => "`" ++ name ++ "` is declared more than once"
  | tooFewParticipants relation count =>
    "relation `" ++ relation ++ "` binds " ++ toString count
      ++ " participant(s), at least 2 required"
  | unknownReference source target => "`" ++ source ++ "` refers to unknown `" ++ target ++ "`"
  | emptyType column => "column `" ++ column ++ "` has an empty SQL type"
  | flattenedReference column parent =>
    "`" ++ column ++ "` references `" ++ parent ++ "`, which was flattened away"
  | orphanEntity entity =>
    "entity `" ++ entity ++ "` takes part in no relation or inheritance"
  | foreignKeyCycle path => "foreign-key cycle: " ++ " -> ".intercalate path
  | unknownReferentialAction action =>
    "unrecognized referential action `" ++ action ++ "` left unset"
  | foreignKeyTypeMismatch column found expected =>
    "`" ++ column ++ "` is typed `" ++ found ++ "` but references a `" ++ expected ++ "` column"

end Issue

structure Diagnostic where
  scope : Option String
  issue : Issue
deriving DecidableEq, Repr

namespace Diagnostic

def isError (d : Diagnostic) : Bool :=
  d.issue.severity == .error

def render (d : Diagnostic) : String :=
  let level := match d.issue.severity with
    | .error => "error"
    | .warning => "warning"
  match d.scope with
  | some scope => level ++ " [" ++ scope ++ "]: " ++ d.issue.message
  | none => level ++ ": " ++ d.issue.message

end Diagnostic

abbrev Diagnostics := List Diagnostic

namespace Diagnostics

def merge (ds others : Diagnostics) : Diagnostics :=
  addAllNew ds others

def errors (ds : Diagnostics) : Diagnostics :=
  ds.filter Diagnostic.isError

def warnings (ds : Diagnostics) : Diagnostics :=
  ds.filter (!·.isError)

def hasErrors (ds : Diagnostics) : Bool :=
  ds.any Diagnostic.isError

def render (ds : Diagnostics) : String :=
  String.join (ds.map fun d => d.render ++ "\n")

end Diagnostics

end SchemaDesign
