import SchemaDesign.Dialect

namespace SchemaDesign

inductive InheritanceStrategy where
  | tablePerClass
  | singleTable
  | tablePerSubclass
deriving DecidableEq, Repr

namespace InheritanceStrategy

def name : InheritanceStrategy → String
  | tablePerClass => "table_per_class"
  | singleTable => "single_table"
  | tablePerSubclass => "table_per_subclass"

def ofExactName? : String → Option InheritanceStrategy
  | "table_per_class" => some tablePerClass
  | "single_table" => some singleTable
  | "table_per_subclass" => some tablePerSubclass
  | _ => none

def ofName? (name : String) : Option InheritanceStrategy :=
  ofExactName? (String.ofList (Text.lowercase name.toList))

end InheritanceStrategy

structure Settings where
  inheritance : InheritanceStrategy
  dialect : Dialect
  textLength : Nat
deriving DecidableEq, Repr

def Settings.standard : Settings :=
  ⟨.tablePerClass, .mysql, 255⟩

end SchemaDesign
