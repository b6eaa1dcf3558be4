namespace SchemaDesign

inductive Level where
  | conceptual
  | logical
  | physical
deriving DecidableEq, Repr

namespace Level

def name : Level → String
  | conceptual => "conceptual"
  | logical => "logical"
  | physical => "physical"

def title : Level → String
  | conceptual => "Conceptual"
  | logical => "Logical"
  | physical => "Physical"

def ofName? : String → Option Level
  | "conceptual" => some conceptual
  | "logical" => some logical
  | "physical" => some physical
  | _ => none

end Level

end SchemaDesign
