import SchemaDesign.Distinct
import SchemaDesign.Logical.Basic

namespace SchemaDesign.LogicalModel

def targets (m : LogicalModel) (name : String) : List String :=
  distinct <|
    ((m.tables.filter (·.name = name)).flatMap fun t => t.references.map (·.table)).filter fun target =>
      target ≠ name && m.hasTable target

structure CycleSearch where
  visited : List String
  cycles : List (List String)
deriving DecidableEq, Repr

/--
Enter a table and go on to all tables it refers to that have not been entered. `path` leads to the table. A
reference to a table on the way closes a cycle. No way without a repetition is longer than the number of
tables, which bounds the depth.
-/
def visit (m : LogicalModel) : (depth : Nat) → (path : List String) → String → CycleSearch → CycleSearch
  | 0, _, _, s => s
  | depth + 1, path, name, s =>
    let path := path ++ [name]
    (m.targets name).foldl
      (fun s target =>
        match path.idxOf? target with
        | some start => { s with cycles := s.cycles ++ [path.drop start ++ [target]] }
        -- All references of a table that is not on the path any more have been followed.
        | none => if target ∈ s.visited then s else m.visit depth path target s)
      { s with visited := name :: s.visited }

def findCycles (m : LogicalModel) : List (List String) :=
  (m.tables.foldl
    (fun s t => if t.name ∈ s.visited then s else m.visit m.tables.length [] t.name s)
    ⟨[], []⟩).cycles

end SchemaDesign.LogicalModel
