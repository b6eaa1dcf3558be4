import SchemaDesign.Physical.Basic

/-!
This module contains the order in which tables are created: each after the tables that it refers to.
-/

namespace SchemaDesign.PhysicalModel

def parents (m : PhysicalModel) (name : String) : List String :=
  -- Of several tables of one name the last one speaks for all.
  match m.tables.reverse.find? (·.name = name) with
  | none => []
  | some t =>
    (t.toTable.references.map (·.table)).filter fun target =>
      target ≠ name && m.tables.any (·.name = target)

def isReady (m : PhysicalModel) (created : List String) (t : PhysicalTable) : Bool :=
  (m.parents t.name).all (· ∈ created)

def ready (m : PhysicalModel) (created : List String) (ts : List PhysicalTable) : List PhysicalTable :=
  ts.filter (m.isReady created)

def waiting (m : PhysicalModel) (created : List String) (ts : List PhysicalTable) : List PhysicalTable :=
  ts.filter fun t => !m.isReady created t

theorem length_ready_add_length_waiting (m : PhysicalModel) (created : List String)
    (ts : List PhysicalTable) :
    (m.ready created ts).length + (m.waiting created ts).length = ts.length := by
  simp only [ready, waiting, ← List.countP_eq_length_filter]
  rw [List.length_eq_countP_add_countP (m.isReady created) (l := ts)]
  simp

/--
Create tables in rounds. A round creates, in the order of the model, the tables whose parents have been created in
earlier rounds. When there are none the remaining tables follow as they are.
-/
def createRounds (m : PhysicalModel) (created : List String) (remaining : List PhysicalTable) :
    List PhysicalTable :=
  match _h : m.ready created remaining with
  | [] => remaining
  | t :: ts =>
    (t :: ts) ++ m.createRounds (created ++ (t :: ts).map (·.name)) (m.waiting created remaining)
termination_by remaining.length
decreasing_by
  have := m.length_ready_add_length_waiting created remaining
  simp only [_h, List.length_cons] at this
  omega

def dependencyOrder (m : PhysicalModel) : List PhysicalTable :=
  m.createRounds [] m.tables

end SchemaDesign.PhysicalModel
