import SchemaDesign.Logical.Basic

namespace SchemaDesign

structure LocatedColumn where
  table : String
  column : Column
deriving DecidableEq, Repr

namespace LocatedColumn

def isAt (l : LocatedColumn) (table column : String) : Bool :=
  l.table = table && l.column.name = column

end LocatedColumn

namespace LogicalModel

def located (m : LogicalModel) : List LocatedColumn :=
  m.tables.flatMap fun t => t.columns.map (⟨t.name, ·⟩)

def lastAt? (columns : List LocatedColumn) (table column : String) : Option LocatedColumn :=
  columns.reverse.find? (·.isAt table column)

def elsewhere (columns : List LocatedColumn) (table column : String) : List LocatedColumn :=
  columns.filter (!·.isAt table column)

theorem length_elsewhere_lt {columns : List LocatedColumn} {table column : String} {l : LocatedColumn}
    (h : lastAt? columns table column = some l) :
    (elsewhere columns table column).length < columns.length := by
  rw [elsewhere, ← List.countP_eq_length_filter]
  refine Nat.lt_of_le_of_ne List.countP_le_length fun hall => ?_
  have hmem := List.mem_reverse.1 (List.mem_of_find?_eq_some h)
  have := List.countP_eq_length.1 hall l hmem
  have := List.find?_some h
  simp_all

/--
The column without a reference that a reference leads to, through columns that refer to further ones. There is
none if the way leaves the model or comes back to where it has been. `source` is where the way starts.
-/
def resolve? (m : LogicalModel) (source : LocatedColumn) (fk : ForeignKey) : Option LocatedColumn :=
  go (elsewhere referring source.table source.column.name) fk
where
  settled : List LocatedColumn :=
    m.located.filter (·.column.reference.isNone)
  referring : List LocatedColumn :=
    m.located.filter (·.column.reference.isSome)
  go (unvisited : List LocatedColumn) (fk : ForeignKey) : Option LocatedColumn :=
    match lastAt? settled fk.table fk.column with
    | some found => some found
    | none =>
      match _h : lastAt? unvisited fk.table fk.column with
      | none => none
      | some next =>
        match next.column.reference with
        | none => none
        | some fk' => go (elsewhere unvisited fk.table fk.column) fk'
  termination_by unvisited.length
  decreasing_by exact length_elsewhere_lt _h

end LogicalModel

end SchemaDesign
