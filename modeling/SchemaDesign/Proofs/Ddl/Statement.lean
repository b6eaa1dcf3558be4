import Mathlib.Data.List.Basic
import SchemaDesign.Ddl.Script
import SchemaDesign.Proofs.Ddl.Quotation

namespace SchemaDesign

structure Statement where
  table : String
  definitions : List (List Char)
deriving DecidableEq, Repr

namespace Dialect

def createdTable? (d : Dialect) (line : List Char) : Option String :=
  ((line.dropPrefix? "CREATE TABLE ".toList).bind d.unquote?).map (·.1)

def statementsIn (d : Dialect) : List (List Char) → List Statement
  | [] => []
  | line :: lines =>
    (d.createdTable? line).toList.map (⟨·, lines.takeWhile (·.head? ≠ some ')')⟩) ++ d.statementsIn lines

def statements (d : Dialect) (sql : String) : List Statement :=
  d.statementsIn (sql.toList.splitOn '\n')

def foreignKeyName? (d : Dialect) (definition : List Char) : Option String :=
  match (definition.dropPrefix? "CONSTRAINT ".toList).bind d.unquote? with
  | some (name, rest) => if " FOREIGN KEY ".toList.isPrefixOf rest then some name else none
  | none => none

def autoIncrement? (d : Dialect) (definition : List Char) : Option String :=
  match d.unquote? definition with
  | some (name, rest) =>
    if " AUTO_INCREMENT".toList.isSuffixOf rest || " AUTO_INCREMENT,".toList.isSuffixOf rest then some name else none
  | none => none

end Dialect

namespace Statement

def definition? (line : List Char) : Option (List Char) :=
  line.dropPrefix? Dialect.indent.toList

def foreignKeyNames (d : Dialect) (s : Statement) : List String :=
  s.definitions.filterMap fun line => (definition? line).bind d.foreignKeyName?

def autoIncrements (d : Dialect) (s : Statement) : List String :=
  s.definitions.filterMap fun line => (definition? line).bind d.autoIncrement?

end Statement

section Lines

def commaLines : List String → List (List Char)
  | [] => [[]]
  | [line] => [line.toList]
  | line :: next :: lines => (line.toList ++ [',']) :: commaLines (next :: lines)

variable {lines : List String} {α : Type}

theorem flatMap_commaLines (lines : List String) :
    (commaLines lines).flatMap (· ++ ['\n']) = (",\n".intercalate lines).toList ++ ['\n'] := by
  rw [String.toList_intercalate]
  fun_induction commaLines lines with
  | case1 => rfl
  | case2 line => simp
  | case3 line next lines ih =>
    simp only [List.flatMap_cons, ih, List.map_cons, List.intercalate_cons_cons]
    simp

theorem mem_commaLines {line : List Char} (h : line ∈ commaLines lines) :
    line = [] ∨ ∃ s ∈ lines, line = s.toList ∨ line = s.toList ++ [','] := by
  fun_induction commaLines lines with
  | case1 => exact Or.inl (List.mem_singleton.1 h)
  | case2 s => exact Or.inr ⟨s, List.mem_singleton_self s, Or.inl (List.mem_singleton.1 h)⟩
  | case3 s next lines ih =>
    rw [List.mem_cons] at h
    cases h with
    | inl hfirst => exact Or.inr ⟨s, List.mem_cons_self .., Or.inr hfirst⟩
    | inr hrest =>
      obtain hnil | ⟨s', hs', hline⟩ := ih hrest
      . exact Or.inl hnil
      . exact Or.inr ⟨s', List.mem_cons_of_mem _ hs', hline⟩

theorem filterMap_commaLines {f : List Char → Option α} (hnil : f [] = none)
    (hcomma : ∀ s ∈ lines, f (s.toList ++ [',']) = f s.toList) :
    (commaLines lines).filterMap f = lines.filterMap fun s => f s.toList := by
  fun_induction commaLines lines with
  | case1 => simp [hnil]
  | case2 s => rfl
  | case3 s next lines ih =>
    rw [List.forall_mem_cons] at hcomma
    rw [List.filterMap_cons, List.filterMap_cons, hcomma.1, ih hcomma.2]

theorem splitOn_flatMap_newline {ls : List (List Char)} (h : ∀ line ∈ ls, '\n' ∉ line) :
    (ls.flatMap (· ++ ['\n'])).splitOn '\n' = ls ++ [[]] := by
  induction ls with
  | nil => rfl
  | cons line ls ih =>
    rw [List.forall_mem_cons] at h
    rw [List.flatMap_cons, List.append_assoc, List.singleton_append, List.splitOn_append_cons_self,
      List.splitOn_eq_singleton h.1, ih h.2]
    rfl

end Lines

end SchemaDesign
