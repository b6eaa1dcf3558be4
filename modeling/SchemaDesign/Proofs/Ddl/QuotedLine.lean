import SchemaDesign.Proofs.Ddl.Script

/-!
This module contains the reading of a script whose names may have line breaks and quote characters in them. A line break
between quote characters does not end a line, so that the statements come back whatever the names are.
-/

namespace SchemaDesign

/--
The lines of a text, from within a quotation or from outside. A line break in a quotation does not count.
-/
def quotedLines (q : Char) : Bool → List Char → List (List Char)
  | _, [] => [[]]
  | true, c :: cs => (quotedLines q (c ≠ q) cs).modifyHead (c :: ·)
  | false, c :: cs =>
    if c = '\n' then [] :: quotedLines q false cs else (quotedLines q (c = q) cs).modifyHead (c :: ·)

section Closed

def Closed (q : Char) (cs : List Char) : Prop :=
  ∀ rest, quotedLines q false (cs ++ rest) = (quotedLines q false rest).modifyHead (cs ++ ·)

variable {q : Char} {cs cs' : List Char}

theorem closed_nil : Closed q [] := by
  intro rest
  rw [List.nil_append]
  cases quotedLines q false rest <;> rfl

theorem Closed.append (h : Closed q cs) (h' : Closed q cs') : Closed q (cs ++ cs') := by
  intro rest
  rw [List.append_assoc, h, h', List.modifyHead_modifyHead]
  congr 1
  funext line
  exact (List.append_assoc ..).symm

theorem closed_of_notMem (hquote : q ∉ cs) (hline : '\n' ∉ cs) : Closed q cs := by
  induction cs with
  | nil => exact closed_nil
  | cons c cs ih =>
    rw [List.mem_cons, not_or] at hquote hline
    intro rest
    rw [List.cons_append, quotedLines, if_neg (Ne.symm hline.1), decide_eq_false (Ne.symm hquote.1),
      ih hquote.2 hline.2, List.modifyHead_modifyHead]
    rfl

theorem quotedLines_doubled (hq : q ≠ '\n') (name rest : List Char) :
    quotedLines q true (name.flatMap (fun c => if c = q then [q, q] else [c]) ++ q :: rest)
      =
    (quotedLines q false rest).modifyHead (name.flatMap (fun c => if c = q then [q, q] else [c]) ++ [q] ++ ·) := by
  induction name with
  | nil =>
    rw [List.flatMap_nil, List.nil_append, quotedLines, decide_eq_false (not_not.2 rfl)]
    rfl
  | cons c name ih =>
    rw [List.flatMap_cons, List.append_assoc]
    split
    . rw [List.cons_append, List.cons_append, List.nil_append, quotedLines, decide_eq_false (not_not.2 rfl),
        quotedLines, if_neg hq, decide_eq_true rfl, ih, List.modifyHead_modifyHead, List.modifyHead_modifyHead]
      rfl
    . next hc =>
      rw [List.singleton_append, quotedLines, decide_eq_true hc, ih, List.modifyHead_modifyHead]
      rfl

theorem quotedLines_flatMap_newline {ls : List (List Char)} (h : ∀ line ∈ ls, Closed q line) :
    quotedLines q false (ls.flatMap (· ++ ['\n'])) = ls ++ [[]] := by
  induction ls with
  | nil => rfl
  | cons line ls ih =>
    rw [List.forall_mem_cons] at h
    rw [List.flatMap_cons, List.append_assoc, h.1, List.singleton_append, quotedLines, if_pos rfl, ih h.2,
      List.modifyHead_cons, List.append_nil]
    rfl

end Closed

namespace Dialect

variable {d : Dialect}

def quotedStatements (d : Dialect) (sql : String) : List Statement :=
  d.statementsIn (quotedLines d.quoteChar false sql.toList)

theorem closed_of_unquoted {s : String} (h : Unquoted s) : Closed d.quoteChar s.toList := by
  apply closed_of_notMem
  . intro hmem
    have hquote := h d.quoteChar hmem
    cases d <;> simp [quoteChar, usesBackticks] at hquote
  . intro hmem
    have hline := h '\n' hmem
    simp at hline

theorem closed_quote (d : Dialect) (name : String) : Closed d.quoteChar (d.quote name).toList := by
  have hquote : d.quoteChar ≠ '\n' := by cases d <;> decide
  intro rest
  simp only [quote, String.toList_ofList, List.cons_append, List.append_assoc, List.nil_append]
  rw [quotedLines, if_neg hquote, decide_eq_true rfl, quotedLines_doubled hquote, List.modifyHead_modifyHead]
  congr 1
  funext line
  simp

theorem isJoinable_closed (d : Dialect) : IsJoinable (Closed d.quoteChar) where
  plain _ hs := closed_of_unquoted hs
  append _ _ hcs hcs' := hcs.append hcs'

def ClosesTail (d : Dialect) (c : PhysicalColumn) : Prop :=
  ∀ s ∈ c.dialectType d :: c.constraints.map Constraint.sql, Closed d.quoteChar s.toList

theorem quotedStatements_sql (m : PhysicalModel) (hm : ∀ t ∈ m.dependencyOrder, ∀ c ∈ t.columns, d.ClosesTail c) :
    d.quotedStatements (m.sql d) = m.dependencyOrder.map d.statement := by
  have hlines : ∀ line ∈ d.scriptLines m, Closed d.quoteChar line := by
    apply (isJoinable_closed d).scriptLines m
    intro t ht
    exact ⟨closed_quote d _, fun c _ => closed_quote d _, hm t ht, fun _ _ _ _ _ _ => closed_quote d _⟩
  rw [quotedStatements, ← flatMap_scriptLines, quotedLines_flatMap_newline hlines]
  exact statementsIn_scriptLines m

end Dialect

end SchemaDesign
