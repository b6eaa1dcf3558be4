import SchemaDesign.Proofs.Ddl.Definition
import SchemaDesign.Proofs.Ddl.QuotedLine

namespace SchemaDesign

namespace Dialect

def firstWord (text : List Char) : List Char :=
  (text.dropWhile (· = ' ')).takeWhile fun a => a ≠ ' ' && a ≠ ','

def serialTypes : List (List Char) :=
  ["SERIAL".toList, "BIGSERIAL".toList]

def serial? (d : Dialect) (definition : List Char) : Option String :=
  match d.unquote? definition with
  | some (name, rest) => if firstWord rest ∈ serialTypes then some name else none
  | none => none

def counting? (d : Dialect) (definition : List Char) : Option String :=
  if d.usesBackticks then d.autoIncrement? definition else d.serial? definition

def countingColumns (d : Dialect) (sql : String) : List (String × String) :=
  (d.quotedStatements sql).flatMap fun s =>
    (s.definitions.filterMap fun line => (Statement.definition? line).bind d.counting?).map (s.table, ·)

variable {d : Dialect} {t : PhysicalTable} {c : PhysicalColumn}

section Word

theorem firstWord_blank {padding : List Char} (h : ∀ a ∈ padding, a = ' ') (text : List Char) :
    firstWord (padding ++ ' ' :: text) = firstWord text := by
  rw [firstWord, List.dropWhile_append_of_pos (by simpa using h), List.dropWhile_cons_of_pos (by decide)]
  rfl

theorem firstWord_append {a : Char} (ha : a ≠ ' ') (text : List Char) {rest : List Char}
    (hrest : ∀ b ∈ rest.head?, b = ' ' ∨ b = ',') : firstWord (a :: text ++ rest) = firstWord (a :: text) := by
  have hstop : ∀ b ∈ rest.head?, (b ≠ ' ' && b ≠ ',') = false := by
    intro b hb
    obtain rfl | rfl := hrest b hb
    . decide
    . decide
  have hfirst : ∀ text, firstWord (a :: text) = (a :: text).takeWhile fun b => b ≠ ' ' && b ≠ ',' := by
    intro text
    rw [firstWord, List.dropWhile_cons_of_neg (by simpa using ha)]
  rw [List.cons_append, hfirst, hfirst, ← List.cons_append, Text.takeWhile_append_of_head? (a :: text) hstop]

theorem exists_columnTail (d : Dialect) (c : PhysicalColumn) : ∃ more, (∀ a ∈ more.head?, a = ' ')
    ∧ (d.columnTail c).toList = (c.dialectType d).toList ++ more := by
  rw [columnTail, String.toList_intercalate, List.cons_append, List.map_cons]
  cases (List.map String.toList
      (c.constraints.map Constraint.sql ++ if c.isCounting && d.usesBackticks then ["AUTO_INCREMENT"] else [])) with
  | nil => exact ⟨[], by simp, by simp⟩
  | cons part parts =>
    refine ⟨_, ?_, by rw [List.intercalate_cons_cons, List.append_assoc]⟩
    simp

end Word

section Reading

structure IsTidy (s : String) : Prop where
  unquoted : Unquoted s
  unmarked : ∀ ending ∈ markEndings, ¬ending <:+ s.toList
  nonempty : s.toList ≠ []
  unpadded : s.toList.head? ≠ some ' '

instance (s : String) : Decidable (IsTidy s) :=
  decidable_of_iff
    (Unquoted s ∧ (∀ ending ∈ markEndings, ¬ending <:+ s.toList) ∧ s.toList ≠ [] ∧ s.toList.head? ≠ some ' ')
    ⟨fun h => ⟨h.1, h.2.1, h.2.2.1, h.2.2.2⟩, fun h => ⟨h.1, h.2, h.3, h.4⟩⟩

structure Legible (d : Dialect) (c : PhysicalColumn) : Prop where
  tidy : ∀ s ∈ c.dialectType d :: c.constraints.map Constraint.sql, IsTidy s
  word : firstWord (c.dialectType d).toList ∈ serialTypes ↔ (c.isCounting && !d.usesBackticks) = true

theorem serial?_columnDefinition (hd : d.usesBackticks = false) (hc : d.Legible c) (width : Nat) {tail : List Char}
    (htail : tail ∈ [[], [',']]) :
    d.serial? ((d.columnDefinition width c).toList ++ tail) = if c.isCounting then some c.name else none := by
  obtain ⟨padding, hpadding, hread⟩ := unquote?_columnDefinition d width c tail
  obtain ⟨more, hmore, hcolumn⟩ := exists_columnTail d c
  have htidy : IsTidy (c.dialectType d) := hc.tidy _ (List.mem_cons_self ..)
  obtain ⟨a, type, htype⟩ := List.exists_cons_of_ne_nil htidy.nonempty
  have ha : a ≠ ' ' := by simpa [htype] using htidy.unpadded
  have hrest : ∀ b ∈ (more ++ tail).head?, b = ' ' ∨ b = ',' := by
    cases more with
    | nil =>
      simp only [List.mem_cons, List.not_mem_nil, or_false] at htail
      obtain rfl | rfl := htail
      . simp
      . simp
    | cons b more => simpa using Or.inl (hmore b rfl)
  have hword : firstWord (padding ++ ' ' :: (d.columnTail c).toList ++ tail) = firstWord (c.dialectType d).toList := by
    rw [List.append_assoc, List.cons_append, firstWord_blank hpadding, hcolumn, htype, List.append_assoc,
      firstWord_append ha type hrest]
  rw [serial?, hread]
  simp only [hword, hc.word, hd, Bool.not_false, Bool.and_true]

theorem counting?_columnDefinition (hc : d.Legible c) (width : Nat) {tail : List Char} (htail : tail ∈ [[], [',']]) :
    d.counting? ((d.columnDefinition width c).toList ++ tail) = if c.isCounting then some c.name else none := by
  unfold counting?
  split
  . next hd => exact autoIncrement?_columnDefinition hd (fun s hs => (hc.tidy s hs).unmarked) width htail
  . next hd => exact serial?_columnDefinition (by simpa using hd) hc width htail

theorem counting?_eq_none {text : List Char} (h : ∀ a ∈ text.head?, a ≠ d.quoteChar) : d.counting? text = none := by
  have hread : d.unquote? text = none := by
    cases text with
    | nil => rfl
    | cons a text => exact if_neg (h a rfl)
  unfold counting?
  split
  . exact autoIncrement?_eq_none h
  . rw [serial?, hread]

theorem filterMap_counting? (ht : ∀ c ∈ t.columns, d.Legible c) :
    (d.statement t).definitions.filterMap (fun line => (Statement.definition? line).bind d.counting?)
      =
    (t.columns.filter (·.isCounting)).map (·.name) := by
  rw [filterMap_statement (fun c => if c.isCounting then some c.name else none) fun _ _ => none]
  . simp only [Option.bind_fun_none, List.filterMap_none, List.append_nil]
    rw [← List.filterMap_filter, List.filterMap_eq_map']
  . intro c hc width tail htail
    exact counting?_columnDefinition (ht c hc) width htail
  . intro s hs tail _
    apply counting?_eq_none
    unfold keyDefinitions at hs
    split at hs
    . contradiction
    . rw [List.mem_singleton] at hs
      cases d <;> simp [hs, quoteChar, usesBackticks]
  . intro c _ fk _ tail _
    apply counting?_eq_none
    cases d <;> simp [foreignKey, quoteChar, usesBackticks]

theorem countingColumns_sql (m : PhysicalModel) (hm : ∀ t ∈ m.dependencyOrder, ∀ c ∈ t.columns, d.Legible c) :
    d.countingColumns (m.sql d)
      =
    m.dependencyOrder.flatMap fun t => (t.columns.filter (·.isCounting)).map fun c => (t.name, c.name) := by
  have hcloses : ∀ t ∈ m.dependencyOrder, ∀ c ∈ t.columns, d.ClosesTail c := by
    intro t ht c hc s hs
    exact closed_of_unquoted ((hm t ht c hc).tidy s hs).unquoted
  rw [countingColumns, quotedStatements_sql m hcloses, List.flatMap_map]
  apply List.flatMap_congr
  intro t ht
  rw [filterMap_counting? (hm t ht), List.map_map]
  rfl

end Reading

end Dialect

end SchemaDesign
