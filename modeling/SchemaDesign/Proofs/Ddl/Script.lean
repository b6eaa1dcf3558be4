import SchemaDesign.Proofs.Ddl.Statement
import SchemaDesign.Proofs.Ddl.TypeName
import SchemaDesign.Proofs.Text.Lowercase

namespace SchemaDesign

def OneLine (s : String) : Prop :=
  '\n' ∉ s.toList

instance (s : String) : Decidable (OneLine s) :=
  inferInstanceAs (Decidable ('\n' ∉ s.toList))

section OneLine

variable {d : Dialect}

@[simp]
theorem oneLine_append {s s' : String} : OneLine (s ++ s') ↔ OneLine s ∧ OneLine s' := by
  simp [OneLine]

theorem oneLine_quote {name : String} (h : OneLine name) : OneLine (d.quote name) := by
  have hquote : d.quoteChar ≠ '\n' := by cases d <;> decide
  simp only [OneLine, Dialect.quote, String.toList_ofList, List.mem_append, List.mem_cons, List.mem_flatMap,
    List.not_mem_nil, or_false, not_or, not_exists, not_and]
  refine ⟨⟨hquote.symm, ?_⟩, hquote.symm⟩
  intro c hc hmem
  have hne : c ≠ '\n' := by
    rintro rfl
    exact h hc
  split at hmem
  . simp [hquote.symm] at hmem
  . rw [List.mem_singleton] at hmem
    exact hne hmem.symm

theorem oneLine_of_subset {s : String} {cs : List Char} (h : OneLine s) (hsub : cs ⊆ s.toList) :
    OneLine (String.ofList cs) := by
  rw [OneLine, String.toList_ofList]
  intro hmem
  exact h (hsub hmem)

theorem oneLine_typeName? {name s : String} (h : d.typeName? name = some s) : OneLine s := by
  have hown : ∀ own ∈ d.ownNames, OneLine own := by cases d <;> decide
  exact hown s (Dialect.mem_ownNames h)

theorem oneLine_mapType {sqlType : String} (h : OneLine sqlType) : OneLine (d.mapType sqlType) := by
  have htrimmed : OneLine (String.ofList (Text.trim sqlType.toList)) := oneLine_of_subset h Text.trim_subset
  unfold Dialect.mapType
  simp only
  split
  . decide
  . split
    . next name hname =>
      rw [oneLine_append]
      refine ⟨oneLine_typeName? hname, oneLine_of_subset htrimmed ?_⟩
      rw [String.toList_ofList]
      exact (List.dropWhile_suffix _).subset
    . exact htrimmed

structure PhysicalColumn.OneLine (c : PhysicalColumn) : Prop where
  name : SchemaDesign.OneLine c.name
  sqlType : SchemaDesign.OneLine c.sqlType
  constraints : ∀ constraint ∈ c.constraints, SchemaDesign.OneLine constraint.sql
  target : ∀ fk ∈ c.reference, SchemaDesign.OneLine fk.table ∧ SchemaDesign.OneLine fk.column

structure PhysicalTable.OneLine (t : PhysicalTable) : Prop where
  name : SchemaDesign.OneLine t.name
  columns : ∀ c ∈ t.columns, c.OneLine

end OneLine

namespace Dialect

variable {d : Dialect} {t : PhysicalTable} {c : PhysicalColumn}

def columnDefinition (d : Dialect) (width : Nat) (c : PhysicalColumn) : String :=
  d.quote c.name ++ (String.ofList (List.replicate (width - Text.displayWidth (d.quote c.name).toList) ' ')
    ++ (" " ++ d.columnTail c))

def keyDefinitions (d : Dialect) (t : PhysicalTable) : List String :=
  match t.columns.filter (·.isKey) with
  | [] => []
  | keys => ["PRIMARY KEY (" ++ (", ".intercalate (keys.map (d.quote ·.name)) ++ ")")]

def foreignKeyDefinitions (d : Dialect) (t : PhysicalTable) : List String :=
  t.columns.filterMap fun c => c.reference.map (d.foreignKey t.name c.name)

def definitions (d : Dialect) (t : PhysicalTable) : List String :=
  let width := (t.columns.map fun c => Text.displayWidth (d.quote c.name).toList).foldl max 0
  t.columns.map (d.columnDefinition width) ++ d.keyDefinitions t ++ d.foreignKeyDefinitions t

def definitionTexts (d : Dialect) (t : PhysicalTable) : List String :=
  (d.definitions t).map (indent ++ ·)

def statement (d : Dialect) (t : PhysicalTable) : Statement :=
  ⟨t.name, commaLines (d.definitionTexts t)⟩

def statementLines (d : Dialect) (t : PhysicalTable) : List (List Char) :=
  [] :: ("CREATE TABLE " ++ d.quote t.name ++ " (").toList :: commaLines (d.definitionTexts t)
    ++ [(")" ++ d.tableTrailer ++ ";").toList]

theorem definitionTexts_eq (d : Dialect) (t : PhysicalTable) :
    d.definitionTexts t
      =
    t.columns.map (d.columnLine ((t.columns.map fun c => Text.displayWidth (d.quote c.name).toList).foldl max 0))
      ++ d.primaryKeyLines t ++ d.foreignKeyLines t := by
  have hcolumns : ∀ width, d.columnLine width = fun c => indent ++ d.columnDefinition width c := by
    intro width
    funext c
    simp only [columnLine, columnDefinition, String.append_assoc]
  have hkeys : d.primaryKeyLines t = (d.keyDefinitions t).map (indent ++ ·) := by
    unfold primaryKeyLines keyDefinitions
    cases t.columns.filter (·.isKey) with
    | nil => rfl
    | cons c cs => simp only [List.map_singleton, String.append_assoc]
  have hforeign : d.foreignKeyLines t = (d.foreignKeyDefinitions t).map (indent ++ ·) := by
    simp only [foreignKeyLines, foreignKeyDefinitions, List.map_filterMap, Option.map_map]
    rfl
  simp only [definitionTexts, definitions, hcolumns, hkeys, hforeign, List.map_append, List.map_map, Function.comp_def]

theorem createTable_eq (d : Dialect) (t : PhysicalTable) :
    d.createTable t
      =
    "CREATE TABLE " ++ d.quote t.name ++ " (\n" ++ ",\n".intercalate (d.definitionTexts t) ++ "\n)" ++ d.tableTrailer
      ++ ";" := by
  rw [definitionTexts_eq]
  rfl

theorem flatMap_statementLines (d : Dialect) (t : PhysicalTable) :
    (d.statementLines t).flatMap (· ++ ['\n']) = ("\n" ++ d.createTable t ++ "\n").toList := by
  have hopen : " (\n".toList = " (".toList ++ ['\n'] := by decide
  have hclose : "\n)".toList = '\n' :: ")".toList := by decide
  have hline : "\n".toList = ['\n'] := by decide
  rw [statementLines, createTable_eq]
  simp only [List.flatMap_append, List.flatMap_cons, flatMap_commaLines, String.toList_append, hopen, hclose, hline]
  simp only [List.flatMap_nil, List.append_assoc, List.append_nil, List.cons_append, List.nil_append]

def scriptLines (d : Dialect) (m : PhysicalModel) : List (List Char) :=
  "-- Generated by merise".toList :: ("-- Dialect: " ++ d.title).toList :: m.dependencyOrder.flatMap d.statementLines

theorem flatMap_scriptLines (d : Dialect) (m : PhysicalModel) :
    (d.scriptLines m).flatMap (· ++ ['\n']) = (m.sql d).toList := by
  have hheader : "-- Generated by merise\n-- Dialect: ".toList
      = "-- Generated by merise".toList ++ '\n' :: "-- Dialect: ".toList := by decide
  have hline : "\n".toList = ['\n'] := by decide
  have htables : (m.dependencyOrder.flatMap d.statementLines).flatMap (· ++ ['\n'])
      = (String.join (m.dependencyOrder.map fun t => "\n" ++ d.createTable t ++ "\n")).toList := by
    rw [List.flatMap_assoc, String.toList_join, List.flatMap_map]
    simp only [flatMap_statementLines]
  unfold scriptLines PhysicalModel.sql
  simp only [List.flatMap_cons, htables, String.toList_append, hheader, hline, List.append_assoc, List.cons_append,
    List.nil_append]

section Parts

def Unquoted (s : String) : Prop :=
  ∀ c ∈ s.toList, c ∉ ['\n', '"', '\x60']

instance (s : String) : Decidable (Unquoted s) :=
  inferInstanceAs (Decidable (∀ c ∈ s.toList, c ∉ ['\n', '"', '\x60']))

/--
The property holds of texts that are not quoted, and of what is joined from texts that have it.
-/
structure IsJoinable (P : List Char → Prop) : Prop where
  plain : ∀ s, Unquoted s → P s.toList
  append : ∀ cs cs', P cs → P cs' → P (cs ++ cs')

structure Fills (d : Dialect) (t : PhysicalTable) (P : List Char → Prop) : Prop where
  table : P (d.quote t.name).toList
  columns : ∀ c ∈ t.columns, P (d.quote c.name).toList
  tails : ∀ c ∈ t.columns, ∀ s ∈ c.dialectType d :: c.constraints.map Constraint.sql, P s.toList
  references : ∀ c ∈ t.columns, ∀ fk ∈ c.reference,
    ∀ name ∈ [constraintName t.name c.name, fk.table, fk.column], P (d.quote name).toList

namespace IsJoinable

variable {P : List Char → Prop} (hP : IsJoinable P)

include hP

theorem join {s s' : String} (hs : P s.toList) (hs' : P s'.toList) : P (s ++ s').toList := by
  rw [String.toList_append]
  exact hP.append _ _ hs hs'

theorem intercalate {separator : String} (hseparator : Unquoted separator) {ss : List String}
    (h : ∀ s ∈ ss, P s.toList) : P (separator.intercalate ss).toList := by
  rw [String.toList_intercalate]
  induction ss with
  | nil => exact hP.plain "" (by decide)
  | cons s ss ih =>
    rw [List.forall_mem_cons] at h
    cases ss with
    | nil =>
      rw [List.map_singleton, List.intercalate_singleton]
      exact h.1
    | cons s' ss =>
      rw [List.map_cons, List.map_cons, List.intercalate_cons_cons]
      exact hP.append _ _ (hP.append _ _ h.1 (hP.plain _ hseparator)) (ih h.2)

theorem columnTail (hc : ∀ s ∈ c.dialectType d :: c.constraints.map Constraint.sql, P s.toList) :
    P (d.columnTail c).toList := by
  apply hP.intercalate (by decide)
  intro s hs
  rw [List.mem_append] at hs
  cases hs with
  | inl hpart => exact hc s hpart
  | inr hmark =>
    split at hmark
    . rw [List.mem_singleton.1 hmark]
      exact hP.plain _ (by decide)
    . contradiction

theorem columnDefinition (hname : P (d.quote c.name).toList)
    (hc : ∀ s ∈ c.dialectType d :: c.constraints.map Constraint.sql, P s.toList) (width : Nat) :
    P (d.columnDefinition width c).toList := by
  have hpadding : ∀ n, P (String.ofList (List.replicate n ' ')).toList := by
    intro n
    apply hP.plain
    intro a ha
    rw [String.toList_ofList] at ha
    rw [(List.mem_replicate.1 ha).2]
    decide
  exact hP.join hname (hP.join (hpadding _) (hP.join (hP.plain " " (by decide)) (hP.columnTail hc)))

theorem keyDefinitions (ht : d.Fills t P) : ∀ s ∈ d.keyDefinitions t, P s.toList := by
  intro s hs
  unfold Dialect.keyDefinitions at hs
  split at hs
  . contradiction
  . rw [List.mem_singleton] at hs
    rw [hs]
    apply hP.join (hP.plain _ (by decide))
    apply hP.join _ (hP.plain _ (by decide))
    apply hP.intercalate (by decide)
    rw [List.forall_mem_map]
    intro c hc
    exact ht.columns c (List.mem_filter.1 hc).1

theorem clause {event : String} (h : Unquoted event) (action : Option ReferentialAction) :
    P (foreignKey.clause event action).toList := by
  cases action with
  | none => exact hP.plain "" (by decide)
  | some action =>
    apply hP.join (hP.plain _ h)
    apply hP.plain
    cases action <;> decide

theorem foreignKey {table column : String} {fk : ForeignKey} (hcolumn : P (d.quote column).toList)
    (hfk : ∀ name ∈ [constraintName table column, fk.table, fk.column], P (d.quote name).toList) :
    P (d.foreignKey table column fk).toList := by
  have hname : P
      (if d.usesBackticks then "CONSTRAINT " ++ d.quote (constraintName table column) ++ " " else "").toList := by
    split
    . exact hP.join (hP.join (hP.plain _ (by decide)) (hfk _ (by simp))) (hP.plain _ (by decide))
    . exact hP.plain _ (by decide)
  have hreferring := hP.join (hP.join hname (hP.plain "FOREIGN KEY (" (by decide))) hcolumn
  have htable := hP.join (hP.join hreferring (hP.plain ") REFERENCES " (by decide))) (hfk fk.table (by simp))
  have htarget := hP.join (hP.join htable (hP.plain " (" (by decide))) (hfk fk.column (by simp))
  have hclosing := hP.join htarget (hP.plain ")" (by decide))
  exact hP.join (hP.join hclosing (hP.clause (by decide) fk.onDelete)) (hP.clause (by decide) fk.onUpdate)

theorem definitions (ht : d.Fills t P) : ∀ s ∈ d.definitions t, P s.toList := by
  intro s hs
  simp only [Dialect.definitions, List.mem_append, List.mem_map] at hs
  obtain (⟨c, hc, rfl⟩ | hkey) | hreference := hs
  . exact hP.columnDefinition (ht.columns c hc) (ht.tails c hc) _
  . exact hP.keyDefinitions ht s hkey
  . obtain ⟨c, hc, hfk⟩ := List.mem_filterMap.1 hreference
    obtain ⟨fk, href, rfl⟩ := Option.map_eq_some_iff.1 hfk
    exact hP.foreignKey (ht.columns c hc) (ht.references c hc fk href)

theorem statementLines (ht : d.Fills t P) : ∀ line ∈ d.statementLines t, P line := by
  have htexts : ∀ s ∈ d.definitionTexts t, P s.toList := by
    rw [definitionTexts, List.forall_mem_map]
    intro s hs
    exact hP.join (hP.plain indent (by decide)) (hP.definitions ht s hs)
  have htrailer : Unquoted d.tableTrailer := by cases d <;> decide
  have hblank : P [] := hP.plain "" (by decide)
  intro line hline
  rw [Dialect.statementLines, List.mem_append, List.mem_cons, List.mem_cons, List.mem_singleton] at hline
  obtain (rfl | rfl | hinside) | rfl := hline
  . exact hblank
  . exact hP.join (hP.join (hP.plain "CREATE TABLE " (by decide)) ht.table) (hP.plain " (" (by decide))
  . obtain rfl | ⟨s, hs, rfl | rfl⟩ := mem_commaLines hinside
    . exact hblank
    . exact htexts s hs
    . exact hP.append _ _ (htexts s hs) (hP.plain "," (by decide))
  . exact hP.join (hP.join (hP.plain ")" (by decide)) (hP.plain _ htrailer)) (hP.plain ";" (by decide))

theorem scriptLines (m : PhysicalModel) (hm : ∀ t ∈ m.dependencyOrder, d.Fills t P) :
    ∀ line ∈ d.scriptLines m, P line := by
  intro line hline
  rw [Dialect.scriptLines, List.mem_cons, List.mem_cons, List.mem_flatMap] at hline
  obtain rfl | rfl | ⟨t, ht, hline⟩ := hline
  . exact hP.plain _ (by decide)
  . have htitle : Unquoted ("-- Dialect: " ++ d.title) := by cases d <;> decide
    exact hP.plain _ htitle
  . exact hP.statementLines (hm t ht) line hline

end IsJoinable

end Parts

section Reading

theorem head?_of_mem_commaLines {line : List Char} (h : line ∈ commaLines (d.definitionTexts t)) :
    ∀ c ∈ line.head?, c = ' ' := by
  have hindent : indent.toList = ' ' :: "   ".toList := by decide
  obtain rfl | ⟨s, hs, hline⟩ := mem_commaLines h
  . simp
  . obtain ⟨definition, _, rfl⟩ := List.mem_map.1 hs
    rw [String.toList_append, hindent] at hline
    obtain rfl | rfl := hline
    . simp
    . simp

theorem createdTable?_eq_none {line : List Char} (h : ∀ c ∈ line.head?, c ≠ 'C') : d.createdTable? line = none := by
  have hfront : "CREATE TABLE ".toList = 'C' :: "REATE TABLE ".toList := by decide
  cases line with
  | nil => simp [createdTable?, hfront, List.dropPrefix?]
  | cons c rest =>
    have hc : c ≠ 'C' := h c rfl
    simp [createdTable?, hfront, List.dropPrefix?, hc]

theorem dropPrefix?_append (front rest : List Char) : (front ++ rest).dropPrefix? front = some rest :=
  List.dropPrefix?_append_of_beq rest (beq_self_eq_true front)

theorem createdTable?_createLine (d : Dialect) (name : String) :
    d.createdTable? ("CREATE TABLE " ++ d.quote name ++ " (").toList = some name := by
  have hrest : ∀ c ∈ " (".toList.head?, c ≠ d.quoteChar := by cases d <;> decide
  rw [createdTable?, String.toList_append, String.toList_append, List.append_assoc, dropPrefix?_append,
    Option.bind_some, unquote?_quote d name hrest]
  rfl

theorem statementsIn_cons_of_none {line : List Char} (h : d.createdTable? line = none) (lines : List (List Char)) :
    d.statementsIn (line :: lines) = d.statementsIn lines := by
  rw [statementsIn, h]
  rfl

theorem statementsIn_append {lines rest : List (List Char)} (h : ∀ line ∈ lines, d.createdTable? line = none) :
    d.statementsIn (lines ++ rest) = d.statementsIn rest := by
  induction lines with
  | nil => rfl
  | cons line lines ih =>
    rw [List.forall_mem_cons] at h
    rw [List.cons_append, statementsIn_cons_of_none h.1, ih h.2]

theorem statementsIn_statementLines (rest : List (List Char)) :
    d.statementsIn (d.statementLines t ++ rest) = d.statement t :: d.statementsIn rest := by
  have hclose : (")" ++ d.tableTrailer ++ ";").toList = ')' :: (d.tableTrailer ++ ";").toList := by
    simp
  have hinside : ∀ line ∈ commaLines (d.definitionTexts t), decide (line.head? ≠ some ')') = true := by
    intro line hline
    rw [decide_eq_true_eq]
    intro hhead
    have hspace := head?_of_mem_commaLines hline ')' hhead
    contradiction
  have hnone : ∀ line ∈ commaLines (d.definitionTexts t), d.createdTable? line = none := by
    intro line hline
    apply createdTable?_eq_none
    intro c hc
    rw [head?_of_mem_commaLines hline c hc]
    decide
  have hlines : d.statementLines t ++ rest
      = [] :: ("CREATE TABLE " ++ d.quote t.name ++ " (").toList
        :: (commaLines (d.definitionTexts t) ++ (')' :: (d.tableTrailer ++ ";").toList) :: rest) := by
    simp [statementLines, hclose]
  have hblank : d.createdTable? [] = none := createdTable?_eq_none (by simp)
  have hend : d.createdTable? (')' :: (d.tableTrailer ++ ";").toList) = none := createdTable?_eq_none (by simp)
  rw [hlines, statementsIn_cons_of_none hblank, statementsIn, createdTable?_createLine,
    List.takeWhile_append_of_pos hinside, List.takeWhile_cons_of_neg (by simp), statementsIn_append hnone,
    statementsIn_cons_of_none hend]
  simp [statement]

theorem isJoinable_oneLine : IsJoinable ('\n' ∉ ·) where
  plain s hs hmem := hs '\n' hmem (List.mem_cons_self ..)
  append cs cs' hcs hcs' := by
    rw [List.mem_append, not_or]
    exact ⟨hcs, hcs'⟩

theorem oneLine_dialectType (hc : c.OneLine) : OneLine (c.dialectType d) := by
  unfold PhysicalColumn.dialectType
  split
  . split
    . decide
    . decide
  . exact oneLine_mapType hc.sqlType

theorem oneLine_constraintName {table column : String} (htable : OneLine table) (hcolumn : OneLine column) :
    OneLine (constraintName table column) := by
  have hname : OneLine ("fk_" ++ table ++ "_" ++ column) := by
    simp only [oneLine_append]
    exact ⟨⟨⟨by decide, htable⟩, by decide⟩, hcolumn⟩
  rw [constraintName, OneLine, String.toList_ofList]
  exact Text.notMem_newline_lowercase hname

theorem fills_oneLine (ht : t.OneLine) : d.Fills t ('\n' ∉ ·) := by
  refine ⟨oneLine_quote ht.name, ?_, ?_, ?_⟩
  . intro c hc
    exact oneLine_quote (ht.columns c hc).name
  . intro c hc
    rw [List.forall_mem_cons, List.forall_mem_map]
    exact ⟨oneLine_dialectType (ht.columns c hc), (ht.columns c hc).constraints⟩
  . intro c hc fk hfk
    obtain ⟨htable, hcolumn⟩ := (ht.columns c hc).target fk hfk
    simp only [List.forall_mem_cons]
    exact ⟨oneLine_quote (oneLine_constraintName ht.name (ht.columns c hc).name), oneLine_quote htable,
      oneLine_quote hcolumn, by simp⟩

theorem statementsIn_scriptLines (m : PhysicalModel) :
    d.statementsIn (d.scriptLines m ++ [[]]) = m.dependencyOrder.map d.statement := by
  have htables : ∀ ts : List PhysicalTable,
      d.statementsIn (ts.flatMap d.statementLines ++ [[]]) = ts.map d.statement := by
    intro ts
    induction ts with
    | nil =>
      have hblank : d.createdTable? [] = none := createdTable?_eq_none (by simp)
      exact statementsIn_cons_of_none hblank []
    | cons t ts ih => rw [List.flatMap_cons, List.append_assoc, statementsIn_statementLines, ih, List.map_cons]
  have hheader : ∀ line ∈ ["-- Generated by merise".toList, ("-- Dialect: " ++ d.title).toList],
      d.createdTable? line = none := by
    intro line hline
    apply createdTable?_eq_none
    simp only [List.mem_cons, List.not_mem_nil, or_false] at hline
    obtain rfl | rfl := hline
    . simp
    . simp
  exact (statementsIn_append hheader).trans (htables m.dependencyOrder)

theorem statements_sql (m : PhysicalModel) (hm : ∀ t ∈ m.dependencyOrder, t.OneLine) :
    d.statements (m.sql d) = m.dependencyOrder.map d.statement := by
  have hlines := isJoinable_oneLine.scriptLines m fun t ht => fills_oneLine (d := d) (hm t ht)
  rw [statements, ← flatMap_scriptLines, splitOn_flatMap_newline hlines]
  exact statementsIn_scriptLines m

end Reading

end Dialect

end SchemaDesign
