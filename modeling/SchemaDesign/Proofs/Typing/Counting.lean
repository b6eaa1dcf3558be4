import SchemaDesign.Proofs.Ddl.CountingColumn
import SchemaDesign.Proofs.Derivation.Lineage
import SchemaDesign.Proofs.Derivation.OneLine
import SchemaDesign.Proofs.Typing.Assigned

namespace SchemaDesign

open LogicalModel

def Column.isIdentifier (c : Column) : Bool :=
  c.isOwnKey && (ColumnFacts.of c.name true).isIdName

def Table.identifiers (t : Table) : List String :=
  (t.columns.filter (·.isIdentifier)).map (·.name)

section Kinds

variable {settings : Settings} {rules : List TypeRule} {m : LogicalModel}

theorem infer_eq_serial_iff {c : ColumnFacts} :
    TypeKind.infer TypeRule.standard c = .serial ↔ (c.isKey && c.isIdName) = true := by
  have hothers : ∀ rule ∈ TypeRule.standard.tail, rule.kind ≠ .serial := by
    simp [TypeRule.standard]
  have hfirst : TypeRule.standard
      = ⟨"identifier key", fun c => c.isKey && c.isIdName, .serial⟩ :: TypeRule.standard.tail := rfl
  rw [TypeKind.infer, hfirst]
  by_cases hrule : (c.isKey && c.isIdName) = true
  . rw [List.find?_cons_of_pos (by exact hrule)]
    simp [hrule]
  . rw [List.find?_cons_of_neg (by exact hrule)]
    simp only [hrule, Bool.false_eq_true, iff_false]
    split
    . next rule hfound => exact hothers rule (List.mem_of_find?_eq_some hfound)
    . simp

theorem sql_eq_serial_iff {kind : TypeKind} {dialect : Dialect} {textLength : Nat} :
    kind.sql dialect textLength = "SERIAL" ↔ kind = .serial := by
  cases kind with
  | text =>
    simp only [reduceCtorEq, iff_false]
    intro h
    have hlist := congrArg String.toList h
    simp [TypeKind.sql] at hlist
  | integer =>
    simp only [TypeKind.sql]
    cases dialect <;> decide
  | serial | reference | timestamp | date | money | float | boolean | longText | discriminator =>
    simp [TypeKind.sql]

theorem exists_kind_column (table : String) (c : Column) :
    ∃ kind : TypeKind, (Typing.column settings rules m table c).value.sqlType
      = kind.sql settings.dialect settings.textLength := by
  have hplain : ∀ c : Column, ∃ kind : TypeKind, plainType (Typing.inferType settings rules c) settings.dialect
      = kind.sql settings.dialect settings.textLength := by
    intro c
    rw [Typing.inferType, plainType_sql, uncounted]
    split
    . exact ⟨.integer, rfl⟩
    . exact ⟨_, rfl⟩
  unfold Typing.column
  cases hfk : c.reference with
  | none =>
    simp only [Outcome.value_bind, Outcome.value_pure, Typing.settledType]
    split
    . exact ⟨_, rfl⟩
    . exact ⟨_, rfl⟩
  | some fk =>
    simp only [Outcome.value_bind, Outcome.value_pure, Typing.referringType]
    split
    . exact hplain _
    . exact hplain _

end Kinds

section Columns

variable {settings : Settings} {rules : List TypeRule} {m : LogicalModel}

theorem isSerial_uncounted (dialect : Dialect) (kind : TypeKind) (textLength : Nat) :
    isSerial (uncounted dialect (kind.sql dialect textLength)) = false := by
  unfold uncounted
  split
  . cases dialect <;> decide
  . next hplain => rwa [← Bool.not_eq_true, isSerial_sql]

theorem isSerial_column {l : LocatedColumn} (hdistinct : m.HasDistinctColumns) (hl : l ∈ m.located) :
    isSerial (Typing.column settings TypeRule.standard m l.table l.column).value.sqlType = l.column.isIdentifier := by
  rw [Column.isIdentifier, Column.isOwnKey]
  cases hreference : l.column.reference with
  | none =>
    rw [sqlType_of_settled hdistinct hl hreference, Bool.eq_iff_iff, Typing.inferType, isSerial_sql, sql_eq_serial_iff,
      infer_eq_serial_iff]
    simp only [Option.isNone_none, Bool.and_true]
    rfl
  | some fk =>
    simp only [Option.isNone_some, Bool.and_false, Bool.false_and]
    obtain ⟨r, hend⟩ | hastray := m.endsAt_or_goesAstray l
    . rw [sqlType_of_endsAt hdistinct hl hreference hend]
      exact isSerial_uncounted ..
    . rw [sqlType_of_goesAstray hdistinct hl hreference hastray]
      exact isSerial_uncounted ..

theorem isCounting_column {l : LocatedColumn} (hdistinct : m.HasDistinctColumns) (hl : l ∈ m.located) :
    (Typing.column settings TypeRule.standard m l.table l.column).value.isCounting = l.column.isIdentifier := by
  rw [PhysicalColumn.isCounting, isSerial_column hdistinct hl, reference_column, name_column, isKey_column,
    Option.isNone_map, Column.isIdentifier, ← Column.isOwnKey]
  cases l.column.isOwnKey
  . simp
  . simp

theorem oneLine_of_isPhrase {s : String} (h : Document.IsPhrase s.toList) : OneLine s :=
  fun hmem => h.unframed '\n' hmem (by decide)

theorem mapType_text (d dialect : Dialect) (textLength : Nat) :
    d.mapType (TypeKind.text.sql dialect textLength) = TypeKind.text.sql dialect textLength := by
  have htext : TypeKind.text.sql dialect textLength
      = "VARCHAR" ++ String.ofList ('(' :: ((toString textLength).toList ++ [')'])) := by
    apply String.toList_injective
    simp [toList_sql_text]
  have hname : baseType (TypeKind.text.sql dialect textLength) = "VARCHAR" := by
    rw [htext, baseType_append "VARCHAR" (by simp)]
    decide
  apply Dialect.mapType_eq_self
  constructor
  . exact (isPhrase_sql .text dialect textLength).trimmed
  . rw [toList_sql_text, Text.spells_append_eq_false (by decide), Bool.and_false]
  . rw [hname]
    cases d <;> rfl

theorem not_suffix_parenthesis {ending : List Char} (h : ending ∈ Dialect.markEndings) (cs : List Char) :
    ¬ending <:+ cs ++ [')'] := by
  have hlast : ∀ ending ∈ Dialect.markEndings, ending = ending.dropLast ++ [ending.getLast?.getD ')'] := by decide
  have hother : ∀ ending ∈ Dialect.markEndings, ending.getLast?.getD ')' ≠ ')' := by decide
  rw [hlast ending h, Dialect.concat_suffix_concat]
  exact fun hsuffix => hother ending h hsuffix.1

theorem unquoted_sql_text (dialect : Dialect) (textLength : Nat) :
    Dialect.Unquoted (TypeKind.text.sql dialect textLength) := by
  have hfront : ∀ c ∈ "VARCHAR".toList, c ∉ ['\n', '"', '\x60'] := by decide
  have hdigits : ∀ c ∈ (toString textLength).toList, c ∉ ['\n', '"', '\x60'] := by
    have hnone : ∀ c ∈ ['\n', '"', '\x60'], Text.isWordChar c = false := by decide
    intro c hc hquote
    have hword := (Text.isIdentifier_iff.1 (Text.isIdentifier_toString textLength)).2 c hc
    rw [hnone c hquote] at hword
    contradiction
  rw [Dialect.Unquoted, toList_sql_text, List.forall_mem_append, List.forall_mem_cons, List.forall_mem_append,
    List.forall_mem_singleton]
  exact ⟨hfront, by decide, hdigits, by decide⟩

theorem isTidy_mapType (d dialect : Dialect) (kind : TypeKind) (textLength : Nat) :
    Dialect.IsTidy (d.mapType (kind.sql dialect textLength)) := by
  cases kind with
  | text =>
    rw [mapType_text]
    refine ⟨unquoted_sql_text dialect textLength, ?_, ?_, ?_⟩
    . intro ending hending
      rw [toList_sql_text, ← List.cons_append, ← List.append_assoc]
      exact not_suffix_parenthesis hending _
    . simp [toList_sql_text]
    . simp [toList_sql_text]
  | integer | serial | reference | timestamp | date | money | float | boolean | longText | discriminator =>
    simp only [TypeKind.sql]
    cases d <;> cases dialect <;> decide

theorem isTidy_column (d : Dialect) (table : String) (c : Column) :
    let column := (Typing.column settings rules m table c).value
    ∀ s ∈ column.dialectType d :: column.constraints.map Constraint.sql, Dialect.IsTidy s := by
  intro column
  obtain ⟨kind, hkind⟩ : ∃ kind : TypeKind, column.sqlType = kind.sql settings.dialect settings.textLength :=
    exists_kind_column table c
  rw [List.forall_mem_cons, List.forall_mem_map]
  constructor
  . rw [PhysicalColumn.dialectType, hkind]
    split
    . split <;> decide
    . exact isTidy_mapType d settings.dialect kind settings.textLength
  . intro constraint hconstraint
    have hassigned : column.constraints = Typing.constraints c :=
      congrArg PhysicalColumn.constraints (value_column table c)
    rw [hassigned] at hconstraint
    obtain rfl | rfl := constraint_of_mem hconstraint
    . decide
    . decide

theorem oneLine_column {table : String} {c : Column} (hname : OneLine c.name)
    (htarget : ∀ fk ∈ c.reference, OneLine fk.table ∧ OneLine fk.column) :
    (Typing.column settings rules m table c).value.OneLine := by
  rw [value_column]
  refine ⟨hname, oneLine_of_isPhrase (isPhrase_column table c), ?_, ?_⟩
  . intro constraint hconstraint
    obtain rfl | rfl := constraint_of_mem hconstraint
    . decide
    . decide
  . intro fk' hfk'
    obtain ⟨fk, hfk, rfl⟩ := Option.map_eq_some_iff.1 hfk'
    exact htarget fk hfk

end Columns

section Tables

variable {settings : Settings} {m : LogicalModel}

theorem oneLine_toPhysical (hm : ∀ t ∈ m.tables, t.OneLine) (hconsistent : m.Consistent) :
    ∀ t ∈ (m.toPhysical settings).value.tables, t.OneLine := by
  unfold toPhysical
  rw [tables_toPhysicalWith, List.forall_mem_map]
  intro t ht
  rw [value_table]
  refine ⟨(hm t ht).name, ?_⟩
  rw [List.forall_mem_map]
  intro c hc
  apply oneLine_column ((hm t ht).columns c hc)
  intro fk hfk
  obtain ⟨u, hu, hcolumn⟩ := hconsistent.resolved fk (mem_references.2 ⟨t, ht, Table.mem_references.2 ⟨c, hc, hfk⟩⟩)
  have htarget := hm u (mem_of_table? hu)
  obtain ⟨c', hc', hname⟩ := List.mem_map.1 hcolumn
  rw [← name_of_table? hu, ← hname]
  exact ⟨htarget.name, htarget.columns c' hc'⟩

theorem autoIncrements_toPhysical (hd : settings.dialect.usesBackticks = true) (hdistinct : m.HasDistinctColumns)
    {t : Table} (ht : t ∈ m.tables) :
    (settings.dialect.statement (Typing.table settings TypeRule.standard m t).value).autoIncrements settings.dialect
      =
    t.identifiers := by
  rw [Dialect.autoIncrements_statement hd, value_table, List.filter_map, List.map_map]
  . have hcounting : t.columns.filter ((·.isCounting) ∘ fun c =>
          (Typing.column settings TypeRule.standard m t.name c).value)
        = t.columns.filter (·.isIdentifier) := by
      apply List.filter_congr
      intro c hc
      exact isCounting_column (l := ⟨t.name, c⟩) hdistinct (List.mem_flatMap.2 ⟨t, ht, List.mem_map_of_mem hc⟩)
    rw [hcounting, Table.identifiers]
    apply List.map_congr_left
    intro c _
    exact name_column t.name c
  . rw [value_table, List.forall_mem_map]
    intro c _ s hs
    exact (isTidy_column settings.dialect t.name c s hs).unmarked

end Tables

end SchemaDesign
