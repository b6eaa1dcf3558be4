import SchemaDesign.Proofs.Logical.Cycle
import SchemaDesign.Proofs.Typing.Assigned

namespace SchemaDesign

open Text Document LogicalModel

section Actions

variable {m : LogicalModel} {f : ForeignKey → ForeignKey}
  (hf : ∀ fk, (f fk).table = fk.table ∧ (f fk).column = fk.column)

include hf

theorem LogicalModel.missingTarget?_mapReferences (fk : ForeignKey) :
    (m.mapReferences f).missingTarget? (f fk) = m.missingTarget? fk := by
  rw [missingTarget?, missingTarget?, table?_mapReferences, (hf fk).1, (hf fk).2]
  cases m.table? fk.table with
  | none => rfl
  | some t => simp only [Option.map_some, Table.hasColumn_mapReferences]

theorem LogicalModel.checkReference_mapReferences (t : Table) (c : Column) :
    (m.mapReferences f).checkReference (t.mapReferences f) { c with reference := c.reference.map f }
      =
    m.checkReference t c := by
  have hmissing : (c.reference.map f).bind (m.mapReferences f).missingTarget? = c.reference.bind m.missingTarget? := by
    cases c.reference with
    | none => rfl
    | some fk => exact missingTarget?_mapReferences hf fk
  simp only [checkReference, hmissing, Table.name_mapReferences]

theorem LogicalModel.checkTable_mapReferences (before : List Table) (t : Table) :
    (m.mapReferences f).checkTable (before.map (·.mapReferences f)) (t.mapReferences f) = m.checkTable before t := by
  have hkeys : (t.mapReferences f).keys.isEmpty = t.keys.isEmpty := by
    simp [Table.mapReferences, Table.keys, List.filter_map, Function.comp_def]
  have hcolumns : Outcome.each ((m.mapReferences f).checkReference (t.mapReferences f)) (t.mapReferences f).columns
      = Outcome.each (m.checkReference t) t.columns := by
    rw [Table.mapReferences, Outcome.each_map]
    exact Outcome.each_congr fun c _ => checkReference_mapReferences hf t c
  simp only [checkTable, hkeys, hcolumns, List.any_map, Function.comp_def, Table.name_mapReferences]
  rfl

theorem LogicalModel.targets_mapReferences : (m.mapReferences f).targets = m.targets := by
  funext name
  simp only [targets, tables_mapReferences, List.filter_map, List.flatMap_map, Function.comp_def,
    Table.name_mapReferences, Table.references_mapReferences, List.map_map, hf, hasTable, List.any_map]
  rfl

theorem LogicalModel.check_mapReferences : (m.mapReferences f).check = m.check := by
  simp only [check, warnOfCycles, findCycles_congr (names_mapReferences f) (targets_mapReferences hf),
    tables_mapReferences, Outcome.eachAfter_map, checkTable_mapReferences hf]

end Actions

section Typed

variable {settings : Settings} {rules : List TypeRule} {m : LogicalModel} {l r : LocatedColumn} {fk : ForeignKey}

theorem typesCompatible_uncounted (dialect : Dialect) (sqlType : String) :
    typesCompatible (uncounted dialect sqlType) sqlType = true := by
  unfold uncounted
  split
  . next hserial =>
    rw [hserial]
    cases dialect <;> decide
  . simp [typesCompatible]

theorem hasDistinctColumns_of_nodup (hnames : m.names.Nodup) (hcolumns : ∀ t ∈ m.tables, t.names.Nodup) :
    m.HasDistinctColumns := by
  simp only [HasDistinctColumns, located, List.map_flatMap, List.map_map, List.nodup_flatMap]
  constructor
  . intro t ht
    apply List.Nodup.of_map Prod.snd
    rw [List.map_map]
    exact hcolumns t ht
  . rw [names, List.Nodup, List.pairwise_map] at hnames
    apply hnames.imp
    intro t u hne place ht hu
    obtain ⟨c, _, rfl⟩ := List.mem_map.1 ht
    obtain ⟨d, _, heq⟩ := List.mem_map.1 hu
    exact hne (congrArg Prod.fst heq).symm

theorem exists_of_target?_toPhysicalWith {target : PhysicalColumn}
    (h : (m.toPhysicalWith settings rules).value.target? fk = some target) :
    ∃ next ∈ m.located, next.table = fk.table ∧ next.column.name = fk.column
      ∧ target = (Typing.column settings rules m next.table next.column).value := by
  obtain ⟨t', ht', hcolumn⟩ := Option.bind_eq_some_iff.1 h
  have htable := List.find?_some ht'
  have ht' := List.mem_of_find?_eq_some ht'
  rw [tables_toPhysicalWith] at ht'
  obtain ⟨t, ht, rfl⟩ := List.mem_map.1 ht'
  have hname := List.find?_some hcolumn
  have hcolumn := List.mem_of_find?_eq_some hcolumn
  rw [value_table] at hcolumn htable
  obtain ⟨c, hc, rfl⟩ := List.mem_map.1 hcolumn
  refine ⟨⟨t.name, c⟩, List.mem_flatMap.2 ⟨t, ht, List.mem_map_of_mem hc⟩, by simpa using htable, ?_, rfl⟩
  simpa [name_column] using hname

theorem checkColumn_eq_pure (hdistinct : m.HasDistinctColumns) (hl : l ∈ m.located) (hend : m.EndsAt l r)
    (t : PhysicalTable) :
    (m.toPhysicalWith settings rules).value.checkColumn t (Typing.column settings rules m l.table l.column).value
      =
    pure () := by
  have hphrase : IsPhrase (Typing.column settings rules m l.table l.column).value.sqlType.toList :=
    isPhrase_column l.table l.column
  unfold PhysicalModel.checkColumn
  rw [trim_eq_self hphrase.trimmed, if_neg (by simpa using hphrase.nonempty)]
  split
  . next target htarget =>
    rw [reference_column] at htarget
    obtain ⟨fk', hfk', htarget⟩ := Option.bind_eq_some_iff.1 htarget
    obtain ⟨fk, hfk, rfl⟩ := Option.map_eq_some_iff.1 hfk'
    obtain ⟨next, hnext, htable, hname, rfl⟩ := exists_of_target?_toPhysicalWith htarget
    rw [sqlType_of_refersTo hdistinct hl hend ⟨hnext, fk, hfk, htable, hname⟩, typesCompatible_uncounted]
    rfl
  . rfl

theorem check_toPhysicalWith_eq (hdistinct : m.HasDistinctColumns) (hends : ∀ l ∈ m.located, ∃ r, m.EndsAt l r) :
    (m.toPhysicalWith settings rules).value.check = m.check := by
  have hactions : ∀ fk, (Typing.withActions fk).table = fk.table ∧ (Typing.withActions fk).column = fk.column :=
    fun _ => ⟨rfl, rfl⟩
  have hcolumns : ∀ t ∈ (m.toPhysicalWith settings rules).value.tables,
      Outcome.each ((m.toPhysicalWith settings rules).value.checkColumn t) t.columns = pure () := by
    rw [tables_toPhysicalWith, List.forall_mem_map]
    intro t ht
    apply Outcome.each_eq_pure
    rw [value_table, List.forall_mem_map]
    intro c hc
    have hl : ⟨t.name, c⟩ ∈ m.located := List.mem_flatMap.2 ⟨t, ht, List.mem_map_of_mem hc⟩
    obtain ⟨r, hend⟩ := hends _ hl
    exact checkColumn_eq_pure hdistinct hl hend _
  rw [PhysicalModel.check, toLogical_toPhysicalWith, check_mapReferences hactions, Outcome.each_eq_pure hcolumns]
  exact bind_pure_unit

end Typed

theorem check_toPhysical_eq (m : LogicalModel) (hcheck : m.check.hasErrors = false)
    (hcolumns : ∀ t ∈ m.tables, t.names.Nodup) (hends : ∀ l ∈ m.located, ∃ r, m.EndsAt l r) (settings : Settings) :
    (m.toPhysical settings).diagnostics = []
    ∧ (m.toPhysical settings).value.check.diagnostics = m.check.diagnostics := by
  have hconsistent := consistent_of_check hcheck
  have hdistinct := hasDistinctColumns_of_nodup hconsistent.names hcolumns
  constructor
  . have hreports : (m.toPhysical settings).Reports fun _ => False := reports_toPhysicalWith hconsistent
    exact List.eq_nil_iff_forall_not_mem.2 hreports
  . exact congrArg Outcome.diagnostics (check_toPhysicalWith_eq hdistinct hends)

def crossed : LogicalModel :=
  ⟨[⟨"A", [⟨"id", true, none⟩, .referring "b" "B" "id"]⟩, ⟨"B", [⟨"id", true, none⟩, .referring "a" "A" "b"]⟩]⟩

theorem check_toPhysical_eq_crossed :
    crossed.check.hasErrors = false
    ∧ (∀ t ∈ crossed.tables, t.names.Nodup)
    ∧ (∀ l ∈ crossed.located, ∃ r, crossed.EndsAt l r)
    ∧ crossed.check.diagnostics = [⟨some "A", .foreignKeyCycle ["A", "B", "A"]⟩]
    ∧ (crossed.toPhysical .standard).diagnostics = []
    ∧ (crossed.toPhysical .standard).value.check.diagnostics = crossed.check.diagnostics := by
  have hcheck : crossed.check.hasErrors = false := by decide +kernel
  have hcolumns : ∀ t ∈ crossed.tables, t.names.Nodup := by decide
  have hb : crossed.EndsAt ⟨"A", .referring "b" "B" "id"⟩ ⟨"B", ⟨"id", true, none⟩⟩ := ⟨.single (by decide), rfl⟩
  have ha : crossed.EndsAt ⟨"B", .referring "a" "A" "b"⟩ ⟨"B", ⟨"id", true, none⟩⟩ :=
    endsAt_iff.2 (.inr ⟨_, by decide, hb⟩)
  have hends : ∀ l ∈ crossed.located, ∃ r, crossed.EndsAt l r := by
    intro l hl
    simp only [located, crossed, List.flatMap_cons, List.map_cons, List.map_nil, List.flatMap_nil, List.append_nil,
      List.cons_append, List.nil_append, List.mem_cons, List.not_mem_nil, or_false] at hl
    obtain rfl | rfl | rfl | rfl := hl
    . exact ⟨_, .refl, rfl⟩
    . exact ⟨_, hb⟩
    . exact ⟨_, .refl, rfl⟩
    . exact ⟨_, ha⟩
  exact ⟨hcheck, hcolumns, hends, by decide +kernel, check_toPhysical_eq crossed hcheck hcolumns hends .standard⟩

end SchemaDesign
