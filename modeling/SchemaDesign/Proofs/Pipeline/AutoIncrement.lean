import SchemaDesign.Proofs.Ddl.Order
import SchemaDesign.Proofs.Derivation.Holder
import SchemaDesign.Proofs.Pipeline.LogicalNotation
import SchemaDesign.Proofs.Typing.Counting
import SchemaDesign.Proofs.Validation.Physical

namespace SchemaDesign

open Document LogicalModel SchemaDesign.Derivation

section Accepted

variable {text : String} {settings : Settings}

theorem conceptualToSql_eq_map : conceptualToSql text settings
    = (conceptualToPhysical text settings).map fun out => ⟨out.value.sql settings.dialect, out.diagnostics⟩ := by
  rw [conceptualToPhysical]
  refine Eq.trans ?_ (Pipeline.run_map _ fun physical : PhysicalModel => physical.sql settings.dialect)
  simp only [conceptualToSql, bind_assoc]

theorem conceptualToSql_of_accepted {schema : LogicalModel} (h : Accepted text settings schema) :
    ∃ out, conceptualToSql text settings = .ok out
      ∧ out.value = (schema.toPhysical settings).value.sql settings.dialect := by
  obtain ⟨physical, hphysical, hvalue⟩ := conceptualToPhysical_of_accepted h
  rw [conceptualToSql_eq_map, hphysical, ← hvalue]
  exact ⟨_, rfl, rfl⟩

theorem accepted_of_conceptualToSql {out : Outcome String} (h : conceptualToSql text settings = .ok out) :
    ∃ schema, Accepted text settings schema ∧ out.value = (schema.toPhysical settings).value.sql settings.dialect := by
  have hok : (conceptualToLogical text settings).isOk = true := by
    rw [← isOk_conceptualToSql, h]
    rfl
  cases hlogical : conceptualToLogical text settings with
  | error rejection =>
    rw [hlogical] at hok
    contradiction
  | ok logical =>
    have haccepted := accepted_of_conceptualToLogical hlogical
    obtain ⟨out', hout', hvalue⟩ := conceptualToSql_of_accepted haccepted
    rw [h, Except.ok.injEq] at hout'
    rw [← hout'] at hvalue
    exact ⟨logical.value, haccepted, hvalue⟩

end Accepted

section Statements

variable {text : String} {settings : Settings} {schema : LogicalModel}

theorem statements_toPhysical (hd : settings.dialect.usesBackticks = true) (hconsistent : schema.Consistent)
    (hlines : ∀ t ∈ schema.tables, t.OneLine) (hcolumns : ∀ t ∈ schema.tables, t.names.Nodup) :
    ((settings.dialect.statements ((schema.toPhysical settings).value.sql settings.dialect)).map (·.table)).Perm
      schema.names
    ∧ ∀ s ∈ settings.dialect.statements ((schema.toPhysical settings).value.sql settings.dialect),
      ∃ t ∈ schema.tables, s.table = t.name ∧ s.autoIncrements settings.dialect = t.identifiers := by
  have htables : (schema.toPhysical settings).value.tables
      = schema.tables.map fun t => (Typing.table settings TypeRule.standard schema t).value := tables_toPhysicalWith
  have hnames : (schema.toPhysical settings).value.tables.map (·.name) = schema.names := by
    rw [htables, List.map_map]
    apply List.map_congr_left
    intro t _
    rw [Function.comp_apply, value_table]
  have horder := (schema.toPhysical settings).value.perm_dependencyOrder
  have hone : ∀ t ∈ (schema.toPhysical settings).value.tables, t.OneLine := oneLine_toPhysical hlines hconsistent
  have hstatements := Dialect.statements_sql (d := settings.dialect) (schema.toPhysical settings).value
    fun t ht => hone t (horder.mem_iff.1 ht)
  rw [hstatements]
  constructor
  . rw [List.map_map, ← hnames]
    exact horder.map _
  . rw [List.forall_mem_map]
    intro t' ht'
    rw [horder.mem_iff, htables] at ht'
    obtain ⟨t, ht, rfl⟩ := List.mem_map.1 ht'
    have hdistinct := hasDistinctColumns_of_nodup hconsistent.names hcolumns
    refine ⟨t, ht, ?_, autoIncrements_toPhysical hd hdistinct ht⟩
    rw [value_table]
    rfl

theorem statements_conceptualToSql {out : Outcome String} (h : conceptualToSql text settings = .ok out)
    (hd : settings.dialect.usesBackticks = true) :
    let schema := ((ConceptualModel.read text).value.toLogical settings).value
    let statements := settings.dialect.statements out.value
    Accepted text settings schema
    ∧ (∀ t ∈ schema.tables, t.names.Nodup)
    ∧ (statements.map (·.table)).Perm schema.names
    ∧ ∀ s ∈ statements, ∃ t ∈ schema.tables, s.table = t.name ∧ s.autoIncrements settings.dialect = t.identifiers := by
  intro schema statements
  obtain ⟨found, haccepted, hvalue⟩ := accepted_of_conceptualToSql h
  have hfound : found = schema := haccepted.value
  rw [hfound] at haccepted hvalue
  have hcolumns : ∀ t ∈ schema.tables, t.names.Nodup :=
    fun t ht => (shaped_toLogical (ConceptualModel.distinctAttributes_read text) t ht).distinct
  have hmarked := statements_toPhysical hd (consistent_of_check haccepted.consistent)
    (oneLine_toLogical (ConceptualModel.oneLine_read text)) hcolumns
  rw [← hvalue] at hmarked
  exact ⟨haccepted, hcolumns, hmarked⟩

end Statements

section Keys

variable {m : ConceptualModel} {settings : Settings} {t : Table} {table key key' : String}

def ConceptualModel.BringsIdentifier (m : ConceptualModel) (settings : Settings) (table key : String) : Prop :=
  m.BringsKey settings table key ∧ (ColumnFacts.of key true).isIdName = true

theorem bringsIdentifier_of_mem_identifiers (h : OwnKeysSatisfy (m.BringsKey settings) t) :
    ∀ key ∈ t.identifiers, m.BringsIdentifier settings t.name key := by
  intro key hkey
  obtain ⟨c, hc, rfl⟩ := List.mem_map.1 hkey
  obtain ⟨hc, hidentifier⟩ := List.mem_filter.1 hc
  rw [Column.isIdentifier, Bool.and_eq_true] at hidentifier
  exact ⟨h c hc hidentifier.1, hidentifier.2⟩

theorem length_identifiers_le_one (hnames : t.names.Nodup)
    (h : ∀ key ∈ t.identifiers, ∀ key' ∈ t.identifiers, key = key') : t.identifiers.length ≤ 1 := by
  have hnodup : t.identifiers.Nodup := hnames.sublist (List.filter_sublist.map _)
  cases hkeys : t.identifiers with
  | nil => exact Nat.zero_le 1
  | cons key rest =>
    have hkey : key ∈ t.identifiers := by
      rw [hkeys]
      exact List.mem_cons_self ..
    have hsame : t.identifiers = List.replicate t.identifiers.length key :=
      List.eq_replicate_of_mem fun key' hkey' => h key' hkey' key hkey
    rw [hsame, List.nodup_replicate] at hnodup
    rwa [← hkeys]

theorem eq_of_bringsKey (hm : m.Valid)
    (hnone : ∀ g ∈ m.inheritances, g.strategyIn settings = .tablePerSubclass → table ∉ g.children)
    (h : m.BringsKey settings table key) (h' : m.BringsKey settings table key') : key = key' := by
  -- Nothing is handed down to the table, so that the key is the one of its own entity.
  have hown : ∀ key, m.BringsKey settings table key →
      ∃ e, m.entity? table = some e ∧ e.key?.map (·.name) = some key := by
    rintro key ⟨e, he, hkey, hway⟩
    obtain ⟨a, ha, rfl⟩ := List.mem_map.1 hkey
    rw [List.mem_filter, List.mem_filter] at ha
    cases Relation.ReflTransGen.cases_tail hway with
    | inl hself =>
      refine ⟨e, ?_, ?_⟩
      . rw [hself]
        exact ConceptualModel.entity?_eq_some hm.entityNames he
      . rw [Entity.key?_eq_some (hm.singleKey e he) ha.1.1 ha.2]
        rfl
    | inr hlast =>
      obtain ⟨_, _, g, hg, hstrategy, _, hchild⟩ := hlast
      exact absurd hchild (hnone g hg hstrategy)
  obtain ⟨e, he, hkey⟩ := hown key h
  obtain ⟨e', he', hkey'⟩ := hown key' h'
  rw [he, Option.some_inj] at he'
  rw [← he', hkey, Option.some_inj] at hkey'
  exact hkey'

end Keys

section Document

theorem autoIncrements_conceptualToSql {text : String} {settings : Settings} {out : Outcome String}
    (h : conceptualToSql text settings = .ok out) (hd : settings.dialect.usesBackticks = true) :
    let m := (ConceptualModel.read text).value
    let schema := (m.toLogical settings).value
    let statements := settings.dialect.statements out.value
    (statements.map (·.table)).Perm schema.names
    ∧ ∀ s ∈ statements,
      (∃ t ∈ schema.tables, s.table = t.name ∧ s.autoIncrements settings.dialect = t.identifiers)
      ∧ (∀ key ∈ s.autoIncrements settings.dialect, m.BringsIdentifier settings s.table key)
      ∧ ((∀ key key', m.BringsIdentifier settings s.table key → m.BringsIdentifier settings s.table key' → key = key') →
          (s.autoIncrements settings.dialect).length ≤ 1)
      ∧ ((∀ g ∈ m.inheritances, g.strategyIn settings = .tablePerSubclass → s.table ∉ g.children) →
          (s.autoIncrements settings.dialect).length ≤ 1) := by
  intro m schema statements
  obtain ⟨haccepted, hcolumns, htables, hstatements⟩ := statements_conceptualToSql h hd
  have hm : m.Valid := ConceptualModel.valid_of_check haccepted.checked
  have hclean : (m.toLogical settings).Clean := Outcome.hasErrors_eq_false_iff.1 haccepted.derived
  have hkeys := ownKeysSatisfy_toLogical hm hclean.findsAll
  refine ⟨htables, ?_⟩
  intro s hs
  obtain ⟨t, ht, hname, hmarked⟩ := hstatements s hs
  have hbrought := bringsIdentifier_of_mem_identifiers (hkeys t ht)
  rw [hname, hmarked]
  refine ⟨⟨t, ht, rfl, rfl⟩, hbrought, ?_, ?_⟩
  . intro hsame
    apply length_identifiers_le_one (hcolumns t ht)
    intro key hkey key' hkey'
    exact hsame key key' (hbrought key hkey) (hbrought key' hkey')
  . intro hnone
    apply length_identifiers_le_one (hcolumns t ht)
    intro key hkey key' hkey'
    exact eq_of_bringsKey hm hnone (hbrought key hkey).1 (hbrought key' hkey').1

def personText : String :=
  "ENTITY Person \x7b id_person [PK] \x7d ENTITY Student \x7b year \x7d ENTITY Teacher \x7b id_teacher [PK] \x7d "
    ++ "ENTITY Course \x7b id_course [PK] \x7d RELATION gives \x7b Course (1,1), Teacher (0,n) \x7d "
    ++ "INHERITANCE role \x7b PARENT Person, CHILDREN Student, Teacher, STRATEGY table_per_subclass \x7d"

def personModel : ConceptualModel where
  entities := [⟨"Person", [⟨"id_person", true, false⟩]⟩, ⟨"Student", [⟨"year", false, false⟩]⟩,
    ⟨"Teacher", [⟨"id_teacher", true, false⟩]⟩, ⟨"Course", [⟨"id_course", true, false⟩]⟩]
  relations := [⟨"gives", [⟨"Course", .oneOne⟩, ⟨"Teacher", .zeroMany⟩], []⟩]
  inheritances := [⟨"role", "Person", ["Student", "Teacher"], some .tablePerSubclass⟩]
  associatives := []

theorem read_personText : ConceptualModel.read personText = pure personModel := by
  decide +kernel

theorem accepted_personText : Accepted personText .standard (personModel.toLogical .standard).value := by
  constructor
  . rw [read_personText]
    rfl
  . rw [read_personText]
    decide +kernel
  . rw [read_personText]
    decide +kernel
  . rw [read_personText]
    rfl
  . decide +kernel

theorem autoIncrements_conceptualToSql_student :
    ∃ out, conceptualToSql personText .standard = .ok out
      ∧ ((Dialect.mysql.statements out.value).map (·.table)).Perm ["Student", "Teacher", "Course"]
      ∧ ∀ s ∈ Dialect.mysql.statements out.value, s.table ≠ "Teacher" → (s.autoIncrements .mysql).length ≤ 1 := by
  obtain ⟨out, hout, _⟩ := conceptualToSql_of_accepted accepted_personText
  obtain ⟨htables, hmarked⟩ := autoIncrements_conceptualToSql hout (by decide)
  have hnames : (personModel.toLogical .standard).value.names = ["Student", "Teacher", "Course"] := by
    decide +kernel
  rw [read_personText, Outcome.value_pure] at htables hmarked
  rw [hnames] at htables
  refine ⟨out, hout, htables, ?_⟩
  intro s hs hother
  obtain ⟨_, _, hsame, hnone⟩ := hmarked s hs
  by_cases hstudent : s.table = "Student"
  . apply hsame
    rw [hstudent]
    have hsole : ∀ key, personModel.BringsIdentifier .standard "Student" key → key = "id_person" := by
      rintro key ⟨⟨e, he, hkey, hway⟩, _⟩
      have hentities : ∀ e ∈ personModel.entities, (∀ key ∈ storedKeys e, key = "id_person")
          ∨ e.name ≠ "Student" ∧ ∀ g ∈ personModel.inheritances, g.parent ≠ e.name := by
        decide
      cases hentities e he with
      | inl hperson => exact hperson key hkey
      | inr hapart =>
        cases Relation.ReflTransGen.cases_head hway with
        | inl hself => exact absurd hself hapart.1
        | inr hfirst =>
          obtain ⟨_, ⟨g, hg, _, hparent, _⟩, _⟩ := hfirst
          exact absurd hparent (hapart.2 g hg)
    intro key key' hkey hkey'
    rw [hsole key hkey, hsole key' hkey']
  . apply hnone
    simp [personModel, hstudent, hother]

theorem autoIncrements_twice :
    ∃ out, conceptualToSql personText .standard = .ok out
      ∧ ∃ s ∈ Dialect.mysql.statements out.value,
        s.table = "Teacher" ∧ s.autoIncrements .mysql = ["id_person", "id_teacher"]
          ∧ ¬(s.autoIncrements .mysql).length ≤ 1 := by
  obtain ⟨out, hout, _⟩ := conceptualToSql_of_accepted accepted_personText
  obtain ⟨_, _, htables, hmarked⟩ := statements_conceptualToSql hout (by decide)
  have hteacher : "Teacher" ∈ (personModel.toLogical .standard).value.names
      ∧ ∀ t ∈ (personModel.toLogical .standard).value.tables,
        t.name = "Teacher" → t.identifiers = ["id_person", "id_teacher"] := by
    decide +kernel
  rw [read_personText, Outcome.value_pure] at htables hmarked
  obtain ⟨s, hs, hname⟩ := List.mem_map.1 (htables.mem_iff.2 hteacher.1)
  obtain ⟨t, ht, htable, hidentifiers⟩ := hmarked s hs
  have htwo : s.autoIncrements .mysql = ["id_person", "id_teacher"] := by
    rw [← hteacher.2 t ht (htable.symm.trans hname)]
    exact hidentifiers
  refine ⟨out, hout, s, hs, hname, htwo, ?_⟩
  rw [htwo]
  decide

end Document

end SchemaDesign
