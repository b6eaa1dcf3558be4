import Mathlib.Logic.Relation
import SchemaDesign.Proofs.Derivation.KeyColumns
import SchemaDesign.Proofs.Derivation.Keyed

open Relation

namespace SchemaDesign

def Column.isOwnKey (c : Column) : Bool :=
  c.isKey && c.reference.isNone

namespace ConceptualModel

open SchemaDesign.Derivation

def HandsDown (m : ConceptualModel) (settings : Settings) (parent child : String) : Prop :=
  ∃ g ∈ m.inheritances, g.strategyIn settings = .tablePerSubclass ∧ g.parent = parent ∧ child ∈ g.children

/--
An entity has the key, and hands its columns down to the table if it is not its own.
-/
def BringsKey (m : ConceptualModel) (settings : Settings) (table key : String) : Prop :=
  ∃ e ∈ m.entities, key ∈ storedKeys e ∧ ReflTransGen (m.HandsDown settings) e.name table

variable {m : ConceptualModel} {settings : Settings} {parent child table key : String}

theorem BringsKey.handDown (h : m.BringsKey settings parent key) (hgroup : m.HandsDown settings parent child) :
    m.BringsKey settings child key := by
  obtain ⟨e, he, hkey, hway⟩ := h
  exact ⟨e, he, hkey, hway.tail hgroup⟩

theorem BringsKey.isSome_entity? (hm : m.Valid) (h : m.BringsKey settings table key) :
    (m.entity? table).isSome = true := by
  obtain ⟨e, he, _, hway⟩ := h
  cases ReflTransGen.cases_tail hway with
  | inl hself =>
    rw [hself, ConceptualModel.isSome_entity?]
    exact List.mem_map_of_mem he
  | inr hlast =>
    obtain ⟨_, _, g, hg, _, _, hchild⟩ := hlast
    exact hm.members g hg table (List.mem_cons_of_mem _ hchild)

end ConceptualModel

namespace Derivation

variable {m : ConceptualModel} {settings : Settings} {d d' : Draft} {t u : Table} {P : String → String → Prop}

def OwnKeysSatisfy (P : String → String → Prop) (t : Table) : Prop :=
  ∀ c ∈ t.columns, c.isOwnKey = true → P t.name c.name

section Columns

theorem isOwnKey_of_isKey_eq_false {c : Column} (h : c.isKey = false) : c.isOwnKey = false := by
  rw [Column.isOwnKey, h, Bool.false_and]

theorem OwnKeysSatisfy.grows {Q : Column → Prop} (h : OwnKeysSatisfy P t) (hgrows : t.Grows Q u)
    (hQ : ∀ c, Q c → c.isOwnKey = false) : OwnKeysSatisfy P u := by
  intro c hc hown
  rw [hgrows.name_eq]
  cases hgrows.mem_columns hc with
  | inl hold => exact h c hold hown
  | inr hnew =>
    rw [hQ c hnew.1] at hown
    contradiction

theorem OwnKeysSatisfy.appendAttributes (h : OwnKeysSatisfy P t) (attributes : List Attribute) :
    OwnKeysSatisfy P (appendAttributes t attributes) := by
  apply h.grows (appendAttributes_grows t attributes)
  intro c hc
  exact isOwnKey_of_isKey_eq_false hc.1

theorem OwnKeysSatisfy.extend (h : OwnKeysSatisfy P t) (r : Relation) (holder target : Participant) (key : String) :
    OwnKeysSatisfy P (placeReference.extend m r holder target key t) := by
  apply h.grows (extend_grows m r holder target key t)
  intro c hc
  exact isOwnKey_of_isKey_eq_false hc.1

theorem OwnKeysSatisfy.foldInto (h : OwnKeysSatisfy P t) (children : List Table) :
    OwnKeysSatisfy P (foldInto children t) := by
  apply h.grows (foldInto_grows children t)
  intro c hc
  exact isOwnKey_of_isKey_eq_false hc.1

theorem ownKeysSatisfy_keyedTable (name : String) (keys : List (Participant × String)) :
    OwnKeysSatisfy P (keyedTable name keys) := by
  have hempty : OwnKeysSatisfy P ⟨name, []⟩ := by
    intro c hc
    contradiction
  apply hempty.grows (keyedTable_grows name keys)
  rintro c ⟨_, entry, _, hrefers⟩
  rw [Column.isOwnKey, hrefers]
  simp

theorem OwnKeysSatisfy.referToParent (h : OwnKeysSatisfy P t) (parent key : String) :
    OwnKeysSatisfy P (referToParent parent key t) := by
  intro c hc hown
  rw [columns_referToParent, List.mem_cons] at hc
  cases hc with
  | inl hnew =>
    rw [hnew] at hown
    contradiction
  | inr hold => exact h c (List.mem_filter.1 hold).1 hown

theorem OwnKeysSatisfy.inheritColumns (h : OwnKeysSatisfy P t) (hu : OwnKeysSatisfy P u)
    (hdown : ∀ key, P u.name key → P t.name key) : OwnKeysSatisfy P (inheritColumns u.columns t) := by
  intro c hc hown
  rw [Derivation.inheritColumns, List.mem_append, List.mem_filter] at hc
  cases hc with
  | inl hinherited => exact hdown _ (hu c hinherited hown)
  | inr hkept => exact h c hkept.1 hown

theorem OwnKeysSatisfy.iterate_inheritColumns (h : OwnKeysSatisfy P t) (hu : OwnKeysSatisfy P u)
    (hdown : ∀ key, P u.name key → P t.name key) (n : Nat) :
    OwnKeysSatisfy P ((Derivation.inheritColumns u.columns)^[n] t)
      ∧ ((Derivation.inheritColumns u.columns)^[n] t).name = t.name := by
  induction n with
  | zero => exact ⟨h, rfl⟩
  | succ n ih =>
    rw [Function.iterate_succ_apply']
    refine ⟨ih.1.inheritColumns hu ?_, ih.2⟩
    rw [ih.2]
    exact hdown

theorem OwnKeysSatisfy.mapReferences (h : OwnKeysSatisfy P t) (f : ForeignKey → ForeignKey) :
    OwnKeysSatisfy P (t.mapReferences f) := by
  intro c hc hown
  obtain ⟨c', hc', rfl⟩ := List.mem_map.1 hc
  apply h c' hc'
  simpa [Column.isOwnKey] using hown

theorem OwnKeysSatisfy.rename {old : String} (h : OwnKeysSatisfy P t) (hold : ∀ key, ¬P old key) (new : String) :
    OwnKeysSatisfy P (t.rename old new) := by
  have hmapped := h.mapReferences (redirect old new)
  unfold Table.rename
  split
  . next hname =>
    intro c hc hown
    have hkey := hmapped c hc hown
    rw [Table.name_mapReferences, hname] at hkey
    exact absurd hkey (hold _)
  . exact hmapped

end Columns

section Stages

theorem ownKeysSatisfy_related (hm : m.Valid) :
    ∀ t ∈ (related m).value.schema.tables, OwnKeysSatisfy (m.BringsKey settings) t := by
  apply Outcome.foldlM_invariant fun d : Draft => ∀ t ∈ d.schema.tables, OwnKeysSatisfy (m.BringsKey settings) t
  . rw [entityTables_eq hm.entityNames]
    intro t ht
    obtain ⟨e, he, rfl⟩ := List.mem_map.1 ht
    intro c hc hown
    rw [Column.isOwnKey, Bool.and_eq_true] at hown
    refine ⟨e, he, ?_, .refl⟩
    rw [← keyNames_entityTable, Table.mem_keyNames]
    exact ⟨c, hc, hown.1, rfl⟩
  . intro d r _ hd
    apply forall_tables_relation relation_step hd
    . intro holder target key _ t ht
      exact ht.extend r holder target key
    . intro keys _
      exact (ownKeysSatisfy_keyedTable r.name keys).appendAttributes r.attributes

theorem ownKeysSatisfy_flatten {g : Inheritance} {key : String} {children : List String} (hg : g ∈ m.inheritances)
    (hchildren : children ⊆ g.children) (hu : d.schema.table? g.parent = some u)
    (hd : ∀ t ∈ d.schema.tables, OwnKeysSatisfy (m.BringsKey settings) t) :
    ∀ t ∈ (flatten settings d g u key children).schema.tables, OwnKeysSatisfy (m.BringsKey settings) t := by
  unfold flatten
  cases hstrategy : g.strategyIn settings with
  | tablePerClass => exact forall_tables_modifyEach hd fun t ht => ht.referToParent _ _
  | singleTable =>
    intro t ht
    exact LogicalModel.forall_tables_modify hd (fun t ht => ht.foldInto _) t (List.mem_filter.1 ht).1
  | tablePerSubclass =>
    have hparent := hd u (LogicalModel.mem_of_table? hu)
    have hname : u.name = g.parent := LogicalModel.name_of_table? hu
    simp only [tablePerSubclass_eq]
    intro t' ht'
    have hmodified := (List.mem_filter.1 ht').1
    rw [tables_modifyEach (f := inheritColumns u.columns) (fun _ => rfl), List.mem_map] at hmodified
    obtain ⟨t, ht, rfl⟩ := hmodified
    by_cases hchild : t.name ∈ children
    . have hdown : ∀ key, m.BringsKey settings u.name key → m.BringsKey settings t.name key :=
        fun key hkey => hkey.handDown ⟨g, hg, hstrategy, hname.symm, hchildren hchild⟩
      exact ((hd t ht).iterate_inheritColumns hparent hdown _).1
    . rw [List.count_eq_zero_of_not_mem hchild]
      exact hd t ht

theorem ownKeysSatisfy_flattened (hm : m.Valid) :
    ∀ t ∈ (flattened m settings).value.schema.tables, OwnKeysSatisfy (m.BringsKey settings) t := by
  apply Outcome.foldlM_invariant (fun d : Draft => ∀ t ∈ d.schema.tables, OwnKeysSatisfy (m.BringsKey settings) t)
    (ownKeysSatisfy_related hm)
  intro d g hg hd
  have hstep : InheritanceStep settings d g (inheritance settings d g).value := inheritance_step
  generalize (inheritance settings d g).value = d' at hstep
  cases hstep with
  | skip => exact hd
  | flatten parent key hparent => exact ownKeysSatisfy_flatten hg List.filter_sublist.subset hparent hd

def StandsWithKey (m : ConceptualModel) (settings : Settings) (table key : String) : Prop :=
  ((m.entity? table).isSome = true ∧ Stands settings m.inheritances table) ∧ m.BringsKey settings table key

theorem ownKeysSatisfy_associative {titles : Titles} {a : AssociativeEntity}
    (htitles : TitlesDone m settings titles d) (hstep : AssociativeStep m d a d')
    (hd : ∀ t ∈ d.schema.tables, OwnKeysSatisfy (StandsWithKey m settings) t) :
    ∀ t ∈ d'.schema.tables, OwnKeysSatisfy (StandsWithKey m settings) t := by
  have happend : ∀ t, OwnKeysSatisfy (StandsWithKey m settings) t →
      OwnKeysSatisfy (StandsWithKey m settings) (appendAttributes t a.attributes) :=
    fun t ht => ht.appendAttributes a.attributes
  cases hstep with
  | skip => exact hd
  | keep table => exact LogicalModel.forall_tables_modify hd happend
  | rename table htable =>
    -- The table of a relation is none of an entity.
    have hold : ∀ key, ¬StandsWithKey m settings table key := by
      intro key hkey
      exact htitles.ne_tableOf? hkey.1.1 hkey.1.2 htable rfl
    have hrenamed : ∀ t ∈ (d.schema.rename table a.name).tables, OwnKeysSatisfy (StandsWithKey m settings) t := by
      rw [LogicalModel.tables_rename, List.forall_mem_map]
      intro t ht
      exact (hd t ht).rename hold a.name
    exact LogicalModel.forall_tables_modify hrenamed happend
  | add r keys =>
    exact LogicalModel.forall_tables_modify (LogicalModel.forall_tables_add hd (ownKeysSatisfy_keyedTable a.name keys))
      happend

theorem ownKeysSatisfy_toLogical (hm : m.Valid) (hclean : (m.toLogical settings).FindsAll) :
    ∀ t ∈ (m.toLogical settings).value.tables, OwnKeysSatisfy (m.BringsKey settings) t := by
  have hdrafted : ∀ t ∈ (drafted m settings).value.schema.tables, OwnKeysSatisfy (StandsWithKey m settings) t := by
    apply drafted_of_titles (fun d => ∀ t ∈ d.schema.tables, OwnKeysSatisfy (StandsWithKey m settings) t) hm hclean
    . intro t ht c hc hown
      have hbrought := ownKeysSatisfy_flattened hm t ht c hc hown
      have hname : t.name ∈ (flattened m settings).value.schema.names := List.mem_map_of_mem ht
      exact ⟨⟨hbrought.isSome_entity? hm, (((groupsDone_of_findsAll hm hclean).names _).1 hname).2⟩, hbrought⟩
    . intro titles d a htitles hd
      exact ownKeysSatisfy_associative htitles associative_step hd
  rw [value_toLogical, LogicalModel.tables_mapReferences, List.forall_mem_map]
  intro t ht
  apply OwnKeysSatisfy.mapReferences
  intro c hc hown
  exact (hdrafted t ht c hc hown).2

end Stages

end Derivation

end SchemaDesign
