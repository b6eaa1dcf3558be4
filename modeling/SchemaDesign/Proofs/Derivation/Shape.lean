import SchemaDesign.Proofs.Conceptual.Reader
import SchemaDesign.Proofs.Derivation.EachTable
import SchemaDesign.Proofs.Derivation.KeyColumns

namespace SchemaDesign

def Column.IsSource (c : Column) : Prop :=
  ∀ fk ∈ c.reference, fk.source = c.name

namespace Derivation

variable {m : ConceptualModel} {settings : Settings} {d d' : Draft} {t u : Table}

theorem isSource_of_isPlain {c : Column} (h : IsPlain c) : c.IsSource := by
  intro fk hfk
  rw [h.2] at hfk
  contradiction

theorem isSource_of_refersTo {table key : String} {c : Column} (h : RefersTo table key c) : c.IsSource := by
  intro fk hfk
  rw [h, Option.mem_some_iff] at hfk
  rw [← hfk]
  rfl

structure Shaped (m : ConceptualModel) (t : Table) : Prop where
  title : t.name ∈ m.tableNames
  distinct : t.names.Nodup
  source : ∀ c ∈ t.columns, c.IsSource

section Columns

theorem Shaped.grows {P : Column → Prop} (h : Shaped m t) (hgrows : t.Grows P u)
    (hP : ∀ c, P c → c.IsSource) : Shaped m u := by
  constructor
  . rw [hgrows.name_eq]
    exact h.title
  . exact hgrows.nodup_names h.distinct
  . intro c hc
    cases hgrows.mem_columns hc with
    | inl hold => exact h.source c hold
    | inr hnew => exact hP c hnew.1

theorem shaped_appendAttributes (h : Shaped m t) (attributes : List Attribute) :
    Shaped m (appendAttributes t attributes) := by
  apply h.grows (appendAttributes_grows t attributes)
  intro c
  exact isSource_of_isPlain

theorem shaped_extend (h : Shaped m t) (r : Relation) (holder target : Participant) (key : String) :
    Shaped m (placeReference.extend m r holder target key t) := by
  apply h.grows (extend_grows m r holder target key t)
  rintro c ⟨hkey, hplain | hrefers⟩
  . exact isSource_of_isPlain ⟨hkey, hplain⟩
  . exact isSource_of_refersTo hrefers

theorem shaped_keyedTable {name : String} (h : name ∈ m.tableNames) (keys : List (Participant × String)) :
    Shaped m (keyedTable name keys) := by
  have hempty : Shaped m ⟨name, []⟩ := ⟨h, List.nodup_nil, by simp⟩
  apply hempty.grows (keyedTable_grows name keys)
  rintro c ⟨_, entry, _, hrefers⟩
  exact isSource_of_refersTo hrefers

theorem shaped_foldInto {children : List Table} (hchildren : ∀ u ∈ children, Shaped m u) (h : Shaped m t) :
    Shaped m (foldInto children t) := by
  apply h.grows (foldInto_grows children t)
  rintro c ⟨hkey, hplain | ⟨u, hu, hc⟩⟩
  . exact isSource_of_isPlain ⟨hkey, hplain⟩
  . exact (hchildren u hu).source c hc

theorem shaped_referToParent (h : Shaped m t) (parent key : String) : Shaped m (referToParent parent key t) := by
  refine ⟨h.title, nodup_names_referToParent h.distinct, ?_⟩
  rw [columns_referToParent, List.forall_mem_cons]
  constructor
  . exact isSource_of_refersTo rfl
  . intro c hc
    exact h.source c (List.mem_filter.1 hc).1

theorem shaped_inheritColumns (hparent : Shaped m u) (h : Shaped m t) : Shaped m (inheritColumns u.columns t) := by
  refine ⟨h.title, nodup_names_inheritColumns hparent.distinct h.distinct, ?_⟩
  intro c hc
  rw [inheritColumns, List.mem_append, List.mem_filter] at hc
  cases hc with
  | inl hinherited => exact hparent.source c hinherited
  | inr hown => exact h.source c hown.1

theorem shaped_mapReferences {f : ForeignKey → ForeignKey} (hf : ∀ fk, (f fk).source = fk.source)
    (h : Shaped m t) : Shaped m (t.mapReferences f) := by
  refine ⟨h.title, ?_, ?_⟩
  . rw [Table.names_mapReferences]
    exact h.distinct
  . rw [Table.mapReferences, List.forall_mem_map]
    intro c hc fk hfk
    obtain ⟨old, hold, rfl⟩ := Option.map_eq_some_iff.1 hfk
    rw [hf]
    exact h.source c hc old hold

theorem shaped_rename {new : String} (hnew : new ∈ m.tableNames) (h : Shaped m t) (old : String) :
    Shaped m (t.rename old new) := by
  have hmapped : Shaped m (t.mapReferences (redirect old new)) := by
    apply shaped_mapReferences _ h
    intro fk
    unfold redirect
    split
    . rfl
    . rfl
  unfold Table.rename
  split
  . exact ⟨hnew, hmapped.distinct, hmapped.source⟩
  . exact hmapped

end Columns

section Steps

def AllShaped (m : ConceptualModel) (d : Draft) : Prop :=
  ∀ t ∈ d.schema.tables, Shaped m t

theorem allShaped_entityTables (hattributes : m.DistinctAttributes) :
    AllShaped m (entityTables m .empty).value := by
  apply Outcome.foldlM_invariant (AllShaped m)
  . simp [AllShaped, Draft.empty, LogicalModel.empty]
  . intro d e he hd
    unfold entityTables.step
    split
    . exact hd
    . apply LogicalModel.forall_tables_add hd
      refine ⟨ConceptualModel.mem_tableNames_of_entity he, ?_, ?_⟩
      . simp only [Table.names, attributeColumns, List.map_map]
        exact (hattributes e he).sublist (List.filter_sublist.map _)
      . intro c hc fk hfk
        obtain ⟨a, _, rfl⟩ := List.mem_map.1 hc
        contradiction

theorem AllShaped.relation {r : Relation} (hr : r ∈ m.relations) (hd : AllShaped m d)
    (hstep : RelationStep m d r d') : AllShaped m d' := by
  apply forall_tables_relation hstep hd
  . intro holder target key _ t ht
    exact shaped_extend ht r holder target key
  . intro keys _
    apply shaped_appendAttributes
    exact shaped_keyedTable (ConceptualModel.mem_tableNames_of_relation hr) keys

theorem AllShaped.inheritance {g : Inheritance} (hd : AllShaped m d) (hstep : InheritanceStep settings d g d') :
    AllShaped m d' := by
  cases hstep with
  | skip => exact hd
  | flatten parent key hparent =>
    apply forall_tables_flatten hd
    . intro t ht
      exact shaped_referToParent ht _ _
    . intro children hchildren t
      exact shaped_foldInto hchildren
    . intro t
      exact shaped_inheritColumns (hd parent (LogicalModel.mem_of_table? hparent))

theorem AllShaped.associative {a : AssociativeEntity} (ha : a ∈ m.associatives) (hd : AllShaped m d)
    (hstep : AssociativeStep m d a d') : AllShaped m d' := by
  have hname := ConceptualModel.mem_tableNames_of_associative ha
  apply forall_tables_associative hstep hd
  . intro t ht
    exact shaped_appendAttributes ht _
  . intro old t ht
    exact shaped_rename hname ht old
  . intro r keys _ _
    exact shaped_keyedTable hname keys

end Steps

section Stages

theorem allShaped_related (hattributes : m.DistinctAttributes) : AllShaped m (related m).value := by
  apply Outcome.foldlM_invariant (AllShaped m)
  . exact allShaped_entityTables hattributes
  . intro d r hr hd
    exact hd.relation hr relation_step

theorem allShaped_drafted (hattributes : m.DistinctAttributes) : AllShaped m (drafted m settings).value := by
  have hflattened : AllShaped m (flattened m settings).value := by
    apply Outcome.foldlM_invariant (AllShaped m)
    . exact allShaped_related hattributes
    . intro d g _ hd
      exact hd.inheritance inheritance_step
  apply Outcome.foldlM_invariant (AllShaped m)
  . exact hflattened
  . intro d a ha hd
    exact hd.associative ha associative_step

theorem shaped_toLogical (hattributes : m.DistinctAttributes) :
    ∀ t ∈ (m.toLogical settings).value.tables, Shaped m t := by
  rw [value_toLogical, LogicalModel.tables_mapReferences, List.forall_mem_map]
  intro t ht
  apply shaped_mapReferences _ (allShaped_drafted hattributes t ht)
  intro fk
  unfold retarget
  split
  . rfl
  . rfl

end Stages

end Derivation

end SchemaDesign
