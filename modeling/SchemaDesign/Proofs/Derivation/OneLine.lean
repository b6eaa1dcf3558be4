import SchemaDesign.Proofs.Conceptual.KeyName
import SchemaDesign.Proofs.Conceptual.Reader
import SchemaDesign.Proofs.Derivation.Shape
import SchemaDesign.Proofs.Physical.OneLine

namespace SchemaDesign

open Text Document

section Reading

theorem Attribute.oneLine_read (owner : String) (item : List Char) :
    ∀ a ∈ (read owner item).value, OneLine a.name := by
  intro a ha
  unfold read at ha
  split at ha
  . next head flags _ =>
    split at ha
    . next hidentifier =>
      simp only [Outcome.value_pure, Option.mem_some_iff] at ha
      rw [← ha, name_foldl_step]
      apply oneLine_of_isIdentifier
      rwa [String.toList_ofList]
    . contradiction
  . contradiction

theorem Attribute.oneLine_readAll (owner : String) (items : List (List Char)) :
    ∀ a ∈ (readAll owner items).value, OneLine a.name := by
  apply forall_readDistinct
  intro item _
  exact oneLine_read owner item

namespace ConceptualModel

def attributes (m : ConceptualModel) : List Attribute :=
  m.entities.flatMap (·.attributes) ++ m.relations.flatMap (·.attributes) ++ m.associatives.flatMap (·.attributes)

structure OneLine (m : ConceptualModel) : Prop where
  tables : ∀ name ∈ m.tableNames, SchemaDesign.OneLine name
  attributes : ∀ a ∈ m.attributes, SchemaDesign.OneLine a.name

theorem attributes_append (m n : ConceptualModel) {a : Attribute} (h : a ∈ (m.append n).attributes) :
    a ∈ m.attributes ∨ a ∈ n.attributes := by
  simp only [attributes, append, List.flatMap_append, List.mem_append] at h ⊢
  grind

theorem oneLine_attributes_readBlock (b : Block) :
    ∀ a ∈ (readBlock b).value.attributes, SchemaDesign.OneLine a.name := by
  unfold readBlock
  split
  . simpa [attributes, empty, Entity.read] using Attribute.oneLine_readAll b.name b.items
  . split
    . simpa [attributes, empty, Relation.read] using Attribute.oneLine_readAll b.name _
    . split
      . simp [attributes, empty]
      . split
        . simp only [attributes, empty, AssociativeEntity.read, Outcome.value_bind, Outcome.value_pure]
          split
          . simp
          . simpa using Attribute.oneLine_readAll b.name b.items
        . simp [attributes, empty]

theorem oneLine_read (text : String) : (read text).value.OneLine := by
  constructor
  . intro name hname
    exact oneLine_of_isBlockName (isBlockName_tableNames name hname)
  . apply read_induction fun m => ∀ a ∈ m.attributes, SchemaDesign.OneLine a.name
    . simp [attributes, empty]
    . intro m n hm hn a ha
      exact (attributes_append m n ha).elim (hm a) (hn a)
    . intro b _
      exact oneLine_attributes_readBlock b

variable {m : ConceptualModel} {name found : String} {a : Attribute}

theorem mem_attributes_of_entity {e : Entity} (he : e ∈ m.entities) (ha : a ∈ e.attributes) : a ∈ m.attributes := by
  simp only [attributes, List.mem_append]
  exact Or.inl (Or.inl (List.mem_flatMap.2 ⟨e, he, ha⟩))

theorem mem_attributes_of_relation {r : Relation} (hr : r ∈ m.relations) (ha : a ∈ r.attributes) :
    a ∈ m.attributes := by
  simp only [attributes, List.mem_append]
  exact Or.inl (Or.inr (List.mem_flatMap.2 ⟨r, hr, ha⟩))

theorem mem_attributes_of_associative {b : AssociativeEntity} (hb : b ∈ m.associatives) (ha : a ∈ b.attributes) :
    a ∈ m.attributes := by
  simp only [attributes, List.mem_append]
  exact Or.inr (List.mem_flatMap.2 ⟨b, hb, ha⟩)

theorem exists_attribute_of_go {unvisited : List Entity} (hunvisited : unvisited ⊆ m.entities)
    (h : keyName?.go m unvisited name = some found) : ∃ a ∈ m.attributes, a.name = found := by
  fun_induction keyName?.go m unvisited name with
  | case1 | case3 => contradiction
  | case2 unvisited name e he own hown =>
    refine ⟨own, ?_, Option.some.inj h⟩
    exact mem_attributes_of_entity (hunvisited (List.mem_of_find?_eq_some he)) (List.mem_of_find?_eq_some hown)
  | case4 unvisited name e he hown parent hparent ih =>
    exact ih (List.Subset.trans (otherEntities_subset _ _) hunvisited) h

theorem OneLine.key (hm : m.OneLine) (h : m.keyName? name = some found) : SchemaDesign.OneLine found := by
  obtain ⟨a, ha, rfl⟩ := exists_attribute_of_go (List.Subset.refl _) h
  exact hm.attributes a ha

end ConceptualModel

end Reading

section Names

theorem oneLine_lowercaseName {name : String} (h : OneLine name) : OneLine (lowercaseName name) := by
  rw [lowercaseName, OneLine, String.toList_ofList]
  exact notMem_newline_lowercase h

theorem oneLine_toString (n : Nat) : OneLine (toString n) :=
  oneLine_of_isIdentifier (isIdentifier_toString n)

theorem oneLine_freshName (t : Table) {base : String} {qualifier : Option String} (hbase : OneLine base)
    (hqualifier : ∀ q ∈ qualifier, OneLine q) : OneLine (t.freshName base qualifier) := by
  have hunderscore : OneLine "_" := by decide
  have hnumbered : ∀ stem, OneLine stem → OneLine (Table.freshName.numbered t stem) := by
    intro stem hstem
    simp only [Table.freshName.numbered, oneLine_append]
    exact ⟨⟨hstem, hunderscore⟩, oneLine_toString _⟩
  unfold Table.freshName
  split
  . exact hbase
  . split
    . next q =>
      have hqualified : OneLine (base ++ "_" ++ q) := by
        simp only [oneLine_append]
        exact ⟨⟨hbase, hunderscore⟩, hqualifier q rfl⟩
      split
      . exact hnumbered base hbase
      . split
        . exact hnumbered _ hqualified
        . exact hqualified
    . exact hnumbered base hbase

end Names

structure Table.OneLine (t : Table) : Prop where
  name : SchemaDesign.OneLine t.name
  columns : ∀ c ∈ t.columns, SchemaDesign.OneLine c.name

theorem Table.OneLine.grows {t u : Table} (h : t.OneLine) (hgrows : t.Grows (fun c => SchemaDesign.OneLine c.name) u) :
    u.OneLine := by
  constructor
  . rw [hgrows.name_eq]
    exact h.name
  . intro c hc
    cases hgrows.mem_columns hc with
    | inl hold => exact h.columns c hold
    | inr hnew => exact hnew.1

namespace Derivation

variable {m : ConceptualModel} {settings : Settings} {d d' : Draft} {t : Table}

section Columns

theorem oneLine_appendAttributes (h : t.OneLine) {attributes : List Attribute}
    (hattributes : ∀ a ∈ attributes, SchemaDesign.OneLine a.name) : (appendAttributes t attributes).OneLine := by
  apply h.grows
  unfold appendAttributes
  apply Table.Grows.foldl
  intro a ha u
  exact Table.Grows.appendIfFree u (c := .plain a.name) (hattributes a (List.mem_filter.1 ha).1)

theorem oneLine_extend (h : t.OneLine) {r : Relation} {holder target : Participant} {key : String}
    (hname : SchemaDesign.OneLine r.name) (hattributes : ∀ a ∈ r.attributes, SchemaDesign.OneLine a.name)
    (hkey : SchemaDesign.OneLine key) : (placeReference.extend m r holder target key t).OneLine := by
  have hrole := oneLine_lowercaseName hname
  unfold placeReference.extend
  refine oneLine_appendAttributes (h.grows ?_) hattributes
  apply Table.Grows.of_append
  . rw [Column.name_referring]
    apply t.freshName_notMem
  . rw [Column.name_referring]
    apply oneLine_freshName
    . split
      . simp only [oneLine_append]
        exact ⟨⟨hkey, by decide⟩, hrole⟩
      . exact hkey
    . simpa using hrole

theorem oneLine_keyedTable {name : String} (hname : SchemaDesign.OneLine name) {keys : List (Participant × String)}
    (hkeys : ∀ entry ∈ keys, SchemaDesign.OneLine entry.1.entity ∧ SchemaDesign.OneLine entry.2) :
    (keyedTable name keys).OneLine := by
  have hempty : Table.OneLine ⟨name, []⟩ := ⟨hname, by simp⟩
  apply hempty.grows
  unfold keyedTable
  apply Table.Grows.foldl
  intro entry hentry u
  obtain ⟨hentity, hkey⟩ := hkeys entry hentry
  apply Table.Grows.of_append
  . rw [Column.name_keyReferring]
    apply u.freshName_notMem
  . rw [Column.name_keyReferring]
    apply oneLine_freshName
    . split
      . simp only [oneLine_append]
        exact ⟨⟨hkey, by decide⟩, oneLine_lowercaseName hentity⟩
      . exact hkey
    . simp

theorem oneLine_foldInto {children : List Table} (hchildren : ∀ u ∈ children, u.OneLine) (h : t.OneLine) :
    (foldInto children t).OneLine := by
  apply h.grows
  unfold foldInto
  apply Table.Grows.trans
  . apply Table.Grows.appendIfFree t (c := .plain discriminator)
    have hdiscriminator : SchemaDesign.OneLine discriminator := by decide
    exact hdiscriminator
  . apply Table.Grows.foldl
    intro c hc u
    obtain ⟨child, hchild, hc⟩ := List.mem_flatMap.1 hc
    exact Table.Grows.appendIfFree u ((hchildren child hchild).columns c (List.mem_filter.1 hc).1)

theorem oneLine_referToParent (h : t.OneLine) {parent key : String} (hparent : SchemaDesign.OneLine parent)
    (hkey : SchemaDesign.OneLine key) : (referToParent parent key t).OneLine := by
  refine ⟨h.name, ?_⟩
  rw [columns_referToParent, List.forall_mem_cons]
  constructor
  . rw [Column.name_keyReferring]
    apply oneLine_freshName _ hkey
    simpa using oneLine_lowercaseName hparent
  . intro c hc
    exact h.columns c (List.mem_filter.1 hc).1

theorem oneLine_inheritColumns {u : Table} (hu : u.OneLine) (h : t.OneLine) : (inheritColumns u.columns t).OneLine := by
  refine ⟨h.name, ?_⟩
  intro c hc
  rw [inheritColumns, List.mem_append, List.mem_filter] at hc
  cases hc with
  | inl hinherited => exact hu.columns c hinherited
  | inr hown => exact h.columns c hown.1

theorem oneLine_mapReferences (h : t.OneLine) (f : ForeignKey → ForeignKey) : (t.mapReferences f).OneLine := by
  refine ⟨h.name, ?_⟩
  rw [Table.mapReferences, List.forall_mem_map]
  exact h.columns

theorem oneLine_rename {new : String} (hnew : SchemaDesign.OneLine new) (h : t.OneLine) (old : String) :
    (t.rename old new).OneLine := by
  have hmapped := oneLine_mapReferences h (redirect old new)
  unfold Table.rename
  split
  . exact ⟨hnew, hmapped.columns⟩
  . exact hmapped

end Columns

section Stages

variable (hm : m.OneLine)

include hm

theorem HasKeys.oneLine {ps : List Participant} {keys : List (Participant × String)} (h : HasKeys m d ps keys) :
    ∀ entry ∈ keys, SchemaDesign.OneLine entry.1.entity ∧ SchemaDesign.OneLine entry.2 := by
  intro entry hentry
  have hkey := h.key entry hentry
  obtain ⟨e, he, hname⟩ := ConceptualModel.exists_of_go hkey
  constructor
  . rw [← hname]
    exact hm.tables _ (ConceptualModel.mem_tableNames_of_entity he)
  . exact hm.key hkey

theorem oneLine_related : ∀ t ∈ (related m).value.schema.tables, t.OneLine := by
  have hentities : ∀ t ∈ (entityTables m .empty).value.schema.tables, t.OneLine := by
    apply Outcome.foldlM_invariant fun d : Draft => ∀ t ∈ d.schema.tables, t.OneLine
    . simp [Draft.empty, LogicalModel.empty]
    . intro d e he hd
      unfold entityTables.step
      split
      . exact hd
      . apply LogicalModel.forall_tables_add hd
        refine ⟨hm.tables _ (ConceptualModel.mem_tableNames_of_entity he), ?_⟩
        intro c hc
        obtain ⟨a, ha, rfl⟩ := List.mem_map.1 hc
        exact hm.attributes a (ConceptualModel.mem_attributes_of_entity he (List.mem_filter.1 ha).1)
  apply Outcome.foldlM_invariant (fun d : Draft => ∀ t ∈ d.schema.tables, t.OneLine) hentities
  intro d r hr hd
  have hname := hm.tables _ (ConceptualModel.mem_tableNames_of_relation hr)
  have hattributes : ∀ a ∈ r.attributes, SchemaDesign.OneLine a.name := by
    intro a ha
    exact hm.attributes a (ConceptualModel.mem_attributes_of_relation hr ha)
  apply forall_tables_relation relation_step hd
  . intro holder target key hkey t ht
    exact oneLine_extend ht hname hattributes (hm.key hkey)
  . intro keys hkeys
    exact oneLine_appendAttributes (oneLine_keyedTable hname (hkeys.oneLine hm)) hattributes

theorem oneLine_flattened : ∀ t ∈ (flattened m settings).value.schema.tables, t.OneLine := by
  apply Outcome.foldlM_invariant (fun d : Draft => ∀ t ∈ d.schema.tables, t.OneLine) (oneLine_related hm)
  intro d g _ hd
  have hstep : InheritanceStep settings d g (inheritance settings d g).value := inheritance_step
  generalize (inheritance settings d g).value = d' at hstep
  cases hstep with
  | skip => exact hd
  | flatten parent key hparent hkey =>
    have hu := hd parent (LogicalModel.mem_of_table? hparent)
    have hkeyName : SchemaDesign.OneLine key.name :=
      hu.columns key (List.mem_filter.1 (List.mem_of_mem_head? hkey)).1
    have hparentName : SchemaDesign.OneLine g.parent := by
      rw [← LogicalModel.name_of_table? hparent]
      exact hu.name
    apply forall_tables_flatten hd
    . intro t ht
      exact oneLine_referToParent ht hparentName hkeyName
    . intro children hchildren t
      exact oneLine_foldInto hchildren
    . intro t
      exact oneLine_inheritColumns hu

theorem oneLine_drafted : ∀ t ∈ (drafted m settings).value.schema.tables, t.OneLine := by
  apply Outcome.foldlM_invariant (fun d : Draft => ∀ t ∈ d.schema.tables, t.OneLine) (oneLine_flattened hm)
  intro d a ha hd
  have hname := hm.tables _ (ConceptualModel.mem_tableNames_of_associative ha)
  apply forall_tables_associative associative_step hd
  . intro t ht
    apply oneLine_appendAttributes ht
    intro b hb
    exact hm.attributes b (ConceptualModel.mem_attributes_of_associative ha hb)
  . intro old t ht
    exact oneLine_rename hname ht old
  . intro r keys _ hkeys
    exact oneLine_keyedTable hname (hkeys.oneLine hm)

theorem oneLine_toLogical : ∀ t ∈ (m.toLogical settings).value.tables, t.OneLine := by
  rw [value_toLogical, LogicalModel.tables_mapReferences, List.forall_mem_map]
  intro t ht
  exact oneLine_mapReferences (oneLine_drafted hm t ht) _

end Stages

end Derivation

end SchemaDesign
