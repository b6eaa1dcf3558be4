import SchemaDesign.Proofs.Derivation.Locality
import SchemaDesign.Proofs.Derivation.Regrouping
import SchemaDesign.Proofs.Logical.Lookup

/-!
This module contains what inheritance groups do to the tables that are no members of any of them: nothing, except that
a reference to a child that was folded into its parent is led to the parent.
-/

namespace SchemaDesign

def ConceptualModel.isOutside (m : ConceptualModel) (name : String) : Bool :=
  m.inheritances.all fun g => name ∉ g.members

/--
The second reference is the first one, led to the parent of a group that was folded into one table and had the table
the first one refers to as a child, which is gone.
-/
def LedToParent (m : ConceptualModel) (settings : Settings) (fk fk' : ForeignKey) : Prop :=
  ∃ g ∈ m.inheritances, g.strategyIn settings = .singleTable ∧ fk.table ∈ g.children
    ∧ fk.table ∉ (m.toLogical settings).value.names ∧ ∃ column, fk' = { fk with table := g.parent, column := column }

structure KeptColumn (m : ConceptualModel) (settings : Settings) (c c' : Column) : Prop where
  name : c'.name = c.name
  isKey : c'.isKey = c.isKey
  reference : c'.reference = c.reference
    ∨ ∃ fk fk', c.reference = some fk ∧ c'.reference = some fk' ∧ LedToParent m settings fk fk'

structure KeptTable (m : ConceptualModel) (settings : Settings) (t t' : Table) : Prop where
  name : t'.name = t.name
  columns : List.Forall₂ (KeptColumn m settings) t.columns t'.columns

namespace Derivation

variable {m : ConceptualModel} {settings : Settings} {d : Draft} {g : Inheritance} {name : String}

section Run

theorem names_flattened_sublist : (flattened m settings).value.schema.names.Sublist (related m).value.schema.names := by
  apply Outcome.foldlM_invariant fun d : Draft => d.schema.names.Sublist (related m).value.schema.names
  . exact List.Sublist.refl _
  . intro d g _ hd
    exact names_inheritance_sublist.trans hd

theorem table?_flattened (hname : m.isOutside name = true) :
    (flattened m settings).value.schema.table? name = (related m).value.schema.table? name := by
  apply Outcome.foldlM_invariant fun d : Draft => d.schema.table? name = (related m).value.schema.table? name
  . rfl
  . intro d g hg hd
    rw [← hd]
    apply table?_inheritance_of_notMem
    simpa using List.all_eq_true.1 hname g hg

theorem filter_tables_flattened :
    (flattened m settings).value.schema.tables.filter (fun t => m.isOutside t.name)
      =
    (related m).value.schema.tables.filter fun t => m.isOutside t.name := by
  apply LogicalModel.filter_tables_eq (p := m.isOutside) nodup_names_related names_flattened_sublist
    (List.Sublist.refl _)
  intro name hname
  exact table?_flattened hname

end Run

section Record

structure FoldedChild (m : ConceptualModel) (settings : Settings) (schema : LogicalModel)
    (entry : String × (String × String)) : Prop where
  group : ∃ g ∈ m.inheritances, g.strategyIn settings = .singleTable ∧ entry.1 ∈ g.children ∧ entry.2.1 = g.parent
  gone : entry.1 ∉ schema.names

theorem foldedChild_of_mem_newFolds (hg : g ∈ m.inheritances) {entry : String × (String × String)}
    (h : entry ∈ newFolds settings d g) : FoldedChild m settings (inheritance settings d g).value.schema entry := by
  unfold newFolds at h
  split at h
  . next parent key hsingle hkeyed =>
    obtain ⟨child, hmem, rfl⟩ := List.mem_map.1 h
    constructor
    . exact ⟨g, hg, hsingle, (List.mem_filter.1 hmem).1, rfl⟩
    . rw [← LogicalModel.table?_eq_none_iff, value_inheritance, hkeyed]
      simp only [table?_flatten (keyed?_eq_some_iff.1 hkeyed).1, hsingle]
      exact if_pos hmem
  . contradiction

theorem foldedChild_flattened :
    ∀ entry ∈ (flattened m settings).value.folded,
      FoldedChild m settings (flattened m settings).value.schema entry := by
  apply Outcome.foldlM_invariant fun d : Draft => ∀ entry ∈ d.folded, FoldedChild m settings d.schema entry
  . rw [folded_related]
    simp
  . intro d g hg hd entry hentry
    rw [folded_inheritance, List.mem_append] at hentry
    cases hentry with
    | inl hnew => exact foldedChild_of_mem_newFolds hg hnew
    | inr hold =>
      obtain ⟨hgroup, hgone⟩ := hd entry hold
      exact ⟨hgroup, fun hmem => hgone (names_inheritance_sublist.subset hmem)⟩

end Record

section Frame

variable (hassociatives : m.associatives = [])

include hassociatives

theorem drafted_eq_flattened : drafted m settings = flattened m settings := by
  unfold drafted associatives
  rw [hassociatives]
  exact bind_pure _

theorem retarget_flattened (fk : ForeignKey) :
    retarget (flattened m settings).value.folded fk = fk
      ∨ LedToParent m settings fk (retarget (flattened m settings).value.folded fk) := by
  unfold retarget
  cases hlookup : (flattened m settings).value.folded.lookup fk.table with
  | none => exact Or.inl rfl
  | some target =>
    obtain ⟨front, back, hsplit, _⟩ := List.lookup_eq_some_iff.1 hlookup
    have hentry : (fk.table, target) ∈ (flattened m settings).value.folded := by simp [hsplit]
    obtain ⟨⟨g, hg, hsingle, hchild, hparent⟩, hgone⟩ := foldedChild_flattened _ hentry
    apply Or.inr
    refine ⟨g, hg, hsingle, hchild, ?_, target.2, ?_⟩
    . rwa [names_toLogical, drafted_eq_flattened hassociatives]
    . rw [← hparent]

theorem keptTable_mapReferences (t : Table) :
    KeptTable m settings t (t.mapReferences (retarget (flattened m settings).value.folded)) := by
  constructor
  . rfl
  . rw [Table.mapReferences, List.forall₂_map_right_iff, List.forall₂_same]
    intro c _
    constructor
    . rfl
    . rfl
    . cases c.reference with
      | none => exact Or.inl rfl
      | some fk =>
        rw [Option.map_some]
        cases @retarget_flattened m settings hassociatives fk with
        | inl hsame => exact Or.inl (congrArg some hsame)
        | inr hled => exact Or.inr ⟨fk, _, rfl, rfl, hled⟩

theorem value_toLogical_withGroups_nil (hkeys : ∀ e ∈ m.entities, e.key?.isSome = true) :
    ((m.withGroups []).toLogical settings).value = (related m).value.schema := by
  have hnames : ∀ name, (m.withGroups []).keyName? name = (m.withGroups m.inheritances).keyName? name :=
    ConceptualModel.keyName?_withGroups_of_key? hkeys
  have hrelated : related (m.withGroups []) = related m := related_withGroups hnames
  have hdrafted : drafted (m.withGroups []) settings = related m := by
    rw [drafted_eq_flattened (m := m.withGroups []) hassociatives, ← hrelated]
    exact bind_pure _
  rw [value_toLogical, hdrafted, folded_related]
  exact LogicalModel.mapReferences_id _

end Frame

theorem toLogical_frame (m : ConceptualModel) (settings : Settings) (hassociatives : m.associatives = [])
    (hkeys : ∀ e ∈ m.entities, e.key?.isSome = true) :
    List.Forall₂ (KeptTable m settings)
      (((m.withGroups []).toLogical settings).value.tables.filter fun t => m.isOutside t.name)
      ((m.toLogical settings).value.tables.filter fun t => m.isOutside t.name) := by
  rw [value_toLogical_withGroups_nil hassociatives hkeys, value_toLogical, drafted_eq_flattened hassociatives,
    LogicalModel.tables_mapReferences, List.filter_map]
  simp only [Function.comp_def, Table.name_mapReferences]
  rw [filter_tables_flattened, List.forall₂_map_right_iff, List.forall₂_same]
  intro t _
  exact keptTable_mapReferences hassociatives t

def orders : ConceptualModel where
  entities := [⟨"Item", [⟨"id_i", true, false⟩]⟩, ⟨"Order", [⟨"id_o", true, false⟩, ⟨"day", false, false⟩]⟩,
    ⟨"Book", [⟨"id_b", true, false⟩, ⟨"title", false, false⟩]⟩, ⟨"Disc", [⟨"id_d", true, false⟩]⟩,
    ⟨"Clerk", [⟨"id_c", true, false⟩]⟩]
  relations := [⟨"holds", [⟨"Order", .oneOne⟩, ⟨"Book", .zeroMany⟩], []⟩,
    ⟨"Log", [⟨"Clerk", .zeroMany⟩, ⟨"Disc", .zeroMany⟩], [⟨"hour", false, false⟩]⟩]
  inheritances := [⟨"Kinds", "Item", ["Book", "Disc"], some .singleTable⟩,
    ⟨"Media", "Disc", ["Book"], some .tablePerSubclass⟩]
  associatives := []

theorem toLogical_frame_orders :
    orders.associatives = []
      ∧ (∀ e ∈ orders.entities, e.key?.isSome = true)
      ∧ (((orders.withGroups []).toLogical .standard).value.tables.filter fun t => orders.isOutside t.name).map
            (fun t => (t.name, t.names, t.references.map fun fk => (fk.table, fk.column)))
          = [("Order", ["id_o", "day", "id_b"], [("Book", "id_b")]), ("Clerk", ["id_c"], []),
             ("Log", ["id_c", "id_d", "hour"], [("Clerk", "id_c"), ("Disc", "id_d")])]
      ∧ ((orders.toLogical .standard).value.tables.filter fun t => orders.isOutside t.name).map
            (fun t => (t.name, t.names, t.references.map fun fk => (fk.table, fk.column)))
          = [("Order", ["id_o", "day", "id_b"], [("Item", "id_i")]), ("Clerk", ["id_c"], []),
             ("Log", ["id_c", "id_d", "hour"], [("Clerk", "id_c"), ("Item", "id_i")])]
      ∧ List.Forall₂ (KeptTable orders .standard)
          (((orders.withGroups []).toLogical .standard).value.tables.filter fun t => orders.isOutside t.name)
          ((orders.toLogical .standard).value.tables.filter fun t => orders.isOutside t.name) := by
  have hkeys : ∀ e ∈ orders.entities, e.key?.isSome = true := by decide
  exact ⟨rfl, hkeys, by decide +kernel, by decide +kernel, toLogical_frame orders .standard rfl hkeys⟩

end Derivation

end SchemaDesign
