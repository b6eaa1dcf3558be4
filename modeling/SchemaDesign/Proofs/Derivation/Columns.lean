import SchemaDesign.Derivation
import SchemaDesign.Proofs.Logical.Edit
import SchemaDesign.Proofs.Logical.FreshName
import SchemaDesign.Proofs.Logical.Growth

namespace SchemaDesign.Derivation

def IsPlain (c : Column) : Prop :=
  c.isKey = false ∧ c.reference = none

theorem appendAttributes_grows (t : Table) (attributes : List Attribute) :
    t.Grows IsPlain (appendAttributes t attributes) := by
  unfold appendAttributes
  apply Table.Grows.foldl
  intro a _ u
  exact Table.Grows.appendIfFree u (c := .plain a.name) ⟨rfl, rfl⟩

@[simp]
theorem name_appendAttributes (t : Table) (attributes : List Attribute) :
    (appendAttributes t attributes).name = t.name :=
  (appendAttributes_grows t attributes).name_eq

theorem appendAttributes_cons (t : Table) (a : Attribute) (attributes : List Attribute) :
    appendAttributes t (a :: attributes)
      =
    appendAttributes (if a.isDerived || t.hasColumn a.name then t else t.append (.plain a.name)) attributes := by
  unfold appendAttributes
  cases hderived : a.isDerived with
  | true => simp [hderived]
  | false => simp [hderived]

theorem mem_names_appendAttributes {t : Table} {attributes : List Attribute} {a : Attribute} (ha : a ∈ attributes)
    (hstored : a.isDerived = false) : a.name ∈ (appendAttributes t attributes).names := by
  induction attributes generalizing t with
  | nil => contradiction
  | cons first attributes ih =>
    rw [appendAttributes_cons]
    cases List.mem_cons.1 ha with
    | inl hfirst =>
      -- The column is there when the rest of the attributes is gone through, and stays.
      apply (appendAttributes_grows _ _).names_subset
      rw [← hfirst, hstored, Bool.false_or]
      split
      . next hthere => exact Table.hasColumn_iff.1 hthere
      . simp [Column.plain]
    | inr hrest => exact ih hrest

theorem mem_references_appendAttributes {t : Table} {attributes : List Attribute} {fk : ForeignKey}
    (h : fk ∈ (appendAttributes t attributes).references) : fk ∈ t.references := by
  cases (appendAttributes_grows t attributes).mem_references h with
  | inl hold => exact hold
  | inr hnew =>
    obtain ⟨c, hc, href⟩ := hnew
    simp [hc.2] at href

def RefersTo (table key : String) (c : Column) : Prop :=
  c.reference = some (.plain c.name table key)

theorem extend_grows (m : ConceptualModel) (r : Relation) (holder target : Participant) (key : String)
    (t : Table) :
    t.Grows (fun c => c.isKey = false ∧ (c.reference = none ∨ RefersTo target.entity key c))
      (placeReference.extend m r holder target key t) := by
  unfold placeReference.extend
  refine Table.Grows.trans ?_ ((appendAttributes_grows _ _).mono ?_)
  . apply Table.Grows.of_append
    . rw [Column.name_referring]
      apply t.freshName_notMem
    . exact ⟨rfl, Or.inr rfl⟩
  . intro c hc
    exact ⟨hc.1, Or.inl hc.2⟩

@[simp]
theorem name_extend (m : ConceptualModel) (r : Relation) (holder target : Participant) (key : String)
    (t : Table) : (placeReference.extend m r holder target key t).name = t.name :=
  (extend_grows m r holder target key t).name_eq

@[simp]
theorem keys_extend (m : ConceptualModel) (r : Relation) (holder target : Participant) (key : String)
    (t : Table) : (placeReference.extend m r holder target key t).keys = t.keys := by
  apply (extend_grows m r holder target key t).keys_eq
  intro c hc
  exact hc.1

theorem mem_references_extend {m : ConceptualModel} {r : Relation} {holder target : Participant}
    {key : String} {t : Table} {fk : ForeignKey}
    (h : fk ∈ (placeReference.extend m r holder target key t).references) :
    fk ∈ t.references ∨ (fk.table = target.entity ∧ fk.column = key) := by
  cases (extend_grows m r holder target key t).mem_references h with
  | inl hold => exact Or.inl hold
  | inr hnew =>
    obtain ⟨c, ⟨_, hplain | hrefers⟩, href⟩ := hnew
    . simp [hplain] at href
    . rw [hrefers, Option.some_inj] at href
      rw [← href]
      exact Or.inr ⟨rfl, rfl⟩

theorem keyedTable_grows (name : String) (keys : List (Participant × String)) :
    Table.Grows (fun c => c.isKey = true ∧ ∃ entry ∈ keys, RefersTo entry.1.entity entry.2 c)
      ⟨name, []⟩ (keyedTable name keys) := by
  unfold keyedTable
  apply Table.Grows.foldl
  intro entry hentry u
  apply Table.Grows.of_append
  . rw [Column.name_keyReferring]
    apply u.freshName_notMem
  . exact ⟨rfl, entry, hentry, rfl⟩

@[simp]
theorem name_keyedTable (name : String) (keys : List (Participant × String)) :
    (keyedTable name keys).name = name :=
  (keyedTable_grows name keys).name_eq

theorem mem_references_keyedTable {name : String} {keys : List (Participant × String)}
    {fk : ForeignKey} (h : fk ∈ (keyedTable name keys).references) :
    ∃ entry ∈ keys, fk.table = entry.1.entity ∧ fk.column = entry.2 := by
  cases (keyedTable_grows name keys).mem_references h with
  | inl hold => simp [Table.references] at hold
  | inr hnew =>
    obtain ⟨c, ⟨_, entry, hentry, href⟩, hfk⟩ := hnew
    rw [href, Option.some_inj] at hfk
    rw [← hfk]
    exact ⟨entry, hentry, rfl, rfl⟩

theorem exists_mem_references_keyedTable {name : String} {keys : List (Participant × String)}
    {entry : Participant × String} (h : entry ∈ keys) :
    ∃ fk ∈ (keyedTable name keys).references, fk.table = entry.1.entity ∧ fk.column = entry.2 := by
  suffices hfold : ∀ entries : List (Participant × String), entry ∈ entries → ∀ t,
      ∃ fk ∈ (entries.foldl (keyedTable.step keys) t).references,
        fk.table = entry.1.entity ∧ fk.column = entry.2 by
    exact hfold keys h _
  -- A column that one entry makes stays while the rest is gone through.
  have hgrows : ∀ (entries : List (Participant × String)) t,
      Table.Grows (fun _ => True) t (entries.foldl (keyedTable.step keys) t) := by
    intro entries t
    apply Table.Grows.foldl
    intro entry _ u
    apply Table.Grows.of_append _ trivial
    rw [Column.name_keyReferring]
    apply u.freshName_notMem
  intro entries
  induction entries with
  | nil => simp
  | cons first entries ih =>
    intro hmem t
    rw [List.foldl_cons]
    cases List.mem_cons.1 hmem with
    | inl heq =>
      rw [heq]
      refine ⟨_, (hgrows entries _).references_subset (Table.mem_references_append_self rfl), ?_, ?_⟩
      . rfl
      . rfl
    | inr hrest => exact ih hrest _

theorem foldInto_grows (children : List Table) (parent : Table) :
    parent.Grows
      (fun c => c.isKey = false ∧ (c.reference = none ∨ ∃ t ∈ children, c ∈ t.columns))
      (foldInto children parent) := by
  unfold foldInto
  apply Table.Grows.trans
  . apply Table.Grows.appendIfFree parent (c := .plain discriminator)
    exact ⟨rfl, Or.inl rfl⟩
  . apply Table.Grows.foldl
    intro c hc u
    simp only [List.mem_flatMap, List.mem_filter, Bool.not_eq_true'] at hc
    obtain ⟨t, ht, hmem, hkey⟩ := hc
    exact Table.Grows.appendIfFree u ⟨hkey, Or.inr ⟨t, ht, hmem⟩⟩

@[simp]
theorem keyNames_foldInto (children : List Table) (parent : Table) :
    (foldInto children parent).keyNames = parent.keyNames := by
  apply (foldInto_grows children parent).keyNames_eq
  intro c hc
  exact hc.1

theorem keyNames_referToParent_ne_nil (parent key : String) (t : Table) :
    (referToParent parent key t).keyNames ≠ [] := by
  simp [referToParent, Table.keyNames, Table.keys, Column.keyReferring]

theorem keyNames_inheritColumns_ne_nil {parent : Table} (h : parent.keyNames ≠ []) (t : Table) :
    (inheritColumns parent.columns t).keyNames ≠ [] := by
  simp only [inheritColumns, Table.keyNames, Table.keys, List.filter_append, List.map_append]
  apply List.append_ne_nil_of_left_ne_nil
  exact h

theorem mem_references_referToParent {parent key : String} {t : Table} {fk : ForeignKey}
    (h : fk ∈ (referToParent parent key t).references) :
    fk ∈ t.references ∨ (fk.table = parent ∧ fk.column = key) := by
  obtain ⟨c, hc, href⟩ := Table.mem_references.1 h
  simp only [referToParent, List.mem_cons, List.mem_filter] at hc
  cases hc with
  | inl hnew =>
    rw [hnew] at href
    injection href with heq
    rw [← heq]
    exact Or.inr ⟨rfl, rfl⟩
  | inr hold => exact Or.inl (Table.mem_references.2 ⟨c, hold.1, href⟩)

theorem references_subset_referToParent (parent key : String) (t : Table) :
    t.references ⊆ (referToParent parent key t).references := by
  -- Only a column without a reference gives way.
  intro fk hfk
  obtain ⟨c, hc, href⟩ := Table.mem_references.1 hfk
  apply Table.mem_references.2
  refine ⟨c, ?_, href⟩
  simp [referToParent, hc, href]

theorem mem_references_extend_self (m : ConceptualModel) (r : Relation) (holder target : Participant)
    (key : String) (t : Table) : ∃ fk ∈ (placeReference.extend m r holder target key t).references,
      fk.table = target.entity ∧ fk.column = key := by
  unfold placeReference.extend
  refine ⟨_, (appendAttributes_grows _ _).references_subset (Table.mem_references_append_self rfl), ?_, ?_⟩
  . rfl
  . rfl

theorem mem_references_inheritColumns {parent t : Table} {fk : ForeignKey}
    (h : fk ∈ (inheritColumns parent.columns t).references) :
    fk ∈ parent.references ∨ fk ∈ t.references := by
  obtain ⟨c, hc, href⟩ := Table.mem_references.1 h
  simp only [inheritColumns, List.mem_append, List.mem_filter] at hc
  cases hc with
  | inl hparent => exact Or.inl (Table.mem_references.2 ⟨c, hparent, href⟩)
  | inr hown => exact Or.inr (Table.mem_references.2 ⟨c, hown.1, href⟩)

end SchemaDesign.Derivation
