import SchemaDesign.Proofs.Derivation.EachTable
import SchemaDesign.Proofs.Derivation.Outline

/-!
This module contains which tables have a key in the end. Tables of relations have the keys of their participants, and
children get the key of their parent, but an entity outside of all groups has no other key than its own, which is not
stored if it is derived.
-/

namespace SchemaDesign.Derivation

variable {m : ConceptualModel} {settings : Settings} {d d' : Draft} {t table : Table}

section Groups

variable {g : Inheritance} {column : Column}

theorem tables_modifyEach {f : Table → Table} (hf : ∀ t, (f t).name = t.name) (names : List String) :
    (modifyEach f d names).schema.tables = d.schema.tables.map fun t => f^[names.count t.name] t := by
  induction names generalizing d with
  | nil => simp [modifyEach]
  | cons first names ih =>
    rw [modifyEach_cons, ih, Draft.modify, LogicalModel.modify, List.map_map]
    congr 1
    funext t
    simp only [Function.comp_apply, List.count_cons]
    by_cases h : t.name = first
    . simp [h, hf]
    . simp [h, Ne.symm h]

theorem keyless_modifyEach {f : Table → Table} (hf : ∀ t, (f t).name = t.name)
    (hkeys : ∀ t, (f t).keyNames ≠ []) {names : List String}
    (ht : t ∈ (modifyEach f d names).schema.tables) (hkeyless : t.keyNames = []) :
    t ∈ d.schema.tables ∧ t.name ∉ names := by
  rw [tables_modifyEach hf, List.mem_map] at ht
  obtain ⟨u, hu, rfl⟩ := ht
  rw [keyNames_iterate_eq_nil_iff hkeys] at hkeyless
  rw [hkeyless.2]
  exact ⟨hu, List.count_eq_zero.1 hkeyless.2⟩

theorem keyless_flatten (hkey : table.keys.head? = some column)
    (ht : t ∈ (flatten settings d g table column.name g.children).schema.tables) (hkeyless : t.keyNames = []) :
    (∃ u ∈ d.schema.tables, u.name = t.name ∧ u.keyNames = []) ∧ t.name ∉ g.children := by
  unfold flatten at ht
  cases hs : g.strategyIn settings with
  | tablePerClass =>
    simp only [hs, tablePerClass_eq] at ht
    have h := keyless_modifyEach (f := referToParent g.parent column.name) (fun _ => rfl)
      (keyNames_referToParent_ne_nil _ _) ht hkeyless
    exact ⟨⟨t, h.1, rfl, hkeyless⟩, h.2⟩
  | singleTable =>
    simp only [hs] at ht
    obtain ⟨hmodified, hchild⟩ := List.mem_filter.1 ht
    refine ⟨?_, of_decide_eq_true hchild⟩
    cases LogicalModel.mem_tables_modify hmodified with
    | inl hold => exact ⟨t, hold, rfl, hkeyless⟩
    | inr hnew =>
      obtain ⟨u, hu, _, rfl⟩ := hnew
      rw [keyNames_foldInto] at hkeyless
      exact ⟨u, hu, (foldInto_grows _ u).name_eq.symm, hkeyless⟩
  | tablePerSubclass =>
    simp only [hs, tablePerSubclass_eq] at ht
    have hkeys := Table.keyNames_ne_nil_of_head? hkey
    have h := keyless_modifyEach (f := inheritColumns table.columns) (fun _ => rfl)
      (keyNames_inheritColumns_ne_nil hkeys) (List.mem_filter.1 ht).1 hkeyless
    exact ⟨⟨t, h.1, rfl, hkeyless⟩, h.2⟩

end Groups

section Keyless

def KeylessAwait (m : ConceptualModel) (done : List Inheritance) (d : Draft) : Prop :=
  ∀ t ∈ d.schema.tables, t.keyNames = [] → ¬m.KeyedAfter done t.name

theorem keylessAwait_ofEntities (hm : m.Valid) : KeylessAwait m [] (ofEntities m.entities) := by
  intro t ht hkeyless
  obtain ⟨e, he, rfl⟩ := List.mem_map.1 ht
  have hfound : m.entity? e.name = some e := ConceptualModel.entity?_eq_some hm.entityNames he
  rw [keyNames_entityTable] at hkeyless
  unfold ConceptualModel.KeyedAfter
  simp [entityTable, hfound, hkeyless]

theorem keyNames_keyedTable_ne_nil {name : String} {keys : List (Participant × String)} (h : keys ≠ []) :
    (keyedTable name keys).keyNames ≠ [] := by
  obtain ⟨entry, hentry⟩ := List.exists_mem_of_ne_nil keys h
  obtain ⟨fk, hfk, _⟩ : ∃ fk ∈ (keyedTable name keys).references, _ :=
    exists_mem_references_keyedTable hentry
  obtain ⟨c, hc, _⟩ := Table.mem_references.1 hfk
  have hckey : c.isKey = true := by
    cases (keyedTable_grows name keys).mem_columns hc with
    | inl hold => simp at hold
    | inr hnew => exact hnew.1.1
  exact List.ne_nil_of_mem (Table.mem_keyNames.2 ⟨c, hc, hckey, rfl⟩)

theorem HasKeys.ne_nil {r : Relation} {keys : List (Participant × String)}
    (h : HasKeys m d r.participants keys) (hbinds : 2 ≤ r.participants.length) : keys ≠ [] := by
  rintro rfl
  rw [← h.participants] at hbinds
  simp at hbinds

@[simp]
theorem keyNames_appendAttributes (t : Table) (attributes : List Attribute) :
    (appendAttributes t attributes).keyNames = t.keyNames := by
  apply (appendAttributes_grows t attributes).keyNames_eq
  intro c hc
  exact hc.1

theorem keylessAwait_relation {done : List Inheritance} {r : Relation} (hbinds : 2 ≤ r.participants.length)
    (hd : KeylessAwait m done d) (hstep : RelationStep m d r d') : KeylessAwait m done d' := by
  apply forall_tables_relation hstep hd
  . intro holder target key _ t ht hkeyless
    rw [name_extend]
    apply ht
    rwa [Table.keyNames, keys_extend] at hkeyless
  . intro keys hkeys hkeyless
    rw [keyNames_appendAttributes] at hkeyless
    exact absurd hkeyless (keyNames_keyedTable_ne_nil (hkeys.ne_nil hbinds))

theorem keylessAwait_related (hm : m.Valid) : KeylessAwait m [] (related m).value := by
  rw [related_eq hm]
  apply Outcome.foldlM_invariant (KeylessAwait m []) (keylessAwait_ofEntities hm)
  intro d r hr hd
  exact keylessAwait_relation (hm.binds r hr) hd relation_step

theorem keylessAwait_inheritance {front : List Inheritance} {g : Inheritance}
    (hd : KeylessAwait m front d) (hclean : (inheritance settings d g).FindsAll) :
    KeylessAwait m (front ++ [g]) (inheritance settings d g).value := by
  obtain ⟨table, column, hparent, hkey, _, hvalue⟩ := inheritance_flattens hclean
  rw [hvalue]
  intro t ht hkeyless
  obtain ⟨⟨u, hu, hname, hbefore⟩, hchild⟩ := keyless_flatten hkey ht hkeyless
  have hwaits := hd u hu hbefore
  rw [hname] at hwaits
  unfold ConceptualModel.KeyedAfter at hwaits ⊢
  simp only [List.mem_append, List.mem_singleton]
  grind

theorem keylessAwait_flattened (hm : m.Valid) (hclean : (m.toLogical settings).FindsAll) :
    KeylessAwait m m.inheritances (flattened m settings).value := by
  apply Outcome.foldlM_induction (KeylessAwait m) (reports_toLogical.1 hclean).2.1 (keylessAwait_related hm)
  intro front g back d _ hd hstep
  exact keylessAwait_inheritance hd hstep

end Keyless

section Associatives

theorem keyNames_rename (old new : String) (t : Table) : (t.rename old new).keyNames = t.keyNames := by
  unfold Table.rename
  split
  . exact Table.keyNames_mapReferences _ t
  . exact Table.keyNames_mapReferences _ t

def AllKeyed (d : Draft) : Prop :=
  ∀ t ∈ d.schema.tables, t.keyNames ≠ []

theorem allKeyed_associative {a : AssociativeEntity} (hm : m.Valid) (hd : AllKeyed d)
    (hstep : AssociativeStep m d a d') : AllKeyed d' := by
  apply forall_tables_associative hstep hd
  . intro t ht
    rwa [keyNames_appendAttributes]
  . intro old t ht
    rwa [keyNames_rename]
  . intro r keys hr hkeys
    apply keyNames_keyedTable_ne_nil
    exact hkeys.ne_nil (hm.binds r (List.mem_of_find?_eq_some hr))

theorem allKeyed_drafted (hm : m.Valid) (hd : AllKeyed (flattened m settings).value) :
    AllKeyed (drafted m settings).value := by
  apply Outcome.foldlM_invariant AllKeyed hd
  intro d a _ hd
  exact allKeyed_associative hm hd associative_step

end Associatives

section Entities

variable {e : Entity}

theorem storedKeys_ne_nil_iff : storedKeys e ≠ [] ↔ ∃ a ∈ e.attributes, a.isKey = true ∧ a.isDerived = false := by
  rw [storedKeys, ne_eq, List.map_eq_nil_iff, List.filter_eq_nil_iff]
  simp only [List.mem_filter, Bool.not_eq_true', not_forall, Bool.not_eq_true, Bool.not_eq_false]
  grind

theorem keyedAfter_all_iff (hm : m.Valid) (he : e ∈ m.entities) :
    m.KeyedAfter m.inheritances e.name
      ↔
    m.isChild e.name = true ∨ ∃ a ∈ e.attributes, a.isKey = true ∧ a.isDerived = false := by
  have hfound : m.entity? e.name = some e := ConceptualModel.entity?_eq_some hm.entityNames he
  unfold ConceptualModel.KeyedAfter
  rw [hfound, Option.map_some, ne_eq, Option.some_inj, ← ne_eq, storedKeys_ne_nil_iff, or_comm]
  simp [ConceptualModel.isChild]

theorem keyedAfter_of_allKeyed (hm : m.Valid) (hclean : (m.toLogical settings).FindsAll)
    (hkeyed : ∀ t ∈ (m.toLogical settings).value.tables, t.keys ≠ []) (he : e ∈ m.entities) :
    m.KeyedAfter m.inheritances e.name := by
  have hfound : m.entity? e.name = some e := ConceptualModel.entity?_eq_some hm.entityNames he
  by_cases hstands : Stands settings m.inheritances e.name
  . have hgroups := groupsDone_of_findsAll hm hclean
    have hname : e.name ∈ (flattened m settings).value.schema.names := by
      rw [hgroups.names, (relationsDone_of_findsAll hm hclean).names]
      exact ⟨Or.inl (by simp [hfound]), hstands⟩
    rw [← hgroups.keys e.name hname (by simp [hfound])]
    obtain ⟨u, hu⟩ := Option.isSome_iff_exists.1 (LogicalModel.isSome_table?.2 hname)
    have houtline := outline?_toLogical hm hclean (by simp [hfound]) hstands
    rw [Draft.outline?, hu, Option.map_some, Option.map_eq_some_iff] at houtline
    obtain ⟨t, ht, hsame⟩ := houtline
    have hkeys := hkeyed t (LogicalModel.mem_of_table? ht)
    rw [Draft.keyNames?, hu, Option.map_some, ← Table.keyNames_eq_of_outline hsame]
    simpa [Table.keyNames] using hkeys
  . -- A table that is taken away was the one of a parent with a key, or of a child.
    simp only [Stands, not_forall, not_not] at hstands
    obtain ⟨g, hg, hremoved⟩ := hstands
    obtain ⟨front, back, hsplit⟩ := List.append_of_mem hg
    have hready := ((toLogical_findsAll hm).1 hclean).groups front g back hsplit
    unfold Inheritance.removes at hremoved
    split at hremoved
    . contradiction
    . exact Or.inr ⟨g, hg, hremoved⟩
    . rw [List.mem_singleton] at hremoved
      have hparent := hready.2
      unfold ConceptualModel.KeyedAfter at hparent ⊢
      rw [hsplit, hremoved]
      grind

theorem keyed_toLogical_iff (h : m.check.hasErrors = false) (hclean : (m.toLogical settings).hasErrors = false) :
    (∀ t ∈ (m.toLogical settings).value.tables, t.keys ≠ [])
      ↔
    ∀ e ∈ m.entities, m.isChild e.name = true ∨ ∃ a ∈ e.attributes, a.isKey = true ∧ a.isDerived = false := by
  have hm := ConceptualModel.valid_of_check h
  have hfinds : (m.toLogical settings).FindsAll :=
    (Outcome.hasErrors_eq_false_iff.1 hclean).mono fun i => Issue.isLookupFailure_of_warning
  constructor
  . intro hkeyed e he
    rw [← keyedAfter_all_iff hm he]
    exact keyedAfter_of_allKeyed hm hfinds hkeyed he
  . intro hentities
    have hflattened : AllKeyed (flattened m settings).value := by
      intro t ht hkeyless
      have hwaits := keylessAwait_flattened hm hfinds t ht hkeyless
      apply hwaits
      by_cases hentity : (m.entity? t.name).isSome = true
      . obtain ⟨e, he⟩ := Option.isSome_iff_exists.1 hentity
        have hmem := ConceptualModel.mem_of_entity? he
        rw [← ConceptualModel.name_of_entity? he, keyedAfter_all_iff hm hmem]
        exact hentities e hmem
      . apply Or.inl
        simp_all
    have hdrafted := allKeyed_drafted hm hflattened
    rw [value_toLogical, LogicalModel.tables_mapReferences]
    simp only [List.forall_mem_map]
    intro t ht
    have hkeys := hdrafted t ht
    rw [← Table.keyNames_eq_of_outline (Table.outline_mapReferences _)] at hkeys
    simpa [Table.keyNames] using hkeys

def derivedKey : ConceptualModel where
  entities := [⟨"A", [⟨"id", true, true⟩, ⟨"x", false, false⟩]⟩]
  relations := []
  inheritances := []
  associatives := []

theorem derivedKey_keyless :
    derivedKey.check.hasErrors = false ∧ (derivedKey.toLogical .standard).hasErrors = false
      ∧ ∃ t ∈ (derivedKey.toLogical .standard).value.tables, t.keys = [] := by
  decide +kernel

theorem keyed_toLogical_iff_inherited :
    let m : ConceptualModel := { derivedKey with
      entities := [⟨"A", [⟨"id", true, true⟩]⟩, ⟨"B", [⟨"id_b", true, false⟩]⟩]
      inheritances := [⟨"g", "B", ["A"], none⟩] }
    m.check.hasErrors = false ∧ (m.toLogical .standard).hasErrors = false
      ∧ ∀ t ∈ (m.toLogical .standard).value.tables, t.keys ≠ [] := by
  -- As a child the entity gets the key of its parent.
  intro m
  have hcheck : m.check.hasErrors = false := by decide +kernel
  have hclean : (m.toLogical .standard).hasErrors = false := by decide +kernel
  refine ⟨hcheck, hclean, (keyed_toLogical_iff hcheck hclean).2 ?_⟩
  decide +kernel

end Entities

end SchemaDesign.Derivation
