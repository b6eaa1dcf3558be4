import SchemaDesign.Proofs.Derivation.SoleKey

namespace SchemaDesign.Derivation

variable {m : ConceptualModel} {settings : Settings} {d : Draft} {g : Inheritance} {name : String}
  {own : Attribute} {t u : Table} {column : Column}

structure KeepsOwnKey (m : ConceptualModel) (settings : Settings) (name : String) (own : Attribute) : Prop where
  entity : ∃ e, m.entity? name = some e ∧ e.key? = some own
  stored : own.isDerived = false
  refers : ∀ g ∈ m.inheritances, name ∈ g.children → g.strategyIn settings = .tablePerClass

theorem KeepsOwnKey.keyName?_eq (h : KeepsOwnKey m settings name own) : m.keyName? name = some own.name := by
  obtain ⟨e, he, hkey⟩ := h.entity
  unfold ConceptualModel.keyName?
  rw [ConceptualModel.keyName?.go]
  split
  . next hnone =>
    rw [ConceptualModel.entity?, hnone] at he
    contradiction
  . next e' he' =>
    rw [ConceptualModel.entity?, he', Option.some_inj] at he
    rw [he, hkey]

theorem exists_keepsOwnKey (hm : m.Valid) {e : Entity} (he : m.entity? name = some e) (hstored : storedKeys e ≠ [])
    (hrefers : ∀ g ∈ m.inheritances, name ∈ g.children → g.strategyIn settings = .tablePerClass) :
    ∃ own, KeepsOwnKey m settings name own := by
  obtain ⟨k, hk⟩ := List.exists_mem_of_ne_nil _ hstored
  obtain ⟨own, hown, _⟩ := List.mem_map.1 hk
  rw [List.mem_filter, List.mem_filter] at hown
  obtain ⟨⟨hmem, hderived⟩, hisKey⟩ := hown
  refine ⟨own, ⟨e, he, ?_⟩, by simpa using hderived, hrefers⟩
  exact Entity.key?_eq_some (hm.singleKey e (ConceptualModel.mem_of_entity? he)) hmem hisKey

-- A reference to this column of this table is one to a key column, if the entity keeps its own key.
def LeadsToOwn (m : ConceptualModel) (settings : Settings) (d : Draft) (table column : String) : Prop :=
  ∀ own t, KeepsOwnKey m settings table own → d.schema.table? table = some t → column ∈ t.keyNames

structure OwnKeysDone (m : ConceptualModel) (settings : Settings) (d : Draft) : Prop where
  kept : ∀ name own t, KeepsOwnKey m settings name own → d.schema.table? name = some t → own.name ∈ t.keyNames
  references : ∀ fk ∈ d.schema.references, LeadsToOwn m settings d fk.table fk.column
  folded : ∀ entry ∈ d.folded, LeadsToOwn m settings d entry.2.1 entry.2.2

theorem OwnKeysDone.leads_of_keyName? (h : OwnKeysDone m settings d) (table column : String)
    (hkey : m.keyName? table = some column) : LeadsToOwn m settings d table column := by
  intro own t hkeeps ht
  rw [hkeeps.keyName?_eq, Option.some_inj] at hkey
  rw [← hkey]
  exact h.kept table own t hkeeps ht

theorem exists_table_of_flatten (hdistinct : ∀ t ∈ d.schema.tables, t.names.Nodup) (hg : g ∈ m.inheritances)
    (hp : d.schema.table? g.parent = some u) (hkeeps : KeepsOwnKey m settings name own)
    (ht : (flatten settings d g u column.name g.children).schema.table? name = some t) :
    ∃ t', d.schema.table? name = some t' ∧ t'.keyNames ⊆ t.keyNames := by
  by_cases hchild : name ∈ g.children
  . simp only [flatten, hkeeps.refers g hg hchild, tablePerClass_eq] at ht
    rw [table?_modifyEach, Option.map_eq_some_iff] at ht
    . obtain ⟨t', ht', rfl⟩ := ht
      refine ⟨t', ht', keyNames_subset_iterate_referToParent ?_ _⟩
      exact hdistinct t' (LogicalModel.mem_of_table? ht')
    . intro t
      rfl
  . cases grows_flatten_of_not_child hp hchild ht with
    | inl hsame => exact ⟨t, hsame, List.Subset.refl _⟩
    | inr hgrown =>
      rw [hgrown.1, hgrown.2.keyNames_eq fun _ hc => hc]
      exact ⟨u, hp, List.Subset.refl _⟩

theorem OwnKeysDone.next (h : OwnKeysDone m settings d) (hdistinct : ∀ t ∈ d.schema.tables, t.names.Nodup)
    (hg : g ∈ m.inheritances) (hclean : (inheritance settings d g).FindsAll) :
    OwnKeysDone m settings (inheritance settings d g).value := by
  obtain ⟨u, column, hp, hkey, _, hvalue⟩ := inheritance_flattens hclean
  rw [hvalue]
  -- A group takes no key column from such an entity.
  have hlater : ∀ table key, LeadsToOwn m settings d table key →
      LeadsToOwn m settings (flatten settings d g u column.name g.children) table key := by
    intro table key hleads own t hkeeps ht
    obtain ⟨t', ht', hsubset⟩ := exists_table_of_flatten hdistinct hg hp hkeeps ht
    exact hsubset (hleads own t' hkeeps ht')
  have hparent : LeadsToOwn m settings d g.parent column.name := by
    intro own t _ ht
    rw [hp, Option.some_inj] at ht
    rw [← ht]
    exact List.mem_map_of_mem (List.mem_of_mem_head? hkey)
  constructor
  . intro name own t hkeeps ht
    obtain ⟨t', ht', hsubset⟩ := exists_table_of_flatten hdistinct hg hp hkeeps ht
    exact hsubset (h.kept name own t' hkeeps ht')
  . apply references_flatten (hlater _ _ hparent) hp
    intro fk hfk
    exact hlater _ _ (h.references fk hfk)
  . apply folded_flatten (hlater _ _ hparent)
    intro entry hentry
    exact hlater _ _ (h.folded entry hentry)

theorem ownKeysDone_related (hm : m.Valid) (hrelated : RelationsDone m m.relations (related m).value) :
    OwnKeysDone m settings (related m).value := by
  have hkept : ∀ name own t, KeepsOwnKey m settings name own →
      (related m).value.schema.table? name = some t → own.name ∈ t.keyNames := by
    intro name own t hkeeps ht
    obtain ⟨e, he, hkey⟩ := hkeeps.entity
    have hisKey : own.isKey = true := by simpa using List.find?_some hkey
    rw [hrelated.keyNames_eq he ht, storedKeys]
    apply List.mem_map_of_mem
    simp [List.mem_of_find?_eq_some hkey, hkeeps.stored, hisKey]
  constructor
  . exact hkept
  . intro fk hfk own t hkeeps ht
    have hkey := keyName?_related hm fk hfk
    rw [hkeeps.keyName?_eq, Option.some_inj] at hkey
    rw [← hkey]
    exact hkept fk.table own t hkeeps ht
  . simp [folded_related]

theorem ownKeysDone_flattened (hm : m.Valid) (hattributes : m.DistinctAttributes)
    (hclean : (m.toLogical settings).FindsAll) : OwnKeysDone m settings (flattened m settings).value := by
  have hrelated := relationsDone_of_findsAll hm hclean
  let motive := fun (done : List Inheritance) (d : Draft) =>
    KeysDone m settings done d ∧ OwnKeysDone m settings d
  suffices h : motive m.inheritances (flattened m settings).value by exact h.2
  apply Outcome.foldlM_induction motive (reports_toLogical.1 hclean).2.1
  . exact ⟨keysDone_related hm hattributes hrelated, ownKeysDone_related hm hrelated⟩
  . intro front g back d hsplit hd hstep
    exact ⟨hd.1.next hm hsplit hstep, hd.2.next hd.1.distinct (by simp [hsplit]) hstep⟩

end SchemaDesign.Derivation
