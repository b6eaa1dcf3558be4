import SchemaDesign.Proofs.Derivation.Identify
import SchemaDesign.Proofs.Derivation.Shape

namespace SchemaDesign.Derivation

variable {m : ConceptualModel} {settings : Settings} {d : Draft} {name key parent : String} {t u : Table}

section Related

def RefersUp (m : ConceptualModel) (settings : Settings) (name : String) : Prop :=
  ∃ g ∈ m.inheritances, name ∈ g.children ∧ g.strategyIn settings = .tablePerClass

theorem awaitsKey_related (hm : m.Valid) (hattributes : m.DistinctAttributes)
    (hrelated : RelationsDone m m.relations (related m).value) (hid : m.Identified settings name key)
    (ht : (related m).value.schema.table? name = some t) : AwaitsKey t key (RefersUp m settings name) := by
  obtain ⟨e, he, hown⟩ := hid.entity
  have hsame := hrelated.keys_eq he ht
  have hkeys : ∀ c ∈ t.columns, c.isKey = true → c = ⟨key, true, none⟩ := by
    intro c hc hckey
    have hmem : c ∈ (entityTable e).keys := by
      rw [← hsame]
      exact List.mem_filter.2 ⟨hc, hckey⟩
    obtain ⟨a, ha, rfl⟩ := List.mem_map.1 (List.mem_filter.1 hmem).1
    have hakey : a.isKey = true := hckey
    have hsingle := hm.singleKey e (ConceptualModel.mem_of_entity? he)
    have hfirst := Entity.key?_eq_some hsingle (List.mem_filter.1 ha).1 hakey
    rw [hown a hfirst, hakey]
  constructor
  . exact hkeys
  . rintro ⟨g, hg, hmember, hstrategy⟩ c hc hname
    cases hid with
    | own e' own _ hroot => exact absurd (List.mem_flatMap.2 ⟨g, hg, hmember⟩) hroot
    | inherited e' g' he' hg' hmember' honce _ _ hfree =>
      rw [ConceptualModel.group_eq_of_listed_once hg' hg honce hmember' hmember] at hstrategy
      rw [he, Option.some_inj] at he'
      by_cases hstored : storedKeys e = []
      . exfalso
        rw [he'] at hstored
        apply hfree hstrategy hstored t ht
        rw [← hname]
        exact List.mem_map_of_mem hc
      . -- The key is a column already, and there is only one column of a name.
        rw [← hrelated.keyNames_eq he ht] at hstored
        obtain ⟨k, hk⟩ := List.exists_mem_of_ne_nil _ hstored
        obtain ⟨c', hc', hckey, _⟩ := Table.mem_keyNames.1 hk
        have hdistinct := (allShaped_related hattributes t (LogicalModel.mem_of_table? ht)).distinct
        have hcname : c'.name = c.name := by
          rw [hkeys c' hc' hckey, hname]
        rw [← List.inj_on_of_nodup_map hdistinct hc' hc hcname]
        exact hckey

end Related

section Groups

-- A reference to this column of this table is one to the key of an entity, if that is identified.
def Leads (m : ConceptualModel) (settings : Settings) (table column : String) : Prop :=
  (m.entity? table).isSome = true ∧ ∀ key, m.Identified settings table key → column = key

structure KeysDone (m : ConceptualModel) (settings : Settings) (done : List Inheritance) (d : Draft) :
    Prop where
  distinct : ∀ t ∈ d.schema.tables, t.names.Nodup
  settled : ∀ name key t, m.Identified settings name key → d.schema.table? name = some t →
    (∃ g ∈ done, name ∈ g.children) → t.keyNames = [key]
  awaiting : ∀ name key t, m.Identified settings name key → d.schema.table? name = some t →
    (¬∃ g ∈ done, name ∈ g.children) → AwaitsKey t key (RefersUp m settings name)
  references : ∀ fk ∈ d.schema.references, Leads m settings fk.table fk.column
  folded : ∀ entry ∈ d.folded, Leads m settings entry.2.1 entry.2.2

variable {done : List Inheritance} {g : Inheritance} {column : Column}

theorem KeysDone.keyNames_eq (h : KeysDone m settings done d) (hid : m.Identified settings name key)
    (ht : d.schema.table? name = some t) (hkeyed : t.keyNames ≠ []) : t.keyNames = [key] := by
  by_cases hdone : ∃ g ∈ done, name ∈ g.children
  . exact h.settled name key t hid ht hdone
  . apply (h.awaiting name key t hid ht hdone).keyNames_eq _ hkeyed
    exact h.distinct t (LogicalModel.mem_of_table? ht)

theorem KeysDone.leads (h : KeysDone m settings done d) (hm : m.Valid) (hg : g ∈ m.inheritances)
    (ht : d.schema.table? g.parent = some t) (hkey : t.keys.head? = some column) :
    Leads m settings g.parent column.name := by
  constructor
  . exact hm.members g hg _ (List.mem_cons_self ..)
  . intro key hid
    have hkeys := h.keyNames_eq hid ht (Table.keyNames_ne_nil_of_head? hkey)
    have hhead : t.keyNames.head? = some column.name := by
      simp [Table.keyNames, hkey]
    rw [hkeys] at hhead
    simpa using hhead.symm

theorem distinct_flatten {children : List String} (h : ∀ t ∈ d.schema.tables, t.names.Nodup)
    (ht : d.schema.table? g.parent = some t) :
    ∀ u ∈ (flatten settings d g t key children).schema.tables, u.names.Nodup := by
  apply forall_tables_flatten h
  . intro t
    exact nodup_names_referToParent
  . intro children _ t
    exact (foldInto_grows children t).nodup_names
  . intro u
    exact nodup_names_inheritColumns (h t (LogicalModel.mem_of_table? ht))

theorem keyNames_flatten_of_child (hkeys : u.keyNames = [key]) (hchild : g.children.count name = 1)
    (hawaits : ∀ t, d.schema.table? name = some t →
      AwaitsKey t key (g.strategyIn settings = .tablePerClass))
    (ht : (flatten settings d g u key g.children).schema.table? name = some t) : t.keyNames = [key] := by
  -- A folded child has no table any more, any other gets the key from its parent.
  have hmember : name ∈ g.children := List.count_pos_iff.1 (by omega)
  unfold flatten at ht
  cases hs : g.strategyIn settings with
  | tablePerClass =>
    simp only [hs, tablePerClass_eq] at ht
    rw [table?_modifyEach, hchild, Option.map_eq_some_iff] at ht
    . obtain ⟨t', ht', rfl⟩ := ht
      exact (hawaits t' ht').keyNames_referToParent hs
    . intro t
      rfl
  | singleTable =>
    simp only [hs] at ht
    rw [table?_singleTable, if_pos hmember] at ht
    contradiction
  | tablePerSubclass =>
    simp only [hs] at ht
    rw [table?_tablePerSubclass, hchild] at ht
    split at ht
    . contradiction
    . obtain ⟨t', ht', rfl⟩ := Option.map_eq_some_iff.1 ht
      exact (hawaits t' ht').keyNames_inheritColumns hkeys

theorem grows_flatten_of_not_child (hp : d.schema.table? g.parent = some u) (hchild : name ∉ g.children)
    (ht : (flatten settings d g u key g.children).schema.table? name = some t) :
    d.schema.table? name = some t
      ∨ (name = g.parent ∧ u.Grows (fun c => c.isKey = false) t) := by
  -- Only the parent may change, by the columns of its folded children.
  unfold flatten at ht
  cases hs : g.strategyIn settings with
  | tablePerClass =>
    simp only [hs, tablePerClass_eq] at ht
    rw [table?_modifyEach, List.count_eq_zero.2 hchild] at ht
    . exact Or.inl (by simpa using ht)
    . intro t
      rfl
  | singleTable =>
    simp only [hs] at ht
    rw [table?_singleTable, if_neg hchild, Option.map_eq_some_iff] at ht
    obtain ⟨t', ht', heq⟩ := ht
    split at heq
    . next hparent =>
      rw [hparent, hp, Option.some_inj] at ht'
      rw [← heq, ← ht']
      refine Or.inr ⟨hparent, (foldInto_grows _ _).mono ?_⟩
      intro c hc
      exact hc.1
    . rw [← heq]
      exact Or.inl ht'
  | tablePerSubclass =>
    simp only [hs] at ht
    rw [table?_tablePerSubclass, List.count_eq_zero.2 hchild] at ht
    split at ht
    . contradiction
    . exact Or.inl (by simpa using ht)

section Next

variable {back : List Inheritance} (h : KeysDone m settings done d) (hm : m.Valid)
  (hsplit : m.inheritances = done ++ g :: back) (hp : d.schema.table? g.parent = some u)
  (hkey : u.keys.head? = some column)

include h hm hsplit hp hkey

theorem KeysDone.keyNames_of_child (hid : m.Identified settings name key) (hmember : name ∈ g.children)
    (ht : (flatten settings d g u column.name g.children).schema.table? name = some t) : t.keyNames = [key] := by
  have hg : g ∈ m.inheritances := by simp [hsplit]
  obtain ⟨honce, hparent⟩ := hid.parent hg hmember
  obtain ⟨hcount, hfront, _⟩ := ConceptualModel.listed_once hsplit honce hmember
  rw [(h.leads hm hg hp hkey).2 key hparent] at ht
  apply keyNames_flatten_of_child _ hcount _ ht
  . exact h.keyNames_eq hparent hp (Table.keyNames_ne_nil_of_head? hkey)
  . intro t' ht'
    have hawaits := h.awaiting name key t' hid ht' fun ⟨g', hg', hmember'⟩ => hfront g' hg' hmember'
    constructor
    . exact hawaits.keys
    . intro hstrategy
      exact hawaits.names ⟨g, hg, hmember, hstrategy⟩

theorem KeysDone.settled_flatten (hid : m.Identified settings name key)
    (ht : (flatten settings d g u column.name g.children).schema.table? name = some t)
    (hdone : ∃ g' ∈ done ++ [g], name ∈ g'.children) : t.keyNames = [key] := by
  by_cases hmember : name ∈ g.children
  . exact h.keyNames_of_child hm hsplit hp hkey hid hmember ht
  . have hbefore : ∃ g ∈ done, name ∈ g.children := by
      obtain ⟨g', hg', hmember'⟩ := hdone
      rw [List.mem_append, List.mem_singleton] at hg'
      cases hg' with
      | inl hold => exact ⟨g', hold, hmember'⟩
      | inr hnew =>
        rw [hnew] at hmember'
        contradiction
    cases grows_flatten_of_not_child hp hmember ht with
    | inl hsame => exact h.settled name key t hid hsame hbefore
    | inr hgrown =>
      rw [hgrown.1] at hid hbefore
      rw [hgrown.2.keyNames_eq fun _ hc => hc]
      exact h.settled g.parent key u hid hp hbefore

omit hm hsplit in
theorem KeysDone.awaiting_flatten (hid : m.Identified settings name key)
    (ht : (flatten settings d g u column.name g.children).schema.table? name = some t)
    (hdone : ¬∃ g' ∈ done ++ [g], name ∈ g'.children) : AwaitsKey t key (RefersUp m settings name) := by
  simp only [List.mem_append, List.mem_singleton, or_and_right, exists_or, not_or, exists_eq_left] at hdone
  cases grows_flatten_of_not_child hp hdone.2 ht with
  | inl hsame => exact h.awaiting name key t hid hsame hdone.1
  | inr hgrown =>
    -- The parent has its key by now, so that no column that is folded into it can take the name.
    rw [hgrown.1] at hid hdone ⊢
    apply (h.awaiting g.parent key u hid hp hdone.1).grows hgrown.2 fun _ hc => hc
    have hkeys := h.keyNames_eq hid hp (Table.keyNames_ne_nil_of_head? hkey)
    apply u.keyNames_sublist.subset
    simp [hkeys]

end Next

theorem KeysDone.next {back : List Inheritance} (h : KeysDone m settings done d) (hm : m.Valid)
    (hsplit : m.inheritances = done ++ g :: back) (hclean : (inheritance settings d g).FindsAll) :
    KeysDone m settings (done ++ [g]) (inheritance settings d g).value := by
  obtain ⟨u, column, hp, hkey, _, hvalue⟩ := inheritance_flattens hclean
  have hleads := h.leads hm (by simp [hsplit]) hp hkey
  rw [hvalue]
  constructor
  . exact distinct_flatten h.distinct hp
  . intro name key t
    exact h.settled_flatten hm hsplit hp hkey
  . intro name key t
    exact h.awaiting_flatten hp hkey
  . exact references_flatten hleads hp h.references
  . exact folded_flatten hleads h.folded

theorem leads_of_keyName? (hm : m.Valid) {found : String} (h : m.keyName? name = some found) :
    Leads m settings name found := by
  constructor
  . unfold ConceptualModel.keyName? at h
    rw [ConceptualModel.keyName?.go] at h
    split at h
    . contradiction
    . next e he =>
      rw [ConceptualModel.entity?, he]
      rfl
  . intro key hid
    exact hid.keyName?_eq hm h

theorem keyName?_related (hm : m.Valid) :
    ∀ fk ∈ (related m).value.schema.references, m.keyName? fk.table = some fk.column := by
  rw [related_eq hm]
  apply Outcome.foldlM_invariant fun d : Draft =>
    ∀ fk ∈ d.schema.references, m.keyName? fk.table = some fk.column
  . intro fk hfk
    obtain ⟨t, ht, hfk⟩ := LogicalModel.mem_references.1 hfk
    obtain ⟨e, _, rfl⟩ := List.mem_map.1 ht
    rw [entityTable, references_attributeColumns] at hfk
    contradiction
  . intro d r _ hd fk hfk
    cases mem_references_relation relation_step hfk with
    | inl hold => exact hd fk hold
    | inr hplaced => exact hplaced.2

theorem keysDone_related (hm : m.Valid) (hattributes : m.DistinctAttributes)
    (hrelated : RelationsDone m m.relations (related m).value) :
    KeysDone m settings [] (related m).value := by
  constructor
  . intro t ht
    exact (allShaped_related hattributes t ht).distinct
  . simp
  . intro name key t hid ht _
    exact awaitsKey_related hm hattributes hrelated hid ht
  . intro fk hfk
    exact leads_of_keyName? hm (keyName?_related hm fk hfk)
  . simp [folded_related]

theorem keysDone_flattened (hm : m.Valid) (hattributes : m.DistinctAttributes)
    (hclean : (m.toLogical settings).FindsAll) :
    KeysDone m settings m.inheritances (flattened m settings).value := by
  apply Outcome.foldlM_induction (KeysDone m settings) (reports_toLogical.1 hclean).2.1
  . exact keysDone_related hm hattributes (relationsDone_of_findsAll hm hclean)
  . intro front g back d hsplit hd
    exact hd.next hm hsplit

end Groups

end SchemaDesign.Derivation
