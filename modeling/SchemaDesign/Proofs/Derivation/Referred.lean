import SchemaDesign.Proofs.Derivation.Outline

namespace SchemaDesign.Derivation

variable {m : ConceptualModel} {settings : Settings} {d d' : Draft} {entity key : String}

def Refers (d : Draft) (entity key : String) : Prop :=
  ∃ fk ∈ d.schema.references, fk.table = entity ∧ fk.column = key

theorem Refers.of_subset (h : Refers d entity key)
    (hsubset : ∀ fk ∈ d.schema.references, fk ∈ d'.schema.references) : Refers d' entity key := by
  obtain ⟨fk, hfk, hto⟩ := h
  exact ⟨fk, hsubset fk hfk, hto⟩

section Relations

variable {front : List Relation} {r : Relation}

theorem references_subset_relation (h : RelationStep m d r d') :
    ∀ fk ∈ d.schema.references, fk ∈ d'.schema.references := by
  intro fk hfk
  cases h with
  | skip => exact hfk
  | reference holder target key =>
    apply LogicalModel.mem_references_modify_of_mem _ hfk
    intro t
    exact (extend_grows m r holder target key t).references_subset
  | table keys =>
    simp only [Draft.represent, Draft.add, LogicalModel.mem_references_add]
    exact Or.inl hfk

theorem refers_modify {holder : String} {f : Table → Table} (hholder : d.schema.hasTable holder = true)
    (hf : ∀ t, ∃ fk ∈ (f t).references, fk.table = entity ∧ fk.column = key) :
    Refers (d.modify holder f) entity key := by
  obtain ⟨t, ht⟩ := Option.isSome_iff_exists.1 (LogicalModel.isSome_table?.2 (LogicalModel.hasTable_iff.1 hholder))
  obtain ⟨fk, hfk, hto⟩ := hf t
  refine ⟨fk, LogicalModel.mem_references.2 ⟨f t, ?_, hfk⟩, hto⟩
  apply List.mem_map.2
  refine ⟨t, LogicalModel.mem_of_table? ht, ?_⟩
  rw [if_pos (LogicalModel.name_of_table? ht)]

theorem RelationsDone.refers_relation (h : RelationsDone m front d) (hm : m.Valid) (hmem : r ∈ m.relations)
    (hr : r.name ∉ front.map (·.name)) (hclean : (relation m d r).FindsAll)
    (hentity : entity ∈ m.referred r) (hkey : m.keyName? entity = some key) :
    Refers (relation m d r).value entity key := by
  have hkeys := (relation_findsAll hm hmem hr h).1 hclean
  have hparticipants : ∀ q ∈ r.participants, d.schema.hasTable q.entity = true := by
    intro q hq
    exact h.hasTable_entity (hm.participants r hmem q hq)
  rw [relation_eq (hm.binds r hmem)]
  unfold ConceptualModel.referred at hentity hkeys
  cases hends : ends? r with
  | some pair =>
    have htarget := hparticipants pair.2 (mem_of_ends? hends).2
    have hholder := hparticipants pair.1 (mem_of_ends? hends).1
    simp only [hends, List.mem_singleton] at hentity
    rw [hentity] at hkey
    simp only [placeReference, Outcome.value_bind, value_participantKey, htarget, hkey, hholder, if_true,
      Outcome.value_pure, hentity]
    apply refers_modify hholder
    intro t
    apply mem_references_extend_self
  | none =>
    simp only [hends] at hentity hkeys
    cases hname : m.entity? r.name with
    | some e => simp [hname] at hentity
    | none =>
      simp only [hname, Option.isSome_none, Bool.false_eq_true, if_false] at hentity hkeys
      have hfree : d.schema.hasTable r.name = false := by
        rw [h.hasTable_iff hr, hname]
        rfl
      obtain ⟨keys, hhas, hvalue⟩ := value_relationTable hfree fun q hq =>
        ⟨hparticipants q hq, hkeys q.entity (List.mem_map_of_mem hq)⟩
      obtain ⟨q, hq, rfl⟩ := List.mem_map.1 hentity
      rw [← hhas.participants] at hq
      obtain ⟨entry, hentry, rfl⟩ := List.mem_map.1 hq
      have hentrykey := hhas.key entry hentry
      rw [hkey, Option.some_inj] at hentrykey
      obtain ⟨fk, hfk, htable, hcolumn⟩ : ∃ fk ∈ (keyedTable r.name keys).references,
          fk.table = entry.1.entity ∧ fk.column = entry.2 := exists_mem_references_keyedTable hentry
      refine ⟨fk, ?_, htable, by rw [hcolumn, hentrykey]⟩
      simp only [hvalue, Draft.represent, Draft.add, LogicalModel.mem_references_add]
      exact Or.inr ((appendAttributes_grows _ _).references_subset hfk)

theorem refers_related (hm : m.Valid) (hclean : (related m).FindsAll) (hmem : r ∈ m.relations)
    (hentity : entity ∈ m.referred r) (hkey : m.keyName? entity = some key) :
    Refers (related m).value entity key := by
  rw [related_eq hm] at hclean ⊢
  let motive := fun (done : List Relation) (d : Draft) =>
    RelationsDone m done d ∧ (r ∈ done → Refers d entity key)
  suffices h : motive m.relations (relations m (ofEntities m.entities)).value by exact h.2 hmem
  apply Outcome.foldlM_induction motive hclean
  . exact ⟨relationsDone_nil, by simp⟩
  . intro front r' back d hsplit hd hstep
    have hmem' : r' ∈ m.relations := by simp [hsplit]
    have hfront := hm.relation_notMem hsplit
    refine ⟨hd.1.next hm hmem' hfront hstep, ?_⟩
    intro hdone
    rw [List.mem_append, List.mem_singleton] at hdone
    cases hdone with
    | inl hold => exact (hd.2 hold).of_subset (references_subset_relation relation_step)
    | inr hnew =>
      rw [hnew] at hentity
      exact hd.1.refers_relation hm hmem' hfront hstep hentity hkey

end Relations

theorem references_subset_tablePerClass {parent : String} {children : List String} :
    ∀ fk ∈ d.schema.references, fk ∈ (tablePerClass d parent key children).schema.references := by
  intro fk hfk
  rw [tablePerClass_eq]
  induction children generalizing d with
  | nil => exact hfk
  | cons child children ih =>
    rw [modifyEach_cons]
    apply ih
    apply LogicalModel.mem_references_modify_of_mem _ hfk
    intro t
    apply references_subset_referToParent

theorem references_subset_describe {a : AssociativeEntity} {table : String} :
    ∀ fk ∈ d.schema.references, fk ∈ (describe d a table).schema.references := by
  intro fk hfk
  apply LogicalModel.mem_references_modify_of_mem _ hfk
  intro t
  exact (appendAttributes_grows t _).references_subset

theorem TitlesDone.refers_associative {titles : Titles} {a : AssociativeEntity}
    (h : TitlesDone m settings titles d) (hstep : AssociativeStep m d a d')
    (hentity : (m.entity? entity).isSome = true) (hstands : Stands settings m.inheritances entity)
    (hrefers : Refers d entity key) : Refers d' entity key := by
  cases hstep with
  | skip => exact hrefers
  | keep table => exact hrefers.of_subset references_subset_describe
  | rename table htable =>
    obtain ⟨fk, hfk, hto, hby⟩ := hrefers
    refine ⟨fk, references_subset_describe fk ?_, hto, hby⟩
    simp only [LogicalModel.references_rename, List.mem_map]
    refine ⟨fk, hfk, ?_⟩
    unfold redirect
    rw [if_neg]
    rw [hto]
    exact h.ne_tableOf? hentity hstands htable
  | add r keys =>
    apply hrefers.of_subset
    intro fk hfk
    apply references_subset_describe
    simp only [Draft.add, LogicalModel.mem_references_add]
    exact Or.inl hfk

theorem refers_drafted (hm : m.Valid) (hclean : (m.toLogical settings).FindsAll)
    (hentity : (m.entity? entity).isSome = true) (hstands : Stands settings m.inheritances entity)
    (hrefers : Refers (flattened m settings).value entity key) :
    Refers (drafted m settings).value entity key := by
  apply drafted_of_titles (fun d => Refers d entity key) hm hclean hrefers
  intro titles d a htitles hd
  exact htitles.refers_associative associative_step hentity hstands hd

end SchemaDesign.Derivation
