import SchemaDesign.Proofs.Derivation.Promotion

namespace SchemaDesign

namespace Table

-- The names of the columns and whether they belong to the key.
def outline (t : Table) : List (String × Bool) :=
  t.columns.map fun c => (c.name, c.isKey)

variable {t u : Table}

theorem names_eq_of_outline (h : t.outline = u.outline) : t.names = u.names := by
  have := congrArg (List.map Prod.fst) h
  simpa [outline, names, Function.comp_def] using this

theorem keyNames_eq_of_outline (h : t.outline = u.outline) : t.keyNames = u.keyNames := by
  have := congrArg (fun columns => (columns.filter (·.2)).map Prod.fst) h
  simpa [outline, keyNames, keys, List.filter_map, Function.comp_def] using this

@[simp]
theorem outline_mapReferences (f : ForeignKey → ForeignKey) : (t.mapReferences f).outline = t.outline := by
  simp [mapReferences, outline]

end Table

namespace Derivation

variable {m : ConceptualModel} {settings : Settings} {d d' : Draft} {titles : Titles} {name : String}

def Draft.outline? (d : Draft) (name : String) : Option (List (String × Bool)) :=
  (d.schema.table? name).map Table.outline

theorem outline?_describe {a : AssociativeEntity} {table : String} (h : name ≠ table) :
    (describe d a table).outline? name = d.outline? name := by
  unfold Draft.outline? describe
  rw [Draft.represent, Draft.modify, LogicalModel.table?_modify]
  . simp [h]
  . intro t
    apply name_appendAttributes

theorem TitlesDone.ne_tableOf? {relation table : String} (h : TitlesDone m settings titles d)
    (hentity : (m.entity? name).isSome = true) (hstands : Stands settings m.inheritances name)
    (htable : d.tableOf? relation = some table) : name ≠ table := by
  intro heq
  have hlookup := (hasTable_of_tableOf? htable).1
  rw [h.tables] at hlookup
  apply h.apart relation table hlookup
  rw [← heq]
  exact ⟨hentity, hstands⟩

theorem TitlesDone.outline?_associative {a : AssociativeEntity} (h : TitlesDone m settings titles d)
    (hstep : AssociativeStep m d a d') (hentity : (m.entity? name).isSome = true)
    (hstands : Stands settings m.inheritances name) : d'.outline? name = d.outline? name := by
  have hthere : name ∈ d.schema.names := (h.names name).2 (Or.inl ⟨hentity, hstands⟩)
  have happart : ∀ table, d.tableOf? a.relation = some table → name ≠ table := by
    intro table htable
    exact h.ne_tableOf? hentity hstands htable
  have hother : d.schema.hasTable a.name = false → name ≠ a.name := by
    intro hfree heq
    rw [LogicalModel.hasTable_eq_false_iff, ← heq] at hfree
    exact hfree hthere
  cases hstep with
  | skip => rfl
  | keep table htable => exact outline?_describe (happart table htable)
  | rename table htable hfree =>
    rw [outline?_describe (hother hfree)]
    unfold Draft.outline?
    rw [LogicalModel.table?_rename_of_ne (happart table htable) (hother hfree), Option.map_map]
    congr 1
    funext t
    simp
  | add r keys _ _ hfree =>
    rw [outline?_describe (hother hfree)]
    unfold Draft.outline?
    obtain ⟨t, ht⟩ := Option.isSome_iff_exists.1 (LogicalModel.isSome_table?.2 hthere)
    simp [Draft.add, LogicalModel.table?_add, ht]

theorem titlesDone_flattened (hm : m.Valid) (hclean : (m.toLogical settings).FindsAll) :
    TitlesDone m settings m.startTitles (flattened m settings).value :=
  titlesDone_start hm (relationsDone_of_findsAll hm hclean) (groupsDone_of_findsAll hm hclean)

theorem drafted_of_titles (motive : Draft → Prop) (hm : m.Valid) (hclean : (m.toLogical settings).FindsAll)
    (start : motive (flattened m settings).value)
    (next : ∀ titles d a, TitlesDone m settings titles d → motive d → motive (associative m d a).value) :
    motive (drafted m settings).value := by
  have hassociatives := (reports_toLogical.1 hclean).2.2.1
  let both := fun done d => TitlesDone m settings (List.foldl (m.nextTitles settings) m.startTitles done) d
    ∧ motive d
  suffices h : both m.associatives (drafted m settings).value by exact h.2
  apply Outcome.foldlM_induction both hassociatives
  . exact ⟨titlesDone_flattened hm hclean, start⟩
  . intro front a back d hsplit hd hstep
    obtain ⟨r, hr⟩ := Option.isSome_iff_exists.1 (hm.associated a (by simp [hsplit]))
    constructor
    . rw [List.foldl_append]
      exact hd.1.next hr hstep
    . exact next _ d a hd.1 hd.2

theorem outline?_drafted (hm : m.Valid) (hclean : (m.toLogical settings).FindsAll)
    (hentity : (m.entity? name).isSome = true) (hstands : Stands settings m.inheritances name) :
    (drafted m settings).value.outline? name = (flattened m settings).value.outline? name := by
  apply drafted_of_titles (fun d => d.outline? name = (flattened m settings).value.outline? name) hm hclean rfl
  intro titles d a htitles hd
  rw [htitles.outline?_associative associative_step hentity hstands, hd]

theorem names_associative {a : AssociativeEntity} (h : AssociativeStep m d a d')
    (hname : name ∈ d'.schema.names) : name ∈ d.schema.names ∨ name = a.name := by
  cases h with
  | skip => exact Or.inl hname
  | keep table =>
    rw [names_describe] at hname
    exact Or.inl hname
  | rename table =>
    rw [names_describe, LogicalModel.mem_names_rename] at hname
    grind
  | add r keys =>
    rw [names_describe, Draft.add, LogicalModel.names_add] at hname
    simpa using hname

theorem names_drafted (hname : name ∈ (drafted m settings).value.schema.names) :
    name ∈ (flattened m settings).value.schema.names ∨ name ∈ m.associatives.map (·.name) := by
  suffices h : ∀ name ∈ (drafted m settings).value.schema.names,
      name ∈ (flattened m settings).value.schema.names ∨ name ∈ m.associatives.map (·.name) by
    exact h name hname
  apply Outcome.foldlM_invariant fun d : Draft => ∀ name ∈ d.schema.names,
    name ∈ (flattened m settings).value.schema.names ∨ name ∈ m.associatives.map (·.name)
  . intro name hname
    exact Or.inl hname
  . intro d a ha hd name hname
    cases names_associative associative_step hname with
    | inl hold => exact hd name hold
    | inr hnew =>
      rw [hnew]
      exact Or.inr (List.mem_map_of_mem ha)

theorem stands_of_mem_names (hm : m.Valid) (hclean : (m.toLogical settings).FindsAll)
    (hname : name ∈ (m.toLogical settings).value.names) (hother : name ∉ m.associatives.map (·.name)) :
    Stands settings m.inheritances name := by
  rw [names_toLogical] at hname
  have hleft := (names_drafted hname).resolve_right hother
  exact (((groupsDone_of_findsAll hm hclean).names name).1 hleft).2

theorem outline?_toLogical (hm : m.Valid) (hclean : (m.toLogical settings).FindsAll)
    (hentity : (m.entity? name).isSome = true) (hstands : Stands settings m.inheritances name) :
    ((m.toLogical settings).value.table? name).map Table.outline
      =
    (flattened m settings).value.outline? name := by
  rw [← outline?_drafted hm hclean hentity hstands, value_toLogical, LogicalModel.table?_mapReferences,
    Option.map_map]
  unfold Draft.outline?
  congr 1
  funext t
  simp

theorem exists_flattened_table (hm : m.Valid) (hclean : (m.toLogical settings).FindsAll)
    (hentity : (m.entity? name).isSome = true) (hstands : Stands settings m.inheritances name) {t : Table}
    (h : (m.toLogical settings).value.table? name = some t) :
    ∃ u, (flattened m settings).value.schema.table? name = some u ∧ t.names = u.names
      ∧ t.keyNames = u.keyNames := by
  have houtline := outline?_toLogical hm hclean hentity hstands
  rw [h, Option.map_some, eq_comm, Draft.outline?, Option.map_eq_some_iff] at houtline
  obtain ⟨u, hu, heq⟩ := houtline
  exact ⟨u, hu, Table.names_eq_of_outline heq.symm, Table.keyNames_eq_of_outline heq.symm⟩

end Derivation

end SchemaDesign
