import SchemaDesign.Proofs.Derivation.Mapping

namespace SchemaDesign.Derivation

variable {m : ConceptualModel} {settings : Settings} {d d' : Draft} {r : Relation} {a : AssociativeEntity} {t : Table}
  {table : String} {front back : List Relation}

section Relations

def relatedBy (m : ConceptualModel) (front : List Relation) : Draft :=
  (front.foldlM (relation m) (entityTables m .empty).value).value

theorem value_related : (related m).value = relatedBy m m.relations := rfl

theorem relatedBy_append : relatedBy m (front ++ back) = (back.foldlM (relation m) (relatedBy m front)).value := by
  simp only [relatedBy, List.foldlM_append, Outcome.value_bind]

theorem relatedBy_concat : relatedBy m (front ++ [r]) = (relation m (relatedBy m front) r).value := by
  rw [relatedBy_append]
  rfl

theorem exists_table?_relatedBy (back : List Relation) (ht : (relatedBy m front).schema.table? table = some t) :
    ∃ t', (relatedBy m (front ++ back)).schema.table? table = some t' ∧ t.columns ⊆ t'.columns := by
  rw [relatedBy_append]
  apply Outcome.foldlM_invariant fun d : Draft => ∃ t', d.schema.table? table = some t' ∧ t.columns ⊆ t'.columns
  . exact ⟨t, ht, List.Subset.refl _⟩
  . rintro d r _ ⟨t', ht', hsubset⟩
    have hstep : RelationStep m d r (relation m d r).value := relation_step
    -- A relation adds columns at the end of a table, or a table behind the others.
    generalize (relation m d r).value = d' at hstep ⊢
    cases hstep with
    | skip => exact ⟨t', ht', hsubset⟩
    | reference holder target key =>
      rw [Draft.modify, LogicalModel.table?_modify (name_extend m r holder target key), ht']
      refine ⟨_, rfl, ?_⟩
      split
      . have hgrows := extend_grows m r holder target key t'
        exact List.Subset.trans hsubset hgrows.columns_prefix.subset
      . exact hsubset
    | table =>
      refine ⟨t', ?_, hsubset⟩
      simp only [Draft.represent, Draft.add, LogicalModel.table?_add, ht', Option.some_or]

end Relations

section Entities

structure EntitiesApart (m : ConceptualModel) (d : Draft) : Prop where
  there : ∀ e ∈ m.entities, e.name ∈ d.schema.names
  apart : ∀ e ∈ m.entities, e.name ∉ d.relationTables.map (·.2)

theorem entitiesApart_entityTables : EntitiesApart m (entityTables m .empty).value := by
  have hreports : (entityTables m .empty).Reports fun _ => True := fun _ _ => trivial
  have hall : (∀ e ∈ m.entities, e.name ∈ (entityTables m .empty).value.schema.names)
      ∧ (entityTables m .empty).value.relationTables = [] := by
    apply Outcome.foldlM_induction
      (fun done d => (∀ e ∈ done, e.name ∈ d.schema.names) ∧ d.relationTables = []) hreports
    . exact ⟨by simp, rfl⟩
    . rintro done e _ d _ ⟨hnames, htables⟩ _
      rw [value_entityStep]
      split
      . next hthere =>
        rw [LogicalModel.hasTable_iff] at hthere
        exact ⟨by simpa [or_imp, forall_and] using ⟨hnames, hthere⟩, htables⟩
      . refine ⟨?_, htables⟩
        simp only [Draft.add, LogicalModel.names_add]
        grind
  constructor
  . exact hall.1
  . rw [hall.2]
    simp

theorem EntitiesApart.ne_of_free {name : String} (h : EntitiesApart m d) (hfree : d.schema.hasTable name = false) :
    ∀ e ∈ m.entities, e.name ≠ name := by
  rintro e he rfl
  exact LogicalModel.hasTable_eq_false_iff.1 hfree (h.there e he)

theorem entitiesApart_relation (h : EntitiesApart m d) (hstep : RelationStep m d r d') : EntitiesApart m d' := by
  cases hstep with
  | skip => exact h
  | reference holder target key =>
    refine ⟨?_, h.apart⟩
    rw [Draft.modify, LogicalModel.names_modify (name_extend m r holder target key)]
    exact h.there
  | table keys _ hfree =>
    constructor
    . intro e he
      simp [Draft.represent, Draft.add, h.there e he]
    . intro e he hmem
      cases List.mem_cons.1 hmem with
      | inl hnew => exact h.ne_of_free hfree e he hnew
      | inr hold => exact h.apart e he hold

theorem entitiesApart_related : EntitiesApart m (related m).value := by
  apply Outcome.foldlM_invariant (EntitiesApart m) entitiesApart_entityTables
  intro d r _ hd
  exact entitiesApart_relation hd relation_step

theorem EntitiesApart.describe (h : EntitiesApart m d) (hapart : ∀ e ∈ m.entities, e.name ≠ table) :
    EntitiesApart m (describe d a table) := by
  constructor
  . rw [names_describe]
    exact h.there
  . intro e he hmem
    cases List.mem_cons.1 hmem with
    | inl hnew => exact hapart e he hnew
    | inr hold => exact h.apart e he hold

theorem EntitiesApart.ne_of_tableOf? {relation : String} (h : EntitiesApart m d)
    (htable : d.tableOf? relation = some table) : ∀ e ∈ m.entities, e.name ≠ table := by
  rintro e he rfl
  obtain ⟨before, after, hsplit, _⟩ := List.lookup_eq_some_iff.1 (hasTable_of_tableOf? htable).1
  apply h.apart e he
  rw [hsplit]
  simp

theorem entitiesApart_associative (h : EntitiesApart m d) (hstep : AssociativeStep m d a d') :
    EntitiesApart m d' := by
  cases hstep with
  | skip => exact h
  | keep table htable => exact h.describe (h.ne_of_tableOf? htable)
  | rename old htable hfree =>
    apply EntitiesApart.describe _ (h.ne_of_free hfree)
    refine ⟨?_, h.apart⟩
    intro e he
    exact LogicalModel.mem_names_rename.2 (Or.inl ⟨h.there e he, h.ne_of_tableOf? htable e he⟩)
  | add _ keys _ _ hfree =>
    apply EntitiesApart.describe _ (h.ne_of_free hfree)
    refine ⟨?_, h.apart⟩
    intro e he
    simp [Draft.add, h.there e he]

end Entities

section Columns

variable {cs : List Column}

def HoldsTogether (cs : List Column) (schema : LogicalModel) : Prop :=
  ∃ t ∈ schema.tables, cs ⊆ t.columns

theorem HoldsTogether.describe (h : HoldsTogether cs d.schema) : HoldsTogether cs (describe d a table).schema := by
  obtain ⟨t, ht, hcs⟩ := h
  refine ⟨_, List.mem_map_of_mem ht, ?_⟩
  split
  . have hgrows := appendAttributes_grows t a.attributes
    exact List.Subset.trans hcs hgrows.columns_prefix.subset
  . exact hcs

theorem holdsTogether_rename {schema : LogicalModel} {old new : String} (h : HoldsTogether cs schema)
    (hcs : ∀ c ∈ cs, ∀ fk, c.reference = some fk → fk.table ≠ old) : HoldsTogether cs (schema.rename old new) := by
  obtain ⟨t, ht, hsubset⟩ := h
  rw [HoldsTogether, LogicalModel.tables_rename]
  refine ⟨_, List.mem_map_of_mem ht, ?_⟩
  intro c hc
  have hcolumns : (t.rename old new).columns = (t.mapReferences (redirect old new)).columns := by
    unfold Table.rename
    split <;> rfl
  rw [hcolumns]
  refine List.mem_map.2 ⟨c, hsubset hc, ?_⟩
  -- The column does not refer to the renamed table.
  obtain ⟨name, isKey, reference⟩ := c
  cases reference with
  | none => rfl
  | some fk => rw [Option.map_some, redirect, if_neg (hcs _ hc fk rfl)]

theorem holdsTogether_associative (hentities : EntitiesApart m d)
    (hcs : ∀ c ∈ cs, ∀ fk, c.reference = some fk → ∃ e ∈ m.entities, e.name = fk.table)
    (h : HoldsTogether cs d.schema) (hstep : AssociativeStep m d a d') : HoldsTogether cs d'.schema := by
  cases hstep with
  | skip => exact h
  | keep table => exact h.describe
  | rename old htable =>
    apply HoldsTogether.describe
    apply holdsTogether_rename h
    -- What the columns refer to is an entity, and none of these is renamed.
    intro c hc fk hfk
    obtain ⟨e, he, hname⟩ := hcs c hc fk hfk
    rw [← hname]
    exact hentities.ne_of_tableOf? htable e he
  | add =>
    apply HoldsTogether.describe
    obtain ⟨t, ht, hsubset⟩ := h
    exact ⟨t, List.mem_append_left _ ht, hsubset⟩

theorem holdsTogether_toLogical (hgroups : m.inheritances = [])
    (hcs : ∀ c ∈ cs, ∀ fk, c.reference = some fk → ∃ e ∈ m.entities, e.name = fk.table)
    (h : HoldsTogether cs (related m).value.schema) : HoldsTogether cs (m.toLogical settings).value := by
  have hflattened : flattened m settings = related m := by
    simp [flattened, inheritances, hgroups]
  have hdrafted : (EntitiesApart m (drafted m settings).value ∧ HoldsTogether cs (drafted m settings).value.schema)
      ∧ (drafted m settings).value.folded = [] := by
    rw [drafted, hflattened]
    apply Outcome.foldlM_invariant fun d : Draft => (EntitiesApart m d ∧ HoldsTogether cs d.schema) ∧ d.folded = []
    . exact ⟨⟨entitiesApart_related, h⟩, folded_related⟩
    . rintro d a _ ⟨⟨hentities, hd⟩, hfolded⟩
      have hstep : AssociativeStep m d a (associative m d a).value := associative_step
      exact ⟨⟨entitiesApart_associative hentities hstep, holdsTogether_associative hentities hcs hd hstep⟩,
        (folded_associative hstep).trans hfolded⟩
  rw [value_toLogical, hdrafted.2, retarget_nil, LogicalModel.mapReferences_id]
  exact hdrafted.1.2

end Columns

end SchemaDesign.Derivation
