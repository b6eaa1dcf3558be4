import SchemaDesign.Proofs.Derivation.Reference

/-!
This module contains when the references of a derived model lead to tables of that model. The only ones that do not
are those to a table that was folded into another one, if that one is gone in the end.
-/

namespace SchemaDesign

def LogicalModel.Closed (m : LogicalModel) : Prop :=
  ∀ fk ∈ m.references, fk.table ∈ m.names

instance (m : LogicalModel) : Decidable m.Closed :=
  inferInstanceAs (Decidable (∀ fk ∈ m.references, fk.table ∈ m.names))

namespace Derivation

variable {m : ConceptualModel} {settings : Settings} {d d' : Draft} {p : Issue → Prop}

section Known

def Draft.Knows (d : Draft) (table : String) : Prop :=
  table ∈ d.schema.names ∨ table ∈ d.folded.map (·.1) ∨ table ∈ d.dissolved

def Draft.Closed (d : Draft) : Prop :=
  ∀ fk ∈ d.schema.references, d.Knows fk.table

theorem Draft.Closed.of_knows (h : d.Closed) (hknows : ∀ table, d.Knows table → d'.Knows table)
    (hreferences : ∀ fk ∈ d'.schema.references,
      fk ∈ d.schema.references ∨ fk.table ∈ d.schema.names) :
    d'.Closed := by
  intro fk hfk
  apply hknows
  cases hreferences fk hfk with
  | inl hold => exact h fk hold
  | inr hnew => exact Or.inl hnew

theorem closed_entity {e : Entity} (h : d.Closed) : (entityTables.step d e).value.Closed := by
  apply h.of_knows
  . intro table hknown
    rw [value_entityStep]
    split
    . exact hknown
    . cases hknown with
      | inl hname =>
        apply Or.inl
        simp [Draft.add, hname]
      | inr hgone => exact Or.inr hgone
  . intro fk hfk
    rw [references_entityStep] at hfk
    exact Or.inl hfk

theorem closed_relation {r : Relation} (h : d.Closed) (hstep : RelationStep m d r d') : d'.Closed := by
  apply h.of_knows
  . intro table hknown
    unfold Draft.Knows at hknown ⊢
    rw [folded_relation hstep, dissolved_relation hstep]
    cases names_relation hstep with
    | inl hsame =>
      rw [hsame]
      exact hknown
    | inr hnew =>
      rw [hnew.1, List.mem_append]
      exact hknown.imp_left Or.inl
  . intro fk hfk
    exact (mem_references_relation hstep hfk).imp_right And.left

theorem closed_flatten {g : Inheritance} {table : Table} {key : String} {children : List String}
    (h : d.Closed) (hparent : d.schema.table? g.parent = some table) :
    (flatten settings d g table key children).Closed := by
  have hname := LogicalModel.name_of_table? hparent
  apply h.of_knows
  . intro name hknown
    unfold Draft.Knows at hknown ⊢
    unfold flatten
    split
    . rw [tablePerClass_eq, names_modifyEach, folded_modifyEach, dissolved_modifyEach]
      . exact hknown
      . intro t
        rfl
    . rw [names_singleTable, folded_singleTable, dissolved_singleTable]
      grind
    . rw [names_tablePerSubclass, folded_tablePerSubclass, dissolved_tablePerSubclass]
      grind
  . intro fk hfk
    cases mem_references_flatten hparent hfk with
    | inl hold => exact Or.inl hold
    | inr hnew =>
      apply Or.inr
      rw [hnew.1]
      exact LogicalModel.mem_names_of_table? hparent

theorem closed_inheritance {g : Inheritance} (h : d.Closed) (hstep : InheritanceStep settings d g d') :
    d'.Closed := by
  cases hstep with
  | skip => exact h
  | flatten table column hparent => exact closed_flatten h hparent

theorem closed_associative {a : AssociativeEntity} (h : d.Closed) (hstep : AssociativeStep m d a d') :
    d'.Closed := by
  cases hstep with
  | skip => exact h
  | keep table =>
    apply h.of_knows
    . intro name hknown
      unfold Draft.Knows
      rw [names_describe]
      exact hknown
    . intro fk hfk
      exact Or.inl (mem_references_describe hfk)
  | rename table htable hfree =>
    intro fk hfk
    have hrenamed := mem_references_describe hfk
    simp only [LogicalModel.references_rename, List.mem_map] at hrenamed
    obtain ⟨old, hold, rfl⟩ := hrenamed
    have htable := LogicalModel.hasTable_iff.1 (hasTable_of_tableOf? htable).2
    have hknown := h old hold
    -- References to the renamed table are renamed with it.
    unfold Draft.Knows at hknown ⊢
    rw [names_describe, LogicalModel.mem_names_rename, table_redirect]
    split
    . exact Or.inl (Or.inr ⟨htable, rfl⟩)
    . next hne => exact hknown.imp_left fun hname => Or.inl ⟨hname, hne⟩
  | add r keys _ _ _ hkeys =>
    apply h.of_knows
    . intro name hknown
      unfold Draft.Knows
      rw [names_describe]
      exact hknown.imp_left fun hname => by simp [Draft.add, hname]
    . intro fk hfk
      have hadded := mem_references_describe hfk
      simp only [Draft.add, LogicalModel.mem_references_add] at hadded
      exact hadded.imp_right fun hnew => (placeable_of_keyedTable hkeys hnew).1

theorem closed_drafted : (drafted m settings).value.Closed := by
  have hentities : (entityTables m .empty).value.Closed := by
    apply Outcome.foldlM_invariant Draft.Closed
    . intro fk hfk
      simp [Draft.empty, LogicalModel.empty, LogicalModel.references] at hfk
    . intro d e _ hd
      exact closed_entity hd
  have hrelated : (related m).value.Closed := by
    apply Outcome.foldlM_invariant Draft.Closed hentities
    intro d r _ hd
    exact closed_relation hd relation_step
  have hflattened : (flattened m settings).value.Closed := by
    apply Outcome.foldlM_invariant Draft.Closed hrelated
    intro d g _ hd
    exact closed_inheritance hd inheritance_step
  apply Outcome.foldlM_invariant Draft.Closed hflattened
  intro d a _ hd
  exact closed_associative hd associative_step

end Known

section Record

variable {done : List Inheritance}

structure Draft.RecordsFolds (settings : Settings) (done : List Inheritance) (d : Draft) : Prop where
  gone : ∀ child ∈ d.folded.map (·.1), child ∉ d.schema.names
  sound : ∀ child target, d.folded.lookup child = some target →
    ∃ g ∈ done, g.strategyIn settings = .singleTable ∧ child ∈ g.children ∧ target.1 = g.parent
  complete : ∀ g ∈ done, g.strategyIn settings = .singleTable → ∀ child ∈ g.children,
    ∃ target, d.folded.lookup child = some target ∧ target.1 = g.parent

theorem lookup_folded_singleTable {parent key : String} {children : List String} (child : String) :
    (singleTable d parent key children).folded.lookup child
      =
    if child ∈ children then some (parent, key) else d.folded.lookup child := by
  rw [folded_singleTable]
  induction children with
  | nil => simp
  | cons c children ih =>
    rw [List.map_cons, List.cons_append, List.lookup_cons, ih]
    by_cases h : child = c
    . simp [h]
    . simp [h, beq_false_of_ne h]

theorem Draft.RecordsFolds.of_not_singleTable {g : Inheritance} (h : d.RecordsFolds settings done)
    (hg : g.strategyIn settings ≠ .singleTable) (hfolded : d'.folded = d.folded)
    (hnames : d'.schema.names ⊆ d.schema.names) : d'.RecordsFolds settings (done ++ [g]) := by
  constructor
  . rw [hfolded]
    intro child hchild hname
    exact h.gone child hchild (hnames hname)
  . rw [hfolded]
    intro child target hlookup
    obtain ⟨g', hg', hsound⟩ := h.sound child target hlookup
    exact ⟨g', List.mem_append_left _ hg', hsound⟩
  . rw [hfolded]
    intro g' hg' hsingle
    rw [List.mem_append, List.mem_singleton] at hg'
    cases hg' with
    | inl hold => exact h.complete g' hold hsingle
    | inr hnew =>
      rw [hnew] at hsingle
      exact absurd hsingle hg

theorem Draft.RecordsFolds.singleTable {g : Inheritance} {key : String}
    (h : d.RecordsFolds settings done) (hg : g.strategyIn settings = .singleTable)
    (hchildren : ∀ child ∈ g.children, child ∈ d.schema.names) :
    (singleTable d g.parent key g.children).RecordsFolds settings (done ++ [g]) := by
  -- The children have tables, so that none of them was folded before.
  constructor
  . intro child hchild hname
    rw [folded_singleTable] at hchild
    rw [names_singleTable] at hname
    have := h.gone child
    grind
  . intro child target hlookup
    rw [lookup_folded_singleTable] at hlookup
    split at hlookup
    . next hmem =>
      injection hlookup with heq
      rw [← heq]
      exact ⟨g, by simp, hg, hmem, rfl⟩
    . obtain ⟨g', hg', hsound⟩ := h.sound child target hlookup
      exact ⟨g', List.mem_append_left _ hg', hsound⟩
  . intro g' hg' hsingle child hchild
    rw [lookup_folded_singleTable]
    rw [List.mem_append, List.mem_singleton] at hg'
    cases hg' with
    | inl hold =>
      obtain ⟨target, hlookup, htarget⟩ := h.complete g' hold hsingle child hchild
      -- A child that was folded before keeps its place, for it cannot be a child of this group.
      have hrecorded : child ∈ d.folded.map (·.1) := by
        obtain ⟨_, _, heq, _⟩ := List.lookup_eq_some_iff.1 hlookup
        simp [heq]
      rw [if_neg]
      . exact ⟨target, hlookup, htarget⟩
      . intro hmem
        exact h.gone child hrecorded (hchildren child hmem)
    | inr hnew =>
      rw [hnew] at hchild
      rw [if_pos hchild, hnew]
      exact ⟨_, rfl, rfl⟩

theorem recordsFolds_inheritance {g : Inheritance} (h : d.RecordsFolds settings done)
    (hclean : (inheritance settings d g).FindsAll) :
    (inheritance settings d g).value.RecordsFolds settings (done ++ [g]) := by
  obtain ⟨parent, key, _, _, hchildren, hvalue⟩ := inheritance_flattens hclean
  rw [hvalue]
  unfold flatten
  split
  . next hs =>
    apply h.of_not_singleTable
    . simp [hs]
    . rw [tablePerClass_eq, folded_modifyEach]
    . rw [tablePerClass_eq, names_modifyEach]
      . exact List.Subset.refl _
      . intro t
        rfl
  . next hs =>
    apply h.singleTable hs
    intro child hchild
    exact LogicalModel.hasTable_iff.1 (hchildren child hchild)
  . next hs =>
    apply h.of_not_singleTable
    . simp [hs]
    . exact folded_tablePerSubclass
    . rw [names_tablePerSubclass]
      intro name hname
      exact (List.mem_filter.1 hname).1

theorem folded_related : (related m).value.folded = [] := by
  have hentities : (entityTables m .empty).value.folded = [] := by
    apply Outcome.foldlM_invariant fun d : Draft => d.folded = []
    . rfl
    . intro d e _ hd
      rw [value_entityStep]
      split
      . exact hd
      . exact hd
  apply Outcome.foldlM_invariant (fun d : Draft => d.folded = []) hentities
  intro d r _ hd
  rw [folded_relation relation_step, hd]

theorem folded_drafted : (drafted m settings).value.folded = (flattened m settings).value.folded := by
  apply Outcome.foldlM_invariant fun d : Draft => d.folded = (flattened m settings).value.folded
  . rfl
  . intro d a _ hd
    rw [folded_associative associative_step, hd]

theorem recordsFolds_flattened
    (hclean : (inheritances m settings (related m).value).FindsAll) :
    (flattened m settings).value.RecordsFolds settings m.inheritances := by
  apply Outcome.foldlM_induction (fun done d => d.RecordsFolds settings done) hclean
  . constructor
    . simp [folded_related]
    . simp [folded_related]
    . simp
  . intro done g _ d _ hd hstep
    exact recordsFolds_inheritance hd hstep

end Record

section Finish

theorem reports_reportFlattened {dissolved : List String} {schema : LogicalModel}
    (hp : ∀ column parent, ¬p (.flattenedReference column parent)) :
    (reportFlattened dissolved schema).Reports p
      ↔
    ∀ fk ∈ schema.references, fk.table ∉ dissolved := by
  unfold reportFlattened
  simp only [Outcome.reports_each, LogicalModel.mem_references, Table.mem_references]
  constructor
  . rintro h fk ⟨t, ht, c, hc, href⟩ hmem
    have := h t ht c hc
    simp [reportFlattened.check, href, hmem, hp] at this
  . intro h t ht c hc
    unfold reportFlattened.check
    split
    . next fk href =>
      rw [Outcome.reports_reportIf]
      intro hmem
      exact absurd (of_decide_eq_true hmem) (h fk ⟨t, ht, c, hc, href⟩)
    . simp

theorem reports_toLogical :
    (m.toLogical settings).Reports p
      ↔
    (related m).Reports p ∧ (inheritances m settings (related m).value).Reports p
      ∧ (associatives m (flattened m settings).value).Reports p
      ∧ (reportFlattened (drafted m settings).value.dissolved (m.toLogical settings).value).Reports p := by
  rw [value_toLogical, toLogical_eq, Outcome.reports_bind]
  simp only [drafted, flattened, Outcome.reports_bind, Outcome.value_bind, finish, Outcome.reports_pure,
    and_true, and_assoc]

theorem names_toLogical : (m.toLogical settings).value.names = (drafted m settings).value.schema.names := by
  rw [value_toLogical, LogicalModel.names_mapReferences]

/--
Some column that is left after all steps refers to the table, be it there or not.
-/
def IsReferred (m : ConceptualModel) (settings : Settings) (table : String) : Prop :=
  ∃ fk ∈ (drafted m settings).value.schema.references, fk.table = table

instance (table : String) : Decidable (IsReferred m settings table) :=
  inferInstanceAs (Decidable (∃ fk ∈ (drafted m settings).value.schema.references, fk.table = table))

theorem closed_toLogical_iff (h : (m.toLogical settings).hasErrors = false) :
    (m.toLogical settings).value.Closed
      ↔
    ∀ g ∈ m.inheritances, g.strategyIn settings = .singleTable → ∀ child ∈ g.children,
      IsReferred m settings child → g.parent ∈ (m.toLogical settings).value.names := by
  have hreports := reports_toLogical.1 (Outcome.hasErrors_eq_false_iff.1 h)
  have hrecord : (drafted m settings).value.folded = (flattened m settings).value.folded := folded_drafted
  have hfolds : (flattened m settings).value.RecordsFolds settings m.inheritances := by
    apply recordsFolds_flattened
    exact hreports.2.1.mono fun i => Issue.isLookupFailure_of_warning
  -- Nothing refers to a dissolved table, or the check at the end would have said so.
  have hdissolved : ∀ fk ∈ (m.toLogical settings).value.references,
      fk.table ∉ (drafted m settings).value.dissolved := by
    apply (reports_reportFlattened _).1 hreports.2.2.2
    simp [Issue.severity]
  unfold LogicalModel.Closed
  rw [names_toLogical]
  simp only [value_toLogical, LogicalModel.references_mapReferences, List.forall_mem_map,
    hrecord] at hdissolved ⊢
  constructor
  . intro hclosed g hg hsingle child hchild hreferred
    obtain ⟨fk, hfk, htable⟩ := hreferred
    obtain ⟨target, hlookup, htarget⟩ := hfolds.complete g hg hsingle child hchild
    have := hclosed fk hfk
    rw [← htable] at hlookup
    simpa only [retarget, hlookup, htarget] using this
  . intro hparents fk hfk
    cases hlookup : (flattened m settings).value.folded.lookup fk.table with
    | some target =>
      obtain ⟨g, hg, hsingle, hchild, htarget⟩ := hfolds.sound fk.table target hlookup
      simpa only [retarget, hlookup, htarget] using hparents g hg hsingle fk.table hchild ⟨fk, hfk, rfl⟩
    | none =>
      have hnot := hdissolved fk hfk
      simp only [retarget, hlookup] at hnot ⊢
      have hknown := closed_drafted fk hfk
      unfold Draft.Knows at hknown
      rw [hrecord] at hknown
      have hunfolded : fk.table ∉ (flattened m settings).value.folded.map (·.1) := by
        rw [List.lookup_eq_none_iff] at hlookup
        grind
      grind

def nestedFolding : ConceptualModel where
  entities := [⟨"A", [⟨"id_a", true, false⟩]⟩, ⟨"B", [⟨"id_b", true, false⟩]⟩, ⟨"C", []⟩,
    ⟨"X", [⟨"id_x", true, false⟩]⟩]
  relations := [⟨"r", [⟨"X", .oneOne⟩, ⟨"C", .zeroMany⟩], []⟩]
  inheritances := [⟨"g", "B", ["C"], none⟩, ⟨"h", "A", ["B"], none⟩]
  associatives := []

def folding : Settings := { Settings.standard with inheritance := .singleTable }

theorem nestedFolding_not_closed :
    (nestedFolding.toLogical folding).hasErrors = false
      ∧ ¬(nestedFolding.toLogical folding).value.Closed := by
  decide +kernel

theorem closed_toLogical_iff_singleFolding :
    let m := { nestedFolding with inheritances := [⟨"g", "B", ["C"], none⟩] }
    (m.toLogical folding).hasErrors = false ∧ (m.toLogical folding).value.Closed := by
  -- Without the outer group the parent stays.
  intro m
  have hclean : (m.toLogical folding).hasErrors = false := by decide +kernel
  refine ⟨hclean, (closed_toLogical_iff hclean).2 ?_⟩
  decide +kernel

end Finish

end Derivation

end SchemaDesign
