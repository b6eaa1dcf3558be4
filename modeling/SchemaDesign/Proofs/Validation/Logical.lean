import SchemaDesign.Proofs.Logical.Edit
import SchemaDesign.Proofs.Outcome
import SchemaDesign.Validation.Logical

namespace SchemaDesign.LogicalModel

-- Names of tables are unique, tables have keys, and references lead to columns of the model.
structure Consistent (m : LogicalModel) : Prop where
  names : m.names.Nodup
  keyed : ∀ t ∈ m.tables, t.keyNames ≠ []
  resolved : ∀ fk ∈ m.references, ∃ t, m.table? fk.table = some t ∧ fk.column ∈ t.names

variable {m : LogicalModel} {p : Issue → Prop}

theorem reports_checkReference {t : Table} {c : Column} (hp : ∀ source target, ¬p (.unknownReference source target)) :
    (m.checkReference t c).Reports p ↔ ∀ fk, c.reference = some fk → m.missingTarget? fk = none := by
  unfold checkReference
  cases c.reference with
  | none => simp
  | some fk =>
    rw [Option.bind_some]
    cases hmissing : m.missingTarget? fk with
    | none => simp [hmissing]
    | some target => simp [hmissing, hp]

theorem missingTarget?_eq_none_iff {fk : ForeignKey} :
    m.missingTarget? fk = none ↔ ∃ t, m.table? fk.table = some t ∧ fk.column ∈ t.names := by
  unfold missingTarget?
  cases m.table? fk.table with
  | none => simp
  | some t => simp [Table.hasColumn_iff]

theorem consistent_of_check (h : m.check.hasErrors = false) : m.Consistent := by
  rw [Outcome.hasErrors_eq_false_iff] at h
  simp only [check, checkTable, Outcome.reports_bind, Outcome.reports_eachAfter, Outcome.reports_reportIf,
    Outcome.reports_each, Issue.severity, reduceCtorEq, imp_false, Bool.not_eq_true] at h
  obtain ⟨htables, _⟩ := h
  have hreferences : ∀ t ∈ m.tables, ∀ c ∈ t.columns, ∀ fk, c.reference = some fk →
      m.missingTarget? fk = none := by
    intro t ht c hc
    obtain ⟨front, back, hsplit⟩ := List.append_of_mem ht
    apply (reports_checkReference _).1 ((htables front t back hsplit).2.2 c hc)
    simp
  constructor
  . apply List.nodup_map_of_splits
    intro front t back hsplit
    simpa using (htables front t back hsplit).1
  . intro t ht
    obtain ⟨front, back, hsplit⟩ := List.append_of_mem ht
    have := (htables front t back hsplit).2.1
    simpa [Table.keyNames] using this
  . intro fk hfk
    obtain ⟨t, ht, hfk⟩ := mem_references.1 hfk
    obtain ⟨c, hc, href⟩ := Table.mem_references.1 hfk
    exact missingTarget?_eq_none_iff.1 (hreferences t ht c hc fk href)

theorem check_of_consistent (h : m.Consistent) : m.check.hasErrors = false := by
  rw [Outcome.hasErrors_eq_false_iff]
  simp only [check, checkTable, warnOfCycles, Outcome.reports_bind, Outcome.reports_eachAfter,
    Outcome.reports_reportIf, Outcome.reports_each, Outcome.reports_reportIn, Issue.severity, reduceCtorEq, imp_false,
    Bool.not_eq_true, implies_true, and_true]
  intro front t back hsplit
  have ht : t ∈ m.tables := by simp [hsplit]
  refine ⟨?_, ?_, ?_⟩
  . have hnodup := h.names
    rw [names, hsplit, List.map_append, List.nodup_append] at hnodup
    simp only [List.any_eq_false, decide_eq_true_eq]
    intro u hu
    exact hnodup.2.2 u.name (List.mem_map_of_mem hu) t.name (by simp)
  . simpa [Table.keyNames] using h.keyed t ht
  . intro c hc
    rw [reports_checkReference (by simp)]
    intro fk hfk
    rw [missingTarget?_eq_none_iff]
    exact h.resolved fk (mem_references.2 ⟨t, ht, Table.mem_references.2 ⟨c, hc, hfk⟩⟩)

theorem Consistent.mapReferences {f : ForeignKey → ForeignKey} (h : m.Consistent)
    (hf : ∀ fk, (f fk).table = fk.table ∧ (f fk).column = fk.column) : (m.mapReferences f).Consistent := by
  constructor
  . rw [names_mapReferences]
    exact h.names
  . rw [tables_mapReferences, List.forall_mem_map]
    intro t ht
    rw [Table.keyNames_mapReferences]
    exact h.keyed t ht
  . rw [references_mapReferences, List.forall_mem_map]
    intro fk hfk
    obtain ⟨t, ht, hcolumn⟩ := h.resolved fk hfk
    refine ⟨t.mapReferences f, ?_, ?_⟩
    . rw [table?_mapReferences, (hf fk).1, ht, Option.map_some]
    . rwa [Table.names_mapReferences, (hf fk).2]

end SchemaDesign.LogicalModel
