import SchemaDesign.Proofs.Logical.Reader
import SchemaDesign.Proofs.Physical.Reader
import SchemaDesign.Proofs.Pipeline.Refusal

/-!
This module contains the way from a logical document to a script that stops at the physical model, writes it down and
starts again from the text. It comes to the script that the straight way comes to: typing keeps the names that could be
written before, and all that it adds can be written as well.
-/

namespace SchemaDesign

open Text Document

section Writable

variable {settings : Settings} {rules : List TypeRule} {m : LogicalModel}

theorem ForeignKey.Writable.withActions {name : String} {fk : ForeignKey} (h : fk.Writable name) :
    (Typing.withActions fk).Writable name :=
  ⟨h.source, h.table, h.column⟩

theorem writable_constraints (c : Column) : ∀ constraint ∈ Typing.constraints c, constraint.Writable := by
  intro constraint hmem
  cases constraint_of_mem hmem with
  | inl hfilled =>
    rw [hfilled]
    trivial
  | inr hmail =>
    rw [hmail]
    trivial

theorem arranged_constraints (c : Column) :
    (Typing.constraints c).Nodup ∧ (Typing.constraints c).Pairwise (·.rank ≤ ·.rank) := by
  unfold Typing.constraints
  split <;> split <;> decide

theorem writable_column (table : String) {c : Column} (h : c.Writable) :
    (Typing.column settings rules m table c).value.Writable := by
  rw [value_column]
  refine ⟨h.name, ?_, ?_, writable_constraints c, (arranged_constraints c).1, (arranged_constraints c).2⟩
  . apply isPhrase_column
  . intro fk' hfk'
    obtain ⟨fk, hfk, rfl⟩ := Option.map_eq_some_iff.1 hfk'
    exact (h.reference fk hfk).withActions

theorem writable_toPhysicalWith (h : m.Writable) : (m.toPhysicalWith settings rules).value.Writable := by
  intro t' ht'
  rw [tables_toPhysicalWith] at ht'
  obtain ⟨t, ht, rfl⟩ := List.mem_map.1 ht'
  rw [value_table]
  refine ⟨(h t ht).name, ?_, ?_⟩
  . rw [List.forall_mem_map]
    intro c hc
    exact writable_column t.name ((h t ht).columns c hc)
  . rw [List.map_map]
    have hnames : (PhysicalColumn.name ∘ fun c => (Typing.column settings rules m t.name c).value)
        = Column.name := by
      funext c
      rw [Function.comp_apply, value_column]
    rw [hnames]
    exact (h t ht).distinct

end Writable

section Ways

variable {text : String} {settings : Settings}

theorem writable_of_logicalToPhysical {out : Outcome PhysicalModel}
    (h : logicalToPhysical text settings = .ok out) :
    out.value.Writable ∧ out.value.check.hasErrors = false := by
  obtain ⟨m, known, hread, htypes⟩ := Pipeline.bind_eq_ok (Pipeline.run_eq_ok h)
  obtain ⟨hvalue, _, hcheck⟩ := Pipeline.checked_eq_ok htypes
  have hm : m = (LogicalModel.read text).value := (Pipeline.checked_eq_ok hread).1
  have hout : out.value = (m.toPhysical settings).value := hvalue
  rw [hout]
  refine ⟨?_, hcheck⟩
  apply writable_toPhysicalWith
  rw [hm]
  exact LogicalModel.writable_read text

theorem yields_readPhysical_write {m : PhysicalModel} (hm : m.Writable) (hcheck : m.check.hasErrors = false) :
    Pipeline.Yields (Pipeline.readPhysical m.write) m := by
  unfold Pipeline.readPhysical
  rw [PhysicalModel.read_write hm]
  exact Pipeline.yields_checked rfl hcheck

theorem logicalToSql_eq (text : String) (settings : Settings) :
    logicalToSql text settings
      =
    (logicalToPhysical text settings).map fun out => ⟨out.value.sql settings.dialect, out.diagnostics⟩ := by
  rw [logicalToSql, logicalToPhysical, ← bind_assoc, Pipeline.run_map]

theorem physicalToSql_write {out : Outcome PhysicalModel} (h : logicalToPhysical text settings = .ok out) :
    ∃ script direct, physicalToSql out.value.write settings = .ok script
      ∧ logicalToSql text settings = .ok direct
      ∧ script.value = out.value.sql settings.dialect ∧ direct.value = out.value.sql settings.dialect := by
  obtain ⟨hwritable, hcheck⟩ := writable_of_logicalToPhysical h
  have hyields : Pipeline.Yields (do return (← Pipeline.readPhysical out.value.write).sql settings.dialect)
      (out.value.sql settings.dialect) :=
    (yields_readPhysical_write hwritable hcheck).bind (Pipeline.yields_pure _)
  obtain ⟨script, hscript, hvalue⟩ := hyields.run
  have hdirect := logicalToSql_eq text settings
  rw [h] at hdirect
  exact ⟨script, _, hscript, hdirect, hvalue, rfl⟩

def entangledText : String :=
  "TABLE line-item \x7b order [PK] [FK -> Order.id ON DELETE NOTHING] \x7d "
    ++ "TABLE Order \x7b id [PK] [FK -> Client.last], next [FK -> Order.next] \x7d "
    ++ "TABLE Client \x7b email [PK], last [FK -> Order.id ON UPDATE SET NULL] \x7d"

theorem physicalToSql_write_entangled : ∃ out, logicalToPhysical entangledText .standard = .ok out
    ∧ ∃ script direct, physicalToSql out.value.write .standard = .ok script
      ∧ logicalToSql entangledText .standard = .ok direct
      ∧ script.value = out.value.sql .mysql ∧ direct.value = out.value.sql .mysql := by
  have hany : (logicalToPhysical entangledText .standard).toOption.any (fun _ => true) = true := by
    decide +kernel
  obtain ⟨out, hout, _⟩ := exists_ok_of_any hany
  exact ⟨out, hout, physicalToSql_write hout⟩

end Ways

end SchemaDesign
