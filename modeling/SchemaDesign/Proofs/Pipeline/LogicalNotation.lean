import SchemaDesign.Proofs.Derivation.Shape
import SchemaDesign.Proofs.Logical.Reader
import SchemaDesign.Proofs.Pipeline.Refusal

/-!
This module contains the way from a conceptual document to a physical model that stops at the logical model, writes it
down and starts again from the text. It comes to where the straight way comes to if all names in the logical model can
be read again, and the derivation makes names that cannot: the lower case of an identifier need not be an identifier,
and blocks may have other names than identifiers.
-/

namespace SchemaDesign

open Text Document

structure LogicalModel.NamesIdentifiers (m : LogicalModel) : Prop where
  columns : ∀ t ∈ m.tables, ∀ name ∈ t.names, isIdentifier name.toList = true
  targets : ∀ fk ∈ m.references, isIdentifier fk.table.toList = true

instance (m : LogicalModel) : Decidable m.NamesIdentifiers :=
  decidable_of_iff
    ((∀ t ∈ m.tables, ∀ name ∈ t.names, isIdentifier name.toList = true) ∧
      ∀ fk ∈ m.references, isIdentifier fk.table.toList = true)
    ⟨fun h => ⟨h.1, h.2⟩, fun h => ⟨h.1, h.2⟩⟩

section Ways

variable {text : String} {settings : Settings}

theorem conceptualToPhysical_of_accepted {m : LogicalModel} (h : Accepted text settings m) :
    ∃ out, conceptualToPhysical text settings = .ok out ∧ out.value = (m.toPhysical settings).value := by
  have hconsistent := h.consistent
  rw [h.value] at hconsistent ⊢
  apply Pipeline.Yields.run
  apply (Pipeline.yields_checked h.read h.checked).bind
  apply (Pipeline.yields_checked h.derived hconsistent).bind
  exact Pipeline.yields_assignTypes (LogicalModel.consistent_of_check hconsistent)

theorem logicalToPhysical_write (settings : Settings) {m : LogicalModel} (hm : m.Writable)
    (hcheck : m.check.hasErrors = false) :
    ∃ out, logicalToPhysical m.write settings = .ok out ∧ out.value = (m.toPhysical settings).value := by
  have hread := LogicalModel.read_write hm
  apply Pipeline.Yields.run
  have hyields : Pipeline.Yields (Pipeline.readLogical m.write) m := by
    unfold Pipeline.readLogical
    rw [hread]
    exact Pipeline.yields_checked rfl hcheck
  exact hyields.bind (Pipeline.yields_assignTypes (LogicalModel.consistent_of_check hcheck))

theorem value_of_logicalToPhysical {out : Outcome PhysicalModel}
    (h : logicalToPhysical text settings = .ok out) :
    out.value = ((LogicalModel.read text).value.toPhysical settings).value := by
  obtain ⟨m, known, hread, htypes⟩ := Pipeline.bind_eq_ok (Pipeline.run_eq_ok h)
  have hmodel : m = (LogicalModel.read text).value := (Pipeline.checked_eq_ok hread).1
  rw [← hmodel]
  exact (Pipeline.checked_eq_ok htypes).1

end Ways

section Names

variable {m : LogicalModel}

theorem LogicalModel.namesIdentifiers_mapReferences {f : ForeignKey → ForeignKey}
    (hf : ∀ fk, (f fk).table = fk.table) : (m.mapReferences f).NamesIdentifiers ↔ m.NamesIdentifiers := by
  have hcolumns : (∀ t ∈ (m.mapReferences f).tables, ∀ name ∈ t.names, isIdentifier name.toList = true)
      ↔ ∀ t ∈ m.tables, ∀ name ∈ t.names, isIdentifier name.toList = true := by
    simp [LogicalModel.tables_mapReferences]
  have htargets : (∀ fk ∈ (m.mapReferences f).references, isIdentifier fk.table.toList = true)
      ↔ ∀ fk ∈ m.references, isIdentifier fk.table.toList = true := by
    simp [hf]
  constructor
  . intro h
    exact ⟨hcolumns.1 h.columns, htargets.1 h.targets⟩
  . intro h
    exact ⟨hcolumns.2 h.columns, htargets.2 h.targets⟩

theorem LogicalModel.Writable.namesIdentifiers (h : m.Writable) : m.NamesIdentifiers := by
  constructor
  . intro t ht name hname
    obtain ⟨c, hc, rfl⟩ := List.mem_map.1 hname
    exact ((h t ht).columns c hc).name
  . intro fk hfk
    obtain ⟨t, ht, hfk⟩ := LogicalModel.mem_references.1 hfk
    obtain ⟨c, hc, href⟩ := Table.mem_references.1 hfk
    exact (((h t ht).columns c hc).reference fk href).table

theorem writable_of_accepted {text : String} {settings : Settings} (h : Accepted text settings m)
    (hnames : m.NamesIdentifiers) : m.Writable := by
  have hshaped : ∀ t ∈ m.tables, Derivation.Shaped (ConceptualModel.read text).value t := by
    rw [h.value]
    exact Derivation.shaped_toLogical (ConceptualModel.distinctAttributes_read text)
  have hconsistent := LogicalModel.consistent_of_check h.consistent
  intro t ht
  refine ⟨ConceptualModel.isBlockName_tableNames _ (hshaped t ht).title, ?_, (hshaped t ht).distinct⟩
  intro c hc
  refine ⟨hnames.columns t ht c.name (List.mem_map_of_mem hc), ?_⟩
  intro fk href
  have hfk : fk ∈ m.references := LogicalModel.mem_references.2 ⟨t, ht, Table.mem_references.2 ⟨c, hc, href⟩⟩
  obtain ⟨u, hu, hcolumn⟩ := hconsistent.resolved fk hfk
  constructor
  . exact (hshaped t ht).source c hc fk href
  . exact hnames.targets fk hfk
  . exact hnames.columns u (LogicalModel.mem_of_table? hu) fk.column hcolumn

theorem logicalToPhysical_write_iff {text : String} {settings : Settings} {out : Outcome LogicalModel}
    (h : conceptualToLogical text settings = .ok out) :
    (∃ p q, logicalToPhysical out.value.write settings = .ok p ∧ conceptualToPhysical text settings = .ok q
      ∧ p.value = q.value)
      ↔
    out.value.NamesIdentifiers := by
  have haccepted := accepted_of_conceptualToLogical h
  obtain ⟨q, hq, hqvalue⟩ := conceptualToPhysical_of_accepted haccepted
  constructor
  . -- What comes out of a text has names that can be written, and types are given to it under the same names.
    rintro ⟨p, q', hp, hq', heq⟩
    rw [hq, Except.ok.injEq] at hq'
    rw [← hq', hqvalue, value_of_logicalToPhysical hp] at heq
    have hlogical := congrArg PhysicalModel.toLogical heq
    unfold LogicalModel.toPhysical at hlogical
    rw [toLogical_toPhysicalWith, toLogical_toPhysicalWith] at hlogical
    have hread := (LogicalModel.writable_read out.value.write).namesIdentifiers
    have hsame : ∀ fk, (Typing.withActions fk).table = fk.table := fun _ => rfl
    rw [← LogicalModel.namesIdentifiers_mapReferences hsame] at hread ⊢
    rw [← hlogical]
    exact hread
  . intro hnames
    have hwritable := writable_of_accepted haccepted hnames
    obtain ⟨p, hp, hpvalue⟩ := logicalToPhysical_write settings hwritable haccepted.consistent
    exact ⟨p, q, hp, hq, hpvalue.trans hqvalue.symm⟩

def roleText (role : String) : String :=
  "ENTITY A \x7b id [PK] \x7d ENTITY B \x7b x [PK] \x7d RELATION " ++ role ++ " \x7b B (1,1), A (0,n) \x7d "
    ++ "RELATION s \x7b B (1,1), A (0,n) \x7d"

theorem logicalToPhysical_write_role : ∃ out, conceptualToLogical (roleText "r") .standard = .ok out
    ∧ ∃ p q, logicalToPhysical out.value.write .standard = .ok p
      ∧ conceptualToPhysical (roleText "r") .standard = .ok q ∧ p.value = q.value := by
  have hany : (conceptualToLogical (roleText "r") .standard).toOption.any
      (fun out => decide out.value.NamesIdentifiers) = true := by
    decide +kernel
  obtain ⟨out, hout, hnames⟩ := exists_ok_of_any hany
  exact ⟨out, hout, (logicalToPhysical_write_iff hout).2 (of_decide_eq_true hnames)⟩

theorem roleName_lost :
    (∃ out, conceptualToLogical (roleText "İ") .standard = .ok out
      ∧ ∀ p, logicalToPhysical out.value.write .standard ≠ .ok p)
    ∧ ∃ out p q, conceptualToLogical (roleText "r[pk]") .standard = .ok out
      ∧ logicalToPhysical out.value.write .standard = .ok p
      ∧ conceptualToPhysical (roleText "r[pk]") .standard = .ok q ∧ p.value ≠ q.value := by
  constructor
  . have hany : (conceptualToLogical (roleText "İ") .standard).toOption.any
        (fun out => (logicalToPhysical out.value.write .standard).toOption.isNone) = true := by
      decide +kernel
    obtain ⟨out, hout, hnone⟩ := exists_ok_of_any hany
    refine ⟨out, hout, ?_⟩
    intro p hp
    rw [hp] at hnone
    simp [Except.toOption] at hnone
  . have hany : (conceptualToLogical (roleText "r[pk]") .standard).toOption.any
        (fun out => (logicalToPhysical out.value.write .standard).toOption.any fun p =>
          (conceptualToPhysical (roleText "r[pk]") .standard).toOption.any fun q => decide (p.value ≠ q.value))
          = true := by
      decide +kernel
    obtain ⟨out, hout, hany⟩ := exists_ok_of_any hany
    obtain ⟨p, hp, hany⟩ := exists_ok_of_any hany
    obtain ⟨q, hq, hne⟩ := exists_ok_of_any hany
    exact ⟨out, p, q, hout, hp, hq, of_decide_eq_true hne⟩

end Names

end SchemaDesign
