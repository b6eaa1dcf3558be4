import SchemaDesign.Conceptual.Reader
import SchemaDesign.Logical.Reader
import SchemaDesign.Physical.Reader
import SchemaDesign.Proofs.Document.CommentLine

namespace SchemaDesign

open Document

def ByContent {α : Type} (f : Block → α) : Prop :=
  ∀ b b' : Block, b.content = b'.content → f b = f b'

section Content

variable {α : Type} {f : Block → α} {bs bs' : List Block}

theorem ByContent.map_eq (hf : ByContent f) (h : bs.map Block.content = bs'.map Block.content) :
    bs.map f = bs'.map f := by
  induction bs generalizing bs' with
  | nil =>
    rw [List.map_nil, eq_comm, List.map_eq_nil_iff] at h
    rw [h]
  | cons b bs ih =>
    rw [List.map_cons, eq_comm, List.map_eq_cons_iff] at h
    obtain ⟨b', bs', rfl, hb, hbs⟩ := h
    rw [List.map_cons, List.map_cons, hf b' b hb, ih hbs.symm]

theorem byContent_of_items
    (h : ∀ keyword name extra body body', items body.toList = items body'.toList →
      f ⟨keyword, name, extra, body⟩ = f ⟨keyword, name, extra, body'⟩) : ByContent f := by
  rintro ⟨keyword, name, extra, body⟩ ⟨keyword', name', extra', body'⟩ hcontent
  simp only [Block.content, Block.items, Block.Content.mk.injEq] at hcontent
  obtain ⟨rfl, rfl, rfl, hitems⟩ := hcontent
  exact h keyword name extra body body' hitems

theorem byContent_readTables_step {read : Block → Outcome α} (hread : ByContent read) :
    ByContent (readTables.step read) := by
  apply byContent_of_items
  intro keyword name extra body body' hitems
  have hblock := hread ⟨keyword, name, extra, body⟩ ⟨keyword, name, extra, body'⟩
    (by simp only [Block.content, Block.items, hitems])
  simp only [readTables.step, Block.hasKeyword, Block.rejectExtra, hblock]
  rfl

theorem byContent_table : ByContent Table.read := by
  apply byContent_of_items
  intro keyword name extra body body' hitems
  simp only [Table.read, Block.items, hitems]

theorem byContent_physicalTable : ByContent PhysicalTable.read := by
  apply byContent_of_items
  intro keyword name extra body body' hitems
  simp only [PhysicalTable.read, Block.items, hitems]

theorem byContent_readBlock : ByContent ConceptualModel.readBlock := by
  apply byContent_of_items
  intro keyword name extra body body' hitems
  simp only [ConceptualModel.readBlock, Block.hasKeyword, Block.rejectExtra, Entity.read, Relation.read,
    Inheritance.read, AssociativeEntity.read, Block.items, hitems]
  rfl

variable {text text' : String}

theorem readTables_eq_of_sameBlocks {read : Block → Outcome α} (hread : ByContent read)
    (h : SameBlocks (blocks text) (blocks text')) : readTables read text = readTables read text' := by
  have hcollect := Outcome.collect_congr ((byContent_readTables_step hread).map_eq h.1)
  apply Outcome.ext
  . simp only [readTables, Outcome.value_bind, hcollect]
  . simp only [readTables, Outcome.diagnostics_bind, hcollect, h.2]

theorem ConceptualModel.read_eq_of_sameBlocks (h : SameBlocks (blocks text) (blocks text')) :
    read text = read text' := by
  have hparts := Outcome.mapM_congr (byContent_readBlock.map_eq h.1)
  apply Outcome.ext
  . simp only [read, Outcome.value_bind, hparts]
  . simp only [read, Outcome.diagnostics_bind, hparts, h.2]

end Content

section Parts

variable {α : Type} {read : Block → Outcome α}

theorem value_readTables (text : String) :
    (readTables read text).value = (blocks text).value.filterMap fun b => (readTables.step read b).value := by
  rw [readTables, Outcome.value_bind, Outcome.value_collect]

theorem diagnostics_readTables (text : String) :
    (readTables read text).diagnostics
      =
    (blocks text).diagnostics ++ (blocks text).value.flatMap fun b => (readTables.step read b).diagnostics := by
  rw [readTables, Outcome.diagnostics_bind, Outcome.diagnostics_collect]

namespace ConceptualModel

theorem foldr_append (ms : List ConceptualModel) :
    ms.foldr append empty
      =
    ⟨ms.flatMap entities, ms.flatMap relations, ms.flatMap inheritances, ms.flatMap associatives⟩ := by
  induction ms with
  | nil => rfl
  | cons m ms ih =>
    rw [List.foldr_cons, ih]
    rfl

theorem value_read (text : String) :
    (ConceptualModel.read text).value
      =
    ((blocks text).value.map fun b => (readBlock b).value).foldr append empty := by
  simp only [ConceptualModel.read, Outcome.value_bind, Outcome.value_pure, Outcome.value_mapM]

theorem diagnostics_warnOfOrphans (m : ConceptualModel) :
    m.warnOfOrphans.diagnostics = m.orphans.map fun name => ⟨some name, .orphanEntity name⟩ := by
  rw [warnOfOrphans, Outcome.diagnostics_each, List.map_eq_flatMap]
  rfl

theorem diagnostics_read (text : String) :
    (ConceptualModel.read text).diagnostics
      =
    (blocks text).diagnostics ++ ((blocks text).value.flatMap fun b => (readBlock b).diagnostics)
      ++ (ConceptualModel.read text).value.orphans.map fun name => ⟨some name, .orphanEntity name⟩ := by
  rw [value_read]
  simp only [ConceptualModel.read, Outcome.diagnostics_bind, Outcome.diagnostics_pure, Outcome.value_mapM,
    Outcome.diagnostics_mapM, diagnostics_warnOfOrphans, List.append_nil, List.append_assoc]

end ConceptualModel

end Parts

end SchemaDesign
