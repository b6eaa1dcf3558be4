import Mathlib.Data.List.Basic
import SchemaDesign.Proofs.Reading.Blockwise

/-!
This module contains what is read off two texts that are joined by a line break: if nothing is said against the outer
form of the first one, nothing of it is pending at the joint, and what is read is put together from both.
-/

namespace SchemaDesign

open Text Document

namespace Document

theorem readBlocks_newline {text : List Char} (h : ∀ c ∈ text, isBlank c = true) (gs : List Glyph) :
    readBlocks (.header text) (⟨'\n', false⟩ :: gs) = readBlocks (.header []) gs := by
  have hblank : ∀ c ∈ ('\n' :: text).reverse, isBlank c = true := by
    simp only [List.mem_reverse, List.forall_mem_cons]
    exact ⟨by decide, h⟩
  have hsame : Pending.SameHeader (.header ('\n' :: text)) (.header []) := .header (sameLines_of_blank hblank)
  rw [← hsame.readBlocks_eq, readBlocks_cons]
  simp [Pending.emit, Pending.next, openingBrace, closingBrace]

variable {a : String}

theorem blocks_joined (h : (blocks a).diagnostics = []) (b : String) :
    blocks (a ++ "\n" ++ b) = ⟨(blocks a).value ++ (blocks b).value, (blocks b).diagnostics⟩ := by
  have hglyphs : glyphs (a ++ "\n" ++ b).toList = glyphs a.toList ++ ⟨'\n', false⟩ :: glyphs b.toList := by
    rw [← glyphs_append_newline]
    simp
  have hread : blocks a = _ := readBlocks_eq_walk (.header []) (glyphs a.toList)
  rw [hread] at h ⊢
  simp only [Outcome.diagnostics_bind, Outcome.diagnostics_pure, List.append_nil, List.append_eq_nil_iff] at h
  obtain ⟨hwalk, hclose⟩ := h
  obtain ⟨text, hpending, hblank⟩ := Pending.eq_header_of_close hclose
  rw [blocks, hglyphs, readBlocks_append, hpending, readBlocks_newline hblank, ← blocks]
  apply Outcome.ext
  . simp
  . simp [hwalk]

end Document

section Tables

variable {α : Type} {read : Block → Outcome α} {a : String}

theorem perm_diagnostics_readTables (h : (blocks a).diagnostics = []) (b : String) :
    (readTables read (a ++ "\n" ++ b)).diagnostics.Perm
      ((readTables read a).diagnostics ++ (readTables read b).diagnostics) := by
  simp only [diagnostics_readTables, blocks_joined h b, h, List.flatMap_append, List.nil_append]
  -- What the readers of the blocks of `a` say comes behind what is said of the outer form of `b`.
  rw [← List.append_assoc, ← List.append_assoc]
  exact List.perm_append_comm.append_right _

end Tables

/--
A reader goes through its document block by block: it lists what each block makes by itself, in order, and its errors
are those of the outer form and those of each block by itself. So no block has a say in what comes of another one.
-/
structure Blockwise {M α : Type} (read : String → Outcome M) (list : M → List α) (part : Block → Outcome (List α)) :
    Prop where
  listed : ∀ text, list (read text).value = (blocks text).value.flatMap fun b => (part b).value
  errors : ∀ text, (read text).diagnostics.errors
    = (blocks text).diagnostics.errors ++ (blocks text).value.flatMap fun b => (part b).diagnostics.errors

section Blockwise

variable {M α : Type} {read : String → Outcome M} {list : M → List α} {part : Block → Outcome (List α)} {a : String}

theorem Blockwise.joined (h : Blockwise read list part) (ha : (blocks a).diagnostics = []) (b : String) :
    list (read (a ++ "\n" ++ b)).value = list (read a).value ++ list (read b).value := by
  rw [h.listed, h.listed, h.listed, blocks_joined ha b, List.flatMap_append]

theorem errors_append (ds ds' : Diagnostics) : Diagnostics.errors (ds ++ ds') = ds.errors ++ ds'.errors :=
  List.filter_append ..

theorem errors_flatMap {β : Type} (f : β → Diagnostics) (bs : List β) :
    Diagnostics.errors (bs.flatMap f) = bs.flatMap fun b => (f b).errors :=
  List.filter_flatMap ..

theorem blockwise_readTables (read : Block → Outcome α) :
    Blockwise (readTables read) id fun b => Option.toList <$> readTables.step read b := by
  constructor
  . intro text
    simp [value_readTables, List.filterMap_eq_flatMap_toList]
  . intro text
    simp [diagnostics_readTables, errors_append, errors_flatMap]

theorem LogicalModel.blockwise_read :
    Blockwise LogicalModel.read tables fun b => Option.toList <$> readTables.step Table.read b := by
  constructor
  . exact (blockwise_readTables Table.read).listed
  . intro text
    rw [← (blockwise_readTables Table.read).errors, LogicalModel.read]
    simp

theorem PhysicalModel.blockwise_read :
    Blockwise PhysicalModel.read tables fun b => Option.toList <$> readTables.step PhysicalTable.read b := by
  constructor
  . exact (blockwise_readTables PhysicalTable.read).listed
  . intro text
    rw [← (blockwise_readTables PhysicalTable.read).errors, PhysicalModel.read]
    simp

theorem ConceptualModel.blockwise_read (list : ConceptualModel → List α)
    (h : ∀ ms : List ConceptualModel, list (ms.foldr append empty) = ms.flatMap list) :
    Blockwise ConceptualModel.read list fun b => list <$> readBlock b := by
  constructor
  . intro text
    rw [value_read, h, List.flatMap_map]
    simp
  . intro text
    have horphans : ∀ names : List String,
        Diagnostics.errors (names.map fun name => ⟨some name, .orphanEntity name⟩) = [] := by
      intro names
      simp [Diagnostics.errors, Diagnostic.isError, Issue.severity]
    rw [diagnostics_read, errors_append, horphans, List.append_nil, errors_append, errors_flatMap]
    simp

end Blockwise

structure ReadTogether (a b : String) : Prop where
  blocks : Document.blocks (a ++ "\n" ++ b)
    = ⟨(Document.blocks a).value ++ (Document.blocks b).value, (Document.blocks b).diagnostics⟩
  logical : (LogicalModel.read (a ++ "\n" ++ b)).value.tables
    = (LogicalModel.read a).value.tables ++ (LogicalModel.read b).value.tables
  logicalDiagnostics : (LogicalModel.read (a ++ "\n" ++ b)).diagnostics.Perm
    ((LogicalModel.read a).diagnostics ++ (LogicalModel.read b).diagnostics)
  physical : (PhysicalModel.read (a ++ "\n" ++ b)).value.tables
    = (PhysicalModel.read a).value.tables ++ (PhysicalModel.read b).value.tables
  physicalDiagnostics : (PhysicalModel.read (a ++ "\n" ++ b)).diagnostics.Perm
    ((PhysicalModel.read a).diagnostics ++ (PhysicalModel.read b).diagnostics)
  entities : (ConceptualModel.read (a ++ "\n" ++ b)).value.entities
    = (ConceptualModel.read a).value.entities ++ (ConceptualModel.read b).value.entities
  relations : (ConceptualModel.read (a ++ "\n" ++ b)).value.relations
    = (ConceptualModel.read a).value.relations ++ (ConceptualModel.read b).value.relations
  inheritances : (ConceptualModel.read (a ++ "\n" ++ b)).value.inheritances
    = (ConceptualModel.read a).value.inheritances ++ (ConceptualModel.read b).value.inheritances
  associatives : (ConceptualModel.read (a ++ "\n" ++ b)).value.associatives
    = (ConceptualModel.read a).value.associatives ++ (ConceptualModel.read b).value.associatives

theorem read_joined :
    (∀ a b : String, (blocks a).diagnostics = [] → ReadTogether a b)
      ∧ (∃ part, Blockwise LogicalModel.read LogicalModel.tables part)
      ∧ (∃ part, Blockwise PhysicalModel.read PhysicalModel.tables part)
      ∧ (∃ part, Blockwise ConceptualModel.read ConceptualModel.entities part)
      ∧ (∃ part, Blockwise ConceptualModel.read ConceptualModel.relations part)
      ∧ (∃ part, Blockwise ConceptualModel.read ConceptualModel.inheritances part)
      ∧ ∃ part, Blockwise ConceptualModel.read ConceptualModel.associatives part := by
  have hlogical := LogicalModel.blockwise_read
  have hphysical := PhysicalModel.blockwise_read
  have hfoldr := ConceptualModel.foldr_append
  have hentities := ConceptualModel.blockwise_read ConceptualModel.entities fun ms => congrArg _ (hfoldr ms)
  have hrelations := ConceptualModel.blockwise_read ConceptualModel.relations fun ms => congrArg _ (hfoldr ms)
  have hinheritances := ConceptualModel.blockwise_read ConceptualModel.inheritances fun ms => congrArg _ (hfoldr ms)
  have hassociatives := ConceptualModel.blockwise_read ConceptualModel.associatives fun ms => congrArg _ (hfoldr ms)
  refine ⟨?_, ⟨_, hlogical⟩, ⟨_, hphysical⟩, ⟨_, hentities⟩, ⟨_, hrelations⟩, ⟨_, hinheritances⟩, ⟨_, hassociatives⟩⟩
  intro a b ha
  exact {
    blocks := blocks_joined ha b
    logical := hlogical.joined ha b
    logicalDiagnostics := by simpa [LogicalModel.read] using perm_diagnostics_readTables ha b
    physical := hphysical.joined ha b
    physicalDiagnostics := by simpa [PhysicalModel.read] using perm_diagnostics_readTables ha b
    entities := hentities.joined ha b
    relations := hrelations.joined ha b
    inheritances := hinheritances.joined ha b
    associatives := hassociatives.joined ha b }

theorem read_joined_malformed :
    let a := "ENTITY A \x7b id [PK], 1 2, id \x7d\n" ++
      "TABLE T \x7b\n  x [FK q]\n  y INT [FK -> T.x ON DELETE NOTHING] \x7d\n  # b"
    let b := "x \x7d RELATION R \x7b A (0,n), A (2,n) \x7d\nTABLE U \x7b id INT [PK] \x7d\nTABLE V \x7b"
    (blocks a).diagnostics = [] ∧ ReadTogether a b := by
  intro a b
  have ha : (blocks a).diagnostics = [] := by decide +kernel
  exact ⟨ha, read_joined.1 a b ha⟩

end SchemaDesign
