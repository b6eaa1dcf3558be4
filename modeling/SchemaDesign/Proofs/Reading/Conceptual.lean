import Mathlib.Data.List.Basic
import SchemaDesign.Proofs.Conceptual.Writing

namespace SchemaDesign

open Text Document

namespace Relation

variable {r : Relation}

theorem filterMap_parts? (h : r.Writable) :
    (Declaration.relation r).items.filterMap Participant.parts?
      =
    r.participants.map fun p => (p.entity.toList, Participant.bounds p.cardinality) := by
  have hparticipants : (r.participants.map Participant.item).filterMap Participant.parts?
      = r.participants.map fun p => (p.entity.toList, Participant.bounds p.cardinality) := by
    rw [List.filterMap_map, ← List.filterMap_eq_map]
    apply List.filterMap_congr
    intro p hp
    exact Participant.parts?_item (h.participants p hp)
  have hattributes : (r.attributes.map fun a => a.parts.text).filterMap Participant.parts? = [] := by
    rw [List.filterMap_eq_nil_iff, List.forall_mem_map]
    intro a ha
    exact Participant.parts?_attribute (h.attributes.names a ha)
  rw [Declaration.items, List.filterMap_append, hparticipants, hattributes, List.append_nil]

theorem filter_parts? (h : r.Writable) :
    (Declaration.relation r).items.filter (Participant.parts? · |>.isNone)
      =
    r.attributes.map fun a => a.parts.text := by
  have hparticipants : (r.participants.map Participant.item).filter (Participant.parts? · |>.isNone) = [] := by
    rw [List.filter_eq_nil_iff, List.forall_mem_map]
    intro p hp
    simp [Participant.parts?_item (h.participants p hp)]
  have hattributes : (r.attributes.map fun a => a.parts.text).filter (Participant.parts? · |>.isNone)
      = r.attributes.map fun a => a.parts.text := by
    rw [List.filter_eq_self, List.forall_mem_map]
    intro a ha
    simp [Participant.parts?_attribute (h.attributes.names a ha)]
  rw [Declaration.items, List.filter_append, hparticipants, hattributes, List.nil_append]

end Relation

def Declaration.reader : Declaration → Block → Outcome ConceptualModel
  | .entity _, b => (fun e => { ConceptualModel.empty with entities := [e] }) <$> Entity.read b
  | .relation _, b => (fun r => { ConceptualModel.empty with relations := [r] }) <$> Relation.read b
  | .inheritance _, b => (fun g => { ConceptualModel.empty with inheritances := g.toList }) <$> Inheritance.read b
  | .associative _, b => (fun a => { ConceptualModel.empty with associatives := a.toList }) <$> AssociativeEntity.read b

namespace Declaration.Writing

variable {d : Declaration} (w : d.Writing)

theorem hasKeyword_block (keyword : String) : w.block.hasKeyword keyword = decide (d.keyword = keyword) := by
  rw [Block.hasKeyword, block, String.toList_ofList, spells_eq w.spelled]

theorem items_block (h : d.Writable) : w.block.items = d.items := by
  rw [Block.items, block, String.toList_ofList, Layout.items_text (w.isItem_body h), w.laidOut]

theorem rejectExtra_block (h : d.extra w.on = []) : w.block.rejectExtra = pure () := by
  simp [Block.rejectExtra, block, h, unwords, Outcome.reportIf]

theorem readBlock_eq : ConceptualModel.readBlock w.block = d.reader w.block := by
  cases d with
  | associative a => simp [ConceptualModel.readBlock, reader, hasKeyword_block, Declaration.keyword]
  | entity | relation | inheritance =>
    have hextra : w.block.rejectExtra = pure () := w.rejectExtra_block rfl
    simp [ConceptualModel.readBlock, reader, hasKeyword_block, Declaration.keyword, hextra]

theorem read_entity {e : Entity} (w : (entity e).Writing) (h : e.Writable) : Entity.read w.block = pure e := by
  rw [Entity.read, w.items_block h, items, Attribute.readAll_parts h.attributes]
  rfl

theorem read_relation {r : Relation} (w : (relation r).Writing) (h : r.Writable) : Relation.read w.block = pure r := by
  have hparticipants : Outcome.collect (fun pair => Participant.read w.block.name pair.1 pair.2)
      (r.participants.map fun p => (p.entity.toList, Participant.bounds p.cardinality)) = pure r.participants :=
    Outcome.collect_map fun p _ => p.read_bounds
  rw [Relation.read, w.items_block h]
  dsimp only
  rw [Relation.filterMap_parts? h, Relation.filter_parts? h, hparticipants, pure_bind,
    Attribute.readAll_parts h.attributes]
  rfl

theorem read_inheritance {g : Inheritance} (w : (inheritance g).Writing) (h : g.Writable) :
    Inheritance.read w.block = pure (some g) := by
  obtain ⟨inChildren, hdraft⟩ := @Inheritance.foldlM_items w.block.name g h.parent h.children h.nonempty
  have hnonempty : g.children.isEmpty = false := by simpa using h.nonempty
  rw [Inheritance.read, w.items_block h, items, hdraft, pure_bind]
  simp only [hnonempty]
  rfl

theorem read_associative {a : AssociativeEntity} (w : (associative a).Writing) (h : a.Writable) :
    AssociativeEntity.read w.block = pure (some a) := by
  have hextra : AssociativeEntity.relation? w.block.extra.toList = some a.relation.toList := by
    have hwords : Text.words w.block.extra.toList = [w.on, a.relation.toList] := by
      rw [block, String.toList_ofList]
      apply words_unwords
      intro word hword
      exact isWord_of_isIdentifier (@isIdentifier_extra (associative a) h w.on w.spelledOn word hword)
    rw [AssociativeEntity.relation?, hwords]
    simp only [w.spelledOn, h.relation, Bool.and_self, if_true]
  rw [AssociativeEntity.read, hextra, w.items_block h, items]
  dsimp only
  rw [Attribute.readAll_parts h.attributes, String.ofList_toList]
  rfl

theorem readBlock_block (h : d.Writable) : ConceptualModel.readBlock w.block = pure d.model := by
  rw [readBlock_eq]
  cases d with
  | entity e =>
    rw [reader, read_entity w h]
    rfl
  | relation r =>
    rw [reader, read_relation w h]
    rfl
  | inheritance g =>
    rw [reader, read_inheritance w h]
    rfl
  | associative a =>
    rw [reader, read_associative w h]
    rfl

def plainly (d : Declaration) : d.Writing where
  lead := []
  keyword := d.keyword.toList
  on := "ON".toList
  gap := [' ']
  body := .ofItems d.items
  blankLead := by simp
  spelled := by
    have hspelled : ∀ keyword ∈ keywords, spells keyword.toList keyword = true := by decide
    exact hspelled d.keyword d.keyword_mem_keywords
  spelledOn := by decide
  blankGap := by decide
  laidOut := Layout.items_ofItems d.items

end Declaration.Writing

namespace ConceptualModel

variable {m : ConceptualModel}

def declarations (m : ConceptualModel) : List Declaration :=
  m.entities.map .entity ++ m.relations.map .relation ++ m.inheritances.map .inheritance
    ++ m.associatives.map .associative

theorem foldr_declarations (m : ConceptualModel) : (m.declarations.map Declaration.model).foldr append empty = m := by
  have hnone {α β : Type} (as : List α) : as.flatMap (fun _ => ([] : List β)) = [] := by
    simp [List.flatMap_eq_nil_iff]
  rw [foldr_append]
  simp [declarations, Declaration.model, empty, List.flatMap_map, hnone]

def Writing.plainly (m : ConceptualModel) : m.Writing where
  blocks := m.declarations.map fun d => ⟨d, .plainly d⟩
  tail := []
  blank := by simp
  declared := by
    rw [List.map_map]
    exact foldr_declarations m

theorem Writable.declaration (h : m.Writable) {ds : List Declaration}
    (hdeclared : (ds.map Declaration.model).foldr append empty = m) : ∀ d ∈ ds, d.Writable := by
  rw [foldr_append] at hdeclared
  subst hdeclared
  obtain ⟨hentities, hrelations, hinheritances, hassociatives⟩ := h
  intro d hd
  have hmodel := List.mem_map_of_mem (f := Declaration.model) hd
  cases d with
  | entity e => exact hentities e (List.mem_flatMap.2 ⟨_, hmodel, List.mem_singleton_self e⟩)
  | relation r => exact hrelations r (List.mem_flatMap.2 ⟨_, hmodel, List.mem_singleton_self r⟩)
  | inheritance g => exact hinheritances g (List.mem_flatMap.2 ⟨_, hmodel, List.mem_singleton_self g⟩)
  | associative a => exact hassociatives a (List.mem_flatMap.2 ⟨_, hmodel, List.mem_singleton_self a⟩)

variable (w : m.Writing)

theorem Writing.blocks_text (h : ∀ b ∈ w.blocks, b.1.Writable) :
    Document.blocks w.text = pure (w.blocks.map fun b => b.2.block) := by
  have hwritable : ∀ b ∈ w.blocks.map fun b => b.2.written, b.Writable := by
    rw [List.forall_mem_map]
    intro b hb
    exact b.2.writable_written (h b hb)
  have hread := WrittenBlock.blocks_text hwritable w.blank
  rw [List.flatMap_map, List.map_map] at hread
  refine hread.trans (congrArg pure ?_)
  apply List.map_congr_left
  intro b _
  exact b.2.block_written

theorem read_writing (m : ConceptualModel) (h : m.Writable) :
    Nonempty m.Writing
      ∧ ∀ w : m.Writing, read w.text = ⟨m, m.orphans.map fun name => ⟨some name, .orphanEntity name⟩⟩ := by
  refine ⟨⟨.plainly m⟩, ?_⟩
  intro w
  have hwritable : ∀ b ∈ w.blocks, b.1.Writable := by
    have hdeclared : ((w.blocks.map fun b => b.1).map Declaration.model).foldr append empty = m := by
      rw [List.map_map]
      exact w.declared
    intro b hb
    exact h.declaration hdeclared b.1 (List.mem_map_of_mem hb)
  have hparts : (w.blocks.map fun b => b.2.block).mapM readBlock = pure (w.blocks.map fun b => b.1.model) :=
    Outcome.mapM_map fun b hb => b.2.readBlock_block (hwritable b hb)
  rw [read, w.blocks_text hwritable, pure_bind, hparts, pure_bind, w.declared]
  apply Outcome.ext
  . rfl
  . simp [diagnostics_warnOfOrphans]

theorem read_writing_mixed :
    let m : ConceptualModel := ⟨
      [⟨"#line--", [⟨"id", true, false⟩, ⟨"parent", true, true⟩]⟩],
      [⟨"r[,", [⟨"ENTITY", .zeroMany⟩, ⟨"B", .oneOne⟩], [⟨"größe", false, true⟩]⟩],
      [⟨"g", "B", ["x", "Children", "2"], some .singleTable⟩],
      [⟨"a", "r", []⟩]⟩
    let text := "associative a On r \x7b,\x7dRELATION r[,\n\x7bENTITY (0,n),, B (1,1)\n größe [DERIVED],\x7d" ++
      "\n\nInHeritance g \x7bPARENT B\nCHILDREN x, CHILDREN Children\n2 , STRATEGY single_table\x7d" ++
      "Entity #line-- \x7b\n  id [PK], parent [PK] [DERIVED]\n\x7d\n"
    m.Writable
      ∧ ∃ w : m.Writing, w.text = text ∧ read text = ⟨m, [⟨some "#line--", .orphanEntity "#line--"⟩]⟩ := by
  intro m text
  have hm : m.Writable := by decide +kernel
  let gap : Stretch := ⟨[], none, [], by decide⟩
  let associative : Declaration.Writing (.associative ⟨"a", "r", []⟩) := {
    lead := [], keyword := "associative".toList, on := "On".toList, gap := [' ']
    body := ⟨gap, [(.comma, gap)]⟩
    blankLead := by decide, spelled := by decide, spelledOn := by decide, blankGap := by decide, laidOut := rfl }
  let relation : Declaration.Writing
      (.relation ⟨"r[,", [⟨"ENTITY", .zeroMany⟩, ⟨"B", .oneOne⟩], [⟨"größe", false, true⟩]⟩) := {
    lead := [], keyword := "RELATION".toList, on := "ON".toList, gap := ['\n']
    body := ⟨⟨[], "ENTITY (0,n)".toList, [], by decide⟩, [
      (.comma, gap), (.comma, ⟨[' '], "B (1,1)".toList, [], by decide⟩),
      (.lineBreak, ⟨[' '], "größe [DERIVED]".toList, [], by decide⟩), (.comma, gap)]⟩
    blankLead := by decide, spelled := by decide, spelledOn := by decide, blankGap := by decide
    laidOut := by decide +kernel }
  let group : Declaration.Writing (.inheritance ⟨"g", "B", ["x", "Children", "2"], some .singleTable⟩) := {
    lead := "\n\n".toList, keyword := "InHeritance".toList, on := "ON".toList, gap := [' ']
    body := ⟨⟨[], "PARENT B".toList, [], by decide⟩, [
      (.lineBreak, ⟨[], "CHILDREN x".toList, [], by decide⟩),
      (.comma, ⟨[' '], "CHILDREN Children".toList, [], by decide⟩),
      (.lineBreak, ⟨[], "2".toList, [' '], by decide⟩),
      (.comma, ⟨[' '], "STRATEGY single_table".toList, [], by decide⟩)]⟩
    blankLead := by decide, spelled := by decide, spelledOn := by decide, blankGap := by decide
    laidOut := by decide +kernel }
  let entity : Declaration.Writing (.entity ⟨"#line--", [⟨"id", true, false⟩, ⟨"parent", true, true⟩]⟩) := {
    lead := [], keyword := "Entity".toList, on := "ON".toList, gap := [' ']
    body := ⟨gap, [
      (.lineBreak, ⟨"  ".toList, "id [PK]".toList, [], by decide⟩),
      (.comma, ⟨[' '], "parent [PK] [DERIVED]".toList, [], by decide⟩), (.lineBreak, gap)]⟩
    blankLead := by decide, spelled := by decide, spelledOn := by decide, blankGap := by decide
    laidOut := by decide +kernel }
  let w : m.Writing := {
    blocks := [⟨_, associative⟩, ⟨_, relation⟩, ⟨_, group⟩, ⟨_, entity⟩], tail := ['\n']
    blank := by decide, declared := rfl }
  have htext : w.text = text := by decide +kernel
  have horphans : m.orphans = ["#line--"] := by decide
  have hread := (read_writing m hm).2 w
  rw [htext, horphans] at hread
  exact ⟨hm, w, htext, hread⟩

end ConceptualModel

end SchemaDesign
