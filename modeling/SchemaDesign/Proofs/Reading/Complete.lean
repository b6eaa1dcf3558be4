import SchemaDesign.Proofs.Conceptual.Inheritance
import SchemaDesign.Proofs.Conceptual.Reader
import SchemaDesign.Proofs.Conceptual.Writing
import SchemaDesign.Proofs.Document.ItemName
import SchemaDesign.Proofs.Logical.Reader

/-!
This module contains that a document that is read without an error is read completely, at all three levels: every block
has become a table or an element of the model, and every item a part of it.
-/

namespace SchemaDesign

open Text Document

variable {owner : String} {item : List Char} {items : List (List Char)} {b : Block} {text : String}

section Tables

theorem Column.read_complete (hfirst : ∀ c ∈ item.head?, isBlank c = false) (h : (Column.read owner item).Clean) :
    ∃ c, (Column.read owner item).value = some c ∧ BeginsWith item c.name := by
  unfold Column.read at h ⊢
  cases hparts : readParts item with
  | none =>
    rw [hparts] at h
    exact absurd h (Outcome.not_clean_reportIn rfl)
  | some parts =>
    obtain ⟨behind, hitem, hbehind⟩ := exists_behind_head hfirst hparts
    simp only [hparts] at h ⊢
    split at h
    . next hhead =>
      rw [if_pos hhead]
      refine ⟨_, rfl, ?_⟩
      rw [readFlags_keeps name_applyFlag, hitem]
      exact beginsWith_append hhead hbehind
    . exact absurd h (Outcome.not_clean_reportIn rfl)

theorem Table.lists_read (h : (Table.read b).Clean) :
    b.Lists (Table.read b).value.name ((Table.read b).value.columns.map (·.name)) := by
  rw [Table.read, Outcome.Clean, Outcome.reports_bind] at h
  apply lists_readDistinct h.1
  intro item hfirst hitem
  exact Column.read_complete hfirst hitem

theorem PhysicalColumn.name_applyFlag (c : PhysicalColumn) (f : Flag) : (c.applyFlag f).name = c.name := by
  cases f <;> rfl

theorem PhysicalColumn.read_complete (hfirst : ∀ c ∈ item.head?, isBlank c = false)
    (h : (PhysicalColumn.read owner item).Clean) :
    ∃ c, (PhysicalColumn.read owner item).value = some c ∧ BeginsWith item c.name := by
  unfold PhysicalColumn.read at h ⊢
  cases hparts : readParts item with
  | none =>
    rw [hparts] at h
    exact absurd h (Outcome.not_clean_reportIn rfl)
  | some parts =>
    obtain ⟨behind, hitem, hbehind⟩ := exists_behind_word hfirst hparts
    simp only [hparts, getD_cut] at h ⊢
    split at h
    . exact absurd h (Outcome.not_clean_reportIn rfl)
    . next hidentifier =>
      split at h
      . exact absurd h (Outcome.not_clean_reportIn rfl)
      . next htype =>
        rw [if_neg hidentifier, if_neg htype]
        refine ⟨_, rfl, ?_⟩
        simp only [readFlags_keeps name_applyFlag]
        rw [hitem]
        apply beginsWith_append _ hbehind
        simpa using hidentifier

theorem PhysicalTable.lists_read (h : (PhysicalTable.read b).Clean) :
    b.Lists (PhysicalTable.read b).value.name ((PhysicalTable.read b).value.columns.map (·.name)) := by
  rw [PhysicalTable.read, Outcome.Clean, Outcome.reports_bind] at h
  apply lists_readDistinct h.1
  intro item hfirst hitem
  exact PhysicalColumn.read_complete hfirst hitem

structure LogicalModel.TakesUp (m : LogicalModel) (bs : List Block) : Prop where
  keyword : ∀ b ∈ bs, b.hasKeyword "TABLE" = true
  tables : List.Forall₂ (fun b t => b.Lists t.name (t.columns.map (·.name))) bs m.tables

theorem LogicalModel.takesUp_read (h : (LogicalModel.read text).Clean) :
    (LogicalModel.read text).value.TakesUp (blocks text).value := by
  rw [LogicalModel.read, Outcome.Clean, Outcome.reports_bind] at h
  constructor
  . exact hasKeyword_of_readTables h.1
  . apply forall₂_readTables h.1
    intro b hb
    exact Table.lists_read hb

structure PhysicalModel.TakesUp (m : PhysicalModel) (bs : List Block) : Prop where
  keyword : ∀ b ∈ bs, b.hasKeyword "TABLE" = true
  tables : List.Forall₂ (fun b t => b.Lists t.name (t.columns.map (·.name))) bs m.tables

theorem PhysicalModel.takesUp_read (h : (PhysicalModel.read text).Clean) :
    (PhysicalModel.read text).value.TakesUp (blocks text).value := by
  rw [PhysicalModel.read, Outcome.Clean, Outcome.reports_bind] at h
  constructor
  . exact hasKeyword_of_readTables h.1
  . apply forall₂_readTables h.1
    intro b hb
    exact PhysicalTable.lists_read hb

end Tables

section Attributes

theorem Attribute.read_complete (hfirst : ∀ c ∈ item.head?, isBlank c = false) (h : (Attribute.read owner item).Clean) :
    ∃ a, (Attribute.read owner item).value = some a ∧ BeginsWith item a.name := by
  unfold Attribute.read at h ⊢
  cases hparts : readParts item with
  | none =>
    rw [hparts] at h
    exact absurd h (Outcome.not_clean_reportIn rfl)
  | some parts =>
    obtain ⟨behind, hitem, hbehind⟩ := exists_behind_head hfirst hparts
    simp only [hparts] at h ⊢
    split at h
    . next hhead =>
      rw [if_pos hhead]
      refine ⟨_, rfl, ?_⟩
      rw [name_foldl_step, hitem]
      exact beginsWith_append hhead hbehind
    . exact absurd h (Outcome.not_clean_reportIn rfl)

theorem Attribute.lists_readAll (h : (Attribute.readAll b.name b.items).Clean) :
    b.Lists b.name ((Attribute.readAll b.name b.items).value.map (·.name)) := by
  apply lists_readDistinct h
  intro item hfirst hitem
  exact Attribute.read_complete hfirst hitem

end Attributes

section Relations

def Participant.StandsIn (p : Participant) (item : List Char) : Prop :=
  ∃ min max, IsShaped item p.entity.toList (min ++ ',' :: max) ∧ Cardinality.ofBounds? min max = some p.cardinality

theorem Participant.isShaped_of_parts? {entity bounds : List Char} (hfirst : ∀ c ∈ item.head?, isBlank c = false)
    (h : parts? item = some (entity, bounds)) : IsShaped item entity bounds := by
  unfold parts? at h
  cases hcut : cut (· = '(') item with
  | none =>
    rw [hcut] at h
    contradiction
  | some halves =>
    obtain ⟨front, rest⟩ := halves
    cases hlast : dropLast? ')' rest with
    | none =>
      simp only [hcut, hlast] at h
      contradiction
    | some inner =>
      simp only [hcut, hlast] at h
      split at h
      . next hshape =>
        rw [Option.some.injEq, Prod.mk.injEq] at h
        obtain ⟨rfl, rfl⟩ := h
        rw [Bool.and_eq_true] at hshape
        obtain ⟨c, hc, -, hitem⟩ := cut_eq_some_iff.1 hcut
        rw [decide_eq_true_eq] at hc
        rw [hc, dropLast?_eq_some_iff.1 hlast] at hitem
        rw [hitem] at hfirst
        obtain ⟨gap, hgap, hblank⟩ := exists_trim_append hfirst
        refine ⟨hshape.1, by simpa using hshape.2, gap, ?_, hblank⟩
        rw [hitem, hgap, List.append_assoc]
      . contradiction

theorem Participant.read_complete {entity bounds : List Char} (hshape : IsShaped item entity bounds)
    (h : (Participant.read owner entity bounds).Clean) :
    ∃ p, (Participant.read owner entity bounds).value = some p ∧ p.StandsIn item := by
  unfold Participant.read at h ⊢
  split at h
  . next cardinality hcardinality =>
    obtain ⟨⟨min, max⟩, hcut, hbounds⟩ := Option.bind_eq_some_iff.1 hcardinality
    obtain ⟨c, hc, -, htext⟩ := cut_eq_some_iff.1 hcut
    rw [decide_eq_true_eq] at hc
    refine ⟨_, rfl, min, max, ?_, hbounds⟩
    rwa [← hc, ← htext, String.toList_ofList]
  . exact absurd h (Outcome.not_clean_reportIn rfl)

/--
Every item is dealt out to one side: it is a participant if it is shaped like one, and otherwise an attribute.
-/
inductive Relation.Deals : List (List Char) → List Participant → List Attribute → Prop where
  | nil : Deals [] [] []
  | participant {item : List Char} {items : List (List Char)} {p : Participant} {ps : List Participant}
    {as : List Attribute} (head : p.StandsIn item) (tail : Deals items ps as) : Deals (item :: items) (p :: ps) as
  | attribute {item : List Char} {items : List (List Char)} {a : Attribute} {ps : List Participant}
    {as : List Attribute} (hshape : ∀ entity bounds, ¬Participant.IsShaped item entity bounds)
    (head : BeginsWith item a.name) (tail : Deals items ps as) : Deals (item :: items) ps (a :: as)

theorem Relation.deals_of_clean {as : List Attribute} (hfirst : ∀ item ∈ items, ∀ c ∈ item.head?, isBlank c = false)
    (hparticipants : ∀ parts ∈ items.filterMap Participant.parts?, (Participant.read owner parts.1 parts.2).Clean)
    (hattributes : List.Forall₂ (fun item a => BeginsWith item a.name)
      (items.filter (Participant.parts? · |>.isNone)) as) :
    Deals items
      ((items.filterMap Participant.parts?).filterMap fun parts => (Participant.read owner parts.1 parts.2).value)
      as := by
  induction items generalizing as with
  | nil =>
    cases hattributes
    exact .nil
  | cons item items ih =>
    rw [List.forall_mem_cons] at hfirst
    cases hparts : Participant.parts? item with
    | none =>
      rw [List.filterMap_cons_none hparts] at hparticipants ⊢
      rw [List.filter_cons_of_pos (by simp [hparts])] at hattributes
      cases hattributes with
      | cons head tail =>
        apply Deals.attribute _ head (ih hfirst.2 hparticipants tail)
        intro entity bounds hshape
        rw [Participant.parts?_of_isShaped hshape] at hparts
        contradiction
    | some parts =>
      rw [List.filterMap_cons_some hparts] at hparticipants ⊢
      rw [List.filter_cons_of_neg (by simp [hparts])] at hattributes
      rw [List.forall_mem_cons] at hparticipants
      have hshape := Participant.isShaped_of_parts? hfirst.1 hparts
      obtain ⟨p, hp, hstands⟩ := Participant.read_complete hshape hparticipants.1
      simp only [List.filterMap_cons, hp]
      exact .participant hstands (ih hfirst.2 hparticipants.2 hattributes)

theorem Relation.deals_read (h : (Relation.read b).Clean) :
    Deals b.items (Relation.read b).value.participants (Relation.read b).value.attributes := by
  have hfirst : ∀ item ∈ b.items, ∀ c ∈ item.head?, isBlank c = false :=
    fun item hitem => (trimmed_of_mem_items hitem).first
  rw [Relation.read, Outcome.Clean, Outcome.reports_bind, Outcome.reports_bind, Outcome.reports_collect] at h
  simp only [Relation.read, Outcome.value_bind, Outcome.value_pure, Outcome.value_collect]
  apply Relation.deals_of_clean hfirst h.1
  apply forall₂_readDistinct h.2.1
  intro item hitem
  exact Attribute.read_complete (hfirst item (List.mem_of_mem_filter hitem))

end Relations

section Kinds

structure Inheritance.TakesUp (g : Inheritance) (b : Block) : Prop where
  name : g.name = b.name
  items : ∃ es, Listed false b.items es ∧ g.children = es.flatMap Entry.childNames

def Declaration.TakesUp (b : Block) : Declaration → Prop
  | .entity e => b.Lists e.name (e.attributes.map (·.name))
  | .relation r => r.name = b.name ∧ Relation.Deals b.items r.participants r.attributes
  | .inheritance g => g.TakesUp b
  | .associative a => b.Lists a.name (a.attributes.map (·.name))

theorem Inheritance.exists_read (h : (Inheritance.read b).Clean) : ∃ g, (Inheritance.read b).value = some g := by
  unfold Inheritance.read at h ⊢
  rw [Outcome.Clean, Outcome.reports_bind, Outcome.reports_bind, Outcome.reports_reportIf] at h
  simp only [Outcome.value_bind]
  generalize (b.items.foldlM (readItem b.name) ⟨none, [], none, false⟩).value = draft at h ⊢
  obtain ⟨-, hchildren, hparent⟩ := h
  cases hdraft : draft.parent with
  | none =>
    rw [hdraft] at hparent
    exact absurd hparent (Outcome.not_clean_reportIn rfl)
  | some parent =>
    have hnonempty : ¬draft.children.isEmpty = true := by
      intro hempty
      exact absurd (hchildren hempty) (by simp [Issue.severity])
    simp only [if_neg hnonempty]
    exact ⟨_, rfl⟩

theorem Inheritance.read_complete (h : (Inheritance.read b).Clean) :
    ∃ g, (Inheritance.read b).value = some g ∧ g.TakesUp b := by
  obtain ⟨g, hg⟩ := exists_read h
  have hclean : (Inheritance.read b).hasErrors = false := Outcome.hasErrors_eq_false_iff.2 h
  rw [Inheritance.read, Outcome.Clean, Outcome.reports_bind] at h
  obtain ⟨es, hes⟩ := exists_listed h.1
  obtain ⟨hname, -, -, hchildren, -⟩ := (read_of_listed hes).1 ⟨hg, hclean⟩
  exact ⟨g, hg, hname, es, hes, hchildren⟩

theorem AssociativeEntity.read_complete (h : (AssociativeEntity.read b).Clean) :
    ∃ a, (AssociativeEntity.read b).value = some a ∧ b.Lists a.name (a.attributes.map (·.name)) := by
  unfold AssociativeEntity.read at h ⊢
  split at h
  . exact absurd h (Outcome.not_clean_reportIn rfl)
  . rw [Outcome.Clean, Outcome.reports_bind] at h
    exact ⟨_, rfl, Attribute.lists_readAll h.1⟩

namespace ConceptualModel

theorem readBlock_complete (h : (readBlock b).Clean) :
    ∃ d : Declaration, (readBlock b).value = d.model ∧ b.hasKeyword d.keyword = true ∧ d.TakesUp b := by
  unfold readBlock at h ⊢
  split at h
  . next hkeyword =>
    rw [Outcome.Clean, Outcome.reports_bind, Outcome.reports_bind, Entity.read, Outcome.reports_bind] at h
    rw [if_pos hkeyword]
    exact ⟨.entity _, rfl, hkeyword, Attribute.lists_readAll h.2.1.1⟩
  . next hother =>
    rw [if_neg hother]
    split at h
    . next hkeyword =>
      rw [Outcome.Clean, Outcome.reports_bind, Outcome.reports_bind] at h
      rw [if_pos hkeyword]
      exact ⟨.relation _, rfl, hkeyword, rfl, Relation.deals_read h.2.1⟩
    . next hother =>
      rw [if_neg hother]
      split at h
      . next hkeyword =>
        rw [Outcome.Clean, Outcome.reports_bind, Outcome.reports_bind] at h
        obtain ⟨g, hg, htaken⟩ := Inheritance.read_complete h.2.1
        rw [if_pos hkeyword]
        refine ⟨.inheritance g, ?_, hkeyword, htaken⟩
        simp only [Outcome.value_bind, Outcome.value_pure, hg]
        rfl
      . next hother =>
        rw [if_neg hother]
        split at h
        . next hkeyword =>
          rw [Outcome.Clean, Outcome.reports_bind] at h
          obtain ⟨a, ha, hlists⟩ := AssociativeEntity.read_complete h.1
          rw [if_pos hkeyword]
          refine ⟨.associative a, ?_, hkeyword, hlists⟩
          simp only [Outcome.value_bind, Outcome.value_pure, ha]
          rfl
        . rw [Outcome.Clean, Outcome.reports_bind] at h
          exact absurd h.2 (Outcome.not_clean_reportIn rfl)

theorem forall₂_kind {β : Type} {R : Block → β → Prop} {keyword : String} {kind : ConceptualModel → List β}
    {bs : List Block} (h : ∀ b ∈ bs, (readBlock b).Clean)
    (hkind : ∀ b, ∀ d : Declaration, d.TakesUp b →
      (d.keyword = keyword ∧ ∃ x, kind d.model = [x] ∧ R b x) ∨ (d.keyword ≠ keyword ∧ kind d.model = [])) :
    List.Forall₂ R (bs.filter (·.hasKeyword keyword)) ((bs.map fun b => (readBlock b).value).flatMap kind) := by
  induction bs with
  | nil => exact .nil
  | cons b bs ih =>
    rw [List.forall_mem_cons] at h
    obtain ⟨d, hmodel, hkeyword, htaken⟩ := readBlock_complete h.1
    rw [List.map_cons, List.flatMap_cons, hmodel, List.filter_cons, Block.hasKeyword, spells_eq hkeyword]
    rcases hkind b d htaken with ⟨hsame, x, hx, hR⟩ | ⟨hother, hnone⟩
    . rw [if_pos (decide_eq_true hsame), hx]
      exact .cons hR (ih h.2)
    . rw [if_neg (by simpa using hother), hnone]
      exact ih h.2

structure TakesUp (m : ConceptualModel) (bs : List Block) : Prop where
  kinds : ∀ b ∈ bs, ∃! keyword, keyword ∈ Declaration.keywords ∧ b.hasKeyword keyword = true
  entities : List.Forall₂ (fun b e => b.Lists e.name (e.attributes.map (·.name)))
    (bs.filter (·.hasKeyword "ENTITY")) m.entities
  relations : List.Forall₂ (fun b r => r.name = b.name ∧ Relation.Deals b.items r.participants r.attributes)
    (bs.filter (·.hasKeyword "RELATION")) m.relations
  inheritances : List.Forall₂ (fun b g => g.TakesUp b) (bs.filter (·.hasKeyword "INHERITANCE")) m.inheritances
  associatives : List.Forall₂ (fun b a => b.Lists a.name (a.attributes.map (·.name)))
    (bs.filter (·.hasKeyword "ASSOCIATIVE")) m.associatives

theorem takesUp_read (h : (ConceptualModel.read text).Clean) :
    (ConceptualModel.read text).value.TakesUp (blocks text).value := by
  have hblocks : ∀ b ∈ (blocks text).value, (readBlock b).Clean := by
    rw [ConceptualModel.read, Outcome.Clean, Outcome.reports_bind, Outcome.reports_bind, Outcome.reports_mapM] at h
    exact h.2.1
  rw [value_read, foldr_append]
  constructor
  . intro b hb
    obtain ⟨d, -, hkeyword, -⟩ := readBlock_complete (hblocks b hb)
    refine ⟨d.keyword, ⟨d.keyword_mem_keywords, hkeyword⟩, ?_⟩
    rintro other ⟨-, hother⟩
    rw [Block.hasKeyword, spells_eq hkeyword, decide_eq_true_eq] at hother
    exact hother.symm
  . apply forall₂_kind hblocks
    intro b d htaken
    cases d with
    | entity e => exact Or.inl ⟨rfl, e, rfl, htaken⟩
    | relation | inheritance | associative => exact Or.inr ⟨by simp [Declaration.keyword], rfl⟩
  . apply forall₂_kind hblocks
    intro b d htaken
    cases d with
    | relation r => exact Or.inl ⟨rfl, r, rfl, htaken⟩
    | entity | inheritance | associative => exact Or.inr ⟨by simp [Declaration.keyword], rfl⟩
  . apply forall₂_kind hblocks
    intro b d htaken
    cases d with
    | inheritance g => exact Or.inl ⟨rfl, g, rfl, htaken⟩
    | entity | relation | associative => exact Or.inr ⟨by simp [Declaration.keyword], rfl⟩
  . apply forall₂_kind hblocks
    intro b d htaken
    cases d with
    | associative a => exact Or.inl ⟨rfl, a, rfl, htaken⟩
    | entity | relation | inheritance => exact Or.inr ⟨by simp [Declaration.keyword], rfl⟩

end ConceptualModel

end Kinds

theorem nothing_dropped (text : String) :
    ((LogicalModel.read text).hasErrors = false → (LogicalModel.read text).value.TakesUp (blocks text).value)
      ∧
    ((PhysicalModel.read text).hasErrors = false → (PhysicalModel.read text).value.TakesUp (blocks text).value)
      ∧
    ((ConceptualModel.read text).hasErrors = false →
      (ConceptualModel.read text).value.TakesUp (blocks text).value) := by
  simp only [Outcome.hasErrors_eq_false_iff]
  exact ⟨LogicalModel.takesUp_read, PhysicalModel.takesUp_read, ConceptualModel.takesUp_read⟩

theorem nothing_dropped_warned :
    let logical := "TABLE Order \x7b\n  id [PK], client [FK -> Client.id ON DELETE PERHAPS]\n größe\n\x7d\n" ++
      "Table Client \x7b id[PK] \x7d"
    let physical := "TABLE Order \x7b id INT [PK], price DECIMAL(10, 2) [NOT NULL, CHECK (price > 0)] \x7d"
    let conceptual := "ENTITY Order \x7b id [PK], note [DERIVED] \x7d\nENTITY Spare \x7b id [PK] \x7d\n" ++
      "ENTITY Client \x7b id [PK] \x7d\nRELATION buys \x7b Order(1,1)\n since, Client (0,N) \x7d\n" ++
      "ASSOCIATIVE Purchase ON buys \x7b rate, id [PK] \x7d\n" ++
      "INHERITANCE g \x7b PARENT Client, CHILDREN Person\n STRATEGY single_table \x7d"
    ((LogicalModel.read logical).hasErrors = false ∧ (LogicalModel.read logical).value.TakesUp (blocks logical).value)
      ∧
    ((PhysicalModel.read physical).hasErrors = false
      ∧ (PhysicalModel.read physical).value.TakesUp (blocks physical).value)
      ∧
    ((ConceptualModel.read conceptual).hasErrors = false
      ∧ (ConceptualModel.read conceptual).value.TakesUp (blocks conceptual).value) := by
  intro logical physical conceptual
  have hlogical : (LogicalModel.read logical).hasErrors = false := by decide +kernel
  have hphysical : (PhysicalModel.read physical).hasErrors = false := by decide +kernel
  have hconceptual : (ConceptualModel.read conceptual).hasErrors = false := by decide +kernel
  exact ⟨⟨hlogical, (nothing_dropped logical).1 hlogical⟩, ⟨hphysical, (nothing_dropped physical).2.1 hphysical⟩,
    hconceptual, (nothing_dropped conceptual).2.2 hconceptual⟩

end SchemaDesign
