import SchemaDesign.Proofs.Conceptual.Declaration
import SchemaDesign.Proofs.Reading.Blockwise

/-!
This module contains the written forms of conceptual models, and that a model is read off each of them as it was. A form
fixes the order of the blocks, the case of their keywords, and how their items are laid out.
-/

namespace SchemaDesign

open Text Document

section Writable

structure Entity.Writable (e : Entity) : Prop where
  name : IsBlockName e.name
  attributes : Attribute.Declarable e.attributes

structure Relation.Writable (r : Relation) : Prop where
  name : IsBlockName r.name
  participants : ∀ p ∈ r.participants, isIdentifier p.entity.toList = true
  attributes : Attribute.Declarable r.attributes

structure Inheritance.Writable (g : Inheritance) : Prop where
  name : IsBlockName g.name
  parent : isIdentifier g.parent.toList = true
  nonempty : g.children ≠ []
  children : ∀ child ∈ g.children, isIdentifier child.toList = true

structure AssociativeEntity.Writable (a : AssociativeEntity) : Prop where
  name : IsBlockName a.name
  relation : isIdentifier a.relation.toList = true
  attributes : Attribute.Declarable a.attributes

structure ConceptualModel.Writable (m : ConceptualModel) : Prop where
  entities : ∀ e ∈ m.entities, e.Writable
  relations : ∀ r ∈ m.relations, r.Writable
  inheritances : ∀ g ∈ m.inheritances, g.Writable
  associatives : ∀ a ∈ m.associatives, a.Writable

instance Entity.decidableWritable (e : Entity) : Decidable e.Writable :=
  decidable_of_iff (IsBlockName e.name ∧ Attribute.Declarable e.attributes)
    ⟨fun h => ⟨h.1, h.2⟩, fun h => ⟨h.1, h.2⟩⟩

instance Relation.decidableWritable (r : Relation) : Decidable r.Writable :=
  decidable_of_iff
    (IsBlockName r.name ∧ (∀ p ∈ r.participants, isIdentifier p.entity.toList = true)
      ∧ Attribute.Declarable r.attributes)
    ⟨fun h => ⟨h.1, h.2.1, h.2.2⟩, fun h => ⟨h.1, h.2, h.3⟩⟩

instance Inheritance.decidableWritable (g : Inheritance) : Decidable g.Writable :=
  decidable_of_iff
    (IsBlockName g.name ∧ isIdentifier g.parent.toList = true ∧ g.children ≠ []
      ∧ ∀ child ∈ g.children, isIdentifier child.toList = true)
    ⟨fun h => ⟨h.1, h.2.1, h.2.2.1, h.2.2.2⟩, fun h => ⟨h.1, h.2, h.3, h.4⟩⟩

instance AssociativeEntity.decidableWritable (a : AssociativeEntity) : Decidable a.Writable :=
  decidable_of_iff
    (IsBlockName a.name ∧ isIdentifier a.relation.toList = true ∧ Attribute.Declarable a.attributes)
    ⟨fun h => ⟨h.1, h.2.1, h.2.2⟩, fun h => ⟨h.1, h.2, h.3⟩⟩

instance ConceptualModel.decidableWritable (m : ConceptualModel) : Decidable m.Writable :=
  decidable_of_iff
    ((∀ e ∈ m.entities, e.Writable) ∧ (∀ r ∈ m.relations, r.Writable) ∧ (∀ g ∈ m.inheritances, g.Writable)
      ∧ ∀ a ∈ m.associatives, a.Writable)
    ⟨fun h => ⟨h.1, h.2.1, h.2.2.1, h.2.2.2⟩, fun h => ⟨h.1, h.2, h.3, h.4⟩⟩

end Writable

inductive Declaration where
  | entity (e : Entity)
  | relation (r : Relation)
  | inheritance (g : Inheritance)
  | associative (a : AssociativeEntity)
deriving DecidableEq, Repr

namespace Declaration

def keyword : Declaration → String
  | entity _ => "ENTITY"
  | relation _ => "RELATION"
  | inheritance _ => "INHERITANCE"
  | associative _ => "ASSOCIATIVE"

def keywords : List String :=
  ["ENTITY", "RELATION", "INHERITANCE", "ASSOCIATIVE"]

theorem keyword_mem_keywords (d : Declaration) : d.keyword ∈ keywords := by
  cases d <;> simp [keyword, keywords]

def name : Declaration → String
  | entity e => e.name
  | relation r => r.name
  | inheritance g => g.name
  | associative a => a.name

def extra (on : List Char) : Declaration → List (List Char)
  | associative a => [on, a.relation.toList]
  | _ => []

def items : Declaration → List (List Char)
  | entity e => e.attributes.map fun a => a.parts.text
  | relation r => r.participants.map Participant.item ++ r.attributes.map fun a => a.parts.text
  | inheritance g => g.items
  | associative a => a.attributes.map fun a => a.parts.text

def model : Declaration → ConceptualModel
  | entity e => { ConceptualModel.empty with entities := [e] }
  | relation r => { ConceptualModel.empty with relations := [r] }
  | inheritance g => { ConceptualModel.empty with inheritances := [g] }
  | associative a => { ConceptualModel.empty with associatives := [a] }

def Writable : Declaration → Prop
  | entity e => e.Writable
  | relation r => r.Writable
  | inheritance g => g.Writable
  | associative a => a.Writable

/--
A way to write a declaration as a block: the spelling of the words of its header, the blanks around the header, and the
layout of the body.
-/
structure Writing (d : Declaration) where
  lead : List Char
  keyword : List Char
  on : List Char
  gap : List Char
  body : Layout
  blankLead : ∀ c ∈ lead, isBlank c = true
  spelled : spells keyword d.keyword = true
  spelledOn : isOn on = true
  blankGap : ∀ c ∈ gap, isBlank c = true
  laidOut : body.items = d.items

namespace Writing

variable {d : Declaration} (w : d.Writing)

def words : List (List Char) :=
  w.keyword :: d.name.toList :: d.extra w.on

def header : List Char :=
  w.lead ++ (unwords w.words ++ w.gap)

def text : List Char :=
  w.header ++ '\x7b' :: (w.body.text ++ ['\x7d'])

def written : WrittenBlock :=
  ⟨w.lead, w.words, w.gap, w.body.text⟩

def block : Block :=
  ⟨String.ofList w.keyword, d.name, String.ofList (unwords (d.extra w.on)), String.ofList w.body.text⟩

end Writing

end Declaration

structure ConceptualModel.Writing (m : ConceptualModel) where
  blocks : List ((d : Declaration) × d.Writing)
  tail : List Char
  blank : ∀ c ∈ tail, isBlank c = true
  declared : (blocks.map fun b => b.1.model).foldr append empty = m

def ConceptualModel.Writing.text {m : ConceptualModel} (w : m.Writing) : String :=
  String.ofList (w.blocks.flatMap (fun b => b.2.text) ++ w.tail)

namespace Declaration

variable {d : Declaration}

theorem isBlockName_name (h : d.Writable) : IsBlockName d.name := by
  cases d with
  | entity e => exact Entity.Writable.name h
  | relation r => exact Relation.Writable.name h
  | inheritance g => exact Inheritance.Writable.name h
  | associative a => exact AssociativeEntity.Writable.name h

theorem isItem_attributes {as : List Attribute} (h : Attribute.Declarable as) :
    ∀ item ∈ as.map fun a => a.parts.text, IsItem item := by
  intro item hitem
  obtain ⟨a, ha, rfl⟩ := List.mem_map.1 hitem
  exact Attribute.isItem_parts (h.names a ha)

theorem isItem_items (h : d.Writable) : ∀ item ∈ d.items, IsItem item := by
  cases d with
  | entity e => exact isItem_attributes (Entity.Writable.attributes h)
  | relation r =>
    obtain ⟨-, hparticipants, hattributes⟩ : r.Writable := h
    intro item hitem
    rw [items, List.mem_append] at hitem
    cases hitem with
    | inl hitem =>
      obtain ⟨p, hp, rfl⟩ := List.mem_map.1 hitem
      exact Participant.isItem_item (hparticipants p hp)
    | inr hitem => exact isItem_attributes hattributes item hitem
  | inheritance g =>
    obtain ⟨-, hparent, -, hchildren⟩ : g.Writable := h
    exact Inheritance.isItem_items hparent hchildren
  | associative a => exact isItem_attributes (AssociativeEntity.Writable.attributes h)

theorem isIdentifier_extra (h : d.Writable) {on : List Char} (hon : isOn on = true) :
    ∀ w ∈ d.extra on, isIdentifier w = true := by
  cases d with
  | associative a =>
    have hword : isIdentifier on = true := isIdentifier_of_spells (by decide) (by decide) hon
    simp only [extra, List.mem_cons, List.not_mem_nil, or_false, forall_eq_or_imp, forall_eq]
    exact ⟨hword, AssociativeEntity.Writable.relation h⟩
  | entity | relation | inheritance => simp [extra]

theorem isIdentifier_keyword {keyword : List Char} (h : spells keyword d.keyword = true) :
    isIdentifier keyword = true := by
  have hletters : ∀ keyword ∈ keywords, keyword ≠ "" ∧ ∀ c ∈ keyword.toList, c.isAlpha = true := by decide
  obtain ⟨hnonempty, hletters⟩ := hletters d.keyword d.keyword_mem_keywords
  exact isIdentifier_of_spells hnonempty hletters h

namespace Writing

variable (w : d.Writing)

theorem isItem_body (h : d.Writable) : ∀ item ∈ w.body.items, IsItem item := by
  rw [w.laidOut]
  exact isItem_items h

theorem isWord_words (h : d.Writable) : ∀ word ∈ w.words, IsWord word ∧ Braceless word := by
  have hidentifier : ∀ word, isIdentifier word = true → IsWord word ∧ Braceless word :=
    fun word hword => ⟨isWord_of_isIdentifier hword, braceless_of_isPlain (isPlain_of_isIdentifier hword)⟩
  have hname := isBlockName_name h
  rw [words, List.forall_mem_cons, List.forall_mem_cons]
  refine ⟨hidentifier _ (isIdentifier_keyword w.spelled), ⟨hname.word, hname.braceless⟩, ?_⟩
  intro word hword
  exact hidentifier word (isIdentifier_extra h w.spelledOn word hword)

theorem writable_written (h : d.Writable) : w.written.Writable where
  blankLead := w.blankLead
  blankGap := w.blankGap
  named := by simp [written, words]
  word word hword := (w.isWord_words h word hword).1
  bracelessWord word hword := (w.isWord_words h word hword).2
  -- The name may look like the mark of a comment, as the keyword stands before it.
  unmarked := by
    rintro word ⟨⟩ c hc
    have hkeyword := isIdentifier_keyword w.spelled
    exact isUnmarked_of_isWordChar ((isIdentifier_iff.1 hkeyword).2 c (List.mem_of_mem_head? hc))
  braceless := braceless_of_isPlain (Layout.isPlain_text (w.isItem_body h))
  quiet := quiet_of_isUnmarked fun c hc => isUnmarked_of_isPlain (Layout.isPlain_text (w.isItem_body h) c hc)

theorem block_written : w.written.block = w.block := by
  simp [WrittenBlock.block, written, block, words]

end Writing

end Declaration

end SchemaDesign
