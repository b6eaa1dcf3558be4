import SchemaDesign.Conceptual.Reader
import SchemaDesign.Proofs.Document.Declaration
import SchemaDesign.Proofs.Document.Layout

namespace SchemaDesign

open Text Document

section Plain

variable {cs : List Char}

theorem isPlain_of_isIdentifier (h : isIdentifier cs = true) : ∀ c ∈ cs, isPlain c = true :=
  fun c hc => isPlain_of_isWordChar ((isIdentifier_iff.1 h).2 c hc)

theorem isItem_of_isIdentifier (h : isIdentifier cs = true) : IsItem cs :=
  isItem_of_isPhrase (isPhrase_of_isIdentifier h) (isPlain_of_isIdentifier h)

end Plain

namespace Attribute

def flags (a : Attribute) : List Flag :=
  (if a.isKey then [.primaryKey] else []) ++ (if a.isDerived then [.derived] else [])

def parts (a : Attribute) : Parts :=
  ⟨a.name.toList, a.flags.map Flag.text⟩

structure Declarable (as : List Attribute) : Prop where
  names : ∀ a ∈ as, isIdentifier a.name.toList = true
  distinct : (as.map (·.name)).Nodup

instance (as : List Attribute) : Decidable (Declarable as) :=
  decidable_of_iff ((∀ a ∈ as, isIdentifier a.name.toList = true) ∧ (as.map (·.name)).Nodup)
    ⟨fun h => ⟨h.1, h.2⟩, fun h => ⟨h.1, h.2⟩⟩

variable {a : Attribute} {as : List Attribute} {owner : String}

theorem flags_subset (a : Attribute) : ∀ f ∈ a.flags, f = .primaryKey ∨ f = .derived := by
  unfold flags
  cases a.isKey <;> cases a.isDerived <;> simp

theorem writable_flags (a : Attribute) : ∀ f ∈ a.flags, f.Writable a.name := by
  intro f hf
  rcases a.flags_subset f hf with rfl | rfl <;> trivial

theorem writable_parts (h : isIdentifier a.name.toList = true) : a.parts.Writable := by
  constructor
  . exact isPhrase_of_isIdentifier h
  . intro c hc
    exact (isIdentifier_iff.1 h).2 c (List.mem_of_mem_head? hc)
  . intro flag hflag
    obtain ⟨f, hf, rfl⟩ := List.mem_map.1 hflag
    exact isPhrase_text (a.writable_flags f hf)

theorem mem_parts_text (h : isIdentifier a.name.toList = true) :
    ∀ c ∈ a.parts.text, isWordChar c = true ∨ c ∈ [' ', '[', ']'] := by
  intro c hc
  rw [Parts.text, List.mem_append] at hc
  cases hc with
  | inl hc => exact Or.inl ((isIdentifier_iff.1 h).2 c hc)
  | inr hc =>
    have hkey : ∀ c ∈ Flag.primaryKey.text, isWordChar c = true := by decide +kernel
    have hderived : ∀ c ∈ Flag.derived.text, isWordChar c = true := by decide +kernel
    obtain ⟨flag, hmem, hc⟩ := List.mem_flatMap.1 hc
    obtain ⟨f, hf, rfl⟩ := List.mem_map.1 hmem
    simp only [bracketed, List.mem_cons, List.mem_append, List.not_mem_nil, or_false] at hc
    rcases hc with rfl | rfl | hc | rfl
    . simp
    . simp
    . rcases a.flags_subset f hf with rfl | rfl
      . exact Or.inl (hkey c hc)
      . exact Or.inl (hderived c hc)
    . simp

theorem isItem_parts (h : isIdentifier a.name.toList = true) : IsItem a.parts.text := by
  apply isItem_text (writable_parts h)
  intro c hc
  cases mem_parts_text h c hc with
  | inl hword => exact isPlain_of_isWordChar hword
  | inr hmem =>
    have hplain : ∀ c ∈ [' ', '[', ']'], isPlain c = true := by decide
    exact hplain c hmem

theorem foldl_step {name : String} {fs : List Flag} (h : ∀ f ∈ fs, f.Writable name) :
    (fs.map Flag.text).foldl (read.step name) a = fs.foldl applyFlag a := by
  induction fs generalizing a with
  | nil => rfl
  | cons f fs ih =>
    rw [List.forall_mem_cons] at h
    rw [List.map_cons, List.foldl_cons, List.foldl_cons, read.step, readFlag_text h.1]
    exact ih h.2

theorem read_parts (h : isIdentifier a.name.toList = true) : read owner a.parts.text = pure (some a) := by
  have hflags : (a.flags.map Flag.text).foldl (read.step a.name) ⟨a.name, false, false⟩ = a := by
    rw [foldl_step a.writable_flags]
    obtain ⟨name, isKey, isDerived⟩ := a
    cases isKey <;> cases isDerived <;> rfl
  rw [read, readParts_text (writable_parts h)]
  simp only [parts, h, if_true, String.ofList_toList, hflags]

theorem readAll_parts (h : Declarable as) : readAll owner (as.map fun a => a.parts.text) = pure as := by
  apply readDistinct_map
  . intro a ha
    exact read_parts (h.names a ha)
  . exact h.distinct

end Attribute

namespace Participant

def bounds : Cardinality → List Char
  | .zeroOne => "0,1".toList
  | .oneOne => "1,1".toList
  | .zeroMany => "0,n".toList
  | .oneMany => "1,n".toList

def item (p : Participant) : List Char :=
  p.entity.toList ++ ' ' :: p.cardinality.render.toList

variable {p : Participant} {owner : String}

theorem toList_render (c : Cardinality) : c.render.toList = '(' :: (bounds c ++ [')']) := by
  cases c <;> decide

theorem isItem_item (h : isIdentifier p.entity.toList = true) : IsItem p.item := by
  have hrender : IsPhrase p.cardinality.render.toList := by cases p.cardinality <;> decide
  have hplain : ∀ c ∈ p.cardinality.render.toList, isPlain c = true := by cases p.cardinality <;> decide
  apply isItem_of_isPhrase ((isPhrase_of_isIdentifier h).join hrender)
  intro c hc
  rw [List.mem_append, List.mem_cons] at hc
  rcases hc with hc | rfl | hc
  . exact isPlain_of_isIdentifier h c hc
  . decide
  . exact hplain c hc

structure IsShaped (item entity bounds : List Char) : Prop where
  identifier : isIdentifier entity = true
  unbracketed : ∀ c ∈ bounds, c ≠ '(' ∧ c ≠ ')'
  text : ∃ gap, item = (entity ++ gap) ++ '(' :: (bounds ++ [')']) ∧ ∀ c ∈ gap, isBlank c = true

theorem parts?_of_isShaped {item entity bounds : List Char} (h : IsShaped item entity bounds) :
    parts? item = some (entity, bounds) := by
  obtain ⟨gap, rfl, hgap⟩ := h.text
  have hunbracketed : ∀ c ∈ entity ++ gap, decide (c = '(') = false := by
    intro c hc
    rw [List.mem_append] at hc
    rw [decide_eq_false_iff_not]
    cases hc with
    | inl hc => exact ne_of_isWordChar ((isIdentifier_iff.1 h.identifier).2 c hc) (by decide)
    | inr hc =>
      rintro rfl
      exact absurd (hgap '(' hc) (by decide)
  have hcut : cut (· = '(') ((entity ++ gap) ++ '(' :: (bounds ++ [')'])) = some (entity ++ gap, bounds ++ [')']) :=
    cut_append_cons hunbracketed rfl
  have htrim : trim (entity ++ gap) = entity := trim_append hgap (isPhrase_of_isIdentifier h.identifier).trimmed
  have hbounds : bounds.all (fun c => c != '(' && c != ')') = true := by simpa using h.unbracketed
  rw [parts?, hcut]
  simp only [dropLast?_append_singleton, htrim, h.identifier, hbounds, Bool.and_self, if_true]

theorem parts?_item (h : isIdentifier p.entity.toList = true) :
    parts? p.item = some (p.entity.toList, bounds p.cardinality) := by
  have hbounds : ∀ c ∈ bounds p.cardinality, c ≠ '(' ∧ c ≠ ')' := by cases p.cardinality <;> decide
  apply parts?_of_isShaped
  refine ⟨h, hbounds, [' '], ?_, by decide⟩
  simp [item, toList_render]

theorem cut_bounds (cardinality : Cardinality) :
    ∃ min max, cut (· = ',') (bounds cardinality) = some (min, max)
      ∧ Cardinality.ofBounds? min max = some cardinality := by
  cases cardinality <;> exact ⟨_, _, rfl, by decide⟩

theorem read_bounds (p : Participant) :
    Participant.read owner p.entity.toList (bounds p.cardinality) = pure (some p) := by
  obtain ⟨min, max, hcut, hbounds⟩ := cut_bounds p.cardinality
  rw [Participant.read, hcut]
  simp [hbounds]

theorem parts?_attribute {a : Attribute} (h : isIdentifier a.name.toList = true) : parts? a.parts.text = none := by
  have hcut : cut (· = '(') a.parts.text = none := by
    apply cut_eq_none
    intro c hc
    rw [decide_eq_false_iff_not]
    rintro rfl
    cases Attribute.mem_parts_text h '(' hc with
    | inl hword => exact absurd hword (by decide)
    | inr hmem => exact absurd hmem (by decide)
  rw [parts?, hcut]

end Participant

namespace Inheritance

def directive (word operand : String) : List Char :=
  word.toList ++ ' ' :: operand.toList

def isDirective (word : List Char) : Bool :=
  spells word "PARENT" || spells word "CHILDREN" || spells word "STRATEGY"

def childItem (child : String) : List Char :=
  if isDirective child.toList then directive "CHILDREN" child else child.toList

def childItems : List String → List (List Char)
  | [] => []
  | child :: children => directive "CHILDREN" child :: children.map childItem

def items (g : Inheritance) : List (List Char) :=
  directive "PARENT" g.parent :: childItems g.children
    ++ g.strategy.toList.map fun strategy => directive "STRATEGY" strategy.name

variable {word operand child owner : String} {children : List String} {draft : Draft}

theorem isItem_directive (hword : isIdentifier word.toList = true) (h : isIdentifier operand.toList = true) :
    IsItem (directive word operand) := by
  apply isItem_of_isPhrase ((isPhrase_of_isIdentifier hword).join (isPhrase_of_isIdentifier h))
  intro c hc
  rw [List.mem_append, List.mem_cons] at hc
  rcases hc with hc | rfl | hc
  . exact isPlain_of_isIdentifier hword c hc
  . decide
  . exact isPlain_of_isIdentifier h c hc

theorem isItem_childItem (h : isIdentifier child.toList = true) : IsItem (childItem child) := by
  unfold childItem
  split
  . exact isItem_directive (by decide) h
  . exact isItem_of_isIdentifier h

theorem isIdentifier_name (strategy : InheritanceStrategy) : isIdentifier strategy.name.toList = true := by
  cases strategy <;> decide

theorem isItem_items {g : Inheritance} (hparent : isIdentifier g.parent.toList = true)
    (hchildren : ∀ child ∈ g.children, isIdentifier child.toList = true) : ∀ item ∈ g.items, IsItem item := by
  have hchildItems : ∀ children : List String, (∀ child ∈ children, isIdentifier child.toList = true) →
      ∀ item ∈ childItems children, IsItem item := by
    intro children h
    cases children with
    | nil => simp [childItems]
    | cons child children =>
      rw [List.forall_mem_cons] at h
      rw [childItems, List.forall_mem_cons, List.forall_mem_map]
      exact ⟨isItem_directive (by decide) h.1, fun child hchild => isItem_childItem (h.2 child hchild)⟩
  intro item hitem
  rw [items, List.mem_append, List.mem_cons] at hitem
  rcases hitem with (rfl | hitem) | hitem
  . exact isItem_directive (by decide) hparent
  . exact hchildItems g.children hchildren item hitem
  . obtain ⟨strategy, -, rfl⟩ := List.mem_map.1 hitem
    exact isItem_directive (by decide) (isIdentifier_name strategy)

theorem cut_directive (hword : isIdentifier word.toList = true) :
    cut isBlank (directive word operand) = some (word.toList, operand.toList) :=
  cut_append_cons (isWord_of_isIdentifier hword).2 (by decide)

theorem trim_operand (h : isIdentifier operand.toList = true) : trim operand.toList = operand.toList :=
  trim_eq_self (isPhrase_of_isIdentifier h).trimmed

theorem readItem_parent (h : isIdentifier operand.toList = true) :
    readItem owner draft (directive "PARENT" operand)
      =
    pure { draft with parent := some operand, inChildren := false } := by
  have hparent : spells "PARENT".toList "PARENT" = true := by decide
  rw [readItem, cut_directive (by decide), Option.getD_some]
  dsimp only
  rw [hparent, if_pos rfl, trim_operand h, if_pos h, String.ofList_toList]

theorem readItem_children (h : isIdentifier operand.toList = true) :
    readItem owner draft (directive "CHILDREN" operand)
      =
    pure { draft with children := draft.children ++ [operand], inChildren := true } := by
  have hparent : spells "CHILDREN".toList "PARENT" = false := by decide
  have hchildren : spells "CHILDREN".toList "CHILDREN" = true := by decide
  rw [readItem, cut_directive (by decide), Option.getD_some]
  dsimp only
  rw [hparent, hchildren, if_neg Bool.false_ne_true, if_pos rfl, trim_operand h, if_pos h, String.ofList_toList]

theorem readItem_strategy {strategy : InheritanceStrategy} (h : isIdentifier operand.toList = true)
    (hname : InheritanceStrategy.ofName? operand = some strategy) :
    readItem owner draft (directive "STRATEGY" operand)
      =
    pure { draft with strategy := some strategy, inChildren := false } := by
  have hparent : spells "STRATEGY".toList "PARENT" = false := by decide
  have hchildren : spells "STRATEGY".toList "CHILDREN" = false := by decide
  have hstrategy : spells "STRATEGY".toList "STRATEGY" = true := by decide
  rw [readItem, cut_directive (by decide), Option.getD_some]
  dsimp only
  rw [hparent, hchildren, hstrategy, if_neg Bool.false_ne_true, if_neg Bool.false_ne_true, if_pos rfl, trim_operand h,
    String.ofList_toList, hname]

theorem ofName?_name (strategy : InheritanceStrategy) : InheritanceStrategy.ofName? strategy.name = some strategy := by
  cases strategy <;> decide +kernel

theorem readItem_childItem (h : isIdentifier child.toList = true) (hdraft : draft.inChildren = true) :
    readItem owner draft (childItem child) = pure { draft with children := draft.children ++ [child] } := by
  unfold childItem
  split
  . rw [readItem_children h, ← hdraft]
  . next hdirective =>
    have hcut : cut isBlank child.toList = none := cut_eq_none (isWord_of_isIdentifier h).2
    simp only [isDirective, Bool.or_eq_true, not_or, Bool.not_eq_true] at hdirective
    rw [readItem, hcut]
    simp only [Option.getD_none, hdirective, hdraft, h, Bool.false_eq_true, Bool.and_self, if_true, if_false,
      String.ofList_toList]

theorem foldlM_childItem (h : ∀ child ∈ children, isIdentifier child.toList = true) (hdraft : draft.inChildren = true) :
    (children.map childItem).foldlM (readItem owner) draft
      =
    pure { draft with children := draft.children ++ children } := by
  induction children generalizing draft with
  | nil => simp
  | cons child children ih =>
    rw [List.forall_mem_cons] at h
    have hothers := @ih { draft with children := draft.children ++ [child] } h.2 hdraft
    rw [List.map_cons, List.foldlM_cons, readItem_childItem h.1 hdraft, pure_bind, hothers]
    simp

theorem foldlM_childItems (h : ∀ child ∈ children, isIdentifier child.toList = true) (hne : children ≠ []) :
    (childItems children).foldlM (readItem owner) draft
      =
    pure { draft with children := draft.children ++ children, inChildren := true } := by
  cases children with
  | nil => contradiction
  | cons child children =>
    rw [List.forall_mem_cons] at h
    rw [childItems, List.foldlM_cons, readItem_children h.1, pure_bind, foldlM_childItem h.2 rfl]
    simp

theorem foldlM_items {g : Inheritance} (hparent : isIdentifier g.parent.toList = true)
    (hchildren : ∀ child ∈ g.children, isIdentifier child.toList = true) (hne : g.children ≠ []) :
    ∃ inChildren, g.items.foldlM (readItem owner) ⟨none, [], none, false⟩
      = pure ⟨some g.parent, g.children, g.strategy, inChildren⟩ := by
  rw [items, List.cons_append, List.foldlM_cons, readItem_parent hparent, pure_bind, List.foldlM_append,
    foldlM_childItems hchildren hne, pure_bind]
  cases hstrategy : g.strategy with
  | none => exact ⟨true, rfl⟩
  | some strategy =>
    refine ⟨false, ?_⟩
    rw [Option.toList_some, List.map_singleton, List.foldlM_cons,
      readItem_strategy (isIdentifier_name strategy) (ofName?_name strategy)]
    rfl

end Inheritance

end SchemaDesign
