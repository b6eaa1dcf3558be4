import SchemaDesign.Proofs.Conceptual.Declaration

/-!
This module contains what the items of an inheritance group say, and how much of it the group holds that is read off
them. All children are kept. Of several parents or strategies the group holds the last one, so what a block says is in
the group exactly if its directives do not contradict each other.
-/

namespace SchemaDesign

open Text Document

namespace Inheritance

inductive Entry where
  | parent (name : String)
  | children (first : Option String)
  | strategy (value : InheritanceStrategy)
  | child (name : String)
deriving DecidableEq, Repr

namespace Entry

def inChildren : Entry → Bool
  | parent _ | strategy _ => false
  | children _ | child _ => true

def parent? : Entry → Option String
  | parent name => some name
  | _ => none

def childNames : Entry → List String
  | children first => first.toList
  | child name => [name]
  | _ => []

def strategy? : Entry → Option InheritanceStrategy
  | strategy value => some value
  | _ => none

end Entry

def word (item : List Char) : List Char :=
  item.takeWhile (!isBlank ·)

def operand (item : List Char) : List Char :=
  trim (item.dropWhile (!isBlank ·))

/--
An item says something by a directive, whose word may be in any letter case, or by a name in a list of children.
-/
inductive Says (inChildren : Bool) (item : List Char) : Entry → Prop where
  | parent (hword : spells (word item) "PARENT" = true) (hname : isIdentifier (operand item) = true) :
    Says inChildren item (.parent (String.ofList (operand item)))
  | firstChild (hword : spells (word item) "CHILDREN" = true) (hname : isIdentifier (operand item) = true) :
    Says inChildren item (.children (some (String.ofList (operand item))))
  | children (hword : spells (word item) "CHILDREN" = true) (hnone : operand item = []) :
    Says inChildren item (.children none)
  | strategy {value : InheritanceStrategy} (hword : spells (word item) "STRATEGY" = true)
    (hname : InheritanceStrategy.ofName? (String.ofList (operand item)) = some value) :
    Says inChildren item (.strategy value)
  | child (hlist : inChildren = true) (hplain : isDirective (word item) = false) (hname : isIdentifier item = true) :
    Says inChildren item (.child (String.ofList item))

inductive Listed : Bool → List (List Char) → List Entry → Prop where
  | nil {inChildren : Bool} : Listed inChildren [] []
  | cons {inChildren : Bool} {item : List Char} {items : List (List Char)} {e : Entry} {es : List Entry}
    (head : Says inChildren item e) (tail : Listed e.inChildren items es) : Listed inChildren (item :: items) (e :: es)

structure Tells (g : Inheritance) (es : List Entry) : Prop where
  parent : ∀ name ∈ es.filterMap Entry.parent?, g.parent = name
  children : g.children = es.flatMap Entry.childNames
  strategy : ∀ value ∈ es.filterMap Entry.strategy?, g.strategy = some value

structure Agreeing (es : List Entry) : Prop where
  parents : ∀ name ∈ es.filterMap Entry.parent?, ∀ other ∈ es.filterMap Entry.parent?, name = other
  strategies : ∀ value ∈ es.filterMap Entry.strategy?, ∀ other ∈ es.filterMap Entry.strategy?, value = other

def Draft.add (draft : Draft) (e : Entry) : Draft where
  parent := e.parent?.or draft.parent
  children := draft.children ++ e.childNames
  strategy := e.strategy?.or draft.strategy
  inChildren := e.inChildren

section Item

variable {cs item : List Char} {keyword other owner : String} {draft : Draft} {e : Entry}

theorem cut_item (item : List Char) :
    (cut isBlank item).getD (item, []) = (word item, (item.dropWhile (!isBlank ·)).tail) :=
  getD_cut item

theorem trim_behind_word (item : List Char) : trim (item.dropWhile (!isBlank ·)).tail = operand item :=
  trim_tail_dropWhile item

theorem spells_eq_false (h : spells cs keyword = true) (hne : keyword ≠ other) : spells cs other = false := by
  rw [spells_eq h, decide_eq_false hne]

theorem readItem_of_entry (h : Says draft.inChildren item e) : readItem owner draft item = pure (draft.add e) := by
  unfold readItem
  rw [cut_item]
  dsimp only
  rw [trim_behind_word]
  cases h with
  | parent hword hname =>
    rw [if_pos hword, if_pos hname]
    simp [Draft.add, Entry.parent?, Entry.childNames, Entry.strategy?, Entry.inChildren]
  | firstChild hword hname =>
    have hparent : spells (word item) "PARENT" = false := spells_eq_false hword (by decide)
    rw [hparent, if_neg Bool.false_ne_true, if_pos hword, if_pos hname]
    simp [Draft.add, Entry.parent?, Entry.childNames, Entry.strategy?, Entry.inChildren]
  | children hword hnone =>
    have hparent : spells (word item) "PARENT" = false := spells_eq_false hword (by decide)
    rw [hparent, if_neg Bool.false_ne_true, if_pos hword, hnone]
    simp [isIdentifier, Draft.add, Entry.parent?, Entry.childNames, Entry.strategy?, Entry.inChildren]
  | strategy hword hname =>
    have hparent : spells (word item) "PARENT" = false := spells_eq_false hword (by decide)
    have hchildren : spells (word item) "CHILDREN" = false := spells_eq_false hword (by decide)
    rw [hparent, hchildren, if_neg Bool.false_ne_true, if_neg Bool.false_ne_true, if_pos hword, hname]
    simp [Draft.add, Entry.parent?, Entry.childNames, Entry.strategy?, Entry.inChildren]
  | child hlist hplain hname =>
    simp only [isDirective, Bool.or_eq_false_iff] at hplain
    obtain ⟨⟨hparent, hchildren⟩, hstrategy⟩ := hplain
    rw [hparent, hchildren, hstrategy, hlist, hname]
    simp [Draft.add, Entry.parent?, Entry.childNames, Entry.strategy?, Entry.inChildren]

theorem exists_entry (h : (readItem owner draft item).Clean) : ∃ e, Says draft.inChildren item e := by
  unfold readItem at h
  rw [cut_item] at h
  dsimp only at h
  rw [trim_behind_word] at h
  split at h
  . next hparent =>
    split at h
    . next hname => exact ⟨_, .parent hparent hname⟩
    . exact absurd h (Outcome.not_clean_reportIn rfl)
  . next hparent =>
    split at h
    . next hchildren =>
      split at h
      . next hname => exact ⟨_, .firstChild hchildren hname⟩
      . split at h
        . next hnone => exact ⟨_, .children hchildren (List.isEmpty_iff.1 hnone)⟩
        . exact absurd h (Outcome.not_clean_reportIn rfl)
    . next hchildren =>
      split at h
      . next hstrategy =>
        split at h
        . next value hname => exact ⟨_, .strategy hstrategy hname⟩
        . exact absurd h (Outcome.not_clean_reportIn rfl)
      . next hstrategy =>
        split at h
        . next hchild =>
          rw [Bool.and_eq_true] at hchild
          have hplain : isDirective (word item) = false := by simp [isDirective, hparent, hchildren, hstrategy]
          exact ⟨_, .child hchild.1 hplain hchild.2⟩
        . exact absurd h (Outcome.not_clean_reportIn rfl)

end Item

section Items

variable {items : List (List Char)} {es : List Entry} {draft : Draft} {owner : String} {b : Block} {g : Inheritance}

theorem foldlM_of_listed (h : Listed draft.inChildren items es) :
    items.foldlM (readItem owner) draft = pure (es.foldl Draft.add draft) := by
  induction items generalizing draft es with
  | nil =>
    cases h
    rfl
  | cons item items ih =>
    cases h with
    | cons head tail => rw [List.foldlM_cons, readItem_of_entry head, pure_bind, ih tail, List.foldl_cons]

theorem exists_listed (h : (items.foldlM (readItem owner) draft).Clean) : ∃ es, Listed draft.inChildren items es := by
  induction items generalizing draft with
  | nil => exact ⟨[], .nil⟩
  | cons item items ih =>
    rw [Outcome.Clean, Outcome.reports_foldlM_cons] at h
    obtain ⟨e, he⟩ := exists_entry h.1
    have hrest := h.2
    rw [readItem_of_entry he] at hrest
    obtain ⟨es, hes⟩ := ih hrest
    exact ⟨e :: es, .cons he hes⟩

theorem foldl_add (es : List Entry) (draft : Draft) :
    (es.foldl Draft.add draft).parent = (es.filterMap Entry.parent?).getLast?.or draft.parent
      ∧ (es.foldl Draft.add draft).children = draft.children ++ es.flatMap Entry.childNames
      ∧ (es.foldl Draft.add draft).strategy = (es.filterMap Entry.strategy?).getLast?.or draft.strategy := by
  induction es generalizing draft with
  | nil => simp
  | cons e es ih =>
    obtain ⟨hparent, hchildren, hstrategy⟩ := ih (draft.add e)
    rw [List.foldl_cons, hparent, hchildren, hstrategy, getLast?_filterMap_cons, getLast?_filterMap_cons,
      List.flatMap_cons, ← List.append_assoc]
    exact ⟨rfl, rfl, rfl⟩

theorem read_of_listed (h : Listed false b.items es) :
    ((read b).value = some g ∧ (read b).hasErrors = false)
      ↔
    g.name = b.name ∧ g.children ≠ [] ∧ (es.filterMap Entry.parent?).getLast? = some g.parent
      ∧ g.children = es.flatMap Entry.childNames ∧ (es.filterMap Entry.strategy?).getLast? = g.strategy := by
  obtain ⟨hparent, hchildren, hstrategy⟩ := foldl_add es ⟨none, [], none, false⟩
  simp only [Option.or_none, List.nil_append] at hparent hchildren hstrategy
  rw [read, foldlM_of_listed h, pure_bind, ← hparent, ← hchildren, ← hstrategy, Outcome.hasErrors_eq_false_iff]
  generalize es.foldl Draft.add ⟨none, [], none, false⟩ = draft
  obtain ⟨parent, children, strategy, inChildren⟩ := draft
  cases parent with
  | none => simp [Issue.severity]
  | some parent =>
    cases children with
    | nil =>
      simp only [List.isEmpty_nil]
      simp +contextual [Issue.severity]
    | cons child children =>
      simp only [List.isEmpty_cons]
      constructor
      . intro hread
        have hgroup := hread.1
        simp only [Outcome.value_bind, Bool.false_eq_true, if_false, Outcome.value_pure, Option.some_inj] at hgroup
        rw [← hgroup]
        simp
      . rintro ⟨hname, -, hparent, hchildren, hstrategy⟩
        obtain ⟨name, parent', children', strategy'⟩ := g
        simp only [Option.some_inj] at hname hparent hchildren hstrategy
        rw [hname, ← hparent, hchildren, ← hstrategy]
        simp

theorem forall_getLast?_iff {α : Type} {xs : List α} :
    (∀ x ∈ xs, xs.getLast? = some x) ↔ ∀ x ∈ xs, ∀ y ∈ xs, x = y := by
  constructor
  . intro h x hx y hy
    exact Option.some_inj.1 ((h x hx).symm.trans (h y hy))
  . intro h x hx
    cases hlast : xs.getLast? with
    | none =>
      rw [List.getLast?_eq_none_iff] at hlast
      simp [hlast] at hx
    | some y => rw [h x hx y (List.mem_of_getLast? hlast)]

theorem tells_iff_agreeing (hparent : (es.filterMap Entry.parent?).getLast? = some g.parent)
    (hchildren : g.children = es.flatMap Entry.childNames)
    (hstrategy : (es.filterMap Entry.strategy?).getLast? = g.strategy) : g.Tells es ↔ Agreeing es := by
  have hparents : (∀ name ∈ es.filterMap Entry.parent?, g.parent = name)
      ↔ ∀ name ∈ es.filterMap Entry.parent?, ∀ other ∈ es.filterMap Entry.parent?, name = other := by
    rw [← forall_getLast?_iff, hparent]
    simp only [Option.some_inj]
  have hstrategies : (∀ value ∈ es.filterMap Entry.strategy?, g.strategy = some value)
      ↔ ∀ value ∈ es.filterMap Entry.strategy?, ∀ other ∈ es.filterMap Entry.strategy?, value = other := by
    rw [← forall_getLast?_iff, hstrategy]
  constructor
  . intro h
    exact ⟨hparents.1 h.parent, hstrategies.1 h.strategy⟩
  . intro h
    exact ⟨hparents.2 h.parents, hchildren, hstrategies.2 h.strategies⟩

theorem tells_read_iff (b : Block) (g : Inheritance) :
    ((read b).value = some g ∧ (read b).hasErrors = false)
      ↔
    g.name = b.name ∧ g.children ≠ [] ∧
      ∃ es, Listed false b.items es ∧ (es.filterMap Entry.parent?).getLast? = some g.parent
        ∧ g.children = es.flatMap Entry.childNames ∧ (es.filterMap Entry.strategy?).getLast? = g.strategy
        ∧ (g.Tells es ↔ Agreeing es) := by
  constructor
  . rintro ⟨hvalue, hclean⟩
    have hitems := Outcome.hasErrors_eq_false_iff.1 hclean
    rw [read, Outcome.reports_bind] at hitems
    obtain ⟨es, hes⟩ := exists_listed hitems.1
    obtain ⟨hname, hnonempty, hparent, hchildren, hstrategy⟩ := (read_of_listed hes).1 ⟨hvalue, hclean⟩
    exact ⟨hname, hnonempty, es, hes, hparent, hchildren, hstrategy, tells_iff_agreeing hparent hchildren hstrategy⟩
  . rintro ⟨hname, hnonempty, es, hes, hparent, hchildren, hstrategy, -⟩
    exact (read_of_listed hes).2 ⟨hname, hnonempty, hparent, hchildren, hstrategy⟩

theorem secondParent_replaces_first :
    let b : Block := ⟨"INHERITANCE", "g", "", "PARENT A, PARENT B, CHILDREN C"⟩
    let g : Inheritance := ⟨"g", "B", ["C"], none⟩
    let es : List Entry := [.parent "A", .parent "B", .children (some "C")]
    read b = ⟨some g, []⟩ ∧ Listed false b.items es ∧ ¬g.Tells es := by
  intro b g es
  refine ⟨by decide +kernel, ?_, ?_⟩
  . have hitems : b.items = ["PARENT A".toList, "PARENT B".toList, "CHILDREN C".toList] := by decide +kernel
    rw [hitems]
    have hfirst : Says false "PARENT A".toList (.parent "A") := .parent (by decide) (by decide)
    have hsecond : Says false "PARENT B".toList (.parent "B") := .parent (by decide) (by decide)
    have hchild : Says false "CHILDREN C".toList (.children (some "C")) := .firstChild (by decide) (by decide)
    exact .cons hfirst (.cons hsecond (.cons hchild .nil))
  . intro htells
    exact absurd (htells.parent "A" (by decide)) (by decide)

end Items

end Inheritance

end SchemaDesign
