import Mathlib.Data.List.Forall2
import SchemaDesign.Proofs.Document.Declaration
import SchemaDesign.Proofs.Document.OneLine

namespace SchemaDesign.Document

open Text

section BeginsWith

variable {cs head after item : List Char}

structure BeginsWith (item : List Char) (name : String) : Prop where
  identifier : isIdentifier name.toList = true
  leading : item.takeWhile isWordChar = name.toList

theorem beginsWith_append (h : isIdentifier head = true) (hafter : ∀ c ∈ after.head?, isWordChar c = false) :
    BeginsWith (head ++ after) (String.ofList head) := by
  constructor
  . rwa [String.toList_ofList]
  . rw [takeWhile_append_of_head? head hafter, List.takeWhile_eq_self_iff.2 (isIdentifier_iff.1 h).2,
      String.toList_ofList]

theorem isWordChar_of_isBlank {c : Char} (h : isBlank c = true) : isWordChar c = false := by
  rw [isBlank, List.contains_iff_mem] at h
  exact isWordChar_of_mem_blanks c h

theorem exists_trim_append (h : ∀ c ∈ (cs ++ after).head?, isBlank c = false) :
    ∃ gap, cs ++ after = trim cs ++ (gap ++ after) ∧ ∀ c ∈ gap, isBlank c = true := by
  obtain ⟨front, gap, hcs, hfront, hgap⟩ := exists_trim cs
  refine ⟨gap, ?_, hgap⟩
  cases front with
  | nil =>
    rw [List.nil_append] at hcs
    rw [← List.append_assoc, ← hcs]
  | cons c front =>
    have hblank := hfront c List.mem_cons_self
    rw [hcs] at h
    rw [h c rfl] at hblank
    contradiction

theorem head?_splitHead (depth : Nat) (cs : List Char) : ∀ c ∈ (splitHead depth cs).2.head?, c = '[' := by
  induction cs generalizing depth with
  | nil => simp [splitHead]
  | cons c cs ih =>
    rw [splitHead]
    split
    . next hbracket =>
      simp only [Bool.and_eq_true, decide_eq_true_eq] at hbracket
      simp [hbracket.1]
    . exact ih _

theorem exists_behind_head {parts : Parts} (hfirst : ∀ c ∈ item.head?, isBlank c = false)
    (h : readParts item = some parts) :
    ∃ behind, item = parts.head ++ behind ∧ ∀ c ∈ behind.head?, isWordChar c = false := by
  obtain ⟨flags, -, rfl⟩ := Option.map_eq_some_iff.1 h
  rw [← splitHead_append 0 item] at hfirst
  obtain ⟨gap, hitem, hgap⟩ := exists_trim_append hfirst
  refine ⟨gap ++ (splitHead 0 item).2, ?_, ?_⟩
  . rw [← hitem, splitHead_append]
  . intro c hc
    cases gap with
    | nil =>
      rw [head?_splitHead 0 item c hc]
      decide
    | cons d gap =>
      cases hc
      exact isWordChar_of_isBlank (hgap c List.mem_cons_self)

theorem exists_behind_word {parts : Parts} (hfirst : ∀ c ∈ item.head?, isBlank c = false)
    (h : readParts item = some parts) :
    ∃ behind, item = parts.head.takeWhile (!isBlank ·) ++ behind ∧ ∀ c ∈ behind.head?, isWordChar c = false := by
  obtain ⟨behind, hitem, hbehind⟩ := exists_behind_head hfirst h
  refine ⟨parts.head.dropWhile (!isBlank ·) ++ behind, ?_, ?_⟩
  . rw [hitem, ← List.append_assoc, List.takeWhile_append_dropWhile]
  . have hblank := eq_false_of_mem_head?_dropWhile (p := (!isBlank ·)) parts.head
    intro c hc
    cases hrest : parts.head.dropWhile (!isBlank ·) with
    | nil =>
      rw [hrest] at hc
      exact hbehind c hc
    | cons d rest =>
      rw [hrest] at hc hblank
      cases hc
      exact isWordChar_of_isBlank (by simpa using hblank)

theorem trimmed_of_mem_items {body : List Char} (h : item ∈ items body) : Trimmed item := by
  obtain ⟨line, _, hitem⟩ := List.mem_flatMap.1 h
  unfold lineItems at hitem
  split at hitem
  . contradiction
  . obtain ⟨piece, _, rfl⟩ := List.mem_map.1 (List.mem_filter.1 hitem).1
    exact trimmed_trim piece

end BeginsWith

section Complete

variable {α : Type}

structure Block.Lists (b : Block) (name : String) (names : List String) : Prop where
  name : name = b.name
  items : List.Forall₂ BeginsWith b.items names

theorem forall₂_readDistinct {name : α → String} {read : List Char → Outcome (Option α)} {owner : String}
    {items : List (List Char)} {R : List Char → α → Prop} (h : (readDistinct name read owner items).Clean)
    (hread : ∀ item ∈ items, (read item).Clean → ∃ d, (read item).value = some d ∧ R item d) :
    List.Forall₂ R items (readDistinct name read owner items).value := by
  apply Outcome.foldlM_induction (List.Forall₂ R) h List.Forall₂.nil
  intro front item back declared hsplit hdeclared hstep
  simp only [readDistinct.step, Outcome.reports_bind] at hstep ⊢
  obtain ⟨d, hd, hitem⟩ := hread item (by simp [hsplit]) hstep.1
  have hrest := hstep.2
  simp only [Outcome.value_bind, hd] at hrest ⊢
  split
  . next htaken =>
    rw [if_pos htaken] at hrest
    exact absurd hrest (Outcome.not_clean_reportIn rfl)
  . exact List.rel_append hdeclared (.cons hitem .nil)

theorem lists_readDistinct {name : α → String} {read : List Char → Outcome (Option α)} {owner : String} {b : Block}
    (h : (readDistinct name read owner b.items).Clean)
    (hread : ∀ item, (∀ c ∈ item.head?, isBlank c = false) → (read item).Clean →
      ∃ d, (read item).value = some d ∧ BeginsWith item (name d)) :
    b.Lists b.name ((readDistinct name read owner b.items).value.map name) := by
  refine ⟨rfl, ?_⟩
  rw [List.forall₂_map_right_iff]
  apply forall₂_readDistinct h
  intro item hitem
  exact hread item (trimmed_of_mem_items hitem).first

section Tables

variable {read : Block → Outcome α} {text : String}

theorem step_complete {b : Block} (h : (readTables.step read b).Clean) :
    b.hasKeyword "TABLE" = true ∧ (readTables.step read b).value = some (read b).value ∧ (read b).Clean := by
  unfold readTables.step at h ⊢
  split at h
  . next hkeyword =>
    rw [Outcome.Clean, Outcome.reports_bind, Outcome.reports_bind] at h
    rw [if_pos hkeyword]
    exact ⟨hkeyword, rfl, h.2.1⟩
  . exact absurd h (Outcome.not_clean_reportIn rfl)

theorem step_clean (h : (readTables read text).Clean) : ∀ b ∈ (blocks text).value, (readTables.step read b).Clean := by
  rw [readTables, Outcome.Clean, Outcome.reports_bind, Outcome.reports_collect] at h
  exact h.2

theorem hasKeyword_of_readTables (h : (readTables read text).Clean) :
    ∀ b ∈ (blocks text).value, b.hasKeyword "TABLE" = true :=
  fun b hb => (step_complete (step_clean h b hb)).1

theorem forall₂_readTables {R : Block → α → Prop} (h : (readTables read text).Clean)
    (hread : ∀ b, (read b).Clean → R b (read b).value) :
    List.Forall₂ R (blocks text).value (readTables read text).value := by
  have hvalue : (readTables read text).value = (blocks text).value.map fun b => (read b).value := by
    rw [readTables, Outcome.value_bind, Outcome.value_collect, ← List.filterMap_eq_map]
    apply List.filterMap_congr
    intro b hb
    exact (step_complete (step_clean h b hb)).2.1
  rw [hvalue, List.forall₂_map_right_iff, List.forall₂_same]
  intro b hb
  exact hread b (step_complete (step_clean h b hb)).2.2

end Tables

end Complete

end SchemaDesign.Document
