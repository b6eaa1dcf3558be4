import SchemaDesign.Proofs.Document.Layout

namespace SchemaDesign.Document

open Text

/--
Whether each bracket of a text, round or square, has its partner, and each comma stands in brackets, with `depth`
brackets open before it.
-/
def nested (depth : Nat) : List Char → Bool
  | [] => depth = 0
  | c :: cs =>
    if c = '(' || c = '[' then nested (depth + 1) cs
    else if c = ')' || c = ']' then depth ≠ 0 && nested (depth - 1) cs
    else !(c = ',' && depth = 0) && nested depth cs

structure IsFlag (cs : List Char) : Prop where
  nonempty : cs ≠ []
  trimmed : Trimmed cs
  nested : nested 0 cs = true

instance (cs : List Char) : Decidable (IsFlag cs) :=
  decidable_of_iff (cs ≠ [] ∧ Trimmed cs ∧ nested 0 cs = true) ⟨fun h => ⟨h.1, h.2.1, h.2.2⟩, fun h => ⟨h.1, h.2, h.3⟩⟩

structure FlagGroup where
  gap : List Char
  first : Stretch
  others : List Stretch

namespace FlagGroup

def text (g : FlagGroup) : List Char :=
  g.gap ++ '[' :: (g.first.text ++ (g.others.flatMap (fun s => ',' :: s.text) ++ [']']))

def flags (g : FlagGroup) : List (List Char) :=
  (g.first :: g.others).filterMap Stretch.item

structure Writable (g : FlagGroup) : Prop where
  gap : ∀ c ∈ g.gap, isBlank c = true
  flags : ∀ flag ∈ g.flags, IsFlag flag

instance (g : FlagGroup) : Decidable g.Writable :=
  decidable_of_iff ((∀ c ∈ g.gap, isBlank c = true) ∧ ∀ flag ∈ g.flags, IsFlag flag)
    ⟨fun h => ⟨h.1, h.2⟩, fun h => ⟨h.1, h.2⟩⟩

end FlagGroup

section Nested

variable {depth : Nat} {cs front back flag rest : List Char}

theorem nested_of_blank (h : ∀ c ∈ cs, isBlank c = true) : nested 0 cs = true := by
  induction cs with
  | nil => rfl
  | cons c cs ih =>
    rw [List.forall_mem_cons] at h
    have hc := notMem_delimiters_of_isBlank h.1
    simp only [List.mem_cons, List.not_mem_nil, or_false, not_or] at hc
    simp [nested, hc, ih h.2]

theorem nested_append (hfront : nested depth front = true) : nested depth (front ++ back) = nested 0 back := by
  induction front generalizing depth with
  | nil =>
    rw [nested, decide_eq_true_eq] at hfront
    rw [hfront, List.nil_append]
  | cons c front ih =>
    rw [nested] at hfront
    rw [List.cons_append, nested]
    split at hfront
    . next hopen => rw [if_pos hopen, ih hfront]
    . next hopen =>
      rw [if_neg hopen]
      split at hfront
      . next hclose =>
        rw [Bool.and_eq_true] at hfront
        rw [if_pos hclose, ih hfront.2, hfront.1, Bool.true_and]
      . next hclose =>
        rw [Bool.and_eq_true] at hfront
        rw [if_neg hclose, ih hfront.2, hfront.1, Bool.true_and]

theorem readGroups_nested (h : nested depth cs = true) :
    readGroups.go (depth + 1) flag (cs ++ rest) = readGroups.go 1 (flag ++ cs) rest := by
  induction cs generalizing depth flag with
  | nil =>
    rw [nested, decide_eq_true_eq] at h
    rw [h, List.nil_append, List.append_nil]
  | cons c cs ih =>
    have hrest : ∀ depth, nested depth cs = true →
        readGroups.go (depth + 1) (flag ++ [c]) (cs ++ rest) = readGroups.go 1 (flag ++ c :: cs) rest := by
      intro depth hcs
      rw [ih hcs, List.append_assoc, List.singleton_append]
    rw [nested] at h
    rw [List.cons_append, readGroups.go]
    split at h
    . next hopen =>
      rw [if_pos (by simpa [or_comm] using hopen)]
      exact hrest (depth + 1) h
    . next hopen =>
      rw [if_neg (by simpa [or_comm, and_comm] using hopen)]
      split at h
      . next hclose =>
        rw [Bool.and_eq_true, decide_eq_true_eq] at h
        rw [if_pos (by simpa [or_comm] using hclose), if_neg h.1, ← Nat.sub_one_add_one h.1]
        exact hrest (depth - 1) h.2
      . next hclose =>
        rw [Bool.and_eq_true, Bool.not_eq_true'] at h
        rw [if_neg (by simpa [or_comm, and_comm] using hclose), h.1, if_neg Bool.false_ne_true]
        exact hrest depth h.2

end Nested

section Group

variable {s : Stretch} {g : FlagGroup} {gs : List FlagGroup} {ss : List Stretch} {rest : List Char}

theorem nested_text (h : ∀ flag ∈ s.item, IsFlag flag) : nested 0 s.text = true := by
  have hbefore : nested 0 s.before = true := nested_of_blank fun c hc => (s.blank c (List.mem_append_left _ hc)).1
  have hafter : nested 0 s.after = true := nested_of_blank fun c hc => (s.blank c (List.mem_append_right _ hc)).1
  rw [Stretch.text, nested_append hbefore]
  cases hitem : s.item with
  | none => exact hafter
  | some flag =>
    have hflag := h flag hitem
    rw [Option.getD_some, nested_append hflag.nested]
    exact hafter

theorem completeFlag_text (h : ∀ flag ∈ s.item, IsFlag flag) : completeFlag s.text = s.item.toList := by
  have hbefore : ∀ c ∈ s.before, isBlank c = true := fun c hc => (s.blank c (List.mem_append_left _ hc)).1
  have hafter : ∀ c ∈ s.after, isBlank c = true := fun c hc => (s.blank c (List.mem_append_right _ hc)).1
  rw [completeFlag, Stretch.text]
  cases hitem : s.item with
  | none =>
    have hnil : trim (s.before ++ s.after) = [] := by
      rw [trim_append_left hbefore, trim_eq_nil_iff]
      exact hafter
    simp [hnil]
  | some flag =>
    have hflag := h flag hitem
    rw [Option.getD_some, trim_append_append hbefore hafter hflag.trimmed]
    simp [hflag.nonempty]

theorem filterMap_item_cons (s : Stretch) (ss : List Stretch) :
    (s :: ss).filterMap Stretch.item = s.item.toList ++ ss.filterMap Stretch.item := by
  rw [List.filterMap_cons]
  cases s.item with
  | none => rfl
  | some flag => rfl

theorem readGroups_stretches (h : ∀ s' ∈ s :: ss, ∀ flag ∈ s'.item, IsFlag flag) :
    readGroups.go 1 [] (s.text ++ (ss.flatMap (fun s => ',' :: s.text) ++ ']' :: rest))
      =
    (readGroups rest).map ((s :: ss).filterMap Stretch.item ++ ·) := by
  induction ss generalizing s with
  | nil =>
    rw [List.forall_mem_singleton] at h
    rw [readGroups_nested (nested_text h), List.flatMap_nil, List.nil_append, List.nil_append, filterMap_item_cons,
      ← completeFlag_text h]
    simp [readGroups.go, readGroups]
  | cons s' ss ih =>
    rw [List.forall_mem_cons] at h
    have hrest := ih h.2
    have hnext : readGroups.go 1 s.text (',' :: (s'.text ++ (ss.flatMap (fun s => ',' :: s.text) ++ ']' :: rest)))
        = (readGroups.go 1 [] (s'.text ++ (ss.flatMap (fun s => ',' :: s.text) ++ ']' :: rest))).map
            (completeFlag s.text ++ ·) := by
      simp [readGroups.go]
    rw [readGroups_nested (nested_text h.1), List.flatMap_cons, List.nil_append, List.append_assoc, List.cons_append,
      hnext, hrest, completeFlag_text h.1, filterMap_item_cons s, Option.map_map]
    simp only [Function.comp_def, List.append_assoc]

theorem readGroups_gap {gap : List Char} (h : ∀ c ∈ gap, isBlank c = true) :
    readGroups (gap ++ rest) = readGroups rest := by
  induction gap with
  | nil => rfl
  | cons c gap ih =>
    rw [List.forall_mem_cons] at h
    have hc := notMem_delimiters_of_isBlank h.1
    simp only [List.mem_cons, List.not_mem_nil, or_false, not_or] at hc
    rw [List.cons_append, readGroups, readGroups.go, if_neg hc.2.2.1, if_pos h.1]
    exact ih h.2

theorem FlagGroup.Writable.item (h : g.Writable) : ∀ s ∈ g.first :: g.others, ∀ flag ∈ s.item, IsFlag flag := by
  intro s hs flag hflag
  exact h.flags flag (List.mem_filterMap.2 ⟨s, hs, hflag⟩)

theorem readGroups_text (h : g.Writable) : readGroups (g.text ++ rest) = (readGroups rest).map (g.flags ++ ·) := by
  rw [FlagGroup.text, List.append_assoc, readGroups_gap h.gap, FlagGroup.flags, ← readGroups_stretches h.item]
  simp [readGroups, readGroups.go]

theorem readGroups_texts (h : ∀ g ∈ gs, g.Writable) :
    readGroups (gs.flatMap FlagGroup.text) = some (gs.flatMap FlagGroup.flags) := by
  induction gs with
  | nil => rfl
  | cons g gs ih =>
    rw [List.forall_mem_cons] at h
    rw [List.flatMap_cons, readGroups_text h.1, ih h.2, Option.map_some, List.flatMap_cons]

theorem splitHead_texts (h : ∀ g ∈ gs, g.Writable) :
    ∃ gap rest, splitHead 0 (gs.flatMap FlagGroup.text) = (gap, rest) ∧ (∀ c ∈ gap, isBlank c = true) ∧
      readGroups rest = some (gs.flatMap FlagGroup.flags) := by
  cases gs with
  | nil => exact ⟨[], [], rfl, by simp, rfl⟩
  | cons g gs =>
    have hread := readGroups_texts h
    rw [List.forall_mem_cons] at h
    rw [List.flatMap_cons, FlagGroup.text, List.append_assoc, List.cons_append] at hread ⊢
    rw [readGroups_gap h.1.gap] at hread
    refine ⟨g.gap, _, ?_, h.1.gap, hread⟩
    have hmatched : Matched 0 g.gap := by
      apply matched_of_plain
      intro c hc
      have hplain := notMem_delimiters_of_isBlank (h.1.gap c hc)
      simp only [List.mem_cons, List.not_mem_nil, or_false, not_or] at hplain ⊢
      simp [hplain]
    rw [hmatched.splitHead_append]
    simp [splitHead]

theorem readParts_texts {head : List Char} (hhead : Trimmed head) (hmatched : Matched 0 head)
    (h : ∀ g ∈ gs, g.Writable) :
    readParts (head ++ gs.flatMap FlagGroup.text) = some ⟨head, gs.flatMap FlagGroup.flags⟩ := by
  obtain ⟨gap, rest, hsplit, hgap, hrest⟩ := splitHead_texts h
  rw [readParts, hmatched.splitHead_append, hsplit]
  simp only [hrest, trim_append hgap hhead]
  rfl

end Group

end SchemaDesign.Document
