import SchemaDesign.Document.Item
import SchemaDesign.Proofs.Document.Comment
import SchemaDesign.Proofs.Text.Identifier

/-!
This module contains the written form of items, and that the readers of items give back what was written: the
cutting of a body into items and of an item into its head and its flags each follow the brackets in their own
way, and all of them pass over text in which the parentheses match.
-/

namespace SchemaDesign.Document

open Text

def balanced (depth : Nat) : List Char → Bool
  | [] => depth = 0
  | c :: cs =>
    if c = '(' then balanced (depth + 1) cs
    else if c = ')' then depth ≠ 0 && balanced (depth - 1) cs
    else balanced depth cs

def enclosesCommas (depth : Nat) : List Char → Bool
  | [] => true
  | c :: cs =>
    if c = '(' then enclosesCommas (depth + 1) cs
    else if c = ')' then enclosesCommas (depth - 1) cs
    else !(c = ',' && depth = 0) && enclosesCommas depth cs

def framing : List Char :=
  ['\n', '[', ']', '\x7b', '\x7d']

structure IsExpression (cs : List Char) : Prop where
  nonempty : cs ≠ []
  trimmed : Trimmed cs
  unframed : ∀ c ∈ cs, c ∉ framing
  balanced : balanced 0 cs = true

structure IsPhrase (cs : List Char) : Prop extends IsExpression cs where
  commas : enclosesCommas 0 cs = true

instance (cs : List Char) : Decidable (IsExpression cs) :=
  decidable_of_iff (cs ≠ [] ∧ Trimmed cs ∧ (∀ c ∈ cs, c ∉ framing) ∧ balanced 0 cs = true)
    ⟨fun h => ⟨h.1, h.2.1, h.2.2.1, h.2.2.2⟩, fun h => ⟨h.1, h.2, h.3, h.4⟩⟩

instance (cs : List Char) : Decidable (IsPhrase cs) :=
  decidable_of_iff (IsExpression cs ∧ enclosesCommas 0 cs = true) ⟨fun h => ⟨h.1, h.2⟩, fun h => ⟨h.1, h.2⟩⟩

inductive Matched : Nat → List Char → Prop where
  | nil : Matched 0 []
  | opening {depth : Nat} {cs : List Char} (h : Matched (depth + 1) cs) : Matched depth ('(' :: cs)
  | closing {depth : Nat} {cs : List Char} (h : Matched depth cs) : Matched (depth + 1) (')' :: cs)
  | other {depth : Nat} {c : Char} {cs : List Char} (hc : c ∉ ['(', ')', '[', ']']) (h : Matched depth cs) :
    Matched depth (c :: cs)

section Scan

variable {depth : Nat} {cs flag : List Char}

theorem matched_of_balanced (hunbracketed : ∀ c ∈ cs, c ∉ ['[', ']']) (h : balanced depth cs = true) :
    Matched depth cs := by
  induction cs generalizing depth with
  | nil =>
    simp only [balanced, decide_eq_true_eq] at h
    rw [h]
    exact .nil
  | cons c cs ih =>
    rw [List.forall_mem_cons] at hunbracketed
    unfold balanced at h
    split at h
    . next hopen =>
      rw [hopen]
      exact .opening (ih hunbracketed.2 h)
    . next hopen =>
      split at h
      . next hclose =>
        rw [Bool.and_eq_true, decide_eq_true_eq] at h
        rw [hclose, ← Nat.sub_one_add_one h.1]
        exact .closing (ih hunbracketed.2 h.2)
      . next hclose =>
        have hc := hunbracketed.1
        simp only [List.mem_cons, List.not_mem_nil, or_false, not_or] at hc
        apply Matched.other
        . simp [hopen, hclose, hc]
        . exact ih hunbracketed.2 h

theorem matched_of_plain (h : ∀ c ∈ cs, c ∉ ['(', ')', '[', ']']) : Matched 0 cs := by
  induction cs with
  | nil => exact .nil
  | cons c cs ih =>
    rw [List.forall_mem_cons] at h
    exact .other h.1 (ih h.2)

variable (outer : Nat) (rest : List Char)

theorem Matched.balanced_append (h : Matched depth cs) :
    balanced (outer + depth) (cs ++ rest) = balanced outer rest := by
  induction h with
  | nil => rfl
  | opening _ ih => simpa [balanced, ← Nat.add_assoc] using ih
  | closing _ ih => simpa [balanced] using ih
  | other hc _ ih => simp_all [balanced]

theorem Matched.enclosesCommas_append (h : Matched depth cs) :
    enclosesCommas (outer + depth) (cs ++ rest)
      =
    (enclosesCommas (outer + depth) cs && enclosesCommas outer rest) := by
  induction h with
  | nil => simp [enclosesCommas]
  | opening _ ih => simpa [enclosesCommas, ← Nat.add_assoc] using ih
  | closing _ ih => simpa [enclosesCommas] using ih
  | other hc _ ih => simp_all [enclosesCommas, Bool.and_assoc]

theorem Matched.enclosesCommas_succ (h : Matched depth cs) : enclosesCommas (outer + 1 + depth) cs = true := by
  induction h with
  | nil => rfl
  | opening _ ih => simpa [enclosesCommas, ← Nat.add_assoc] using ih
  | closing _ ih => simpa [enclosesCommas] using ih
  | other hc _ ih => simp_all [enclosesCommas, Nat.add_right_comm]

theorem Matched.splitHead_append (h : Matched depth cs) :
    splitHead depth (cs ++ rest) = (cs ++ (splitHead 0 rest).1, (splitHead 0 rest).2) := by
  induction h with
  | nil => rfl
  | opening _ ih => simp [splitHead, ih]
  | closing _ ih => simp [splitHead, ih]
  | other hc _ ih => simp_all [splitHead]

theorem Matched.splitCommas_append (h : Matched depth cs) (hcommas : enclosesCommas (outer + depth) cs = true) :
    splitCommas (outer + depth) (cs ++ rest) = (splitCommas outer rest).modifyHead (cs ++ ·) := by
  induction h with
  | nil =>
    rw [Nat.add_zero, List.nil_append]
    cases splitCommas outer rest with
    | nil => rfl
    | cons => rfl
  | opening _ ih =>
    rw [enclosesCommas, if_pos rfl, Nat.add_assoc] at hcommas
    simp [splitCommas, bracketDepth, Nat.add_assoc, ih hcommas, Function.comp_def]
  | closing _ ih =>
    rw [enclosesCommas, if_neg (by decide), if_pos rfl, ← Nat.add_assoc, Nat.add_sub_cancel] at hcommas
    simp [splitCommas, bracketDepth, ← Nat.add_assoc, ih hcommas, Function.comp_def]
  | other hc _ ih =>
    simp only [List.mem_cons, List.not_mem_nil, or_false, not_or] at hc
    simp only [enclosesCommas, hc, if_false, Bool.and_eq_true, Bool.not_eq_true'] at hcommas
    simp only [List.cons_append, splitCommas, hcommas.1, Bool.false_eq_true, if_false]
    simp [bracketDepth, hc, ih hcommas.2, Function.comp_def]

theorem Matched.readGroups_append (h : Matched depth cs) (hcommas : enclosesCommas (outer + depth) cs = true) :
    readGroups.go (outer + depth + 1) flag (cs ++ rest) = readGroups.go (outer + 1) (flag ++ cs) rest := by
  induction h generalizing flag with
  | nil => rw [Nat.add_zero, List.nil_append, List.append_nil]
  | opening _ ih =>
    rw [enclosesCommas, if_pos rfl, Nat.add_assoc] at hcommas
    simpa [readGroups.go, ← Nat.add_assoc] using @ih (flag ++ ['(']) hcommas
  | closing _ ih =>
    rw [enclosesCommas, if_neg (by decide), if_pos rfl, ← Nat.add_assoc, Nat.add_sub_cancel] at hcommas
    simp [readGroups.go, ← Nat.add_assoc, ih hcommas]
  | other hc _ ih =>
    simp only [List.mem_cons, List.not_mem_nil, or_false, not_or] at hc
    simp only [enclosesCommas, hc, if_false, Bool.and_eq_true, Bool.not_eq_true'] at hcommas
    rw [List.cons_append, readGroups.go]
    simp only [hc, hcommas.1, Bool.or_self, decide_false, Bool.false_eq_true, if_false]
    rw [ih hcommas.2, List.append_assoc]
    rfl

end Scan

section Phrase

variable {cs front back : List Char}

theorem enclosesCommas_of_plain (h : ∀ c ∈ cs, c ∉ ['(', ')', ',']) : enclosesCommas 0 cs = true := by
  induction cs with
  | nil => rfl
  | cons c cs ih =>
    rw [List.forall_mem_cons] at h
    have hc := h.1
    simp only [List.mem_cons, List.not_mem_nil, or_false, not_or] at hc
    simp [enclosesCommas, hc, ih h.2]

def separating : List Char :=
  ['(', ')', ','] ++ framing

theorem isPhrase_of_plain (hnonempty : cs ≠ []) (htrimmed : Trimmed cs) (h : ∀ c ∈ cs, c ∉ separating) :
    IsPhrase cs := by
  simp only [separating, framing, List.mem_append, List.mem_cons, List.not_mem_nil, or_false, not_or] at h
  constructor
  . constructor
    . exact hnonempty
    . exact htrimmed
    . intro c hc
      simp [framing, h c hc]
    . have hplain : ∀ c ∈ cs, c ∉ ['(', ')', '[', ']'] := by
        intro c hc
        simp [h c hc]
      have hmatched := (matched_of_plain hplain).balanced_append 0 []
      rwa [List.append_nil] at hmatched
  . apply enclosesCommas_of_plain
    intro c hc
    simp [h c hc]

theorem notMem_separating_of_isWordChar {c : Char} (h : isWordChar c = true) : c ∉ separating := by
  intro hmem
  have hnone : ∀ c ∈ separating, isWordChar c = false := by decide
  rw [hnone c hmem] at h
  contradiction

theorem isPhrase_of_isIdentifier (h : isIdentifier cs = true) : IsPhrase cs := by
  apply isPhrase_of_plain
  . exact (isIdentifier_iff.1 h).1
  . exact trimmed_of_forall (isWord_of_isIdentifier h).2
  . intro c hc
    exact notMem_separating_of_isWordChar ((isIdentifier_iff.1 h).2 c hc)

theorem IsExpression.matched (h : IsExpression cs) : Matched 0 cs := by
  apply matched_of_balanced _ h.balanced
  intro c hc
  have hframe := h.unframed c hc
  simp_all [framing]

theorem IsPhrase.join (hfront : IsPhrase front) (hback : IsPhrase back) : IsPhrase (front ++ ' ' :: back) := by
  constructor
  . constructor
    . simp
    . change Trimmed (front ++ ([' '] ++ back))
      exact hfront.trimmed.append_append hback.trimmed hfront.nonempty hback.nonempty
    . intro c hc
      simp only [List.mem_append, List.mem_cons] at hc
      rcases hc with hc | rfl | hc
      . exact hfront.unframed c hc
      . decide
      . exact hback.unframed c hc
    . have hbalanced := hfront.matched.balanced_append 0 (' ' :: back)
      rw [hbalanced]
      exact hback.balanced
  . have hcommas := hfront.matched.enclosesCommas_append 0 (' ' :: back)
    rw [hcommas, hfront.commas]
    exact hback.commas

theorem isPhrase_unwords {ws : List (List Char)} (hne : ws ≠ [])
    (h : ∀ w ∈ ws, IsWord w ∧ ∀ c ∈ w, c ∉ separating) : IsPhrase (unwords ws) := by
  induction ws with
  | nil => contradiction
  | cons w ws ih =>
    rw [List.forall_mem_cons] at h
    have hw : IsPhrase w := isPhrase_of_plain h.1.1.1 (trimmed_of_forall h.1.1.2) h.1.2
    cases ws with
    | nil =>
      rw [unwords, List.intercalate_singleton]
      exact hw
    | cons w' ws =>
      rw [unwords_cons_cons]
      exact hw.join (ih (List.cons_ne_nil w' ws) h.2)

theorem IsExpression.call (h : IsExpression cs) (hname : IsPhrase front) :
    IsPhrase (front ++ '(' :: (cs ++ [')'])) := by
  constructor
  . constructor
    . simp
    . change Trimmed (front ++ ('(' :: cs ++ [')']))
      have hlast : Trimmed [')'] := trimmed_of_forall (by decide)
      exact hname.trimmed.append_append hlast hname.nonempty (by simp)
    . intro c hc
      simp only [List.mem_append, List.mem_cons, List.not_mem_nil, or_false] at hc
      rcases hc with hc | rfl | hc | rfl
      . exact hname.unframed c hc
      . decide
      . exact h.unframed c hc
      . decide
    . have hbalanced := hname.matched.balanced_append 0 ('(' :: (cs ++ [')']))
      rw [hbalanced]
      exact h.matched.balanced_append 1 [')']
  . have hcommas := hname.matched.enclosesCommas_append 0 ('(' :: (cs ++ [')']))
    have hargument := h.matched.enclosesCommas_append 1 [')']
    rw [h.matched.enclosesCommas_succ 0] at hargument
    rw [hcommas, hname.commas]
    exact hargument

end Phrase

section Solid

variable {cs front back : List Char}

def Solid (cs : List Char) : Prop :=
  ∀ rest, splitCommas 0 (cs ++ rest) = (splitCommas 0 rest).modifyHead (cs ++ ·)

theorem Solid.append (hfront : Solid front) (hback : Solid back) : Solid (front ++ back) := by
  intro rest
  rw [List.append_assoc, hfront, hback, List.modifyHead_modifyHead]
  simp only [Function.comp_def, List.append_assoc]

theorem Solid.splitCommas_eq (h : Solid cs) : splitCommas 0 cs = [cs] := by
  have hnil := h []
  rw [List.append_nil] at hnil
  simpa [splitCommas] using hnil

theorem solid_of_isPhrase (h : IsPhrase cs) : Solid cs :=
  fun rest => h.matched.splitCommas_append 0 rest h.commas

theorem notMem_delimiters_of_isBlank {c : Char} (h : isBlank c = true) : c ∉ ['(', ')', '[', ']', ','] := by
  intro hmem
  have hnone : ∀ d ∈ ['(', ')', '[', ']', ','], isBlank d = false := by decide
  rw [hnone c hmem] at h
  contradiction

theorem solid_of_blank (h : ∀ c ∈ cs, isBlank c = true) : Solid cs := by
  have hplain : ∀ c ∈ cs, c ∉ ['(', ')', '[', ']', ','] := fun c hc => notMem_delimiters_of_isBlank (h c hc)
  simp only [List.mem_cons, List.not_mem_nil, or_false, not_or] at hplain
  intro rest
  apply (matched_of_plain _).splitCommas_append 0 rest (enclosesCommas_of_plain _)
  . intro c hc
    simp [hplain c hc]
  . intro c hc
    simp [hplain c hc]

theorem solid_nil : Solid [] :=
  solid_of_blank (by simp)

end Solid

theorem items_nil : items [] = [] := by
  rw [items, lines_nil, List.flatMap_nil]

theorem items_append_newline (front back : List Char) :
    items (front ++ '\n' :: back) = items front ++ items back := by
  rw [items, lines_append_cons, List.flatMap_append]
  rfl

section Parts

variable {p : Parts} {cs rest flag : List Char} {flags : List (List Char)}

def bracketed (flag : List Char) : List Char :=
  ' ' :: '[' :: (flag ++ [']'])

def Parts.text (p : Parts) : List Char :=
  p.head ++ p.flags.flatMap bracketed

structure Parts.Writable (p : Parts) : Prop where
  head : IsPhrase p.head
  first : ∀ c ∈ p.head.head?, isWordChar c = true
  flags : ∀ flag ∈ p.flags, IsPhrase flag

theorem solid_bracketed (h : IsPhrase flag) : Solid (bracketed flag) := by
  intro rest
  have hflag := h.matched.splitCommas_append 1 (']' :: rest) (h.matched.enclosesCommas_succ 0)
  have hclose : splitCommas 1 (']' :: rest) = (splitCommas 0 rest).modifyHead (']' :: ·) := rfl
  rw [hclose] at hflag
  simp [bracketed, splitCommas, bracketDepth, hflag, Function.comp_def]

theorem solid_flags (h : ∀ flag ∈ flags, IsPhrase flag) : Solid (flags.flatMap bracketed) := by
  induction flags with
  | nil => exact solid_nil
  | cons flag flags ih =>
    rw [List.forall_mem_cons] at h
    rw [List.flatMap_cons]
    exact (solid_bracketed h.1).append (ih h.2)

theorem solid_text (h : p.Writable) : Solid p.text :=
  (solid_of_isPhrase h.head).append (solid_flags h.flags)

theorem readGroups_bracketed (h : IsPhrase flag) :
    readGroups (bracketed flag ++ rest) = (readGroups rest).map (flag :: ·) := by
  have hflag : readGroups.go 1 [] (flag ++ ']' :: rest) = readGroups.go 1 flag (']' :: rest) :=
    h.matched.readGroups_append 0 (']' :: rest) h.commas
  have hcomplete : completeFlag flag = [flag] := by
    simp [completeFlag, trim_eq_self h.trimmed, h.nonempty]
  calc readGroups (bracketed flag ++ rest)
    _ = readGroups.go 1 [] (flag ++ ']' :: rest) := by simp [readGroups, bracketed, readGroups.go, isBlank, blanks]
    _ = (readGroups.go 0 [] rest).map (completeFlag flag ++ ·) := by simp [hflag, readGroups.go]
    _ = (readGroups rest).map (flag :: ·) := by rw [hcomplete]; rfl

theorem readGroups_flags (h : ∀ flag ∈ flags, IsPhrase flag) :
    readGroups (flags.flatMap bracketed) = some flags := by
  induction flags with
  | nil => rfl
  | cons flag flags ih =>
    rw [List.forall_mem_cons] at h
    rw [List.flatMap_cons, readGroups_bracketed h.1, ih h.2]
    rfl

theorem splitHead_flags (flags : List (List Char)) :
    ∃ gap groups, splitHead 0 (flags.flatMap bracketed) = (gap, groups) ∧ (∀ c ∈ gap, isBlank c = true) ∧
      readGroups groups = readGroups (flags.flatMap bracketed) := by
  cases flags with
  | nil => exact ⟨[], [], rfl, by simp, rfl⟩
  | cons flag flags =>
    refine ⟨[' '], '[' :: (flag ++ ']' :: flags.flatMap bracketed), ?_, by decide, ?_⟩
    . simp [bracketed, splitHead]
    . simp [bracketed, readGroups, readGroups.go, isBlank, blanks]

theorem readParts_text (h : p.Writable) : readParts p.text = some p := by
  obtain ⟨gap, groups, hsplit, hgap, hgroups⟩ := splitHead_flags p.flags
  have htext : splitHead 0 p.text = (p.head ++ gap, groups) := by
    rw [Parts.text, h.head.matched.splitHead_append, hsplit]
  have hhead : trim (p.head ++ gap) = p.head := trim_append hgap h.head.trimmed
  rw [readParts, htext]
  simp only [hgroups, readGroups_flags h.flags, hhead]
  rfl

theorem text_ne_nil (h : p.Writable) : p.text ≠ [] := by
  simp [Parts.text, h.head.nonempty]

theorem head?_text (h : p.Writable) : p.text.head? = p.head.head? := by
  rw [Parts.text, List.head?_append]
  cases hhead : p.head with
  | nil => exact absurd hhead h.head.nonempty
  | cons => rfl

theorem isUnmarked_of_isWordChar {c : Char} (h : isWordChar c = true) : isUnmarked c = true := by
  simp only [isUnmarked, Bool.and_eq_true, bne_iff_ne]
  exact ⟨ne_of_isWordChar h (by decide), ne_of_isWordChar h (by decide)⟩

theorem opensComment_text (h : p.Writable) : opensComment p.text = false := by
  have hfirst : ∀ c ∈ p.text.head?, isWordChar c = true := by
    rw [head?_text h]
    exact h.first
  cases htext : p.text with
  | nil => exact absurd htext (text_ne_nil h)
  | cons c cs =>
    rw [htext] at hfirst
    exact opensComment_of_isUnmarked (isUnmarked_of_isWordChar (hfirst c rfl))

theorem getLast?_flags : ∀ c ∈ (flags.flatMap bracketed).getLast?, c = ']' := by
  intro c hc
  cases List.eq_nil_or_concat flags with
  | inl hnil => simp [hnil] at hc
  | inr hconcat =>
    obtain ⟨init, flag, rfl⟩ := hconcat
    have hlast : (init ++ [flag]).flatMap bracketed = (init.flatMap bracketed ++ ' ' :: '[' :: flag) ++ [']'] := by
      simp [bracketed]
    rw [List.concat_eq_append, hlast, List.getLast?_concat] at hc
    simpa using hc.symm

theorem trimmed_text (h : p.Writable) : Trimmed p.text := by
  constructor
  . intro c hc
    rw [head?_text h] at hc
    exact h.head.trimmed.first c hc
  . intro c hc
    rw [Parts.text, List.getLast?_append, Option.mem_def, Option.or_eq_some_iff] at hc
    rcases hc with hc | ⟨_, hc⟩
    . rw [getLast?_flags c hc]
      decide
    . exact h.head.trimmed.last c hc

theorem mem_text (h : p.Writable) : ∀ c ∈ p.text, c ∉ ['\n', '\x7b', '\x7d'] := by
  intro c hc
  have hclean : ∀ cs, IsPhrase cs → c ∈ cs → c ∉ ['\n', '\x7b', '\x7d'] := by
    intro cs hcs hc
    have := hcs.unframed c hc
    simp_all [framing]
  rw [Parts.text, List.mem_append] at hc
  cases hc with
  | inl hc => exact hclean _ h.head hc
  | inr hc =>
    obtain ⟨flag, hflag, hc⟩ := List.mem_flatMap.1 hc
    simp only [bracketed, List.mem_cons, List.mem_append, List.not_mem_nil, or_false] at hc
    rcases hc with rfl | rfl | hc | rfl
    . decide
    . decide
    . exact hclean flag (h.flags flag hflag) hc
    . decide

def Parts.line (p : Parts) : List Char :=
  "    ".toList ++ p.text

theorem lines_line_text (h : p.Writable) : lines p.line = [p.text] := by
  have hindent : ∀ c ∈ "    ".toList, isBlank c = true := by decide
  rw [Parts.line, lines_append_left hindent, lines_line]
  . rw [trim_eq_self (trimmed_text h)]
  . intro hmem
    exact mem_text h _ hmem (by decide)
  . rw [trim_eq_self (trimmed_text h)]
    exact text_ne_nil h

theorem lineItems_text (h : p.Writable) : lineItems p.text = [p.text] := by
  rw [lineItems, opensComment_text h, (solid_text h).splitCommas_eq]
  simp [trim_eq_self (trimmed_text h), text_ne_nil h]

theorem items_line_text (h : p.Writable) : items p.line = [p.text] := by
  rw [items, lines_line_text h, List.flatMap_singleton, lineItems_text h]

theorem items_lines {ps : List Parts} (h : ∀ p ∈ ps, p.Writable) :
    items (ps.flatMap fun p => p.line ++ ['\n']) = ps.map Parts.text := by
  induction ps with
  | nil => rw [List.flatMap_nil, items_nil, List.map_nil]
  | cons p ps ih =>
    rw [List.forall_mem_cons] at h
    rw [List.flatMap_cons, List.append_assoc, List.singleton_append, items_append_newline, items_line_text h.1, ih h.2]
    rfl

end Parts

end SchemaDesign.Document
