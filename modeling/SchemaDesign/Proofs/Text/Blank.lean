import Mathlib.Data.List.TakeWhile
import SchemaDesign.Text.Blank

namespace SchemaDesign.Text

variable {c : Char} {cs front back : List Char}

section Decide

variable {p : Char → Prop} [DecidablePred p]

-- These come before any way to decide a property by a search through all characters that there are.
instance (priority := 2000) decidableForallMem : Decidable (∀ c ∈ cs, p c) :=
  List.decidableBAll p cs

instance (priority := 2000) decidableForallMemOption {first : Option Char} : Decidable (∀ c ∈ first, p c) :=
  first.decidableForallMem

end Decide

section While

variable {p : Char → Bool}

theorem eq_false_of_mem_head?_dropWhile (cs : List Char) : ∀ c ∈ (cs.dropWhile p).head?, p c = false := by
  intro c hc
  have hhead := List.head?_dropWhile_not p cs
  rw [Option.mem_def] at hc
  rw [hc] at hhead
  simpa using hhead

theorem takeWhile_append_of_head? (front : List Char) (h : ∀ c ∈ back.head?, p c = false) :
    (front ++ back).takeWhile p = front.takeWhile p := by
  have hstop : back.takeWhile p = [] := by
    cases back with
    | nil => rfl
    | cons c back => exact List.takeWhile_cons_of_neg (by simp [h c rfl])
  rw [List.takeWhile_append, hstop, List.append_nil]
  split
  . next hall => exact ((List.takeWhile_prefix p).eq_of_length hall).symm
  . rfl

end While

section Trim

theorem trimStart_append (h : ∀ c ∈ front, isBlank c = true) : trimStart (front ++ cs) = trimStart cs := by
  unfold trimStart
  rw [List.dropWhile_append_of_pos h]

theorem trimEnd_append (h : ∀ c ∈ back, isBlank c = true) : trimEnd (cs ++ back) = trimEnd cs := by
  unfold trimEnd
  rw [List.reverse_append, List.dropWhile_append_of_pos]
  simpa using h

theorem trimStart_eq_self (h : ∀ c ∈ cs.head?, isBlank c = false) : trimStart cs = cs := by
  unfold trimStart
  cases cs with
  | nil => rfl
  | cons c cs =>
    rw [List.dropWhile_cons_of_neg]
    simpa using h

theorem trimEnd_append_left (h : ∀ c ∈ front.getLast?, isBlank c = false) :
    trimEnd (front ++ back) = front ++ trimEnd back := by
  have hreverse : front.reverse.dropWhile isBlank = front.reverse := by
    apply trimStart_eq_self
    rwa [List.head?_reverse]
  unfold trimEnd
  rw [List.reverse_append, List.dropWhile_append]
  split
  . next hblank =>
    rw [List.isEmpty_iff] at hblank
    rw [hreverse, hblank, List.reverse_reverse, List.reverse_nil, List.append_nil]
  . rw [List.reverse_append, List.reverse_reverse]

theorem trimEnd_eq_self (h : ∀ c ∈ cs.getLast?, isBlank c = false) : trimEnd cs = cs := by
  have hnil : trimEnd [] = [] := rfl
  have happend : trimEnd (cs ++ []) = cs ++ trimEnd [] := trimEnd_append_left h
  rwa [hnil, List.append_nil] at happend

theorem head?_trimStart (cs : List Char) : ∀ c ∈ (trimStart cs).head?, isBlank c = false :=
  eq_false_of_mem_head?_dropWhile cs

structure Trimmed (cs : List Char) : Prop where
  first : ∀ c ∈ cs.head?, isBlank c = false
  last : ∀ c ∈ cs.getLast?, isBlank c = false

instance (cs : List Char) : Decidable (Trimmed cs) :=
  decidable_of_iff ((∀ c ∈ cs.head?, isBlank c = false) ∧ ∀ c ∈ cs.getLast?, isBlank c = false)
    ⟨fun h => ⟨h.1, h.2⟩, fun h => ⟨h.1, h.2⟩⟩

theorem trim_eq_self (h : Trimmed cs) : trim cs = cs := by
  rw [trim, trimStart_eq_self h.first, trimEnd_eq_self h.last]

theorem trim_append_left (h : ∀ c ∈ front, isBlank c = true) : trim (front ++ cs) = trim cs := by
  rw [trim, trimStart_append h]
  rfl

theorem trim_append_right (h : ∀ c ∈ back, isBlank c = true) : trim (cs ++ back) = trim cs := by
  unfold trim trimStart
  rw [List.dropWhile_append]
  split
  . next hblank =>
    rw [List.isEmpty_iff] at hblank
    rw [hblank, List.dropWhile_eq_nil_iff.2 h]
  . rw [trimEnd_append h]

theorem trim_append_append (hfront : ∀ c ∈ front, isBlank c = true) (hback : ∀ c ∈ back, isBlank c = true)
    (h : Trimmed cs) : trim (front ++ (cs ++ back)) = cs := by
  rw [trim_append_left hfront, trim_append_right hback, trim_eq_self h]

theorem trim_append (hback : ∀ c ∈ back, isBlank c = true) (h : Trimmed cs) : trim (cs ++ back) = cs := by
  rw [trim_append_right hback, trim_eq_self h]

theorem exists_trimEnd (cs : List Char) : ∃ back, cs = trimEnd cs ++ back ∧ ∀ c ∈ back, isBlank c = true := by
  refine ⟨(cs.reverse.takeWhile isBlank).reverse, ?_, ?_⟩
  . rw [trimEnd, ← List.reverse_append, List.takeWhile_append_dropWhile, List.reverse_reverse]
  . intro c hc
    rw [List.mem_reverse] at hc
    exact List.mem_takeWhile_imp hc

theorem trimmed_trim (cs : List Char) : Trimmed (trim cs) := by
  constructor
  . intro c hc
    obtain ⟨back, hback, _⟩ := exists_trimEnd (trimStart cs)
    rw [trim, Option.mem_def] at hc
    apply head?_trimStart cs
    rw [hback, List.head?_append, hc]
    rfl
  . intro c hc
    rw [trim, trimEnd, List.getLast?_reverse] at hc
    exact head?_trimStart (trimStart cs).reverse c hc

theorem exists_trim (cs : List Char) :
    ∃ front back, cs = front ++ (trim cs ++ back) ∧ (∀ c ∈ front, isBlank c = true) ∧ ∀ c ∈ back, isBlank c = true := by
  obtain ⟨back, hback, hblank⟩ := exists_trimEnd (trimStart cs)
  refine ⟨cs.takeWhile isBlank, back, ?_, ?_, hblank⟩
  . rw [trim, ← hback]
    exact List.takeWhile_append_dropWhile.symm
  . intro c hc
    exact List.mem_takeWhile_imp hc

theorem trimEnd_cons_trimEnd (c : Char) (cs : List Char) : trimEnd (c :: trimEnd cs) = trimEnd (c :: cs) := by
  obtain ⟨back, hcs, hback⟩ := exists_trimEnd cs
  have happend : trimEnd (c :: trimEnd cs ++ back) = trimEnd (c :: trimEnd cs) := trimEnd_append hback
  rw [List.cons_append, ← hcs] at happend
  exact happend.symm

theorem trim_trimEnd (cs : List Char) : trim (trimEnd cs) = trim cs := by
  obtain ⟨back, hcs, hback⟩ := exists_trimEnd cs
  have happend : trim (trimEnd cs ++ back) = trim (trimEnd cs) := trim_append_right hback
  rw [← hcs] at happend
  exact happend.symm

theorem trimmed_of_forall (h : ∀ c ∈ cs, isBlank c = false) : Trimmed cs := by
  constructor
  . intro c hc
    exact h c (List.mem_of_mem_head? hc)
  . intro c hc
    exact h c (List.mem_of_mem_getLast? hc)

theorem Trimmed.append_right (h : Trimmed front) (hne : front ≠ []) (hlast : ∀ c ∈ back.getLast?, isBlank c = false) :
    Trimmed (front ++ back) := by
  constructor
  . intro c hc
    cases front with
    | nil => contradiction
    | cons d front => exact h.first c hc
  . intro c hc
    rw [List.getLast?_append, Option.mem_def, Option.or_eq_some_iff] at hc
    rcases hc with hc | ⟨_, hc⟩
    . exact hlast c hc
    . exact h.last c hc

theorem Trimmed.append_append (hfront : Trimmed front) (hback : Trimmed back) (hfirst : front ≠ [])
    (hlast : back ≠ []) : Trimmed (front ++ (cs ++ back)) := by
  apply hfront.append_right hfirst
  intro c hc
  rw [List.getLast?_append, List.getLast?_eq_some_getLast hlast, Option.some_or,
    ← List.getLast?_eq_some_getLast hlast] at hc
  exact hback.last c hc

theorem Trimmed.last_of_suffix (h : Trimmed cs) (hback : back <:+ cs) : ∀ c ∈ back.getLast?, isBlank c = false := by
  intro c hc
  obtain ⟨front, rfl⟩ := hback
  apply h.last
  rw [Option.mem_def] at hc
  rw [List.getLast?_append, hc]
  rfl

theorem trim_cons (h : isBlank c = true) : trim (c :: cs) = trim cs := by
  rw [trim, trimStart, List.dropWhile_cons_of_pos h]
  rfl

theorem trim_eq_nil_iff : trim cs = [] ↔ ∀ c ∈ cs, isBlank c = true := by
  constructor
  . intro h
    have hrest : ∀ c ∈ trimStart cs, isBlank c = true := by
      rw [trim, trimEnd, List.reverse_eq_nil_iff, List.dropWhile_eq_nil_iff] at h
      simpa using h
    have hstart : trimStart cs = [] := by
      rw [← List.head?_eq_none_iff, Option.eq_none_iff_forall_ne_some]
      intro c hc
      have hblank := hrest c (List.mem_of_mem_head? hc)
      rw [head?_trimStart cs c hc] at hblank
      contradiction
    exact List.dropWhile_eq_nil_iff.1 hstart
  . intro h
    have hnil : trim (cs ++ ([] ++ [])) = [] := trim_append_append h (by simp) (by decide)
    simpa using hnil

theorem trim_subset : trim cs ⊆ cs := by
  intro c hc
  unfold trim trimEnd at hc
  rw [List.mem_reverse] at hc
  have hstart := (List.dropWhile_suffix isBlank).subset hc
  rw [List.mem_reverse] at hstart
  exact (List.dropWhile_suffix isBlank).subset hstart

end Trim

theorem mem_splitOnP {p : Char → Bool} {piece : List Char} (h : piece ∈ cs.splitOnP p) :
    (∀ c ∈ piece, p c = false) ∧ piece ⊆ cs := by
  induction cs generalizing piece with
  | nil =>
    rw [List.splitOnP_nil, List.mem_singleton] at h
    simp [h]
  | cons c cs ih =>
    rw [List.splitOnP_cons_eq_if_modifyHead] at h
    split at h
    . cases h with
      | head => simp
      | tail _ h =>
        obtain ⟨hclean, hsub⟩ := ih h
        exact ⟨hclean, List.subset_cons_of_subset c hsub⟩
    . next hc =>
      -- The character goes to the first of the pieces that the rest is cut into.
      cases hpieces : cs.splitOnP p with
      | nil => exact absurd hpieces (List.splitOnP_ne_nil p cs)
      | cons first others =>
        rw [hpieces, List.modifyHead_cons] at h
        cases h with
        | head =>
          obtain ⟨hclean, hsub⟩ := ih (hpieces ▸ List.mem_cons_self)
          constructor
          . simpa [hc] using hclean
          . exact List.cons_subset_cons c hsub
        | tail _ h =>
          obtain ⟨hclean, hsub⟩ := ih (hpieces ▸ List.mem_cons_of_mem first h)
          exact ⟨hclean, List.subset_cons_of_subset c hsub⟩

section Words

variable {w : List Char} {ws : List (List Char)}

theorem words_append_cons (hc : isBlank c = true) : words (front ++ c :: back) = words front ++ words back := by
  unfold words
  rw [List.splitOnP_append_cons _ _ hc, List.filter_append]

theorem words_cons (hc : isBlank c = true) : words (c :: cs) = words cs := by
  rw [← List.nil_append (c :: cs), words_append_cons hc]
  rfl

def IsWord (w : List Char) : Prop :=
  w ≠ [] ∧ ∀ c ∈ w, isBlank c = false

instance : Decidable (IsWord w) :=
  inferInstanceAs (Decidable (w ≠ [] ∧ ∀ c ∈ w, isBlank c = false))

theorem words_word (h : IsWord w) : words w = [w] := by
  unfold words
  rw [List.splitOnP_eq_singleton h.2]
  simp [h.1]

theorem unwords_cons_cons (w w' : List Char) (ws : List (List Char)) :
    unwords (w :: w' :: ws) = w ++ ' ' :: unwords (w' :: ws) := by
  rw [unwords, List.intercalate_cons_cons, List.append_assoc]
  rfl

theorem unwords_cons (w : List Char) (ws : List (List Char)) : unwords (w :: ws) = w ++ ws.flatMap (' ' :: ·) := by
  induction ws generalizing w with
  | nil =>
    rw [unwords, List.intercalate_singleton, List.flatMap_nil, List.append_nil]
  | cons w' ws ih => rw [unwords_cons_cons, ih, List.flatMap_cons, List.cons_append]

theorem words_unwords (h : ∀ w ∈ ws, IsWord w) : words (unwords ws) = ws := by
  induction ws with
  | nil => rfl
  | cons w ws ih =>
    simp only [List.mem_cons, forall_eq_or_imp] at h
    cases ws with
    | nil =>
      rw [unwords, List.intercalate_singleton]
      exact words_word h.1
    | cons w' ws =>
      have hspace : isBlank ' ' = true := by decide
      rw [unwords_cons_cons, words_append_cons hspace, words_word h.1, ih h.2]
      rfl

theorem forall_mem_unwords {p : Char → Prop} (hspace : p ' ') (h : ∀ w ∈ ws, ∀ c ∈ w, p c) : ∀ c ∈ unwords ws, p c := by
  cases ws with
  | nil => simp [unwords]
  | cons w ws =>
    rw [List.forall_mem_cons] at h
    intro c hc
    rw [unwords_cons, List.mem_append, List.mem_flatMap] at hc
    rcases hc with hc | ⟨w', hw', hc⟩
    . exact h.1 c hc
    . rw [List.mem_cons] at hc
      rcases hc with rfl | hc
      . exact hspace
      . exact h.2 w' hw' c hc

theorem trimmed_unwords (hne : ws ≠ []) (h : ∀ w ∈ ws, IsWord w) : unwords ws ≠ [] ∧ Trimmed (unwords ws) := by
  induction ws with
  | nil => contradiction
  | cons w ws ih =>
    rw [List.forall_mem_cons] at h
    have hw : Trimmed w := trimmed_of_forall h.1.2
    cases ws with
    | nil =>
      rw [unwords, List.intercalate_singleton]
      exact ⟨h.1.1, hw⟩
    | cons w' ws =>
      obtain ⟨hne, htrimmed⟩ := ih (List.cons_ne_nil w' ws) h.2
      rw [unwords_cons_cons]
      refine ⟨by simp, ?_⟩
      change Trimmed (w ++ ([' '] ++ unwords (w' :: ws)))
      exact hw.append_append htrimmed h.1.1 hne

theorem words_cons_of_not_blank (hc : isBlank c = false) : ∃ w ws, words (c :: cs) = (c :: w) :: ws := by
  unfold words
  rw [List.splitOnP_cons_eq_if_modifyHead, if_neg (by simp [hc])]
  cases hpieces : cs.splitOnP isBlank with
  | nil => exact absurd hpieces (List.splitOnP_ne_nil _ cs)
  | cons first others => exact ⟨first, others.filter (!·.isEmpty), rfl⟩

theorem isWord_of_mem_words (h : w ∈ words cs) : IsWord w := by
  unfold words at h
  rw [List.mem_filter] at h
  constructor
  . simpa using h.2
  . exact (mem_splitOnP h.1).1

theorem subset_of_mem_words (h : w ∈ words cs) : w ⊆ cs := by
  unfold words at h
  exact (mem_splitOnP (List.mem_filter.1 h).1).2

end Words

section Lines

variable {line : List Char}

theorem lines_append_cons : lines (front ++ '\n' :: back) = lines front ++ lines back := by
  unfold lines
  rw [List.splitOn_append_cons_self, List.map_append, List.filter_append]

theorem lines_line (h : '\n' ∉ cs) (hne : trim cs ≠ []) : lines cs = [trim cs] := by
  unfold lines
  rw [List.splitOn_eq_singleton h]
  simp [hne]

theorem lines_nil : lines [] = [] := by
  decide

theorem lines_cons (hc : isBlank c = true) : lines (c :: cs) = lines cs := by
  cases decEq c '\n' with
  | isTrue hnewline =>
    rw [hnewline, ← List.nil_append ('\n' :: cs), lines_append_cons, lines_nil, List.nil_append]
  | isFalse hother =>
    unfold lines
    rw [List.splitOn_eq_splitOnP, List.splitOnP_cons_eq_if_modifyHead, if_neg (by simpa using hother)]
    cases hpieces : List.splitOnP (· == '\n') cs with
    | nil => exact absurd hpieces (List.splitOnP_ne_nil _ cs)
    | cons first others =>
      rw [List.splitOn_eq_splitOnP, hpieces, List.modifyHead_cons, List.map_cons, List.map_cons, trim_cons hc]

theorem lines_append_left (h : ∀ c ∈ front, isBlank c = true) : lines (front ++ cs) = lines cs := by
  induction front with
  | nil => rfl
  | cons c front ih =>
    simp only [List.mem_cons, forall_eq_or_imp] at h
    rw [List.cons_append, lines_cons h.1, ih h.2]

theorem lines_blank (h : ∀ c ∈ cs, isBlank c = true) : lines cs = [] := by
  rw [← List.append_nil cs, lines_append_left h, lines_nil]

theorem exists_restOfLine (cs : List Char) :
    ∃ line rest, cs = line ++ rest ∧ '\n' ∉ line ∧ ∀ c ∈ rest.head?, c = '\n' := by
  refine ⟨cs.takeWhile (· ≠ '\n'), cs.dropWhile (· ≠ '\n'), List.takeWhile_append_dropWhile.symm, ?_, ?_⟩
  . intro hmem
    have := List.all_takeWhile (p := (· ≠ '\n')) (l := cs)
    rw [List.all_eq_true] at this
    simpa using this '\n' hmem
  . intro c hc
    simpa using eq_false_of_mem_head?_dropWhile cs c hc

theorem lines_append_right (hline : '\n' ∉ cs) (hne : trim cs ≠ []) (h : ∀ c ∈ back, isBlank c = true) :
    lines (cs ++ back) = [trim cs] := by
  obtain ⟨gap, rest, rfl, hgap, hrest⟩ := exists_restOfLine back
  simp only [List.mem_append, or_imp, forall_and] at h
  have hfirst : lines (cs ++ gap) = [trim cs] := by
    rw [lines_line, trim_append_right h.1]
    . simp [hline, hgap]
    . rwa [trim_append_right h.1]
  cases rest with
  | nil => rwa [List.append_nil]
  | cons c rest =>
    obtain rfl : c = '\n' := hrest c rfl
    have hblank : ∀ c ∈ rest, isBlank c = true := fun c hc => h.2 c (List.mem_cons_of_mem _ hc)
    rw [← List.append_assoc, lines_append_cons, hfirst, lines_blank hblank, List.append_nil]

theorem lines_eq_nil_iff : lines cs = [] ↔ ∀ c ∈ cs, isBlank c = true := by
  constructor
  . intro h
    induction cs with
    | nil => simp
    | cons c cs ih =>
      cases hc : isBlank c with
      | true =>
        rw [lines_cons hc] at h
        exact List.forall_mem_cons.2 ⟨hc, ih h⟩
      | false =>
        -- The first line holds the character.
        have hnewline : (c == '\n') = false := by
          rw [beq_eq_false_iff_ne]
          rintro rfl
          contradiction
        unfold lines at h
        rw [List.filter_eq_nil_iff, List.splitOn_eq_splitOnP, List.splitOnP_cons_eq_if_modifyHead,
          if_neg (by simp [hnewline])] at h
        cases hpieces : List.splitOnP (· == '\n') cs with
        | nil => exact absurd hpieces (List.splitOnP_ne_nil _ cs)
        | cons first others =>
          rw [hpieces, List.modifyHead_cons, List.map_cons, List.forall_mem_cons] at h
          have hfirst : trim (c :: first) = [] := by simpa using h.1
          have := trim_eq_nil_iff.1 hfirst c List.mem_cons_self
          rw [hc] at this
          contradiction
  . exact lines_blank

theorem subset_of_mem_lines (h : line ∈ lines cs) : line ⊆ cs := by
  unfold lines at h
  rw [List.mem_filter] at h
  obtain ⟨piece, hpiece, rfl⟩ := List.mem_map.1 h.1
  rw [List.splitOn_eq_splitOnP] at hpiece
  exact List.Subset.trans trim_subset (mem_splitOnP hpiece).2

end Lines

end SchemaDesign.Text
