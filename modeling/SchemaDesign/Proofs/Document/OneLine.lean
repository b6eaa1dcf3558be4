import SchemaDesign.Proofs.Document.Flag

namespace SchemaDesign.Document

open Text

section Items

variable {cs line item : List Char}

theorem notMem_newline_of_mem_lines (h : line ∈ lines cs) : '\n' ∉ line := by
  unfold lines at h
  rw [List.mem_filter] at h
  obtain ⟨piece, hpiece, rfl⟩ := List.mem_map.1 h.1
  rw [List.splitOn_eq_splitOnP] at hpiece
  intro hmem
  have hbreak := (mem_splitOnP hpiece).1 '\n' (trim_subset hmem)
  simp at hbreak

theorem subset_of_mem_splitCommas {depth : Nat} (h : item ∈ splitCommas depth cs) : item ⊆ cs := by
  induction cs generalizing depth item with
  | nil =>
    rw [splitCommas, List.mem_singleton] at h
    rw [h]
    exact List.Subset.refl _
  | cons c cs ih =>
    rw [splitCommas] at h
    split at h
    . rw [List.mem_cons] at h
      cases h with
      | inl hfirst =>
        rw [hfirst]
        exact List.nil_subset _
      | inr hrest => exact List.Subset.trans (ih hrest) (List.subset_cons_self ..)
    . cases hpieces : splitCommas (bracketDepth depth c) cs with
      | nil =>
        rw [hpieces] at h
        contradiction
      | cons piece pieces =>
        rw [hpieces, List.modifyHead_cons, List.mem_cons] at h
        cases h with
        | inl hfirst =>
          rw [hfirst]
          exact List.cons_subset_cons c (ih (by rw [hpieces]; exact List.mem_cons_self ..))
        | inr hrest =>
          have hitem : item ∈ splitCommas (bracketDepth depth c) cs := by
            rw [hpieces]
            exact List.mem_cons_of_mem _ hrest
          exact List.Subset.trans (ih hitem) (List.subset_cons_self ..)

theorem notMem_newline_of_mem_items {body : List Char} (h : item ∈ items body) : '\n' ∉ item := by
  obtain ⟨line, hline, hitem⟩ := List.mem_flatMap.1 h
  unfold lineItems at hitem
  split at hitem
  . contradiction
  . obtain ⟨piece, hpiece, rfl⟩ := List.mem_map.1 (List.mem_filter.1 hitem).1
    intro hmem
    exact notMem_newline_of_mem_lines hline (subset_of_mem_splitCommas hpiece (trim_subset hmem))

end Items

section Parts

variable {cs flag item : List Char}

theorem splitHead_append (depth : Nat) (cs : List Char) : (splitHead depth cs).1 ++ (splitHead depth cs).2 = cs := by
  induction cs generalizing depth with
  | nil => rfl
  | cons c cs ih =>
    rw [splitHead]
    split
    . rfl
    . simp [ih]

theorem subset_of_mem_completeFlag (h : flag ∈ completeFlag cs) : flag ⊆ cs := by
  rw [completeFlag, List.mem_filter, List.mem_singleton] at h
  rw [h.1]
  exact trim_subset

theorem subset_of_completed {groups : Option (List (List Char))} {pending : List Char} {flags : List (List Char)}
    (c : Char) (h : groups.map (completeFlag pending ++ ·) = some flags) (hflag : flag ∈ flags)
    (hgroups : ∀ later, groups = some later → flag ∈ later → flag ⊆ cs) : flag ⊆ pending ++ c :: cs := by
  obtain ⟨later, hlater, rfl⟩ := Option.map_eq_some_iff.1 h
  intro a ha
  rw [List.mem_append, List.mem_cons]
  rw [List.mem_append] at hflag
  cases hflag with
  | inl hnow => exact Or.inl (subset_of_mem_completeFlag hnow ha)
  | inr hrest => exact Or.inr (Or.inr (hgroups later hlater hrest ha))

theorem subset_of_readGroups_go {depth : Nat} {pending : List Char} {flags : List (List Char)}
    (h : readGroups.go depth pending cs = some flags) (hflag : flag ∈ flags) : flag ⊆ pending ++ cs := by
  -- A character is kept in the pending flag, or the flag is complete, or nothing is pending and it is passed over.
  fun_induction readGroups.go depth pending cs generalizing flags with
  | case1 =>
    rw [Option.some.injEq] at h
    rw [← h] at hflag
    contradiction
  | case2 | case5 => contradiction
  | case3 _ cs ih | case4 _ c cs _ _ ih =>
    exact List.Subset.trans (ih h hflag) (List.subset_append_of_subset_right _ (List.subset_cons_self ..))
  | case6 depth pending c cs _ ih | case8 depth pending c cs _ _ _ ih | case10 depth pending c cs _ _ _ ih =>
    have hkept := ih h hflag
    rwa [List.append_assoc, List.singleton_append] at hkept
  | case7 pending c cs _ _ ih | case9 depth pending c cs _ _ _ ih =>
    apply subset_of_completed c h hflag
    intro later hlater hmem
    exact ih hlater hmem

theorem subset_of_readParts {parts : Parts} (h : readParts item = some parts) :
    parts.head ⊆ item ∧ ∀ flag ∈ parts.flags, flag ⊆ item := by
  unfold readParts at h
  obtain ⟨flags, hflags, rfl⟩ := Option.map_eq_some_iff.1 h
  have hitem := splitHead_append 0 item
  constructor
  . intro c hc
    rw [← hitem]
    exact List.mem_append_left _ (trim_subset hc)
  . intro flag hflag c hc
    rw [← hitem]
    have hgroups := subset_of_readGroups_go hflags hflag hc
    rw [List.nil_append] at hgroups
    exact List.mem_append_right _ hgroups

end Parts

section Flag

variable {text : List Char} {column expression : String}

theorem subset_of_afterKeyword? {keyword : String} {rest : List Char} (h : afterKeyword? keyword text = some rest) :
    rest ⊆ text := by
  have hdrop : rest = text.drop keyword.toList.length := by
    unfold afterKeyword? at h
    grind
  rw [hdrop]
  exact List.drop_subset ..

theorem subset_of_enclosed? {inner : List Char} (h : enclosed? text = some inner) : inner ⊆ text := by
  unfold enclosed? at h
  split at h
  . next rest =>
    obtain ⟨kept, hkept, rfl⟩ := Option.map_eq_some_iff.1 (Option.filter_eq_some_iff.1 h).1
    have hdrop : kept = rest.dropLast := by
      unfold dropLast? at hkept
      grind
    rw [hdrop]
    have hinner : trim rest.dropLast ⊆ rest := List.Subset.trans trim_subset (List.dropLast_sublist rest).subset
    exact List.Subset.trans hinner (List.subset_cons_self ..)
  . contradiction

theorem subset_of_readFlag (h : (readFlag column text).result = .ok (.check expression)) :
    expression.toList ⊆ text := by
  have hskip {p : Prop} [Decidable p] {f : Flag} {later : FlagReading} (hf : f ≠ .check expression)
      (h : (if p then ⟨[], .ok f⟩ else later).result = .ok (.check expression)) :
      later.result = .ok (.check expression) := by
    split at h
    . injection h
      contradiction
    . exact h
  have h := hskip (by simp) (hskip (by simp) (hskip (by simp) (hskip (by simp) h)))
  split at h
  . simp only at h
    split at h
    . simp at h
    . contradiction
  . split at h
    . next rest hrest =>
      split at h
      . next inner hinner =>
        simp only [Except.ok.injEq, Flag.check.injEq] at h
        rw [← h, String.toList_ofList]
        have hexpression := List.Subset.trans (subset_of_enclosed? hinner) trim_subset
        exact List.Subset.trans hexpression (subset_of_afterKeyword? hrest)
      . contradiction
    . simp at h

end Flag

end SchemaDesign.Document
