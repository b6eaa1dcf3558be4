import SchemaDesign.Text.Lowercase

namespace SchemaDesign

namespace Text

variable {before before' after front back : List Char}

section Underscore

theorem dropWhile_append_underscore (front back : List Char) :
    (front ++ '_' :: back).dropWhile isCaseIgnorable = front.dropWhile isCaseIgnorable ++ '_' :: back := by
  have hunderscore : isCaseIgnorable '_' = false := by decide +kernel
  induction front with
  | nil => simp [hunderscore]
  | cons c front ih =>
    rw [List.cons_append, List.dropWhile_cons, List.dropWhile_cons]
    split
    . exact ih
    . rfl

theorem meetsCased_append_underscore (front back : List Char) :
    meetsCased (front ++ '_' :: back) = meetsCased front := by
  have hunderscore : isCased '_' = false := by decide +kernel
  unfold meetsCased
  rw [dropWhile_append_underscore]
  cases front.dropWhile isCaseIgnorable with
  | nil => exact hunderscore
  | cons c rest => rfl

theorem lowercase_go_append_underscore (front back cs : List Char) :
    lowercase.go (front ++ '_' :: back) cs = lowercase.go front cs := by
  induction cs generalizing front with
  | nil => rfl
  | cons c cs ih =>
    rw [lowercase.go, lowercase.go, meetsCased_append_underscore, ← List.cons_append, ih]

theorem lowercase_append_underscore (front back : List Char) :
    lowercase (front ++ '_' :: back) = lowercase front ++ '_' :: lowercase back := by
  suffices h : ∀ before, lowercase.go before (front ++ '_' :: back)
      = lowercase.go before front ++ '_' :: lowercase.go [] back from h []
  have hunderscore : lowercaseChar '_' = ['_'] := by decide +kernel
  intro before
  induction front generalizing before with
  | nil =>
    have hgo := lowercase_go_append_underscore [] before back
    rw [List.nil_append] at hgo
    simp [lowercase.go, hunderscore, hgo]
  | cons c front ih =>
    rw [List.cons_append, lowercase.go, lowercase.go, meetsCased_append_underscore, ih, List.append_assoc]

end Underscore

section Newline

theorem shift_lowercaseShifts : ∀ entry ∈ lowercaseShifts, 10 < (entry.1.first : Int) + entry.2 := by
  decide +kernel

theorem eq_newline_of_toLower {c : Char} (h : c.toLower = '\n') : c = '\n' := by
  unfold Char.toLower at h
  split at h
  . next hupper =>
    have hlow : 65 ≤ c.val.toNat := UInt32.le_iff_toNat_le.1 hupper.1
    have hhigh : c.val.toNat ≤ 90 := UInt32.le_iff_toNat_le.1 hupper.2
    have hsum : (c.val.toNat + 32) % 2 ^ 32 = 10 := congrArg (fun d : Char => d.val.toNat) h
    omega
  . exact h

theorem eq_ten_of_ofNat {n : Nat} (h : Char.ofNat n = '\n') : n = 10 := by
  by_cases hvalid : n.isValidChar
  . rw [Char.ofNat, dif_pos hvalid] at h
    exact congrArg Char.toNat h
  . rw [Char.ofNat, dif_neg hvalid] at h
    contradiction

theorem eq_newline_of_mem_lowercaseChar {c : Char} (h : '\n' ∈ lowercaseChar c) : c = '\n' := by
  unfold lowercaseChar at h
  split at h
  . rw [List.mem_singleton] at h
    exact eq_newline_of_toLower h.symm
  . split at h
    . simp at h
    . split at h
      . next run shift hfound =>
        have hshift : 10 < (run.first : Int) + shift :=
          shift_lowercaseShifts (run, shift) (List.mem_of_find?_eq_some hfound)
        have hfirst : run.first ≤ c.toNat := by
          have hrun := List.find?_some hfound
          simp only [Run.contains, Bool.and_eq_true, decide_eq_true_eq] at hrun
          exact hrun.1.1
        rw [List.mem_singleton] at h
        have hten := eq_ten_of_ofNat h.symm
        omega
      . rw [List.mem_singleton] at h
        exact h.symm

theorem notMem_newline_lowercase {cs : List Char} (h : '\n' ∉ cs) : '\n' ∉ lowercase cs := by
  suffices hgo : ∀ before, '\n' ∉ lowercase.go before cs from hgo []
  intro before
  induction cs generalizing before with
  | nil => exact h
  | cons c cs ih =>
    rw [List.mem_cons, not_or] at h
    rw [lowercase.go, List.mem_append, not_or]
    refine ⟨?_, ih h.2 _⟩
    intro hmem
    split at hmem
    . split at hmem <;> simp at hmem
    . exact h.1 (eq_newline_of_mem_lowercaseChar hmem).symm

end Newline

end Text

end SchemaDesign
