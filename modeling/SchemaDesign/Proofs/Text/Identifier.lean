import SchemaDesign.Proofs.Text.Blank
import SchemaDesign.Text.Alphanumeric

namespace SchemaDesign.Text

variable {c : Char} {cs front back : List Char}

section WordChar

theorem isWordChar_of_mem_blanks : ∀ c ∈ blanks, isWordChar c = false := by
  decide +kernel

theorem isBlank_of_isWordChar (h : isWordChar c = true) : isBlank c = false := by
  rw [Bool.eq_false_iff]
  intro hblank
  rw [isBlank, List.contains_iff_mem] at hblank
  rw [isWordChar_of_mem_blanks c hblank] at h
  contradiction

theorem ne_of_isWordChar {d : Char} (h : isWordChar c = true) (hd : isWordChar d = false) : c ≠ d := by
  rintro rfl
  rw [h] at hd
  contradiction

theorem isIdentifier_iff : isIdentifier cs = true ↔ cs ≠ [] ∧ ∀ c ∈ cs, isWordChar c = true := by
  simp [isIdentifier]

theorem isWord_of_isIdentifier (h : isIdentifier cs = true) : IsWord cs := by
  rw [isIdentifier_iff] at h
  refine ⟨h.1, ?_⟩
  intro c hc
  exact isBlank_of_isWordChar (h.2 c hc)

theorem isIdentifier_toString (n : Nat) : isIdentifier (toString n).toList = true := by
  rw [Nat.toString_eq_repr, Nat.toList_repr, isIdentifier_iff]
  refine ⟨Nat.toDigits_ne_nil, ?_⟩
  intro c hc
  have hdigit : c.isDigit = true := Nat.isDigit_of_mem_toDigits (by decide) (by decide) hc
  simp [isWordChar, isAlphanumeric, Char.isAlphanum, hdigit]

theorem isAlpha_of_toUpper (h : c.toUpper.isAlpha = true) : c.isAlpha = true := by
  unfold Char.toUpper at h
  split at h
  . next hlower =>
    have hc : c.isLower = true :=
      Bool.and_eq_true_iff.2 ⟨decide_eq_true hlower.1, decide_eq_true hlower.2⟩
    exact Bool.or_eq_true_iff.2 (Or.inr hc)
  . exact h

theorem spells_eq {keyword : String} (h : spells cs keyword = true) (other : String) :
    spells cs other = decide (keyword = other) := by
  rw [spells, beq_iff_eq] at h
  rw [spells, h, Bool.beq_eq_decide_eq, decide_eq_decide]
  exact String.toList_inj

theorem spells_append_eq_false {keyword : String} (h : ¬upcase front <+: keyword.toList) (back : List Char) :
    spells (front ++ back) keyword = false := by
  rw [spells, beq_eq_false_iff_ne]
  intro heq
  apply h
  rw [← heq, upcase, upcase, List.map_append]
  exact List.prefix_append ..

theorem isIdentifier_of_spells {keyword : String} (hnonempty : keyword ≠ "")
    (hletters : ∀ c ∈ keyword.toList, c.isAlpha = true) (h : spells cs keyword = true) :
    isIdentifier cs = true := by
  rw [spells, beq_iff_eq] at h
  rw [isIdentifier_iff]
  constructor
  . rintro rfl
    apply hnonempty
    exact String.toList_injective h.symm
  . intro c hc
    have hupper : c.toUpper ∈ keyword.toList := by
      rw [← h]
      exact List.mem_map_of_mem hc
    have hletter : c.isAlpha = true := isAlpha_of_toUpper (hletters _ hupper)
    simp [isWordChar, isAlphanumeric, Char.isAlphanum, hletter]

end WordChar

section Cut

variable {p : Char → Bool}

theorem cut_append_cons (h : ∀ c ∈ front, p c = false) (hc : p c = true) :
    cut p (front ++ c :: back) = some (front, back) := by
  induction front with
  | nil => simp [cut, hc]
  | cons d front ih =>
    simp only [List.mem_cons, forall_eq_or_imp] at h
    simp [cut, h.1, ih h.2]

theorem cut_eq_some_iff :
    cut p cs = some (front, back) ↔ ∃ c, p c = true ∧ (∀ d ∈ front, p d = false) ∧ cs = front ++ c :: back := by
  constructor
  . intro h
    induction cs generalizing front with
    | nil => contradiction
    | cons c cs ih =>
      rw [cut] at h
      split at h
      . next hc =>
        cases h
        exact ⟨c, hc, by simp, rfl⟩
      . next hc =>
        obtain ⟨⟨before, after⟩, hrest, hparts⟩ := Option.map_eq_some_iff.1 h
        cases hparts
        obtain ⟨c', hc', hbefore, rfl⟩ := ih hrest
        refine ⟨c', hc', ?_, rfl⟩
        rw [List.forall_mem_cons]
        exact ⟨by simpa using hc, hbefore⟩
  . rintro ⟨c, hc, hfront, rfl⟩
    exact cut_append_cons hfront hc

theorem cut_eq_none (h : ∀ c ∈ cs, p c = false) : cut p cs = none := by
  induction cs with
  | nil => rfl
  | cons c cs ih =>
    rw [List.forall_mem_cons] at h
    simp [cut, h.1, ih h.2]

theorem getD_cut (cs : List Char) :
    (cut p cs).getD (cs, []) = (cs.takeWhile (!p ·), (cs.dropWhile (!p ·)).tail) := by
  induction cs with
  | nil => rfl
  | cons c cs ih =>
    cases hc : p c with
    | true => simp [cut, hc]
    | false =>
      have hsame : (cut p (c :: cs)).getD (c :: cs, []) = Prod.map (c :: ·) id ((cut p cs).getD (cs, [])) := by
        rw [cut, if_neg (by simp [hc])]
        cases cut p cs with
        | none => rfl
        | some parts => rfl
      rw [hsame, ih]
      simp [hc]

theorem trim_tail_dropWhile (cs : List Char) :
    trim (cs.dropWhile (!isBlank ·)).tail = trim (cs.dropWhile (!isBlank ·)) := by
  cases hrest : cs.dropWhile (!isBlank ·) with
  | nil => rfl
  | cons c rest =>
    have hhead := eq_false_of_mem_head?_dropWhile (p := (!isBlank ·)) cs c (by simp [hrest])
    rw [List.tail_cons, trim_cons]
    simpa using hhead

theorem dropLast?_append_singleton : dropLast? c (cs ++ [c]) = some cs := by
  simp [dropLast?]

theorem dropLast?_eq_some_iff : dropLast? c cs = some front ↔ cs = front ++ [c] := by
  constructor
  . intro h
    unfold dropLast? at h
    split at h
    . next hlast =>
      obtain ⟨init, rfl⟩ := List.getLast?_eq_some_iff.1 hlast
      rw [List.dropLast_concat, Option.some.injEq] at h
      rw [h]
    . contradiction
  . rintro rfl
    exact dropLast?_append_singleton

end Cut

end SchemaDesign.Text
