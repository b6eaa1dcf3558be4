import Mathlib.Order.Bounds.Basic
import SchemaDesign.Logical.FreshName
import SchemaDesign.Proofs.Logical.Table

namespace SchemaDesign.Table

theorem toString_injective {a b : Nat} (h : toString a = toString b) : a = b := by
  have hdigits : Nat.toDigits 10 a = Nat.toDigits 10 b := by
    simpa [Nat.toString_eq_repr] using congrArg String.toList h
  have := congrArg (Nat.ofDigitChars 10 · 0) hdigits
  simpa only [Nat.ofDigitChars_ten_toDigits] using this

variable (t : Table) (stem : String)

theorem taken_of_lt_freeNumber (tries n k : Nat) (hn : n ≤ k)
    (hk : k < t.freeNumber stem tries n) : stem ++ "_" ++ toString k ∈ t.names := by
  induction tries generalizing n with
  | zero =>
    unfold freeNumber at hk
    omega
  | succ tries ih =>
    unfold freeNumber at hk
    split at hk
    . next htaken =>
      cases Nat.eq_or_lt_of_le hn with
      | inl heq =>
        rw [← heq]
        exact hasColumn_iff.1 htaken
      | inr hlt => exact ih (n + 1) hlt hk
    . omega

theorem freeNumber_free_or_exhausted (tries n : Nat) :
    stem ++ "_" ++ toString (t.freeNumber stem tries n) ∉ t.names
      ∨
    t.freeNumber stem tries n = n + tries := by
  induction tries generalizing n with
  | zero =>
    apply Or.inr
    simp [freeNumber]
  | succ tries ih =>
    unfold freeNumber
    split
    . cases ih (n + 1) with
      | inl hfree => exact Or.inl hfree
      | inr hlast =>
        apply Or.inr
        omega
    . next hfree =>
      apply Or.inl
      rw [← hasColumn_eq_false_iff]
      simpa using hfree

theorem freeNumber_free (n : Nat) :
    stem ++ "_" ++ toString (t.freeNumber stem t.columns.length n) ∉ t.names := by
  -- A table cannot take one more number than it has columns.
  intro htaken
  have hlast : t.freeNumber stem t.columns.length n = n + t.columns.length := by
    cases t.freeNumber_free_or_exhausted stem t.columns.length n with
    | inl hfree => exact absurd htaken hfree
    | inr hlast => exact hlast
  -- If all of them were taken, there would be as many columns with different names.
  have hnodup : ((List.range' n (t.columns.length + 1)).map fun k => stem ++ "_" ++ toString k).Nodup := by
    apply List.Pairwise.map _ _ List.nodup_range'
    intro a b hab heq
    apply hab
    apply toString_injective
    simpa using heq
  have hsubset : ((List.range' n (t.columns.length + 1)).map fun k => stem ++ "_" ++ toString k)
      ⊆ t.names := by
    intro name hname
    obtain ⟨k, hk, rfl⟩ := List.mem_map.1 hname
    rw [List.mem_range'_1] at hk
    by_cases hlt : k < n + t.columns.length
    . apply t.taken_of_lt_freeNumber stem t.columns.length n k
      . omega
      . omega
    . have : k = n + t.columns.length := by omega
      rw [this, ← hlast]
      exact htaken
  have hlength := hnodup.length_le_of_subset hsubset
  simp only [List.length_map, List.length_range', names] at hlength
  omega

theorem freshName_notMem (base : String) (qualifier : Option String) :
    t.freshName base qualifier ∉ t.names := by
  unfold freshName
  split
  . next hfree => simpa [hasColumn_eq_false_iff] using hfree
  . split
    . split
      . apply freeNumber_free
      . split
        . apply freeNumber_free
        . next hfree => simpa [hasColumn_eq_false_iff] using hfree
    . apply freeNumber_free

theorem freshName_of_notMem {base : String} (qualifier : Option String) (h : base ∉ t.names) :
    t.freshName base qualifier = base := by
  unfold freshName
  rw [if_pos]
  simpa [hasColumn_eq_false_iff] using h

theorem le_freeNumber (tries n : Nat) : n ≤ t.freeNumber stem tries n := by
  induction tries generalizing n with
  | zero => exact Nat.le_refl n
  | succ tries ih =>
    unfold freeNumber
    split
    . have := ih (n + 1)
      omega
    . exact Nat.le_refl n

theorem freeNumber_le (tries n : Nat) : t.freeNumber stem tries n ≤ n + tries := by
  induction tries generalizing n with
  | zero => exact Nat.le_refl n
  | succ tries ih =>
    unfold freeNumber
    split
    . have := ih (n + 1)
      omega
    . omega

theorem isLeast_freeNumber (n : Nat) :
    IsLeast {k | n ≤ k ∧ stem ++ "_" ++ toString k ∉ t.names} (t.freeNumber stem t.columns.length n) := by
  constructor
  . exact ⟨t.le_freeNumber stem _ n, t.freeNumber_free stem n⟩
  . rintro k ⟨hk, hfree⟩
    by_contra hlt
    exact hfree (t.taken_of_lt_freeNumber stem _ n k hk (Nat.lt_of_not_le hlt))

theorem freshName_qualified (key role : String) :
    t.freshName (key ++ "_" ++ role) (some role) = key ++ "_" ++ role
      ∨ ∃ n ≥ 2, t.freshName (key ++ "_" ++ role) (some role) = key ++ "_" ++ role ++ "_" ++ toString n := by
  unfold freshName
  split
  . exact Or.inl rfl
  . have hsuffix : ("_" ++ role).toList.isSuffixOf (key ++ "_" ++ role).toList = true := by
      rw [List.isSuffixOf_iff_suffix, String.append_assoc]
      exact ⟨key.toList, (String.toList_append ..).symm⟩
    simp only [hsuffix, if_true]
    exact Or.inr ⟨_, t.le_freeNumber _ _ 2, rfl⟩

end SchemaDesign.Table

namespace SchemaDesign

def qualified? (base : String) : Option String → Option String
  | some qualifier =>
    if ("_" ++ qualifier).toList <:+ base.toList then none else some (base ++ "_" ++ qualifier)
  | none => none

namespace Table

variable {t : Table} {base : String} {qualifier : Option String}

theorem freshName_of_mem (h : base ∈ t.names) :
    t.freshName base qualifier
      =
    match qualified? base qualifier with
    | some name => if name ∈ t.names then freshName.numbered t name else name
    | none => freshName.numbered t base := by
  unfold freshName
  rw [if_neg (by simpa using hasColumn_iff.2 h)]
  cases qualifier with
  | none => rfl
  | some q =>
    simp only [qualified?, List.isSuffixOf_iff_suffix, hasColumn_iff]
    split
    . rfl
    . rfl

theorem freshName_least (t : Table) (base : String) (qualifier : Option String) :
    t.freshName base qualifier ∉ t.names
      ∧ (base ∉ t.names → t.freshName base qualifier = base)
      ∧ (base ∈ t.names → ∀ name, qualified? base qualifier = some name → name ∉ t.names →
        t.freshName base qualifier = name)
      ∧ (base ∈ t.names → (∀ name, qualified? base qualifier = some name → name ∈ t.names) →
        ∃ n, IsLeast {k | 2 ≤ k ∧ (qualified? base qualifier).getD base ++ "_" ++ toString k ∉ t.names} n
          ∧ n ≤ t.columns.length + 2
          ∧ t.freshName base qualifier = (qualified? base qualifier).getD base ++ "_" ++ toString n) := by
  refine ⟨t.freshName_notMem base qualifier, t.freshName_of_notMem qualifier, ?_, ?_⟩
  . intro hbase name hname hfree
    rw [freshName_of_mem hbase, hname]
    exact if_neg hfree
  . intro hbase htaken
    refine ⟨_, t.isLeast_freeNumber _ 2, ?_, ?_⟩
    . rw [Nat.add_comm]
      exact t.freeNumber_le _ _ 2
    . rw [freshName_of_mem hbase]
      cases hname : qualified? base qualifier with
      | none => rfl
      | some name => exact if_pos (htaken name hname)

theorem freshName_least_visits :
    let t : Table := ⟨"visit", ["id", "id_cat", "id_cat_2", "id_3"].map .plain⟩
    ("day" ∉ t.names ∧ t.freshName "day" none = "day")
      ∧ ("id" ∈ t.names ∧ qualified? "id" (some "vet") = some "id_vet" ∧ "id_vet" ∉ t.names
        ∧ t.freshName "id" (some "vet") = "id_vet")
      ∧ ("id" ∈ t.names ∧ (∀ name, qualified? "id" (some "cat") = some name → name ∈ t.names)
        ∧ ∃ n, IsLeast {k | 2 ≤ k ∧ (qualified? "id" (some "cat")).getD "id" ++ "_" ++ toString k ∉ t.names} n
          ∧ n ≤ t.columns.length + 2
          ∧ t.freshName "id" (some "cat") = (qualified? "id" (some "cat")).getD "id" ++ "_" ++ toString n) := by
  intro t
  have hday : "day" ∉ t.names := by decide
  have hid : "id" ∈ t.names := by decide
  have hvet : "id_vet" ∉ t.names := by decide
  have hcat : ∀ name, qualified? "id" (some "cat") = some name → name ∈ t.names := by
    rintro _ ⟨⟩
    decide
  refine ⟨⟨hday, (freshName_least t "day" none).2.1 hday⟩, ⟨hid, rfl, hvet, ?_⟩, ⟨hid, hcat, ?_⟩⟩
  . exact (freshName_least t "id" (some "vet")).2.2.1 hid "id_vet" rfl hvet
  . exact (freshName_least t "id" (some "cat")).2.2.2 hid hcat

end Table

end SchemaDesign
