import Mathlib.Data.List.Perm.Subperm
import SchemaDesign.Distinct

namespace SchemaDesign

variable {α σ : Type} [DecidableEq α]

theorem filter_addAllNew (p : α → Bool) (xs ys : List α) :
    (addAllNew xs ys).filter p = addAllNew (xs.filter p) (ys.filter p) := by
  induction ys generalizing xs with
  | nil => rfl
  | cons y ys ih =>
    rw [addAllNew, List.foldl_cons, ← addAllNew, ih, List.filter_cons]
    split
    . next hy =>
      rw [addAllNew, addAllNew, List.foldl_cons]
      congr 1
      unfold addNew
      by_cases hmem : y ∈ xs
      . simp [hmem, hy]
      . simp [hmem, hy]
    . next hy =>
      congr 1
      unfold addNew
      split
      . rfl
      . simp [hy]

theorem filter_distinct (p : α → Bool) (xs : List α) : (distinct xs).filter p = distinct (xs.filter p) :=
  filter_addAllNew p [] xs

theorem addAllNew_eq_append {xs ys : List α} (h : (xs ++ ys).Nodup) : addAllNew xs ys = xs ++ ys := by
  induction ys generalizing xs with
  | nil => rw [List.append_nil, addAllNew, List.foldl_nil]
  | cons y ys ih =>
    have hy : y ∉ xs := by grind
    rw [addAllNew, List.foldl_cons, addNew, if_neg hy, ← addAllNew, ih]
    . simp
    . simpa using h

theorem mem_distinct {xs : List α} {x : α} : x ∈ distinct xs ↔ x ∈ xs := by
  simp [distinct, mem_addAllNew]

theorem distinct_eq_self {xs : List α} (h : xs.Nodup) : distinct xs = xs :=
  addAllNew_eq_append h

theorem nodup_distinct (xs : List α) : (distinct xs).Nodup :=
  nodup_addAllNew List.nodup_nil

theorem subperm_distinct (xs : List α) : (distinct xs).Subperm xs := by
  apply List.Nodup.subperm (nodup_distinct xs)
  intro x
  exact mem_distinct.1

theorem length_distinct_lt {xs : List α} (h : ¬xs.Nodup) : (distinct xs).length < xs.length := by
  apply Nat.lt_of_le_of_ne (subperm_distinct xs).length_le
  intro hlength
  have hperm := (subperm_distinct xs).perm_of_length_le (Nat.le_of_eq hlength.symm)
  exact h (hperm.nodup_iff.1 (nodup_distinct xs))

theorem foldl_addAllNew {f : σ → α → σ} (h : ∀ s (xs : List α), ∀ x ∈ xs, f (xs.foldl f s) x = xs.foldl f s)
    (xs ys : List α) (s : σ) : (addAllNew xs ys).foldl f s = (xs ++ ys).foldl f s := by
  induction ys generalizing xs with
  | nil => rw [List.append_nil, addAllNew, List.foldl_nil]
  | cons y ys ih =>
    rw [addAllNew, List.foldl_cons, ← addAllNew, ih]
    unfold addNew
    split
    . next hy => rw [List.foldl_append, List.foldl_append, List.foldl_cons, h s xs y hy]
    . rw [List.append_assoc, List.singleton_append]

theorem prefix_addNew (xs : List α) (x : α) : xs <+: addNew xs x := by
  unfold addNew
  split
  . exact List.prefix_rfl
  . exact List.prefix_append xs [x]

theorem prefix_addAllNew (xs ys : List α) : xs <+: addAllNew xs ys := by
  induction ys generalizing xs with
  | nil => exact List.prefix_rfl
  | cons y ys ih => exact (prefix_addNew xs y).trans (ih (addNew xs y))

theorem nodup_addAllNew_iff {xs ys : List α} : (addAllNew xs ys).Nodup ↔ xs.Nodup := by
  constructor
  . intro h
    exact h.sublist (prefix_addAllNew xs ys).sublist
  . exact nodup_addAllNew

theorem addAllNew_eq_self {xs ys : List α} (h : ys ⊆ xs) : addAllNew xs ys = xs := by
  induction ys with
  | nil => rfl
  | cons y ys ih =>
    rw [List.cons_subset] at h
    rw [addAllNew, List.foldl_cons, addNew, if_pos h.1]
    exact ih h.2

theorem addAllNew_assoc (xs ys zs : List α) :
    addAllNew (addAllNew xs ys) zs = addAllNew xs (addAllNew ys zs) := by
  have honce : ∀ s (xs : List α), ∀ x ∈ xs, addNew (xs.foldl addNew s) x = xs.foldl addNew s := by
    intro s xs x hx
    exact if_pos (mem_addAllNew.2 (Or.inr hx))
  calc addAllNew (addAllNew xs ys) zs
    _ = (ys ++ zs).foldl addNew xs := List.foldl_append.symm
    _ = addAllNew xs (addAllNew ys zs) := (foldl_addAllNew honce ys zs xs).symm

end SchemaDesign
