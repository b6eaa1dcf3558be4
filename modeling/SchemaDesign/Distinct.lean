namespace SchemaDesign

variable {α : Type} [DecidableEq α]

def addNew (xs : List α) (x : α) : List α :=
  if x ∈ xs then xs else xs ++ [x]

def addAllNew (xs ys : List α) : List α :=
  ys.foldl addNew xs

def distinct (xs : List α) : List α :=
  addAllNew [] xs

theorem mem_addNew {xs : List α} {x y : α} : y ∈ addNew xs x ↔ y ∈ xs ∨ y = x := by
  unfold addNew
  split <;> simp_all

theorem mem_addAllNew {xs ys : List α} {y : α} : y ∈ addAllNew xs ys ↔ y ∈ xs ∨ y ∈ ys := by
  induction ys generalizing xs with
  | nil => simp [addAllNew]
  | cons x ys ih =>
    rw [addAllNew, List.foldl_cons, ← addAllNew, ih, mem_addNew, List.mem_cons]
    grind

theorem nodup_addNew {xs : List α} {x : α} (h : xs.Nodup) : (addNew xs x).Nodup := by
  unfold addNew
  split
  · exact h
  · rw [List.nodup_append]
    grind

theorem nodup_addAllNew {xs ys : List α} (h : xs.Nodup) : (addAllNew xs ys).Nodup := by
  induction ys generalizing xs with
  | nil => exact h
  | cons x ys ih => exact ih (nodup_addNew h)

end SchemaDesign
