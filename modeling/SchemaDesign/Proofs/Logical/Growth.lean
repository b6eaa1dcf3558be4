import SchemaDesign.Proofs.Logical.Table

namespace SchemaDesign.Table

inductive Grows (P : Column → Prop) (t : Table) : Table → Prop
  | refl : Grows P t t
  | append {u : Table} {c : Column} (grown : Grows P t u) (free : c.name ∉ u.names) (hc : P c) :
    Grows P t (u.append c)

namespace Grows

variable {P Q : Column → Prop} {t u v : Table}

theorem mono (hPQ : ∀ c, P c → Q c) (h : Grows P t u) : Grows Q t u := by
  induction h with
  | refl => exact refl
  | append _ free hc ih => exact append ih free (hPQ _ hc)

theorem trans (h : Grows P t u) (h' : Grows P u v) : Grows P t v := by
  induction h' with
  | refl => exact h
  | append _ free hc ih => exact append ih free hc

theorem of_append {c : Column} (free : c.name ∉ t.names) (hc : P c) : Grows P t (t.append c) :=
  append refl free hc

theorem appendIfFree (t : Table) {c : Column} (hc : P c) :
    Grows P t (if t.hasColumn c.name then t else t.append c) := by
  split
  . exact refl
  . next hfree =>
    apply of_append _ hc
    simpa [hasColumn_eq_false_iff] using hfree

theorem foldl {α : Type} {step : Table → α → Table} (as : List α) (t : Table)
    (hstep : ∀ a ∈ as, ∀ u, Grows P u (step u a)) : Grows P t (as.foldl step t) := by
  induction as generalizing t with
  | nil => exact refl
  | cons a as ih =>
    rw [List.foldl_cons]
    apply trans
    . exact hstep a (List.mem_cons_self ..) t
    . apply ih
      intro b hb
      exact hstep b (List.mem_cons_of_mem _ hb)

theorem name_eq (h : Grows P t u) : u.name = t.name := by
  induction h with
  | refl => rfl
  | append _ _ _ ih => rw [name_append, ih]

theorem columns_prefix (h : Grows P t u) : t.columns <+: u.columns := by
  induction h with
  | refl => exact List.prefix_rfl
  | append _ _ _ ih => exact ih.trans (List.prefix_append ..)

theorem names_subset (h : Grows P t u) : t.names ⊆ u.names :=
  (h.columns_prefix.map _).subset

theorem mem_columns (h : Grows P t u) {c : Column} (hc : c ∈ u.columns) :
    c ∈ t.columns ∨ (P c ∧ c.name ∉ t.names) := by
  induction h with
  | refl => exact Or.inl hc
  | append grown free hP ih =>
    simp only [Table.append, List.mem_append, List.mem_singleton] at hc
    cases hc with
    | inl hold => exact ih hold
    | inr hnew =>
      rw [hnew]
      apply Or.inr
      refine ⟨hP, ?_⟩
      intro hname
      exact free (grown.names_subset hname)

theorem references_subset (h : Grows P t u) : t.references ⊆ u.references :=
  (h.columns_prefix.filterMap _).subset

theorem nodup_names (h : Grows P t u) (ht : t.names.Nodup) : u.names.Nodup := by
  induction h with
  | refl => exact ht
  | append _ free _ ih =>
    rw [names_append, List.nodup_append]
    grind

theorem mem_references (h : Grows P t u) {fk : ForeignKey} (hfk : fk ∈ u.references) :
    fk ∈ t.references ∨ ∃ c, P c ∧ c.reference = some fk := by
  obtain ⟨c, hc, href⟩ := Table.mem_references.1 hfk
  cases h.mem_columns hc with
  | inl hold => exact Or.inl (Table.mem_references.2 ⟨c, hold, href⟩)
  | inr hnew => exact Or.inr ⟨c, hnew.1, href⟩

theorem keys_eq (h : Grows P t u) (hP : ∀ c, P c → c.isKey = false) : u.keys = t.keys := by
  induction h with
  | refl => rfl
  | append _ _ hc ih =>
    rw [← ih]
    simp [keys, Table.append, hP _ hc]

theorem keyNames_eq (h : Grows P t u) (hP : ∀ c, P c → c.isKey = false) :
    u.keyNames = t.keyNames := by
  unfold keyNames
  rw [h.keys_eq hP]

end Grows

end SchemaDesign.Table
