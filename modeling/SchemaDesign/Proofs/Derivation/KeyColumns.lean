import Mathlib.Data.List.Nodup
import SchemaDesign.Proofs.Derivation.Flatten

namespace SchemaDesign.Derivation

variable {key parent : String} {t u : Table}

def withoutOwnKey (key : String) (t : Table) : Table :=
  { t with columns := t.columns.filter fun c => !(c.name = key && c.isKey && c.reference.isNone) }

theorem columns_referToParent :
    (referToParent parent key t).columns
      =
    .keyReferring ((withoutOwnKey key t).freshName key (some (lowercaseName parent))) parent key
      :: (withoutOwnKey key t).columns := rfl

theorem names_withoutOwnKey_sublist : (withoutOwnKey key t).names.Sublist t.names :=
  List.filter_sublist.map _

theorem names_referToParent :
    (referToParent parent key t).names
      =
    (withoutOwnKey key t).freshName key (some (lowercaseName parent)) :: (withoutOwnKey key t).names := rfl

theorem nodup_names_referToParent (h : t.names.Nodup) : (referToParent parent key t).names.Nodup := by
  rw [names_referToParent, List.nodup_cons]
  constructor
  . apply Table.freshName_notMem
  . exact h.sublist names_withoutOwnKey_sublist

theorem nodup_names_inheritColumns (hu : u.names.Nodup) (h : t.names.Nodup) :
    (inheritColumns u.columns t).names.Nodup := by
  unfold Table.names inheritColumns
  rw [List.map_append, List.nodup_append]
  refine ⟨hu, h.sublist (List.filter_sublist.map _), ?_⟩
  intro inherited hinherited own hown heq
  obtain ⟨c, hc, hname⟩ := List.mem_map.1 hinherited
  obtain ⟨c', hc', hname'⟩ := List.mem_map.1 hown
  have := (List.mem_filter.1 hc').2
  simp only [Bool.not_eq_true', List.any_eq_false, decide_eq_true_eq] at this
  apply this c hc
  rw [hname, hname', heq]

structure AwaitsKey (t : Table) (key : String) (byReference : Prop) : Prop where
  keys : ∀ c ∈ t.columns, c.isKey = true → c = ⟨key, true, none⟩
  names : byReference → ∀ c ∈ t.columns, c.name = key → c.isKey = true

variable {byReference : Prop}

theorem AwaitsKey.keyNames_referToParent (h : AwaitsKey t key byReference) (hreference : byReference) :
    (referToParent parent key t).keyNames = [key] := by
  -- The own key gives way to the reference, which can take its name then.
  have hplain : ∀ c ∈ (withoutOwnKey key t).columns, c.isKey = false := by
    intro c hc
    have hc := List.mem_filter.1 hc
    rw [← Bool.not_eq_true]
    intro hkey
    rw [h.keys c hc.1 hkey] at hc
    simp at hc
  have hfree : key ∉ (withoutOwnKey key t).names := by
    intro hmem
    obtain ⟨c, hc, hname⟩ := List.mem_map.1 hmem
    have hkey := h.names hreference c (List.mem_filter.1 hc).1 hname
    rw [hplain c hc] at hkey
    contradiction
  have hkeys : (withoutOwnKey key t).columns.filter (·.isKey) = [] := by
    rw [List.filter_eq_nil_iff]
    intro c hc
    simp [hplain c hc]
  unfold Table.keyNames Table.keys
  rw [columns_referToParent, List.filter_cons, hkeys, Table.freshName_of_notMem _ _ hfree]
  rfl

theorem AwaitsKey.keyNames_inheritColumns (h : AwaitsKey t key byReference) (hu : u.keyNames = [key]) :
    (inheritColumns u.columns t).keyNames = [key] := by
  obtain ⟨c, hc, _, hname⟩ := Table.mem_keyNames.1 (show key ∈ u.keyNames by simp [hu])
  have hown : ((t.columns.filter fun c => !u.columns.any (·.name = c.name)).filter (·.isKey)) = [] := by
    rw [List.filter_eq_nil_iff]
    intro c' hc' hkey
    have hc' := List.mem_filter.1 hc'
    rw [h.keys c' hc'.1 hkey] at hc'
    simp only [Bool.not_eq_true', List.any_eq_false, decide_eq_true_eq] at hc'
    exact hc'.2 c hc hname
  unfold Table.keyNames Table.keys inheritColumns
  rw [List.filter_append, hown, List.append_nil]
  exact hu

theorem AwaitsKey.grows {P : Column → Prop} (h : AwaitsKey t key byReference) (hgrows : t.Grows P u)
    (hP : ∀ c, P c → c.isKey = false) (hkey : key ∈ t.names) : AwaitsKey u key byReference := by
  constructor
  . intro c hc hckey
    cases hgrows.mem_columns hc with
    | inl hold => exact h.keys c hold hckey
    | inr hnew =>
      rw [hP c hnew.1] at hckey
      contradiction
  . intro hreference c hc hname
    cases hgrows.mem_columns hc with
    | inl hold => exact h.names hreference c hold hname
    | inr hnew =>
      rw [hname] at hnew
      exact absurd hkey hnew.2

theorem AwaitsKey.keyNames_eq (h : AwaitsKey t key byReference) (hnames : t.names.Nodup)
    (hkeyed : t.keyNames ≠ []) : t.keyNames = [key] := by
  have hall : ∀ k ∈ t.keyNames, k = key := by
    intro k hk
    obtain ⟨c, hc, hckey, hname⟩ := Table.mem_keyNames.1 hk
    rw [← hname, h.keys c hc hckey]
  have hnodup := hnames.sublist t.keyNames_sublist
  cases hkeys : t.keyNames with
  | nil => exact absurd hkeys hkeyed
  | cons first rest =>
    rw [hkeys] at hall hnodup
    rw [hall first (List.mem_cons_self ..)]
    cases rest with
    | nil => rfl
    | cons second rest =>
      have hfirst := hall first (by simp)
      have hsecond := hall second (by simp)
      simp [hfirst, hsecond] at hnodup

theorem keyNames_subset_referToParent (h : t.names.Nodup) :
    t.keyNames ⊆ (referToParent parent key t).keyNames := by
  intro k hk
  obtain ⟨c, hc, hckey, hname⟩ := Table.mem_keyNames.1 hk
  rw [Table.mem_keyNames, columns_referToParent]
  by_cases hkept : c ∈ (withoutOwnKey key t).columns
  . exact ⟨c, List.mem_cons_of_mem _ hkept, hckey, hname⟩
  . -- The reference takes the name of the column that gives way to it, which no other column has.
    have hgone : c.name = key := by
      rw [withoutOwnKey, List.mem_filter] at hkept
      simp only [hc, true_and, Bool.not_eq_true', Bool.not_eq_false, Bool.and_eq_true,
        decide_eq_true_eq] at hkept
      exact hkept.1.1
    have hfree : key ∉ (withoutOwnKey key t).names := by
      intro hmem
      obtain ⟨c', hc', hname'⟩ := List.mem_map.1 hmem
      rw [← hgone] at hname'
      rw [List.inj_on_of_nodup_map h (List.mem_filter.1 hc').1 hc hname'] at hc'
      exact hkept hc'
    refine ⟨_, List.mem_cons_self .., rfl, ?_⟩
    rw [Column.name_keyReferring, Table.freshName_of_notMem _ _ hfree, ← hname, hgone]

theorem keyNames_subset_iterate_referToParent (h : t.names.Nodup) (n : Nat) :
    t.keyNames ⊆ ((referToParent parent key)^[n] t).keyNames := by
  induction n generalizing t with
  | zero => exact List.Subset.refl _
  | succ n ih =>
    rw [Function.iterate_succ_apply]
    apply List.Subset.trans (keyNames_subset_referToParent h)
    exact ih (nodup_names_referToParent h)

end SchemaDesign.Derivation
