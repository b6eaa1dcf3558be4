import SchemaDesign.Ddl.Order
import SchemaDesign.Proofs.Logical.Dependence

/-!
This module contains the order in which tables are created. Tables from which no cycle can be reached come first, sorted
by the longest chain of references that starts at them. The other ones follow as they are in the model, those on a cycle
and those that only lead to one alike.
-/

namespace List

variable {α : Type} {key : α → Nat} {l s : List α}

theorem pairwise_mergeSort_key (key : α → Nat) (l : List α) :
    (l.mergeSort (key · ≤ key ·)).Pairwise (key · ≤ key ·) := by
  have h := @pairwise_mergeSort α (key · ≤ key ·) (by grind) (by grind) l
  simpa using h

theorem filter_mergeSort_key (key : α → Nat) (l : List α) (k : Nat) :
    (l.mergeSort (key · ≤ key ·)).filter (key · = k) = l.filter (key · = k) := by
  -- The members of one key are sorted as they stand, so that sorting keeps them together in this order.
  have hsame : (l.filter (key · = k)).Pairwise (decide <| key · ≤ key ·) := by
    apply pairwise_of_forall_mem_list
    grind
  have hsublist : l.filter (key · = k) <+ l.mergeSort (key · ≤ key ·) :=
    sublist_mergeSort (by grind) (by grind) hsame filter_sublist
  have hfilter := hsublist.filter (key · = k)
  rw [filter_filter] at hfilter
  simp only [Bool.and_self] at hfilter
  have hperm := (mergeSort_perm l (key · ≤ key ·)).filter (key · = k)
  exact (hfilter.eq_of_length hperm.length_eq.symm).symm

theorem eq_of_pairwise_key (hl : l.Pairwise (key · ≤ key ·)) (hs : s.Pairwise (key · ≤ key ·))
    (h : ∀ k, l.filter (key · = k) = s.filter (key · = k)) : l = s := by
  induction l generalizing s with
  | nil =>
    cases s with
    | nil => rfl
    | cons b s => simpa using h (key b)
  | cons a l ih =>
    cases s with
    | nil => simpa using h (key a)
    | cons b s =>
      have hb : b ∈ a :: l := by
        have hmem : b ∈ (b :: s).filter (key · = key b) := by simp
        rw [← h, mem_filter] at hmem
        exact hmem.1
      have ha : a ∈ b :: s := by
        have hmem : a ∈ (a :: l).filter (key · = key a) := by simp
        rw [h, mem_filter] at hmem
        exact hmem.1
      rw [pairwise_cons] at hl hs
      have hkey : key b = key a := by
        grind
      have hhead : a = b := by simpa [hkey] using congrArg head? (h (key a))
      subst hhead
      congr 1
      apply ih hl.2 hs.2
      intro k
      have hk := h k
      rw [filter_cons, filter_cons] at hk
      split at hk
      . exact (cons.inj hk).2
      . exact hk

theorem mergeSort_eq_filter_append {p : α → Bool} {n : Nat} (hp : ∀ a ∈ l, p a = true → key a = n)
    (hn : ∀ a ∈ l, p a = false → n < key a) :
    l.mergeSort (key · ≤ key ·) = l.filter p ++ (l.filter (!p ·)).mergeSort (key · ≤ key ·) := by
  apply eq_of_pairwise_key (pairwise_mergeSort_key key l)
  . rw [pairwise_append]
    refine ⟨?_, pairwise_mergeSort_key key _, ?_⟩
    . apply pairwise_of_forall_mem_list
      grind
    . simp only [mem_mergeSort]
      grind
  . intro k
    rw [filter_mergeSort_key, filter_append, filter_mergeSort_key, filter_filter, filter_filter]
    by_cases hk : k = n
    . have hlater : l.filter (fun a => decide (key a = k) && !p a) = [] := by
        rw [filter_eq_nil_iff]
        grind
      rw [hlater, append_nil]
      apply filter_congr
      grind
    . have hfirst : l.filter (fun a => decide (key a = k) && p a) = [] := by
        rw [filter_eq_nil_iff]
        grind
      rw [hfirst, nil_append]
      apply filter_congr
      grind

theorem pair_sublist_of_key_lt (hl : l.Pairwise (key · ≤ key ·)) {a b : α} (ha : a ∈ l) (hb : b ∈ l)
    (hlt : key a < key b) : [a, b] <+ l := by
  obtain ⟨front, back, rfl⟩ := append_of_mem ha
  rw [pairwise_append] at hl
  have hback : b ∈ back := by
    grind
  exact (singleton_sublist.2 hback).cons_cons a |>.trans (sublist_append_right front _)

theorem sublist_filter_iff_of_forall {p : α → Bool} (h : ∀ a ∈ s, p a = true) : s <+ l.filter p ↔ s <+ l := by
  constructor
  . intro hs
    exact hs.trans filter_sublist
  . intro hs
    rw [← filter_eq_self.2 h]
    exact hs.filter p

end List

namespace SchemaDesign

open Relation

def PhysicalTable.referringTo (name : String) (targets : List String) : PhysicalTable :=
  ⟨name, ⟨"id", "INT", true, none, []⟩ :: targets.map fun t => ⟨t, "INT", false, some (.plain t t "id"), []⟩⟩

namespace PhysicalModel

variable {m : PhysicalModel}

section Ready

theorem names_toLogical (m : PhysicalModel) : m.toLogical.names = m.tables.map (·.name) := by
  simp [toLogical, LogicalModel.names, PhysicalTable.toTable]

variable (hnames : (m.tables.map (·.name)).Nodup)

include hnames

theorem eq_of_name_eq {t u : PhysicalTable} (ht : t ∈ m.tables) (hu : u ∈ m.tables) (h : t.name = u.name) : t = u :=
  List.inj_on_of_nodup_map hnames ht hu h

theorem find?_reverse_tables {t : PhysicalTable} (ht : t ∈ m.tables) :
    m.tables.reverse.find? (·.name = t.name) = some t := by
  cases hfind : m.tables.reverse.find? (·.name = t.name) with
  | none =>
    rw [List.find?_eq_none] at hfind
    simpa using hfind t (List.mem_reverse.2 ht)
  | some u =>
    have hu := List.mem_reverse.1 (List.mem_of_find?_eq_some hfind)
    have hname : u.name = t.name := by simpa using List.find?_some hfind
    rw [eq_of_name_eq hnames hu ht hname]

theorem dependsOn_iff {t : PhysicalTable} (ht : t ∈ m.tables) {target : String} :
    m.toLogical.DependsOn t.name target
      ↔
    target ≠ t.name ∧ target ∈ m.tables.map (·.name) ∧ ∃ fk ∈ t.toTable.references, fk.table = target := by
  rw [LogicalModel.DependsOn, names_toLogical]
  apply and_congr_right
  intro _
  apply and_congr_right
  intro _
  constructor
  . rintro ⟨u', hu', hname, hfk⟩
    obtain ⟨u, hu, rfl⟩ := List.mem_map.1 hu'
    rwa [eq_of_name_eq hnames hu ht hname] at hfk
  . intro hfk
    exact ⟨t.toTable, List.mem_map_of_mem ht, rfl, hfk⟩

theorem mem_parents_iff {t : PhysicalTable} (ht : t ∈ m.tables) {target : String} :
    target ∈ m.parents t.name ↔ m.toLogical.DependsOn t.name target := by
  have hmem : target ∈ m.parents t.name
      ↔ (∃ fk ∈ t.toTable.references, fk.table = target) ∧ target ≠ t.name ∧ target ∈ m.tables.map (·.name) := by
    simp [parents, find?_reverse_tables hnames ht]
  rw [hmem, dependsOn_iff hnames ht, and_comm, and_assoc]

theorem isReady_iff {created : List String} {t : PhysicalTable} (ht : t ∈ m.tables) :
    m.isReady created t = true ↔ ∀ target, m.toLogical.DependsOn t.name target → target ∈ created := by
  simp [isReady, mem_parents_iff hnames ht]

end Ready

section Rounds

def ReachesCycle (m : PhysicalModel) (t : PhysicalTable) : Prop :=
  LeadsToCycle m.toLogical.DependsOn t.name

/--
The length of the longest chain of references that starts at the table.
-/
noncomputable def level (m : PhysicalModel) (t : PhysicalTable) : Nat :=
  longestChain m.toLogical.DependsOn t.name

def IsBelow (m : PhysicalModel) (n : Nat) (t : PhysicalTable) : Prop :=
  ChainsBelow m.toLogical.DependsOn n t.name

theorem isBelow_iff {n : Nat} {t : PhysicalTable} : m.IsBelow n t ↔ ¬m.ReachesCycle t ∧ m.level t < n :=
  chainsBelow_iff fun _ _ => LogicalModel.DependsOn.mem_names

theorem isBelow_succ_iff {n : Nat} {t : PhysicalTable} :
    m.IsBelow (n + 1) t ↔ ∀ u ∈ m.tables, m.toLogical.DependsOn t.name u.name → m.IsBelow n u := by
  rw [IsBelow, chainsBelow_succ_iff]
  constructor
  . intro h u _ hu
    exact h u.name hu
  . intro h target htarget
    have hmem := htarget.mem_names
    rw [names_toLogical] at hmem
    obtain ⟨u, hu, rfl⟩ := List.mem_map.1 hmem
    exact h u hu htarget

theorem isBelow_length_iff {t : PhysicalTable} : m.IsBelow (m.tables.length + 1) t ↔ ¬m.ReachesCycle t := by
  constructor
  . exact ChainsBelow.not_leadsToCycle
  . intro hnot
    have hbelow := chainsBelow_of_not_leadsToCycle (fun _ _ => LogicalModel.DependsOn.mem_names) hnot
    rwa [names_toLogical, List.length_map] at hbelow

instance decidableIsBelow (m : PhysicalModel) : (n : Nat) → (t : PhysicalTable) → Decidable (m.IsBelow n t)
  | 0, _ => isFalse not_chainsBelow_zero
  | n + 1, _ =>
    have := decidableIsBelow m n
    decidable_of_iff _ isBelow_succ_iff.symm

instance (m : PhysicalModel) (t : PhysicalTable) : Decidable (m.ReachesCycle t) :=
  decidable_of_iff (¬m.IsBelow (m.tables.length + 1) t) (by rw [isBelow_length_iff, not_not])

theorem isBelow_of_stuck {n : Nat} (h : ∀ t ∈ m.tables, m.IsBelow (n + 1) t → m.IsBelow n t) (k : Nat) :
    ∀ t ∈ m.tables, m.IsBelow k t → m.IsBelow n t := by
  -- What a table refers to starts shorter chains, and is below `n` by induction on their length.
  induction k with
  | zero =>
    intro t _ hbelow
    exact hbelow.mono (Nat.zero_le n)
  | succ k ih =>
    intro t ht hbelow
    apply h t ht
    rw [isBelow_succ_iff] at hbelow ⊢
    intro u hu hdepends
    exact ih u hu (hbelow u hu hdepends)

structure BeforeRound (m : PhysicalModel) (n : Nat) (created : List String) (remaining : List PhysicalTable) :
    Prop where
  mem_created : ∀ t ∈ m.tables, t.name ∈ created ↔ m.IsBelow n t
  mem_remaining : ∀ t, t ∈ remaining ↔ t ∈ m.tables ∧ ¬m.IsBelow n t

theorem beforeRound_zero (m : PhysicalModel) : m.BeforeRound 0 [] m.tables := by
  have hnone : ∀ t, ¬m.IsBelow 0 t := fun _ => not_chainsBelow_zero
  constructor
  . simp [hnone]
  . simp [hnone]

namespace BeforeRound

variable {n : Nat} {created : List String} {remaining : List PhysicalTable}

variable (hnames : (m.tables.map (·.name)).Nodup)

include hnames

theorem isReady_iff (h : m.BeforeRound n created remaining) {t : PhysicalTable} (ht : t ∈ m.tables) :
    m.isReady created t = true ↔ m.IsBelow (n + 1) t := by
  rw [PhysicalModel.isReady_iff hnames ht, isBelow_succ_iff]
  constructor
  . intro hready u hu hdepends
    exact (h.mem_created u hu).1 (hready u.name hdepends)
  . intro hbelow target hdepends
    have hmem := hdepends.mem_names
    rw [names_toLogical] at hmem
    obtain ⟨u, hu, rfl⟩ := List.mem_map.1 hmem
    exact (h.mem_created u hu).2 (hbelow u hu hdepends)

theorem isReady_iff_level (h : m.BeforeRound n created remaining) {t : PhysicalTable} (ht : t ∈ remaining) :
    m.isReady created t = true ↔ ¬m.ReachesCycle t ∧ m.level t = n := by
  obtain ⟨hmem, hlate⟩ := (h.mem_remaining _).1 ht
  rw [h.isReady_iff hnames hmem, isBelow_iff]
  rw [isBelow_iff] at hlate
  grind

theorem next (h : m.BeforeRound n created remaining) :
    m.BeforeRound (n + 1) (created ++ (m.ready created remaining).map (·.name)) (m.waiting created remaining) := by
  constructor
  . intro t ht
    rw [List.mem_append, h.mem_created t ht]
    constructor
    . rintro (hbelow | hready)
      . exact hbelow.mono (Nat.le_succ n)
      . obtain ⟨u, hu, hname⟩ := List.mem_map.1 hready
        obtain ⟨hu, hready⟩ := List.mem_filter.1 hu
        rw [h.isReady_iff hnames ((h.mem_remaining _).1 hu).1, IsBelow, hname] at hready
        exact hready
    . intro hbelow
      by_cases hearly : m.IsBelow n t
      . exact Or.inl hearly
      . have hready := (h.isReady_iff hnames ht).2 hbelow
        exact Or.inr (List.mem_map_of_mem (List.mem_filter.2 ⟨(h.mem_remaining _).2 ⟨ht, hearly⟩, hready⟩))
  . intro t
    rw [waiting, List.mem_filter, h.mem_remaining, and_assoc]
    apply and_congr_right
    intro ht
    rw [Bool.not_eq_true', ← Bool.not_eq_true, h.isReady_iff hnames ht]
    constructor
    . exact And.right
    . intro hlate
      exact ⟨fun hbelow => hlate (hbelow.mono (Nat.le_succ n)), hlate⟩

theorem reachesCycle_of_stuck (h : m.BeforeRound n created remaining) (hstuck : m.ready created remaining = []) :
    ∀ t ∈ remaining, m.ReachesCycle t := by
  intro t ht
  obtain ⟨hmem, hlate⟩ := (h.mem_remaining _).1 ht
  by_contra hnot
  -- Away from cycles there is a longest chain, and the round would have to be later than its length.
  apply hlate
  apply isBelow_of_stuck _ (m.level t + 1) t hmem (isBelow_iff.2 ⟨hnot, Nat.lt_succ_self _⟩)
  intro u hu hbelow
  by_contra hlater
  rw [ready, List.filter_eq_nil_iff] at hstuck
  exact hstuck u ((h.mem_remaining _).2 ⟨hu, hlater⟩) ((h.isReady_iff hnames hu).2 hbelow)

theorem mergeSort_remaining (h : m.BeforeRound n created remaining) :
    (remaining.filter (¬m.ReachesCycle ·)).mergeSort (m.level · ≤ m.level ·)
      =
    m.ready created remaining
      ++ ((m.waiting created remaining).filter (¬m.ReachesCycle ·)).mergeSort (m.level · ≤ m.level ·) := by
  have hround : ∀ t ∈ remaining, m.isReady created t = true ↔ ¬m.ReachesCycle t ∧ m.level t = n :=
    fun t ht => h.isReady_iff_level hnames ht
  have hlate : ∀ t ∈ remaining, ¬m.ReachesCycle t → n ≤ m.level t := by
    intro t ht hnot
    have hlate := ((h.mem_remaining t).1 ht).2
    rw [isBelow_iff] at hlate
    exact Nat.le_of_not_lt fun hlt => hlate ⟨hnot, hlt⟩
  have hfirst : (remaining.filter (¬m.ReachesCycle ·)).filter (m.isReady created) = m.ready created remaining := by
    rw [ready, List.filter_filter]
    apply List.filter_congr
    grind
  have hrest : (remaining.filter (¬m.ReachesCycle ·)).filter (!m.isReady created ·)
      = (m.waiting created remaining).filter (¬m.ReachesCycle ·) := by
    rw [waiting, List.filter_filter, List.filter_filter]
    apply List.filter_congr
    grind
  rw [← hfirst, ← hrest]
  apply List.mergeSort_eq_filter_append
  . intro t ht hready
    exact ((hround t (List.mem_of_mem_filter ht)).1 hready).2
  . grind

theorem filter_reachesCycle_waiting (h : m.BeforeRound n created remaining) :
    (m.waiting created remaining).filter (m.ReachesCycle ·) = remaining.filter (m.ReachesCycle ·) := by
  rw [waiting, List.filter_filter]
  apply List.filter_congr
  intro t ht
  have := h.isReady_iff_level hnames ht
  grind

end BeforeRound

theorem createRounds_eq (hnames : (m.tables.map (·.name)).Nodup) {n : Nat} {created : List String}
    {remaining : List PhysicalTable} (h : m.BeforeRound n created remaining) :
    m.createRounds created remaining
      =
    (remaining.filter (¬m.ReachesCycle ·)).mergeSort (m.level · ≤ m.level ·) ++ remaining.filter (m.ReachesCycle ·) := by
  -- By induction on the rounds: each one takes the least level away from the tables that are still to be sorted.
  fun_induction m.createRounds created remaining generalizing n with
  | case1 created remaining hstuck =>
    have hcyclic := h.reachesCycle_of_stuck hnames hstuck
    have hnone : remaining.filter (¬m.ReachesCycle ·) = [] := by simpa using hcyclic
    have hall : remaining.filter (m.ReachesCycle ·) = remaining := by simpa using hcyclic
    rw [hnone, hall, List.mergeSort_nil, List.nil_append]
  | case2 created remaining t ts hready ih =>
    have hnext := h.next hnames
    rw [hready] at hnext
    rw [ih hnext, ← hready, h.mergeSort_remaining hnames, h.filter_reachesCycle_waiting hnames, List.append_assoc]

end Rounds

section Order

theorem createRounds_perm (created : List String) (remaining : List PhysicalTable) :
    (m.createRounds created remaining).Perm remaining := by
  fun_induction m.createRounds created remaining with
  | case1 created remaining => exact .refl remaining
  | case2 created remaining t ts hready ih =>
    have hsplit : (m.ready created remaining ++ m.waiting created remaining).Perm remaining :=
      List.filter_append_perm (m.isReady created) remaining
    rw [hready] at hsplit
    exact (ih.append_left _).trans hsplit

theorem dependencyOrder_eq (hnames : (m.tables.map (·.name)).Nodup) :
    m.dependencyOrder
      =
    (m.tables.filter (¬m.ReachesCycle ·)).mergeSort (m.level · ≤ m.level ·) ++ m.tables.filter (m.ReachesCycle ·) :=
  createRounds_eq hnames (beforeRound_zero m)

theorem perm_dependencyOrder (m : PhysicalModel) : m.dependencyOrder.Perm m.tables :=
  createRounds_perm [] m.tables

theorem dependencyOrder_sorted (m : PhysicalModel) (hnames : (m.tables.map (·.name)).Nodup) :
    m.dependencyOrder.Perm m.tables
    ∧ m.dependencyOrder
        =
      (m.tables.filter (¬m.ReachesCycle ·)).mergeSort (m.level · ≤ m.level ·) ++ m.tables.filter (m.ReachesCycle ·)
    ∧ ∀ t ∈ m.tables, ¬m.ReachesCycle t → IsGreatest (chainLengths m.toLogical.DependsOn t.name) (m.level t) := by
  refine ⟨perm_dependencyOrder m, dependencyOrder_eq hnames, ?_⟩
  intro t _ hnot
  exact isGreatest_longestChain (fun _ _ => LogicalModel.DependsOn.mem_names) hnot

def entangled : PhysicalModel :=
  ⟨[.referringTo "LEAF" ["A"], .referringTo "C" ["B"], .referringTo "B" ["D", "B", "GHOST"], .referringTo "A" ["Z"],
    .referringTo "Z" ["A"], .referringTo "D" []]⟩

theorem dependencyOrder_sorted_entangled :
    (entangled.tables.map (·.name)).Nodup
    ∧ entangled.dependencyOrder.map (·.name) = ["D", "B", "C", "LEAF", "A", "Z"]
    ∧ entangled.dependencyOrder.Perm entangled.tables
    ∧ entangled.dependencyOrder
        =
      (entangled.tables.filter (¬entangled.ReachesCycle ·)).mergeSort (entangled.level · ≤ entangled.level ·)
        ++ entangled.tables.filter (entangled.ReachesCycle ·)
    ∧ ¬entangled.ReachesCycle (.referringTo "C" ["B"])
    ∧ entangled.level (.referringTo "C" ["B"]) = 2
    ∧ IsGreatest (chainLengths entangled.toLogical.DependsOn "C") (entangled.level (.referringTo "C" ["B"])) := by
  have hnames : (entangled.tables.map (·.name)).Nodup := by decide
  have hmem : .referringTo "C" ["B"] ∈ entangled.tables := by decide
  have hnot : ¬entangled.ReachesCycle (.referringTo "C" ["B"]) := by decide +kernel
  have hbelow : entangled.IsBelow 3 (.referringTo "C" ["B"]) := by decide +kernel
  have hlong : ¬entangled.IsBelow 2 (.referringTo "C" ["B"]) := by decide +kernel
  rw [isBelow_iff] at hbelow hlong
  obtain ⟨hperm, horder, hgreatest⟩ := dependencyOrder_sorted entangled hnames
  exact ⟨hnames, by decide +kernel, hperm, horder, hnot, by grind, hgreatest _ hmem hnot⟩

theorem dependsOn_of_reference {t d : PhysicalTable} (ht : t ∈ m.tables) (hd : d ∈ m.tables) (hname : d.name ≠ t.name)
    (href : ∃ c ∈ t.columns, ∃ fk ∈ c.reference, fk.table = d.name) : m.toLogical.DependsOn t.name d.name := by
  obtain ⟨c, hc, fk, hfk, htable⟩ := href
  have hmem : fk ∈ t.toTable.references :=
    List.mem_filterMap.2 ⟨c.toColumn, List.mem_map_of_mem hc, hfk⟩
  refine ⟨hname, ?_, t.toTable, List.mem_map_of_mem ht, rfl, fk, hmem, htable⟩
  rw [names_toLogical]
  exact List.mem_map_of_mem hd

section Position

variable (hnames : (m.tables.map (·.name)).Nodup) {t d : PhysicalTable}

include hnames

theorem sublist_dependencyOrder_of_reachesCycle (ht : m.ReachesCycle t) (hd : m.ReachesCycle d) :
    [d, t].Sublist m.dependencyOrder ↔ [d, t].Sublist m.tables := by
  have hlast : m.dependencyOrder.filter (m.ReachesCycle ·) = m.tables.filter (m.ReachesCycle ·) := by
    have hfirst : ((m.tables.filter (¬m.ReachesCycle ·)).mergeSort (m.level · ≤ m.level ·)).filter (m.ReachesCycle ·)
        = [] := by
      simp
    rw [dependencyOrder_eq hnames, List.filter_append, hfirst, List.nil_append, List.filter_filter]
    simp only [Bool.and_self]
  have hboth : ∀ u ∈ [d, t], decide (m.ReachesCycle u) = true := by simp [hd, ht]
  rw [← List.sublist_filter_iff_of_forall hboth, hlast, List.sublist_filter_iff_of_forall hboth]

theorem sublist_dependencyOrder_of_dependsOn (ht : t ∈ m.tables) (hd : d ∈ m.tables)
    (hdepends : m.toLogical.DependsOn t.name d.name) (hnot : ¬m.ReachesCycle d) : [d, t].Sublist m.dependencyOrder := by
  rw [dependencyOrder_eq hnames]
  have hfirst : d ∈ (m.tables.filter (¬m.ReachesCycle ·)).mergeSort (m.level · ≤ m.level ·) := by
    simp [hd, hnot]
  by_cases hcycle : m.ReachesCycle t
  . have hlast : t ∈ m.tables.filter (m.ReachesCycle ·) := by simp [ht, hcycle]
    exact (List.singleton_sublist.2 hfirst).append (List.singleton_sublist.2 hlast)
  . have hlater : t ∈ (m.tables.filter (¬m.ReachesCycle ·)).mergeSort (m.level · ≤ m.level ·) := by
      simp [ht, hcycle]
    have hlt : m.level d < m.level t := longestChain_lt (fun _ _ => LogicalModel.DependsOn.mem_names) hcycle hdepends
    exact (List.pair_sublist_of_key_lt (List.pairwise_mergeSort_key _ _) hfirst hlater hlt).trans
      (List.sublist_append_left _ _)

end Position

theorem sublist_dependencyOrder_iff (m : PhysicalModel) (hnames : (m.tables.map (·.name)).Nodup) {t d : PhysicalTable}
    (ht : t ∈ m.tables) (hd : d ∈ m.tables) (hne : t ≠ d)
    (href : ∃ c ∈ t.columns, ∃ fk ∈ c.reference, fk.table = d.name) :
    [d, t].Sublist m.dependencyOrder ↔ ¬m.ReachesCycle d ∨ [d, t].Sublist m.tables := by
  have hname : d.name ≠ t.name := by
    intro h
    exact hne (eq_of_name_eq hnames ht hd h.symm)
  have hdepends := dependsOn_of_reference ht hd hname href
  by_cases hcycle : m.ReachesCycle d
  . have hreaches : m.ReachesCycle t := leadsToCycle_iff.2 ⟨d.name, hdepends, hcycle⟩
    rw [sublist_dependencyOrder_of_reachesCycle hnames hreaches hcycle]
    simp [hcycle]
  . simp only [hcycle, not_false_eq_true, true_or, iff_true]
    exact sublist_dependencyOrder_of_dependsOn hnames ht hd hdepends hcycle

def outlying : PhysicalModel :=
  ⟨[.referringTo "LEAF" ["A"], .referringTo "A" ["B"], .referringTo "B" ["A", "ROOT"], .referringTo "TAIL" ["A"],
    .referringTo "ROOT" []]⟩

theorem sublist_dependencyOrder_iff_outlying :
    (outlying.tables.map (·.name)).Nodup
    ∧ outlying.ReachesCycle (.referringTo "A" ["B"])
    ∧ ([.referringTo "A" ["B"], .referringTo "TAIL" ["A"]].Sublist outlying.dependencyOrder
        ↔
      ¬outlying.ReachesCycle (.referringTo "A" ["B"])
        ∨ [.referringTo "A" ["B"], .referringTo "TAIL" ["A"]].Sublist outlying.tables)
    ∧ ([.referringTo "ROOT" [], .referringTo "B" ["A", "ROOT"]].Sublist outlying.dependencyOrder
        ↔
      ¬outlying.ReachesCycle (.referringTo "ROOT" [])
        ∨ [.referringTo "ROOT" [], .referringTo "B" ["A", "ROOT"]].Sublist outlying.tables) := by
  have hnames : (outlying.tables.map (·.name)).Nodup := by decide
  refine ⟨hnames, by decide +kernel, ?_, ?_⟩
  . exact sublist_dependencyOrder_iff outlying hnames (by decide) (by decide) (by decide) (by decide)
  . exact sublist_dependencyOrder_iff outlying hnames (by decide) (by decide) (by decide) (by decide)

def ShareCycle (m : PhysicalModel) (t u : PhysicalTable) : Prop :=
  TransGen m.toLogical.DependsOn t.name u.name ∧ TransGen m.toLogical.DependsOn u.name t.name

theorem leaf_before_cycle :
    (outlying.tables.map (·.name)).Nodup
    ∧ .referringTo "LEAF" ["A"] ∈ outlying.tables
    ∧ .referringTo "A" ["B"] ∈ outlying.tables
    ∧ (∃ c ∈ (PhysicalTable.referringTo "LEAF" ["A"]).columns, ∃ fk ∈ c.reference, fk.table = "A")
    ∧ ¬outlying.ShareCycle (.referringTo "LEAF" ["A"]) (.referringTo "A" ["B"])
    ∧ [.referringTo "LEAF" ["A"], .referringTo "A" ["B"]].Sublist outlying.dependencyOrder
    ∧ ¬[.referringTo "A" ["B"], .referringTo "LEAF" ["A"]].Sublist outlying.dependencyOrder := by
  refine ⟨by decide, by decide, by decide, by decide, ?_, by decide +kernel, by decide +kernel⟩
  rintro ⟨-, hback⟩
  obtain ⟨name, -, -, -, u, hu, -, fk, hfk, htable⟩ := TransGen.tail'_iff.1 hback
  have hnone : ∀ u ∈ outlying.toLogical.tables, ∀ fk ∈ u.references, fk.table ≠ "LEAF" := by decide
  exact hnone u hu fk hfk htable

end Order

end PhysicalModel

end SchemaDesign
