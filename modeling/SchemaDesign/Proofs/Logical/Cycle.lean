import Mathlib.Data.Set.Subsingleton
import SchemaDesign.Logical.Cycle
import SchemaDesign.Proofs.Logical.Dependence

/-!
This module contains what the search for cycles comes across: ways along references that end where they start, each of
them once, and at least one among any tables that refer to each other. The search is told without a bound on its depth,
and the bound that it has is shown never to matter.
-/

namespace SchemaDesign.LogicalModel

open Relation

variable {m : LogicalModel} {name target : String} {path targets : List String} {s s' : CycleSearch}

theorem mem_targets_iff : target ∈ m.targets name ↔ m.DependsOn name target := by
  simp only [targets, distinct, mem_addAllNew, List.not_mem_nil, false_or, List.mem_filter, List.mem_flatMap,
    List.mem_map, Bool.and_eq_true, decide_eq_true_eq, hasTable_iff, DependsOn]
  grind

theorem nodup_targets (m : LogicalModel) (name : String) : (m.targets name).Nodup :=
  nodup_addAllNew List.nodup_nil

section Connected

def Connected (m : LogicalModel) (a b : String) : Prop :=
  ReflTransGen m.DependsOn a b ∧ ReflTransGen m.DependsOn b a

variable {a b c : String}

theorem Connected.symm (h : m.Connected a b) : m.Connected b a :=
  ⟨h.2, h.1⟩

theorem Connected.trans (hab : m.Connected a b) (hbc : m.Connected b c) : m.Connected a c :=
  ⟨hab.1.trans hbc.1, hbc.2.trans hab.2⟩

/--
A way along references that ends where it starts, and comes to no other table twice.
-/
structure IsCycle (m : LogicalModel) (path : List String) : Prop where
  chain : path.IsChain m.DependsOn
  closed : path.head? = path.getLast?
  nodup : path.tail.Nodup
  different : ∃ a ∈ path, ∃ b ∈ path, a ≠ b

theorem reflTransGen_of_isChain (h : (a :: path).IsChain m.DependsOn) (hb : b ∈ a :: path) :
    ReflTransGen m.DependsOn a b := by
  cases hb with
  | head => exact .refl
  | tail _ hb => exact (transGen_of_isChain h b hb).to_reflTransGen

theorem IsCycle.connected (h : m.IsCycle path) (ha : a ∈ path) (hb : b ∈ path) : m.Connected a b := by
  cases path with
  | nil => contradiction
  | cons start rest =>
    -- Every table is come to from the start, and the start, which is also the end, is come to from it.
    have hstart : ∀ c ∈ start :: rest, m.Connected start c := by
      intro c hc
      refine ⟨reflTransGen_of_isChain h.chain hc, ?_⟩
      obtain ⟨front, back, hsplit⟩ := List.append_of_mem hc
      have hchain := h.chain
      have hlast := h.closed
      rw [hsplit] at hchain hlast
      rw [List.getLast?_append_cons, ← hsplit, List.head?_cons] at hlast
      exact reflTransGen_of_isChain hchain.right_of_append (List.mem_of_getLast? hlast.symm)
    exact (hstart a ha).symm.trans (hstart b hb)

theorem Connected.transGen (h : m.Connected a b) (hne : a ≠ b) : TransGen m.DependsOn a a := by
  cases ReflTransGen.cases_head h.1 with
  | inl heq => contradiction
  | inr hstep =>
    obtain ⟨c, hac, hcb⟩ := hstep
    exact .head' hac (hcb.trans h.2)

theorem IsCycle.transGen (h : m.IsCycle path) : ∃ a ∈ path, TransGen m.DependsOn a a := by
  obtain ⟨a, ha, b, hb, hne⟩ := h.different
  exact ⟨a, ha, (h.connected ha hb).transGen hne⟩

end Connected

section Search

def CycleSearch.enter (s : CycleSearch) (name : String) : CycleSearch :=
  { s with visited := name :: s.visited }

def CycleSearch.record (s : CycleSearch) (cycle : List String) : CycleSearch :=
  { s with cycles := s.cycles ++ [cycle] }

@[simp]
theorem CycleSearch.visited_enter : (s.enter name).visited = name :: s.visited := rfl

@[simp]
theorem CycleSearch.cycles_enter : (s.enter name).cycles = s.cycles := rfl

@[simp]
theorem CycleSearch.visited_record (cycle : List String) : (s.record cycle).visited = s.visited := rfl

@[simp]
theorem CycleSearch.cycles_record (cycle : List String) : (s.record cycle).cycles = s.cycles ++ [cycle] := rfl

theorem CycleSearch.append_subset_enter (s : CycleSearch) (hpath : path ⊆ s.visited) :
    path ++ [name] ⊆ (s.enter name).visited := by
  simpa using List.Subset.trans hpath (List.subset_cons_self name s.visited)

def wayBack (path : List String) (target : String) : List String :=
  path.dropWhile (· ≠ target)

theorem wayBack_append {front : List String} (htarget : target ∉ front) (back : List String) :
    wayBack (front ++ target :: back) target = target :: back := by
  rw [wayBack, List.dropWhile_append_of_pos (by grind), List.dropWhile_cons_of_neg (by simp)]

/--
The search without a bound on its depth. Along `path` it goes through `targets`, the tables that the last table on the
path refers to, or all tables if the path is empty, and gets from `s` to `s'`.
-/
inductive Explores (m : LogicalModel) : List String → List String → CycleSearch → CycleSearch → Prop where
  | nil (path : List String) (s : CycleSearch) : Explores m path [] s s
  | closing {path targets : List String} {target : String} {s s' : CycleSearch} :
      target ∈ path →
      Explores m path targets (s.record (wayBack path target ++ [target])) s' →
      Explores m path (target :: targets) s s'
  | seen {path targets : List String} {target : String} {s s' : CycleSearch} :
      target ∉ path → target ∈ s.visited →
      Explores m path targets s s' →
      Explores m path (target :: targets) s s'
  | entering {path targets : List String} {target : String} {s between s' : CycleSearch} :
      target ∉ path → target ∉ s.visited →
      Explores m (path ++ [target]) (m.targets target) (s.enter target) between →
      Explores m path targets between s' →
      Explores m path (target :: targets) s s'

structure IsWay (m : LogicalModel) (path targets : List String) : Prop where
  chain : path.IsChain m.DependsOn
  nodup : path.Nodup
  path_known : ∀ name ∈ path, name ∈ m.names
  targets_known : ∀ name ∈ targets, name ∈ m.names
  further : ∀ last ∈ path.getLast?, ∀ target ∈ targets, m.DependsOn last target

namespace IsWay

theorem start (m : LogicalModel) : m.IsWay [] m.names where
  chain := List.isChain_nil
  nodup := List.nodup_nil
  path_known := by simp
  targets_known := by simp
  further := by simp

theorem tail (h : m.IsWay path (target :: targets)) : m.IsWay path targets where
  chain := h.chain
  nodup := h.nodup
  path_known := h.path_known
  targets_known := (List.forall_mem_cons.1 h.targets_known).2
  further last hlast := (List.forall_mem_cons.1 (h.further last hlast)).2

theorem enter (h : m.IsWay path targets) (htarget : target ∈ targets) (hnew : target ∉ path) :
    m.IsWay (path ++ [target]) (m.targets target) where
  chain := by
    rw [List.isChain_append]
    refine ⟨h.chain, List.isChain_singleton target, ?_⟩
    intro last hlast next hnext
    rw [List.head?_cons, Option.mem_some_iff] at hnext
    rw [← hnext]
    exact h.further last hlast target htarget
  nodup := by
    rw [← List.concat_eq_append]
    exact h.nodup.concat hnew
  path_known := by
    rw [List.forall_mem_append, List.forall_mem_singleton]
    exact ⟨h.path_known, h.targets_known target htarget⟩
  targets_known next hnext := (mem_targets_iff.1 hnext).mem_names
  further last hlast next hnext := by
    rw [List.getLast?_concat, Option.mem_some_iff] at hlast
    rw [← hlast]
    exact mem_targets_iff.1 hnext

theorem isCycle (h : m.IsWay path (target :: targets)) (htarget : target ∈ path) :
    m.IsCycle (wayBack path target ++ [target]) := by
  obtain ⟨front, back, rfl, hfront⟩ := List.eq_append_cons_of_mem htarget
  rw [wayBack_append hfront]
  obtain ⟨last, hlast⟩ : ∃ last, (target :: back).getLast? = some last :=
    Option.isSome_iff_exists.1 (by simp)
  have hstep : m.DependsOn last target := by
    apply h.further last _ target List.mem_cons_self
    rw [List.getLast?_append_cons, hlast, Option.mem_some_iff]
  constructor
  . rw [List.isChain_append]
    refine ⟨h.chain.right_of_append, List.isChain_singleton target, ?_⟩
    rw [hlast]
    simpa using hstep
  . rw [List.getLast?_concat]
    rfl
  . have hnodup := (List.nodup_append.1 h.nodup).2.1
    rw [List.nodup_cons] at hnodup
    rw [List.cons_append, List.tail_cons, ← List.concat_eq_append]
    exact hnodup.2.concat hnodup.1
  . refine ⟨last, ?_, target, List.mem_cons_self, hstep.1.symm⟩
    exact List.mem_append_left _ (List.mem_of_getLast? hlast)

end IsWay

namespace Explores

theorem visited_subset (h : m.Explores path targets s s') : s.visited ⊆ s'.visited := by
  induction h with
  | nil => exact List.Subset.refl _
  | closing _ _ ih => exact ih
  | seen _ _ _ ih => exact ih
  | entering _ _ _ _ ihInner ihRest =>
    exact List.Subset.trans (List.subset_cons_self _ _) (List.Subset.trans ihInner ihRest)

theorem mem_visited_of_enter (h : m.Explores path targets (s.enter name) s') : name ∈ s'.visited :=
  h.visited_subset List.mem_cons_self

theorem visited_subset_of_enter (h : m.Explores path targets (s.enter name) s') : s.visited ⊆ s'.visited :=
  List.Subset.trans (List.subset_cons_self name s.visited) h.visited_subset

theorem cycles_subset (h : m.Explores path targets s s') : s.cycles ⊆ s'.cycles := by
  induction h with
  | nil => exact List.Subset.refl _
  | closing _ _ ih => exact List.Subset.trans (List.subset_append_left _ _) ih
  | seen _ _ _ ih => exact ih
  | entering _ _ _ _ ihInner ihRest => exact List.Subset.trans ihInner ihRest

theorem unique {s'' : CycleSearch} (h : m.Explores path targets s s') (h' : m.Explores path targets s s'') :
    s' = s'' := by
  induction h generalizing s'' with
  | nil =>
    cases h'
    rfl
  | closing _ _ ih =>
    cases h' with
    | closing _ h' => exact ih h'
    | seen => contradiction
    | entering => contradiction
  | seen _ _ _ ih =>
    cases h' with
    | closing => contradiction
    | seen _ _ h' => exact ih h'
    | entering => contradiction
  | entering _ _ _ _ ihInner ihRest =>
    cases h' with
    | closing => contradiction
    | seen => contradiction
    | entering _ _ hinner hrest =>
      rw [← ihInner hinner] at hrest
      exact ihRest hrest

theorem isCycle (h : m.Explores path targets s s') (hway : m.IsWay path targets)
    (hs : ∀ cycle ∈ s.cycles, m.IsCycle cycle) : ∀ cycle ∈ s'.cycles, m.IsCycle cycle := by
  induction h with
  | nil => exact hs
  | closing hpath _ ih =>
    apply ih hway.tail
    rw [CycleSearch.cycles_record, List.forall_mem_append, List.forall_mem_singleton]
    exact ⟨hs, hway.isCycle hpath⟩
  | seen _ _ _ ih => exact ih hway.tail hs
  | entering hpath _ _ _ ihInner ihRest => exact ihRest hway.tail (ihInner (hway.enter List.mem_cons_self hpath) hs)

end Explores

section Distinct

def lastStep (path : List String) : Option String × Option String :=
  (path.dropLast.getLast?, path.getLast?)

theorem lastStep_closing (htarget : target ∈ path) :
    lastStep (wayBack path target ++ [target]) = (path.getLast?, some target) := by
  obtain ⟨front, back, rfl, hfront⟩ := List.eq_append_cons_of_mem htarget
  rw [wayBack_append hfront, lastStep, List.dropLast_concat, List.getLast?_concat, List.getLast?_append_cons]

def StartsBetween (s s' : CycleSearch) (step : Option String × Option String) : Prop :=
  ∃ name ∈ s'.visited, name ∉ s.visited ∧ step.1 = some name

def StepsWithin (path targets : List String) (s s' : CycleSearch) (step : Option String × Option String) : Prop :=
  (path ≠ [] ∧ step.1 = path.getLast? ∧ ∃ target ∈ targets, step.2 = some target) ∨ StartsBetween s s' step

variable {between : CycleSearch} {step : Option String × Option String}

theorem StepsWithin.cons (h : StepsWithin path targets between s' step) (hvisited : s.visited ⊆ between.visited) :
    StepsWithin path (target :: targets) s s' step := by
  cases h with
  | inl hend =>
    obtain ⟨hne, hfirst, next, hnext, hsecond⟩ := hend
    exact Or.inl ⟨hne, hfirst, next, List.mem_cons_of_mem target hnext, hsecond⟩
  | inr hlater =>
    obtain ⟨name, hname, hnew, hfirst⟩ := hlater
    exact Or.inr ⟨name, hname, fun hmem => hnew (hvisited hmem), hfirst⟩

theorem StepsWithin.startsBetween (hnew : target ∉ s.visited) (hentered : target ∈ between.visited)
    (h : StepsWithin (path ++ [target]) targets (s.enter target) between step) :
    StartsBetween s between step := by
  cases h with
  | inl hend =>
    obtain ⟨-, hfirst, -⟩ := hend
    rw [List.getLast?_concat] at hfirst
    exact ⟨target, hentered, hnew, hfirst⟩
  | inr hlater =>
    obtain ⟨name, hname, hother, hfirst⟩ := hlater
    exact ⟨name, hname, fun hmem => hother (List.mem_cons_of_mem target hmem), hfirst⟩

theorem StartsBetween.stepsWithin (h : StartsBetween s between step) (hvisited : between.visited ⊆ s'.visited) :
    StepsWithin path targets s s' step := by
  obtain ⟨name, hname, hnew, hfirst⟩ := h
  exact Or.inr ⟨name, hvisited hname, hnew, hfirst⟩

theorem StartsBetween.not_stepsWithin (hpath : path ⊆ s.visited) (h : StartsBetween s between step) :
    ¬StepsWithin path targets between s' step := by
  obtain ⟨name, hname, hnew, hfirst⟩ := h
  rintro (⟨-, hlast, -⟩ | ⟨other, -, hother, hfirst'⟩)
  . rw [hfirst] at hlast
    exact hnew (hpath (List.mem_of_getLast? hlast.symm))
  . rw [hfirst, Option.some_inj] at hfirst'
    rw [hfirst'] at hname
    contradiction

theorem Explores.nodup (h : m.Explores path targets s s') (htargets : path ≠ [] → targets.Nodup)
    (hpath : path ⊆ s.visited) :
    ∃ found, s'.cycles = s.cycles ++ found ∧ found.Nodup
      ∧ ∀ cycle ∈ found, StepsWithin path targets s s' (lastStep cycle) := by
  induction h with
  | nil => exact ⟨[], (List.append_nil _).symm, List.nodup_nil, by simp⟩
  | @closing path targets target s s' hmem hrest ih =>
    have hne := List.ne_nil_of_mem hmem
    have hnodup := List.nodup_cons.1 (htargets hne)
    obtain ⟨found, hcycles, hfound, hsteps⟩ := ih (fun _ => hnodup.2) hpath
    refine ⟨(wayBack path target ++ [target]) :: found, ?_, ?_, ?_⟩
    . rw [hcycles, CycleSearch.cycles_record, List.append_assoc, List.singleton_append]
    . rw [List.nodup_cons]
      refine ⟨?_, hfound⟩
      -- A later cycle is closed by a step to another target, or by one from a table that has been entered since.
      intro hagain
      have hstep := hsteps _ hagain
      rw [lastStep_closing hmem] at hstep
      obtain ⟨-, -, next, hnext, heq⟩ | ⟨name, -, hnew, hlast⟩ := hstep
      . rw [Option.some_inj] at heq
        exact hnodup.1 (heq ▸ hnext)
      . exact hnew (hpath (List.mem_of_getLast? hlast))
    . rw [List.forall_mem_cons, lastStep_closing hmem]
      refine ⟨Or.inl ⟨hne, rfl, target, List.mem_cons_self, rfl⟩, ?_⟩
      intro cycle hcycle
      exact (hsteps cycle hcycle).cons (List.Subset.refl _)
  | seen _ _ _ ih =>
    obtain ⟨found, hcycles, hfound, hsteps⟩ := ih (fun hne => (List.nodup_cons.1 (htargets hne)).2) hpath
    refine ⟨found, hcycles, hfound, ?_⟩
    intro cycle hcycle
    exact (hsteps cycle hcycle).cons (List.Subset.refl _)
  | @entering path targets target s between s' _ hnew hinner hrest ihInner ihRest =>
    have hvisited := hinner.visited_subset_of_enter
    obtain ⟨inner, hinnerCycles, hinnerNodup, hinnerSteps⟩ :=
      ihInner (fun _ => nodup_targets m target) (s.append_subset_enter hpath)
    obtain ⟨later, hlaterCycles, hlaterNodup, hlaterSteps⟩ :=
      ihRest (fun hne => (List.nodup_cons.1 (htargets hne)).2) (List.Subset.trans hpath hvisited)
    have hstarts : ∀ cycle ∈ inner, StartsBetween s between (lastStep cycle) := by
      intro cycle hcycle
      exact (hinnerSteps cycle hcycle).startsBetween hnew hinner.mem_visited_of_enter
    refine ⟨inner ++ later, ?_, ?_, ?_⟩
    . rw [hlaterCycles, hinnerCycles, CycleSearch.cycles_enter, List.append_assoc]
    . rw [List.nodup_append]
      refine ⟨hinnerNodup, hlaterNodup, ?_⟩
      rintro cycle hcycle other hother rfl
      exact (hstarts cycle hcycle).not_stepsWithin hpath (hlaterSteps cycle hother)
    . rw [List.forall_mem_append]
      constructor
      . intro cycle hcycle
        exact (hstarts cycle hcycle).stepsWithin hrest.visited_subset
      . intro cycle hcycle
        exact (hlaterSteps cycle hcycle).cons hvisited

end Distinct

section Complete

def FoundAround (m : LogicalModel) (s : CycleSearch) (name : String) : Prop :=
  ∃ cycle ∈ s.cycles, ∀ other ∈ cycle, m.Connected name other

def FoundBehind (m : LogicalModel) (s : CycleSearch) (path : List String) : Prop :=
  ∀ name ∈ s.visited, name ∉ path → TransGen m.DependsOn name name → m.FoundAround s name

theorem FoundAround.mono (h : m.FoundAround s name) (hcycles : s.cycles ⊆ s'.cycles) : m.FoundAround s' name := by
  obtain ⟨cycle, hcycle, hconnected⟩ := h
  exact ⟨cycle, hcycles hcycle, hconnected⟩

theorem FoundAround.connected (h : m.FoundAround s target) (hconnected : m.Connected name target) :
    m.FoundAround s name := by
  obtain ⟨cycle, hcycle, htarget⟩ := h
  exact ⟨cycle, hcycle, fun other hother => hconnected.trans (htarget other hother)⟩

theorem foundAround_record (hway : m.IsWay path (target :: targets)) (htarget : target ∈ path) :
    m.FoundAround (s.record (wayBack path target ++ [target])) target := by
  refine ⟨wayBack path target ++ [target], by simp, ?_⟩
  intro other hother
  exact (hway.isCycle htarget).connected (by simp) hother

theorem FoundBehind.leave (h : m.FoundBehind s (path ++ [name]))
    (htargets : ∀ target ∈ m.targets name, target ∈ s.visited ∧ (target ∈ path ++ [name] → m.FoundAround s target)) :
    m.FoundBehind s path := by
  intro other hvisited hpath hcycle
  by_cases hname : other = name
  . obtain ⟨next, hstep, hback⟩ := TransGen.head'_iff.1 hcycle
    rw [hname] at hstep hback
    obtain ⟨hentered, hclosed⟩ := htargets next (mem_targets_iff.2 hstep)
    have hconnected : m.Connected name next := ⟨.single hstep, hback⟩
    rw [hname]
    by_cases hnext : next ∈ path ++ [name]
    -- The next table on the cycle is still on the path, so that a cycle was closed there, or has been left before.
    . exact (hclosed hnext).connected hconnected
    . exact (h next hentered hnext (.tail' hback hstep)).connected hconnected
  . exact h other hvisited (by simp [hpath, hname]) hcycle

theorem Explores.foundBehind (h : m.Explores path targets s s') (hway : m.IsWay path targets)
    (hpath : path ⊆ s.visited) (hs : m.FoundBehind s path) :
    m.FoundBehind s' path
      ∧ ∀ target ∈ targets, target ∈ s'.visited ∧ (target ∈ path → m.FoundAround s' target) := by
  induction h with
  | nil => exact ⟨hs, by simp⟩
  | @closing path targets target s s' hmem hrest ih =>
    have hbehind : m.FoundBehind (s.record (wayBack path target ++ [target])) path := by
      intro name hname hleft hcycle
      exact (hs name hname hleft hcycle).mono (List.subset_append_left _ _)
    obtain ⟨hbehind', htargets⟩ := ih hway.tail hpath hbehind
    refine ⟨hbehind', List.forall_mem_cons.2 ⟨⟨?_, ?_⟩, htargets⟩⟩
    . exact hrest.visited_subset (hpath hmem)
    . intro _
      exact (foundAround_record hway hmem).mono hrest.cycles_subset
  | seen hmem hvisited hrest ih =>
    obtain ⟨hbehind, htargets⟩ := ih hway.tail hpath hs
    exact ⟨hbehind, List.forall_mem_cons.2 ⟨⟨hrest.visited_subset hvisited, fun h => absurd h hmem⟩, htargets⟩⟩
  | @entering path targets target s between s' hmem _ hinner hrest ihInner ihRest =>
    have hinnerBehind : m.FoundBehind (s.enter target) (path ++ [target]) := by
      intro name hname hleft hcycle
      rw [List.mem_append, List.mem_singleton, not_or] at hleft
      exact hs name ((List.mem_cons.1 hname).resolve_left hleft.2) hleft.1 hcycle
    obtain ⟨hbehind, hinnerTargets⟩ :=
      ihInner (hway.enter List.mem_cons_self hmem) (s.append_subset_enter hpath) hinnerBehind
    have hrestPath : path ⊆ between.visited := List.Subset.trans hpath hinner.visited_subset_of_enter
    obtain ⟨hbehind', htargets⟩ := ihRest hway.tail hrestPath (hbehind.leave hinnerTargets)
    refine ⟨hbehind', List.forall_mem_cons.2 ⟨⟨?_, fun h => absurd h hmem⟩, htargets⟩⟩
    exact hrest.visited_subset hinner.mem_visited_of_enter

end Complete

section Depth

def followTo (m : LogicalModel) (depth : Nat) (path : List String) (s : CycleSearch) (target : String) : CycleSearch :=
  match path.idxOf? target with
  | some start => s.record (path.drop start ++ [target])
  | none => if target ∈ s.visited then s else m.visit depth path target s

theorem visit_succ (depth : Nat) :
    m.visit (depth + 1) path name s = (m.targets name).foldl (m.followTo depth (path ++ [name])) (s.enter name) := rfl

theorem findCycles_eq : m.findCycles = (m.names.foldl (m.followTo m.tables.length []) ⟨[], []⟩).cycles := by
  rw [names, List.foldl_map]
  rfl

theorem findCycles_congr {m' : LogicalModel} (hnames : m'.names = m.names) (htargets : m'.targets = m.targets) :
    m'.findCycles = m.findCycles := by
  have hvisit : ∀ depth, m'.visit depth = m.visit depth := by
    intro depth
    induction depth with
    | zero => rfl
    | succ depth ih =>
      funext path name s
      have hfollow : m'.followTo depth = m.followTo depth := by
        funext path s target
        simp only [followTo, ih]
      rw [visit_succ, visit_succ, htargets, hfollow]
  have hlength : m'.tables.length = m.tables.length := by simpa [names] using congrArg List.length hnames
  have hfollow : m'.followTo m.tables.length = m.followTo m.tables.length := by
    funext path s target
    simp only [followTo, hvisit]
  rw [findCycles_eq, findCycles_eq, hnames, hlength, hfollow]

theorem drop_eq_wayBack {start : Nat} (h : path.idxOf? target = some start) :
    path.drop start = wayBack path target := by
  induction path generalizing start with
  | nil => contradiction
  | cons name path ih =>
    rw [List.idxOf?_cons] at h
    by_cases hname : name = target
    . rw [hname, beq_self_eq_true, if_pos rfl, Option.some_inj] at h
      rw [← h, hname, List.drop_zero]
      exact (wayBack_append List.not_mem_nil path).symm
    . rw [if_neg (by simpa using hname), Option.map_eq_some_iff] at h
      obtain ⟨k, hk, rfl⟩ := h
      rw [List.drop_succ_cons, ih hk, wayBack, wayBack, List.dropWhile_cons_of_pos (by simpa using hname)]

theorem explores_foldl {depth : Nat}
    (hvisit : ∀ name ∈ targets, name ∉ path → ∀ s,
      m.Explores (path ++ [name]) (m.targets name) (s.enter name) (m.visit depth path name s))
    (s : CycleSearch) : m.Explores path targets s (targets.foldl (m.followTo depth path) s) := by
  induction targets generalizing s with
  | nil => exact .nil path s
  | cons target targets ih =>
    rw [List.forall_mem_cons] at hvisit
    rw [List.foldl_cons, followTo]
    split
    . next start hstart =>
      rw [drop_eq_wayBack hstart]
      have hmem : target ∈ path := by
        by_contra hnot
        rw [List.idxOf?_eq_none_iff.2 hnot] at hstart
        contradiction
      exact .closing hmem (ih hvisit.2 _)
    . next hnone =>
      have hmem := List.idxOf?_eq_none_iff.1 hnone
      split
      . next hvisited => exact .seen hmem hvisited (ih hvisit.2 s)
      . next hnew => exact .entering hmem hnew (hvisit.1 hmem s) (ih hvisit.2 _)

theorem explores_visit {depth : Nat} (hway : m.IsWay path targets) (hname : name ∈ targets) (hnew : name ∉ path)
    (hdepth : m.names.length ≤ path.length + depth) (s : CycleSearch) :
    m.Explores (path ++ [name]) (m.targets name) (s.enter name) (m.visit depth path name s) := by
  have hentered := hway.enter hname hnew
  induction depth generalizing path targets name s with
  | zero =>
    -- The path would hold more tables than there are.
    have hlength := hentered.nodup.length_le_of_subset hentered.path_known
    rw [List.length_append, List.length_singleton] at hlength
    omega
  | succ depth ih =>
    rw [visit_succ]
    apply explores_foldl
    intro next hnext hother s
    apply ih hentered hnext hother _ s (hentered.enter hnext hother)
    rw [List.length_append, List.length_singleton]
    omega

theorem explores_findCycles (m : LogicalModel) :
    ∃ s, m.Explores [] m.names ⟨[], []⟩ s ∧ s.cycles = m.findCycles := by
  refine ⟨_, ?_, findCycles_eq.symm⟩
  apply explores_foldl
  intro name hname hnew
  apply explores_visit (.start m) hname hnew
  rw [names, List.length_map, List.length_nil, Nat.zero_add]

end Depth

end Search

section Cycles

theorem isCycle_of_mem_findCycles : ∀ path ∈ m.findCycles, m.IsCycle path := by
  obtain ⟨s, hsearch, hcycles⟩ := explores_findCycles m
  rw [← hcycles]
  exact hsearch.isCycle (.start m) (by simp)

theorem nodup_findCycles : m.findCycles.Nodup := by
  obtain ⟨s, hsearch, hcycles⟩ := explores_findCycles m
  obtain ⟨found, hfound, hnodup, -⟩ := hsearch.nodup (fun hne => absurd rfl hne) (List.nil_subset _)
  rw [← hcycles, hfound]
  exact hnodup

theorem exists_mem_findCycles (h : TransGen m.DependsOn name name) :
    ∃ path ∈ m.findCycles, ∀ other ∈ path, m.Connected name other := by
  obtain ⟨s, hsearch, hcycles⟩ := explores_findCycles m
  obtain ⟨hbehind, hvisited⟩ := hsearch.foundBehind (.start m) (List.nil_subset _) (by simp [FoundBehind])
  obtain ⟨last, -, hlast⟩ := TransGen.tail'_iff.1 h
  rw [← hcycles]
  exact hbehind name (hvisited name hlast.mem_names).1 List.not_mem_nil h

theorem findCycles_eq_nil_iff : m.findCycles = [] ↔ ∀ name, ¬TransGen m.DependsOn name name := by
  rw [List.eq_nil_iff_forall_not_mem]
  constructor
  . intro h name hname
    obtain ⟨path, hpath, -⟩ := exists_mem_findCycles hname
    exact h path hpath
  . intro h path hpath
    obtain ⟨name, -, hname⟩ := (isCycle_of_mem_findCycles path hpath).transGen
    exact h name hname

theorem findCycles_sound_complete (m : LogicalModel) :
    (∃ s, (∀ s', m.Explores [] m.names ⟨[], []⟩ s' ↔ s' = s) ∧ s.cycles = m.findCycles)
    ∧ (∀ path ∈ m.findCycles, m.IsCycle path)
    ∧ m.findCycles.Nodup
    ∧ (∀ group : Set String, group.Nontrivial → (∀ a ∈ group, ∀ b ∈ group, ReflTransGen m.DependsOn a b) →
        ∃ path ∈ m.findCycles, ∀ a ∈ group, ∀ b ∈ path, m.Connected a b)
    ∧ (m.findCycles = [] ↔ ∀ name, ¬TransGen m.DependsOn name name) := by
  refine ⟨?_, isCycle_of_mem_findCycles, nodup_findCycles, ?_, findCycles_eq_nil_iff⟩
  . obtain ⟨s, hsearch, hcycles⟩ := explores_findCycles m
    refine ⟨s, ?_, hcycles⟩
    intro s'
    constructor
    . intro h
      exact h.unique hsearch
    . rintro rfl
      exact hsearch
  . rintro group ⟨a, ha, b, hb, hne⟩ hgroup
    have hconnected : ∀ c ∈ group, m.Connected c a := fun c hc => ⟨hgroup c hc a ha, hgroup a ha c hc⟩
    obtain ⟨path, hpath, haround⟩ := exists_mem_findCycles ((hconnected b hb).symm.transGen hne)
    exact ⟨path, hpath, fun c hc other hother => (hconnected c hc).trans (haround other hother)⟩

def ringBehind : LogicalModel :=
  ⟨[⟨"A", [.referring "b" "B" "id", .referring "c" "C" "id"]⟩, ⟨"B", [.referring "c" "C" "id"]⟩,
    ⟨"C", [.referring "c" "C" "id", .referring "d" "D" "id", .referring "b" "B" "id"]⟩]⟩

theorem findCycles_sound_complete_ringBehind :
    ringBehind.findCycles = [["B", "C", "B"]]
    ∧ ringBehind.IsCycle ["B", "C", "B"]
    ∧ ∃ path ∈ ringBehind.findCycles, ∀ a ∈ ({"B", "C"} : Set String), ∀ b ∈ path, ringBehind.Connected a b := by
  have hfound : ringBehind.findCycles = [["B", "C", "B"]] := by decide +kernel
  have hgroup : ∀ a ∈ ({"B", "C"} : Set String), ∀ b ∈ ({"B", "C"} : Set String),
      ReflTransGen ringBehind.DependsOn a b := by
    rintro a (rfl | rfl) b (rfl | rfl)
    . exact .refl
    . exact .single (by decide)
    . exact .single (by decide)
    . exact .refl
  obtain ⟨-, hsound, -, hcomplete, -⟩ := findCycles_sound_complete ringBehind
  exact ⟨hfound, hsound _ (by simp [hfound]), hcomplete {"B", "C"} (Set.nontrivial_pair (by decide)) hgroup⟩

end Cycles

end SchemaDesign.LogicalModel
