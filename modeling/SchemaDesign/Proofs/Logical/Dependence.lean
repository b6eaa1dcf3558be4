import Mathlib.Data.List.Nodup
import Mathlib.Logic.Relation
import Mathlib.Order.Lattice.Nat
import SchemaDesign.Proofs.Logical.Table

namespace SchemaDesign

open Relation

section Chains

variable {α : Type} {r : α → α → Prop} {a b : α} {n : Nat}

def LeadsToCycle (r : α → α → Prop) (a : α) : Prop :=
  ∃ b, ReflTransGen r a b ∧ TransGen r b b

def chainLengths (r : α → α → Prop) (a : α) : Set Nat :=
  {n | ∃ path : List α, (a :: path).IsChain r ∧ path.length = n}

noncomputable def longestChain (r : α → α → Prop) (a : α) : Nat :=
  sSup (chainLengths r a)

def ChainsBelow (r : α → α → Prop) (n : Nat) (a : α) : Prop :=
  ∀ k ∈ chainLengths r a, k < n

theorem leadsToCycle_iff : LeadsToCycle r a ↔ ∃ b, r a b ∧ LeadsToCycle r b := by
  constructor
  . rintro ⟨c, hac, hc⟩
    cases ReflTransGen.cases_head hac with
    | inl heq =>
      rw [← heq] at hc
      obtain ⟨b, hab, hba⟩ := TransGen.head'_iff.1 hc
      exact ⟨b, hab, a, hba, hc⟩
    | inr hhead =>
      obtain ⟨b, hab, hbc⟩ := hhead
      exact ⟨b, hab, c, hbc, hc⟩
  . rintro ⟨b, hab, c, hbc, hc⟩
    exact ⟨c, hbc.head hab, hc⟩

theorem zero_mem_chainLengths : 0 ∈ chainLengths r a :=
  ⟨[], List.isChain_singleton a, rfl⟩

theorem succ_mem_chainLengths_iff : n + 1 ∈ chainLengths r a ↔ ∃ b, r a b ∧ n ∈ chainLengths r b := by
  constructor
  . rintro ⟨path, hchain, hlength⟩
    cases path with
    | nil => contradiction
    | cons b path =>
      rw [List.isChain_cons_cons] at hchain
      exact ⟨b, hchain.1, path, hchain.2, Nat.succ.inj hlength⟩
  . rintro ⟨b, hab, path, hchain, hlength⟩
    exact ⟨b :: path, List.isChain_cons_cons.2 ⟨hab, hchain⟩, congrArg Nat.succ hlength⟩

theorem not_chainsBelow_zero : ¬ChainsBelow r 0 a :=
  fun h => Nat.not_lt_zero 0 (h 0 zero_mem_chainLengths)

theorem chainsBelow_succ_iff : ChainsBelow r (n + 1) a ↔ ∀ b, r a b → ChainsBelow r n b := by
  constructor
  . intro h b hab k hk
    exact Nat.lt_of_succ_lt_succ (h (k + 1) (succ_mem_chainLengths_iff.2 ⟨b, hab, hk⟩))
  . intro h k hk
    cases k with
    | zero => exact Nat.succ_pos n
    | succ k =>
      obtain ⟨b, hab, hk⟩ := succ_mem_chainLengths_iff.1 hk
      exact Nat.succ_lt_succ (h b hab k hk)

theorem ChainsBelow.mono {k : Nat} (h : ChainsBelow r n a) (hle : n ≤ k) : ChainsBelow r k a :=
  fun i hi => Nat.lt_of_lt_of_le (h i hi) hle

theorem ChainsBelow.not_leadsToCycle (h : ChainsBelow r n a) : ¬LeadsToCycle r a := by
  induction n generalizing a with
  | zero => exact absurd h not_chainsBelow_zero
  | succ n ih =>
    rw [leadsToCycle_iff]
    rintro ⟨b, hab, hb⟩
    exact ih (chainsBelow_succ_iff.1 h b hab) hb

theorem transGen_of_isChain {path : List α} (h : (a :: path).IsChain r) : ∀ b ∈ path, TransGen r a b := by
  induction path generalizing a with
  | nil => simp
  | cons c path ih =>
    rw [List.isChain_cons_cons] at h
    rw [List.forall_mem_cons]
    refine ⟨.single h.1, ?_⟩
    intro b hb
    exact (ih h.2 b hb).head h.1

theorem nodup_of_isChain {path : List α} (ha : ¬LeadsToCycle r a) (h : (a :: path).IsChain r) :
    (a :: path).Nodup := by
  induction path generalizing a with
  | nil => exact List.nodup_singleton a
  | cons b path ih =>
    rw [List.nodup_cons]
    constructor
    . intro hmem
      exact ha ⟨a, .refl, transGen_of_isChain h a hmem⟩
    . rw [List.isChain_cons_cons] at h
      apply ih _ h.2
      intro hb
      exact ha (leadsToCycle_iff.2 ⟨b, h.1, hb⟩)

section Finite

variable {all : List α} (hall : ∀ a b, r a b → b ∈ all)

include hall

theorem chainsBelow_of_not_leadsToCycle (ha : ¬LeadsToCycle r a) : ChainsBelow r (all.length + 1) a := by
  rintro k ⟨path, hchain, rfl⟩
  have hsubset : path ⊆ all := by
    intro b hb
    obtain ⟨c, _, hcb⟩ := TransGen.tail'_iff.1 (transGen_of_isChain hchain b hb)
    exact hall c b hcb
  -- A longer chain would come to something twice.
  have hnodup := (List.nodup_cons.1 (nodup_of_isChain ha hchain)).2
  exact Nat.lt_succ_of_le (hnodup.length_le_of_subset hsubset)

theorem isGreatest_longestChain (ha : ¬LeadsToCycle r a) : IsGreatest (chainLengths r a) (longestChain r a) := by
  have hbounded : BddAbove (chainLengths r a) :=
    ⟨all.length, fun k hk => Nat.le_of_lt_succ (chainsBelow_of_not_leadsToCycle hall ha k hk)⟩
  constructor
  . exact Nat.sSup_mem ⟨0, zero_mem_chainLengths⟩ hbounded
  . intro k hk
    exact le_csSup hbounded hk

theorem chainsBelow_iff : ChainsBelow r n a ↔ ¬LeadsToCycle r a ∧ longestChain r a < n := by
  constructor
  . intro h
    have ha := h.not_leadsToCycle
    exact ⟨ha, h _ (isGreatest_longestChain hall ha).1⟩
  . rintro ⟨ha, hlt⟩ k hk
    exact Nat.lt_of_le_of_lt ((isGreatest_longestChain hall ha).2 hk) hlt

theorem longestChain_lt (ha : ¬LeadsToCycle r a) (hab : r a b) : longestChain r b < longestChain r a := by
  have hbelow : ChainsBelow r (longestChain r a + 1) a := (chainsBelow_iff hall).2 ⟨ha, Nat.lt_succ_self _⟩
  exact ((chainsBelow_iff hall).1 (chainsBelow_succ_iff.1 hbelow b hab)).2

end Finite

end Chains

namespace LogicalModel

def DependsOn (m : LogicalModel) (name target : String) : Prop :=
  target ≠ name ∧ target ∈ m.names ∧ ∃ t ∈ m.tables, t.name = name ∧ ∃ fk ∈ t.references, fk.table = target

instance (m : LogicalModel) (name target : String) : Decidable (m.DependsOn name target) :=
  inferInstanceAs (Decidable (_ ∧ _ ∧ ∃ t ∈ m.tables, t.name = name ∧ ∃ fk ∈ t.references, fk.table = target))

theorem DependsOn.mem_names {m : LogicalModel} {name target : String} (h : m.DependsOn name target) :
    target ∈ m.names :=
  h.2.1

end LogicalModel

end SchemaDesign
