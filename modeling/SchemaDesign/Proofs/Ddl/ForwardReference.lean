import SchemaDesign.Proofs.Ddl.Order
import SchemaDesign.Proofs.Logical.Cycle
import SchemaDesign.Proofs.Outcome
import SchemaDesign.Validation.Physical

namespace List

variable {α : Type} {key : α → Nat} {front back : List α} {a b : α}

theorem mem_front_of_key_lt (hl : (front ++ b :: back).Pairwise (key · ≤ key ·)) (ha : a ∈ front ++ b :: back)
    (hlt : key a < key b) : a ∈ front := by
  have hback := (pairwise_cons.1 (pairwise_append.1 hl).2.1).1
  rw [mem_append, mem_cons] at ha
  obtain hfront | rfl | hmem := ha
  . exact hfront
  . exact absurd hlt (Nat.lt_irrefl _)
  . exact absurd (hback a hmem) (Nat.not_le_of_lt hlt)

end List

open Relation

namespace SchemaDesign

theorem LogicalModel.reports_check_iff (m : LogicalModel) :
    m.check.Reports (fun issue => ∀ path, issue ≠ .foreignKeyCycle path) ↔ m.findCycles = [] := by
  have htables : ∀ before t, (m.checkTable before t).Reports fun issue => ∀ path, issue ≠ .foreignKeyCycle path := by
    intro before t
    simp only [checkTable, checkReference, Outcome.reports_bind, Outcome.reports_reportIf, Outcome.reports_each]
    refine ⟨by simp, by simp, ?_⟩
    intro c _
    split <;> simp
  simp only [check, warnOfCycles, Outcome.reports_bind, Outcome.reports_eachAfter, Outcome.reports_each,
    Outcome.reports_reportIn, List.eq_nil_iff_forall_not_mem]
  constructor
  . rintro ⟨-, hcycles⟩ path hpath
    exact hcycles path hpath path rfl
  . intro hnone
    exact ⟨fun front t _ _ => htables front t, fun path hpath => absurd hpath (hnone path)⟩

namespace PhysicalModel

variable {m : PhysicalModel}

theorem reports_check_iff (m : PhysicalModel) :
    m.check.Reports (fun issue => ∀ path, issue ≠ .foreignKeyCycle path) ↔ m.toLogical.findCycles = [] := by
  have hcolumns : ∀ t c, (m.checkColumn t c).Reports fun issue => ∀ path, issue ≠ .foreignKeyCycle path := by
    intro t c
    unfold checkColumn
    split
    . simp
    . split <;> simp
  simp only [check, Outcome.reports_bind, Outcome.reports_each, LogicalModel.reports_check_iff, hcolumns, implies_true,
    and_true]

def RefersBack (m : PhysicalModel) (order : List PhysicalTable) : Prop :=
  ∀ front t back, order = front ++ t :: back → ∀ c ∈ t.columns, ∀ fk ∈ c.reference,
    fk.table ≠ t.name → fk.table ∈ m.tables.map (·.name) → fk.table ∈ front.map (·.name)

theorem findCycles_eq_nil_iff_acyclic : m.toLogical.findCycles = [] ↔ ∀ t ∈ m.tables, ¬m.ReachesCycle t := by
  rw [LogicalModel.findCycles_eq_nil_iff]
  constructor
  . rintro h t _ ⟨name, -, hname⟩
    exact h name hname
  . intro h name hname
    obtain ⟨next, ⟨-, -, t', ht', rfl, -⟩, -⟩ := TransGen.head'_iff.1 hname
    obtain ⟨t, ht, rfl⟩ := List.mem_map.1 ht'
    exact h t ht ⟨t.name, .refl, hname⟩

section Order

theorem mem_dependencyOrder {t : PhysicalTable} : t ∈ m.dependencyOrder ↔ t ∈ m.tables :=
  (perm_dependencyOrder m).mem_iff

variable (hnames : (m.tables.map (·.name)).Nodup)

include hnames

theorem refersBack_of_acyclic (hacyclic : ∀ t ∈ m.tables, ¬m.ReachesCycle t) : m.RefersBack m.dependencyOrder := by
  intro front t back horder c hc fk hfk hother hknown
  obtain ⟨d, hd, hname⟩ := List.mem_map.1 hknown
  have ht : t ∈ m.tables := mem_dependencyOrder.1 (by simp [horder])
  have hdepends : m.toLogical.DependsOn t.name d.name :=
    dependsOn_of_reference ht hd (hname ▸ hother) ⟨c, hc, fk, hfk, hname.symm⟩
  have hlt : m.level d < m.level t :=
    longestChain_lt (fun _ _ => LogicalModel.DependsOn.mem_names) (hacyclic t ht) hdepends
  -- Without cycles all tables are sorted by their level.
  have hsorted : m.dependencyOrder.Pairwise (m.level · ≤ m.level ·) := by
    have hlast : m.tables.filter (m.ReachesCycle ·) = [] := by simpa using hacyclic
    rw [dependencyOrder_eq hnames, hlast, List.append_nil]
    exact List.pairwise_mergeSort_key _ _
  have hmem : d ∈ m.dependencyOrder := mem_dependencyOrder.2 hd
  rw [horder] at hsorted hmem
  rw [← hname]
  exact List.mem_map_of_mem (List.mem_front_of_key_lt hsorted hmem hlt)

theorem acyclic_of_refersBack (h : m.RefersBack m.dependencyOrder) : ∀ t ∈ m.tables, ¬m.ReachesCycle t := by
  -- By induction on the place of a table: what it refers to has an earlier one.
  have hplaces : ∀ n front t back, front.length = n → m.dependencyOrder = front ++ t :: back → ¬m.ReachesCycle t := by
    intro n
    induction n using Nat.strong_induction_on with
    | _ n ih =>
      intro front t back hlength horder hcycle
      have ht : t ∈ m.tables := mem_dependencyOrder.1 (by simp [horder])
      obtain ⟨target, hdepends, htarget⟩ := leadsToCycle_iff.1 hcycle
      obtain ⟨hother, hknown, fk, hfk, rfl⟩ := (dependsOn_iff hnames ht).1 hdepends
      obtain ⟨column, hcolumn, href⟩ := Table.mem_references.1 hfk
      obtain ⟨c, hc, rfl⟩ := List.mem_map.1 hcolumn
      obtain ⟨d, hd, hname⟩ := List.mem_map.1 (h front t back horder c hc fk href hother hknown)
      obtain ⟨before, between, rfl⟩ := List.append_of_mem hd
      rw [← hname] at htarget
      rw [List.append_assoc, List.cons_append] at horder
      rw [List.length_append, List.length_cons] at hlength
      exact ih before.length (by omega) before d _ rfl horder htarget
  intro t ht
  obtain ⟨front, back, horder⟩ := List.append_of_mem (mem_dependencyOrder.2 ht)
  exact hplaces front.length front t back rfl horder

end Order

theorem findCycles_eq_nil_iff_refersBack (m : PhysicalModel) (hnames : (m.tables.map (·.name)).Nodup) :
    (m.toLogical.findCycles = [] ↔ m.RefersBack m.dependencyOrder)
    ∧ ((∀ d ∈ m.check.diagnostics, ∀ path, d.issue ≠ .foreignKeyCycle path) ↔ m.RefersBack m.dependencyOrder) := by
  have hacyclic : m.toLogical.findCycles = [] ↔ m.RefersBack m.dependencyOrder := by
    rw [findCycles_eq_nil_iff_acyclic]
    exact ⟨refersBack_of_acyclic hnames, acyclic_of_refersBack hnames⟩
  exact ⟨hacyclic, (reports_check_iff m).trans hacyclic⟩

def manifold : PhysicalModel :=
  ⟨[.referringTo "C" ["B", "A", "B"], .referringTo "B" ["A", "B", "GHOST"], .referringTo "A" []]⟩

theorem findCycles_eq_nil_iff_refersBack_manifold :
    (manifold.tables.map (·.name)).Nodup
    ∧ manifold.toLogical.findCycles = []
    ∧ manifold.RefersBack manifold.dependencyOrder
    ∧ ∀ d ∈ manifold.check.diagnostics, ∀ path, d.issue ≠ .foreignKeyCycle path := by
  have hnames : (manifold.tables.map (·.name)).Nodup := by decide
  have hnone : manifold.toLogical.findCycles = [] := by decide +kernel
  obtain ⟨hfound, hwarned⟩ := findCycles_eq_nil_iff_refersBack manifold hnames
  have horder := hfound.1 hnone
  exact ⟨hnames, hnone, horder, hwarned.2 horder⟩

end PhysicalModel

end SchemaDesign
