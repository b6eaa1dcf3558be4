import SchemaDesign.Proofs.Outcome
import SchemaDesign.Validation.Conceptual

namespace SchemaDesign.ConceptualModel

structure Valid (m : ConceptualModel) : Prop where
  entityNames : (m.entities.map (·.name)).Nodup
  keyed : ∀ e ∈ m.entities, e.attributes.countP (·.isKey) = 0 → m.isChild e.name = true
  singleKey : ∀ e ∈ m.entities, e.attributes.countP (·.isKey) ≤ 1
  relationNames : (m.relations.map (·.name)).Nodup
  binds : ∀ r ∈ m.relations, 2 ≤ r.participants.length
  participants : ∀ r ∈ m.relations, ∀ p ∈ r.participants, (m.entity? p.entity).isSome = true
  members : ∀ g ∈ m.inheritances, ∀ name ∈ g.parent :: g.children, (m.entity? name).isSome = true
  associated : ∀ a ∈ m.associatives, (m.relation? a.relation).isSome = true

variable {m : ConceptualModel}

theorem valid_of_check (h : m.check.hasErrors = false) : m.Valid := by
  rw [Outcome.hasErrors_eq_false_iff] at h
  simp only [check, Outcome.reports_bind, Outcome.reports_eachAfter, Outcome.reports_each] at h
  obtain ⟨hentities, hrelations, hgroups, hassociatives, _⟩ := h
  simp only [checkEntity, Outcome.reports_bind, Outcome.reports_reportIf, Issue.severity,
    reduceCtorEq, imp_false, Bool.not_eq_true] at hentities
  simp only [checkRelation, requireEntity, Outcome.reports_bind, Outcome.reports_reportIf,
    Outcome.reports_each, Issue.severity, reduceCtorEq, imp_false, Bool.not_eq_true] at hrelations
  simp only [checkInheritance, requireEntity, Outcome.reports_reportIf, Outcome.reports_each,
    Issue.severity, reduceCtorEq, imp_false, Bool.not_eq_true, Option.isNone_eq_false_iff] at hgroups
  simp only [checkAssociative, Outcome.reports_reportIf, Issue.severity, reduceCtorEq, imp_false,
    Bool.not_eq_true, Option.isNone_eq_false_iff] at hassociatives
  constructor
  . apply List.nodup_map_of_splits
    intro front e back hsplit
    simpa using (hentities front e back hsplit).1
  . apply List.forall_of_splits
    intro front e back hsplit hnone
    have := (hentities front e back hsplit).2.1
    simpa [hnone] using this
  . apply List.forall_of_splits
    intro front e back hsplit
    simpa using (hentities front e back hsplit).2.2
  . apply List.nodup_map_of_splits
    intro front r back hsplit
    simpa using (hrelations front r back hsplit).1
  . apply List.forall_of_splits
    intro front r back hsplit
    have := (hrelations front r back hsplit).2.1
    rwa [decide_eq_false_iff_not, Nat.not_lt] at this
  . apply List.forall_of_splits
    intro front r back hsplit p hp
    simpa using (hrelations front r back hsplit).2.2 p hp
  . exact hgroups
  . exact hassociatives

theorem Valid.relation_notMem {front back : List Relation} {r : Relation} (hm : m.Valid)
    (hsplit : m.relations = front ++ r :: back) : r.name ∉ front.map (·.name) := by
  have hnodup := hm.relationNames
  rw [hsplit, List.map_append, List.nodup_append] at hnodup
  intro hmem
  exact hnodup.2.2 r.name hmem r.name (by simp) rfl

end SchemaDesign.ConceptualModel
