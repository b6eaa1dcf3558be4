import SchemaDesign.Proofs.Derivation.Columns
import SchemaDesign.Proofs.Outcome

/-!
This module contains what one step of a derivation can do to a draft, and what it reports. Each kind of step has a
relation that lists its effects together with what has to be the case for them.
-/

namespace SchemaDesign

def Inheritance.strategyIn (settings : Settings) (g : Inheritance) : InheritanceStrategy :=
  g.strategy.getD settings.inheritance

def Issue.isLookupFailure : Issue → Bool
  | unknownReference .. | missingPrimaryKey _ => true
  | _ => false

theorem Issue.isLookupFailure_of_warning {i : Issue} (h : i.severity = .warning) :
    i.isLookupFailure = false := by
  unfold isLookupFailure
  split
  . simp [severity] at h
  . simp [severity] at h
  . rfl

abbrev Outcome.FindsAll {α : Type} (x : Outcome α) : Prop :=
  x.Reports fun i => i.isLookupFailure = false

namespace Derivation

variable {m : ConceptualModel} {settings : Settings} {d : Draft} {p : Issue → Prop}

section Participants

variable {name : String}

theorem value_participantKey (entity : String) :
    (participantKey m d name entity).value
      =
    if d.schema.hasTable entity then m.keyName? entity else none := by
  unfold participantKey
  cases d.schema.hasTable entity with
  | false => rfl
  | true =>
    cases hkey : m.keyName? entity with
    | none => simp
    | some key => simp

theorem reports_participantKey (entity : String) :
    (participantKey m d name entity).Reports p
      ↔
    (d.schema.hasTable entity = false → p (.unknownReference name entity))
      ∧ (d.schema.hasTable entity = true → m.keyName? entity = none → p (.missingPrimaryKey entity)) := by
  unfold participantKey
  cases d.schema.hasTable entity with
  | false => simp
  | true =>
    cases hkey : m.keyName? entity with
    | none => simp
    | some key => simp

theorem reports_participantKeys (ps : List Participant) :
    (participantKeys m d name ps).Reports p
      ↔
    ∀ q ∈ ps, (participantKey m d name q.entity).Reports p := by
  induction ps with
  | nil => simp [participantKeys]
  | cons q ps ih =>
    simp only [participantKeys, Outcome.reports_bind, ih, List.mem_cons, forall_eq_or_imp]
    cases (participantKey m d name q.entity).value with
    | none => simp
    | some key =>
      cases (participantKeys m d name ps).value with
      | none => simp
      | some keys => simp

structure HasKeys (m : ConceptualModel) (d : Draft) (ps : List Participant)
    (keys : List (Participant × String)) : Prop where
  participants : keys.map (·.1) = ps
  table : ∀ entry ∈ keys, d.schema.hasTable entry.1.entity = true
  key : ∀ entry ∈ keys, m.keyName? entry.1.entity = some entry.2

theorem hasKeys_of_participantKeys {ps : List Participant} {keys : List (Participant × String)}
    (h : (participantKeys m d name ps).value = some keys) : HasKeys m d ps keys := by
  induction ps generalizing keys with
  | nil =>
    simp only [participantKeys, Outcome.value_pure, Option.some_inj] at h
    rw [← h]
    constructor
    . rfl
    . simp
    . simp
  | cons q ps ih =>
    simp only [participantKeys, Outcome.value_bind, value_participantKey] at h
    split at h
    . next key rest hkey hrest =>
      simp only [Outcome.value_pure, Option.some_inj] at h
      obtain ⟨hparticipants, htable, hkeys⟩ := ih hrest
      rw [Option.ite_none_right_eq_some] at hkey
      rw [← h]
      constructor
      . simp [hparticipants]
      . simpa [hkey.1] using htable
      . simpa [hkey.2] using hkeys
    . simp at h

theorem participantKeys_findsAll {ps : List Participant} :
    (participantKeys m d name ps).FindsAll
      ↔
    ∀ q ∈ ps, d.schema.hasTable q.entity = true ∧ (m.keyName? q.entity).isSome = true := by
  unfold Outcome.FindsAll
  rw [reports_participantKeys]
  apply forall₂_congr
  intro q _
  rw [reports_participantKey]
  cases d.schema.hasTable q.entity with
  | false => simp [Issue.isLookupFailure]
  | true =>
    cases m.keyName? q.entity with
    | none => simp [Issue.isLookupFailure]
    | some key => simp

theorem exists_participantKeys {ps : List Participant}
    (h : ∀ q ∈ ps, d.schema.hasTable q.entity = true ∧ (m.keyName? q.entity).isSome = true) :
    ∃ keys, (participantKeys m d name ps).value = some keys := by
  induction ps with
  | nil => exact ⟨[], rfl⟩
  | cons q ps ih =>
    simp only [List.mem_cons, forall_eq_or_imp] at h
    obtain ⟨keys, hkeys⟩ := ih h.2
    obtain ⟨key, hkey⟩ := Option.isSome_iff_exists.1 h.1.2
    refine ⟨(q, key) :: keys, ?_⟩
    simp [participantKeys, value_participantKey, h.1.1, hkey, hkeys]

end Participants

section Relation

variable {r : Relation}

def ends? (r : Relation) : Option (Participant × Participant) :=
  match r.participants with
  | [a, b] => holderAndTarget? a b
  | _ => none

theorem mem_of_ends? {holder target : Participant} (h : ends? r = some (holder, target)) :
    holder ∈ r.participants ∧ target ∈ r.participants := by
  unfold ends? at h
  split at h
  . next a b heq =>
    rw [heq]
    unfold holderAndTarget? at h
    split at h
    all_goals grind
  . simp at h

inductive RelationStep (m : ConceptualModel) (d : Draft) (r : Relation) : Draft → Prop
  | skip : RelationStep m d r d
  | reference (holder target : Participant) (key : String) (hends : ends? r = some (holder, target))
    (htarget : d.schema.hasTable target.entity = true) (hkey : m.keyName? target.entity = some key)
    (hholder : d.schema.hasTable holder.entity = true) :
    RelationStep m d r (d.modify holder.entity (placeReference.extend m r holder target key))
  | table (keys : List (Participant × String)) (hends : ends? r = none)
    (hfree : d.schema.hasTable r.name = false) (hkeys : HasKeys m d r.participants keys) :
    RelationStep m d r
      ((d.add (appendAttributes (keyedTable r.name keys) r.attributes)).represent r.name r.name)

theorem placeReference_step {holder target : Participant} (hends : ends? r = some (holder, target)) :
    RelationStep m d r (placeReference m d r holder target).value := by
  simp only [placeReference, Outcome.value_bind, value_participantKey]
  split
  . exact .skip
  . next key hkey =>
    rw [Option.ite_none_right_eq_some] at hkey
    split
    . next hholder => exact .reference holder target key hends hkey.1 hkey.2 hholder
    . exact .skip

theorem relationTable_step (hends : ends? r = none) :
    RelationStep m d r (relationTable m d r).value := by
  unfold relationTable
  split
  . exact .skip
  . next hfree =>
    simp only [Outcome.value_bind]
    split
    . exact .skip
    . next keys hkeys =>
      apply RelationStep.table keys hends
      . simpa using hfree
      . exact hasKeys_of_participantKeys hkeys

theorem relation_eq (h : 2 ≤ r.participants.length) :
    relation m d r
      =
    match ends? r with
    | some (holder, target) => placeReference m d r holder target
    | none => relationTable m d r := by
  unfold relation ends?
  match r.participants, h with
  | [a, b], _ => rfl
  | _ :: _ :: _ :: _, _ => rfl

theorem relation_step : RelationStep m d r (relation m d r).value := by
  by_cases h : 2 ≤ r.participants.length
  . rw [relation_eq h]
    split
    . next holder target hends => exact placeReference_step hends
    . next hends => exact relationTable_step hends
  . unfold relation
    match r.participants, h with
    | [], _ => exact .skip
    | [_], _ => exact .skip
    | _ :: _ :: _, h => simp at h

end Relation

section Inheritance

variable {g : Inheritance}

theorem value_knownChildren : (knownChildren d g).value = g.children.filter d.schema.hasTable := by
  simp only [knownChildren, Outcome.value_collect]
  rw [← List.filterMap_eq_filter]
  congr 1
  funext child
  unfold knownChildren.step
  cases h : d.schema.hasTable child with
  | false => simp [Option.guard, h]
  | true => simp [Option.guard, h]

theorem reports_knownChildren :
    (knownChildren d g).Reports p
      ↔
    ∀ child ∈ g.children, d.schema.hasTable child = false → p (.unknownReference g.name child) := by
  simp only [knownChildren, Outcome.reports_collect]
  apply forall₂_congr
  intro child _
  unfold knownChildren.step
  cases d.schema.hasTable child with
  | false => simp
  | true => simp

def flatten (settings : Settings) (d : Draft) (g : Inheritance) (parent : Table) (key : String)
    (children : List String) : Draft :=
  match g.strategyIn settings with
  | .tablePerClass => tablePerClass d g.parent key children
  | .singleTable => singleTable d g.parent key children
  | .tablePerSubclass => tablePerSubclass d parent children

inductive InheritanceStep (settings : Settings) (d : Draft) (g : Inheritance) : Draft → Prop
  | skip : InheritanceStep settings d g d
  | flatten (parent : Table) (key : Column) (hparent : d.schema.table? g.parent = some parent)
    (hkey : parent.keys.head? = some key) :
    InheritanceStep settings d g
      (flatten settings d g parent key.name (g.children.filter d.schema.hasTable))

theorem inheritance_step : InheritanceStep settings d g (inheritance settings d g).value := by
  unfold inheritance
  split
  . exact .skip
  . next parent hparent =>
    split
    . exact .skip
    . next key hkey =>
      have : InheritanceStep settings d g _ := .flatten parent key hparent hkey
      simp only [flatten, Inheritance.strategyIn] at this
      simp only [Outcome.value_bind, value_knownChildren]
      cases hs : g.strategy.getD settings.inheritance with
      | tablePerClass => simpa [hs] using this
      | singleTable => simpa [hs] using this
      | tablePerSubclass => simpa [hs] using this

theorem inheritance_flattens
    (h : (inheritance settings d g).FindsAll) :
    ∃ parent key, d.schema.table? g.parent = some parent ∧ parent.keys.head? = some key
      ∧ (∀ child ∈ g.children, d.schema.hasTable child = true)
      ∧ (inheritance settings d g).value = flatten settings d g parent key.name g.children := by
  unfold Outcome.FindsAll at h
  unfold inheritance at h ⊢
  split at h
  . simp [Issue.isLookupFailure] at h
  . next parent hparent =>
    split at h
    . simp [Issue.isLookupFailure] at h
    . next key hkey =>
      rw [Outcome.reports_bind, reports_knownChildren] at h
      have hchildren : ∀ child ∈ g.children, d.schema.hasTable child = true := by
        intro child hchild
        have := h.1 child hchild
        simp only [Issue.isLookupFailure, Bool.true_eq_false, imp_false, Bool.not_eq_false] at this
        exact this
      refine ⟨parent, key, hparent, hkey, hchildren, ?_⟩
      simp only [Outcome.value_bind, value_knownChildren, List.filter_eq_self.2 hchildren, flatten,
        Inheritance.strategyIn]
      cases g.strategy.getD settings.inheritance with
      | tablePerClass => rfl
      | singleTable => rfl
      | tablePerSubclass => rfl

end Inheritance

section Associative

variable {a : AssociativeEntity}

theorem hasTable_of_tableOf? {relation table : String} (h : d.tableOf? relation = some table) :
    d.relationTables.lookup relation = some table ∧ d.schema.hasTable table = true := by
  simpa [Draft.tableOf?, Option.filter_eq_some_iff] using h

def describe (d : Draft) (a : AssociativeEntity) (table : String) : Draft :=
  (d.modify table (appendAttributes · a.attributes)).represent a.relation table

inductive AssociativeStep (m : ConceptualModel) (d : Draft) (a : AssociativeEntity) : Draft → Prop
  | skip : AssociativeStep m d a d
  | keep (table : String) (htable : d.tableOf? a.relation = some table)
    (htaken : table = a.name ∨ d.schema.hasTable a.name = true) :
    AssociativeStep m d a (describe d a table)
  | rename (table : String) (htable : d.tableOf? a.relation = some table)
    (hfree : d.schema.hasTable a.name = false) :
    AssociativeStep m d a (describe { d with schema := d.schema.rename table a.name } a a.name)
  | add (r : Relation) (keys : List (Participant × String)) (hr : m.relation? a.relation = some r)
    (htable : d.tableOf? a.relation = none) (hfree : d.schema.hasTable a.name = false)
    (hkeys : HasKeys m d r.participants keys) :
    AssociativeStep m d a (describe (d.add (keyedTable a.name keys)) a a.name)

theorem name_of_relation? {name : String} {r : Relation} (h : m.relation? name = some r) :
    r.name = name := by
  simpa using List.find?_some h

theorem associative_step : AssociativeStep m d a (associative m d a).value := by
  unfold associative
  split
  . exact .skip
  . next r hr =>
    have hname := name_of_relation? hr
    unfold promote
    split
    . next table htable =>
      rw [hname] at htable ⊢
      split
      . next heq => exact .keep table htable (Or.inl heq)
      . split
        . next htaken => exact .keep table htable (Or.inr htaken)
        . next hfree => exact .rename table htable (by simpa using hfree)
    . next htable =>
      rw [hname] at htable ⊢
      split
      . exact .skip
      . next hfree =>
        simp only [Outcome.value_bind]
        split
        . next hvalue =>
          split at hvalue
          . exact .skip
          . simp at hvalue
        . next d' table hvalue =>
          split at hvalue
          . simp at hvalue
          . next keys hkeys =>
            simp only [Outcome.value_pure, Option.some_inj, Prod.mk.injEq] at hvalue
            rw [← hvalue.1, ← hvalue.2]
            apply AssociativeStep.add r keys hr htable
            . simpa using hfree
            . exact hasKeys_of_participantKeys hkeys

end Associative

section Stages

def related (m : ConceptualModel) : Outcome Draft := do
  let d ← entityTables m .empty
  relations m d

def flattened (m : ConceptualModel) (settings : Settings) : Outcome Draft := do
  let d ← related m
  inheritances m settings d

def drafted (m : ConceptualModel) (settings : Settings) : Outcome Draft := do
  let d ← flattened m settings
  associatives m d

theorem toLogical_eq : m.toLogical settings = drafted m settings >>= finish := by
  simp only [ConceptualModel.toLogical, drafted, flattened, related, bind_assoc]

theorem value_toLogical :
    (m.toLogical settings).value
      =
    (drafted m settings).value.schema.mapReferences (retarget (drafted m settings).value.folded) := by
  rw [toLogical_eq]
  rfl

end Stages

end Derivation

end SchemaDesign
