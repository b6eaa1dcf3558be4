import SchemaDesign.Proofs.Conceptual.KeyName
import SchemaDesign.Proofs.Derivation.Step

namespace SchemaDesign

theorem Cardinality.eq_of_isMany_eq_false {c : Cardinality} (h : c.isMany = false) : c = .zeroOne ∨ c = .oneOne := by
  cases c with
  | zeroOne => exact Or.inl rfl
  | oneOne => exact Or.inr rfl
  | zeroMany | oneMany => contradiction

namespace Relation

/--
The first of the two participants holds the reference of the relation, and the second one is what it refers to: the
only one that takes part at most once, or of two such ones the only one that has to take part, or if they are alike the
one that is declared first.
-/
inductive IsHeldBy (r : Relation) : Participant → Participant → Prop
  | firstOnce {a b : Participant} (h : r.participants = [a, b]) (ha : a.cardinality.isMany = false)
    (hb : b.cardinality.isMany = true) : IsHeldBy r a b
  | secondOnce {a b : Participant} (h : r.participants = [a, b]) (ha : a.cardinality.isMany = true)
    (hb : b.cardinality.isMany = false) : IsHeldBy r b a
  | firstMandatory {a b : Participant} (h : r.participants = [a, b]) (ha : a.cardinality = .oneOne)
    (hb : b.cardinality = .zeroOne) : IsHeldBy r a b
  | secondMandatory {a b : Participant} (h : r.participants = [a, b]) (ha : a.cardinality = .zeroOne)
    (hb : b.cardinality = .oneOne) : IsHeldBy r b a
  | tie {a b : Participant} (h : r.participants = [a, b]) (ha : a.cardinality.isMany = false)
    (hb : a.cardinality = b.cardinality) : IsHeldBy r a b

def isAssociative (r : Relation) : Bool :=
  r.participants.length > 2 || (r.participants.length = 2 && r.participants.all (·.cardinality.isMany))

end Relation

theorem Outcome.Clean.findsAll {α : Type} {x : Outcome α} (h : x.Clean) : x.FindsAll :=
  h.mono fun _ => Issue.isLookupFailure_of_warning

namespace Derivation

variable {m : ConceptualModel} {d : Draft} {r : Relation} {holder target : Participant}

section Holder

theorem ends?_of_isHeldBy (h : r.IsHeldBy holder target) : ends? r = some (holder, target) := by
  cases h with
  | firstOnce h ha hb => simp [ends?, h, holderAndTarget?, ha, hb]
  | secondOnce h ha hb => simp [ends?, h, holderAndTarget?, ha, hb]
  | firstMandatory h ha hb => simp [ends?, h, holderAndTarget?, ha, hb, Cardinality.isMany, Cardinality.isMandatory]
  | secondMandatory h ha hb => simp [ends?, h, holderAndTarget?, ha, hb, Cardinality.isMany, Cardinality.isMandatory]
  | tie h ha hb =>
    rw [hb] at ha
    simp [ends?, h, holderAndTarget?, ha, hb]

theorem isHeldBy_of_holderAndTarget? {a b : Participant} (hparticipants : r.participants = [a, b])
    (h : holderAndTarget? a b = some (holder, target)) : r.IsHeldBy holder target := by
  unfold holderAndTarget? at h
  split at h
  . next ha hb =>
    obtain ⟨rfl, rfl⟩ : a = holder ∧ b = target := by simpa using h
    exact .firstOnce hparticipants ha hb
  . next ha hb =>
    obtain ⟨rfl, rfl⟩ : b = holder ∧ a = target := by simpa using h
    exact .secondOnce hparticipants ha hb
  . next ha hb =>
    obtain ha' | ha' := Cardinality.eq_of_isMany_eq_false ha
    . obtain hb' | hb' := Cardinality.eq_of_isMany_eq_false hb
      . obtain ⟨rfl, rfl⟩ : a = holder ∧ b = target := by simpa [ha', hb', Cardinality.isMandatory] using h
        exact .tie hparticipants ha (ha'.trans hb'.symm)
      . obtain ⟨rfl, rfl⟩ : b = holder ∧ a = target := by simpa [ha', hb', Cardinality.isMandatory] using h
        exact .secondMandatory hparticipants ha' hb'
    . obtain ⟨rfl, rfl⟩ : a = holder ∧ b = target := by simpa [ha', Cardinality.isMandatory] using h
      obtain hb' | hb' := Cardinality.eq_of_isMany_eq_false hb
      . exact .firstMandatory hparticipants ha' hb'
      . exact .tie hparticipants ha (ha'.trans hb'.symm)
  . contradiction

theorem ends?_eq_some_iff : ends? r = some (holder, target) ↔ r.IsHeldBy holder target := by
  constructor
  . intro h
    unfold ends? at h
    split at h
    . next a b hparticipants => exact isHeldBy_of_holderAndTarget? hparticipants h
    . contradiction
  . exact ends?_of_isHeldBy

theorem eq_of_isHeldBy {holder' target' : Participant} (h : r.IsHeldBy holder target)
    (h' : r.IsHeldBy holder' target') : holder = holder' ∧ target = target' := by
  rw [← ends?_eq_some_iff] at h h'
  simpa [h] using h'

instance : Decidable (r.IsHeldBy holder target) :=
  decidable_of_iff _ ends?_eq_some_iff

theorem isAssociative_iff : r.isAssociative = true ↔ 2 ≤ r.participants.length ∧ ends? r = none := by
  unfold Relation.isAssociative ends?
  split
  . next a b hparticipants =>
    have hnone : holderAndTarget? a b = none ↔ a.cardinality.isMany = true ∧ b.cardinality.isMany = true := by
      unfold holderAndTarget?
      grind
    simp [hparticipants, hnone]
  . next hother =>
    have hlength : r.participants.length ≠ 2 := by
      intro hlength
      obtain ⟨a, b, hparticipants⟩ := List.length_eq_two.1 hlength
      exact hother a b hparticipants
    simp only [hlength, decide_false, Bool.false_and, Bool.or_false, decide_eq_true_eq, and_true]
    omega

end Holder

section Clean

theorem exists_key_of_keyName? (hgroups : m.inheritances = []) {name key : String} (h : m.keyName? name = some key) :
    ∃ e k, m.entity? name = some e ∧ e.key? = some k ∧ k.name = key := by
  unfold ConceptualModel.keyName? ConceptualModel.keyName?.go at h
  split at h
  . contradiction
  . next e he =>
    split at h
    . next k hk => exact ⟨e, k, he, hk, Option.some_inj.1 h⟩
    . -- Without groups there is no parent to go on with.
      simp [ConceptualModel.parent?, hgroups] at h

theorem exists_of_participantKey {name entity : String} (h : (participantKey m d name entity).Clean) :
    d.schema.hasTable entity = true ∧ ∃ key, m.keyName? entity = some key := by
  unfold Outcome.Clean at h
  rw [reports_participantKey] at h
  cases htable : d.schema.hasTable entity with
  | false => simp [htable, Issue.severity] at h
  | true =>
    cases hkey : m.keyName? entity with
    | none => simp [htable, hkey, Issue.severity] at h
    | some key => exact ⟨rfl, key, rfl⟩

theorem placeReference_of_clean (h : (placeReference m d r holder target).Clean) :
    ∃ key, m.keyName? target.entity = some key ∧ d.schema.hasTable holder.entity = true
      ∧ (placeReference m d r holder target).value
        = d.modify holder.entity (placeReference.extend m r holder target key) := by
  unfold placeReference at h ⊢
  rw [Outcome.Clean, Outcome.reports_bind] at h
  obtain ⟨htarget, key, hkey⟩ := exists_of_participantKey h.1
  have hfound : (participantKey m d r.name target.entity).value = some key := by
    rw [value_participantKey, if_pos htarget, hkey]
  have hplaced := h.2
  rw [Outcome.value_bind]
  simp only [hfound] at hplaced ⊢
  cases hholder : d.schema.hasTable holder.entity with
  | false => simp [hholder, Issue.severity] at hplaced
  | true => exact ⟨key, hkey, rfl, rfl⟩

theorem relationTable_of_clean (h : (relationTable m d r).Clean) :
    d.schema.hasTable r.name = false
      ∧ ∃ keys, HasKeys m d r.participants keys
        ∧ (relationTable m d r).value
          = (d.add (appendAttributes (keyedTable r.name keys) r.attributes)).represent r.name r.name := by
  unfold relationTable at h ⊢
  cases hfree : d.schema.hasTable r.name with
  | true => simp [hfree, Issue.severity] at h
  | false =>
    simp only [hfree, Bool.false_eq_true, if_false, Outcome.reports_bind] at h
    obtain ⟨keys, hkeys⟩ : ∃ keys, (participantKeys m d r.name r.participants).value = some keys :=
      exists_participantKeys (participantKeys_findsAll.1 (Outcome.Clean.findsAll h.1))
    refine ⟨rfl, keys, hasKeys_of_participantKeys hkeys, ?_⟩
    simp [hkeys]

theorem relation_of_clean (h : (relation m d r).Clean) :
    (∃ holder target key, r.IsHeldBy holder target ∧ m.keyName? target.entity = some key
        ∧ d.schema.hasTable holder.entity = true
        ∧ (relation m d r).value = d.modify holder.entity (placeReference.extend m r holder target key))
      ∨ (r.isAssociative = true ∧ d.schema.hasTable r.name = false
        ∧ ∃ keys, HasKeys m d r.participants keys
          ∧ (relation m d r).value
            = (d.add (appendAttributes (keyedTable r.name keys) r.attributes)).represent r.name r.name) := by
  have hlength : 2 ≤ r.participants.length := by
    unfold relation at h
    match hparticipants : r.participants with
    | [] => simp [hparticipants, Issue.severity] at h
    | [_] => simp [hparticipants, Issue.severity] at h
    | _ :: _ :: _ => simp
  rw [relation_eq hlength] at h ⊢
  cases hends : ends? r with
  | some ends =>
    rw [hends] at h
    obtain ⟨key, hkey, hholder, hvalue⟩ := placeReference_of_clean h
    exact Or.inl ⟨ends.1, ends.2, key, ends?_eq_some_iff.1 hends, hkey, hholder, hvalue⟩
  | none =>
    rw [hends] at h
    exact Or.inr ⟨isAssociative_iff.2 ⟨hlength, hends⟩, relationTable_of_clean h⟩

end Clean

end Derivation

end SchemaDesign
