import SchemaDesign.Proofs.Conceptual.KeyName
import SchemaDesign.Proofs.Derivation.Step

namespace SchemaDesign

def ConceptualModel.withGroups (m : ConceptualModel) (groups : List Inheritance) : ConceptualModel :=
  { m with inheritances := groups }

variable {m : ConceptualModel} {groups groups' : List Inheritance}

namespace ConceptualModel

theorem keyName?_withGroups_of_parent?
    (hparent : ∀ child, (m.withGroups groups).parent? child = (m.withGroups groups').parent? child) (name : String) :
    (m.withGroups groups).keyName? name = (m.withGroups groups').keyName? name := by
  suffices h : ∀ (unvisited : List Entity) (name : String),
      keyName?.go (m.withGroups groups) unvisited name = keyName?.go (m.withGroups groups') unvisited name by
    exact h m.entities name
  intro unvisited name
  -- Both searches go the same way, so that they have the same entities left after a step.
  fun_induction keyName?.go (m.withGroups groups) unvisited name with
  | case1 unvisited name hnone => rw [keyName?_go_eq, hnone, Option.bind_none]
  | case2 unvisited name e he own hown => rw [keyName?_go_eq, he, Option.bind_some, hown]
  | case3 unvisited name e he hown hnone =>
    rw [keyName?_go_eq, he, Option.bind_some, hown, ← hparent, hnone, Option.bind_none]
  | case4 unvisited name e he hown parent hsome ih =>
    rw [ih, keyName?_go_eq unvisited name, he, Option.bind_some, hown, ← hparent, hsome, Option.bind_some]

theorem keyName?_withGroups_of_key? (hkeys : ∀ e ∈ m.entities, e.key?.isSome = true) (name : String) :
    (m.withGroups groups).keyName? name = (m.withGroups groups').keyName? name := by
  unfold keyName?
  rw [keyName?_go_eq, keyName?_go_eq]
  apply Option.bind_congr
  intro e he
  obtain ⟨own, hown⟩ := Option.isSome_iff_exists.1 (hkeys e (List.mem_of_find?_eq_some he))
  rw [hown]

end ConceptualModel

namespace Derivation

variable {d : Draft}
  (hkeys : ∀ name, (m.withGroups groups).keyName? name = (m.withGroups groups').keyName? name)

include hkeys

theorem participantKey_withGroups (scope entity : String) :
    participantKey (m.withGroups groups) d scope entity = participantKey (m.withGroups groups') d scope entity := by
  simp only [participantKey, hkeys]

theorem participantKeys_withGroups (scope : String) (ps : List Participant) :
    participantKeys (m.withGroups groups) d scope ps = participantKeys (m.withGroups groups') d scope ps := by
  induction ps with
  | nil => rfl
  | cons p ps ih => simp only [participantKeys, participantKey_withGroups hkeys, ih]

theorem relation_withGroups (r : Relation) :
    relation (m.withGroups groups) d r = relation (m.withGroups groups') d r := by
  have htable : relationTable (m.withGroups groups) d r = relationTable (m.withGroups groups') d r := by
    simp only [relationTable, participantKeys_withGroups hkeys]
  have hplace : ∀ holder target, placeReference (m.withGroups groups) d r holder target
      = placeReference (m.withGroups groups') d r holder target := by
    intro holder target
    simp only [placeReference, participantKey_withGroups hkeys]
    rfl
  simp only [relation, htable, hplace]

theorem related_withGroups : related (m.withGroups groups) = related (m.withGroups groups') := by
  have hstep : relation (m.withGroups groups) = relation (m.withGroups groups') := by
    funext d r
    exact relation_withGroups hkeys r
  simp only [related, relations, hstep]
  rfl

theorem associative_withGroups (a : AssociativeEntity) :
    associative (m.withGroups groups) d a = associative (m.withGroups groups') d a := by
  simp only [associative, promote, participantKeys_withGroups hkeys]
  rfl

theorem associatives_withGroups : associatives (m.withGroups groups) = associatives (m.withGroups groups') := by
  have hstep : associative (m.withGroups groups) = associative (m.withGroups groups') := by
    funext d a
    exact associative_withGroups hkeys a
  funext d
  simp only [associatives, hstep]
  rfl

end Derivation

end SchemaDesign
