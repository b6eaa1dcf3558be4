import SchemaDesign.Conceptual.Reader
import SchemaDesign.Proofs.Document.Declaration

namespace SchemaDesign

namespace Attribute

theorem name_step (name : String) (a : Attribute) (flag : List Char) : (read.step name a flag).name = a.name := by
  unfold read.step
  split
  . next meaning _ => cases meaning <;> rfl
  . rfl

theorem name_foldl_step (name : String) (a : Attribute) (flags : List (List Char)) :
    (flags.foldl (read.step name) a).name = a.name := by
  induction flags generalizing a with
  | nil => rfl
  | cons flag flags ih => rw [List.foldl_cons, ih, name_step]

end Attribute

namespace ConceptualModel

theorem read_induction {text : String} (motive : ConceptualModel → Prop) (start : motive empty)
    (append : ∀ m n : ConceptualModel, motive m → motive n → motive (m.append n))
    (block : ∀ b ∈ (Document.blocks text).value, motive (readBlock b).value) : motive (read text).value := by
  simp only [read, Outcome.value_bind, Outcome.value_pure, Outcome.value_mapM]
  apply List.foldrRecOn
  . exact start
  . intro n hn m hm
    obtain ⟨b, hb, rfl⟩ := List.mem_map.1 hm
    exact append _ n (block b hb) hn

-- No entity has two attributes of one name.
def DistinctAttributes (m : ConceptualModel) : Prop :=
  ∀ e ∈ m.entities, (e.attributes.map (·.name)).Nodup

theorem distinctAttributes_readBlock (block : Document.Block) :
    (readBlock block).value.DistinctAttributes := by
  unfold readBlock
  split
  . intro e he
    simp only [Outcome.value_bind, Outcome.value_pure, List.mem_singleton] at he
    rw [he]
    apply Document.nodup_readDistinct
  . split
    . simp [DistinctAttributes, empty]
    . split
      . simp [DistinctAttributes, empty]
      . split
        . simp [DistinctAttributes, empty]
        . simp [DistinctAttributes, empty]

theorem distinctAttributes_read (text : String) : (read text).value.DistinctAttributes := by
  apply read_induction DistinctAttributes
  . simp [DistinctAttributes, empty]
  . intro m n hm hn e he
    rw [append, List.mem_append] at he
    exact he.elim (hm e) (hn e)
  . intro b _
    apply distinctAttributes_readBlock

def tableNames (m : ConceptualModel) : List String :=
  m.entities.map (·.name) ++ m.relations.map (·.name) ++ m.associatives.map (·.name)

variable {m : ConceptualModel} {name : String}

theorem mem_tableNames_of_entity {e : Entity} (h : e ∈ m.entities) : e.name ∈ m.tableNames := by
  simp only [tableNames, List.mem_append]
  exact Or.inl (Or.inl (List.mem_map_of_mem h))

theorem mem_tableNames_of_relation {r : Relation} (h : r ∈ m.relations) : r.name ∈ m.tableNames := by
  simp only [tableNames, List.mem_append]
  exact Or.inl (Or.inr (List.mem_map_of_mem h))

theorem mem_tableNames_of_associative {a : AssociativeEntity} (h : a ∈ m.associatives) :
    a.name ∈ m.tableNames := by
  simp only [tableNames, List.mem_append]
  exact Or.inr (List.mem_map_of_mem h)

theorem tableNames_readBlock {b : Document.Block} (h : name ∈ (readBlock b).value.tableNames) :
    name = b.name := by
  unfold readBlock at h
  split at h
  . simpa [tableNames, empty, Entity.read] using h
  . split at h
    . simpa [tableNames, empty, Relation.read] using h
    . split at h
      . simp [tableNames, empty] at h
      . split at h
        . simp only [tableNames, empty, AssociativeEntity.read, Outcome.value_bind, Outcome.value_pure] at h
          split at h
          . simp at h
          . simpa using h
        . simp [tableNames, empty] at h

theorem isBlockName_tableNames {text : String} :
    ∀ name ∈ (read text).value.tableNames, Document.IsBlockName name := by
  apply read_induction fun m => ∀ name ∈ m.tableNames, Document.IsBlockName name
  . simp [tableNames, empty]
  . intro m n hm hn name hname
    simp only [tableNames, append, List.map_append, List.mem_append] at hm hn hname
    grind
  . intro b hb name hname
    rw [tableNames_readBlock hname]
    exact Document.isBlockName_blocks hb

end ConceptualModel

end SchemaDesign
