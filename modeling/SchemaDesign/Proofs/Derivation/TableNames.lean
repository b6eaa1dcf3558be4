import SchemaDesign.Proofs.Derivation.Closure
import SchemaDesign.Proofs.Derivation.Shape

namespace SchemaDesign

theorem LogicalModel.nodup_names_rename {m : LogicalModel} {old new : String} (h : m.names.Nodup)
    (hfree : new ∉ m.names) : (m.rename old new).names.Nodup := by
  rw [names_rename]
  apply h.map_on
  intro name hname other hother heq
  -- The new name is none of the old ones, so that the renamed table stays apart.
  grind

namespace Derivation

variable {m : ConceptualModel} {settings : Settings} {d d' : Draft}

section Steps

theorem nodup_names_entityStep {e : Entity} (hd : d.schema.names.Nodup) :
    (entityTables.step d e).value.schema.names.Nodup := by
  rw [value_entityStep]
  split
  . exact hd
  . next hfree =>
    rw [LogicalModel.hasTable_iff] at hfree
    rw [Draft.add, LogicalModel.names_add, ← List.concat_eq_append]
    exact hd.concat hfree

theorem nodup_names_relation {r : Relation} (hd : d.schema.names.Nodup) (hstep : RelationStep m d r d') :
    d'.schema.names.Nodup := by
  cases names_relation hstep with
  | inl hsame =>
    rw [hsame]
    exact hd
  | inr hadded =>
    rw [hadded.1, ← List.concat_eq_append]
    exact hd.concat hadded.2

theorem names_flatten_sublist {g : Inheritance} {parent : Table} {key : String} {children : List String} :
    (flatten settings d g parent key children).schema.names.Sublist d.schema.names := by
  unfold flatten
  cases g.strategyIn settings with
  | tablePerClass =>
    simp only [tablePerClass_eq]
    rw [names_modifyEach]
    intro t
    rfl
  | singleTable =>
    simp only [names_singleTable]
    exact List.filter_sublist
  | tablePerSubclass =>
    simp only [names_tablePerSubclass]
    exact List.filter_sublist

theorem nodup_names_inheritance {g : Inheritance} (hd : d.schema.names.Nodup)
    (hstep : InheritanceStep settings d g d') : d'.schema.names.Nodup := by
  cases hstep with
  | skip => exact hd
  | flatten parent key => exact hd.sublist names_flatten_sublist

theorem nodup_names_associative {a : AssociativeEntity} (hd : d.schema.names.Nodup)
    (hstep : AssociativeStep m d a d') : d'.schema.names.Nodup := by
  cases hstep with
  | skip => exact hd
  | keep table =>
    rw [names_describe]
    exact hd
  | rename table _ hfree =>
    rw [names_describe]
    exact LogicalModel.nodup_names_rename hd (LogicalModel.hasTable_eq_false_iff.1 hfree)
  | add r keys _ _ hfree =>
    rw [LogicalModel.hasTable_eq_false_iff] at hfree
    rw [names_describe, Draft.add, LogicalModel.names_add, name_keyedTable, ← List.concat_eq_append]
    exact hd.concat hfree

end Steps

section Stages

theorem nodup_names_related : (related m).value.schema.names.Nodup := by
  have hentities : (entityTables m .empty).value.schema.names.Nodup := by
    apply Outcome.foldlM_invariant fun d : Draft => d.schema.names.Nodup
    . exact List.nodup_nil
    . intro d e _ hd
      exact nodup_names_entityStep hd
  apply Outcome.foldlM_invariant (fun d : Draft => d.schema.names.Nodup) hentities
  intro d r _ hd
  exact nodup_names_relation hd relation_step

theorem nodup_names_flattened : (flattened m settings).value.schema.names.Nodup := by
  apply Outcome.foldlM_invariant (fun d : Draft => d.schema.names.Nodup) nodup_names_related
  intro d g _ hd
  exact nodup_names_inheritance hd inheritance_step

theorem nodup_names_drafted : (drafted m settings).value.schema.names.Nodup := by
  apply Outcome.foldlM_invariant (fun d : Draft => d.schema.names.Nodup) nodup_names_flattened
  intro d a _ hd
  exact nodup_names_associative hd associative_step

theorem nodup_names_toLogical (m : ConceptualModel) (settings : Settings) (hattributes : m.DistinctAttributes) :
    (m.toLogical settings).value.names.Nodup
      ∧ (∀ t ∈ (m.toLogical settings).value.tables, t.names.Nodup)
      ∧ (∀ t ∈ (m.toLogical settings).value.tables, ∀ c ∈ t.columns, ∀ fk, c.reference = some fk →
          fk.source = c.name) := by
  refine ⟨?_, ?_, ?_⟩
  . rw [names_toLogical]
    exact nodup_names_drafted
  . intro t ht
    exact (shaped_toLogical hattributes t ht).distinct
  . intro t ht c hc fk hfk
    exact (shaped_toLogical hattributes t ht).source c hc fk hfk

instance (m : ConceptualModel) : Decidable m.DistinctAttributes :=
  inferInstanceAs (Decidable (∀ e ∈ m.entities, (e.attributes.map (·.name)).Nodup))

def crowded : ConceptualModel where
  entities := [⟨"A", [⟨"id", true, false⟩, ⟨"id_r", false, false⟩]⟩, ⟨"B", [⟨"id", true, false⟩]⟩,
    ⟨"C", [⟨"id", false, false⟩]⟩, ⟨"D", [⟨"type_discriminator", false, false⟩]⟩, ⟨"A", []⟩]
  relations := [⟨"r", [⟨"A", .zeroOne⟩, ⟨"A", .zeroMany⟩], [⟨"id", false, false⟩]⟩,
    ⟨"s", [⟨"B", .oneOne⟩, ⟨"A", .zeroMany⟩], []⟩, ⟨"S", [⟨"B", .oneOne⟩, ⟨"A", .zeroMany⟩], []⟩,
    ⟨"t", [⟨"A", .zeroMany⟩, ⟨"B", .zeroMany⟩, ⟨"A", .oneOne⟩], []⟩, ⟨"B", [⟨"A", .zeroMany⟩, ⟨"A", .zeroMany⟩], []⟩]
  inheritances := [⟨"g", "A", ["C", "C"], none⟩, ⟨"h", "B", ["D"], some .singleTable⟩]
  associatives := [⟨"U", "t", [⟨"note", false, false⟩]⟩, ⟨"V", "s", []⟩, ⟨"C", "r", []⟩]

theorem nodup_names_toLogical_crowded :
    crowded.DistinctAttributes
      ∧ (crowded.toLogical .standard).hasErrors = true
      ∧ (crowded.toLogical .standard).value.tables.map (fun t => (t.name, t.names))
          = [("A", ["id", "id_r", "id_r_2"]), ("B", ["id", "id_s", "id_s_2", "type_discriminator"]),
             ("C", ["id_a_2", "id_a", "id"]), ("U", ["id_a", "id_b", "id_a_2", "note"]), ("V", ["id_b", "id_a"])]
      ∧ (crowded.toLogical .standard).value.names.Nodup
      ∧ (∀ t ∈ (crowded.toLogical .standard).value.tables, t.names.Nodup)
      ∧ (∀ t ∈ (crowded.toLogical .standard).value.tables, ∀ c ∈ t.columns, ∀ fk, c.reference = some fk →
          fk.source = c.name) := by
  have hattributes : crowded.DistinctAttributes := by decide
  exact ⟨hattributes, by decide +kernel, by decide +kernel, nodup_names_toLogical crowded .standard hattributes⟩

end Stages

end Derivation

end SchemaDesign
