import SchemaDesign.Proofs.Derivation.OwnKey
import SchemaDesign.Proofs.Derivation.Referred

namespace SchemaDesign.Derivation

variable {m : ConceptualModel} {settings : Settings} {d : Draft} {child key parent : String} {t u : Table}

section NewKeys

def HasNewKeys (t u : Table) : Prop :=
  ∃ keys, u.columns = keys ++ t.columns
    ∧ ∀ c ∈ keys, c.isKey = true ∧ c.reference.isSome = true ∧ c.name ∉ t.names

theorem HasNewKeys.refl (t : Table) : HasNewKeys t t := ⟨[], rfl, by simp⟩

theorem HasNewKeys.next (h : HasNewKeys t u) (ht : t.keyNames = []) :
    HasNewKeys t (referToParent parent key u) := by
  obtain ⟨keys, hcolumns, hkeys⟩ := h
  have hplain : ∀ c ∈ t.columns, c.isKey = false := by
    simpa [Table.keyNames, Table.keys] using ht
  -- All key columns are references, none of which gives way.
  have hnone : withoutOwnKey key u = u := by
    have : ∀ c ∈ u.columns, (!(c.name = key && c.isKey && c.reference.isNone)) = true := by
      intro c hc
      rw [hcolumns, List.mem_append] at hc
      cases hc with
      | inl hnew => simp [(hkeys c hnew).2.1]
      | inr hold => simp [hplain c hold]
    rw [withoutOwnKey, List.filter_eq_self.2 this]
  have hfree : u.freshName key (some (lowercaseName parent)) ∉ t.names := by
    intro hmem
    apply u.freshName_notMem key (some (lowercaseName parent))
    rw [Table.names, hcolumns, List.map_append]
    exact List.mem_append_right _ hmem
  refine ⟨.keyReferring (u.freshName key (some (lowercaseName parent))) parent key :: keys, ?_, ?_⟩
  . rw [columns_referToParent, hnone, hcolumns]
    rfl
  . simp only [List.forall_mem_cons]
    exact ⟨⟨rfl, rfl, hfree⟩, hkeys⟩

theorem HasNewKeys.iterate (h : HasNewKeys t u) (ht : t.keyNames = []) (n : Nat) :
    HasNewKeys t ((referToParent parent key)^[n] u) := by
  induction n generalizing u with
  | zero => exact h
  | succ n ih =>
    rw [Function.iterate_succ_apply]
    exact ih (h.next ht)

theorem HasNewKeys.mem_keyNames_iff (h : HasNewKeys t u) (ht : t.keyNames = []) :
    key ∈ u.keyNames ↔ key ∈ u.names ∧ key ∉ t.names := by
  obtain ⟨keys, hcolumns, hkeys⟩ := h
  have hkeyNames : u.keyNames = keys.map (·.name) := by
    have hall : keys.filter (·.isKey) = keys := List.filter_eq_self.2 fun c hc => (hkeys c hc).1
    rw [Table.keyNames, Table.keys, hcolumns, List.filter_append, List.map_append, hall]
    rw [Table.keyNames, Table.keys] at ht
    rw [ht, List.append_nil]
  have hnames : u.names = keys.map (·.name) ++ t.names := by
    rw [Table.names, hcolumns, List.map_append]
    rfl
  rw [hkeyNames, hnames, List.mem_append]
  constructor
  . intro hmem
    refine ⟨Or.inl hmem, ?_⟩
    obtain ⟨c, hc, hname⟩ := List.mem_map.1 hmem
    rw [← hname]
    exact (hkeys c hc).2.2
  . rintro ⟨hnew | hold, hfree⟩
    . exact hnew
    . contradiction

end NewKeys

section Groups

def AllReferUp (m : ConceptualModel) (settings : Settings) : Prop :=
  ∀ g ∈ m.inheritances, g.strategyIn settings = .tablePerClass

theorem flattened_of_refersUp (motive : Draft → Prop) (hall : AllReferUp m settings)
    (start : motive (related m).value)
    (next : ∀ d parent key children, motive d → motive (tablePerClass d parent key children)) :
    motive (flattened m settings).value := by
  apply Outcome.foldlM_invariant motive start
  intro d g hg hd
  have hstep : InheritanceStep settings d g (inheritance settings d g).value := inheritance_step
  generalize (inheritance settings d g).value = d' at hstep ⊢
  cases hstep with
  | skip => exact hd
  | flatten u column =>
    simp only [flatten, hall g hg]
    exact next d g.parent column.name _ hd

theorem folded_of_refersUp (hall : AllReferUp m settings) : (flattened m settings).value.folded = [] := by
  apply flattened_of_refersUp (fun d => d.folded = []) hall folded_related
  intro d parent key children hd
  rw [tablePerClass_eq, folded_modifyEach, hd]

theorem hasNewKeys_of_refersUp (hall : AllReferUp m settings)
    (hbefore : (related m).value.schema.table? child = some t) (ht : t.keyNames = []) :
    ∃ u, (flattened m settings).value.schema.table? child = some u ∧ HasNewKeys t u := by
  apply flattened_of_refersUp (fun d => ∃ u, d.schema.table? child = some u ∧ HasNewKeys t u) hall
    ⟨t, hbefore, .refl t⟩
  intro d parent key children hd
  obtain ⟨u, hu, hnew⟩ := hd
  rw [tablePerClass_eq, table?_modifyEach, hu]
  . exact ⟨_, rfl, hnew.iterate ht _⟩
  . intro t
    rfl

theorem refers_of_refersUp (hall : AllReferUp m settings) (h : Refers (related m).value child key) :
    Refers (flattened m settings).value child key := by
  apply flattened_of_refersUp (fun d => Refers d child key) hall h
  intro d parent key children hd
  exact hd.of_subset references_subset_tablePerClass

theorem references_toLogical_of_refersUp (hall : AllReferUp m settings) :
    (m.toLogical settings).value.references = (drafted m settings).value.schema.references := by
  rw [value_toLogical, LogicalModel.references_mapReferences, folded_drafted, folded_of_refersUp hall]
  exact List.map_id _

end Groups

end SchemaDesign.Derivation
