import SchemaDesign.Proofs.Derivation.NewKey
import SchemaDesign.Proofs.Pipeline

/-!
This module contains when the references of a derived model lead to the one key column of their table.
-/

namespace SchemaDesign

def LogicalModel.ReferencesSoleKeys (m : LogicalModel) : Prop :=
  ∀ fk ∈ m.references, (m.table? fk.table).map (·.keyNames) = some [fk.column]

instance (m : LogicalModel) : Decidable m.ReferencesSoleKeys :=
  inferInstanceAs (Decidable (∀ fk ∈ m.references, (m.table? fk.table).map (·.keyNames) = some [fk.column]))

/--
The names of associative entities, if one of them is the name of an entity too. That entity is flattened away by then,
and references to it can end up at the tables of associative entities.
-/
def ConceptualModel.takenOver (m : ConceptualModel) : List String :=
  if m.associatives.all fun a => (m.entity? a.name).isNone then [] else m.associatives.map (·.name)

namespace Derivation

variable {m : ConceptualModel} {settings : Settings}

section Provenance

theorem takenOver_cases (m : ConceptualModel) :
    m.takenOver = m.associatives.map (·.name)
      ∨ (m.takenOver = [] ∧ ∀ a ∈ m.associatives, m.entity? a.name = none) := by
  unfold ConceptualModel.takenOver
  split
  . next hall =>
    apply Or.inr
    simpa using hall
  . exact Or.inl rfl

theorem notMem_associatives {name : String} (htable : name ∉ m.takenOver)
    (hentity : (m.entity? name).isSome = true) : name ∉ m.associatives.map (·.name) := by
  cases takenOver_cases m with
  | inl hnamed => rwa [← hnamed]
  | inr hapart =>
    intro hmem
    obtain ⟨a, ha, rfl⟩ := List.mem_map.1 hmem
    rw [hapart.2 a ha] at hentity
    contradiction

theorem lookup_relationTables_associative {P : String → Prop} {d d' : Draft} {a : AssociativeEntity}
    (h : AssociativeStep m d a d') (ha : P a.name)
    (hd : ∀ relation table, d.relationTables.lookup relation = some table → P table) :
    ∀ relation table, d'.relationTables.lookup relation = some table → P table := by
  have hdescribe : ∀ (u : Draft) table, u.relationTables = d.relationTables → P table →
      ∀ relation table', (describe u a table).relationTables.lookup relation = some table' → P table' := by
    intro u table hu htable relation table' hlookup
    simp only [describe, Draft.represent, Draft.modify, List.lookup_cons, hu] at hlookup
    split at hlookup
    . rw [Option.some_inj] at hlookup
      rw [← hlookup]
      exact htable
    . exact hd relation table' hlookup
  cases h with
  | skip => exact hd
  | keep table htable => exact hdescribe d table rfl (hd a.relation table (hasTable_of_tableOf? htable).1)
  | rename table => exact hdescribe _ a.name rfl ha
  | add r keys => exact hdescribe _ a.name rfl ha

variable {P : String → String → Prop}
  (hkeys : ∀ table column, m.keyName? table = some column → P table column)
  (hreferences : ∀ fk ∈ (flattened m settings).value.schema.references, P fk.table fk.column)

include hkeys hreferences in
theorem references_drafted_or_named : ∀ fk ∈ (drafted m settings).value.schema.references,
    fk.table ∈ m.associatives.map (·.name) ∨ P fk.table fk.column := by
  apply Outcome.foldlM_invariant fun d : Draft => ∀ fk ∈ d.schema.references,
    fk.table ∈ m.associatives.map (·.name) ∨ P fk.table fk.column
  . intro fk hfk
    exact Or.inr (hreferences fk hfk)
  . intro d a ha hd fk hfk
    rcases mem_references_associative associative_step hfk with hold | hredirected | hplaced
    . exact hd fk hold
    . obtain ⟨table, old, _, _, hold, rfl⟩ := hredirected
      rw [table_redirect, column_redirect]
      split
      . exact Or.inl (List.mem_map_of_mem ha)
      . exact hd old hold
    . exact Or.inr (hkeys fk.table fk.column hplaced.2)

include hkeys hreferences in
theorem references_drafted_of_apart (hm : m.Valid) (hclean : (m.toLogical settings).FindsAll)
    (hnames : ∀ a ∈ m.associatives, m.entity? a.name = none)
    (hentity : ∀ table column, P table column → (m.entity? table).isSome = true) :
    ∀ fk ∈ (drafted m settings).value.schema.references, P fk.table fk.column := by
  -- No associative entity has the name of an entity, so that none of the tables that they rename is referred to.
  let motive := fun d : Draft =>
    (∀ relation table, d.relationTables.lookup relation = some table → m.entity? table = none)
      ∧ ∀ fk ∈ d.schema.references, P fk.table fk.column
  suffices h : motive (drafted m settings).value by exact h.2
  apply Outcome.foldlM_invariant motive
  . refine ⟨?_, hreferences⟩
    intro relation table hlookup
    rw [(groupsDone_of_findsAll hm hclean).tables, (relationsDone_of_findsAll hm hclean).tables] at hlookup
    obtain ⟨rfl, r, _, htable, hname⟩ := hlookup
    rw [← hname]
    simp only [ConceptualModel.hasRelationTable, Bool.and_eq_true, Option.isNone_iff_eq_none] at htable
    exact htable.2
  . intro d a ha hd
    refine ⟨lookup_relationTables_associative associative_step (hnames a ha) hd.1, ?_⟩
    intro fk hfk
    rcases mem_references_associative associative_step hfk with hold | hredirected | hplaced
    . exact hd.2 fk hold
    . obtain ⟨table, old, htable, _, hold, rfl⟩ := hredirected
      have hnone := hd.1 a.relation table (hasTable_of_tableOf? htable).1
      have hsome := hentity old.table old.column (hd.2 old hold)
      rw [table_redirect, column_redirect, if_neg]
      . exact hd.2 old hold
      . intro heq
        rw [heq, hnone] at hsome
        contradiction
    . exact hkeys fk.table fk.column hplaced.2

include hkeys hreferences in
theorem of_mem_references_toLogical (hm : m.Valid) (hclean : (m.toLogical settings).FindsAll)
    (hentity : ∀ table column, P table column → (m.entity? table).isSome = true)
    (hfolded : ∀ entry ∈ (flattened m settings).value.folded, P entry.2.1 entry.2.2) {fk : ForeignKey}
    (hfk : fk ∈ (m.toLogical settings).value.references) (htable : fk.table ∉ m.takenOver) :
    P fk.table fk.column := by
  rw [value_toLogical, LogicalModel.references_mapReferences, List.mem_map, folded_drafted] at hfk
  obtain ⟨old, hold, rfl⟩ := hfk
  unfold retarget at htable ⊢
  -- A reference to a folded table moves to its place, any other stays.
  cases hlookup : (flattened m settings).value.folded.lookup old.table with
  | some target =>
    apply hfolded (old.table, target)
    obtain ⟨front, back, hsplit, _⟩ := List.lookup_eq_some_iff.1 hlookup
    rw [hsplit]
    simp
  | none =>
    simp only [hlookup] at htable
    cases takenOver_cases m with
    | inl hnamed =>
      rw [hnamed] at htable
      exact (references_drafted_or_named hkeys hreferences old hold).resolve_left htable
    | inr hapart => exact references_drafted_of_apart hkeys hreferences hm hclean hapart.2 hentity old hold

end Provenance

theorem references_lead (hm : m.Valid) (hattributes : m.DistinctAttributes)
    (hclean : (m.toLogical settings).FindsAll) {fk : ForeignKey}
    (hfk : fk ∈ (m.toLogical settings).value.references) (htable : fk.table ∉ m.takenOver) :
    Leads m settings fk.table fk.column
      ∧ LeadsToOwn m settings (flattened m settings).value fk.table fk.column := by
  have hkeys := keysDone_flattened hm hattributes hclean
  have hown := ownKeysDone_flattened hm hattributes hclean
  let motive := fun table column =>
    Leads m settings table column ∧ LeadsToOwn m settings (flattened m settings).value table column
  suffices h : motive fk.table fk.column by exact h
  apply of_mem_references_toLogical _ _ hm hclean _ _ hfk htable
  . intro table column hkey
    exact ⟨leads_of_keyName? hm hkey, hown.leads_of_keyName? table column hkey⟩
  . intro old hold
    exact ⟨hkeys.references old hold, hown.references old hold⟩
  . intro table column hleads
    exact hleads.1.1
  . intro entry hentry
    exact ⟨hkeys.folded entry hentry, hown.folded entry hentry⟩

theorem exists_identified (hm : m.Valid) {name : String} (hentity : (m.entity? name).isSome = true)
    (hid : m.isChild name = true → ∃ key, m.Identified settings name key) :
    ∃ key, m.Identified settings name key := by
  cases hchild : m.isChild name with
  | true => exact hid hchild
  | false =>
    obtain ⟨e, he⟩ := Option.isSome_iff_exists.1 hentity
    exact ConceptualModel.identified_of_not_child hm he hchild

theorem mem_keyNames_of_refersUp (hm : m.Valid) (hrelated : RelationsDone m m.relations (related m).value)
    (hall : AllReferUp m settings) {name column : String} {u : Table} (hentity : (m.entity? name).isSome = true)
    (hu : (flattened m settings).value.schema.table? name = some u)
    (hown : ∀ own, KeepsOwnKey m settings name own → column ∈ u.keyNames) (hcolumn : column ∈ u.names)
    (hbefore : ∀ t ∈ (related m).value.schema.table? name, column ∉ t.names) : column ∈ u.keyNames := by
  obtain ⟨e, he⟩ := Option.isSome_iff_exists.1 hentity
  obtain ⟨t, ht⟩ := hrelated.exists_table hentity
  by_cases hstored : storedKeys e = []
  . have hkeyless : t.keyNames = [] := by rw [hrelated.keyNames_eq he ht, hstored]
    obtain ⟨u', hu', hnew⟩ := hasNewKeys_of_refersUp hall ht hkeyless
    rw [hu, Option.some_inj] at hu'
    rw [hu', hnew.mem_keyNames_iff hkeyless, ← hu']
    exact ⟨hcolumn, hbefore t ht⟩
  . obtain ⟨own, hkeeps⟩ := exists_keepsOwnKey hm he hstored fun g hg _ => hall g hg
    exact hown own hkeeps

-- What is known of an accepted model and the tables that are derived from it.
structure Settled (m : ConceptualModel) (settings : Settings) (schema : LogicalModel) : Prop where
  valid : m.Valid
  attributes : m.DistinctAttributes
  findsAll : (m.toLogical settings).FindsAll
  value : schema = (m.toLogical settings).value
  consistent : schema.Consistent

theorem settled_of_conceptualToLogical {text : String} {out : Outcome LogicalModel}
    (h : conceptualToLogical text settings = .ok out) (hread : (ConceptualModel.read text).value = m) :
    Settled m settings out.value := by
  have haccepted := accepted_of_conceptualToLogical h
  have hderived := Outcome.hasErrors_eq_false_iff.1 haccepted.derived
  rw [← hread]
  constructor
  . exact ConceptualModel.valid_of_check haccepted.checked
  . exact ConceptualModel.distinctAttributes_read text
  . exact hderived.mono fun i => Issue.isLookupFailure_of_warning
  . exact haccepted.value
  . exact LogicalModel.consistent_of_check haccepted.consistent

def childText (attributes : String) : String :=
  "ENTITY P \x7b id [PK] \x7d ENTITY C \x7b " ++ attributes ++ " \x7d ENTITY X \x7b x [PK] \x7d "
    ++ "RELATION r \x7b X (1,1), C (0,n) \x7d INHERITANCE g \x7b PARENT P, CHILDREN C \x7d"

def secondParentText : String :=
  " ENTITY Q \x7b y [PK] \x7d INHERITANCE h \x7b PARENT Q, CHILDREN C \x7d"

def childModel : ConceptualModel where
  entities := [⟨"P", [⟨"id", true, false⟩]⟩, ⟨"C", []⟩, ⟨"X", [⟨"x", true, false⟩]⟩]
  relations := [⟨"r", [⟨"X", .oneOne⟩, ⟨"C", .zeroMany⟩], []⟩]
  inheritances := [⟨"g", "P", ["C"], none⟩]
  associatives := []

theorem read_childText : (ConceptualModel.read (childText "")).value = childModel := by
  decide +kernel

theorem conceptualToLogical_childText : ∃ out, conceptualToLogical (childText "") .standard = .ok out
    ∧ .plain "id" "C" "id" ∈ out.value.references := by
  have hany : (conceptualToLogical (childText "") .standard).toOption.any
      (fun out => decide (.plain "id" "C" "id" ∈ out.value.references)) = true := by
    decide +kernel
  obtain ⟨out, hout, hmem⟩ := exists_ok_of_any hany
  exact ⟨out, hout, of_decide_eq_true hmem⟩

theorem childModel_identified : childModel.Identified .standard "C" "id" := by
  apply ConceptualModel.Identified.inherited ⟨"C", []⟩ ⟨"g", "P", ["C"], none⟩
  . rfl
  . decide
  . decide
  . decide
  . exact .own ⟨"P", [⟨"id", true, false⟩]⟩ ⟨"id", true, false⟩ rfl (by decide) rfl
  . simp [Entity.key?]
  . decide +kernel

end Derivation

end SchemaDesign
