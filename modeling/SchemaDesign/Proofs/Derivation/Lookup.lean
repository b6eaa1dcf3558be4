import SchemaDesign.Proofs.Derivation.Closure
import SchemaDesign.Proofs.Derivation.Key

/-!
This module contains when everything that a derivation looks up is there. The check of a conceptual model knows
what is declared, but relations and groups look for tables and keys that earlier groups may have taken away or not
made yet.
-/

namespace SchemaDesign

open SchemaDesign.Derivation

variable {m : ConceptualModel} {settings : Settings}

section Relations

def ConceptualModel.referred (m : ConceptualModel) (r : Relation) : List String :=
  match ends? r with
  | some (_, target) => [target.entity]
  | none => if (m.entity? r.name).isSome then [] else r.participants.map (·.entity)

def ConceptualModel.hasRelationTable (m : ConceptualModel) (r : Relation) : Bool :=
  (ends? r).isNone && (m.entity? r.name).isNone

namespace Derivation

variable {d : Draft} {front : List Relation} {r : Relation}

structure RelationsDone (m : ConceptualModel) (front : List Relation) (d : Draft) : Prop where
  names : ∀ name, name ∈ d.schema.names
    ↔ (m.entity? name).isSome = true ∨ ∃ r ∈ front, m.hasRelationTable r = true ∧ r.name = name
  tables : ∀ name table, d.relationTables.lookup name = some table
    ↔ table = name ∧ ∃ r ∈ front, m.hasRelationTable r = true ∧ r.name = name
  keys : ∀ name, (m.entity? name).isSome = true →
    d.keys? name = (m.entity? name).map fun e => (entityTable e).keys

theorem relationsDone_nil : RelationsDone m [] (ofEntities m.entities) := by
  constructor
  . intro name
    rw [names_ofEntities, ConceptualModel.isSome_entity?]
    simp
  . intro name table
    simp [ofEntities]
  . intro name _
    exact keys?_ofEntities name

theorem RelationsDone.hasTable_iff (h : RelationsDone m front d) (hr : r.name ∉ front.map (·.name)) :
    d.schema.hasTable r.name = (m.entity? r.name).isSome := by
  rw [Bool.eq_iff_iff, LogicalModel.hasTable_iff, h.names]
  constructor
  . rintro (hentity | ⟨r', hr', _, hname⟩)
    . exact hentity
    . exact absurd (List.mem_map.2 ⟨r', hr', hname⟩) hr
  . exact Or.inl

theorem RelationsDone.hasTable_entity (h : RelationsDone m front d) {name : String}
    (hname : (m.entity? name).isSome = true) : d.schema.hasTable name = true :=
  LogicalModel.hasTable_iff.2 ((h.names name).2 (Or.inl hname))

theorem RelationsDone.keys_eq (h : RelationsDone m front d) {name : String} {e : Entity} {t : Table}
    (he : m.entity? name = some e) (ht : d.schema.table? name = some t) : t.keys = (entityTable e).keys := by
  have := h.keys name (by simp [he])
  simpa [Draft.keys?, ht, he] using this

theorem RelationsDone.keyNames_eq (h : RelationsDone m front d) {name : String} {e : Entity} {t : Table}
    (he : m.entity? name = some e) (ht : d.schema.table? name = some t) : t.keyNames = storedKeys e := by
  rw [Table.keyNames, h.keys_eq he ht, ← Table.keyNames, keyNames_entityTable]

theorem RelationsDone.exists_table (h : RelationsDone m front d) {name : String}
    (hname : (m.entity? name).isSome = true) : ∃ t, d.schema.table? name = some t := by
  apply Option.isSome_iff_exists.1
  rw [LogicalModel.isSome_table?, h.names]
  exact Or.inl hname

theorem relation_findsAll (hm : m.Valid) (hmem : r ∈ m.relations)
    (hr : r.name ∉ front.map (·.name)) (h : RelationsDone m front d) :
    (relation m d r).FindsAll ↔ ∀ e ∈ m.referred r, (m.keyName? e).isSome = true := by
  unfold Outcome.FindsAll ConceptualModel.referred
  have hparticipants : ∀ q ∈ r.participants, d.schema.hasTable q.entity = true := by
    intro q hq
    exact h.hasTable_entity (hm.participants r hmem q hq)
  rw [relation_eq (hm.binds r hmem)]
  cases hends : ends? r with
  | some pair =>
    have htarget := hparticipants pair.2 (mem_of_ends? hends).2
    have hholder := hparticipants pair.1 (mem_of_ends? hends).1
    simp only [placeReference, Outcome.reports_bind, value_participantKey, reports_participantKey,
      htarget, hholder, List.mem_singleton, forall_eq]
    cases m.keyName? pair.2.entity with
    | none => simp [Issue.isLookupFailure]
    | some key => simp
  | none =>
    simp only [relationTable, h.hasTable_iff hr]
    split
    . simp [Issue.isLookupFailure]
    . have hkeys : (participantKeys m d r.name r.participants).FindsAll
          ↔ ∀ e ∈ r.participants.map (·.entity), (m.keyName? e).isSome = true := by
        rw [participantKeys_findsAll, List.forall_mem_map]
        apply forall₂_congr
        intro q hq
        rw [and_iff_right (hparticipants q hq)]
      rw [← hkeys, Outcome.reports_bind, and_iff_left_iff_imp]
      intro _
      split
      . apply Outcome.reports_pure
      . apply Outcome.reports_pure

theorem value_relationTable (hfree : d.schema.hasTable r.name = false)
    (hkeys : ∀ q ∈ r.participants, d.schema.hasTable q.entity = true ∧ (m.keyName? q.entity).isSome = true) :
    ∃ keys, HasKeys m d r.participants keys ∧ (relationTable m d r).value
      = (d.add (appendAttributes (keyedTable r.name keys) r.attributes)).represent r.name r.name := by
  obtain ⟨keys, hvalue⟩ : ∃ keys, (participantKeys m d r.name r.participants).value = some keys :=
    exists_participantKeys hkeys
  refine ⟨keys, hasKeys_of_participantKeys hvalue, ?_⟩
  simp [relationTable, hfree, hvalue]

theorem RelationsDone.next (hm : m.Valid) (hmem : r ∈ m.relations) (hr : r.name ∉ front.map (·.name))
    (h : RelationsDone m front d) (hclean : (relation m d r).FindsAll) :
    RelationsDone m (front ++ [r]) (relation m d r).value := by
  have hkeys : ∀ name, (m.entity? name).isSome = true →
      (relation m d r).value.keys? name = (m.entity? name).map fun e => (entityTable e).keys := by
    intro name hname
    rw [keys?_relation relation_step ((h.names name).2 (Or.inl hname)), h.keys name hname]
  by_cases htable : m.hasRelationTable r = true
  . obtain ⟨hends, hentity⟩ : ends? r = none ∧ m.entity? r.name = none := by
      simpa [ConceptualModel.hasRelationTable] using htable
    have hfree : d.schema.hasTable r.name = false := by
      rw [h.hasTable_iff hr, hentity]
      rfl
    have hfound : ∀ q ∈ r.participants, (m.keyName? q.entity).isSome = true := by
      have := (relation_findsAll hm hmem hr h).1 hclean
      simpa [ConceptualModel.referred, hends, hentity] using this
    obtain ⟨keys, _, hvalue⟩ := value_relationTable hfree fun q hq =>
      ⟨h.hasTable_entity (hm.participants r hmem q hq), hfound q hq⟩
    rw [relation_eq (hm.binds r hmem), hends] at hkeys ⊢
    constructor
    . intro name
      simp only [hvalue, Draft.represent, Draft.add, LogicalModel.names_add, name_appendAttributes,
        name_keyedTable, List.mem_append, h.names]
      grind
    . intro name table
      simp only [hvalue, Draft.represent, Draft.add, List.lookup_cons]
      have := h.tables name table
      grind
    . exact hkeys
-- Without a table of its own the relation leaves the names alone.
  . have hsame : (relation m d r).value.relationTables = d.relationTables
        ∧ (relation m d r).value.schema.names = d.schema.names := by
      have hstep : RelationStep m d r (relation m d r).value := relation_step
      generalize (relation m d r).value = d' at hstep ⊢
      cases hstep with
      | skip => exact ⟨rfl, rfl⟩
      | reference holder target key =>
        refine ⟨rfl, LogicalModel.names_modify ?_⟩
        intro t
        apply name_extend
      | table keys hends hfree =>
        rw [h.hasTable_iff hr] at hfree
        simp [ConceptualModel.hasRelationTable, hends] at htable
        simp [htable] at hfree
    constructor
    . intro name
      rw [hsame.2, h.names]
      grind
    . intro name table
      rw [hsame.1, h.tables]
      grind
    . exact hkeys

theorem related_eq (hm : m.Valid) :
    related m = relations m (ofEntities m.entities) := by
  unfold related
  rw [entityTables_eq hm.entityNames, pure_bind]

theorem related_findsAll (hm : m.Valid) :
    (related m).FindsAll ↔ ∀ r ∈ m.relations, ∀ e ∈ m.referred r, (m.keyName? e).isSome = true := by
  -- No relation takes away what another one needs, so that the order does not matter.
  have hstage : (related m).FindsAll ↔ ∀ front r back, m.relations = front ++ r :: back →
      ∀ e ∈ m.referred r, (m.keyName? e).isSome = true := by
    rw [related_eq hm]
    apply Outcome.reports_foldlM_iff (relationsDone_nil (m := m))
    . intro front r back d hsplit hd
      exact relation_findsAll hm (by simp [hsplit]) (hm.relation_notMem hsplit) hd
    . intro front r back d hsplit hd
      exact hd.next hm (by simp [hsplit]) (hm.relation_notMem hsplit)
  rw [hstage]
  constructor
  . apply List.forall_of_splits
  . intro h front r back hsplit
    exact h r (by simp [hsplit])

theorem relationsDone_related (hm : m.Valid) (hclean : (related m).FindsAll) :
    RelationsDone m m.relations (related m).value := by
  rw [related_eq hm] at hclean ⊢
  apply Outcome.foldlM_induction (RelationsDone m) hclean relationsDone_nil
  intro front r back d hsplit hd hstep
  exact hd.next hm (by simp [hsplit]) (hm.relation_notMem hsplit) hstep

end Derivation

end Relations

section Groups

def Inheritance.removes (settings : Settings) (g : Inheritance) : List String :=
  match g.strategyIn settings with
  | .tablePerClass => []
  | .singleTable => g.children
  | .tablePerSubclass => [g.parent]

def Stands (settings : Settings) (done : List Inheritance) (name : String) : Prop :=
  ∀ g ∈ done, name ∉ g.removes settings

instance (done : List Inheritance) (name : String) : Decidable (Stands settings done name) :=
  inferInstanceAs (Decidable (∀ g ∈ done, name ∉ g.removes settings))

/--
The table of an entity has a key once the groups in `done` are flattened.
-/
def ConceptualModel.KeyedAfter (m : ConceptualModel) (done : List Inheritance) (name : String) : Prop :=
  (m.entity? name).map storedKeys ≠ some [] ∨ ∃ g ∈ done, name ∈ g.children

instance (done : List Inheritance) (name : String) : Decidable (m.KeyedAfter done name) :=
  inferInstanceAs (Decidable (_ ∨ _))

/--
A group can be flattened after those in `done`: its members are still there, and its parent has got a key.
-/
def ConceptualModel.ReadyGroup (m : ConceptualModel) (settings : Settings) (done : List Inheritance)
    (g : Inheritance) : Prop :=
  (∀ name ∈ g.parent :: g.children, Stands settings done name) ∧ m.KeyedAfter done g.parent

instance (done : List Inheritance) (g : Inheritance) : Decidable (m.ReadyGroup settings done g) :=
  inferInstanceAs (Decidable (_ ∧ _))

namespace Derivation

variable {d : Draft} {front : List Inheritance} {g : Inheritance}

theorem inheritance_findsAll :
    (inheritance settings d g).FindsAll
      ↔
    (∀ name ∈ g.parent :: g.children, name ∈ d.schema.names) ∧ d.keyNames? g.parent ≠ some [] := by
  unfold Outcome.FindsAll inheritance Draft.keyNames?
  simp only [List.mem_cons, forall_eq_or_imp]
  cases hparent : d.schema.table? g.parent with
  | none =>
    rw [LogicalModel.table?_eq_none_iff] at hparent
    simp [hparent, Issue.isLookupFailure]
  | some parent =>
    have hname := LogicalModel.mem_names_of_table? hparent
    cases hkeys : parent.keys with
    | nil => simp [hkeys, Table.keyNames, Issue.isLookupFailure]
    | cons key keys =>
      simp only [hname, hkeys, List.head?_cons, Option.map_some, Table.keyNames, List.map_cons, ne_eq,
        Option.some_inj, reduceCtorEq, not_false_eq_true, and_true, true_and, Outcome.reports_bind,
        reports_knownChildren, ← LogicalModel.hasTable_iff]
      rw [and_iff_left]
      . simp [Issue.isLookupFailure]
      . split
        all_goals apply Outcome.reports_pure

structure GroupsDone (m : ConceptualModel) (settings : Settings) (done : List Inheritance) (d : Draft) :
    Prop where
  names : ∀ name, name ∈ d.schema.names
    ↔ name ∈ (related m).value.schema.names ∧ Stands settings done name
  tables : d.relationTables = (related m).value.relationTables
  keys : ∀ name ∈ d.schema.names, (m.entity? name).isSome = true →
    (d.keyNames? name ≠ some [] ↔ m.KeyedAfter done name)

theorem groupsDone_nil (h : RelationsDone m m.relations (related m).value) :
    GroupsDone m settings [] (related m).value := by
  constructor
  . simp [Stands]
  . rfl
  . intro name _ hentity
    rw [Draft.keyNames?_eq, h.keys name hentity, Option.map_map]
    simp only [ConceptualModel.KeyedAfter, List.not_mem_nil, false_and, exists_false, or_false]
    rw [iff_eq_eq, ← funext keyNames_entityTable]
    rfl

section Flatten

variable {table : Table} {column : Column} {name : String}

theorem mem_names_flatten (hparent : d.schema.table? g.parent = some table) :
    name ∈ (flatten settings d g table column.name g.children).schema.names
      ↔
    name ∈ d.schema.names ∧ name ∉ g.removes settings := by
  unfold flatten Inheritance.removes
  cases g.strategyIn settings with
  | tablePerClass =>
    simp only [tablePerClass_eq]
    rw [names_modifyEach]
    . simp
    . intro t
      rfl
  | singleTable => simp
  | tablePerSubclass => simp [LogicalModel.name_of_table? hparent]

theorem relationTables_flatten {key : String} {children : List String} :
    (flatten settings d g table key children).relationTables = d.relationTables := by
  unfold flatten
  cases g.strategyIn settings with
  | tablePerClass => exact relationTables_modifyEach
  | singleTable => rfl
  | tablePerSubclass => exact relationTables_tablePerSubclass

theorem keyNames_iterate_eq_nil_iff {f : Table → Table} (hf : ∀ t, (f t).keyNames ≠ []) (n : Nat)
    (t : Table) : (f^[n] t).keyNames = [] ↔ t.keyNames = [] ∧ n = 0 := by
  cases n with
  | zero => simp
  | succ n => simp [Function.iterate_succ_apply', hf]

theorem keyNames?_flatten (hparent : d.schema.table? g.parent = some table)
    (hkey : table.keys.head? = some column)
    (hname : name ∈ (flatten settings d g table column.name g.children).schema.names) :
    (flatten settings d g table column.name g.children).keyNames? name = some []
      ↔
    d.keyNames? name = some [] ∧ name ∉ g.children := by
  rw [mem_names_flatten hparent] at hname
  have hkeys := Table.keyNames_ne_nil_of_head? hkey
  unfold flatten
  unfold Inheritance.removes at hname
  cases hs : g.strategyIn settings with
  | tablePerClass =>
    simp only [keyNames?_tablePerClass]
    simp only [Draft.keyNames?, Option.map_eq_some_iff, List.count_eq_zero,
      keyNames_iterate_eq_nil_iff (keyNames_referToParent_ne_nil _ _)]
    grind
  | singleTable =>
    simp only [hs] at hname
    simp only [keyNames?_singleTable hname.2, hname.2, not_false_eq_true, and_true]
  | tablePerSubclass =>
    simp only [hs, List.mem_singleton, ← LogicalModel.name_of_table? hparent] at hname
    simp only [keyNames?_tablePerSubclass hname.2]
    simp only [Draft.keyNames?, Option.map_eq_some_iff, List.count_eq_zero,
      keyNames_iterate_eq_nil_iff (keyNames_inheritColumns_ne_nil hkeys)]
    grind

end Flatten

theorem stands_append {name : String} :
    Stands settings (front ++ [g]) name ↔ Stands settings front name ∧ name ∉ g.removes settings := by
  simp [Stands, or_imp, forall_and]

theorem GroupsDone.next (h : GroupsDone m settings front d)
    (hclean : (inheritance settings d g).FindsAll) :
    GroupsDone m settings (front ++ [g]) (inheritance settings d g).value := by
  obtain ⟨table, column, hparent, hkey, _, hvalue⟩ := inheritance_flattens hclean
  rw [hvalue]
  constructor
  . intro name
    rw [mem_names_flatten hparent, h.names, stands_append, and_assoc]
  . rw [relationTables_flatten, h.tables]
  . intro name hname hentity
    have hbefore := (mem_names_flatten hparent).1 hname
    have hkeyed := h.keys name hbefore.1 hentity
    rw [ne_eq, keyNames?_flatten hparent hkey hname]
    unfold ConceptualModel.KeyedAfter at hkeyed ⊢
    simp only [List.mem_append, List.mem_singleton]
    grind

theorem inheritance_findsAll_iff (hm : m.Valid) (hg : g ∈ m.inheritances)
    (hrelated : RelationsDone m m.relations (related m).value) (h : GroupsDone m settings front d) :
    (inheritance settings d g).FindsAll ↔ m.ReadyGroup settings front g := by
  have hmembers : ∀ name ∈ g.parent :: g.children, name ∈ (related m).value.schema.names := by
    intro name hname
    rw [hrelated.names]
    exact Or.inl (hm.members g hg name hname)
  have hstands : (∀ name ∈ g.parent :: g.children, name ∈ d.schema.names)
      ↔ ∀ name ∈ g.parent :: g.children, Stands settings front name := by
    apply forall₂_congr
    intro name hname
    rw [h.names, and_iff_right (hmembers name hname)]
  unfold ConceptualModel.ReadyGroup
  rw [inheritance_findsAll, ← hstands]
  apply and_congr_right
  intro hall
  exact h.keys g.parent (hall _ (List.mem_cons_self ..)) (hm.members g hg _ (List.mem_cons_self ..))

theorem inheritances_findsAll (hm : m.Valid) (hrelated : RelationsDone m m.relations (related m).value) :
    (inheritances m settings (related m).value).FindsAll
      ↔
    ∀ front g back, m.inheritances = front ++ g :: back → m.ReadyGroup settings front g := by
  apply Outcome.reports_foldlM_iff (groupsDone_nil hrelated)
  . intro front g back d hsplit hd
    exact inheritance_findsAll_iff hm (by simp [hsplit]) hrelated hd
  . intro front g back d _ hd
    exact hd.next

theorem groupsDone_flattened (hrelated : RelationsDone m m.relations (related m).value)
    (hclean : (inheritances m settings (related m).value).FindsAll) :
    GroupsDone m settings m.inheritances (flattened m settings).value := by
  apply Outcome.foldlM_induction (GroupsDone m settings) hclean (groupsDone_nil hrelated)
  intro front g back d _ hd
  exact hd.next

theorem relationsDone_of_findsAll (hm : m.Valid) (hclean : (m.toLogical settings).FindsAll) :
    RelationsDone m m.relations (related m).value :=
  relationsDone_related hm (reports_toLogical.1 hclean).1

theorem groupsDone_of_findsAll (hm : m.Valid) (hclean : (m.toLogical settings).FindsAll) :
    GroupsDone m settings m.inheritances (flattened m settings).value :=
  groupsDone_flattened (relationsDone_of_findsAll hm hclean) (reports_toLogical.1 hclean).2.1

end Derivation

end Groups

end SchemaDesign
