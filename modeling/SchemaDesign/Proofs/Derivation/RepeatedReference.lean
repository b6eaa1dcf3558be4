import SchemaDesign.Proofs.Derivation.Repetition

/-!
This module contains what it does to name a child several times if it keeps a table of its own next to that of its
parent. It gets one reference to the parent for each time, and these are there until the end.
-/

namespace SchemaDesign

namespace Derivation

variable {m : ConceptualModel} {settings : Settings} {d d' : Draft} {g : Inheritance}

section Count

structure Draft.Trails (n : Nat) (d d' : Draft) : Prop where
  names : d.schema.names = d'.schema.names
  relationTables : d.relationTables = d'.relationTables
  references : d.schema.references.length + n ≤ d'.schema.references.length

structure Draft.TrailsKeyed (n : Nat) (d d' : Draft) : Prop extends d.Trails n d' where
  nodup : d.schema.names.Nodup
  keyless : ∀ name, d.keyNames? name = some [] ↔ d'.keyNames? name = some []

variable {n : Nat}

theorem length_references_modify {f : Table → Table} (k : Nat)
    (hf : ∀ t, (f t).references.length = t.references.length + k) (schema : LogicalModel) (name : String) :
    (schema.modify name f).references.length = schema.references.length + schema.names.count name * k := by
  obtain ⟨tables⟩ := schema
  simp only [LogicalModel.modify, LogicalModel.references, LogicalModel.names]
  induction tables with
  | nil => simp
  | cons t tables ih =>
    simp only [List.map_cons, List.flatMap_cons, List.length_append, ih, List.count_cons]
    by_cases h : t.name = name
    . simp only [h, if_pos, hf, beq_self_eq_true, Nat.add_mul, Nat.one_mul]
      omega
    . simp only [h, if_false, beq_eq_false_iff_ne.2 h, Bool.false_eq_true, Nat.add_zero]
      omega

theorem length_references_referToParent (parent key : String) (t : Table) :
    (referToParent parent key t).references.length = t.references.length + 1 := by
  -- Only a column without a reference gives way.
  have hkept : (t.columns.filter fun c => !(c.name = key && c.isKey && c.reference.isNone)).filterMap (·.reference)
      = t.columns.filterMap (·.reference) := by
    rw [List.filterMap_filter]
    apply List.filterMap_congr
    intro c _
    cases c.reference <;> simp
  simp only [referToParent, Table.references, Column.keyReferring, List.filterMap_cons, hkept, List.length_cons]

theorem length_references_tablePerClass {parent key : String} {children : List String} (hd : d.schema.names.Nodup)
    (hchildren : ∀ child ∈ children, child ∈ d.schema.names) :
    (tablePerClass d parent key children).schema.references.length
      =
    d.schema.references.length + children.length := by
  rw [tablePerClass_eq]
  induction children generalizing d with
  | nil => rfl
  | cons child children ih =>
    rw [List.forall_mem_cons] at hchildren
    have hnames : (d.modify child (referToParent parent key)).schema.names = d.schema.names := by
      apply LogicalModel.names_modify
      intro t
      rfl
    have hlength := length_references_modify 1 (length_references_referToParent parent key) d.schema child
    rw [List.count_eq_one_of_mem hd hchildren.1] at hlength
    rw [modifyEach_cons, ih, Draft.modify, hlength, List.length_cons]
    . omega
    . rwa [hnames]
    . rw [hnames]
      exact hchildren.2

theorem isSome_keyed?_iff {name : String} :
    (d.keyed? name).isSome = true ↔ name ∈ d.schema.names ∧ d.keyNames? name ≠ some [] := by
  rw [← LogicalModel.isSome_table?]
  unfold Draft.keyed? Draft.keyNames? Table.keyNames
  cases d.schema.table? name with
  | none => simp
  | some t => cases h : t.keys <;> simp [h]

theorem Draft.Trails.hasTable_eq (h : d.Trails n d') : d.schema.hasTable = d'.schema.hasTable := by
  funext name
  rw [Bool.eq_iff_iff, LogicalModel.hasTable_iff, LogicalModel.hasTable_iff, h.names]

theorem Draft.Trails.mono {k : Nat} (h : d.Trails n d') (hle : k ≤ n) : d.Trails k d' := by
  refine ⟨h.names, h.relationTables, ?_⟩
  have := h.references
  omega

theorem keyless_tablePerClass_iff {parent key name : String} {children : List String} :
    (tablePerClass d parent key children).keyNames? name = some [] ↔ d.keyNames? name = some [] ∧ name ∉ children := by
  rw [keyNames?_tablePerClass]
  simp only [Draft.keyNames?, Option.map_eq_some_iff, keyNames_iterate_eq_nil_iff (keyNames_referToParent_ne_nil _ _),
    List.count_eq_zero]
  grind

theorem names_tablePerClass {parent key : String} {children : List String} :
    (tablePerClass d parent key children).schema.names = d.schema.names := by
  rw [tablePerClass_eq]
  apply names_modifyEach
  intro t
  rfl

theorem trailsKeyed_inheritance {k : Nat} (hstrategy : g.strategyIn settings = .tablePerClass)
    (h : d'.TrailsKeyed n d) (hk : k = 0 ∨ k = 1 ∧ RefersAgain settings d g) :
    (inheritance settings d' g.withoutRepeats).value.TrailsKeyed (n + k) (inheritance settings d g).value := by
  have hkeyed : (d'.keyed? g.parent).isSome = true ↔ (d.keyed? g.parent).isSome = true := by
    rw [isSome_keyed?_iff, isSome_keyed?_iff, h.names, ne_eq, h.keyless]
  have hpresent : d'.present g = d.present g := by
    rw [Draft.present, h.hasTable_eq, Draft.present]
  rw [value_inheritance_withoutRepeats, value_inheritance, hpresent]
  cases hfound : d.keyed? g.parent with
  | none =>
    have hnone : d'.keyed? g.parent = none := by simpa [hfound] using hkeyed
    have hzero : k = 0 := by simpa [RefersAgain, hfound] using hk
    rw [hnone, hzero]
    exact h
  | some pair =>
    obtain ⟨pair', hfound'⟩ := Option.isSome_iff_exists.1 (hkeyed.2 (by rw [hfound]; rfl))
    have hchildren : ∀ child ∈ d.present g, child ∈ d.schema.names := by
      intro child hchild
      exact LogicalModel.hasTable_iff.1 (List.mem_filter.1 hchild).2
    -- Each time that a child is named again makes one more reference.
    have hmany : (distinct (d.present g)).length + k ≤ (d.present g).length := by
      rcases hk with rfl | ⟨rfl, hagain⟩
      . exact (subperm_distinct _).length_le
      . exact length_distinct_lt hagain.2.2
    rw [hfound']
    simp only [flatten, hstrategy]
    refine ⟨⟨?_, ?_, ?_⟩, ?_, ?_⟩
    . rw [names_tablePerClass, names_tablePerClass, h.names]
    . rw [tablePerClass_eq, tablePerClass_eq, relationTables_modifyEach, relationTables_modifyEach, h.relationTables]
    . rw [length_references_tablePerClass h.nodup, length_references_tablePerClass (h.names ▸ h.nodup) hchildren]
      . have := h.references
        omega
      . intro child hchild
        rw [h.names]
        exact hchildren child (mem_distinct.1 hchild)
    . rw [names_tablePerClass]
      exact h.nodup
    . intro name
      rw [keyless_tablePerClass_iff, keyless_tablePerClass_iff, h.keyless, mem_distinct]

theorem trailsKeyed_inheritances {groups : List Inheritance}
    (hgroups : ∀ g ∈ groups, g.strategyIn settings = .tablePerClass) (h : d'.TrailsKeyed n d) :
    ((groups.map (·.withoutRepeats)).foldlM (inheritance settings) d').value.TrailsKeyed n
      (groups.foldlM (inheritance settings) d).value := by
  induction groups generalizing d d' with
  | nil => exact h
  | cons g groups ih =>
    rw [List.forall_mem_cons] at hgroups
    rw [List.map_cons, List.foldlM_cons, List.foldlM_cons, Outcome.value_bind, Outcome.value_bind]
    exact ih hgroups.2 (trailsKeyed_inheritance hgroups.1 h (Or.inl rfl))

section Associative

variable {a : AssociativeEntity}

theorem references_appendAttributes (t : Table) (attributes : List Attribute) :
    (appendAttributes t attributes).references = t.references := by
  induction attributes generalizing t with
  | nil => rfl
  | cons a attributes ih =>
    rw [appendAttributes_cons, ih]
    split
    . rfl
    . simp [Column.plain]

theorem Draft.Trails.participantKeys_eq (h : d'.Trails n d) (scope : String) (ps : List Participant) :
    participantKeys m d' scope ps = participantKeys m d scope ps := by
  induction ps with
  | nil => rfl
  | cons p ps ih => simp only [participantKeys, participantKey, h.hasTable_eq, ih]

theorem Draft.Trails.describe (h : d'.Trails n d) (relation table : String) :
    ((d'.modify table (appendAttributes · a.attributes)).represent relation table).Trails n
      ((d.modify table (appendAttributes · a.attributes)).represent relation table) := by
  have hlength : ∀ d : Draft, (d.modify table (appendAttributes · a.attributes)).schema.references.length
      = d.schema.references.length := by
    intro d
    apply length_references_modify 0
    intro t
    rw [references_appendAttributes, Nat.add_zero]
  have hnames : ∀ d : Draft, (d.modify table (appendAttributes · a.attributes)).schema.names = d.schema.names := by
    intro d
    apply LogicalModel.names_modify
    intro t
    apply name_appendAttributes
  constructor
  . exact ((hnames d').trans h.names).trans (hnames d).symm
  . exact congrArg ((relation, table) :: ·) h.relationTables
  . exact (congrArg (· + n) (hlength d')).trans_le (h.references.trans (hlength d).ge)

theorem Draft.Trails.promote (h : d'.Trails n d) (r : Relation) :
    Option.Rel (fun found' found => found'.1.Trails n found.1 ∧ found'.2 = found.2)
      (promote m d' a r).value (promote m d a r).value := by
  have htable : d'.tableOf? r.name = d.tableOf? r.name := by
    unfold Draft.tableOf?
    rw [h.relationTables, h.hasTable_eq]
  unfold Derivation.promote
  rw [htable, h.hasTable_eq]
  cases d.tableOf? r.name with
  | some table =>
    simp only
    split
    . exact .some ⟨h, rfl⟩
    . split
      . exact .some ⟨h, rfl⟩
      . refine .some ⟨⟨?_, h.relationTables, ?_⟩, rfl⟩
        . simp only [LogicalModel.names_rename, h.names]
        . simp only [LogicalModel.references_rename, List.length_map]
          exact h.references
  | none =>
    simp only
    split
    . exact .none
    . rw [h.participantKeys_eq]
      simp only [Outcome.value_bind]
      cases (participantKeys m d r.name r.participants).value with
      | none => exact .none
      | some keys =>
        refine .some ⟨⟨?_, h.relationTables, ?_⟩, rfl⟩
        . simp only [Draft.add, LogicalModel.names_add, h.names]
        . have := h.references
          simp only [Draft.add, LogicalModel.add, LogicalModel.references, List.flatMap_append, List.length_append]
            at this ⊢
          omega

theorem Draft.Trails.associative (h : d'.Trails n d) :
    (associative m d' a).value.Trails n (associative m d a).value := by
  unfold Derivation.associative
  cases m.relation? a.relation with
  | none => exact h
  | some r =>
    have hpromote := h.promote (m := m) (a := a) r
    simp only [Outcome.value_bind]
    generalize (Derivation.promote m d' a r).value = found' at hpromote ⊢
    generalize (Derivation.promote m d a r).value = found at hpromote ⊢
    cases hpromote with
    | none => exact h
    | some hfound =>
      obtain ⟨htrails, htable⟩ := hfound
      simp only [Outcome.value_pure, htable]
      exact htrails.describe _ _

theorem Draft.Trails.associatives (h : d'.Trails n d) :
    (associatives m d').value.Trails n (associatives m d).value := by
  unfold Derivation.associatives
  induction m.associatives generalizing d d' with
  | nil => exact h
  | cons a as ih =>
    rw [List.foldlM_cons, List.foldlM_cons, Outcome.value_bind, Outcome.value_bind]
    exact ih h.associative

end Associative

end Count

section Model

theorem value_toLogical_eq_associatives :
    (m.toLogical settings).value
      =
    (associatives m (m.inheritances.foldlM (inheritance settings) (related m).value).value >>= finish).value := by
  rw [toLogical_eq_bind]
  rfl

theorem value_toLogical_withoutRepeats_eq :
    (m.withoutRepeats.toLogical settings).value
      =
    (associatives m ((m.inheritances.map (·.withoutRepeats)).foldlM (inheritance settings) (related m).value).value
      >>= finish).value := by
  -- The other stages see the groups by way of the keys only.
  have hkeys : ∀ name, (m.withGroups m.withoutRepeats.inheritances).keyName? name
      = (m.withGroups m.inheritances).keyName? name :=
    ConceptualModel.keyName?_withGroups_of_parent? parent?_withoutRepeats
  have hrelated : related m.withoutRepeats = related m := related_withGroups hkeys
  have hassociatives : associatives m.withoutRepeats = associatives m := associatives_withGroups hkeys
  rw [value_toLogical_eq_associatives, hrelated, hassociatives]
  rfl

/--
None of the groups makes a child refer to its parent again, when those before it have been flattened.
-/
def RefersOnce (m : ConceptualModel) (settings : Settings) : Prop :=
  ∀ front g back, m.inheritances = front ++ g :: back →
    ¬RefersAgain settings (front.foldlM (inheritance settings) (related m).value).value g

theorem value_toLogical_withoutRepeats (h : RefersOnce m settings) :
    (m.withoutRepeats.toLogical settings).value = (m.toLogical settings).value := by
  have halike : (related m).value.Alike (related m).value := ⟨rfl, rfl, fun _ => rfl, fun _ => Iff.rfl⟩
  rw [value_toLogical_withoutRepeats_eq, value_toLogical_eq_associatives,
    associatives_finish_congr (inheritances_withoutRepeats halike h)]

theorem length_references_finish (d : Draft) :
    (associatives m d >>= finish).value.references.length = (associatives m d).value.schema.references.length := by
  simp only [Outcome.value_bind, finish, Outcome.value_pure, LogicalModel.references_mapReferences, List.length_map]

theorem refersOnce_of_value_eq (hgroups : ∀ g ∈ m.inheritances, g.strategyIn settings = .tablePerClass)
    (h : (m.withoutRepeats.toLogical settings).value = (m.toLogical settings).value) : RefersOnce m settings := by
  intro front g back hsplit hagain
  rw [hsplit, List.forall_mem_append, List.forall_mem_cons] at hgroups
  have hstart : (related m).value.TrailsKeyed 0 (related m).value :=
    ⟨⟨rfl, rfl, le_rfl⟩, nodup_names_related, fun _ => Iff.rfl⟩
  have hfront := trailsKeyed_inheritances hgroups.1 hstart
  have hgroup := trailsKeyed_inheritance hgroups.2.1 hfront (Or.inr ⟨rfl, hagain⟩)
  -- Nothing behind the group makes up for the missing reference.
  have hback := (trailsKeyed_inheritances hgroups.2.2 hgroup).associatives (m := m)
  have hreferences := hback.references
  rw [← length_references_finish, ← length_references_finish] at hreferences
  rw [value_toLogical_withoutRepeats_eq, value_toLogical_eq_associatives] at h
  have hlength := congrArg (·.references.length) h
  simp only [hsplit, List.map_append, List.map_cons, List.foldlM_append, List.foldlM_cons,
    Outcome.value_bind (List.foldlM ..), Outcome.value_bind (inheritance ..)] at hlength
  omega

theorem toLogical_withoutRepeats (m : ConceptualModel) (settings : Settings) :
    (RefersOnce m settings → (m.withoutRepeats.toLogical settings).value = (m.toLogical settings).value)
      ∧ ((∀ g ∈ m.inheritances, g.strategyIn settings = .tablePerClass) →
        (m.withoutRepeats.toLogical settings).value = (m.toLogical settings).value → RefersOnce m settings) :=
  ⟨value_toLogical_withoutRepeats, refersOnce_of_value_eq⟩

def namedTwice : ConceptualModel where
  entities := [⟨"P", [⟨"id", true, false⟩]⟩, ⟨"C", [⟨"note", false, false⟩]⟩]
  relations := []
  inheritances := [⟨"g", "P", ["C", "C"], none⟩]
  associatives := []

theorem namedTwice_refers_twice :
    (namedTwice.toLogical .standard).value.table? "C"
        = some ⟨"C", [.keyReferring "id_p" "P" "id", .keyReferring "id" "P" "id", .plain "note"]⟩
      ∧ (namedTwice.withoutRepeats.toLogical .standard).value.table? "C"
        = some ⟨"C", [.keyReferring "id" "P" "id", .plain "note"]⟩
      ∧ (namedTwice.withoutRepeats.toLogical .standard).value ≠ (namedTwice.toLogical .standard).value := by
  decide +kernel

def garages : ConceptualModel where
  entities := [⟨"Vehicle", [⟨"id_v", true, false⟩]⟩, ⟨"Car", [⟨"doors", false, false⟩]⟩,
    ⟨"Truck", [⟨"load", false, false⟩, ⟨"doors", false, false⟩]⟩, ⟨"Person", [⟨"id_p", true, false⟩]⟩,
    ⟨"Driver", [⟨"since", false, false⟩]⟩, ⟨"Place", [⟨"id_l", true, false⟩]⟩, ⟨"Garage", [⟨"level", false, false⟩]⟩]
  relations := [⟨"drives", [⟨"Car", .oneOne⟩, ⟨"Driver", .zeroMany⟩], []⟩]
  inheritances := [⟨"Kinds", "Vehicle", ["Car", "Truck", "Car"], some .singleTable⟩,
    ⟨"People", "Person", ["Driver", "Driver"], some .tablePerSubclass⟩,
    ⟨"Places", "Place", ["Yard", "Garage", "Yard"], some .tablePerClass⟩]
  associatives := []

theorem toLogical_withoutRepeats_garages :
    RefersOnce garages .standard
      ∧ (garages.toLogical .standard).value.tables.map (fun t => (t.name, t.names))
        = [("Vehicle", ["id_v", "type_discriminator", "doors", "id_p", "load"]), ("Driver", ["id_p", "since"]),
           ("Place", ["id_l"]), ("Garage", ["id_l", "level"])]
      ∧ (garages.withoutRepeats.toLogical .standard).value = (garages.toLogical .standard).value := by
  have honce : RefersOnce garages .standard := by
    intro front g back hsplit
    rcases front with _ | ⟨_, _ | ⟨_, _ | ⟨_, _ | ⟨_, front⟩⟩⟩⟩
    all_goals cases hsplit
    all_goals decide +kernel
  exact ⟨honce, by decide +kernel, (toLogical_withoutRepeats garages .standard).1 honce⟩

end Model

end Derivation

end SchemaDesign
