import SchemaDesign.Proofs.Derivation.Locality
import SchemaDesign.Proofs.Derivation.Regrouping
import SchemaDesign.Proofs.Logical.Lookup

/-!
This module contains that the order of two neighbouring inheritance groups does not matter if they have no member in
common. Each of them works on the tables of its members only, and what they leave in the records of a draft is looked up
with the same results in either order.
-/

namespace SchemaDesign

namespace Derivation

variable {m : ConceptualModel} {settings : Settings} {d d' : Draft} {g h : Inheritance} {name : String}

structure Draft.Alike (d d' : Draft) : Prop where
  schema : d.schema = d'.schema
  relationTables : d.relationTables = d'.relationTables
  folded : ∀ child, d.folded.lookup child = d'.folded.lookup child
  dissolved : ∀ parent, parent ∈ d.dissolved ↔ parent ∈ d'.dissolved

section Congruence

theorem Draft.agreesOn_of_schema (hschema : d.schema = d'.schema) (names : List String) : d.AgreesOn names d' := by
  intro name _
  rw [hschema]

theorem schema_modifyEach {f : Table → Table} {names : List String} (hschema : d.schema = d'.schema) :
    (modifyEach f d names).schema = (modifyEach f d' names).schema := by
  induction names generalizing d d' with
  | nil => exact hschema
  | cons name names ih =>
    apply ih
    exact congrArg (·.modify name f) hschema

theorem schema_inheritance (hschema : d.schema = d'.schema) :
    (inheritance settings d g).value.schema = (inheritance settings d' g).value.schema := by
  have hagrees := Draft.agreesOn_of_schema hschema g.members
  rw [value_inheritance, value_inheritance, ← keyed?_eq hagrees, ← present_eq hagrees]
  cases d.keyed? g.parent with
  | none => exact hschema
  | some pair =>
    simp only [flatten]
    cases g.strategyIn settings with
    | tablePerClass =>
      rw [tablePerClass_eq, tablePerClass_eq]
      exact schema_modifyEach hschema
    | singleTable => simp only [singleTable, Draft.modify, hschema]
    | tablePerSubclass => exact congrArg (·.remove [pair.1.name]) (schema_modifyEach hschema)

variable (hagrees : d.AgreesOn g.members d')

include hagrees

theorem newFolds_eq : newFolds settings d g = newFolds settings d' g := by
  unfold newFolds
  rw [keyed?_eq hagrees, present_eq hagrees]

theorem newDissolved_eq : newDissolved settings d g = newDissolved settings d' g := by
  unfold newDissolved
  rw [keyed?_eq hagrees]

end Congruence

theorem inheritance_agrees (hd : d.Alike d') :
    (inheritance settings d g).Agrees Draft.Alike (inheritance settings d' g) := by
  have hagrees := Draft.agreesOn_of_schema hd.schema g.members
  constructor
  . constructor
    . exact schema_inheritance hd.schema
    . rw [relationTables_inheritance, relationTables_inheritance, hd.relationTables]
    . intro child
      rw [folded_inheritance, folded_inheritance, newFolds_eq hagrees, List.lookup_append, List.lookup_append,
        hd.folded]
    . intro parent
      rw [dissolved_inheritance, dissolved_inheritance, newDissolved_eq hagrees, List.mem_append, List.mem_append,
        hd.dissolved]
  . exact diagnostics_inheritance_eq hagrees

section Associative

def Draft.withRecords (d : Draft) (folded : List (String × (String × String))) (dissolved : List String) : Draft :=
  { d with folded, dissolved }

theorem Draft.Alike.eq_withRecords (hd : d.Alike d') : d' = d.withRecords d'.folded d'.dissolved := by
  rw [withRecords, hd.schema, hd.relationTables]

variable {folded : List (String × (String × String))} {dissolved : List String}

theorem participantKeys_withRecords (scope : String) (ps : List Participant) :
    participantKeys m (d.withRecords folded dissolved) scope ps = participantKeys m d scope ps := by
  induction ps with
  | nil => rfl
  | cons p ps ih =>
    simp only [participantKeys, ih]
    rfl

theorem promote_withRecords (a : AssociativeEntity) (r : Relation) :
    promote m (d.withRecords folded dissolved) a r
      =
    Option.map (fun found => (found.1.withRecords folded dissolved, found.2)) <$> promote m d a r := by
  have htable : (d.withRecords folded dissolved).tableOf? r.name = d.tableOf? r.name := rfl
  have hschema : (d.withRecords folded dissolved).schema = d.schema := rfl
  unfold promote
  rw [htable, hschema, participantKeys_withRecords]
  cases d.tableOf? r.name with
  | some table =>
    simp only
    split
    . rfl
    . split <;> rfl
  | none =>
    simp only
    split
    . rfl
    . cases hkeys : (participantKeys m d r.name r.participants).value with
      | none => apply Outcome.ext <;> simp [hkeys]
      | some keys => apply Outcome.ext <;> simp [hkeys]; rfl

theorem associative_withRecords (a : AssociativeEntity) :
    associative m (d.withRecords folded dissolved) a
      =
    (·.withRecords folded dissolved) <$> associative m d a := by
  unfold associative
  cases m.relation? a.relation with
  | none => rfl
  | some r =>
    simp only [promote_withRecords]
    apply Outcome.ext
    . simp only [Outcome.value_map, Outcome.value_bind]
      cases (promote m d a r).value <;> rfl
    . simp only [Outcome.diagnostics_map, Outcome.diagnostics_bind, Outcome.value_map]
      cases (promote m d a r).value <;> rfl

theorem associative_agrees {a : AssociativeEntity} (hd : d.Alike d') :
    (associative m d a).Agrees Draft.Alike (associative m d' a) := by
  have hstep := associative_step (m := m) (d := d) (a := a)
  rw [hd.eq_withRecords, associative_withRecords]
  constructor
  . rw [Outcome.value_map]
    constructor
    . rfl
    . rfl
    . rw [folded_associative hstep]
      exact hd.folded
    . rw [dissolved_associative hstep]
      exact hd.dissolved
  . rw [Outcome.diagnostics_map]

end Associative

theorem finish_congr (hd : d.Alike d') : finish d = finish d' := by
  have hretarget : retarget d.folded = retarget d'.folded := by
    funext fk
    simp only [retarget, hd.folded]
  have hreport : reportFlattened d.dissolved = reportFlattened d'.dissolved := by
    funext schema
    have hcheck : reportFlattened.check d.dissolved = reportFlattened.check d'.dissolved := by
      funext t c
      simp only [reportFlattened.check, hd.dissolved]
    simp only [reportFlattened, hcheck]
  unfold finish
  rw [hd.schema, hretarget, hreport]

section Commute

variable (hdisjoint : g.members.Disjoint h.members)

include hdisjoint

theorem agreesOn_inheritance : (inheritance settings d g).value.AgreesOn h.members d := by
  intro name hname
  apply table?_inheritance_of_notMem
  intro hmem
  exact hdisjoint hmem hname

theorem table?_inheritance_inheritance (name : String) :
    (inheritance settings (inheritance settings d g).value h).value.schema.table? name
      =
    if name ∈ h.members then (inheritance settings d h).value.schema.table? name
    else (inheritance settings d g).value.schema.table? name := by
  split
  . next hmem => exact table?_inheritance_eq (agreesOn_inheritance hdisjoint) hmem
  . next hnot => exact table?_inheritance_of_notMem hnot

theorem schema_inheritance_comm (hnames : d.schema.names.Nodup) :
    (inheritance settings (inheritance settings d g).value h).value.schema
      =
    (inheritance settings (inheritance settings d h).value g).value.schema := by
  apply LogicalModel.eq_of_table?_eq hnames
  . exact names_inheritance_sublist.trans names_inheritance_sublist
  . exact names_inheritance_sublist.trans names_inheritance_sublist
  . intro name
    rw [table?_inheritance_inheritance hdisjoint, table?_inheritance_inheritance (List.disjoint_symm hdisjoint)]
    by_cases hg : name ∈ g.members
    . rw [if_pos hg, if_neg fun hh => hdisjoint hg hh]
    . rw [if_neg hg]
      split
      . rfl
      . next hh => rw [table?_inheritance_of_notMem hg, table?_inheritance_of_notMem hh]

omit hdisjoint in
theorem lookup_newFolds_eq_none (hname : name ∉ g.members) : (newFolds settings d g).lookup name = none := by
  rw [List.lookup_eq_none_iff]
  intro entry hentry
  have hchild : entry.1 ∈ g.children := by
    unfold newFolds at hentry
    split at hentry
    . obtain ⟨child, hmem, rfl⟩ := List.mem_map.1 hentry
      exact (List.mem_filter.1 hmem).1
    . contradiction
  rw [bne_iff_ne]
  rintro rfl
  exact hname (List.mem_cons_of_mem _ hchild)

theorem inheritance_comm (hnames : d.schema.names.Nodup) :
    (inheritance settings (inheritance settings d g).value h).value.Alike
      (inheritance settings (inheritance settings d h).value g).value := by
  constructor
  . exact schema_inheritance_comm hdisjoint hnames
  . simp only [relationTables_inheritance]
  . intro child
    simp only [folded_inheritance, newFolds_eq (agreesOn_inheritance hdisjoint),
      newFolds_eq (agreesOn_inheritance (List.disjoint_symm hdisjoint)), List.lookup_append]
    by_cases hg : child ∈ g.members
    . simp [lookup_newFolds_eq_none fun hh => hdisjoint hg hh]
    . simp [lookup_newFolds_eq_none hg]
  . intro parent
    simp only [dissolved_inheritance, newDissolved_eq (agreesOn_inheritance hdisjoint),
      newDissolved_eq (agreesOn_inheritance (List.disjoint_symm hdisjoint)), List.mem_append]
    exact or_left_comm

theorem parent?_exchange (front back : List Inheritance) (child : String) :
    (m.withGroups (front ++ g :: h :: back)).parent? child
      =
    (m.withGroups (front ++ h :: g :: back)).parent? child := by
  unfold ConceptualModel.parent? ConceptualModel.withGroups
  simp only [List.find?_append, List.find?_cons]
  by_cases hg : child ∈ g.children
  . have hh : child ∉ h.children := fun hh => hdisjoint (List.mem_cons_of_mem _ hg) (List.mem_cons_of_mem _ hh)
    simp [hg, hh]
  . simp [hg]

theorem inheritances_exchange (front back : List Inheritance) (hnames : d.schema.names.Nodup) :
    ((front ++ g :: h :: back).foldlM (inheritance settings) d).value.Alike
        ((front ++ h :: g :: back).foldlM (inheritance settings) d).value
      ∧ ((front ++ g :: h :: back).foldlM (inheritance settings) d).diagnostics.Perm
          ((front ++ h :: g :: back).foldlM (inheritance settings) d).diagnostics := by
  simp only [List.foldlM_append, List.foldlM_cons, Outcome.value_bind, Outcome.diagnostics_bind]
  have hbefore : (front.foldlM (inheritance settings) d).value.schema.names.Nodup := by
    apply Outcome.foldlM_invariant (fun d : Draft => d.schema.names.Nodup) hnames
    intro d g _ hd
    exact nodup_names_inheritance hd inheritance_step
  generalize (front.foldlM (inheritance settings) d).value = d at hbefore ⊢
  have hafter : (back.foldlM (inheritance settings)
        (inheritance settings (inheritance settings d g).value h).value).Agrees Draft.Alike
      (back.foldlM (inheritance settings) (inheritance settings (inheritance settings d h).value g).value) := by
    apply Outcome.foldlM_agrees (inheritance_comm hdisjoint hbefore)
    intro d d' g _ hd
    exact inheritance_agrees hd
  refine ⟨hafter.value, ?_⟩
  rw [hafter.diagnostics, diagnostics_inheritance_eq (agreesOn_inheritance hdisjoint),
    diagnostics_inheritance_eq (agreesOn_inheritance (List.disjoint_symm hdisjoint))]
  apply List.Perm.append_left
  rw [← List.append_assoc, ← List.append_assoc]
  exact List.perm_append_comm.append_right _

end Commute

section Exchange

theorem toLogical_eq_bind :
    m.toLogical settings
      =
    related m >>= fun d => inheritances m settings d >>= fun d => associatives m d >>= finish := by
  simp only [ConceptualModel.toLogical, related, bind_assoc]

theorem associatives_finish_congr (hd : d.Alike d') : associatives m d >>= finish = associatives m d' >>= finish := by
  rw [← Outcome.agrees_eq_iff]
  apply Outcome.Agrees.bind (R := Draft.Alike)
  . exact Outcome.foldlM_agrees hd fun s s' a _ hs => associative_agrees hs
  . intro d d' hd
    rw [finish_congr hd, Outcome.agrees_eq_iff]

theorem toLogical_exchange (m : ConceptualModel) (settings : Settings) (front back : List Inheritance)
    (g h : Inheritance) (hgroups : m.inheritances = front ++ g :: h :: back)
    (hdisjoint : g.members.Disjoint h.members) :
    ((m.withGroups (front ++ h :: g :: back)).toLogical settings).value = (m.toLogical settings).value
      ∧ ((m.withGroups (front ++ h :: g :: back)).toLogical settings).diagnostics.Perm
          (m.toLogical settings).diagnostics := by
  -- The other stages see the groups by way of the keys only.
  have hkeys := ConceptualModel.keyName?_withGroups_of_parent? (m := m) (parent?_exchange hdisjoint front back)
  have hm : m.withGroups (front ++ g :: h :: back) = m := by
    rw [← hgroups]
    rfl
  have hrelated := related_withGroups hkeys
  have hassociatives := associatives_withGroups hkeys
  rw [hm] at hrelated hassociatives
  have hnames : (related m).value.schema.names.Nodup := nodup_names_related
  obtain ⟨hvalue, hdiagnostics⟩ := @inheritances_exchange settings _ g h hdisjoint front back hnames
  rw [← hgroups] at hvalue hdiagnostics
  have hfinished := associatives_finish_congr (m := m) hvalue
  rw [toLogical_eq_bind, toLogical_eq_bind, ← hrelated, ← hassociatives]
  constructor
  . simp only [Outcome.value_bind (related m), Outcome.value_bind (inheritances ..)]
    exact congrArg Outcome.value hfinished.symm
  . simp only [Outcome.diagnostics_bind (related m)]
    apply List.Perm.append_left
    rw [Outcome.diagnostics_bind, Outcome.diagnostics_bind]
    apply List.Perm.append
    . exact hdiagnostics.symm
    . exact List.Perm.of_eq (congrArg Outcome.diagnostics hfinished.symm)

def people : Inheritance := ⟨"People", "Person", ["Student", "Guest"], some .singleTable⟩

def places : Inheritance := ⟨"Places", "Place", ["Room", "Yard"], some .tablePerClass⟩

def lessons : ConceptualModel where
  entities := [⟨"Person", [⟨"id_p", true, false⟩]⟩, ⟨"Student", [⟨"id_s", true, false⟩, ⟨"year", false, false⟩]⟩,
    ⟨"Place", [⟨"id_l", true, false⟩]⟩, ⟨"Room", [⟨"id_l", true, false⟩, ⟨"floor", false, false⟩]⟩]
  relations := [⟨"Lesson", [⟨"Student", .zeroMany⟩, ⟨"Room", .zeroMany⟩], []⟩,
    ⟨"Lives", [⟨"Room", .oneOne⟩, ⟨"Student", .zeroMany⟩], []⟩]
  inheritances := [people, places, ⟨"All", "Person", ["Place"], some .tablePerSubclass⟩]
  associatives := [⟨"Course", "Lesson", [⟨"title", false, false⟩]⟩]

def regrouped : ConceptualModel :=
  lessons.withGroups [places, people, ⟨"All", "Person", ["Place"], some .tablePerSubclass⟩]

theorem toLogical_exchange_lessons :
    people.members.Disjoint places.members
      ∧ (lessons.toLogical .standard).value.tables.map (fun t => (t.name, t.names, t.references.map (·.table)))
          = [("Place", ["id_p", "type_discriminator", "year", "id_l"], []),
             ("Room", ["id_l", "floor", "id_s_lives"], ["Place", "Person"]),
             ("Course", ["id_s", "id_l", "title"], ["Person", "Room"])]
      ∧ (regrouped.toLogical .standard).diagnostics ≠ (lessons.toLogical .standard).diagnostics
      ∧ (regrouped.toLogical .standard).value = (lessons.toLogical .standard).value
      ∧ (regrouped.toLogical .standard).diagnostics.Perm (lessons.toLogical .standard).diagnostics := by
  have hdisjoint : people.members.Disjoint places.members := by
    simp [Inheritance.members, people, places]
  exact ⟨hdisjoint, by decide +kernel, by decide +kernel,
    toLogical_exchange lessons .standard [] [⟨"All", "Person", ["Place"], some .tablePerSubclass⟩] people places rfl
      hdisjoint⟩

end Exchange

end Derivation

end SchemaDesign
