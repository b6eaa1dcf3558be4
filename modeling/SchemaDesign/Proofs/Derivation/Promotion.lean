import SchemaDesign.Proofs.Derivation.Lookup

namespace SchemaDesign

open SchemaDesign.Derivation

variable {m : ConceptualModel} {settings : Settings}

section Titles

abbrev Titles := String → Option String

namespace ConceptualModel

def startTitles (m : ConceptualModel) : Titles := fun relation =>
  if ∃ r ∈ m.relations, m.hasRelationTable r = true ∧ r.name = relation then some relation else none

def IsTaken (m : ConceptualModel) (settings : Settings) (titles : Titles) (name : String) : Prop :=
  ((m.entity? name).isSome = true ∧ Stands settings m.inheritances name)
    ∨ ∃ r ∈ m.relations, titles r.name = some name

instance (titles : Titles) (name : String) : Decidable (m.IsTaken settings titles name) :=
  inferInstanceAs (Decidable (_ ∨ _))

def nextTitles (m : ConceptualModel) (settings : Settings) (titles : Titles) (a : AssociativeEntity) :
    Titles :=
  if m.IsTaken settings titles a.name then titles
  else fun relation => if relation = a.relation then some a.name else titles relation

def ReadyAssociative (m : ConceptualModel) (settings : Settings) (titles : Titles) (a : AssociativeEntity) :
    Prop :=
  titles a.relation = none → ¬m.IsTaken settings titles a.name → ∀ r ∈ m.relation? a.relation,
    ∀ q ∈ r.participants, m.IsTaken settings titles q.entity ∧ (m.keyName? q.entity).isSome = true

structure Derivable (m : ConceptualModel) (settings : Settings) : Prop where
  relations : ∀ r ∈ m.relations, ∀ e ∈ m.referred r, (m.keyName? e).isSome = true
  groups : ∀ front g back, m.inheritances = front ++ g :: back → m.ReadyGroup settings front g
  associatives : ∀ front a back, m.associatives = front ++ a :: back →
    m.ReadyAssociative settings (front.foldl (m.nextTitles settings) m.startTitles) a

end ConceptualModel

namespace Derivation

variable {d : Draft} {titles : Titles} {a : AssociativeEntity} {r : Relation}

structure TitlesDone (m : ConceptualModel) (settings : Settings) (titles : Titles) (d : Draft) : Prop where
  names : ∀ name, name ∈ d.schema.names ↔ m.IsTaken settings titles name
  tables : ∀ relation, d.relationTables.lookup relation = titles relation
  declared : ∀ relation table, titles relation = some table → relation ∈ m.relations.map (·.name)
  distinct : ∀ relation relation' table, titles relation = some table → titles relation' = some table →
    relation = relation'
  apart : ∀ relation table, titles relation = some table →
    ¬((m.entity? table).isSome = true ∧ Stands settings m.inheritances table)

theorem titlesDone_start (hm : m.Valid) (hrelated : RelationsDone m m.relations (related m).value)
    (h : GroupsDone m settings m.inheritances d) : TitlesDone m settings m.startTitles d := by
  have hremoved : ∀ g ∈ m.inheritances, ∀ name ∈ g.removes settings, (m.entity? name).isSome = true := by
    intro g hg name hname
    apply hm.members g hg
    unfold Inheritance.removes at hname
    split at hname
    . simp at hname
    . exact List.mem_cons_of_mem _ hname
    . simp_all
  have hundeclared : ∀ r, m.hasRelationTable r = true → (m.entity? r.name).isSome = false := by
    intro r hr
    simp only [ConceptualModel.hasRelationTable, Bool.and_eq_true] at hr
    simpa using hr.2
  have htitle : ∀ relation table, m.startTitles relation = some table
      ↔ table = relation ∧ ∃ r ∈ m.relations, m.hasRelationTable r = true ∧ r.name = relation := by
    intro relation table
    unfold ConceptualModel.startTitles
    rw [Option.ite_none_right_eq_some, Option.some_inj]
    grind
  constructor
  . intro name
    rw [h.names, hrelated.names]
    unfold ConceptualModel.IsTaken Stands
    grind
  . intro relation
    rw [h.tables]
    apply Option.ext
    intro table
    rw [hrelated.tables, htitle]
  . intro relation table
    rw [htitle]
    grind
  . intro relation relation' table
    rw [htitle, htitle]
    grind
  . intro relation table
    rw [htitle]
    grind

theorem associative_eq (hr : m.relation? a.relation = some r) :
    associative m d a
      =
    match d.tableOf? a.relation with
    | some table =>
      if table = a.name then
        pure (describe d a table)
      else if d.schema.hasTable a.name then do
        Outcome.reportIn a.name (.duplicateName a.name)
        pure (describe d a table)
      else
        pure (describe { d with schema := d.schema.rename table a.name } a a.name)
    | none =>
      if d.schema.hasTable a.name then do
        Outcome.reportIn a.name (.duplicateName a.name)
        pure d
      else do
        match ← participantKeys m d a.relation r.participants with
        | none => pure d
        | some keys => return describe (d.add (keyedTable a.name keys)) a a.name
    := by
  have hname := name_of_relation? hr
  unfold associative promote
  simp only [hr, hname]
  cases d.tableOf? a.relation with
  | some table =>
    simp only
    split
    . rfl
    . split
      . rfl
      . rfl
  | none =>
    simp only
    split
    . rfl
    . rw [bind_assoc]
      congr 1
      funext keys
      cases keys with
      | none => rfl
      | some keys => rfl

theorem TitlesDone.tableOf? (h : TitlesDone m settings titles d) (hr : r ∈ m.relations) :
    d.tableOf? r.name = titles r.name := by
  unfold Draft.tableOf?
  rw [h.tables]
  cases htitle : titles r.name with
  | none => rfl
  | some table =>
    have htable : table ∈ d.schema.names := by
      rw [h.names]
      exact Or.inr ⟨r, hr, htitle⟩
    simp [LogicalModel.hasTable_iff.2 htable]

theorem TitlesDone.associative_findsAll (h : TitlesDone m settings titles d)
    (hr : m.relation? a.relation = some r) :
    (associative m d a).FindsAll ↔ m.ReadyAssociative settings titles a := by
  have htable := h.tableOf? (List.mem_of_find?_eq_some hr)
  rw [name_of_relation? hr] at htable
  unfold Outcome.FindsAll ConceptualModel.ReadyAssociative
  rw [associative_eq hr, htable, hr]
  simp only [Option.mem_some_iff, forall_eq', ← h.names, ← LogicalModel.hasTable_iff]
  cases titles a.relation with
  | some table =>
    simp only [reduceCtorEq, false_imp_iff, iff_true]
    split
    . apply Outcome.reports_pure
    . split
      . simp [Issue.isLookupFailure]
      . apply Outcome.reports_pure
  | none =>
    simp only [true_imp_iff]
    split
    . next htaken => simp [Issue.isLookupFailure, htaken]
    . next hfree =>
      rw [Outcome.reports_bind, ← Outcome.FindsAll, participantKeys_findsAll, and_iff_left]
      . simp [hfree]
      . split
        . apply Outcome.reports_pure
        . apply Outcome.reports_pure

theorem TitlesDone.keep {table : String} (h : TitlesDone m settings titles d)
    (htable : titles a.relation = some table) : TitlesDone m settings titles (describe d a table) := by
  constructor
  . intro name
    rw [names_describe, h.names]
  . intro relation
    simp only [describe, Draft.represent, Draft.modify, List.lookup_cons, h.tables]
    grind
  . exact h.declared
  . exact h.distinct
  . exact h.apart

theorem TitlesDone.give {d' : Draft} (h : TitlesDone m settings titles d)
    (hrelation : a.relation ∈ m.relations.map (·.name)) (hfree : ¬m.IsTaken settings titles a.name)
    (hnames : ∀ name, name ∈ d'.schema.names
      ↔ (name ∈ d.schema.names ∧ titles a.relation ≠ some name) ∨ name = a.name)
    (htables : d'.relationTables = (a.relation, a.name) :: d.relationTables) :
    TitlesDone m settings (m.nextTitles settings titles a) d' := by
  -- No relation has the new name yet, so that titles stay distinct.
  have hunused : ∀ relation, titles relation ≠ some a.name := by
    intro relation htitle
    apply hfree
    obtain ⟨r, hr, hname⟩ := List.mem_map.1 (h.declared relation a.name htitle)
    rw [← hname] at htitle
    exact Or.inr ⟨r, hr, htitle⟩
  unfold ConceptualModel.nextTitles
  rw [if_neg hfree]
  constructor
  . intro name
    obtain ⟨r, hr, hname⟩ := List.mem_map.1 hrelation
    have hapart := h.apart
    have hdistinct := h.distinct
    rw [hnames, h.names]
    unfold ConceptualModel.IsTaken
    constructor
    . rintro (⟨hentity | ⟨r', hr', htitle⟩, hother⟩ | heq)
      . exact Or.inl hentity
      . apply Or.inr
        exact ⟨r', hr', by grind⟩
      . apply Or.inr
        exact ⟨r, hr, by grind⟩
    . rintro (hentity | ⟨r', hr', htitle⟩)
      . apply Or.inl
        exact ⟨Or.inl hentity, by grind⟩
      . grind
  . intro relation
    rw [htables, List.lookup_cons, h.tables]
    grind
  . intro relation table
    have := h.declared relation table
    grind
  . intro relation relation' table
    have := h.distinct relation relation' table
    grind
  . intro relation table
    have hapart := h.apart relation table
    unfold ConceptualModel.IsTaken at hfree
    grind

theorem TitlesDone.next (h : TitlesDone m settings titles d) (hr : m.relation? a.relation = some r)
    (hclean : (associative m d a).FindsAll) :
    TitlesDone m settings (m.nextTitles settings titles a) (associative m d a).value := by
  have htable := h.tableOf? (List.mem_of_find?_eq_some hr)
  rw [name_of_relation? hr] at htable
  have hrelation : a.relation ∈ m.relations.map (·.name) :=
    List.mem_map.2 ⟨r, List.mem_of_find?_eq_some hr, name_of_relation? hr⟩
  have htaken : d.schema.hasTable a.name = true ↔ m.IsTaken settings titles a.name := by
    rw [LogicalModel.hasTable_iff, h.names]
  have hsame : m.IsTaken settings titles a.name → m.nextTitles settings titles a = titles :=
    fun htaken => if_pos htaken
  rw [h.associative_findsAll hr] at hclean
  rw [associative_eq hr, htable]
  cases htitle : titles a.relation with
  | some table =>
    have hthere : table ∈ d.schema.names := by
      rw [h.names]
      exact Or.inr ⟨r, List.mem_of_find?_eq_some hr, by rw [name_of_relation? hr, htitle]⟩
    simp only
    split
    . next heq =>
      rw [hsame]
      . exact h.keep htitle
      . rwa [← h.names, ← heq]
    . split
      . next hname =>
        rw [hsame (htaken.1 hname)]
        exact h.keep htitle
      . next hname =>
        apply h.give hrelation
        . rwa [← htaken]
        . intro name
          rw [Outcome.value_pure, names_describe, LogicalModel.mem_names_rename]
          grind
        . rfl
  | none =>
    simp only
    split
    . next hname =>
      rw [hsame (htaken.1 hname)]
      exact h
    . next hname =>
      have hfree : ¬m.IsTaken settings titles a.name := by rwa [← htaken]
      have hkeys := hclean htitle hfree r hr
      simp only [← h.names, ← LogicalModel.hasTable_iff] at hkeys
      obtain ⟨keys, hvalue⟩ : ∃ keys, (participantKeys m d a.relation r.participants).value = some keys :=
        exists_participantKeys hkeys
      simp only [Outcome.value_bind, hvalue, Outcome.value_pure]
      apply h.give hrelation hfree
      . intro name
        rw [names_describe, Draft.add, LogicalModel.names_add]
        simp [htitle]
      . rfl

theorem associatives_findsAll (hm : m.Valid) (h : TitlesDone m settings m.startTitles d) :
    (associatives m d).FindsAll
      ↔
    ∀ front a back, m.associatives = front ++ a :: back →
      m.ReadyAssociative settings (front.foldl (m.nextTitles settings) m.startTitles) a := by
  have hrelation : ∀ front a back, m.associatives = front ++ a :: back →
      ∃ r, m.relation? a.relation = some r := by
    intro front a back hsplit
    apply Option.isSome_iff_exists.1
    apply hm.associated
    simp [hsplit]
  let motive := fun done d =>
    TitlesDone m settings (List.foldl (m.nextTitles settings) m.startTitles done) d
  apply Outcome.reports_foldlM_iff (motive := motive) h
  . intro front a back d hsplit hd
    obtain ⟨r, hr⟩ := hrelation front a back hsplit
    exact hd.associative_findsAll hr
  . intro front a back d hsplit hd hstep
    obtain ⟨r, hr⟩ := hrelation front a back hsplit
    have := hd.next hr hstep
    simpa [motive] using this

end Derivation

end Titles

section Errors

/--
The errors that are left to a derivation: names that it gives to tables are taken, and references lead to a
parent that was dissolved.
-/
def ConceptualModel.Allows (m : ConceptualModel) : Issue → Prop
  | .duplicateName name => name ∈ m.relations.map (·.name) ++ m.associatives.map (·.name)
  | .flattenedReference .. => True
  | _ => False

instance : DecidablePred m.Allows := by
  intro i
  unfold ConceptualModel.Allows
  split
  all_goals infer_instance

namespace Derivation

variable {d : Draft}

def Expected (m : ConceptualModel) (i : Issue) : Prop :=
  i.isLookupFailure = true ∨ m.Allows i

theorem reports_participantKeys_expected {name : String} (ps : List Participant) :
    (participantKeys m d name ps).Reports (Expected m) := by
  rw [reports_participantKeys]
  intro q _
  rw [reports_participantKey]
  simp [Expected, Issue.isLookupFailure]

theorem reports_relation_expected {r : Relation} (hm : m.Valid) (hr : r ∈ m.relations) :
    (relation m d r).Reports (Expected m) := by
  rw [relation_eq (hm.binds r hr)]
  split
  . unfold placeReference
    rw [Outcome.reports_bind, reports_participantKey]
    constructor
    . simp [Expected, Issue.isLookupFailure]
    . split
      . apply Outcome.reports_pure
      . split
        . apply Outcome.reports_pure
        . simp [Expected, Issue.isLookupFailure]
  . unfold relationTable
    split
    . simp only [Outcome.reports_bind, Outcome.reports_reportIn, Outcome.reports_pure, and_true]
      apply Or.inr
      exact List.mem_append_left _ (List.mem_map_of_mem hr)
    . rw [Outcome.reports_bind]
      constructor
      . apply reports_participantKeys_expected
      . split
        all_goals apply Outcome.reports_pure

theorem reports_inheritance_expected {g : Inheritance} :
    (inheritance settings d g).Reports (Expected m) := by
  unfold inheritance
  split
  . simp [Expected, Issue.isLookupFailure]
  . split
    . simp [Expected, Issue.isLookupFailure]
    . rw [Outcome.reports_bind, reports_knownChildren]
      constructor
      . simp [Expected, Issue.isLookupFailure]
      . split
        all_goals apply Outcome.reports_pure

theorem reports_associative_expected {a : AssociativeEntity} (hm : m.Valid) (ha : a ∈ m.associatives) :
    (associative m d a).Reports (Expected m) := by
  have hduplicate : Expected m (.duplicateName a.name) := by
    apply Or.inr
    exact List.mem_append_right _ (List.mem_map_of_mem ha)
  obtain ⟨r, hr⟩ := Option.isSome_iff_exists.1 (hm.associated a ha)
  rw [associative_eq hr]
  split
  . split
    . apply Outcome.reports_pure
    . split
      . simpa using hduplicate
      . apply Outcome.reports_pure
  . split
    . simpa using hduplicate
    . rw [Outcome.reports_bind]
      constructor
      . apply reports_participantKeys_expected
      . split
        all_goals apply Outcome.reports_pure

theorem reports_reportFlattened_of_forall {p : Issue → Prop} {dissolved : List String}
    {schema : LogicalModel} (hp : ∀ column parent, p (.flattenedReference column parent)) :
    (reportFlattened dissolved schema).Reports p := by
  simp only [reportFlattened, Outcome.reports_each]
  intro t _ c _
  unfold reportFlattened.check
  split
  . rw [Outcome.reports_reportIf]
    intro _
    apply hp
  . apply Outcome.reports_pure

theorem reports_toLogical_expected (hm : m.Valid) : (m.toLogical settings).Reports (Expected m) := by
  rw [reports_toLogical, related_eq hm]
  refine ⟨?_, ?_, ?_, ?_⟩
  . rw [relations, Outcome.reports_foldlM]
    intro front r back hsplit
    apply reports_relation_expected hm
    simp [hsplit]
  . rw [inheritances, Outcome.reports_foldlM]
    intro front g back _
    apply reports_inheritance_expected
  . rw [associatives, Outcome.reports_foldlM]
    intro front a back hsplit
    apply reports_associative_expected hm
    simp [hsplit]
  . apply reports_reportFlattened_of_forall
    intro column parent
    exact Or.inr trivial

theorem toLogical_findsAll (hm : m.Valid) : (m.toLogical settings).FindsAll ↔ m.Derivable settings := by
  have hfinish : (reportFlattened (drafted m settings).value.dissolved
      (m.toLogical settings).value).FindsAll := by
    apply reports_reportFlattened_of_forall
    intro column parent
    rfl
  unfold Outcome.FindsAll at hfinish ⊢
  rw [reports_toLogical, and_iff_left hfinish]
  constructor
  . rintro ⟨hrelations, hgroups, hassociatives⟩
    have hrelated := relationsDone_related hm hrelations
    have htitles := titlesDone_start hm hrelated (groupsDone_flattened hrelated hgroups)
    constructor
    . exact (related_findsAll hm).1 hrelations
    . exact (inheritances_findsAll hm hrelated).1 hgroups
    . exact (associatives_findsAll hm htitles).1 hassociatives
  . intro h
    have hrelations := (related_findsAll hm).2 h.relations
    have hrelated := relationsDone_related hm hrelations
    have hgroups := (inheritances_findsAll hm hrelated).2 h.groups
    have htitles := titlesDone_start hm hrelated (groupsDone_flattened hrelated hgroups)
    exact ⟨hrelations, hgroups, (associatives_findsAll hm htitles).2 h.associatives⟩

theorem toLogical_allows_iff (h : m.check.hasErrors = false) :
    (m.toLogical settings).Reports (fun i => i.severity = .error → m.Allows i)
      ↔
    m.Derivable settings := by
  have hm := ConceptualModel.valid_of_check h
  rw [← toLogical_findsAll hm]
  constructor
  . intro hallowed d hd
    have := hallowed d hd
    unfold Issue.isLookupFailure
    split
    all_goals simp_all [Issue.severity, ConceptualModel.Allows]
  . intro hfinds d hd _
    cases reports_toLogical_expected hm d hd with
    | inl hfailure =>
      rw [hfinds d hd] at hfailure
      contradiction
    | inr hallowed => exact hallowed

def lateKey : ConceptualModel where
  entities := [⟨"A", [⟨"id_a", true, false⟩]⟩, ⟨"B", []⟩, ⟨"C", []⟩]
  relations := []
  inheritances := [⟨"g", "B", ["C"], none⟩, ⟨"h", "A", ["B"], none⟩]
  associatives := []

theorem lateKey_missingKey :
    lateKey.check.hasErrors = false
      ∧ (lateKey.toLogical .standard).diagnostics = [⟨some "g", .missingPrimaryKey "B"⟩] := by
  decide +kernel

theorem toLogical_allows_iff_keyInTime :
    let m := { lateKey with inheritances := lateKey.inheritances.reverse }
    m.check.hasErrors = false ∧ m.Derivable .standard := by
  -- In the other order each group finds the key of its parent.
  intro m
  have hclean : m.check.hasErrors = false := by decide +kernel
  refine ⟨hclean, (toLogical_allows_iff hclean).1 ?_⟩
  unfold Outcome.Reports
  decide +kernel

end Derivation

end Errors

end SchemaDesign
