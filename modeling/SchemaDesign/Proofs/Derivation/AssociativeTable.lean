import SchemaDesign.Proofs.Derivation.Holder
import SchemaDesign.Proofs.Derivation.Promotion

/-!
This module contains the tables that associative entities have in the end. All of them on one relation share its table,
which bears the name of the last one and has columns for the attributes of each.
-/

namespace SchemaDesign

def lastOn? (associatives : List AssociativeEntity) (relation : String) : Option AssociativeEntity :=
  associatives.reverse.find? (·.relation = relation)

section Last

variable {associatives : List AssociativeEntity} {relation : String} {a b : AssociativeEntity}

theorem lastOn?_concat :
    lastOn? (associatives ++ [a]) relation
      =
    if a.relation = relation then some a else lastOn? associatives relation := by
  simp only [lastOn?, List.reverse_append, List.reverse_singleton, List.singleton_append, List.find?_cons]
  split
  . next h => rw [if_pos (of_decide_eq_true h)]
  . next h => rw [if_neg (of_decide_eq_false h)]

theorem mem_of_lastOn? (h : lastOn? associatives relation = some b) : b ∈ associatives :=
  List.mem_reverse.1 (List.mem_of_find?_eq_some h)

theorem relation_of_lastOn? (h : lastOn? associatives relation = some b) : b.relation = relation := by
  simpa using List.find?_some h

theorem lastOn?_eq_none_iff : lastOn? associatives relation = none ↔ ∀ a ∈ associatives, a.relation ≠ relation := by
  simp [lastOn?]

theorem exists_lastOn? (h : a ∈ associatives) : ∃ b, lastOn? associatives a.relation = some b := by
  apply Option.isSome_iff_exists.1
  rw [lastOn?, List.find?_isSome]
  exact ⟨a, List.mem_reverse.2 h, by simp⟩

end Last

def LogicalModel.Stores (m : LogicalModel) (table : String) (attributes : List Attribute) : Prop :=
  ∃ t, m.table? table = some t ∧ ∀ a ∈ attributes, a.isDerived = false → a.name ∈ t.names

theorem LogicalModel.Stores.mono {m n : LogicalModel} {old new : String} {attributes : List Attribute}
    (h : m.Stores old attributes)
    (hmn : ∀ t, m.table? old = some t → ∃ u, n.table? new = some u ∧ t.names ⊆ u.names) :
    n.Stores new attributes := by
  obtain ⟨t, ht, hcolumns⟩ := h
  obtain ⟨u, hu, hsubset⟩ := hmn t ht
  refine ⟨u, hu, ?_⟩
  intro a ha hstored
  exact hsubset (hcolumns a ha hstored)

/--
No associative entity takes the name of a relation that makes a table of its own, ahead of the first associative
entity on this relation. Otherwise a table that a group has dissolved would seem to be there again.
-/
def ConceptualModel.SparesAwaited (m : ConceptualModel) : Prop :=
  ∀ r ∈ m.relations, r.isAssociative = true → r.name ∈ m.associatives.map (·.relation) →
    ∀ a ∈ m.associatives.takeWhile (·.relation ≠ r.name), a.name ≠ r.name

instance (m : ConceptualModel) : Decidable m.SparesAwaited :=
  inferInstanceAs (Decidable (∀ r ∈ m.relations, r.isAssociative = true → r.name ∈ m.associatives.map (·.relation) →
    ∀ a ∈ m.associatives.takeWhile (·.relation ≠ r.name), a.name ≠ r.name))

namespace Derivation

variable {m : ConceptualModel} {settings : Settings} {d d' : Draft} {a b : AssociativeEntity} {name table : String}
  {t : Table}

section Step

inductive Promotes (d : Draft) (a : AssociativeEntity) : Draft → Prop
  | keep (htable : d.tableOf? a.relation = some a.name) : Promotes d a d
  | rename (table : String) (htable : d.tableOf? a.relation = some table) (hfree : a.name ∉ d.schema.names) :
    Promotes d a { d with schema := d.schema.rename table a.name }
  | add (keys : List (Participant × String)) (htable : d.tableOf? a.relation = none)
    (hfree : a.name ∉ d.schema.names) : Promotes d a (d.add (keyedTable a.name keys))

theorem associative_of_clean (h : (associative m d a).Clean) :
    ∃ d', Promotes d a d' ∧ (associative m d a).value = describe d' a a.name := by
  cases hr : m.relation? a.relation with
  | none =>
    unfold associative at h
    simp [hr, Issue.severity] at h
  | some r =>
    rw [associative_eq hr] at h ⊢
    cases htable : d.tableOf? a.relation with
    | some table =>
      simp only [htable] at h ⊢
      by_cases hsame : table = a.name
      . rw [hsame] at htable ⊢
        exact ⟨d, .keep htable, by simp⟩
      . cases hfree : d.schema.hasTable a.name with
        | true => simp [hsame, hfree, Issue.severity] at h
        | false => exact ⟨_, .rename table htable (LogicalModel.hasTable_eq_false_iff.1 hfree), by simp [hsame]⟩
    | none =>
      simp only [htable] at h ⊢
      cases hfree : d.schema.hasTable a.name with
      | true => simp [hfree, Issue.severity] at h
      | false =>
        simp only [hfree, Bool.false_eq_true, if_false, Outcome.reports_bind] at h ⊢
        obtain ⟨keys, hkeys⟩ : ∃ keys, (participantKeys m d a.relation r.participants).value = some keys :=
          exists_participantKeys (participantKeys_findsAll.1 (Outcome.Clean.findsAll h.1))
        refine ⟨_, .add keys htable (LogicalModel.hasTable_eq_false_iff.1 hfree), ?_⟩
        rw [Outcome.value_bind, hkeys]
        rfl

theorem Promotes.relationTables_eq (h : Promotes d a d') : d'.relationTables = d.relationTables := by
  cases h with
  | keep | rename | add => rfl

theorem Promotes.table?_of_ne (h : Promotes d a d') (hname : name ≠ a.name)
    (htable : d.tableOf? a.relation ≠ some name) (ht : d.schema.table? name = some t) :
    ∃ u, d'.schema.table? name = some u ∧ t.names ⊆ u.names := by
  cases h with
  | keep => exact ⟨t, ht, List.Subset.refl _⟩
  | rename old hold =>
    have hne : name ≠ old := by
      rintro rfl
      exact htable hold
    refine ⟨t.mapReferences (redirect old a.name), ?_, by simp⟩
    rw [LogicalModel.table?_rename_of_ne hne hname, ht]
    rfl
  | add keys =>
    refine ⟨t, ?_, List.Subset.refl _⟩
    rw [Draft.add, LogicalModel.table?_add, ht]
    rfl

theorem Promotes.table?_of_tableOf? (h : Promotes d a d') (htable : d.tableOf? a.relation = some table)
    (ht : d.schema.table? table = some t) : ∃ u, d'.schema.table? a.name = some u ∧ t.names ⊆ u.names := by
  cases h with
  | keep hkept =>
    obtain rfl : a.name = table := by simpa [hkept] using htable
    exact ⟨t, ht, List.Subset.refl _⟩
  | rename old hold hfree =>
    obtain rfl : old = table := by simpa [hold] using htable
    refine ⟨t.rename old a.name, ?_, ?_⟩
    . rw [LogicalModel.table?_rename_self hfree, ht]
      rfl
    . rw [Table.names_rename]
      exact List.Subset.refl _
  | add keys hnone =>
    rw [hnone] at htable
    contradiction

theorem Promotes.exists_table? (h : Promotes d a d') : ∃ t, d'.schema.table? a.name = some t := by
  cases h with
  | keep htable =>
    apply Option.isSome_iff_exists.1
    exact LogicalModel.isSome_table?.2 (LogicalModel.hasTable_iff.1 (hasTable_of_tableOf? htable).2)
  | rename old hold =>
    have hthere : old ∈ d.schema.names := LogicalModel.hasTable_iff.1 (hasTable_of_tableOf? hold).2
    apply Option.isSome_iff_exists.1
    rw [LogicalModel.isSome_table?, LogicalModel.mem_names_rename]
    exact Or.inr ⟨hthere, rfl⟩
  | add keys =>
    apply Option.isSome_iff_exists.1
    rw [LogicalModel.isSome_table?, Draft.add, LogicalModel.names_add]
    simp

theorem table?_describe :
    (describe d a table).schema.table? name
      =
    (d.schema.table? name).map fun t => if name = table then appendAttributes t a.attributes else t := by
  unfold describe
  rw [Draft.represent, Draft.modify, LogicalModel.table?_modify]
  intro t
  apply name_appendAttributes

theorem lookup_describe {relation : String} :
    (describe d a table).relationTables.lookup relation
      =
    if a.relation = relation then some table else d.relationTables.lookup relation := by
  unfold describe
  rw [Draft.represent, List.lookup_cons, Draft.modify]
  grind

theorem exists_table?_describe (ht : d.schema.table? name = some t) :
    ∃ u, (describe d a table).schema.table? name = some u ∧ t.names ⊆ u.names := by
  rw [table?_describe, ht]
  refine ⟨_, rfl, ?_⟩
  split
  . exact (appendAttributes_grows t a.attributes).names_subset
  . exact List.Subset.refl _

end Step

section Run

variable {front back : List AssociativeEntity} {relation : String}

def RecordsOwn (m : ConceptualModel) (d : Draft) : Prop :=
  ∀ relation table, d.relationTables.lookup relation = some table →
    table = relation ∧ ∃ r ∈ m.relations, r.isAssociative = true ∧ r.name = relation

theorem recordsOwn_relation {r : Relation} (hr : r ∈ m.relations) (hd : RecordsOwn m d)
    (hclean : (Derivation.relation m d r).Clean) : RecordsOwn m (Derivation.relation m d r).value := by
  rcases relation_of_clean hclean with ⟨holder, target, key, _, _, _, hvalue⟩ | ⟨hassociative, _, keys, _, hvalue⟩
  . rw [hvalue]
    exact hd
  . rw [hvalue]
    intro relation table hlookup
    rw [Draft.represent, List.lookup_cons] at hlookup
    split at hlookup
    . next heq =>
      rw [beq_iff_eq] at heq
      exact ⟨by rw [← Option.some_inj.1 hlookup, heq], r, hr, hassociative, heq.symm⟩
    . exact hd relation table hlookup

theorem recordsOwn_related (hclean : (related m).Clean) : RecordsOwn m (related m).value := by
  have hentities : RecordsOwn m (entityTables m .empty).value := by
    apply Outcome.foldlM_invariant (RecordsOwn m)
    . intro relation table hlookup
      contradiction
    . intro d e _ hd
      rw [value_entityStep]
      split
      . exact hd
      . exact hd
  unfold related Outcome.Clean at hclean
  rw [Outcome.reports_bind] at hclean
  apply Outcome.foldlM_induction (fun _ d => RecordsOwn m d) hclean.2 hentities
  intro front r back d hsplit hd hstep
  exact recordsOwn_relation (by simp [hsplit]) hd hstep

theorem recordsOwn_inheritance {g : Inheritance} (hd : RecordsOwn m d) (hstep : InheritanceStep settings d g d') :
    RecordsOwn m d' := by
  cases hstep with
  | skip => exact hd
  | flatten parent key =>
    unfold RecordsOwn
    rw [relationTables_flatten]
    exact hd

theorem recordsOwn_flattened (hclean : (related m).Clean) : RecordsOwn m (flattened m settings).value := by
  apply Outcome.foldlM_invariant (RecordsOwn m) (recordsOwn_related hclean)
  intro d g _ hd
  exact recordsOwn_inheritance hd inheritance_step

structure Promoted (m : ConceptualModel) (front : List AssociativeEntity) (d : Draft) : Prop where
  title : ∀ relation b, lastOn? front relation = some b → d.relationTables.lookup relation = some b.name
  own : ∀ relation table, lastOn? front relation = none → d.relationTables.lookup relation = some table →
    table = relation ∧ ∃ r ∈ m.relations, r.isAssociative = true ∧ r.name = relation
  stores : ∀ a ∈ front, ∀ b, lastOn? front a.relation = some b → d.schema.Stores b.name a.attributes
  distinct : ∀ relation relation' b b', relation ≠ relation' → lastOn? front relation = some b →
    lastOn? front relation' = some b' → b.name ≠ b'.name

theorem promoted_nil (h : RecordsOwn m d) : Promoted m [] d := by
  constructor
  . simp [lastOn?]
  . intro relation table _
    exact h relation table
  . simp
  . simp [lastOn?]

theorem Promoted.mem_names (h : Promoted m front d) (hb : lastOn? front relation = some b) :
    b.name ∈ d.schema.names := by
  rw [← relation_of_lastOn? hb] at hb
  obtain ⟨t, ht, _⟩ := h.stores b (mem_of_lastOn? hb) b hb
  exact LogicalModel.mem_names_of_table? ht

theorem Promoted.tableOf?_eq (h : Promoted m front d) (hb : lastOn? front relation = some b) :
    d.tableOf? relation = some b.name := by
  rw [Draft.tableOf?, h.title relation b hb, Option.filter_some, LogicalModel.hasTable_iff.2 (h.mem_names hb)]
  rfl

theorem Promoted.ne_of_tableOf? (hspares : m.SparesAwaited) (hsplit : m.associatives = front ++ a :: back)
    (h : Promoted m front d) (hb : lastOn? front relation = some b) (hne : relation ≠ a.relation)
    (htable : d.tableOf? a.relation = some table) : b.name ≠ table := by
  cases hlast : lastOn? front a.relation with
  | some b' =>
    rw [h.tableOf?_eq hlast, Option.some_inj] at htable
    rw [← htable]
    exact h.distinct relation a.relation b b' hne hb hlast
  | none =>
    obtain ⟨rfl, r, hr, hassociative, hname⟩ := h.own a.relation table hlast (hasTable_of_tableOf? htable).1
    -- The entities so far are all ahead of the first one on this relation.
    have hfront : front ⊆ m.associatives.takeWhile (·.relation ≠ r.name) := by
      rw [hsplit, List.takeWhile_append_of_pos]
      . exact List.subset_append_left _ _
      . rw [lastOn?_eq_none_iff] at hlast
        intro a' ha'
        simpa [hname] using hlast a' ha'
    rw [← hname]
    apply hspares r hr hassociative _ b (hfront (mem_of_lastOn? hb))
    rw [hname, hsplit]
    simp

theorem Promoted.ne_name (hspares : m.SparesAwaited) (hsplit : m.associatives = front ++ a :: back)
    (h : Promoted m front d) (hpromotes : Promotes d a d') (hb : lastOn? front relation = some b)
    (hne : relation ≠ a.relation) : b.name ≠ a.name := by
  have hthere := h.mem_names hb
  cases hpromotes with
  | keep htable => exact h.ne_of_tableOf? hspares hsplit hb hne htable
  | rename _ _ hfree | add _ _ hfree =>
    intro heq
    rw [heq] at hthere
    exact hfree hthere

theorem Promoted.stores_next (hspares : m.SparesAwaited) (hsplit : m.associatives = front ++ a :: back)
    (h : Promoted m front d) (hpromotes : Promotes d a d') {a' : AssociativeEntity} (ha' : a' ∈ front) :
    ∀ b, lastOn? (front ++ [a]) a'.relation = some b → d'.schema.Stores b.name a'.attributes := by
  obtain ⟨b', hb'⟩ := exists_lastOn? ha'
  have hstores := h.stores a' ha' b' hb'
  intro b hb
  rw [lastOn?_concat] at hb
  split at hb
  . next hsame =>
    obtain rfl := Option.some_inj.1 hb
    rw [← hsame] at hb'
    apply hstores.mono
    intro t ht
    exact hpromotes.table?_of_tableOf? (h.tableOf?_eq hb') ht
  . next hother =>
    obtain rfl : b' = b := by simpa [hb'] using hb
    apply hstores.mono
    intro t ht
    apply hpromotes.table?_of_ne _ _ ht
    . exact h.ne_name hspares hsplit hpromotes hb' (Ne.symm hother)
    . intro htable
      exact h.ne_of_tableOf? hspares hsplit hb' (Ne.symm hother) htable rfl

theorem Promoted.next (hspares : m.SparesAwaited) (hsplit : m.associatives = front ++ a :: back)
    (h : Promoted m front d) (hclean : (associative m d a).Clean) :
    Promoted m (front ++ [a]) (associative m d a).value := by
  obtain ⟨d', hpromotes, hvalue⟩ := associative_of_clean hclean
  have hlookup : ∀ relation, (describe d' a a.name).relationTables.lookup relation
      = if a.relation = relation then some a.name else d.relationTables.lookup relation := by
    intro relation
    rw [lookup_describe, hpromotes.relationTables_eq]
  rw [hvalue]
  constructor
  . intro relation b hb
    rw [lastOn?_concat] at hb
    rw [hlookup]
    split at hb
    . next hhere => rw [if_pos hhere, ← Option.some_inj.1 hb]
    . next hother =>
      rw [if_neg hother]
      exact h.title relation b hb
  . intro relation table hnone hrecord
    rw [lastOn?_concat] at hnone
    rw [hlookup] at hrecord
    split at hnone
    . contradiction
    . next hother =>
      rw [if_neg hother] at hrecord
      exact h.own relation table hnone hrecord
  . rw [List.forall_mem_append, List.forall_mem_singleton]
    constructor
    . intro a' ha' b hb
      apply (h.stores_next hspares hsplit hpromotes ha' b hb).mono
      intro t ht
      exact exists_table?_describe ht
    . intro b hb
      rw [lastOn?_concat, if_pos rfl, Option.some_inj] at hb
      rw [← hb]
      obtain ⟨t, ht⟩ := hpromotes.exists_table?
      refine ⟨appendAttributes t a.attributes, ?_, ?_⟩
      . simp [table?_describe, ht]
      . intro x hx hstored
        exact mem_names_appendAttributes hx hstored
  . intro relation relation' b b' hne hb hb'
    rw [lastOn?_concat] at hb hb'
    split at hb
    . next hhere =>
      rw [hhere, if_neg hne] at hb'
      have hother : relation' ≠ a.relation := by
        rw [hhere]
        exact hne.symm
      rw [← Option.some_inj.1 hb]
      exact (h.ne_name hspares hsplit hpromotes hb' hother).symm
    . next hother =>
      split at hb'
      . rw [← Option.some_inj.1 hb']
        exact h.ne_name hspares hsplit hpromotes hb (Ne.symm hother)
      . exact h.distinct relation relation' b b' hne hb hb'

theorem promoted_drafted (hspares : m.SparesAwaited) (hclean : (m.toLogical settings).Clean) :
    Promoted m m.associatives (drafted m settings).value := by
  have hreports := reports_toLogical.1 hclean
  apply Outcome.foldlM_induction (fun front d => Promoted m front d) hreports.2.2.1
  . exact promoted_nil (recordsOwn_flattened hreports.1)
  . intro front a back d hsplit hd hstep
    exact hd.next hspares hsplit hstep

theorem stores_toLogical (hspares : m.SparesAwaited) (hclean : (m.toLogical settings).hasErrors = false) :
    (∀ a ∈ m.associatives, ∃ b, lastOn? m.associatives a.relation = some b
        ∧ (m.toLogical settings).value.Stores b.name a.attributes)
      ∧ ∀ relation relation' b b', relation ≠ relation' → lastOn? m.associatives relation = some b →
          lastOn? m.associatives relation' = some b' → b.name ≠ b'.name := by
  have hpromoted : Promoted m m.associatives (drafted m settings).value :=
    promoted_drafted hspares (Outcome.hasErrors_eq_false_iff.1 hclean)
  refine ⟨?_, hpromoted.distinct⟩
  intro a ha
  obtain ⟨b, hb⟩ := exists_lastOn? ha
  refine ⟨b, hb, ?_⟩
  apply (hpromoted.stores a ha b hb).mono
  intro t ht
  rw [value_toLogical, LogicalModel.table?_mapReferences, ht]
  exact ⟨_, rfl, by simp⟩

def sharedRelation : ConceptualModel where
  entities := [⟨"A", [⟨"id_a", true, false⟩]⟩, ⟨"B", [⟨"id_b", true, false⟩]⟩]
  relations := [⟨"r", [⟨"A", .zeroMany⟩, ⟨"B", .zeroMany⟩], []⟩]
  inheritances := []
  associatives := [⟨"X", "r", [⟨"x", false, false⟩]⟩, ⟨"Y", "r", [⟨"y", false, false⟩]⟩]

theorem sharedRelation_renamed :
    (sharedRelation.toLogical .standard).hasErrors = false
      ∧ ¬∀ a ∈ sharedRelation.associatives, (sharedRelation.toLogical .standard).value.Stores a.name a.attributes := by
  constructor
  . decide +kernel
  . intro hstores
    obtain ⟨t, ht, _⟩ := hstores ⟨"X", "r", [⟨"x", false, false⟩]⟩ (List.mem_cons_self ..)
    have hthere := LogicalModel.mem_names_of_table? ht
    revert hthere
    decide +kernel

def promotions : ConceptualModel where
  entities := [⟨"A", [⟨"id_a", true, false⟩]⟩, ⟨"B", [⟨"id_b", true, false⟩]⟩, ⟨"C", [⟨"c", false, false⟩]⟩]
  relations := [⟨"r", [⟨"A", .zeroMany⟩, ⟨"B", .zeroMany⟩], []⟩, ⟨"s", [⟨"A", .oneOne⟩, ⟨"B", .zeroMany⟩], []⟩,
    ⟨"t", [⟨"A", .zeroMany⟩, ⟨"B", .oneOne⟩, ⟨"C", .zeroMany⟩], []⟩]
  inheritances := [⟨"g", "A", ["C"], none⟩]
  associatives := [⟨"X", "r", [⟨"x", false, false⟩]⟩, ⟨"r", "s", [⟨"n", false, false⟩]⟩,
    ⟨"Y", "r", [⟨"y", false, false⟩, ⟨"x", false, false⟩, ⟨"z", false, true⟩]⟩, ⟨"T", "t", [⟨"id_b", false, false⟩]⟩]

theorem stores_toLogical_promotions :
    promotions.SparesAwaited
      ∧ (promotions.toLogical .standard).hasErrors = false
      ∧ (promotions.toLogical .standard).value.tables.map (fun t => (t.name, t.names))
          = [("A", ["id_a", "id_b_s"]), ("B", ["id_b"]), ("C", ["id_a", "c"]), ("Y", ["id_a", "id_b", "x", "y"]),
             ("T", ["id_a_a", "id_b", "id_a_c"]), ("r", ["id_a", "id_b", "n"])]
      ∧ (∀ a ∈ promotions.associatives, ∃ b, lastOn? promotions.associatives a.relation = some b
          ∧ (promotions.toLogical .standard).value.Stores b.name a.attributes)
      ∧ ∀ relation relation' b b', relation ≠ relation' → lastOn? promotions.associatives relation = some b →
          lastOn? promotions.associatives relation' = some b' → b.name ≠ b'.name := by
  have hspares : promotions.SparesAwaited := by decide +kernel
  have hclean : (promotions.toLogical .standard).hasErrors = false := by decide +kernel
  exact ⟨hspares, hclean, by decide +kernel, stores_toLogical hspares hclean⟩

end Run

end Derivation

end SchemaDesign
