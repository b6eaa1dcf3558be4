import Mathlib.Data.List.Forall2
import Mathlib.Data.List.Induction
import SchemaDesign.Proofs.Derivation.Holder
import SchemaDesign.Proofs.Derivation.Key
import SchemaDesign.Proofs.Derivation.TableNames

/-!
This module contains what a derivation makes of a model without groups and associative entities: a table for each
entity, which the relations that it holds extend in turn, and behind these a table for each relation that no
participant can hold.
-/

namespace List

theorem Forall₂.exists_of_mem_right {α β : Type} {R : α → β → Prop} {as : List α} {bs : List β} {b : β}
    (h : Forall₂ R as bs) (hb : b ∈ bs) : ∃ a ∈ as, R a b := by
  induction h with
  | nil => contradiction
  | cons hab _ ih =>
    cases List.mem_cons.1 hb with
    | inl hfirst =>
      rw [hfirst]
      exact ⟨_, List.mem_cons_self .., hab⟩
    | inr hrest =>
      obtain ⟨a, ha, hab⟩ := ih hrest
      exact ⟨a, List.mem_cons_of_mem _ ha, hab⟩

end List

namespace SchemaDesign

namespace Derivation

variable {m : ConceptualModel} {settings : Settings} {d : Draft} {r : Relation} {holder target : Participant}
  {t : Table}

section Columns

def lackingColumns (taken : List String) : List Attribute → List Column
  | [] => []
  | a :: as =>
    if a.isDerived || a.name ∈ taken then
      lackingColumns taken as
    else
      .plain a.name :: lackingColumns (taken ++ [a.name]) as

theorem columns_appendAttributes (t : Table) (attributes : List Attribute) :
    (appendAttributes t attributes).columns = t.columns ++ lackingColumns t.names attributes := by
  induction attributes generalizing t with
  | nil => simp [appendAttributes, lackingColumns]
  | cons a attributes ih =>
    rw [appendAttributes_cons, ih, lackingColumns]
    simp only [Bool.or_eq_true, Table.hasColumn_iff, decide_eq_true_eq]
    split
    . rfl
    . rw [Table.names_append]
      simp [Table.append, Column.plain]

theorem isPlain_of_mem_lackingColumns {taken : List String} {attributes : List Attribute} {c : Column}
    (h : c ∈ lackingColumns taken attributes) : IsPlain c := by
  induction attributes generalizing taken with
  | nil => contradiction
  | cons a attributes ih =>
    rw [lackingColumns] at h
    split at h
    . exact ih h
    . cases List.mem_cons.1 h with
      | inl hfirst =>
        rw [hfirst]
        exact ⟨rfl, rfl⟩
      | inr hrest => exact ih hrest

def RefersToKeyOf (m : ConceptualModel) (entity : String) (c : Column) : Prop :=
  ∃ e key, m.entity? entity = some e ∧ e.key? = some key ∧ RefersTo entity key.name c

theorem refersToKeyOf_of_keyName? (hgroups : m.inheritances = []) {entity key : String} {c : Column}
    (hkey : m.keyName? entity = some key) (hc : RefersTo entity key c) : RefersToKeyOf m entity c := by
  obtain ⟨e, k, he, hk, rfl⟩ := exists_key_of_keyName? hgroups hkey
  exact ⟨e, k, he, hk, hc⟩

theorem RefersToKeyOf.isSome_reference {entity : String} {c : Column} (h : RefersToKeyOf m entity c) :
    c.reference.isSome = true := by
  obtain ⟨_, _, _, _, hc⟩ := h
  rw [hc]
  rfl

end Columns

section Extended

/--
What the given columns of a table have become after these relations, one after another. A relation that the table
holds adds one column that belongs to no key and refers to the key of the other participant, and then those of its
attributes that the table lacks. Any other relation leaves the table as it is.
-/
inductive Extended (m : ConceptualModel) (table : String) (start : List Column) :
    List Relation → List Column → Prop
  | nil : Extended m table start [] start
  | other {front : List Relation} {columns : List Column} {r : Relation}
    (before : Extended m table start front columns)
    (helsewhere : ∀ holder target, r.IsHeldBy holder target → holder.entity ≠ table) :
    Extended m table start (front ++ [r]) columns
  | held {front : List Relation} {columns : List Column} {r : Relation} {holder target : Participant} {c : Column}
    (before : Extended m table start front columns) (hheld : r.IsHeldBy holder target)
    (hhere : holder.entity = table) (hkey : c.isKey = false) (hrefers : RefersToKeyOf m target.entity c)
    (hfree : c.name ∉ columns.map (·.name)) :
    Extended m table start (front ++ [r])
      (columns ++ c :: lackingColumns (columns.map (·.name) ++ [c.name]) r.attributes)

namespace Extended

variable {table : String} {start columns : List Column} {relations : List Relation}

theorem of_elsewhere
    (h : ∀ r ∈ relations, ∀ holder target, r.IsHeldBy holder target → holder.entity ≠ table) :
    Extended m table start relations start := by
  induction relations using List.reverseRecOn with
  | nil => exact .nil
  | append_singleton front r ih =>
    rw [List.forall_mem_append, List.forall_mem_singleton] at h
    exact .other (ih h.1) h.2

theorem columns_eq (h : Extended m table start relations columns)
    (helsewhere : ∀ r ∈ relations, ∀ holder target, r.IsHeldBy holder target → holder.entity ≠ table) :
    columns = start := by
  induction h with
  | nil => rfl
  | other before _ ih =>
    rw [List.forall_mem_append] at helsewhere
    exact ih helsewhere.1
  | held before hheld hhere =>
    rw [List.forall_mem_append, List.forall_mem_singleton] at helsewhere
    exact absurd hhere (helsewhere.2 _ _ hheld)

theorem exists_reference (h : Extended m table start relations columns) (hr : r ∈ relations)
    (hheld : r.IsHeldBy holder target) (hhere : holder.entity = table) :
    ∃ c ∈ columns, c.isKey = false ∧ c.reference.isSome = true := by
  induction h with
  | nil => contradiction
  | other before helsewhere ih =>
    rw [List.mem_append, List.mem_singleton] at hr
    cases hr with
    | inl hfront => exact ih hfront
    | inr hlast =>
      rw [hlast] at hheld
      exact absurd hhere (helsewhere _ _ hheld)
  | held before _ _ hkey hrefers => exact ⟨_, by simp, hkey, hrefers.isSome_reference⟩

end Extended

structure IsExtension (m : ConceptualModel) (table : String) (start : List Column) (relations : List Relation)
    (t : Table) : Prop where
  name : t.name = table
  columns : Extended m table start relations t.columns

theorem columns_extend (key : String) (t : Table) :
    ∃ name, name ∉ t.names
      ∧ (placeReference.extend m r holder target key t).columns
        = t.columns ++ .referring name target.entity key :: lackingColumns (t.names ++ [name]) r.attributes := by
  unfold placeReference.extend
  extract_lets role base column
  refine ⟨column.name, t.freshName_notMem base (some role), ?_⟩
  rw [columns_appendAttributes, Table.names_append, Table.append, List.append_assoc]
  rfl

theorem IsExtension.reference {table key : String} {start : List Column} {front : List Relation}
    (hgroups : m.inheritances = []) (h : IsExtension m table start front t) (hheld : r.IsHeldBy holder target)
    (hkey : m.keyName? target.entity = some key) :
    IsExtension m table start (front ++ [r])
      (if t.name = holder.entity then placeReference.extend m r holder target key t else t) := by
  split
  . next hhere =>
    obtain ⟨column, hfree, hcolumns⟩ := columns_extend key t
    constructor
    . rw [name_extend, h.name]
    . rw [hcolumns]
      have hrefers : RefersToKeyOf m target.entity (.referring column target.entity key) :=
        refersToKeyOf_of_keyName? hgroups hkey rfl
      exact h.columns.held hheld (hhere.symm.trans h.name) rfl hrefers hfree
  . next helsewhere =>
    refine ⟨h.name, h.columns.other ?_⟩
    intro holder' target' hheld' heq
    rw [(eq_of_isHeldBy hheld hheld').1] at helsewhere
    exact helsewhere (h.name.trans heq.symm)

theorem not_isHeldBy_of_isAssociative (h : r.isAssociative = true) : ¬r.IsHeldBy holder target := by
  intro hheld
  have hends := (isAssociative_iff.1 h).2
  rw [ends?_of_isHeldBy hheld] at hends
  contradiction

theorem IsExtension.associative {table : String} {start : List Column} {front : List Relation}
    (h : IsExtension m table start front t) (hr : r.isAssociative = true) :
    IsExtension m table start (front ++ [r]) t := by
  refine ⟨h.name, h.columns.other ?_⟩
  intro holder target hheld
  exact absurd hheld (not_isHeldBy_of_isAssociative hr)

end Extended

section Link

/--
The columns of the table of a relation as it is made: one for each participant, which belongs to the key and refers to
the key of the participant, and the attributes of the relation that the table lacks then.
-/
def LinkColumns (m : ConceptualModel) (r : Relation) (columns : List Column) : Prop :=
  ∃ keys : List Column,
    List.Forall₂ (fun p c => c.isKey = true ∧ RefersToKeyOf m p.entity c) r.participants keys
      ∧ (keys.map (·.name)).Nodup
      ∧ columns = keys ++ lackingColumns (keys.map (·.name)) r.attributes

theorem LinkColumns.reference_eq_none {columns : List Column} (h : LinkColumns m r columns) {c : Column}
    (hc : c ∈ columns) (hkey : c.isKey = false) : c.reference = none := by
  obtain ⟨keys, hkeys, _, rfl⟩ := h
  rw [List.mem_append] at hc
  cases hc with
  | inl hown =>
    obtain ⟨_, _, htrue, _⟩ := hkeys.exists_of_mem_right hown
    rw [hkey] at htrue
    contradiction
  | inr hadded => exact (isPlain_of_mem_lackingColumns hadded).2

def IsKeyTo (entry : Participant × String) (c : Column) : Prop :=
  c.isKey = true ∧ RefersTo entry.1.entity entry.2 c

theorem forall₂_keyedTable (name : String) (keys : List (Participant × String)) :
    List.Forall₂ IsKeyTo keys (keyedTable name keys).columns := by
  suffices h : ∀ back front t, List.Forall₂ IsKeyTo front t.columns →
      List.Forall₂ IsKeyTo (front ++ back) (back.foldl (keyedTable.step keys) t).columns by
    exact h keys [] ⟨name, []⟩ .nil
  intro back
  induction back with
  | nil =>
    intro front t h
    rwa [List.append_nil]
  | cons entry back ih =>
    intro front t h
    rw [List.append_cons, List.foldl_cons]
    apply ih
    exact List.rel_append h (.cons ⟨rfl, rfl⟩ .nil)

theorem nodup_names_keyedTable (name : String) (keys : List (Participant × String)) :
    (keyedTable name keys).names.Nodup :=
  (keyedTable_grows name keys).nodup_names List.nodup_nil

theorem linkColumns_keyedTable (hgroups : m.inheritances = []) {keys : List (Participant × String)}
    (hkeys : HasKeys m d r.participants keys) :
    LinkColumns m r (appendAttributes (keyedTable r.name keys) r.attributes).columns := by
  refine ⟨(keyedTable r.name keys).columns, ?_, nodup_names_keyedTable r.name keys, ?_⟩
  . rw [← hkeys.participants, List.forall₂_map_left_iff]
    have hcolumns := (List.forall₂_and_left _ _).2 ⟨hkeys.key, forall₂_keyedTable r.name keys⟩
    apply hcolumns.imp
    rintro entry c ⟨hkey, hc, hrefers⟩
    exact ⟨hc, refersToKeyOf_of_keyName? hgroups hkey hrefers⟩
  . exact columns_appendAttributes _ _

end Link

section Stages

theorem value_entityTables_of_clean (h : (entityTables m .empty).Clean) :
    (entityTables m .empty).value = ofEntities m.entities := by
  apply Outcome.foldlM_induction (fun front d => d = ofEntities front) h rfl
  intro front e back d _ hd hstep
  rw [hd] at hstep ⊢
  have hfree : e.name ∉ front.map (·.name) := by
    intro htaken
    rw [← names_ofEntities, ← LogicalModel.hasTable_iff] at htaken
    unfold entityTables.step at hstep
    simp [htaken, Issue.severity] at hstep
  rw [value_entityStep_ofEntities hfree, Outcome.value_pure]

structure RelationsMapped (m : ConceptualModel) (front : List Relation) (d : Draft) : Prop where
  tables : ∃ own links, d.schema.tables = own ++ links
    ∧ List.Forall₂ (fun e t => IsExtension m e.name (attributeColumns e.attributes) front t) m.entities own
    ∧ List.Forall₂ (fun r t => ∃ start, LinkColumns m r start ∧ IsExtension m r.name start front t)
        (front.filter (·.isAssociative)) links
  holders : ∀ r ∈ front, ∀ holder target, r.IsHeldBy holder target → holder.entity ∈ d.schema.names

theorem relationsMapped_ofEntities : RelationsMapped m [] (ofEntities m.entities) := by
  refine ⟨⟨m.entities.map entityTable, [], (List.append_nil _).symm, ?_, .nil⟩, by simp⟩
  rw [List.forall₂_map_right_iff, List.forall₂_same]
  intro e _
  exact ⟨rfl, .nil⟩

variable {front : List Relation}

theorem RelationsMapped.reference {key : String} (hgroups : m.inheritances = []) (h : RelationsMapped m front d)
    (hheld : r.IsHeldBy holder target) (hkey : m.keyName? target.entity = some key)
    (hholder : d.schema.hasTable holder.entity = true) :
    RelationsMapped m (front ++ [r]) (d.modify holder.entity (placeReference.extend m r holder target key)) := by
  obtain ⟨own, links, htables, hown, hlinks⟩ := h.tables
  constructor
  . let step t := if t.name = holder.entity then placeReference.extend m r holder target key t else t
    refine ⟨own.map step, links.map step, ?_, ?_, ?_⟩
    . rw [← List.map_append, ← htables]
      rfl
    . rw [List.forall₂_map_right_iff]
      apply hown.imp
      intro e t ht
      exact ht.reference hgroups hheld hkey
    . rw [List.forall₂_map_right_iff]
      have hr : r.isAssociative = false := by
        rw [Bool.eq_false_iff]
        intro hassociative
        exact not_isHeldBy_of_isAssociative hassociative hheld
      rw [List.filter_append, List.filter_singleton, hr, Bool.cond_false, List.append_nil]
      apply hlinks.imp
      rintro link t ⟨start, hstart, ht⟩
      exact ⟨start, hstart, ht.reference hgroups hheld hkey⟩
  . rw [Draft.modify, LogicalModel.names_modify, List.forall_mem_append, List.forall_mem_singleton]
    . refine ⟨h.holders, ?_⟩
      intro holder' target' hheld'
      rw [← (eq_of_isHeldBy hheld hheld').1]
      exact LogicalModel.hasTable_iff.1 hholder
    . intro t
      apply name_extend

theorem RelationsMapped.table {keys : List (Participant × String)} (hgroups : m.inheritances = [])
    (h : RelationsMapped m front d) (hr : r.isAssociative = true) (hfree : d.schema.hasTable r.name = false)
    (hkeys : HasKeys m d r.participants keys) :
    RelationsMapped m (front ++ [r])
      ((d.add (appendAttributes (keyedTable r.name keys) r.attributes)).represent r.name r.name) := by
  obtain ⟨own, links, htables, hown, hlinks⟩ := h.tables
  constructor
  . refine ⟨own, links ++ [appendAttributes (keyedTable r.name keys) r.attributes], ?_, ?_, ?_⟩
    . rw [← List.append_assoc, ← htables]
      rfl
    . apply hown.imp
      intro e t ht
      exact ht.associative hr
    . rw [List.filter_append, List.filter_singleton, hr, Bool.cond_true]
      apply List.rel_append
      . apply hlinks.imp
        rintro link t ⟨start, hstart, ht⟩
        exact ⟨start, hstart, ht.associative hr⟩
      . refine .cons ⟨_, linkColumns_keyedTable hgroups hkeys, ?_⟩ .nil
        -- No relation so far is held by a table of this name, for there was none.
        apply IsExtension.associative _ hr
        refine ⟨by simp, .of_elsewhere ?_⟩
        intro r' hr' holder target hheld heq
        rw [LogicalModel.hasTable_eq_false_iff, ← heq] at hfree
        exact hfree (h.holders r' hr' holder target hheld)
  . rw [List.forall_mem_append, List.forall_mem_singleton]
    constructor
    . intro r' hr' holder target hheld
      rw [Draft.represent, Draft.add, LogicalModel.names_add]
      exact List.mem_append_left _ (h.holders r' hr' holder target hheld)
    . intro holder target hheld
      exact absurd hheld (not_isHeldBy_of_isAssociative hr)

theorem RelationsMapped.next (hgroups : m.inheritances = []) (h : RelationsMapped m front d)
    (hclean : (relation m d r).Clean) : RelationsMapped m (front ++ [r]) (relation m d r).value := by
  rcases relation_of_clean hclean with ⟨holder, target, key, hheld, hkey, hholder, hvalue⟩
    | ⟨hassociative, hfree, keys, hkeys, hvalue⟩
  . rw [hvalue]
    exact h.reference hgroups hheld hkey hholder
  . rw [hvalue]
    exact h.table hgroups hassociative hfree hkeys

theorem relationsMapped_related (hgroups : m.inheritances = []) (hclean : (related m).Clean) :
    RelationsMapped m m.relations (related m).value := by
  unfold related Outcome.Clean at hclean
  rw [Outcome.reports_bind] at hclean
  have hentities := value_entityTables_of_clean hclean.1
  apply Outcome.foldlM_induction (fun front d => RelationsMapped m front d) hclean.2
  . rw [hentities]
    exact relationsMapped_ofEntities
  . intro front r back d _ hd hstep
    exact hd.next hgroups hstep

theorem retarget_nil : retarget [] = id := by
  funext fk
  rfl

theorem value_toLogical_eq_related (hgroups : m.inheritances = []) (hassociatives : m.associatives = []) :
    (m.toLogical settings).value = (related m).value.schema := by
  have hdrafted : drafted m settings = related m := by
    simp [drafted, flattened, inheritances, associatives, hgroups, hassociatives]
  rw [value_toLogical, hdrafted, folded_related, retarget_nil]
  simp [LogicalModel.mapReferences]

/--
The model has these tables in this order: one for each entity, extended by the relations that it holds, and one for
each relation that no participant can hold, with nothing but its own columns.
-/
def Mapped (m : ConceptualModel) (out : LogicalModel) : Prop :=
  ∃ own links, out.tables = own ++ links
    ∧ List.Forall₂ (fun e t => IsExtension m e.name (attributeColumns e.attributes) m.relations t) m.entities own
    ∧ List.Forall₂ (fun r t => t.name = r.name ∧ LinkColumns m r t.columns) (m.relations.filter (·.isAssociative))
        links

theorem Mapped.reference_eq_none {out : LogicalModel} (h : Mapped m out) :
    ∀ t ∈ out.tables.drop m.entities.length, ∀ c ∈ t.columns, c.isKey = false → c.reference = none := by
  obtain ⟨own, links, htables, hown, hlinks⟩ := h
  intro t ht c hc hkey
  rw [htables, List.drop_left' hown.length_eq.symm] at ht
  obtain ⟨r, _, _, hcolumns⟩ := hlinks.exists_of_mem_right ht
  exact hcolumns.reference_eq_none hc hkey

theorem RelationsMapped.holder_declared (h : RelationsMapped m m.relations d) (hmapped : Mapped m d.schema)
    (hr : r ∈ m.relations) (hheld : r.IsHeldBy holder target) : (m.entity? holder.entity).isSome = true := by
  obtain ⟨own, links, htables, hown, hlinks⟩ := h.tables
  obtain ⟨t, ht, hname⟩ := List.mem_map.1 (h.holders r hr holder target hheld)
  rw [htables, List.mem_append] at ht
  cases ht with
  | inl ht =>
    obtain ⟨e, he, hextension⟩ := hown.exists_of_mem_right ht
    rw [ConceptualModel.entity?, List.find?_isSome]
    exact ⟨e, he, by simp [← hname, hextension.name]⟩
  | inr ht =>
    -- The table of another relation holds this one, so that it has a reference outside of its key.
    obtain ⟨link, _, start, _, hextension⟩ := hlinks.exists_of_mem_right ht
    obtain ⟨c, hc, hkey, hreference⟩ :=
      hextension.columns.exists_reference hr hheld (hname.symm.trans hextension.name)
    rw [hmapped.reference_eq_none t _ c hc hkey] at hreference
    . contradiction
    . rwa [htables, List.drop_left' hown.length_eq.symm]

theorem RelationsMapped.mapped (h : RelationsMapped m m.relations d) (hnames : d.schema.names.Nodup)
    (hholders : ∀ r ∈ m.relations, ∀ holder target, r.IsHeldBy holder target →
      (m.entity? holder.entity).isSome = true) : Mapped m d.schema := by
  obtain ⟨own, links, htables, hown, hlinks⟩ := h.tables
  have hapart : ∀ r ∈ m.relations.filter (·.isAssociative), m.entity? r.name = none := by
    intro r hr
    rw [ConceptualModel.entity?, List.find?_eq_none]
    intro e he hname
    obtain ⟨t, ht, hentity⟩ := hown.flip.exists_of_mem_right he
    obtain ⟨u, hu, _, _, hlink⟩ := hlinks.flip.exists_of_mem_right hr
    rw [LogicalModel.names, htables, List.map_append, List.nodup_append] at hnames
    apply hnames.2.2 t.name (List.mem_map_of_mem ht) u.name (List.mem_map_of_mem hu)
    rw [hentity.name, hlink.name, of_decide_eq_true hname]
  refine ⟨own, links, htables, hown, ?_⟩
  apply ((List.forall₂_and_left _ _).2 ⟨hapart, hlinks⟩).imp
  rintro r t ⟨hnone, start, hstart, hextension⟩
  refine ⟨hextension.name, ?_⟩
  rw [hextension.columns.columns_eq]
  . exact hstart
  . intro r' hr' holder target hheld heq
    have hsome := hholders r' hr' holder target hheld
    rw [heq, hnone] at hsome
    contradiction

theorem mapped_toLogical_iff (hgroups : m.inheritances = []) (hassociatives : m.associatives = [])
    (hclean : (m.toLogical settings).hasErrors = false) :
    Mapped m (m.toLogical settings).value
      ↔
    ∀ r ∈ m.relations, ∀ holder target, r.IsHeldBy holder target → (m.entity? holder.entity).isSome = true := by
  have hrelated : RelationsMapped m m.relations (related m).value := by
    apply relationsMapped_related hgroups
    exact (reports_toLogical.1 (Outcome.hasErrors_eq_false_iff.1 hclean)).1
  rw [value_toLogical_eq_related hgroups hassociatives]
  constructor
  . intro hmapped r hr holder target hheld
    exact hrelated.holder_declared hmapped hr hheld
  . intro hholders
    exact hrelated.mapped nodup_names_related hholders

def heldByRelation : ConceptualModel where
  entities := [⟨"A", [⟨"id_a", true, false⟩]⟩, ⟨"B", [⟨"id_b", true, false⟩]⟩]
  relations := [⟨"r", [⟨"A", .zeroMany⟩, ⟨"B", .zeroMany⟩], []⟩, ⟨"s", [⟨"r", .oneOne⟩, ⟨"A", .zeroMany⟩], []⟩]
  inheritances := []
  associatives := []

theorem heldByRelation_not_mapped :
    (heldByRelation.toLogical .standard).hasErrors = false
      ∧ ¬Mapped heldByRelation (heldByRelation.toLogical .standard).value := by
  constructor
  . decide +kernel
  . intro hmapped
    have hnone := hmapped.reference_eq_none
    revert hnone
    decide +kernel

def interwoven : ConceptualModel where
  entities := [⟨"A", [⟨"id_a", true, false⟩, ⟨"x", false, false⟩]⟩, ⟨"B", [⟨"y", false, false⟩, ⟨"id_b", true, false⟩]⟩,
    ⟨"C", [⟨"id_c", true, false⟩, ⟨"total", false, true⟩]⟩]
  relations := [⟨"only", [⟨"A", .zeroMany⟩, ⟨"B", .zeroOne⟩], [⟨"y", false, false⟩, ⟨"z", false, false⟩]⟩,
    ⟨"many", [⟨"A", .zeroMany⟩, ⟨"B", .oneMany⟩], [⟨"id_a", false, false⟩, ⟨"x", false, false⟩, ⟨"x", false, true⟩]⟩,
    ⟨"must", [⟨"B", .zeroOne⟩, ⟨"C", .oneOne⟩], []⟩, ⟨"tie", [⟨"A", .oneOne⟩, ⟨"C", .oneOne⟩], [⟨"z", false, false⟩]⟩,
    ⟨"self", [⟨"A", .zeroOne⟩, ⟨"A", .zeroMany⟩], []⟩, ⟨"all", [⟨"A", .oneOne⟩, ⟨"C", .zeroOne⟩, ⟨"A", .zeroMany⟩], []⟩]
  inheritances := []
  associatives := []

theorem mapped_toLogical_iff_interwoven :
    interwoven.inheritances = [] ∧ interwoven.associatives = []
      ∧ (interwoven.toLogical .standard).hasErrors = false
      ∧ (interwoven.toLogical .standard).value.tables.map (fun t => (t.name, t.names))
          = [("A", ["id_a", "x", "id_c", "z", "id_a_self"]), ("B", ["y", "id_b", "id_a_only", "z"]),
             ("C", ["id_c", "id_b"]), ("many", ["id_a", "id_b", "x"]), ("all", ["id_a_a", "id_c", "id_a_a_2"])]
      ∧ Mapped interwoven (interwoven.toLogical .standard).value := by
  have hclean : (interwoven.toLogical .standard).hasErrors = false := by decide +kernel
  refine ⟨rfl, rfl, hclean, by decide +kernel, (mapped_toLogical_iff rfl rfl hclean).2 ?_⟩
  have hends : ∀ r ∈ interwoven.relations, ∀ ends ∈ ends? r, (interwoven.entity? ends.1.entity).isSome = true := by
    decide +kernel
  intro r hr holder target hheld
  exact hends r hr (holder, target) (ends?_of_isHeldBy hheld)

end Stages

end Derivation

end SchemaDesign
