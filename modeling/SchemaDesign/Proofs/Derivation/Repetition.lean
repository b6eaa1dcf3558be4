import SchemaDesign.Proofs.Derivation.Exchange
import SchemaDesign.Proofs.Derivation.Keyed
import SchemaDesign.Proofs.Distinct

namespace SchemaDesign

def Inheritance.withoutRepeats (g : Inheritance) : Inheritance :=
  { g with children := distinct g.children }

def ConceptualModel.withoutRepeats (m : ConceptualModel) : ConceptualModel :=
  m.withGroups (m.inheritances.map (·.withoutRepeats))

namespace Derivation

variable {m : ConceptualModel} {settings : Settings} {d d' : Draft} {g : Inheritance}

@[simp]
theorem present_withoutRepeats : d.present g.withoutRepeats = distinct (d.present g) :=
  filter_distinct d.schema.hasTable g.children

theorem parent?_withoutRepeats (child : String) : m.withoutRepeats.parent? child = m.parent? child := by
  unfold ConceptualModel.parent? ConceptualModel.withoutRepeats ConceptualModel.withGroups
  simp only [List.find?_map, Option.map_map, Function.comp_def, Inheritance.withoutRepeats, mem_distinct]

section FoldInto

def takeIn (u t : Table) : Table :=
  (t.columns.filter (!·.isKey)).foldl (fun t c => if t.hasColumn c.name then t else t.append c) u

variable {t u : Table} {c : Column}

theorem foldl_appendIfFree_grows (cs : List Column) (u : Table) :
    u.Grows (fun _ => True) (cs.foldl (fun t c => if t.hasColumn c.name then t else t.append c) u) := by
  apply Table.Grows.foldl
  intro c _ u
  exact Table.Grows.appendIfFree u trivial

theorem mem_names_takeIn (hc : c ∈ t.columns) (hkey : c.isKey = false) : c.name ∈ (takeIn u t).names := by
  have hmem : c ∈ t.columns.filter (!·.isKey) := by simp [hc, hkey]
  obtain ⟨front, back, hsplit⟩ := List.append_of_mem hmem
  rw [takeIn, hsplit, List.foldl_append, List.foldl_cons]
  apply (foldl_appendIfFree_grows back _).names_subset
  split
  . next hthere => exact Table.hasColumn_iff.1 hthere
  . simp

theorem takeIn_eq_self (h : ∀ c ∈ t.columns, c.isKey = false → c.name ∈ u.names) : takeIn u t = u := by
  have hall : ∀ c ∈ t.columns.filter (!·.isKey), u.hasColumn c.name = true := by
    intro c hc
    rw [List.mem_filter, Bool.not_eq_true'] at hc
    exact Table.hasColumn_iff.2 (h c hc.1 hc.2)
  unfold takeIn
  generalize t.columns.filter (!·.isKey) = cs at hall
  induction cs with
  | nil => rfl
  | cons c cs ih =>
    rw [List.forall_mem_cons] at hall
    rw [List.foldl_cons, if_pos hall.1]
    exact ih hall.2

def takeInNamed (tables : String → Option Table) (u : Table) (child : String) : Table :=
  match tables child with
  | some t => takeIn u t
  | none => u

variable (tables : String → Option Table)

theorem foldl_takeInNamed_grows (children : List String) (u : Table) :
    u.Grows (fun _ => True) (children.foldl (takeInNamed tables) u) := by
  apply Table.Grows.foldl
  intro child _ u
  unfold takeInNamed
  split
  . apply foldl_appendIfFree_grows
  . exact Table.Grows.refl

theorem takeInNamed_eq_self {child : String}
    (h : ∀ t, tables child = some t → ∀ c ∈ t.columns, c.isKey = false → c.name ∈ u.names) :
    takeInNamed tables u child = u := by
  unfold takeInNamed
  split
  . next t ht => exact takeIn_eq_self (h t ht)
  . rfl

theorem takeInNamed_foldl_takeInNamed {children : List String} {child : String} (h : child ∈ children) (u : Table) :
    takeInNamed tables (children.foldl (takeInNamed tables) u) child = children.foldl (takeInNamed tables) u := by
  -- What the child has is there since its first turn.
  obtain ⟨front, back, rfl⟩ := List.append_of_mem h
  apply takeInNamed_eq_self
  intro t ht c hc hkey
  rw [List.foldl_append, List.foldl_cons]
  apply (foldl_takeInNamed_grows tables back _).names_subset
  rw [takeInNamed, ht]
  exact mem_names_takeIn hc hkey

theorem foldInto_filterMap (children : List String) (parent : Table) :
    foldInto (children.filterMap tables) parent
      =
    children.foldl (takeInNamed tables)
      (if parent.hasColumn discriminator then parent else parent.append (.plain discriminator)) := by
  simp only [foldInto, List.foldl_flatMap, List.foldl_filterMap]
  congr 1
  funext u child
  unfold takeInNamed
  cases tables child <;> rfl

theorem foldInto_filterMap_distinct (children : List String) (parent : Table) :
    foldInto ((distinct children).filterMap tables) parent = foldInto (children.filterMap tables) parent := by
  rw [foldInto_filterMap, foldInto_filterMap]
  apply foldl_addAllNew
  intro u children child hchild
  exact takeInNamed_foldl_takeInNamed tables hchild u

end FoldInto

section Flatten

variable {parent : Table} {key : String} {children : List String}

theorem schema_modifyEach_eq {f : Table → Table} (hf : ∀ t, (f t).name = t.name) {names names' : List String}
    (h : ∀ t, f^[names.count t.name] t = f^[names'.count t.name] t) :
    (modifyEach f d names).schema = (modifyEach f d names').schema := by
  have htables : (modifyEach f d names).schema.tables = (modifyEach f d names').schema.tables := by
    rw [tables_modifyEach hf, tables_modifyEach hf, funext h]
  exact congrArg LogicalModel.mk htables

theorem iterate_inheritColumns_count_distinct (inherited : List Column) (t : Table) :
    (inheritColumns inherited)^[(distinct children).count t.name] t
      =
    (inheritColumns inherited)^[children.count t.name] t := by
  by_cases h : t.name ∈ children
  . have hcount : ∀ names : List String, t.name ∈ names → names.count t.name ≠ 0 := by
      intro names hmem hzero
      exact List.count_eq_zero.1 hzero hmem
    rw [iterate_inheritColumns (hcount _ h), iterate_inheritColumns (hcount _ (mem_distinct.2 h))]
  . rw [List.count_eq_zero.2 h, List.count_eq_zero.2 fun hmem => h (mem_distinct.1 hmem)]

theorem schema_flatten_distinct (h : g.strategyIn settings = .tablePerClass → children.Nodup) :
    (flatten settings d g parent key (distinct children)).schema
      =
    (flatten settings d g parent key children).schema := by
  unfold flatten
  cases hs : g.strategyIn settings with
  | tablePerClass => rw [distinct_eq_self (h hs)]
  | singleTable =>
    have hfold : foldInto ((distinct children).filterMap d.schema.table?)
        = foldInto (children.filterMap d.schema.table?) := by
      funext t
      exact foldInto_filterMap_distinct d.schema.table? children t
    simp only [singleTable, hfold, LogicalModel.remove, mem_distinct]
  | tablePerSubclass =>
    simp only [tablePerSubclass_eq]
    congr 1
    apply schema_modifyEach_eq
    . intro t
      rfl
    . exact iterate_inheritColumns_count_distinct parent.columns

theorem lookup_folded_flatten_distinct (child : String) :
    (flatten settings d g parent key (distinct children)).folded.lookup child
      =
    (flatten settings d g parent key children).folded.lookup child := by
  unfold flatten
  cases g.strategyIn settings with
  | tablePerClass => simp only [tablePerClass_eq, folded_modifyEach]
  | singleTable => simp only [lookup_folded_singleTable, mem_distinct]
  | tablePerSubclass => simp only [folded_tablePerSubclass]

end Flatten

section Harmless

def RefersAgain (settings : Settings) (d : Draft) (g : Inheritance) : Prop :=
  g.strategyIn settings = .tablePerClass ∧ (d.keyed? g.parent).isSome = true ∧ ¬(d.present g).Nodup

instance (settings : Settings) (d : Draft) (g : Inheritance) : Decidable (RefersAgain settings d g) :=
  inferInstanceAs (Decidable (_ ∧ _))

theorem value_inheritance_withoutRepeats :
    (inheritance settings d g.withoutRepeats).value
      =
    match d.keyed? g.parent with
    | some (parent, key) => flatten settings d g parent key.name (distinct (d.present g))
    | none => d := by
  rw [value_inheritance, present_withoutRepeats]
  rfl

theorem inheritance_withoutRepeats (h : ¬RefersAgain settings d g) :
    (inheritance settings d g.withoutRepeats).value.Alike (inheritance settings d g).value := by
  constructor
  . rw [value_inheritance_withoutRepeats, value_inheritance]
    cases hkeyed : d.keyed? g.parent with
    | none => rfl
    | some pair =>
      apply schema_flatten_distinct
      intro hs
      by_contra hrepeats
      exact h ⟨hs, by rw [hkeyed]; rfl, hrepeats⟩
  . rw [relationTables_inheritance, relationTables_inheritance]
  . intro child
    rw [value_inheritance_withoutRepeats, value_inheritance]
    cases d.keyed? g.parent with
    | none => rfl
    | some pair => apply lookup_folded_flatten_distinct
  . intro name
    rw [dissolved_inheritance, dissolved_inheritance]
    rfl

theorem Draft.Alike.trans {d'' : Draft} (h : d.Alike d') (h' : d'.Alike d'') : d.Alike d'' := by
  constructor
  . exact h.schema.trans h'.schema
  . exact h.relationTables.trans h'.relationTables
  . intro child
    exact (h.folded child).trans (h'.folded child)
  . intro parent
    exact (h.dissolved parent).trans (h'.dissolved parent)

theorem inheritances_withoutRepeats {groups : List Inheritance} (hd : d'.Alike d)
    (h : ∀ front g back, groups = front ++ g :: back →
      ¬RefersAgain settings (front.foldlM (inheritance settings) d).value g) :
    ((groups.map (·.withoutRepeats)).foldlM (inheritance settings) d').value.Alike
      (groups.foldlM (inheritance settings) d).value := by
  induction groups generalizing d d' with
  | nil => exact hd
  | cons g groups ih =>
    rw [List.map_cons, List.foldlM_cons, List.foldlM_cons, Outcome.value_bind, Outcome.value_bind]
    have hfirst : (inheritance settings d' g.withoutRepeats).value.Alike (inheritance settings d g).value :=
      (inheritance_agrees hd).value.trans (inheritance_withoutRepeats (h [] g groups rfl))
    apply ih hfirst
    intro front g' back hsplit
    simpa using h (g :: front) g' back (by rw [hsplit]; rfl)

end Harmless

end Derivation

end SchemaDesign
