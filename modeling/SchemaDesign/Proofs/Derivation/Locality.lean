import SchemaDesign.Proofs.Derivation.Lookup
import SchemaDesign.Proofs.Derivation.TableNames

namespace SchemaDesign

def Inheritance.members (g : Inheritance) : List String :=
  g.parent :: g.children

namespace Derivation

variable {settings : Settings} {d d' : Draft} {g : Inheritance} {name : String}

def Draft.AgreesOn (names : List String) (d d' : Draft) : Prop :=
  ∀ name ∈ names, d.schema.table? name = d'.schema.table? name

theorem Draft.AgreesOn.hasTable_eq {names : List String} (h : d.AgreesOn names d') (hname : name ∈ names) :
    d.schema.hasTable name = d'.schema.hasTable name := by
  rw [Bool.eq_iff_iff, LogicalModel.hasTable_iff, LogicalModel.hasTable_iff, ← LogicalModel.isSome_table?,
    ← LogicalModel.isSome_table?, h name hname]

section Flatten

variable {parent : Table} {key : String} {children : List String}

theorem table?_flatten (hparent : d.schema.table? g.parent = some parent) (name : String) :
    (flatten settings d g parent key children).schema.table? name
      =
    match g.strategyIn settings with
    | .tablePerClass => (d.schema.table? name).map (referToParent g.parent key)^[children.count name]
    | .singleTable =>
      if name ∈ children then none
      else (d.schema.table? name).map fun t =>
        if name = g.parent then foldInto (children.filterMap d.schema.table?) t else t
    | .tablePerSubclass =>
      if name = g.parent then none
      else (d.schema.table? name).map (inheritColumns parent.columns)^[children.count name] := by
  unfold flatten
  cases g.strategyIn settings with
  | tablePerClass =>
    simp only [tablePerClass_eq]
    apply table?_modifyEach
    intro t
    rfl
  | singleTable => apply table?_singleTable
  | tablePerSubclass =>
    simp only [table?_tablePerSubclass, LogicalModel.name_of_table? hparent]

theorem table?_flatten_of_notMem (hparent : d.schema.table? g.parent = some parent) (hname : name ≠ g.parent)
    (hother : name ∉ children) :
    (flatten settings d g parent key children).schema.table? name = d.schema.table? name := by
  rw [table?_flatten hparent, List.count_eq_zero.2 hother]
  cases g.strategyIn settings with
  | tablePerClass => simp
  | singleTable => simp [hname, hother]
  | tablePerSubclass => simp [hname]

end Flatten

theorem table?_inheritance_of_notMem (hname : name ∉ g.members) :
    (inheritance settings d g).value.schema.table? name = d.schema.table? name := by
  have hstep : InheritanceStep settings d g (inheritance settings d g).value := inheritance_step
  generalize (inheritance settings d g).value = d' at hstep ⊢
  rw [Inheritance.members, List.mem_cons, not_or] at hname
  cases hstep with
  | skip => rfl
  | flatten parent key hparent =>
    apply table?_flatten_of_notMem hparent hname.1
    intro hmem
    exact hname.2 (List.mem_filter.1 hmem).1

theorem names_inheritance_sublist : (inheritance settings d g).value.schema.names.Sublist d.schema.names := by
  have hstep : InheritanceStep settings d g (inheritance settings d g).value := inheritance_step
  generalize (inheritance settings d g).value = d' at hstep ⊢
  cases hstep with
  | skip => exact List.Sublist.refl _
  | flatten => exact names_flatten_sublist

section Turn

def Draft.keyed? (d : Draft) (name : String) : Option (Table × Column) :=
  (d.schema.table? name).bind fun t => t.keys.head?.map fun key => (t, key)

theorem keyed?_eq_some_iff {t : Table} {key : Column} :
    d.keyed? name = some (t, key) ↔ d.schema.table? name = some t ∧ t.keys.head? = some key := by
  unfold Draft.keyed?
  cases d.schema.table? name with
  | none => simp
  | some found =>
    simp only [Option.bind_some, Option.map_eq_some_iff, Prod.mk.injEq, Option.some_inj]
    constructor
    . rintro ⟨key', hkey, rfl, rfl⟩
      exact ⟨rfl, hkey⟩
    . rintro ⟨rfl, hkey⟩
      exact ⟨key, hkey, rfl, rfl⟩

def Draft.present (d : Draft) (g : Inheritance) : List String :=
  g.children.filter d.schema.hasTable

theorem value_inheritance :
    (inheritance settings d g).value
      =
    match d.keyed? g.parent with
    | some (parent, key) => flatten settings d g parent key.name (d.present g)
    | none => d := by
  unfold inheritance Draft.keyed?
  cases d.schema.table? g.parent with
  | none => rfl
  | some parent =>
    simp only [Option.bind_some]
    cases parent.keys.head? with
    | none => rfl
    | some key =>
      simp only [Option.map_some, Outcome.value_bind, value_knownChildren, flatten, Inheritance.strategyIn,
        Draft.present]
      cases g.strategy.getD settings.inheritance <;> rfl

variable (h : d.AgreesOn g.members d')

include h

theorem keyed?_eq : d.keyed? g.parent = d'.keyed? g.parent := by
  unfold Draft.keyed?
  rw [h g.parent (List.mem_cons_self ..)]

theorem present_eq : d.present g = d'.present g := by
  apply List.filter_congr
  intro child hchild
  exact h.hasTable_eq (List.mem_cons_of_mem _ hchild)

theorem knownChildren_eq : knownChildren d g = knownChildren d' g := by
  have hstep : ∀ child ∈ g.children, knownChildren.step d g child = knownChildren.step d' g child := by
    intro child hchild
    simp only [knownChildren.step, h.hasTable_eq (List.mem_cons_of_mem _ hchild)]
  apply Outcome.ext
  . simp only [knownChildren, Outcome.value_collect]
    apply List.filterMap_congr
    intro child hchild
    rw [hstep child hchild]
  . simp only [knownChildren, Outcome.diagnostics_collect]
    apply List.flatMap_congr
    intro child hchild
    rw [hstep child hchild]

theorem diagnostics_inheritance_eq :
    (inheritance settings d g).diagnostics = (inheritance settings d' g).diagnostics := by
  unfold inheritance
  rw [h g.parent (List.mem_cons_self ..), knownChildren_eq h]
  cases d'.schema.table? g.parent with
  | none => rfl
  | some parent =>
    simp only
    cases parent.keys.head? with
    | none => rfl
    | some key =>
      simp only [Outcome.diagnostics_bind]
      cases g.strategy.getD settings.inheritance <;> rfl

theorem table?_inheritance_eq (hname : name ∈ g.members) :
    (inheritance settings d g).value.schema.table? name = (inheritance settings d' g).value.schema.table? name := by
  have hkeyed := keyed?_eq h
  rw [value_inheritance, value_inheritance, ← hkeyed, ← present_eq h]
  cases hparent : d.keyed? g.parent with
  | none => exact h name hname
  | some pair =>
    obtain ⟨parent, key⟩ := pair
    have hfound := (keyed?_eq_some_iff.1 hparent).1
    have hfound' : d'.schema.table? g.parent = some parent := by
      rw [← h g.parent (List.mem_cons_self ..), hfound]
    have hchildren : (d.present g).filterMap d.schema.table? = (d.present g).filterMap d'.schema.table? := by
      apply List.filterMap_congr
      intro child hchild
      exact h child (List.mem_cons_of_mem _ (List.mem_filter.1 hchild).1)
    simp only [table?_flatten hfound, table?_flatten hfound', h name hname, hchildren]

end Turn

section Record

def newFolds (settings : Settings) (d : Draft) (g : Inheritance) : List (String × (String × String)) :=
  match g.strategyIn settings, d.keyed? g.parent with
  | .singleTable, some (_, key) => (d.present g).map fun child => (child, (g.parent, key.name))
  | _, _ => []

def newDissolved (settings : Settings) (d : Draft) (g : Inheritance) : List String :=
  match g.strategyIn settings, d.keyed? g.parent with
  | .tablePerSubclass, some _ => [g.parent]
  | _, _ => []

theorem folded_inheritance :
    (inheritance settings d g).value.folded = newFolds settings d g ++ d.folded := by
  rw [value_inheritance]
  unfold newFolds flatten
  cases d.keyed? g.parent with
  | none => cases g.strategyIn settings <;> rfl
  | some pair =>
    cases g.strategyIn settings with
    | tablePerClass =>
      simp only [tablePerClass_eq]
      exact folded_modifyEach
    | singleTable => rfl
    | tablePerSubclass => exact folded_tablePerSubclass

theorem dissolved_inheritance :
    (inheritance settings d g).value.dissolved = newDissolved settings d g ++ d.dissolved := by
  rw [value_inheritance]
  unfold newDissolved
  cases hkeyed : d.keyed? g.parent with
  | none => cases g.strategyIn settings <;> rfl
  | some pair =>
    have hparent := (keyed?_eq_some_iff.1 hkeyed).1
    unfold flatten
    cases g.strategyIn settings with
    | tablePerClass =>
      simp only [tablePerClass_eq]
      exact dissolved_modifyEach
    | singleTable => rfl
    | tablePerSubclass =>
      simp only [dissolved_tablePerSubclass, LogicalModel.name_of_table? hparent]
      rfl

theorem relationTables_inheritance : (inheritance settings d g).value.relationTables = d.relationTables := by
  rw [value_inheritance]
  cases d.keyed? g.parent with
  | none => rfl
  | some pair => exact relationTables_flatten

end Record

end Derivation

end SchemaDesign
