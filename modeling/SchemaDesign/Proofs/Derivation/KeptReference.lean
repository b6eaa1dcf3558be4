import SchemaDesign.Proofs.Derivation.Locality

/-!
This module contains what becomes of the references of a child when its group is flattened. A reference stays unless a
column of the same name is there already in the table that takes the columns of the child in.
-/

namespace SchemaDesign

def Inheritance.holderOf (settings : Settings) (g : Inheritance) (child : String) : String :=
  match g.strategyIn settings with
  | .singleTable => g.parent
  | .tablePerClass | .tablePerSubclass => child

def Column.LinksTo (table column : String) (c : Column) : Prop :=
  ∃ fk, c.reference = some fk ∧ fk.table = table ∧ fk.column = column

def Table.LinksTo (table column : String) (t : Table) : Prop :=
  ∃ c ∈ t.columns, c.LinksTo table column

def LogicalModel.Links (m : LogicalModel) (holder table column : String) : Prop :=
  ∃ t, m.table? holder = some t ∧ t.LinksTo table column

instance (table column : String) : DecidablePred (Column.LinksTo table column) := fun c =>
  decidable_of_iff (∃ fk ∈ c.reference, fk.table = table ∧ fk.column = column) Iff.rfl

instance (table column : String) : DecidablePred (Table.LinksTo table column) := fun t =>
  inferInstanceAs (Decidable (∃ c ∈ t.columns, c.LinksTo table column))

instance (m : LogicalModel) (holder table column : String) : Decidable (m.Links holder table column) :=
  decidable_of_iff (∃ t ∈ m.table? holder, t.LinksTo table column) Iff.rfl

namespace Derivation

section NewColumns

def newColumns (taken : List String) : List Column → List Column
  | [] => []
  | c :: cs => if c.name ∈ taken then newColumns taken cs else c :: newColumns (taken ++ [c.name]) cs

variable {taken : List String} {cs : List Column} {c : Column}

theorem mem_newColumns_iff :
    c ∈ newColumns taken cs
      ↔
    ∃ front back, cs = front ++ c :: back ∧ c.name ∉ taken ++ front.map (·.name) := by
  induction cs generalizing taken with
  | nil => simp [newColumns]
  | cons first cs ih =>
    rw [newColumns]
    constructor
    . intro h
      split at h
      . next htaken =>
        obtain ⟨front, back, rfl, hfree⟩ := ih.1 h
        refine ⟨first :: front, back, rfl, ?_⟩
        grind
      . next hnew =>
        cases List.mem_cons.1 h with
        | inl hfirst =>
          rw [hfirst]
          exact ⟨[], cs, rfl, by simpa using hnew⟩
        | inr hrest =>
          obtain ⟨front, back, rfl, hfree⟩ := ih.1 hrest
          exact ⟨first :: front, back, rfl, by simpa using hfree⟩
    . rintro ⟨front, back, hsplit, hfree⟩
      cases front with
      | nil =>
        obtain ⟨rfl, rfl⟩ := List.cons.inj hsplit
        rw [if_neg (by simpa using hfree)]
        exact List.mem_cons_self ..
      | cons first' front =>
        obtain ⟨rfl, rfl⟩ := List.cons.inj hsplit
        split
        . exact ih.2 ⟨front, back, rfl, by grind⟩
        . exact List.mem_cons_of_mem _ (ih.2 ⟨front, back, rfl, by simpa using hfree⟩)

theorem columns_foldl_append (cs : List Column) (t : Table) :
    (cs.foldl (fun t c => if t.hasColumn c.name then t else t.append c) t).columns
      =
    t.columns ++ newColumns t.names cs := by
  induction cs generalizing t with
  | nil => simp [newColumns]
  | cons c cs ih =>
    rw [List.foldl_cons, ih, newColumns]
    simp only [Table.hasColumn_iff]
    split
    . rfl
    . rw [Table.names_append, Table.append, List.append_assoc, List.singleton_append]

def offeredColumns (children : List Table) : List Column :=
  .plain discriminator :: children.flatMap fun t => t.columns.filter (!·.isKey)

theorem columns_foldInto (children : List Table) (parent : Table) :
    (foldInto children parent).columns = parent.columns ++ newColumns parent.names (offeredColumns children) := by
  rw [← columns_foldl_append, offeredColumns, List.foldl_cons]
  rfl

end NewColumns

section Flatten

variable {settings : Settings} {d : Draft} {g : Inheritance} {parent t : Table} {key child table column : String}
  {children : List String}

theorem linksTo_iff_exists_reference :
    t.LinksTo table column ↔ ∃ fk ∈ t.references, fk.table = table ∧ fk.column = column := by
  simp only [Table.LinksTo, Column.LinksTo, Table.mem_references]
  grind

theorem references_subset_iterate_referToParent (n : Nat) :
    t.references ⊆ ((referToParent g.parent key)^[n] t).references := by
  induction n generalizing t with
  | zero => exact List.Subset.refl _
  | succ n ih =>
    rw [Function.iterate_succ_apply]
    exact List.Subset.trans (references_subset_referToParent g.parent key t) ih

theorem linksTo_foldInto_iff {tables : List Table} :
    (foldInto tables parent).LinksTo table column
      ↔
    parent.LinksTo table column ∨ ∃ front c back, offeredColumns tables = front ++ c :: back
      ∧ c.LinksTo table column ∧ c.name ∉ parent.names ++ front.map (·.name) := by
  simp only [Table.LinksTo, columns_foldInto, List.mem_append, mem_newColumns_iff]
  constructor
  . rintro ⟨c, hold | ⟨front, back, hsplit, hfree⟩, hlinks⟩
    . exact Or.inl ⟨c, hold, hlinks⟩
    . exact Or.inr ⟨front, c, back, hsplit, hlinks, hfree⟩
  . rintro (⟨c, hold, hlinks⟩ | ⟨front, c, back, hsplit, hlinks, hfree⟩)
    . exact ⟨c, Or.inl hold, hlinks⟩
    . exact ⟨c, Or.inr ⟨front, back, hsplit, hfree⟩, hlinks⟩

theorem linksTo_inheritColumns_iff :
    (inheritColumns parent.columns t).LinksTo table column
      ↔
    parent.LinksTo table column ∨ ∃ c ∈ t.columns, c.LinksTo table column ∧ c.name ∉ parent.names := by
  have hfree : ∀ c : Column, (!parent.columns.any (·.name = c.name)) = true ↔ c.name ∉ parent.names := by
    intro c
    simp [Table.names]
  simp only [Table.LinksTo, inheritColumns, List.mem_append, List.mem_filter, hfree]
  grind

theorem linksTo_of_mem_references {fk : ForeignKey} (h : fk ∈ t.references) : t.LinksTo fk.table fk.column :=
  linksTo_iff_exists_reference.2 ⟨fk, h, rfl, rfl⟩

theorem links_iff {m : LogicalModel} {holder : String} :
    m.Links holder table column ↔ ∃ t ∈ m.table? holder, t.LinksTo table column := Iff.rfl

variable (hparent : d.schema.table? g.parent = some parent) (ht : d.schema.table? child = some t)

include hparent

theorem links_flatten_singleTable_iff (hstrategy : g.strategyIn settings = .singleTable) :
    (flatten settings d g parent key children).schema.Links g.parent table column
      ↔
    g.parent ∉ children ∧ (parent.LinksTo table column
      ∨ ∃ front c back, offeredColumns (children.filterMap d.schema.table?) = front ++ c :: back
        ∧ c.LinksTo table column ∧ c.name ∉ parent.names ++ front.map (·.name)) := by
  rw [links_iff, table?_flatten hparent, hstrategy, ← linksTo_foldInto_iff]
  simp [hparent]

include ht

theorem links_flatten_tablePerSubclass_iff (hstrategy : g.strategyIn settings = .tablePerSubclass)
    (hchild : child ∈ children) :
    (flatten settings d g parent key children).schema.Links child table column
      ↔
    child ≠ g.parent ∧ (parent.LinksTo table column
      ∨ ∃ c ∈ t.columns, c.LinksTo table column ∧ c.name ∉ parent.names) := by
  have hcount : children.count child ≠ 0 := fun hzero => List.count_eq_zero.1 hzero hchild
  rw [links_iff, table?_flatten hparent, hstrategy, ← linksTo_inheritColumns_iff]
  simp [ht, iterate_inheritColumns hcount]

theorem links_flatten_tablePerClass (hstrategy : g.strategyIn settings = .tablePerClass) {fk : ForeignKey}
    (hfk : fk ∈ t.references) :
    (flatten settings d g parent key children).schema.Links child fk.table fk.column := by
  rw [links_iff, table?_flatten hparent, hstrategy, ht]
  exact ⟨_, rfl, linksTo_of_mem_references (references_subset_iterate_referToParent _ hfk)⟩

end Flatten

section Group

variable {settings : Settings} {d : Draft} {g : Inheritance} {parent t : Table} {key c : Column} {child : String}
  {fk : ForeignKey}

theorem filterMap_table?_present : (d.present g).filterMap d.schema.table? = g.children.filterMap d.schema.table? := by
  rw [Draft.present, List.filterMap_filter]
  apply List.filterMap_congr
  intro child _
  split
  . rfl
  . next hnone =>
    rw [LogicalModel.hasTable_iff, ← LogicalModel.table?_eq_none_iff] at hnone
    exact hnone.symm

theorem links_inheritance_iff (hparent : d.schema.table? g.parent = some parent) (hkey : parent.keys.head? = some key)
    (hchild : child ∈ g.children) (ht : d.schema.table? child = some t) (hc : c ∈ t.columns)
    (hfk : c.reference = some fk) :
    let kept := (inheritance settings d g).value.schema.Links (g.holderOf settings child) fk.table fk.column
    (g.strategyIn settings = .tablePerClass → kept)
      ∧ (g.strategyIn settings = .singleTable →
        (kept ↔ g.parent ∉ g.children ∧ (parent.LinksTo fk.table fk.column
          ∨ ∃ front first back, offeredColumns (g.children.filterMap d.schema.table?) = front ++ first :: back
            ∧ first.LinksTo fk.table fk.column ∧ first.name ∉ parent.names ++ front.map (·.name))))
      ∧ (g.strategyIn settings = .tablePerSubclass →
        (kept ↔ child ≠ g.parent ∧ (parent.LinksTo fk.table fk.column
          ∨ ∃ own ∈ t.columns, own.LinksTo fk.table fk.column ∧ own.name ∉ parent.names))) := by
  have hkeyed : d.keyed? g.parent = some (parent, key) := keyed?_eq_some_iff.2 ⟨hparent, hkey⟩
  have hpresent : child ∈ d.present g := by
    apply List.mem_filter.2 ⟨hchild, _⟩
    rw [LogicalModel.hasTable_iff]
    exact LogicalModel.mem_names_of_table? ht
  have hself : g.parent ∈ d.present g ↔ g.parent ∈ g.children := by
    rw [Draft.present, List.mem_filter, LogicalModel.hasTable_iff, and_iff_left_iff_imp]
    exact fun _ => LogicalModel.mem_names_of_table? hparent
  intro kept
  simp only [kept, value_inheritance, hkeyed]
  refine ⟨?_, ?_, ?_⟩
  . intro hstrategy
    rw [Inheritance.holderOf, hstrategy]
    exact links_flatten_tablePerClass hparent ht hstrategy (Table.mem_references.2 ⟨c, hc, hfk⟩)
  . intro hstrategy
    rw [Inheritance.holderOf, hstrategy]
    rw [links_flatten_singleTable_iff hparent hstrategy, hself, filterMap_table?_present]
  . intro hstrategy
    rw [Inheritance.holderOf, hstrategy]
    exact links_flatten_tablePerSubclass_iff hparent ht hstrategy hpresent

def kinds : Inheritance := ⟨"Kinds", "P", ["C"], none⟩

def takenName : ConceptualModel where
  entities := [⟨"P", [⟨"id", true, false⟩, ⟨"id_x", false, false⟩]⟩, ⟨"C", [⟨"note", false, false⟩]⟩,
    ⟨"X", [⟨"id_x", true, false⟩]⟩]
  relations := [⟨"r", [⟨"C", .oneOne⟩, ⟨"X", .zeroMany⟩], []⟩]
  inheritances := [kinds]
  associatives := []

theorem takenName_loses_reference :
    (related takenName).value.schema.table? "C" = some ⟨"C", [.plain "note", .referring "id_x" "X" "id_x"]⟩
      ∧ ∀ strategy ∈ [InheritanceStrategy.singleTable, .tablePerSubclass],
        let settings := { Settings.standard with inheritance := strategy }
        let after := (inheritance settings (related takenName).value kinds).value.schema
        ¬after.Links (kinds.holderOf settings "C") "X" "id_x"
          ∧ (takenName.toLogical settings).value.references = []
          ∧ (takenName.toLogical settings).diagnostics = [] := by
  decide +kernel

def vehicleKinds : Inheritance := ⟨"Kinds", "Vehicle", ["Car", "Truck"], some .singleTable⟩

def vehicles : ConceptualModel where
  entities := [⟨"Vehicle", [⟨"id_v", true, false⟩, ⟨"id_g", false, false⟩]⟩, ⟨"Car", []⟩,
    ⟨"Truck", [⟨"load", false, false⟩]⟩, ⟨"Garage", [⟨"id_g", true, false⟩]⟩, ⟨"Firm", [⟨"id_f", true, false⟩]⟩]
  relations := [⟨"parks", [⟨"Car", .oneOne⟩, ⟨"Garage", .zeroMany⟩], []⟩,
    ⟨"owns", [⟨"Car", .oneOne⟩, ⟨"Firm", .zeroMany⟩], []⟩, ⟨"runs", [⟨"Truck", .oneOne⟩, ⟨"Firm", .zeroMany⟩], []⟩]
  inheritances := [vehicleKinds]
  associatives := []

theorem links_inheritance_iff_vehicles :
    let before := (related vehicles).value
    let after := (inheritance .standard before vehicleKinds).value.schema
    before.schema.table? "Truck" = some ⟨"Truck", [.plain "load", .referring "id_f" "Firm" "id_f"]⟩
      ∧ after.Links "Vehicle" "Firm" "id_f"
      ∧ before.schema.table? "Car"
          = some ⟨"Car", [.referring "id_g" "Garage" "id_g", .referring "id_f" "Firm" "id_f"]⟩
      ∧ ¬after.Links "Vehicle" "Garage" "id_g" := by
  intro before after
  have hparent : before.schema.table? "Vehicle" = some ⟨"Vehicle", [⟨"id_v", true, none⟩, .plain "id_g"]⟩ := by
    decide +kernel
  have htruck : before.schema.table? "Truck"
      = some ⟨"Truck", [.plain "load", .referring "id_f" "Firm" "id_f"]⟩ := by
    decide +kernel
  have hcar : before.schema.table? "Car"
      = some ⟨"Car", [.referring "id_g" "Garage" "id_g", .referring "id_f" "Firm" "id_f"]⟩ := by
    decide +kernel
  have hoffered : offeredColumns (vehicleKinds.children.filterMap before.schema.table?)
      = [.plain discriminator, .referring "id_g" "Garage" "id_g"] ++ .referring "id_f" "Firm" "id_f"
        :: [.plain "load", .referring "id_f" "Firm" "id_f"] := by
    decide +kernel
  obtain ⟨_, hfirm, _⟩ := @links_inheritance_iff .standard before vehicleKinds _ _ _ (.referring "id_f" "Firm" "id_f")
    "Truck" _ hparent rfl (by decide) htruck (by decide) rfl
  obtain ⟨_, hgarage, _⟩ := @links_inheritance_iff .standard before vehicleKinds _ _ _
    (.referring "id_g" "Garage" "id_g") "Car" _ hparent rfl (by decide) hcar (by decide) rfl
  refine ⟨htruck, (hfirm rfl).2 ⟨by decide, ?_⟩, hcar, ?_⟩
  . -- The column of the car comes first, and refers to the same firm.
    exact Or.inr ⟨_, _, _, hoffered, by decide, by decide⟩
  . intro hkept
    have htaken : ∀ c ∈ offeredColumns (vehicleKinds.children.filterMap before.schema.table?),
        c.LinksTo "Garage" "id_g" → c.name = "id_g" := by
      rw [hoffered]
      decide
    obtain ⟨_, hold | ⟨front, first, back, hsplit, hlinks, hfree⟩⟩ := (hgarage rfl).1 hkept
    . revert hold
      decide
    . rw [htaken first (by simp [hsplit]) hlinks] at hfree
      exact hfree (List.mem_append_left _ (by decide))

end Group

end Derivation

end SchemaDesign
