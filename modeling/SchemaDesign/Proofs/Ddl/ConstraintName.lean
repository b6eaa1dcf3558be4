import SchemaDesign.Proofs.Ddl.Definition
import SchemaDesign.Proofs.Ddl.ForwardReference
import SchemaDesign.Proofs.Physical.OneLine
import SchemaDesign.Proofs.Pipeline
import SchemaDesign.Proofs.Validation.Physical

/-!
This module contains which foreign keys of a script share a name. The underscore that joins table and column may stand
in either of them, so that names that differ can be joined to the same text.
-/

namespace List

variable {α : Type} {front front' back back' : List α} {a : α}

theorem append_cons_eq_append_cons_iff :
    front ++ a :: back = front' ++ a :: back'
      ↔
    (front = front' ∧ back = back')
      ∨ (∃ part, front' = front ++ a :: part ∧ back = part ++ a :: back')
      ∨ ∃ part, front = front' ++ a :: part ∧ back' = part ++ a :: back := by
  rw [append_eq_append_iff]
  simp only [cons_eq_append_iff]
  grind

end List

namespace SchemaDesign

open Text LogicalModel

section Names

variable {table column table' column' : String}

theorem toList_constraintName (table column : String) :
    (Dialect.constraintName table column).toList
      =
    "fk_".toList ++ ((lowercaseName table).toList ++ '_' :: (lowercaseName column).toList) := by
  have hfront : lowercase "fk".toList ++ ['_'] = "fk_".toList := by decide +kernel
  have hjoined : ("fk_" ++ table ++ "_" ++ column).toList
      = "fk".toList ++ '_' :: (table.toList ++ '_' :: column.toList) := by
    have hparts : "fk_".toList = "fk".toList ++ ['_'] := by decide
    have hline : "_".toList = ['_'] := by decide
    simp only [String.toList_append, hparts, hline, List.append_assoc, List.cons_append, List.nil_append]
  rw [Dialect.constraintName, hjoined, lowercase_append_underscore, lowercase_append_underscore, ← hfront]
  simp [lowercaseName]

end Names

namespace LocatedColumn

/--
The name of the other table ends, behind an underscore, with a part that the name of this column begins with.
-/
def MovesPart (l l' : LocatedColumn) : Prop :=
  ∃ part, lowercaseName l'.table = lowercaseName l.table ++ "_" ++ part
    ∧ lowercaseName l.column.name = part ++ "_" ++ lowercaseName l'.column.name

/--
Up to letter case the names of tables and columns are the same, or they are the same but for a part that stands at the
end of a table in one of them and at the beginning of a column in the other one.
-/
def NamedAlike (l l' : LocatedColumn) : Prop :=
  (lowercaseName l.table = lowercaseName l'.table ∧ lowercaseName l.column.name = lowercaseName l'.column.name)
    ∨ l.MovesPart l' ∨ l'.MovesPart l

def constraintName (l : LocatedColumn) : String :=
  Dialect.constraintName l.table l.column.name

theorem movesPart_iff {l l' : LocatedColumn} :
    l.MovesPart l'
      ↔
    ∃ part, (lowercaseName l'.table).toList = (lowercaseName l.table).toList ++ '_' :: part
      ∧ (lowercaseName l.column.name).toList = part ++ '_' :: (lowercaseName l'.column.name).toList := by
  constructor
  . rintro ⟨part, htable, hcolumn⟩
    exact ⟨part.toList, by simp [htable], by simp [hcolumn]⟩
  . rintro ⟨part, htable, hcolumn⟩
    refine ⟨String.ofList part, ?_, ?_⟩
    . rw [← String.toList_inj, htable]
      simp
    . rw [← String.toList_inj, hcolumn]
      simp

theorem constraintName_eq_iff {l l' : LocatedColumn} : l.constraintName = l'.constraintName ↔ l.NamedAlike l' := by
  rw [constraintName, constraintName, ← String.toList_inj, toList_constraintName, toList_constraintName,
    List.append_cancel_left_eq, List.append_cons_eq_append_cons_iff, String.toList_inj, String.toList_inj, NamedAlike,
    movesPart_iff, movesPart_iff]

end LocatedColumn

section Script

variable {text : String} {report : Outcome Unit}

def Dialect.foreignKeyNames (d : Dialect) (sql : String) : List String :=
  (d.statements sql).flatMap (·.foreignKeyNames d)

def LogicalModel.referring (m : LogicalModel) : List LocatedColumn :=
  m.located.filter (·.column.reference.isSome)

def LogicalModel.constraintNames (m : LogicalModel) : List String :=
  m.referring.map (·.constraintName)

-- What the check of a physical document has found to be in order.
structure Checked (text : String) : Prop where
  read : (PhysicalModel.read text).hasErrors = false
  checked : (PhysicalModel.read text).value.check.hasErrors = false

theorem checked_iff : Checked text ↔ ∃ report, checkPhysical text = .ok report := by
  have hdiscard : (discard (Pipeline.readPhysical text) : Pipeline Unit)
      = Pipeline.readPhysical text >>= fun _ => pure () := by
    rw [discard, map_const, Function.comp_apply, map_eq_pure_bind]
  rw [checkPhysical, hdiscard]
  constructor
  . intro h
    have hyields : Pipeline.Yields (Pipeline.readPhysical text >>= fun _ => pure ()) () :=
      (Pipeline.yields_checked h.read h.checked).bind (Pipeline.yields_pure ())
    obtain ⟨report, hreport, _⟩ := hyields.run
    exact ⟨report, hreport⟩
  . rintro ⟨report, h⟩
    obtain ⟨m, known, hread, _⟩ := Pipeline.bind_eq_ok (Pipeline.run_eq_ok h)
    obtain ⟨-, hclean, hcheck⟩ := Pipeline.checked_eq_ok hread
    exact ⟨hclean, hcheck⟩

theorem Checked.exists_script (h : Checked text) (settings : Settings) :
    ∃ script, physicalToSql text settings = .ok script
      ∧ script.value = (PhysicalModel.read text).value.sql settings.dialect := by
  have hyields : Pipeline.Yields (do return (← Pipeline.readPhysical text).sql settings.dialect)
      ((PhysicalModel.read text).value.sql settings.dialect) :=
    (Pipeline.yields_checked h.read h.checked).bind (Pipeline.yields_pure _)
  exact hyields.run

theorem Checked.consistent (h : Checked text) : (PhysicalModel.read text).value.toLogical.Consistent := by
  apply consistent_of_check
  have hboth := h.checked
  rw [PhysicalModel.check, Outcome.hasErrors_eq_false_iff, Outcome.reports_bind] at hboth
  exact Outcome.hasErrors_eq_false_iff.2 hboth.1

theorem nodup_columns_read (text : String) :
    ∀ t ∈ (PhysicalModel.read text).value.tables, (t.columns.map (·.name)).Nodup := by
  apply Document.forall_readTables
  intro b _
  apply Document.nodup_readDistinct

theorem Checked.hasDistinctColumns (h : Checked text) :
    (PhysicalModel.read text).value.toLogical.HasDistinctColumns := by
  apply hasDistinctColumns_of_nodup h.consistent.names
  simp only [PhysicalModel.toLogical, List.forall_mem_map]
  intro t ht
  have hnodup := nodup_columns_read text t ht
  simpa [PhysicalTable.toTable, Table.names, PhysicalColumn.toColumn, Function.comp_def] using hnodup

variable {m : PhysicalModel} {d : Dialect}

theorem perm_foreignKeyNames (hd : d.usesBackticks = true) (hlines : ∀ t ∈ m.tables, t.OneLine) :
    (d.foreignKeyNames (m.sql d)).Perm m.toLogical.constraintNames := by
  have horder := PhysicalModel.perm_dependencyOrder m
  have hread : d.foreignKeyNames (m.sql d)
      = m.dependencyOrder.flatMap fun t =>
        t.columns.filterMap fun c => c.reference.map fun _ => Dialect.constraintName t.name c.name := by
    rw [Dialect.foreignKeyNames, Dialect.statements_sql m fun t ht => hlines t (horder.mem_iff.1 ht), List.flatMap_map]
    apply List.flatMap_congr
    intro t _
    exact Dialect.foreignKeyNames_statement hd t
  have hlocated : m.toLogical.constraintNames
      = m.tables.flatMap fun t =>
        t.columns.filterMap fun c => c.reference.map fun _ => Dialect.constraintName t.name c.name := by
    rw [constraintNames, referring, located, PhysicalModel.toLogical, List.flatMap_map, List.filter_flatMap,
      List.map_flatMap]
    apply List.flatMap_congr
    intro t _
    rw [PhysicalTable.toTable, List.map_map, List.filter_map, List.map_map, ← List.filterMap_eq_map',
      List.filterMap_filter]
    apply List.filterMap_congr
    intro c _
    cases hc : c.reference with
    | none => simp [PhysicalColumn.toColumn, hc]
    | some fk => simp [PhysicalColumn.toColumn, LocatedColumn.constraintName, hc]
  rw [hread, hlocated]
  exact horder.flatMap fun t _ => .refl _

theorem Checked.perm_foreignKeyNames (h : Checked text) {settings : Settings}
    (hd : settings.dialect.usesBackticks = true) :
    ∃ script, physicalToSql text settings = .ok script
      ∧ (settings.dialect.foreignKeyNames script.value).Perm
          ((PhysicalModel.read text).value.toLogical.constraintNames) := by
  obtain ⟨script, hscript, hvalue⟩ := h.exists_script settings
  refine ⟨script, hscript, ?_⟩
  rw [hvalue]
  exact SchemaDesign.perm_foreignKeyNames hd (PhysicalModel.oneLine_read text)

end Script

theorem nodup_foreignKeyNames_iff {text : String} {report : Outcome Unit} (h : checkPhysical text = .ok report)
    {settings : Settings} (hd : settings.dialect.usesBackticks = true) :
    let m := (PhysicalModel.read text).value.toLogical
    ∃ script, physicalToSql text settings = .ok script
      ∧ (settings.dialect.foreignKeyNames script.value).Perm m.constraintNames
      ∧ ((settings.dialect.foreignKeyNames script.value).Nodup
          ↔
        ∀ l ∈ m.referring, ∀ l' ∈ m.referring, l.NamedAlike l' → l = l') := by
  intro m
  have hchecked := checked_iff.2 ⟨report, h⟩
  have hplaces : m.referring.Nodup := (List.Nodup.of_map _ hchecked.hasDistinctColumns).filter _
  obtain ⟨script, hscript, hperm⟩ := hchecked.perm_foreignKeyNames hd
  refine ⟨script, hscript, hperm, ?_⟩
  rw [hperm.nodup_iff, constraintNames, List.nodup_map_iff_inj_on hplaces]
  simp only [LocatedColumn.constraintName_eq_iff]

def ordersText : String :=
  "TABLE Client \x7b id INT [PK] \x7d "
    ++ "TABLE Orders \x7b id INT [PK], client_id INT [FK -> Client.id], clerk INT [FK -> Client.id] \x7d "
    ++ "TABLE Orders_Line \x7b id INT [PK] [FK -> Orders.id] \x7d"

def orders : PhysicalModel :=
  ⟨[⟨"Client", [⟨"id", "INT", true, none, []⟩]⟩,
    ⟨"Orders", [⟨"id", "INT", true, none, []⟩, ⟨"client_id", "INT", false, some (.plain "client_id" "Client" "id"), []⟩,
      ⟨"clerk", "INT", false, some (.plain "clerk" "Client" "id"), []⟩]⟩,
    ⟨"Orders_Line", [⟨"id", "INT", true, some (.plain "id" "Orders" "id"), []⟩]⟩]⟩

theorem read_ordersText : PhysicalModel.read ordersText = pure orders := by
  decide +kernel

theorem nodup_foreignKeyNames_iff_orders :
    let m := (PhysicalModel.read ordersText).value.toLogical
    ∃ report, checkPhysical ordersText = .ok report
      ∧ Settings.standard.dialect.usesBackticks = true
      ∧ m.constraintNames = ["fk_orders_client_id", "fk_orders_clerk", "fk_orders_line_id"]
      ∧ ∃ script, physicalToSql ordersText .standard = .ok script
        ∧ (Dialect.mysql.foreignKeyNames script.value).Perm m.constraintNames
        ∧ (Dialect.mysql.foreignKeyNames script.value).Nodup
        ∧ ∀ l ∈ m.referring, ∀ l' ∈ m.referring, l.NamedAlike l' → l = l' := by
  intro m
  have hm : m = orders.toLogical := congrArg (fun out : Outcome PhysicalModel => out.value.toLogical) read_ordersText
  have hclean : (PhysicalModel.read ordersText).hasErrors = false := by
    rw [read_ordersText]
    rfl
  have hchecked : (PhysicalModel.read ordersText).value.check.hasErrors = false := by
    rw [read_ordersText]
    decide +kernel
  obtain ⟨report, hreport⟩ := checked_iff.1 ⟨hclean, hchecked⟩
  have hbackticks : Settings.standard.dialect.usesBackticks = true := rfl
  obtain ⟨script, hscript, hperm, hiff⟩ := nodup_foreignKeyNames_iff hreport hbackticks
  have hnames : m.constraintNames = ["fk_orders_client_id", "fk_orders_clerk", "fk_orders_line_id"] := by
    rw [hm]
    decide +kernel
  have hnodup : (Dialect.mysql.foreignKeyNames script.value).Nodup := by
    apply hperm.nodup_iff.2
    rw [hnames]
    decide
  exact ⟨report, hreport, rfl, hnames, script, hscript, hperm, hnodup, hiff.1 hnodup⟩

def orderClientsText : String :=
  "TABLE Client \x7b id INT [PK] \x7d "
    ++ "TABLE Orders \x7b id INT [PK], client_id INT [FK -> Client.id] \x7d "
    ++ "TABLE Orders_Client \x7b id INT [PK] [FK -> Orders.id] \x7d"

def orderClients : PhysicalModel :=
  ⟨[⟨"Client", [⟨"id", "INT", true, none, []⟩]⟩,
    ⟨"Orders", [⟨"id", "INT", true, none, []⟩,
      ⟨"client_id", "INT", false, some (.plain "client_id" "Client" "id"), []⟩]⟩,
    ⟨"Orders_Client", [⟨"id", "INT", true, some (.plain "id" "Orders" "id"), []⟩]⟩]⟩

theorem read_orderClientsText : PhysicalModel.read orderClientsText = pure orderClients := by
  decide +kernel

theorem constraintName_repeated :
    (∃ report, checkPhysical orderClientsText = .ok report)
    ∧ ∃ script, physicalToSql orderClientsText .standard = .ok script
      ∧ Dialect.mysql.foreignKeyNames script.value = ["fk_orders_client_id", "fk_orders_client_id"]
      ∧ ¬(Dialect.mysql.foreignKeyNames script.value).Nodup := by
  have hchecked : Checked orderClientsText := by
    constructor
    . rw [read_orderClientsText]
      rfl
    . rw [read_orderClientsText]
      decide +kernel
  have hnames : orderClients.toLogical.constraintNames = ["fk_orders_client_id", "fk_orders_client_id"] := by
    decide +kernel
  have hbackticks : Settings.standard.dialect.usesBackticks = true := rfl
  obtain ⟨script, hscript, hperm⟩ := hchecked.perm_foreignKeyNames hbackticks
  rw [read_orderClientsText, Outcome.value_pure, hnames] at hperm
  have hscriptNames : Dialect.mysql.foreignKeyNames script.value = ["fk_orders_client_id", "fk_orders_client_id"] :=
    List.perm_replicate (n := 2).1 hperm
  refine ⟨checked_iff.1 hchecked, script, hscript, hscriptNames, ?_⟩
  rw [hscriptNames]
  decide

end SchemaDesign
