import Mathlib.Data.List.Nodup
import SchemaDesign.Proofs.Logical.Table

namespace SchemaDesign.LogicalModel

variable {m m' : LogicalModel} {base : List String} {p : String → Bool}

theorem filterMap_find? {ts : List Table} (hsub : (ts.map (·.name)).Sublist base) (hbase : base.Nodup) :
    base.filterMap (fun name => ts.find? (·.name = name)) = ts := by
  induction base generalizing ts with
  | nil => simpa using hsub
  | cons name base ih =>
    rw [List.nodup_cons] at hbase
    rw [List.filterMap_cons]
    cases List.sublist_cons_iff.1 hsub with
    | inl hskip =>
      have hnone : ts.find? (·.name = name) = none := by
        rw [List.find?_eq_none]
        intro t ht heq
        apply hbase.1
        rw [← of_decide_eq_true heq]
        exact hskip.subset (List.mem_map_of_mem ht)
      rw [hnone]
      exact ih hskip hbase.2
    | inr htake =>
      obtain ⟨names, hnames, hrest⟩ := htake
      obtain ⟨t, ts, rfl, hname, rfl⟩ := List.map_eq_cons_iff.1 hnames
      have hfirst : (t :: ts).find? (·.name = name) = some t := by simp [hname]
      -- The first table has the first name, and is not found under any other one.
      have hother : base.filterMap (fun other => (t :: ts).find? (·.name = other))
          = base.filterMap fun other => ts.find? (·.name = other) := by
        apply List.filterMap_congr
        intro other hmem
        have hne : t.name ≠ other := by
          rw [hname]
          rintro rfl
          exact hbase.1 hmem
        simp [hne]
      rw [hfirst, hother, ih hrest hbase.2]

theorem filter_filterMap_table? (m : LogicalModel) (p : String → Bool) (base : List String) :
    (base.filterMap m.table?).filter (fun t => p t.name) = (base.filter p).filterMap m.table? := by
  rw [List.filter_filterMap, List.filterMap_filter]
  apply List.filterMap_congr
  intro name _
  cases hname : m.table? name with
  | none => simp
  | some t => simp [name_of_table? hname, Option.filter]

theorem filter_tables_eq (hbase : base.Nodup) (h : m.names.Sublist base) (h' : m'.names.Sublist base)
    (htable : ∀ name, p name = true → m.table? name = m'.table? name) :
    m.tables.filter (fun t => p t.name) = m'.tables.filter fun t => p t.name := by
  have hm : base.filterMap m.table? = m.tables := filterMap_find? h hbase
  have hm' : base.filterMap m'.table? = m'.tables := filterMap_find? h' hbase
  rw [← hm, ← hm', filter_filterMap_table?, filter_filterMap_table?]
  apply List.filterMap_congr
  intro name hname
  exact htable name (List.mem_filter.1 hname).2

theorem eq_of_table?_eq (hbase : base.Nodup) (h : m.names.Sublist base) (h' : m'.names.Sublist base)
    (htable : ∀ name, m.table? name = m'.table? name) : m = m' := by
  have htables := filter_tables_eq (p := fun _ => true) hbase h h' fun name _ => htable name
  rw [List.filter_true, List.filter_true] at htables
  exact congrArg LogicalModel.mk htables

end SchemaDesign.LogicalModel
