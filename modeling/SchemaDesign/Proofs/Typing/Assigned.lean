import SchemaDesign.Proofs.Typing
import SchemaDesign.Proofs.Typing.Reference

namespace SchemaDesign

open Text Document LogicalModel

variable {settings : Settings} {rules : List TypeRule} {m : LogicalModel} {l next r : LocatedColumn} {fk : ForeignKey}

section Uncounted

def uncounted (dialect : Dialect) (sqlType : String) : String :=
  if sqlType = "SERIAL" then dialect.integerType else sqlType

variable (dialect : Dialect)

theorem uncounted_ne_serial (sqlType : String) : uncounted dialect sqlType ≠ "SERIAL" := by
  unfold uncounted
  split
  . cases dialect <;> decide
  . assumption

theorem uncounted_uncounted (sqlType : String) :
    uncounted dialect (uncounted dialect sqlType) = uncounted dialect sqlType :=
  if_neg (uncounted_ne_serial dialect sqlType)

theorem isSerial_sql (kind : TypeKind) (textLength : Nat) :
    isSerial (kind.sql dialect textLength) = true ↔ kind.sql dialect textLength = "SERIAL" := by
  cases kind with
  | text =>
    have htext : (TypeKind.text.sql dialect textLength).toList
        = 'V' :: ("ARCHAR(" ++ toString textLength ++ ")").toList := by
      simp [TypeKind.sql]
    have hserial : TypeKind.text.sql dialect textLength ≠ "SERIAL" := by
      intro h
      rw [h] at htext
      simp at htext
    rw [isSerial, trim_eq_self (isPhrase_sql .text dialect textLength).trimmed, htext]
    simp [spells, upcase, hserial]
  | integer =>
    simp only [TypeKind.sql]
    cases dialect <;> decide
  | serial | reference | timestamp | date | money | float | boolean | longText | discriminator =>
    simp only [TypeKind.sql]
    decide

theorem plainType_sql (kind : TypeKind) (textLength : Nat) :
    plainType (kind.sql dialect textLength) dialect = uncounted dialect (kind.sql dialect textLength) := by
  simp only [plainType, uncounted, isSerial_sql]
  split
  . next hserial =>
    rw [hserial]
    rfl
  . rfl

end Uncounted

section Columns

theorem name_column (table : String) (c : Column) : (Typing.column settings rules m table c).value.name = c.name :=
  congrArg Column.name (toColumn_column table c)

theorem isKey_column (table : String) (c : Column) : (Typing.column settings rules m table c).value.isKey = c.isKey :=
  congrArg Column.isKey (toColumn_column table c)

theorem reference_column (table : String) (c : Column) :
    (Typing.column settings rules m table c).value.reference = c.reference.map Typing.withActions :=
  congrArg Column.reference (toColumn_column table c)

theorem located_any_isAt (hfk : l.column.reference = some fk) :
    (!m.located.any (·.isAt fk.table fk.column)) = decide (m.IsDangling l) := by
  rw [Bool.eq_iff_iff, decide_eq_true_eq]
  simp [IsDangling, LocatedColumn.isAt, hfk]

variable (hdistinct : m.HasDistinctColumns) (hl : l ∈ m.located)

include hdistinct hl

theorem settledType_eq (hnone : l.column.reference = none) :
    Typing.settledType settings rules m l = Typing.inferType settings rules l.column := by
  have hlast := lastAt?_of_mem hdistinct (fun x hx => (mem_settled.1 hx).1) (mem_settled.2 ⟨hl, hnone⟩)
  rw [Typing.settledType, hlast]

theorem referringType_of_endsAt (hfk : l.column.reference = some fk) (hend : m.EndsAt l r) :
    Typing.referringType settings rules m l fk
      =
    pure (uncounted settings.dialect (Typing.inferType settings rules r.column)) := by
  rw [Typing.referringType, (resolve?_eq_some_iff hdistinct hl hfk).2 hend]
  simp only [pure_bind]
  rw [Typing.inferType, plainType_sql]

theorem referringType_of_goesAstray (hfk : l.column.reference = some fk) (hastray : m.GoesAstray l) :
    Typing.referringType settings rules m l fk
      =
    (do
      Outcome.reportIf (m.IsDangling l) l.table
        (.unknownReference (l.table ++ "." ++ l.column.name) (fk.table ++ "." ++ fk.column))
      pure (uncounted settings.dialect (Typing.inferType settings rules l.column))) := by
  rw [Typing.referringType, (resolve?_eq_none_iff hdistinct hl hfk).2 hastray, located_any_isAt hfk]
  simp only [pure_bind]
  rw [Typing.inferType, plainType_sql]

theorem sqlType_of_settled (hnone : l.column.reference = none) :
    (Typing.column settings rules m l.table l.column).value.sqlType
      =
    Typing.inferType settings rules l.column := by
  rw [← settledType_eq hdistinct hl hnone]
  unfold Typing.column
  rw [hnone]
  rfl

theorem sqlType_of_endsAt (hfk : l.column.reference = some fk) (hend : m.EndsAt l r) :
    (Typing.column settings rules m l.table l.column).value.sqlType
      =
    uncounted settings.dialect (Typing.inferType settings rules r.column) := by
  simp only [Typing.column, hfk, Outcome.value_bind, Outcome.value_pure, referringType_of_endsAt hdistinct hl hfk hend]

theorem sqlType_of_goesAstray (hfk : l.column.reference = some fk) (hastray : m.GoesAstray l) :
    (Typing.column settings rules m l.table l.column).value.sqlType
      =
    uncounted settings.dialect (Typing.inferType settings rules l.column) := by
  simp only [Typing.column, hfk, Outcome.value_bind, Outcome.value_pure,
    referringType_of_goesAstray hdistinct hl hfk hastray]

theorem sqlType_of_refersTo (hend : m.EndsAt l r) (hnext : m.RefersTo l next) :
    (Typing.column settings rules m l.table l.column).value.sqlType
      =
    uncounted settings.dialect (Typing.column settings rules m next.table next.column).value.sqlType := by
  have ⟨_, fk, hfk, _⟩ := hnext
  have hnextEnd := hend.onward hdistinct hnext
  rw [sqlType_of_endsAt hdistinct hl hfk hend]
  cases hreference : next.column.reference with
  | none =>
    obtain ⟨-, rfl⟩ | ⟨other, hother, -⟩ := endsAt_iff.1 hnextEnd
    . rw [sqlType_of_settled hdistinct hnext.1 hreference]
    . exact absurd hother (not_refersTo_of_reference_eq_none hreference)
  | some fk' => rw [sqlType_of_endsAt hdistinct hnext.1 hreference hnextEnd, uncounted_uncounted]

end Columns

section Model

def unknownTarget? (l : LocatedColumn) : Option Diagnostic :=
  l.column.reference.map fun fk =>
    ⟨some l.table, .unknownReference (l.table ++ "." ++ l.column.name) (fk.table ++ "." ++ fk.column)⟩

def PhysicalModel.typeAt? (m : PhysicalModel) (l : LocatedColumn) : Option String :=
  let columns := m.tables.flatMap fun t => t.columns.map (t.name, ·)
  (columns.find? fun (table, c) => table = l.table && c.name = l.column.name).map fun (_, c) => c.sqlType

variable (hdistinct : m.HasDistinctColumns)

include hdistinct

theorem typeAt?_toPhysicalWith (hl : l ∈ m.located) :
    (m.toPhysicalWith settings rules).value.typeAt? l
      =
    some (Typing.column settings rules m l.table l.column).value.sqlType := by
  have hcolumns : ((m.toPhysicalWith settings rules).value.tables.flatMap fun t => t.columns.map (t.name, ·))
      = m.located.map fun l => (l.table, (Typing.column settings rules m l.table l.column).value) := by
    simp only [tables_toPhysicalWith, located, List.flatMap_map, List.map_flatMap, value_table, List.map_map]
    rfl
  have hfind := find?_isAt hdistinct (List.Subset.refl _) hl
  rw [PhysicalModel.typeAt?, hcolumns]
  simp only [LocatedColumn.isAt] at hfind
  simp only [List.find?_map, Function.comp_def, name_column, hfind, Option.map_some]

theorem diagnostics_column (hl : l ∈ m.located) :
    (Typing.column settings rules m l.table l.column).diagnostics
      =
    if m.IsDangling l then (unknownTarget? l).toList else [] := by
  cases hfk : l.column.reference with
  | none =>
    have hnot : ¬m.IsDangling l := by simp [IsDangling, hfk]
    rw [if_neg hnot, Typing.column, hfk]
    rfl
  | some fk =>
    simp only [Typing.column, hfk, Outcome.diagnostics_bind, Outcome.diagnostics_pure, List.append_nil]
    obtain ⟨r, hend⟩ | hastray := m.endsAt_or_goesAstray l
    . have hnot : ¬m.IsDangling l := fun h => hend.not_goesAstray hdistinct (Or.inr ⟨l, .refl, h⟩)
      rw [if_neg hnot, referringType_of_endsAt hdistinct hl hfk hend]
      rfl
    . rw [referringType_of_goesAstray hdistinct hl hfk hastray]
      by_cases hdangling : m.IsDangling l
      . simp [hdangling, unknownTarget?, hfk, Outcome.reportIf, Outcome.reportIn, Outcome.report]
      . simp [hdangling, Outcome.reportIf]

theorem diagnostics_toPhysicalWith :
    (m.toPhysicalWith settings rules).diagnostics = (m.located.filter (m.IsDangling ·)).filterMap unknownTarget? := by
  have hcolumns : (m.toPhysicalWith settings rules).diagnostics
      = m.located.flatMap fun l => (Typing.column settings rules m l.table l.column).diagnostics := by
    simp only [LogicalModel.toPhysicalWith, Typing.table, Outcome.diagnostics_bind, Outcome.diagnostics_pure,
      Outcome.diagnostics_mapM, List.append_nil, located, List.flatMap_assoc, List.flatMap_map]
  rw [hcolumns, List.filterMap_filter, List.filterMap_eq_flatMap_toList]
  apply List.flatMap_congr
  intro l hl
  rw [diagnostics_column hdistinct hl]
  by_cases hdangling : m.IsDangling l
  . simp [hdangling]
  . simp [hdangling]

theorem unknownTarget?_mem_diagnostics (hl : l ∈ m.located) (hfk : l.column.reference = some fk) :
    ⟨some l.table, .unknownReference (l.table ++ "." ++ l.column.name) (fk.table ++ "." ++ fk.column)⟩
      ∈ (m.toPhysicalWith settings rules).diagnostics
      ↔
    m.IsDangling l := by
  rw [diagnostics_toPhysicalWith hdistinct, List.mem_filterMap]
  constructor
  . rintro ⟨other, hother, hreport⟩
    rw [List.mem_filter, decide_eq_true_eq] at hother
    simp only [unknownTarget?, Option.map_eq_some_iff, Diagnostic.mk.injEq, Option.some_inj,
      Issue.unknownReference.injEq] at hreport
    obtain ⟨_, -, htable, hsource, -⟩ := hreport
    rw [htable, String.append_right_inj] at hsource
    rw [← eq_of_place_eq hdistinct hother.1 hl htable hsource]
    exact hother.2
  . intro hdangling
    exact ⟨l, List.mem_filter.2 ⟨hl, decide_eq_true hdangling⟩, by rw [unknownTarget?, hfk, Option.map_some]⟩

end Model

theorem typeAt?_of_reference (m : LogicalModel) (hdistinct : m.HasDistinctColumns) (settings : Settings)
    (rules : List TypeRule) :
    let physical := m.toPhysicalWith settings rules
    ∀ l ∈ m.located, ∀ fk ∈ l.column.reference,
      (∀ r, m.EndsAt l r →
        physical.value.typeAt? l = some (uncounted settings.dialect (Typing.inferType settings rules r.column))
        ∧ ∃ next, m.RefersTo l next
          ∧ physical.value.typeAt? l = (physical.value.typeAt? next).map (uncounted settings.dialect))
      ∧ (m.GoesAstray l →
        physical.value.typeAt? l = some (uncounted settings.dialect (Typing.inferType settings rules l.column)))
      ∧ (m.GoesAstray l ↔ ∀ r, ¬m.EndsAt l r)
      ∧ (⟨some l.table, .unknownReference (l.table ++ "." ++ l.column.name) (fk.table ++ "." ++ fk.column)⟩
          ∈ physical.diagnostics
          ↔
        m.IsDangling l) := by
  intro physical l hl fk hfk
  refine ⟨?_, ?_, ?_, unknownTarget?_mem_diagnostics hdistinct hl hfk⟩
  . intro r hend
    refine ⟨by rw [typeAt?_toPhysicalWith hdistinct hl, sqlType_of_endsAt hdistinct hl hfk hend], ?_⟩
    obtain ⟨hnone, -⟩ | ⟨next, hnext, -⟩ := endsAt_iff.1 hend
    . simp [hnone] at hfk
    . refine ⟨next, hnext, ?_⟩
      rw [typeAt?_toPhysicalWith hdistinct hl, typeAt?_toPhysicalWith hdistinct hnext.1, Option.map_some,
        sqlType_of_refersTo hdistinct hl hend hnext]
  . intro hastray
    rw [typeAt?_toPhysicalWith hdistinct hl, sqlType_of_goesAstray hdistinct hl hfk hastray]
  . constructor
    . intro hastray r hend
      exact hend.not_goesAstray hdistinct hastray
    . intro hnone
      obtain ⟨r, hend⟩ | hastray := m.endsAt_or_goesAstray l
      . exact absurd hend (hnone r)
      . exact hastray

def windingChains : LogicalModel :=
  ⟨[⟨"A", [.keyReferring "a" "B" "b"]⟩, ⟨"B", [.keyReferring "b" "C" "id"]⟩, ⟨"C", [⟨"id", true, none⟩]⟩,
    ⟨"D", [.referring "d" "E" "e"]⟩, ⟨"E", [.referring "e" "F" "f"]⟩, ⟨"F", [.referring "f" "E" "e"]⟩,
    ⟨"G", [.referring "g" "H" "h"]⟩, ⟨"H", [.referring "h" "GHOST" "id"]⟩]⟩

theorem typeAt?_of_reference_windingChains :
    let settings : Settings := { Settings.standard with dialect := .postgresql }
    let physical := windingChains.toPhysicalWith settings TypeRule.standard
    windingChains.HasDistinctColumns
    ∧ windingChains.EndsAt ⟨"A", .keyReferring "a" "B" "b"⟩ ⟨"C", ⟨"id", true, none⟩⟩
    ∧ physical.value.typeAt? ⟨"A", .keyReferring "a" "B" "b"⟩ = some "INTEGER"
    ∧ windingChains.GoesAstray ⟨"D", .referring "d" "E" "e"⟩
    ∧ physical.value.typeAt? ⟨"D", .referring "d" "E" "e"⟩ = some "VARCHAR(255)"
    ∧ ⟨some "G", .unknownReference "G.g" "H.h"⟩ ∉ physical.diagnostics
    ∧ ⟨some "H", .unknownReference "H.h" "GHOST.id"⟩ ∈ physical.diagnostics := by
  intro settings physical
  have hdistinct : windingChains.HasDistinctColumns := by decide
  have htypes := typeAt?_of_reference windingChains hdistinct settings TypeRule.standard
  have hend : windingChains.EndsAt ⟨"A", .keyReferring "a" "B" "b"⟩ ⟨"C", ⟨"id", true, none⟩⟩ :=
    endsAt_iff.2 (.inr ⟨⟨"B", .keyReferring "b" "C" "id"⟩, by decide, .single (by decide), rfl⟩)
  have hcircle : Relation.TransGen windingChains.RefersTo ⟨"E", .referring "e" "F" "f"⟩ ⟨"E", .referring "e" "F" "f"⟩ :=
    .tail (b := ⟨"F", .referring "f" "E" "e"⟩) (.single (by decide)) (by decide)
  have hastray : windingChains.GoesAstray ⟨"D", .referring "d" "E" "e"⟩ :=
    .inl ⟨⟨"E", .referring "e" "F" "f"⟩, .single (by decide), hcircle⟩
  obtain ⟨hends, -⟩ := htypes ⟨"A", .keyReferring "a" "B" "b"⟩ (by decide) _ rfl
  obtain ⟨-, hcircles, -⟩ := htypes ⟨"D", .referring "d" "E" "e"⟩ (by decide) _ rfl
  obtain ⟨-, -, -, hinside⟩ := htypes ⟨"G", .referring "g" "H" "h"⟩ (by decide) _ rfl
  obtain ⟨-, -, -, hleaving⟩ := htypes ⟨"H", .referring "h" "GHOST" "id"⟩ (by decide) _ rfl
  refine ⟨hdistinct, hend, ?_, hastray, ?_, ?_, ?_⟩
  . rw [(hends _ hend).1]
    decide +kernel
  . rw [hcircles hastray]
    decide +kernel
  . exact fun h => absurd (hinside.1 h) (by decide)
  . exact hleaving.2 (by decide)

end SchemaDesign
