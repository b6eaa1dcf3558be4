import SchemaDesign.Physical.Reader
import SchemaDesign.Proofs.Document.Declaration
import SchemaDesign.Proofs.Physical.Writer

namespace SchemaDesign

open Text Document

namespace PhysicalColumn

variable {c : PhysicalColumn} {owner : String}

theorem foldl_constraints (c : PhysicalColumn) {cs : List Constraint} (h : (c.constraints ++ cs).Nodup) :
    (cs.map Constraint.flag).foldl applyFlag c = { c with constraints := c.constraints ++ cs } := by
  induction cs generalizing c with
  | nil => simp
  | cons constraint cs ih =>
    have hnew : constraint ∉ c.constraints := by
      rw [List.nodup_append] at h
      intro hmem
      exact h.2.2 _ hmem _ List.mem_cons_self rfl
    have hadd : c.applyFlag constraint.flag = { c with constraints := c.constraints ++ [constraint] } := by
      cases constraint <;> simp [Constraint.flag, applyFlag, addConstraint, addNew, hnew]
    rw [List.map_cons, List.foldl_cons, hadd, ih]
    . simp
    . simpa using h

theorem foldl_flags (h : c.Writable) :
    c.flags.foldl applyFlag ⟨c.name, c.sqlType, false, none, []⟩ = c := by
  have hkeys : (keyFlags c.isKey c.reference).foldl applyFlag ⟨c.name, c.sqlType, false, none, []⟩
      = ⟨c.name, c.sqlType, c.isKey, c.reference, []⟩ := by
    cases c.isKey <;> cases c.reference <;> rfl
  rw [flags, List.foldl_append, hkeys, foldl_constraints]
  . rfl
  . exact h.distinct

theorem read_parts (h : c.Writable) : read owner c.parts.text = pure (some c) := by
  have hflags : readFlags c.name owner applyFlag ⟨c.name, c.sqlType, false, none, []⟩ (c.flags.map Flag.text)
      = pure c := by
    rw [readFlags_text (writable_flags h), foldl_flags h]
  have hcut : cut isBlank (c.name.toList ++ ' ' :: c.sqlType.toList) = some (c.name.toList, c.sqlType.toList) :=
    cut_append_cons (isWord_of_isIdentifier h.name).2 (by decide)
  have htype : c.sqlType.toList.isEmpty = false := by simpa using h.sqlType.nonempty
  rw [read, readParts_text (writable_parts h), parts]
  simp only [hcut, Option.getD_some, h.name, trim_eq_self h.sqlType.trimmed, htype, Bool.not_true, Bool.false_eq_true,
    if_false, String.ofList_toList, hflags, pure_bind, Constraint.arrange_eq_self h.ordered]

end PhysicalColumn

namespace PhysicalTable

theorem read_listing {t : PhysicalTable} (h : t.Writable) : read t.listing.block = pure t := by
  rw [read, listing, readDistinct_listing (writable_listing h) _ h.distinct]
  . rfl
  . intro c hc
    exact PhysicalColumn.read_parts (h.columns c hc)

end PhysicalTable

namespace PhysicalModel

theorem read_write {m : PhysicalModel} (h : m.Writable) : read m.write = pure m := by
  rw [read, write, readTables_write PhysicalTable.write_eq]
  . rfl
  . intro t ht
    exact PhysicalTable.writable_listing (h t ht)
  . intro t ht
    exact PhysicalTable.read_listing (h t ht)

theorem read_write_lossless (m : PhysicalModel) (h : m.Writable) :
    (read m.write).value = m ∧ (read m.write).diagnostics = [] := by
  rw [read_write h]
  exact ⟨rfl, rfl⟩

theorem read_write_lossless_nested :
    let m : PhysicalModel := ⟨[
      ⟨"line-item", [
        ⟨"id", "BIGINT UNSIGNED", true, none, [.notNull]⟩,
        ⟨"order", "INT", false, some ⟨"order", "Order", "id", some .setNull, some .noAction⟩, []⟩,
        ⟨"price", "DECIMAL(10,2)", false, none,
          [.notNull, .unique, .check "price > 0", .check "f(price, (2 + 1)) IN (1, 2) -- # x"]⟩]⟩,
      ⟨"Order", [⟨"id", "SERIAL", true, none, []⟩]⟩]⟩
    m.Writable ∧ (read m.write).value = m ∧ (read m.write).diagnostics = [] := by
  intro m
  have hm : m.Writable := by decide +kernel
  exact ⟨hm, read_write_lossless m hm⟩

end PhysicalModel

end SchemaDesign
