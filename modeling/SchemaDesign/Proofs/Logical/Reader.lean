import SchemaDesign.Logical.Reader
import SchemaDesign.Proofs.Document.Declaration
import SchemaDesign.Proofs.Logical.Writer

namespace SchemaDesign

open Text Document

namespace Column

variable {c : Column} {owner : String}

theorem foldl_keyFlags (name : String) (isKey : Bool) (reference : Option ForeignKey) :
    (keyFlags isKey reference).foldl applyFlag (.plain name) = ⟨name, isKey, reference⟩ := by
  cases isKey <;> cases reference <;> rfl

theorem read_parts (h : c.Writable) : read owner c.parts.text = pure (some c) := by
  have hflags : readFlags c.name owner applyFlag (.plain c.name) ((keyFlags c.isKey c.reference).map Flag.text)
      = pure c := by
    rw [readFlags_text (writable_keyFlags h.reference), foldl_keyFlags]
  rw [read, readParts_text (writable_parts h)]
  simp only [parts, h.name, if_true, String.ofList_toList, hflags]
  rfl

theorem writable_applyFlag {f : Flag} (h : c.Writable) (hf : ∀ fk, f = .foreignKey fk → fk.Writable c.name) :
    (c.applyFlag f).Writable := by
  cases f with
  | foreignKey fk =>
    refine ⟨h.name, ?_⟩
    intro fk' hfk'
    cases hfk'
    exact hf fk rfl
  | primaryKey => exact ⟨h.name, h.reference⟩
  | derived | notNull | unique | check | other => exact h

theorem name_applyFlag (c : Column) (f : Flag) : (c.applyFlag f).name = c.name := by
  cases f <;> rfl

theorem writable_read (item : List Char) : ∀ c ∈ (read owner item).value, c.Writable := by
  intro c hc
  unfold read at hc
  split at hc
  . next head flags _ =>
    split at hc
    . next hhead =>
      simp only [Outcome.value_bind, Outcome.value_pure, Option.mem_some_iff] at hc
      rw [← hc]
      -- No flag touches the name, so a reference that is read behind the name can be written behind the column.
      refine (readFlags_invariant (fun c : Column => c.name = String.ofList head ∧ c.Writable) ?_ ?_).2
      . refine ⟨rfl, ?_, by simp [plain]⟩
        rwa [plain, String.toList_ofList]
      . intro c f flag _ hf hc
        refine ⟨by rw [name_applyFlag, hc.1], ?_⟩
        apply writable_applyFlag hc.2
        rintro fk rfl
        rw [hc.1]
        exact writable_of_readFlag hf
    . contradiction
  . contradiction

end Column

namespace Table

theorem read_listing {t : Table} (h : t.Writable) : read t.listing.block = pure t := by
  rw [read, listing, readDistinct_listing (writable_listing h) _ h.distinct]
  . rfl
  . intro c hc
    exact Column.read_parts (h.columns c hc)

theorem writable_read {b : Block} (h : IsBlockName b.name) : (read b).value.Writable := by
  constructor
  . exact h
  . apply forall_readDistinct
    intro item _
    exact Column.writable_read item
  . exact nodup_readDistinct _ _ _ _

end Table

namespace LogicalModel

theorem read_write {m : LogicalModel} (h : m.Writable) : read m.write = pure m := by
  rw [read, write, readTables_write Table.write_eq]
  . rfl
  . intro t ht
    exact Table.writable_listing (h t ht)
  . intro t ht
    exact Table.read_listing (h t ht)

theorem writable_read (text : String) : (read text).value.Writable := by
  apply forall_readTables
  intro b hb
  exact Table.writable_read hb

theorem read_write_eq :
    (∀ text : String, read (read text).value.write = ⟨(read text).value, []⟩)
      ∧
    ∀ m : LogicalModel, m.Writable → read m.write = ⟨m, []⟩ := by
  constructor
  . intro text
    exact read_write (writable_read text)
  . intro m hm
    exact read_write hm

theorem read_write_eq_selfReference :
    let m : LogicalModel := ⟨[
      ⟨"line-item", [
        .keyReferring "order" "Order" "id",
        ⟨"previous", false, some ⟨"previous", "Order", "id", some .setNull, some .noAction⟩⟩]⟩,
      ⟨"Order", [⟨"id", true, none⟩, .plain "größe"]⟩]⟩
    m.Writable ∧ read m.write = ⟨m, []⟩ := by
  intro m
  have hm : m.Writable := by decide +kernel
  exact ⟨hm, read_write_eq.2 m hm⟩

end LogicalModel

end SchemaDesign
