import SchemaDesign.Logical.Writer
import SchemaDesign.Proofs.Document.Flag
import SchemaDesign.Proofs.Document.Listing

namespace SchemaDesign

open Text Document

section Keys

theorem toList_clause_delete (action : Option ReferentialAction) :
    (ForeignKey.write.clause " ON DELETE " action).toList
      =
    (ForeignKey.clause "DELETE" action).flatMap (' ' :: ·) := by
  rcases action with _ | action
  . rfl
  . cases action <;> decide

theorem toList_clause_update (action : Option ReferentialAction) :
    (ForeignKey.write.clause " ON UPDATE " action).toList
      =
    (ForeignKey.clause "UPDATE" action).flatMap (' ' :: ·) := by
  rcases action with _ | action
  . rfl
  . cases action <;> decide

theorem ForeignKey.toList_write (fk : ForeignKey) : fk.write.toList = bracketed (Flag.foreignKey fk).text := by
  have htext : (Flag.foreignKey fk).text = "FK -> ".toList ++ (fk.target ++ fk.clauses.flatMap (' ' :: ·)) := by
    rw [Flag.text_foreignKey, unwords_cons_cons, unwords_cons_cons, unwords_cons]
    simp
  rw [htext, target, clauses, List.flatMap_append, ← toList_clause_delete, ← toList_clause_update, write]
  simp [bracketed]

def keyFlags (isKey : Bool) (reference : Option ForeignKey) : List Flag :=
  (if isKey then [.primaryKey] else []) ++ reference.toList.map .foreignKey

theorem toList_writeKeys (isKey : Bool) (reference : Option ForeignKey) :
    (writeKeys isKey reference).toList = ((keyFlags isKey reference).map Flag.text).flatMap bracketed := by
  have hkey : (if isKey then " [PK]" else "").toList
      = ((if isKey then [Flag.primaryKey] else []).map Flag.text).flatMap bracketed := by
    cases isKey with
    | true => decide
    | false => rfl
  rw [keyFlags, List.map_append, List.flatMap_append, ← hkey]
  cases reference with
  | none => simp [writeKeys]
  | some fk => simp [writeKeys, fk.toList_write]

theorem writable_keyFlags {name : String} {isKey : Bool} {reference : Option ForeignKey}
    (h : ∀ fk ∈ reference, fk.Writable name) : ∀ f ∈ keyFlags isKey reference, f.Writable name := by
  intro f hf
  rw [keyFlags, List.mem_append] at hf
  cases hf with
  | inl hkey =>
    split at hkey
    . rw [List.mem_singleton.1 hkey]
      trivial
    . contradiction
  | inr href =>
    obtain ⟨fk, hfk, rfl⟩ := List.mem_map.1 href
    exact h fk (Option.mem_toList.1 hfk)

end Keys

section Writable

structure Column.Writable (c : Column) : Prop where
  name : isIdentifier c.name.toList = true
  reference : ∀ fk ∈ c.reference, fk.Writable c.name

structure Table.Writable (t : Table) : Prop where
  name : IsBlockName t.name
  columns : ∀ c ∈ t.columns, c.Writable
  distinct : (t.columns.map (·.name)).Nodup

def LogicalModel.Writable (m : LogicalModel) : Prop :=
  ∀ t ∈ m.tables, t.Writable

instance (c : Column) : Decidable c.Writable :=
  decidable_of_iff (isIdentifier c.name.toList = true ∧ ∀ fk ∈ c.reference, fk.Writable c.name)
    ⟨fun h => ⟨h.1, h.2⟩, fun h => ⟨h.1, h.2⟩⟩

instance (t : Table) : Decidable t.Writable :=
  decidable_of_iff (IsBlockName t.name ∧ (∀ c ∈ t.columns, c.Writable) ∧ (t.columns.map (·.name)).Nodup)
    ⟨fun h => ⟨h.1, h.2.1, h.2.2⟩, fun h => ⟨h.1, h.2, h.3⟩⟩

instance (m : LogicalModel) : Decidable m.Writable :=
  inferInstanceAs (Decidable (∀ t ∈ m.tables, t.Writable))

def Column.parts (c : Column) : Parts :=
  ⟨c.name.toList, (keyFlags c.isKey c.reference).map Flag.text⟩

theorem Column.write_eq (c : Column) : c.write = String.ofList (c.parts.line ++ ['\n']) := by
  apply String.toList_injective
  simp [write, parts, Parts.line, Parts.text, toList_writeKeys]

theorem Column.writable_parts {c : Column} (h : c.Writable) : c.parts.Writable := by
  constructor
  . exact isPhrase_of_isIdentifier h.name
  . intro d hd
    exact (isIdentifier_iff.1 h.name).2 d (List.mem_of_mem_head? hd)
  . intro flag hflag
    obtain ⟨f, hf, rfl⟩ := List.mem_map.1 hflag
    exact isPhrase_text (writable_keyFlags h.reference f hf)

def Table.listing (t : Table) : Listing :=
  ⟨t.name, t.columns.map Column.parts⟩

theorem Table.write_eq (t : Table) : t.write = t.listing.write := by
  rw [write, Listing.write, listing, List.map_map]
  congr 1
  apply List.map_congr_left
  intro c _
  exact c.write_eq

theorem Table.writable_listing {t : Table} (h : t.Writable) : t.listing.Writable := by
  constructor
  . exact h.name
  . intro p hp
    obtain ⟨c, hc, rfl⟩ := List.mem_map.1 hp
    exact Column.writable_parts (h.columns c hc)

end Writable

end SchemaDesign
