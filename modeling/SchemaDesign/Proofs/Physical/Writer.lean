import SchemaDesign.Physical.Writer
import SchemaDesign.Proofs.Logical.Writer

namespace SchemaDesign

open Text Document

namespace Constraint

def rank : Constraint → Nat
  | notNull => 0
  | unique => 1
  | check _ => 2

def flag : Constraint → Flag
  | notNull => .notNull
  | unique => .unique
  | check expression => .check expression

def Writable : Constraint → Prop
  | check expression => IsExpression expression.toList
  | _ => True

instance (c : Constraint) : Decidable c.Writable :=
  match c with
  | check expression => inferInstanceAs (Decidable (IsExpression expression.toList))
  | notNull => isTrue trivial
  | unique => isTrue trivial

theorem writable_flag {c : Constraint} {column : String} (h : c.Writable) : c.flag.Writable column := by
  cases c with
  | check expression => exact h
  | notNull => trivial
  | unique => trivial

theorem toList_write (c : Constraint) : c.write.toList = bracketed c.flag.text := by
  cases c with
  | notNull => decide
  | unique => decide
  | check expression =>
    rw [flag, Flag.text_check]
    simp [write, bracketed]

theorem arrange_eq_self {cs : List Constraint} (h : cs.Pairwise (·.rank ≤ ·.rank)) : arrange cs = cs := by
  induction cs with
  | nil => rfl
  | cons c cs ih =>
    rw [List.pairwise_cons] at h
    have hcs := ih h.2
    -- What ranks lower than the first constraint does not come after it.
    have hlater (d : Constraint) (hd : d.rank < c.rank) : cs.filter (· = d) = [] := by
      rw [List.filter_eq_nil_iff]
      intro d' hd'
      have := h.1 d' hd'
      simp only [decide_eq_true_eq]
      rintro rfl
      omega
    unfold arrange at hcs ⊢
    cases c with
    | notNull => simpa [isCheck] using hcs
    | unique =>
      rw [hlater notNull (by decide)] at hcs
      simpa [isCheck, hlater notNull (by decide)] using hcs
    | check expression =>
      have hnotNull := hlater notNull (by simp [rank])
      have hunique := hlater unique (by simp [rank])
      rw [hnotNull, hunique] at hcs
      rw [List.filter_cons_of_neg (by simp), List.filter_cons_of_neg (by simp), hnotNull, hunique,
        List.filter_cons_of_pos rfl]
      exact congrArg (check expression :: ·) hcs

end Constraint

structure PhysicalColumn.Writable (c : PhysicalColumn) : Prop where
  name : isIdentifier c.name.toList = true
  sqlType : IsPhrase c.sqlType.toList
  reference : ∀ fk ∈ c.reference, fk.Writable c.name
  constraints : ∀ constraint ∈ c.constraints, constraint.Writable
  distinct : c.constraints.Nodup
  ordered : c.constraints.Pairwise (·.rank ≤ ·.rank)

structure PhysicalTable.Writable (t : PhysicalTable) : Prop where
  name : IsBlockName t.name
  columns : ∀ c ∈ t.columns, c.Writable
  distinct : (t.columns.map (·.name)).Nodup

def PhysicalModel.Writable (m : PhysicalModel) : Prop :=
  ∀ t ∈ m.tables, t.Writable

instance (c : PhysicalColumn) : Decidable c.Writable :=
  decidable_of_iff
    (isIdentifier c.name.toList = true ∧ IsPhrase c.sqlType.toList ∧ (∀ fk ∈ c.reference, fk.Writable c.name) ∧
      (∀ constraint ∈ c.constraints, constraint.Writable) ∧ c.constraints.Nodup ∧
      c.constraints.Pairwise (·.rank ≤ ·.rank))
    ⟨fun h => ⟨h.1, h.2.1, h.2.2.1, h.2.2.2.1, h.2.2.2.2.1, h.2.2.2.2.2⟩, fun h => ⟨h.1, h.2, h.3, h.4, h.5, h.6⟩⟩

instance (t : PhysicalTable) : Decidable t.Writable :=
  decidable_of_iff (IsBlockName t.name ∧ (∀ c ∈ t.columns, c.Writable) ∧ (t.columns.map (·.name)).Nodup)
    ⟨fun h => ⟨h.1, h.2.1, h.2.2⟩, fun h => ⟨h.1, h.2, h.3⟩⟩

instance (m : PhysicalModel) : Decidable m.Writable :=
  inferInstanceAs (Decidable (∀ t ∈ m.tables, t.Writable))

def PhysicalColumn.flags (c : PhysicalColumn) : List Flag :=
  keyFlags c.isKey c.reference ++ c.constraints.map Constraint.flag

def PhysicalColumn.parts (c : PhysicalColumn) : Parts :=
  ⟨c.name.toList ++ ' ' :: c.sqlType.toList, c.flags.map Flag.text⟩

theorem PhysicalColumn.write_eq (c : PhysicalColumn) : c.write = String.ofList (c.parts.line ++ ['\n']) := by
  apply String.toList_injective
  simp [write, parts, flags, Parts.line, Parts.text, toList_writeKeys, String.toList_join, Constraint.toList_write,
    List.flatMap_map]

theorem PhysicalColumn.writable_flags {c : PhysicalColumn} (h : c.Writable) : ∀ f ∈ c.flags, f.Writable c.name := by
  intro f hf
  rw [flags, List.mem_append] at hf
  cases hf with
  | inl hkey => exact writable_keyFlags h.reference f hkey
  | inr hconstraint =>
    obtain ⟨constraint, hmem, rfl⟩ := List.mem_map.1 hconstraint
    exact constraint.writable_flag (h.constraints constraint hmem)

theorem PhysicalColumn.writable_parts {c : PhysicalColumn} (h : c.Writable) : c.parts.Writable := by
  constructor
  . exact (isPhrase_of_isIdentifier h.name).join h.sqlType
  . intro d hd
    rw [parts, List.head?_append, List.head?_eq_some_head (isIdentifier_iff.1 h.name).1, Option.some_or] at hd
    apply (isIdentifier_iff.1 h.name).2 d
    rw [Option.mem_def, Option.some.injEq] at hd
    rw [← hd]
    exact List.head_mem _
  . intro flag hflag
    obtain ⟨f, hf, rfl⟩ := List.mem_map.1 hflag
    exact isPhrase_text (writable_flags h f hf)

def PhysicalTable.listing (t : PhysicalTable) : Listing :=
  ⟨t.name, t.columns.map PhysicalColumn.parts⟩

theorem PhysicalTable.write_eq (t : PhysicalTable) : t.write = t.listing.write := by
  rw [write, Listing.write, listing, List.map_map]
  congr 1
  apply List.map_congr_left
  intro c _
  exact c.write_eq

theorem PhysicalTable.writable_listing {t : PhysicalTable} (h : t.Writable) : t.listing.Writable := by
  constructor
  . exact h.name
  . intro p hp
    obtain ⟨c, hc, rfl⟩ := List.mem_map.1 hp
    exact c.writable_parts (h.columns c hc)

end SchemaDesign
