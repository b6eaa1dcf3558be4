import SchemaDesign.Physical.Reader
import SchemaDesign.Proofs.Distinct
import SchemaDesign.Proofs.Document.Declaration
import SchemaDesign.Proofs.Document.FlagGroup

/-!
This module contains that the flags of a physical column may stand in any order and in any groups. Only references and
checks are told apart by their order: of several references the last one counts, and checks are kept as they stand.
-/

namespace SchemaDesign

open Text Document

namespace Document

section Flags

variable {α : Type} {apply : α → Flag → α} {column owner : String}

def meaning? (column : String) (flag : List Char) : Option Flag :=
  (readFlag column flag).result.toOption

theorem value_readFlags (declared : α) (flags : List (List Char)) :
    (readFlags column owner apply declared flags).value = (flags.filterMap (meaning? column)).foldl apply declared := by
  unfold readFlags
  induction flags generalizing declared with
  | nil => rfl
  | cons flag flags ih =>
    rw [List.foldlM_cons, Outcome.value_bind, ih, List.filterMap_cons, readFlags.step, meaning?]
    cases (readFlag column flag).result with
    | ok f => rfl
    | error issue => rfl

theorem diagnostics_step (declared declared' : α) (flag : List Char) :
    (readFlags.step column owner apply declared flag).diagnostics
      =
    (readFlags.step column owner apply declared' flag).diagnostics := by
  rw [readFlags.step, readFlags.step]
  cases (readFlag column flag).result with
  | ok f => rfl
  | error issue => rfl

theorem diagnostics_readFlags (declared : α) (flags : List (List Char)) :
    (readFlags column owner apply declared flags).diagnostics
      =
    flags.flatMap fun flag => (readFlags.step column owner apply declared flag).diagnostics := by
  unfold readFlags
  suffices h : ∀ d, (flags.foldlM (readFlags.step column owner apply) d).diagnostics
      = flags.flatMap fun flag => (readFlags.step column owner apply declared flag).diagnostics from h declared
  induction flags with
  | nil => intro d; rfl
  | cons flag flags ih =>
    intro d
    rw [List.foldlM_cons, Outcome.diagnostics_bind, ih, List.flatMap_cons, diagnostics_step d declared]

end Flags

namespace Flag

def reference? : Flag → Option ForeignKey
  | foreignKey reference => some reference
  | _ => none

def constraint? : Flag → Option Constraint
  | notNull => some .notNull
  | unique => some .unique
  | check expression => some (.check expression)
  | _ => none

end Flag

def isReference (column : String) (flag : List Char) : Bool :=
  ((meaning? column flag).bind Flag.reference?).isSome

def isCheck (column : String) (flag : List Char) : Bool :=
  (((meaning? column flag).bind Flag.constraint?).filter Constraint.isCheck).isSome

end Document

namespace PhysicalColumn

theorem foldl_applyFlag (c : PhysicalColumn) (fs : List Flag) :
    fs.foldl applyFlag c
      =
    ⟨c.name, c.sqlType, c.isKey || fs.contains .primaryKey, (fs.filterMap Flag.reference?).getLast?.or c.reference,
      addAllNew c.constraints (fs.filterMap Flag.constraint?)⟩ := by
  induction fs generalizing c with
  | nil => simp [addAllNew]
  | cons f fs ih =>
    rw [List.foldl_cons, ih, getLast?_filterMap_cons]
    cases f <;> simp [applyFlag, List.filterMap_cons, Flag.reference?, Flag.constraint?, addConstraint, addAllNew]

end PhysicalColumn

section Order

variable {column : String} {flags flags' : List (List Char)}

/--
The same flags in another order, in which the references stay as they were among themselves, and so do the checks.
-/
structure Reordered (column : String) (flags flags' : List (List Char)) : Prop where
  perm : flags.Perm flags'
  references : flags.filter (isReference column) = flags'.filter (isReference column)
  checks : flags.filter (isCheck column) = flags'.filter (isCheck column)

instance (column : String) (flags flags' : List (List Char)) : Decidable (Reordered column flags flags') :=
  decidable_of_iff
    (flags.Perm flags' ∧ flags.filter (isReference column) = flags'.filter (isReference column)
      ∧ flags.filter (isCheck column) = flags'.filter (isCheck column))
    ⟨fun h => ⟨h.1, h.2.1, h.2.2⟩, fun h => ⟨h.1, h.2, h.3⟩⟩

theorem filterMap_filter_isSome {α β : Type} (f : α → Option β) (as : List α) :
    (as.filter fun a => (f a).isSome).filterMap f = as.filterMap f := by
  rw [List.filterMap_filter]
  apply List.filterMap_congr
  intro a _
  cases f a with
  | none => rfl
  | some b => rfl

theorem Reordered.references_eq (h : Reordered column flags flags') :
    (flags.filterMap (meaning? column)).filterMap Flag.reference?
      =
    (flags'.filterMap (meaning? column)).filterMap Flag.reference? := by
  have hsame := congrArg (List.filterMap fun flag => (meaning? column flag).bind Flag.reference?) h.references
  unfold isReference at hsame
  rwa [filterMap_filter_isSome, filterMap_filter_isSome, ← List.filterMap_filterMap, ← List.filterMap_filterMap]
    at hsame

theorem Reordered.checks_eq (h : Reordered column flags flags') :
    ((flags.filterMap (meaning? column)).filterMap Flag.constraint?).filter Constraint.isCheck
      =
    ((flags'.filterMap (meaning? column)).filterMap Flag.constraint?).filter Constraint.isCheck := by
  have hsame := congrArg
    (List.filterMap fun flag => ((meaning? column flag).bind Flag.constraint?).filter Constraint.isCheck) h.checks
  unfold isCheck at hsame
  rw [filterMap_filter_isSome, filterMap_filter_isSome] at hsame
  simpa only [List.filterMap_filterMap, List.filter_filterMap] using hsame

theorem Constraint.arrange_distinct {cs cs' : List Constraint} (h : cs.Perm cs')
    (hchecks : cs.filter isCheck = cs'.filter isCheck) : arrange (distinct cs) = arrange (distinct cs') := by
  have hsame (c : Constraint) : cs.filter (· = c) = cs'.filter (· = c) := by
    rw [List.filter_eq, List.filter_eq, h.count_eq]
  simp only [arrange, filter_distinct, hsame, hchecks]

end Order

structure IsTypeText (cs : List Char) : Prop where
  nonempty : cs ≠ []
  trimmed : Trimmed cs
  unbracketed : ∀ c ∈ cs, c ∉ ['[', ']']
  balanced : balanced 0 cs = true

instance (cs : List Char) : Decidable (IsTypeText cs) :=
  decidable_of_iff (cs ≠ [] ∧ Trimmed cs ∧ (∀ c ∈ cs, c ∉ ['[', ']']) ∧ balanced 0 cs = true)
    ⟨fun h => ⟨h.1, h.2.1, h.2.2.1, h.2.2.2⟩, fun h => ⟨h.1, h.2, h.3, h.4⟩⟩

namespace PhysicalColumn

variable {name sqlType : List Char} {gs gs' : List FlagGroup} {owner : String}

def itemText (name sqlType : List Char) (gs : List FlagGroup) : List Char :=
  (name ++ ' ' :: sqlType) ++ gs.flatMap FlagGroup.text

def flagged (name sqlType : String) (flags : List (List Char)) : PhysicalColumn :=
  let c := (flags.filterMap (meaning? name)).foldl applyFlag ⟨name, sqlType, false, none, []⟩
  { c with constraints := Constraint.arrange c.constraints }

theorem flagged_congr {name sqlType : String} {flags flags' : List (List Char)} (h : Reordered name flags flags') :
    flagged name sqlType flags = flagged name sqlType flags' := by
  have hmeanings := h.perm.filterMap (meaning? name)
  have hconstraints := Constraint.arrange_distinct (hmeanings.filterMap Flag.constraint?) h.checks_eq
  rw [distinct, distinct] at hconstraints
  simp only [flagged, foldl_applyFlag, h.references_eq, hconstraints, hmeanings.contains_eq]

theorem matched_head (hname : isIdentifier name = true) (htype : IsTypeText sqlType) :
    Matched 0 (name ++ ' ' :: sqlType) := by
  have hplain : ∀ c ∈ name ++ [' '], c ∉ ['(', ')', '[', ']'] := by
    intro c hc
    rw [List.mem_append, List.mem_singleton] at hc
    rcases hc with hc | rfl
    . have hword := notMem_separating_of_isWordChar ((isIdentifier_iff.1 hname).2 c hc)
      simp only [separating, framing, List.mem_append, List.mem_cons, List.not_mem_nil, or_false, not_or] at hword ⊢
      simp [hword]
    . decide
  have hbalanced := (matched_of_plain hplain).balanced_append 0 sqlType
  rw [List.append_assoc, List.singleton_append] at hbalanced
  apply matched_of_balanced
  . intro c hc
    rw [List.mem_append, List.mem_cons] at hc
    rcases hc with hc | rfl | hc
    . have hword := hplain c (List.mem_append_left _ hc)
      simp only [List.mem_cons, List.not_mem_nil, or_false, not_or] at hword ⊢
      simp [hword]
    . decide
    . exact htype.unbracketed c hc
  . rw [hbalanced]
    exact htype.balanced

theorem read_itemText (owner : String) (hname : isIdentifier name = true) (htype : IsTypeText sqlType)
    (h : ∀ g ∈ gs, g.Writable) :
    (read owner (itemText name sqlType gs)).value
        = some (flagged (String.ofList name) (String.ofList sqlType) (gs.flatMap FlagGroup.flags))
      ∧ (read owner (itemText name sqlType gs)).diagnostics
        = (readFlags (String.ofList name) owner applyFlag ⟨String.ofList name, String.ofList sqlType, false, none, []⟩
            (gs.flatMap FlagGroup.flags)).diagnostics := by
  have hhead : Trimmed (name ++ ' ' :: sqlType) := by
    change Trimmed (name ++ ([' '] ++ sqlType))
    have hword := isWord_of_isIdentifier hname
    exact (trimmed_of_forall hword.2).append_append htype.trimmed hword.1 htype.nonempty
  have hcut : cut isBlank (name ++ ' ' :: sqlType) = some (name, sqlType) :=
    cut_append_cons (isWord_of_isIdentifier hname).2 (by decide)
  have hnonempty : sqlType.isEmpty = false := by simpa using htype.nonempty
  rw [read, itemText, readParts_texts hhead (matched_head hname htype) h]
  simp only [hcut, Option.getD_some, hname, trim_eq_self htype.trimmed, hnonempty, Bool.not_true, Bool.false_eq_true,
    if_false, Outcome.value_bind, Outcome.diagnostics_bind, Outcome.value_pure, Outcome.diagnostics_pure,
    List.append_nil, value_readFlags, and_true]
  rfl

theorem read_reordered (hname : isIdentifier name = true) (htype : IsTypeText sqlType) (h : ∀ g ∈ gs, g.Writable)
    (h' : ∀ g ∈ gs', g.Writable)
    (horder : Reordered (String.ofList name) (gs.flatMap FlagGroup.flags) (gs'.flatMap FlagGroup.flags)) :
    ∃ c : PhysicalColumn, c.name = String.ofList name ∧ c.sqlType = String.ofList sqlType
      ∧ (read owner (itemText name sqlType gs)).value = some c
      ∧ (read owner (itemText name sqlType gs')).value = some c
      ∧ (read owner (itemText name sqlType gs)).diagnostics.Perm
          (read owner (itemText name sqlType gs')).diagnostics := by
  obtain ⟨hvalue, hdiagnostics⟩ := read_itemText owner hname htype h
  obtain ⟨hvalue', hdiagnostics'⟩ := read_itemText owner hname htype h'
  refine ⟨_, ?_, ?_, hvalue, ?_, ?_⟩
  . simp only [flagged, foldl_applyFlag]
  . simp only [flagged, foldl_applyFlag]
  . rw [hvalue', flagged_congr horder]
  . rw [hdiagnostics, hdiagnostics', diagnostics_readFlags, diagnostics_readFlags]
    exact horder.perm.flatMap_right _

theorem read_reordered_price :
    let stretch (flag : String) : Stretch := ⟨[' '], some flag.toList, [], by decide⟩
    let name := "price".toList
    let sqlType := "DECIMAL(10, 2) UNSIGNED".toList
    let gs : List FlagGroup := [
      ⟨[' '], stretch "not null", [stretch "FK -> Cost.id", stretch "CHECK(price > (0))"]⟩,
      ⟨[], stretch "KEY(a, [b])", []⟩,
      ⟨[' '], stretch "UNIQUE", [stretch "FK nowhere", stretch "CHECK (price IN (1, 2))", stretch "PK"]⟩,
      ⟨[' '], stretch "FK -> Price.id ON DELETE EXPLODE", [⟨[' '], none, [], by decide⟩, stretch "not null"]⟩]
    let gs' : List FlagGroup := [
      ⟨[], stretch "FK nowhere", [stretch "UNIQUE"]⟩, ⟨[], stretch "CHECK(price > (0))", []⟩,
      ⟨[], stretch "PK", []⟩, ⟨[], stretch "FK -> Cost.id", []⟩, ⟨[], stretch "CHECK (price IN (1, 2))", []⟩,
      ⟨[], stretch "not null", []⟩, ⟨[], stretch "FK -> Price.id ON DELETE EXPLODE", []⟩,
      ⟨[], stretch "not null", [stretch "KEY(a, [b])"]⟩]
    isIdentifier name = true ∧ IsTypeText sqlType ∧ (∀ g ∈ gs, g.Writable) ∧ (∀ g ∈ gs', g.Writable)
      ∧ Reordered "price" (gs.flatMap FlagGroup.flags) (gs'.flatMap FlagGroup.flags)
      ∧ ∃ c : PhysicalColumn, c.name = "price" ∧ c.sqlType = "DECIMAL(10, 2) UNSIGNED"
          ∧ (read "T" (itemText name sqlType gs)).value = some c
          ∧ (read "T" (itemText name sqlType gs')).value = some c
          ∧ (read "T" (itemText name sqlType gs)).diagnostics.Perm
              (read "T" (itemText name sqlType gs')).diagnostics := by
  intro stretch name sqlType gs gs'
  have hname : isIdentifier name = true := by decide +kernel
  have htype : IsTypeText sqlType := by decide +kernel
  have hgs : ∀ g ∈ gs, g.Writable := by decide +kernel
  have hgs' : ∀ g ∈ gs', g.Writable := by decide +kernel
  have horder : Reordered "price" (gs.flatMap FlagGroup.flags) (gs'.flatMap FlagGroup.flags) := by decide +kernel
  exact ⟨hname, htype, hgs, hgs', horder, read_reordered hname htype hgs hgs' horder⟩

end PhysicalColumn

end SchemaDesign
