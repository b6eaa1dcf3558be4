import SchemaDesign.Proofs.Logical.Dependence
import SchemaDesign.Typing.Reference

/-!
This module contains the chains of references from column to column. Where no two columns of a model have the same place
a chain goes on in one way only: it comes to a column without a reference, runs in a circle, or leaves the model. The
search for the end of a chain finds it in the first case, and nothing in the other ones.
-/

open Relation

namespace SchemaDesign.LogicalModel

def HasDistinctColumns (m : LogicalModel) : Prop :=
  (m.located.map fun l => (l.table, l.column.name)).Nodup

instance (m : LogicalModel) : Decidable m.HasDistinctColumns :=
  inferInstanceAs (Decidable (List.Nodup _))

def RefersTo (m : LogicalModel) (l next : LocatedColumn) : Prop :=
  next ∈ m.located ∧ ∃ fk ∈ l.column.reference, next.table = fk.table ∧ next.column.name = fk.column

instance (m : LogicalModel) (l next : LocatedColumn) : Decidable (m.RefersTo l next) :=
  inferInstanceAs (Decidable (_ ∧ ∃ fk ∈ l.column.reference, _ ∧ _))

def IsDangling (m : LogicalModel) (l : LocatedColumn) : Prop :=
  ∃ fk ∈ l.column.reference, ∀ next ∈ m.located, ¬(next.table = fk.table ∧ next.column.name = fk.column)

instance (m : LogicalModel) (l : LocatedColumn) : Decidable (m.IsDangling l) :=
  inferInstanceAs (Decidable (∃ fk ∈ l.column.reference, ∀ next ∈ m.located, _))

def EndsAt (m : LogicalModel) (l r : LocatedColumn) : Prop :=
  ReflTransGen m.RefersTo l r ∧ r.column.reference = none

/--
The chain of references from a column runs in a circle, or it leaves the model.
-/
def GoesAstray (m : LogicalModel) (l : LocatedColumn) : Prop :=
  LeadsToCycle m.RefersTo l ∨ ∃ last, ReflTransGen m.RefersTo l last ∧ m.IsDangling last

variable {m : LogicalModel} {l next r : LocatedColumn} {fk : ForeignKey}

theorem exists_refersTo_or_isDangling (hfk : l.column.reference = some fk) :
    (∃ next, m.RefersTo l next) ∨ m.IsDangling l := by
  by_cases h : ∃ next ∈ m.located, next.table = fk.table ∧ next.column.name = fk.column
  . obtain ⟨next, hnext, hplace⟩ := h
    exact Or.inl ⟨next, hnext, fk, hfk, hplace⟩
  . push Not at h
    exact Or.inr ⟨fk, hfk, fun next hnext ⟨htable, hname⟩ => h next hnext htable hname⟩

theorem RefersTo.place (h : m.RefersTo l next) (hfk : l.column.reference = some fk) :
    next.table = fk.table ∧ next.column.name = fk.column := by
  obtain ⟨-, fk', hfk', hplace⟩ := h
  rwa [Option.mem_unique hfk' hfk] at hplace

theorem RefersTo.not_isDangling (h : m.RefersTo l next) : ¬m.IsDangling l := by
  rintro ⟨fk, hfk, hnone⟩
  exact hnone next h.1 (h.place hfk)

theorem not_refersTo_of_reference_eq_none (h : l.column.reference = none) : ¬m.RefersTo l next := by
  rintro ⟨-, fk, hfk, -⟩
  simp [h] at hfk

theorem endsAt_iff :
    m.EndsAt l r ↔ (l.column.reference = none ∧ r = l) ∨ ∃ next, m.RefersTo l next ∧ m.EndsAt next r := by
  constructor
  . rintro ⟨hchain, hr⟩
    cases ReflTransGen.cases_head hchain with
    | inl heq =>
      subst heq
      exact Or.inl ⟨hr, rfl⟩
    | inr hstep =>
      obtain ⟨next, hnext, hrest⟩ := hstep
      exact Or.inr ⟨next, hnext, hrest, hr⟩
  . rintro (⟨hl, rfl⟩ | ⟨next, hnext, hrest, hr⟩)
    . exact ⟨.refl, hl⟩
    . exact ⟨hrest.head hnext, hr⟩

theorem GoesAstray.head (hnext : m.RefersTo l next) (h : m.GoesAstray next) : m.GoesAstray l := by
  obtain hcycle | ⟨last, hchain, hdangling⟩ := h
  . exact Or.inl (leadsToCycle_iff.2 ⟨next, hnext, hcycle⟩)
  . exact Or.inr ⟨last, hchain.head hnext, hdangling⟩

theorem endsAt_or_goesAstray (m : LogicalModel) (l : LocatedColumn) : (∃ r, m.EndsAt l r) ∨ m.GoesAstray l := by
  by_cases hcycle : LeadsToCycle m.RefersTo l
  . exact Or.inr (Or.inl hcycle)
  . have hbelow := chainsBelow_of_not_leadsToCycle (r := m.RefersTo) (fun _ _ h => h.1) hcycle
    generalize m.located.length + 1 = n at hbelow
    clear hcycle
    -- The induction is on a bound for the length of chains, which there is away from cycles.
    induction n generalizing l with
    | zero => exact absurd hbelow not_chainsBelow_zero
    | succ n ih =>
      cases hfk : l.column.reference with
      | none => exact Or.inl ⟨l, .refl, hfk⟩
      | some fk =>
        obtain ⟨next, hnext⟩ | hdangling := exists_refersTo_or_isDangling hfk
        . obtain ⟨r, hend⟩ | hastray := ih next (chainsBelow_succ_iff.1 hbelow next hnext)
          . exact Or.inl ⟨r, endsAt_iff.2 (Or.inr ⟨next, hnext, hend⟩)⟩
          . exact Or.inr (hastray.head hnext)
        . exact Or.inr (Or.inr ⟨l, .refl, hdangling⟩)

section Distinct

variable (hdistinct : m.HasDistinctColumns)

include hdistinct

theorem eq_of_place_eq (hl : l ∈ m.located) (hnext : next ∈ m.located) (htable : l.table = next.table)
    (hname : l.column.name = next.column.name) : l = next :=
  List.inj_on_of_nodup_map hdistinct hl hnext (Prod.ext htable hname)

theorem RefersTo.unique {other : LocatedColumn} (h : m.RefersTo l next) (h' : m.RefersTo l other) : next = other := by
  obtain ⟨hnext, fk, hfk, htable, hname⟩ := h
  obtain ⟨htable', hname'⟩ := h'.place hfk
  exact eq_of_place_eq hdistinct hnext h'.1 (htable.trans htable'.symm) (hname.trans hname'.symm)

theorem EndsAt.onward (h : m.EndsAt l r) (hnext : m.RefersTo l next) : m.EndsAt next r := by
  obtain ⟨hl, -⟩ | ⟨other, hother, hend⟩ := endsAt_iff.1 h
  . exact absurd hnext (not_refersTo_of_reference_eq_none hl)
  . rwa [hnext.unique hdistinct hother]

theorem EndsAt.not_leadsToCycle (h : m.EndsAt l r) : ¬LeadsToCycle m.RefersTo l := by
  obtain ⟨hchain, hr⟩ := h
  induction hchain using ReflTransGen.head_induction_on with
  | refl =>
    rw [leadsToCycle_iff]
    rintro ⟨next, hnext, -⟩
    exact not_refersTo_of_reference_eq_none hr hnext
  | head hnext _ ih =>
    rw [leadsToCycle_iff]
    rintro ⟨other, hother, hcycle⟩
    rw [← hnext.unique hdistinct hother] at hcycle
    exact ih hcycle

theorem EndsAt.not_goesAstray (h : m.EndsAt l r) : ¬m.GoesAstray l := by
  rintro (hcycle | ⟨last, hchain, hdangling⟩)
  . exact h.not_leadsToCycle hdistinct hcycle
  . induction hchain using ReflTransGen.head_induction_on with
    | refl =>
      obtain ⟨hnone, -⟩ | ⟨next, hnext, -⟩ := endsAt_iff.1 h
      . obtain ⟨fk, hfk, -⟩ := hdangling
        simp [hnone] at hfk
      . exact hnext.not_isDangling hdangling
    | head hnext _ ih => exact ih (h.onward hdistinct hnext)

end Distinct

section Search

variable {columns unvisited : List LocatedColumn} {table name : String}

theorem isAt_iff : l.isAt table name = true ↔ l.table = table ∧ l.column.name = name := by
  simp [LocatedColumn.isAt]

theorem lastAt?_eq_some (h : lastAt? columns table name = some l) :
    l ∈ columns ∧ l.table = table ∧ l.column.name = name := by
  have hplace := List.find?_some h
  exact ⟨List.mem_reverse.1 (List.mem_of_find?_eq_some h), isAt_iff.1 hplace⟩

theorem lastAt?_eq_none_iff :
    lastAt? columns table name = none ↔ ∀ l ∈ columns, ¬(l.table = table ∧ l.column.name = name) := by
  simp [lastAt?, isAt_iff]

theorem mem_settled : l ∈ resolve?.settled m ↔ l ∈ m.located ∧ l.column.reference = none := by
  simp [resolve?.settled]

theorem mem_referring : l ∈ resolve?.referring m ↔ l ∈ m.located ∧ l.column.reference.isSome = true := by
  simp [resolve?.referring]

theorem mem_elsewhere :
    l ∈ elsewhere columns table name ↔ l ∈ columns ∧ ¬(l.table = table ∧ l.column.name = name) := by
  simp [elsewhere, LocatedColumn.isAt, imp_iff_not_or]

theorem endsAt_of_resolve?_go (hunvisited : unvisited ⊆ m.located) (hfk : l.column.reference = some fk)
    (h : resolve?.go m unvisited fk = some r) : m.EndsAt l r := by
  fun_induction resolve?.go m unvisited fk generalizing l with
  | case1 unvisited fk found hfound =>
    obtain ⟨hmem, hplace⟩ := lastAt?_eq_some hfound
    obtain ⟨hlocated, hnone⟩ := mem_settled.1 hmem
    rw [Option.some_inj] at h
    rw [← h]
    exact endsAt_iff.2 (Or.inr ⟨found, ⟨hlocated, fk, hfk, hplace⟩, .refl, hnone⟩)
  | case2 => contradiction
  | case3 => contradiction
  | case4 unvisited fk _ next hnext fk' hfk' ih =>
    obtain ⟨hmem, hplace⟩ := lastAt?_eq_some hnext
    have hend := ih (fun x hx => hunvisited (mem_elsewhere.1 hx).1) hfk' h
    exact endsAt_iff.2 (Or.inr ⟨next, ⟨hunvisited hmem, fk, hfk, hplace⟩, hend⟩)

variable (hdistinct : m.HasDistinctColumns)

include hdistinct

theorem find?_isAt (hcolumns : columns ⊆ m.located) (hl : l ∈ columns) :
    columns.find? (·.isAt l.table l.column.name) = some l := by
  cases hfind : columns.find? (·.isAt l.table l.column.name) with
  | none =>
    rw [List.find?_eq_none] at hfind
    exact absurd (isAt_iff.2 ⟨rfl, rfl⟩) (hfind l hl)
  | some other =>
    have hplace := List.find?_some hfind
    obtain ⟨htable, hname⟩ := isAt_iff.1 hplace
    have hother := hcolumns (List.mem_of_find?_eq_some hfind)
    rw [eq_of_place_eq hdistinct hother (hcolumns hl) htable hname]

theorem lastAt?_of_mem (hcolumns : columns ⊆ m.located) (hl : l ∈ columns) :
    lastAt? columns l.table l.column.name = some l :=
  find?_isAt hdistinct (List.reverse_subset.2 hcolumns) (List.mem_reverse.2 hl)

theorem resolve?_go_of_settled (hnext : m.RefersTo l next) (hfk : l.column.reference = some fk)
    (hnone : next.column.reference = none) : resolve?.go m unvisited fk = some next := by
  obtain ⟨htable, hname⟩ := hnext.place hfk
  have hfound := lastAt?_of_mem hdistinct (fun x hx => (mem_settled.1 hx).1) (mem_settled.2 ⟨hnext.1, hnone⟩)
  rw [htable, hname] at hfound
  rw [resolve?.go, hfound]

theorem resolve?_go_of_referring {fk' : ForeignKey} (hnext : m.RefersTo l next) (hfk : l.column.reference = some fk)
    (hfk' : next.column.reference = some fk') (hunvisited : unvisited ⊆ m.located) (hmem : next ∈ unvisited) :
    resolve?.go m unvisited fk = resolve?.go m (elsewhere unvisited next.table next.column.name) fk' := by
  obtain ⟨htable, hname⟩ := hnext.place hfk
  have hnone : lastAt? (resolve?.settled m) fk.table fk.column = none := by
    rw [lastAt?_eq_none_iff]
    rintro x hx ⟨hxtable, hxname⟩
    obtain ⟨hxlocated, hxnone⟩ := mem_settled.1 hx
    rw [eq_of_place_eq hdistinct hxlocated hnext.1 (hxtable.trans htable.symm) (hxname.trans hname.symm)] at hxnone
    rw [hfk'] at hxnone
    contradiction
  have hfound := lastAt?_of_mem hdistinct hunvisited hmem
  rw [htable, hname] at hfound ⊢
  rw [resolve?.go, hnone]
  dsimp only
  split
  . next hlast =>
    rw [hfound] at hlast
    contradiction
  . next other hlast =>
    rw [hfound, Option.some_inj] at hlast
    rw [← hlast, hfk']

theorem resolve?_go_of_endsAt (hunvisited : unvisited ⊆ m.located) (hfk : l.column.reference = some fk)
    (hahead : ∀ x, TransGen m.RefersTo l x → x.column.reference.isSome = true → x ∈ unvisited)
    (h : m.EndsAt l r) : resolve?.go m unvisited fk = some r := by
  obtain ⟨hchain, hr⟩ := h
  -- What lies ahead on a chain with an end has not been visited, since the chain does not come back.
  induction hchain using ReflTransGen.head_induction_on generalizing unvisited fk with
  | refl => simp [hr] at hfk
  | @head l next hnext hrest ih =>
    have hend : m.EndsAt next r := ⟨hrest, hr⟩
    cases hreference : next.column.reference with
    | none =>
      obtain ⟨-, heq⟩ | ⟨other, hother, -⟩ := endsAt_iff.1 hend
      . rw [resolve?_go_of_settled hdistinct hnext hfk hreference, heq]
      . exact absurd hother (not_refersTo_of_reference_eq_none hreference)
    | some fk' =>
      have hmem := hahead next (.single hnext) (by simp [hreference])
      rw [resolve?_go_of_referring hdistinct hnext hfk hreference hunvisited hmem]
      apply ih (fun x hx => hunvisited (mem_elsewhere.1 hx).1) hreference
      intro x hx hxreference
      have hunvisitedx := hahead x (hx.head hnext) hxreference
      refine mem_elsewhere.2 ⟨hunvisitedx, ?_⟩
      rintro ⟨htable, hname⟩
      rw [eq_of_place_eq hdistinct (hunvisited hunvisitedx) hnext.1 htable hname] at hx
      exact hend.not_leadsToCycle hdistinct ⟨next, .refl, hx⟩

theorem resolve?_eq_some_iff (hl : l ∈ m.located) (hfk : l.column.reference = some fk) :
    m.resolve? l fk = some r ↔ m.EndsAt l r := by
  have hunvisited : elsewhere (resolve?.referring m) l.table l.column.name ⊆ m.located :=
    fun x hx => (mem_referring.1 (mem_elsewhere.1 hx).1).1
  constructor
  . exact endsAt_of_resolve?_go hunvisited hfk
  . intro h
    apply resolve?_go_of_endsAt hdistinct hunvisited hfk _ h
    intro x hx hreference
    obtain ⟨y, -, hlast⟩ := TransGen.tail'_iff.1 hx
    refine mem_elsewhere.2 ⟨mem_referring.2 ⟨hlast.1, hreference⟩, ?_⟩
    rintro ⟨htable, hname⟩
    rw [eq_of_place_eq hdistinct hlast.1 hl htable hname] at hx
    exact h.not_leadsToCycle hdistinct ⟨l, .refl, hx⟩

theorem resolve?_eq_none_iff (hl : l ∈ m.located) (hfk : l.column.reference = some fk) :
    m.resolve? l fk = none ↔ m.GoesAstray l := by
  rw [Option.eq_none_iff_forall_ne_some]
  simp only [ne_eq, resolve?_eq_some_iff hdistinct hl hfk]
  constructor
  . intro h
    obtain ⟨r, hend⟩ | hastray := m.endsAt_or_goesAstray l
    . exact absurd hend (h r)
    . exact hastray
  . intro h r hend
    exact hend.not_goesAstray hdistinct h

end Search

end SchemaDesign.LogicalModel
