import SchemaDesign.Proofs.Conceptual.KeyName

/-!
This module contains the way on which the key of an entity is searched: from an entity to the parent in the first group
that has it as a child, over entities without a key. The search gives the key at the end of this way, and it comes to an
end however the groups are linked.
-/

namespace SchemaDesign.ConceptualModel

def Keyless (m : ConceptualModel) (name : String) : Prop :=
  ∃ e, m.entity? name = some e ∧ e.key? = none

/--
A way from the first name to the last one. The names that it passes are entities without a key, and after each of them
comes its parent.
-/
inductive Ascends (m : ConceptualModel) : String → List String → String → Prop where
  | here (name : String) : Ascends m name [] name
  | up {name parent last : String} {passed : List String} (hkeyless : m.Keyless name)
    (hparent : m.FirstParent name parent) (h : Ascends m parent passed last) : Ascends m name (name :: passed) last

def Final (m : ConceptualModel) (name : String) : Prop :=
  m.Keyless name → ∀ parent, ¬m.FirstParent name parent

variable {m : ConceptualModel} {name parent last final : String} {passed passed' seen : List String} {e : Entity}

theorem Keyless.mem_names (h : m.Keyless name) : name ∈ m.entities.map (·.name) := by
  obtain ⟨e, he, -⟩ := h
  rw [← isSome_entity?, he]
  rfl

section Way

theorem Ascends.append (h : m.Ascends name passed last) (hrest : m.Ascends last passed' final) :
    m.Ascends name (passed ++ passed') final := by
  induction h with
  | here => exact hrest
  | up hkeyless hparent _ ih => exact .up hkeyless hparent (ih hrest)

theorem Ascends.keyless (h : m.Ascends name passed last) : ∀ x ∈ passed, m.Keyless x := by
  induction h with
  | here => simp
  | up hkeyless _ _ ih => exact List.forall_mem_cons.2 ⟨hkeyless, ih⟩

theorem Ascends.exists_rest (h : m.Ascends name passed last) (hway : m.Ascends name passed' final)
    (hfinal : m.Final final) : ∃ rest, passed' = passed ++ rest ∧ m.Ascends last rest final := by
  induction h generalizing passed' with
  | here => exact ⟨passed', rfl, hway⟩
  | up hkeyless hparent _ ih =>
    cases hway with
    | here => exact absurd hparent (hfinal hkeyless _)
    | up _ hparent' hway =>
      rw [firstParent_iff] at hparent hparent'
      rw [hparent, Option.some_inj] at hparent'
      obtain ⟨rest, hpassed, hrest⟩ := ih (hparent' ▸ hway)
      exact ⟨rest, congrArg _ hpassed, hrest⟩

theorem Ascends.eq_of_final (h : m.Ascends name passed last) (hlast : m.Final last) (hway : m.Ascends name passed' final)
    (hfinal : m.Final final) : passed' = passed ∧ final = last := by
  obtain ⟨rest, hpassed, hrest⟩ := h.exists_rest hway hfinal
  cases hrest with
  | here => exact ⟨by simpa using hpassed, rfl⟩
  | up hkeyless hparent => exact absurd hparent (hlast hkeyless _)

theorem Ascends.of_mem (h : m.Ascends name passed last) {x : String} (hx : x ∈ passed) :
    ∃ front back, passed = front ++ x :: back ∧ m.Ascends x (x :: back) last := by
  induction h with
  | here => contradiction
  | @up name _ _ passed hkeyless hparent h ih =>
    cases hx with
    | head => exact ⟨[], passed, rfl, .up hkeyless hparent h⟩
    | tail _ hx =>
      obtain ⟨front, back, hsplit, hway⟩ := ih hx
      exact ⟨name :: front, back, congrArg _ hsplit, hway⟩

theorem Ascends.nodup (h : m.Ascends name passed last) (hlast : m.Final last) :
    passed.Nodup ∧ last ∉ passed := by
  induction h with
  | here => simp
  | @up name _ last passed hkeyless hparent h ih =>
    obtain ⟨hnodup, hnotMem⟩ := ih hlast
    have hname : name ∉ passed := by
      intro hmem
      -- From the second time on the way would be as long as from the first.
      obtain ⟨front, back, hsplit, hway⟩ := h.of_mem hmem
      obtain ⟨hpassed, -⟩ := (Ascends.up hkeyless hparent h).eq_of_final hlast hway hlast
      rw [List.cons_inj_right] at hpassed
      have hlength := congrArg List.length hsplit
      rw [hpassed, List.length_append, List.length_cons] at hlength
      omega
    have hne : last ≠ name := by
      rintro rfl
      exact hlast hkeyless _ hparent
    exact ⟨List.nodup_cons.2 ⟨hname, hnodup⟩, by simp [hne, hnotMem]⟩

end Way

section Search

def unvisited (m : ConceptualModel) (seen : List String) : List Entity :=
  m.entities.filter (·.name ∉ seen)

theorem otherEntities_unvisited (m : ConceptualModel) (seen : List String) (name : String) :
    otherEntities (m.unvisited seen) name = m.unvisited (name :: seen) := by
  rw [otherEntities, unvisited, List.filter_filter]
  apply List.filter_congr
  simp

theorem find?_unvisited_eq (h : name ∉ seen) :
    (m.unvisited seen).find? (·.name = name) = m.entity? name := by
  rw [unvisited, List.find?_filter, entity?]
  congr 1
  funext e
  by_cases hname : e.name = name <;> simp [hname, h]

theorem find?_unvisited_eq_none (h : name ∈ seen) : (m.unvisited seen).find? (·.name = name) = none := by
  rw [unvisited, List.find?_filter, List.find?_eq_none]
  rintro e - hname
  simp only [decide_eq_true_eq] at hname
  exact hname.1 (hname.2 ▸ h)

theorem go_unvisited_of_mem (h : name ∈ seen) : keyName?.go m (m.unvisited seen) name = none := by
  rw [keyName?_go_eq, find?_unvisited_eq_none h, Option.bind_none]

theorem go_unvisited (h : name ∉ seen) :
    keyName?.go m (m.unvisited seen) name
      =
    (m.entity? name).bind fun e =>
      match e.key? with
      | some key => some key.name
      | none => (m.parent? name).bind (keyName?.go m (m.unvisited (name :: seen))) := by
  have hstep := @keyName?_go_eq m (m.unvisited seen) name
  rw [find?_unvisited_eq h, otherEntities_unvisited] at hstep
  exact hstep

theorem go_of_ascends (h : m.Ascends name passed last) (hnodup : passed.Nodup) (hseen : ∀ x ∈ passed, x ∉ seen) :
    keyName?.go m (m.unvisited seen) name = keyName?.go m (m.unvisited (passed.reverse ++ seen)) last := by
  induction h generalizing seen with
  | here => rfl
  | @up name _ _ passed hkeyless hparent _ ih =>
    rw [List.forall_mem_cons] at hseen
    rw [List.nodup_cons] at hnodup
    obtain ⟨e, he, hkey⟩ := hkeyless
    rw [go_unvisited hseen.1, he, firstParent_iff.1 hparent]
    simp only [Option.bind_some, hkey]
    rw [ih hnodup.2, List.reverse_cons, List.append_assoc]
    . rfl
    . intro x hx
      rw [List.mem_cons, not_or]
      refine ⟨?_, hseen.2 x hx⟩
      rintro rfl
      exact hnodup.1 hx

theorem keyName?_eq_go (m : ConceptualModel) (name : String) :
    m.keyName? name = keyName?.go m (m.unvisited []) name := by
  simp [keyName?, unvisited]

theorem keyName?_of_ascends (h : m.Ascends name passed last) (hnodup : passed.Nodup) :
    m.keyName? name = keyName?.go m (m.unvisited passed.reverse) last := by
  have hunseen : ∀ x ∈ passed, x ∉ ([] : List String) := by simp
  have hway := go_of_ascends h hnodup hunseen
  rwa [List.append_nil, ← keyName?_eq_go] at hway

end Search

section Stop

theorem Ascends.length_le (h : m.Ascends name passed last) (hnodup : passed.Nodup) :
    passed.length ≤ m.entities.length := by
  have hsubset : passed ⊆ m.entities.map (·.name) := fun x hx => (h.keyless x hx).mem_names
  have hlength := hnodup.length_le_of_subset hsubset
  rwa [List.length_map] at hlength

theorem Ascends.exists_stop (h : m.Ascends name passed last) (hnodup : passed.Nodup) :
    ∃ passed last, m.Ascends name passed last ∧ passed.Nodup ∧ (last ∈ passed ∨ m.Final last) := by
  -- The induction is on how many more entities there are than have been passed.
  induction hn : m.entities.length - passed.length using Nat.strongRecOn generalizing passed last with
  | ind n ih =>
    by_cases hstop : last ∈ passed ∨ m.Final last
    . exact ⟨passed, last, h, hnodup, hstop⟩
    . obtain ⟨hnew, hopen⟩ := not_or.1 hstop
      simp only [Final, not_forall, not_not] at hopen
      obtain ⟨hkeyless, parent, hparent⟩ := hopen
      have hnext : m.Ascends name (passed ++ [last]) parent := h.append (.up hkeyless hparent (.here parent))
      have hnodup' : (passed ++ [last]).Nodup := by
        rw [← List.concat_eq_append, List.nodup_concat]
        exact ⟨hnew, hnodup⟩
      have hlength := hnext.length_le hnodup'
      rw [List.length_append, List.length_singleton] at hlength
      apply ih _ _ hnext hnodup' rfl
      rw [← hn, List.length_append, List.length_singleton]
      omega

theorem exists_stop (m : ConceptualModel) (name : String) :
    ∃ passed last, m.Ascends name passed last ∧ passed.Nodup ∧ (last ∈ passed ∨ m.Final last) :=
  (Ascends.here name).exists_stop List.nodup_nil

theorem keyName?_of_final (h : m.Ascends name passed last) (hfinal : m.Final last) :
    m.keyName? name = (m.entity? last).bind fun e => e.key?.map (·.name) := by
  obtain ⟨hnodup, hnew⟩ := h.nodup hfinal
  have hnotMem : last ∉ passed.reverse := by simpa using hnew
  rw [keyName?_of_ascends h hnodup, go_unvisited hnotMem]
  cases he : m.entity? last with
  | none => rfl
  | some e =>
    simp only [Option.bind_some]
    cases hkey : e.key? with
    | some key => rfl
    | none =>
      have hparent : m.parent? last = none := by
        rw [Option.eq_none_iff_forall_ne_some]
        intro parent hparent
        exact hfinal ⟨e, he, hkey⟩ parent (firstParent_iff.2 hparent)
      rw [hparent]
      rfl

theorem keyName?_of_repeat (h : m.Ascends name passed last) (hrepeat : last ∈ passed) : m.keyName? name = none := by
  obtain ⟨passed', last', hway, hnodup, hmem | hfinal⟩ := exists_stop m name
  . rw [keyName?_of_ascends hway hnodup, go_unvisited_of_mem]
    simpa using hmem
  . -- The way to the end would pass the repeated name twice.
    obtain ⟨rest, rfl, hrest⟩ := h.exists_rest hway hfinal
    obtain ⟨hnodup, hend⟩ := hway.nodup hfinal
    cases hrest with
    | here => exact absurd (List.mem_append_left _ hrepeat) hend
    | up => exact absurd List.mem_cons_self (List.disjoint_of_nodup_append hnodup hrepeat)

theorem final_of_undeclared (h : m.entity? last = none) : m.Final last := by
  rintro ⟨e, he, -⟩
  rw [h] at he
  contradiction

theorem final_of_key {a : Attribute} (he : m.entity? last = some e) (ha : e.key? = some a) : m.Final last := by
  rintro ⟨e', he', hnone⟩
  rw [he, Option.some_inj] at he'
  rw [← he', ha] at hnone
  contradiction

theorem keyName?_eq_some_iff {key : String} :
    m.keyName? name = some key
      ↔
    ∃ passed last e a, m.Ascends name passed last ∧ m.entity? last = some e ∧ e.key? = some a ∧ a.name = key := by
  constructor
  . intro hkey
    obtain ⟨passed, last, hway, -, hrepeat | hfinal⟩ := exists_stop m name
    . rw [keyName?_of_repeat hway hrepeat] at hkey
      contradiction
    . rw [keyName?_of_final hway hfinal, Option.bind_eq_some_iff] at hkey
      obtain ⟨e, he, hkey⟩ := hkey
      obtain ⟨a, ha, hname⟩ := Option.map_eq_some_iff.1 hkey
      exact ⟨passed, last, e, a, hway, he, ha, hname⟩
  . rintro ⟨passed, last, e, a, hway, he, ha, rfl⟩
    rw [keyName?_of_final hway (final_of_key he ha), he, Option.bind_some, ha]
    rfl

theorem keyName?_eq_none_iff :
    m.keyName? name = none
      ↔
    ∃ passed last, m.Ascends name passed last
      ∧ (m.entity? last = none ∨ (m.Keyless last ∧ ∀ parent, ¬m.FirstParent last parent) ∨ last ∈ passed) := by
  constructor
  . intro hnone
    obtain ⟨passed, last, hway, -, hstop⟩ := exists_stop m name
    refine ⟨passed, last, hway, ?_⟩
    cases hstop with
    | inl hrepeat => exact Or.inr (Or.inr hrepeat)
    | inr hfinal =>
      rw [keyName?_of_final hway hfinal] at hnone
      cases he : m.entity? last with
      | none => exact Or.inl rfl
      | some e =>
        rw [he, Option.bind_some, Option.map_eq_none_iff] at hnone
        have hkeyless : m.Keyless last := ⟨e, he, hnone⟩
        exact Or.inr (Or.inl ⟨hkeyless, hfinal hkeyless⟩)
  . rintro ⟨passed, last, hway, hundeclared | ⟨⟨e, he, hkey⟩, hparentless⟩ | hrepeat⟩
    . rw [keyName?_of_final hway (final_of_undeclared hundeclared), hundeclared]
      rfl
    . rw [keyName?_of_final hway fun _ => hparentless, he, Option.bind_some, hkey]
      rfl
    . exact keyName?_of_repeat hway hrepeat

end Stop

theorem keyName?_ascends (m : ConceptualModel) (name : String) :
    (∃ passed last, m.Ascends name passed last ∧ passed.Nodup ∧ passed.length ≤ m.entities.length
        ∧ ((last ∈ passed ∧ m.keyName? name = none)
          ∨ (m.Final last ∧ m.keyName? name = (m.entity? last).bind fun e => e.key?.map (·.name))))
      ∧ (∀ key, m.keyName? name = some key
        ↔
      ∃ passed last e a, m.Ascends name passed last ∧ m.entity? last = some e ∧ e.key? = some a ∧ a.name = key)
      ∧ (m.keyName? name = none
        ↔
      ∃ passed last, m.Ascends name passed last
        ∧ (m.entity? last = none ∨ (m.Keyless last ∧ ∀ parent, ¬m.FirstParent last parent) ∨ last ∈ passed)) := by
  refine ⟨?_, fun key => keyName?_eq_some_iff, keyName?_eq_none_iff⟩
  obtain ⟨passed, last, hway, hnodup, hstop⟩ := exists_stop m name
  refine ⟨passed, last, hway, hnodup, hway.length_le hnodup, ?_⟩
  cases hstop with
  | inl hrepeat => exact Or.inl ⟨hrepeat, keyName?_of_repeat hway hrepeat⟩
  | inr hfinal => exact Or.inr ⟨hfinal, keyName?_of_final hway hfinal⟩

-- Groups that make a circle, and an entity that is listed in two groups.
example :
    let groups : List Inheritance :=
      [⟨"g", "B", ["A"], none⟩, ⟨"h", "A", ["B"], none⟩, ⟨"i", "D", ["C"], none⟩, ⟨"j", "A", ["C"], none⟩]
    let m : ConceptualModel := ⟨[⟨"A", []⟩, ⟨"B", []⟩, ⟨"C", []⟩, ⟨"D", [⟨"id", true, false⟩]⟩], [], groups, []⟩
    m.keyName? "A" = none ∧ m.keyName? "C" = some "id" := by
  decide +kernel

end SchemaDesign.ConceptualModel
