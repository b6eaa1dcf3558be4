import SchemaDesign.Proofs.Derivation.KeyReference

/-!
This module contains what becomes of the key that is expected of a child without one of its own, where all groups let
children refer to their parents.
-/

namespace SchemaDesign

open SchemaDesign.Derivation

variable {m : ConceptualModel} {settings : Settings} {d : Draft} {name child key parent : String} {t u : Table}

namespace ConceptualModel

-- The entities that a search has passed have no key, and none of the groups ahead of it has one of them as a child.
def Passed (m : ConceptualModel) (ahead : List Inheritance) (unvisited : List Entity) : Prop :=
  ∀ e ∈ m.entities, e ∉ unvisited → e.key? = none ∧ ∀ g ∈ ahead, e.name ∉ g.children

section Passed

variable {ahead : List Inheritance} {unvisited : List Entity} {e : Entity} (h : m.Passed ahead unvisited)

include h

theorem Passed.mono {ahead' : List Inheritance} (hsubset : ahead' ⊆ ahead) : m.Passed ahead' unvisited := by
  intro e he hmem
  obtain ⟨hkey, hahead⟩ := h e he hmem
  refine ⟨hkey, ?_⟩
  intro g hg
  exact hahead g (hsubset hg)

theorem Passed.mem_of_child {g : Inheritance} (he : m.entity? name = some e) (hg : g ∈ ahead)
    (hmember : name ∈ g.children) : e ∈ unvisited := by
  by_contra hmem
  rw [← name_of_entity? he] at hmember
  exact (h e (mem_of_entity? he) hmem).2 g hg hmember

theorem Passed.mem_of_key (he : m.entity? name = some e) (hkey : e.key?.isSome = true) : e ∈ unvisited := by
  by_contra hmem
  rw [(h e (mem_of_entity? he) hmem).1] at hkey
  contradiction

theorem Passed.next (hm : m.Valid) (he : m.entity? name = some e) (hkey : e.key? = none)
    (hahead : ∀ g ∈ ahead, name ∉ g.children) : m.Passed ahead (otherEntities unvisited name) := by
  intro e' he' hmem
  by_cases hsame : e'.name = name
  . rw [← name_of_entity? he] at hsame
    rw [List.inj_on_of_nodup_map hm.entityNames he' (mem_of_entity? he) hsame, name_of_entity? he]
    exact ⟨hkey, hahead⟩
  . apply h e' he'
    intro hold
    apply hmem
    rw [otherEntities, List.mem_filter]
    simpa [hsame] using hold

end Passed

theorem go_isSome_of_child (hm : m.Valid)
    (hkeyed : ∀ front g back, m.inheritances = front ++ g :: back → m.KeyedAfter front g.parent)
    {front back : List Inheritance} {g : Inheritance} {unvisited : List Entity}
    (hsplit : m.inheritances = front ++ g :: back) (hmember : name ∈ g.children)
    (hfirst : ∀ g' ∈ front, name ∉ g'.children) (hsubset : unvisited ⊆ m.entities)
    (hpassed : m.Passed (front ++ [g]) unvisited) : (keyName?.go m unvisited name).isSome = true := by
  -- The induction is on the place of the first group of the child, which gets less on the way up.
  induction hn : front.length using Nat.strongRecOn generalizing front g back unvisited name with
  | ind n ih =>
    have hg : g ∈ m.inheritances := by simp [hsplit]
    obtain ⟨e, he⟩ := Option.isSome_iff_exists.1 (hm.members g hg name (List.mem_cons_of_mem _ hmember))
    have hunvisited := hpassed.mem_of_child he (by simp) hmember
    rw [go_eq hm.entityNames hsubset hunvisited (name_of_entity? he)]
    cases hkey : e.key? with
    | some own => rfl
    | none =>
      have hparent : m.parent? name = some g.parent :=
        firstParent_iff.1 ⟨front, g, back, hsplit, hmember, hfirst, rfl⟩
      have hsubset' := List.Subset.trans (otherEntities_subset unvisited name) hsubset
      have hpassed' : m.Passed front (otherEntities unvisited name) := by
        apply (hpassed.mono _).next hm he hkey hfirst
        exact List.subset_append_left ..
      simp only [hparent, Option.bind_some]
      -- The search ends at a parent with a key of its own, or goes on from its first group, which is an earlier one.
      cases hkeyed front g back hsplit with
      | inl hstored =>
        obtain ⟨p, hp⟩ := Option.isSome_iff_exists.1 (hm.members g hg g.parent (List.mem_cons_self ..))
        have hpkey : p.key?.isSome = true := by
          apply key?_isSome_of_storedKeys
          simpa [hp] using hstored
        rw [go_eq hm.entityNames hsubset' (hpassed'.mem_of_key hp hpkey) (name_of_entity? hp)]
        obtain ⟨own, hown⟩ := Option.isSome_iff_exists.1 hpkey
        rw [hown]
        rfl
      | inr hchild =>
        obtain ⟨front', g', back', hsplit', hmember', hfirst'⟩ := exists_first_group hchild
        have hshorter : front'.length < n := by
          rw [← hn, hsplit']
          simp
        have hearlier : m.inheritances = front' ++ g' :: (back' ++ g :: back) := by
          simp [hsplit, hsplit']
        apply ih front'.length hshorter hearlier hmember' hfirst' hsubset' _ rfl
        apply hpassed'.mono
        rw [hsplit']
        simp

theorem keyName?_isSome_of_child (hm : m.Valid)
    (hkeyed : ∀ front g back, m.inheritances = front ++ g :: back → m.KeyedAfter front g.parent)
    (hchild : m.isChild name = true) : (m.keyName? name).isSome = true := by
  have hgroup : ∃ g ∈ m.inheritances, name ∈ g.children := by simpa [isChild] using hchild
  obtain ⟨front, g, back, hsplit, hmember, hfirst⟩ := exists_first_group hgroup
  apply go_isSome_of_child hm hkeyed hsplit hmember hfirst (List.Subset.refl _)
  intro e he hmem
  contradiction

end ConceptualModel

namespace Derivation

section Document

theorem exists_keyName? (hm : m.Valid) (hclean : (m.toLogical settings).FindsAll) {e : Entity}
    (he : m.entity? child = some e) (hkey : e.key? = none) : ∃ key, m.keyName? child = some key := by
  have hchild : m.isChild child = true := by
    rw [← ConceptualModel.name_of_entity? he]
    apply hm.keyed e (ConceptualModel.mem_of_entity? he)
    exact Entity.key?_eq_none_iff.1 hkey
  have hready := (inheritances_findsAll hm (relationsDone_of_findsAll hm hclean)).1 (reports_toLogical.1 hclean).2.1
  apply Option.isSome_iff_exists.1
  apply ConceptualModel.keyName?_isSome_of_child hm _ hchild
  intro front g back hsplit
  exact (hready front g back hsplit).2

theorem inheritedKey_mem_keyNames_iff {text : String} {out : Outcome LogicalModel}
    (h : conceptualToLogical text settings = .ok out) (hread : (ConceptualModel.read text).value = m)
    (hall : AllReferUp m settings) {e : Entity} (he : m.entity? child = some e) (hkey : e.key? = none) :
    ∃ key before t, m.keyName? child = some key
      ∧ (related m).value.schema.table? child = some before
      ∧ out.value.table? child = some t
      ∧ (key ∈ t.keyNames ↔ key ∈ t.names ∧ key ∉ before.names)
      ∧ ((∃ r ∈ m.relations, child ∈ m.referred r) → key ∈ t.names) := by
  obtain ⟨hm, _, hclean, hvalue, hconsistent⟩ := settled_of_conceptualToLogical h hread
  have hentity : (m.entity? child).isSome = true := by simp [he]
  have hstands : Stands settings m.inheritances child := by
    intro g hg
    simp [Inheritance.removes, hall g hg]
  obtain ⟨key, hfound⟩ := exists_keyName? hm hclean he hkey
  have hrelated := relationsDone_of_findsAll hm hclean
  obtain ⟨before, hbefore⟩ := hrelated.exists_table hentity
  have hkeyless : before.keyNames = [] := by
    rw [hrelated.keyNames_eq he hbefore]
    by_contra hstored
    simpa [hkey] using key?_isSome_of_storedKeys hstored
  obtain ⟨u, hu, hnew⟩ := hasNewKeys_of_refersUp hall hbefore hkeyless
  have houtline := outline?_toLogical hm hclean hentity hstands
  rw [← hvalue, Draft.outline?, hu, Option.map_some, Option.map_eq_some_iff] at houtline
  obtain ⟨t, ht, hsame⟩ := houtline
  refine ⟨key, before, t, hfound, hbefore, ht, ?_, ?_⟩
  . rw [Table.keyNames_eq_of_outline hsame, Table.names_eq_of_outline hsame]
    exact hnew.mem_keyNames_iff hkeyless
  . rintro ⟨r, hr, hneeded⟩
    have hplaced := refers_related hm (reports_toLogical.1 hclean).1 hr hneeded hfound
    have hrefers := refers_drafted hm hclean hentity hstands (refers_of_refersUp hall hplaced)
    obtain ⟨fk, hfk, hto, hby⟩ := hrefers
    have hkept : fk ∈ out.value.references := by
      rw [hvalue, references_toLogical_of_refersUp hall]
      exact hfk
    obtain ⟨t', ht', hcolumn⟩ := hconsistent.resolved fk hkept
    rw [hto, ht, Option.some_inj] at ht'
    rwa [ht', ← hby]

theorem inheritedKey_taken :
    ∃ out t, conceptualToLogical (childText "id") .standard = .ok out
      ∧ (ConceptualModel.read (childText "id")).value.keyName? "C" = some "id"
      ∧ out.value.table? "C" = some t ∧ t.keyNames = ["id_p"] := by
  have hany : (conceptualToLogical (childText "id") .standard).toOption.any
      (fun out => (out.value.table? "C").map (·.keyNames) = some ["id_p"]) = true := by
    decide +kernel
  obtain ⟨out, hout, htable⟩ := exists_ok_of_any hany
  obtain ⟨t, ht, hkeys⟩ := Option.map_eq_some_iff.1 (of_decide_eq_true htable)
  exact ⟨out, t, hout, by decide +kernel, ht, hkeys⟩

theorem inheritedKey_mem_keyNames_iff_free :
    ∃ out t, conceptualToLogical (childText "") .standard = .ok out
      ∧ childModel.keyName? "C" = some "id" ∧ out.value.table? "C" = some t ∧ "id" ∈ t.keyNames := by
  obtain ⟨out, hout, _⟩ := conceptualToLogical_childText
  have hall : AllReferUp childModel .standard := by
    unfold AllReferUp
    decide
  have hchild : childModel.entity? "C" = some ⟨"C", []⟩ := rfl
  obtain ⟨key, before, t, hfound, hbefore, ht, hiff, hneeded⟩ :=
    inheritedKey_mem_keyNames_iff hout read_childText hall hchild rfl
  have hkey : childModel.keyName? "C" = some "id" := by decide +kernel
  have hnone : (related childModel).value.schema.table? "C" = some ⟨"C", []⟩ := by decide +kernel
  rw [hkey, Option.some_inj] at hfound
  rw [hnone, Option.some_inj] at hbefore
  refine ⟨out, t, hout, hkey, ht, ?_⟩
  rw [hfound, hiff, ← hbefore]
  refine ⟨hneeded ?_, by simp [Table.names]⟩
  decide +kernel

end Document

end Derivation

end SchemaDesign
