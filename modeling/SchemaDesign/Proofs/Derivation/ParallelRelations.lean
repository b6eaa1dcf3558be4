import SchemaDesign.Proofs.Derivation.KeptColumns

/-!
This module contains how the references of several relations between the same two entities are told apart. Each of them
has the name of its relation in it, and no two of them in one table have the same name.
-/

namespace SchemaDesign

def Relation.IsParallelTo (r r' : Relation) : Prop :=
  r.participants.length = 2 ∧ (r.participants.map (·.entity)).Perm (r'.participants.map (·.entity))

instance (r r' : Relation) : Decidable (r.IsParallelTo r') :=
  inferInstanceAs (Decidable (_ ∧ _))

section Qualifier

variable {m : ConceptualModel} {r r' : Relation} {a b : String}

theorem Relation.isBetween_iff : r.isBetween a b = true ↔ (r.participants.map (·.entity)).Perm [a, b] := by
  unfold isBetween
  split
  . next p q hparticipants =>
    simp only [hparticipants, List.map_cons, List.map_nil, Bool.or_eq_true, Bool.and_eq_true, decide_eq_true_eq]
    constructor
    . rintro (⟨rfl, rfl⟩ | ⟨rfl, rfl⟩)
      . exact List.Perm.refl _
      . exact List.Perm.swap ..
    . intro hperm
      cases List.mem_cons.1 (hperm.mem_iff.1 (List.mem_cons_self ..)) with
      | inl hfirst =>
        rw [hfirst, List.perm_cons, List.singleton_perm_singleton] at hperm
        exact Or.inl ⟨hfirst, hperm⟩
      | inr hsecond =>
        rw [List.mem_singleton] at hsecond
        have hswapped := hperm.trans (List.Perm.swap b a [])
        rw [hsecond, List.perm_cons, List.singleton_perm_singleton] at hswapped
        exact Or.inr ⟨hsecond, hswapped⟩
  . next hother =>
    simp only [Bool.false_eq_true, false_iff]
    intro hperm
    obtain ⟨p, q, hparticipants⟩ := List.length_eq_two.1 (by simpa using hperm.length_eq)
    exact hother p q hparticipants

theorem Relation.IsParallelTo.isBetween (h : r.IsParallelTo r') (hr : r.isBetween a b = true) :
    r'.isBetween a b = true := by
  rw [isBetween_iff] at hr ⊢
  exact h.2.symm.trans hr

theorem ConceptualModel.needsQualifier_of_isParallelTo {front back : List Relation}
    (hsplit : m.relations = front ++ r :: back) (hr' : r' ∈ front ++ back) (hparallel : r.IsParallelTo r')
    (hr : r.isBetween a b = true) : m.needsQualifier a b = true := by
  have hother : 0 < (front ++ back).countP (·.isBetween a b) :=
    List.countP_pos_iff.2 ⟨r', hr', hparallel.isBetween hr⟩
  rw [List.countP_append] at hother
  simp only [needsQualifier, hsplit, List.countP_append, List.countP_cons, hr, if_true, decide_eq_true_eq]
  omega

end Qualifier

namespace Derivation

variable {m : ConceptualModel} {r r' : Relation} {c : Column} {table : String} {front back : List Relation}

/--
A relation that comes after those in `front` puts a column with a reference into a table that is there.
-/
def Places (m : ConceptualModel) (front : List Relation) (r : Relation) (table : String) (c : Column) : Prop :=
  ∃ t added, (relatedBy m front).schema.table? table = some t
    ∧ (relatedBy m (front ++ [r])).schema.table? table = some { t with columns := t.columns ++ added }
    ∧ c ∈ added ∧ c.reference ≠ none

section Place

theorem ends?_isBetween {holder target : Participant} (h : ends? r = some (holder, target)) :
    r.isBetween holder.entity target.entity = true := by
  rw [ends?_eq_some_iff] at h
  cases h with
  | firstOnce h | firstMandatory h | tie h => simp [Relation.isBetween, h]
  | secondOnce h | secondMandatory h => simp [Relation.isBetween, h]

def placedName (m : ConceptualModel) (r : Relation) (holder target : Participant) (key : String) (t : Table) : String :=
  t.freshName (if m.needsQualifier holder.entity target.entity then key ++ "_" ++ lowercaseName r.name else key)
    (some (lowercaseName r.name))

theorem eq_of_mem_extend {holder target : Participant} {key : String} {t : Table} {added : List Column}
    (h : (placeReference.extend m r holder target key t).columns = t.columns ++ added) (hc : c ∈ added)
    (hreference : c.reference ≠ none) : c = .referring (placedName m r holder target key t) target.entity key := by
  rw [placeReference.extend, columns_appendAttributes, Table.append, List.append_assoc, List.append_cancel_left_eq] at h
  rw [← h, List.singleton_append, List.mem_cons] at hc
  cases hc with
  | inl hnew => exact hnew
  | inr hplain => exact absurd (isPlain_of_mem_lackingColumns hplain).2 hreference

theorem not_mem_added {t : Table} {added : List Column} (h : some t = some { t with columns := t.columns ++ added }) :
    c ∉ added := by
  have hcolumns := congrArg Table.columns (Option.some_inj.1 h)
  rw [List.self_eq_append_right] at hcolumns
  rw [hcolumns]
  exact List.not_mem_nil

theorem eq_of_places (h : Places m front r table c) :
    ∃ t holder target key, (relatedBy m front).schema.table? table = some t
      ∧ ends? r = some (holder, target) ∧ m.keyName? target.entity = some key
      ∧ c = .referring (placedName m r holder target key t) target.entity key := by
  obtain ⟨t, added, hbefore, hafter, hc, hreference⟩ := h
  rw [relatedBy_concat] at hafter
  have hstep : RelationStep m (relatedBy m front) r (relation m (relatedBy m front) r).value := relation_step
  generalize (relation m (relatedBy m front) r).value = d at hstep hafter
  cases hstep with
  | skip =>
    rw [hbefore] at hafter
    exact absurd hc (not_mem_added hafter)
  | reference holder target key hends _ hkey =>
    refine ⟨t, holder, target, key, hbefore, hends, hkey, ?_⟩
    have hname := name_extend m r holder target key
    rw [Draft.modify, LogicalModel.table?_modify hname, hbefore, Option.map_some] at hafter
    split at hafter
    . exact eq_of_mem_extend (congrArg Table.columns (Option.some_inj.1 hafter)) hc hreference
    . exact absurd hc (not_mem_added hafter)
  | table keys _ hfree =>
    simp only [Draft.represent, Draft.add, LogicalModel.table?_add, hbefore, Option.some_or] at hafter
    exact absurd hc (not_mem_added hafter)

end Place

section Parallel

theorem exists_qualified_of_places (hsplit : m.relations = front ++ r :: back) (hr' : r' ∈ front ++ back)
    (hparallel : r.IsParallelTo r') (h : Places m front r table c) :
    ∃ fk, c.reference = some fk ∧ (c.name = fk.column ++ "_" ++ lowercaseName r.name
      ∨ ∃ n ≥ 2, c.name = fk.column ++ "_" ++ lowercaseName r.name ++ "_" ++ toString n) := by
  obtain ⟨t, holder, target, key, _, hends, _, rfl⟩ := eq_of_places h
  refine ⟨_, rfl, ?_⟩
  rw [Column.name_referring, placedName,
    ConceptualModel.needsQualifier_of_isParallelTo hsplit hr' hparallel (ends?_isBetween hends), if_pos rfl]
  exact t.freshName_qualified key (lowercaseName r.name)

theorem Places.name_notMem (h : Places m front r table c) :
    ∃ t, (relatedBy m front).schema.table? table = some t ∧ c.name ∉ t.names := by
  obtain ⟨t, holder, target, key, ht, _, _, rfl⟩ := eq_of_places h
  refine ⟨t, ht, ?_⟩
  rw [Column.name_referring, placedName]
  apply t.freshName_notMem

theorem Places.exists_table? (h : Places m front r table c) (back : List Relation) :
    ∃ t, (relatedBy m (front ++ r :: back)).schema.table? table = some t ∧ c ∈ t.columns := by
  obtain ⟨t, added, _, hafter, hc, _⟩ := h
  obtain ⟨t', ht', hsubset⟩ := exists_table?_relatedBy back hafter
  rw [List.append_assoc, List.singleton_append] at ht'
  exact ⟨t', ht', hsubset (List.mem_append_right _ hc)⟩

theorem Places.refers_to_entity (h : Places m front r table c) :
    ∀ fk, c.reference = some fk → ∃ e ∈ m.entities, e.name = fk.table := by
  obtain ⟨t, holder, target, key, _, _, hkey, rfl⟩ := eq_of_places h
  intro fk hfk
  rw [← Option.some_inj.1 hfk]
  exact ConceptualModel.exists_of_go hkey

theorem places_of_parallel (m : ConceptualModel) (settings : Settings) (hgroups : m.inheritances = []) :
    (∀ front r back r' table c, m.relations = front ++ r :: back → r' ∈ front ++ back → r.IsParallelTo r' →
        Places m front r table c →
        HoldsTogether [c] (m.toLogical settings).value ∧ ∃ fk, c.reference = some fk
          ∧ (c.name = fk.column ++ "_" ++ lowercaseName r.name
            ∨ ∃ n ≥ 2, c.name = fk.column ++ "_" ++ lowercaseName r.name ++ "_" ++ toString n))
      ∧ ∀ front r mid r' back table c c', m.relations = front ++ r :: (mid ++ r' :: back) → r.IsParallelTo r' →
        Places m front r table c → Places m (front ++ r :: mid) r' table c' →
        HoldsTogether [c, c'] (m.toLogical settings).value ∧ c.name ≠ c'.name := by
  constructor
  . intro front r back r' table c hsplit hr' hparallel h
    refine ⟨?_, exists_qualified_of_places hsplit hr' hparallel h⟩
    apply holdsTogether_toLogical hgroups
    . simpa using h.refers_to_entity
    . obtain ⟨t, ht, hc⟩ := h.exists_table? back
      rw [← hsplit, ← value_related] at ht
      exact ⟨t, LogicalModel.mem_of_table? ht, by simpa using hc⟩
  . intro front r mid r' back table c c' hsplit hparallel h h'
    constructor
    . apply holdsTogether_toLogical hgroups
      . simpa using ⟨h.refers_to_entity, h'.refers_to_entity⟩
      . obtain ⟨t, ht, hc⟩ := h.exists_table? (mid ++ r' :: back)
        obtain ⟨t', ht', hc'⟩ := h'.exists_table? back
        rw [List.append_assoc, List.cons_append, ← hsplit, ← value_related] at ht'
        rw [← hsplit, ← value_related, ht', Option.some_inj] at ht
        rw [ht] at hc'
        exact ⟨t, LogicalModel.mem_of_table? (ht ▸ ht'), by simpa using ⟨hc, hc'⟩⟩
    . -- The first column is there when the name of the second one is chosen.
      obtain ⟨t, ht, hc⟩ := h.exists_table? mid
      obtain ⟨t', ht', hfree⟩ := h'.name_notMem
      rw [ht, Option.some_inj] at ht'
      rw [← ht'] at hfree
      intro heq
      rw [← heq] at hfree
      exact hfree (List.mem_map_of_mem hc)

def ships : Relation := ⟨"ships", [⟨"Order", .oneOne⟩, ⟨"Client", .zeroMany⟩], []⟩

def shipsAgain : Relation := ⟨"SHIPS", [⟨"Client", .oneMany⟩, ⟨"Order", .zeroOne⟩], []⟩

def shipments : ConceptualModel where
  entities := [⟨"Order", [⟨"id_o", true, false⟩, ⟨"id_k_ships_2", false, false⟩]⟩, ⟨"Client", [⟨"id_k", true, false⟩]⟩]
  relations := [ships, ⟨"asks", [⟨"Client", .zeroMany⟩, ⟨"Order", .zeroMany⟩], []⟩, shipsAgain]
  inheritances := []
  associatives := [⟨"Request", "asks", [⟨"day", false, false⟩]⟩]

theorem places_of_parallel_shipments :
    let c := Column.referring "id_k_ships" "Client" "id_k"
    let c' := Column.referring "id_k_ships_3" "Client" "id_k"
    ships.IsParallelTo shipsAgain
      ∧ Places shipments [] ships "Order" c ∧ Places shipments shipments.relations.dropLast shipsAgain "Order" c'
      ∧ (∃ fk, c'.reference = some fk ∧ (c'.name = fk.column ++ "_" ++ lowercaseName shipsAgain.name
        ∨ ∃ n ≥ 2, c'.name = fk.column ++ "_" ++ lowercaseName shipsAgain.name ++ "_" ++ toString n))
      ∧ HoldsTogether [c, c'] (shipments.toLogical .standard).value ∧ c.name ≠ c'.name := by
  intro c c'
  have hparallel : ships.IsParallelTo shipsAgain := by decide
  have hfirst : Places shipments [] ships "Order" c :=
    ⟨⟨"Order", [⟨"id_o", true, none⟩, .plain "id_k_ships_2"]⟩, [c], by decide +kernel, by decide +kernel, by decide,
      by decide⟩
  have hsecond : Places shipments shipments.relations.dropLast shipsAgain "Order" c' :=
    ⟨⟨"Order", [⟨"id_o", true, none⟩, .plain "id_k_ships_2", c]⟩, [c'], by decide +kernel, by decide +kernel, by decide,
      by decide⟩
  obtain ⟨hnames, hapart⟩ := places_of_parallel shipments .standard rfl
  have hparallel' : shipsAgain.IsParallelTo ships := by decide
  refine ⟨hparallel, hfirst, hsecond, ?_, hapart [] ships _ shipsAgain [] "Order" c c' rfl hparallel hfirst hsecond⟩
  exact (hnames _ shipsAgain [] ships "Order" c' rfl (List.mem_cons_self ..) hparallel' hsecond).2

end Parallel

end Derivation

end SchemaDesign
