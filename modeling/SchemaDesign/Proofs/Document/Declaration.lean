import SchemaDesign.Document.Declaration
import SchemaDesign.Proofs.Document.Flag
import SchemaDesign.Proofs.Document.Listing
import SchemaDesign.Proofs.Outcome

namespace SchemaDesign.Document

open Text

variable {α : Type}

theorem getLast?_filterMap_cons {β : Type} (f : α → Option β) (a : α) (as : List α) (first : Option β) :
    ((a :: as).filterMap f).getLast?.or first = (as.filterMap f).getLast?.or ((f a).or first) := by
  rw [List.filterMap_cons]
  cases f a with
  | none => rfl
  | some b =>
    rw [List.getLast?_cons]
    cases (as.filterMap f).getLast? <;> rfl

section Distinct

variable {name : α → String} {read : List Char → Outcome (Option α)} {owner : String}

theorem nodup_readDistinct (name : α → String) (read : List Char → Outcome (Option α)) (owner : String)
    (items : List (List Char)) : ((readDistinct name read owner items).value.map name).Nodup := by
  apply Outcome.foldlM_invariant fun declared : List α => (declared.map name).Nodup
  . simp
  . intro declared item _ hdeclared
    simp only [readDistinct.step, Outcome.value_bind]
    cases (read item).value with
    | none => exact hdeclared
    | some d =>
      simp only
      split
      . exact hdeclared
      . next hfree =>
        simp only [List.any_eq_true, decide_eq_true_eq, not_exists, not_and] at hfree
        rw [Outcome.value_pure, List.map_append, List.nodup_append]
        refine ⟨hdeclared, by simp, ?_⟩
        intro used hused new hnew heq
        obtain ⟨d', hd', hname⟩ := List.mem_map.1 hused
        apply hfree d' hd'
        rw [List.map_singleton, List.mem_singleton] at hnew
        rw [hname, heq, hnew]

theorem forall_readDistinct {p : α → Prop} {items : List (List Char)}
    (h : ∀ item ∈ items, ∀ d ∈ (read item).value, p d) : ∀ d ∈ (readDistinct name read owner items).value, p d := by
  apply Outcome.foldlM_invariant fun declared : List α => ∀ d ∈ declared, p d
  . simp
  . intro declared item hmem hdeclared
    simp only [readDistinct.step, Outcome.value_bind]
    cases hitem : (read item).value with
    | none => exact hdeclared
    | some d =>
      simp only
      split
      . exact hdeclared
      . intro d' hd'
        rw [Outcome.value_pure, List.mem_append, List.mem_singleton] at hd'
        cases hd' with
        | inl hold => exact hdeclared d' hold
        | inr hnew =>
          apply h item hmem
          rw [hnew, hitem]
          rfl

theorem readDistinct_map {ds : List α} {text : α → List Char} (hread : ∀ d ∈ ds, read (text d) = pure (some d))
    (hnodup : (ds.map name).Nodup) : readDistinct name read owner (ds.map text) = pure ds := by
  -- The induction is on what is left of the list, behind what has been declared by then.
  suffices h : ∀ back front, ds = front ++ back →
      (back.map text).foldlM (readDistinct.step name read owner) front = pure ds by
    exact h ds [] rfl
  intro back
  induction back with
  | nil =>
    intro front hsplit
    rw [hsplit, List.append_nil]
    rfl
  | cons d back ih =>
    intro front hsplit
    have hfree : front.any (name · = name d) = false := by
      rw [hsplit, List.map_append, List.map_cons, List.nodup_append] at hnodup
      simp only [List.any_eq_false, decide_eq_true_eq]
      intro d' hd'
      exact hnodup.2.2 _ (List.mem_map_of_mem hd') _ List.mem_cons_self
    have hstep : readDistinct.step name read owner front (text d) = pure (front ++ [d]) := by
      rw [readDistinct.step, hread d (by simp [hsplit]), pure_bind]
      simp only [hfree, Bool.false_eq_true, if_false]
    rw [List.map_cons, List.foldlM_cons, hstep, pure_bind]
    apply ih
    simpa using hsplit

theorem readDistinct_listing {ds : List α} {parts : α → Parts} {table : String}
    (h : Listing.Writable ⟨table, ds.map parts⟩) (hread : ∀ d ∈ ds, read (parts d).text = pure (some d))
    (hnodup : (ds.map name).Nodup) :
    readDistinct name read owner (Listing.block ⟨table, ds.map parts⟩).items = pure ds := by
  rw [Listing.items_block h, List.map_map]
  exact readDistinct_map hread hnodup

end Distinct

section Flags

variable {apply : α → Flag → α} {column owner : String}

theorem readFlags_text {fs : List Flag} (h : ∀ f ∈ fs, f.Writable column) (declared : α) :
    readFlags column owner apply declared (fs.map Flag.text) = pure (fs.foldl apply declared) := by
  unfold readFlags
  induction fs generalizing declared with
  | nil => rfl
  | cons f fs ih =>
    rw [List.forall_mem_cons] at h
    have hstep : readFlags.step column owner apply declared f.text = pure (apply declared f) := by
      rw [readFlags.step, readFlag_text h.1]
      rfl
    rw [List.map_cons, List.foldlM_cons, hstep, pure_bind, ih h.2]
    rfl

theorem readFlags_invariant (motive : α → Prop) {declared : α} {flags : List (List Char)} (start : motive declared)
    (next : ∀ d f, ∀ flag ∈ flags, (readFlag column flag).result = .ok f → motive d → motive (apply d f)) :
    motive (readFlags column owner apply declared flags).value := by
  apply Outcome.foldlM_invariant motive start
  intro d flag hflag hd
  simp only [readFlags.step]
  cases hresult : (readFlag column flag).result with
  | error issue => exact hd
  | ok f => exact next d f flag hflag hresult hd

theorem readFlags_keeps {β : Type} {f : α → β} (h : ∀ d flag, f (apply d flag) = f d) (declared : α)
    (flags : List (List Char)) : f (readFlags column owner apply declared flags).value = f declared := by
  apply readFlags_invariant fun d => f d = f declared
  . rfl
  . intro d meaning flag _ _ hd
    rw [h, hd]

end Flags

section Tables

variable {read : Block → Outcome α}

theorem readTables_write {ts : List α} {write : α → String} {listing : α → Listing}
    (hwrite : ∀ t, write t = (listing t).write) (h : ∀ t ∈ ts, (listing t).Writable)
    (hread : ∀ t ∈ ts, read (listing t).block = pure t) :
    readTables read ("\n".intercalate (ts.map write)) = pure ts := by
  have hblocks : blocks ("\n".intercalate (ts.map write)) = pure (ts.map fun t => (listing t).block) := by
    have hlistings : ∀ l ∈ ts.map listing, l.Writable := by simpa using h
    have := Listing.blocks_intercalate hlistings
    rw [List.map_map, List.map_map] at this
    rwa [funext hwrite]
  rw [readTables, hblocks, pure_bind]
  apply Outcome.collect_map
  intro t ht
  rw [readTables.step, if_pos (listing t).hasKeyword_block, hread t ht]
  rfl

theorem forall_readTables {p : α → Prop} (h : ∀ b : Block, IsBlockName b.name → p (read b).value)
    (text : String) : ∀ t ∈ (readTables read text).value, p t := by
  intro t ht
  simp only [readTables, Outcome.value_bind, Outcome.value_collect, List.mem_filterMap] at ht
  obtain ⟨b, hb, hstep⟩ := ht
  unfold readTables.step at hstep
  split at hstep
  . simp only [Outcome.value_bind, Outcome.value_pure, Option.some.injEq] at hstep
    rw [← hstep]
    exact h b (isBlockName_blocks hb)
  . simp only [Outcome.value_bind, Outcome.value_pure, reduceCtorEq] at hstep

end Tables

end SchemaDesign.Document
