import SchemaDesign.Document.Block
import SchemaDesign.Proofs.Document.Item

namespace SchemaDesign.Document

open Text

structure Braceless (cs : List Char) : Prop where
  left : '\x7b' ∉ cs
  right : '\x7d' ∉ cs

structure IsBlockName (name : String) : Prop where
  word : IsWord name.toList
  braceless : Braceless name.toList

instance (cs : List Char) : Decidable (Braceless cs) :=
  decidable_of_iff ('\x7b' ∉ cs ∧ '\x7d' ∉ cs) ⟨fun h => ⟨h.1, h.2⟩, fun h => ⟨h.1, h.2⟩⟩

instance (name : String) : Decidable (IsBlockName name) :=
  decidable_of_iff (IsWord name.toList ∧ Braceless name.toList) ⟨fun h => ⟨h.1, h.2⟩, fun h => ⟨h.1, h.2⟩⟩

theorem braceless_nil : Braceless [] :=
  ⟨List.not_mem_nil, List.not_mem_nil⟩

section Read

variable {header body : List Char} {gs : List Glyph}

theorem name_closeBlock {b : Block} (h : (closeBlock header body).value = some b) :
    IsWord b.name.toList ∧ b.name.toList ⊆ header := by
  unfold closeBlock at h
  cases hline : (lines header).getLast? with
  | none => simp only [hline, Outcome.value_bind, Outcome.value_pure, reduceCtorEq] at h
  | some line =>
    have hsub : line ⊆ header := subset_of_mem_lines (List.mem_of_getLast? hline)
    simp only [hline, Outcome.value_bind] at h
    split at h
    . next keyword name extra hheader =>
      have hname : name ∈ words line := by
        simp only [Header.ofLine, Header.mk.injEq] at hheader
        exact List.mem_of_getElem? hheader.2.1
      simp only [Outcome.value_pure, Option.some.injEq] at h
      rw [← h, String.toList_ofList]
      exact ⟨isWord_of_mem_words hname, List.Subset.trans (subset_of_mem_words hname) hsub⟩
    . simp only [Outcome.value_bind, Outcome.value_pure, reduceCtorEq] at h

def Pending.Braceless : Pending → Prop
  | .header text => Document.Braceless text
  | .body header _ _ => Document.Braceless header

theorem Braceless.isBlockName {b : Block} (hheader : Braceless header)
    (h : (closeBlock header body).value = some b) : IsBlockName b.name := by
  obtain ⟨hword, hsub⟩ := name_closeBlock h
  constructor
  . exact hword
  . constructor
    . intro hleft
      exact hheader.left (hsub hleft)
    . intro hright
      exact hheader.right (hsub hright)

theorem isBlockName_readBlocks {b : Block} {p : Pending} (hp : p.Braceless)
    (h : b ∈ (readBlocks p gs).value) : IsBlockName b.name := by
  fun_induction readBlocks p gs with
  | case1 text => simp only [Outcome.value_bind, Outcome.value_pure, List.not_mem_nil] at h
  | case2 header _ _ => simp only [Outcome.value_bind, Outcome.value_pure, List.not_mem_nil] at h
  | case3 text c gs ih => exact ih hp h
  | case4 text _ gs _ ih => exact ih hp h
  | case5 text _ gs _ _ ih => exact ih hp h
  | case6 text c _ gs _ hleft hright ih =>
    apply ih _ h
    constructor
    . simp [Ne.symm hleft, hp.left]
    . simp [Ne.symm hright, hp.right]
  | case7 header depth text c gs ih => exact ih hp h
  | case8 header depth text _ gs _ ih => exact ih hp h
  | case9 header text _ gs _ _ ih =>
    -- A block is complete: it has taken its name from the header, and the header after it is empty.
    simp only [Outcome.value_bind, Outcome.value_pure, List.mem_append, Option.mem_toList] at h
    cases h with
    | inl hblock =>
      have hheader : Document.Braceless header.reverse := by
        constructor
        . simpa using hp.left
        . simpa using hp.right
      exact hheader.isBlockName hblock
    | inr hrest => exact ih braceless_nil hrest
  | case10 header text _ gs _ depth _ ih => exact ih hp h
  | case11 header depth text c _ gs _ _ _ ih => exact ih hp h

theorem isBlockName_blocks {text : String} {b : Block} (h : b ∈ (blocks text).value) : IsBlockName b.name :=
  isBlockName_readBlocks (p := .header []) braceless_nil h

end Read

end SchemaDesign.Document
