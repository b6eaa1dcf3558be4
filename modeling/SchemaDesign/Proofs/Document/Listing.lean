import SchemaDesign.Document.Declaration
import SchemaDesign.Logical.Writer
import SchemaDesign.Proofs.Document.Written

namespace SchemaDesign.Document

open Text

structure Listing where
  name : String
  items : List Parts

namespace Listing

structure Writable (l : Listing) : Prop where
  name : IsBlockName l.name
  items : ∀ p ∈ l.items, p.Writable

def body (l : Listing) : List Char :=
  '\n' :: l.items.flatMap fun p => p.line ++ ['\n']

def write (l : Listing) : String :=
  writeTable l.name (l.items.map fun p => String.ofList (p.line ++ ['\n']))

def block (l : Listing) : Block :=
  ⟨"TABLE", l.name, "", String.ofList l.body⟩

variable {l : Listing} {ls : List Listing}

theorem hasKeyword_block (l : Listing) : l.block.hasKeyword "TABLE" = true := by
  change spells "TABLE".toList "TABLE" = true
  decide

theorem items_block (h : l.Writable) : l.block.items = l.items.map Parts.text := by
  have hlines : Document.items l.body = Document.items (l.items.flatMap fun p => p.line ++ ['\n']) := by
    have hnewline : isBlank '\n' = true := by decide
    rw [body, Document.items, lines_cons hnewline]
    rfl
  rw [Block.items, block, String.toList_ofList, hlines, items_lines h.items]

theorem braceless_body (h : l.Writable) : Braceless l.body := by
  have hmem : ∀ c ∈ l.body, c ≠ '\x7b' ∧ c ≠ '\x7d' := by
    intro c hc
    simp only [body, Parts.line, List.mem_cons, List.mem_flatMap, List.mem_append, List.not_mem_nil,
      or_false] at hc
    rcases hc with rfl | ⟨p, hp, (hindent | htext) | rfl⟩
    . decide
    . revert c
      decide
    . have hframe := mem_text (h.items p hp) c htext
      simp only [List.mem_cons, List.not_mem_nil, or_false, not_or] at hframe
      exact hframe.2
    . decide
  constructor
  . intro hleft
    exact (hmem _ hleft).1 rfl
  . intro hright
    exact (hmem _ hright).2 rfl

theorem quiet_line_text {p : Parts} (h : p.Writable) : Quiet p.line := by
  have hindent : ∀ c ∈ "    ".toList, isBlank c = true := by decide
  have honeLine : '\n' ∉ p.text := fun hmem => mem_text h _ hmem (by decide)
  have hfirst : ∀ c ∈ p.text.head?, isWordChar c = true := by
    rw [head?_text h]
    exact h.first
  apply (quiet_of_blank hindent).append
  cases htext : p.text with
  | nil => exact absurd htext (text_ne_nil h)
  | cons c cs =>
    rw [htext] at hfirst honeLine
    rw [List.mem_cons, not_or] at honeLine
    have hc : isWordChar c = true := hfirst c rfl
    exact quiet_line (isUnmarked_of_isWordChar hc) (isBlank_of_isWordChar hc) honeLine.2

theorem quiet_body (h : l.Writable) : Quiet l.body := by
  have hnewline : Quiet ['\n'] := quiet_of_blank (by decide)
  have hlines : Quiet (l.items.flatMap fun p => p.line ++ ['\n']) := by
    apply quiet_flatMap
    intro p hp
    exact (quiet_line_text (h.items p hp)).append hnewline
  exact hnewline.append hlines

def written (lead : List Char) (l : Listing) : WrittenBlock :=
  ⟨lead, ["TABLE".toList, l.name.toList], [' '], l.body⟩

theorem writable_written (h : l.Writable) {lead : List Char} (hlead : ∀ c ∈ lead, isBlank c = true) :
    (written lead l).Writable where
  blankLead := hlead
  blankGap := by
    change ∀ c ∈ [' '], isBlank c = true
    decide
  named := Nat.le_refl 2
  word := List.forall_mem_cons.2 ⟨⟨by decide, by decide⟩, List.forall_mem_singleton.2 h.name.word⟩
  bracelessWord := List.forall_mem_cons.2 ⟨⟨by decide, by decide⟩, List.forall_mem_singleton.2 h.name.braceless⟩
  unmarked := by
    change ∀ w ∈ some "TABLE".toList, ∀ c ∈ w.head?, isUnmarked c = true
    decide
  braceless := braceless_body h
  quiet := quiet_body h

theorem toList_intercalate (ls : List Listing) :
    ("\n".intercalate (ls.map write)).toList = ['\n'].intercalate (ls.map fun l => l.write.toList) := by
  rw [String.toList_intercalate, List.map_map]
  rfl

theorem block_written (lead : List Char) (l : Listing) : (written lead l).block = l.block := by
  simp [WrittenBlock.block, written, block, unwords]

theorem text_written (lead : List Char) (l : Listing) : (written lead l).text ++ ['\n'] = lead ++ l.write.toList := by
  rw [WrittenBlock.text, WrittenBlock.header, written, unwords_cons, write, writeTable, body]
  simp only [String.toList_append, String.toList_join, List.flatMap_map, String.toList_ofList]
  simp

theorem exists_written (h : ∀ l ∈ ls, l.Writable) {lead : List Char} (hlead : ∀ c ∈ lead, isBlank c = true) :
    ∃ bs : List WrittenBlock, ∃ tail,
      lead ++ ['\n'].intercalate (ls.map fun l => l.write.toList) = bs.flatMap WrittenBlock.text ++ tail
        ∧ bs.map WrittenBlock.block = ls.map block ∧ (∀ b ∈ bs, b.Writable) ∧ ∀ c ∈ tail, isBlank c = true := by
  induction ls generalizing lead with
  | nil => exact ⟨[], lead, by simp, rfl, by simp, hlead⟩
  | cons l ls ih =>
    rw [List.forall_mem_cons] at h
    -- What stands before the next listing, or at the end of the document.
    obtain ⟨next, hnext, htext⟩ : ∃ next : List Char, (∀ c ∈ next, isBlank c = true) ∧
        lead ++ ['\n'].intercalate ((l :: ls).map fun l => l.write.toList)
          = (written lead l).text ++ (next ++ ['\n'].intercalate (ls.map fun l => l.write.toList)) := by
      cases ls with
      | nil =>
        refine ⟨['\n'], by decide, ?_⟩
        simp [← text_written]
      | cons l' ls =>
        refine ⟨['\n', '\n'], by decide, ?_⟩
        rw [List.map_cons, List.map_cons, List.intercalate_cons_cons, ← List.append_assoc, ← List.append_assoc,
          ← text_written]
        simp
    obtain ⟨bs, tail, hrest, hblocks, hbs, htail⟩ := ih h.2 hnext
    refine ⟨written lead l :: bs, tail, ?_, ?_, ?_, htail⟩
    . rw [htext, hrest, List.flatMap_cons, List.append_assoc]
    . rw [List.map_cons, List.map_cons, block_written, hblocks]
    . rw [List.forall_mem_cons]
      exact ⟨writable_written h.1 hlead, hbs⟩

theorem blocks_intercalate (h : ∀ l ∈ ls, l.Writable) :
    blocks ("\n".intercalate (ls.map write)) = pure (ls.map block) := by
  have hlead : ∀ c ∈ ([] : List Char), isBlank c = true := by simp
  obtain ⟨bs, tail, htext, hblocks, hbs, htail⟩ := exists_written h hlead
  rw [← String.ofList_toList (s := "\n".intercalate _), toList_intercalate, ← List.nil_append (List.intercalate _ _),
    htext, WrittenBlock.blocks_text hbs htail, hblocks]

end Listing

end SchemaDesign.Document
