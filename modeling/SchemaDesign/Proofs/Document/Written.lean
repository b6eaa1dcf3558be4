import SchemaDesign.Proofs.Document.Composition

namespace SchemaDesign.Document

open Text

structure WrittenBlock where
  lead : List Char
  words : List (List Char)
  gap : List Char
  body : List Char

namespace WrittenBlock

structure Writable (b : WrittenBlock) : Prop where
  blankLead : ∀ c ∈ b.lead, isBlank c = true
  blankGap : ∀ c ∈ b.gap, isBlank c = true
  named : 2 ≤ b.words.length
  word : ∀ w ∈ b.words, IsWord w
  bracelessWord : ∀ w ∈ b.words, Braceless w
  unmarked : ∀ w ∈ b.words.head?, ∀ c ∈ w.head?, isUnmarked c = true
  braceless : Braceless b.body
  quiet : Quiet b.body

def header (b : WrittenBlock) : List Char :=
  b.lead ++ (unwords b.words ++ b.gap)

def text (b : WrittenBlock) : List Char :=
  b.header ++ '\x7b' :: (b.body ++ ['\x7d'])

def blockText (b : WrittenBlock) : BlockText :=
  ⟨plain b.header, plain b.body⟩

def block (b : WrittenBlock) : Block where
  keyword := String.ofList (b.words.headD [])
  name := String.ofList (b.words.getD 1 [])
  extra := String.ofList (unwords (b.words.drop 2))
  body := String.ofList b.body

variable {b : WrittenBlock} {bs : List WrittenBlock} {tail : List Char}

theorem oneLine_header (h : b.Writable) : '\n' ∉ unwords b.words := by
  have hline : ∀ c ∈ unwords b.words, c ≠ '\n' := by
    apply forall_mem_unwords
    . decide
    . rintro word hword c hc rfl
      have hblank := (h.word word hword).2 '\n' hc
      contradiction
  exact fun hmem => hline _ hmem rfl

theorem lines_header (h : b.Writable) : lines b.header = [unwords b.words] := by
  have hnonempty : b.words ≠ [] := by
    intro hnil
    have hnamed := h.named
    simp [hnil] at hnamed
  obtain ⟨hne, htrimmed⟩ := trimmed_unwords hnonempty h.word
  have htrim : trim (unwords b.words) = unwords b.words := trim_eq_self htrimmed
  rw [header, lines_append_left h.blankLead, lines_append_right (oneLine_header h) _ h.blankGap, htrim]
  rwa [htrim]

theorem braceless_header (h : b.Writable) : Braceless b.header := by
  have hwords : ∀ c ∈ unwords b.words, c ≠ '\x7b' ∧ c ≠ '\x7d' := by
    apply forall_mem_unwords
    . decide
    . intro word hword c hc
      obtain ⟨hleft, hright⟩ := h.bracelessWord word hword
      constructor
      . rintro rfl
        exact hleft hc
      . rintro rfl
        exact hright hc
  rw [header, braceless_append, braceless_append]
  refine ⟨braceless_of_blank h.blankLead, ⟨?_, ?_⟩, braceless_of_blank h.blankGap⟩
  . exact fun hmem => (hwords _ hmem).1 rfl
  . exact fun hmem => (hwords _ hmem).2 rfl

theorem words_title (h : b.Writable) : Text.words b.blockText.title = b.words := by
  rw [BlockText.title, blockText, visible_plain, lines_header h]
  exact words_unwords h.word

theorem wellFormed_blockText (h : b.Writable) : b.blockText.WellFormed := by
  constructor
  . rw [blockText, visible_plain]
    exact braceless_header h
  . rw [blockText, visible_plain, lines_header h]
    rfl
  . rw [words_title h]
    exact h.named
  . rw [blockText, visible_plain, bracesMatch_iff]
    exact braceDepth_of_braceless h.braceless

theorem block_blockText (h : b.Writable) : b.blockText.block = b.block := by
  rw [BlockText.block, words_title h, blockText, chars_plain]
  rfl

theorem quiet_header (h : b.Writable) : Quiet b.header := by
  have hwords : Quiet (unwords b.words) := by
    have hline := oneLine_header h
    have hunmarked := h.unmarked
    have hword := h.word
    cases hws : b.words with
    | nil => exact quiet_of_isUnmarked (by simp [unwords])
    | cons word rest =>
      rw [hws] at hunmarked hword hline
      rw [List.forall_mem_cons] at hword
      cases word with
      | nil => exact absurd rfl hword.1.1
      | cons c cs =>
        rw [unwords_cons, List.cons_append] at hline ⊢
        rw [List.mem_cons, not_or] at hline
        exact quiet_line (hunmarked _ rfl c rfl) (hword.1.2 c List.mem_cons_self) hline.2
  exact (quiet_of_blank h.blankLead).append (hwords.append (quiet_of_blank h.blankGap))

theorem quiet_text (h : b.Writable) : Quiet b.text := by
  have hbrace (c : Char) (hc : isUnmarked c = true) : Quiet [c] := quiet_of_isUnmarked (by simpa using hc)
  exact (quiet_header h).append ((hbrace '\x7b' (by decide)).append (h.quiet.append (hbrace '\x7d' (by decide))))

theorem plain_text (b : WrittenBlock) : plain b.text = b.blockText.glyphs := by
  simp [text, BlockText.glyphs, blockText, plain, openingBrace, closingBrace]

theorem glyphs_text (h : ∀ b ∈ bs, b.Writable) (htail : ∀ c ∈ tail, isBlank c = true) :
    glyphs (bs.flatMap text ++ tail) = (bs.map blockText).flatMap BlockText.glyphs ++ plain tail := by
  have hquiet : Quiet (bs.flatMap text) := quiet_flatMap fun b hb => quiet_text (h b hb)
  have hplain : plain (bs.flatMap text) = (bs.map blockText).flatMap BlockText.glyphs := by
    rw [plain, List.map_flatMap, List.flatMap_map]
    apply congrArg (bs.flatMap ·)
    funext b
    exact plain_text b
  rw [(hquiet.append (quiet_of_blank htail)).glyphs_eq, plain_append, hplain]

theorem blocks_text (h : ∀ b ∈ bs, b.Writable) (htail : ∀ c ∈ tail, isBlank c = true) :
    blocks (String.ofList (bs.flatMap text ++ tail)) = pure (bs.map block) := by
  have hwellFormed : ∀ t ∈ bs.map blockText, t.WellFormed := by
    rw [List.forall_mem_map]
    intro b hb
    exact wellFormed_blockText (h b hb)
  have hblock : (bs.map blockText).map BlockText.block = bs.map block := by
    rw [List.map_map]
    apply List.map_congr_left
    intro b hb
    exact block_blockText (h b hb)
  have hvisible : ∀ c ∈ visible (plain tail), isBlank c = true := by
    rw [visible_plain]
    exact htail
  rw [blocks, String.toList_ofList, glyphs_text h htail, readBlocks_composed hwellFormed hvisible, hblock]

end WrittenBlock

end SchemaDesign.Document
