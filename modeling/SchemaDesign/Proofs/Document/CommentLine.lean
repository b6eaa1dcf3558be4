import SchemaDesign.Proofs.Document.Composition

/-!
This module contains what a line of comment does to the reading of blocks: wherever it is inserted, the same blocks are
read with the same objections, and at most the body of one of them holds one more line, of which no item is made.
-/

namespace SchemaDesign.Document

open Text

structure CommentLine where
  indent : List Char
  mark : List Char
  remark : List Char
  blank : ∀ c ∈ indent, isBlank c = true ∧ c ≠ '\n'
  isMark : mark ∈ commentMarks
  oneLine : '\n' ∉ remark

/--
What the readers of a level look at in a block.
-/
structure Block.Content where
  keyword : String
  name : String
  extra : String
  items : List (List Char)
deriving DecidableEq, Repr

def Block.content (b : Block) : Block.Content :=
  ⟨b.keyword, b.name, b.extra, b.items⟩

section Glyphs

variable {cs rest : List Char}

theorem of_mem_commentMarks : ∀ mark ∈ commentMarks, mark ≠ [] ∧ '\n' ∉ mark ∧ ∀ c ∈ mark, isBlank c = false := by
  decide

theorem visible_comment : visible (cs.map (⟨·, true⟩)) = [] := by
  simp [visible, chars]

theorem opensComment_trim (h : opensComment cs = true) : opensComment (trim cs) = true := by
  obtain ⟨mark, hmark, rest, rfl⟩ := opensComment_iff.1 h
  obtain ⟨hne, -, hblank⟩ := of_mem_commentMarks mark hmark
  have hfirst : ∀ c ∈ (mark ++ rest).head?, isBlank c = false := by
    cases mark with
    | nil => contradiction
    | cons d mark => simpa using hblank d List.mem_cons_self
  rw [trim, trimStart_eq_self hfirst, trimEnd_append_left]
  . exact opensComment_iff.2 ⟨mark, hmark, List.prefix_append _ _⟩
  . intro c hc
    exact hblank c (List.mem_of_mem_getLast? hc)

theorem glyphs_indent (h : ∀ c ∈ cs, isBlank c = true ∧ c ≠ '\n') : glyphs (cs ++ rest) = plain cs ++ glyphs rest := by
  induction cs with
  | nil => rfl
  | cons c cs ih =>
    rw [List.forall_mem_cons] at h
    obtain ⟨⟨hblank, hc⟩, hcs⟩ := h
    rw [List.cons_append, glyphs, glyphs.go, if_neg hc]
    simp only [opensComment_of_isBlank hblank, hblank, Bool.false_eq_true, if_false, if_true]
    rw [← glyphs, ih hcs]
    rfl

theorem glyphs_go_comment (h : '\n' ∉ cs) :
    glyphs.go .comment (cs ++ '\n' :: rest) = cs.map (⟨·, true⟩) ++ ⟨'\n', false⟩ :: glyphs rest := by
  induction cs with
  | nil => rfl
  | cons c cs ih =>
    rw [List.mem_cons, not_or] at h
    rw [List.cons_append, glyphs.go, if_neg (Ne.symm h.1), ih h.2]
    rfl

end Glyphs

namespace CommentLine

variable (line : CommentLine)

def text : List Char :=
  line.indent ++ (line.mark ++ line.remark) ++ ['\n']

theorem endsLine_text : EndsLine line.text := by
  simp [EndsLine, text]

theorem opensComment_mark (rest : List Char) : opensComment (line.mark ++ rest) = true :=
  opensComment_iff.2 ⟨line.mark, line.isMark, List.prefix_append _ rest⟩

theorem oneLine_comment : '\n' ∉ line.mark ++ line.remark := by
  rw [List.mem_append, not_or]
  exact ⟨(of_mem_commentMarks _ line.isMark).2.1, line.oneLine⟩

theorem glyphs_text :
    glyphs line.text = plain line.indent ++ ((line.mark ++ line.remark).map (⟨·, true⟩) ++ plain ['\n']) := by
  rw [text, List.append_assoc, glyphs_indent line.blank]
  obtain ⟨hne, -, -⟩ := of_mem_commentMarks _ line.isMark
  have hopens := line.opensComment_mark (line.remark ++ ['\n'])
  have honeLine := line.oneLine_comment
  rw [← List.append_assoc] at hopens
  cases hcomment : line.mark ++ line.remark with
  | nil => simp [hne] at hcomment
  | cons c cs =>
    rw [hcomment] at hopens honeLine
    rw [List.mem_cons, not_or] at honeLine
    rw [List.cons_append] at hopens ⊢
    rw [glyphs, glyphs.go, if_neg (Ne.symm honeLine.1)]
    simp only [hopens, if_true]
    rw [glyphs_go_comment honeLine.2]
    rfl

theorem visible_glyphs_text : visible (glyphs line.text) = line.indent ++ ['\n'] := by
  rw [glyphs_text, visible_append, visible_append, visible_plain, visible_plain, visible_comment, List.nil_append]

theorem items_text : items line.text = [] := by
  have hindent : ∀ c ∈ line.indent, isBlank c = true := by
    intro c hc
    exact (line.blank c hc).1
  have hopens : opensComment (trim (line.mark ++ line.remark)) = true :=
    opensComment_trim (line.opensComment_mark line.remark)
  have hne : trim (line.mark ++ line.remark) ≠ [] := by
    intro hnil
    rw [hnil] at hopens
    contradiction
  have hlines : lines line.text = [trim (line.mark ++ line.remark)] := by
    rw [text, List.append_assoc, lines_append_left hindent, lines_append_cons, lines_line line.oneLine_comment hne,
      lines_nil, List.append_nil]
  rw [items, hlines, List.flatMap_singleton, lineItems, if_pos hopens]

end CommentLine

def Pending.text : Pending → List Char
  | .header text => text
  | .body _ _ text => text

section Insert

variable {title body body' text text' front back : List Char} {depth : Nat} {p : Pending} {gs : List Glyph}

def SameBlocks (x y : Outcome (List Block)) : Prop :=
  x.value.map Block.content = y.value.map Block.content ∧ x.diagnostics = y.diagnostics

theorem SameBlocks.refl (x : Outcome (List Block)) : SameBlocks x x :=
  ⟨rfl, rfl⟩

def SameItems (front front' : List Char) : Prop :=
  ∀ back, items (front ++ back) = items (front' ++ back)

theorem SameItems.append (h : SameItems text text') (back : List Char) : SameItems (text ++ back) (text' ++ back) := by
  intro rest
  rw [List.append_assoc, List.append_assoc, h]

theorem closeBlock_eq_map (title body : List Char) :
    closeBlock title body
      =
    Option.map (fun b => { b with body := String.ofList body }) <$> closeBlock title [] := by
  simp only [closeBlock]
  cases (lines title).getLast? with
  | none => simp
  | some line =>
    dsimp only
    generalize Header.ofLine line = header
    obtain ⟨keyword, name, extra⟩ := header
    cases keyword <;> cases name <;> simp

theorem content_closeBlock (title : List Char) (h : items body = items body') :
    (closeBlock title body).value.map Block.content = (closeBlock title body').value.map Block.content
      ∧ (closeBlock title body).diagnostics = (closeBlock title body').diagnostics := by
  rw [closeBlock_eq_map title body, closeBlock_eq_map title body']
  cases hblock : (closeBlock title []).value <;> simp [hblock, Block.content, Block.items, h]

theorem sameBlocks_body (h : SameItems text.reverse text'.reverse) :
    SameBlocks (readBlocks (.body title depth text) gs) (readBlocks (.body title depth text') gs) := by
  induction gs generalizing depth text text' with
  | nil =>
    rw [readBlocks_nil, readBlocks_nil]
    exact ⟨rfl, rfl⟩
  | cons g gs ih =>
    cases hstep : braceDepth depth (visible [g]) with
    | some depth' =>
      obtain ⟨hemit, hnext⟩ := emit_next_body title text hstep
      obtain ⟨hemit', hnext'⟩ := emit_next_body title text' hstep
      rw [readBlocks_cons_of_emit hemit, readBlocks_cons_of_emit hemit', hnext, hnext']
      apply ih
      rw [List.reverse_cons, List.reverse_cons]
      exact h.append [g.char]
    | none =>
      -- The block ends here, and the next one is not concerned any more.
      obtain ⟨rfl, rfl⟩ := eq_closingBrace hstep
      have hitems : items text.reverse = items text'.reverse := by simpa using h []
      obtain ⟨hvalue, hdiagnostics⟩ := content_closeBlock title.reverse hitems
      rw [readBlocks_closingBrace, readBlocks_closingBrace]
      simp [SameBlocks, hdiagnostics, ← Option.toList_map, hvalue]

theorem EndsLine.foldl_next (h : EndsLine front) :
    EndsLine ((glyphs front).foldl Pending.next (.header [])).text.reverse := by
  rcases h.cases with rfl | ⟨init, rfl⟩
  . exact h
  . have hnil : glyphs [] = [] := rfl
    rw [glyphs_append_newline, List.foldl_append, List.foldl_cons, hnil, List.foldl_nil]
    cases (glyphs init).foldl Pending.next (.header []) <;>
      simp [EndsLine, Pending.next, Pending.text, openingBrace, closingBrace]

theorem EndsLine.items_append (h : EndsLine front) (back : List Char) :
    items (front ++ back) = items front ++ items back := by
  rw [items, h.lines_append, List.flatMap_append]
  rfl

theorem sameBlocks_commentLine (line : CommentLine) (h : EndsLine p.text.reverse) (gs : List Glyph) :
    SameBlocks (readBlocks p (glyphs line.text ++ gs)) (readBlocks p gs) := by
  have hvisible := line.visible_glyphs_text
  have hblank : ∀ c ∈ line.indent ++ ['\n'], isBlank c = true := by
    intro c hc
    rw [List.mem_append, List.mem_singleton] at hc
    rcases hc with hc | rfl
    . exact (line.blank c hc).1
    . decide
  have hbraces : Braceless (visible (glyphs line.text)) := by
    rw [hvisible]
    exact braceless_of_blank hblank
  cases p with
  | header text =>
    have h : EndsLine text.reverse := h
    rw [readBlocks_header_glyphs hbraces, hvisible]
    have hsame : Pending.SameHeader (.header ((line.indent ++ ['\n']).reverse ++ text)) (.header text) := by
      constructor
      intro back
      rw [List.reverse_append, List.reverse_reverse, List.append_assoc, h.lines_append, h.lines_append,
        lines_append_left hblank]
    rw [hsame.readBlocks_eq]
    exact .refl _
  | body title depth text =>
    have h : EndsLine text.reverse := h
    have hdepth : braceDepth depth (visible (glyphs line.text)) = some depth := braceDepth_of_braceless hbraces
    rw [readBlocks_body_glyphs hdepth, chars_glyphs]
    apply sameBlocks_body
    intro back
    rw [List.reverse_append, List.reverse_reverse, List.append_assoc, h.items_append, h.items_append,
      line.endsLine_text.items_append, line.items_text, List.nil_append]

theorem sameBlocks_insert (line : CommentLine) (h : EndsLine front) (back : List Char) :
    SameBlocks (blocks (String.ofList (front ++ line.text ++ back))) (blocks (String.ofList (front ++ back))) := by
  simp only [blocks, String.toList_ofList]
  rw [List.append_assoc, h.glyphs_append, h.glyphs_append, line.endsLine_text.glyphs_append,
    readBlocks_append _ (glyphs front), readBlocks_append _ (glyphs front)]
  obtain ⟨hvalue, hdiagnostics⟩ := sameBlocks_commentLine line h.foldl_next (glyphs back)
  simp [SameBlocks, hvalue, hdiagnostics]

end Insert

end SchemaDesign.Document
