import SchemaDesign.Proofs.Document.CommentPlace
import SchemaDesign.Proofs.Document.Walk

/-!
This module contains what a document consists of if nothing is said against its outer form: the texts of blocks one
after another, each a header and a body in braces, and blanks behind them. Comments count for nothing but in the body,
which is kept as it stands.
-/

namespace SchemaDesign.Document

open Text

section Braces

structure BracesMatch (cs : List Char) : Prop where
  paired : cs.count '\x7b' = cs.count '\x7d'
  opened : ∀ front, front <+: cs → front.count '\x7d' ≤ front.count '\x7b'

def braceStep (depth : Nat) (c : Char) : Option Nat :=
  if c = '\x7b' then some (depth + 1)
  else if c = '\x7d' then if depth = 0 then none else some (depth - 1)
  else some depth

def braceDepth (depth : Nat) (cs : List Char) : Option Nat :=
  cs.foldlM braceStep depth

variable {cs : List Char} {c : Char} {depth depth' : Nat}

theorem braceDepth_cons : braceDepth depth (c :: cs) = (braceStep depth c).bind (braceDepth · cs) := rfl

theorem forall_prefix_cons {p : List Char → Prop} :
    (∀ front, front <+: c :: cs → p front) ↔ p [] ∧ ∀ front, front <+: cs → p (c :: front) := by
  constructor
  . intro h
    refine ⟨h [] List.nil_prefix, ?_⟩
    intro front hfront
    exact h (c :: front) (List.cons_prefix_cons.2 ⟨rfl, hfront⟩)
  . rintro ⟨hnil, hcons⟩ front hfront
    rw [List.prefix_cons_iff] at hfront
    rcases hfront with rfl | ⟨front, rfl, hfront⟩
    . exact hnil
    . exact hcons front hfront

theorem braceDepth_eq_some_iff :
    braceDepth depth cs = some depth'
      ↔
    depth + cs.count '\x7b' = depth' + cs.count '\x7d' ∧
      ∀ front, front <+: cs → front.count '\x7d' ≤ depth + front.count '\x7b' := by
  induction cs generalizing depth with
  | nil => simp [braceDepth]
  | cons c cs ih =>
    rw [forall_prefix_cons, braceDepth_cons, braceStep]
    split
    . next hleft =>
      rw [Option.bind_some, ih]
      grind
    . next hleft =>
      split
      . next hright =>
        split
        . next hzero =>
          -- The text that ends with this brace has closed one too many.
          have hfirst : [] <+: cs := List.nil_prefix
          grind
        . next hpos =>
          rw [Option.bind_some, ih]
          grind
      . next hright =>
        rw [Option.bind_some, ih]
        simp [hleft, hright]

theorem braceDepth_of_braceless (h : Braceless cs) : braceDepth depth cs = some depth := by
  induction cs with
  | nil => rfl
  | cons c cs ih =>
    obtain ⟨hleft, hright⟩ := h
    rw [List.mem_cons, not_or] at hleft hright
    rw [braceDepth_cons, braceStep, if_neg (Ne.symm hleft.1), if_neg (Ne.symm hright.1)]
    exact ih ⟨hleft.2, hright.2⟩

theorem bracesMatch_iff : BracesMatch cs ↔ braceDepth 0 cs = some 0 := by
  rw [braceDepth_eq_some_iff]
  simp only [Nat.zero_add]
  exact ⟨fun h => ⟨h.paired, h.opened⟩, fun h => ⟨h.1, h.2⟩⟩

instance (cs : List Char) : Decidable (BracesMatch cs) :=
  decidable_of_iff (braceDepth 0 cs = some 0) bracesMatch_iff.symm

end Braces

structure BlockText where
  header : List Glyph
  body : List Glyph

namespace BlockText

def glyphs (t : BlockText) : List Glyph :=
  t.header ++ openingBrace :: (t.body ++ [closingBrace])

def title (t : BlockText) : List Char :=
  (lines (visible t.header)).headD []

/--
Comments skipped, the header has no brace and one line of two words or more, and the braces of the body are balanced,
so that the brace behind it is the partner of the one before it.
-/
structure WellFormed (t : BlockText) : Prop where
  braceless : Braceless (visible t.header)
  oneLine : (lines (visible t.header)).length = 1
  named : 2 ≤ (words t.title).length
  balanced : BracesMatch (visible t.body)

instance (t : BlockText) : Decidable t.WellFormed :=
  decidable_of_iff
    (Braceless (visible t.header) ∧ (lines (visible t.header)).length = 1 ∧ 2 ≤ (words t.title).length
      ∧ BracesMatch (visible t.body))
    ⟨fun h => ⟨h.1, h.2.1, h.2.2.1, h.2.2.2⟩, fun h => ⟨h.1, h.2, h.3, h.4⟩⟩

def block (t : BlockText) : Block where
  keyword := String.ofList ((words t.title).headD [])
  name := String.ofList ((words t.title).getD 1 [])
  extra := String.ofList (unwords ((words t.title).drop 2))
  body := String.ofList (chars t.body)

end BlockText

/--
A text consists of the texts of blocks and blanks behind them, with the comments where they are in the text.
-/
structure Composed (text : List Char) (ts : List BlockText) (tail : List Glyph) : Prop where
  spelled : chars (ts.flatMap BlockText.glyphs ++ tail) = text
  marked : Marked (ts.flatMap BlockText.glyphs ++ tail)
  wellFormed : ∀ t ∈ ts, t.WellFormed
  blank : ∀ c ∈ visible tail, isBlank c = true

section Glyphs

theorem braceless_iff {cs : List Char} : Braceless cs ↔ '\x7b' ∉ cs ∧ '\x7d' ∉ cs :=
  ⟨fun h => ⟨h.left, h.right⟩, fun h => ⟨h.1, h.2⟩⟩

variable {front back gs : List Glyph} {g : Glyph}

theorem visible_append : visible (front ++ back) = visible front ++ visible back := by
  simp [visible, chars]

theorem braceless_of_blank {cs : List Char} (h : ∀ c ∈ cs, isBlank c = true) : Braceless cs := by
  constructor
  . intro hleft
    exact absurd (h _ hleft) (by decide)
  . intro hright
    exact absurd (h _ hright) (by decide)

theorem braceless_append {front back : List Char} : Braceless (front ++ back) ↔ Braceless front ∧ Braceless back := by
  simp only [braceless_iff, List.mem_append]
  grind

theorem braceless_visible_singleton : Braceless (visible [g]) ↔ g ≠ openingBrace ∧ g ≠ closingBrace := by
  obtain ⟨c, inComment⟩ := g
  cases inComment <;> simp [braceless_iff, visible, chars, openingBrace, closingBrace, eq_comm]

end Glyphs

section Read

variable {header body pending title : List Char} {hs bs gs tail : List Glyph} {ts : List BlockText} {t : BlockText}
  {p : Pending} {g : Glyph} {depth depth' : Nat}

theorem readBlocks_cons_of_emit (h : p.emit g = pure none) : readBlocks p (g :: gs) = readBlocks (p.next g) gs := by
  simp [readBlocks_cons, h]

theorem emit_next_header (h : Braceless (visible [g])) :
    (Pending.header pending).emit g = pure none
      ∧ (Pending.header pending).next g = .header (visible [g] ++ pending) := by
  obtain ⟨hopen, hclose⟩ := braceless_visible_singleton.1 h
  refine ⟨if_neg hclose, ?_⟩
  rw [Pending.next, if_neg hopen]
  cases hg : g.inComment <;> simp [visible, chars, hclose, hg]

theorem readBlocks_header_glyphs (h : Braceless (visible hs)) :
    readBlocks (.header pending) (hs ++ gs) = readBlocks (.header ((visible hs).reverse ++ pending)) gs := by
  induction hs generalizing pending with
  | nil => rfl
  | cons g hs ih =>
    have hvisible : visible (g :: hs) = visible [g] ++ visible hs := @visible_append [g] hs
    rw [hvisible, braceless_append] at h
    obtain ⟨hemit, hnext⟩ := emit_next_header h.1
    rw [List.cons_append, readBlocks_cons_of_emit hemit, hnext, ih h.2, hvisible]
    cases hg : g.inComment <;> simp [visible, chars, hg]

theorem emit_next_body (title pending : List Char) (h : braceDepth depth (visible [g]) = some depth') :
    (Pending.body title depth pending).emit g = pure none
      ∧ (Pending.body title depth pending).next g = .body title depth' (g.char :: pending) := by
  obtain ⟨c, inComment⟩ := g
  cases inComment with
  | true =>
    obtain rfl : depth = depth' := by simpa [visible, chars, braceDepth] using h
    cases depth <;> simp [Pending.emit, Pending.next, openingBrace, closingBrace]
  | false =>
    have hstep : braceStep depth c = some depth' := by simpa [visible, chars, braceDepth] using h
    unfold braceStep at hstep
    split at hstep
    . next hleft =>
      obtain rfl : depth + 1 = depth' := by simpa using hstep
      cases depth <;> simp [Pending.emit, Pending.next, openingBrace, closingBrace, hleft]
    . next hleft =>
      split at hstep
      . next hright =>
        cases depth with
        | zero => simp at hstep
        | succ depth =>
          obtain rfl : depth = depth' := by simpa using hstep
          simp [Pending.emit, Pending.next, openingBrace, closingBrace, hright]
      . next hright =>
        obtain rfl : depth = depth' := by simpa using hstep
        cases depth <;> simp [Pending.emit, Pending.next, openingBrace, closingBrace, hleft, hright]

theorem eq_closingBrace (h : braceDepth depth (visible [g]) = none) : depth = 0 ∧ g = closingBrace := by
  obtain ⟨c, inComment⟩ := g
  cases inComment with
  | true => simp [visible, chars, braceDepth] at h
  | false =>
    have hstep : braceStep depth c = none := by simpa [visible, chars, braceDepth] using h
    unfold braceStep at hstep
    simp only [closingBrace, Glyph.mk.injEq, and_true]
    grind

theorem readBlocks_body_glyphs (h : braceDepth depth (visible bs) = some depth') :
    readBlocks (.body title depth pending) (bs ++ gs)
      =
    readBlocks (.body title depth' ((chars bs).reverse ++ pending)) gs := by
  induction bs generalizing depth pending with
  | nil =>
    obtain rfl : depth = depth' := by simpa [visible, chars, braceDepth] using h
    rfl
  | cons g bs ih =>
    change braceDepth depth (visible ([g] ++ bs)) = some depth' at h
    rw [visible_append, braceDepth, List.foldlM_append] at h
    obtain ⟨mid, hg, hbs⟩ := Option.bind_eq_some_iff.1 h
    obtain ⟨hemit, hnext⟩ := emit_next_body title pending hg
    rw [List.cons_append, readBlocks_cons_of_emit hemit, hnext, ih hbs]
    simp [chars]

theorem readBlocks_closingBrace :
    readBlocks (.body title 0 pending) (closingBrace :: gs) = do
      let block ← closeBlock title.reverse pending.reverse
      let blocks ← readBlocks (.header []) gs
      return block.toList ++ blocks :=
  readBlocks_cons ..

theorem closeBlock_blockText (h : t.WellFormed) :
    closeBlock (visible t.header) (chars t.body) = pure (some t.block) := by
  obtain ⟨line, hline⟩ := List.length_eq_one_iff.1 h.oneLine
  have htitle : t.title = line := by rw [BlockText.title, hline]; rfl
  have hnamed := h.named
  rw [htitle] at hnamed
  match hwords : words line with
  | [] => simp [hwords] at hnamed
  | [_] => simp [hwords] at hnamed
  | keyword :: name :: extra =>
    have hheader : Header.ofLine line = ⟨some keyword, some name, unwords extra⟩ := by
      rw [Header.ofLine, hwords]
      rfl
    simp only [closeBlock, hline, List.getLast?_singleton, hheader, BlockText.block, htitle, hwords]
    rfl

theorem title_of_closeBlock (h : (closeBlock header body).diagnostics = []) :
    ∃ line, lines header = [line] ∧ 2 ≤ (words line).length := by
  unfold closeBlock at h
  cases hlast : (lines header).getLast? with
  | none => simp [hlast, Outcome.report] at h
  | some line =>
    simp only [hlast, Outcome.diagnostics_bind, diagnostics_reportStray, List.append_eq_nil_iff,
      List.map_eq_nil_iff] at h
    obtain ⟨hstray, h⟩ := h
    have hlines : lines header = [line] := by
      obtain ⟨front, hfront⟩ := List.getLast?_eq_some_iff.1 hlast
      rw [hfront, List.dropLast_concat] at hstray
      rw [hfront, hstray, List.nil_append]
    refine ⟨line, hlines, ?_⟩
    cases hwords : words line with
    | nil => simp [Header.ofLine, hwords, Outcome.report] at h
    | cons keyword rest =>
      cases rest with
      | nil => simp [Header.ofLine, hwords, Outcome.report] at h
      | cons => simp

theorem readBlocks_blockText (h : t.WellFormed) :
    readBlocks (.header []) (t.glyphs ++ gs) = do
      let blocks ← readBlocks (.header []) gs
      return t.block :: blocks := by
  have hopen (text : List Char) (gs : List Glyph) :
      readBlocks (.header text) (openingBrace :: gs) = readBlocks (.body text 0 []) gs :=
    readBlocks_cons_of_emit rfl
  have hglyphs : t.glyphs ++ gs = t.header ++ openingBrace :: (t.body ++ closingBrace :: gs) := by
    simp [BlockText.glyphs]
  rw [hglyphs, readBlocks_header_glyphs h.braceless, hopen, readBlocks_body_glyphs (bracesMatch_iff.1 h.balanced),
    List.append_nil, List.append_nil, readBlocks_closingBrace, List.reverse_reverse, List.reverse_reverse,
    closeBlock_blockText h]
  rfl

theorem readBlocks_composed (hts : ∀ t ∈ ts, t.WellFormed) (htail : ∀ c ∈ visible tail, isBlank c = true) :
    readBlocks (.header []) (ts.flatMap BlockText.glyphs ++ tail) = pure (ts.map BlockText.block) := by
  induction ts with
  | nil =>
    have hread : readBlocks (.header []) (tail ++ []) = readBlocks (.header ((visible tail).reverse ++ [])) [] :=
      readBlocks_header_glyphs (braceless_of_blank htail)
    rw [List.append_nil, List.append_nil, readBlocks_nil, Pending.close, List.reverse_reverse,
      lines_blank htail] at hread
    exact hread
  | cons t ts ih =>
    rw [List.forall_mem_cons] at hts
    rw [List.flatMap_cons, List.append_assoc, readBlocks_blockText hts.1, ih hts.2]
    rfl

inductive Pending.Holds : Pending → List Glyph → Prop where
  | header {hs : List Glyph} (h : Document.Braceless (visible hs)) : Holds (.header (visible hs).reverse) hs
  | body {hs bs : List Glyph} {depth : Nat} (h : Document.Braceless (visible hs))
    (hdepth : braceDepth 0 (visible bs) = some depth) :
    Holds (.body (visible hs).reverse depth (chars bs).reverse) (hs ++ openingBrace :: bs)

theorem holds_nil : (Pending.header []).Holds [] := by
  have hbraceless : Braceless (visible []) := braceless_nil
  exact Pending.Holds.header hbraceless

theorem holds_next_header (h : Braceless (visible hs))
    (hemit : ((Pending.header (visible hs).reverse).emit g).diagnostics = []) :
    ((Pending.header (visible hs).reverse).next g).Holds (hs ++ [g]) := by
  have hclose : g ≠ closingBrace := by
    rintro rfl
    simp [Pending.emit, Outcome.report] at hemit
  cases decEq g openingBrace with
  | isTrue hopen =>
    rw [hopen]
    have hdepth : braceDepth 0 (visible []) = some 0 := rfl
    exact Pending.Holds.body h hdepth
  | isFalse hopen =>
    have hg : Braceless (visible [g]) := braceless_visible_singleton.2 ⟨hopen, hclose⟩
    have hreverse : visible [g] ++ (visible hs).reverse = (visible (hs ++ [g])).reverse := by
      rw [visible_append, List.reverse_append]
      cases hinComment : g.inComment <;> simp [visible, chars, hinComment]
    rw [(emit_next_header hg).2, hreverse]
    apply Pending.Holds.header
    rw [visible_append, braceless_append]
    exact ⟨h, hg⟩

theorem holds_next_body (h : Braceless (visible hs)) (hdepth : braceDepth 0 (visible bs) = some depth)
    (hstep : braceDepth depth (visible [g]) = some depth') :
    (Pending.body (visible hs).reverse depth' (g.char :: (chars bs).reverse)).Holds
      (hs ++ openingBrace :: bs ++ [g]) := by
  have hchars : g.char :: (chars bs).reverse = (chars (bs ++ [g])).reverse := by simp [chars]
  have hbs : braceDepth 0 (visible (bs ++ [g])) = some depth' := by
    rw [visible_append, braceDepth, List.foldlM_append, ← braceDepth, hdepth]
    exact hstep
  rw [hchars, List.append_assoc]
  exact Pending.Holds.body h hbs

theorem wellFormed_of_closeBlock (h : Braceless (visible hs)) (hdepth : braceDepth 0 (visible bs) = some 0)
    (hemit : (closeBlock (visible hs) (chars bs)).diagnostics = []) : (BlockText.mk hs bs).WellFormed := by
  obtain ⟨line, hlines, hwords⟩ := title_of_closeBlock hemit
  refine ⟨h, by simp [hlines], ?_, bracesMatch_iff.2 hdepth⟩
  rwa [BlockText.title, hlines]

theorem exists_composed (hp : p.Holds hs) (h : (readBlocks p gs).diagnostics = []) :
    ∃ ts : List BlockText, ∃ tail, hs ++ gs = ts.flatMap BlockText.glyphs ++ tail ∧ (∀ t ∈ ts, t.WellFormed)
      ∧ ∀ c ∈ visible tail, isBlank c = true := by
  induction gs generalizing p hs with
  | nil =>
    have hclose : p.close.diagnostics = [] := by simpa [readBlocks_nil] using h
    obtain ⟨text, rfl, hblank⟩ := Pending.eq_header_of_close hclose
    cases hp with
    | header => exact ⟨[], hs, by simp, by simp, by simpa using hblank⟩
  | cons g gs ih =>
    simp only [readBlocks_cons, Outcome.diagnostics_bind, Outcome.diagnostics_pure, List.append_nil,
      List.append_eq_nil_iff] at h
    obtain ⟨hemit, hrest⟩ := h
    cases hp with
    | header hbraceless => simpa using ih (holds_next_header hbraceless hemit) hrest
    | @body hs bs depth hbraceless hdepth =>
      cases hstep : braceDepth depth (visible [g]) with
      | some depth' =>
        rw [(emit_next_body _ _ hstep).2] at hrest
        simpa using ih (holds_next_body hbraceless hdepth hstep) hrest
      | none =>
        -- The body ends here, and what is left starts with the header of the next block.
        obtain ⟨rfl, rfl⟩ := eq_closingBrace hstep
        have hblock : (closeBlock (visible hs) (chars bs)).diagnostics = [] := by simpa [Pending.emit] using hemit
        obtain ⟨ts, tail, hgs, hts, htail⟩ := ih holds_nil hrest
        refine ⟨⟨hs, bs⟩ :: ts, tail, ?_, ?_, htail⟩
        . rw [List.nil_append] at hgs
          simp [BlockText.glyphs, hgs]
        . rw [List.forall_mem_cons]
          exact ⟨wellFormed_of_closeBlock hbraceless hdepth hblock, hts⟩

theorem diagnostics_blocks_eq_nil_iff (text : String) :
    ((blocks text).diagnostics = [] ↔ ∃ ts tail, Composed text.toList ts tail) ∧
      ∀ ts tail, Composed text.toList ts tail → (blocks text).value = ts.map BlockText.block := by
  have hread : ∀ ts tail, Composed text.toList ts tail → blocks text = pure (ts.map BlockText.block) := by
    intro ts tail h
    rw [blocks, ← h.spelled, ← h.marked.eq_glyphs]
    exact readBlocks_composed h.wellFormed h.blank
  refine ⟨⟨?_, ?_⟩, ?_⟩
  . intro h
    obtain ⟨ts, tail, hglyphs, hts, htail⟩ := exists_composed holds_nil h
    rw [List.nil_append] at hglyphs
    refine ⟨ts, tail, ⟨?_, ?_, hts, htail⟩⟩
    . rw [← hglyphs]
      exact chars_glyphs text.toList
    . rw [← hglyphs]
      exact marked_glyphs text.toList
  . rintro ⟨ts, tail, h⟩
    rw [hread ts tail h]
    rfl
  . intro ts tail h
    rw [hread ts tail h]
    rfl

theorem diagnostics_blocks_eq_nil_iff_nested :
    let text := "# \x7d\n\n TABLE A  x\t y\n -- \x7b\n\x7b\n a \x7b b \x7d # \x7b\n # \x7d\n\x7d\x7d\n  # done \x7b\n "
    let t : BlockText := {
      header := glyphs "# \x7d\n\n TABLE A  x\t y\n -- \x7b\n".toList
      body := glyphs "\n a \x7b b \x7d # \x7b\n # \x7d\n\x7d".toList }
    let tail := glyphs "\n  # done \x7b\n ".toList
    Composed text.toList [t] tail
      ∧ (blocks text).diagnostics = []
      ∧ (blocks text).value = [⟨"TABLE", "A", "x y", "\n a \x7b b \x7d # \x7b\n # \x7d\n\x7d"⟩] := by
  intro text t tail
  have hglyphs : [t].flatMap BlockText.glyphs ++ tail = glyphs text.toList := by decide +kernel
  have hcomposed : Composed text.toList [t] tail := by
    constructor
    . rw [hglyphs, chars_glyphs]
    . rw [hglyphs]
      exact marked_glyphs _
    . decide +kernel
    . decide +kernel
  have hblock : [t].map BlockText.block = [⟨"TABLE", "A", "x y", "\n a \x7b b \x7d # \x7b\n # \x7d\n\x7d"⟩] := by
    decide +kernel
  have hread := diagnostics_blocks_eq_nil_iff text
  refine ⟨hcomposed, hread.1.2 ⟨[t], tail, hcomposed⟩, ?_⟩
  rw [hread.2 [t] tail hcomposed, hblock]

end Read

end SchemaDesign.Document
