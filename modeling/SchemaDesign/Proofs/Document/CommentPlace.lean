import Mathlib.Data.List.Induction
import SchemaDesign.Proofs.Document.Comment

namespace SchemaDesign.Document

open Text

variable {before after earlier indent line front back cs : List Char} {c : Char} {g : Glyph} {gs gs' : List Glyph}

def chars (gs : List Glyph) : List Char :=
  gs.map Glyph.char

def visible (gs : List Glyph) : List Char :=
  chars (gs.filter (!·.inComment))

theorem chars_plain : chars (plain cs) = cs := by
  simp [chars, plain, Function.comp_def]

theorem visible_plain : visible (plain cs) = cs := by
  simp [visible, chars, plain, List.filter_map, Function.comp_def]

def commentMarks : List (List Char) :=
  ["#".toList, "--".toList]

def EndsLine (cs : List Char) : Prop :=
  ∀ c ∈ cs.getLast?, c = '\n'

theorem EndsLine.cases (h : EndsLine front) : front = [] ∨ ∃ init, front = init ++ ['\n'] := by
  cases List.eq_nil_or_concat front with
  | inl hnil => exact Or.inl hnil
  | inr hconcat =>
    obtain ⟨init, c, rfl⟩ := hconcat
    obtain rfl : c = '\n' := h c (by simp)
    exact Or.inr ⟨init, List.concat_eq_append⟩

theorem EndsLine.glyphs_append (h : EndsLine front) (back : List Char) :
    glyphs (front ++ back) = glyphs front ++ glyphs back := by
  rcases h.cases with rfl | ⟨init, rfl⟩
  . rfl
  . rw [List.append_assoc, List.singleton_append, glyphs_append_newline, glyphs_append_newline]
    simp [glyphs, glyphs.go]

theorem EndsLine.lines_append (h : EndsLine front) (back : List Char) :
    lines (front ++ back) = lines front ++ lines back := by
  rcases h.cases with rfl | ⟨init, rfl⟩
  . rfl
  . rw [List.append_assoc, List.singleton_append, lines_append_cons, lines_append_cons, lines_nil, List.append_nil]

/--
A stretch of a text that is a comment: only blanks stand before its mark on the line, and it ends where the line does.
-/
structure IsComment (before stretch after : List Char) : Prop where
  alone : ∃ earlier indent, before = earlier ++ indent ∧ EndsLine earlier ∧ ∀ c ∈ indent, isBlank c = true
  mark : ∃ mark ∈ commentMarks, mark <+: stretch
  oneLine : '\n' ∉ stretch
  ends : ∀ c ∈ after.head?, c = '\n'

def InComment (before after : List Char) : Prop :=
  ∃ earlier front back rest, before = earlier ++ front ∧ after = back ++ rest ∧ back ≠ [] ∧
    IsComment earlier (front ++ back) rest

def Marked (gs : List Glyph) : Prop :=
  ∀ before g after, gs = before ++ g :: after →
    (g.inComment = true ↔ InComment (chars before) (g.char :: chars after))

theorem opensComment_iff : opensComment cs = true ↔ ∃ mark ∈ commentMarks, mark <+: cs := by
  constructor
  . intro h
    unfold opensComment at h
    split at h
    . next rest => exact ⟨"#".toList, by decide, rest, rfl⟩
    . next rest => exact ⟨"--".toList, by decide, rest, rfl⟩
    . contradiction
  . rintro ⟨mark, hmark, rest, rfl⟩
    simp only [commentMarks, List.mem_cons, List.not_mem_nil, or_false] at hmark
    rcases hmark with rfl | rfl
    . rfl
    . rfl

section Line

def extendLine (line : List Char) (c : Char) : List Char :=
  if c = '\n' || (line.isEmpty && isBlank c) then [] else line ++ [c]

def lastLine (before : List Char) : List Char :=
  before.foldl extendLine []

theorem lastLine_concat : lastLine (before ++ [c]) = extendLine (lastLine before) c := by
  rw [lastLine, List.foldl_append]
  rfl

theorem lastLine_of_endsLine (h : EndsLine earlier) : lastLine earlier = [] := by
  rcases h.cases with rfl | ⟨init, rfl⟩
  . rfl
  . rw [lastLine_concat]
    rfl

theorem foldl_extendLine_blank (h : ∀ c ∈ indent, isBlank c = true) : indent.foldl extendLine [] = [] := by
  induction indent with
  | nil => rfl
  | cons c indent ih =>
    rw [List.forall_mem_cons] at h
    have hc : extendLine [] c = [] := by simp [extendLine, h.1]
    rw [List.foldl_cons, hc, ih h.2]

theorem foldl_extendLine (hline : line ≠ []) (h : '\n' ∉ front) : front.foldl extendLine line = line ++ front := by
  induction front generalizing line with
  | nil => simp
  | cons c front ih =>
    rw [List.mem_cons, not_or] at h
    have hc : extendLine line c = line ++ [c] := by simp [extendLine, Ne.symm h.1, hline]
    rw [List.foldl_cons, hc, ih (by simp) h.2, List.append_assoc]
    rfl

theorem lastLine_append (hearlier : EndsLine earlier) (hindent : ∀ c ∈ indent, isBlank c = true)
    (hfront : '\n' ∉ front) (hfirst : ∀ c ∈ front.head?, isBlank c = false) :
    lastLine (earlier ++ indent ++ front) = front := by
  have hstart : (earlier ++ indent).foldl extendLine [] = [] := by
    rw [List.foldl_append, ← lastLine, lastLine_of_endsLine hearlier, foldl_extendLine_blank hindent]
  rw [lastLine, List.foldl_append, hstart]
  cases front with
  | nil => rfl
  | cons c front =>
    rw [List.mem_cons, not_or] at hfront
    have hblank : isBlank c = false := hfirst c rfl
    have hc : extendLine [] c = [c] := by simp [extendLine, Ne.symm hfront.1, hblank]
    rw [List.foldl_cons, hc, foldl_extendLine (by simp) hfront.2]
    rfl

theorem exists_lastLine (before : List Char) :
    '\n' ∉ lastLine before ∧ ∃ earlier indent, before = earlier ++ indent ++ lastLine before ∧ EndsLine earlier ∧
      ∀ c ∈ indent, isBlank c = true := by
  induction before using List.reverseRecOn with
  | nil => exact ⟨by simp [lastLine], [], [], rfl, by simp [EndsLine], by simp⟩
  | append_singleton before c ih =>
    obtain ⟨hline, earlier, indent, hbefore, hearlier, hindent⟩ := ih
    rw [lastLine_concat, extendLine]
    split
    . next hc =>
      rw [Bool.or_eq_true, Bool.and_eq_true, decide_eq_true_eq, List.isEmpty_iff] at hc
      cases hc with
      | inl hnewline => exact ⟨by simp, before ++ [c], [], by simp, by simp [EndsLine, hnewline], by simp⟩
      | inr hblank =>
        rw [hblank.1, List.append_nil] at hbefore
        refine ⟨by simp, earlier, indent ++ [c], by simp [hbefore], hearlier, ?_⟩
        simp only [List.mem_append, List.mem_singleton, or_imp, forall_and, forall_eq]
        exact ⟨hindent, hblank.2⟩
    . next hc =>
      rw [Bool.or_eq_true, decide_eq_true_eq, not_or] at hc
      refine ⟨by simp [hline, Ne.symm hc.1], earlier, indent, ?_, hearlier, hindent⟩
      rw [← List.append_assoc, ← hbefore]

theorem opensComment_append_of_head (h : ∀ c ∈ after.head?, c = '\n') :
    opensComment (line ++ after) = opensComment line := by
  cases after with
  | nil => rw [List.append_nil]
  | cons c after =>
    have hc : c = '\n' := h c rfl
    rw [hc, opensComment_append_newline]

end Line

theorem inComment_iff :
    InComment before (c :: cs) ↔ c ≠ '\n' ∧ opensComment (lastLine before ++ c :: cs) = true := by
  constructor
  . rintro ⟨_, front, back, rest, rfl, hafter, hback, hcomment⟩
    obtain ⟨⟨earlier, indent, rfl, hearlier, hindent⟩, ⟨mark, hmark, hprefix⟩, honeLine, -⟩ := hcomment
    rw [List.mem_append, not_or] at honeLine
    have hfirst : ∀ c ∈ front.head?, isBlank c = false := by
      intro c hc
      have hopens : opensComment (front ++ back) = true := opensComment_iff.2 ⟨mark, hmark, hprefix⟩
      obtain ⟨front, rfl⟩ := List.head?_eq_some_iff.1 hc
      rw [Bool.eq_false_iff]
      intro hblank
      rw [List.cons_append, opensComment_of_isBlank hblank] at hopens
      contradiction
    constructor
    . rintro rfl
      cases back with
      | nil => contradiction
      | cons d back =>
        rw [List.cons_append, List.cons.injEq] at hafter
        exact honeLine.2 (by simp [← hafter.1])
    . rw [lastLine_append hearlier hindent honeLine.1 hfirst, opensComment_iff, hafter, ← List.append_assoc]
      exact ⟨mark, hmark, hprefix.trans (List.prefix_append _ rest)⟩
  . rintro ⟨hc, hopens⟩
    obtain ⟨hline, earlier, indent, hbefore, hearlier, hindent⟩ := exists_lastLine before
    obtain ⟨back, rest, hcs, hback, hrest⟩ := exists_restOfLine (c :: cs)
    refine ⟨earlier ++ indent, lastLine before, back, rest, hbefore, hcs, ?_,
      ⟨earlier, indent, rfl, hearlier, hindent⟩, ?_, by simp [hline, hback], hrest⟩
    . rintro rfl
      rw [List.nil_append] at hcs
      exact hc (hrest c (by simp [← hcs]))
    . rw [← opensComment_iff, ← opensComment_append_of_head hrest, List.append_assoc, ← hcs]
      exact hopens

section Reader

def lineState (line rest : List Char) : LineState :=
  if line = [] then .indent
  else if opensComment (line ++ rest) then .comment
  else .content

theorem glyphs_go_lineState (line : List Char) (c : Char) (cs : List Char) :
    glyphs.go (lineState line (c :: cs)) (c :: cs)
      =
    ⟨c, c ≠ '\n' && opensComment (line ++ c :: cs)⟩ :: glyphs.go (lineState (extendLine line c) cs) cs := by
  rw [glyphs.go.eq_def]
  dsimp only
  split
  . next hnewline => simp [hnewline, extendLine, lineState]
  . next hc =>
    cases line with
    | nil =>
      cases hopens : opensComment (c :: cs) with
      | true =>
        have hblank : isBlank c = false := by
          rw [Bool.eq_false_iff]
          intro hblank
          rw [opensComment_of_isBlank hblank] at hopens
          contradiction
        simp [lineState, extendLine, hc, hblank, hopens]
      | false => cases hblank : isBlank c <;> simp [lineState, extendLine, hc, hblank, hopens]
    | cons d line => cases hopens : opensComment (d :: (line ++ c :: cs)) <;> simp [lineState, extendLine, hc, hopens]

theorem marked_glyphs_go (before after : List Char) :
    ∀ front g back, glyphs.go (lineState (lastLine before) after) after = front ++ g :: back →
      (g.inComment = true ↔ InComment (before ++ chars front) (g.char :: chars back)) := by
  induction after generalizing before with
  | nil =>
    intro front g back h
    simp [glyphs.go] at h
  | cons c cs ih =>
    intro front g back h
    rw [glyphs_go_lineState] at h
    cases front with
    | nil =>
      rw [List.nil_append, List.cons.injEq] at h
      obtain ⟨rfl, rfl⟩ := h
      have hcs : chars (glyphs.go (lineState (extendLine (lastLine before) c) cs) cs) = cs := glyphs.map_char_go _ cs
      rw [hcs, chars, List.map_nil, List.append_nil, inComment_iff]
      simp
    | cons f front =>
      rw [List.cons_append, List.cons.injEq, ← lastLine_concat] at h
      obtain ⟨rfl, h⟩ := h
      have := ih (before ++ [c]) front g back h
      rwa [List.append_assoc] at this

theorem marked_glyphs (text : List Char) : Marked (glyphs text) :=
  marked_glyphs_go [] text

theorem Marked.eq (h : Marked gs) (h' : Marked gs') (hchars : chars gs = chars gs') : gs = gs' := by
  -- The induction is on what is left of both sequences behind what they have in common.
  suffices hrest : ∀ front back back', gs = front ++ back → gs' = front ++ back' → chars back = chars back' →
      back = back' from hrest [] gs gs' rfl rfl hchars
  intro front back
  induction back generalizing front with
  | nil =>
    intro back' _ _ heq
    rw [chars, chars, List.map_nil, eq_comm, List.map_eq_nil_iff] at heq
    exact heq.symm
  | cons g back ih =>
    intro back' hgs hgs' heq
    cases back' with
    | nil => simp [chars] at heq
    | cons g' back' =>
      have hg := h front g back hgs
      have hg' := h' front g' back' hgs'
      simp only [chars, List.map_cons, List.cons.injEq] at heq hg hg'
      rw [heq.1, heq.2, ← hg', ← Bool.eq_iff_iff] at hg
      obtain rfl : g = g' := by
        cases g
        cases g'
        simp_all
      rw [ih (front ++ [g]) back' (by simpa using hgs) (by simpa using hgs') heq.2]

theorem chars_glyphs (text : List Char) : chars (glyphs text) = text :=
  map_char_glyphs text

theorem Marked.eq_glyphs (h : Marked gs) : gs = glyphs (chars gs) :=
  h.eq (marked_glyphs _) (chars_glyphs _).symm

end Reader

end SchemaDesign.Document
