import SchemaDesign.Proofs.Document.Block
import SchemaDesign.Proofs.Outcome

namespace SchemaDesign.Document

open Text

def openingBrace : Glyph := ⟨'\x7b', false⟩

def closingBrace : Glyph := ⟨'\x7d', false⟩

def Pending.next : Pending → Glyph → Pending
  | .header text, g =>
    if g = openingBrace then .body text 0 []
    else if g = closingBrace || g.inComment then .header text
    else .header (g.char :: text)
  | .body title depth text, g =>
    if g = openingBrace then .body title (depth + 1) (g.char :: text)
    else if g = closingBrace then
      match depth with
      | 0 => .header []
      | depth + 1 => .body title depth (g.char :: text)
    else .body title depth (g.char :: text)

def Pending.emit : Pending → Glyph → Outcome (Option Block)
  | .header _, g =>
    if g = closingBrace then do
      Outcome.report none (.strayText "\x7d")
      return none
    else
      return none
  | .body title 0 text, g =>
    if g = closingBrace then closeBlock title.reverse text.reverse else return none
  | .body _ (_ + 1) _, _ => return none

def Pending.close : Pending → Outcome Unit
  | .header text => reportStray (lines text.reverse)
  | .body title _ _ => reportUnterminated title.reverse

def Pending.walk (p : Pending) : List Glyph → Outcome (List Block)
  | [] => pure []
  | g :: gs => do
    let block ← p.emit g
    let blocks ← (p.next g).walk gs
    return block.toList ++ blocks

variable {p : Pending} {gs gs' : List Glyph}

theorem readBlocks_nil (p : Pending) :
    readBlocks p [] = do
      p.close
      return [] := by
  cases p <;> rfl

theorem readBlocks_cons (p : Pending) (g : Glyph) (gs : List Glyph) :
    readBlocks p (g :: gs) = do
      let block ← p.emit g
      let blocks ← readBlocks (p.next g) gs
      return block.toList ++ blocks := by
  obtain ⟨c, inComment⟩ := g
  rw [readBlocks.eq_def]
  cases p with
  | header text =>
    simp only [Pending.emit, Pending.next, openingBrace, closingBrace, Glyph.mk.injEq]
    cases inComment with
    | true => simp
    | false =>
      simp only [Bool.false_eq_true, if_false, and_true]
      split
      . next hleft => simp [hleft]
      . split
        . next hright => simp [hright]
        . next hright => simp [hright]
  | body header depth text =>
    simp only [Pending.next, openingBrace, closingBrace, Glyph.mk.injEq]
    cases inComment with
    | true => cases depth <;> simp [Pending.emit, closingBrace]
    | false =>
      simp only [Bool.false_eq_true, if_false, and_true]
      split
      . next hleft => cases depth <;> simp [Pending.emit, closingBrace, hleft]
      . split
        . next hright => cases depth <;> simp [Pending.emit, closingBrace, hright]
        . next hright => cases depth <;> simp [Pending.emit, closingBrace, hright]

theorem readBlocks_append (p : Pending) (gs gs' : List Glyph) :
    readBlocks p (gs ++ gs') = do
      let done ← p.walk gs
      let blocks ← readBlocks (gs.foldl Pending.next p) gs'
      return done ++ blocks := by
  induction gs generalizing p with
  | nil => simp [Pending.walk]
  | cons g gs ih =>
    simp only [List.cons_append, readBlocks_cons, ih, Pending.walk, List.foldl_cons, bind_assoc, pure_bind,
      List.append_assoc]

theorem readBlocks_eq_walk (p : Pending) (gs : List Glyph) :
    readBlocks p gs = do
      let done ← p.walk gs
      (gs.foldl Pending.next p).close
      return done := by
  have happend := readBlocks_append p gs []
  rw [List.append_nil, readBlocks_nil] at happend
  simpa only [bind_assoc, pure_bind, List.append_nil] using happend

theorem diagnostics_reportStray (strays : List (List Char)) :
    (reportStray strays).diagnostics = strays.map fun line => ⟨none, .strayText (String.ofList line)⟩ := by
  rw [reportStray, Outcome.reportAll, Outcome.diagnostics_each]
  rw [List.flatMap_map, List.map_eq_flatMap]
  rfl

theorem Pending.eq_header_of_close {p : Pending} (h : p.close.diagnostics = []) :
    ∃ text, p = .header text ∧ ∀ c ∈ text, isBlank c = true := by
  cases p with
  | header text =>
    refine ⟨text, rfl, ?_⟩
    simpa [Pending.close, diagnostics_reportStray, lines_eq_nil_iff] using h
  | body title depth text => simp [Pending.close, reportUnterminated, Outcome.report] at h

def SameLines (front front' : List Char) : Prop :=
  ∀ back, lines (front ++ back) = lines (front' ++ back)

inductive Pending.SameHeader : Pending → Pending → Prop where
  | header {text text' : List Char} (h : SameLines text.reverse text'.reverse) :
    SameHeader (.header text) (.header text')
  | body {title title' text : List Char} {depth : Nat} (h : lines title.reverse = lines title'.reverse) :
    SameHeader (.body title depth text) (.body title' depth text)

section Header

variable {text text' title title' body : List Char}

theorem sameLines_of_blank (h : ∀ c ∈ text, isBlank c = true) : SameLines text [] := by
  intro back
  exact lines_append_left h

theorem SameLines.append (h : SameLines text text') (back : List Char) :
    SameLines (text ++ back) (text' ++ back) := by
  intro rest
  rw [List.append_assoc, List.append_assoc, h]

theorem SameLines.lines_eq (h : SameLines text text') : lines text = lines text' := by
  have := h []
  rwa [List.append_nil, List.append_nil] at this

theorem closeBlock_congr (h : lines title = lines title') : closeBlock title body = closeBlock title' body := by
  unfold closeBlock
  rw [h]

variable {p p' : Pending}

theorem Pending.SameHeader.next (h : p.SameHeader p') (g : Glyph) : (p.next g).SameHeader (p'.next g) := by
  cases h with
  | header h =>
    simp only [Pending.next]
    split
    . exact .body h.lines_eq
    . split
      . exact .header h
      . apply SameHeader.header
        rw [List.reverse_cons, List.reverse_cons]
        exact h.append [g.char]
  | @body _ _ _ depth h =>
    simp only [Pending.next]
    split
    . exact .body h
    . split
      . cases depth with
        | zero => exact .header fun _ => rfl
        | succ depth => exact .body h
      . exact .body h

theorem Pending.SameHeader.emit (h : p.SameHeader p') (g : Glyph) : p.emit g = p'.emit g := by
  cases h with
  | header => rfl
  | @body _ _ _ depth h =>
    cases depth with
    | zero => simp only [Pending.emit, closeBlock_congr h]
    | succ => rfl

theorem Pending.SameHeader.close (h : p.SameHeader p') : p.close = p'.close := by
  cases h with
  | header h => rw [Pending.close, Pending.close, h.lines_eq]
  | body h => rw [Pending.close, Pending.close, reportUnterminated, reportUnterminated, h]

theorem Pending.SameHeader.readBlocks_eq (h : p.SameHeader p') (gs : List Glyph) :
    readBlocks p gs = readBlocks p' gs := by
  induction gs generalizing p p' with
  | nil => rw [readBlocks_nil, readBlocks_nil, h.close]
  | cons g gs ih => rw [readBlocks_cons, readBlocks_cons, h.emit, ih (h.next g)]

end Header

end SchemaDesign.Document
