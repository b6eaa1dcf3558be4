import SchemaDesign.Text.Blank

/-!
This module contains the distinction between what a document says and its comments. A comment starts with
`#` or `--` where only blanks stand before it on its line, and ends before the next line break.
-/

namespace SchemaDesign.Document

open Text

structure Glyph where
  char : Char
  inComment : Bool
deriving DecidableEq, Repr

inductive LineState where
  | indent
  | content
  | comment
deriving DecidableEq, Repr

def opensComment : List Char → Bool
  | '#' :: _ => true
  | '-' :: '-' :: _ => true
  | _ => false

def glyphs (text : List Char) : List Glyph :=
  go .indent text
where
  go (state : LineState) : List Char → List Glyph
    | [] => []
    | c :: cs =>
      if c = '\n' then
        ⟨c, false⟩ :: go .indent cs
      else
        match state with
        | .comment => ⟨c, true⟩ :: go .comment cs
        | .content => ⟨c, false⟩ :: go .content cs
        | .indent =>
          if opensComment (c :: cs) then ⟨c, true⟩ :: go .comment cs
          else ⟨c, false⟩ :: go (if isBlank c then .indent else .content) cs

theorem glyphs.map_char_go (state : LineState) (text : List Char) :
    (glyphs.go state text).map Glyph.char = text := by
  induction text generalizing state with
  | nil => rfl
  | cons c cs ih =>
    unfold glyphs.go
    split
    · simp [ih]
    · cases state with
      | indent => dsimp only; split <;> simp [ih]
      | content => simp [ih]
      | comment => simp [ih]

theorem map_char_glyphs (text : List Char) : (glyphs text).map Glyph.char = text :=
  glyphs.map_char_go .indent text

end SchemaDesign.Document
