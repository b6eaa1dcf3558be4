import SchemaDesign.Document.Comment
import SchemaDesign.Proofs.Text.Blank

namespace SchemaDesign.Document

open Text

variable {front back line cs : List Char}

def plain (cs : List Char) : List Glyph :=
  cs.map (⟨·, false⟩)

theorem plain_append : plain (front ++ back) = plain front ++ plain back :=
  List.map_append

theorem glyphs_go_content (h : '\n' ∉ line) (rest : List Char) :
    glyphs.go .content (line ++ rest) = plain line ++ glyphs.go .content rest := by
  induction line with
  | nil => rfl
  | cons c line ih =>
    rw [List.mem_cons, not_or] at h
    have hc : c ≠ '\n' := Ne.symm h.1
    rw [List.cons_append, glyphs.go, if_neg hc, ih h.2]
    rfl

theorem opensComment_append_newline (rest : List Char) :
    opensComment (line ++ '\n' :: rest) = opensComment line := by
  match line with
  | [] => simp [opensComment]
  | [c] => unfold opensComment; split <;> simp_all
  | c :: d :: line => unfold opensComment; split <;> simp_all

theorem glyphs_go_append_newline (state : LineState) (front back : List Char) :
    glyphs.go state (front ++ '\n' :: back) = glyphs.go state front ++ ⟨'\n', false⟩ :: glyphs back := by
  induction front generalizing state with
  | nil => rfl
  | cons c front ih =>
    have hopens : opensComment (c :: (front ++ '\n' :: back)) = opensComment (c :: front) :=
      @opensComment_append_newline (c :: front) back
    rw [List.cons_append]
    simp only [glyphs.go, hopens, ih]
    split
    . rfl
    . cases state with
      | indent => dsimp only; split <;> rfl
      | content => rfl
      | comment => rfl

theorem glyphs_append_newline (front back : List Char) :
    glyphs (front ++ '\n' :: back) = glyphs front ++ ⟨'\n', false⟩ :: glyphs back :=
  glyphs_go_append_newline .indent front back

def isUnmarked (c : Char) : Bool :=
  c != '#' && c != '-'

theorem isUnmarked_of_isBlank {c : Char} (h : isBlank c = true) : isUnmarked c = true := by
  simp only [isUnmarked, Bool.and_eq_true, bne_iff_ne]
  constructor
  . rintro rfl
    exact absurd h (by decide)
  . rintro rfl
    exact absurd h (by decide)

theorem opensComment_of_isUnmarked {c : Char} (h : isUnmarked c = true) : opensComment (c :: cs) = false := by
  simp only [isUnmarked, Bool.and_eq_true, bne_iff_ne] at h
  unfold opensComment
  split
  . next heq =>
    injection heq with heq
    exact absurd heq h.1
  . next heq =>
    injection heq with heq
    exact absurd heq h.2
  . rfl

theorem opensComment_of_isBlank {c : Char} (h : isBlank c = true) : opensComment (c :: cs) = false :=
  opensComment_of_isUnmarked (isUnmarked_of_isBlank h)

section Quiet

variable {c : Char}

def Quiet (cs : List Char) : Prop :=
  ∀ state, state ≠ .comment →
    ∃ state', state' ≠ .comment ∧ ∀ rest, glyphs.go state (cs ++ rest) = plain cs ++ glyphs.go state' rest

theorem Quiet.append (hfront : Quiet front) (hback : Quiet back) : Quiet (front ++ back) := by
  intro state hstate
  obtain ⟨mid, hmid, hreadFront⟩ := hfront state hstate
  obtain ⟨last, hlast, hreadBack⟩ := hback mid hmid
  refine ⟨last, hlast, ?_⟩
  intro rest
  rw [List.append_assoc, hreadFront, hreadBack, plain_append, List.append_assoc]

theorem Quiet.glyphs_eq (h : Quiet cs) : glyphs cs = plain cs := by
  obtain ⟨state, -, hread⟩ := h .indent (by decide)
  have := hread []
  simpa [glyphs, glyphs.go] using this

theorem glyphs_go_of_isUnmarked (h : isUnmarked c = true) {state : LineState} (hstate : state ≠ .comment)
    (rest : List Char) :
    glyphs.go state (c :: rest)
      =
    ⟨c, false⟩ :: glyphs.go (if c = '\n' || (state = .indent && isBlank c) then .indent else .content) rest := by
  rw [glyphs.go.eq_def]
  dsimp only
  split
  . next hc => simp [hc]
  . next hc =>
    cases state with
    | indent => simp [hc, opensComment_of_isUnmarked h]
    | content => simp [hc]
    | comment => contradiction

theorem quiet_of_isUnmarked (h : ∀ c ∈ cs, isUnmarked c = true) : Quiet cs := by
  induction cs with
  | nil =>
    intro state hstate
    exact ⟨state, hstate, fun _ => rfl⟩
  | cons c cs ih =>
    rw [List.forall_mem_cons] at h
    have hc : Quiet [c] := by
      intro state hstate
      refine ⟨_, ?_, fun rest => glyphs_go_of_isUnmarked h.1 hstate rest⟩
      split <;> decide
    exact hc.append (ih h.2)

theorem quiet_of_blank (h : ∀ c ∈ cs, isBlank c = true) : Quiet cs :=
  quiet_of_isUnmarked fun c hc => isUnmarked_of_isBlank (h c hc)

theorem quiet_flatMap {α : Type} {f : α → List Char} {as : List α} (h : ∀ a ∈ as, Quiet (f a)) :
    Quiet (as.flatMap f) := by
  induction as with
  | nil => exact quiet_of_isUnmarked (by simp)
  | cons a as ih =>
    rw [List.forall_mem_cons] at h
    rw [List.flatMap_cons]
    exact h.1.append (ih h.2)

theorem quiet_line (hc : isUnmarked c = true) (hblank : isBlank c = false) (h : '\n' ∉ line) : Quiet (c :: line) := by
  intro state hstate
  have hnewline : c ≠ '\n' := by
    rintro rfl
    contradiction
  refine ⟨.content, by decide, ?_⟩
  intro rest
  rw [List.cons_append, glyphs_go_of_isUnmarked hc hstate]
  simp only [hnewline, hblank, Bool.and_false, Bool.or_false, decide_false, Bool.false_eq_true, if_false]
  rw [glyphs_go_content h]
  rfl

end Quiet

end SchemaDesign.Document
