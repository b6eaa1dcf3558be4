import Mathlib.Data.List.Infix
import SchemaDesign.Proofs.Document.CommentLine
import SchemaDesign.Proofs.Document.Line

/-!
This module contains what can stand between the items of a body: commas and line breaks with blanks, empty lines and
lines of comment around them. Items that are kept apart like this are read as they are, whatever characters they consist
of, as long as no comma stands outside their brackets.
-/

namespace SchemaDesign.Document

open Text

def openBrackets (cs : List Char) : Nat :=
  cs.foldl bracketDepth 0

/--
A text on one line that begins no comment, closes the brackets that it opens, and has its commas in brackets.
-/
structure IsSingleItem (cs : List Char) : Prop where
  nonempty : cs ≠ []
  trimmed : Trimmed cs
  oneLine : '\n' ∉ cs
  uncommented : ∀ mark ∈ commentMarks, ¬mark <+: cs
  closed : openBrackets cs = 0
  enclosed : ∀ front, front ++ [','] <+: cs → openBrackets front ≠ 0

instance (cs : List Char) : Decidable (IsSingleItem cs) :=
  decidable_of_iff
    (cs ≠ [] ∧ Trimmed cs ∧ '\n' ∉ cs ∧ (∀ mark ∈ commentMarks, ¬mark <+: cs) ∧ openBrackets cs = 0
      ∧ ∀ front ∈ cs.inits, front ++ [','] <+: cs → openBrackets front ≠ 0)
    ⟨fun ⟨h₁, h₂, h₃, h₄, h₅, h₆⟩ => ⟨h₁, h₂, h₃, h₄, h₅, fun front h =>
        h₆ front ((List.mem_inits ..).2 ((List.prefix_append ..).trans h)) h⟩,
      fun h => ⟨h.1, h.2, h.3, h.4, h.5, fun front _ => h.6 front⟩⟩

/--
What can stand around items. A line of comment can only stand where a line is `fresh`, that is, where nothing but blanks
stands before it.
-/
inductive Gap : (fresh : Bool) → List Char → Prop where
  | nil {fresh : Bool} : Gap fresh []
  | blank {fresh : Bool} {c : Char} {cs : List Char} (hc : isBlank c = true) (hline : c ≠ '\n') (h : Gap fresh cs) :
    Gap fresh (c :: cs)
  | comma {fresh : Bool} {cs : List Char} (h : Gap false cs) : Gap fresh (',' :: cs)
  | lineBreak {fresh : Bool} {cs : List Char} (h : Gap true cs) : Gap fresh ('\n' :: cs)
  | comment (line : CommentLine) {cs : List Char} (h : Gap true cs) : Gap true (line.text ++ cs)

structure IsSeparator (cs : List Char) : Prop where
  gap : Gap false cs
  separates : ',' ∈ cs ∨ '\n' ∈ cs

/--
A text that consists of the items with a separator behind each, which may be left out behind the last one.
-/
inductive Joined : List (List Char) → List Char → Prop where
  | nil : Joined [] []
  | last {item gap : List Char} (h : Gap false gap) : Joined [item] (item ++ gap)
  | cons {item separator text : List Char} {items : List (List Char)} (hseparator : IsSeparator separator)
    (h : Joined items text) : Joined (item :: items) (item ++ (separator ++ text))

section Gap

variable {gap text line : List Char} {fresh : Bool}

def itemsAfter (fresh : Bool) (text : List Char) : List (List Char) :=
  if fresh then items text else itemsBehind text

theorem Gap.itemsAfter_append (h : Gap fresh gap) (htext : items text = itemsBehind text) :
    itemsAfter fresh (gap ++ text) = itemsBehind text := by
  induction h with
  | @nil fresh => cases fresh <;> simp [itemsAfter, htext]
  | @blank fresh c _ hc hline _ ih =>
    rw [← ih]
    cases fresh with
    | false => exact itemsBehind_cons hc hline
    | true => exact items_cons hc
  | @comma fresh cs _ ih =>
    have hcomma : itemsBehind (',' :: (cs ++ text)) = itemsBehind (cs ++ text) :=
      itemsBehind_append_comma solid_nil (by simp)
    rw [← ih]
    cases fresh with
    | false => exact hcomma
    | true =>
      have hfirst : ∀ c ∈ (',' :: (cs ++ text)).head?, isBlank c = false := by
        rintro _ ⟨⟩
        decide
      exact (items_eq_itemsBehind hfirst rfl).trans hcomma
  | @lineBreak fresh cs _ ih =>
    rw [← ih]
    cases fresh with
    | false => exact itemsBehind_append_newline List.not_mem_nil
    | true => exact items_cons_newline _
  | @comment line cs _ ih =>
    rw [← ih, List.append_assoc]
    have h := line.endsLine_text.items_append (cs ++ text)
    rwa [line.items_text] at h

theorem Gap.itemsBehind_append (h : Gap false gap) (htext : items text = itemsBehind text)
    (hend : (',' ∈ gap ∨ '\n' ∈ gap) ∨ text = []) (hsolid : Solid line) (hline : '\n' ∉ line) :
    itemsBehind (line ++ (gap ++ text)) = pieces line ++ itemsBehind text := by
  induction gap generalizing line with
  | nil =>
    obtain rfl : text = [] := by simpa using hend
    have hread : itemsBehind (line ++ []) = pieces line ++ items [] := Document.itemsBehind_append hline (by simp)
    rwa [items_nil] at hread
  | cons c gap ih =>
    cases h with
    | blank hc hne h =>
      have hnext : Solid (line ++ [c]) := hsolid.append (solid_of_blank (by simpa using hc))
      have hpieces : pieces (line ++ [c]) = pieces line := by
        rw [pieces, map_trim_splitCommas_append_right (by simpa using hc), ← pieces]
      have hrest : (',' ∈ gap ∨ '\n' ∈ gap) ∨ text = [] := by
        rw [List.mem_cons, List.mem_cons] at hend
        have hcomma : c ≠ ',' := by
          rintro rfl
          contradiction
        simpa [hne.symm, hcomma.symm] using hend
      rw [← hpieces, ← ih h hrest hnext (by simp [hline, hne.symm])]
      simp
    | comma h =>
      rw [List.cons_append, itemsBehind_append_comma hsolid hline]
      exact congrArg _ (h.itemsAfter_append htext)
    | lineBreak h =>
      rw [List.cons_append, itemsBehind_append_newline hline]
      exact congrArg _ (h.itemsAfter_append htext)

end Gap

section Item

variable {item cs rest : List Char} {depth : Nat}

theorem splitCommas_append (rest : List Char)
    (h : ∀ front, front ++ [','] <+: cs → front.foldl bracketDepth depth ≠ 0) :
    splitCommas depth (cs ++ rest) = (splitCommas (cs.foldl bracketDepth depth) rest).modifyHead (cs ++ ·) := by
  induction cs generalizing depth with
  | nil =>
    rw [List.nil_append, List.foldl_nil]
    cases splitCommas depth rest <;> rfl
  | cons c cs ih =>
    have hnocut : (c = ',' && depth = 0) = false := by
      rw [← Bool.not_eq_true, Bool.and_eq_true, decide_eq_true_eq, decide_eq_true_eq]
      rintro ⟨rfl, hdepth⟩
      exact h [] ⟨cs, rfl⟩ hdepth
    rw [List.cons_append, splitCommas, hnocut, if_neg (by decide), ih]
    . simp [Function.comp_def]
    . intro front hfront
      exact h (c :: front) (List.cons_prefix_cons.2 ⟨rfl, hfront⟩)

theorem IsSingleItem.solid (h : IsSingleItem item) : Solid item := by
  intro rest
  have hcut := splitCommas_append rest h.enclosed
  rwa [← openBrackets, h.closed] at hcut

theorem IsSingleItem.pieces_eq (h : IsSingleItem item) : pieces item = [item] := by
  rw [pieces_of_solid h.solid, trim_eq_self h.trimmed]
  simp [h.nonempty]

theorem IsSingleItem.opensComment_eq (h : IsSingleItem item) : opensComment item = false := by
  rw [← Bool.not_eq_true, opensComment_iff]
  rintro ⟨mark, hmark, hprefix⟩
  exact h.uncommented mark hmark hprefix

end Item

section Joined

variable {item gap text front : List Char} {items : List (List Char)}

theorem Gap.head?_ne (h : Gap false gap) : ∀ c ∈ gap.head?, c ≠ '-' := by
  rintro c hc rfl
  obtain ⟨cs, rfl⟩ := List.head?_eq_some_iff.1 hc
  cases h with
  | blank hblank => contradiction

theorem IsSingleItem.items_append (hitem : IsSingleItem item) (hgap : Gap false gap)
    (hend : (',' ∈ gap ∨ '\n' ∈ gap) ∨ text = []) (htext : Document.items text = items ∧ itemsBehind text = items) :
    Document.items (item ++ (gap ++ text)) = item :: items ∧ itemsBehind (item ++ (gap ++ text)) = item :: items := by
  have hbehind : itemsBehind (item ++ (gap ++ text)) = item :: items := by
    rw [hgap.itemsBehind_append (htext.1.trans htext.2.symm) hend hitem.solid hitem.oneLine, hitem.pieces_eq, htext.2]
    rfl
  have hfirst : ∀ c ∈ (item ++ (gap ++ text)).head?, isBlank c = false := by
    obtain ⟨d, cs, hcons⟩ := List.exists_cons_of_ne_nil hitem.nonempty
    have hfirst := hitem.trimmed.first
    rw [hcons] at hfirst ⊢
    exact hfirst
  have hopens : opensComment (item ++ (gap ++ text)) = false := by
    rw [opensComment_append hitem.nonempty, hitem.opensComment_eq]
    intro c hc
    cases gap with
    | nil => simp_all
    | cons d gap => exact hgap.head?_ne c hc
  exact ⟨(items_eq_itemsBehind hfirst hopens).trans hbehind, hbehind⟩

theorem Joined.items_eq (h : Joined items text) (hitems : ∀ item ∈ items, IsSingleItem item) :
    Document.items text = items ∧ itemsBehind text = items := by
  induction h with
  | nil => exact ⟨items_nil, rfl⟩
  | @last item gap hgap =>
    have hitem := hitems item List.mem_cons_self
    have hread := hitem.items_append hgap (Or.inr rfl) ⟨items_nil, rfl⟩
    rwa [List.append_nil] at hread
  | cons hseparator _ ih =>
    rw [List.forall_mem_cons] at hitems
    exact hitems.1.items_append hseparator.gap (Or.inl hseparator.separates) (ih hitems.2)

theorem items_joined (hitems : ∀ item ∈ items, IsSingleItem item) (hfront : Gap true front) (h : Joined items text) :
    Document.items (front ++ text) = items := by
  obtain ⟨hread, hbehind⟩ := h.items_eq hitems
  have hgap := hfront.itemsAfter_append (hread.trans hbehind.symm)
  exact hgap.trans hbehind

theorem items_joined_mixed :
    let remark : CommentLine := ⟨['\t'], "--".toList, " one, (\r".toList, by decide, by decide, by decide⟩
    let front := '\u3000' :: '\n' :: (remark.text ++ [' '])
    let separator := ',' :: '\r' :: '\n' :: (remark.text ++ ['\u00a0'])
    let items := ["A (1,n)".toList, ") -# b".toList, "p [x (], y)]".toList]
    let text := "A (1,n)".toList
      ++ (separator ++ (") -# b".toList ++ ([' ', '\n', '\n'] ++ ("p [x (], y)]".toList ++ []))))
    (∀ item ∈ items, IsSingleItem item) ∧ Gap true front ∧ Joined items text
      ∧ Document.items (front ++ text) = items := by
  intro remark front separator items text
  have hitems : ∀ item ∈ items, IsSingleItem item := by decide
  have hfront : Gap true front :=
    .blank (by decide) (by decide) (.lineBreak (.comment remark (.blank (by decide) (by decide) .nil)))
  have hseparator : IsSeparator separator :=
    ⟨.comma (.blank (by decide) (by decide) (.lineBreak (.comment remark (.blank (by decide) (by decide) .nil)))),
      by simp [separator]⟩
  have hlines : IsSeparator [' ', '\n', '\n'] :=
    ⟨.blank (by decide) (by decide) (.lineBreak (.lineBreak .nil)), by decide⟩
  have hjoined : Joined items text := .cons hseparator (.cons hlines (.last .nil))
  exact ⟨hitems, hfront, hjoined, items_joined hitems hfront hjoined⟩

end Joined

end SchemaDesign.Document
