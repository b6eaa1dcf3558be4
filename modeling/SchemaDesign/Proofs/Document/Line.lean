import SchemaDesign.Proofs.Document.CommentPlace
import SchemaDesign.Proofs.Document.Item

namespace SchemaDesign.Document

open Text

section Commas

variable {cs front back line : List Char} {depth : Nat}

theorem splitCommas_blank (h : ∀ c ∈ cs, isBlank c = true) : splitCommas depth cs = [cs] := by
  induction cs with
  | nil => rfl
  | cons c cs ih =>
    rw [List.forall_mem_cons] at h
    have hc := notMem_delimiters_of_isBlank h.1
    simp only [List.mem_cons, List.not_mem_nil, or_false, not_or] at hc
    simp [splitCommas, bracketDepth, hc, ih h.2]

theorem map_trimEnd_modifyHead (c : Char) (pieces : List (List Char)) :
    (pieces.modifyHead (c :: ·)).map trimEnd = (pieces.map trimEnd).modifyHead fun piece => trimEnd (c :: piece) := by
  cases pieces with
  | nil => rfl
  | cons piece pieces => simp [trimEnd_cons_trimEnd]

theorem map_trimEnd_splitCommas (h : ∀ c ∈ back, isBlank c = true) :
    (splitCommas depth (cs ++ back)).map trimEnd = (splitCommas depth cs).map trimEnd := by
  induction cs generalizing depth with
  | nil =>
    have hnil : trimEnd ([] ++ back) = trimEnd [] := trimEnd_append h
    rw [splitCommas_blank (by simpa using h)]
    simpa [splitCommas] using hnil
  | cons c cs ih =>
    rw [List.cons_append, splitCommas, splitCommas]
    split
    . rw [List.map_cons, List.map_cons, ih]
    . rw [map_trimEnd_modifyHead, map_trimEnd_modifyHead, ih]

theorem map_trim_splitCommas_append_right (h : ∀ c ∈ back, isBlank c = true) :
    (splitCommas depth (cs ++ back)).map trim = (splitCommas depth cs).map trim := by
  have htrimEnd (pieces : List (List Char)) : pieces.map trim = (pieces.map trimEnd).map trim := by
    rw [List.map_map]
    apply List.map_congr_left
    intro piece _
    exact (trim_trimEnd piece).symm
  rw [htrimEnd, map_trimEnd_splitCommas h, ← htrimEnd]

theorem map_trim_splitCommas_append_left (h : ∀ c ∈ front, isBlank c = true) :
    (splitCommas 0 (front ++ cs)).map trim = (splitCommas 0 cs).map trim := by
  rw [solid_of_blank h]
  cases splitCommas 0 cs with
  | nil => rfl
  | cons piece pieces => simp [trim_append_left h]

theorem map_trim_splitCommas_trim (cs : List Char) :
    (splitCommas 0 (trim cs)).map trim = (splitCommas 0 cs).map trim := by
  obtain ⟨front, back, hcs, hfront, hback⟩ := exists_trim cs
  have hright : (splitCommas 0 (trim cs ++ back)).map trim = (splitCommas 0 (trim cs)).map trim :=
    map_trim_splitCommas_append_right hback
  rw [← map_trim_splitCommas_append_left hfront, ← hcs] at hright
  exact hright.symm

end Commas

def pieces (line : List Char) : List (List Char) :=
  ((splitCommas 0 line).map trim).filter (!·.isEmpty)

def itemsBehind (text : List Char) : List (List Char) :=
  pieces (text.takeWhile (· ≠ '\n')) ++ items (text.dropWhile (· ≠ '\n'))

section Line

variable {c : Char} {cs line rest text : List Char}

theorem opensComment_append (hline : line ≠ []) (h : ∀ c ∈ rest.head?, c ≠ '-') :
    opensComment (line ++ rest) = opensComment line := by
  match line, rest with
  | [], _ => contradiction
  | _ :: _, [] => rw [List.append_nil]
  | [c], d :: rest =>
    have hd : d ≠ '-' := h d rfl
    rw [List.singleton_append]
    unfold opensComment
    split <;> simp_all
  | c :: d :: line, rest =>
    rw [List.cons_append, List.cons_append]
    unfold opensComment
    split <;> simp_all

theorem opensComment_of_trim (h : opensComment (trim cs) = true) (hfirst : ∀ c ∈ cs.head?, isBlank c = false) :
    opensComment cs = true := by
  obtain ⟨mark, hmark, hprefix⟩ := opensComment_iff.1 h
  rw [trim, trimStart_eq_self hfirst] at hprefix
  obtain ⟨back, hcs, -⟩ := exists_trimEnd cs
  have hcs : trimEnd cs <+: cs := ⟨back, hcs.symm⟩
  exact opensComment_iff.2 ⟨mark, hmark, hprefix.trans hcs⟩

theorem pieces_trim (line : List Char) : pieces (trim line) = pieces line := by
  rw [pieces, map_trim_splitCommas_trim, ← pieces]

theorem pieces_cons (hc : isBlank c = true) : pieces (c :: line) = pieces line := by
  have hblank : ∀ d ∈ [c], isBlank d = true := by simpa using hc
  rw [pieces, ← List.singleton_append, map_trim_splitCommas_append_left hblank, ← pieces]

theorem pieces_of_solid (h : Solid line) : pieces line = [trim line].filter (!·.isEmpty) := by
  rw [pieces, h.splitCommas_eq, List.map_singleton]

theorem pieces_append_comma (h : Solid line) : pieces (line ++ ',' :: rest) = pieces line ++ pieces rest := by
  have hcut : splitCommas 0 (line ++ ',' :: rest) = line :: splitCommas 0 rest := by
    rw [h]
    simp [splitCommas]
  rw [pieces, hcut, pieces_of_solid h, pieces, ← List.filter_append]
  rfl

theorem itemsBehind_append (hline : '\n' ∉ line) (hrest : ∀ c ∈ rest.head?, c = '\n') :
    itemsBehind (line ++ rest) = pieces line ++ items rest := by
  have hall : ∀ c ∈ line, decide (c ≠ '\n') = true := by
    intro c hc
    rw [decide_eq_true_eq]
    rintro rfl
    exact hline hc
  rw [itemsBehind, List.takeWhile_append_of_pos hall, List.dropWhile_append_of_pos hall]
  cases rest with
  | nil => simp
  | cons c rest =>
    obtain rfl : c = '\n' := hrest c rfl
    simp

theorem items_cons_newline (text : List Char) : items ('\n' :: text) = items text := by
  have h := items_append_newline [] text
  rwa [items_nil] at h

theorem items_cons (hc : isBlank c = true) : items (c :: text) = items text := by
  rw [items, lines_cons hc, ← items]

theorem itemsBehind_cons (hc : isBlank c = true) (hline : c ≠ '\n') : itemsBehind (c :: text) = itemsBehind text := by
  obtain ⟨line, rest, rfl, honeLine, hrest⟩ := exists_restOfLine text
  have hnext : '\n' ∉ c :: line := by simp [hline.symm, honeLine]
  rw [← List.cons_append, itemsBehind_append hnext hrest, itemsBehind_append honeLine hrest, pieces_cons hc]

theorem itemsBehind_append_newline (hline : '\n' ∉ line) :
    itemsBehind (line ++ '\n' :: text) = pieces line ++ items text := by
  rw [itemsBehind_append hline (by simp), items_cons_newline]

theorem itemsBehind_append_comma (h : Solid line) (hline : '\n' ∉ line) :
    itemsBehind (line ++ ',' :: text) = pieces line ++ itemsBehind text := by
  obtain ⟨next, rest, rfl, hnext, hrest⟩ := exists_restOfLine text
  have hboth : '\n' ∉ line ++ ',' :: next := by simp [hline, hnext]
  have hassoc : line ++ ',' :: (next ++ rest) = (line ++ ',' :: next) ++ rest := by simp
  rw [hassoc, itemsBehind_append hboth hrest, itemsBehind_append hnext hrest, pieces_append_comma h, List.append_assoc]

theorem lineItems_trim (h : opensComment (trim line) = false) : lineItems (trim line) = pieces line := by
  rw [lineItems, h, if_neg (by decide), ← pieces, pieces_trim]

theorem items_eq_pieces (hline : '\n' ∉ line) (hopens : opensComment (trim line) = false) :
    items line = pieces line := by
  cases htrim : trim line with
  | nil =>
    rw [items, lines_blank (trim_eq_nil_iff.1 htrim), ← pieces_trim, htrim]
    rfl
  | cons c cs =>
    rw [items, lines_line hline (by simp [htrim]), List.flatMap_singleton, lineItems_trim hopens]

theorem items_append (hline : '\n' ∉ line) (hrest : ∀ c ∈ rest.head?, c = '\n')
    (hopens : opensComment (trim line) = false) : items (line ++ rest) = pieces line ++ items rest := by
  cases rest with
  | nil => rw [List.append_nil, items_eq_pieces hline hopens, items_nil, List.append_nil]
  | cons c rest =>
    obtain rfl : c = '\n' := hrest c rfl
    rw [items_append_newline, items_eq_pieces hline hopens, items_cons_newline]

theorem items_eq_itemsBehind (hfirst : ∀ c ∈ text.head?, isBlank c = false) (hopens : opensComment text = false) :
    items text = itemsBehind text := by
  obtain ⟨line, rest, rfl, hline, hrest⟩ := exists_restOfLine text
  rw [opensComment_append_of_head hrest] at hopens
  rw [itemsBehind_append hline hrest, items_append hline hrest]
  rw [← Bool.not_eq_true] at hopens ⊢
  intro htrim
  apply hopens
  apply opensComment_of_trim htrim
  intro c hc
  apply hfirst c
  rw [List.head?_append, hc]
  rfl

end Line

end SchemaDesign.Document
