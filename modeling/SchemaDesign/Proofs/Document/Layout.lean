import SchemaDesign.Proofs.Document.Block
import SchemaDesign.Proofs.Document.Line

namespace SchemaDesign.Document

open Text

inductive Separator where
  | comma
  | lineBreak
deriving DecidableEq, Repr

def Separator.char : Separator → Char
  | comma => ','
  | lineBreak => '\n'

structure Stretch where
  before : List Char
  item : Option (List Char)
  after : List Char
  blank : ∀ c ∈ before ++ after, isBlank c = true ∧ c ≠ '\n'

def Stretch.text (s : Stretch) : List Char :=
  s.before ++ (s.item.getD [] ++ s.after)

structure Layout where
  first : Stretch
  others : List (Separator × Stretch)

namespace Layout

def text (l : Layout) : List Char :=
  l.first.text ++ l.others.flatMap fun (separator, stretch) => separator.char :: stretch.text

def items (l : Layout) : List (List Char) :=
  l.first.item.toList ++ l.others.filterMap (·.2.item)

def ofItems (items : List (List Char)) : Layout where
  first := ⟨[], none, [], by simp⟩
  others := items.map fun item => (.lineBreak, ⟨[], some item, [], by simp⟩)

theorem items_ofItems (items : List (List Char)) : (ofItems items).items = items := by
  rw [ofItems, Layout.items, List.filterMap_map]
  exact List.filterMap_some

end Layout

def isPlain (c : Char) : Bool :=
  isUnmarked c && c != '\x7b' && c != '\x7d'

structure IsItem (cs : List Char) : Prop where
  nonempty : cs ≠ []
  trimmed : Trimmed cs
  solid : Solid cs
  oneLine : '\n' ∉ cs
  plain : ∀ c ∈ cs, isPlain c = true

section Plain

variable {c : Char} {cs : List Char}

theorem isUnmarked_of_isPlain (h : isPlain c = true) : isUnmarked c = true := by
  simp only [isPlain, Bool.and_eq_true] at h
  exact h.1.1

theorem braceless_of_isPlain (h : ∀ c ∈ cs, isPlain c = true) : Braceless cs := by
  constructor
  . intro hmem
    exact absurd (h _ hmem) (by decide)
  . intro hmem
    exact absurd (h _ hmem) (by decide)

theorem isPlain_of_notMem (h : c ∉ ['#', '-', '\x7b', '\x7d']) : isPlain c = true := by
  simp only [List.mem_cons, List.not_mem_nil, or_false, not_or] at h
  simp [isPlain, isUnmarked, h]

theorem isPlain_of_isBlank (h : isBlank c = true) : isPlain c = true := by
  apply isPlain_of_notMem
  intro hmem
  have hnone : ∀ c ∈ ['#', '-', '\x7b', '\x7d'], isBlank c = false := by decide
  rw [hnone c hmem] at h
  contradiction

theorem isPlain_of_isWordChar (h : isWordChar c = true) : isPlain c = true := by
  apply isPlain_of_notMem
  intro hmem
  have hnone : ∀ c ∈ ['#', '-', '\x7b', '\x7d'], isWordChar c = false := by decide +kernel
  rw [hnone c hmem] at h
  contradiction

theorem isItem_of_isPhrase (h : IsPhrase cs) (hplain : ∀ c ∈ cs, isPlain c = true) : IsItem cs := by
  refine ⟨h.nonempty, h.trimmed, solid_of_isPhrase h, ?_, hplain⟩
  intro hmem
  exact absurd (h.unframed _ hmem) (by decide)

theorem isItem_text {p : Parts} (h : p.Writable) (hplain : ∀ c ∈ p.text, isPlain c = true) : IsItem p.text := by
  refine ⟨text_ne_nil h, trimmed_text h, solid_text h, ?_, hplain⟩
  intro hmem
  exact absurd (mem_text h _ hmem) (by decide)

end Plain

section Items

variable {cs line rest : List Char}

theorem opensComment_eq_false (h : ∀ c ∈ cs, isPlain c = true) : opensComment cs = false := by
  cases cs with
  | nil => rfl
  | cons c cs => exact opensComment_of_isUnmarked (isUnmarked_of_isPlain (h c List.mem_cons_self))

theorem opensComment_trim_of_isPlain (h : ∀ c ∈ cs, isPlain c = true) : opensComment (trim cs) = false := by
  apply opensComment_eq_false
  intro c hc
  exact h c (trim_subset hc)

theorem items_line (hline : '\n' ∉ line) (hplain : ∀ c ∈ line, isPlain c = true) : items line = pieces line :=
  items_eq_pieces hline (opensComment_trim_of_isPlain hplain)

theorem items_eq_itemsBehind_of_isPlain (hplain : ∀ c ∈ cs, isPlain c = true) : items cs = itemsBehind cs := by
  obtain ⟨line, rest, rfl, hline, hrest⟩ := exists_restOfLine cs
  simp only [List.mem_append, or_imp, forall_and] at hplain
  rw [itemsBehind_append hline hrest, items_append hline hrest (opensComment_trim_of_isPlain hplain.1)]

theorem items_append_comma (hsolid : Solid line) (hline : '\n' ∉ line)
    (hplain : ∀ c ∈ line ++ ',' :: rest, isPlain c = true) :
    items (line ++ ',' :: rest) = items line ++ items rest := by
  have hread := items_eq_itemsBehind_of_isPlain hplain
  simp only [List.mem_append, List.mem_cons, or_imp, forall_and] at hplain
  rw [hread, itemsBehind_append_comma hsolid hline, items_line hline hplain.1,
    items_eq_itemsBehind_of_isPlain hplain.2.2]

end Items

section Layout

variable {s : Stretch} {l : Layout}

theorem Stretch.forall_mem_text {p : Char → Prop} (hblank : ∀ c, isBlank c = true → p c)
    (hitem : ∀ item ∈ s.item, ∀ c ∈ item, p c) : ∀ c ∈ s.text, p c := by
  intro c hc
  rw [text, List.mem_append, List.mem_append] at hc
  rcases hc with hc | hc | hc
  . exact hblank c (s.blank c (List.mem_append_left _ hc)).1
  . cases hs : s.item with
    | none => simp [hs] at hc
    | some item => exact hitem item hs c (by simpa [hs] using hc)
  . exact hblank c (s.blank c (List.mem_append_right _ hc)).1

theorem Layout.forall_mem_text {p : Char → Prop} (hblank : ∀ c, isBlank c = true → p c) (hcomma : p ',')
    (hitems : ∀ item ∈ l.items, ∀ c ∈ item, p c) : ∀ c ∈ l.text, p c := by
  simp only [Layout.items, List.mem_append, Option.mem_toList, List.mem_filterMap, or_imp, forall_and] at hitems
  intro c hc
  simp only [Layout.text, List.mem_append, List.mem_flatMap, List.mem_cons] at hc
  rcases hc with hc | ⟨⟨separator, stretch⟩, hmem, rfl | hc⟩
  . exact Stretch.forall_mem_text hblank hitems.1 c hc
  . cases separator with
    | comma => exact hcomma
    | lineBreak =>
      have hnewline : isBlank '\n' = true := by decide
      exact hblank '\n' hnewline
  . apply Stretch.forall_mem_text hblank _ c hc
    intro item hitem
    exact hitems.2 item ⟨_, hmem, hitem⟩

theorem Stretch.items_text (h : ∀ item ∈ s.item, IsItem item) :
    Solid s.text ∧ '\n' ∉ s.text ∧ items s.text = s.item.toList := by
  have hbefore : ∀ c ∈ s.before, isBlank c = true ∧ c ≠ '\n' := fun c hc => s.blank c (List.mem_append_left _ hc)
  have hafter : ∀ c ∈ s.after, isBlank c = true ∧ c ≠ '\n' := fun c hc => s.blank c (List.mem_append_right _ hc)
  have hitem : Solid (s.item.getD []) ∧ Trimmed (s.item.getD []) ∧ '\n' ∉ s.item.getD []
      ∧ ∀ c ∈ s.item.getD [], isPlain c = true := by
    cases hs : s.item with
    | none => exact ⟨solid_nil, by decide, by simp, by simp⟩
    | some item =>
      have := h item hs
      exact ⟨this.solid, this.trimmed, this.oneLine, this.plain⟩
  obtain ⟨hsolid, htrimmed, honeLine, hplain⟩ := hitem
  have hline : '\n' ∉ s.text := by
    simp only [text, List.mem_append, not_or]
    exact ⟨fun hc => (hbefore _ hc).2 rfl, honeLine, fun hc => (hafter _ hc).2 rfl⟩
  have hplainText : ∀ c ∈ s.text, isPlain c = true :=
    forall_mem_text (fun c => isPlain_of_isBlank) fun item hs => (h item hs).plain
  have hsolidText : Solid s.text :=
    (solid_of_blank fun c hc => (hbefore c hc).1).append (hsolid.append (solid_of_blank fun c hc => (hafter c hc).1))
  refine ⟨hsolidText, hline, ?_⟩
  rw [items_line hline hplainText, pieces_of_solid hsolidText, text,
    trim_append_append (fun c hc => (hbefore c hc).1) (fun c hc => (hafter c hc).1) htrimmed]
  cases hs : s.item with
  | none => rfl
  | some item => simp [(h item hs).nonempty]

theorem Layout.isPlain_text (h : ∀ item ∈ l.items, IsItem item) : ∀ c ∈ l.text, isPlain c = true := by
  apply Layout.forall_mem_text
  . intro c
    exact isPlain_of_isBlank
  . decide
  . intro item hitem
    exact (h item hitem).plain

theorem Layout.items_text (h : ∀ item ∈ l.items, IsItem item) : Document.items l.text = l.items := by
  obtain ⟨first, others⟩ := l
  induction others generalizing first with
  | nil =>
    simp only [Layout.items, List.filterMap_nil, List.append_nil, Option.mem_toList] at h
    simpa [Layout.text, Layout.items] using (Stretch.items_text h).2.2
  | cons next others ih =>
    obtain ⟨separator, stretch⟩ := next
    have hplain := isPlain_text h
    have hitems : Layout.items ⟨first, (separator, stretch) :: others⟩
        = first.item.toList ++ Layout.items ⟨stretch, others⟩ := by
      cases hs : stretch.item <;> simp [Layout.items, hs]
    have htext : Layout.text ⟨first, (separator, stretch) :: others⟩
        = first.text ++ separator.char :: Layout.text ⟨stretch, others⟩ := by
      simp [Layout.text]
    rw [hitems] at h ⊢
    rw [htext] at hplain ⊢
    simp only [List.mem_append, Option.mem_toList, or_imp, forall_and] at h
    obtain ⟨hsolid, hline, hfirst⟩ := Stretch.items_text h.1
    rw [← ih stretch h.2, ← hfirst]
    cases separator with
    | comma => exact items_append_comma hsolid hline hplain
    | lineBreak => exact items_append_newline _ _

end Layout

end SchemaDesign.Document
