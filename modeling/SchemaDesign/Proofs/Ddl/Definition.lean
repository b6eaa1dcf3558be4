import SchemaDesign.Proofs.Ddl.Script

namespace SchemaDesign

namespace Dialect

variable {d : Dialect} {t : PhysicalTable} {α : Type}

theorem definition?_indented (definition : String) (tail : List Char) :
    Statement.definition? ((indent ++ definition).toList ++ tail) = some (definition.toList ++ tail) := by
  rw [Statement.definition?, String.toList_append, List.append_assoc, dropPrefix?_append]

theorem filterMap_statement {f : List Char → Option α} (ofColumn : PhysicalColumn → Option α)
    (ofReference : PhysicalColumn → ForeignKey → Option α)
    (hcolumn : ∀ c ∈ t.columns, ∀ width, ∀ tail ∈ [[], [',']],
      f ((d.columnDefinition width c).toList ++ tail) = ofColumn c)
    (hkey : ∀ s ∈ d.keyDefinitions t, ∀ tail ∈ [[], [',']], f (s.toList ++ tail) = none)
    (hreference : ∀ c ∈ t.columns, ∀ fk ∈ c.reference, ∀ tail ∈ [[], [',']],
      f ((d.foreignKey t.name c.name fk).toList ++ tail) = ofReference c fk) :
    (d.statement t).definitions.filterMap (fun line => (Statement.definition? line).bind f)
      =
    t.columns.filterMap ofColumn ++ t.columns.filterMap fun c => c.reference.bind (ofReference c) := by
  -- A comma behind a definition makes no difference to what is read.
  have hcomma : ∀ s ∈ d.definitions t, f (s.toList ++ [',']) = f (s.toList ++ []) := by
    intro s hs
    simp only [definitions, foreignKeyDefinitions, List.mem_append, List.mem_map, List.mem_filterMap] at hs
    obtain (⟨c, hc, rfl⟩ | hs) | ⟨c, hc, hs⟩ := hs
    . rw [hcolumn c hc _ _ (by simp), hcolumn c hc _ _ (by simp)]
    . rw [hkey s hs _ (by simp), hkey s hs _ (by simp)]
    . obtain ⟨fk, hfk, rfl⟩ := Option.map_eq_some_iff.1 hs
      rw [hreference c hc fk hfk _ (by simp), hreference c hc fk hfk _ (by simp)]
  have hread : ∀ s : String, (Statement.definition? (indent ++ s).toList).bind f = f (s.toList ++ []) := by
    intro s
    rw [← List.append_nil (indent ++ s).toList, definition?_indented, Option.bind_some]
  rw [statement, filterMap_commaLines, definitionTexts, List.filterMap_map]
  . simp only [Function.comp_def, hread, definitions, List.filterMap_append, List.filterMap_map]
    have hkeys : (d.keyDefinitions t).filterMap (fun s => f (s.toList ++ [])) = [] := by
      rw [List.filterMap_eq_nil_iff]
      intro s hs
      exact hkey s hs [] (by simp)
    rw [hkeys, List.append_nil]
    congr 1
    . apply List.filterMap_congr
      intro c hc
      exact hcolumn c hc _ [] (by simp)
    . rw [foreignKeyDefinitions, List.filterMap_filterMap]
      apply List.filterMap_congr
      intro c hc
      cases hfk : c.reference with
      | none => rfl
      | some fk => exact hreference c hc fk hfk [] (by simp)
  . rfl
  . rw [definitionTexts, List.forall_mem_map]
    intro s hs
    rw [definition?_indented, hread, Option.bind_some]
    exact hcomma s hs

theorem head?_quote (name : String) (tail : List Char) :
    ((d.quote name).toList ++ tail).head? = some d.quoteChar := by
  simp [quote]

theorem unquote?_columnDefinition (d : Dialect) (width : Nat) (c : PhysicalColumn) (tail : List Char) :
    ∃ padding, (∀ a ∈ padding, a = ' ')
      ∧ d.unquote? ((d.columnDefinition width c).toList ++ tail)
        = some (c.name, padding ++ ' ' :: (d.columnTail c).toList ++ tail) := by
  obtain ⟨padding, hpadding, hdefinition⟩ : ∃ padding, (∀ a ∈ padding, a = ' ')
      ∧ (d.columnDefinition width c).toList = (d.quote c.name).toList ++ (padding ++ ' ' :: (d.columnTail c).toList) := by
    have hspace : " ".toList = [' '] := by decide
    refine ⟨_, ?_, by simp only [columnDefinition, String.toList_append, String.toList_ofList, hspace]; rfl⟩
    intro a ha
    exact (List.mem_replicate.1 ha).2
  have hblank : ∀ a ∈ (padding ++ ' ' :: (d.columnTail c).toList ++ tail).head?, a ≠ d.quoteChar := by
    have hquote : ' ' ≠ d.quoteChar := by cases d <;> decide
    intro a ha
    have ha : a = ' ' := by
      cases padding with
      | nil => simpa using ha.symm
      | cons b padding =>
        rw [← hpadding b (List.mem_cons_self ..)]
        simpa using ha.symm
    rwa [ha]
  refine ⟨padding, hpadding, ?_⟩
  rw [hdefinition, List.append_assoc, unquote?_quote d _ hblank]

section ForeignKey

theorem foreignKeyName?_eq_none {text : List Char} (h : ∀ a ∈ text.head?, a ≠ 'C') : d.foreignKeyName? text = none := by
  have hdrop : text.dropPrefix? "CONSTRAINT ".toList = none := by
    have hfront : "CONSTRAINT ".toList = 'C' :: "ONSTRAINT ".toList := by decide
    rw [hfront]
    cases text with
    | nil => rfl
    | cons a text =>
      have ha : a ≠ 'C' := h a rfl
      simp [List.dropPrefix?, ha]
  rw [foreignKeyName?, hdrop]
  rfl

theorem foreignKeyName?_columnDefinition (width : Nat) (c : PhysicalColumn) (tail : List Char) :
    d.foreignKeyName? ((d.columnDefinition width c).toList ++ tail) = none := by
  apply foreignKeyName?_eq_none
  rw [columnDefinition, String.toList_append, List.append_assoc, head?_quote]
  cases d <;> decide

theorem foreignKeyName?_keyDefinitions {s : String} (hs : s ∈ d.keyDefinitions t) (tail : List Char) :
    d.foreignKeyName? (s.toList ++ tail) = none := by
  apply foreignKeyName?_eq_none
  unfold keyDefinitions at hs
  split at hs
  . contradiction
  . rw [List.mem_singleton] at hs
    simp [hs]

theorem foreignKeyName?_foreignKey (hd : d.usesBackticks = true) (table column : String) (fk : ForeignKey)
    (tail : List Char) :
    d.foreignKeyName? ((d.foreignKey table column fk).toList ++ tail) = some (constraintName table column) := by
  have hkeyword : ∀ s : String, " " ++ ("FOREIGN KEY (" ++ s) = " FOREIGN KEY " ++ ("(" ++ s) := by
    intro s
    have hwords : " " ++ "FOREIGN KEY (" = " FOREIGN KEY " ++ "(" := by decide
    rw [← String.append_assoc, ← String.append_assoc, hwords]
  obtain ⟨rest, hrest⟩ : ∃ rest, d.foreignKey table column fk
      = "CONSTRAINT " ++ (d.quote (constraintName table column) ++ (" FOREIGN KEY " ++ rest)) := by
    simp only [foreignKey, hd, if_true, String.append_assoc, hkeyword]
    exact ⟨_, rfl⟩
  have hspace : ∀ c ∈ (" FOREIGN KEY ".toList ++ (rest.toList ++ tail)).head?, c ≠ d.quoteChar := by
    cases d <;> simp [quoteChar, usesBackticks]
  rw [hrest, foreignKeyName?]
  simp only [String.toList_append, List.append_assoc]
  rw [dropPrefix?_append, Option.bind_some, unquote?_quote d _ hspace]
  simp

theorem foreignKeyNames_statement (hd : d.usesBackticks = true) (t : PhysicalTable) :
    (d.statement t).foreignKeyNames d
      =
    t.columns.filterMap fun c => c.reference.map fun _ => constraintName t.name c.name := by
  unfold Statement.foreignKeyNames
  rw [filterMap_statement (fun _ => none) fun c _ => some (constraintName t.name c.name)]
  . rw [List.filterMap_none, List.nil_append]
    apply List.filterMap_congr
    intro c _
    exact (Option.map_eq_bind).symm
  . intro c _ width tail _
    exact foreignKeyName?_columnDefinition width c tail
  . intro s hs tail _
    exact foreignKeyName?_keyDefinitions hs tail
  . intro c _ fk _ tail _
    exact foreignKeyName?_foreignKey hd t.name c.name fk tail

end ForeignKey

section AutoIncrement

def markEndings : List (List Char) :=
  ["ENT".toList, [',']]

theorem suffix_of_suffix_append_space {ending front back : List Char} (hspace : ' ' ∉ ending)
    (h : ending <:+ front ++ ' ' :: back) : ending <:+ back := by
  cases List.suffix_or_suffix_of_suffix h (List.suffix_append front (' ' :: back)) with
  | inl hshort =>
    cases List.suffix_cons_iff.1 hshort with
    | inl hwhole =>
      rw [hwhole] at hspace
      simp at hspace
    | inr hback => exact hback
  | inr hlong => exact absurd (hlong.subset (List.mem_cons_self ..)) hspace

theorem exists_suffix_of_intercalate {ending : List Char} (hspace : ' ' ∉ ending) {pieces : List String}
    (hne : pieces ≠ []) (h : ending <:+ (" ".intercalate pieces).toList) : ∃ s ∈ pieces, ending <:+ s.toList := by
  rw [String.toList_intercalate] at h
  induction pieces with
  | nil => contradiction
  | cons s pieces ih =>
    cases pieces with
    | nil =>
      rw [List.map_singleton, List.intercalate_singleton] at h
      exact ⟨s, List.mem_singleton_self s, h⟩
    | cons s' pieces =>
      rw [List.map_cons, List.map_cons, List.intercalate_cons_cons, List.append_assoc] at h
      obtain ⟨found, hfound, hsuffix⟩ := ih (by simp) (suffix_of_suffix_append_space hspace h)
      exact ⟨found, List.mem_cons_of_mem _ hfound, hsuffix⟩

variable {c : PhysicalColumn}

def Unmistakable (d : Dialect) (c : PhysicalColumn) : Prop :=
  ∀ s ∈ c.dialectType d :: c.constraints.map Constraint.sql, ∀ ending ∈ markEndings, ¬ending <:+ s.toList

theorem suffix_intercalate_append {pieces : List String} (hne : pieces ≠ []) (s : String) :
    ' ' :: s.toList <:+ (" ".intercalate (pieces ++ [s])).toList := by
  rw [String.toList_intercalate]
  induction pieces with
  | nil => contradiction
  | cons s' pieces ih =>
    cases pieces with
    | nil => exact ⟨s'.toList, by simp [List.intercalate_cons_cons]⟩
    | cons s'' pieces =>
      rw [List.cons_append, List.cons_append, List.map_cons, List.map_cons, List.intercalate_cons_cons]
      exact (ih (by simp)).trans (List.suffix_append ..)

theorem concat_suffix_concat {front cs : List Char} {a b : Char} :
    front ++ [a] <:+ cs ++ [b] ↔ a = b ∧ front <:+ cs := by
  rw [← List.reverse_prefix, List.reverse_append, List.reverse_append]
  simp

theorem isMarked_append {cs tail : List Char} (hcs : ¬[','] <:+ cs) (htail : tail ∈ [[], [',']]) :
    (" AUTO_INCREMENT".toList.isSuffixOf (cs ++ tail) || " AUTO_INCREMENT,".toList.isSuffixOf (cs ++ tail))
      =
    " AUTO_INCREMENT".toList.isSuffixOf cs := by
  have hmark : " AUTO_INCREMENT".toList = " AUTO_INCREMEN".toList ++ ['T'] := by decide
  have hcomma : " AUTO_INCREMENT,".toList = " AUTO_INCREMENT".toList ++ [','] := by decide
  rw [Bool.eq_iff_iff, Bool.or_eq_true, List.isSuffixOf_iff_suffix, List.isSuffixOf_iff_suffix,
    List.isSuffixOf_iff_suffix]
  simp only [List.mem_cons, List.not_mem_nil, or_false] at htail
  obtain rfl | rfl := htail
  . rw [List.append_nil, or_iff_left_iff_imp]
    intro h
    apply absurd _ hcs
    rw [hcomma] at h
    exact (List.suffix_append ..).trans h
  . have hnot : ¬" AUTO_INCREMENT".toList <:+ cs ++ [','] := by
      rw [hmark, concat_suffix_concat]
      rintro ⟨heq, _⟩
      contradiction
    rw [or_iff_right hnot, hcomma, concat_suffix_concat, eq_self, true_and]

theorem mark_suffix_columnTail (hd : d.usesBackticks = true) (hc : d.Unmistakable c) (front : List Char) :
    " AUTO_INCREMENT".toList <:+ front ++ ' ' :: (d.columnTail c).toList ↔ c.isCounting = true := by
  have hmark : " AUTO_INCREMENT".toList = ' ' :: "AUTO_INCREMENT".toList := by decide
  unfold columnTail
  cases hcounting : c.isCounting with
  | true =>
    have hpieces : c.dialectType d :: c.constraints.map Constraint.sql ≠ [] := by simp
    have hsuffix := suffix_intercalate_append hpieces "AUTO_INCREMENT"
    rw [hmark]
    simp only [hd, Bool.and_self, if_true, iff_true]
    exact (hsuffix.trans (List.suffix_cons ..)).trans (List.suffix_append ..)
  | false =>
    simp only [Bool.false_and, Bool.false_eq_true, if_false, List.append_nil, iff_false]
    intro h
    have hending : "ENT".toList <:+ " AUTO_INCREMENT".toList := by decide
    have hspace : ' ' ∉ "ENT".toList := by decide
    obtain ⟨s, hs, hsuffix⟩ := exists_suffix_of_intercalate hspace (by simp)
      (suffix_of_suffix_append_space hspace (hending.trans h))
    exact hc s hs _ (by decide) hsuffix

theorem not_comma_suffix_columnTail (hc : d.Unmistakable c) (front : List Char) :
    ¬[','] <:+ front ++ ' ' :: (d.columnTail c).toList := by
  intro h
  have hspace : ' ' ∉ [','] := by decide
  obtain ⟨s, hs, hsuffix⟩ := exists_suffix_of_intercalate hspace (by simp) (suffix_of_suffix_append_space hspace h)
  rw [List.mem_append] at hs
  cases hs with
  | inl hpiece => exact hc s hpiece _ (by decide) hsuffix
  | inr hmark =>
    split at hmark
    . rw [List.mem_singleton.1 hmark] at hsuffix
      revert hsuffix
      decide
    . contradiction

theorem autoIncrement?_columnDefinition (hd : d.usesBackticks = true) (hc : d.Unmistakable c) (width : Nat)
    {tail : List Char} (htail : tail ∈ [[], [',']]) :
    d.autoIncrement? ((d.columnDefinition width c).toList ++ tail)
      =
    if c.isCounting then some c.name else none := by
  obtain ⟨padding, _, hread⟩ := unquote?_columnDefinition d width c tail
  rw [autoIncrement?, hread]
  simp only [isMarked_append (not_comma_suffix_columnTail hc padding) htail, List.isSuffixOf_iff_suffix,
    mark_suffix_columnTail hd hc]

theorem autoIncrement?_eq_none {text : List Char} (h : ∀ a ∈ text.head?, a ≠ d.quoteChar) :
    d.autoIncrement? text = none := by
  have hread : d.unquote? text = none := by
    cases text with
    | nil => rfl
    | cons a text => exact if_neg (h a rfl)
  rw [autoIncrement?, hread]

theorem autoIncrements_statement (hd : d.usesBackticks = true) (t : PhysicalTable)
    (ht : ∀ c ∈ t.columns, d.Unmistakable c) :
    (d.statement t).autoIncrements d = (t.columns.filter (·.isCounting)).map (·.name) := by
  unfold Statement.autoIncrements
  rw [filterMap_statement (fun c => if c.isCounting then some c.name else none) fun _ _ => none]
  . simp only [Option.bind_fun_none, List.filterMap_none, List.append_nil]
    rw [← List.filterMap_filter, List.filterMap_eq_map']
  . intro c hc width tail htail
    exact autoIncrement?_columnDefinition hd (ht c hc) width htail
  . intro s hs tail _
    apply autoIncrement?_eq_none
    unfold keyDefinitions at hs
    split at hs
    . contradiction
    . rw [List.mem_singleton] at hs
      cases d <;> simp [hs, quoteChar, usesBackticks]
  . intro c _ fk _ tail _
    apply autoIncrement?_eq_none
    cases d <;> simp [foreignKey, quoteChar, usesBackticks]

end AutoIncrement

end Dialect

end SchemaDesign
