import SchemaDesign.Document.Flag
import SchemaDesign.Proofs.Document.Item

namespace SchemaDesign

open Text

namespace ReferentialAction

def words (action : ReferentialAction) : List (List Char) :=
  Text.words action.sql.toList

theorem ofText?_words (action : ReferentialAction) : ofText? (unwords action.words) = some action := by
  cases action <;> decide

end ReferentialAction

namespace ForeignKey

structure Writable (column : String) (fk : ForeignKey) : Prop where
  source : fk.source = column
  table : isIdentifier fk.table.toList = true
  column : isIdentifier fk.column.toList = true

instance (column : String) (fk : ForeignKey) : Decidable (fk.Writable column) :=
  decidable_of_iff
    (fk.source = column ∧ isIdentifier fk.table.toList = true ∧ isIdentifier fk.column.toList = true)
    ⟨fun h => ⟨h.1, h.2.1, h.2.2⟩, fun h => ⟨h.1, h.2, h.3⟩⟩

def clause (event : String) : Option ReferentialAction → List (List Char)
  | none => []
  | some action => "ON".toList :: event.toList :: action.words

def clauses (fk : ForeignKey) : List (List Char) :=
  clause "DELETE" fk.onDelete ++ clause "UPDATE" fk.onUpdate

def target (fk : ForeignKey) : List Char :=
  fk.table.toList ++ '.' :: fk.column.toList

end ForeignKey

namespace Document

namespace Flag

def text : Flag → List Char
  | primaryKey => "PK".toList
  | derived => "DERIVED".toList
  | notNull => "NOT NULL".toList
  | unique => "UNIQUE".toList
  | check expression => "CHECK".toList ++ '(' :: (expression.toList ++ [')'])
  | foreignKey fk => unwords ("FK".toList :: "->".toList :: fk.target :: fk.clauses)
  | other text => text.toList

theorem text_check (expression : String) :
    (check expression).text = "CHECK".toList ++ '(' :: (expression.toList ++ [')']) := rfl

theorem text_foreignKey (fk : ForeignKey) :
    (foreignKey fk).text = unwords ("FK".toList :: "->".toList :: fk.target :: fk.clauses) := rfl

end Flag

section Clauses

variable {reference fk : ForeignKey} {ws : List (List Char)}

theorem isOn_words (action : ReferentialAction) : ∀ w ∈ action.words, isOn w = false := by
  cases action <;> decide

theorem actionWords (action : ReferentialAction) (h : ∀ w ∈ ws.head?, isOn w = true) :
    (action.words ++ ws).takeWhile (!isOn ·) = action.words ∧ (action.words ++ ws).dropWhile (!isOn ·) = ws := by
  have hwords : ∀ w ∈ action.words, (!isOn w) = true := by simpa using isOn_words action
  rw [List.takeWhile_append_of_pos hwords, List.dropWhile_append_of_pos hwords]
  cases ws with
  | nil => simp
  | cons w ws =>
    have hw : isOn w = true := h w rfl
    simp [hw]

theorem readClauses_delete (action : Option ReferentialAction) (hopen : reference.onDelete = none)
    (h : ∀ w ∈ ws.head?, isOn w = true) :
    readClauses reference (ForeignKey.clause "DELETE" action ++ ws)
      =
    readClauses { reference with onDelete := action } ws := by
  cases action with
  | none =>
    have hsame : { reference with onDelete := none } = reference := by rw [← hopen]
    rw [hsame]
    rfl
  | some action =>
    obtain ⟨htake, hdrop⟩ := actionWords action h
    have hon : isOn "ON".toList = true := by decide
    have hevent : spells "DELETE".toList "DELETE" = true := by decide
    rw [ForeignKey.clause, List.cons_append, List.cons_append, readClauses]
    simp only [hon, hevent, htake, hdrop, action.ofText?_words, if_true, List.nil_append]

theorem readClauses_update (action : Option ReferentialAction) (hopen : reference.onUpdate = none)
    (h : ∀ w ∈ ws.head?, isOn w = true) :
    readClauses reference (ForeignKey.clause "UPDATE" action ++ ws)
      =
    readClauses { reference with onUpdate := action } ws := by
  cases action with
  | none =>
    have hsame : { reference with onUpdate := none } = reference := by rw [← hopen]
    rw [hsame]
    rfl
  | some action =>
    obtain ⟨htake, hdrop⟩ := actionWords action h
    have hon : isOn "ON".toList = true := by decide
    have hdelete : spells "UPDATE".toList "DELETE" = false := by decide
    have hupdate : spells "UPDATE".toList "UPDATE" = true := by decide
    rw [ForeignKey.clause, List.cons_append, List.cons_append, readClauses]
    simp only [hon, hdelete, hupdate, htake, hdrop, action.ofText?_words, Bool.false_eq_true, if_true, if_false,
      List.nil_append]

theorem readClauses_clauses (fk : ForeignKey) :
    readClauses (.plain fk.source fk.table fk.column) fk.clauses = ([], some fk) := by
  have hon : ∀ w ∈ (ForeignKey.clause "UPDATE" fk.onUpdate).head?, isOn w = true := by
    cases fk.onUpdate with
    | none => simp [ForeignKey.clause]
    | some action => simp [ForeignKey.clause]; decide
  rw [ForeignKey.clauses, readClauses_delete _ rfl hon,
    ← List.append_nil (ForeignKey.clause "UPDATE" fk.onUpdate), readClauses_update _ rfl (by simp), readClauses]
  rfl

theorem readClauses_keeps (reference : ForeignKey) (ws : List (List Char))
    (h : (readClauses reference ws).2 = some fk) :
    fk.source = reference.source ∧ fk.table = reference.table ∧ fk.column = reference.column := by
  unfold readClauses at h
  split at h
  . simp only [Option.some.injEq] at h
    simp [h]
  . next on event rest =>
    have : (rest.dropWhile (!isOn ·)).length < (on :: event :: rest).length := by
      have := (List.dropWhile_suffix (!isOn ·) (l := rest)).length_le
      simp only [List.length_cons]
      omega
    split at h
    . simp only at h
      split at h
      . have hkept := readClauses_keeps _ _ h
        exact hkept
      . split at h
        . have hkept := readClauses_keeps _ _ h
          exact hkept
        . contradiction
    . contradiction
  . contradiction
termination_by ws.length

end Clauses

section Reference

variable {column : String} {fk : ForeignKey}

theorem plain_target (h : fk.Writable column) : IsWord fk.target ∧ ∀ c ∈ fk.target, c ∉ separating := by
  have hplain : ∀ c ∈ fk.target, isBlank c = false ∧ c ∉ separating := by
    have hword : ∀ c, isWordChar c = true → isBlank c = false ∧ c ∉ separating :=
      fun c hc => ⟨isBlank_of_isWordChar hc, notMem_separating_of_isWordChar hc⟩
    intro c hc
    rw [ForeignKey.target, List.mem_append, List.mem_cons] at hc
    rcases hc with hc | rfl | hc
    . exact hword c ((isIdentifier_iff.1 h.table).2 c hc)
    . decide
    . exact hword c ((isIdentifier_iff.1 h.column).2 c hc)
  refine ⟨⟨?_, fun c hc => (hplain c hc).1⟩, fun c hc => (hplain c hc).2⟩
  simp [ForeignKey.target]

theorem plain_clause {event : String} (hevent : event = "DELETE" ∨ event = "UPDATE")
    (action : Option ReferentialAction) :
    ∀ w ∈ ForeignKey.clause event action, IsWord w ∧ ∀ c ∈ w, c ∉ separating := by
  rcases hevent with rfl | rfl <;> rcases action with _ | action
  . decide
  . cases action <;> decide
  . decide
  . cases action <;> decide

theorem plain_words (h : fk.Writable column) :
    ∀ w ∈ "FK".toList :: "->".toList :: fk.target :: fk.clauses, IsWord w ∧ ∀ c ∈ w, c ∉ separating := by
  intro w hw
  simp only [ForeignKey.clauses, List.mem_cons, List.mem_append] at hw
  rcases hw with rfl | rfl | rfl | hw | hw
  . decide
  . decide
  . exact plain_target h
  . exact plain_clause (Or.inl rfl) _ w hw
  . exact plain_clause (Or.inr rfl) _ w hw

theorem readReference_text (h : fk.Writable column) :
    readReference column (unwords ("->".toList :: fk.target :: fk.clauses)) = ([], some fk) := by
  have hspace : isBlank ' ' = true := by decide
  have hwords : words (dropArrow (unwords ("->".toList :: fk.target :: fk.clauses))) = fk.target :: fk.clauses := by
    have harrow : dropArrow (unwords ("->".toList :: fk.target :: fk.clauses))
        = ' ' :: unwords (fk.target :: fk.clauses) := by
      rw [unwords_cons_cons]
      rfl
    rw [harrow, words_cons hspace, words_unwords]
    intro w hw
    apply (plain_words h w _).1
    exact List.mem_cons_of_mem _ (List.mem_cons_of_mem _ hw)
  have hcut : cut (· = '.') fk.target = some (fk.table.toList, fk.column.toList) := by
    apply cut_append_cons
    . intro c hc
      have := (isIdentifier_iff.1 h.table).2 c hc
      simpa using ne_of_isWordChar this (by decide)
    . rfl
  rw [readReference, hwords]
  simp only [hcut, h.table, h.column, Bool.and_self, if_true, String.ofList_toList]
  rw [← h.source]
  exact readClauses_clauses fk

theorem writable_of_readReference {text : List Char} {warnings : List Issue}
    (h : readReference column text = (warnings, some fk)) : fk.Writable column := by
  unfold readReference at h
  split at h
  . simp at h
  . next target clauses _ =>
    split at h
    . simp at h
    . next table referenced _ =>
      split at h
      . next hnames =>
        rw [Bool.and_eq_true] at hnames
        obtain ⟨hsource, htable, hcolumn⟩ := readClauses_keeps _ _ (congrArg Prod.snd h)
        constructor
        . exact hsource
        . rw [htable]
          simpa [ForeignKey.plain] using hnames.1
        . rw [hcolumn]
          simpa [ForeignKey.plain] using hnames.2
      . simp at h

end Reference

section Flag

variable {column : String} {f : Flag}

def Flag.Writable (column : String) : Flag → Prop
  | .foreignKey fk => fk.Writable column
  | .check expression => IsExpression expression.toList
  | .other _ => False
  | _ => True

theorem isPhrase_text (h : f.Writable column) : IsPhrase f.text := by
  cases f with
  | primaryKey => exact isPhrase_unwords (List.cons_ne_nil "PK".toList []) (by decide)
  | derived => exact isPhrase_unwords (List.cons_ne_nil "DERIVED".toList []) (by decide)
  | unique => exact isPhrase_unwords (List.cons_ne_nil "UNIQUE".toList []) (by decide)
  | notNull => exact isPhrase_unwords (List.cons_ne_nil "NOT".toList ["NULL".toList]) (by decide)
  | foreignKey fk => exact isPhrase_unwords (List.cons_ne_nil _ _) (plain_words h)
  | check expression =>
    apply IsExpression.call h
    exact isPhrase_unwords (List.cons_ne_nil "CHECK".toList []) (by decide)
  | other text => contradiction

theorem afterKeyword?_append {keyword : String} {c : Char} {rest : List Char}
    (hkeyword : spells keyword.toList keyword = true) (hc : isWordChar c = false) :
    afterKeyword? keyword (keyword.toList ++ c :: rest) = some (c :: rest) := by
  simp [afterKeyword?, hkeyword, hc]

theorem readFlag_foreignKey {fk : ForeignKey} (h : fk.Writable column) :
    readFlag column (Flag.foreignKey fk).text = ⟨[], .ok (.foreignKey fk)⟩ := by
  have hall := plain_words h
  have hrest : IsPhrase (unwords ("->".toList :: fk.target :: fk.clauses)) := by
    apply isPhrase_unwords (List.cons_ne_nil _ _)
    intro w hw
    exact hall w (List.mem_cons_of_mem _ hw)
  have hwords : words (Flag.foreignKey fk).text = "FK".toList :: "->".toList :: fk.target :: fk.clauses := by
    apply words_unwords
    intro w hw
    exact (hall w hw).1
  have hafter : afterKeyword? "FK" (Flag.foreignKey fk).text
      = some (' ' :: unwords ("->".toList :: fk.target :: fk.clauses)) := by
    rw [Flag.text_foreignKey, unwords_cons_cons]
    exact afterKeyword?_append (by decide) (by decide)
  have htrim : trim (' ' :: unwords ("->".toList :: fk.target :: fk.clauses))
      = unwords ("->".toList :: fk.target :: fk.clauses) := by
    rw [trim_cons (by decide), trim_eq_self hrest.trimmed]
  unfold readFlag
  simp only [hwords, hafter, htrim, readReference_text h]
  simp

theorem readFlag_check {expression : String} (h : IsExpression expression.toList) :
    readFlag column (Flag.check expression).text = ⟨[], .ok (.check expression)⟩ := by
  have hafter : afterKeyword? "CHECK" (Flag.check expression).text
      = some ('(' :: (expression.toList ++ [')'])) := afterKeyword?_append (by decide) (by decide)
  have hother : afterKeyword? "FK" (Flag.check expression).text = none := rfl
  have htrim : trim ('(' :: (expression.toList ++ [')'])) = '(' :: (expression.toList ++ [')']) := by
    apply trim_eq_self
    change Trimmed (['('] ++ (expression.toList ++ [')']))
    apply Trimmed.append_append
    . exact trimmed_of_forall (by decide)
    . exact trimmed_of_forall (by decide)
    . exact List.cons_ne_nil _ _
    . exact List.cons_ne_nil _ _
  have henclosed : enclosed? ('(' :: (expression.toList ++ [')'])) = some expression.toList := by
    simp [enclosed?, dropLast?_append_singleton, trim_eq_self h.trimmed, h.nonempty]
  -- No other keyword begins with the letter of this one.
  obtain ⟨w, ws, hwords⟩ : ∃ w ws, words (Flag.check expression).text = ('C' :: w) :: ws :=
    words_cons_of_not_blank (by decide)
  have hfirst (keyword : String) (hkeyword : keyword.toList.head? ≠ some 'C') :
      String.ofList (upcase ('C' :: w)) ≠ keyword := by
    rintro rfl
    rw [String.toList_ofList] at hkeyword
    exact hkeyword rfl
  unfold readFlag
  simp only [hwords, hafter, hother, htrim, henclosed, List.map_cons, List.cons.injEq]
  rw [if_neg, if_neg, if_neg, if_neg, String.ofList_toList]
  . simp [hfirst "NOT" (by decide)]
  . simp [hfirst "UNIQUE" (by decide)]
  . simp [hfirst "DERIVED" (by decide)]
  . simp [hfirst "PK" (by decide)]

theorem readFlag_text (h : f.Writable column) : readFlag column f.text = ⟨[], .ok f⟩ := by
  cases f with
  | primaryKey => rfl
  | derived => rfl
  | unique => rfl
  | notNull => rfl
  | foreignKey fk => exact readFlag_foreignKey h
  | check expression => exact readFlag_check h
  | other text => contradiction

theorem writable_of_readFlag {text : List Char} {fk : ForeignKey}
    (h : (readFlag column text).result = .ok (.foreignKey fk)) : fk.Writable column := by
  have hskip {p : Prop} [Decidable p] {f : Flag} {later : FlagReading} (hf : f ≠ .foreignKey fk)
      (h : (if p then ⟨[], .ok f⟩ else later).result = .ok (.foreignKey fk)) :
      later.result = .ok (.foreignKey fk) := by
    split at h
    . injection h
      contradiction
    . exact h
  have h := hskip (by simp) (hskip (by simp) (hskip (by simp) (hskip (by simp) h)))
  split at h
  . simp only at h
    split at h
    . next hreference =>
      simp only [Except.ok.injEq, Flag.foreignKey.injEq] at h
      rw [← h]
      exact writable_of_readReference hreference
    . contradiction
  . split at h
    . split at h
      . simp at h
      . contradiction
    . simp at h

end Flag

end Document

end SchemaDesign
