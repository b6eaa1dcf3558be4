import SchemaDesign.Outcome

/-!
This module contains what steps can report. A property of issues holds of everything that a chain of steps
reports if and only if it holds of what each of the steps reports.
-/

namespace List

variable {α : Type} {as : List α}

theorem forall_of_splits {P : α → Prop}
    (h : ∀ front a back, as = front ++ a :: back → P a) : ∀ a ∈ as, P a := by
  intro a ha
  obtain ⟨front, back, hsplit⟩ := List.append_of_mem ha
  exact h front a back hsplit

theorem nodup_map_of_splits {f : α → String}
    (h : ∀ front a back, as = front ++ a :: back → ∀ b ∈ front, f b ≠ f a) : (as.map f).Nodup := by
  induction as with
  | nil => simp
  | cons a as ih =>
    rw [List.map_cons, List.nodup_cons]
    constructor
    . intro hmem
      obtain ⟨b, hb, heq⟩ := List.mem_map.1 hmem
      obtain ⟨front, back, hsplit⟩ := List.append_of_mem hb
      apply h (a :: front) b back
      . simp [hsplit]
      . exact List.mem_cons_self ..
      . exact heq.symm
    . apply ih
      intro front b back hsplit c hc
      apply h (a :: front) b back
      . simp [hsplit]
      . exact List.mem_cons_of_mem _ hc

end List

namespace SchemaDesign.Outcome

variable {α β σ : Type}

def Reports (p : Issue → Prop) (x : Outcome α) : Prop :=
  ∀ d ∈ x.diagnostics, p d.issue

variable {p q : Issue → Prop}

theorem Reports.mono {x : Outcome α} (hpq : ∀ i, p i → q i) (h : x.Reports p) : x.Reports q := by
  intro d hd
  apply hpq
  exact h d hd

@[simp]
theorem reports_pure (a : α) : (pure a : Outcome α).Reports p := by
  intro d hd
  simp at hd

@[simp]
theorem reports_bind (x : Outcome α) (f : α → Outcome β) :
    (x >>= f).Reports p ↔ x.Reports p ∧ (f x.value).Reports p := by
  simp only [Reports, diagnostics_bind, List.mem_append, or_imp, forall_and]

@[simp]
theorem value_map (f : α → β) (x : Outcome α) : (f <$> x).value = f x.value := by
  rw [map_eq_pure_bind]
  rfl

@[simp]
theorem diagnostics_map (f : α → β) (x : Outcome α) : (f <$> x).diagnostics = x.diagnostics := by
  rw [map_eq_pure_bind, diagnostics_bind, diagnostics_pure, List.append_nil]

@[simp]
theorem reports_map (f : α → β) (x : Outcome α) : (f <$> x).Reports p ↔ x.Reports p := by
  rw [map_eq_pure_bind, reports_bind]
  simp only [reports_pure, and_true]

@[simp]
theorem reports_reportIn (scope : String) (issue : Issue) :
    (reportIn scope issue).Reports p ↔ p issue := by
  simp [Reports, reportIn, report]

@[simp]
theorem reports_reportIf (found : Bool) (scope : String) (issue : Issue) :
    (reportIf found scope issue).Reports p ↔ (found = true → p issue) := by
  unfold reportIf
  cases found with
  | false => simp
  | true => simp

@[simp]
theorem reports_each (step : α → Outcome Unit) (as : List α) :
    (each step as).Reports p ↔ ∀ a ∈ as, (step a).Reports p := by
  induction as with
  | nil => simp [each]
  | cons a as ih => simp [each, ih]

theorem diagnostics_each (step : α → Outcome Unit) (as : List α) :
    (each step as).diagnostics = as.flatMap fun a => (step a).diagnostics := by
  induction as with
  | nil => rfl
  | cons a as ih => rw [each, diagnostics_bind, ih, List.flatMap_cons]

theorem each_map {step : α → Outcome Unit} {f : β → α} (bs : List β) :
    each step (bs.map f) = each (fun b => step (f b)) bs := by
  induction bs with
  | nil => rfl
  | cons b bs ih => simp only [List.map_cons, each, ih]

theorem each_congr {step step' : α → Outcome Unit} {as : List α} (h : ∀ a ∈ as, step a = step' a) :
    each step as = each step' as := by
  induction as with
  | nil => rfl
  | cons a as ih =>
    rw [List.forall_mem_cons] at h
    rw [each, each, h.1, ih h.2]

theorem each_eq_pure {step : α → Outcome Unit} {as : List α} (h : ∀ a ∈ as, step a = pure ()) :
    each step as = pure () := by
  induction as with
  | nil => rfl
  | cons a as ih =>
    rw [List.forall_mem_cons] at h
    rw [each, h.1, ih h.2]
    rfl

theorem eachAfter_map {step : List α → α → Outcome Unit} {f : β → α} (bs : List β) :
    eachAfter step (bs.map f) = eachAfter (fun before b => step (before.map f) (f b)) bs := by
  suffices h : ∀ before, eachAfter.go step (before.map f) (bs.map f)
      = eachAfter.go (fun before b => step (before.map f) (f b)) before bs from h []
  intro before
  induction bs generalizing before with
  | nil => rfl
  | cons b bs ih =>
    have hnext := ih (before ++ [b])
    rw [List.map_append] at hnext
    simp only [List.map_cons, eachAfter.go]
    rw [← hnext]
    rfl

theorem reports_eachAfter_go (step : List α → α → Outcome Unit) (before as : List α) :
    (eachAfter.go step before as).Reports p
      ↔
    ∀ front a back, as = front ++ a :: back → (step (before ++ front) a).Reports p := by
  induction as generalizing before with
  | nil => simp [eachAfter.go]
  | cons b as ih =>
    simp only [eachAfter.go, reports_bind, ih, List.cons_eq_append_iff]
    constructor
    . rintro ⟨hb, has⟩ front a back (⟨rfl, heq⟩ | ⟨front, rfl, heq⟩)
      . obtain ⟨rfl, rfl⟩ := List.cons.inj heq
        simpa using hb
      . simpa using has front a back heq
    . intro h
      constructor
      . simpa using h [] b as (Or.inl ⟨rfl, rfl⟩)
      . intro front a back heq
        simpa using h (b :: front) a back (Or.inr ⟨front, rfl, heq⟩)

theorem reports_eachAfter (step : List α → α → Outcome Unit) (as : List α) :
    (eachAfter step as).Reports p
      ↔
    ∀ front a back, as = front ++ a :: back → (step front a).Reports p := by
  unfold eachAfter
  rw [reports_eachAfter_go]
  simp

@[simp]
theorem reports_collect (step : α → Outcome (Option β)) (as : List α) :
    (collect step as).Reports p ↔ ∀ a ∈ as, (step a).Reports p := by
  induction as with
  | nil => simp [collect]
  | cons a as ih =>
    simp only [collect, reports_bind, reports_pure, and_true, ih, List.mem_cons, forall_eq_or_imp]

@[simp]
theorem value_collect (step : α → Outcome (Option β)) (as : List α) :
    (collect step as).value = as.filterMap fun a => (step a).value := by
  induction as with
  | nil => rfl
  | cons a as ih =>
    simp only [collect, value_bind, value_pure, ih, List.filterMap_cons]
    cases (step a).value with
    | none => rfl
    | some b => rfl

@[simp]
theorem diagnostics_collect (step : α → Outcome (Option β)) (as : List α) :
    (collect step as).diagnostics = as.flatMap fun a => (step a).diagnostics := by
  induction as with
  | nil => rfl
  | cons a as ih => simp [collect, ih]

theorem collect_congr {step : α → Outcome (Option β)} {as bs : List α} (h : as.map step = bs.map step) :
    collect step as = collect step bs := by
  have hvalue := congrArg (List.filterMap Outcome.value) h
  have hdiagnostics := congrArg (List.flatMap Outcome.diagnostics) h
  rw [List.filterMap_map, List.filterMap_map] at hvalue
  rw [List.flatMap_map, List.flatMap_map] at hdiagnostics
  apply Outcome.ext
  . simpa [Function.comp_def] using hvalue
  . simpa using hdiagnostics

theorem collect_map {step : α → Outcome (Option β)} {f : β → α} {bs : List β}
    (h : ∀ b ∈ bs, step (f b) = pure (some b)) : collect step (bs.map f) = pure bs := by
  induction bs with
  | nil => rfl
  | cons b bs ih =>
    rw [List.forall_mem_cons] at h
    rw [List.map_cons, collect, h.1, ih h.2]
    rfl

theorem value_mapM (step : α → Outcome β) (as : List α) :
    (as.mapM step).value = as.map fun a => (step a).value := by
  induction as with
  | nil => rfl
  | cons a as ih => simp [List.mapM_cons, ih]

theorem diagnostics_mapM (step : α → Outcome β) (as : List α) :
    (as.mapM step).diagnostics = as.flatMap fun a => (step a).diagnostics := by
  induction as with
  | nil => rfl
  | cons a as ih => simp [List.mapM_cons, ih]

theorem mapM_congr {step : α → Outcome β} {as bs : List α} (h : as.map step = bs.map step) :
    as.mapM step = bs.mapM step := by
  have hvalue := congrArg (List.map Outcome.value) h
  have hdiagnostics := congrArg (List.flatMap Outcome.diagnostics) h
  rw [List.map_map, List.map_map] at hvalue
  rw [List.flatMap_map, List.flatMap_map] at hdiagnostics
  apply Outcome.ext
  . rw [value_mapM, value_mapM]
    exact hvalue
  . rw [diagnostics_mapM, diagnostics_mapM]
    exact hdiagnostics

theorem mapM_map {γ : Type} {step : α → Outcome β} {f : γ → α} {g : γ → β} {cs : List γ}
    (h : ∀ c ∈ cs, step (f c) = pure (g c)) : (cs.map f).mapM step = pure (cs.map g) := by
  induction cs with
  | nil => rfl
  | cons c cs ih =>
    rw [List.forall_mem_cons] at h
    rw [List.map_cons, List.mapM_cons, h.1, ih h.2]
    rfl

theorem reports_mapM (step : α → Outcome β) (as : List α) :
    (as.mapM step).Reports p ↔ ∀ a ∈ as, (step a).Reports p := by
  induction as with
  | nil => simp
  | cons a as ih => simp [List.mapM_cons, ih]

theorem reports_foldlM_cons (step : σ → α → Outcome σ) (s : σ) (a : α) (as : List α) :
    ((a :: as).foldlM step s).Reports p
      ↔
    (step s a).Reports p ∧ (as.foldlM step (step s a).value).Reports p := by
  rw [List.foldlM_cons, reports_bind]

theorem reports_foldlM (step : σ → α → Outcome σ) (s : σ) (as : List α) :
    (as.foldlM step s).Reports p
      ↔
    ∀ front a back, as = front ++ a :: back → (step (front.foldlM step s).value a).Reports p := by
  induction as generalizing s with
  | nil => simp
  | cons b as ih =>
    simp only [reports_foldlM_cons, ih, List.cons_eq_append_iff]
    constructor
    . rintro ⟨hb, has⟩ front a back (⟨rfl, heq⟩ | ⟨front, rfl, heq⟩)
      . obtain ⟨rfl, rfl⟩ := List.cons.inj heq
        simpa using hb
      . simpa using has front a back heq
    . intro h
      constructor
      . simpa using h [] b as (Or.inl ⟨rfl, rfl⟩)
      . intro front a back heq
        simpa using h (b :: front) a back (Or.inr ⟨front, rfl, heq⟩)

theorem foldlM_induction {step : σ → α → Outcome σ} {s : σ} {as : List α}
    (motive : List α → σ → Prop) (hreports : (as.foldlM step s).Reports p) (start : motive [] s)
    (next : ∀ front a back s, as = front ++ a :: back → motive front s → (step s a).Reports p →
      motive (front ++ [a]) (step s a).value) :
    motive as (as.foldlM step s).value := by
  -- The induction is on what is left of the list, with the invariant for what has been gone through.
  suffices h : ∀ back front s, as = front ++ back → motive front s → (back.foldlM step s).Reports p →
      motive as (back.foldlM step s).value by
    exact h as [] s rfl start hreports
  intro back
  induction back with
  | nil =>
    intro front s hsplit hs _
    rw [List.append_nil] at hsplit
    rw [hsplit]
    exact hs
  | cons a back ih =>
    intro front s hsplit hs hrest
    rw [reports_foldlM_cons] at hrest
    rw [List.foldlM_cons, value_bind]
    apply ih (front ++ [a])
    . simpa using hsplit
    . exact next front a back s hsplit hs hrest.1
    . exact hrest.2

theorem reports_foldlM_iff {step : σ → α → Outcome σ} {s : σ} {as : List α}
    {motive : List α → σ → Prop} {ready : List α → α → Prop} (start : motive [] s)
    (here : ∀ front a back s, as = front ++ a :: back → motive front s →
      ((step s a).Reports p ↔ ready front a))
    (next : ∀ front a back s, as = front ++ a :: back → motive front s → (step s a).Reports p →
      motive (front ++ [a]) (step s a).value) :
    (as.foldlM step s).Reports p ↔ ∀ front a back, as = front ++ a :: back → ready front a := by
  suffices h : ∀ back front s, as = front ++ back → motive front s →
      ((back.foldlM step s).Reports p
        ↔
      ∀ mid a rest, back = mid ++ a :: rest → ready (front ++ mid) a) by
    simpa using h as [] s rfl start
  -- The induction is on what is left of the list, as each step is told by what stands before it.
  intro back
  induction back with
  | nil =>
    intro front s _ _
    simp
  | cons b back ih =>
    intro front s hsplit hs
    have hsplit' : as = (front ++ [b]) ++ back := by simpa using hsplit
    rw [reports_foldlM_cons, here front b back s hsplit hs]
    constructor
    . rintro ⟨hb, hrest⟩ mid a rest heq
      have hstep := (here front b back s hsplit hs).2 hb
      cases mid with
      | nil =>
        obtain ⟨rfl, rfl⟩ := List.cons.inj heq
        simpa using hb
      | cons c mid =>
        obtain ⟨rfl, rfl⟩ := List.cons.inj heq
        have := (ih (front ++ [b]) _ hsplit' (next front b _ s hsplit hs hstep)).1 hrest
        simpa using this mid a rest rfl
    . intro h
      have hb : ready front b := by simpa using h [] b back rfl
      have hstep := (here front b back s hsplit hs).2 hb
      refine ⟨hb, (ih (front ++ [b]) _ hsplit' (next front b back s hsplit hs hstep)).2 ?_⟩
      intro mid a rest heq
      simpa using h (b :: mid) a rest (by rw [heq]; rfl)

theorem foldlM_invariant {step : σ → α → Outcome σ} {s : σ} {as : List α} (motive : σ → Prop)
    (start : motive s) (next : ∀ s, ∀ a ∈ as, motive s → motive (step s a).value) :
    motive (as.foldlM step s).value := by
  have hreports : (as.foldlM step s).Reports fun _ => True := fun _ _ => trivial
  apply foldlM_induction (fun _ => motive) hreports start
  intro _ a _ s hsplit hs _
  exact next s a (by simp [hsplit]) hs

abbrev Clean (x : Outcome α) : Prop :=
  x.Reports fun i => i.severity = .warning

theorem hasErrors_eq_false_iff {x : Outcome α} :
    x.hasErrors = false ↔ x.Reports fun i => i.severity = .warning := by
  simp only [hasErrors, Diagnostics.hasErrors, List.any_eq_false, Diagnostic.isError, Reports]
  apply forall₂_congr
  intro d _
  cases d.issue.severity with
  | error => simp
  | warning => simp

theorem not_clean_reportIn {scope : String} {issue : Issue} {f : Unit → Outcome α} (h : issue.severity = .error) :
    ¬ (reportIn scope issue >>= f).Clean := by
  rw [Clean, reports_bind, reports_reportIn, h]
  simp

structure Agrees (R : α → α → Prop) (x y : Outcome α) : Prop where
  value : R x.value y.value
  diagnostics : x.diagnostics = y.diagnostics

theorem Agrees.bind {R : α → α → Prop} {S : β → β → Prop} {x y : Outcome α} {f f' : α → Outcome β}
    (h : x.Agrees R y) (hnext : ∀ a a', R a a' → (f a).Agrees S (f' a')) : (x >>= f).Agrees S (y >>= f') := by
  have hrest := hnext _ _ h.value
  constructor
  . exact hrest.value
  . rw [diagnostics_bind, diagnostics_bind, h.diagnostics, hrest.diagnostics]

theorem agrees_eq_iff {x y : Outcome α} : x.Agrees Eq y ↔ x = y := by
  constructor
  . intro h
    exact Outcome.ext h.value h.diagnostics
  . rintro rfl
    exact ⟨rfl, rfl⟩

theorem foldlM_agrees {R : σ → σ → Prop} {step step' : σ → α → Outcome σ} {as : List α} {s s' : σ} (hs : R s s')
    (hstep : ∀ s s', ∀ a ∈ as, R s s' → (step s a).Agrees R (step' s' a)) :
    (as.foldlM step s).Agrees R (as.foldlM step' s') := by
  induction as generalizing s s' with
  | nil => exact ⟨hs, rfl⟩
  | cons a as ih =>
    rw [List.foldlM_cons, List.foldlM_cons]
    apply (hstep s s' a (List.mem_cons_self ..) hs).bind
    intro t t' ht
    apply ih ht
    intro s s' a ha
    exact hstep s s' a (List.mem_cons_of_mem _ ha)

end SchemaDesign.Outcome
