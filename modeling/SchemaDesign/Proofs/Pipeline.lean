import SchemaDesign.Pipeline
import SchemaDesign.Proofs.Conceptual.Check
import SchemaDesign.Proofs.Validation.Logical

namespace SchemaDesign

namespace Pipeline

variable {α β : Type} {known : Diagnostics}

theorem bind_eq_ok {p : Pipeline α} {f : α → Pipeline β} {result : β × Diagnostics}
    (h : (p >>= f) known = .ok result) :
    ∃ a later, p known = .ok (a, later) ∧ f a later = .ok result := by
  simp only [bind, StateT.bind, Except.bind] at h
  split at h
  . contradiction
  . next state hstate => exact ⟨state.1, state.2, hstate, h⟩

theorem pure_eq_ok {a : α} {result : α × Diagnostics} (h : (pure a : Pipeline α) known = .ok result) :
    result.1 = a := by
  injection h with heq
  rw [← heq]

theorem accept_eq_ok {stage : Stage} {step : Outcome α} {result : α × Diagnostics}
    (h : accept stage step known = .ok result) : result.1 = step.value ∧ step.hasErrors = false := by
  -- The diagnostics of the step are among those that are known after it.
  simp only [accept] at h
  split at h
  . contradiction
  . next hclean =>
    injection h with heq
    rw [← heq]
    refine ⟨rfl, ?_⟩
    simp only [Outcome.hasErrors, Diagnostics.hasErrors, Diagnostics.merge, Bool.not_eq_true,
      List.any_eq_false] at hclean ⊢
    intro d hd
    exact hclean d (mem_addAllNew.2 (Or.inr hd))

theorem checked_eq_ok {stage : Stage} {step : Outcome α} {check : α → Outcome Unit} {result : α × Diagnostics}
    (h : (do
      let a ← accept stage step
      accept stage (check a)
      return a : Pipeline α) known = .ok result) :
    result.1 = step.value ∧ step.hasErrors = false ∧ (check step.value).hasErrors = false := by
  obtain ⟨a, known', hstep, hrest⟩ := bind_eq_ok h
  obtain ⟨_, known'', hcheck, hpure⟩ := bind_eq_ok hrest
  have hstep := accept_eq_ok hstep
  have hvalue : a = step.value := hstep.1
  rw [hvalue] at hcheck hpure
  exact ⟨pure_eq_ok hpure, hstep.2, (accept_eq_ok hcheck).2⟩

theorem run_eq_ok {p : Pipeline α} {out : Outcome α} (h : run p = .ok out) :
    p [] = .ok (out.value, out.diagnostics) := by
  simp only [run] at h
  cases hp : p [] with
  | error rejection => simp [hp, Except.map] at h
  | ok result =>
    simp only [hp, Except.map, Except.ok.injEq] at h
    rw [← h]

theorem run_map (p : Pipeline α) (f : α → β) :
    run (do return f (← p)) = (run p).map fun out => ⟨f out.value, out.diagnostics⟩ := by
  simp only [run, bind, StateT.bind, Except.bind]
  cases p [] <;> rfl

theorem hasErrors_merge (ds others : Diagnostics) :
    (ds.merge others).hasErrors = (ds.hasErrors || others.hasErrors) := by
  rw [Bool.eq_iff_iff]
  simp only [Diagnostics.hasErrors, Diagnostics.merge, Bool.or_eq_true, List.any_eq_true, mem_addAllNew]
  grind

def Yields (p : Pipeline α) (a : α) : Prop :=
  ∀ known : Diagnostics, known.hasErrors = false → ∃ later, p known = .ok (a, later) ∧ later.hasErrors = false

theorem yields_pure (a : α) : Yields (pure a) a := by
  intro known hknown
  exact ⟨known, rfl, hknown⟩

theorem yields_accept {stage : Stage} {step : Outcome α} (h : step.hasErrors = false) :
    Yields (accept stage step) step.value := by
  intro known hknown
  have hmerged : (known.merge step.diagnostics).hasErrors = false := by
    rw [hasErrors_merge, hknown, Bool.false_or]
    exact h
  refine ⟨known.merge step.diagnostics, ?_, hmerged⟩
  simp [accept, hmerged]

theorem Yields.bind {p : Pipeline α} {f : α → Pipeline β} {a : α} {b : β} (hp : Yields p a)
    (hf : Yields (f a) b) : Yields (p >>= f) b := by
  intro known hknown
  obtain ⟨later, hlater, hclean⟩ := hp known hknown
  obtain ⟨last, hlast, hclean'⟩ := hf later hclean
  refine ⟨last, ?_, hclean'⟩
  simp only [Bind.bind, StateT.bind, Except.bind, hlater, hlast]

theorem Yields.run {p : Pipeline α} {a : α} (h : Yields p a) : ∃ out, run p = .ok out ∧ out.value = a := by
  obtain ⟨later, hlater, _⟩ := h [] rfl
  refine ⟨⟨a, later⟩, ?_, rfl⟩
  simp [Pipeline.run, hlater, Except.map]

theorem yields_checked {stage : Stage} {step : Outcome α} {check : α → Outcome Unit}
    (hstep : step.hasErrors = false) (hcheck : (check step.value).hasErrors = false) :
    Yields (do
      let a ← accept stage step
      accept stage (check a)
      return a) step.value := by
  apply (yields_accept hstep).bind
  apply (yields_accept hcheck).bind
  apply yields_pure

end Pipeline

theorem exists_ok_of_any {α : Type} {staged : Staged α} {p : Outcome α → Bool}
    (h : staged.toOption.any p = true) : ∃ out, staged = .ok out ∧ p out = true := by
  cases staged with
  | error rejection => contradiction
  | ok out => exact ⟨out, rfl, h⟩

-- What the stages from a conceptual document to tables have found to be in order.
structure Accepted (text : String) (settings : Settings) (schema : LogicalModel) : Prop where
  read : (ConceptualModel.read text).hasErrors = false
  checked : (ConceptualModel.read text).value.check.hasErrors = false
  derived : ((ConceptualModel.read text).value.toLogical settings).hasErrors = false
  value : schema = ((ConceptualModel.read text).value.toLogical settings).value
  consistent : schema.check.hasErrors = false

theorem accepted_of_conceptualToLogical {text : String} {settings : Settings} {out : Outcome LogicalModel}
    (h : conceptualToLogical text settings = .ok out) : Accepted text settings out.value := by
  obtain ⟨m, known, hread, hderive⟩ := Pipeline.bind_eq_ok (Pipeline.run_eq_ok h)
  obtain ⟨hm, hclean, hchecked⟩ := Pipeline.checked_eq_ok hread
  have hmodel : m = (ConceptualModel.read text).value := hm
  rw [hmodel] at hderive
  obtain ⟨hvalue, hderived, hconsistent⟩ := Pipeline.checked_eq_ok hderive
  have hschema : out.value = ((ConceptualModel.read text).value.toLogical settings).value := hvalue
  constructor
  . exact hclean
  . exact hchecked
  . exact hderived
  . exact hschema
  . rw [hschema]
    exact hconsistent

end SchemaDesign
