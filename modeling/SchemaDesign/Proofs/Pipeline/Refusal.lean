import SchemaDesign.Proofs.Pipeline
import SchemaDesign.Proofs.Typing

/-!
This module contains the stages at which a document can be refused. No document is refused when types are assigned:
a logical model that has been checked gets its types without an error, and passes the check with its types again.
-/

namespace SchemaDesign

def Staged.refusal? {α : Type} : Staged α → Option Stage
  | .ok _ => none
  | .error rejection => some rejection.stage

namespace Pipeline

variable {α β : Type} {p : Pipeline α} {stages : List Stage} {post : α → Prop}

/--
If no error is known before it, the way comes to a value with the property `post` and still knows of none, or it is
refused at one of the stages.
-/
def Within (p : Pipeline α) (stages : List Stage) (post : α → Prop) : Prop :=
  ∀ known : Diagnostics, known.hasErrors = false →
    match p known with
    | .ok (a, later) => later.hasErrors = false ∧ post a
    | .error rejection => rejection.stage ∈ stages

theorem within_pure {a : α} (h : post a) : Within (pure a) stages post := by
  intro known hknown
  exact ⟨hknown, h⟩

theorem within_accept {stage : Stage} {step : Outcome α} (hstage : stage ∈ stages)
    (h : step.hasErrors = false → post step.value) : Within (accept stage step) stages post := by
  intro known hknown
  have hmerge := hasErrors_merge known step.diagnostics
  rw [hknown, Bool.false_or] at hmerge
  simp only [accept]
  split
  . next heq =>
    split at heq
    . contradiction
    . next hclean =>
      injection heq with heq
      injection heq with hvalue hlater
      rw [← hvalue, ← hlater]
      rw [Bool.not_eq_true] at hclean
      exact ⟨hclean, h (hmerge.symm.trans hclean)⟩
  . next heq =>
    split at heq
    . injection heq with heq
      rw [← heq]
      exact hstage
    . contradiction

theorem Within.bind {f : α → Pipeline β} {result : β → Prop} (hp : Within p stages post)
    (hf : ∀ a, post a → Within (f a) stages result) : Within (p >>= f) stages result := by
  intro known hknown
  have hfirst := hp known hknown
  simp only [Bind.bind, StateT.bind, Except.bind]
  cases hpk : p known with
  | error rejection =>
    rw [hpk] at hfirst
    exact hfirst
  | ok state =>
    rw [hpk] at hfirst
    exact hf state.1 hfirst.2 state.2 hfirst.1

theorem Within.mono {more : List Stage} (h : Within p stages post) (hsubset : stages ⊆ more) :
    Within p more post := by
  intro known hknown
  have hend := h known hknown
  cases hpk : p known with
  | error rejection =>
    rw [hpk] at hend
    exact hsubset hend
  | ok state =>
    rw [hpk] at hend
    exact hend

theorem Within.map (f : α → β) (h : Within p stages post) :
    Within (do return f (← p)) stages fun _ => True := by
  apply h.bind
  intro _ _
  exact within_pure trivial

theorem discard_eq (p : Pipeline α) : discard p = do return (fun _ => ()) (← p) := rfl

theorem within_checked {stage : Stage} {step : Outcome α} {check : α → Outcome Unit} (hstage : stage ∈ stages) :
    Within (do
      let a ← accept stage step
      accept stage (check a)
      return a) stages fun a => (check a).hasErrors = false := by
  apply (within_accept hstage fun _ => rfl : Within _ stages fun a => a = step.value).bind
  intro a _
  apply (within_accept hstage id : Within _ stages fun _ => (check a).hasErrors = false).bind
  intro _ hcheck
  exact within_pure hcheck

theorem Within.bind_always {f : α → Pipeline β} {result : β → Prop} (hp : Within p stages post)
    (hf : ∀ a, post a → Within (f a) [] result) : Within (p >>= f) stages result := by
  apply hp.bind
  intro a ha
  exact (hf a ha).mono (List.nil_subset _)

theorem Within.refusal?_ne {stage : Stage} (h : Within p stages post) (hstage : stage ∉ stages) :
    Staged.refusal? (run p) ≠ some stage := by
  have hend := h [] rfl
  cases hp : p [] with
  | error rejection =>
    rw [hp] at hend
    simp only [run, hp, Except.map, Staged.refusal?, ne_eq, Option.some.injEq]
    rintro rfl
    exact hstage hend
  | ok state => simp [run, hp, Except.map, Staged.refusal?]

theorem Within.isOk_bind {f : α → Pipeline β} {result : β → Prop} (hp : Within p stages post)
    (hf : ∀ a, post a → Within (f a) [] result) : (run (p >>= f)).isOk = (run p).isOk := by
  have hend := hp [] rfl
  simp only [run, Bind.bind, StateT.bind, Except.bind]
  cases hpk : p [] with
  | error rejection => rfl
  | ok state =>
    rw [hpk] at hend
    have hrest := hf state.1 hend.2 state.2 hend.1
    dsimp only
    cases hfk : f state.1 state.2 with
    | error rejection =>
      rw [hfk] at hrest
      contradiction
    | ok last => rfl

theorem isOk_map (p : Pipeline α) (f : α → β) : (run (do return f (← p))).isOk = (run p).isOk := by
  rw [run_map]
  cases run p <;> rfl

section Stages

variable (text : String) (settings : Settings)

theorem within_readConceptual :
    Within (readConceptual text) [.readConceptual] fun m => m.check.hasErrors = false :=
  within_checked List.mem_cons_self

theorem within_readLogical : Within (readLogical text) [.readLogical] fun m => m.check.hasErrors = false :=
  within_checked List.mem_cons_self

theorem within_readPhysical : Within (readPhysical text) [.readPhysical] fun m => m.check.hasErrors = false :=
  within_checked List.mem_cons_self

theorem within_derive (m : ConceptualModel) :
    Within (derive settings m) [.derive] fun logical => logical.check.hasErrors = false :=
  within_checked List.mem_cons_self

theorem within_derive_readConceptual :
    Within (do derive settings (← readConceptual text)) [.readConceptual, .derive] fun logical =>
      logical.check.hasErrors = false := by
  apply ((within_readConceptual text).mono (by simp)).bind
  intro m _
  exact (within_derive settings m).mono (by simp)

theorem hasErrors_toPhysical {m : LogicalModel} (h : m.Consistent) : (m.toPhysical settings).hasErrors = false :=
  Outcome.hasErrors_eq_false_iff.2 (reports_toPhysicalWith h)

theorem yields_assignTypes {settings : Settings} {m : LogicalModel} (h : m.Consistent) :
    Yields (assignTypes settings m) (m.toPhysical settings).value :=
  yields_checked (hasErrors_toPhysical settings h) (check_toPhysicalWith h)

theorem within_assignTypes {m : LogicalModel} (h : m.check.hasErrors = false) :
    Within (assignTypes settings m) [] fun _ => True := by
  intro known hknown
  obtain ⟨later, hlater, hclean⟩ := yields_assignTypes (LogicalModel.consistent_of_check h) known hknown
  rw [hlater]
  exact ⟨hclean, trivial⟩

end Stages

end Pipeline

open Pipeline

section Ways

variable (text : String) (settings : Settings)

theorem isOk_logicalToPhysical : (logicalToPhysical text settings).isOk = (checkLogical text).isOk := by
  rw [checkLogical, discard_eq, isOk_map]
  apply (within_readLogical text).isOk_bind
  intro m hm
  exact within_assignTypes settings hm

theorem isOk_conceptualToPhysical :
    (conceptualToPhysical text settings).isOk = (conceptualToLogical text settings).isOk := by
  rw [conceptualToPhysical, conceptualToLogical, ← bind_assoc]
  apply (within_derive_readConceptual text settings).isOk_bind
  intro m hm
  exact within_assignTypes settings hm

theorem isOk_conceptualToSql :
    (conceptualToSql text settings).isOk = (conceptualToLogical text settings).isOk := by
  rw [conceptualToSql, conceptualToLogical, ← bind_assoc]
  apply (within_derive_readConceptual text settings).isOk_bind
  intro m hm
  exact (within_assignTypes settings hm).map _

end Ways

theorem refusal?_ne_assignTypes (text : String) (settings : Settings) :
    (∀ refusal ∈ [(conceptualToLogical text settings).refusal?, (conceptualToPhysical text settings).refusal?,
        (conceptualToSql text settings).refusal?, (logicalToPhysical text settings).refusal?,
        (logicalToSql text settings).refusal?, (physicalToSql text settings).refusal?,
        (checkConceptual text).refusal?, (checkLogical text).refusal?, (checkPhysical text).refusal?],
      refusal ≠ some .assignTypes)
    ∧ (logicalToPhysical text settings).isOk = (checkLogical text).isOk
    ∧ (conceptualToPhysical text settings).isOk = (conceptualToLogical text settings).isOk
    ∧ (conceptualToSql text settings).isOk = (conceptualToLogical text settings).isOk
    ∧ ∀ m : LogicalModel, m.check.hasErrors = false →
      (m.toPhysical settings).hasErrors = false ∧ (m.toPhysical settings).value.check.hasErrors = false := by
  refine ⟨?_, isOk_logicalToPhysical text settings, isOk_conceptualToPhysical text settings,
    isOk_conceptualToSql text settings, ?_⟩
  . have hconceptual := within_derive_readConceptual text settings
    have hlogical := within_readLogical text
    have hphysical := within_readPhysical text
    have htypes := @within_assignTypes settings
    simp only [List.forall_mem_cons, List.not_mem_nil, false_implies, implies_true, and_true]
    refine ⟨?_, ?_, ?_, ?_, ?_, ?_, ?_, ?_, ?_⟩
    . exact hconceptual.refusal?_ne (by decide)
    . rw [conceptualToPhysical, ← bind_assoc]
      exact (hconceptual.bind_always fun _ => htypes).refusal?_ne (by decide)
    . rw [conceptualToSql, ← bind_assoc]
      exact (hconceptual.bind_always fun _ hm => (htypes hm).map _).refusal?_ne (by decide)
    . exact (hlogical.bind_always fun _ => htypes).refusal?_ne (by decide)
    . exact (hlogical.bind_always fun _ hm => (htypes hm).map _).refusal?_ne (by decide)
    . exact (hphysical.map _).refusal?_ne (by decide)
    . exact ((within_readConceptual text).map _).refusal?_ne (by decide)
    . exact (hlogical.map _).refusal?_ne (by decide)
    . exact (hphysical.map _).refusal?_ne (by decide)
  . intro m hm
    have hconsistent := LogicalModel.consistent_of_check hm
    exact ⟨hasErrors_toPhysical settings hconsistent, check_toPhysicalWith hconsistent⟩

theorem refusal?_ne_assignTypes_loop :
    let m : LogicalModel := ⟨[⟨"A", [.keyReferring "id" "B" "id"]⟩, ⟨"B", [.keyReferring "id" "A" "id"]⟩]⟩
    m.check.hasErrors = false
    ∧ (m.toPhysical .standard).hasErrors = false ∧ (m.toPhysical .standard).value.check.hasErrors = false := by
  intro m
  have hm : m.check.hasErrors = false := by decide +kernel
  exact ⟨hm, (refusal?_ne_assignTypes "" .standard).2.2.2.2 m hm⟩

end SchemaDesign
