import SchemaDesign.Proofs.Distinct
import SchemaDesign.Pipeline

/-!
This module contains what is told of a document in the end. However many stages find the same, it is told once, and
errors are told exactly if the document is refused.
-/

namespace SchemaDesign

def Staged.TellsOnce {α : Type} : Staged α → Prop
  | .ok out => out.diagnostics.Nodup ∧ ∀ d ∈ out.diagnostics, d.isError = false
  | .error rejection => rejection.diagnostics.Nodup ∧ ∃ d ∈ rejection.diagnostics, d.isError = true

namespace Diagnostics

variable (a b c : Diagnostics)

theorem merge_assoc : (a.merge b).merge c = a.merge (b.merge c) :=
  addAllNew_assoc a b c

theorem merge_self : a.merge a = a :=
  addAllNew_eq_self (List.Subset.refl a)

theorem prefix_merge : a <+: a.merge b :=
  prefix_addAllNew a b

theorem nodup_merge_iff : (a.merge b).Nodup ↔ a.Nodup :=
  nodup_addAllNew_iff

theorem mem_merge (d : Diagnostic) : d ∈ a.merge b ↔ d ∈ a ∨ d ∈ b :=
  mem_addAllNew

end Diagnostics

namespace Pipeline

variable {α β : Type} {p : Pipeline α}

def TellsOnce (p : Pipeline α) : Prop :=
  ∀ known : Diagnostics, known.Nodup → known.hasErrors = false →
    match p known with
    | .ok (_, later) => later.Nodup ∧ later.hasErrors = false
    | .error rejection => rejection.diagnostics.Nodup ∧ rejection.diagnostics.hasErrors = true

theorem tellsOnce_pure (a : α) : TellsOnce (pure a) := by
  intro known hknown hclean
  exact ⟨hknown, hclean⟩

theorem tellsOnce_accept (stage : Stage) (step : Outcome α) : TellsOnce (accept stage step) := by
  intro known hknown _
  have hmerged := (known.nodup_merge_iff step.diagnostics).2 hknown
  cases herrors : (known.merge step.diagnostics).hasErrors with
  | true => simp [accept, herrors, hmerged]
  | false => simp [accept, herrors, hmerged]

theorem TellsOnce.bind {f : α → Pipeline β} (hp : TellsOnce p) (hf : ∀ a, TellsOnce (f a)) :
    TellsOnce (p >>= f) := by
  intro known hknown hclean
  have hfirst := hp known hknown hclean
  simp only [Bind.bind, StateT.bind, Except.bind]
  cases hpk : p known with
  | error rejection =>
    rw [hpk] at hfirst
    exact hfirst
  | ok state =>
    rw [hpk] at hfirst
    exact hf state.1 state.2 hfirst.1 hfirst.2

theorem TellsOnce.map (f : α → β) (h : TellsOnce p) : TellsOnce (do return f (← p)) :=
  h.bind fun a => tellsOnce_pure (f a)

theorem tellsOnce_checked (stage : Stage) (step : Outcome α) (check : α → Outcome Unit) :
    TellsOnce (do
      let a ← accept stage step
      accept stage (check a)
      return a) := by
  apply (tellsOnce_accept stage step).bind
  intro a
  apply (tellsOnce_accept stage (check a)).bind
  intro _
  exact tellsOnce_pure a

theorem TellsOnce.run (h : TellsOnce p) : Staged.TellsOnce (run p) := by
  have hend := h [] List.nodup_nil rfl
  cases hp : p [] with
  | error rejection =>
    rw [hp] at hend
    simpa [Pipeline.run, hp, Except.map, Staged.TellsOnce, Diagnostics.hasErrors] using hend
  | ok state =>
    rw [hp] at hend
    simpa [Pipeline.run, hp, Except.map, Staged.TellsOnce, Diagnostics.hasErrors] using hend

end Pipeline

open Pipeline

section Ways

variable (text : String) (settings : Settings)

theorem tellsOnce_readConceptual : TellsOnce (readConceptual text) :=
  tellsOnce_checked _ _ _

theorem tellsOnce_readLogical : TellsOnce (readLogical text) :=
  tellsOnce_checked _ _ _

theorem tellsOnce_readPhysical : TellsOnce (readPhysical text) :=
  tellsOnce_checked _ _ _

theorem tellsOnce_derive (m : ConceptualModel) : TellsOnce (derive settings m) :=
  tellsOnce_checked _ _ _

theorem tellsOnce_assignTypes (m : LogicalModel) : TellsOnce (assignTypes settings m) :=
  tellsOnce_checked _ _ _

end Ways

theorem merge_tellsOnce :
    (∀ a b c : Diagnostics, (a.merge b).merge c = a.merge (b.merge c))
      ∧ (∀ a : Diagnostics, a.merge a = a)
      ∧ (∀ a b : Diagnostics, a <+: a.merge b ∧ ((a.merge b).Nodup ↔ a.Nodup)
        ∧ ∀ d, d ∈ a.merge b ↔ d ∈ a ∨ d ∈ b)
      ∧ ∀ (text : String) (settings : Settings),
        (conceptualToLogical text settings).TellsOnce ∧ (conceptualToPhysical text settings).TellsOnce
          ∧ (conceptualToSql text settings).TellsOnce ∧ (logicalToPhysical text settings).TellsOnce
          ∧ (logicalToSql text settings).TellsOnce ∧ (physicalToSql text settings).TellsOnce
          ∧ (checkConceptual text).TellsOnce ∧ (checkLogical text).TellsOnce ∧ (checkPhysical text).TellsOnce := by
  refine ⟨Diagnostics.merge_assoc, Diagnostics.merge_self, ?_, ?_⟩
  . intro a b
    exact ⟨a.prefix_merge b, a.nodup_merge_iff b, a.mem_merge b⟩
  . intro text settings
    have hconceptual := tellsOnce_readConceptual text
    have hlogical := tellsOnce_readLogical text
    have hphysical := tellsOnce_readPhysical text
    have hderive := hconceptual.bind (tellsOnce_derive settings)
    have htypes := tellsOnce_assignTypes settings
    refine ⟨hderive.run, ?_, ?_, (hlogical.bind htypes).run, ?_, (hphysical.map _).run, (hconceptual.map _).run,
      (hlogical.map _).run, (hphysical.map _).run⟩
    . rw [conceptualToPhysical, ← bind_assoc]
      exact (hderive.bind htypes).run
    . rw [conceptualToSql, ← bind_assoc]
      exact (hderive.bind fun m => (htypes m).map _).run
    . exact (hlogical.bind fun m => (htypes m).map _).run

end SchemaDesign
