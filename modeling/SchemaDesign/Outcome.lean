import SchemaDesign.Diagnostic

/-!
This module contains the results of steps that go on in spite of faults: a value together with everything
that was noticed on the way. Steps are chained as a monad that puts their diagnostics one after another.
-/

namespace SchemaDesign

structure Outcome (α : Type) where
  value : α
  diagnostics : Diagnostics
deriving DecidableEq, Repr

namespace Outcome

variable {α β : Type}

instance : Monad Outcome where
  pure a := ⟨a, []⟩
  bind x f := ⟨(f x.value).value, x.diagnostics ++ (f x.value).diagnostics⟩

@[simp]
theorem value_pure (a : α) : (pure a : Outcome α).value = a := rfl

@[simp]
theorem diagnostics_pure (a : α) : (pure a : Outcome α).diagnostics = [] := rfl

@[simp]
theorem value_bind (x : Outcome α) (f : α → Outcome β) : (x >>= f).value = (f x.value).value := rfl

@[simp]
theorem diagnostics_bind (x : Outcome α) (f : α → Outcome β) :
    (x >>= f).diagnostics = x.diagnostics ++ (f x.value).diagnostics := rfl

@[ext]
theorem ext {x y : Outcome α} (hv : x.value = y.value) (hd : x.diagnostics = y.diagnostics) :
    x = y := by
  cases x
  cases y
  simp_all

instance : LawfulMonad Outcome :=
  LawfulMonad.mk' Outcome
    (fun _ => ext rfl (List.append_nil _))
    (fun _ _ => rfl)
    (fun _ _ _ => ext rfl (List.append_assoc ..))

def report (scope : Option String) (issue : Issue) : Outcome Unit :=
  ⟨(), [⟨scope, issue⟩]⟩

def reportIn (scope : String) (issue : Issue) : Outcome Unit :=
  report (some scope) issue

def reportIf (found : Bool) (scope : String) (issue : Issue) : Outcome Unit :=
  if found then reportIn scope issue else pure ()

def collect (step : α → Outcome (Option β)) : List α → Outcome (List β)
  | [] => pure []
  | a :: as => do
    let kept ← step a
    let others ← collect step as
    return kept.toList ++ others

def each (step : α → Outcome Unit) : List α → Outcome Unit
  | [] => pure ()
  | a :: as => do
    step a
    each step as

def eachAfter (step : List α → α → Outcome Unit) (as : List α) : Outcome Unit :=
  go [] as
where
  go (before : List α) : List α → Outcome Unit
    | [] => pure ()
    | a :: as => do
      step before a
      go (before ++ [a]) as

def reportAll (scope : Option String) (issues : List Issue) : Outcome Unit :=
  each (report scope) issues

def hasErrors (x : Outcome α) : Bool :=
  x.diagnostics.hasErrors

end Outcome

end SchemaDesign
