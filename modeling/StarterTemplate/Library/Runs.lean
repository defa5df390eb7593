import Mathlib.Data.List.Induction

/-!
# Runs of a partial transition function

A system is a function from a state and a label to the next state, undefined when
the label is not enabled.  A run follows a finite list of labels.  The rules of
this module reduce a statement about every run to a statement about one step,
where a run may in addition be restricted by a condition that each of its steps
meets in the state before it.
-/

namespace StarterTemplate.Library

universe u v

variable {State : Type u} {Label : Type v}
variable {step : State → Label → Option State}
variable {start middle finish : State} {label : Label} {labels before after : List Label}

/-- Follow a list of labels, stopping at the first one that is not enabled. -/
def run (step : State → Label → Option State) : State → List Label → Option State
  | state, [] => some state
  | state, label :: labels =>
    match step state label with
    | none => none
    | some next => run step next labels

@[simp] theorem run_nil (state : State) : run step state [] = some state := rfl

theorem run_cons_eq_some :
    run step start (label :: labels) = some finish ↔
      ∃ next, step start label = some next ∧ run step next labels = some finish := by
  simp only [run]
  cases step start label with
  | none | some => simp

/-- A run over a concatenation passes through the state between its two parts. -/
theorem run_append_eq_some :
    run step start (before ++ after) = some finish ↔
      ∃ middle, run step start before = some middle ∧
        run step middle after = some finish := by
  induction before generalizing start with
  | nil => simp
  | cons label labels ih =>
    simp only [List.cons_append, run_cons_eq_some, ih]
    constructor
    · intro split
      rcases split with ⟨next, enabled, middle, first, second⟩
      exact ⟨middle, ⟨next, enabled, first⟩, second⟩
    · rintro ⟨middle, ⟨next, enabled, first⟩, second⟩
      exact ⟨next, enabled, middle, first, second⟩

/-- Every step of the run along `labels` meets `condition` in the state before
it. -/
def Meets (step : State → Label → Option State) (condition : State → Label → Prop) :
    State → List Label → Prop
  | _, [] => True
  | state, label :: labels =>
    condition state label ∧
      ∀ next, step state label = some next → Meets step condition next labels

@[simp] theorem meets_nil (condition : State → Label → Prop) (state : State) :
    Meets step condition state [] := trivial

/-- The steps of a run over a concatenation meet a condition when those of its two
parts do. -/
theorem meets_append {condition : State → Label → Prop} :
    Meets step condition start (before ++ after) ↔
      Meets step condition start before ∧
        ∀ middle, run step start before = some middle → Meets step condition middle after := by
  induction before generalizing start with
  | nil => simp [Meets]
  | cons label labels ih =>
    simp only [List.cons_append, Meets, ih, run_cons_eq_some]
    constructor
    · intro ⟨first, rest⟩
      refine ⟨⟨first, fun next enabled => (rest next enabled).1⟩, ?_⟩
      intro middle ⟨next, enabled, reached⟩
      exact (rest next enabled).2 middle reached
    intro ⟨⟨first, rest⟩, later⟩
    refine ⟨first, fun next enabled => ⟨rest next enabled, ?_⟩⟩
    intro middle reached
    exact later middle ⟨next, enabled, reached⟩

theorem meets_true (state : State) (labels : List Label) :
    Meets step (fun _ _ => True) state labels := by
  induction labels generalizing state with
  | nil => trivial
  | cons label labels ih => exact ⟨trivial, fun next _ => ih next⟩

/-- A condition on the labels alone. -/
theorem meets_of_forall {condition : Label → Prop} (state : State)
    (all : ∀ label ∈ labels, condition label) :
    Meets step (fun _ => condition) state labels := by
  induction labels generalizing state with
  | nil => trivial
  | cons label labels ih =>
    refine ⟨all label (.head _), fun next _ => ih next ?_⟩
    exact fun other member => all other (.tail _ member)

/-- The invariant rule for runs restricted by a condition on their steps. -/
theorem invariant_of_meets {condition : State → Label → Prop}
    {invariant : State → Prop}
    (preserved : ∀ state label next, invariant state → condition state label →
      step state label = some next → invariant next)
    (holds : invariant start) (meets : Meets step condition start labels)
    (reached : run step start labels = some finish) : invariant finish := by
  induction labels generalizing start with
  | nil =>
    cases reached
    exact holds
  | cons label labels ih =>
    rcases run_cons_eq_some.mp reached with ⟨next, enabled, rest⟩
    exact ih (preserved start label next holds meets.1 enabled)
      (meets.2 next enabled) rest

/-- The invariant rule for unrestricted runs. -/
theorem invariant_of_run {invariant : State → Prop}
    (preserved : ∀ state label next, invariant state →
      step state label = some next → invariant next)
    (holds : invariant start) (reached : run step start labels = some finish) :
    invariant finish :=
  invariant_of_meets
    (fun state label next inv _ enabled => preserved state label next inv enabled)
    holds (meets_true start labels) reached

/-- The invariant rule for statements that mention the labels of the past. -/
theorem invariant_of_history {invariant : List Label → State → Prop}
    (preserved : ∀ past label state next, run step start past = some state →
      invariant past state → step state label = some next → invariant (past ++ [label]) next)
    (holds : invariant [] start) (reached : run step start labels = some finish) :
    invariant labels finish := by
  induction labels using List.reverseRecOn generalizing finish with
  | nil =>
    cases reached
    exact holds
  | append_singleton past label ih =>
    rcases run_append_eq_some.mp reached with ⟨state, before, last⟩
    rcases run_cons_eq_some.mp last with ⟨next, enabled, rest⟩
    cases rest
    exact preserved past label state finish before (ih before) enabled

end StarterTemplate.Library
