import Mathlib.Data.List.Induction

/-!
# Requests served one after another

A server answers a request and changes its state.  The history of a list of requests lists
the runs that served them, each with the states before and after it.  The rules of this
module reduce a statement about every history to a statement about one run and its past.
-/

namespace StarterTemplate.Library

variable {State Request Answer : Type}

/-- A run that served a request. -/
structure Finished (State Request Answer : Type) where
  request : Request
  before : State
  answer : Answer
  after : State

/-- The run that serves a request. -/
def finished (serve : State → Request → Answer × State) (state : State) (request : Request) :
    Finished State Request Answer where
  request := request
  before := state
  answer := (serve state request).1
  after := (serve state request).2

/-- The runs that serve the requests one after another. -/
def history (serve : State → Request → Answer × State) :
    State → List Request → List (Finished State Request Answer)
  | _, [] => []
  | state, request :: requests =>
    finished serve state request :: history serve (serve state request).2 requests

/-- The state after the requests. -/
def served (serve : State → Request → Answer × State) : State → List Request → State
  | state, [] => state
  | state, request :: requests => served serve (serve state request).2 requests

variable {serve : State → Request → Answer × State} {start : State}
variable {requests : List Request}

theorem history_append (first second : List Request) :
    history serve start (first ++ second) =
      history serve start first ++ history serve (served serve start first) second := by
  induction first generalizing start with
  | nil => rfl
  | cons request first ih => exact congrArg (finished serve start request :: ·) ih

theorem served_append (first second : List Request) :
    served serve start (first ++ second) = served serve (served serve start first) second := by
  induction first generalizing start with
  | nil => rfl
  | cons request first ih => exact ih

@[simp] theorem map_request_history :
    (history serve start requests).map Finished.request = requests := by
  induction requests generalizing start with
  | nil => rfl
  | cons request requests ih => exact congrArg (request :: ·) ih

/-- The part of a history before a run is a history too, and ends where the run begins. -/
theorem history_split {earlier later : List (Finished State Request Answer)}
    {run : Finished State Request Answer}
    (isSplit : history serve start requests = earlier ++ run :: later) :
    ∃ before after, requests = before ++ run.request :: after ∧
      earlier = history serve start before ∧
      run = finished serve (served serve start before) run.request := by
  induction earlier generalizing start requests with
  | nil =>
    cases requests with
    | nil => cases isSplit
    | cons request requests =>
      rcases List.cons.inj isSplit with ⟨isRun, _⟩
      subst isRun
      exact ⟨[], requests, rfl, rfl, rfl⟩
  | cons first earlier ih =>
    cases requests with
    | nil => cases isSplit
    | cons request requests =>
      rcases List.cons.inj isSplit with ⟨isFirst, rest⟩
      subst isFirst
      rcases ih rest with ⟨before, after, isRequests, isEarlier, isRun⟩
      refine ⟨request :: before, after, ?_, ?_, isRun⟩
      · rw [isRequests, List.cons_append]
      · rw [isEarlier, history]

/-- Every run of the history meets the condition, which may depend on the runs before it. -/
def Throughout (condition : List (Finished State Request Answer) →
    Finished State Request Answer → Prop)
    (past : List (Finished State Request Answer)) : Prop :=
  ∀ earlier run later, past = earlier ++ run :: later → condition earlier run

variable {condition : List (Finished State Request Answer) →
  Finished State Request Answer → Prop}

theorem throughout_nil : Throughout condition [] := by
  intro earlier run later isSplit
  simp at isSplit

theorem throughout_cons {run : Finished State Request Answer}
    {rest : List (Finished State Request Answer)} :
    Throughout condition (run :: rest) ↔
      condition [] run ∧ Throughout (fun earlier => condition (run :: earlier)) rest := by
  constructor
  · intro meets
    refine ⟨meets [] run rest rfl, fun earlier other later isSplit => ?_⟩
    exact meets (run :: earlier) other later (congrArg (run :: ·) isSplit)
  intro ⟨first, meets⟩ earlier other later isSplit
  cases earlier with
  | nil =>
    cases isSplit
    exact first
  | cons head earlier =>
    rcases List.cons.inj isSplit with ⟨rfl, isRest⟩
    exact meets earlier other later isRest

theorem throughout_append {first second : List (Finished State Request Answer)}
    (meets : Throughout condition (first ++ second)) : Throughout condition first := by
  intro earlier run later isSplit
  apply meets earlier run (later ++ second)
  rw [isSplit, List.append_assoc, List.cons_append]

/-- The runs of a history serve its requests. -/
theorem throughout_requests {condition : Request → Prop}
    (all : ∀ request ∈ requests, condition request) :
    Throughout (fun _ run => condition run.request) (history serve start requests) := by
  intro earlier run later isSplit
  rcases history_split isSplit with ⟨before, after, isRequests, _⟩
  apply all
  rw [isRequests]
  exact List.mem_append_right before (.head _)

section

variable {invariant : List (Finished State Request Answer) → State → Prop}
  (preserved : ∀ past state request, invariant past state →
    condition past (finished serve state request) →
    invariant (past ++ [finished serve state request]) (serve state request).2)
  (holds : invariant [] start) (meets : Throughout condition (history serve start requests))
include preserved holds meets

/-- The invariant rule for histories. -/
theorem invariant_of_served :
    invariant (history serve start requests) (served serve start requests) := by
  induction requests using List.reverseRecOn with
  | nil => exact holds
  | append_singleton requests request ih =>
    rw [history_append] at meets
    rw [history_append, served_append]
    exact preserved _ _ request (ih (throughout_append meets)) (meets _ _ [] rfl)

/-- The invariant holds before every run of the history. -/
theorem invariant_before {earlier later : List (Finished State Request Answer)}
    {run : Finished State Request Answer}
    (isSplit : history serve start requests = earlier ++ run :: later) :
    invariant earlier run.before ∧ run = finished serve run.before run.request := by
  rcases history_split isSplit with ⟨before, after, isRequests, isEarlier, isRun⟩
  rw [isSplit] at meets
  have inv := invariant_of_served preserved holds (isEarlier ▸ throughout_append meets)
  rw [isRun, isEarlier]
  exact ⟨inv, rfl⟩

end

end StarterTemplate.Library
