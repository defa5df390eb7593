import StarterTemplate.Library.Solo

/-!
# Processes in turn

Programs that are interleaved so that one of them begins only when certain others have
not begun or have ended.  When every two of them take turns in this way, and each of them
executed alone leads from a stable state to a settled one, then the committed state is
settled as soon as one process has ended.
-/

namespace StarterTemplate.Library.ReadCommitted

variable {Row Key : Type} [Keyed Row Key] [DecidableEq Key]
variable {Site Call : Type} {Reply : Call → Type} {Result Env Drift Pid : Type}
variable {programs : Pid → Prog Row Site Call Reply Result}

/-- The process has ended. -/
def Code.Ended : Code Row Site Call Reply Result → Prop
  | .running (.done _) | .aborted => True
  | _ => False

/-- The next step of the process locks a row. -/
def Code.AboutToLock : Code Row Site Call Reply Result → Prop
  | .locking _ _ _ (_ :: _) _ _ => True
  | _ => False

namespace Sys

/-- The process has not begun, or has ended. -/
def Resting (programs : Pid → Prog Row Site Call Reply Result)
    (sys : Sys Pid Row Site Call Reply Result Env) (pid : Pid) : Prop :=
  sys.procs pid = .fresh (.running (programs pid)) ∨ (sys.procs pid).code.Ended

/-- The condition on a step: a process begins only when every process it must not overlap
with has not begun or has ended. -/
def InTurn (programs : Pid → Prog Row Site Call Reply Result) (excludes : Pid → Pid → Prop)
    (sys : Sys Pid Row Site Call Reply Result Env) : Event Pid Drift → Prop
  | .exec pid =>
    sys.procs pid = .fresh (.running (programs pid)) →
      ∀ other, other ≠ pid → excludes pid other → sys.Resting programs other
  | .abort _ | .drift _ => True

variable {sys next : Sys Pid Row Site Call Reply Result Env} {pid other : Pid}

omit [DecidableEq Key] in
theorem Resting.congr (resting : sys.Resting programs pid)
    (same : next.procs pid = sys.procs pid) : next.Resting programs pid := by
  rw [Resting, same]
  exact resting

variable [Fintype Pid] [DecidableEq Pid] {model : Model Row Call Reply Env Drift}

theorem not_ended_of_exec (enabled : sys.exec model pid = some next) :
    ¬ (sys.procs pid).code.Ended := by
  intro ended
  cases code : (sys.procs pid).code with
  | aborted => simp [exec, code] at enabled
  | locking => simp [code, Code.Ended] at ended
  | running prog =>
    cases prog with
    | done result => simp [exec, code] at enabled
    | _ => simp [code, Code.Ended] at ended

/-- The database ends a process that has not ended. -/
theorem of_abort (enabled : step model sys (.abort pid) = some next) :
    ¬ (sys.procs pid).code.Ended ∧ next = sys.set pid (.fresh .aborted) := by
  simp only [step] at enabled
  split at enabled
  · cases enabled
  · cases enabled
  rename_i notAborted notDone
  refine ⟨?_, (Option.some.inj enabled).symm⟩
  intro ended
  cases code : (sys.procs pid).code with
  | aborted => exact notAborted code
  | locking => simp [code, Code.Ended] at ended
  | running prog =>
    cases prog with
    | done result => exact notDone result code
    | _ => simp [code, Code.Ended] at ended

/-- A process that executes while the others rest takes its turn. -/
theorem inTurn_alone {excludes : Pid → Pid → Prop} (pid : Pid) (steps : Nat)
    (others : ∀ other, other ≠ pid → sys.Resting programs other) :
    Meets (step model) (InTurn programs excludes) sys (List.replicate steps (.exec pid)) := by
  induction steps generalizing sys with
  | zero => trivial
  | succ steps ih =>
    constructor
    · intro _ other differ _
      exact others other differ
    intro next enabled
    apply ih
    intro other differ
    exact (others other differ).congr (procs_exec_of_ne enabled differ)

end Sys

/-- A process that is bound to an outcome and has ended was not ended by the database. -/
theorem Solo.done_of_ended {model : Model Row Call Reply Env Drift} {removable : Key → Prop}
    {base : Table Row} {env : Env} {outcome : Result × Table Row} {pid : Pid} {concluded : Bool}
    {sys : Sys Pid Row Site Call Reply Result Env}
    (solo : Solo model removable base env outcome pid sys concluded)
    (ended : (sys.procs pid).code.Ended) :
    ∃ result, (sys.procs pid).code = .running (.done result) := by
  have completes := solo.completes
  cases code : (sys.procs pid).code with
  | aborted =>
    rw [code] at completes
    cases completes
  | locking => simp [code, Code.Ended] at ended
  | running prog =>
    cases prog with
    | done result => exact ⟨result, rfl⟩
    | _ => simp [code, Code.Ended] at ended

/-! ## Programs that lead to a settled state -/

/-- Each program, executed alone from a stable state, ends with an accepted result in a
settled state. -/
structure Settling (model : Model Row Call Reply Env Drift)
    (programs : Pid → Prog Row Site Call Reply Result) (removable : Key → Prop)
    (stable settled : Table Row → Prop) (accepted : Result → Prop) : Prop where
  follows : ∀ pid, (programs pid).Follows (soloProtocol removable) (fun _ _ => True) false
  ends : ∀ pid store env, stable store →
    accepted (finish model (programs pid) ⟨store, store, env⟩).1 ∧
      settled (finish model (programs pid) ⟨store, store, env⟩).2
  keeps : ∀ store, settled store → stable store

/-- The process is bound to end with an accepted result in a settled state. -/
def Bound (model : Model Row Call Reply Env Drift) (removable : Key → Prop)
    (settled : Table Row → Prop) (accepted : Result → Prop)
    (sys : Sys Pid Row Site Call Reply Result Env) (pid : Pid) : Prop :=
  ∃ base env outcome concluded, Solo model removable base env outcome pid sys concluded ∧
    accepted outcome.1 ∧ settled outcome.2

/-- Where a process may stand when no two processes are under way. -/
inductive Standing (model : Model Row Call Reply Env Drift)
    (programs : Pid → Prog Row Site Call Reply Result) (removable : Key → Prop)
    (settled : Table Row → Prop) (accepted : Result → Prop)
    (sys : Sys Pid Row Site Call Reply Result Env) (pid : Pid) : Prop where
  | waiting (begins : sys.procs pid = .fresh (.running (programs pid)))
  | aborted (code : (sys.procs pid).code = .aborted)
  | ended (result : Result) (code : (sys.procs pid).code = .running (.done result))
      (isAccepted : accepted result) (isSettled : settled sys.store)
  | underway (bound : Bound model removable settled accepted sys pid)
      (others : ∀ other, other ≠ pid → sys.Resting programs other)

section Rule

variable {removable : Key → Prop} {stable settled : Table Row → Prop} {accepted : Result → Prop}
variable {model : Model Row Call Reply Env Drift}
variable {sys next : Sys Pid Row Site Call Reply Result Env} {pid : Pid}

section

variable (standing : Standing model programs removable settled accepted sys pid)
include standing

/-- A process that rests is not under way. -/
theorem Standing.rests (resting : sys.Resting programs pid) :
    sys.procs pid = .fresh (.running (programs pid)) ∨ (sys.procs pid).code = .aborted ∨
      ∃ result, (sys.procs pid).code = .running (.done result) ∧ accepted result ∧
        settled sys.store := by
  cases standing with
  | waiting begins => exact .inl begins
  | aborted code => exact .inr (.inl code)
  | ended result code isAccepted isSettled =>
    exact .inr (.inr ⟨result, code, isAccepted, isSettled⟩)
  | underway bound others =>
    rcases resting with begins | ended
    · exact .inl begins
    rcases bound with ⟨base, env, outcome, concluded, solo, isAccepted, isSettled⟩
    rcases solo.done_of_ended ended with ⟨result, code⟩
    rw [solo.outcome_of_done code] at isAccepted isSettled
    exact .inr (.inr ⟨result, code, isAccepted, isSettled⟩)

/-- A resting process stands as before when the committed rows stay or are settled. -/
theorem Standing.of_resting (resting : sys.Resting programs pid)
    (same : next.procs pid = sys.procs pid) (stays : settled sys.store → settled next.store) :
    Standing model programs removable settled accepted next pid := by
  rcases standing.rests resting with begins | isAborted | ⟨result, code, isAccepted, isSettled⟩
  · exact .waiting (same.trans begins)
  · exact .aborted (by rw [same, isAborted])
  · exact .ended result (by rw [same, code]) isAccepted (stays isSettled)

/-- A process with nothing to do stands as it stood. -/
theorem Standing.congr (sameStore : next.store = sys.store) (same : next.procs pid = sys.procs pid)
    (rests : ∀ other, other ≠ pid → sys.Resting programs other → next.Resting programs other) :
    Standing model programs removable settled accepted next pid := by
  cases standing with
  | waiting begins => exact .waiting (same.trans begins)
  | aborted code => exact .aborted (by rw [same, code])
  | ended result code isAccepted isSettled =>
    exact .ended result (by rw [same, code]) isAccepted (by rw [sameStore]; exact isSettled)
  | underway bound others =>
    rcases bound with ⟨base, env, outcome, concluded, solo, meets⟩
    exact .underway ⟨base, env, outcome, concluded, solo.congr same sameStore, meets⟩
      fun other differ => rests other differ (others other differ)

end

variable [DecidableEq Pid]

/-- The committed rows are stable, and no two processes are under way. -/
structure OneAtATime (model : Model Row Call Reply Env Drift)
    (programs : Pid → Prog Row Site Call Reply Result) (removable : Key → Prop)
    (stable settled : Table Row → Prop) (accepted : Result → Prop)
    (sys : Sys Pid Row Site Call Reply Result Env) : Prop where
  isStable : stable sys.store
  each : ∀ pid, Standing model programs removable settled accepted sys pid

namespace OneAtATime

variable (settling : Settling model programs removable stable settled accepted)
include settling

section

variable [Fintype Pid] (holds : OneAtATime model programs removable stable settled accepted sys)
  (inTurn : sys.InTurn programs (fun _ _ => True) (.exec pid : Event Pid Drift))
  (enabled : sys.exec model pid = some next)
include holds inTurn enabled

/-- The process that makes a step is bound to settle, and the others rest. -/
theorem bound_of_exec :
    Bound model removable settled accepted sys pid ∧
      ∀ other, other ≠ pid → sys.Resting programs other := by
  have notEnded := Sys.not_ended_of_exec enabled
  cases holds.each pid with
  | waiting begins =>
    have ends := settling.ends pid sys.store sys.env holds.isStable
    exact ⟨⟨sys.store, sys.env, _, false, Solo.start (settling.follows pid) begins, ends⟩,
      fun other differ => inTurn begins other differ trivial⟩
  | aborted code | ended result code => exact absurd (by rw [code]; trivial) notEnded
  | underway bound others => exact ⟨bound, others⟩

theorem exec : OneAtATime model programs removable stable settled accepted next := by
  rcases bound_of_exec settling holds inTurn enabled with ⟨bound, others⟩
  rcases bound with ⟨base, env, outcome, concluded, solo, isAccepted, isSettled⟩
  rcases solo.exec enabled with ⟨later, after⟩
  have stays : settled sys.store → settled next.store := by
    intro wasSettled
    rcases solo.store_exec enabled with same | isOutcome
    · rw [same]
      exact wasSettled
    · rw [isOutcome]
      exact isSettled
  have sameOther : ∀ other, other ≠ pid → next.procs other = sys.procs other :=
    fun other differ => Sys.procs_exec_of_ne enabled differ
  constructor
  · rcases solo.store_exec enabled with same | isOutcome
    · rw [same]
      exact holds.isStable
    · rw [isOutcome]
      exact settling.keeps _ isSettled
  intro other
  by_cases isPid : other = pid
  · rw [isPid]
    exact .underway ⟨base, env, outcome, later, after, isAccepted, isSettled⟩
      fun third differ => (others third differ).congr (sameOther third differ)
  · exact (holds.each other).of_resting (others other isPid) (sameOther other isPid) stays

end

omit settling in
theorem abort [Fintype Pid]
    (holds : OneAtATime model programs removable stable settled accepted sys)
    (enabled : Sys.step model sys (.abort pid) = some next) :
    OneAtATime model programs removable stable settled accepted next := by
  rcases Sys.of_abort enabled with ⟨_, isNext⟩
  subst isNext
  have rests : ∀ other, sys.Resting programs other →
      (sys.set pid (.fresh .aborted)).Resting programs other := by
    intro other resting
    by_cases isPid : other = pid
    · subst isPid
      exact .inr (by rw [Sys.set_procs_self]; trivial)
    · exact resting.congr (Sys.set_procs_of_ne sys isPid _)
  constructor
  · exact holds.isStable
  intro other
  by_cases isPid : other = pid
  · subst isPid
    exact .aborted (by rw [Sys.set_procs_self]; rfl)
  · have same := Sys.set_procs_of_ne sys isPid (.fresh .aborted)
    exact (holds.each other).congr rfl same fun third _ => rests third

theorem step [Fintype Pid] {event : Event Pid Drift}
    (holds : OneAtATime model programs removable stable settled accepted sys)
    (inTurn : sys.InTurn programs (fun _ _ => True) event)
    (enabled : Sys.step model sys event = some next) :
    OneAtATime model programs removable stable settled accepted next := by
  cases event with
  | exec pid => exact exec settling holds inTurn enabled
  | abort pid => exact abort holds enabled
  | drift change =>
    cases enabled
    refine ⟨holds.isStable, ?_⟩
    intro pid
    exact (holds.each pid).congr rfl rfl fun _ _ resting => resting.congr rfl

end OneAtATime

/-- Processes that take turns and have ended leave a settled state and accepted results. -/
theorem settled_of_turns [Fintype Pid] [Nonempty Pid]
    (settling : Settling model programs removable stable settled accepted)
    {start final : Sys Pid Row Site Call Reply Result Env} {events : List (Event Pid Drift)}
    (isStable : stable start.store)
    (begins : ∀ pid, start.procs pid = .fresh (.running (programs pid)))
    (inTurn : Meets (Sys.step model) (Sys.InTurn programs fun _ _ => True) start events)
    (reached : run (Sys.step model) start events = some final)
    (ended : ∀ pid, ∃ result, (final.procs pid).code = .running (.done result)) :
    settled final.store ∧
      ∀ pid result, (final.procs pid).code = .running (.done result) → accepted result := by
  have initial : OneAtATime model programs removable stable settled accepted start :=
    ⟨isStable, fun pid => .waiting (begins pid)⟩
  have preserved : ∀ sys event next,
      OneAtATime model programs removable stable settled accepted sys →
      sys.InTurn programs (fun _ _ => True) event → Sys.step model sys event = some next →
      OneAtATime model programs removable stable settled accepted next :=
    fun _ _ _ holds turn enabled => holds.step settling turn enabled
  have holds := invariant_of_meets preserved initial inTurn reached
  have each : ∀ pid result, (final.procs pid).code = .running (.done result) →
      accepted result ∧ settled final.store := by
    intro pid result code
    have resting : final.Resting programs pid := .inr (by rw [code]; trivial)
    rcases (holds.each pid).rests resting with begins | isAborted | ⟨_, isDone, met⟩
    · have isDone : programs pid = .done result := by
        rw [begins] at code
        exact Code.running.inj code
      have ends := settling.ends pid final.store final.env holds.isStable
      rw [isDone] at ends
      exact ends
    · simp [code] at isAborted
    · rw [code] at isDone
      cases isDone
      exact met
  rcases ended (Classical.arbitrary Pid) with ⟨result, code⟩
  exact ⟨(each _ result code).2, fun pid result code => (each pid result code).1⟩

end Rule

end StarterTemplate.Library.ReadCommitted
