import StarterTemplate.Library.Completion

/-!
# A process that is not disturbed

A process that inserts no row under a key it has deleted, and that ends with its commit,
leaves the committed rows as they were or as its execution alone leaves them.  A process
that deletes nothing, and that does not listen to the component, ends as it does alone.
-/

namespace StarterTemplate.Library

variable {Row Key : Type} [Keyed Row Key] [DecidableEq Key]

namespace ReadCommitted

variable {Site Call : Type} {Reply : Call → Type} {Result Env Drift Pid : Type}

/-! ## A process that is not disturbed -/

/-- The statements of a process that deletes under some keys, inserts under others, does
not call the component, and ends with its commit.  The stage says whether it committed. -/
def soloProtocol (removable : Key → Prop) : Protocol Row Site Call Reply Bool where
  select concluded _ _ _ later := concluded = false ∧ later = false
  lock concluded _ test change _ later :=
    concluded = false ∧ later = false ∧
      (change = .remove → ∀ row, test row = true → removable (key row))
  insert concluded row _ later := concluded = false ∧ later = false ∧ ¬ removable (key row)
  commit concluded later := concluded = false ∧ later = true
  rollback concluded later := concluded = false ∧ later = false
  call _ _ _ _ := False

/-- A process that began on `base` stands where its execution alone leads to `outcome`. -/
structure Solo (model : Model Row Call Reply Env Drift) (removable : Key → Prop)
    (base : Table Row) (env : Env) (outcome : Result × Table Row) (pid : Pid)
    (sys : Sys Pid Row Site Call Reply Result Env) (concluded : Bool) : Prop where
  follows : (sys.procs pid).code.Follows (soloProtocol removable) (fun _ _ => True) concluded
  dropped : ∀ target ∈ (sys.procs pid).dropped, removable target
  waiting : (sys.procs pid).code.Waiting (sys.view pid)
  unchanged : concluded = false → sys.store = base
  completes : (sys.procs pid).code.completion model ⟨sys.store, sys.view pid, env⟩ = some outcome

namespace Solo

variable {model : Model Row Call Reply Env Drift} {removable : Key → Prop} {base : Table Row}
variable {env : Env} {outcome : Result × Table Row} {pid : Pid} {concluded : Bool}
variable {sys next : Sys Pid Row Site Call Reply Result Env}

/-- Where a process begins. -/
theorem start {prog : Prog Row Site Call Reply Result}
    (follows : prog.Follows (soloProtocol removable) (fun _ _ => True) false)
    (begins : sys.procs pid = .fresh (.running prog)) :
    Solo model removable sys.store env (finish model prog ⟨sys.store, sys.store, env⟩) pid sys
      false := by
  have view : sys.view pid = sys.store := by
    rw [Sys.view, begins, Process.view_fresh]
  constructor
  · rw [begins]
    exact follows
  · rw [begins]
    intro target isDropped
    cases isDropped
  · rw [begins]
    trivial
  · intro _
    rfl
  · rw [view, begins]
    rfl

section

variable (solo : Solo model removable base env outcome pid sys concluded)
include solo

theorem destined : Destined model env outcome pid sys :=
  ⟨solo.waiting, solo.completes⟩

/-- Steps of others that commit nothing do not matter. -/
theorem congr (sameProcess : next.procs pid = sys.procs pid) (sameStore : next.store = sys.store) :
    Solo model removable base env outcome pid next concluded := by
  have after := solo.destined.congr sameProcess sameStore
  refine ⟨?_, ?_, after.waiting, ?_, after.completes⟩
  · rw [sameProcess]
    exact solo.follows
  · rw [sameProcess]
    exact solo.dropped
  · rw [sameStore]
    exact solo.unchanged

end

/-- After its commit a process has ended. -/
theorem ended (solo : Solo model removable base env outcome pid sys true) :
    ∃ result, (sys.procs pid).code = .running (.done result) := by
  have closed : Closed (soloProtocol removable : Protocol Row Site Call Reply Bool) true := by
    constructor <;> simp [soloProtocol]
  rcases solo.follows.ended closed fun request => ⟨(model.answer request env).1⟩ with code | isDone
  · have completes := solo.completes
    rw [code] at completes
    cases completes
  · exact isDone

section

variable (solo : Solo model removable base env outcome pid sys concluded)
include solo

/-- The process has ended as it was bound to. -/
theorem outcome_of_done {result : Result} (isDone : (sys.procs pid).code = .running (.done result)) :
    outcome = (result, sys.store) :=
  solo.destined.outcome_of_done isDone

/-- The committed rows are those from before the process, or those it was bound to leave. -/
theorem store_eq : sys.store = base ∨ sys.store = outcome.2 := by
  cases concluded with
  | false => exact .inl (solo.unchanged rfl)
  | true =>
    rcases solo.ended with ⟨result, isDone⟩
    exact .inr (by rw [solo.outcome_of_done isDone])

end

variable {following : List Row → Prog Row Site Call Reply Result}

/-- The statements that delete rows delete those that may be. -/
theorem removes {site : Site} {test : Row → Bool} {change : Change Row} {pending : List Key}
    {got : List Row} (solo : Solo model removable base env outcome pid sys concluded)
    (code : (sys.procs pid).code = .locking site test change pending got following)
    (isRemove : change = .remove) {row : Row} (passes : test row = true) : removable (key row) := by
  have follows := solo.follows
  rw [code] at follows
  rcases follows [] (by simp) with ⟨_, allowed, _⟩
  exact allowed.2.2 isRemove row passes

section Step

variable [DecidableEq Pid]

/-- A locking statement finds its rows. -/
theorem open_exec {site : Site} {test : Row → Bool} {change : Change Row}
    (solo : Solo model removable base env outcome pid sys concluded)
    (code : (sys.procs pid).code = .running (.lock site test change following)) :
    Solo model removable base env outcome pid (sys.set pid
      { sys.procs pid with
        code := .locking site test change (((sys.view pid).rows.filter test).map key) [] following
        visited := site :: (sys.procs pid).visited }) concluded := by
  have follows := solo.follows
  rw [code] at follows
  have after := solo.destined.open_exec code
  refine ⟨?_, ?_, after.waiting, solo.unchanged, after.completes⟩
  · rw [Sys.set_procs_self]
    exact follows
  · rw [Sys.set_procs_self]
    exact solo.dropped

/-- A process that has found the rows of its first statement and locked none of them may as
well have found them now. -/
theorem opened {site : Site} {test : Row → Bool} {change : Change Row} (follows : (Prog.lock site
      test change following).Follows (soloProtocol removable) (fun _ _ => True) false) (begun :
      sys.procs pid = { Process.fresh (.locking site test change ((sys.store.rows.filter test).map
      key) [] following) with visited := [site] }) :
    Solo model removable sys.store env
      (finish model (.lock site test change following) ⟨sys.store, sys.store, env⟩) pid sys
      false := by
  let before : Sys Pid Row Site Call Reply Result Env :=
    sys.set pid (.fresh (.running (.lock site test change following)))
  have begins : before.procs pid = .fresh (.running (.lock site test change following)) :=
    sys.set_procs_self pid _
  have view : before.view pid = sys.store := by
    rw [Sys.view, begins, Process.view_fresh]
    rfl
  have starts : Solo model removable before.store env
      (finish model (.lock site test change following) ⟨before.store, before.store, env⟩) pid
      before false := Solo.start follows begins
  have opens := starts.open_exec (by rw [begins]; rfl)
  apply opens.congr
  · rw [Sys.set_procs_self, begins, view, begun]
    rfl
  · rfl

section

variable [Fintype Pid] (solo : Solo model removable base env outcome pid sys concluded)
  (enabled : sys.exec model pid = some next)
include solo enabled

/-- A step of a process that nobody disturbs keeps what it is bound to do. -/
theorem exec : ∃ later, Solo model removable base env outcome pid next later := by
  have lasting : ∀ row following, (sys.procs pid).code = .running (.insert row following) →
      key row ∉ (sys.procs pid).dropped := by
    intro row following code isDropped
    have follows := solo.follows
    rw [code] at follows
    rcases follows true with ⟨_, allowed, _⟩
    exact allowed.2.2 (solo.dropped _ isDropped)
  have silent : ∀ request following,
      (sys.procs pid).code ≠ .running (.call request following) := by
    intro request following code
    have follows := solo.follows
    rw [code] at follows
    rcases follows (model.answer request env).1 with ⟨_, allowed, _⟩
    exact allowed
  have after := solo.destined.exec lasting silent enabled
  rcases follows_exec solo.follows enabled with ⟨later, advanced, follows⟩
  refine ⟨later, follows, ?_, after.waiting, ?_, after.completes⟩
  · cases advanced with
    | selected | opened | skipped | closed | refused =>
      rw [Sys.set_procs_self]
      exact solo.dropped
    | granted site test change pending got following row code free found passes =>
      rw [Sys.set_procs_self]
      intro target isDropped
      rcases Process.mem_dropped_grant isDropped with old | ⟨isRemove, isRow⟩
      · exact solo.dropped target old
      · rw [isRow]
        exact solo.removes code isRemove passes
    | inserted row rest =>
      rw [Sys.set_procs_self]
      intro target isDropped
      exact solo.dropped target (List.mem_filter.mp isDropped).1
    | committed | rolledBack => simp [Process.fresh]
    | called request rest running later allowed => exact allowed.elim
  intro isOpen
  cases advanced with
  | selected site test rest running begins _ allowed
  | closed site test change got following code _ allowed
  | refused row rest running _ allowed
  | inserted row rest running free unique new _ allowed
  | rolledBack rest _ allowed => exact solo.unchanged allowed.1
  | opened | granted | skipped => exact solo.unchanged isOpen
  | committed rest code _ allowed =>
    rw [isOpen] at allowed
    cases allowed.2
  | called request rest running _ allowed => exact allowed.elim

/-- A step leaves the committed rows, or makes them those the process is bound to leave. -/
theorem store_exec : next.store = sys.store ∨ next.store = outcome.2 := by
  rcases solo.exec enabled with ⟨later, after⟩
  cases later with
  | true =>
    rcases after.ended with ⟨result, isDone⟩
    exact .inr (by rw [after.outcome_of_done isDone])
  | false =>
    cases concluded with
    | false => exact .inl ((after.unchanged rfl).trans (solo.unchanged rfl).symm)
    | true =>
      rcases solo.ended with ⟨result, isDone⟩
      simp [Sys.exec, isDone] at enabled

end

end Step

end Solo

/-! ## A process that does not listen -/

/-- Processes that follow a protocol that allows no deletion have deleted nothing. -/
theorem dropped_exec [Fintype Pid] [DecidableEq Pid] {Stage : Type}
    {protocol : Protocol Row Site Call Reply Stage} {post : Stage → Result → Prop} {stage : Stage}
    {model : Model Row Call Reply Env Drift} {pid : Pid}
    {sys next : Sys Pid Row Site Call Reply Result Env}
    (spares : ∀ stage site test change rows later,
      protocol.lock stage site test change rows later → change ≠ .remove)
    (follows : (sys.procs pid).code.Follows protocol post stage)
    (dropped : (sys.procs pid).dropped = []) (enabled : sys.exec model pid = some next) :
    (next.procs pid).dropped = [] := by
  cases Sys.stepped enabled with
  | selected | opened | refused | closed | skipped =>
    rw [Sys.set_procs_self]
    exact dropped
  | committed | rolledBack => simp [Process.fresh]
  | called request following code => simpa using dropped
  | inserted row following code =>
    rw [Sys.set_procs_self, Process.add, dropped]
    rfl
  | granted site test change pending got following row code =>
    rw [code] at follows
    rcases follows [] (by simp) with ⟨_, allowed, _⟩
    rw [Sys.set_procs_self]
    apply List.eq_nil_iff_forall_not_mem.mpr
    intro target isDropped
    rcases Process.mem_dropped_grant isDropped with old | ⟨isRemove, _⟩
    · simp [dropped] at old
    · exact spares _ _ _ _ _ _ allowed isRemove

/-- The statements of a process that deletes nothing, and calls the component only where
there is one reply. -/
def deafProtocol : Protocol Row Site Call Reply Unit where
  select _ _ _ _ _ := True
  lock _ _ _ change _ _ := change ≠ .remove
  insert _ _ _ _ := True
  commit _ _ := True
  rollback _ _ := True
  call _ request _ _ := Subsingleton (Reply request)

/-- A process that does not listen to the component stands where its execution alone leads
to `outcome`. -/
structure Deaf (model : Model Row Call Reply Env Drift) (outcome : Result × Table Row) (pid : Pid)
    (sys : Sys Pid Row Site Call Reply Result Env) : Prop where
  follows : (sys.procs pid).code.Follows deafProtocol (fun _ _ => True) ()
  dropped : (sys.procs pid).dropped = []
  destined : ∃ env, Destined model env outcome pid sys

namespace Deaf

variable {model : Model Row Call Reply Env Drift} {outcome : Result × Table Row} {pid : Pid}
variable {sys next : Sys Pid Row Site Call Reply Result Env}

/-- Steps of others that commit nothing do not matter. -/
theorem congr (deaf : Deaf model outcome pid sys) (sameProcess : next.procs pid = sys.procs pid)
    (sameStore : next.store = sys.store) : Deaf model outcome pid next := by
  constructor
  · rw [sameProcess]
    exact deaf.follows
  · rw [sameProcess]
    exact deaf.dropped
  · rcases deaf.destined with ⟨env, destined⟩
    exact ⟨env, destined.congr sameProcess sameStore⟩

/-- A step of such a process keeps what it is bound to do. -/
theorem exec [Fintype Pid] [DecidableEq Pid] (deaf : Deaf model outcome pid sys)
    (enabled : sys.exec model pid = some next) : Deaf model outcome pid next := by
  rcases follows_exec deaf.follows enabled with ⟨later, _, follows⟩
  rcases deaf.destined with ⟨env, destined⟩
  refine ⟨follows, dropped_exec (fun _ _ _ _ _ _ => id) deaf.follows deaf.dropped enabled, ?_⟩
  by_cases calls : ∃ request following, (sys.procs pid).code = .running (.call request following)
  · rcases calls with ⟨request, following, code⟩
    have listens := deaf.follows
    rw [code] at listens
    rcases listens (model.answer request env).1 with ⟨_, oneReply, _⟩
    have isNext : { sys.set pid { sys.procs pid with
        code := .running (following (model.answer request sys.env).1) } with
          env := (model.answer request sys.env).2 } = next := by
      simp only [Sys.exec, code] at enabled
      exact Option.some.inj enabled
    rw [← isNext]
    exact ⟨_, destined.call_exec code (oneReply.elim _ _) _⟩
  have lasting : ∀ row following, (sys.procs pid).code = .running (.insert row following) →
      key row ∉ (sys.procs pid).dropped := by
    intro row following _
    rw [deaf.dropped]
    exact List.not_mem_nil
  exact ⟨env, destined.exec lasting (fun request following code =>
    calls ⟨request, following, code⟩) enabled⟩

/-- The process has ended as it was bound to. -/
theorem outcome_of_done (deaf : Deaf model outcome pid sys) {result : Result}
    (isDone : (sys.procs pid).code = .running (.done result)) : outcome = (result, sys.store) := by
  rcases deaf.destined with ⟨env, destined⟩
  exact destined.outcome_of_done isDone

end Deaf

end ReadCommitted

end StarterTemplate.Library
