import StarterTemplate.Library.Program

/-!
# Interrupted programs

An exception can end a program at any of its statements.  The open transaction is then
rolled back, and what was committed before stays.  `progress` is the execution of a program
up to such a point.  A program that commits only after its last statement leaves everything
or nothing, and a part of a program that does not commit leaves nothing when it is
interrupted.
-/

namespace StarterTemplate.Library.Prog

variable {Row Key : Type} [Keyed Row Key] {Site Call : Type} {Reply : Call → Type}
variable {Result Other Env Drift : Type}

/-- How far an execution is: the rest of the program, the state, and the rows that the open
transaction has inserted. -/
structure Progress (Row : Type) {Key : Type} [Keyed Row Key] (Site Call : Type)
    (Reply : Call → Type) (Result Env : Type) where
  rest : Prog Row Site Call Reply Result
  state : State Row Env
  staged : List Row

/-- The program is about to send something to the database. -/
def IsStatement : Prog Row Site Call Reply Result → Prop
  | done _ => False
  | call _ _ => False
  | _ => True

instance : DecidablePred (IsStatement : Prog Row Site Call Reply Result → Prop)
  | done _ | call _ _ => .isFalse id
  | select _ _ _ | lock _ _ _ _ | insert _ _ | commit _ | rollback _ => .isTrue trivial

section Execution

variable [DecidableEq Key] (model : Model Row Call Reply Env Drift)

/-- Execute one statement or call. -/
def Progress.step : Progress Row Site Call Reply Result Env →
    Progress Row Site Call Reply Result Env
  | ⟨done result, state, staged⟩ => ⟨done result, state, staged⟩
  | ⟨select _ test next, state, staged⟩ => ⟨next (state.view.rows.filter test), state, staged⟩
  | ⟨lock _ test change next, state, staged⟩ =>
    ⟨next (state.view.rows.filter test),
      { state with view := changeRows state.view test change }, staged⟩
  | ⟨insert row next, state, staged⟩ =>
    if state.view.rows.any (model.clashes row) || key row ∈ state.view.rows.map key then
      ⟨next false, state, staged⟩
    else ⟨next true, { state with view := state.view.put row }, staged ++ [row]⟩
  | ⟨commit next, state, _⟩ => ⟨next, { state with store := state.view }, []⟩
  | ⟨rollback next, state, _⟩ => ⟨next, { state with view := state.store }, []⟩
  | ⟨call request next, state, staged⟩ =>
    ⟨next (model.answer request state.env).1,
      { state with env := (model.answer request state.env).2 }, staged⟩

/-- Execute the given number of statements and calls. -/
def Progress.steps (start : Progress Row Site Call Reply Result Env) :
    Nat → Progress Row Site Call Reply Result Env
  | 0 => start
  | count + 1 => (start.steps count).step model

/-- The execution of a program from a committed state, up to the given number of statements
and calls. -/
def progress (prog : Prog Row Site Call Reply Result) (store : Table Row) (env : Env)
    (count : Nat) : Progress Row Site Call Reply Result Env :=
  Progress.steps model ⟨prog, ⟨store, store, env⟩, []⟩ count

/-- What is left when an exception ends the program here. -/
def Progress.abandoned (progress : Progress Row Site Call Reply Result Env) : Table Row :=
  progress.state.store

variable {model}

/-- The execution goes on from where it is. -/
theorem Progress.alone_step (progress : Progress Row Site Call Reply Result Env) :
    (progress.step model).rest.alone model (progress.step model).state =
      progress.rest.alone model progress.state := by
  rcases progress with ⟨rest, state, staged⟩
  cases rest with
  | insert row next =>
    simp only [Progress.step, alone]
    split
    · rfl
    · rfl
  | _ => rfl

theorem Progress.alone_steps (start : Progress Row Site Call Reply Result Env) (count : Nat) :
    (start.steps model count).rest.alone model (start.steps model count).state =
      start.rest.alone model start.state := by
  induction count with
  | zero => rfl
  | succ count ih => rw [Progress.steps, alone_step, ih]

/-- The committed rows at the end, from any point of the execution. -/
theorem execute_of_progress (prog : Prog Row Site Call Reply Result) (store : Table Row)
    (env : Env) (count : Nat) :
    (prog.execute model store env).2.1 =
      ((prog.progress model store env count).rest.alone model
        (prog.progress model store env count).state).2.store := by
  rw [progress, Progress.alone_steps]
  rfl

end Execution

/-! ## Programs that do not commit -/

/-- The rows that pass the test have no guarded key. -/
def Spares (guarded : Key → Bool) (test : Row → Bool) : Prop :=
  ∀ row, test row = true → guarded (key row) = false

/-- The program neither commits nor rolls back, and changes no row with a guarded key. -/
def Quiet (guarded : Key → Bool) : Prog Row Site Call Reply Result → Prop
  | done _ => True
  | select _ _ next => ∀ rows, Quiet guarded (next rows)
  | lock _ test _ next => Spares guarded test ∧ ∀ rows, Quiet guarded (next rows)
  | insert _ next => ∀ inserted, Quiet guarded (next inserted)
  | commit _ => False
  | rollback _ => False
  | call _ next => ∀ reply, Quiet guarded (next reply)

variable {guarded : Key → Bool}

variable {rest : Result → Prog Row Site Call Reply Other}

theorem Quiet.bind {prog : Prog Row Site Call Reply Result} (first : prog.Quiet guarded)
    (second : ∀ result, (rest result).Quiet guarded) : (prog.bind rest).Quiet guarded := by
  induction prog with
  | done result => exact second result
  | select site test next ih | insert row next ih | call request next ih =>
    exact fun reply => ih reply (first reply)
  | lock site test change next ih => exact ⟨first.1, fun rows => ih rows (first.2 rows)⟩
  | commit next ih | rollback next ih => exact first.elim

theorem Quiet.forEach {Item : Type} {body : Item → Prog Row Site Call Reply Unit}
    (items : List Item) (step : ∀ item, (body item).Quiet guarded) :
    (forEach body items).Quiet guarded := by
  induction items with
  | nil => trivial
  | cons item rest ih => exact (step item).bind fun _ => ih

theorem Quiet.flush [DecidableEq Key] (site : Site) {target : Key} (patch : Patch Row)
    (spared : guarded target = false) :
    (flush site target patch : Prog Row Site Call Reply Unit).Quiet guarded := by
  refine ⟨?_, fun _ => trivial⟩
  intro row isTarget
  rw [of_decide_eq_true isTarget]
  exact spared

/-! ## Programs that commit at the end -/

/-- The program only makes calls, and ends as `post` says. -/
def OnlyCalls (post : Result → Prop) : Prog Row Site Call Reply Result → Prop
  | done result => post result
  | call _ next => ∀ reply, OnlyCalls post (next reply)
  | _ => False

/-- The program commits after its last statement only, ends as `post` says when it has
committed, and changes no row with a guarded key. -/
def CommitsLast (guarded : Key → Bool) (post : Result → Prop) :
    Prog Row Site Call Reply Result → Prop
  | done _ => True
  | select _ _ next => ∀ rows, CommitsLast guarded post (next rows)
  | lock _ test _ next => Spares guarded test ∧ ∀ rows, CommitsLast guarded post (next rows)
  | insert _ next => ∀ inserted, CommitsLast guarded post (next inserted)
  | commit next => next.OnlyCalls post
  | rollback next => CommitsLast guarded post next
  | call _ next => ∀ reply, CommitsLast guarded post (next reply)

variable {post : Result → Prop}

theorem OnlyCalls.bind {prog : Prog Row Site Call Reply Result} {final : Other → Prop}
    (first : prog.OnlyCalls post) (second : ∀ result, post result → (rest result).OnlyCalls final) :
    (prog.bind rest).OnlyCalls final := by
  induction prog with
  | done result => exact second result first
  | call request next ih => exact fun reply => ih reply (first reply)
  | _ => exact first.elim

/-- A part that does not commit comes first. -/
theorem Quiet.commitsLast {prog : Prog Row Site Call Reply Result} {final : Other → Prop}
    (first : prog.Quiet guarded) (second : ∀ result, (rest result).CommitsLast guarded final) :
    (prog.bind rest).CommitsLast guarded final := by
  induction prog with
  | done result => exact second result
  | select site test next ih | insert row next ih | call request next ih =>
    exact fun reply => ih reply (first reply)
  | lock site test change next ih => exact ⟨first.1, fun rows => ih rows (first.2 rows)⟩
  | commit next ih | rollback next ih => exact first.elim

/-- Only calls come after a commit. -/
theorem CommitsLast.bind {prog : Prog Row Site Call Reply Result} {final : Other → Prop}
    (first : prog.CommitsLast guarded post)
    (committed : ∀ result, post result → (rest result).OnlyCalls final)
    (open_ : ∀ result, (rest result).CommitsLast guarded final) :
    (prog.bind rest).CommitsLast guarded final := by
  induction prog with
  | done result => exact open_ result
  | select site test next ih | insert row next ih | call request next ih =>
    exact fun reply => ih reply (first reply)
  | lock site test change next ih => exact ⟨first.1, fun rows => ih rows (first.2 rows)⟩
  | commit next ih => exact OnlyCalls.bind first committed
  | rollback next ih => exact ih first

/-! ## Executions -/

section Guarded

/-- The rows with a guarded key. -/
def guardedRows (guarded : Key → Bool) (rows : List Row) : List Row :=
  rows.filter fun row => guarded (key row)

theorem guardedRows_append (rows others : List Row) :
    guardedRows guarded (rows ++ others) =
      guardedRows guarded rows ++ guardedRows guarded others :=
  List.filter_append ..

/-- A statement leaves the rows that it spares. -/
theorem guardedRows_changeRows [DecidableEq Key] {test : Row → Bool}
    (spares : Spares guarded test) (view : Table Row) (change : Change Row) :
    guardedRows guarded (changeRows view test change).rows = guardedRows guarded view.rows := by
  cases change with
  | keep => rfl
  | remove =>
    rw [changeRows, Table.rows_without_filter, guardedRows, List.filter_filter]
    apply List.filter_congr
    intro row _
    cases passes : test row with
    | true => simp [spares row passes]
    | false => simp
  | patch patch =>
    simp only [changeRows, Table.updateWhere, guardedRows]
    induction view.rows with
    | nil => rfl
    | cons row rest ih =>
      rw [List.map_cons, List.filter_cons, List.filter_cons, ih]
      cases passes : test row with
      | true => simp [patch.keeps, spares row passes]
      | false => simp

end Guarded

variable [DecidableEq Key] {model : Model Row Call Reply Env Drift} {store : Table Row}
variable {prog : Prog Row Site Call Reply Result}

/-- Nothing is committed yet: the store is the one of the start, and the transaction sees the
guarded rows of the start and the ones that it inserted. -/
structure Uncommitted (guarded : Key → Bool) (post : Result → Prop) (store : Table Row)
    (progress : Progress Row Site Call Reply Result Env) : Prop where
  rest : progress.rest.CommitsLast guarded post
  stored : progress.state.store = store
  seen : guardedRows guarded progress.state.view.rows =
    guardedRows guarded store.rows ++ guardedRows guarded progress.staged

/-- One statement of a program that commits at the end. -/
theorem Uncommitted.step {progress : Progress Row Site Call Reply Result Env}
    (uncommitted : Uncommitted guarded post store progress) :
    Uncommitted guarded post store (progress.step model) ∨
      (progress.step model).rest.OnlyCalls post := by
  rcases progress with ⟨rest, state, staged⟩
  rcases uncommitted with ⟨code, stored, seen⟩
  cases rest with
  | done result => exact .inl ⟨code, stored, seen⟩
  | select site test next => exact .inl ⟨code _, stored, seen⟩
  | lock site test change next =>
    exact .inl ⟨code.2 _, stored, (guardedRows_changeRows code.1 _ _).trans seen⟩
  | insert row next =>
    simp only [Progress.step]
    split
    · exact .inl ⟨code false, stored, seen⟩
    rename_i accepted
    have new : key row ∉ state.view.rows.map key := by
      intro taken
      exact accepted (Bool.or_eq_true_iff.mpr (.inr (decide_eq_true taken)))
    refine .inl ⟨code true, stored, ?_⟩
    rw [Table.put, dif_neg new, guardedRows_append, seen, guardedRows_append,
      List.append_assoc]
  | commit next => exact .inr code
  | rollback next =>
    cases stored
    exact .inl ⟨code, rfl, by simp [Progress.step, guardedRows]⟩
  | call request next => exact .inl ⟨code _, stored, seen⟩

theorem OnlyCalls.step {progress : Progress Row Site Call Reply Result Env}
    (only : progress.rest.OnlyCalls post) : (progress.step model).rest.OnlyCalls post := by
  rcases progress with ⟨rest, state, staged⟩
  cases rest with
  | done result => exact only
  | call request next => exact only _
  | _ => exact only.elim

/-- A program that only makes calls leaves the committed rows alone. -/
theorem OnlyCalls.alone (only : prog.OnlyCalls post) (state : State Row Env) :
    post (prog.alone model state).1 ∧ (prog.alone model state).2.store = state.store := by
  induction prog generalizing state with
  | done result => exact ⟨only, rfl⟩
  | call request next ih => exact ih _ (only _) _
  | _ => exact only.elim

section

variable (commits : prog.CommitsLast guarded post)
include commits

/-- At every point of its execution, a program that commits at the end has not committed, or
only calls are left. -/
theorem CommitsLast.progress (store : Table Row) (env : Env) (count : Nat) :
    Uncommitted guarded post store (prog.progress model store env count) ∨
      (prog.progress model store env count).rest.OnlyCalls post := by
  induction count with
  | zero => exact .inl ⟨commits, rfl, by simp [Prog.progress, Progress.steps, guardedRows]⟩
  | succ count ih =>
    rcases ih with uncommitted | only
    · exact uncommitted.step
    · exact .inr only.step

/-- An exception at a statement leaves nothing. -/
theorem CommitsLast.abandoned {env : Env} {count : Nat}
    (statement : (prog.progress model store env count).rest.IsStatement) :
    (prog.progress model store env count).abandoned = store := by
  rcases commits.progress store env count with uncommitted | only
  · exact uncommitted.stored
  generalize (prog.progress model store env count).rest = rest at statement only
  cases rest with
  | done result | call request next => exact statement.elim
  | _ => exact only.elim

/-- The commit makes visible what the transaction sees: the guarded rows of the start and the
ones that it inserted. -/
theorem CommitsLast.committed {env : Env} {count : Nat} {next : Prog Row Site Call Reply Result}
    (reached : (prog.progress model store env count).rest = .commit next) :
    (prog.execute model store env).2.1 = (prog.progress model store env count).state.view ∧
      guardedRows guarded (prog.execute model store env).2.1.rows =
        guardedRows guarded store.rows ++
          guardedRows guarded (prog.progress model store env count).staged := by
  rcases commits.progress store env count with uncommitted | only
  · have rest := uncommitted.rest
    rw [reached] at rest
    have final : (prog.execute model store env).2.1 =
        (prog.progress model store env count).state.view := by
      rw [execute_of_progress prog store env count, reached]
      exact (OnlyCalls.alone rest _).2
    rw [final]
    exact ⟨rfl, uncommitted.seen⟩
  · rw [reached] at only
    exact only.elim

/-- A result that does not come after a commit leaves nothing. -/
theorem CommitsLast.alone (state : State Row Env) :
    post (prog.alone model state).1 ∨ (prog.alone model state).2.store = state.store := by
  induction prog generalizing state with
  | done result => exact .inr rfl
  | select site test next ih | call request next ih => exact ih _ (commits _) _
  | lock site test change next ih => exact ih _ (commits.2 _) _
  | insert row next ih =>
    simp only [Prog.alone]
    split <;> exact ih _ (commits _) _
  | commit next ih => exact .inl (OnlyCalls.alone commits _).1
  | rollback next ih => exact ih commits _

end

/-! ## The part before the first commit -/

/-- The number of statements and calls that the execution of a program makes. -/
def duration (model : Model Row Call Reply Env Drift) :
    Prog Row Site Call Reply Result → State Row Env → Nat
  | done _, _ => 0
  | select _ test next, state => (next (state.view.rows.filter test)).duration model state + 1
  | lock _ test change next, state =>
    (next (state.view.rows.filter test)).duration model
      { state with view := changeRows state.view test change } + 1
  | insert row next, state =>
    if state.view.rows.any (model.clashes row) || key row ∈ state.view.rows.map key then
      (next false).duration model state + 1
    else (next true).duration model { state with view := state.view.put row } + 1
  | commit next, state => next.duration model { state with store := state.view } + 1
  | rollback next, state => next.duration model { state with view := state.store } + 1
  | call request next, state =>
    (next (model.answer request state.env).1).duration model
      { state with env := (model.answer request state.env).2 } + 1

theorem duration_bind (rest : Result → Prog Row Site Call Reply Other) (state : State Row Env) :
    (prog.bind rest).duration model state =
      prog.duration model state +
        (rest (prog.alone model state).1).duration model (prog.alone model state).2 := by
  induction prog generalizing state with
  | done result => simp [bind, duration, alone]
  | insert row next ih =>
    simp only [bind, duration, alone]
    split <;> rw [ih] <;> omega
  | _ =>
    rename_i ih
    simp only [bind, duration, alone]
    rw [ih]
    omega

theorem Progress.steps_succ (start : Progress Row Site Call Reply Result Env) (count : Nat) :
    start.steps model (count + 1) = (start.step model).steps model count := by
  induction count with
  | zero => rfl
  | succ count ih => rw [Progress.steps, ih, Progress.steps]

/-- Up to the end of a part that does not commit, the committed rows stay. -/
theorem Quiet.stored_steps (quiet : prog.Quiet guarded) {state : State Row Env} {staged : List Row}
    {count : Nat} (within : count ≤ prog.duration model state) :
    (Progress.steps model ⟨prog.bind rest, state, staged⟩ count).state.store = state.store := by
  induction prog generalizing state staged count with
  | done result =>
    rw [Nat.le_zero.mp within]
    rfl
  | select site test next ih | call request next ih =>
    cases count with
    | zero => rfl
    | succ count =>
      rw [Progress.steps_succ]
      exact ih _ (quiet _) (Nat.le_of_succ_le_succ within)
  | lock site test change next ih =>
    cases count with
    | zero => rfl
    | succ count =>
      rw [Progress.steps_succ]
      exact ih _ (quiet.2 _) (Nat.le_of_succ_le_succ within)
  | insert row next ih =>
    cases count with
    | zero => rfl
    | succ count =>
      rw [Progress.steps_succ]
      simp only [duration] at within
      simp only [Progress.step, Prog.bind]
      split at within
      · rename_i refused
        rw [if_pos refused]
        exact ih false (quiet false) (Nat.le_of_succ_le_succ within)
      · rename_i accepted
        rw [if_neg accepted]
        exact ih true (quiet true) (Nat.le_of_succ_le_succ within)
  | commit next ih | rollback next ih => exact quiet.elim

/-- An exception before or right after a part that does not commit leaves nothing. -/
theorem Quiet.abandoned (quiet : prog.Quiet guarded) {env : Env} {count : Nat}
    (within : count ≤ prog.duration model ⟨store, store, env⟩) :
    ((prog.bind rest).progress model store env count).abandoned = store :=
  quiet.stored_steps within

/-- A program that has ended stays where it is. -/
theorem Progress.steps_done (result : Result) (state : State Row Env) (staged : List Row)
    (count : Nat) :
    (Progress.steps model ⟨done result, state, staged⟩ count :
      Progress Row Site Call Reply Result Env) = ⟨done result, state, staged⟩ := by
  induction count with
  | zero => rfl
  | succ count ih => rw [Progress.steps, ih, Progress.step]

end StarterTemplate.Library.Prog
