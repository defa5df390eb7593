import Mathlib.Data.Fintype.Basic
import Mathlib.Logic.Function.Basic
import StarterTemplate.Library.Program
import StarterTemplate.Library.Runs

/-!
# Programs under READ COMMITTED

Any number of database programs execute statement by statement in any order.  A
statement sees the committed rows and the versions its own transaction wrote.  A
locking statement first fixes the rows it found and then locks them one after the
other: it waits for a row that another transaction has locked, reads the committed
version when the wait is over, and tests it again.  Rows that were committed after
the statement began are not seen by it.  Uncommitted versions are visible to their
own transaction only.
-/

namespace StarterTemplate.Library.ReadCommitted

variable {Row Key : Type} [Keyed Row Key]
variable {Site Call : Type} {Reply : Call → Type} {Result Env Drift : Type}
variable {Pid : Type} [DecidableEq Pid]

/-- Where a process stands. -/
inductive Code (Row : Type) {Key : Type} [Keyed Row Key] (Site Call : Type)
    (Reply : Call → Type) (Result : Type) where
  | running (prog : Prog Row Site Call Reply Result)
  /-- Inside a locking statement: the keys still to be locked, and the rows locked. -/
  | locking (site : Site) (test : Row → Bool) (change : Change Row) (pending : List Key)
      (got : List Row)
      (next : List Row → Prog Row Site Call Reply Result)
  /-- Ended by the database. -/
  | aborted

/-- A process with its open transaction: the versions it wrote, the keys it deleted,
the keys it has locked, and the sites it has passed. -/
structure Process (Row : Type) {Key : Type} [Keyed Row Key] (Site Call : Type)
    (Reply : Call → Type) (Result : Type) where
  code : Code Row Site Call Reply Result
  own : Table Row
  dropped : List Key
  locks : List Key
  visited : List Site

namespace Process

variable [DecidableEq Key] (process : Process Row Site Call Reply Result)

/-- A process with no open transaction. -/
def fresh (code : Code Row Site Call Reply Result) : Process Row Site Call Reply Result :=
  ⟨code, Table.empty, [], [], []⟩

/-- What the transaction sees. -/
def view (store : Table Row) : Table Row := (store.overlay process.own).without process.dropped

theorem mem_view {process : Process Row Site Call Reply Result} {store : Table Row} {row : Row} :
    row ∈ (process.view store).rows ↔
      (row ∈ process.own.rows ∨ (row ∈ store.rows ∧ key row ∉ process.own.rows.map key)) ∧
        key row ∉ process.dropped := by
  rw [view, Table.mem_without, Table.mem_overlay]

/-- What a transaction sees after it has written a version. -/
theorem mem_view_put {process later : Process Row Site Call Reply Result} {store : Table Row}
    {row other : Row} (own : later.own = process.own.put row)
    (dropped : later.dropped = process.dropped) (kept : key row ∉ process.dropped) :
    other ∈ (later.view store).rows ↔
      other = row ∨ (other ∈ (process.view store).rows ∧ key other ≠ key row) := by
  rw [view, view, Table.mem_without, Table.mem_without, own, dropped, Table.mem_overlay_put]
  by_cases isRow : other = row
  · simp [isRow, kept]
  · simp only [isRow, false_or]
    exact and_right_comm

/-- Lock a row and change it. -/
def grant (change : Change Row) (row : Row) (code : Code Row Site Call Reply Result) :
    Process Row Site Call Reply Result :=
  match change with
  | .keep => { process with code := code, locks := key row :: process.locks }
  | .patch patch =>
    { process with
      code := code
      own := process.own.put (patch.apply row)
      locks := key row :: process.locks }
  | .remove =>
    { process with
      code := code
      dropped := key row :: process.dropped
      locks := key row :: process.locks }

/-- What a transaction sees after an `UPDATE` of a row. -/
theorem mem_view_grant_patch {store : Table Row} {patch : Patch Row} {row other : Row}
    {code : Code Row Site Call Reply Result} (kept : key row ∉ process.dropped) :
    other ∈ ((process.grant (.patch patch) row code).view store).rows ↔
      other = patch.apply row ∨ (other ∈ (process.view store).rows ∧ key other ≠ key row) := by
  rw [← patch.keeps row] at kept ⊢
  exact mem_view_put rfl rfl kept

/-- Write a new row. -/
def add (row : Row) (code : Code Row Site Call Reply Result) :
    Process Row Site Call Reply Result :=
  { process with
    code := code
    own := process.own.put row
    dropped := process.dropped.filter fun target => target ≠ key row
    locks := key row :: process.locks }

end Process

/-- The committed rows, the shared component, the processes, and the sites of the
committed transactions, latest first. -/
structure Sys (Pid Row : Type) {Key : Type} [Keyed Row Key] (Site Call : Type)
    (Reply : Call → Type) (Result Env : Type) where
  store : Table Row
  env : Env
  procs : Pid → Process Row Site Call Reply Result
  journal : List (Pid × Site)

inductive Event (Pid Drift : Type) where
  /-- The next step of a process. -/
  | exec (pid : Pid)
  /-- The database ends a process, for instance one that is part of a deadlock. -/
  | abort (pid : Pid)
  /-- The component changes by itself. -/
  | drift (change : Drift)

namespace Sys

variable (sys : Sys Pid Row Site Call Reply Result Env)

/-- The system with one process replaced. -/
def set (pid : Pid) (process : Process Row Site Call Reply Result) :
    Sys Pid Row Site Call Reply Result Env :=
  { sys with procs := Function.update sys.procs pid process }

@[simp] theorem set_procs_self (pid : Pid) (process : Process Row Site Call Reply Result) :
    (sys.set pid process).procs pid = process :=
  Function.update_self ..

theorem set_procs_of_ne {pid other : Pid} (differ : other ≠ pid)
    (process : Process Row Site Call Reply Result) :
    (sys.set pid process).procs other = sys.procs other :=
  Function.update_of_ne differ ..

@[simp] theorem set_store (pid : Pid) (process : Process Row Site Call Reply Result) :
    (sys.set pid process).store = sys.store := rfl

variable [DecidableEq Key] [Fintype Pid]

/-- The rows a process sees. -/
def view (pid : Pid) : Table Row := (sys.procs pid).view sys.store

/-- Another process has locked the key. -/
def LockedElsewhere (pid : Pid) (target : Key) : Prop :=
  ∃ other, other ≠ pid ∧ target ∈ (sys.procs other).locks

instance (pid : Pid) (target : Key) : Decidable (sys.LockedElsewhere pid target) :=
  inferInstanceAs (Decidable (∃ _, _ ∧ _))

/-- An insertion has to wait for an uncommitted row of another process. -/
def Blocked (model : Model Row Call Reply Env Drift) (pid : Pid) (row : Row) : Prop :=
  ∃ other, other ≠ pid ∧ (((sys.procs other).own.rows.any (model.clashes row)) = true ∨
    key row ∈ (sys.procs other).own.rows.map key)

instance (model : Model Row Call Reply Env Drift) (pid : Pid) (row : Row) :
    Decidable (sys.Blocked model pid row) :=
  inferInstanceAs (Decidable (∃ _, _ ∧ (_ ∨ _)))

/-- The next step of a process; `none` when it has ended or has to wait. -/
def exec (model : Model Row Call Reply Env Drift) (pid : Pid) :
    Option (Sys Pid Row Site Call Reply Result Env) :=
  let process := sys.procs pid
  let view := sys.view pid
  match process.code with
  | .aborted | .running (.done _) => none
  | .running (.select site test next) =>
    some (sys.set pid
      { process with
        code := .running (next (view.rows.filter test))
        visited := site :: process.visited })
  | .running (.lock site test change next) =>
    some (sys.set pid
      { process with
        code := .locking site test change ((view.rows.filter test).map key) [] next
        visited := site :: process.visited })
  | .running (.insert row next) =>
    if sys.Blocked model pid row then none
    else if view.rows.any (model.clashes row) || key row ∈ view.rows.map key then
      some (sys.set pid { process with code := .running (next false) })
    else some (sys.set pid (process.add row (.running (next true))))
  | .running (.commit next) =>
    some
      { sys.set pid (.fresh (.running next)) with
        store := view
        journal := process.visited.map (fun site => (pid, site)) ++ sys.journal }
  | .running (.rollback next) => some (sys.set pid (.fresh (.running next)))
  | .running (.call request next) =>
    some
      { sys.set pid
          { process with code := .running (next (model.answer request sys.env).1) } with
        env := (model.answer request sys.env).2 }
  | .locking _ _ _ [] got next => some (sys.set pid { process with code := .running (next got) })
  | .locking site test change (target :: pending) got next =>
    if sys.LockedElsewhere pid target then none
    else
      match view.find target with
      | some row =>
        if test row then
          some (sys.set pid
            (process.grant change row (.locking site test change pending (got ++ [row]) next)))
        else
          some (sys.set pid { process with code := .locking site test change pending got next })
      | none =>
        some (sys.set pid { process with code := .locking site test change pending got next })

/-- One event. -/
def step (model : Model Row Call Reply Env Drift)
    (sys : Sys Pid Row Site Call Reply Result Env) :
    Event Pid Drift → Option (Sys Pid Row Site Call Reply Result Env)
  | .exec pid => sys.exec model pid
  | .abort pid =>
    match (sys.procs pid).code with
    | .aborted | .running (.done _) => none
    | _ => some (sys.set pid (.fresh .aborted))
  | .drift change => some { sys with env := model.drift change sys.env }

/-! ## What a step does -/

variable {sys} {model : Model Row Call Reply Env Drift} {pid : Pid}

/-- Everything the next step of a process can do. -/
inductive Stepped (model : Model Row Call Reply Env Drift)
    (sys : Sys Pid Row Site Call Reply Result Env) (pid : Pid) :
    Sys Pid Row Site Call Reply Result Env → Prop where
  | selected (site : Site) (test : Row → Bool)
      (next : List Row → Prog Row Site Call Reply Result)
      (code : (sys.procs pid).code = .running (.select site test next)) :
      Stepped model sys pid (sys.set pid
        { sys.procs pid with
          code := .running (next ((sys.view pid).rows.filter test))
          visited := site :: (sys.procs pid).visited })
  | opened (site : Site) (test : Row → Bool) (change : Change Row)
      (next : List Row → Prog Row Site Call Reply Result)
      (code : (sys.procs pid).code = .running (.lock site test change next)) :
      Stepped model sys pid (sys.set pid
        { sys.procs pid with
          code := .locking site test change (((sys.view pid).rows.filter test).map key) [] next
          visited := site :: (sys.procs pid).visited })
  | refused (row : Row) (next : Bool → Prog Row Site Call Reply Result)
      (code : (sys.procs pid).code = .running (.insert row next)) :
      Stepped model sys pid (sys.set pid { sys.procs pid with code := .running (next false) })
  | inserted (row : Row) (next : Bool → Prog Row Site Call Reply Result)
      (code : (sys.procs pid).code = .running (.insert row next))
      (free : ¬ sys.Blocked model pid row)
      (unique : ∀ other ∈ (sys.view pid).rows, model.clashes row other = false)
      (new : key row ∉ (sys.view pid).rows.map key) :
      Stepped model sys pid (sys.set pid ((sys.procs pid).add row (.running (next true))))
  | committed (next : Prog Row Site Call Reply Result)
      (code : (sys.procs pid).code = .running (.commit next)) :
      Stepped model sys pid
        { sys.set pid (.fresh (.running next)) with
          store := sys.view pid
          journal := (sys.procs pid).visited.map (fun site => (pid, site)) ++ sys.journal }
  | rolledBack (next : Prog Row Site Call Reply Result)
      (code : (sys.procs pid).code = .running (.rollback next)) :
      Stepped model sys pid (sys.set pid (.fresh (.running next)))
  | called (request : Call) (next : Reply request → Prog Row Site Call Reply Result)
      (code : (sys.procs pid).code = .running (.call request next)) :
      Stepped model sys pid
        { sys.set pid { sys.procs pid with
            code := .running (next (model.answer request sys.env).1) } with
          env := (model.answer request sys.env).2 }
  | closed (site : Site) (test : Row → Bool) (change : Change Row) (got : List Row)
      (next : List Row → Prog Row Site Call Reply Result)
      (code : (sys.procs pid).code = .locking site test change [] got next) :
      Stepped model sys pid (sys.set pid { sys.procs pid with code := .running (next got) })
  | granted (site : Site) (test : Row → Bool) (change : Change Row) (pending : List Key)
      (got : List Row) (next : List Row → Prog Row Site Call Reply Result) (row : Row)
      (code : (sys.procs pid).code = .locking site test change (key row :: pending) got next)
      (free : ¬ sys.LockedElsewhere pid (key row)) (found : row ∈ (sys.view pid).rows)
      (passes : test row = true) :
      Stepped model sys pid (sys.set pid ((sys.procs pid).grant change row
        (.locking site test change pending (got ++ [row]) next)))
  | skipped (site : Site) (test : Row → Bool) (change : Change Row) (target : Key)
      (pending : List Key) (got : List Row) (next : List Row → Prog Row Site Call Reply Result)
      (code : (sys.procs pid).code = .locking site test change (target :: pending) got next)
      (gone : ∀ row ∈ (sys.view pid).rows, key row = target → test row = false) :
      Stepped model sys pid
        (sys.set pid { sys.procs pid with code := .locking site test change pending got next })

variable {next : Sys Pid Row Site Call Reply Result Env}

theorem stepped (enabled : sys.exec model pid = some next) : Stepped model sys pid next := by
  simp only [exec] at enabled
  split at enabled
  · cases enabled
  · cases enabled
  · rename_i site test rest code
    cases enabled
    exact .selected site test rest code
  · rename_i site test change rest code
    cases enabled
    exact .opened site test change rest code
  · rename_i row rest code
    split at enabled
    · cases enabled
    rename_i free
    split at enabled
    · cases enabled
      exact .refused row rest code
    rename_i unique
    cases enabled
    simp only [Bool.or_eq_true, List.any_eq_true, decide_eq_true_eq, not_or, not_exists,
      not_and, Bool.not_eq_true] at unique
    exact .inserted row rest code free unique.1 unique.2
  · rename_i rest code
    cases enabled
    exact .committed rest code
  · rename_i rest code
    cases enabled
    exact .rolledBack rest code
  · rename_i request rest code
    cases enabled
    exact .called request rest code
  · rename_i site test change got rest code
    cases enabled
    exact .closed site test change got rest code
  rename_i site test change target pending got rest code
  split at enabled
  · cases enabled
  rename_i free
  split at enabled
  · rename_i row found
    rcases Table.find_eq_some.mp found with ⟨member, isTarget⟩
    subst isTarget
    split at enabled
    · rename_i passes
      cases enabled
      exact .granted site test change pending got rest row code free member passes
    rename_i fails
    cases enabled
    refine .skipped site test change (key row) pending got rest code ?_
    intro other otherMember sameKey
    rw [(sys.view pid).eq_of_key_eq otherMember member sameKey]
    simpa using fails
  rename_i missing
  cases enabled
  refine .skipped site test change target pending got rest code ?_
  intro row member isTarget
  simp [Table.find_eq_some.mpr ⟨member, isTarget⟩] at missing

/-- A step of a process leaves the other processes alone. -/
theorem procs_exec_of_ne {other : Pid} (enabled : sys.exec model pid = some next)
    (differ : other ≠ pid) : next.procs other = sys.procs other := by
  cases stepped enabled with
  | selected | opened | refused | inserted | committed | rolledBack | called | closed | granted
  | skipped => exact set_procs_of_ne sys differ _

/-- The journal only grows. -/
theorem journal_step {event : Event Pid Drift} (enabled : step model sys event = some next) :
    sys.journal <:+ next.journal := by
  cases event with
  | exec pid =>
    cases stepped enabled with
    | committed => exact List.suffix_append _ _
    | selected | opened | refused | inserted | rolledBack | called | closed | granted
    | skipped => exact List.suffix_rfl
  | abort pid =>
    simp only [step] at enabled
    split at enabled
    · cases enabled
    · cases enabled
    · cases enabled
      exact List.suffix_rfl
  | drift change =>
    cases enabled
    exact List.suffix_rfl

theorem journal_run {events : List (Event Pid Drift)}
    (reached : run (step model) sys events = some next) : sys.journal <:+ next.journal := by
  induction events generalizing sys with
  | nil =>
    cases reached
    exact List.suffix_rfl
  | cons event events ih =>
    rcases run_cons_eq_some.mp reached with ⟨middle, enabled, rest⟩
    exact (journal_step enabled).trans (ih rest)

end Sys

end StarterTemplate.Library.ReadCommitted
