import StarterTemplate.Library.Solo

/-!
# A process that holds a new row

A process that begins with an insertion, does not touch that row again, deletes nothing, and
has nothing to do after its one transaction.  From the insertion to the end of the transaction
it holds the row uncommitted, so that others have to wait with rows that clash with it; what
it will answer and leave is fixed.
-/

namespace StarterTemplate.Library

variable {Row Key : Type} [Keyed Row Key] [DecidableEq Key]

namespace ReadCommitted

variable {Site Call : Type} {Reply : Call → Type} {Result Env Drift Pid : Type}

/-- The statements of such a process.  The stage says whether the transaction has ended. -/
def holdingProtocol (first : Key) : Protocol Row Site Call Reply Bool where
  select concluded _ _ _ later := concluded = false ∧ later = false
  lock concluded _ test change _ later :=
    concluded = false ∧ later = false ∧
      (change = .keep ∨ change ≠ .remove ∧ ∀ row, test row = true → key row ≠ first)
  insert concluded _ _ later := concluded = false ∧ later = false
  commit concluded later := concluded = false ∧ later = true
  rollback concluded later := concluded = false ∧ later = true
  call _ _ _ _ := False

/-- The program ends after the end of its transaction. -/
def OneTransaction (first : Key) (prog : Prog Row Site Call Reply Result) : Prop :=
  prog.Follows (holdingProtocol first) (fun concluded _ => concluded = true) false

/-- A process that holds its first row uncommitted, or has ended the transaction; its
execution alone leads from where it stands to `outcome`. -/
structure Holding (model : Model Row Call Reply Env Drift) (base : Table Row) (env : Env)
    (outcome : Result × Table Row) (first : Row) (pid : Pid)
    (sys : Sys Pid Row Site Call Reply Result Env) (concluded : Bool) : Prop where
  follows : (sys.procs pid).code.Follows (holdingProtocol (key first))
    (fun ended _ => ended = true) concluded
  dropped : (sys.procs pid).dropped = []
  destined : Destined model env outcome pid sys
  unchanged : concluded = false → sys.store = base
  held : concluded = false → first ∈ (sys.procs pid).own.rows

namespace Holding

variable {model : Model Row Call Reply Env Drift} {base : Table Row} {env : Env}
variable {outcome : Result × Table Row} {first : Row} {pid : Pid} {concluded : Bool}
variable {sys next : Sys Pid Row Site Call Reply Result Env}

section

variable (holding : Holding model base env outcome first pid sys concluded)
include holding

/-- Steps of others that commit nothing do not matter. -/
theorem congr (sameProcess : next.procs pid = sys.procs pid) (sameStore : next.store = sys.store) :
    Holding model base env outcome first pid next concluded := by
  constructor
  · rw [sameProcess]
    exact holding.follows
  · rw [sameProcess]
    exact holding.dropped
  · exact holding.destined.congr sameProcess sameStore
  · rw [sameStore]
    exact holding.unchanged
  · rw [sameProcess]
    exact holding.held

/-- The process has not ended before its transaction has. -/
theorem over_of_done {result : Result} (isDone : (sys.procs pid).code = .running (.done result)) :
    concluded = true := by
  have follows := holding.follows
  rw [isDone] at follows
  exact follows

end

/-- When the transaction has ended, so has the process. -/
theorem ended (holding : Holding model base env outcome first pid sys true) :
    (sys.procs pid).code = .running (.done outcome.1) ∧ sys.store = outcome.2 := by
  have closed : Closed (holdingProtocol (key first) : Protocol Row Site Call Reply Bool) true := by
    constructor <;> simp [holdingProtocol]
  rcases holding.follows.ended closed fun request => ⟨(model.answer request env).1⟩
    with code | ⟨result, isDone⟩
  · have completes := holding.destined.completes
    rw [code] at completes
    cases completes
  · rw [holding.destined.outcome_of_done isDone]
    exact ⟨isDone, rfl⟩

/-- A row that clashes with the first one has to wait. -/
theorem blocked (holding : Holding model base env outcome first pid sys false) {other : Pid}
    (differ : other ≠ pid) {row : Row} (clash : model.clashes row first = true) :
    sys.Blocked model other row :=
  ⟨pid, differ.symm, .inl (List.any_eq_true.mpr ⟨first, holding.held rfl, clash⟩)⟩

/-- A locking statement leaves the row alone. -/
theorem held_grant {process : Process Row Site Call Reply Result} {row : Row}
    {test : Row → Bool} {change : Change Row} {code : Code Row Site Call Reply Result}
    (held : first ∈ process.own.rows) (passes : test row = true)
    (allowed : change = .keep ∨ change ≠ .remove ∧ ∀ other, test other = true →
      key other ≠ key first) : first ∈ (process.grant change row code).own.rows := by
  cases change with
  | keep | remove => exact held
  | patch patch =>
    rcases allowed with isKeep | ⟨_, elsewhere⟩
    · cases isKeep
    apply Table.mem_put.mpr
    refine .inr ⟨held, ?_⟩
    rw [patch.keeps]
    exact (elsewhere row passes).symm

variable [Fintype Pid] [DecidableEq Pid]

/-- A step of the process. -/
theorem exec (holding : Holding model base env outcome first pid sys concluded)
    (enabled : sys.exec model pid = some next) :
    ∃ later, Holding model base env outcome first pid next later := by
  have spares : ∀ (stage : Bool) (site : Site) (test : Row → Bool) change rows later,
      (holdingProtocol (key first) : Protocol Row Site Call Reply Bool).lock stage site test
        change rows later →
        change ≠ .remove := by
    intro stage site test change rows later allowed isRemove
    rcases allowed.2.2 with isKeep | ⟨notRemove, _⟩
    · simp [isKeep] at isRemove
    · exact notRemove isRemove
  have lasting : ∀ row following, (sys.procs pid).code = .running (.insert row following) →
      key row ∉ (sys.procs pid).dropped := by
    intro row following _
    rw [holding.dropped]
    exact List.not_mem_nil
  have silent : ∀ request following,
      (sys.procs pid).code ≠ .running (.call request following) := by
    intro request following code
    have follows := holding.follows
    rw [code] at follows
    rcases follows (model.answer request env).1 with ⟨_, allowed, _⟩
    exact allowed
  rcases follows_exec holding.follows enabled with ⟨later, advanced, follows⟩
  refine ⟨later, follows, dropped_exec spares holding.follows holding.dropped enabled,
    holding.destined.exec lasting silent enabled, ?_, ?_⟩
  · intro isOpen
    cases advanced with
    | selected site test rest running begins _ allowed
    | closed site test change got following code _ allowed
    | refused row rest running _ allowed
    | inserted row rest running free unique new _ allowed => exact holding.unchanged allowed.1
    | opened | granted | skipped => exact holding.unchanged isOpen
    | committed rest code _ allowed | rolledBack rest _ allowed =>
      rw [isOpen] at allowed
      cases allowed.2
    | called request rest running _ allowed => exact allowed.elim
  intro isOpen
  cases advanced with
  | selected site test rest running begins _ allowed
  | closed site test change got following code _ allowed | refused row rest running _ allowed =>
    rw [Sys.set_procs_self]
    exact holding.held allowed.1
  | opened | skipped =>
    rw [Sys.set_procs_self]
    exact holding.held isOpen
  | granted site test change pending got following row code free found passes =>
    have locks := holding.follows
    rw [code] at locks
    rcases locks [] (by simp) with ⟨_, allowed, _⟩
    rw [Sys.set_procs_self]
    exact held_grant (holding.held isOpen) passes allowed.2.2
  | inserted row rest running free unique new _ allowed =>
    have held := holding.held allowed.1
    have seen : first ∈ (sys.view pid).rows :=
      Process.mem_view.mpr ⟨.inl held, by rw [holding.dropped]; exact List.not_mem_nil⟩
    have differ : key first ≠ key row := fun same => new (same ▸ List.mem_map_of_mem seen)
    rw [Sys.set_procs_self]
    exact Table.mem_put.mpr (.inr ⟨held, differ⟩)
  | committed rest code _ allowed | rolledBack rest _ allowed =>
    rw [isOpen] at allowed
    cases allowed.2
  | called request rest running _ allowed => exact allowed.elim

/-- The first step of a process that begins with an insertion: the row is refused because of
a stored one, or the process holds it. -/
theorem begin_exec {row : Row} {following : Bool → Prog Row Site Call Reply Result}
    (follows : OneTransaction (key row) (.insert row following))
    (begins : sys.procs pid = .fresh (.running (.insert row following)))
    (enabled : sys.exec model pid = some next) :
    (((∃ old ∈ sys.store.rows, model.clashes row old = true) ∨ key row ∈ sys.store.rows.map key) ∧
        next = sys.set pid (.fresh (.running (following false)))) ∨
      Holding model sys.store env
        (finish model (.insert row following) ⟨sys.store, sys.store, env⟩) row pid next false := by
  have view : sys.view pid = sys.store := by
    rw [Sys.view, begins, Process.view_fresh]
  have code : (sys.procs pid).code = .running (.insert row following) := by
    rw [begins]
    rfl
  have kept : key row ∉ (sys.procs pid).dropped := by
    rw [begins]
    exact List.not_mem_nil
  have starts : Destined model env
      (finish model (.insert row following) ⟨sys.store, sys.store, env⟩) pid sys := by
    constructor
    · rw [code]
      trivial
    · rw [code, view]
      rfl
  have destined := starts.insert_exec code kept enabled
  have after := Destined.exec_insert code enabled
  rw [view] at after
  split at after
  · rename_i refused
    left
    rw [Bool.or_eq_true, List.any_eq_true, decide_eq_true_eq] at refused
    refine ⟨refused, ?_⟩
    rw [after, begins]
    rfl
  right
  rcases follows true with ⟨later, allowed, rest⟩
  subst after
  rw [allowed.2] at rest
  refine ⟨?_, ?_, destined, fun _ => rfl, fun _ => ?_⟩
  · rw [Sys.set_procs_self]
    exact rest
  · rw [Sys.set_procs_self, begins]
    rfl
  · rw [Sys.set_procs_self]
    exact Table.mem_put.mpr (.inl rfl)

end Holding

end ReadCommitted

end StarterTemplate.Library
