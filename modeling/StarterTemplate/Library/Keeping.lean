import StarterTemplate.Library.ReadCommitted

/-!
# Properties of rows that programs keep

A program keeps a property of rows when, as long as every row that it reads has the
property, every row that it writes has it too.  Executed side by side, programs that keep a
property lead from rows that have it to rows that have it.  A program may keep the property
only until it comes to a certain place; what it is at that place is then known.
-/

namespace StarterTemplate.Library

variable {Row Key : Type} [Keyed Row Key] {Site Call : Type} {Reply : Call → Type}
variable {Result Other : Type} {holds : Row → Prop}

/-- The change turns rows that pass the test and have the property into rows that have it. -/
def Change.Keeps (holds : Row → Prop) (test : Row → Bool) (change : Change Row) : Prop :=
  ∀ patch, change = .patch patch → ∀ row, test row = true → holds row → holds (patch.apply row)

namespace Prog

/-- As long as the rows that the program reads have the property, those that it writes have
it, and the program ends with a result as `post` says. -/
def Keeps (holds : Row → Prop) (post : Result → Prop) : Prog Row Site Call Reply Result → Prop
  | done result => post result
  | select _ test next =>
    ∀ rows, (∀ row ∈ rows, test row = true ∧ holds row) → Keeps holds post (next rows)
  | lock _ test change next =>
    change.Keeps holds test ∧
      ∀ rows, (∀ row ∈ rows, test row = true ∧ holds row) → Keeps holds post (next rows)
  | insert row next => holds row ∧ ∀ inserted, Keeps holds post (next inserted)
  | commit next => Keeps holds post next
  | rollback next => Keeps holds post next
  | call _ next => ∀ reply, Keeps holds post (next reply)

variable {prog : Prog Row Site Call Reply Result}

/-- The rule of sequential composition. -/
theorem Keeps.bind {rest : Result → Prog Row Site Call Reply Other} {middle : Result → Prop}
    {post : Other → Prop} (first : prog.Keeps holds middle)
    (second : ∀ result, middle result → (rest result).Keeps holds post) :
    (prog.bind rest).Keeps holds post := by
  induction prog with
  | done result => exact second result first
  | select site test next ih => exact fun rows read => ih rows (first rows read)
  | lock site test change next ih => exact ⟨first.1, fun rows read => ih rows (first.2 rows read)⟩
  | insert row next ih => exact ⟨first.1, fun inserted => ih inserted (first.2 inserted)⟩
  | commit next ih | rollback next ih => exact ih first
  | call request next ih => exact fun reply => ih reply (first reply)

/-- The rule for a loop over a list. -/
theorem Keeps.forEach {Item : Type} {body : Item → Prog Row Site Call Reply Unit}
    {items : List Item}
    (step : ∀ item ∈ items, (body item).Keeps holds fun _ => True) :
    (forEach body items).Keeps holds fun _ => True := by
  induction items with
  | nil => trivial
  | cons item rest ih =>
    apply (step item (.head _)).bind
    intro _ _
    exact ih fun later member => step later (.tail _ member)

/-- As long as the rows that the program reads have the property, those that it writes have
it, until what is left of the program is as `stop` says; it does not end before. -/
def Until (holds : Row → Prop) (stop : Prog Row Site Call Reply Result → Prop) :
    Prog Row Site Call Reply Result → Prop
  | done result => stop (done result)
  | select site test next =>
    stop (select site test next) ∨
      ∀ rows, (∀ row ∈ rows, test row = true ∧ holds row) → Until holds stop (next rows)
  | lock site test change next =>
    stop (lock site test change next) ∨ change.Keeps holds test ∧
      ∀ rows, (∀ row ∈ rows, test row = true ∧ holds row) → Until holds stop (next rows)
  | insert row next =>
    stop (insert row next) ∨ holds row ∧ ∀ inserted, Until holds stop (next inserted)
  | commit next => stop (commit next) ∨ Until holds stop next
  | rollback next => stop (rollback next) ∨ Until holds stop next
  | call request next => stop (call request next) ∨ ∀ reply, Until holds stop (next reply)

/-- The program has come to the place. -/
theorem Until.of_stop {stop : Prog Row Site Call Reply Result → Prop} (stopped : stop prog) :
    prog.Until holds stop := by
  cases prog with
  | done => exact stopped
  | select | lock | insert | commit | rollback | call => exact .inl stopped

/-- A part that keeps the property, and then the way to the place. -/
theorem Keeps.until {rest : Result → Prog Row Site Call Reply Other} {middle : Result → Prop}
    {stop : Prog Row Site Call Reply Other → Prop} (first : prog.Keeps holds middle)
    (second : ∀ result, middle result → (rest result).Until holds stop) :
    (prog.bind rest).Until holds stop := by
  induction prog with
  | done result => exact second result first
  | select site test next ih => exact .inr fun rows read => ih rows (first rows read)
  | lock site test change next ih =>
    exact .inr ⟨first.1, fun rows read => ih rows (first.2 rows read)⟩
  | insert row next ih => exact .inr ⟨first.1, fun inserted => ih inserted (first.2 inserted)⟩
  | commit next ih | rollback next ih => exact .inr (ih first)
  | call request next ih => exact .inr fun reply => ih reply (first reply)

/-- The program has ended, with a result as `post` says. -/
def EndedWith (post : Result → Prop) (prog : Prog Row Site Call Reply Result) : Prop :=
  ∃ result, prog = done result ∧ post result

/-- To keep the property is to keep it until the end. -/
theorem until_endedWith {post : Result → Prop} :
    prog.Until holds (EndedWith post) ↔ prog.Keeps holds post := by
  induction prog with
  | done result => simp [Until, Keeps, EndedWith]
  | select | lock | insert | commit | rollback | call => simp_all [Until, Keeps, EndedWith]

variable [DecidableEq Key]

/-- The rule for the flush of one changed object. -/
theorem Keeps.flush (site : Site) {target : Key} {patch : Patch Row}
    (keeps : ∀ row, key row = target → holds row → holds (patch.apply row)) :
    (flush site target patch : Prog Row Site Call Reply Unit).Keeps holds fun _ => True := by
  refine ⟨?_, fun _ _ => trivial⟩
  intro used isUsed row isTarget has
  cases isUsed
  exact keeps row (of_decide_eq_true isTarget) has

end Prog

/-! ## Execution side by side -/

namespace ReadCommitted

variable {Env Drift Pid : Type} {model : Model Row Call Reply Env Drift}
variable {post : Result → Prop}

/-- The rest of a process keeps the property. -/
def Code.Keeps (holds : Row → Prop) (post : Result → Prop) :
    Code Row Site Call Reply Result → Prop
  | .running prog => prog.Keeps holds post
  | .locking _ test change _ got next =>
    change.Keeps holds test ∧ (∀ row ∈ got, test row = true ∧ holds row) ∧
      ∀ rows, (∀ row ∈ rows, test row = true ∧ holds row) → (next rows).Keeps holds post
  | .aborted => True

/-- The rest of a process keeps the property until it comes to a place. -/
def Code.Until (holds : Row → Prop) (stop : Prog Row Site Call Reply Result → Prop) :
    Code Row Site Call Reply Result → Prop
  | .running prog => prog.Until holds stop
  | .locking _ test change _ got next =>
    change.Keeps holds test ∧ (∀ row ∈ got, test row = true ∧ holds row) ∧
      ∀ rows, (∀ row ∈ rows, test row = true ∧ holds row) → (next rows).Until holds stop
  | .aborted => True

variable {code : Code Row Site Call Reply Result}

theorem Code.until_endedWith : code.Until holds (Prog.EndedWith post) ↔ code.Keeps holds post := by
  cases code with
  | running prog => exact Prog.until_endedWith
  | locking => simp only [Code.Until, Code.Keeps, Prog.until_endedWith]
  | aborted => rfl

/-- A process that keeps the property, with an open transaction that has kept it. -/
structure Process.Keeps (holds : Row → Prop) (post : Result → Prop)
    (process : Process Row Site Call Reply Result) : Prop where
  code : process.code.Keeps holds post
  own : ∀ row ∈ process.own.rows, holds row

/-- A process that keeps the property until it comes to a place, with an open transaction
that has kept it. -/
structure Process.Until (holds : Row → Prop) (stop : Prog Row Site Call Reply Result → Prop)
    (process : Process Row Site Call Reply Result) : Prop where
  code : process.code.Until holds stop
  own : ∀ row ∈ process.own.rows, holds row

theorem Process.keeps_fresh [DecidableEq Key] (keeps : code.Keeps holds post) :
    (Process.fresh code).Keeps holds post :=
  ⟨keeps, fun _ absent => by cases absent⟩

namespace Process.Until

variable {stop : Prog Row Site Call Reply Result → Prop}

theorem fresh (keeps : code.Until holds stop) : (Process.fresh code).Until holds stop :=
  ⟨keeps, fun _ absent => by cases absent⟩

variable [DecidableEq Key]

variable {process : Process Row Site Call Reply Result}

/-- What a process sees has the property. -/
theorem view {store : Table Row} (keeps : process.Until holds stop)
    (stored : ∀ row ∈ store.rows, holds row) : ∀ row ∈ (process.view store).rows, holds row := by
  intro row seen
  rcases (Process.mem_view.mp seen).1 with own | ⟨old, _⟩
  · exact keeps.own row own
  · exact stored row old

/-- A version that has the property joins those that the process wrote. -/
theorem put {row : Row} (keeps : process.Until holds stop) (has : holds row) :
    ∀ other ∈ (process.own.put row).rows, holds other := by
  intro other member
  rcases Table.mem_put.mp member with isRow | old
  · rw [isRow]
    exact has
  · exact keeps.own other old.1

theorem grant {row : Row} {change : Change Row} {test : Row → Bool}
    (keeps : process.Until holds stop) (changes : change.Keeps holds test)
    (passes : test row = true) (has : holds row) (rest : code.Until holds stop) :
    (process.grant change row code).Until holds stop := by
  cases change with
  | keep | remove => exact ⟨rest, keeps.own⟩
  | patch patch => exact ⟨rest, keeps.put (changes patch rfl row passes has)⟩

variable [Fintype Pid] [DecidableEq Pid] {sys next : Sys Pid Row Site Call Reply Result Env}
variable {pid : Pid}

/-- A step of a process that has not come to the place. -/
theorem exec (keeps : (sys.procs pid).Until holds stop)
    (going : ∀ prog, (sys.procs pid).code = .running prog → ¬ stop prog)
    (stored : ∀ row ∈ sys.store.rows, holds row) (enabled : sys.exec model pid = some next) :
    (next.procs pid).Until holds stop ∧ ∀ row ∈ next.store.rows, holds row := by
  have seen := keeps.view stored
  have code := keeps.code
  cases Sys.stepped enabled with
  | selected site test following isCode =>
    rw [isCode] at code
    have read : ∀ row ∈ (sys.view pid).rows.filter test, test row = true ∧ holds row := by
      intro row member
      rw [List.mem_filter] at member
      exact ⟨member.2, seen row member.1⟩
    rw [Sys.set_procs_self]
    exact ⟨⟨code.resolve_left (going _ isCode) _ read, keeps.own⟩, stored⟩
  | opened site test change following isCode =>
    rw [isCode] at code
    rcases code.resolve_left (going _ isCode) with ⟨changes, rest⟩
    rw [Sys.set_procs_self]
    exact ⟨⟨⟨changes, fun _ absent => (List.not_mem_nil absent).elim, rest⟩, keeps.own⟩, stored⟩
  | refused row following isCode =>
    rw [isCode] at code
    rw [Sys.set_procs_self]
    exact ⟨⟨(code.resolve_left (going _ isCode)).2 false, keeps.own⟩, stored⟩
  | inserted row following isCode =>
    rw [isCode] at code
    rcases code.resolve_left (going _ isCode) with ⟨has, rest⟩
    rw [Sys.set_procs_self]
    exact ⟨⟨rest true, keeps.put has⟩, stored⟩
  | committed following isCode =>
    rw [isCode] at code
    have rest : (Process.fresh (.running following)).Until holds stop :=
      fresh (code.resolve_left (going _ isCode))
    refine ⟨?_, seen⟩
    rw [← Sys.set_procs_self sys pid (Process.fresh (.running following))] at rest
    exact rest
  | rolledBack following isCode =>
    rw [isCode] at code
    rw [Sys.set_procs_self]
    exact ⟨fresh (code.resolve_left (going _ isCode)), stored⟩
  | called request following isCode =>
    rw [isCode] at code
    have rest : ({ sys.procs pid with
        code := .running (following (model.answer request sys.env).1) } :
          Process Row Site Call Reply Result).Until holds stop :=
      ⟨code.resolve_left (going _ isCode) _, keeps.own⟩
    refine ⟨?_, stored⟩
    rw [← Sys.set_procs_self sys pid { sys.procs pid with
      code := .running (following (model.answer request sys.env).1) }] at rest
    exact rest
  | closed site test change got following isCode =>
    rw [isCode] at code
    rw [Sys.set_procs_self]
    exact ⟨⟨code.2.2 got code.2.1, keeps.own⟩, stored⟩
  | granted site test change pending got following row isCode free found passes =>
    rw [isCode] at code
    rw [Sys.set_procs_self]
    refine ⟨?_, stored⟩
    apply keeps.grant code.1 passes (seen row found)
    refine ⟨code.1, ?_, code.2.2⟩
    intro other member
    rcases List.mem_append.mp member with old | new
    · exact code.2.1 other old
    · rw [List.mem_singleton.mp new]
      exact ⟨passes, seen row found⟩
  | skipped site test change target pending got following isCode gone =>
    rw [isCode] at code
    rw [Sys.set_procs_self]
    exact ⟨⟨code, keeps.own⟩, stored⟩

end Process.Until

variable [DecidableEq Key] [Fintype Pid] [DecidableEq Pid]
variable {sys next : Sys Pid Row Site Call Reply Result Env} {pid : Pid}

/-- A step of a process that keeps the property. -/
theorem Process.Keeps.exec (keeps : (sys.procs pid).Keeps holds post)
    (stored : ∀ row ∈ sys.store.rows, holds row) (enabled : sys.exec model pid = some next) :
    (next.procs pid).Keeps holds post ∧ ∀ row ∈ next.store.rows, holds row := by
  have until_ : (sys.procs pid).Until holds (Prog.EndedWith post) :=
    ⟨Code.until_endedWith.mpr keeps.code, keeps.own⟩
  have going : ∀ prog, (sys.procs pid).code = .running prog → ¬ Prog.EndedWith post prog := by
    rintro prog isCode ⟨result, isDone, _⟩
    simp [Sys.exec, isCode, isDone] at enabled
  have after := until_.exec going stored enabled
  exact ⟨⟨Code.until_endedWith.mp after.1.code, after.1.own⟩, after.2⟩

end ReadCommitted

end StarterTemplate.Library
