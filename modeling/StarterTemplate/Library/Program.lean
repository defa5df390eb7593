import StarterTemplate.Library.Table

/-!
# Database programs

A program is a tree of SQL statements and calls of a shared component, branching on
what each of them returns.  It is executed alone by `Prog.alone`; the interleaved
execution of several programs is a module of its own.  A statement carries a site, a
name under which a specification can refer to it.
-/

namespace StarterTemplate.Library

/-- What a locking statement does to the rows it locks. -/
inductive Change (Row : Type) {Key : Type} [Keyed Row Key] where
  /-- `SELECT … FOR UPDATE`. -/
  | keep
  /-- `UPDATE`. -/
  | patch (patch : Patch Row)
  /-- `DELETE`. -/
  | remove

/-- A program over rows of one type, with named statements and calls of a component. -/
inductive Prog (Row : Type) {Key : Type} [Keyed Row Key] (Site Call : Type)
    (Reply : Call → Type) (Result : Type) where
  | done (result : Result)
  /-- A plain `SELECT`. -/
  | select (site : Site) (test : Row → Bool)
      (next : List Row → Prog Row Site Call Reply Result)
  /-- A statement that locks the rows it finds, and returns them as they were. -/
  | lock (site : Site) (test : Row → Bool) (change : Change Row)
      (next : List Row → Prog Row Site Call Reply Result)
  /-- `INSERT`; the answer is `false` when a unique constraint is violated. -/
  | insert (row : Row) (next : Bool → Prog Row Site Call Reply Result)
  | commit (next : Prog Row Site Call Reply Result)
  | rollback (next : Prog Row Site Call Reply Result)
  /-- A call of the shared component. -/
  | call (call : Call) (next : Reply call → Prog Row Site Call Reply Result)

/-- The rules of the database and of the component that the programs share. -/
structure Model (Row Call : Type) (Reply : Call → Type) (Env Drift : Type) where
  /-- The two rows violate a unique constraint together. -/
  clashes : Row → Row → Bool
  /-- The component's answer to a call. -/
  answer : (call : Call) → Env → Reply call × Env
  /-- A change of the component that no program makes. -/
  drift : Drift → Env → Env

namespace Prog

variable {Row Key : Type} [Keyed Row Key] {Site Call : Type} {Reply : Call → Type}
variable {Result Other : Type}

/-- Sequential composition. -/
def bind (prog : Prog Row Site Call Reply Result)
    (rest : Result → Prog Row Site Call Reply Other) : Prog Row Site Call Reply Other :=
  match prog with
  | done result => rest result
  | select site test next => select site test fun rows => (next rows).bind rest
  | lock site test change next => lock site test change fun rows => (next rows).bind rest
  | insert row next => insert row fun inserted => (next inserted).bind rest
  | commit next => commit (next.bind rest)
  | rollback next => rollback (next.bind rest)
  | call request next => call request fun reply => (next reply).bind rest

instance : Monad (Prog Row Site Call Reply) where
  pure := done
  bind := bind

@[simp] theorem pure_eq_done (result : Result) :
    (pure result : Prog Row Site Call Reply Result) = done result := rfl

@[simp] theorem bind_eq (prog : Prog Row Site Call Reply Result)
    (rest : Result → Prog Row Site Call Reply Other) : prog >>= rest = prog.bind rest := rfl

theorem bind_assoc {Final : Type} (prog : Prog Row Site Call Reply Result)
    (rest : Result → Prog Row Site Call Reply Other)
    (last : Other → Prog Row Site Call Reply Final) :
    (prog.bind rest).bind last = prog.bind fun result => (rest result).bind last := by
  induction prog with
  | done result => rfl
  | _ =>
    rename_i ih
    simp only [bind, ih]

/-- Run a program for each element of a list. -/
def forEach {Item : Type} (body : Item → Prog Row Site Call Reply Unit) :
    List Item → Prog Row Site Call Reply Unit
  | [] => done ()
  | item :: items => (body item).bind fun _ => forEach body items

/-- `UPDATE … WHERE key = …`, the flush of one changed object. -/
def flush [DecidableEq Key] (site : Site) (target : Key) (patch : Patch Row) :
    Prog Row Site Call Reply Unit :=
  lock site (fun row => key row = target) (.patch patch) fun _ => done ()

/-! ## Execution alone -/

section Alone

variable {Env Drift : Type} [DecidableEq Key]

/-- The rows that a locking statement leaves. -/
def changeRows (view : Table Row) (test : Row → Bool) : Change Row → Table Row
  | .keep => view
  | .patch patch => view.updateWhere test patch
  | .remove => view.without ((view.rows.filter test).map key)

/-- The state of an execution alone: what is committed, what the transaction sees, and
the component. -/
structure State (Row : Type) {Key : Type} [Keyed Row Key] (Env : Type) where
  store : Table Row
  view : Table Row
  env : Env

/-- Execute a program with nothing else running. -/
def alone (model : Model Row Call Reply Env Drift) :
    Prog Row Site Call Reply Result → State Row Env → Result × State Row Env
  | done result, state => (result, state)
  | select _ test next, state => (next (state.view.rows.filter test)).alone model state
  | lock _ test change next, state =>
    (next (state.view.rows.filter test)).alone model
      { state with view := changeRows state.view test change }
  | insert row next, state =>
    if state.view.rows.any (model.clashes row) || key row ∈ state.view.rows.map key then
      (next false).alone model state
    else (next true).alone model { state with view := state.view.put row }
  | commit next, state => next.alone model { state with store := state.view }
  | rollback next, state => next.alone model { state with view := state.store }
  | call request next, state =>
    (next (model.answer request state.env).1).alone model
      { state with env := (model.answer request state.env).2 }

/-- A composed program executes its parts one after the other. -/
theorem alone_bind (model : Model Row Call Reply Env Drift)
    (prog : Prog Row Site Call Reply Result) (rest : Result → Prog Row Site Call Reply Other)
    (state : State Row Env) :
    (prog.bind rest).alone model state =
      (rest (prog.alone model state).1).alone model (prog.alone model state).2 := by
  induction prog generalizing state with
  | done result => rfl
  | select site test next ih | lock site test change next ih | call request next ih => exact ih _ _
  | insert row next ih =>
    simp only [bind, alone]
    split <;> exact ih _ _
  | commit next ih | rollback next ih => exact ih _

/-- Execute a program alone from a committed state.  A transaction left open at the end
is rolled back. -/
def execute (model : Model Row Call Reply Env Drift) (prog : Prog Row Site Call Reply Result)
    (store : Table Row) (env : Env) : Result × Table Row × Env :=
  let (result, final) := prog.alone model ⟨store, store, env⟩
  (result, final.store, final.env)

/-! ## Pre- and postconditions -/

/-- Executed alone from a state that meets `pre`, the program ends with a result and in a
state that meet `post`. -/
structure Triple (model : Model Row Call Reply Env Drift) (pre : State Row Env → Prop)
    (prog : Prog Row Site Call Reply Result) (post : Result → State Row Env → Prop) : Prop where
  ends : ∀ state, pre state → post (prog.alone model state).1 (prog.alone model state).2

namespace Triple

variable {model : Model Row Call Reply Env Drift} {pre : State Row Env → Prop}
variable {prog : Prog Row Site Call Reply Result} {post : Result → State Row Env → Prop}

/-- The rule of sequential composition. -/
theorem bind {rest : Result → Prog Row Site Call Reply Other}
    {middle : Result → State Row Env → Prop} {final : Other → State Row Env → Prop}
    (first : Triple model pre prog middle)
    (second : ∀ result, Triple model (middle result) (rest result) final) :
    Triple model pre (prog.bind rest) final := by
  constructor
  intro state holds
  rw [alone_bind]
  exact (second _).ends _ (first.ends state holds)

/-- The rule of consequence. -/
theorem imp {weaker : Result → State Row Env → Prop} (triple : Triple model pre prog post)
    (weakens : ∀ result state, post result state → weaker result state) :
    Triple model pre prog weaker :=
  ⟨fun state holds => weakens _ _ (triple.ends state holds)⟩

/-- A precondition with a part that is not about the state. -/
theorem assuming {fact : Prop} (triple : fact → Triple model pre prog post) :
    Triple model (fun state => fact ∧ pre state) prog post :=
  ⟨fun state holds => (triple holds.1).ends state holds.2⟩

/-- Composition when the first program also ends with a fact about its result. -/
theorem bind_knowing {fact : Result → Prop} {rest : Result → Prog Row Site Call Reply Other}
    {middle : Result → State Row Env → Prop} {final : Other → State Row Env → Prop}
    (first : Triple model pre prog fun result state => fact result ∧ middle result state)
    (second : ∀ result, fact result → Triple model (middle result) (rest result) final) :
    Triple model pre (prog.bind rest) final :=
  first.bind fun result => assuming (second result)

/-- Composition when the first program has one result only. -/
theorem bind_returning {value : Result} {rest : Result → Prog Row Site Call Reply Other}
    {middle : State Row Env → Prop} {final : Other → State Row Env → Prop}
    (first : Triple model pre prog fun result state => result = value ∧ middle state)
    (second : Triple model middle (rest value) final) :
    Triple model pre (prog.bind rest) final := by
  apply first.bind_knowing
  intro result isValue
  rw [isValue]
  exact second

theorem exists_ {Index : Type} {family : Index → State Row Env → Prop}
    (triple : ∀ index, Triple model (family index) prog post) :
    Triple model (fun state => ∃ index, family index state) prog post :=
  ⟨fun state ⟨index, holds⟩ => (triple index).ends state holds⟩

end Triple

end Alone

end Prog

end StarterTemplate.Library
