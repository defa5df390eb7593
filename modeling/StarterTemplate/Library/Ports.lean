import StarterTemplate.Library.Program

/-!
# Programs that call ports

A use case reaches the outside through calls of its ports, and an adapter answers each
call with a program of its own.  `through` puts the adapters in the place of the calls;
`callsMade` lists the calls that a use case makes when it is executed alone.
-/

namespace StarterTemplate.Library.Prog

variable {Row Key : Type} [Keyed Row Key] {Site Call Inner : Type}
variable {Reply : Call → Type} {InnerReply : Inner → Type} {Result Other : Type}

/-- A program that makes one call and returns the reply. -/
def port (request : Call) : Prog Row Site Call Reply (Reply request) := .call request .done

theorem bind_done (prog : Prog Row Site Call Reply Result) : prog.bind done = prog := by
  induction prog with
  | done result => rfl
  | _ =>
    rename_i ih
    simp only [bind, ih]

section Through

variable (adapter : (request : Call) → Prog Row Site Inner InnerReply (Reply request))

/-- The program with the program of the adapter in the place of each call. -/
def through : Prog Row Site Call Reply Result → Prog Row Site Inner InnerReply Result
  | done result => done result
  | select site test next => select site test fun rows => (next rows).through
  | lock site test change next => lock site test change fun rows => (next rows).through
  | insert row next => insert row fun inserted => (next inserted).through
  | commit next => commit next.through
  | rollback next => rollback next.through
  | call request next => (adapter request).bind fun reply => (next reply).through

@[simp] theorem through_done (result : Result) :
    (done result : Prog Row Site Call Reply Result).through adapter = done result := rfl

@[simp] theorem through_port (request : Call) :
    (port request).through adapter = adapter request :=
  bind_done (adapter request)

@[simp] theorem through_bind (prog : Prog Row Site Call Reply Result)
    (rest : Result → Prog Row Site Call Reply Other) :
    (prog.bind rest).through adapter =
      (prog.through adapter).bind fun result => (rest result).through adapter := by
  induction prog with
  | done result => rfl
  | _ =>
    rename_i ih
    simp only [bind, through, bind_assoc, ih]

variable {Env Drift : Type} [DecidableEq Key] (model : Model Row Inner InnerReply Env Drift)

/-- The calls that the program makes when it is executed alone. -/
def callsMade : Prog Row Site Call Reply Result → State Row Env → List Call
  | done _, _ => []
  | select _ test next, state => (next (state.view.rows.filter test)).callsMade state
  | lock _ test change next, state =>
    (next (state.view.rows.filter test)).callsMade
      { state with view := changeRows state.view test change }
  | insert row next, state =>
    if state.view.rows.any (model.clashes row) || key row ∈ state.view.rows.map key then
      (next false).callsMade state
    else (next true).callsMade { state with view := state.view.put row }
  | commit next, state => next.callsMade { state with store := state.view }
  | rollback next, state => next.callsMade { state with view := state.store }
  | call request next, state =>
    let answered := (adapter request).alone model state
    request :: (next answered.1).callsMade answered.2

@[simp] theorem callsMade_done (result : Result) (state : State Row Env) :
    (done result : Prog Row Site Call Reply Result).callsMade adapter model state = [] := rfl

@[simp] theorem callsMade_port (request : Call) (state : State Row Env) :
    (port request : Prog Row Site Call Reply (Reply request)).callsMade adapter model state =
      [request] := rfl

/-- A composed program makes the calls of its parts. -/
@[simp] theorem callsMade_bind (prog : Prog Row Site Call Reply Result)
    (rest : Result → Prog Row Site Call Reply Other) (state : State Row Env) :
    (prog.bind rest).callsMade adapter model state =
      prog.callsMade adapter model state ++
        (rest ((prog.through adapter).alone model state).1).callsMade adapter model
          ((prog.through adapter).alone model state).2 := by
  induction prog generalizing state with
  | done result => rfl
  | select site test next ih | lock site test change next ih => exact ih _ _
  | insert row next ih =>
    simp only [bind, callsMade, through, alone]
    split <;> exact ih _ _
  | commit next ih | rollback next ih => exact ih _
  | call request next ih =>
    simp only [bind, callsMade, through, alone_bind, List.cons_append]
    rw [ih]

end Through

end StarterTemplate.Library.Prog
