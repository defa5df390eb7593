import StarterTemplate.Library.ReadCommitted

/-!
# Protocols of programs

A protocol is an automaton that watches the statements of one process together with
what they return.  A program follows it when every path through its tree is allowed.
The rules for composed programs are proved once; a property of interleaved programs
is then proved from the stages of their protocol, without looking at the programs.
-/

namespace StarterTemplate.Library

open ReadCommitted

/-- The stages a process may pass through.  Each relation reads: from this stage, the
statement with this result leads to that stage. -/
structure Protocol (Row : Type) {Key : Type} [Keyed Row Key] (Site Call : Type)
    (Reply : Call → Type) (Stage : Type) where
  select : Stage → Site → (Row → Bool) → List Row → Stage → Prop
  lock : Stage → Site → (Row → Bool) → Change Row → List Row → Stage → Prop
  insert : Stage → Row → Bool → Stage → Prop
  commit : Stage → Stage → Prop
  rollback : Stage → Stage → Prop
  call : Stage → (call : Call) → Reply call → Stage → Prop

variable {Row Key : Type} [Keyed Row Key] {Site Call : Type} {Reply : Call → Type}
variable {Result Other Stage : Type} {protocol : Protocol Row Site Call Reply Stage}

namespace Prog

/-- Every path through the program is allowed by the protocol, and the program ends in
a stage and with a result as `post` says. -/
def Follows (protocol : Protocol Row Site Call Reply Stage) (post : Stage → Result → Prop) :
    Prog Row Site Call Reply Result → Stage → Prop
  | done result, stage => post stage result
  | select site test next, stage =>
    ∀ rows, (∀ row ∈ rows, test row = true) →
      ∃ later, protocol.select stage site test rows later ∧
        Follows protocol post (next rows) later
  | lock site test change next, stage =>
    ∀ rows, (∀ row ∈ rows, test row = true) →
      ∃ later, protocol.lock stage site test change rows later ∧
        Follows protocol post (next rows) later
  | insert row next, stage =>
    ∀ inserted, ∃ later, protocol.insert stage row inserted later ∧
      Follows protocol post (next inserted) later
  | commit next, stage =>
    ∃ later, protocol.commit stage later ∧ Follows protocol post next later
  | rollback next, stage =>
    ∃ later, protocol.rollback stage later ∧ Follows protocol post next later
  | call request next, stage =>
    ∀ reply, ∃ later, protocol.call stage request reply later ∧
      Follows protocol post (next reply) later

/-- The rule of sequential composition. -/
theorem Follows.bind {prog : Prog Row Site Call Reply Result}
    {rest : Result → Prog Row Site Call Reply Other} {middle : Stage → Result → Prop}
    {post : Stage → Other → Prop} {stage : Stage}
    (first : Follows protocol middle prog stage)
    (second : ∀ later result, middle later result → Follows protocol post (rest result) later) :
    Follows protocol post (prog.bind rest) stage := by
  induction prog generalizing stage with
  | done result => exact second stage result first
  | select site test next ih | lock site test change next ih =>
    intro rows passes
    rcases first rows passes with ⟨later, allowed, follows⟩
    exact ⟨later, allowed, ih rows follows⟩
  | insert row next ih =>
    intro inserted
    rcases first inserted with ⟨later, allowed, follows⟩
    exact ⟨later, allowed, ih inserted follows⟩
  | commit next ih | rollback next ih =>
    rcases first with ⟨later, allowed, follows⟩
    exact ⟨later, allowed, ih follows⟩
  | call request next ih =>
    intro reply
    rcases first reply with ⟨later, allowed, follows⟩
    exact ⟨later, allowed, ih reply follows⟩

/-- The rule for a loop over a list, with an invariant over the items still to come. -/
theorem Follows.forEach {Item : Type} {body : Item → Prog Row Site Call Reply Unit}
    {invariant : List Item → Stage → Prop} {items : List Item} {stage : Stage}
    (holds : invariant items stage)
    (step : ∀ item rest stage, invariant (item :: rest) stage →
      Follows protocol (fun later _ => invariant rest later) (body item) stage) :
    Follows protocol (fun later _ => invariant [] later) (forEach body items) stage := by
  induction items generalizing stage with
  | nil => exact holds
  | cons item rest ih => exact (step item rest stage holds).bind fun _ _ kept => ih kept

end Prog

namespace ReadCommitted

/-- The rest of a process follows the protocol from a stage.  Inside a locking
statement the stage is the one before the statement. -/
def Code.Follows (protocol : Protocol Row Site Call Reply Stage)
    (post : Stage → Result → Prop) : Code Row Site Call Reply Result → Stage → Prop
  | .running prog, stage => prog.Follows protocol post stage
  | .locking site test change _ got next, stage =>
    ∀ more, (∀ row ∈ more, test row = true) →
      ∃ later, protocol.lock stage site test change (got ++ more) later ∧
        (next (got ++ more)).Follows protocol post later
  | .aborted, _ => True

/-- From the stage no statement is allowed. -/
structure Closed (protocol : Protocol Row Site Call Reply Stage) (stage : Stage) : Prop where
  select : ∀ site test rows later, ¬ protocol.select stage site test rows later
  lock : ∀ site test change rows later, ¬ protocol.lock stage site test change rows later
  insert : ∀ row inserted later, ¬ protocol.insert stage row inserted later
  commit : ∀ later, ¬ protocol.commit stage later
  rollback : ∀ later, ¬ protocol.rollback stage later
  call : ∀ request reply later, ¬ protocol.call stage request reply later

/-- A process that may not go on has ended. -/
theorem Code.Follows.ended {code : Code Row Site Call Reply Result} {post : Stage → Result → Prop}
    {stage : Stage} (follows : code.Follows protocol post stage) (closed : Closed protocol stage)
    (replies : ∀ request, Nonempty (Reply request)) :
    code = .aborted ∨ ∃ result, code = .running (.done result) := by
  cases code with
  | aborted => exact .inl rfl
  | locking site test change pending got following =>
    rcases follows [] (by simp) with ⟨_, allowed, _⟩
    exact absurd allowed (closed.lock _ _ _ _ _)
  | running prog =>
    cases prog with
    | done result => exact .inr ⟨result, rfl⟩
    | select site test following =>
      rcases follows [] (by simp) with ⟨_, allowed, _⟩
      exact absurd allowed (closed.select _ _ _ _)
    | lock site test change following =>
      rcases follows [] (by simp) with ⟨_, allowed, _⟩
      exact absurd allowed (closed.lock _ _ _ _ _)
    | insert row following =>
      rcases follows true with ⟨_, allowed, _⟩
      exact absurd allowed (closed.insert _ _ _)
    | commit following =>
      rcases follows with ⟨_, allowed, _⟩
      exact absurd allowed (closed.commit _)
    | rollback following =>
      rcases follows with ⟨_, allowed, _⟩
      exact absurd allowed (closed.rollback _)
    | call request following =>
      rcases replies request with ⟨reply⟩
      rcases follows reply with ⟨_, allowed, _⟩
      exact absurd allowed (closed.call _ _ _)

/-- The process is between two statements. -/
def Code.Running (code : Code Row Site Call Reply Result) : Prop :=
  ∃ prog, code = .running prog

/-- The site of the statement that comes next. -/
def Code.begins : Code Row Site Call Reply Result → Option Site
  | .running (.select site _ _) | .running (.lock site _ _ _) => some site
  | _ => none

variable [DecidableEq Key] {Env Drift Pid : Type} [Fintype Pid] [DecidableEq Pid]
variable {model : Model Row Call Reply Env Drift}
variable {sys next : Sys Pid Row Site Call Reply Result Env} {pid : Pid}
variable {post : Stage → Result → Prop}

/-- What a step of a process that follows a protocol does, with its stage afterwards. -/
inductive Advanced (protocol : Protocol Row Site Call Reply Stage)
    (model : Model Row Call Reply Env Drift) (sys : Sys Pid Row Site Call Reply Result Env)
    (pid : Pid) (stage : Stage) : Sys Pid Row Site Call Reply Result Env → Stage → Prop where
  | selected (site : Site) (test : Row → Bool) (rest : Prog Row Site Call Reply Result)
      (running : (sys.procs pid).code.Running)
      (begins : (sys.procs pid).code.begins = some site) (later : Stage)
      (allowed : protocol.select stage site test ((sys.view pid).rows.filter test) later) :
      Advanced protocol model sys pid stage (sys.set pid
        { sys.procs pid with
          code := .running rest
          visited := site :: (sys.procs pid).visited }) later
  | opened (site : Site) (test : Row → Bool) (change : Change Row)
      (following : List Row → Prog Row Site Call Reply Result)
      (code : (sys.procs pid).code = .running (.lock site test change following)) :
      Advanced protocol model sys pid stage (sys.set pid
        { sys.procs pid with
          code := .locking site test change (((sys.view pid).rows.filter test).map key) []
            following
          visited := site :: (sys.procs pid).visited }) stage
  | granted (site : Site) (test : Row → Bool) (change : Change Row) (pending : List Key)
      (got : List Row) (following : List Row → Prog Row Site Call Reply Result) (row : Row)
      (code : (sys.procs pid).code = .locking site test change (key row :: pending) got following)
      (free : ¬ sys.LockedElsewhere pid (key row)) (found : row ∈ (sys.view pid).rows)
      (passes : test row = true) :
      Advanced protocol model sys pid stage (sys.set pid ((sys.procs pid).grant change row
        (.locking site test change pending (got ++ [row]) following))) stage
  | skipped (site : Site) (test : Row → Bool) (change : Change Row) (target : Key)
      (pending : List Key) (got : List Row)
      (following : List Row → Prog Row Site Call Reply Result)
      (code : (sys.procs pid).code = .locking site test change (target :: pending) got following)
      (gone : ∀ row ∈ (sys.view pid).rows, key row = target → test row = false) :
      Advanced protocol model sys pid stage (sys.set pid
        { sys.procs pid with code := .locking site test change pending got following }) stage
  | closed (site : Site) (test : Row → Bool) (change : Change Row) (got : List Row)
      (following : List Row → Prog Row Site Call Reply Result)
      (code : (sys.procs pid).code = .locking site test change [] got following)
      (later : Stage) (allowed : protocol.lock stage site test change got later) :
      Advanced protocol model sys pid stage
        (sys.set pid { sys.procs pid with code := .running (following got) }) later
  | refused (row : Row) (rest : Prog Row Site Call Reply Result)
      (running : (sys.procs pid).code.Running) (later : Stage)
      (allowed : protocol.insert stage row false later) :
      Advanced protocol model sys pid stage
        (sys.set pid { sys.procs pid with code := .running rest }) later
  | inserted (row : Row) (rest : Prog Row Site Call Reply Result)
      (running : (sys.procs pid).code.Running) (free : ¬ sys.Blocked model pid row)
      (unique : ∀ other ∈ (sys.view pid).rows, model.clashes row other = false)
      (new : key row ∉ (sys.view pid).rows.map key) (later : Stage)
      (allowed : protocol.insert stage row true later) :
      Advanced protocol model sys pid stage (sys.set pid
        ((sys.procs pid).add row (.running rest))) later
  | committed (rest : Prog Row Site Call Reply Result)
      (code : (sys.procs pid).code = .running (.commit rest)) (later : Stage)
      (allowed : protocol.commit stage later) :
      Advanced protocol model sys pid stage
        { sys.set pid (.fresh (.running rest)) with
          store := sys.view pid
          journal := (sys.procs pid).visited.map (fun site => (pid, site)) ++ sys.journal } later
  | rolledBack (rest : Prog Row Site Call Reply Result) (later : Stage)
      (allowed : protocol.rollback stage later) :
      Advanced protocol model sys pid stage (sys.set pid (.fresh (.running rest))) later
  | called (request : Call) (rest : Prog Row Site Call Reply Result)
      (running : (sys.procs pid).code.Running) (later : Stage)
      (allowed : protocol.call stage request (model.answer request sys.env).1 later) :
      Advanced protocol model sys pid stage
        { sys.set pid { sys.procs pid with code := .running rest } with
          env := (model.answer request sys.env).2 } later

/-- A process that follows a protocol keeps following it. -/
theorem follows_exec {stage : Stage}
    (follows : (sys.procs pid).code.Follows protocol post stage)
    (enabled : sys.exec model pid = some next) :
    ∃ later, Advanced protocol model sys pid stage next later ∧
      (next.procs pid).code.Follows protocol post later := by
  cases Sys.stepped enabled with
  | selected site test following code =>
    have begins : (sys.procs pid).code.begins = some site := by
      rw [code]
      rfl
    rw [code] at follows
    rcases follows _ (fun _ member => (List.mem_filter.mp member).2)
      with ⟨later, allowed, rest⟩
    exact ⟨later, .selected site test _ ⟨_, code⟩ begins later allowed,
      by simpa [Code.Follows, Process.add, Process.fresh] using rest⟩
  | opened site test change following code =>
    refine ⟨stage, .opened site test change following code, ?_⟩
    rw [code] at follows
    rw [Sys.set_procs_self]
    exact follows
  | refused row following code =>
    rw [code] at follows
    rcases follows false with ⟨later, allowed, rest⟩
    exact ⟨later, .refused row _ ⟨_, code⟩ later allowed,
      by simpa [Code.Follows, Process.add, Process.fresh] using rest⟩
  | inserted row following code free unique new =>
    rw [code] at follows
    rcases follows true with ⟨later, allowed, rest⟩
    exact ⟨later, .inserted row _ ⟨_, code⟩ free unique new later allowed,
      by simpa [Code.Follows, Process.add, Process.fresh] using rest⟩
  | committed following code =>
    have kept := follows
    rw [code] at kept
    rcases kept with ⟨later, allowed, rest⟩
    exact ⟨later, .committed _ code later allowed,
      by simpa [Code.Follows, Process.add, Process.fresh] using rest⟩
  | rolledBack following code =>
    rw [code] at follows
    rcases follows with ⟨later, allowed, rest⟩
    exact ⟨later, .rolledBack _ later allowed,
      by simpa [Code.Follows, Process.add, Process.fresh] using rest⟩
  | called request following code =>
    rw [code] at follows
    rcases follows (model.answer request sys.env).1 with ⟨later, allowed, rest⟩
    exact ⟨later, .called request _ ⟨_, code⟩ later allowed,
      by simpa [Code.Follows, Process.add, Process.fresh] using rest⟩
  | closed site test change got following code =>
    have kept := follows
    rw [code] at kept
    rcases kept [] (by simp) with ⟨later, allowed, rest⟩
    rw [List.append_nil] at allowed rest
    exact ⟨later, .closed site test change got following code later allowed,
      by simpa [Code.Follows, Process.add, Process.fresh] using rest⟩
  | granted site test change pending got following row code free found passes =>
    refine ⟨stage, .granted site test change pending got following row code free found passes, ?_⟩
    rw [code] at follows
    rw [Sys.set_procs_self]
    cases change <;>
    · intro more allPass
      rw [List.append_assoc]
      apply follows
      intro other membership
      rcases List.mem_cons.mp membership with isRow | inMore
      · rw [isRow]
        exact passes
      · exact allPass other inMore
  | skipped site test change target pending got following code gone =>
    refine ⟨stage, .skipped site test change target pending got following code gone, ?_⟩
    rw [code] at follows
    rw [Sys.set_procs_self]
    exact follows

end ReadCommitted

end StarterTemplate.Library
