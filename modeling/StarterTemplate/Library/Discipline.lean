import StarterTemplate.Library.Protocol

/-!
# Disciplines of interleaved programs

A discipline states what each process may rely on: a protocol, an assertion about what
the processes share, an assertion about one process at a stage of its protocol, and the
pairs of statements that no two processes may have open at the same time.  It carries
the proofs that each kind of step keeps the assertions.  In every run in which
conflicting statements are kept apart the assertions then hold in every state.
-/

namespace StarterTemplate.Library.ReadCommitted

variable {Row Key : Type} [Keyed Row Key]
variable {Site Call : Type} {Reply : Call → Type} {Result Env Drift : Type}
variable {Pid Stage : Type}

/-- What the processes share: the committed rows, the component, and the sites of the
committed transactions. -/
structure Shared (Pid Row : Type) {Key : Type} [Keyed Row Key] (Site Env : Type) where
  store : Table Row
  env : Env
  journal : List (Pid × Site)

def Sys.shared (sys : Sys Pid Row Site Call Reply Result Env) : Shared Pid Row Site Env :=
  ⟨sys.store, sys.env, sys.journal⟩

/-- The commit of a process. -/
def Shared.commit [DecidableEq Key] (shared : Shared Pid Row Site Env) (pid : Pid)
    (process : Process Row Site Call Reply Result) : Shared Pid Row Site Env :=
  { shared with
    store := process.view shared.store
    journal := process.visited.map (fun site => (pid, site)) ++ shared.journal }

/-- The condition on a step: a statement begins only when no other open transaction has
passed a statement in conflict with it. -/
def Separate (conflict : Site → Site → Prop) (sys : Sys Pid Row Site Call Reply Result Env) :
    Event Pid Drift → Prop
  | .exec pid =>
    ∀ site, (sys.procs pid).code.begins = some site → ∀ other, other ≠ pid →
      ∀ passed ∈ (sys.procs other).visited, ¬ conflict site passed ∧ ¬ conflict passed site
  | .abort _ | .drift _ => True

/-- Two open transactions have no conflicting statements. -/
def Apart (conflict : Site → Site → Prop) (left right : Process Row Site Call Reply Result) :
    Prop :=
  ∀ site ∈ left.visited, ∀ passed ∈ right.visited, ¬ conflict site passed

/-- The protocol allows a locking statement at this stage. -/
def Locks (protocol : Protocol Row Site Call Reply Stage) (stage : Stage) (site : Site)
    (test : Row → Bool) (change : Change Row) : Prop :=
  ∃ rows later, protocol.lock stage site test change rows later

variable [DecidableEq Key]

/-- A protocol with assertions that every kind of step keeps. -/
structure Discipline (model : Model Row Call Reply Env Drift) (Pid Site Result Stage : Type) where
  protocol : Protocol Row Site Call Reply Stage
  post : Stage → Result → Prop
  conflict : Site → Site → Prop
  valid : Shared Pid Row Site Env → Prop
  sound : Shared Pid Row Site Env → Process Row Site Call Reply Result → Stage → Prop
  selected : ∀ {shared process stage site test later rest}, valid shared →
    sound shared process stage → process.code.Running →
    protocol.select stage site test ((process.view shared.store).rows.filter test) later →
    sound shared
      { process with code := .running rest, visited := site :: process.visited } later
  opened : ∀ {shared process stage site test change next}, valid shared →
    sound shared process stage → process.code.Running → Locks protocol stage site test change →
    sound shared
      { process with
        code := .locking site test change
          (((process.view shared.store).rows.filter test).map key) [] next
        visited := site :: process.visited } stage
  granted : ∀ {shared process stage site test change pending got next row}, valid shared →
    sound shared process stage → Locks protocol stage site test change →
    process.code = .locking site test change (key row :: pending) got next →
    row ∈ (process.view shared.store).rows → test row = true →
    sound shared
      (process.grant change row (.locking site test change pending (got ++ [row]) next)) stage
  skipped : ∀ {shared process stage site test change target pending got next}, valid shared →
    sound shared process stage → Locks protocol stage site test change →
    process.code = .locking site test change (target :: pending) got next →
    (∀ row ∈ (process.view shared.store).rows, key row = target → test row = false) →
    sound shared { process with code := .locking site test change pending got next } stage
  closed : ∀ {shared process stage site test change got next later}, valid shared →
    sound shared process stage → process.code = .locking site test change [] got next →
    protocol.lock stage site test change got later →
    sound shared { process with code := .running (next got) } later
  refused : ∀ {shared process stage row rest later}, valid shared →
    sound shared process stage → process.code.Running → protocol.insert stage row false later →
    sound shared { process with code := .running rest } later
  inserted : ∀ {shared process stage row rest later}, valid shared →
    sound shared process stage → process.code.Running →
    (∀ other ∈ (process.view shared.store).rows, model.clashes row other = false) →
    key row ∉ (process.view shared.store).rows.map key → protocol.insert stage row true later →
    sound shared (process.add row (.running rest)) later
  committed : ∀ {shared pid process stage rest later}, valid shared →
    sound shared process stage → process.code.Running → protocol.commit stage later →
    valid (shared.commit pid process) ∧
      sound (shared.commit pid process) (.fresh (.running rest)) later
  committedOther : ∀ {shared pid process stage other otherStage later}, valid shared →
    sound shared process stage → process.code.Running → protocol.commit stage later →
    Apart conflict process other → Apart conflict other process →
    sound shared other otherStage → sound (shared.commit pid process) other otherStage
  rolledBack : ∀ {shared process stage rest later}, valid shared →
    sound shared process stage → protocol.rollback stage later →
    sound shared (.fresh (.running rest)) later
  called : ∀ {shared process stage request rest later}, valid shared →
    sound shared process stage → process.code.Running →
    protocol.call stage request (model.answer request shared.env).1 later →
    valid { shared with env := (model.answer request shared.env).2 } ∧
      sound { shared with env := (model.answer request shared.env).2 }
        { process with code := .running rest } later
  calledOther : ∀ {shared process stage request other otherStage later}, valid shared →
    sound shared process stage → process.code.Running →
    protocol.call stage request (model.answer request shared.env).1 later →
    Apart conflict process other → Apart conflict other process →
    sound shared other otherStage →
    sound { shared with env := (model.answer request shared.env).2 } other otherStage
  drifted : ∀ {shared change}, valid shared →
    valid { shared with env := model.drift change shared.env } ∧
      ∀ process stage, sound shared process stage →
        sound { shared with env := model.drift change shared.env } process stage
  aborted : ∀ {shared}, valid shared → ∃ stage, sound shared (.fresh .aborted) stage

namespace Discipline

variable {model : Model Row Call Reply Env Drift}
variable (discipline : Discipline model Pid Site Result Stage)

/-- The assertions hold of the whole system, with the processes at these stages. -/
structure Holds (sys : Sys Pid Row Site Call Reply Result Env) (stages : Pid → Stage) :
    Prop where
  valid : discipline.valid sys.shared
  follows : ∀ pid,
    (sys.procs pid).code.Follows discipline.protocol discipline.post (stages pid)
  sound : ∀ pid, discipline.sound sys.shared (sys.procs pid) (stages pid)
  apart : ∀ left right, left ≠ right →
    Apart discipline.conflict (sys.procs left) (sys.procs right)

variable {discipline} [DecidableEq Pid]
variable {sys next : Sys Pid Row Site Call Reply Result Env} {stages : Pid → Stage} {pid : Pid}

/-- The rule for replacing one process, together with what is shared. -/
theorem Holds.replace (holds : discipline.Holds sys stages) {shared : Shared Pid Row Site Env}
    {process : Process Row Site Call Reply Result} {later : Stage}
    (valid : discipline.valid shared)
    (follows : process.code.Follows discipline.protocol discipline.post later)
    (sound : discipline.sound shared process later)
    (others : ∀ other, other ≠ pid → discipline.sound shared (sys.procs other) (stages other))
    (apart : ∀ other, other ≠ pid → Apart discipline.conflict process (sys.procs other) ∧
      Apart discipline.conflict (sys.procs other) process) :
    discipline.Holds
      ⟨shared.store, shared.env, (sys.set pid process).procs, shared.journal⟩
      (Function.update stages pid later) := by
  constructor
  · exact valid
  · intro other
    by_cases isPid : other = pid
    · subst isPid
      rw [Sys.set_procs_self, Function.update_self]
      exact follows
    · rw [Sys.set_procs_of_ne _ isPid, Function.update_of_ne isPid]
      exact holds.follows other
  · intro other
    by_cases isPid : other = pid
    · subst isPid
      rw [Sys.set_procs_self, Function.update_self]
      exact sound
    · rw [Sys.set_procs_of_ne _ isPid, Function.update_of_ne isPid]
      exact others other isPid
  intro left right differ
  by_cases leftPid : left = pid
  · subst leftPid
    rw [Sys.set_procs_self, Sys.set_procs_of_ne _ differ.symm]
    exact (apart right differ.symm).1
  rw [Sys.set_procs_of_ne _ leftPid]
  by_cases rightPid : right = pid
  · subst rightPid
    rw [Sys.set_procs_self]
    exact (apart left differ).2
  · rw [Sys.set_procs_of_ne _ rightPid]
    exact holds.apart left right differ

/-- The rule for replacing one process. -/
theorem Holds.set (holds : discipline.Holds sys stages)
    {process : Process Row Site Call Reply Result} {later : Stage}
    (follows : process.code.Follows discipline.protocol discipline.post later)
    (sound : discipline.sound sys.shared process later)
    (apart : ∀ other, other ≠ pid → Apart discipline.conflict process (sys.procs other) ∧
      Apart discipline.conflict (sys.procs other) process) :
    discipline.Holds (sys.set pid process) (Function.update stages pid later) :=
  holds.replace holds.valid follows sound (fun other _ => holds.sound other) apart

omit [DecidableEq Pid] in
theorem Holds.apart_self (holds : discipline.Holds sys stages) (other : Pid)
    (differ : other ≠ pid) :
    Apart discipline.conflict (sys.procs pid) (sys.procs other) ∧
      Apart discipline.conflict (sys.procs other) (sys.procs pid) :=
  ⟨holds.apart pid other differ.symm, holds.apart other pid differ⟩

omit [DecidableEq Key] [DecidableEq Pid] in
theorem apart_fresh {conflict : Site → Site → Prop} (code : Code Row Site Call Reply Result)
    (process : Process Row Site Call Reply Result) :
    Apart conflict (.fresh code) process ∧ Apart conflict process (.fresh code) := by
  constructor
  · intro site member
    cases member
  · intro site _ passed member
    cases member

omit [DecidableEq Pid] in
/-- A statement that begins in separation keeps its process apart from the others. -/
theorem Holds.apart_begins (holds : discipline.Holds sys stages) {site : Site}
    (separate : Separate discipline.conflict sys (.exec pid : Event Pid Drift))
    (begins : (sys.procs pid).code.begins = some site)
    {process : Process Row Site Call Reply Result}
    (visited : process.visited = site :: (sys.procs pid).visited) (other : Pid)
    (differ : other ≠ pid) :
    Apart discipline.conflict process (sys.procs other) ∧
      Apart discipline.conflict (sys.procs other) process := by
  rcases holds.apart_self other differ with ⟨before, after⟩
  constructor
  · intro opened member passed passedMember
    rw [visited] at member
    rcases List.mem_cons.mp member with isSite | old
    · rw [isSite]
      exact (separate site begins other differ passed passedMember).1
    · exact before opened old passed passedMember
  intro passed passedMember opened member
  rw [visited] at member
  rcases List.mem_cons.mp member with isSite | old
  · rw [isSite]
    exact (separate site begins other differ passed passedMember).2
  · exact after passed passedMember opened old

variable [Fintype Pid]

omit [DecidableEq Pid] [Fintype Pid] in
/-- Inside a locking statement the protocol allows it. -/
theorem Holds.locks (holds : discipline.Holds sys stages) {site : Site} {test : Row → Bool}
    {change : Change Row} {following : List Row → Prog Row Site Call Reply Result}
    (inside : (sys.procs pid).code = .running (.lock site test change following) ∨
      ∃ pending got, (sys.procs pid).code = .locking site test change pending got following) :
    Locks discipline.protocol (stages pid) site test change := by
  have follows := holds.follows pid
  rcases inside with code | ⟨pending, got, code⟩
  · rw [code] at follows
    rcases follows [] (by simp) with ⟨later, allowed, _⟩
    exact ⟨_, later, allowed⟩
  · rw [code] at follows
    rcases follows [] (by simp) with ⟨later, allowed, _⟩
    exact ⟨_, later, allowed⟩

/-- A step of a process keeps the assertions. -/
theorem Holds.exec (holds : discipline.Holds sys stages)
    (separate : Separate discipline.conflict sys (.exec pid : Event Pid Drift))
    (enabled : sys.exec model pid = some next) : ∃ later, discipline.Holds next later := by
  have valid := holds.valid
  have sound := holds.sound pid
  rcases follows_exec (holds.follows pid) enabled with ⟨later, advanced, following⟩
  refine ⟨Function.update stages pid later, ?_⟩
  cases advanced with
  | selected site test rest running begins _ allowed =>
    rw [Sys.set_procs_self] at following
    exact holds.set following (discipline.selected valid sound running allowed)
      (holds.apart_begins separate begins rfl)
  | opened site test change rest code =>
    have begins : (sys.procs pid).code.begins = some site := by
      rw [code]
      rfl
    rw [Sys.set_procs_self] at following
    exact holds.set following (discipline.opened valid sound ⟨_, code⟩ (holds.locks (.inl code)))
      (holds.apart_begins separate begins rfl)
  | granted site test change pending got rest row code _ found passes =>
    have locks := holds.locks (.inr ⟨_, _, code⟩)
    rw [Sys.set_procs_self] at following
    apply holds.set following (discipline.granted valid sound locks code found passes)
    intro other differ
    have apart := holds.apart_self other differ
    cases change with
    | keep | patch => exact apart
    | remove => exact apart
  | skipped site test change target pending got rest code gone =>
    have locks := holds.locks (.inr ⟨_, _, code⟩)
    rw [Sys.set_procs_self] at following
    exact holds.set following (discipline.skipped valid sound locks code gone)
      holds.apart_self
  | closed site test change got rest code _ allowed =>
    rw [Sys.set_procs_self] at following
    exact holds.set following (discipline.closed valid sound code allowed) holds.apart_self
  | refused row rest running _ allowed =>
    rw [Sys.set_procs_self] at following
    exact holds.set following (discipline.refused valid sound running allowed) holds.apart_self
  | inserted row rest running _ unique new _ allowed =>
    rw [Sys.set_procs_self] at following
    exact holds.set following (discipline.inserted valid sound running unique new allowed)
      holds.apart_self
  | committed rest code _ allowed =>
    rcases discipline.committed valid sound ⟨_, code⟩ allowed with ⟨laterValid, laterSound⟩
    apply holds.replace laterValid _ laterSound
    · intro other differ
      rcases holds.apart_self other differ with ⟨before, after⟩
      exact discipline.committedOther valid sound ⟨_, code⟩ allowed before after
        (holds.sound other)
    · exact fun other _ => apart_fresh _ _
    · simpa [Process.fresh] using following
  | rolledBack rest _ allowed =>
    rw [Sys.set_procs_self] at following
    exact holds.set following (discipline.rolledBack valid sound allowed)
      fun other _ => apart_fresh _ _
  | called request rest running _ allowed =>
    rcases discipline.called valid sound running allowed with ⟨laterValid, laterSound⟩
    apply holds.replace laterValid _ laterSound
    · intro other differ
      rcases holds.apart_self other differ with ⟨before, after⟩
      exact discipline.calledOther valid sound running allowed before after
        (holds.sound other)
    · exact holds.apart_self
    · simpa using following

/-- An event keeps the assertions. -/
theorem Holds.step (holds : discipline.Holds sys stages) {event : Event Pid Drift}
    (separate : Separate discipline.conflict sys event)
    (enabled : Sys.step model sys event = some next) : ∃ later, discipline.Holds next later := by
  cases event with
  | exec pid => exact holds.exec separate enabled
  | abort pid =>
    simp only [Sys.step] at enabled
    split at enabled
    · cases enabled
    · cases enabled
    · cases enabled
      rcases discipline.aborted holds.valid with ⟨later, sound⟩
      exact ⟨_, holds.set trivial sound fun other _ => apart_fresh _ _⟩
  | drift change =>
    cases enabled
    rcases discipline.drifted holds.valid with ⟨laterValid, laterSound⟩
    exact ⟨stages, laterValid, holds.follows, fun pid => laterSound _ _ (holds.sound pid),
      holds.apart⟩

/-- The rule for runs: in every run that keeps conflicting statements apart the
assertions hold to the end. -/
theorem holds_of_run {events : List (Event Pid Drift)} (initial : discipline.Holds sys stages)
    (separate : Meets (Sys.step model) (Separate discipline.conflict) sys events)
    (reached : run (Sys.step model) sys events = some next) :
    ∃ later, discipline.Holds next later := by
  have preserved : ∀ (state : Sys Pid Row Site Call Reply Result Env) event following,
      (∃ stages, discipline.Holds state stages) → Separate discipline.conflict state event →
      Sys.step model state event = some following →
      ∃ stages, discipline.Holds following stages := by
    intro state event following holds condition enabled
    rcases holds with ⟨current, holds⟩
    exact holds.step condition enabled
  rcases invariant_of_meets preserved ⟨stages, initial⟩ separate reached with ⟨later, final⟩
  exact ⟨later, final⟩

end Discipline

variable [DecidableEq Pid] [Fintype Pid] {model : Model Row Call Reply Env Drift}

/-- A process that executes while the others have no transaction open conflicts with
none of them. -/
theorem separate_alone {conflict : Site → Site → Prop}
    {sys : Sys Pid Row Site Call Reply Result Env} (pid : Pid) (steps : Nat)
    (quiet : ∀ other, other ≠ pid → (sys.procs other).visited = []) :
    Meets (Sys.step model) (Separate conflict) sys (List.replicate steps (.exec pid)) := by
  induction steps generalizing sys with
  | zero => trivial
  | succ steps ih =>
    constructor
    · intro site _ other differ passed member
      simp [quiet other differ] at member
    intro next enabled
    apply ih
    intro other differ
    rw [Sys.procs_exec_of_ne enabled differ]
    exact quiet other differ

end StarterTemplate.Library.ReadCommitted
