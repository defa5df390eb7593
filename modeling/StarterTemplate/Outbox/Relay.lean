import Mathlib.Logic.Function.Basic
import StarterTemplate.Library.Runs
import StarterTemplate.Outbox.Dispatch

/-!
# Several relay workers on one table

Any number of workers run `DispatchPending.execute` against one outbox table.  A
claim and a mark are one transaction each, so their steps and the calls of `enqueue`
interleave freely.  The claim selects on the status alone and never reads the lease
it stamps: two workers can hold one row, and the second mark then overwrites a
settled row.  Both faults are gone in the runs whose claims meet no lease.
-/

namespace StarterTemplate.Outbox

open Library

/-- One worker between two of its steps: the clock reading of its tick, the claimed
rows it has not marked yet, and how the `enqueue` of the first of them ended.  The
rows of a tick that an exception left are kept as `abandoned`, since no mark of the
worker ever committed for them. -/
structure WorkerState where
  now : Instant
  batch : List OutboxMessage
  result : Option (Option JobError)
  abandoned : List OutboxMessage

/-- A worker that has claimed nothing yet. -/
def WorkerState.idle : WorkerState := ⟨0, [], none, []⟩

/-- The rows in flight at a worker. -/
def WorkerState.held (worker : WorkerState) : List Uuid :=
  (worker.batch ++ worker.abandoned).map fun message => message.id

structure Relay (Worker : Type) where
  outbox : OutboxTable
  workers : Worker → WorkerState

/-- One step of a worker, or the commit of a transaction that staged rows. -/
inductive RelayEvent (Worker : Type) where
  | claim (worker : Worker) (now : Instant) (lockedElsewhere : Uuid → Bool)
  | enqueue (worker : Worker) (result : Option JobError)
  | mark (worker : Worker)
  | produce (staged : List Staged)

section Machine

variable {Worker : Type} [DecidableEq Worker]

/-- The machine with one worker's state replaced. -/
def Relay.set (relay : Relay Worker) (worker : Worker) (state : WorkerState) : Relay Worker :=
  { relay with workers := Function.update relay.workers worker state }

/-- The mark of the first claimed row, or the exception that ends the tick. -/
def Relay.markFirst (settings : RelaySettings) (relay : Relay Worker) (worker : Worker)
    (state : WorkerState) (message : OutboxMessage) (rest : List OutboxMessage)
    (result : Option JobError) : Relay Worker :=
  match settle settings state.now message result with
  | some mark =>
    { relay.set worker { state with batch := rest, result := none } with
      outbox := applyMark relay.outbox message.id mark }
  | none =>
    relay.set worker
      { state with
        batch := []
        result := none
        abandoned := message :: rest ++ state.abandoned }

def relayStep (settings : Worker → RelaySettings) (relay : Relay Worker) :
    RelayEvent Worker → Option (Relay Worker)
  | .claim worker now lockedElsewhere =>
    let state := relay.workers worker
    match state.batch with
    | [] =>
      let claimed := claimBatch relay.outbox now (settings worker).batchSize
        (settings worker).workerId lockedElsewhere
      some
        { relay.set worker { state with now := now, batch := claimed.2, result := none } with
          outbox := claimed.1 }
    | _ :: _ => none
  | .enqueue worker result =>
    let state := relay.workers worker
    match state.batch, state.result with
    | _ :: _, none => some (relay.set worker { state with result := some result })
    | _, _ => none
  | .mark worker =>
    let state := relay.workers worker
    match state.batch, state.result with
    | message :: rest, some result =>
      some (relay.markFirst (settings worker) worker state message rest result)
    | _, _ => none
  | .produce staged =>
    (relay.outbox.insertAll (staged.map Staged.row)).map fun outbox =>
      { relay with outbox := outbox }

/-- A row is in flight at a worker. -/
def InFlight (relay : Relay Worker) (worker : Worker) (id : Uuid) : Prop :=
  id ∈ (relay.workers worker).held

/-- The condition on a claim: no row that it selects carries a lease. -/
def Unleased (settings : Worker → RelaySettings) (relay : Relay Worker) :
    RelayEvent Worker → Prop
  | .claim worker now lockedElsewhere =>
    ∀ row ∈ selectDue relay.outbox now (settings worker).batchSize lockedElsewhere,
      row.lockedBy = none
  | _ => True

instance (settings : Worker → RelaySettings) (relay : Relay Worker) :
    (event : RelayEvent Worker) → Decidable (Unleased settings relay event)
  | .claim worker now lockedElsewhere =>
    inferInstanceAs (Decidable (∀ row ∈
      selectDue relay.outbox now (settings worker).batchSize lockedElsewhere,
        row.lockedBy = none))
  | .enqueue _ _ | .mark _ | .produce _ => .isTrue trivial

/-! ## What a step does -/

variable {settings : Worker → RelaySettings} {relay next : Relay Worker}

/-- Everything a step can do to the table and to the rows in flight. -/
inductive Moved (settings : Worker → RelaySettings) (relay next : Relay Worker) :
    RelayEvent Worker → Prop where
  | claimed (worker : Worker) (now : Instant) (lockedElsewhere : Uuid → Bool)
      (ready : (relay.workers worker).batch = [])
      (outbox : next.outbox = (claimBatch relay.outbox now (settings worker).batchSize
        (settings worker).workerId lockedElsewhere).1)
      (own : (next.workers worker).held = (claimBatch relay.outbox now
        (settings worker).batchSize (settings worker).workerId lockedElsewhere).2.map
          (fun message => message.id) ++ (relay.workers worker).held)
      (others : ∀ other, other ≠ worker → next.workers other = relay.workers other) :
      Moved settings relay next (.claim worker now lockedElsewhere)
  | quiet (event : RelayEvent Worker) (outbox : next.outbox = relay.outbox)
      (held : ∀ worker, (next.workers worker).held = (relay.workers worker).held) :
      Moved settings relay next event
  | marked (worker : Worker) (message : OutboxMessage) (mark : Mark)
      (outbox : next.outbox = applyMark relay.outbox message.id mark)
      (own : (relay.workers worker).held = message.id :: (next.workers worker).held)
      (others : ∀ other, other ≠ worker → next.workers other = relay.workers other) :
      Moved settings relay next (.mark worker)
  | produced (staged : List Staged)
      (outbox : next.outbox.rows = relay.outbox.rows ++ staged.map Staged.row)
      (workers : next.workers = relay.workers) :
      Moved settings relay next (.produce staged)

@[simp] theorem Relay.set_workers_self (relay : Relay Worker) (worker : Worker)
    (state : WorkerState) : (relay.set worker state).workers worker = state :=
  Function.update_self ..

variable {worker : Worker} {event : RelayEvent Worker} {lockedElsewhere : Uuid → Bool}

theorem Relay.set_workers_of_ne (relay : Relay Worker) {other : Worker} (state : WorkerState)
    (differ : other ≠ worker) : (relay.set worker state).workers other = relay.workers other :=
  Function.update_of_ne differ ..

theorem held_set (relay : Relay Worker) (worker : Worker) (state : WorkerState)
    (same : state.held = (relay.workers worker).held) (other : Worker) :
    ((relay.set worker state).workers other).held = (relay.workers other).held := by
  by_cases equal : other = worker
  · subst equal
    rw [Relay.set_workers_self]
    exact same
  · rw [Relay.set_workers_of_ne relay state equal]

theorem moved (enabled : relayStep settings relay event = some next) :
    Moved settings relay next event := by
  cases event with
  | claim worker now lockedElsewhere =>
    rw [relayStep] at enabled
    split at enabled
    · rename_i ready
      rw [Option.some.injEq] at enabled
      subst enabled
      refine .claimed worker now lockedElsewhere ready rfl ?_ ?_
      · simp [WorkerState.held, ready]
      · intro other differ
        exact relay.set_workers_of_ne _ differ
    · cases enabled
  | enqueue worker result =>
    rw [relayStep] at enabled
    split at enabled
    · cases enabled
      exact .quiet _ rfl (held_set relay worker _ rfl)
    · cases enabled
  | mark worker =>
    rw [relayStep] at enabled
    split at enabled
    · rename_i message rest result batch _
      cases enabled
      rw [Relay.markFirst]
      split
      · rename_i mark settled
        refine .marked worker message mark rfl ?_ ?_
        · simp [WorkerState.held, batch]
        · intro other differ
          exact relay.set_workers_of_ne _ differ
      · refine .quiet _ rfl (held_set relay worker _ ?_)
        simp [WorkerState.held, batch]
    · cases enabled
  | produce staged =>
    rw [relayStep, Option.map_eq_some_iff] at enabled
    rcases enabled with ⟨outbox, inserted, equal⟩
    subst equal
    exact .produced staged (Table.rows_of_insertAll inserted) rfl

/-! ## The lease discipline -/

/-- Every row in flight is pending and leased, and is in flight once only. -/
structure Exclusive (relay : Relay Worker) : Prop where
  leased : ∀ worker id, InFlight relay worker id →
    ∃ row ∈ relay.outbox.rows, row.id = id ∧ row.status = .pending ∧ row.lockedBy ≠ none
  nodup : ∀ worker, (relay.workers worker).held.Nodup
  disjoint : ∀ left right id, InFlight relay left id → InFlight relay right id → left = right

omit [DecidableEq Worker] in
/-- The rows that a claim without leases returns were in flight nowhere. -/
theorem Exclusive.fresh_claim (exclusive : Exclusive relay) {now : Instant}
    (unleased : Unleased settings relay (.claim worker now lockedElsewhere)) {id : Uuid} (claimed :
      id ∈ (claimBatch relay.outbox now (settings worker).batchSize (settings worker).workerId
      lockedElsewhere).2.map fun message => message.id) (other : Worker) :
    ¬ InFlight relay other id := by
  intro inFlight
  rcases List.mem_map.mp claimed with ⟨message, isClaimed, sameId⟩
  rcases selected_of_mem_claimBatch isClaimed with ⟨row, selected, equal⟩
  rcases exclusive.leased other id inFlight with ⟨held, member, heldId, _, lease⟩
  have sameRow : row = held := by
    apply relay.outbox.eq_of_key_eq (mem_selectDue selected).1 member
    rw [equal] at sameId
    exact sameId.trans heldId.symm
  subst sameRow
  exact lease (unleased row selected)

/-- A pending row that is leased, or is claimed now, is pending and leased after the
claim. -/
theorem leased_after_claim {table : OutboxTable} {now : Instant} {batchSize : Int}
    {workerId : String} {row : OutboxRow} (member : row ∈ table.rows)
    (pending : row.status = .pending) (lease : row.lockedBy ≠ none ∨ row.id ∈ (claimBatch table now
      batchSize workerId lockedElsewhere).2.map fun message => message.id) :
    ∃ later ∈ (claimBatch table now batchSize workerId lockedElsewhere).1.rows,
      later.id = row.id ∧ later.status = .pending ∧ later.lockedBy ≠ none := by
  by_cases claimed : row.id ∈ (claimBatch table now batchSize workerId
      lockedElsewhere).2.map fun message => message.id
  · refine ⟨(leaseStamp now workerId).apply row, ?_, rfl, pending, Option.some_ne_none _⟩
    exact mem_rows_claimBatch.mpr ⟨row, member, by rw [if_pos claimed]⟩
  · refine ⟨row, ?_, rfl, pending, lease.resolve_right claimed⟩
    exact mem_rows_claimBatch.mpr ⟨row, member, by rw [if_neg claimed]⟩

section

variable (exclusive : Exclusive relay)
include exclusive

/-- A claim that meets no lease keeps the discipline. -/
theorem Exclusive.claim {now : Instant}
    (unleased : Unleased settings relay (.claim worker now lockedElsewhere))
    (outbox : next.outbox = (claimBatch relay.outbox now (settings worker).batchSize
      (settings worker).workerId lockedElsewhere).1)
    (own : (next.workers worker).held =
      (claimBatch relay.outbox now (settings worker).batchSize (settings worker).workerId
        lockedElsewhere).2.map (fun message => message.id) ++ (relay.workers worker).held)
    (others : ∀ other, other ≠ worker → next.workers other = relay.workers other) :
    Exclusive next := by
  have fresh : ∀ id ∈ _, ∀ other, ¬ InFlight relay other id :=
    fun _ claimed other => exclusive.fresh_claim unleased claimed other
  have origin : ∀ other id, InFlight next other id →
      (other = worker ∧ id ∈ (claimBatch relay.outbox now (settings worker).batchSize
        (settings worker).workerId lockedElsewhere).2.map fun message => message.id) ∨
      InFlight relay other id := by
    intro other id inFlight
    rw [InFlight] at inFlight
    by_cases equal : other = worker
    · subst equal
      rw [own, List.mem_append] at inFlight
      exact inFlight.imp_left fun claimed => ⟨rfl, claimed⟩
    · rw [others other equal] at inFlight
      exact .inr inFlight
  constructor
  · intro other id inFlight
    rw [outbox]
    rcases origin other id inFlight with ⟨_, claimed⟩ | before
    · rcases List.mem_map.mp claimed with ⟨message, isClaimed, sameId⟩
      rcases mem_claimBatch isClaimed with ⟨row, member, due, _, equal⟩
      have rowId : row.id = id := by
        rw [← sameId, equal]
        rfl
      rw [← rowId] at claimed ⊢
      exact leased_after_claim member due.1 (.inr claimed)
    · rcases exclusive.leased other id before with ⟨row, member, rowId, pending, lease⟩
      rw [← rowId]
      exact leased_after_claim member pending (.inl lease)
  · intro other
    by_cases equal : other = worker
    · subst equal
      rw [own, List.nodup_append]
      refine ⟨nodup_claimBatch _ _ _ _ _, exclusive.nodup other, ?_⟩
      intro id claimed heldId before same
      subst same
      exact fresh id claimed other before
    · rw [others other equal]
      exact exclusive.nodup other
  intro left right id leftFlight rightFlight
  rcases origin left id leftFlight with ⟨leftIs, claimed⟩ | leftBefore
  · rcases origin right id rightFlight with ⟨rightIs, _⟩ | rightBefore
    · rw [leftIs, rightIs]
    · exact absurd rightBefore (fresh id claimed right)
  · rcases origin right id rightFlight with ⟨_, claimed⟩ | rightBefore
    · exact absurd leftBefore (fresh id claimed left)
    · exact exclusive.disjoint left right id leftBefore rightBefore

/-- A mark ends the flight of its row and touches no other row in flight. -/
theorem Exclusive.mark {message : OutboxMessage} {mark : Mark}
    (outbox : next.outbox = applyMark relay.outbox message.id mark)
    (own : (relay.workers worker).held = message.id :: (next.workers worker).held)
    (others : ∀ other, other ≠ worker → next.workers other = relay.workers other) :
    Exclusive next := by
  have ownFlight : InFlight relay worker message.id := by
    rw [InFlight, own]
    exact .head _
  have ownNodup := exclusive.nodup worker
  rw [own, List.nodup_cons] at ownNodup
  have origin : ∀ other id, InFlight next other id → InFlight relay other id ∧ id ≠ message.id := by
    intro other id inFlight
    by_cases equal : other = worker
    · subst equal
      constructor
      · rw [InFlight, own]
        exact .tail _ inFlight
      · intro same
        subst same
        exact ownNodup.1 inFlight
    rw [InFlight, others other equal] at inFlight
    refine ⟨inFlight, ?_⟩
    intro same
    subst same
    exact equal (exclusive.disjoint other worker _ inFlight ownFlight)
  constructor
  · intro other id inFlight
    rcases origin other id inFlight with ⟨before, differ⟩
    rcases exclusive.leased other id before with ⟨row, member, rowId, pending, lease⟩
    refine ⟨row, ?_, rowId, pending, lease⟩
    rw [outbox, mem_applyMark]
    exact ⟨row, member, by rw [if_neg (rowId ▸ differ)]⟩
  · intro other
    by_cases equal : other = worker
    · subst equal
      exact ownNodup.2
    · rw [others other equal]
      exact exclusive.nodup other
  · intro left right id leftFlight rightFlight
    exact exclusive.disjoint left right id (origin left id leftFlight).1
      (origin right id rightFlight).1

/-- Every step keeps the discipline, claims under the condition on them. -/
theorem Exclusive.step (unleased : Unleased settings relay event)
    (enabled : relayStep settings relay event = some next) : Exclusive next := by
  cases moved enabled with
  | claimed worker now lockedElsewhere _ outbox own others =>
    exact exclusive.claim unleased outbox own others
  | quiet _ outbox held =>
    have sameFlight : ∀ worker id, InFlight next worker id ↔ InFlight relay worker id := by
      intro worker id
      rw [InFlight, InFlight, held worker]
    constructor
    · intro worker id inFlight
      rw [outbox]
      exact exclusive.leased worker id ((sameFlight worker id).mp inFlight)
    · intro worker
      rw [held worker]
      exact exclusive.nodup worker
    · intro left right id leftFlight rightFlight
      exact exclusive.disjoint left right id ((sameFlight left id).mp leftFlight)
        ((sameFlight right id).mp rightFlight)
  | marked worker message mark outbox own others => exact exclusive.mark outbox own others
  | produced staged outbox workers =>
    constructor
    · intro worker id inFlight
      rw [InFlight, workers] at inFlight
      rcases exclusive.leased worker id inFlight with ⟨row, member, rest⟩
      rw [outbox]
      exact ⟨row, List.mem_append_left _ member, rest⟩
    · rw [workers]
      exact exclusive.nodup
    · intro left right id leftFlight rightFlight
      rw [InFlight, workers] at leftFlight rightFlight
      exact exclusive.disjoint left right id leftFlight rightFlight

/-- Under the discipline no step touches a settled row. -/
theorem Exclusive.settled_kept (enabled : relayStep settings relay event = some next)
    {row : OutboxRow} (member : row ∈ relay.outbox.rows) (settled : row.status ≠ .pending) :
    row ∈ next.outbox.rows := by
  cases moved enabled with
  | claimed worker now lockedElsewhere _ outbox _ _ =>
    rw [outbox, mem_rows_claimBatch]
    refine ⟨row, member, ?_⟩
    rw [if_neg]
    intro claimed
    rcases List.mem_map.mp claimed with ⟨message, isClaimed, sameId⟩
    rcases mem_claimBatch isClaimed with ⟨source, sourceMember, due, _, equal⟩
    have sameRow : source = row := by
      apply relay.outbox.eq_of_key_eq sourceMember member
      rw [equal] at sameId
      exact sameId
    subst sameRow
    exact settled due.1
  | quiet _ outbox _ =>
    rw [outbox]
    exact member
  | marked worker message mark outbox own _ =>
    rw [outbox, mem_applyMark]
    refine ⟨row, member, ?_⟩
    rw [if_neg]
    intro sameId
    have ownFlight : InFlight relay worker message.id := by
      rw [InFlight, own]
      exact .head _
    rcases exclusive.leased worker _ ownFlight with ⟨held, heldMember, heldId, pending, _⟩
    have sameRow : held = row :=
      relay.outbox.eq_of_key_eq heldMember member (heldId.trans sameId.symm)
    subst sameRow
    exact settled pending
  | produced staged outbox _ =>
    rw [outbox]
    exact List.mem_append_left _ member

end

omit [DecidableEq Worker] in
theorem exclusive_of_idle (idle : ∀ worker, relay.workers worker = .idle) : Exclusive relay := by
  have nothing : ∀ worker, (relay.workers worker).held = [] := by
    intro worker
    rw [idle worker]
    rfl
  constructor
  · intro worker id inFlight
    simp [InFlight, nothing] at inFlight
  · intro worker
    rw [nothing]
    exact List.nodup_nil
  · intro left right id inFlight
    simp [InFlight, nothing] at inFlight

theorem exclusive_of_run {start finish : Relay Worker} {events : List (RelayEvent Worker)}
    (exclusive : Exclusive start)
    (unleased : Meets (relayStep settings) (Unleased settings) start events)
    (reached : run (relayStep settings) start events = some finish) : Exclusive finish :=
  invariant_of_meets (fun _ _ _ holds condition enabled => holds.step condition enabled)
    exclusive unleased reached

/-! ## Main results -/

/-- In every run from idle workers whose claims meet no lease, no row is in flight at
two workers. -/
theorem not_inFlight_twice (settings : Worker → RelaySettings) {start finish : Relay Worker}
    {events : List (RelayEvent Worker)} (idle : ∀ worker, start.workers worker = .idle)
    (unleased : Meets (relayStep settings) (Unleased settings) start events)
    (reached : run (relayStep settings) start events = some finish) {left right : Worker}
    (differ : left ≠ right) (id : Uuid) :
    ¬ (InFlight finish left id ∧ InFlight finish right id) := by
  intro ⟨leftFlight, rightFlight⟩
  have exclusive := exclusive_of_run (exclusive_of_idle idle) unleased reached
  exact differ (exclusive.disjoint left right id leftFlight rightFlight)

/-- In every run from idle workers whose claims meet no lease, a row that is delivered
or failed keeps its status from then on, and a delivered row keeps its attempts, its
last error and its moment of failure. -/
theorem settled_row_final (settings : Worker → RelaySettings)
    {start middle finish : Relay Worker} {before after : List (RelayEvent Worker)}
    (idle : ∀ worker, start.workers worker = .idle)
    (unleased : Meets (relayStep settings) (Unleased settings) start (before ++ after))
    (first : run (relayStep settings) start before = some middle)
    (second : run (relayStep settings) middle after = some finish) {row : OutboxRow}
    (membership : row ∈ middle.outbox.rows)
    (settled : row.status = .delivered ∨ row.status = .failed) :
    (∃ later ∈ finish.outbox.rows, later.id = row.id) ∧
      ∀ later ∈ finish.outbox.rows, later.id = row.id →
        later.status = row.status ∧
          (row.status = .delivered → later.attempts = row.attempts ∧
            later.lastError = row.lastError ∧ later.failedAt = row.failedAt) := by
  have notPending : row.status ≠ .pending := by
    rcases settled with status | status <;> rw [status] <;> exact Status.noConfusion
  have meets := meets_append.mp unleased
  have exclusive := exclusive_of_run (exclusive_of_idle idle) meets.1 first
  have kept : ∀ relay event next, (Exclusive relay ∧ row ∈ relay.outbox.rows) →
      Unleased settings relay event → relayStep settings relay event = some next →
      Exclusive next ∧ row ∈ next.outbox.rows := by
    intro relay event next holds condition enabled
    exact ⟨holds.1.step condition enabled, holds.1.settled_kept enabled holds.2 notPending⟩
  have final := invariant_of_meets kept ⟨exclusive, membership⟩ (meets.2 middle first) second
  refine ⟨⟨row, final.2, rfl⟩, ?_⟩
  intro later laterMember sameId
  have sameRow : later = row := finish.outbox.eq_of_key_eq laterMember final.2 sameId
  subst sameRow
  exact ⟨rfl, fun _ => ⟨rfl, rfl, rfl⟩⟩

end Machine

/-! ### Two workers and one row -/

/-- Settings under which a failed dispatch is the last one. -/
def onceSettings : RelaySettings where
  batchSize := 100
  maxAttempts := 1
  workerId := "relay"
  retryBase := 30000000
  retryMax := 900000000

def cleanupRow (id : Uuid) : OutboxRow :=
  stagedRow id deleteUserAssetsJob [("user_id", .str (7 : Uuid).str)] [] 0 0

/-- Two idle workers over the given table. -/
def idlePair (outbox : OutboxTable) : Relay Bool := ⟨outbox, fun _ => .idle⟩

def oneRow : OutboxTable := ⟨[cleanupRow 1], List.nodup_singleton _⟩

def twoRows : OutboxTable := ⟨[cleanupRow 1, cleanupRow 2], by decide⟩

/-- The second of two claims returns the row that the first worker still holds. -/
theorem inFlight_twice :
    ∃ finish,
      run (relayStep fun _ => onceSettings) (idlePair oneRow)
          [.claim false 0 (fun _ => false), .claim true 0 (fun _ => false)] = some finish ∧
        InFlight finish false 1 ∧ InFlight finish true 1 :=
  ⟨_, rfl, List.mem_singleton.mpr rfl, List.mem_singleton.mpr rfl⟩

/-- Two workers that pass over the row the other one holds. -/
theorem not_inFlight_twice_pair :
    ∃ finish,
      run (relayStep fun _ => onceSettings) (idlePair twoRows)
          [.claim false 0 (fun id => id = 2), .claim true 0 (fun id => id = 1)] = some finish ∧
        InFlight finish false 1 ∧ InFlight finish true 2 ∧
        ¬ (InFlight finish false 1 ∧ InFlight finish true 1) := by
  have unleased : Meets (relayStep fun _ => onceSettings) (Unleased fun _ => onceSettings)
      (idlePair twoRows)
      [.claim false 0 (fun id => id = 2), .claim true 0 (fun id => id = 1)] := by
    refine ⟨by decide +kernel, ?_⟩
    intro next enabled
    cases enabled
    exact ⟨by decide +kernel, fun _ _ => trivial⟩
  refine ⟨_, rfl, List.mem_singleton.mpr rfl, List.mem_singleton.mpr rfl, ?_⟩
  exact not_inFlight_twice (fun _ => onceSettings) (fun _ => rfl) unleased rfl
    Bool.false_ne_true 1

/-- The worker that claimed the row second finds its dispatch failing after the first
worker has delivered the row, and turns it into a failed one. -/
theorem delivered_row_overwritten :
    ∃ middle finish row later,
      run (relayStep fun _ => onceSettings) (idlePair oneRow)
          [.claim false 0 (fun _ => false), .claim true 0 (fun _ => false),
            .enqueue false none, .mark false] = some middle ∧
        run (relayStep fun _ => onceSettings) middle
          [.enqueue true (some (.effectFailed deleteUserAssetsJob "bucket unreachable")),
            .mark true] = some finish ∧
        middle.outbox.rows = [row] ∧ finish.outbox.rows = [later] ∧ later.id = row.id ∧
        row.status = .delivered ∧ later.status = .failed ∧ row.attempts = 0 ∧
        later.attempts = 1 :=
  ⟨_, _, _, _, rfl, rfl, rfl, rfl, rfl, rfl, rfl, rfl, rfl⟩

/-- A row delivered by one worker while the other one claims the other row. -/
theorem settled_row_final_pair :
    ∃ middle finish row,
      run (relayStep fun _ => onceSettings) (idlePair twoRows)
          [.claim false 0 (fun id => id = 2), .enqueue false none, .mark false] = some middle ∧
        run (relayStep fun _ => onceSettings) middle [.claim true 0 (fun _ => false)] =
          some finish ∧
        row ∈ middle.outbox.rows ∧ row.status = .delivered ∧
        ∀ later ∈ finish.outbox.rows, later.id = row.id →
          later.status = row.status ∧
            (row.status = .delivered → later.attempts = row.attempts ∧
              later.lastError = row.lastError ∧ later.failedAt = row.failedAt) := by
  have unleased : Meets (relayStep fun _ => onceSettings) (Unleased fun _ => onceSettings)
      (idlePair twoRows)
      ([.claim false 0 (fun id => id = 2), .enqueue false none, .mark false] ++
        [.claim true 0 (fun _ => false)]) := by
    refine ⟨by decide +kernel, ?_⟩
    intro first firstEnabled
    cases firstEnabled
    refine ⟨trivial, ?_⟩
    intro second secondEnabled
    cases secondEnabled
    refine ⟨trivial, ?_⟩
    intro third thirdEnabled
    cases thirdEnabled
    exact ⟨by decide +kernel, fun _ _ => trivial⟩
  refine ⟨_, _, _, rfl, rfl, List.mem_cons_self, rfl, ?_⟩
  exact (settled_row_final (fun _ => onceSettings) (fun _ => rfl) unleased rfl rfl
    List.mem_cons_self (.inl rfl)).2

end StarterTemplate.Outbox
