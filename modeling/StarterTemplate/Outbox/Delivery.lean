import StarterTemplate.Library.Runs
import StarterTemplate.Outbox.Dispatch

/-!
# Delivery implies the effect

Runs of relay ticks, with producers staging rows in between.  A handler commits its
deduplication mark before it attempts the effect.  A delivered row has therefore had
its effect only as long as no attempt that records a mark fails and is then retried.
-/

namespace StarterTemplate.Outbox

open Library

/-! ## Runs of the relay -/

/-- A tick, or the commit of a transaction that staged rows.  The rows that an
erasure stages while a tick runs are committed after the tick here: the tick has
already claimed its batch and its later statements name other rows. -/
inductive Event where
  | tick (now : Instant) (attempts : Uuid → Attempt)
  | produce (staged : List Staged)

def step (settings : RelaySettings) (world : World) : Event → Option World
  | .tick now attempts => some (execute settings now attempts world).1
  | .produce staged =>
    (world.outbox.insertAll (staged.map Staged.row)).map fun outbox =>
      { world with outbox := outbox }

/-! ## What a row asks for -/

/-- The job of the row has one of the guarded handlers. -/
def Guarded (message : OutboxMessage) : Prop := (registry message.jobName).isSome

/-- The mark under which the row is deduplicated. -/
def rowMark (message : OutboxMessage) : Option Uuid := messageMark (dispatchedPayload message)

/-- The row's own effect went through at least once. -/
def EffectDone (completed : List (Uuid × Effect)) (message : OutboxMessage) : Prop :=
  ∃ plan effect, registry message.jobName = some plan ∧ plan message.payload = .ok effect ∧
    (message.id, effect) ∈ completed

variable {message : OutboxMessage} {processed : List Uuid} {now : Instant}

/-- A row whose payload leaves the reserved key alone is deduplicated under its id. -/
theorem rowMark_of_absent (absent : Dict.get message.payload messageIdKey = none) :
    rowMark message = some message.id := by
  simp [rowMark, messageMark, get_dispatchedPayload_messageId, absent]

variable {completed : List (Uuid × Effect)}

namespace SameJob

variable {left right : OutboxMessage}

theorem rowMark_eq (same : SameJob left right) : rowMark left = rowMark right := by
  rcases same with ⟨id, _, payload, trace⟩
  simp only [rowMark, dispatchedPayload, id, payload, trace]

theorem guarded (same : SameJob left right) (isGuarded : Guarded left) : Guarded right := by
  rw [Guarded, ← same.2.1]
  exact isGuarded

theorem effectDone (same : SameJob left right)
    (done : EffectDone completed left) : EffectDone completed right := by
  rcases same with ⟨id, jobName, payload, _⟩
  rw [EffectDone, ← id, ← jobName, ← payload]
  exact done

end SameJob

theorem SameJob.symm {left right : OutboxMessage} (same : SameJob left right) :
    SameJob right left :=
  ⟨same.1.symm, same.2.1.symm, same.2.2.1.symm, same.2.2.2.symm⟩

theorem EffectDone.mono {more : List (Uuid × Effect)}
    (grows : ∀ entry ∈ completed, entry ∈ more) (done : EffectDone completed message) :
    EffectDone more message := by
  rcases done with ⟨plan, effect, known, planned, member⟩
  exact ⟨plan, effect, known, planned, grows _ member⟩

/-! ## The invariant -/

/-- No two guarded rows share a mark. -/
def Separated (rows : List OutboxRow) : Prop :=
  ∀ left ∈ rows, ∀ right ∈ rows, Guarded left.toOutboxMessage → Guarded right.toOutboxMessage →
    ∀ mark, rowMark left.toOutboxMessage = some mark →
      rowMark right.toOutboxMessage = some mark → left.id = right.id

/-- Delivered rows, apart from the `exempt` ones, had their effect, and so had the
pending rows whose mark is recorded. -/
structure Faithful (exempt : Uuid → Prop) (world : World) : Prop where
  separated : Separated world.outbox.rows
  delivered : ∀ row ∈ world.outbox.rows, Guarded row.toOutboxMessage →
    row.status = .delivered → ¬ exempt row.id → EffectDone world.completed row.toOutboxMessage
  marked : ∀ row ∈ world.outbox.rows, Guarded row.toOutboxMessage → row.status = .pending →
    ∀ mark, rowMark row.toOutboxMessage = some mark → mark ∈ world.processed →
      EffectDone world.completed row.toOutboxMessage

/-- The condition on a dispatch: if it records a fresh mark then the effect goes
through at once, or the attempt is the last one. -/
def Decisive (settings : RelaySettings) (attempt : Attempt) (processed : List Uuid)
    (message : OutboxMessage) : Prop :=
  ∀ plan mark, registry message.jobName = some plan → rowMark message = some mark →
    mark ∉ processed → attempt.traceError = none → attempt.dedupeError = none →
    (∃ effect, Succeeds plan attempt.effect message.payload effect) ∨
      settings.maxAttempts ≤ message.attempts + 1

/-- The condition on an event in the state before it. -/
def Safe (settings : RelaySettings) (world : World) : Event → Prop
  | .tick now attempts =>
    ∀ row ∈ world.outbox.rows, Due now row →
      Decisive settings (attempts row.id) world.processed row.toOutboxMessage
  | .produce staged =>
    Separated (world.outbox.rows ++ staged.map Staged.row) ∧
      ∀ new ∈ staged, Guarded new.row.toOutboxMessage →
        ∀ mark, rowMark new.row.toOutboxMessage = some mark → mark ∉ world.processed

variable {settings : RelaySettings} {exempt : Uuid → Prop} {world : World}

/-- The message stands for a pending row of the table. -/
def Claimed (world : World) (message : OutboxMessage) : Prop :=
  ∃ row ∈ world.outbox.rows, SameJob row.toOutboxMessage message ∧ row.status = .pending

section

variable (faithful : Faithful exempt world)
include faithful

/-- Settling one row keeps the invariant when the obligations of that row are met:
only its own mark may have been added, and the record only grows. -/
theorem Faithful.settled {row : OutboxRow} (member : row ∈ world.outbox.rows) (mark : Mark)
    (ownMark : ∀ added ∈ processed, added ∈ world.processed ∨ rowMark row.toOutboxMessage = some added)
    (isGuarded : processed ≠ world.processed → Guarded row.toOutboxMessage)
    (grows : ∀ entry ∈ world.completed, entry ∈ completed)
    (ownDelivered : Guarded row.toOutboxMessage → (mark.patch.apply row).status = .delivered →
      EffectDone completed row.toOutboxMessage)
    (ownPending : Guarded row.toOutboxMessage → (mark.patch.apply row).status = .pending →
      ∀ added, rowMark row.toOutboxMessage = some added → added ∈ processed →
        EffectDone completed row.toOutboxMessage) :
    Faithful exempt ⟨applyMark world.outbox row.id mark, processed, completed⟩ := by
  have origin : ∀ next ∈ (applyMark world.outbox row.id mark).rows,
      ∃ old ∈ world.outbox.rows, SameJob next.toOutboxMessage old.toOutboxMessage ∧
        (old = row ∧ next = mark.patch.apply row ∨ old.id ≠ row.id ∧ next = old) := by
    intro next nextMember
    rcases mem_applyMark.mp nextMember with ⟨old, oldMember, equal⟩
    by_cases sameId : old.id = row.id
    · have sameRow : old = row := world.outbox.eq_of_key_eq oldMember member sameId
      rw [if_pos sameId] at equal
      subst sameRow equal
      exact ⟨old, oldMember, sameJob_mark mark old, .inl ⟨rfl, rfl⟩⟩
    · rw [if_neg sameId] at equal
      subst equal
      exact ⟨next, oldMember, SameJob.refl _, .inr ⟨sameId, rfl⟩⟩
  constructor
  · intro left leftMember right rightMember leftGuarded rightGuarded shared leftMark rightMark
    rcases origin left leftMember with ⟨oldLeft, oldLeftMember, leftSame, _⟩
    rcases origin right rightMember with ⟨oldRight, oldRightMember, rightSame, _⟩
    rw [leftSame.1, rightSame.1]
    apply faithful.separated oldLeft oldLeftMember oldRight oldRightMember
      (leftSame.guarded leftGuarded) (rightSame.guarded rightGuarded) shared
    · rw [← leftSame.rowMark_eq, leftMark]
    · rw [← rightSame.rowMark_eq, rightMark]
  · intro next nextMember nextGuarded status notExempt
    rcases origin next nextMember with ⟨old, oldMember, same, own | other⟩
    · rcases own with ⟨isRow, equal⟩
      subst isRow equal
      exact same.symm.effectDone (ownDelivered (same.guarded nextGuarded) status)
    · rcases other with ⟨_, equal⟩
      subst equal
      exact (faithful.delivered next oldMember nextGuarded status notExempt).mono grows
  intro next nextMember nextGuarded status added nextMark recorded
  rcases origin next nextMember with ⟨old, oldMember, same, own | other⟩
  · rcases own with ⟨isRow, equal⟩
    subst isRow equal
    rw [same.rowMark_eq] at nextMark
    exact same.symm.effectDone
      (ownPending (same.guarded nextGuarded) status added nextMark recorded)
  rcases other with ⟨differ, equal⟩
  subst equal
  rcases ownMark added recorded with before | rowsMark
  · exact (faithful.marked next oldMember nextGuarded status added nextMark before).mono grows
  by_cases unchanged : processed = world.processed
  · rw [unchanged] at recorded
    exact (faithful.marked next oldMember nextGuarded status added nextMark recorded).mono
      grows
  · exact absurd (faithful.separated next oldMember row member nextGuarded
      (isGuarded unchanged) added nextMark rowsMark) differ

/-- A failed dispatch keeps the invariant when it added no mark or was the last
attempt. -/
theorem Faithful.raised (claimed : Claimed world message) (error : JobError)
    (marks : processed = world.processed ∨
      settings.maxAttempts ≤ message.attempts + 1 ∧ Guarded message ∧
        ∃ mark, rowMark message = some mark ∧ processed = mark :: world.processed) :
    Faithful exempt (settleRow settings now world message (.raised error, processed)).1 := by
  rcases claimed with ⟨row, member, same, pending⟩
  have isGuarded : processed ≠ world.processed → Guarded row.toOutboxMessage := by
    intro changed
    rcases marks with unchanged | ⟨_, isGuarded, _⟩
    · exact absurd unchanged changed
    · exact same.symm.guarded isGuarded
  have ownMark : ∀ added ∈ processed,
      added ∈ world.processed ∨ rowMark row.toOutboxMessage = some added := by
    intro added recorded
    rcases marks with unchanged | ⟨_, _, mark, marked, extended⟩
    · rw [unchanged] at recorded
      exact .inl recorded
    · rw [extended, List.mem_cons] at recorded
      rw [same.rowMark_eq, marked]
      exact recorded.symm.imp_right fun equal => by rw [equal]
  have kept : ∀ entry ∈ world.completed, entry ∈ world.completed := fun _ member => member
  simp only [settleRow, Outcome.error, Outcome.record, ← same.1]
  rcases settle_error settings now message error with ⟨_, failed⟩ | ⟨notLast, retried⟩
  · rw [failed]
    apply faithful.settled member _ ownMark isGuarded kept
    · intro _ status
      cases status
    · intro _ status
      cases status
  have unchanged : processed = world.processed := by
    rcases marks with unchanged | ⟨last, _⟩
    · exact unchanged
    · exact absurd last notLast
  subst unchanged
  rcases retried with ⟨availableAt, retry⟩ | overflow
  · rw [retry]
    apply faithful.settled member _ ownMark isGuarded kept
    · intro _ status
      rw [Mark.patch] at status
      simp [pending] at status
    · intro guardedRow _ added marked recorded
      exact faithful.marked row member guardedRow pending added marked recorded
  · rw [overflow]
    exact faithful

/-- A dispatch that ends without an exception keeps the invariant when the effect of
its row is on record. -/
theorem Faithful.accepted (claimed : Claimed world message) {outcome : Outcome}
    (quiet : outcome.error = none)
    (marks : processed = world.processed ∨
      Guarded message ∧ ∃ mark, rowMark message = some mark ∧ processed = mark :: world.processed)
    (done : Guarded message → EffectDone (outcome.record message.id world.completed) message) :
    Faithful exempt (settleRow settings now world message (outcome, processed)).1 := by
  rcases claimed with ⟨row, member, same, pending⟩
  simp only [settleRow, quiet, settle, ← same.1]
  apply faithful.settled member
  · intro added recorded
    rcases marks with unchanged | ⟨_, mark, marked, extended⟩
    · rw [unchanged] at recorded
      exact .inl recorded
    · rw [extended, List.mem_cons] at recorded
      rw [same.rowMark_eq, marked]
      exact recorded.symm.imp_right fun equal => by rw [equal]
  · intro changed
    rcases marks with unchanged | ⟨isGuarded, _⟩
    · exact absurd unchanged changed
    · exact same.symm.guarded isGuarded
  · intro entry recorded
    cases outcome with
    | completed effect => exact .tail _ recorded
    | deduped | raised => exact recorded
  · intro isGuarded _
    rw [same.1]
    exact same.symm.effectDone (done (same.guarded isGuarded))
  · intro _ status
    cases status

/-- One dispatch keeps the invariant. -/
theorem Faithful.dispatchRow (now : Instant) {attempt : Attempt} (claimed : Claimed world message)
    (decisive : Decisive settings attempt world.processed message) :
    Faithful exempt (dispatchRow settings now attempt world message).1 := by
  rw [Outbox.dispatchRow]
  have possible := enqueued world.processed attempt message.jobName (dispatchedPayload message)
  generalize enqueue world.processed attempt message.jobName (dispatchedPayload message) = result
    at possible
  have done : ∀ plan effect, registry message.jobName = some plan →
      Succeeds plan attempt.effect (dispatchedPayload message) effect →
      EffectDone ((Outcome.completed effect).record message.id world.completed) message := by
    intro plan effect known succeeds
    rw [Succeeds, plan_dispatchedPayload known] at succeeds
    exact ⟨plan, effect, known, succeeds.1, (.head _)⟩
  cases possible with
  | refused error => exact faithful.raised claimed error (.inl rfl)
  | deduped mark marked member =>
    apply faithful.accepted claimed rfl (.inl rfl)
    intro isGuarded
    rcases claimed with ⟨row, rowMember, same, pending⟩
    rw [← rowMark, ← same.rowMark_eq] at marked
    exact same.effectDone
      (faithful.marked row rowMember (same.symm.guarded isGuarded) pending mark marked member)
  | unmarked plan known noMark =>
    rcases perform_cases message.jobName plan attempt.effect (dispatchedPayload message)
      with ⟨effect, succeeds, performed⟩ | ⟨_, error, performed⟩
    · rw [performed]
      exact faithful.accepted claimed rfl (.inl rfl) fun _ => done plan effect known succeeds
    · rw [performed]
      exact faithful.raised claimed error (.inl rfl)
  | recorded plan known traced stored mark marked fresh =>
    have isGuarded : Guarded message := by simp [Guarded, known]
    rcases perform_cases message.jobName plan attempt.effect (dispatchedPayload message)
      with ⟨effect, succeeds, performed⟩ | ⟨fails, error, performed⟩
    · rw [performed]
      exact faithful.accepted claimed rfl (.inr ⟨isGuarded, mark, marked, rfl⟩)
        fun _ => done plan effect known succeeds
    rw [performed]
    apply faithful.raised claimed error
    rcases decisive plan mark known marked fresh traced stored with ⟨effect, succeeds⟩ | last
    · rw [Succeeds, ← plan_dispatchedPayload known] at succeeds
      exact absurd succeeds (fails effect)
    · exact .inr ⟨last, isGuarded, mark, marked, rfl⟩

end

/-! ## The loop and the tick -/

/-- Marks are never taken back. -/
theorem processed_dispatchRow (settings : RelaySettings) (now : Instant) (attempt : Attempt)
    (message : OutboxMessage) {mark : Uuid} (recorded : mark ∈ world.processed) :
    mark ∈ (dispatchRow settings now attempt world message).1.processed := by
  have kept : (dispatchRow settings now attempt world message).1.processed =
      (enqueue world.processed attempt message.jobName (dispatchedPayload message)).2 := by
    rw [dispatchRow, settleRow]
    split <;> rfl
  rw [kept]
  have possible := enqueued world.processed attempt message.jobName (dispatchedPayload message)
  generalize enqueue world.processed attempt message.jobName (dispatchedPayload message) = result
    at possible
  cases possible with
  | refused | deduped | unmarked => exact recorded
  | recorded => exact .tail _ recorded

/-- A dispatch leaves the other claimed rows pending. -/
theorem Claimed.dispatchRow (settings : RelaySettings) (now : Instant) (attempt : Attempt)
    {other : OutboxMessage} (claimed : Claimed world other) (differ : other.id ≠ message.id) :
    Claimed (dispatchRow settings now attempt world message).1 other := by
  rcases claimed with ⟨row, member, same, pending⟩
  refine ⟨row, ?_, same, pending⟩
  rw [Outbox.dispatchRow, settleRow]
  split
  · refine mem_applyMark.mpr ⟨row, member, ?_⟩
    rw [if_neg]
    rw [same.1]
    exact differ
  · exact member

variable {attempts : Uuid → Attempt}

/-- The loop over a claimed batch keeps the invariant. -/
theorem Faithful.dispatchAll {report : RelayTickReport}
    {batch : List OutboxMessage} (faithful : Faithful exempt world)
    (claimed : ∀ message ∈ batch, Claimed world message)
    (decisive : ∀ message ∈ batch, Decisive settings (attempts message.id) world.processed message)
    (nodup : (batch.map fun message => message.id).Nodup) :
    Faithful exempt (dispatchAll settings now attempts world report batch).1 := by
  induction batch generalizing world report with
  | nil => exact faithful
  | cons message rest ih =>
    have preserved := faithful.dispatchRow now
      (claimed message (.head _)) (decisive message (.head _))
    rw [List.map_cons, List.nodup_cons] at nodup
    rw [Outbox.dispatchAll]
    split
    · rename_i next mark dispatched
      rw [dispatched] at preserved
      apply ih preserved
      · intro other member
        have differ : other.id ≠ message.id := by
          intro equal
          rw [← equal] at nodup
          exact nodup.1 (List.mem_map_of_mem member)
        have kept := (claimed other (.tail _ member)).dispatchRow
          settings now (attempts message.id) differ
        rw [dispatched] at kept
        exact kept
      · intro other member plan mark known marked fresh
        refine decisive other (.tail _ member) plan mark known marked
          fun recorded => fresh ?_
        have kept := processed_dispatchRow settings now (attempts message.id) message recorded
        rw [dispatched] at kept
        exact kept
      · exact nodup.2
    · rename_i next dispatched
      rw [dispatched] at preserved
      exact preserved

/-- The claim only stamps leases. -/
theorem Faithful.claimBatch (faithful : Faithful exempt world) {batchSize : Int} {workerId : String}
    {lockedElsewhere : Uuid → Bool} :
    Faithful exempt
      { world with
        outbox := (claimBatch world.outbox now batchSize workerId lockedElsewhere).1 } := by
  have origin : ∀ next ∈
      (Outbox.claimBatch world.outbox now batchSize workerId lockedElsewhere).1.rows,
      ∃ old ∈ world.outbox.rows, SameJob next.toOutboxMessage old.toOutboxMessage ∧
        next.status = old.status := by
    intro next member
    rcases mem_rows_claimBatch.mp member with ⟨old, oldMember, equal⟩
    refine ⟨old, oldMember, ?_⟩
    split at equal
    · subst equal
      exact ⟨⟨rfl, rfl, rfl, rfl⟩, rfl⟩
    · subst equal
      exact ⟨SameJob.refl _, rfl⟩
  constructor
  · intro left leftMember right rightMember leftGuarded rightGuarded shared leftMark rightMark
    rcases origin left leftMember with ⟨oldLeft, oldLeftMember, leftSame, _⟩
    rcases origin right rightMember with ⟨oldRight, oldRightMember, rightSame, _⟩
    rw [leftSame.1, rightSame.1]
    rw [leftSame.rowMark_eq] at leftMark
    rw [rightSame.rowMark_eq] at rightMark
    exact faithful.separated oldLeft oldLeftMember oldRight oldRightMember
      (leftSame.guarded leftGuarded) (rightSame.guarded rightGuarded) shared leftMark rightMark
  · intro next member isGuarded status notExempt
    rcases origin next member with ⟨old, oldMember, same, sameStatus⟩
    rw [sameStatus] at status
    rw [same.1] at notExempt
    exact same.symm.effectDone
      (faithful.delivered old oldMember (same.guarded isGuarded) status notExempt)
  intro next member isGuarded status mark marked recorded
  rcases origin next member with ⟨old, oldMember, same, sameStatus⟩
  rw [sameStatus] at status
  rw [same.rowMark_eq] at marked
  exact same.symm.effectDone
    (faithful.marked old oldMember (same.guarded isGuarded) status mark marked recorded)

/-- A tick whose dispatches are decisive keeps the invariant. -/
theorem Faithful.execute (faithful : Faithful exempt world)
    (safe : Safe settings world (.tick now attempts)) :
    Faithful exempt (execute settings now attempts world).1 := by
  apply faithful.claimBatch.dispatchAll
  · intro message claimed
    rcases mem_claimBatch claimed with ⟨row, member, due, _, equal⟩
    refine ⟨(leaseStamp now settings.workerId).apply row, ?_, ?_, due.1⟩
    · refine mem_rows_claimBatch.mpr ⟨row, member, ?_⟩
      rw [if_pos]
      rw [List.mem_map]
      exact ⟨message, claimed, by rw [equal]; rfl⟩
    · rw [equal]
      exact SameJob.refl _
  · intro message claimed
    rcases mem_claimBatch claimed with ⟨row, member, due, _, equal⟩
    subst equal
    exact safe row member due
  · exact nodup_claimBatch _ _ _ _ _

/-- Staged rows are pending and not yet marked. -/
theorem Faithful.produce {staged : List Staged} {outbox : OutboxTable}
    (faithful : Faithful exempt world) (safe : Safe settings world (.produce staged))
    (inserted : world.outbox.insertAll (staged.map Staged.row) = some outbox) :
    Faithful exempt { world with outbox := outbox } := by
  have rows := Table.rows_of_insertAll inserted
  constructor
  · rw [rows]
    exact safe.1
  · intro row member isGuarded status notExempt
    rw [rows, List.mem_append] at member
    rcases member with old | new
    · exact faithful.delivered row old isGuarded status notExempt
    · rcases List.mem_map.mp new with ⟨source, _, equal⟩
      subst equal
      cases status
  intro row member isGuarded status mark marked recorded
  rw [rows, List.mem_append] at member
  rcases member with old | new
  · exact faithful.marked row old isGuarded status mark marked recorded
  · rcases List.mem_map.mp new with ⟨source, isStaged, equal⟩
    subst equal
    exact absurd recorded (safe.2 source isStaged isGuarded mark marked)

theorem Faithful.step {event : Event} {next : World} (faithful : Faithful exempt world)
    (safe : Safe settings world event) (enabled : step settings world event = some next) :
    Faithful exempt next := by
  cases event with
  | tick now attempts =>
    cases enabled
    exact faithful.execute safe
  | produce staged =>
    rw [Outbox.step, Option.map_eq_some_iff] at enabled
    rcases enabled with ⟨outbox, inserted, equal⟩
    subst equal
    exact faithful.produce safe inserted

/-! ## Main result -/

/-- In every run whose dispatches either run their effect to the end when they record
a mark, or are the row's last attempt, a guarded row that becomes delivered had its
effect go through. -/
theorem delivered_effect_completed (settings : RelaySettings) {start finish : World}
    {events : List Event} (separated : Separated start.outbox.rows)
    (unmarked : ∀ row ∈ start.outbox.rows, Guarded row.toOutboxMessage → row.status = .pending →
      ∀ mark, rowMark row.toOutboxMessage = some mark → mark ∉ start.processed)
    (safe : Meets (step settings) (Safe settings) start events)
    (reached : run (step settings) start events = some finish) :
    ∀ row ∈ finish.outbox.rows, Guarded row.toOutboxMessage → row.status = .delivered →
      (∀ old ∈ start.outbox.rows, old.id = row.id → old.status ≠ .delivered) →
      EffectDone finish.completed row.toOutboxMessage := by
  have initial : Faithful
      (fun id => ∃ old ∈ start.outbox.rows, old.id = id ∧ old.status = .delivered) start := by
    constructor
    · exact separated
    · intro row membership _ status notExempt
      exact absurd ⟨row, membership, rfl, status⟩ notExempt
    · intro row membership isGuarded status mark marked recorded
      exact absurd recorded (unmarked row membership isGuarded status mark marked)
  have final := invariant_of_meets
    (fun _ _ _ faithful safe enabled => Faithful.step faithful safe enabled) initial safe reached
  intro row membership isGuarded status notBefore
  apply final.delivered row membership isGuarded status
  intro ⟨old, oldMember, sameId, oldStatus⟩
  exact notBefore old oldMember sameId oldStatus

/-! ### A retried email -/

def emailSettings : RelaySettings where
  batchSize := 100
  maxAttempts := 8
  workerId := "relay"
  retryBase := 30000000
  retryMax := 900000000

def emailRow : OutboxRow :=
  stagedRow 1 sendEmailJob
    [("to", .str "user@example.com"), ("template_name", .str "authentication/password_reset")]
    [] 0 0

def emailWorld : World := ⟨⟨[emailRow], List.nodup_singleton _⟩, [], []⟩

/-- An attempt on which every effect ends as given. -/
def attemptWith (result : EffectResult) : Attempt := ⟨none, none, fun _ => result⟩

/-- The retry of an email whose first sending failed is skipped as a duplicate, and
its row is delivered although nothing was ever sent. -/
theorem delivered_without_effect :
    ∃ finish row,
      run (step emailSettings) emailWorld
          [.tick 0 (fun _ => attemptWith (.err "delivery failed")),
            .tick 60000000 (fun _ => attemptWith .ok)] = some finish ∧
        finish.outbox.rows = [row] ∧ row.id = emailRow.id ∧ Guarded row.toOutboxMessage ∧
        row.status = .delivered ∧ finish.completed = [] := by
  exact ⟨_, _, rfl, rfl, rfl, rfl, rfl, rfl⟩

/-- The email that goes out at the first attempt. -/
theorem delivered_effect_completed_email :
    ∃ finish row,
      run (step emailSettings) emailWorld [.tick 0 (fun _ => attemptWith .ok)] = some finish ∧
        finish.outbox.rows = [row] ∧ row.status = .delivered ∧
        EffectDone finish.completed row.toOutboxMessage := by
  have separated : Separated emailWorld.outbox.rows := by
    intro left leftMember right rightMember _ _ _ _ _
    rw [List.mem_singleton.mp leftMember, List.mem_singleton.mp rightMember]
  have safe : Meets (step emailSettings) (Safe emailSettings) emailWorld
      [.tick 0 (fun _ => attemptWith .ok)] := by
    refine ⟨?_, fun _ _ => trivial⟩
    intro row membership _ plan _ known _ _ _ _
    rw [List.mem_singleton.mp membership] at known ⊢
    cases known
    exact .inl ⟨_, rfl, rfl⟩
  have unmarked : ∀ row ∈ emailWorld.outbox.rows, Guarded row.toOutboxMessage →
      row.status = .pending → ∀ mark, rowMark row.toOutboxMessage = some mark →
        mark ∉ emailWorld.processed := fun _ _ _ _ _ _ => List.not_mem_nil
  refine ⟨_, _, rfl, rfl, rfl, ?_⟩
  apply delivered_effect_completed emailSettings separated unmarked safe rfl
  · exact List.mem_singleton.mpr rfl
  · rfl
  · rfl
  · intro old membership _
    rw [List.mem_singleton.mp membership]
    exact Status.noConfusion

end StarterTemplate.Outbox
