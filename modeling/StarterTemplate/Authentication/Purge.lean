import StarterTemplate.Authentication.Statements

/-!
# The purge of expired tokens

`PurgeExpiredTokens` deletes the tokens past the retention window from both tables, in
batches that commit one by one, until a batch is empty.  The foreign key between refresh
tokens clears the links to those that a batch deletes.  The purge ends, and leaves
exactly the tokens that are not eligible.
-/

namespace StarterTemplate.Authentication

open Library Database Prog

/-- `PurgeReport`. -/
structure PurgeReport where
  refreshTokensDeleted : Nat
  internalTokensDeleted : Nat
  deriving DecidableEq

/-- A refresh token that `delete_expired_refresh_tokens` deletes. -/
def refreshTokenExpired (cutoff : Instant) (token : RefreshTokenRow) : Bool :=
  token.expiresAt < cutoff || token.revokedAt.any (· < cutoff)

/-- An internal token that `delete_expired_internal_tokens` deletes. -/
def internalTokenExpired (cutoff : Instant) (token : InternalTokenRow) : Bool :=
  token.usedAt.any (· < cutoff) || token.expiresAt < cutoff

/-- The token is linked to one with these ids. -/
def linkedTo (ids : List Uuid) (token : RefreshTokenRow) : Bool :=
  token.replacedByTokenId.any (· ∈ ids)

/-- `replaced_by_token_id = NULL`. -/
def unlinkPatch : Patch Row :=
  refreshTokenPatch (fun token => { token with replacedByTokenId := none }) fun _ => rfl

/-- `ON DELETE SET NULL` of the foreign keys that refer to the rows of a table: only refresh
tokens are referred to. -/
def setNull : Kind → List Uuid → App Unit
  | .refreshToken, ids =>
    .lock .other (onTable Row.refreshToken? (linkedTo ids)) (.patch unlinkPatch) fun _ => .done ()
  | _, _ => .done ()

/-- `DELETE … WHERE id IN (SELECT id … LIMIT 10000)`, with its row count. -/
def deleteBatch (kind : Kind) (eligible : kind.Record → Bool) : App Nat := do
  let found ← selectFrom .other kind.read eligible
  let ids := (found.take 10000).map kind.id
  let deleted ← .lock .other (onTable kind.read fun record => kind.id record ∈ ids) .remove
    fun rows => .done rows.length
  setNull kind ids
  return deleted

/-- Batches in transactions of their own until one is empty: the total count, or nothing when
that takes more than `fuel` batches. -/
def deleteInBatches (kind : Kind) (eligible : kind.Record → Bool) :
    (fuel total : Nat) → App (Option Nat)
  | 0, _ => return none
  | fuel + 1, total => do
      let deleted ← deleteBatch kind eligible
      commit
      if deleted = 0 then return some total
      else deleteInBatches kind eligible fuel (total + deleted)

/-- `PurgeExpiredTokens.execute`. -/
def purgeExpiredTokens (fuel : Nat) (retentionDays : Int) (now : Instant) :
    App (Option (Answer PurgeReport)) := do
  match Instant.add now (-(retentionDays * Duration.microsPerDay)) with
  | none => return some (.raised "OverflowError")
  | some cutoff =>
    match ← deleteInBatches .refreshToken (refreshTokenExpired cutoff) fuel 0 with
    | none => return none
    | some refreshDeleted =>
      match ← deleteInBatches .internalToken (internalTokenExpired cutoff) fuel 0 with
      | none => return none
      | some internalDeleted => return some (.ok ⟨refreshDeleted, internalDeleted⟩)

/-! ## Links -/

variable {committed seen : Tables} {kind : Kind}

/-- A token without its link to one of the ids. -/
def unlink (ids : List Uuid) (token : RefreshTokenRow) : RefreshTokenRow :=
  if linkedTo ids token then { token with replacedByTokenId := none } else token

/-- What the foreign keys do to the records of a table from which ids are deleted. -/
def unlinked : (kind : Kind) → List Uuid → kind.Record → kind.Record
  | .refreshToken, ids => unlink ids
  | _, _ => id

/-- The change leaves everything but the link of a token. -/
structure Relinks (change : RefreshTokenRow → RefreshTokenRow) : Prop where
  tokenHash : ∀ token, (change token).tokenHash = token.tokenHash
  familyId : ∀ token, (change token).familyId = token.familyId
  expiresAt : ∀ token, (change token).expiresAt = token.expiresAt
  revokedAt : ∀ token, (change token).revokedAt = token.revokedAt

theorem unlink_relinks (ids : List Uuid) : Relinks (unlink ids) where
  tokenHash token := by rw [unlink]; split <;> rfl
  familyId token := by rw [unlink]; split <;> rfl
  expiresAt token := by rw [unlink]; split <;> rfl
  revokedAt token := by rw [unlink]; split <;> rfl

theorem unlink_unlink (first second : List Uuid) (token : RefreshTokenRow) :
    unlink second (unlink first token) = unlink (first ++ second) token := by
  cases isLink : token.replacedByTokenId with
  | none => simp [unlink, linkedTo, isLink]
  | some next =>
    by_cases isFirst : next ∈ first
    · simp [unlink, linkedTo, isLink, isFirst]
    · simp [unlink, linkedTo, isLink, isFirst]

@[simp] theorem id_unlinked (ids : List Uuid) (record : kind.Record) :
    kind.id (unlinked kind ids record) = kind.id record := by
  cases kind with
  | refreshToken =>
    simp only [unlinked, unlink]
    split
    · rfl
    · rfl
  | _ => rfl

theorem unlinked_nil (record : kind.Record) : unlinked kind [] record = record := by
  cases kind with
  | refreshToken => cases isLink : record.replacedByTokenId <;> simp [unlinked, unlink, linkedTo, isLink]
  | _ => rfl

theorem unlinked_unlinked (first second : List Uuid) (record : kind.Record) :
    unlinked kind second (unlinked kind first record) = unlinked kind (first ++ second) record := by
  cases kind with
  | refreshToken => exact unlink_unlink first second record
  | _ => rfl

theorem shows_setNull (kind : Kind) (ids : List Uuid) :
    Triple model (Shows committed seen) (setNull kind ids)
      fun _ => Shows committed (seen.mark kind (unlinked kind ids)) := by
  cases kind with
  | refreshToken => exact shows_patch (marks_where .refreshToken (fun _ => rfl) (linkedTo ids))
  | _ =>
    simp only [unlinked, Tables.mark_eq_self fun _ _ => id_eq _]
    exact ⟨fun _ holds => holds⟩

/-! ## One batch -/

/-- The records with the ids of some of them are those. -/
theorem filter_ids {records batch : List kind.Record} (isSublist : batch.Sublist records)
    (distinct : (records.map kind.id).Nodup) :
    records.filter (fun record => kind.id record ∈ batch.map kind.id) = batch := by
  induction isSublist with
  | slnil => rfl
  | cons record isSublist ih =>
    rw [List.map_cons, List.nodup_cons] at distinct
    have absent : kind.id record ∉ List.map kind.id _ :=
      fun present => distinct.1 ((isSublist.map kind.id).mem present)
    rw [List.filter_cons_of_neg (by simpa using absent), ih distinct.2]
  | cons_cons record isSublist ih =>
    rw [List.map_cons, List.nodup_cons] at distinct
    rw [List.filter_cons_of_pos (by simp)]
    refine congrArg (record :: ·) ((List.filter_congr ?_).trans (ih distinct.2))
    intro other member
    have differ : kind.id other ≠ kind.id record :=
      fun same => distinct.1 (same ▸ List.mem_map_of_mem member)
    simp [differ]

theorem length_onTable (test : kind.Record → Bool) (rows : List Row) :
    (rows.filter (onTable kind.read test)).length =
      ((rows.filterMap kind.read).filter test).length := by
  rw [filter_onTable, List.length_map]

/-- The records that a batch deletes. -/
def batchOf (eligible : kind.Record → Bool) (records : List kind.Record) : List kind.Record :=
  (records.filter eligible).take 10000

/-- The tables after a batch. -/
def afterBatch (kind : Kind) (eligible : kind.Record → Bool) (content : Tables) : Tables :=
  (content.keep kind fun record =>
    !(kind.id record ∈ (batchOf eligible (content kind)).map kind.id)).mark kind
      (unlinked kind ((batchOf eligible (content kind)).map kind.id))

theorem shows_deleteBatch (eligible : kind.Record → Bool) :
    Triple model (Shows committed seen) (deleteBatch kind eligible)
      fun deleted state => deleted = (batchOf eligible (seen kind)).length ∧
        Shows committed (afterBatch kind eligible seen) state := by
  apply shows_nodup
  intro distinct
  apply (shows_select kind _ _).bind_knowing
  intro found isFound
  have isBatch : found.take 10000 = batchOf eligible (seen kind) := by rw [isFound, batchOf]
  rw [isBatch]
  have removed : Triple model (Shows committed seen)
      (.lock .other (onTable kind.read fun record =>
        kind.id record ∈ (batchOf eligible (seen kind)).map kind.id) .remove
          fun rows => .done rows.length : App Nat)
      fun deleted state => deleted = (batchOf eligible (seen kind)).length ∧
        Shows committed (seen.keep kind fun record =>
          !(kind.id record ∈ (batchOf eligible (seen kind)).map kind.id)) state := by
    constructor
    intro state holds
    have deleted := (shows_delete kind .other fun record =>
      decide (kind.id record ∈ (batchOf eligible (seen kind)).map kind.id)).ends state holds
    refine ⟨Eq.trans ?_ (congrArg List.length
      (filter_ids ((List.take_sublist _ _).trans List.filter_sublist) (distinct kind))), deleted⟩
    rw [← holds.seen]
    exact length_onTable _ _
  apply removed.bind_knowing
  intro deleted isDeleted
  apply (shows_setNull kind _).bind
  intro _
  exact ⟨fun _ holds => ⟨isDeleted, holds⟩⟩

/-! ## The sweep -/

/-- The tables without the eligible records of one table, and without the links to them. -/
def swept (kind : Kind) (eligible : kind.Record → Bool) (content : Tables) : Tables :=
  (content.keep kind fun record => !eligible record).mark kind
    (unlinked kind (((content kind).filter eligible).map kind.id))

/-- Links do not matter for what is eligible. -/
def Blind (kind : Kind) (eligible : kind.Record → Bool) : Prop :=
  ∀ ids record, eligible (unlinked kind ids record) = eligible record

theorem swept_of_none {eligible : kind.Record → Bool}
    (noneEligible : (seen kind).filter eligible = []) : swept kind eligible seen = seen := by
  have passes : ∀ record ∈ seen kind, (!eligible record) = true := by
    intro record member
    simpa using List.filter_eq_nil_iff.mp noneEligible record member
  rw [swept, Tables.keep_eq_self passes, noneEligible]
  exact Tables.mark_eq_self fun record _ => unlinked_nil record

theorem afterBatch_of_none {eligible : kind.Record → Bool}
    (noBatch : batchOf eligible (seen kind) = []) : afterBatch kind eligible seen = seen := by
  rw [afterBatch, noBatch, Tables.keep_eq_self (by simp)]
  exact Tables.mark_eq_self fun record _ => unlinked_nil record

/-- The records without the ids of the first ones are the other ones. -/
theorem filter_not_taken (count : Nat) {records : List kind.Record}
    (distinct : (records.map kind.id).Nodup) :
    (records.filter fun record => !(kind.id record ∈ (records.take count).map kind.id)) =
      records.drop count := by
  have apart : ((records.take count).map kind.id ++ (records.drop count).map kind.id).Nodup := by
    rw [← List.map_append, List.take_append_drop]
    exact distinct
  have later := (List.nodup_append.mp apart).2.2
  generalize isTaken : records.take count = taken at later
  generalize isDropped : records.drop count = dropped at later
  have parts : records = taken ++ dropped := by
    rw [← isTaken, ← isDropped, List.take_append_drop]
  rw [parts, List.filter_append, List.filter_eq_nil_iff.mpr, List.filter_eq_self.mpr,
    List.nil_append]
  · intro record isLater
    have absent : kind.id record ∉ taken.map kind.id :=
      fun isBefore => later _ isBefore _ (List.mem_map_of_mem isLater) rfl
    simpa using absent
  · intro record isBefore
    have present : kind.id record ∈ taken.map kind.id := List.mem_map_of_mem isBefore
    simpa using present

section

variable {eligible : kind.Record → Bool} (blind : Blind kind eligible)
  (distinct : ((seen kind).map kind.id).Nodup)
include blind distinct

/-- The eligible records after a batch are those that did not fit into it. -/
theorem filter_afterBatch :
    (afterBatch kind eligible seen kind).filter eligible =
      (((seen kind).filter eligible).drop 10000).map
        (unlinked kind ((batchOf eligible (seen kind)).map kind.id)) := by
  have distinctEligible : (((seen kind).filter eligible).map kind.id).Nodup :=
    distinct.sublist (List.filter_sublist.map kind.id)
  rw [← filter_not_taken 10000 distinctEligible, afterBatch, Tables.mark_self, Tables.keep_self,
    List.filter_map, List.filter_filter, List.filter_filter, batchOf]
  simp only [Function.comp_def, blind _ _, Bool.and_comm]

/-- A batch leaves what is not eligible, and fewer eligible records. -/
theorem swept_afterBatch :
    swept kind eligible (afterBatch kind eligible seen) = swept kind eligible seen ∧
      ((seen kind).filter eligible).length = (batchOf eligible (seen kind)).length +
        ((afterBatch kind eligible seen kind).filter eligible).length := by
  have parts : batchOf eligible (seen kind) ++ ((seen kind).filter eligible).drop 10000 =
      (seen kind).filter eligible := List.take_append_drop 10000 _
  have spared : ∀ record ∈ seen kind, eligible record = false →
      kind.id record ∉ (batchOf eligible (seen kind)).map kind.id := by
    intro record member notEligible inBatch
    rcases List.mem_map.mp inBatch with ⟨other, isOther, sameId⟩
    have selected := List.mem_filter.mp (List.mem_of_mem_take isOther)
    rw [List.inj_on_of_nodup_map distinct selected.1 member sameId, notEligible] at selected
    exact Bool.false_ne_true selected.2
  have sameKept : (afterBatch kind eligible seen).keep kind (fun record => !eligible record) =
      (seen.keep kind fun record => !eligible record).mark kind
        (unlinked kind ((batchOf eligible (seen kind)).map kind.id)) := by
    rw [afterBatch, Tables.keep_mark, Tables.keep_keep]
    congr 1
    apply Tables.keep_congr
    intro record member
    rw [blind]
    cases found : eligible record with
    | true => rfl
    | false => simpa using spared record member found
  constructor
  · rw [swept, sameKept, Tables.mark_mark, swept]
    apply Tables.mark_congr
    intro record _
    rw [unlinked_unlinked, filter_afterBatch blind distinct, List.map_map]
    simp only [Function.comp_def, id_unlinked]
    rw [← List.map_append, parts]
  · rw [filter_afterBatch blind distinct, List.length_map, ← List.length_append, parts]

end

theorem shows_deleteInBatches (kind : Kind) {eligible : kind.Record → Bool}
    (blind : Blind kind eligible) (fuel total : Nat)
    (enough : ((seen kind).filter eligible).length < fuel) :
    Triple model (Shows committed seen) (deleteInBatches kind eligible fuel total)
      fun result state => result = some (total + ((seen kind).filter eligible).length) ∧
        Shows (swept kind eligible seen) (swept kind eligible seen) state := by
  induction fuel generalizing committed seen total with
  | zero => cases enough
  | succ fuel ih =>
    apply shows_nodup
    intro distinct
    rcases swept_afterBatch blind (distinct kind) with ⟨sameRest, count⟩
    apply (shows_deleteBatch eligible).bind_knowing
    intro deleted isDeleted
    apply shows_commit.bind
    intro _
    by_cases isEmpty : deleted = 0
    · simp only [isEmpty, if_true]
      have noBatch : batchOf eligible (seen kind) = [] := by
        rw [← List.length_eq_zero_iff, ← isDeleted, isEmpty]
      have noneEligible : (seen kind).filter eligible = [] := by
        simpa [batchOf] using noBatch
      rw [noneEligible, swept_of_none noneEligible, afterBatch_of_none noBatch]
      exact shows_done _
    simp only [isEmpty, if_false]
    rw [count, ← isDeleted, ← Nat.add_assoc, ← sameRest]
    apply ih
    omega

theorem blind_refreshTokenExpired (cutoff : Instant) :
    Blind .refreshToken (refreshTokenExpired cutoff) := by
  intro ids token
  simp only [unlinked, unlink]
  split
  · rfl
  · rfl

/-- The tables after a purge. -/
def purgedTables (cutoff : Instant) (content : Tables) : Tables :=
  swept .internalToken (internalTokenExpired cutoff)
    (swept .refreshToken (refreshTokenExpired cutoff) content)

/-- With fuel for one batch per token the purge ends. -/
theorem shows_purgeExpiredTokens (fuel : Nat) (retentionDays : Int) (now : Instant)
    (enough : (seen .refreshToken).length < fuel ∧ (seen .internalToken).length < fuel) :
    Triple model (Shows seen seen) (purgeExpiredTokens fuel retentionDays now)
      fun result state =>
        match Instant.add now (-(retentionDays * Duration.microsPerDay)) with
        | none => result = some (.raised "OverflowError") ∧ tables state.store = seen
        | some cutoff =>
          result = some (.ok
            ⟨((seen .refreshToken).filter (refreshTokenExpired cutoff)).length,
              ((seen .internalToken).filter (internalTokenExpired cutoff)).length⟩) ∧
            tables state.store = purgedTables cutoff seen := by
  rw [purgeExpiredTokens]
  cases Instant.add now (-(retentionDays * Duration.microsPerDay)) with
  | none => exact ⟨fun _ holds => ⟨rfl, holds.committed⟩⟩
  | some cutoff =>
    have enoughRefresh : ((seen .refreshToken).filter (refreshTokenExpired cutoff)).length < fuel :=
      Nat.lt_of_le_of_lt (List.length_filter_le _ _) enough.1
    have sameInternal : swept .refreshToken (refreshTokenExpired cutoff) seen .internalToken =
        seen .internalToken := rfl
    have enoughInternal : ((swept .refreshToken (refreshTokenExpired cutoff) seen
        .internalToken).filter (internalTokenExpired cutoff)).length < fuel :=
      Nat.lt_of_le_of_lt (List.length_filter_le _ _) (sameInternal ▸ enough.2)
    apply (shows_deleteInBatches .refreshToken (blind_refreshTokenExpired cutoff) fuel 0
      enoughRefresh).bind_knowing
    intro refreshDeleted isRefresh
    subst isRefresh
    apply (shows_deleteInBatches .internalToken (fun _ _ => rfl) fuel 0 enoughInternal).bind_knowing
    intro internalDeleted isInternal
    subst isInternal
    constructor
    intro state holds
    refine ⟨?_, holds.committed⟩
    simp [Prog.alone, sameInternal]

/-! ## The tables after a purge -/

/-- The refresh tokens that a purge deletes, by their ids. -/
def purgedIds (cutoff : Instant) (tokens : List RefreshTokenRow) : List Uuid :=
  (tokens.filter (refreshTokenExpired cutoff)).map RefreshTokenRow.id

section

variable (cutoff : Instant) (content : Tables)
include cutoff content

theorem purgedTables_refreshToken :
    purgedTables cutoff content .refreshToken =
      ((content .refreshToken).filter fun token => !refreshTokenExpired cutoff token).map
        (unlink (purgedIds cutoff (content .refreshToken))) := rfl

theorem purgedTables_internalToken :
    purgedTables cutoff content .internalToken =
      (content .internalToken).filter fun token => !internalTokenExpired cutoff token :=
  List.map_id _

theorem purgedTables_of_ne {kind : Kind} (notRefresh : kind ≠ .refreshToken)
    (notInternal : kind ≠ .internalToken) : purgedTables cutoff content kind = content kind := by
  rw [purgedTables, swept, Tables.mark_of_ne _ notInternal, Tables.keep_of_ne _ notInternal, swept,
    Tables.mark_of_ne _ notRefresh, Tables.keep_of_ne _ notRefresh]

end

end StarterTemplate.Authentication
