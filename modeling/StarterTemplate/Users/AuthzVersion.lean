import StarterTemplate.Library.Discipline
import StarterTemplate.Users.VersionProtocol

/-!
# Bumps of the version

Every transaction that bumps `authz_version` reads the row and later writes the version
it computed from that read.  The row is not locked by the read, so a bump is lost when
two transactions read before either of them commits.  As long as no two transactions
that have read one user's row for a bump are open together, the committed version
counts the committed bumps.
-/

namespace StarterTemplate.Users

open Library Database Authentication Authorization ReadCommitted

/-! ## The version of a user -/

/-- The version of a user in a table. -/
def authzVersion (userId : Uuid) (table : Table Row) : Option Int :=
  ((table.find (.user userId)).bind Row.user?).map UserRow.authzVersion

variable {userId : Uuid}

theorem authzVersion_eq_some {table : Table Row} {version : Int} :
    authzVersion userId table = some version ↔
      ∃ user, Row.user user ∈ table.rows ∧ user.id = userId ∧ user.authzVersion = version := by
  simp only [authzVersion, Option.map_eq_some_iff, Option.bind_eq_some_iff, Table.find_eq_some]
  constructor
  · rintro ⟨user, ⟨row, ⟨present, isKey⟩, isUser⟩, isVersion⟩
    cases row with
    | user row =>
      cases isUser
      exact ⟨user, present, RowKey.user.inj isKey, isVersion⟩
    | _ => cases isUser
  · rintro ⟨user, present, isId, isVersion⟩
    exact ⟨user, ⟨.user user, ⟨present, congrArg RowKey.user isId⟩, rfl⟩, isVersion⟩

/-- Two tables agree on the row of the user. -/
def SameUser (userId : Uuid) (left right : Table Row) : Prop :=
  ∀ row, key row = .user userId → (row ∈ left.rows ↔ row ∈ right.rows)

theorem SameUser.version {left right : Table Row} (same : SameUser userId left right) :
    authzVersion userId left = authzVersion userId right := by
  apply Option.ext
  intro version
  rw [authzVersion_eq_some, authzVersion_eq_some]
  constructor
  · rintro ⟨user, present, isId, isVersion⟩
    exact ⟨user, (same _ (congrArg RowKey.user isId)).mp present, isId, isVersion⟩
  · rintro ⟨user, present, isId, isVersion⟩
    exact ⟨user, (same _ (congrArg RowKey.user isId)).mpr present, isId, isVersion⟩

variable {Value : Type} {process later : Process Row Site CacheCall CacheReply Value}
variable {store : Table Row}

/-- A process sees the committed row when it has not written the row itself. -/
theorem sameUser_view (notOwn : RowKey.user userId ∉ process.own.rows.map key)
    (kept : RowKey.user userId ∉ process.dropped) :
    SameUser userId (process.view store) store := by
  intro row isUser
  rw [Process.mem_view, isUser]
  constructor
  · rintro ⟨own | ⟨stored, _⟩, _⟩
    · exact absurd (isUser ▸ List.mem_map_of_mem own) notOwn
    · exact stored
  · intro stored
    exact ⟨.inr ⟨stored, notOwn⟩, kept⟩

/-- What a process sees of the user when the committed row stays. -/
theorem SameUser.view {other : Table Row} (same : SameUser userId store other) :
    SameUser userId (process.view store) (process.view other) := by
  intro row isUser
  rw [Process.mem_view, Process.mem_view, same row isUser]

/-- What a process sees of the user when its own version of the row stays. -/
theorem sameUser_own
    (own : ∀ row, key row = .user userId → (row ∈ later.own.rows ↔ row ∈ process.own.rows))
    (dropped : RowKey.user userId ∈ later.dropped ↔ RowKey.user userId ∈ process.dropped) :
    SameUser userId (later.view store) (process.view store) := by
  have keys : RowKey.user userId ∈ later.own.rows.map key ↔
      RowKey.user userId ∈ process.own.rows.map key := by
    simp only [List.mem_map]
    constructor
    · rintro ⟨row, member, isUser⟩
      exact ⟨row, (own row isUser).mp member, isUser⟩
    · rintro ⟨row, member, isUser⟩
      exact ⟨row, (own row isUser).mpr member, isUser⟩
  intro row isUser
  rw [Process.mem_view, Process.mem_view, own row isUser, isUser, keys, dropped]

/-! ## The state of a bumping transaction -/

/-- The process is inside the update that bumps the version. -/
def Inside (userId : Uuid) (code : Code Row Site CacheCall CacheReply Value) : Prop :=
  ∃ test change pending got next, code = .locking (.bump userId) test change pending got next

/-- The committed version with the bumps of the transaction added. -/
def countedVersion (userId : Uuid) (store : Table Row) (visited : List Site) : Option Int :=
  (authzVersion userId store).map (· + (visited.count (.bump userId) : Int))

/-- What holds of a process at a stage of the protocol. -/
structure Counted (userId : Uuid) (store : Table Row)
    (process : Process Row Site CacheCall CacheReply Value) (stage : VersionStage) : Prop where
  kept : RowKey.user userId ∉ process.dropped
  unread : Site.readVersion userId ∉ process.visited →
    RowKey.user userId ∉ process.own.rows.map key ∧ Site.bump userId ∉ process.visited ∧
      stage = .idle
  outside : ¬ Inside userId process.code →
    authzVersion userId (process.view store) = countedVersion userId store process.visited ∧
      ∀ version, stage = .read version →
        authzVersion userId (process.view store) = some version
  inside : ∀ test change pending got next,
    process.code = .locking (.bump userId) test change pending got next →
    (pending = [.user userId] ∧ ∃ version, stage = .read version ∧
        authzVersion userId (process.view store) = some version ∧
        countedVersion userId store process.visited = some (version + 1)) ∨
      (pending = [] ∧
        authzVersion userId (process.view store) = countedVersion userId store process.visited)

variable {stage : VersionStage}

theorem not_inside_running {code : Code Row Site CacheCall CacheReply Value}
    (running : code.Running) : ¬ Inside userId code := by
  rintro ⟨_, _, _, _, _, isLocking⟩
  rcases running with ⟨prog, isRunning⟩
  simp [isRunning] at isLocking

variable {change : Change Row} {got : List Row} {next : List Row → App Value}
variable {pending : List RowKey} {site : Site} {test : Row → Bool}

theorem not_inside_other (noBump : site ≠ .bump userId) :
    ¬ Inside userId (.locking site test change pending got next) := by
  rintro ⟨_, _, _, _, _, isBump⟩
  cases isBump
  exact noBump rfl

theorem Counted.fresh (code : Code Row Site CacheCall CacheReply Value)
    (notInside : ¬ Inside userId code) : Counted userId store (.fresh code) .idle := by
  have same : SameUser userId ((Process.fresh code).view store) store :=
    sameUser_view (by simp [Process.fresh]) (by simp [Process.fresh])
  refine ⟨by simp [Process.fresh], fun _ => by simp [Process.fresh], fun _ => ⟨?_, by simp⟩, ?_⟩
  · rw [same.version]
    simp [countedVersion, Process.fresh]
  · intro test change pending got next isInside
    exact absurd ⟨_, _, _, _, _, isInside⟩ notInside

/-- A step outside the bump that leaves the row of the user alone. -/
theorem Counted.moved (counted : Counted userId store process stage)
    (outside : ¬ Inside userId process.code) (laterOutside : ¬ Inside userId later.code)
    (own : ∀ row, key row = .user userId → (row ∈ later.own.rows ↔ row ∈ process.own.rows))
    (dropped : RowKey.user userId ∈ later.dropped ↔ RowKey.user userId ∈ process.dropped)
    (visited : later.visited = process.visited ∨
      ∃ site, site ≠ .bump userId ∧ later.visited = site :: process.visited) :
    Counted userId store later stage := by
  have same : SameUser userId (later.view store) (process.view store) := sameUser_own own dropped
  have grows : ∀ site ∈ process.visited, site ∈ later.visited := by
    rcases visited with isSame | ⟨_, _, isMore⟩
    · rw [isSame]
      exact fun _ => id
    · rw [isMore]
      exact fun _ => List.mem_cons_of_mem _
  have bump : Site.bump userId ∈ later.visited ↔ Site.bump userId ∈ process.visited := by
    rcases visited with isSame | ⟨site, noBump, isMore⟩
    · rw [isSame]
    · simp [isMore, noBump.symm]
  have count : countedVersion userId store later.visited =
      countedVersion userId store process.visited := by
    rcases visited with isSame | ⟨site, noBump, isMore⟩
    · rw [isSame]
    · simp [countedVersion, isMore, noBump]
  constructor
  · rw [dropped]
    exact counted.kept
  · intro notRead
    rcases counted.unread fun read => notRead (grows _ read) with ⟨notOwn, noBump, idle⟩
    refine ⟨?_, ?_, idle⟩
    · intro isOwn
      rcases List.mem_map.mp isOwn with ⟨row, member, isUser⟩
      exact notOwn (isUser ▸ List.mem_map_of_mem ((own row isUser).mp member))
    · rw [bump]
      exact noBump
  · intro _
    rw [same.version, count]
    exact counted.outside outside
  · intro test change pending got next isInside
    exact absurd ⟨_, _, _, _, _, isInside⟩ laterOutside

/-- The version that the rows of a read hold. -/
theorem authzVersion_of_read {table : Table Row} {version : Int}
    (isRead : stageOfRead (table.rows.filter (onTable Row.user? fun user => user.id == userId)) =
      .read version) : authzVersion userId table = some version := by
  rw [stageOfRead] at isRead
  split at isRead
  · rename_i user found
    cases isRead
    rcases List.mem_filterMap.mp (List.mem_of_head? found) with ⟨row, member, isUser⟩
    rcases List.mem_filter.mp member with ⟨present, passes⟩
    cases row with
    | user other =>
      cases isUser
      exact authzVersion_eq_some.mpr ⟨user, present, by simpa [onTable, Row.user?] using passes, rfl⟩
    | _ => cases isUser
  · cases isRead

section

variable (counted : Counted userId store process stage)
include counted

theorem Counted.selected (running : process.code.Running) {next : VersionStage} (rest : App Value)
    (reads : Reads userId stage ((process.view store).rows.filter test) site test next) :
    Counted userId store
      { process with code := .running rest, visited := site :: process.visited } next := by
  have outside : ¬ Inside userId process.code := not_inside_running running
  cases reads with
  | version =>
    have moved : Counted userId store
        { process with
          code := .running rest
          visited := Site.readVersion userId :: process.visited } stage :=
      counted.moved outside (not_inside_running ⟨rest, rfl⟩) (fun _ _ => .rfl) .rfl
        (.inr ⟨_, by simp, rfl⟩)
    exact ⟨counted.kept, fun notRead => absurd (.head _) notRead, fun notInside =>
      ⟨(moved.outside notInside).1, fun version isRead => authzVersion_of_read isRead⟩, by simp⟩
  | other _ _ noRead noBump =>
    exact counted.moved outside (not_inside_running ⟨rest, rfl⟩) (fun _ _ => .rfl) .rfl
      (.inr ⟨_, noBump, rfl⟩)

/-- The bump has found the row. -/
theorem Counted.opened (running : process.code.Running) {later : VersionStage}
    (next : List Row → App Value) (writes : Writes userId stage site test change later) :
    Counted userId store
      { process with
        code := .locking site test change (((process.view store).rows.filter test).map key) [] next
        visited := site :: process.visited } stage := by
  have outside : ¬ Inside userId process.code := not_inside_running running
  cases writes with
  | bump version isRead patch sets =>
    rcases counted.outside outside with ⟨isCounted, readVersion⟩
    have seen := readVersion version isRead
    refine ⟨counted.kept, ?_, fun notInside => absurd ⟨_, _, _, _, _, rfl⟩ notInside, ?_⟩
    · intro notRead
      rcases counted.unread fun read => notRead (.tail _ read) with ⟨_, _, idle⟩
      simp [isRead] at idle
    intro _ _ _ _ _ isInside
    cases isInside
    refine .inl ⟨?_, version, isRead, seen, ?_⟩
    · rcases authzVersion_eq_some.mp seen with ⟨user, present, isId, _⟩
      subst isId
      exact Table.keys_filter_key present
    rw [isCounted, countedVersion, Option.map_eq_some_iff] at seen
    rcases seen with ⟨base, isBase, isSum⟩
    simp only [countedVersion, isBase, Option.map_some, List.count_cons_self, Nat.cast_add,
      Nat.cast_one, Option.some.injEq]
    omega
  | other _ _ _ noBump spares =>
    exact counted.moved outside (not_inside_other noBump) (fun _ _ => .rfl) .rfl
      (.inr ⟨_, noBump, rfl⟩)

/-- The bump writes the version that was read, plus one. -/
theorem Counted.granted {row : Row} {later : VersionStage}
    (writes : Writes userId stage site test change later)
    (code : process.code = .locking site test change (key row :: pending) got next)
    (found : row ∈ (process.view store).rows) (passes : test row = true) :
    Counted userId store
      (process.grant change row (.locking site test change pending (got ++ [row]) next)) stage := by
  cases writes with
  | bump version isRead patch sets =>
    rcases counted.inside _ _ _ _ _ code with ⟨isPending, read, isStage, seen, isNext⟩ | ⟨empty, _⟩
    · rcases List.cons.inj isPending with ⟨isUser, isEnd⟩
      subst isEnd
      cases isRead.symm.trans isStage
      have written : authzVersion userId ((process.grant (.patch patch) row
          (.locking (.bump userId) (fun row => decide (key row = .user userId)) (.patch patch) []
            (got ++ [row]) next)).view store) = some (version + 1) := by
        cases row with
        | user user =>
          rcases sets user with ⟨bumped, isBumped, isVersion⟩
          have sameKey := patch.keeps (.user user)
          rw [isBumped] at sameKey
          apply authzVersion_eq_some.mpr
          refine ⟨bumped, ?_, RowKey.user.inj (sameKey.trans isUser), isVersion⟩
          rw [← isBumped]
          exact (process.mem_view_grant_patch (isUser ▸ counted.kept)).mpr (.inl rfl)
        | _ => cases isUser
      refine ⟨counted.kept, ?_, fun notInside => absurd ⟨_, _, _, _, _, rfl⟩ notInside, ?_⟩
      · intro notRead
        rcases counted.unread notRead with ⟨_, _, idle⟩
        simp [isRead] at idle
      · intro _ _ _ _ _ isInside
        cases isInside
        exact .inr ⟨rfl, written.trans isNext.symm⟩
    · cases empty
  | other _ _ _ noBump spares =>
    have differ := spares row passes
    have outside : ¬ Inside userId process.code := code ▸ not_inside_other noBump
    cases change with
    | keep =>
      exact counted.moved outside (not_inside_other noBump) (fun _ _ => .rfl) .rfl (.inl rfl)
    | patch patch =>
      refine counted.moved outside (not_inside_other noBump) ?_ .rfl (.inl rfl)
      intro other isUser
      rw [← patch.keeps row] at differ
      simp only [Process.grant, Table.mem_put, isUser]
      refine ⟨?_, fun old => .inr ⟨old, differ.symm⟩⟩
      rintro (isRow | ⟨old, _⟩)
      · exact absurd (isRow ▸ isUser) differ
      · exact old
    | remove =>
      refine counted.moved outside (not_inside_other noBump) (fun _ _ => .rfl) ?_ (.inl rfl)
      simp [Process.grant, differ.symm]

/-- The row of a bump does not go away. -/
theorem Counted.skipped {target : RowKey} {later : VersionStage}
    (writes : Writes userId stage site test change later)
    (code : process.code = .locking site test change (target :: pending) got next)
    (gone : ∀ row ∈ (process.view store).rows, key row = target → test row = false) :
    Counted userId store { process with code := .locking site test change pending got next }
      stage := by
  cases writes with
  | bump version isRead patch sets =>
    rcases counted.inside _ _ _ _ _ code with ⟨isPending, _, _, seen, _⟩ | ⟨empty, _⟩
    · rcases authzVersion_eq_some.mp seen with ⟨user, present, isId, _⟩
      have isTarget : key (Row.user user) = target :=
        (congrArg RowKey.user isId).trans (List.cons.inj isPending).1.symm
      have passes : decide (key (Row.user user) = .user userId) = true :=
        decide_eq_true (congrArg RowKey.user isId)
      exact absurd (passes.symm.trans (gone _ present isTarget)) (by simp)
    · cases empty
  | other _ _ _ noBump spares =>
    have outside : ¬ Inside userId process.code := code ▸ not_inside_other noBump
    exact counted.moved outside (not_inside_other noBump) (fun _ _ => .rfl) .rfl (.inl rfl)

/-- At the end of a bump the version has been written. -/
theorem Counted.closed {later : VersionStage} (writes : Writes userId stage site test change later)
    (code : process.code = .locking site test change [] got next) :
    Counted userId store { process with code := .running (next got) } later := by
  cases writes with
  | bump version isRead patch sets =>
    rcases counted.inside _ _ _ _ _ code with ⟨isPending, _⟩ | ⟨_, isCounted⟩
    · cases isPending
    refine ⟨counted.kept, ?_, fun _ => ⟨isCounted, nofun⟩, by simp⟩
    intro notRead
    rcases counted.unread notRead with ⟨notOwn, noBump, _⟩
    exact ⟨notOwn, noBump, rfl⟩
  | other _ _ _ noBump spares =>
    have outside : ¬ Inside userId process.code := code ▸ not_inside_other noBump
    exact counted.moved outside (not_inside_running ⟨_, rfl⟩) (fun _ _ => .rfl) .rfl (.inl rfl)

theorem Counted.inserted (running : process.code.Running) {row : Row} (rest : App Value)
    (other : key row ≠ .user userId) :
    Counted userId store (process.add row (.running rest)) stage := by
  refine counted.moved (not_inside_running running) (not_inside_running ⟨rest, rfl⟩) ?_ ?_
    (.inl rfl)
  · intro old isUser
    simp only [Process.add, Table.mem_put, isUser]
    refine ⟨?_, fun isOld => .inr ⟨isOld, other.symm⟩⟩
    rintro (isRow | ⟨isOld, _⟩)
    · exact absurd (isRow ▸ isUser) other
    · exact isOld
  · simp [Process.add, other.symm]

end

/-- Both statements read one user's row for a bump. -/
def SameRead (left right : Site) : Prop :=
  ∃ userId, left = .readVersion userId ∧ right = .readVersion userId

/-- The commit of another transaction.  One of the two has not read the row for a bump. -/
theorem Counted.committedOther {other : Process Row Site CacheCall CacheReply Value}
    {otherStage : VersionStage} (counted : Counted userId store process stage)
    (apart : Apart SameRead process other) (otherCounted : Counted userId store other otherStage) :
    Counted userId (process.view store) other otherStage := by
  by_cases otherRead : Site.readVersion userId ∈ other.visited
  · have unread : Site.readVersion userId ∉ process.visited :=
      fun read => apart _ read _ otherRead ⟨userId, rfl, rfl⟩
    have sameStore : SameUser userId (process.view store) store :=
      sameUser_view (counted.unread unread).1 counted.kept
    have count : countedVersion userId (process.view store) other.visited =
        countedVersion userId store other.visited := by
      rw [countedVersion, sameStore.version, countedVersion]
    have seen : authzVersion userId (other.view (process.view store)) =
        authzVersion userId (other.view store) := sameStore.view.version
    refine ⟨otherCounted.kept, otherCounted.unread, ?_, ?_⟩
    · rw [seen, count]
      exact otherCounted.outside
    · rw [seen, count]
      exact otherCounted.inside
  rcases otherCounted.unread otherRead with ⟨notOwn, noBump, idle⟩
  have seen : authzVersion userId (other.view (process.view store)) =
      countedVersion userId (process.view store) other.visited := by
    rw [(sameUser_view notOwn otherCounted.kept).version, countedVersion,
      List.count_eq_zero.mpr noBump]
    simp
  refine ⟨otherCounted.kept, otherCounted.unread, fun _ => ⟨seen, by simp [idle]⟩, ?_⟩
  intro test change pending got next isInside
  rcases otherCounted.inside _ _ _ _ _ isInside with ⟨_, version, isRead, _⟩ | ⟨isEmpty, _⟩
  · simp [idle] at isRead
  · exact .inr ⟨isEmpty, seen⟩

/-! ## Whole runs -/

/-- The number of committed bumps of a user. -/
def committedBumps {Pid : Type} (userId : Uuid) (journal : List (Pid × Site)) : Nat :=
  (journal.map Prod.snd).count (.bump userId)

theorem committedBumps_append {Pid : Type} (pid : Pid) (visited : List Site)
    (journal : List (Pid × Site)) :
    committedBumps userId (visited.map (fun site => (pid, site)) ++ journal) =
      visited.count (.bump userId) + committedBumps userId journal := by
  simp [committedBumps, List.count_append, Function.comp_def]

theorem committedBumps_mono {Pid : Type} {before after : List (Pid × Site)}
    (grows : before <:+ after) : committedBumps userId before ≤ committedBumps userId after :=
  (grows.map Prod.snd).sublist.count_le _

/-- The committed version counts the committed bumps. -/
def CountsBumps {Pid : Type} (userId : Uuid) (initial : Option Int)
    (shared : Shared Pid Row Site PrincipalCache) : Prop :=
  authzVersion userId shared.store =
    initial.map (· + (committedBumps userId shared.journal : Int))

theorem Counted.committed {Pid : Type} {initial : Option Int}
    {shared : Shared Pid Row Site PrincipalCache} (counts : CountsBumps userId initial shared)
    (counted : Counted userId shared.store process stage) (running : process.code.Running)
    (pid : Pid) : CountsBumps userId initial (shared.commit pid process) := by
  have isCounted := (counted.outside (not_inside_running running)).1
  rw [countedVersion, counts] at isCounted
  rw [CountsBumps]
  simp only [Shared.commit, isCounted, committedBumps_append, Option.map_map]
  congr 1
  funext version
  simp only [Function.comp_apply, Nat.cast_add]
  omega

/-- The discipline of the bumps of one user. -/
def bumpDiscipline (Pid : Type) (userId : Uuid) (initial : Option Int) :
    Discipline model Pid Site (Answer Unit) VersionStage where
  protocol := versionProtocol userId
  post _ _ := True
  conflict := SameRead
  valid := CountsBumps userId initial
  sound shared process stage := Counted userId shared.store process stage
  selected _ counted running reads := counted.selected running _ reads
  opened _ counted running locks := by
    rcases locks with ⟨_, _, writes⟩
    exact counted.opened running _ writes
  granted _ counted locks code found passes := by
    rcases locks with ⟨_, _, writes⟩
    exact counted.granted writes code found passes
  skipped _ counted locks code gone := by
    rcases locks with ⟨_, _, writes⟩
    exact counted.skipped writes code gone
  closed _ counted code writes := counted.closed writes code
  refused _ counted running allowed := by
    cases allowed.1
    exact counted.moved (not_inside_running running) (not_inside_running ⟨_, rfl⟩)
      (fun _ _ => .rfl) .rfl (.inl rfl)
  inserted _ counted running _ _ allowed := by
    cases allowed.1
    exact counted.inserted running _ allowed.2
  committed counts counted running allowed := by
    cases allowed
    exact ⟨counted.committed counts running _, .fresh _ (not_inside_running ⟨_, rfl⟩)⟩
  committedOther _ counted _ _ apart _ otherCounted := counted.committedOther apart otherCounted
  rolledBack _ _ allowed := by
    cases allowed
    exact .fresh _ (not_inside_running ⟨_, rfl⟩)
  called counts counted running allowed := by
    cases allowed
    exact ⟨counts, counted.moved (not_inside_running running) (not_inside_running ⟨_, rfl⟩)
      (fun _ _ => .rfl) .rfl (.inl rfl)⟩
  calledOther _ _ _ _ _ _ otherCounted := otherCounted
  drifted counts := ⟨counts, fun _ _ counted => counted⟩
  aborted _ := ⟨.idle, .fresh _ (by rintro ⟨_, _, _, _, _, isLocking⟩; cases isLocking)⟩

/-- One run of a use case that bumps versions. -/
inductive BumpRun where
  | writeRelationships (rows : List RelationshipRow) (now : Instant)
  | deleteRelationships (tuples : List Relationship) (now : Instant)
  | confirmPasswordReset (input : SessionInput) (token newHash : String)
  | setActive (userId : Uuid) (isActive : Bool) (now : Instant)
  | deactivateUser (input : LifecycleInput) (userId : Uuid)
  | eraseUser (input : LifecycleInput) (userId : Uuid) (reason : ErasureReason)

def BumpRun.program : BumpRun → App (Answer Unit)
  | .writeRelationships rows now => Authorization.writeRelationships rows now
  | .deleteRelationships tuples now => Authorization.deleteRelationships tuples now
  | .confirmPasswordReset input token newHash =>
    Authentication.confirmPasswordReset input token newHash
  | .setActive userId isActive now => do
      Users.setActive userId isActive now
      return .ok ()
  | .deactivateUser input userId => Users.deactivateUser input userId
  | .eraseUser input userId reason => Users.eraseUser input userId reason

theorem BumpRun.bumps (bumpRun : BumpRun) : Bumps userId bumpRun.program := by
  cases bumpRun with
  | writeRelationships => exact bumps_writeRelationships _ _
  | deleteRelationships => exact bumps_deleteRelationships _ _
  | confirmPasswordReset => exact bumps_confirmPasswordReset _ _ _
  | setActive => exact (bumps_setActive _ _ _).bind fun _ => bumps_done _
  | deactivateUser => exact bumps_deactivateUser _ _
  | eraseUser => exact bumps_eraseUser _ _ _

/-- Any number of such runs, none of which has begun. -/
def bumping {Pid : Type} (store : Table Row) (cache : PrincipalCache) (runs : Pid → BumpRun) :
    AppSys Pid (Answer Unit) where
  store := store
  env := cache
  procs pid := .fresh (.running (runs pid).program)
  journal := []

/-- The condition on a step: a row is read for a bump only when no other open transaction
has read it for one. -/
def ReadsApart {Pid : Type} (sys : AppSys Pid (Answer Unit)) (event : AppEvent Pid) : Prop :=
  Separate SameRead sys event

section Runs

variable {Pid : Type} [Fintype Pid] [DecidableEq Pid] {cache : PrincipalCache}
variable {runs : Pid → BumpRun}

theorem countsBumps_of_run {events : List (AppEvent Pid)} {next : AppSys Pid (Answer Unit)}
    (separate : Meets (Sys.step model) ReadsApart (bumping store cache runs) events)
    (reached : run (Sys.step model) (bumping store cache runs) events = some next)
    (userId : Uuid) : CountsBumps userId (authzVersion userId store) next.shared := by
  have initial : (bumpDiscipline Pid userId (authzVersion userId store)).Holds
      (bumping store cache runs) fun _ => .idle := by
    constructor
    · simp [bumpDiscipline, CountsBumps, Sys.shared, bumping, committedBumps]
    · intro pid
      exact (runs pid).bumps .idle
    · intro pid
      exact .fresh _ (not_inside_running ⟨_, rfl⟩)
    · intro left right _
      exact (Discipline.apart_fresh _ _).1
  rcases Discipline.holds_of_run initial separate reached with ⟨_, final⟩
  exact final.valid

/-- In every run that keeps the reads for bumps of one user apart, the committed version
is the initial one plus the number of committed bumps.  It never decreases, and a version
read before the commit of a bump differs from the one stored after it. -/
theorem authzVersion_counts_bumps {before after : List (AppEvent Pid)}
    {middle finish : AppSys Pid (Answer Unit)}
    (separate : Meets (Sys.step model) ReadsApart (bumping store cache runs) (before ++ after))
    (passed : run (Sys.step model) (bumping store cache runs) before = some middle)
    (reached : run (Sys.step model) middle after = some finish) (userId : Uuid) :
    authzVersion userId finish.store =
        (authzVersion userId store).map (· + (committedBumps userId finish.journal : Int)) ∧
      ∀ early, authzVersion userId middle.store = some early →
        ∃ late, authzVersion userId finish.store = some late ∧ early ≤ late ∧
          (committedBumps userId middle.journal < committedBumps userId finish.journal →
            early ≠ late) := by
  have atMiddle : authzVersion userId middle.store =
      (authzVersion userId store).map (· + (committedBumps userId middle.journal : Int)) :=
    countsBumps_of_run (meets_append.mp separate).1 passed userId
  have atFinish : authzVersion userId finish.store =
      (authzVersion userId store).map (· + (committedBumps userId finish.journal : Int)) :=
    countsBumps_of_run separate (run_append_eq_some.mpr ⟨middle, passed, reached⟩) userId
  have grows : committedBumps userId middle.journal ≤ committedBumps userId finish.journal :=
    committedBumps_mono (Sys.journal_run reached)
  refine ⟨atFinish, ?_⟩
  intro early isEarly
  rw [isEarly, eq_comm, Option.map_eq_some_iff] at atMiddle
  rcases atMiddle with ⟨initial, isInitial, isSum⟩
  rw [isInitial, Option.map_some] at atFinish
  exact ⟨_, atFinish, by omega, by omega⟩

end Runs

/-! ### Two bumps of one user -/

def twoBumps (pid : Bool) : BumpRun :=
  if pid then
    .writeRelationships
      [⟨30, ⟨"system", "main", "admin", "user", "00000000-0000-0000-0000-000000000001"⟩⟩] 5
  else .setActive 1 false 6

/-- The deactivation and the grant both read the version 1 before the deactivation
commits. -/
def readTogether : List (AppEvent Bool) :=
  .exec false :: List.replicate 3 (.exec true) ++ List.replicate 4 (.exec false)

/-- Both bumps are committed and the version has gone up by one.  The version that was
read between the two commits is still the stored one after the second. -/
theorem bump_lost :
    ∃ middle finish,
      run (Sys.step model) (bumping oneUser emptyCache twoBumps) readTogether = some middle ∧
      run (Sys.step model) middle (List.replicate 4 (.exec true)) = some finish ∧
      authzVersion 1 oneUser = some 1 ∧ committedBumps 1 finish.journal = 2 ∧
      authzVersion 1 finish.store = some 2 ∧
      committedBumps 1 middle.journal < committedBumps 1 finish.journal ∧
      authzVersion 1 middle.store = authzVersion 1 finish.store := by
  refine ⟨_, _, rfl, rfl, ?_⟩
  decide +kernel

/-- One bump after the other. -/
theorem authzVersion_counts_bumps_both :
    ∃ middle finish,
      run (Sys.step model) (bumping oneUser emptyCache twoBumps)
        (List.replicate 5 (.exec false)) = some middle ∧
      run (Sys.step model) middle (List.replicate 7 (.exec true)) = some finish ∧
      committedBumps 1 finish.journal = 2 ∧
      authzVersion 1 finish.store =
        (authzVersion 1 oneUser).map (· + (committedBumps 1 finish.journal : Int)) := by
  have separate : Meets (Sys.step model) ReadsApart (bumping oneUser emptyCache twoBumps)
      (List.replicate 5 (.exec false) ++ List.replicate 7 (.exec true)) := by
    apply meets_append.mpr
    constructor
    · exact separate_alone false 5 fun _ _ => rfl
    · intro middle reached
      cases reached
      apply separate_alone true 7
      intro other differ
      cases other with
      | false => rfl
      | true => exact absurd rfl differ
  exact ⟨_, _, rfl, rfl, rfl, (authzVersion_counts_bumps separate rfl rfl 1).1⟩

end StarterTemplate.Users
