import Mathlib.Data.List.Dedup
import Mathlib.Data.List.Perm.Subperm
import Mathlib.Data.Rat.Cast.Order
import Mathlib.Tactic.Linarith
import StarterTemplate.Library.Serial
import StarterTemplate.Library.TtlCache

/-!
# The rate limiter of one process

`FixedWindowRateLimiter.check` over the bounded cache of the attempts.  A key that leaves
the full cache takes its attempts with it, and starts with a new budget.  As long as the
keys of one window fit into the cache, and a call ends before the slack of the cache is
over, no key is accepted more often than allowed within any window.
-/

namespace StarterTemplate.Authentication

open Library

/-- The parameters of the limiter. -/
structure FixedWindowRateLimiter where
  maxAttempts : Int
  windowSeconds : Int
  maxsize : Int

/-- The accepted attempts of each key, in seconds of the monotonic clock. -/
abbrev Attempts := TtlCache String (List Rat) Rat

/-- `_FIXED_WINDOW_TTL_SLACK_SECONDS`. -/
def ttlSlackSeconds : Rat := 60

/-- `RateLimitExceededError`. -/
structure RateLimitExceeded where
  message : String
  retryAfterSeconds : Int
  deriving DecidableEq

/-- A call of `check`, with the readings of the clock: its own, the one of the cache's read,
and the one of the cache's write. -/
structure CheckCall where
  key : String
  now : Rat
  readAt : Rat
  writtenAt : Rat

namespace FixedWindowRateLimiter

/-- `__post_init__`. -/
def initial (limiter : FixedWindowRateLimiter) : Attempts where
  capacity := limiter.maxsize.toNat
  ttl := limiter.windowSeconds + ttlSlackSeconds
  entries := []

/-- The attempts of the key that lie in the window. -/
def recent (limiter : FixedWindowRateLimiter) (attempts : Attempts) (call : CheckCall) :
    List Rat :=
  ((attempts.get call.readAt call.key).getD []).filter fun moment =>
    call.now - limiter.windowSeconds ≤ moment

/-- `check`.  The read of the cache is followed by a write of the same key, so that the order
of the writes is the order in which the cache saw the keys last. -/
def check (limiter : FixedWindowRateLimiter) (attempts : Attempts) (call : CheckCall) :
    Except RateLimitExceeded Unit × Attempts :=
  let recent := limiter.recent attempts call
  if limiter.maxAttempts ≤ recent.length then
    (.error ⟨"Rate limit exceeded", limiter.windowSeconds⟩,
      attempts.set call.writtenAt call.key recent)
  else (.ok (), attempts.set call.writtenAt call.key (recent ++ [call.now]))

end FixedWindowRateLimiter

/-- A call that was answered. -/
abbrev Checked := Finished Attempts CheckCall (Except RateLimitExceeded Unit)

/-- The call was accepted. -/
def Checked.accepted (run : Checked) : Bool :=
  match run.answer with
  | .ok _ => true
  | .error _ => false

/-- The moments at which calls for the key were accepted. -/
def acceptedTimes (past : List Checked) (key : String) : List Rat :=
  (past.filter fun run => run.request.key = key && Checked.accepted run).map fun run => run.request.now

/-- The moment of the last call for the key. -/
def lastUse (past : List Checked) (key : String) : Rat :=
  ((past.filter fun run => run.request.key = key).map fun run => run.request.now).getLastD 0

/-- The distinct keys of the calls since the moment. -/
def keysSince (moment : Rat) (past : List Checked) : List String :=
  ((past.filter fun run => moment ≤ run.request.now).map fun run => run.request.key).dedup

/-- The clock does not go back. -/
structure Timely (past : List Checked) (run : Checked) : Prop where
  earlier : ∀ other ∈ past, other.request.now ≤ run.request.now
  read : run.request.now ≤ run.request.readAt
  written : run.request.readAt ≤ run.request.writtenAt

/-- A call ends before the slack is over, and the keys of its window fit into the cache. -/
structure Roomy (limiter : FixedWindowRateLimiter) (past : List Checked) (run : Checked) :
    Prop where
  brisk : run.request.writtenAt < run.request.now + ttlSlackSeconds
  uncrowded : (keysSince (run.request.now - limiter.windowSeconds) (past ++ [run])).length ≤
    limiter.maxsize

variable {moment : Rat}

section Past

variable {past : List Checked} {run : Checked} {key : String}

theorem acceptedTimes_append :
    acceptedTimes (past ++ [run]) key = acceptedTimes past key ++
      if run.request.key = key ∧ Checked.accepted run = true then [run.request.now] else [] := by
  simp only [acceptedTimes, List.filter_append, List.map_append]
  congr 1
  by_cases isKey : run.request.key = key
  · cases isAccepted : Checked.accepted run with
    | true => simp [isKey, isAccepted]
    | false => simp [isAccepted]
  · simp [isKey]

@[simp] theorem lastUse_append_self : lastUse (past ++ [run]) run.request.key = run.request.now := by
  simp [lastUse]

theorem lastUse_append_of_ne (differ : run.request.key ≠ key) :
    lastUse (past ++ [run]) key = lastUse past key := by
  simp [lastUse, differ]

theorem mem_acceptedTimes (isAccepted : moment ∈ acceptedTimes past key) :
    ∃ run ∈ past, run.request.now = moment := by
  rcases List.mem_map.mp isAccepted with ⟨run, isRun, isMoment⟩
  exact ⟨run, (List.mem_filter.mp isRun).1, isMoment⟩

theorem mem_keysSince :
    key ∈ keysSince moment past ↔ ∃ run ∈ past, moment ≤ run.request.now ∧ run.request.key = key := by
  simp [keysSince, and_assoc]

end Past

/-! ## The cache mirrors the past -/

/-- The attempts that the cache holds for the key, dead or alive. -/
def remembered (attempts : Attempts) (key : String) : List Rat :=
  ((attempts.entries.find? fun entry => entry.key = key).map TtlEntry.value).getD []

/-- The attempts since the moment. -/
def since (moment : Rat) (moments : List Rat) : List Rat := moments.filter fun other => moment ≤ other

variable {moments : List Rat}

theorem since_eq_nil
    (past : ∀ other ∈ moments, other < moment) : since moment moments = [] := by
  apply List.filter_eq_nil_iff.mpr
  intro other isMoment
  simpa using past other isMoment

theorem since_append (moment : Rat) (first second : List Rat) :
    since moment (first ++ second) = since moment first ++ since moment second :=
  List.filter_append ..

theorem since_since {early late : Rat} (ordered : early ≤ late) (moments : List Rat) :
    since late (since early moments) = since late moments := by
  rw [since, since, List.filter_filter]
  apply List.filter_congr
  intro other _
  by_cases isLate : late ≤ other
  · simp [isLate, ordered.trans isLate]
  · simp [isLate]

/-- What the cache holds after the calls. -/
structure Mirrors (limiter : FixedWindowRateLimiter) (past : List Checked) (attempts : Attempts) :
    Prop where
  capacity : attempts.capacity = limiter.maxsize.toNat
  ttl : attempts.ttl = limiter.windowSeconds + ttlSlackSeconds
  distinct : (attempts.entries.map TtlEntry.key).Nodup
  values : ∀ entry ∈ attempts.entries, ∀ moment ∈ entry.value, moment ≤ lastUse past entry.key
  stored : ∀ entry ∈ attempts.entries, lastUse past entry.key ≤ entry.storedAt
  used : ∀ entry ∈ attempts.entries, ∃ run ∈ past,
    run.request.key = entry.key ∧ run.request.now = lastUse past entry.key
  ordered : attempts.entries.Pairwise fun older younger =>
    lastUse past older.key ≤ lastUse past younger.key
  agrees : ∀ key now, (∀ run ∈ past, run.request.now ≤ now) →
    since (now - limiter.windowSeconds) (remembered attempts key) =
      since (now - limiter.windowSeconds) (acceptedTimes past key)

variable {entry : TtlEntry String (List Rat) Rat}

theorem remembered_of_mem {attempts : Attempts}
    (distinct : (attempts.entries.map TtlEntry.key).Nodup) (isStored : entry ∈ attempts.entries) :
    remembered attempts entry.key = entry.value := by
  cases isFound : attempts.entries.find? fun other => other.key = entry.key with
  | none =>
    have absent := List.find?_eq_none.mp isFound entry isStored
    simp at absent
  | some found =>
    have sameKey : found.key = entry.key := by simpa using List.find?_some isFound
    have same : found = entry :=
      List.inj_on_of_nodup_map distinct (List.mem_of_find?_eq_some isFound) isStored sameKey
    rw [remembered, isFound, same]
    rfl

theorem remembered_of_absent {attempts : Attempts} {key : String}
    (absent : ∀ entry ∈ attempts.entries, entry.key ≠ key) : remembered attempts key = [] := by
  have notFound : (attempts.entries.find? fun entry => entry.key = key) = none := by
    apply List.find?_eq_none.mpr
    intro entry isStored
    simpa using absent entry isStored
  rw [remembered, notFound]
  rfl

variable {now : Rat}

theorem remembered_set_self {attempts : Attempts} {key : String}
    (distinct : (attempts.entries.map TtlEntry.key).Nodup) :
    remembered (attempts.set now key moments) key = moments := by
  have isNew : (⟨key, moments, now⟩ : TtlEntry String (List Rat) Rat) ∈
      (attempts.set now key moments).entries := List.mem_concat_self
  exact remembered_of_mem (TtlCache.nodup_set distinct moments) isNew

/-- A write leaves the attempts of another key, or its entry is dropped. -/
theorem remembered_set_of_ne {attempts : Attempts} {key other : String}
    (distinct : (attempts.entries.map TtlEntry.key).Nodup) (differ : other ≠ key)
    (moments : List Rat) :
    remembered (attempts.set now key moments) other = remembered attempts other ∨
      (remembered (attempts.set now key moments) other = [] ∧ ∃ entry ∈ attempts.entries,
        entry.key = other ∧ entry ∉ attempts.kept now key) := by
  have newDistinct : ((attempts.set now key moments).entries.map TtlEntry.key).Nodup :=
    TtlCache.nodup_set distinct moments
  have origin : ∀ entry ∈ (attempts.set now key moments).entries, entry.key = other →
      entry ∈ attempts.kept now key ∧ entry ∈ attempts.entries := by
    intro entry isEntry isOther
    rcases List.mem_append.mp isEntry with isKept | isNew
    · exact ⟨isKept, (attempts.kept_sublist now key).subset isKept⟩
    · rw [List.mem_singleton.mp isNew] at isOther
      exact absurd isOther.symm differ
  by_cases isKnown : ∃ entry ∈ attempts.entries, entry.key = other
  · rcases isKnown with ⟨entry, isStored, isOther⟩
    by_cases isKept : entry ∈ attempts.kept now key
    · left
      have isEntry : entry ∈ (attempts.set now key moments).entries := List.mem_append_left _ isKept
      rw [← isOther, remembered_of_mem newDistinct isEntry, remembered_of_mem distinct isStored]
    right
    refine ⟨?_, entry, isStored, isOther, isKept⟩
    apply remembered_of_absent
    intro same isSame sameKey
    rcases origin same isSame sameKey with ⟨keptSame, storedSame⟩
    have equal : same = entry :=
      List.inj_on_of_nodup_map distinct storedSame isStored (sameKey.trans isOther.symm)
    exact isKept (equal ▸ keptSame)
  left
  have absent : ∀ entry ∈ attempts.entries, entry.key ≠ other :=
    fun entry isStored isOther => isKnown ⟨entry, isStored, isOther⟩
  rw [remembered_of_absent absent]
  apply remembered_of_absent
  intro entry isEntry isOther
  exact absent entry (origin entry isEntry isOther).2 isOther

section Step

variable {limiter : FixedWindowRateLimiter} {past : List Checked} {attempts : Attempts}
  {call : CheckCall}

/-- The attempts that the check counts are those of the window. -/
theorem recent_eq (mirrors : Mirrors limiter past attempts)
    (timely : Timely past (finished limiter.check attempts call))
    (roomy : Roomy limiter past (finished limiter.check attempts call)) :
    limiter.recent attempts call =
      since (call.now - limiter.windowSeconds) (acceptedTimes past call.key) := by
  rw [← mirrors.agrees call.key call.now timely.earlier, FixedWindowRateLimiter.recent]
  by_cases isKnown : ∃ entry ∈ attempts.entries, entry.key = call.key
  · rcases isKnown with ⟨entry, isStored, isKey⟩
    rw [← isKey, TtlCache.get_of_mem mirrors.distinct isStored,
      remembered_of_mem mirrors.distinct isStored]
    split
    · rfl
    rename_i isDead
    symm
    apply since_eq_nil
    intro moment isMoment
    have used := mirrors.values entry isStored moment isMoment
    have stored := mirrors.stored entry isStored
    have written : call.readAt ≤ call.writtenAt := timely.written
    have brisk : call.writtenAt < call.now + ttlSlackSeconds := roomy.brisk
    rw [mirrors.ttl] at isDead
    linarith
  have absent : ∀ entry ∈ attempts.entries, entry.key ≠ call.key :=
    fun entry isStored isKey => isKnown ⟨entry, isStored, isKey⟩
  rw [TtlCache.get_of_absent absent, remembered_of_absent absent]
  rfl

/-- A key that leaves the cache has no attempt in the window any more. -/
theorem dropped_before (window : 1 ≤ limiter.windowSeconds)
    (mirrors : Mirrors limiter past attempts)
    (roomy : Roomy limiter past (finished limiter.check attempts call))
    (isStored : entry ∈ attempts.entries)
    (other : entry.key ≠ call.key) (isDropped : entry ∉ attempts.kept call.writtenAt call.key) :
    lastUse past entry.key < call.now - limiter.windowSeconds := by
  have brisk : call.writtenAt < call.now + ttlSlackSeconds := roomy.brisk
  rcases TtlCache.dropped_cases isStored other isDropped with
    isDead | ⟨older, younger, isSplit, full, isNew⟩
  · have stored := mirrors.stored entry isStored
    rw [mirrors.ttl] at isDead
    linarith
  by_contra isRecent
  have sublist : (older ++ entry :: younger).Sublist attempts.entries := by
    rw [← isSplit]
    exact List.filter_sublist
  have remaining : (entry :: younger).Sublist attempts.entries :=
    (List.sublist_append_right older _).trans sublist
  have late : ∀ other ∈ entry :: younger, lastUse past entry.key ≤ lastUse past other.key := by
    intro other isOther
    rcases List.mem_cons.mp isOther with isEntry | isYounger
    · rw [isEntry]
    · exact (List.pairwise_cons.mp (mirrors.ordered.sublist remaining)).1 other isYounger
  have distinct : (call.key :: (entry :: younger).map TtlEntry.key).Nodup :=
    List.nodup_cons.mpr ⟨isNew, mirrors.distinct.sublist (remaining.map _)⟩
  have among : ∀ key ∈ call.key :: (entry :: younger).map TtlEntry.key,
      key ∈ keysSince (call.now - limiter.windowSeconds)
        (past ++ [finished limiter.check attempts call]) := by
    intro key isKey
    apply mem_keysSince.mpr
    rcases List.mem_cons.mp isKey with isCall | isEntry
    · refine ⟨finished limiter.check attempts call, List.mem_concat_self,
        ?_, isCall.symm⟩
      have positive : (1 : Rat) ≤ limiter.windowSeconds := by exact_mod_cast window
      change call.now - limiter.windowSeconds ≤ call.now
      linarith
    rcases List.mem_map.mp isEntry with ⟨other, isOther, sameKey⟩
    rcases mirrors.used other (remaining.subset isOther) with ⟨run, isRun, isOf, isLast⟩
    refine ⟨run, List.mem_append_left _ isRun, ?_, isOf.trans sameKey⟩
    rw [isLast]
    exact (not_lt.mp isRecent).trans (late other isOther)
  have count := (List.subperm_of_subset distinct among).length_le
  have uncrowded := roomy.uncrowded
  simp only [List.length_cons, List.length_map] at count full
  rw [mirrors.capacity] at full
  change ((keysSince (call.now - limiter.windowSeconds)
    (past ++ [finished limiter.check attempts call])).length : Int) ≤ limiter.maxsize at uncrowded
  omega

/-- The moments that the call stores for its key. -/
def storedTimes (limiter : FixedWindowRateLimiter) (attempts : Attempts) (call : CheckCall) :
    List Rat :=
  limiter.recent attempts call ++
    if Checked.accepted (finished limiter.check attempts call) then [call.now] else []

theorem check_eq_set : (limiter.check attempts call).2 =
    attempts.set call.writtenAt call.key (storedTimes limiter attempts call) := by
  simp only [storedTimes, Checked.accepted, finished, FixedWindowRateLimiter.check]
  split
  · simp
  · simp

theorem lt_of_accepted
    (isAccepted : Checked.accepted (finished limiter.check attempts call) = true) :
    (limiter.recent attempts call).length < limiter.maxAttempts := by
  simp only [Checked.accepted, finished, FixedWindowRateLimiter.check] at isAccepted
  split at isAccepted
  · rename_i isOk
    split at isOk
    · cases isOk
    · rename_i isBelow
      exact not_le.mp isBelow
  · cases isAccepted

/-- What the call stores agrees with the past and the call itself. -/
theorem since_stored (mirrors : Mirrors limiter past attempts)
    (timely : Timely past (finished limiter.check attempts call))
    (roomy : Roomy limiter past (finished limiter.check attempts call))
    (later : call.now ≤ now) :
    since (now - limiter.windowSeconds) (storedTimes limiter attempts call) =
      since (now - limiter.windowSeconds)
        (acceptedTimes (past ++ [finished limiter.check attempts call]) call.key) := by
  have ordered : call.now - limiter.windowSeconds ≤ now - limiter.windowSeconds := by linarith
  have isCall : (finished limiter.check attempts call).request.key = call.key := rfl
  rw [storedTimes, recent_eq mirrors timely roomy, acceptedTimes_append]
  simp only [isCall, true_and]
  rw [since_append, since_append, since_since ordered]
  rfl

theorem mirrors_check (window : 1 ≤ limiter.windowSeconds) (mirrors : Mirrors limiter past attempts)
    (timely : Timely past (finished limiter.check attempts call))
    (roomy : Roomy limiter past (finished limiter.check attempts call)) :
    Mirrors limiter (past ++ [finished limiter.check attempts call])
      (limiter.check attempts call).2 := by
  have ordered : call.now ≤ call.writtenAt := timely.read.trans timely.written
  have newLast : lastUse (past ++ [finished limiter.check attempts call]) call.key = call.now :=
    lastUse_append_self
  have oldLast : ∀ {entry}, entry ∈ attempts.kept call.writtenAt call.key →
      entry ∈ attempts.entries ∧ lastUse (past ++ [finished limiter.check attempts call]) entry.key =
        lastUse past entry.key := by
    intro entry isKept
    exact ⟨(attempts.kept_sublist _ _).subset isKept,
      lastUse_append_of_ne (TtlCache.key_ne_of_mem_kept isKept).symm⟩
  have known : ∀ {entry}, entry ∈ attempts.entries → lastUse past entry.key ≤ call.now := by
    intro entry isStored
    rcases mirrors.used entry isStored with ⟨run, isRun, _, isLast⟩
    rw [← isLast]
    exact timely.earlier run isRun
  rw [check_eq_set]
  refine ⟨mirrors.capacity, mirrors.ttl, TtlCache.nodup_set mirrors.distinct _, ?_, ?_, ?_, ?_, ?_⟩
  · intro entry isEntry moment isMoment
    rcases List.mem_append.mp isEntry with isKept | isNew
    · rw [(oldLast isKept).2]
      exact mirrors.values entry (oldLast isKept).1 moment isMoment
    rw [List.mem_singleton.mp isNew] at isMoment ⊢
    rw [newLast]
    rcases List.mem_append.mp isMoment with isRecent | isCall
    · rw [recent_eq mirrors timely roomy] at isRecent
      rcases mem_acceptedTimes (List.mem_filter.mp isRecent).1 with ⟨run, isRun, isMoment⟩
      rw [← isMoment]
      exact timely.earlier run isRun
    · split at isCall
      · exact (List.mem_singleton.mp isCall).le
      · cases isCall
  · intro entry isEntry
    rcases List.mem_append.mp isEntry with isKept | isNew
    · rw [(oldLast isKept).2]
      exact mirrors.stored entry (oldLast isKept).1
    · rw [List.mem_singleton.mp isNew, newLast]
      exact ordered
  · intro entry isEntry
    rcases List.mem_append.mp isEntry with isKept | isNew
    · rcases mirrors.used entry (oldLast isKept).1 with ⟨run, isRun, isOf, isLast⟩
      rw [(oldLast isKept).2]
      exact ⟨run, List.mem_append_left _ isRun, isOf, isLast⟩
    · rw [List.mem_singleton.mp isNew, newLast]
      exact ⟨_, List.mem_concat_self, rfl, rfl⟩
  · apply List.pairwise_append.mpr
    refine ⟨?_, List.pairwise_singleton _ _, ?_⟩
    · apply (mirrors.ordered.sublist (attempts.kept_sublist _ _)).imp_of_mem
      intro older younger isOlder isYounger isBefore
      rw [(oldLast isOlder).2, (oldLast isYounger).2]
      exact isBefore
    · intro older isKept newest isNew
      rw [List.mem_singleton.mp isNew, newLast, (oldLast isKept).2]
      exact known (oldLast isKept).1
  intro key now latest
  have later : call.now ≤ now := latest _ List.mem_concat_self
  have earlier : ∀ run ∈ past, run.request.now ≤ now :=
    fun run isRun => latest run (List.mem_append_left _ isRun)
  by_cases isKey : key = call.key
  · rw [isKey, remembered_set_self mirrors.distinct]
    exact since_stored mirrors timely roomy later
  have sameTimes : acceptedTimes (past ++ [finished limiter.check attempts call]) key =
      acceptedTimes past key := by
    rw [acceptedTimes_append, if_neg fun both => isKey both.1.symm, List.append_nil]
  rw [sameTimes, ← mirrors.agrees key now earlier]
  rcases remembered_set_of_ne mirrors.distinct isKey (storedTimes limiter attempts call) with
    same | ⟨forgotten, entry, isStored, sameKey, isDropped⟩
  · rw [same]
  have gone := dropped_before window mirrors roomy isStored (sameKey ▸ isKey) isDropped
  rw [forgotten, ← sameKey, remembered_of_mem mirrors.distinct isStored]
  symm
  apply since_eq_nil
  intro moment isMoment
  have used := mirrors.values entry isStored moment isMoment
  linarith

/-- The accepted calls for the key within the window from the moment on. -/
def acceptedWithin (limiter : FixedWindowRateLimiter) (past : List Checked) (key : String)
    (start : Rat) : List Rat :=
  (acceptedTimes past key).filter fun moment =>
    start ≤ moment ∧ moment ≤ start + limiter.windowSeconds

/-- At most so many calls for a key were accepted within any window. -/
def WithinBudget (limiter : FixedWindowRateLimiter) (past : List Checked) : Prop :=
  ∀ key start, (acceptedWithin limiter past key start).length ≤ limiter.maxAttempts

theorem withinBudget_check (mirrors : Mirrors limiter past attempts)
    (timely : Timely past (finished limiter.check attempts call))
    (roomy : Roomy limiter past (finished limiter.check attempts call))
    (within : WithinBudget limiter past) :
    WithinBudget limiter (past ++ [finished limiter.check attempts call]) := by
  intro key start
  rw [acceptedWithin, acceptedTimes_append]
  split
  · rename_i accepted
    have isKey : call.key = key := accepted.1
    have before := within key start
    rw [List.filter_append, List.length_append]
    by_cases inside : start ≤ call.now ∧ call.now ≤ start + limiter.windowSeconds
    · have below := lt_of_accepted accepted.2
      rw [recent_eq mirrors timely roomy, isKey] at below
      have counted : ((acceptedTimes past key).filter fun moment =>
          start ≤ moment ∧ moment ≤ start + limiter.windowSeconds).length ≤
            (since (call.now - limiter.windowSeconds) (acceptedTimes past key)).length := by
        rw [since, ← List.countP_eq_length_filter, ← List.countP_eq_length_filter]
        apply List.countP_mono_left
        intro moment _ isInside
        simp only [decide_eq_true_eq] at isInside ⊢
        linarith [inside.2, isInside.1]
      have single : ([(finished limiter.check attempts call).request.now].filter fun moment =>
          start ≤ moment ∧ moment ≤ start + limiter.windowSeconds).length ≤ 1 :=
        List.length_filter_le _ _
      omega
    have outside : ([(finished limiter.check attempts call).request.now].filter fun moment =>
        start ≤ moment ∧ moment ≤ start + limiter.windowSeconds) = [] := by
      apply List.filter_eq_nil_iff.mpr
      intro moment isMoment
      rw [List.mem_singleton.mp isMoment, decide_eq_true_eq]
      exact inside
    rw [outside, List.length_nil, Nat.add_zero]
    exact before
  · rw [List.append_nil]
    exact within key start

end Step

/-! ## Whole histories -/

/-- The readings of a monotonic clock, call after call. -/
structure Clocked (calls : List CheckCall) : Prop where
  steady : calls.Pairwise fun earlier later => earlier.writtenAt ≤ later.now
  reads : ∀ call ∈ calls, call.now ≤ call.readAt ∧ call.readAt ≤ call.writtenAt

/-- The distinct keys of the calls in the window from the moment on. -/
def keysWithin (start window : Rat) (calls : List CheckCall) : List String :=
  ((calls.filter fun call => start ≤ call.now ∧ call.now ≤ start + window).map CheckCall.key).dedup

/-- Every call ends before the slack of the cache is over, and the keys of any window fit into
the cache. -/
structure Fitting (limiter : FixedWindowRateLimiter) (calls : List CheckCall) : Prop where
  brisk : ∀ call ∈ calls, call.writtenAt < call.now + ttlSlackSeconds
  fits : ∀ start, (keysWithin start limiter.windowSeconds calls).length ≤ limiter.maxsize

theorem mirrors_initially (limiter : FixedWindowRateLimiter) :
    Mirrors limiter [] limiter.initial := by
  refine ⟨rfl, rfl, List.nodup_nil, ?_, ?_, ?_, List.Pairwise.nil, fun _ _ _ => rfl⟩
  · intro entry absent
    cases absent
  · intro entry absent
    cases absent
  · intro entry absent
    cases absent

/-- The cache mirrors the past, which keeps to the budget. -/
structure Limited (limiter : FixedWindowRateLimiter) (past : List Checked) (attempts : Attempts) :
    Prop where
  mirrors : Mirrors limiter past attempts
  within : WithinBudget limiter past

/-- The condition on a call and its past. -/
def Measured (limiter : FixedWindowRateLimiter) (past : List Checked) (run : Checked) : Prop :=
  Timely past run ∧ Roomy limiter past run

theorem measured_history {limiter : FixedWindowRateLimiter} {calls : List CheckCall}
    (clocked : Clocked calls) (fitting : Fitting limiter calls) (attempts : Attempts) :
    Throughout (Measured limiter) (history limiter.check attempts calls) := by
  intro earlier run later isSplit
  rcases history_split isSplit with ⟨before, after, isCalls, isEarlier, isRun⟩
  have among : run.request ∈ calls := by
    rw [isCalls]
    exact List.mem_append_right _ (.head _)
  have requests : ∀ other ∈ earlier, other.request ∈ before := by
    intro other isOther
    rw [isEarlier] at isOther
    have sameRequests : (history limiter.check attempts before).map Finished.request = before :=
      map_request_history
    rw [← sameRequests]
    exact List.mem_map_of_mem isOther
  have steady : ∀ other ∈ earlier, other.request.now ≤ run.request.now := by
    intro other isOther
    have isBefore := requests other isOther
    have inOrder := clocked.steady
    rw [isCalls] at inOrder
    have written := (List.pairwise_append.mp inOrder).2.2 _ isBefore _ (.head _)
    have reads := clocked.reads other.request (isCalls ▸ List.mem_append_left _ isBefore)
    exact (reads.1.trans reads.2).trans written
  refine ⟨⟨steady, (clocked.reads _ among).1, (clocked.reads _ among).2⟩, fitting.brisk _ among, ?_⟩
  have inWindow : ∀ key ∈ keysSince (run.request.now - limiter.windowSeconds) (earlier ++ [run]),
      key ∈ keysWithin (run.request.now - limiter.windowSeconds) limiter.windowSeconds calls := by
    intro key isKey
    rcases mem_keysSince.mp isKey with ⟨other, isOther, since, isOf⟩
    have bounds : other.request ∈ calls ∧ other.request.now ≤ run.request.now := by
      rcases List.mem_append.mp isOther with old | new
      · exact ⟨isCalls ▸ List.mem_append_left _ (requests other old), steady other old⟩
      · rw [List.mem_singleton.mp new]
        exact ⟨among, le_rfl⟩
    apply List.mem_dedup.mpr
    apply List.mem_map.mpr
    refine ⟨other.request, List.mem_filter.mpr ⟨bounds.1, ?_⟩, isOf⟩
    simpa using ⟨by linarith, bounds.2⟩
  have count := (List.subperm_of_subset (List.nodup_dedup _) inWindow).length_le
  have fits := fitting.fits (run.request.now - limiter.windowSeconds)
  exact (Int.ofNat_le.mpr count).trans fits

/-- Within any window a key is accepted no more often than allowed. -/
theorem accepted_within_budget {limiter : FixedWindowRateLimiter}
    (attempts : 1 ≤ limiter.maxAttempts) (window : 1 ≤ limiter.windowSeconds)
    {calls : List CheckCall} (clocked : Clocked calls) (fitting : Fitting limiter calls)
    (key : String) (start : Rat) :
    (acceptedWithin limiter (history limiter.check limiter.initial calls) key start).length ≤
      limiter.maxAttempts := by
  have initially : Limited limiter [] limiter.initial := by
    refine ⟨mirrors_initially limiter, ?_⟩
    intro key start
    change (0 : Int) ≤ limiter.maxAttempts
    omega
  have preserved : ∀ past state call, Limited limiter past state →
      Measured limiter past (finished limiter.check state call) →
      Limited limiter (past ++ [finished limiter.check state call]) (limiter.check state call).2 := by
    intro past state call limited measured
    exact ⟨mirrors_check window limited.mirrors measured.1 measured.2,
      withinBudget_check limited.mirrors measured.1 measured.2 limited.within⟩
  exact (invariant_of_served preserved initially
    (measured_history clocked fitting limiter.initial)).within key start

/-! ### A key that pushes another out -/

/-- A call whose clock readings are all the same. -/
def checkAt (key : String) (now : Rat) : CheckCall := ⟨key, now, now, now⟩

theorem clocked_of_sorted {calls : List (String × Rat)}
    (sorted : calls.Pairwise fun earlier later => earlier.2 ≤ later.2) :
    Clocked (calls.map fun call => checkAt call.1 call.2) := by
  constructor
  · exact List.pairwise_map.mpr sorted
  intro call isCall
  rcases List.mem_map.mp isCall with ⟨pair, _, isPair⟩
  rw [← isPair]
  exact ⟨le_rfl, le_rfl⟩

def oneKeyLimiter : FixedWindowRateLimiter := ⟨1, 60, 1⟩

/-- The same client before and after another one. -/
def pushedOut : List CheckCall :=
  [("first", 0), ("second", 1), ("first", 2)].map fun call => checkAt call.1 call.2

/-- Both attempts of the first key are accepted within one window. -/
theorem accepted_beyond_budget :
    1 ≤ oneKeyLimiter.maxAttempts ∧ 1 ≤ oneKeyLimiter.windowSeconds ∧ 1 ≤ oneKeyLimiter.maxsize ∧
      Clocked pushedOut ∧
      ¬ (acceptedWithin oneKeyLimiter
        (history oneKeyLimiter.check oneKeyLimiter.initial pushedOut) "first" 0).length ≤
          oneKeyLimiter.maxAttempts := by
  refine ⟨by decide, by decide, by decide, clocked_of_sorted (by decide +kernel), ?_⟩
  decide +kernel

/-- Two keys fit into a cache for two. -/
theorem accepted_within_budget_two :
    (acceptedWithin ⟨1, 60, 2⟩ (history (FixedWindowRateLimiter.check ⟨1, 60, 2⟩)
      (FixedWindowRateLimiter.initial ⟨1, 60, 2⟩) pushedOut) "first" 0).length ≤ (1 : Int) := by
  have clocked : Clocked pushedOut := clocked_of_sorted (by decide +kernel)
  have fitting : Fitting ⟨1, 60, 2⟩ pushedOut := by
    constructor
    · decide +kernel
    · intro start
      have among : ∀ key ∈ keysWithin start 60 pushedOut, key ∈ ["first", "second"] := by
        intro key isKey
        rcases List.mem_map.mp (List.mem_dedup.mp isKey) with ⟨call, isCall, isOf⟩
        have every : ∀ call ∈ pushedOut, call.key ∈ ["first", "second"] := by decide +kernel
        rw [← isOf]
        exact every call (List.mem_filter.mp isCall).1
      have count := (List.subperm_of_subset (List.nodup_dedup _) among).length_le
      exact Int.ofNat_le.mpr count
  exact accepted_within_budget (by decide) (by decide) clocked fitting "first" 0

end StarterTemplate.Authentication
