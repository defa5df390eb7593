import Mathlib.Data.List.Pairwise
import StarterTemplate.Authentication.RateLimit
import StarterTemplate.Library.SortedSets
import StarterTemplate.Library.Uuid

/-!
# The rate limiter of all replicas

`RedisRateLimiter.check` runs one script in Redis, which keeps a sorted set of the
accepted attempts of each key.  The replicas share nothing else, so that a run of any
number of them is a sequence of scripts, between which Redis drops the keys whose time
is over.  The sorted set of a key agrees with the accepted calls of the key wherever the
window can still reach.
-/

namespace StarterTemplate.Authentication

open Library

/-- The parameters of the limiter. -/
structure RedisRateLimiter where
  maxAttempts : Nat
  windowSeconds : Nat

/-- The sorted sets of the limiter, with the members as texts. -/
abbrev RedisAttempts := SortedSets String String

/-- `_SLIDING_WINDOW_SCRIPT`: 1 when the attempt is too much, 0 when it is recorded.  The
script sees the moment at which Redis runs it. -/
def slidingWindowScript (key : String) (nowMs windowMs maxAtt : Nat) (member : String)
    (redis : RedisAttempts) : Nat × RedisAttempts :=
  let windowTtl := (windowMs + 999) / 1000
  let redis := redis.zremrangebyscore key 0 ((nowMs : Int) - windowMs)
  if maxAtt ≤ redis.zcard key then (1, redis)
  else (0, (redis.zadd key nowMs member).expire key nowMs windowTtl)

/-- A call of `check` by one of the replicas, with the reading of the clock and the UUID
that it draws. -/
structure RedisCheck where
  key : String
  nowMs : Nat
  token : Uuid

/-- The member that stands for the attempt. -/
def RedisCheck.member (call : RedisCheck) : String := toString call.nowMs ++ ":" ++ call.token.str

/-- The key of the sorted set. -/
def rateKey (key : String) : String := "rate:" ++ key

namespace RedisRateLimiter

/-- `_window_ms`. -/
def windowMs (limiter : RedisRateLimiter) : Nat := limiter.windowSeconds * 1000

/-- `check`. -/
def check (limiter : RedisRateLimiter) (redis : RedisAttempts) (call : RedisCheck) :
    Except RateLimitExceeded Unit × RedisAttempts :=
  let (result, redis) := slidingWindowScript (rateKey call.key) call.nowMs limiter.windowMs
    limiter.maxAttempts call.member redis
  if result = 1 then
    (.error ⟨"Rate limit exceeded", max 1 (limiter.windowMs / 1000)⟩, redis)
  else (.ok (), redis)

end RedisRateLimiter

/-- What happens in Redis: a replica checks a key, or Redis looks at a key that may have
expired. -/
inductive RedisEvent where
  | check (call : RedisCheck)
  | elapse (name : String) (nowMs : Nat)

/-- The moment of the event. -/
def RedisEvent.nowMs : RedisEvent → Nat
  | .check call => call.nowMs
  | .elapse _ nowMs => nowMs

/-- The member that the event adds. -/
def RedisEvent.member? : RedisEvent → Option String
  | .check call => some call.member
  | .elapse _ _ => none

/-- One event. -/
def RedisRateLimiter.serve (limiter : RedisRateLimiter) (redis : RedisAttempts) :
    RedisEvent → Except RateLimitExceeded Unit × RedisAttempts
  | .check call => limiter.check redis call
  | .elapse name nowMs => (.ok (), redis.elapse name nowMs)

/-- An event that happened. -/
abbrev RedisRun := Finished RedisAttempts RedisEvent (Except RateLimitExceeded Unit)

/-- The moment at which the run accepted an attempt for the key. -/
def RedisRun.acceptedAt (run : RedisRun) (key : String) : Option Nat :=
  match run.request, run.answer with
  | .check call, .ok _ => if call.key = key then some call.nowMs else none
  | _, _ => none

/-- The moments at which attempts for the key were accepted. -/
def redisAccepted (past : List RedisRun) (key : String) : List Nat :=
  past.filterMap fun run => RedisRun.acceptedAt run key

/-- The moments that lie in the window before the moment, or after it. -/
def stillInside (window now : Nat) (moments : List Nat) : List Nat :=
  moments.filter fun moment => now < moment + window

/-- The accepted attempts for the key in the half-open window that ends at the moment. -/
def redisAcceptedWithin (limiter : RedisRateLimiter) (past : List RedisRun) (key : String)
    (now : Nat) : List Nat :=
  (redisAccepted past key).filter fun moment =>
    now < moment + limiter.windowMs ∧ moment ≤ now

/-! ## One event -/

theorem rateKey_injective : Function.Injective rateKey := by
  intro left right same
  exact String.append_right_inj "rate:" |>.mp same

section Step

variable {limiter : RedisRateLimiter} {past : List RedisRun} {redis : RedisAttempts}
variable {call : RedisCheck} {key name : String} {run : RedisRun}

/-- The attempts of the key that the script leaves in its window. -/
def counted (limiter : RedisRateLimiter) (redis : RedisAttempts) (call : RedisCheck) :
    List (ScoredMember String) :=
  (redis (rateKey call.key)).members.filter fun entry =>
    call.nowMs < entry.score + limiter.windowMs

/-- The moment until which the key of an accepted attempt lasts. -/
def lastsUntil (limiter : RedisRateLimiter) (call : RedisCheck) : Nat :=
  call.nowMs + (limiter.windowMs + 999) / 1000 * 1000

theorem zremrangebyscore_eq :
    redis.zremrangebyscore (rateKey call.key) 0 ((call.nowMs : Int) - limiter.windowMs) =
      redis.store (rateKey call.key)
        ⟨counted limiter redis call, (redis (rateKey call.key)).expireAt⟩ := by
  have sameTest : ∀ entry : ScoredMember String,
      decide (¬ (0 ≤ (entry.score : Int) ∧
        (entry.score : Int) ≤ (call.nowMs : Int) - limiter.windowMs)) =
      decide (call.nowMs < entry.score + limiter.windowMs) := by
    intro entry
    rw [decide_eq_decide]
    omega
  simp only [SortedSets.zremrangebyscore, counted, sameTest]

/-- What a check does: it counts the attempts in the window, and records its own when there
is room. -/
theorem check_eq : limiter.check redis call =
    if limiter.maxAttempts ≤ (counted limiter redis call).length then
      (.error ⟨"Rate limit exceeded", max 1 (limiter.windowMs / 1000)⟩,
        redis.store (rateKey call.key)
          ⟨counted limiter redis call, (redis (rateKey call.key)).expireAt⟩)
    else
      (.ok (), redis.store (rateKey call.key)
        ⟨((counted limiter redis call).filter fun entry => entry.member ≠ call.member) ++
          [⟨call.member, call.nowMs⟩], some (lastsUntil limiter call)⟩) := by
  simp only [RedisRateLimiter.check, slidingWindowScript, zremrangebyscore_eq, SortedSets.zcard,
    SortedSets.members_store]
  split
  · rfl
  · simp only [SortedSets.expire_zadd, SortedSets.store_store, SortedSets.members_store]
    rfl

theorem redisAccepted_append : redisAccepted (past ++ [run]) key =
    redisAccepted past key ++ (RedisRun.acceptedAt run key).toList := by
  cases isAccepted : RedisRun.acceptedAt run key with
  | none | some => simp [redisAccepted, isAccepted]

theorem nowMs_of_acceptedAt {moment : Nat} (isAccepted : RedisRun.acceptedAt run key = some moment) :
    run.request.nowMs = moment := by
  rw [RedisRun.acceptedAt] at isAccepted
  split at isAccepted
  · rename_i call _ isCall _
    split at isAccepted
    · rw [isCall]
      exact Option.some.inj isAccepted
    · cases isAccepted
  · cases isAccepted

theorem acceptedAt_check_of_full
    (full : limiter.maxAttempts ≤ (counted limiter redis call).length) :
    RedisRun.acceptedAt (finished limiter.serve redis (.check call)) key = none := by
  simp only [RedisRun.acceptedAt, finished, RedisRateLimiter.serve, check_eq, if_pos full]

theorem acceptedAt_check_of_room
    (room : ¬ limiter.maxAttempts ≤ (counted limiter redis call).length) :
    RedisRun.acceptedAt (finished limiter.serve redis (.check call)) key =
      if call.key = key then some call.nowMs else none := by
  simp only [RedisRun.acceptedAt, finished, RedisRateLimiter.serve, check_eq, if_neg room]

/-! ## The sorted sets agree with the past -/

/-- What the sorted sets hold after the events. -/
structure Tallied (limiter : RedisRateLimiter) (past : List RedisRun) (redis : RedisAttempts) :
    Prop where
  origin : ∀ name, ∀ entry ∈ (redis name).members, ∃ run ∈ past,
    run.request.member? = some entry.member ∧ run.request.nowMs = entry.score
  lasting : ∀ name, ∀ entry ∈ (redis name).members, ∃ moment, (redis name).expireAt = some moment ∧
    entry.score + limiter.windowMs ≤ moment
  agrees : ∀ key now, (∀ run ∈ past, run.request.nowMs ≤ now) →
    stillInside limiter.windowMs now ((redis (rateKey key)).members.map ScoredMember.score) =
      stillInside limiter.windowMs now (redisAccepted past key)

/-- The clock does not go back, and the member of the event is new. -/
structure OnTime (past : List RedisRun) (run : RedisRun) : Prop where
  steady : ∀ other ∈ past, other.request.nowMs ≤ run.request.nowMs
  unique : ∀ other ∈ past, ∀ member ∈ run.request.member?, other.request.member? ≠ some member

theorem stillInside_append (window now : Nat) (first second : List Nat) :
    stillInside window now (first ++ second) =
      stillInside window now first ++ stillInside window now second :=
  List.filter_append ..

theorem stillInside_stillInside {window early late : Nat} (ordered : early ≤ late)
    (moments : List Nat) :
    stillInside window late (stillInside window early moments) =
      stillInside window late moments := by
  rw [stillInside, stillInside, List.filter_filter]
  apply List.filter_congr
  intro moment _
  by_cases isInside : late < moment + window
  · simp [isInside, ordered.trans_lt isInside]
  · simp [isInside]

theorem stillInside_eq_nil {window now : Nat} {moments : List Nat}
    (outside : ∀ moment ∈ moments, moment + window ≤ now) : stillInside window now moments = [] := by
  apply List.filter_eq_nil_iff.mpr
  intro moment isMoment
  simpa using outside moment isMoment

theorem map_score_counted : (counted limiter redis call).map ScoredMember.score =
    stillInside limiter.windowMs call.nowMs
      ((redis (rateKey call.key)).members.map ScoredMember.score) := by
  rw [stillInside, List.filter_map]
  rfl

section

variable (tallied : Tallied limiter past redis)
include tallied

section

variable (onTime : OnTime past (finished limiter.serve redis (.check call)))
include onTime

/-- The script counts the accepted attempts of its window. -/
theorem map_score_counted_eq :
    (counted limiter redis call).map ScoredMember.score =
      stillInside limiter.windowMs call.nowMs (redisAccepted past call.key) := by
  rw [map_score_counted]
  exact tallied.agrees call.key call.nowMs onTime.steady

theorem filter_counted :
    ((counted limiter redis call).filter fun entry => entry.member ≠ call.member) =
      counted limiter redis call := by
  apply List.filter_eq_self.mpr
  intro entry isCounted
  rcases tallied.origin _ entry (List.mem_filter.mp isCounted).1 with ⟨run, isRun, isMember, _⟩
  rw [decide_eq_true_eq]
  intro same
  exact onTime.unique run isRun call.member rfl (same ▸ isMember)

end

/-- A step that stores part of what was there, and that no longer reaches the rest, keeps the
agreement. -/
theorem Tallied.of_part {next : RedisAttempts} (silent : ∀ key, RedisRun.acceptedAt run key = none)
    (part : ∀ name, (next name).members.Sublist (redis name).members ∧
      ((next name).members ≠ [] → (next name).expireAt = (redis name).expireAt))
    (reach : ∀ key now, (∀ other ∈ past ++ [run], other.request.nowMs ≤ now) →
      stillInside limiter.windowMs now ((next (rateKey key)).members.map ScoredMember.score) =
        stillInside limiter.windowMs now
          ((redis (rateKey key)).members.map ScoredMember.score)) :
    Tallied limiter (past ++ [run]) next := by
  constructor
  · intro name entry isEntry
    rcases tallied.origin name entry ((part name).1.subset isEntry) with ⟨other, isOther, found⟩
    exact ⟨other, List.mem_append_left _ isOther, found⟩
  · intro name entry isEntry
    rw [(part name).2 (List.ne_nil_of_mem isEntry)]
    exact tallied.lasting name entry ((part name).1.subset isEntry)
  intro key now latest
  rw [reach key now latest, redisAccepted_append, silent, Option.toList_none, List.append_nil]
  exact tallied.agrees key now fun other isOther =>
    latest other (List.mem_append_left _ isOther)

theorem tallied_elapse {nowMs : Nat} :
    Tallied limiter (past ++ [finished limiter.serve redis (.elapse name nowMs)])
      (redis.elapse name nowMs) := by
  have silent : ∀ key, RedisRun.acceptedAt
      (finished limiter.serve redis (.elapse name nowMs)) key = none := fun _ => rfl
  by_cases isExpired : (redis name).expireAt.any (· ≤ nowMs) = true
  · have isDropped : redis.elapse name nowMs = Function.update redis name .absent := if_pos isExpired
    rw [isDropped]
    apply tallied.of_part silent
    · intro other
      by_cases isName : other = name
      · subst isName
        rw [Function.update_self]
        exact ⟨List.nil_sublist _, fun isFilled => absurd rfl isFilled⟩
      · rw [Function.update_of_ne isName]
        exact ⟨List.Sublist.refl _, fun _ => rfl⟩
    intro key now latest
    by_cases isName : rateKey key = name
    · subst isName
      rw [Function.update_self, stillInside_eq_nil, stillInside_eq_nil]
      · intro moment isMoment
        rcases List.mem_map.mp isMoment with ⟨entry, isEntry, isScore⟩
        rcases tallied.lasting _ entry isEntry with ⟨expiry, isExpiry, lasts⟩
        have isOver : expiry ≤ nowMs := by simpa [isExpiry] using isExpired
        have isLater : nowMs ≤ now := latest _ List.mem_concat_self
        omega
      · intro moment absent
        cases absent
    · rw [Function.update_of_ne isName]
  · have isKept : redis.elapse name nowMs = redis := if_neg isExpired
    rw [isKept]
    exact tallied.of_part silent (fun _ => ⟨List.Sublist.refl _, fun _ => rfl⟩) fun _ _ _ => rfl

theorem tallied_rejected (full : limiter.maxAttempts ≤ (counted limiter redis call).length) :
    Tallied limiter (past ++ [finished limiter.serve redis (.check call)])
      (limiter.check redis call).2 := by
  have isNext : (limiter.check redis call).2 = redis.store (rateKey call.key)
      ⟨counted limiter redis call, (redis (rateKey call.key)).expireAt⟩ := by
    rw [check_eq, if_pos full]
  rw [isNext]
  apply tallied.of_part fun key => acceptedAt_check_of_full full
  · intro name
    by_cases isName : name = rateKey call.key
    · subst isName
      rw [SortedSets.members_store]
      refine ⟨List.filter_sublist, fun isFilled => ?_⟩
      rw [SortedSets.store_self isFilled]
    · rw [SortedSets.store_of_ne isName]
      exact ⟨List.Sublist.refl _, fun _ => rfl⟩
  intro key now latest
  by_cases isName : rateKey key = rateKey call.key
  · have isLater : call.nowMs ≤ now := latest _ List.mem_concat_self
    rw [isName, SortedSets.members_store, map_score_counted]
    exact stillInside_stillInside isLater _
  · rw [SortedSets.store_of_ne isName]

theorem tallied_accepted (onTime : OnTime past (finished limiter.serve redis (.check call)))
    (room : ¬ limiter.maxAttempts ≤ (counted limiter redis call).length) :
    Tallied limiter (past ++ [finished limiter.serve redis (.check call)])
      (limiter.check redis call).2 := by
  have isNext : (limiter.check redis call).2 = redis.store (rateKey call.key)
      ⟨counted limiter redis call ++ [⟨call.member, call.nowMs⟩],
        some (lastsUntil limiter call)⟩ := by
    rw [check_eq, if_neg room, filter_counted tallied onTime]
  have isFilled : counted limiter redis call ++ [⟨call.member, call.nowMs⟩] ≠ [] := by simp
  rw [isNext]
  constructor
  · intro name entry isEntry
    by_cases isName : name = rateKey call.key
    · rw [isName, SortedSets.members_store] at isEntry
      rcases List.mem_append.mp isEntry with isOld | isNew
      · rcases tallied.origin _ entry (List.mem_filter.mp isOld).1 with ⟨other, isOther, found⟩
        exact ⟨other, List.mem_append_left _ isOther, found⟩
      · rw [List.mem_singleton.mp isNew]
        exact ⟨_, List.mem_concat_self, rfl, rfl⟩
    · rw [SortedSets.store_of_ne isName] at isEntry
      rcases tallied.origin name entry isEntry with ⟨other, isOther, found⟩
      exact ⟨other, List.mem_append_left _ isOther, found⟩
  · intro name entry isEntry
    by_cases isName : name = rateKey call.key
    · have isRecent : entry.score ≤ call.nowMs := by
        rw [isName, SortedSets.members_store] at isEntry
        rcases List.mem_append.mp isEntry with isOld | isNew
        · rcases tallied.origin _ entry (List.mem_filter.mp isOld).1 with ⟨other, isOther, _, isScore⟩
          rw [← isScore]
          exact onTime.steady other isOther
        · rw [List.mem_singleton.mp isNew]
      rw [isName, SortedSets.store_self isFilled]
      refine ⟨lastsUntil limiter call, rfl, ?_⟩
      rw [lastsUntil]
      omega
    · rw [SortedSets.store_of_ne isName] at isEntry ⊢
      exact tallied.lasting name entry isEntry
  intro key now latest
  have isLater : call.nowMs ≤ now := latest _ List.mem_concat_self
  rw [redisAccepted_append, acceptedAt_check_of_room room]
  by_cases isKey : call.key = key
  · subst isKey
    rw [SortedSets.members_store, List.map_append, map_score_counted_eq tallied onTime,
      stillInside_append, stillInside_append, stillInside_stillInside isLater, if_pos rfl]
    rfl
  · have differ : rateKey key ≠ rateKey call.key := fun same => isKey (rateKey_injective same).symm
    rw [SortedSets.store_of_ne differ, if_neg isKey, Option.toList_none, List.append_nil]
    exact tallied.agrees key now fun other isOther => latest other (List.mem_append_left _ isOther)

end

theorem tallied_serve {event : RedisEvent} (tallied : Tallied limiter past redis)
    (onTime : OnTime past (finished limiter.serve redis event)) :
    Tallied limiter (past ++ [finished limiter.serve redis event])
      (limiter.serve redis event).2 := by
  cases event with
  | check call =>
    by_cases full : limiter.maxAttempts ≤ (counted limiter redis call).length
    · exact tallied_rejected tallied full
    · exact tallied_accepted tallied onTime full
  | elapse name nowMs => exact tallied_elapse tallied

/-! ## The budget -/

/-- At most so many attempts for a key were accepted within any window. -/
def RedisBudget (limiter : RedisRateLimiter) (past : List RedisRun) : Prop :=
  ∀ key now, (redisAcceptedWithin limiter past key now).length ≤ limiter.maxAttempts

theorem redisAcceptedWithin_append {now : Nat} :
    redisAcceptedWithin limiter (past ++ [run]) key now =
      redisAcceptedWithin limiter past key now ++
        (RedisRun.acceptedAt run key).toList.filter fun moment =>
          now < moment + limiter.windowMs ∧ moment ≤ now := by
  rw [redisAcceptedWithin, redisAccepted_append, List.filter_append]
  rfl

theorem redisBudget_of_silent (within : RedisBudget limiter past)
    (silent : ∀ key, RedisRun.acceptedAt run key = none) : RedisBudget limiter (past ++ [run]) := by
  intro key now
  rw [redisAcceptedWithin_append, silent, Option.toList_none, List.filter_nil, List.append_nil]
  exact within key now

/-- An attempt is accepted only when there is room in every window that it falls into. -/
theorem redisBudget_accepted (tallied : Tallied limiter past redis)
    (within : RedisBudget limiter past)
    (onTime : OnTime past (finished limiter.serve redis (.check call)))
    (room : ¬ limiter.maxAttempts ≤ (counted limiter redis call).length) :
    RedisBudget limiter (past ++ [finished limiter.serve redis (.check call)]) := by
  intro key now
  rw [redisAcceptedWithin_append, acceptedAt_check_of_room room]
  by_cases isKey : call.key = key
  · subst isKey
    rw [if_pos rfl, Option.toList_some]
    by_cases inside : now < call.nowMs + limiter.windowMs ∧ call.nowMs ≤ now
    · have counts : (redisAcceptedWithin limiter past call.key now).length ≤
          (counted limiter redis call).length := by
        rw [← List.length_map ScoredMember.score, map_score_counted_eq tallied onTime]
        apply List.Sublist.length_le
        apply List.monotone_filter_right
        intro moment isInside
        simp only [decide_eq_true_eq] at isInside ⊢
        omega
      have single : ([call.nowMs].filter fun moment =>
          now < moment + limiter.windowMs ∧ moment ≤ now).length ≤ 1 := List.length_filter_le _ _
      rw [List.length_append]
      omega
    have outside : ([call.nowMs].filter fun moment =>
        now < moment + limiter.windowMs ∧ moment ≤ now) = [] := by
      simpa using inside
    rw [outside, List.append_nil]
    exact within call.key now
  · rw [if_neg isKey, Option.toList_none, List.filter_nil, List.append_nil]
    exact within key now

/-- The sorted sets tally the past, which keeps to the budget. -/
structure Balanced (limiter : RedisRateLimiter) (past : List RedisRun) (redis : RedisAttempts) :
    Prop where
  tallied : Tallied limiter past redis
  within : RedisBudget limiter past

theorem balanced_initially : Balanced limiter [] fun _ => .absent := by
  refine ⟨⟨?_, ?_, fun _ _ _ => rfl⟩, fun _ _ => Nat.zero_le _⟩
  · intro name entry absent
    cases absent
  · intro name entry absent
    cases absent

theorem balanced_serve (past : List RedisRun) (redis : RedisAttempts) (event : RedisEvent)
    (balanced : Balanced limiter past redis)
    (onTime : OnTime past (finished limiter.serve redis event)) :
    Balanced limiter (past ++ [finished limiter.serve redis event])
      (limiter.serve redis event).2 := by
  refine ⟨tallied_serve balanced.tallied onTime, ?_⟩
  cases event with
  | check call =>
    by_cases full : limiter.maxAttempts ≤ (counted limiter redis call).length
    · exact redisBudget_of_silent balanced.within fun key => acceptedAt_check_of_full full
    · exact redisBudget_accepted balanced.tallied balanced.within onTime full
  | elapse name nowMs => exact redisBudget_of_silent balanced.within fun _ => rfl

/-- An attempt is rejected only when its window is full. -/
theorem full_of_rejected (balanced : Balanced limiter past redis)
    (onTime : OnTime past (finished limiter.serve redis (.check call)))
    {error : RateLimitExceeded} (isRejected : (limiter.check redis call).1 = .error error) :
    (redisAcceptedWithin limiter past call.key call.nowMs).length = limiter.maxAttempts := by
  have full : limiter.maxAttempts ≤ (counted limiter redis call).length := by
    by_contra room
    simp [check_eq, if_neg room] at isRejected
  have isPast : ∀ moment ∈ redisAccepted past call.key, moment ≤ call.nowMs := by
    intro moment isMoment
    rcases List.mem_filterMap.mp isMoment with ⟨other, isOther, isAccepted⟩
    rw [← nowMs_of_acceptedAt isAccepted]
    exact onTime.steady other isOther
  have sameList : redisAcceptedWithin limiter past call.key call.nowMs =
      stillInside limiter.windowMs call.nowMs (redisAccepted past call.key) := by
    apply List.filter_congr
    intro moment isMoment
    simp [isPast moment isMoment]
  apply le_antisymm (balanced.within call.key call.nowMs)
  rw [sameList, ← map_score_counted_eq balanced.tallied onTime, List.length_map]
  exact full

/-- Only members that are outside the window expire. -/
theorem outside_of_expired (tallied : Tallied limiter past redis) {nowMs : Nat}
    {entry : ScoredMember String} (isThere : entry ∈ (redis name).members)
    (isGone : entry ∉ (redis.elapse name nowMs name).members) :
    entry.score + limiter.windowMs ≤ nowMs := by
  rcases tallied.lasting name entry isThere with ⟨expiry, isExpiry, lasts⟩
  have isOver : expiry ≤ nowMs := by
    by_contra isAlive
    have isKept : redis.elapse name nowMs = redis := if_neg (by simpa [isExpiry] using isAlive)
    rw [isKept] at isGone
    exact isGone isThere
  exact lasts.trans isOver

end Step

/-! ## Whole histories -/

/-- The events of all replicas in the order in which Redis sees them: the clock does not go
back, and no two attempts have the same member. -/
structure RedisOrder (events : List RedisEvent) : Prop where
  steady : events.Pairwise fun earlier later => earlier.nowMs ≤ later.nowMs
  unique : (events.filterMap RedisEvent.member?).Nodup

theorem onTime_history {limiter : RedisRateLimiter} {events : List RedisEvent}
    (order : RedisOrder events) (redis : RedisAttempts) :
    Throughout OnTime (history limiter.serve redis events) := by
  intro earlier run later isSplit
  rcases history_split isSplit with ⟨before, after, isEvents, isEarlier, _⟩
  have among : ∀ other ∈ earlier, other.request ∈ before := by
    intro other isOther
    have sameRequests : earlier.map Finished.request = before := by
      rw [isEarlier]
      exact map_request_history
    rw [← sameRequests]
    exact List.mem_map_of_mem isOther
  have steady := order.steady
  have unique := order.unique
  rw [isEvents] at steady unique
  rw [List.filterMap_append] at unique
  constructor
  · intro other isOther
    exact (List.pairwise_append.mp steady).2.2 _ (among other isOther) _ (.head _)
  intro other isOther member isMember same
  have isBefore : member ∈ before.filterMap RedisEvent.member? :=
    List.mem_filterMap.mpr ⟨other.request, among other isOther, same⟩
  have isHere : member ∈ (run.request :: after).filterMap RedisEvent.member? :=
    List.mem_filterMap.mpr ⟨run.request, (.head _), isMember⟩
  exact List.disjoint_of_nodup_append unique isBefore isHere

/-- Two replicas check the same key within one window, and Redis looks at it afterwards. -/
def twoReplicas : List RedisEvent :=
  [.check ⟨"login", 0, 1⟩, .check ⟨"login", 500, 2⟩, .elapse "rate:login" 1000]

end StarterTemplate.Authentication
