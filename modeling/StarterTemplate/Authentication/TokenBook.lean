import StarterTemplate.Authentication.Effects
import StarterTemplate.Authentication.Purge

/-!
# Refresh tokens and what was spent

A book of the stored refresh tokens together with what the history says about them: when
their families were opened, which digests were generated, and which tokens were rotated
away.  It is sound when a token that was rotated away is still stored as long as its family
has a live token.  Revocation, rotation and the opening of a family keep it sound; a purge
does as long as no family with a live token is older than the retention window.
-/

namespace StarterTemplate.Authentication

open Library Database Users

/-- The stored tokens and their history. -/
structure Book where
  tokens : List RefreshTokenRow
  openings : List (Uuid × Instant)
  digests : List String
  spent : List (String × Uuid)
  times : List Instant

/-- The moment is not before any reading of the clock so far. -/
def Book.Passed (book : Book) (moment : Instant) : Prop := ∀ time ∈ book.times, time ≤ moment

/-- No family with a token that is live at the moment was opened before the cutoff. -/
def Book.Young (book : Book) (cutoff moment : Instant) : Prop :=
  ∀ live ∈ book.tokens, live.revokedAt = none → moment < live.expiresAt →
    ∀ opening, (live.familyId, opening) ∈ book.openings → cutoff ≤ opening

/-- No family with a live token has lost a token that was rotated away. -/
structure Book.Sound (book : Book) : Prop where
  opened : ∀ token ∈ book.tokens, ∃ moment, (token.familyId, moment) ∈ book.openings
  openedBefore : ∀ opening ∈ book.openings, ∃ time ∈ book.times, opening.2 ≤ time
  generated : ∀ token ∈ book.tokens, token.tokenHash ∈ book.digests
  distinct : (book.tokens.map RefreshTokenRow.tokenHash).Nodup
  single : ∀ token ∈ book.tokens, ∀ other ∈ book.tokens, other.familyId = token.familyId →
    token.revokedAt = none → other.revokedAt = none → other = token
  revokedLater : ∀ token ∈ book.tokens, ∀ moment, (token.familyId, moment) ∈ book.openings →
    ∀ revokedAt, token.revokedAt = some revokedAt → moment ≤ revokedAt
  expiresLater : ∀ token ∈ book.tokens, token.revokedAt ≠ none →
    ∀ other ∈ book.tokens, other.familyId = token.familyId → other.revokedAt = none →
      ∀ moment, (token.familyId, moment) ∈ book.openings → moment ≤ token.expiresAt
  spentGenerated : ∀ spent ∈ book.spent, spent.1 ∈ book.digests
  spentOpened : ∀ spent ∈ book.spent, ∃ moment, (spent.2, moment) ∈ book.openings
  spentRevoked : ∀ spent ∈ book.spent, ∀ token ∈ book.tokens, token.tokenHash = spent.1 →
    token.familyId = spent.2 ∧ token.revokedAt ≠ none
  spentStored : ∀ spent ∈ book.spent, ∀ live ∈ book.tokens, live.familyId = spent.2 →
    live.revokedAt = none → ∀ moment, book.Passed moment → moment < live.expiresAt →
      ∃ token ∈ book.tokens, token.tokenHash = spent.1

variable {moment : Instant} {token : RefreshTokenRow}

namespace Book.Sound

variable {book : Book}

theorem opening_le (sound : book.Sound) (passed : book.Passed moment)
    {opening : Uuid × Instant} (isOpening : opening ∈ book.openings) : opening.2 ≤ moment := by
  rcases sound.openedBefore opening isOpening with ⟨time, isTime, before⟩
  exact before.trans (passed time isTime)

theorem eq_of_hash (sound : book.Sound) {other : RefreshTokenRow}
    (stored : token ∈ book.tokens) (storedOther : other ∈ book.tokens)
    (same : token.tokenHash = other.tokenHash) : token = other :=
  List.inj_on_of_nodup_map sound.distinct stored storedOther same

/-! ## Time, digests and openings -/

/-- The clock goes on; a family that is opened was not opened before. -/
theorem extended (sound : book.Sound) {openings : List (Uuid × Instant)} {digests : List String}
    {time : Instant} (newFamily : ∀ opening ∈ openings, ∀ moment,
      (opening.1, moment) ∉ book.openings)
    (before : ∀ opening ∈ openings, opening.2 ≤ time) :
    Book.Sound
      { book with
        openings := book.openings ++ openings
        digests := book.digests ++ digests
        times := book.times ++ [time] } := by
  have isOld : ∀ token ∈ book.tokens, ∀ moment,
      (token.familyId, moment) ∈ book.openings ++ openings →
        (token.familyId, moment) ∈ book.openings := by
    intro token stored moment isOpening
    rcases List.mem_append.mp isOpening with old | new
    · exact old
    rcases sound.opened token stored with ⟨other, isOther⟩
    exact absurd isOther (newFamily _ new other)
  refine { sound with
    opened := ?_, openedBefore := ?_, generated := ?_, revokedLater := ?_, expiresLater := ?_
    spentGenerated := ?_, spentOpened := ?_, spentStored := ?_ }
  · intro token stored
    exact (sound.opened token stored).imp fun _ => List.mem_append_left _
  · refine List.forall_mem_append.mpr ⟨?_, fun opening new => ⟨time, by simp, before opening new⟩⟩
    intro opening old
    rcases sound.openedBefore opening old with ⟨other, isTime, isBefore⟩
    exact ⟨other, List.mem_append_left _ isTime, isBefore⟩
  · exact fun token stored => List.mem_append_left _ (sound.generated token stored)
  · exact fun token stored moment isOpening =>
      sound.revokedLater token stored moment (isOld token stored moment isOpening)
  · exact fun token stored revoked other storedOther sameFamily unrevoked moment isOpening =>
      sound.expiresLater token stored revoked other storedOther sameFamily unrevoked moment
        (isOld token stored moment isOpening)
  · exact fun spent isSpent => List.mem_append_left _ (sound.spentGenerated spent isSpent)
  · intro spent isSpent
    exact (sound.spentOpened spent isSpent).imp fun _ => List.mem_append_left _
  · exact fun spent isSpent live stored inFamily unrevoked moment passed =>
      sound.spentStored spent isSpent live stored inFamily unrevoked moment
        fun other isTime => passed other (List.mem_append_left _ isTime)

/-! ## Revocation -/

end Book.Sound

/-- The change revokes the unrevoked tokens of the family and nothing else. -/
structure Closes (closing : Uuid) (moment : Instant) (tokens : List RefreshTokenRow)
    (change : RefreshTokenRow → RefreshTokenRow) : Prop where
  tokenHash : ∀ token, (change token).tokenHash = token.tokenHash
  familyId : ∀ token, (change token).familyId = token.familyId
  expiresAt : ∀ token, (change token).expiresAt = token.expiresAt
  revokedAt : ∀ token ∈ tokens, (change token).revokedAt =
    if token.familyId = closing ∧ token.revokedAt = none then some moment else token.revokedAt

theorem closes_member (familyId : Uuid) (moment : Instant) (tokens : List RefreshTokenRow) :
    Closes familyId moment tokens (revokedIfMember familyId moment) where
  tokenHash token := by rw [revokedIfMember]; split <;> rfl
  familyId token := by rw [revokedIfMember]; split <;> rfl
  expiresAt token := by rw [revokedIfMember]; split <;> rfl
  revokedAt token _ := by rw [revokedIfMember]; split <;> rfl

variable {change : RefreshTokenRow → RefreshTokenRow} {cutoff : Instant}

namespace Book.Sound

variable {book : Book}

/-- The unrevoked token of a family is the only one to be revoked. -/
theorem closes_record (sound : book.Sound)
    (distinctIds : (book.tokens.map RefreshTokenRow.id).Nodup) {record : RefreshTokenRow}
    (stored : record ∈ book.tokens) (unrevoked : record.revokedAt = none) (moment : Instant)
    (replacedBy : Option Uuid) :
    Closes record.familyId moment book.tokens (revokedAs record moment replacedBy) where
  tokenHash token := by rw [revokedAs]; split <;> rfl
  familyId token := by rw [revokedAs]; split <;> rfl
  expiresAt token := by rw [revokedAs]; split <;> rfl
  revokedAt token storedToken := by
    by_cases isRecord : token = record
    · subst isRecord
      simp [revokedAs, unrevoked]
    have otherId : token.id ≠ record.id := fun same =>
      isRecord (List.inj_on_of_nodup_map distinctIds storedToken stored same)
    have notLast : ¬ (token.familyId = record.familyId ∧ token.revokedAt = none) :=
      fun last => isRecord (sound.single record stored token storedToken last.1 unrevoked last.2)
    rw [revokedAs, if_neg otherId, if_neg notLast]

theorem closed (sound : book.Sound) {familyId : Uuid}
    (closes : Closes familyId moment book.tokens change)
    (after : ∀ opening ∈ book.openings, opening.2 ≤ moment) :
    Book.Sound { book with tokens := book.tokens.map change } := by
  have unrevokedBefore : ∀ token ∈ book.tokens, (change token).revokedAt = none →
      token.revokedAt = none ∧ token.familyId ≠ familyId := by
    intro token stored unrevoked
    rw [closes.revokedAt token stored] at unrevoked
    split at unrevoked
    · cases unrevoked
    · rename_i notClosed
      exact ⟨unrevoked, fun isFamily => notClosed ⟨isFamily, unrevoked⟩⟩
  have staysRevoked : ∀ token ∈ book.tokens, token.revokedAt ≠ none →
      (change token).revokedAt ≠ none := by
    intro token stored revoked unrevoked
    exact revoked (unrevokedBefore token stored unrevoked).1
  refine { sound with
    opened := ?_, generated := ?_, distinct := ?_, single := ?_, revokedLater := ?_
    expiresLater := ?_, spentRevoked := ?_, spentStored := ?_ }
  · simpa only [List.forall_mem_map, closes.familyId] using sound.opened
  · simpa only [List.forall_mem_map, closes.tokenHash] using sound.generated
  · simpa only [List.map_map, Function.comp_def, closes.tokenHash] using sound.distinct
  · simp only [List.forall_mem_map, closes.familyId]
    intro token stored other storedOther sameFamily unrevoked unrevokedOther
    exact congrArg change (sound.single token stored other storedOther sameFamily
      (unrevokedBefore token stored unrevoked).1
      (unrevokedBefore other storedOther unrevokedOther).1)
  · simp only [List.forall_mem_map, closes.familyId]
    intro token stored opening isOpening revokedAt isRevoked
    rw [closes.revokedAt token stored] at isRevoked
    split at isRevoked
    · cases isRevoked
      exact after _ isOpening
    · exact sound.revokedLater token stored opening isOpening revokedAt isRevoked
  · simp only [List.forall_mem_map, closes.familyId, closes.expiresAt]
    intro token stored revoked other storedOther sameFamily unrevoked
    rcases unrevokedBefore other storedOther unrevoked with ⟨unrevokedOld, otherFamily⟩
    have notClosed : ¬ (token.familyId = familyId ∧ token.revokedAt = none) :=
      fun closed => otherFamily (sameFamily.trans closed.1)
    rw [closes.revokedAt token stored, if_neg notClosed] at revoked
    exact sound.expiresLater token stored revoked other storedOther sameFamily unrevokedOld
  · simp only [List.forall_mem_map, closes.familyId, closes.tokenHash]
    intro spent isSpent token stored isHash
    exact (sound.spentRevoked spent isSpent token stored isHash).imp_right
      (staysRevoked token stored)
  · simp only [List.forall_mem_map, closes.familyId, closes.expiresAt]
    intro spent isSpent live stored inFamily unrevoked moment passed inTime
    rcases sound.spentStored spent isSpent live stored inFamily
      (unrevokedBefore live stored unrevoked).1 moment passed inTime with ⟨token, isToken, isHash⟩
    exact ⟨change token, List.mem_map_of_mem isToken, (closes.tokenHash token).trans isHash⟩

/-- A new token of a family whose tokens are all revoked. -/
theorem added (sound : book.Sound)
    (isOpened : ∃ moment, (token.familyId, moment) ∈ book.openings)
    (isGenerated : token.tokenHash ∈ book.digests)
    (newHash : ∀ old ∈ book.tokens, old.tokenHash ≠ token.tokenHash)
    (unspent : ∀ spent ∈ book.spent, spent.1 ≠ token.tokenHash)
    (unrevoked : token.revokedAt = none)
    (closed : ∀ old ∈ book.tokens, old.familyId = token.familyId → old.revokedAt ≠ none)
    (outlive : ∀ old ∈ book.tokens, old.familyId = token.familyId →
      ∀ moment, (token.familyId, moment) ∈ book.openings → moment ≤ old.expiresAt)
    (stored : ∀ spent ∈ book.spent, spent.2 = token.familyId →
      ∃ old ∈ book.tokens, old.tokenHash = spent.1) :
    Book.Sound { book with tokens := book.tokens ++ [token] } := by
  refine { sound with
    opened := ?_, generated := ?_, distinct := ?_, single := ?_, revokedLater := ?_
    expiresLater := ?_, spentRevoked := ?_, spentStored := ?_ }
  · exact List.forall_mem_append.mpr ⟨sound.opened, List.forall_mem_singleton.mpr isOpened⟩
  · exact List.forall_mem_append.mpr ⟨sound.generated, List.forall_mem_singleton.mpr isGenerated⟩
  · rw [List.map_append, List.map_singleton, ← List.concat_eq_append]
    apply sound.distinct.concat
    intro taken
    rcases List.mem_map.mp taken with ⟨old, isOld, isHash⟩
    exact newHash old isOld isHash
  · intro member isMember other isOther sameFamily unrevokedMember unrevokedOther
    rcases List.mem_append.mp isMember with old | new
    · rcases List.mem_append.mp isOther with oldOther | newOther
      · exact sound.single member old other oldOther sameFamily unrevokedMember unrevokedOther
      · cases List.mem_singleton.mp newOther
        exact absurd unrevokedMember (closed member old sameFamily.symm)
    cases List.mem_singleton.mp new
    rcases List.mem_append.mp isOther with oldOther | newOther
    · exact absurd unrevokedOther (closed other oldOther sameFamily)
    · exact List.mem_singleton.mp newOther
  · refine List.forall_mem_append.mpr ⟨sound.revokedLater, List.forall_mem_singleton.mpr ?_⟩
    intro moment isOpening revokedAt isRevoked
    simp [unrevoked] at isRevoked
  · refine List.forall_mem_append.mpr ⟨fun member old revoked => List.forall_mem_append.mpr
      ⟨sound.expiresLater member old revoked, List.forall_mem_singleton.mpr ?_⟩,
      List.forall_mem_singleton.mpr fun revoked => absurd unrevoked revoked⟩
    intro sameFamily _ moment isOpening
    exact outlive member old sameFamily.symm moment (sameFamily ▸ isOpening)
  · intro spent isSpent
    refine List.forall_mem_append.mpr ⟨sound.spentRevoked spent isSpent, ?_⟩
    exact List.forall_mem_singleton.mpr fun isHash => absurd isHash.symm (unspent spent isSpent)
  · intro spent isSpent live isLive inFamily unrevokedLive moment passed inTime
    have isStored : ∃ old ∈ book.tokens, old.tokenHash = spent.1 := by
      rcases List.mem_append.mp isLive with old | new
      · exact sound.spentStored spent isSpent live old inFamily unrevokedLive moment passed inTime
      · cases List.mem_singleton.mp new
        exact stored spent isSpent inFamily.symm
    rcases isStored with ⟨member, isMember, isHash⟩
    exact ⟨member, List.mem_append_left _ isMember, isHash⟩

/-! ## Spending and purging -/

/-- The stored tokens with a digest become known as rotated away. -/
theorem spent (sound : book.Sound) {spent : List (String × Uuid)}
    (revoked : ∀ pair ∈ spent, ∃ token ∈ book.tokens, token.tokenHash = pair.1 ∧
      token.familyId = pair.2 ∧ token.revokedAt ≠ none) :
    Book.Sound { book with spent := book.spent ++ spent } := by
  refine { sound with
    spentGenerated := ?_, spentOpened := ?_, spentRevoked := ?_, spentStored := ?_ }
  · refine List.forall_mem_append.mpr ⟨sound.spentGenerated, ?_⟩
    intro pair new
    rcases revoked pair new with ⟨token, stored, isHash, _⟩
    exact isHash ▸ sound.generated token stored
  · refine List.forall_mem_append.mpr ⟨sound.spentOpened, ?_⟩
    intro pair new
    rcases revoked pair new with ⟨token, stored, _, isFamily, _⟩
    exact isFamily ▸ sound.opened token stored
  · refine List.forall_mem_append.mpr ⟨sound.spentRevoked, ?_⟩
    intro pair new token stored isHash
    rcases revoked pair new with ⟨other, storedOther, otherHash, isRevoked⟩
    rw [sound.eq_of_hash stored storedOther (isHash.trans otherHash.symm)]
    exact isRevoked
  · refine List.forall_mem_append.mpr ⟨sound.spentStored, ?_⟩
    intro pair new live stored inFamily unrevoked moment passed inTime
    rcases revoked pair new with ⟨token, storedToken, isHash, _⟩
    exact ⟨token, storedToken, isHash⟩

/-- A revoked token of a family with a live token is not past the retention window. -/
theorem spared (sound : book.Sound) (young : book.Young cutoff moment)
    {live : RefreshTokenRow} (stored : token ∈ book.tokens)
    (revoked : token.revokedAt ≠ none) (storedLive : live ∈ book.tokens)
    (sameFamily : live.familyId = token.familyId) (unrevoked : live.revokedAt = none)
    (inTime : moment < live.expiresAt) : refreshTokenExpired cutoff token = false := by
  rcases sound.opened token stored with ⟨opening, isOpening⟩
  have isYoung : cutoff ≤ opening :=
    young live storedLive unrevoked inTime opening (sameFamily ▸ isOpening)
  rcases Option.ne_none_iff_exists'.mp revoked with ⟨revokedAt, isRevoked⟩
  have revokedInTime : opening ≤ revokedAt :=
    sound.revokedLater token stored opening isOpening revokedAt isRevoked
  have expiresInTime : opening ≤ token.expiresAt :=
    sound.expiresLater token stored revoked live storedLive sameFamily unrevoked opening isOpening
  rw [refreshTokenExpired, isRevoked, Option.any_some, Bool.or_eq_false_iff]
  exact ⟨decide_eq_false (not_lt.mpr (isYoung.trans expiresInTime)),
    decide_eq_false (not_lt.mpr (isYoung.trans revokedInTime))⟩

theorem purged (sound : book.Sound) {now : Instant} (young : book.Young cutoff now)
    (isPast : now ∈ book.times) :
    Book.Sound
      { book with tokens := book.tokens.filter fun token => !refreshTokenExpired cutoff token } := by
  have was : ∀ token ∈ book.tokens.filter (fun token => !refreshTokenExpired cutoff token),
      token ∈ book.tokens := fun _ kept => (List.mem_filter.mp kept).1
  refine { sound with
    opened := fun token kept => sound.opened token (was token kept)
    generated := fun token kept => sound.generated token (was token kept)
    distinct := sound.distinct.sublist (List.filter_sublist.map _)
    single := fun token kept other keptOther =>
      sound.single token (was token kept) other (was other keptOther)
    revokedLater := fun token kept => sound.revokedLater token (was token kept)
    expiresLater := fun token kept revoked other keptOther =>
      sound.expiresLater token (was token kept) revoked other (was other keptOther)
    spentRevoked := fun spent isSpent token kept =>
      sound.spentRevoked spent isSpent token (was token kept)
    spentStored := ?_ }
  intro spent isSpent live kept inFamily unrevoked moment passed inTime
  rcases sound.spentStored spent isSpent live (was live kept) inFamily unrevoked moment passed
    inTime with ⟨token, stored, isHash⟩
  rcases sound.spentRevoked spent isSpent token stored isHash with ⟨tokenFamily, revoked⟩
  have inTimeNow : now < live.expiresAt := lt_of_le_of_lt (passed now isPast) inTime
  have notExpired : refreshTokenExpired cutoff token = false :=
    sound.spared young stored revoked (was live kept) (inFamily.trans tokenFamily.symm) unrevoked
      inTimeNow
  exact ⟨token, List.mem_filter.mpr ⟨stored, by simp [notExpired]⟩, isHash⟩

end Book.Sound

/-! ## Links -/

theorem Book.Sound.relinked {book : Book} (sound : book.Sound)
    (relinks : Relinks change) :
    Book.Sound { book with tokens := book.tokens.map change } := by
  refine { sound with
    opened := ?_, generated := ?_, distinct := ?_, single := ?_, revokedLater := ?_
    expiresLater := ?_, spentRevoked := ?_, spentStored := ?_ }
  · simpa only [List.forall_mem_map, relinks.familyId] using sound.opened
  · simpa only [List.forall_mem_map, relinks.tokenHash] using sound.generated
  · simpa only [List.map_map, Function.comp_def, relinks.tokenHash] using sound.distinct
  · simp only [List.forall_mem_map, relinks.familyId, relinks.revokedAt]
    exact fun token stored other storedOther sameFamily unrevoked unrevokedOther =>
      congrArg change (sound.single token stored other storedOther sameFamily unrevoked
        unrevokedOther)
  · simpa only [List.forall_mem_map, relinks.familyId, relinks.revokedAt] using sound.revokedLater
  · simpa only [List.forall_mem_map, relinks.familyId, relinks.revokedAt, relinks.expiresAt]
      using sound.expiresLater
  · simpa only [List.forall_mem_map, relinks.familyId, relinks.revokedAt, relinks.tokenHash]
      using sound.spentRevoked
  · simp only [List.forall_mem_map, relinks.familyId, relinks.revokedAt, relinks.expiresAt]
    intro spent isSpent live stored inFamily unrevoked moment passed inTime
    rcases sound.spentStored spent isSpent live stored inFamily unrevoked moment passed inTime with
      ⟨token, isToken, isHash⟩
    exact ⟨change token, List.mem_map_of_mem isToken, (relinks.tokenHash token).trans isHash⟩

end StarterTemplate.Authentication
