import StarterTemplate.Authentication.Effects
import StarterTemplate.Users.UseCases

/-!
# What a purge deletes

A purge deletes exactly the tokens past its cutoff, reports their numbers, and clears the
links to them.  A token that it deletes is revoked, used or expired, so that no run after it
would have accepted it.  A retention that reaches back before the first representable moment
makes the purge raise instead.
-/

namespace StarterTemplate.Authentication

open Library Database Users Prog

/-! ## Acceptance -/

/-- The token that passes the tests of `RotateRefreshToken`: it is stored, not revoked, and not
expired. -/
def acceptedRefreshToken (input : SessionInput) (refreshToken : Option String)
    (tokens : List RefreshTokenRow) : Option RefreshTokenRow :=
  if refreshToken.getD "" = "" then none
  else (findPresented input refreshToken tokens).filter fun token =>
    token.revokedAt.isNone && input.now < token.expiresAt

/-- The unique constraints of the two token tables. -/
structure UniqueHashes (content : Tables) : Prop where
  refresh : ((content .refreshToken).map RefreshTokenRow.tokenHash).Nodup
  internal : ((content .internalToken).map InternalTokenRow.tokenHash).Nodup

/-- The first match of a list is the first match of the part that passes a test, when it passes
the test itself and there is no other match. -/
theorem find_filter {Item Key : Type} {items : List Item} {keyOf : Item → Key}
    (distinct : (items.map keyOf).Nodup) {wanted kept : Item → Bool} {target : Key}
    (isKey : ∀ item, wanted item = true → keyOf item = target) :
    (items.filter kept).find? wanted = (items.find? wanted).filter kept := by
  induction items with
  | nil => rfl
  | cons item items ih =>
    rw [List.map_cons, List.nodup_cons] at distinct
    cases isWanted : wanted item with
    | true =>
      have noOther : items.find? wanted = none := by
        apply List.find?_eq_none.mpr
        intro other isOther isWantedToo
        apply distinct.1
        rw [isKey item isWanted, ← isKey other isWantedToo]
        exact List.mem_map_of_mem isOther
      cases isKept : kept item with
      | true => simp [isWanted, isKept, Option.filter]
      | false =>
        rw [List.filter_cons_of_neg (by simp [isKept]), ih distinct.2, noOther]
        simp [isWanted, isKept, Option.filter]
    | false =>
      cases isKept : kept item with
      | true | false => simp [isWanted, isKept, ih distinct.2]

/-- A rotation does not accept a token that a purge before it deletes. -/
theorem not_accepted_of_expired {cutoff : Instant} {input : SessionInput}
    (past : cutoff ≤ input.now) {token : RefreshTokenRow}
    (isExpired : refreshTokenExpired cutoff token = true) :
    (token.revokedAt.isNone && decide (input.now < token.expiresAt)) = false := by
  rw [refreshTokenExpired, Bool.or_eq_true, decide_eq_true_eq] at isExpired
  rcases isExpired with isLate | isRevoked
  · have isOver : ¬ input.now < token.expiresAt := not_lt.mpr ((le_of_lt isLate).trans past)
    rw [decide_eq_false isOver, Bool.and_false]
  cases revoked : token.revokedAt with
  | none =>
    simp [revoked] at isRevoked
  | some moment => rfl

section

variable {content : Tables} (unique : UniqueHashes content) {cutoff : Instant}
  {input : SessionInput} (past : cutoff ≤ input.now)
include unique past

/-- A rotation after the purge accepts the tokens that it would have accepted before. -/
theorem accepted_after_purge (refreshToken : Option String) :
    acceptedRefreshToken input refreshToken (purgedTables cutoff content .refreshToken) =
      (acceptedRefreshToken input refreshToken (content .refreshToken)).map
        (unlink (purgedIds cutoff (content .refreshToken))) := by
  have relinks := unlink_relinks (purgedIds cutoff (content .refreshToken))
  have isFound : findPresented input refreshToken (purgedTables cutoff content .refreshToken) =
      ((findPresented input refreshToken (content .refreshToken)).filter fun token =>
        !refreshTokenExpired cutoff token).map
          (unlink (purgedIds cutoff (content .refreshToken))) := by
    rw [purgedTables_refreshToken, findPresented, List.find?_map, findPresented,
      ← find_filter unique.refresh fun token isHash => beq_iff_eq.mp isHash]
    simp only [Function.comp_def, relinks.tokenHash]
  rw [acceptedRefreshToken, acceptedRefreshToken]
  split
  · rfl
  rw [isFound]
  cases findPresented input refreshToken (content .refreshToken) with
  | none => rfl
  | some token =>
    cases isExpired : refreshTokenExpired cutoff token with
    | true => simp [Option.filter, isExpired, not_accepted_of_expired past isExpired]
    | false =>
      simp only [Option.filter, isExpired, Bool.not_false, if_true, Option.map_some,
        relinks.revokedAt, relinks.expiresAt]
      split
      · rfl
      · rfl

/-- A confirmation after the purge accepts the tokens that it would have accepted before. -/
theorem redeems_after_purge {token : String} {purpose : Purpose} {record : InternalTokenRow}
    {userId : Uuid} :
    Redeems input token purpose (purgedTables cutoff content) record userId ↔
      Redeems input token purpose content record userId := by
  have isFound : findToken (input.hashToken token) purpose (purgedTables cutoff content) =
      (findToken (input.hashToken token) purpose content).filter fun record =>
        !internalTokenExpired cutoff record := by
    rw [findToken, purgedTables_internalToken]
    apply find_filter unique.internal
    intro other isWanted
    exact beq_iff_eq.mp (Bool.and_eq_true_iff.mp isWanted).1
  constructor
  · intro redeems
    have found := redeems.found
    rw [isFound, Option.filter_eq_some_iff] at found
    exact ⟨found.1, redeems.unexpired, redeems.unused, redeems.owner⟩
  intro redeems
  have isAlive : internalTokenExpired cutoff record = false := by
    rw [internalTokenExpired, redeems.unused]
    exact decide_eq_false (not_lt.mpr (past.trans (le_of_lt redeems.unexpired)))
  refine ⟨?_, redeems.unexpired, redeems.unused, redeems.owner⟩
  rw [isFound, Option.filter_eq_some_iff]
  exact ⟨redeems.found, by rw [isAlive]; rfl⟩

end

/-! ## Whole purges -/

/-- A token that was rotated away and has expired, and a live one that is linked to it. -/
def deadAndLive : Backend where
  store := ⟨[
    .refreshToken ⟨10, 1, "dead", 7, 0, some 0, none, none, none⟩,
    .refreshToken ⟨20, 1, "live", 7, 20 * Duration.microsPerDay, none, some 10, none, none⟩],
    by decide⟩
  cache := emptyCache

theorem uniqueHashes_deadAndLive : UniqueHashes deadAndLive.tables := ⟨by decide, by decide⟩

end StarterTemplate.Authentication
