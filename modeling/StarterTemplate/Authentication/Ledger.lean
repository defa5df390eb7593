import Mathlib.Data.List.Chain
import Mathlib.Data.List.Nodup
import StarterTemplate.Database.Schema

/-!
# The ledger of refresh tokens

What the refresh tokens are for, without the database: a ledger of tokens in the order
of their creation, in which the tokens of each family form one chain.  A ledger carries
the proof that it is in order, so every operation on it is also a proof that it keeps
the order.
-/

namespace StarterTemplate.Authentication

open Library Database

/-- The second token replaced the first one. -/
def Links (token next : RefreshTokenRow) : Prop :=
  token.revokedAt ≠ none ∧ token.replacedByTokenId = some next.id ∧ token.userId = next.userId

/-- Each token but the last is revoked and replaced by the one after it, for the same
user; the last one is not replaced. -/
structure Chain (tokens : List RefreshTokenRow) : Prop where
  links : tokens.IsChain Links
  ends : ∀ last ∈ tokens.getLast?, last.replacedByTokenId = none

/-- The tokens of a family, in the order of their creation. -/
def family (familyId : Uuid) (tokens : List RefreshTokenRow) : List RefreshTokenRow :=
  tokens.filter fun token => token.familyId = familyId

variable {token record : RefreshTokenRow} {mark : RefreshTokenRow → RefreshTokenRow}

theorem mem_family {familyId : Uuid} {tokens : List RefreshTokenRow} :
    token ∈ family familyId tokens ↔ token ∈ tokens ∧ token.familyId = familyId := by
  simp [family]

/-! ## Chains -/

namespace Chain

variable {tokens : List RefreshTokenRow} {left right : RefreshTokenRow}

section

variable (chain : Chain tokens)
include chain

/-- An unrevoked token is the last of its chain. -/
theorem eq_append_of_unrevoked (member : left ∈ tokens) (unrevoked : left.revokedAt = none) :
    ∃ earlier, tokens = earlier ++ [left] := by
  rcases List.append_of_mem member with ⟨earlier, later, split⟩
  cases later with
  | nil => exact ⟨earlier, split⟩
  | cons next rest =>
    have links := chain.links
    rw [split, List.isChain_append] at links
    exact absurd unrevoked (List.isChain_cons_cons.mp links.2.1).1.1

/-- A chain has at most one unrevoked token. -/
theorem unrevoked_unique (leftMember : left ∈ tokens) (rightMember : right ∈ tokens)
    (leftUnrevoked : left.revokedAt = none) (rightUnrevoked : right.revokedAt = none) :
    left = right := by
  rcases chain.eq_append_of_unrevoked leftMember leftUnrevoked with ⟨earlier, split⟩
  rcases chain.eq_append_of_unrevoked rightMember rightUnrevoked with ⟨others, same⟩
  rw [split] at same
  exact (List.append_inj' same rfl).2 |> List.singleton_inj.mp

/-- An unrevoked token has not been replaced. -/
theorem not_replaced (member : left ∈ tokens) (unrevoked : left.revokedAt = none) :
    left.replacedByTokenId = none := by
  rcases chain.eq_append_of_unrevoked member unrevoked with ⟨earlier, split⟩
  apply chain.ends
  rw [split, List.getLast?_append]
  rfl

/-- The tokens of a chain belong to one user. -/
theorem one_user (leftMember : left ∈ tokens) (rightMember : right ∈ tokens) :
    left.userId = right.userId := by
  have sameUser : tokens.IsChain fun token next => token.userId = next.userId :=
    chain.links.imp fun _ _ links => links.2.2
  have pairs := List.isChain_iff_pairwise.mp sameUser
  have reflexive : ∀ token ∈ tokens, token.userId = token.userId := fun _ _ => rfl
  exact List.Pairwise.forall_of_forall (R := fun token next => token.userId = next.userId)
    reflexive pairs leftMember rightMember

/-- Revoking tokens of a chain leaves a chain. -/
theorem map
    (marks : ∀ token, ∃ revokedAt, mark token = { token with revokedAt := revokedAt } ∧
      (token.revokedAt ≠ none → revokedAt ≠ none)) :
    Chain (tokens.map mark) := by
  constructor
  · rw [List.isChain_map]
    apply chain.links.imp
    intro token next ⟨revoked, replaced, user⟩
    rcases marks token with ⟨_, isMark, staysRevoked⟩
    rcases marks next with ⟨_, isNextMark, _⟩
    rw [isMark, isNextMark]
    exact ⟨staysRevoked revoked, replaced, user⟩
  intro last isLast
  rw [List.getLast?_map, Option.mem_def, Option.map_eq_some_iff] at isLast
  rcases isLast with ⟨old, isOld, isLast⟩
  rcases marks old with ⟨_, isMark, _⟩
  rw [← isLast, isMark]
  exact chain.ends old isOld

end

/-- Replacing the last token of a chain by a new one. -/
theorem snoc {earlier : List RefreshTokenRow} {revoked : RefreshTokenRow}
    (chain : Chain (earlier ++ [record])) (sameId : revoked.id = record.id)
    (sameUser : revoked.userId = record.userId) (links : Links revoked token)
    (ends : token.replacedByTokenId = none) : Chain (earlier ++ [revoked, token]) := by
  constructor
  · have before := List.isChain_append.mp chain.links
    apply List.isChain_append.mpr
    refine ⟨before.1, List.isChain_pair.mpr links, ?_⟩
    intro last isLast first isFirst
    cases isFirst
    rcases before.2.2 last isLast record rfl with ⟨isRevoked, replaced, user⟩
    exact ⟨isRevoked, by rw [sameId, replaced], by rw [sameUser, user]⟩
  intro last isLast
  rw [List.getLast?_append] at isLast
  cases isLast
  exact ends

end Chain

/-! ## Ledgers -/

/-- The refresh tokens in the order of their creation: with distinct ids and digests, and
in every family one chain. -/
structure Ledger where
  tokens : List RefreshTokenRow
  distinct : (tokens.map RefreshTokenRow.id).Nodup
  digests : (tokens.map RefreshTokenRow.tokenHash).Nodup
  chained : ∀ familyId, Chain (family familyId tokens)

namespace Ledger

variable (ledger : Ledger)

/-- No session has been opened yet. -/
def empty : Ledger where
  tokens := []
  distinct := List.nodup_nil
  digests := List.nodup_nil
  chained _ := ⟨List.isChain_nil, fun _ isLast => by cases isLast⟩

section

variable {left right : RefreshTokenRow} (leftMember : left ∈ ledger.tokens)
  (rightMember : right ∈ ledger.tokens)
include leftMember rightMember

theorem eq_of_id_eq (sameId : left.id = right.id) : left = right :=
  List.inj_on_of_nodup_map ledger.distinct leftMember rightMember sameId

theorem eq_of_hash_eq (sameHash : left.tokenHash = right.tokenHash) : left = right :=
  List.inj_on_of_nodup_map ledger.digests leftMember rightMember sameHash

end

theorem chain_of_mem (member : token ∈ ledger.tokens) :
    Chain (family token.familyId ledger.tokens) ∧
      token ∈ family token.familyId ledger.tokens :=
  ⟨ledger.chained token.familyId, mem_family.mpr ⟨member, rfl⟩⟩

section

variable {left right : RefreshTokenRow} (leftMember : left ∈ ledger.tokens)
  (rightMember : right ∈ ledger.tokens) (sameFamily : left.familyId = right.familyId)
include leftMember rightMember sameFamily

/-- All tokens of a family belong to one user. -/
theorem one_user : left.userId = right.userId :=
  (ledger.chained right.familyId).one_user (mem_family.mpr ⟨leftMember, sameFamily⟩)
    (mem_family.mpr ⟨rightMember, rfl⟩)

/-- At most one token of a family is unrevoked. -/
theorem unrevoked_unique (leftUnrevoked : left.revokedAt = none)
    (rightUnrevoked : right.revokedAt = none) : left = right :=
  (ledger.chained right.familyId).unrevoked_unique (mem_family.mpr ⟨leftMember, sameFamily⟩)
    (mem_family.mpr ⟨rightMember, rfl⟩) leftUnrevoked rightUnrevoked

end

/-- A new token, neither revoked nor replaced. -/
structure New (token : RefreshTokenRow) : Prop where
  newId : ∀ old ∈ ledger.tokens, old.id ≠ token.id
  newHash : ∀ old ∈ ledger.tokens, old.tokenHash ≠ token.tokenHash
  unrevoked : token.revokedAt = none
  ends : token.replacedByTokenId = none

variable {Column : Type}

section

variable {column : RefreshTokenRow → Column} {tokens : List RefreshTokenRow}
  (nodup : (tokens.map column).Nodup)
include nodup

theorem nodup_snoc (new : ∀ old ∈ tokens, column old ≠ column token) :
    ((tokens ++ [token]).map column).Nodup := by
  rw [List.map_append, List.map_singleton, List.nodup_append]
  refine ⟨nodup, List.nodup_singleton _, ?_⟩
  intro value member other isNew
  rcases List.mem_map.mp member with ⟨old, oldMember, isOld⟩
  rw [List.mem_singleton.mp isNew, ← isOld]
  exact new old oldMember

theorem nodup_map (same : ∀ token, column (mark token) = column token) :
    ((tokens.map mark).map column).Nodup := by
  rw [List.map_map, Function.comp_def]
  simp only [same]
  exact nodup

end

theorem family_snoc (familyId : Uuid) (tokens : List RefreshTokenRow) (token : RefreshTokenRow) :
    family familyId (tokens ++ [token]) =
      family familyId tokens ++ if token.familyId = familyId then [token] else [] := by
  simp [family, List.filter_cons]

/-- A token that opens a family. -/
def openFamily (token : RefreshTokenRow) (new : ledger.New token)
    (newFamily : ∀ old ∈ ledger.tokens, old.familyId ≠ token.familyId) : Ledger where
  tokens := ledger.tokens ++ [token]
  distinct := nodup_snoc ledger.distinct new.newId
  digests := nodup_snoc ledger.digests new.newHash
  chained familyId := by
    rw [family_snoc]
    split
    · rename_i isFamily
      have nothing : family familyId ledger.tokens = [] := by
        rw [family, List.filter_eq_nil_iff]
        intro old member
        simpa [← isFamily] using newFamily old member
      rw [nothing]
      refine ⟨List.isChain_singleton _, ?_⟩
      intro last isLast
      cases isLast
      exact new.ends
    · rw [List.append_nil]
      exact ledger.chained familyId

/-- The record as a rotation leaves it. -/
def replaced (record token : RefreshTokenRow) (now : Instant) (old : RefreshTokenRow) :
    RefreshTokenRow :=
  if old.id = record.id then
    { old with revokedAt := some now, replacedByTokenId := some token.id }
  else old

theorem replaced_eq (record token : RefreshTokenRow) (now : Instant) (old : RefreshTokenRow) :
    ∃ revokedAt next, replaced record token now old =
        { old with revokedAt := revokedAt, replacedByTokenId := next } ∧
      (old.revokedAt ≠ none → revokedAt ≠ none) := by
  rw [replaced]
  split
  · exact ⟨_, _, rfl, by simp⟩
  · exact ⟨_, _, rfl, id⟩

/-- A rotation leaves the other columns of all tokens alone. -/
theorem column_replaced (column : RefreshTokenRow → Column) (other : ∀ token revokedAt next, column
      { token with revokedAt := revokedAt, replacedByTokenId := next } = column token)
    (record token : RefreshTokenRow) (now : Instant) (old : RefreshTokenRow) :
    column (replaced record token now old) = column old := by
  rcases replaced_eq record token now old with ⟨_, _, isReplaced, _⟩
  rw [isReplaced, other]

theorem family_map (familyId : Uuid) (tokens : List RefreshTokenRow)
    (sameFamily : ∀ token, (mark token).familyId = token.familyId) :
    family familyId (tokens.map mark) = (family familyId tokens).map mark := by
  rw [family, List.filter_map, family]
  simp [Function.comp_def, sameFamily]

theorem map_replaced_of_ne {now : Instant} {tokens : List RefreshTokenRow}
    (others : ∀ old ∈ tokens, old.id ≠ record.id) :
    tokens.map (replaced record token now) = tokens := by
  have unchanged : tokens.map (replaced record token now) = tokens.map id :=
    List.map_congr_left fun old member => if_neg (others old member)
  rw [unchanged, List.map_id]

/-- Before the unrevoked token of a family come tokens with other ids. -/
theorem earlier_ne {familyId : Uuid} {earlier : List RefreshTokenRow}
    (split : family familyId ledger.tokens = earlier ++ [record]) :
    ∀ old ∈ earlier, old.id ≠ record.id := by
  have distinct : ((family familyId ledger.tokens).map RefreshTokenRow.id).Nodup :=
    ledger.distinct.sublist (List.filter_sublist.map _)
  rw [split, List.map_append, List.nodup_append] at distinct
  intro old member
  exact distinct.2.2 _ (List.mem_map_of_mem member) _ (.head _)

/-- A token that replaces an unrevoked one of its family. -/
def rotate (record token : RefreshTokenRow) (now : Instant) (new : ledger.New token)
    (present : record ∈ ledger.tokens) (unrevoked : record.revokedAt = none)
    (sameFamily : token.familyId = record.familyId) (sameUser : token.userId = record.userId) :
    Ledger where
  tokens := (ledger.tokens ++ [token]).map (replaced record token now)
  distinct := nodup_map (nodup_snoc ledger.distinct new.newId)
    (column_replaced _ (fun _ _ _ => rfl) record token now)
  digests := nodup_map (nodup_snoc ledger.digests new.newHash)
    (column_replaced _ (fun _ _ _ => rfl) record token now)
  chained familyId := by
    rw [family_map _ _ (column_replaced _ (fun _ _ _ => rfl) record token now), family_snoc,
      List.map_append]
    split
    · rename_i isFamily
      subst isFamily
      rcases ledger.chain_of_mem present with ⟨chain, inFamily⟩
      rw [← sameFamily] at chain inFamily
      rcases chain.eq_append_of_unrevoked inFamily unrevoked with ⟨earlier, split⟩
      have recordReplaced : replaced record token now record =
          { record with revokedAt := some now, replacedByTokenId := some token.id } :=
        if_pos rfl
      have tokenKept : replaced record token now token = token :=
        if_neg (new.newId record present).symm
      rw [split, List.map_append, map_replaced_of_ne (ledger.earlier_ne split),
        List.append_assoc, List.map_singleton, List.map_singleton, recordReplaced, tokenKept]
      rw [split] at chain
      exact chain.snoc rfl rfl ⟨by simp, rfl, sameUser.symm⟩ new.ends
    · rename_i notFamily
      rw [List.map_nil, List.append_nil, map_replaced_of_ne]
      · exact ledger.chained familyId
      · intro old member sameId
        rcases mem_family.mp member with ⟨inLedger, isFamily⟩
        rw [ledger.eq_of_id_eq inLedger present sameId, ← sameFamily] at isFamily
        exact notFamily isFamily

/-- A token as a revocation of the tokens that pass a test leaves it. -/
def revokedIf (test : RefreshTokenRow → Bool) (now : Instant) (token : RefreshTokenRow) :
    RefreshTokenRow :=
  if token.revokedAt = none ∧ test token then { token with revokedAt := some now } else token

theorem revokedIf_eq (test : RefreshTokenRow → Bool) (now : Instant) (token : RefreshTokenRow) :
    ∃ revokedAt, revokedIf test now token = { token with revokedAt := revokedAt } ∧
      (token.revokedAt ≠ none → revokedAt ≠ none) ∧ (test token = true → revokedAt ≠ none) := by
  rw [revokedIf]
  split
  · exact ⟨some now, rfl, by simp, by simp⟩
  rename_i notBoth
  refine ⟨token.revokedAt, rfl, id, ?_⟩
  intro passes isNone
  exact notBoth ⟨isNone, passes⟩

theorem column_revokedIf (column : RefreshTokenRow → Column)
    (other : ∀ token revokedAt, column { token with revokedAt := revokedAt } = column token)
    (test : RefreshTokenRow → Bool) (now : Instant) (token : RefreshTokenRow) :
    column (revokedIf test now token) = column token := by
  rcases revokedIf_eq test now token with ⟨_, isRevoked, _⟩
  rw [isRevoked, other]

/-- The revocation of the tokens that pass a test. -/
def revoke (test : RefreshTokenRow → Bool) (now : Instant) : Ledger where
  tokens := ledger.tokens.map (revokedIf test now)
  distinct := nodup_map ledger.distinct (column_revokedIf _ (fun _ _ => rfl) test now)
  digests := nodup_map ledger.digests (column_revokedIf _ (fun _ _ => rfl) test now)
  chained familyId := by
    rw [family_map _ _ (column_revokedIf _ (fun _ _ => rfl) test now)]
    apply (ledger.chained familyId).map
    intro token
    rcases revokedIf_eq test now token with ⟨revokedAt, isRevoked, stays, _⟩
    exact ⟨revokedAt, isRevoked, stays⟩

/-! ## Steps of a ledger -/

/-- What one use case does to the ledger. -/
inductive Step (ledger : Ledger) : Ledger → Prop where
  | kept : Step ledger ledger
  | opened (token : RefreshTokenRow) (new : ledger.New token)
      (newFamily : ∀ old ∈ ledger.tokens, old.familyId ≠ token.familyId) :
      Step ledger (ledger.openFamily token new newFamily)
  | rotated (record token : RefreshTokenRow) (now : Instant) (new : ledger.New token)
      (present : record ∈ ledger.tokens) (unrevoked : record.revokedAt = none)
      (sameFamily : token.familyId = record.familyId)
      (sameUser : token.userId = record.userId) :
      Step ledger (ledger.rotate record token now new present unrevoked sameFamily sameUser)
  | revoked (test : RefreshTokenRow → Bool) (now : Instant) : Step ledger (ledger.revoke test now)

/-- The token with this digest has been revoked. -/
def Spent (tokenHash : String) : Prop :=
  ∃ record ∈ ledger.tokens, record.tokenHash = tokenHash ∧ record.revokedAt ≠ none

variable {ledger} {next : Ledger}

/-- A revoked token stays in the ledger, and revoked. -/
theorem Step.spent (step : ledger.Step next) {tokenHash : String}
    (spent : ledger.Spent tokenHash) : next.Spent tokenHash := by
  rcases spent with ⟨record, member, isHash, revoked⟩
  cases step with
  | kept => exact ⟨record, member, isHash, revoked⟩
  | opened => exact ⟨record, List.mem_append_left _ member, isHash, revoked⟩
  | rotated old token now =>
    refine ⟨_, List.mem_map_of_mem (List.mem_append_left _ member), ?_⟩
    rcases replaced_eq old token now record with ⟨_, _, isReplaced, stays⟩
    rw [isReplaced]
    exact ⟨isHash, stays revoked⟩
  | revoked test now =>
    refine ⟨_, List.mem_map_of_mem member, ?_⟩
    rcases revokedIf_eq test now record with ⟨_, isRevoked, stays, _⟩
    rw [isRevoked]
    exact ⟨isHash, stays revoked⟩

/-- A rotation spends its token. -/
theorem spent_rotate {now : Instant} (new : ledger.New token) (present : record ∈ ledger.tokens)
    (unrevoked : record.revokedAt = none) (sameFamily : token.familyId = record.familyId)
    (sameUser : token.userId = record.userId) :
    (ledger.rotate record token now new present unrevoked sameFamily sameUser).Spent
      record.tokenHash := by
  refine ⟨_, List.mem_map_of_mem (List.mem_append_left _ present), ?_⟩
  rw [replaced, if_pos rfl]
  exact ⟨rfl, by simp⟩

end Ledger

end StarterTemplate.Authentication
