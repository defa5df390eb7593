import Mathlib.Data.List.Sort

/-!
# First occurrences

The loop that walks a list and keeps what it has not seen yet.  On a sorted list it leaves
the elements in strictly increasing order.
-/

namespace StarterTemplate.Library

variable {Item : Type} [DecidableEq Item]

/-- The first occurrences in a list of what has not been seen before. -/
def distinct : List Item → List Item → List Item
  | _, [] => []
  | seen, item :: items =>
    if item ∈ seen then distinct seen items else item :: distinct (item :: seen) items

@[simp] theorem mem_distinct {seen items : List Item} {item : Item} :
    item ∈ distinct seen items ↔ item ∈ items ∧ item ∉ seen := by
  induction items generalizing seen with
  | nil => simp [distinct]
  | cons first items ih =>
    rw [distinct]
    split
    · rename_i isSeen
      rw [ih, List.mem_cons]
      constructor
      · intro ⟨isItem, new⟩
        exact ⟨.inr isItem, new⟩
      intro ⟨isItem, new⟩
      refine ⟨isItem.resolve_left ?_, new⟩
      intro same
      rw [same] at new
      exact new isSeen
    rename_i unseen
    by_cases same : item = first
    · simp [same, unseen]
    · simp [ih, same]

theorem distinct_sublist (seen items : List Item) : (distinct seen items).Sublist items := by
  induction items generalizing seen with
  | nil => exact List.Sublist.refl []
  | cons first items ih =>
    rw [distinct]
    split
    · exact (ih seen).cons first
    · exact (ih _).cons_cons first

theorem nodup_distinct (seen items : List Item) : (distinct seen items).Nodup := by
  induction items generalizing seen with
  | nil => exact List.nodup_nil
  | cons first items ih =>
    rw [distinct]
    split
    · exact ih seen
    · exact List.nodup_cons.mpr ⟨by simp, ih _⟩

/-- A list without repetitions has nothing to leave out. -/
theorem distinct_of_nodup {seen items : List Item} (nodup : items.Nodup)
    (unseen : ∀ item ∈ items, item ∉ seen) : distinct seen items = items := by
  induction items generalizing seen with
  | nil => rfl
  | cons first items ih =>
    rw [List.nodup_cons] at nodup
    rw [distinct, if_neg (unseen first (.head _)), ih nodup.2]
    intro item isItem isSeen
    rcases List.mem_cons.mp isSeen with same | old
    · rw [same] at isItem
      exact nodup.1 isItem
    · exact unseen item (.tail _ isItem) old

/-- The first occurrences in a sorted list are in strictly increasing order. -/
theorem distinct_increasing {Order : Type} [LinearOrder Order] {items : List Order}
    (sorted : items.Pairwise (· ≤ ·)) : (distinct [] items).Pairwise (· < ·) := by
  have ordered : (distinct [] items).Pairwise (· ≤ ·) :=
    sorted.sublist (distinct_sublist [] items)
  exact (ordered.and (nodup_distinct [] items)).imp fun both => lt_of_le_of_ne both.1 both.2

theorem nodup_eraseDups (items : List Item) : items.eraseDups.Nodup := by
  induction isLength : items.length using Nat.strongRecOn generalizing items with
  | ind size ih =>
    cases items with
    | nil => exact List.nodup_nil
    | cons item items =>
      have shorter : (items.filter fun other => !other == item).length < size := by
        rw [← isLength]
        exact Nat.lt_succ_of_le (List.length_filter_le _ _)
      rw [List.eraseDups_cons, List.nodup_cons, List.mem_eraseDups]
      exact ⟨by simp, ih _ shorter _ rfl⟩

end StarterTemplate.Library
