import Mathlib.Data.List.Sort

/-!
# Filtering a sorted selection

A query filters the rows of a table and orders what is left.  The sort of a list is
stable, so a filter may as well be applied to the ordered rows; and a test that holds
of everything before an element of which it holds cuts the ordered rows in two.
-/

namespace StarterTemplate.Library

variable {Element : Type} {before : Element → Element → Prop} {test : Element → Bool}

/-- A test that no element passes after one that fails it cuts a sorted list in two. -/
theorem filter_append_of_pairwise {elements : List Element} (sorted : elements.Pairwise before)
    (closed : ∀ {left right}, before left right → test right = true → test left = true) :
    elements.filter test ++ elements.filter (fun element => !test element) = elements := by
  induction sorted with
  | nil => rfl
  | @cons first rest least _ ih =>
    cases tested : test first with
    | true => simp [tested, ih]
    | false =>
      have noneLater : ∀ element ∈ rest, test element = false := by
        intro element member
        cases passes : test element with
        | false => rfl
        | true => exact (closed (least element member) passes).symm.trans tested
      have nothing : rest.filter test = [] := by
        rw [List.filter_eq_nil_iff]
        intro element member
        simp [noneLater element member]
      have everything : rest.filter (fun element => !test element) = rest := by
        rw [List.filter_eq_self]
        intro element member
        simp [noneLater element member]
      simp [tested, nothing, everything]

/-- What is left of a first part once the first elements of the whole are gone. -/
theorem filter_notMem_take {Key : Type} [DecidableEq Key] (keyOf : Element → Key)
    {first rest : List Element} (distinct : ((first ++ rest).map keyOf).Nodup) (limit : Nat) :
    (first.filter fun element => keyOf element ∉ ((first ++ rest).take limit).map keyOf) =
      first.drop limit := by
  have taken : ∀ element ∈ first.take limit,
      keyOf element ∈ ((first ++ rest).take limit).map keyOf := by
    intro element member
    rw [List.take_append]
    exact List.mem_map_of_mem (List.mem_append_left _ member)
  have left : ∀ element ∈ first.drop limit,
      keyOf element ∉ ((first ++ rest).take limit).map keyOf := by
    intro element member isTaken
    have later : keyOf element ∈ ((first ++ rest).drop limit).map keyOf := by
      rw [List.drop_append]
      exact List.mem_map_of_mem (List.mem_append_left _ member)
    rw [← List.take_append_drop limit (first ++ rest), List.map_append] at distinct
    exact (List.nodup_append.mp distinct).2.2 _ isTaken _ later rfl
  conv_lhs => rw [← List.take_append_drop limit first]
  rw [List.filter_append, List.filter_eq_nil_iff.mpr, List.filter_eq_self.mpr, List.nil_append]
  · intro element member
    rw [List.take_append_drop, decide_eq_true_eq]
    exact left element member
  · intro element member
    rw [List.take_append_drop, decide_eq_true_eq, not_not]
    exact taken element member

/-- A first batch and what follows it begin with a list when what follows begins with the
rest of the list. -/
theorem take_batches {Key : Type} {keyOf : Element → Key} {first beyond : List Element}
    {limit : Nat} {later : List Key}
    (remaining : later.take (first.length - limit) = (first.drop limit).map keyOf) :
    ((((first ++ beyond).take limit).map keyOf) ++ later).take first.length =
      first.map keyOf := by
  by_cases short : first.length ≤ limit
  · have whole : (first ++ beyond).take limit = first ++ beyond.take (limit - first.length) := by
      rw [List.take_append, List.take_of_length_le short]
    rw [whole, List.map_append, List.append_assoc]
    exact List.take_left' (List.length_map keyOf)
  have long : limit ≤ first.length := by omega
  have taken : ((first.take limit).map keyOf).length = limit := by
    rw [List.length_map, List.length_take, Nat.min_eq_left long]
  rw [List.take_append_of_le_length long, List.take_append, taken, remaining,
    List.take_of_length_le (taken.trans_le long), ← List.map_append, List.take_append_drop]

variable [DecidableRel before]

theorem orderedInsert_of_forall {first : Element} {elements : List Element}
    (least : ∀ element ∈ elements, before first element) :
    elements.orderedInsert before first = first :: elements := by
  cases elements with
  | nil => rfl
  | cons second rest =>
    exact List.orderedInsert_cons_of_le before rest (least second (.head _))

variable [IsTrans Element before]

theorem filter_orderedInsert (first : Element) {elements : List Element}
    (sorted : elements.Pairwise before) :
    (elements.orderedInsert before first).filter test =
      if test first = true then (elements.filter test).orderedInsert before first
      else elements.filter test := by
  induction sorted with
  | nil => by_cases tested : test first <;> simp [tested]
  | @cons second rest least _ ih =>
    by_cases order : before first second
    · rw [List.orderedInsert_cons_of_le before rest order]
      by_cases tested : test first
      · have least' : ∀ element ∈ (second :: rest).filter test, before first element := by
          intro element member
          rcases List.mem_cons.mp (List.mem_filter.mp member).1 with isSecond | isLater
          · exact isSecond ▸ order
          · exact IsTrans.trans first second element order (least element isLater)
        rw [orderedInsert_of_forall least', if_pos tested, List.filter_cons_of_pos tested]
      · rw [if_neg tested, List.filter_cons_of_neg tested]
    rw [List.orderedInsert_of_not_le before rest order]
    by_cases passes : test second
    · rw [List.filter_cons_of_pos passes, List.filter_cons_of_pos passes, ih,
        List.orderedInsert_of_not_le before _ order]
      split <;> rfl
    · rw [List.filter_cons_of_neg passes, List.filter_cons_of_neg passes, ih]

/-- Filtering and sorting commute. -/
theorem filter_insertionSort [Std.Total before] (elements : List Element) :
    (elements.insertionSort before).filter test =
      (elements.filter test).insertionSort before := by
  induction elements with
  | nil => rfl
  | cons first rest ih =>
    rw [List.insertionSort_cons, filter_orderedInsert first
      (List.pairwise_insertionSort before rest), ih]
    by_cases tested : test first
    · rw [if_pos tested, List.filter_cons_of_pos tested, List.insertionSort_cons]
    · rw [if_neg tested, List.filter_cons_of_neg tested]

end StarterTemplate.Library
