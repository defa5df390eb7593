import Mathlib.Data.List.Sort
import Mathlib.Order.Defs.LinearOrder

/-!
# Keyset pagination

A page holds the first keys after a cursor, and a full page comes with its last key as the
cursor of the next page.  Whoever follows the cursors sees every key that was there from
the beginning, in order and once, whatever keys are added between the requests.
-/

namespace StarterTemplate.Library.Keyset

variable {Key : Type} [LinearOrder Key]

/-! ## One page -/

/-- The key comes after the cursor. -/
def after : Option Key → Key → Bool
  | none, _ => true
  | some last, key => decide (last < key)

/-- The keys after the cursor, in order. -/
def remaining (cursor : Option Key) (keys : List Key) : List Key :=
  (keys.filter (after cursor)).insertionSort (· ≤ ·)

/-- The first keys after the cursor. -/
def page (limit : Nat) (cursor : Option Key) (keys : List Key) : List Key :=
  (remaining cursor keys).take limit

/-- The last key of a full page. -/
def nextCursor (limit : Nat) (shown : List Key) : Option Key :=
  if shown.length = limit then shown.getLast? else none

variable {limit : Nat} {cursor : Option Key} {keys : List Key} {key last : Key}

theorem mem_remaining :
    key ∈ remaining cursor keys ↔ key ∈ keys ∧ after cursor key = true := by
  rw [remaining, List.mem_insertionSort, List.mem_filter]

theorem sorted_remaining (distinct : keys.Nodup) :
    (remaining cursor keys).Pairwise (· < ·) := by
  have nodup : (remaining cursor keys).Nodup :=
    (List.perm_insertionSort _ _).nodup_iff.mpr (distinct.filter _)
  have sorted : (remaining cursor keys).Pairwise (· ≤ ·) := List.pairwise_insertionSort _ _
  exact (sorted.and nodup).imp fun both => lt_of_le_of_ne both.1 both.2

theorem sorted_page (distinct : keys.Nodup) : (page limit cursor keys).Pairwise (· < ·) :=
  (sorted_remaining distinct).sublist (List.take_sublist _ _)

theorem mem_of_mem_page (shown : key ∈ page limit cursor keys) :
    key ∈ keys ∧ after cursor key = true :=
  mem_remaining.mp (List.mem_of_mem_take shown)

/-- A page without a cursor holds everything after its own cursor. -/
theorem page_eq_remaining (positive : 0 < limit)
    (isLast : nextCursor limit (page limit cursor keys) = none) :
    page limit cursor keys = remaining cursor keys := by
  apply List.take_of_length_le
  by_contra tooMany
  have full : (page limit cursor keys).length = limit := by
    rw [page, List.length_take]
    omega
  rw [nextCursor, if_pos full, List.getLast?_eq_none_iff] at isLast
  rw [isLast, List.length_nil] at full
  omega

/-- A page with a cursor ends with it, and what it does not hold comes after it. -/
theorem page_of_nextCursor (distinct : keys.Nodup)
    (isNext : nextCursor limit (page limit cursor keys) = some last) :
    last ∈ page limit cursor keys ∧ (∀ key ∈ page limit cursor keys, key ≤ last) ∧
      ∀ key ∈ keys, after cursor key = true → key ∈ page limit cursor keys ∨ last < key := by
  rw [nextCursor] at isNext
  split at isNext
  · rcases List.getLast?_eq_some_iff.mp isNext with ⟨first, isPage⟩
    have whole : remaining cursor keys = page limit cursor keys ++
        (remaining cursor keys).drop limit := (List.take_append_drop _ _).symm
    have sorted := @sorted_remaining _ _ cursor _ distinct
    rw [whole, List.pairwise_append] at sorted
    have isMember : last ∈ page limit cursor keys := List.mem_of_getLast? isNext
    refine ⟨isMember, ?_, ?_⟩
    · intro key shown
      have pageSorted := sorted.1
      rw [isPage, List.pairwise_append] at pageSorted
      rw [isPage, List.mem_append, List.mem_singleton] at shown
      rcases shown with isEarlier | isLast
      · exact le_of_lt (pageSorted.2.2 key isEarlier last (.head _))
      · exact le_of_eq isLast
    intro key isKey isAfter
    have remains := mem_remaining.mpr ⟨isKey, isAfter⟩
    rw [whole, List.mem_append] at remains
    exact remains.imp_right fun isLater => sorted.2.2 last isMember key isLater
  · cases isNext

section Rows

variable {Row : Type} (place : Row → Key)

/-- The first rows with a place after the cursor, ordered by their places. -/
def select (limit : Nat) (cursor : Option Key) (rows : List Row) : List Row :=
  ((rows.filter fun row => after cursor (place row)).insertionSort
    fun left right => place left ≤ place right).take limit

/-- The places of the selected rows are a page of the places. -/
theorem map_select (limit : Nat) (cursor : Option Key) (rows : List Row) :
    (select place limit cursor rows).map place = page limit cursor (rows.map place) := by
  rw [select, page, remaining, List.map_take,
    List.map_insertionSort _ (· ≤ ·) place _ fun _ _ _ _ => Iff.rfl, List.filter_map]
  rfl

end Rows

/-! ## All pages -/

section Follow

variable {Token Problem Item : Type}

/-- How following the cursors ends: with the items of all pages, with an error, or not
within the given number of requests. -/
inductive Followed (Problem Item : Type) where
  | finished (items : List Item)
  | refused (problem : Problem)
  | unfinished

/-- The items of a page in front of those of the later pages. -/
def Followed.behind (items : List Item) : Followed Problem Item → Followed Problem Item
  | .finished later => .finished (items ++ later)
  | .refused problem => .refused problem
  | .unfinished => .unfinished

/-- Request pages until one comes without a cursor. -/
def follow (fetch : Nat → Option Token → Except Problem (List Item × Option Token)) :
    Nat → Nat → Option Token → Followed Problem Item
  | 0, _, _ => .unfinished
  | fuel + 1, request, token =>
    match fetch request token with
    | .error problem => .refused problem
    | .ok (items, none) => .finished items
    | .ok (items, some next) => (follow fetch fuel (request + 1) (some next)).behind items

/-- The requests are answered with pages of the keys that there are at the time of each,
and `shown` holds of the items that a request may list. -/
structure Pages (fetch : Nat → Option Token → Except Problem (List Item × Option Token))
    (place : Item → Key) (token : Key → Token) (limit : Nat) (content : Nat → List Key)
    (shown : Nat → Item → Prop) : Prop where
  serves : ∀ request cursor, ∃ items, items.map place = page limit cursor (content request) ∧
    (∀ item ∈ items, shown request item) ∧
    fetch request (cursor.map token) =
      .ok (items, (nextCursor limit (page limit cursor (content request))).map token)

variable {fetch : Nat → Option Token → Except Problem (List Item × Option Token)}
variable {place : Item → Key} {token : Key → Token} {content : Nat → List Key}
variable {shown : Nat → Item → Prop} {every : List Key}

/-- Fewer keys lie after the cursor of a page than after the cursor before it. -/
theorem length_after_lt (known : last ∈ every) (isAfter : after cursor last = true) :
    (every.filter (after (some last))).length < (every.filter (after cursor)).length := by
  have subset : every.filter (after (some last)) =
      (every.filter (after cursor)).filter (after (some last)) := by
    rw [List.filter_filter]
    apply List.filter_congr
    intro key _
    cases cursor with
    | none => simp [after]
    | some earlier =>
      simp only [after, decide_eq_true_eq] at isAfter ⊢
      by_cases later : last < key
      · simp [later, isAfter.trans later]
      · simp [later]
  rw [subset]
  apply List.length_filter_lt_length_iff_exists.mpr
  exact ⟨last, List.mem_filter.mpr ⟨known, isAfter⟩, by simp [after]⟩

/-- Following the cursors ends, and shows every key that there was at the first request,
in order and once. -/
theorem follow_visits (pages : Pages fetch place token limit content shown) (positive : 0 < limit)
    (distinct : ∀ request, (content request).Nodup)
    (grows : ∀ request, ∀ key ∈ content request, key ∈ content (request + 1))
    (bounded : ∀ request, ∀ key ∈ content request, key ∈ every) {fuel : Nat} :
    ∀ {request : Nat} {cursor : Option Key}, (every.filter (after cursor)).length < fuel →
      ∃ items, follow fetch fuel request (cursor.map token) = .finished items ∧
        (items.map place).Pairwise (· < ·) ∧
        (∀ item ∈ items, after cursor (place item) = true ∧ ∃ later, shown later item) ∧
        ∀ key ∈ content request, after cursor key = true → key ∈ items.map place := by
  induction fuel with
  | zero =>
    intro request cursor impossible
    exact absurd impossible (Nat.not_lt_zero _)
  | succ fuel ih =>
    intro request cursor enough
    rcases pages.serves request cursor with ⟨items, arePage, areShown, answered⟩
    have afterCursor : ∀ item ∈ items, after cursor (place item) = true := by
      intro item listed
      have onPage := List.mem_map_of_mem (f := place) listed
      rw [arePage] at onPage
      exact (mem_of_mem_page onPage).2
    cases isNext : nextCursor limit (page limit cursor (content request)) with
    | none =>
      rw [isNext] at answered
      refine ⟨items, by rw [follow, answered]; rfl, ?_, ?_, ?_⟩
      · rw [arePage]
        exact sorted_page (distinct request)
      · intro item listed
        exact ⟨afterCursor item listed, request, areShown item listed⟩
      · intro key isKey isAfter
        rw [arePage, page_eq_remaining positive isNext]
        exact mem_remaining.mpr ⟨isKey, isAfter⟩
    | some last =>
      rw [isNext] at answered
      rcases page_of_nextCursor (distinct request) isNext with ⟨isShown, areBefore, others⟩
      have isLast := mem_of_mem_page isShown
      have fewer := @length_after_lt _ _ cursor _ every (bounded request last isLast.1) isLast.2
      rcases @ih (request + 1) (some last) (by omega) with
        ⟨later, followed, sorted, areAfter, areListed⟩
      refine ⟨items ++ later, ?_, ?_, ?_, ?_⟩
      · rw [follow, answered]
        simp only [Option.map_some] at followed ⊢
        rw [followed]
        rfl
      · rw [List.map_append, List.pairwise_append, arePage]
        refine ⟨sorted_page (distinct request), sorted, ?_⟩
        intro left onPage right isLater
        rcases List.mem_map.mp isLater with ⟨item, listed, rfl⟩
        have beyond := (areAfter item listed).1
        simp only [after, decide_eq_true_eq] at beyond
        exact lt_of_le_of_lt (areBefore left onPage) beyond
      · intro item listed
        rcases List.mem_append.mp listed with onPage | isLater
        · exact ⟨afterCursor item onPage, request, areShown item onPage⟩
        refine ⟨?_, (areAfter item isLater).2⟩
        have beyond := (areAfter item isLater).1
        cases cursor with
        | none => rfl
        | some earlier =>
          simp only [after, decide_eq_true_eq] at beyond ⊢
          exact lt_trans (of_decide_eq_true isLast.2) beyond
      intro key isKey isAfter
      rw [List.map_append, List.mem_append, arePage]
      rcases others key isKey isAfter with onPage | isBeyond
      · exact .inl onPage
      · exact .inr (areListed key (grows request key isKey) (decide_eq_true isBeyond))

/-- Following the cursors through the rows of a table, when a request selects rows by their
places, shows them through `view`, and takes the next cursor from the last row. -/
theorem follow_rows {Row : Type} {rows : Nat → List Row} {place : Row → Key} {view : Row → Item}
    {placed : Item → Key} (viewed : ∀ row, placed (view row) = place row)
    (answers : ∀ request cursor, fetch request (cursor.map token) =
      .ok ((select place limit cursor (rows request)).map view,
        if (select place limit cursor (rows request)).length = limit then
          (select place limit cursor (rows request)).getLast?.map fun last => token (place last)
        else none))
    (positive : 0 < limit) (distinct : ∀ request, ((rows request).map place).Nodup)
    (grows : ∀ request, ∀ row ∈ rows request, ∃ later ∈ rows (request + 1), place later = place row)
    (bounded : ∀ request, ∀ row ∈ rows request, place row ∈ every) {fuel : Nat}
    (enough : every.length < fuel) :
    ∃ items, follow fetch fuel 0 none = .finished items ∧
      (items.map placed).Pairwise (· < ·) ∧
      (∀ item ∈ items, ∃ request, ∃ row ∈ rows request, item = view row) ∧
      ∀ row ∈ rows 0, place row ∈ items.map placed := by
  have pages : Pages fetch placed token limit (fun request => (rows request).map place)
      (fun request item => ∃ row ∈ rows request, item = view row) := by
    constructor
    intro request cursor
    refine ⟨(select place limit cursor (rows request)).map view, ?_, ?_, ?_⟩
    · rw [← map_select, List.map_map]
      apply List.map_congr_left
      intro row _
      exact viewed row
    · intro item listed
      rcases List.mem_map.mp listed with ⟨row, selected, rfl⟩
      exact ⟨row, List.mem_of_mem_filter ((List.mem_insertionSort _).mp
        (List.mem_of_mem_take selected)), rfl⟩
    · rw [answers, ← map_select, nextCursor, List.length_map, List.getLast?_map]
      split <;> simp [Function.comp_def]
  have visited := @follow_visits _ _ _ _ _ _ _ _ _ _ _ every pages positive distinct ?_ ?_ fuel 0
    none ?_
  · rcases visited with ⟨items, followed, sorted, areShown, areListed⟩
    refine ⟨items, followed, sorted, fun item listed => (areShown item listed).2, ?_⟩
    intro row isRow
    exact areListed (place row) (List.mem_map_of_mem isRow) rfl
  · intro request key isKey
    rcases List.mem_map.mp isKey with ⟨row, isRow, rfl⟩
    rcases grows request row isRow with ⟨later, isLater, samePlace⟩
    exact List.mem_map.mpr ⟨later, isLater, samePlace⟩
  · intro request key isKey
    rcases List.mem_map.mp isKey with ⟨row, isRow, rfl⟩
    exact bounded request row isRow
  · exact lt_of_le_of_lt (List.length_filter_le _ _) enough

end Follow

end StarterTemplate.Library.Keyset
