import Mathlib.Data.List.Sort
import Mathlib.Order.Basic

/-! # Pages behind a cursor

Rows in falling order of a key are read a page at a time, each page of the keys strictly below the last key of the
page before. Rows that share that key are left out.
-/
namespace Cursors
set_option autoImplicit false

variable {α κ : Type}

section
variable {r : α → α → Prop} [DecidableRel r] (p : α → Bool)

theorem orderedInsert_of_forall {a : α} {rows : List α} (h : ∀ b ∈ rows, r a b) : rows.orderedInsert r a = a :: rows := by
  cases rows with
  | nil => rfl
  | cons b rows => exact List.orderedInsert_cons_of_le r rows (h b List.mem_cons_self)

theorem filter_orderedInsert [IsTrans α r] (a : α) {rows : List α} (hSorted : rows.Pairwise r) :
    (rows.orderedInsert r a).filter p = if p a then (rows.filter p).orderedInsert r a else rows.filter p := by
  induction rows with
  | nil => simp [List.filter_cons]
  | cons b rows ih =>
    obtain ⟨hHead, hTail⟩ := List.pairwise_cons.mp hSorted
    by_cases hBelow : r a b
    · have hAll : ∀ c ∈ (b :: rows).filter p, r a c := by
        intro c hC
        rcases List.mem_cons.mp (List.mem_of_mem_filter hC) with rfl | hRest
        · exact hBelow
        · exact IsTrans.trans a b c hBelow (hHead c hRest)
      rw [List.orderedInsert_cons_of_le r rows hBelow, List.filter_cons, orderedInsert_of_forall hAll]
    · rw [List.orderedInsert_of_not_le r rows hBelow, List.filter_cons, ih hTail, List.filter_cons]
      split <;> split <;> simp [hBelow]

/-- Sorting is stable: it keeps what is left out in place. -/
theorem filter_insertionSort [Std.Total r] [IsTrans α r] (rows : List α) :
    (rows.filter p).insertionSort r = (rows.insertionSort r).filter p := by
  induction rows with
  | nil => rfl
  | cons a rows ih =>
    rw [List.insertionSort_cons, filter_orderedInsert p a (List.pairwise_insertionSort r rows), List.filter_cons, ← ih]
    split <;> rfl

end

variable (key : α → κ) (size : Nat)

/-- Where a page ends, the next row has a key of its own. -/
def Apart (rows : List α) : Prop :=
  ∀ pages, ∀ newer ∈ rows[size * (pages + 1) - 1]?, ∀ older ∈ rows[size * (pages + 1)]?, key older ≠ key newer

variable {key size} in
theorem apart_iff {rows : List α} (hSize : 0 < size) : Apart key size rows ↔
    (∀ newer ∈ rows[size - 1]?, ∀ older ∈ rows[size]?, key older ≠ key newer) ∧ Apart key size (rows.drop size) := by
  have hAfter (pages : Nat) : size + (size * (pages + 1) - 1) = size * (pages + 1 + 1) - 1 := by
    have hMore : size * 1 ≤ size * (pages + 1) := Nat.mul_le_mul_left size (Nat.le_add_left 1 pages)
    rw [Nat.mul_succ size (pages + 1)]
    omega
  have hNext (pages : Nat) : size + size * (pages + 1) = size * (pages + 1 + 1) := by
    rw [Nat.mul_succ size (pages + 1), Nat.add_comm]
  unfold Apart
  simp only [List.getElem?_drop, hAfter, hNext]
  constructor
  · intro h
    have hFirst := h 0
    rw [Nat.zero_add, Nat.mul_one] at hFirst
    exact ⟨hFirst, fun pages => h (pages + 1)⟩
  · rintro ⟨hFirst, hRest⟩ pages
    cases pages with
    | zero => rwa [Nat.zero_add, Nat.mul_one]
    | succ pages => exact hRest pages

variable [LinearOrder κ]

def Falling (rows : List α) : Prop := rows.Pairwise fun a b => key b ≤ key a

/-- All rows without a cursor. -/
def below (rows : List α) (cursor : Option κ) : List α := rows.filter fun row => cursor.all (key row < ·)

def olderThan (last : α) (rows : List α) : List α := rows.filter (key · < key last)

theorem length_olderThan {rows : List α} {last : α} (h : (rows.take size).getLast? = some last) :
    (olderThan key last rows).length < rows.length := by
  rw [olderThan, List.length_filter_lt_length_iff_exists]
  exact ⟨last, List.mem_of_mem_take (List.mem_of_getLast? h), by simp⟩

/-- The pages up to the first that is empty, one after the other. -/
def visited (rows : List α) : List α :=
  match h : (rows.take size).getLast? with
  | none => []
  | some last =>
    have := length_olderThan key size h
    rows.take size ++ visited (olderThan key last rows)
termination_by rows.length

section
variable {key size} {rows : List α}

theorem visited_of_empty (h : (rows.take size).getLast? = none) : visited key size rows = [] := by
  rw [visited]
  split
  · rfl
  · next last hLast => cases h.symm.trans hLast

theorem visited_of_page {last : α} (h : (rows.take size).getLast? = some last) :
    visited key size rows = rows.take size ++ visited key size (olderThan key last rows) := by
  rw [visited]
  split
  · next hNone => cases h.symm.trans hNone
  · next other hLast =>
    cases h.symm.trans hLast
    rfl

/-- The rows of a page are not below its last row. -/
theorem olderThan_of_page (hFalling : Falling key rows) {last : α} (h : (rows.take size).getLast? = some last) :
    olderThan key last rows = olderThan key last (rows.drop size) := by
  unfold olderThan
  have hPage : (rows.take size).filter (key · < key last) = [] := by
    apply List.filter_eq_nil_iff.mpr
    intro row hRow
    obtain ⟨front, hFront⟩ := List.getLast?_eq_some_iff.mp h
    rw [decide_eq_true_eq, not_lt]
    have hTake : Falling key (rows.take size) := hFalling.sublist (List.take_sublist size rows)
    rw [hFront] at hRow hTake
    rcases List.mem_append.mp hRow with hEarly | hLast
    · exact (List.pairwise_append.mp hTake).2.2 row hEarly last List.mem_cons_self
    · rw [List.mem_singleton.mp hLast]
  conv_lhs => rw [← List.take_append_drop size rows]
  rw [List.filter_append, hPage, List.nil_append]

theorem visited_sublist (hFalling : Falling key rows) : (visited key size rows).Sublist rows := by
  induction hLength : rows.length using Nat.strong_induction_on generalizing rows with
  | h n ih =>
    subst hLength
    cases hLast : (rows.take size).getLast? with
    | none =>
      rw [visited_of_empty hLast]
      exact List.nil_sublist rows
    | some last =>
      have hRest : (visited key size (olderThan key last rows)).Sublist (olderThan key last rows) :=
        ih _ (length_olderThan key size hLast) (hFalling.sublist List.filter_sublist) rfl
      rw [visited_of_page hLast]
      conv_rhs => rw [← List.take_append_drop size rows]
      rw [olderThan_of_page hFalling hLast] at hRest ⊢
      exact (List.Sublist.refl _).append (hRest.trans List.filter_sublist)

/-- The next page starts right behind the page exactly when the row there has another key. -/
theorem olderThan_eq_drop_iff (hSize : 0 < size) (hFalling : Falling key rows) {last : α}
    (h : (rows.take size).getLast? = some last) : olderThan key last rows = rows.drop size ↔
      ∀ newer ∈ rows[size - 1]?, ∀ older ∈ rows[size]?, key older ≠ key newer := by
  rw [olderThan_of_page hFalling h, olderThan, List.filter_eq_self]
  have hHead : (rows.drop size)[0]? = rows[size]? := by rw [List.getElem?_drop, Nat.add_zero]
  cases hDrop : rows.drop size with
  | nil =>
    rw [hDrop] at hHead
    rw [← hHead]
    simp
  | cons older rest =>
    rw [hDrop] at hHead
    have hLong : size < rows.length := by
      by_contra hShort
      rw [List.drop_eq_nil_of_le (Nat.le_of_not_lt hShort)] at hDrop
      cases hDrop
    have hLast : rows[size - 1]? = some last := by
      rw [List.getLast?_eq_getElem?, List.length_take, Nat.min_eq_left hLong.le, List.getElem?_take_of_lt (by omega)] at h
      exact h
    rw [← hHead, hLast]
    simp only [List.getElem?_cons_zero, Option.mem_some_iff, forall_eq', List.forall_mem_cons, decide_eq_true_eq]
    have hSplit : Falling key (rows.take size ++ older :: rest) := by
      rw [← hDrop, List.take_append_drop]
      exact hFalling
    obtain ⟨-, hRest, hAcross⟩ := List.pairwise_append.mp hSplit
    have hLe : key older ≤ key last := hAcross last (List.mem_of_getLast? h) older List.mem_cons_self
    constructor
    · rintro ⟨hLt, -⟩
      exact ne_of_lt hLt
    · intro hNe
      have hLt : key older < key last := lt_of_le_of_ne hLe hNe
      exact ⟨hLt, fun row hRow => lt_of_le_of_lt ((List.pairwise_cons.mp hRest).1 row hRow) hLt⟩

/-- The pages hold all the rows exactly when they end between rows of different keys. -/
theorem visited_eq_iff (hSize : 0 < size) (hFalling : Falling key rows) :
    visited key size rows = rows ↔ Apart key size rows := by
  induction hLength : rows.length using Nat.strong_induction_on generalizing rows with
  | h n ih =>
    subst hLength
    rw [apart_iff hSize]
    cases hLast : (rows.take size).getLast? with
    | none =>
      rw [visited_of_empty hLast]
      have hNil : rows = [] := by
        rw [List.getLast?_eq_none_iff, List.take_eq_nil_iff] at hLast
        exact hLast.resolve_left hSize.ne'
      rw [hNil]
      simp [Apart]
    | some last =>
      have hRest : Falling key (olderThan key last rows) := hFalling.sublist List.filter_sublist
      have hInner := ih _ (length_olderThan key size hLast) hRest rfl
      rw [visited_of_page hLast, ← olderThan_eq_drop_iff hSize hFalling hLast]
      have hWhole : rows.take size ++ visited key size (olderThan key last rows) = rows ↔
          visited key size (olderThan key last rows) = rows.drop size := by
        constructor
        · exact fun hSame => List.append_cancel_left (hSame.trans (List.take_append_drop size rows).symm)
        · intro hSame
          rw [hSame, List.take_append_drop]
      rw [hWhole]
      constructor
      · intro hSame
        have hSub : (rows.drop size).Sublist (olderThan key last rows) := hSame ▸ visited_sublist hRest
        have hDrop : olderThan key last rows = rows.drop size := by
          rw [olderThan_of_page hFalling hLast] at hSub ⊢
          exact List.filter_sublist.antisymm hSub
        refine ⟨hDrop, ?_⟩
        rw [← hDrop]
        rw [← hDrop] at hSame
        exact hInner.mp hSame
      · rintro ⟨hDrop, hApart⟩
        rw [← hDrop] at hApart ⊢
        exact hInner.mpr hApart

end

end Cursors
