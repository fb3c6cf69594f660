import Mathlib.Data.Nat.ModEq

/-! # Lists in pages of a fixed size

Page `i` of a list holds the elements from `size * i` on, at most `size` of them.
-/
namespace Pages
set_option autoImplicit false

variable {α : Type} {size : Nat}

def page (size i : Nat) (l : List α) : List α := (l.drop (size * i)).take size

/-- `count` pages hold `n` elements, and fewer do not. -/
structure Spans (size count n : Nat) : Prop where
  enough : n ≤ size * count
  needed : size * count < n + size

theorem length_page_le (i : Nat) (l : List α) : (page size i l).length ≤ size := List.length_take_le ..

theorem length_page (i : Nat) (l : List α) : (page size i l).length = min size (l.length - size * i) := by
  rw [page, List.length_take, List.length_drop]

/-- Element `k` is element `k % size` of page `k / size`. -/
theorem getElem?_page (hSize : 0 < size) (l : List α) (k : Nat) :
    (page size (k / size) l)[k % size]? = l[k]? := by
  rw [page, List.getElem?_take_of_lt (Nat.mod_lt k hSize), List.getElem?_drop, Nat.div_add_mod]

/-- A full page is not changed by what is appended. -/
theorem page_append_of_full {i : Nat} {l : List α} (hFull : size * (i + 1) ≤ l.length) (m : List α) :
    page size i (l ++ m) = page size i l := by
  rw [Nat.mul_succ] at hFull
  rw [page, page, List.drop_append_of_le_length (by omega), List.take_append_of_le_length]
  rw [List.length_drop]
  omega

/-- The page that is not full takes the next element. -/
theorem page_append_of_room {i : Nat} {l : List α} (hStarted : size * i ≤ l.length)
    (hRoom : l.length < size * (i + 1)) (a : α) : page size i (l ++ [a]) = page size i l ++ [a] := by
  rw [Nat.mul_succ] at hRoom
  have hLength : (l.drop (size * i)).length < size := by
    rw [List.length_drop]
    omega
  rw [page, page, List.drop_append_of_le_length hStarted, List.take_of_length_le (by simpa using Nat.succ_le_of_lt hLength),
    List.take_of_length_le (by omega)]

theorem page_eq_nil {i : Nat} {l : List α} (h : l.length ≤ size * i) : page size i l = [] := by
  rw [page, List.drop_eq_nil_of_le h, List.take_nil]

theorem spans_zero (hSize : 0 < size) : Spans size 0 0 := ⟨by simp, by simpa using hSize⟩

theorem Spans.div_lt {count n k : Nat} (h : Spans size count n) (hSize : 0 < size) (hk : k < n) :
    k / size < count := by
  rw [Nat.div_lt_iff_lt_mul hSize, Nat.mul_comm]
  exact Nat.lt_of_lt_of_le hk h.enough

/-- Full pages: the next element opens a page. -/
theorem Spans.of_full {count n : Nat} (h : Spans size count n) (hFull : n % size = 0) :
    n = size * count ∧ Spans size (count + 1) (n + 1) := by
  obtain ⟨k, rfl⟩ := Nat.dvd_of_mod_eq_zero hFull
  have hNeeded : size * count < size * (k + 1) := h.needed
  have hCount : count = k := by
    have hUpper : count < k + 1 := Nat.lt_of_mul_lt_mul_left hNeeded
    have hSize : 0 < size := Nat.pos_of_mul_pos_right (Nat.zero_lt_of_lt hNeeded)
    have hLower : k ≤ count := Nat.le_of_mul_le_mul_left h.enough hSize
    omega
  subst hCount
  rw [Nat.mul_succ] at hNeeded
  refine ⟨rfl, ?_, ?_⟩ <;> rw [Nat.mul_succ] <;> omega

/-- The last page has room. -/
theorem Spans.of_room {count n : Nat} (h : Spans size count n) (hRoom : n % size ≠ 0) :
    ∃ last, count = last + 1 ∧ size * last ≤ n ∧ n < size * (last + 1) ∧ Spans size count (n + 1) := by
  have hDecomposed := Nat.div_add_mod n size
  have hEnough := h.enough
  have hNeeded := h.needed
  have hSize : 0 < size := by
    rcases Nat.eq_zero_or_pos size with rfl | hSize
    · simp at hNeeded hEnough
      omega
    · exact hSize
  have hRest := Nat.mod_lt n hSize
  have hLower : n / size < count := Nat.lt_of_mul_lt_mul_left (by omega : size * (n / size) < size * count)
  have hUpper : count < n / size + 2 := by
    apply Nat.lt_of_mul_lt_mul_left (a := size)
    rw [Nat.mul_add]
    omega
  have hCount : count = n / size + 1 := by omega
  refine ⟨n / size, hCount, by omega, ?_, ?_, by omega⟩
  · rw [Nat.mul_succ]
    omega
  · rw [hCount, Nat.mul_succ]
    omega

end Pages
