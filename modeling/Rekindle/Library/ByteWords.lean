import Mathlib.Data.List.Basic
import Mathlib.Tactic.Ring

/-! # Little-endian words and fixed-width slices of byte strings

A slice carries its width in its type, so a caller that has cut a window out of a buffer
never proves the length of the window again.
-/
namespace ByteWords
set_option autoImplicit false

/-- The `width` low bytes of `n`, least significant first. -/
def toLeBytes : Nat → Nat → List UInt8
  | 0, _ => []
  | width + 1, n => UInt8.ofNat n :: toLeBytes width (n / 256)

def ofLeBytes : List UInt8 → Nat
  | [] => 0
  | byte :: rest => byte.toNat + 256 * ofLeBytes rest

@[simp] theorem length_toLeBytes (width n : Nat) : (toLeBytes width n).length = width := by
  induction width generalizing n with
  | zero => rfl
  | succ width ih => simp [toLeBytes, ih]

theorem ofLeBytes_toLeBytes (width n : Nat) : ofLeBytes (toLeBytes width n) = n % 256 ^ width := by
  induction width generalizing n with
  | zero => simp [toLeBytes, ofLeBytes, Nat.mod_one]
  | succ width ih =>
    rw [toLeBytes, ofLeBytes, ih, Nat.pow_succ, Nat.mul_comm (256 ^ width) 256, Nat.mod_mul]
    simp

theorem ofLeBytes_toLeBytes_of_lt {width n : Nat} (h : n < 256 ^ width) :
    ofLeBytes (toLeBytes width n) = n := by
  rw [ofLeBytes_toLeBytes, Nat.mod_eq_of_lt h]

theorem ofLeBytes_lt (bytes : List UInt8) : ofLeBytes bytes < 256 ^ bytes.length := by
  induction bytes with
  | nil => simp [ofLeBytes]
  | cons byte rest ih =>
    have hByte := byte.toNat_lt
    rw [ofLeBytes, List.length_cons, Nat.pow_succ]
    omega

/-- A window of a list, with its width. -/
abbrev Window (α : Type) (width : Nat) := { window : List α // window.length = width }

variable {α : Type}

/-- The window of one value. -/
def Window.replicate (width : Nat) (value : α) : Window α width :=
  ⟨List.replicate width value, List.length_replicate⟩

@[simp] theorem Window.length_val {width : Nat} (window : Window α width) :
    window.val.length = width := window.property

theorem ofLeBytes_window_lt {width : Nat} (window : Window UInt8 width) :
    ofLeBytes window.val < 256 ^ width := by
  have h := ofLeBytes_lt window.val
  rwa [window.property] at h

/-- The `width` elements from `start` on, or nothing when they reach past the end. -/
def slice? (data : List α) (start width : Nat) : Option (Window α width) :=
  if h : start + width ≤ data.length then
    some ⟨(data.drop start).take width, by rw [List.length_take, List.length_drop]; omega⟩
  else none

theorem slice?_isSome {data : List α} {start width : Nat} :
    (slice? data start width).isSome ↔ start + width ≤ data.length := by
  unfold slice?
  split <;> simp_all

/-- A window between a known prefix and any suffix is found at the length of the prefix. -/
theorem slice?_append (before after : List α) {width : Nat} (window : Window α width)
    {start : Nat} (hStart : start = before.length) :
    slice? (before ++ (window.val ++ after)) start width = some window := by
  subst hStart
  unfold slice?
  rw [dif_pos (by simp only [List.length_append, window.property]; omega)]
  apply congrArg some
  apply Subtype.ext
  simp [window.property]

theorem slice?_append_list (before window after : List α) {start width : Nat}
    (hStart : start = before.length) (hWidth : window.length = width) :
    slice? (before ++ (window ++ after)) start width = some ⟨window, hWidth⟩ :=
  slice?_append before after ⟨window, hWidth⟩ hStart

end ByteWords
