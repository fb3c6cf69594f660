import Mathlib.Data.Nat.Notation

/-! # Base64 for URLs, without padding -/
namespace Base64
set_option autoImplicit false

def alphabet : List Char :=
  "ABCDEFGHIJKLMNOPQRSTUVWXYZabcdefghijklmnopqrstuvwxyz0123456789-_".toList

def symbol (n : Nat) : Char := alphabet.getD n 'A'

def symbolValue (c : Char) : Option Nat := alphabet.findIdx? (· = c)

/-- Three bytes make four symbols. What is left of a last symbol is zero. -/
def encode : List UInt8 → List Char
  | a :: b :: c :: rest =>
    symbol (a.toNat / 4) :: symbol (a.toNat % 4 * 16 + b.toNat / 16) ::
      symbol (b.toNat % 16 * 4 + c.toNat / 64) :: symbol (c.toNat % 64) :: encode rest
  | [a, b] => [symbol (a.toNat / 4), symbol (a.toNat % 4 * 16 + b.toNat / 16), symbol (b.toNat % 16 * 4)]
  | [a] => [symbol (a.toNat / 4), symbol (a.toNat % 4 * 16)]
  | [] => []

/-- A last symbol with bits to spare must leave them at zero. -/
def decode : List Char → Option (List UInt8)
  | [] => some []
  | [_] => none
  | [s, t] => do
    let s ← symbolValue s
    let t ← symbolValue t
    if t % 16 = 0 then pure [UInt8.ofNat (s * 4 + t / 16)] else none
  | [s, t, u] => do
    let s ← symbolValue s
    let t ← symbolValue t
    let u ← symbolValue u
    if u % 4 = 0 then pure [UInt8.ofNat (s * 4 + t / 16), UInt8.ofNat (t % 16 * 16 + u / 4)] else none
  | s :: t :: u :: v :: rest => do
    let s ← symbolValue s
    let t ← symbolValue t
    let u ← symbolValue u
    let v ← symbolValue v
    let bytes ← decode rest
    pure (UInt8.ofNat (s * 4 + t / 16) :: UInt8.ofNat (t % 16 * 16 + u / 4) :: UInt8.ofNat (u % 4 * 64 + v) :: bytes)

theorem symbolValue_symbol {n : Nat} (h : n < 64) : symbolValue (symbol n) = some n := by
  have hAll : ∀ n ∈ List.range 64, symbolValue (symbol n) = some n := by decide +kernel
  exact hAll n (List.mem_range.mpr h)

theorem ofNat_eq {n : Nat} {byte : UInt8} (h : n = byte.toNat) : UInt8.ofNat n = byte := by
  rw [h, UInt8.ofNat_toNat]

@[simp] theorem decode_encode (bytes : List UInt8) : decode (encode bytes) = some bytes := by
  induction bytes using encode.induct with
  | case1 a b c rest ih =>
    have ha := a.toNat_lt
    have hb := b.toNat_lt
    have hc := c.toNat_lt
    rw [encode, decode, symbolValue_symbol (by omega), symbolValue_symbol (by omega), symbolValue_symbol (by omega),
      symbolValue_symbol (by omega), ih]
    simp only [Option.bind_eq_bind, Option.bind_some, Option.pure_def, Option.some.injEq, List.cons.injEq, and_true]
    exact ⟨ofNat_eq (by omega), ofNat_eq (by omega), ofNat_eq (by omega)⟩
  | case2 a b =>
    have ha := a.toNat_lt
    have hb := b.toNat_lt
    rw [encode, decode, symbolValue_symbol (by omega), symbolValue_symbol (by omega), symbolValue_symbol (by omega)]
    simp only [Option.bind_eq_bind, Option.bind_some]
    rw [if_pos (by omega)]
    simp only [Option.pure_def, Option.some.injEq, List.cons.injEq, and_true]
    exact ⟨ofNat_eq (by omega), ofNat_eq (by omega)⟩
  | case3 a =>
    have ha := a.toNat_lt
    rw [encode, decode, symbolValue_symbol (by omega), symbolValue_symbol (by omega)]
    simp only [Option.bind_eq_bind, Option.bind_some]
    rw [if_pos (by omega)]
    simp only [Option.pure_def, Option.some.injEq, List.cons.injEq, and_true]
    exact ofNat_eq (by omega)
  | case4 => rfl

end Base64
