import Mathlib.Data.Finset.Basic
import Mathlib.Data.Multiset.Count
import Mathlib.Data.Set.Basic
import Mathlib.Logic.Function.Iterate

/-! # Symbolic cryptography

Messages as terms, and what an attacker can make of a set of them. A group element is the base
point times the scalars that went into it, in any order. A derived key says what it was derived
from, and nothing leads back.
-/
namespace Symbolic
set_option autoImplicit false

inductive Term (Atom Label Data : Type) where
  | data (value : Data)
  | scalar (secret : Atom)
  | point (factors : Multiset Atom)
  | derived (label : Label) (input : Term Atom Label Data)
  | pair (first second : Term Atom Label Data)
  | encrypted (key : Term Atom Label Data) (nonce : Data) (plaintext : Term Atom Label Data)
  | signed (key message : Term Atom Label Data)

variable {Atom Label Data : Type}

namespace Term

variable [DecidableEq Atom] [DecidableEq Label] [DecidableEq Data]

def same : Term Atom Label Data → Term Atom Label Data → Bool
  | .data value, .data value' => value = value'
  | .scalar secret, .scalar secret' => secret = secret'
  | .point factors, .point factors' => factors = factors'
  | .derived label input, .derived label' input' => label = label' && input.same input'
  | .pair first second, .pair first' second' => first.same first' && second.same second'
  | .encrypted key nonce plaintext, .encrypted key' nonce' plaintext' =>
    key.same key' && (nonce = nonce' && plaintext.same plaintext')
  | .signed key message, .signed key' message' => key.same key' && message.same message'
  | _, _ => false

theorem same_iff {term other : Term Atom Label Data} : term.same other = true ↔ term = other := by
  induction term generalizing other with
  | data | scalar | point => cases other <;> simp [same]
  | derived _ _ ih => cases other <;> simp [same, ih]
  | pair _ _ ihFirst ihSecond => cases other <;> simp [same, ihFirst, ihSecond]
  | encrypted _ _ _ ihKey ihPlaintext => cases other <;> simp [same, ihKey, ihPlaintext]
  | signed _ _ ihKey ihMessage => cases other <;> simp [same, ihKey, ihMessage]

-- A derived instance would rewrite along equations of multisets, which do not reduce.
instance : DecidableEq (Term Atom Label Data) := fun _ _ => decidable_of_iff _ same_iff

end Term

/-- What can be computed from the known terms: everything public, and from there what the
primitives give. A scalar also undoes its own multiplication. -/
inductive Derives (known : Set (Term Atom Label Data)) : Term Atom Label Data → Prop where
  | known {term : Term Atom Label Data} (h : term ∈ known) : Derives known term
  | data (value : Data) : Derives known (.data value)
  | base : Derives known (.point 0)
  | multiply {secret : Atom} {factors : Multiset Atom} (hSecret : Derives known (.scalar secret))
      (hPoint : Derives known (.point factors)) : Derives known (.point (secret ::ₘ factors))
  | divide {secret : Atom} {factors : Multiset Atom} (hSecret : Derives known (.scalar secret))
      (hPoint : Derives known (.point (secret ::ₘ factors))) : Derives known (.point factors)
  | derive (label : Label) {input : Term Atom Label Data} (hInput : Derives known input) :
      Derives known (.derived label input)
  | pair {first second : Term Atom Label Data} (hFirst : Derives known first)
      (hSecond : Derives known second) : Derives known (.pair first second)
  | first {first second : Term Atom Label Data} (h : Derives known (.pair first second)) :
      Derives known first
  | second {first second : Term Atom Label Data} (h : Derives known (.pair first second)) :
      Derives known second
  | encrypt {key plaintext : Term Atom Label Data} (nonce : Data) (hKey : Derives known key)
      (hPlaintext : Derives known plaintext) : Derives known (.encrypted key nonce plaintext)
  | decrypt {key plaintext : Term Atom Label Data} {nonce : Data}
      (hEncrypted : Derives known (.encrypted key nonce plaintext)) (hKey : Derives known key) :
      Derives known plaintext
  | sign {key message : Term Atom Label Data} (hKey : Derives known key)
      (hMessage : Derives known message) : Derives known (.signed key message)
  | message {key message : Term Atom Label Data} (h : Derives known (.signed key message)) :
      Derives known message

theorem Derives.mono {known known' : Set (Term Atom Label Data)} (hSubset : known ⊆ known')
    {term : Term Atom Label Data} (h : Derives known term) : Derives known' term := by
  induction h with
  | known h => exact .known (hSubset h)
  | data value => exact .data value
  | base => exact .base
  | multiply _ _ ihSecret ihPoint => exact .multiply ihSecret ihPoint
  | divide _ _ ihSecret ihPoint => exact .divide ihSecret ihPoint
  | derive label _ ih => exact .derive label ih
  | pair _ _ ihFirst ihSecond => exact .pair ihFirst ihSecond
  | first _ ih => exact .first ih
  | second _ ih => exact .second ih
  | encrypt nonce _ _ ihKey ihPlaintext => exact .encrypt nonce ihKey ihPlaintext
  | decrypt _ _ ihEncrypted ihKey => exact .decrypt ihEncrypted ihKey
  | sign _ _ ihKey ihMessage => exact .sign ihKey ihMessage
  | message _ ih => exact .message ih

/-! ## What stays hidden -/

section Visibility

variable [DecidableEq Atom] (hidden : Finset Atom)

/-- No hidden scalar went into the term. -/
def Avoids : Term Atom Label Data → Prop
  | .data _ => True
  | .scalar secret => secret ∉ hidden
  | .point factors => factors.countP (· ∈ hidden) = 0
  | .derived _ input => Avoids input
  | .pair first second => Avoids first ∧ Avoids second
  | .encrypted key _ plaintext => Avoids key ∧ Avoids plaintext
  | .signed key message => Avoids key ∧ Avoids message

instance decidableAvoids : (term : Term Atom Label Data) → Decidable (Avoids hidden term)
  | .data _ => isTrue trivial
  | .scalar secret => inferInstanceAs (Decidable (secret ∉ hidden))
  | .point factors => inferInstanceAs (Decidable (factors.countP (· ∈ hidden) = 0))
  | .derived _ input => decidableAvoids input
  | .pair first second =>
    have := decidableAvoids first
    have := decidableAvoids second
    inferInstanceAs (Decidable (Avoids hidden first ∧ Avoids hidden second))
  | .encrypted key _ plaintext =>
    have := decidableAvoids key
    have := decidableAvoids plaintext
    inferInstanceAs (Decidable (Avoids hidden key ∧ Avoids hidden plaintext))
  | .signed key message =>
    have := decidableAvoids key
    have := decidableAvoids message
    inferInstanceAs (Decidable (Avoids hidden key ∧ Avoids hidden message))

/-- What an attacker may have who does not know the hidden scalars but holds the leaked keys: at
most one hidden scalar in a group element, and a derived key only if it leaked or its input is
visible. -/
def Visible (leaked : Set (Term Atom Label Data)) : Term Atom Label Data → Prop
  | .data _ => True
  | .scalar secret => secret ∉ hidden
  | .point factors => factors.countP (· ∈ hidden) ≤ 1
  | .derived label input => Visible leaked input ∨ .derived label input ∈ leaked
  | .pair first second => Visible leaked first ∧ Visible leaked second
  | .encrypted key _ plaintext => Visible leaked key → Visible leaked plaintext
  | .signed _ message => Visible leaked message

variable {hidden} {leaked : Set (Term Atom Label Data)}

theorem Avoids.visible {term : Term Atom Label Data} (h : Avoids hidden term) :
    Visible hidden leaked term := by
  induction term with
  | data value => trivial
  | scalar secret => exact h
  | point factors => exact h.le.trans (Nat.zero_le 1)
  | derived label input ih => exact Or.inl (ih h)
  | pair first second ihFirst ihSecond => exact ⟨ihFirst h.1, ihSecond h.2⟩
  | encrypted key nonce plaintext _ ihPlaintext => exact fun _ => ihPlaintext h.2
  | signed key message _ ihMessage => exact ihMessage h.2

/-- Nothing invisible can be computed from visible terms: the induction is on the derivation. -/
theorem Derives.visible {known : Set (Term Atom Label Data)}
    (hKnown : ∀ term ∈ known, Visible hidden leaked term) {term : Term Atom Label Data}
    (h : Derives known term) : Visible hidden leaked term := by
  induction h with
  | known h => exact hKnown _ h
  | data value => trivial
  | base => exact Nat.zero_le 1
  | multiply hSecret hPoint ihSecret ihPoint =>
    rw [Visible, Multiset.countP_cons_of_neg _ ihSecret]
    exact ihPoint
  | divide hSecret hPoint ihSecret ihPoint =>
    rw [Visible, Multiset.countP_cons_of_neg _ ihSecret] at ihPoint
    exact ihPoint
  | derive label hInput ih => exact Or.inl ih
  | pair hFirst hSecond ihFirst ihSecond => exact ⟨ihFirst, ihSecond⟩
  | first h ih => exact ih.1
  | second h ih => exact ih.2
  | encrypt nonce hKey hPlaintext ihKey ihPlaintext => exact fun _ => ihPlaintext
  | decrypt hEncrypted hKey ihEncrypted ihKey => exact ihEncrypted ihKey
  | sign hKey hMessage ihKey ihMessage => exact ihMessage
  | message h ih => exact ih

/-- A group element with two hidden scalars is out of reach. -/
theorem not_visible_shared {first second : Atom} (hFirst : first ∈ hidden) (hSecond : second ∈ hidden) :
    ¬ Visible hidden leaked (.point {first, second} : Term Atom Label Data) := by
  intro h
  have hCount : Multiset.countP (· ∈ hidden) ({first, second} : Multiset Atom) = 2 := by
    rw [Multiset.insert_eq_cons, Multiset.countP_cons_of_pos _ hFirst, ← Multiset.cons_zero,
      Multiset.countP_cons_of_pos _ hSecond, Multiset.countP_zero]
  rw [Visible, hCount] at h
  omega

end Visibility

/-! ## Chains of derived keys -/

namespace Term

/-- How many derivations the term ends with. -/
def height : Term Atom Label Data → Nat
  | .derived _ input => input.height + 1
  | _ => 0

variable (label : Label)

/-- The `n`th key of the chain. -/
def chain (start : Term Atom Label Data) (n : Nat) : Term Atom Label Data := (derived label)^[n] start

variable {label}

@[simp] theorem chain_zero (start : Term Atom Label Data) : chain label start 0 = start := rfl

theorem chain_succ (start : Term Atom Label Data) (n : Nat) :
    chain label start (n + 1) = .derived label (chain label start n) :=
  Function.iterate_succ_apply' _ _ _

theorem chain_add (start : Term Atom Label Data) (m n : Nat) :
    chain label (chain label start m) n = chain label start (m + n) := by
  rw [chain, chain, ← Function.iterate_add_apply, Nat.add_comm]
  rfl

@[simp] theorem height_chain (start : Term Atom Label Data) (n : Nat) :
    (chain label start n).height = start.height + n := by
  induction n with
  | zero => rfl
  | succ n ih =>
    rw [chain_succ, height, ih]
    omega

theorem chain_inj {start : Term Atom Label Data} {m n : Nat} :
    chain label start m = chain label start n ↔ m = n := by
  constructor
  · intro h
    have hHeight := congrArg height h
    rw [height_chain, height_chain] at hHeight
    omega
  · rintro rfl
    rfl

/-- Chains that start from different keys of one height never meet. -/
theorem chain_ne_of_start_ne {start other : Term Atom Label Data} (hHeight : start.height = other.height)
    (hStart : start ≠ other) (m n : Nat) : chain label start m ≠ chain label other n := by
  intro h
  have hLengths := congrArg height h
  rw [height_chain, height_chain] at hLengths
  obtain rfl : m = n := by omega
  exact hStart (Function.Injective.iterate (fun _ _ hDerived => (Term.derived.inj hDerived).2) m h)

end Term

theorem Derives.chain {known : Set (Term Atom Label Data)} {label : Label} {start : Term Atom Label Data}
    (h : Derives known start) (n : Nat) : Derives known (Term.chain label start n) := by
  induction n with
  | zero => exact h
  | succ n ih =>
    rw [Term.chain_succ]
    exact .derive label ih

section Visibility

variable [DecidableEq Atom] {hidden : Finset Atom} {leaked : Set (Term Atom Label Data)} {label : Label}
  {start : Term Atom Label Data}

theorem Visible.chain (h : Visible hidden leaked start) (label : Label) (n : Nat) :
    Visible hidden leaked (Term.chain label start n) := by
  induction n with
  | zero => exact h
  | succ n ih =>
    rw [Term.chain_succ]
    exact Or.inl ih

/-- A chain stays hidden up to the first of its keys that leaked. -/
theorem not_visible_chain (hStart : ¬ Visible hidden leaked start) {n : Nat}
    (hLeaked : ∀ i ≤ n, Term.chain label start i ∉ leaked) :
    ¬ Visible hidden leaked (Term.chain label start n) := by
  induction n with
  | zero => exact hStart
  | succ n ih =>
    rw [Term.chain_succ]
    rintro (hInput | hMember)
    · exact ih (fun i hi => hLeaked i (Nat.le_succ_of_le hi)) hInput
    · rw [← Term.chain_succ] at hMember
      exact hLeaked (n + 1) le_rfl hMember

end Visibility

end Symbolic
