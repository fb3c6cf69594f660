import Mathlib.Data.Set.Finite.Basic
import Mathlib.Data.Finite.Prod
import Mathlib.Data.Fintype.Pigeonhole
import Rekindle.Library.Fallible

/-! # Loops that may run forever

The body of a loop goes on with a state or returns. A walk follows links from place to place and adds up what
lies there; the loops that follow links run forever just when their walk comes round again with nothing added.
-/
namespace Loops
set_option autoImplicit false

variable {σ β : Type} (body : σ → σ ⊕ β)

/-- Where the loop is after some rounds, or what it has returned by then. -/
def rounds : Nat → σ → σ ⊕ β
  | 0, s => .inl s
  | n + 1, s => (body s).elim (rounds n) .inr

def Returns (s : σ) (b : β) : Prop := ∃ n, rounds body n s = .inr b

def Terminates (s : σ) : Prop := ∃ b, Returns body s b

section
variable {body} {s t : σ} {b : β}

theorem rounds_succ (n : Nat) (s : σ) : rounds body (n + 1) s = (body s).elim (rounds body n) .inr := rfl

theorem rounds_last (n : Nat) (s : σ) : rounds body (n + 1) s = (rounds body n s).elim body .inr := by
  induction n generalizing s with
  | zero => cases h : body s <;> simp [rounds, h]
  | succ n ih =>
    rw [rounds_succ, rounds_succ n]
    cases body s with
    | inl t => exact ih t
    | inr b => rfl

theorem returns_of_body (h : body s = .inr b) : Returns body s b := ⟨1, by rw [rounds_succ, h]; rfl⟩

theorem returns_step (h : body s = .inl t) : Returns body s b ↔ Returns body t b := by
  constructor
  · rintro ⟨n, hRounds⟩
    cases n with
    | zero => cases hRounds
    | succ n =>
      rw [rounds_succ, h] at hRounds
      exact ⟨n, hRounds⟩
  · rintro ⟨n, hRounds⟩
    exact ⟨n + 1, by rw [rounds_succ, h]; exact hRounds⟩

theorem Returns.unique {c : β} (h : Returns body s b) (hOther : Returns body s c) : b = c := by
  obtain ⟨n, hRounds⟩ := h
  induction n generalizing s with
  | zero => cases hRounds
  | succ n ih =>
    rw [rounds_succ] at hRounds
    cases hBody : body s with
    | inl t =>
      rw [hBody] at hRounds
      exact ih ((returns_step hBody).mp hOther) hRounds
    | inr last =>
      rw [hBody] at hRounds
      cases hRounds
      obtain ⟨m, hRounds⟩ := hOther
      cases m with
      | zero => cases hRounds
      | succ m =>
        rw [rounds_succ, hBody] at hRounds
        cases hRounds
        rfl

/-- What holds in every round holds of the last. -/
theorem Returns.of_invariant {I : σ → Prop} {Q : β → Prop} (h : Returns body s b)
    (hStep : ∀ s t, I s → body s = .inl t → I t) (hEnd : ∀ s b, I s → body s = .inr b → Q b) (hStart : I s) : Q b := by
  obtain ⟨n, hRounds⟩ := h
  induction n generalizing s with
  | zero => cases hRounds
  | succ n ih =>
    rw [rounds_succ] at hRounds
    cases hBody : body s with
    | inl t =>
      rw [hBody] at hRounds
      exact ih (hStep s t hStart hBody) hRounds
    | inr c =>
      rw [hBody] at hRounds
      cases hRounds
      exact hEnd s b hStart hBody

theorem not_terminates_iff : ¬Terminates body s ↔ ∀ n, ∃ t, rounds body n s = .inl t := by
  constructor
  · intro h n
    cases hRounds : rounds body n s with
    | inl t => exact ⟨t, rfl⟩
    | inr b => exact absurd ⟨b, n, hRounds⟩ h
  · rintro h ⟨b, n, hRounds⟩
    obtain ⟨t, hOn⟩ := h n
    cases hOn.symm.trans hRounds

end

/-- The body of a loop whose rounds are stateful and may fail, which ends the loop. -/
def stateful {ε α : Type} (round : α → EStateM ε σ (α ⊕ β)) : α × σ → (α × σ) ⊕ EStateM.Result ε σ β :=
  fun (a, s) => match (round a).run s with
    | .ok (.inl next) t => .inl (next, t)
    | .ok (.inr b) t => .inr (.ok b t)
    | .error e t => .inr (.error e t)

/-! ## Walks -/

section
variable {κ : Type} (next : κ → Option κ) (weight : κ → Nat) (start : κ)

/-- The place after some steps, while there are links. -/
def walk : Nat → Option κ
  | 0 => some start
  | n + 1 => (walk n).bind next

/-- What lies at the places before. -/
def gathered : Nat → Nat
  | 0 => 0
  | n + 1 => gathered n + (walk next start n).elim 0 weight

/-- The walk goes on forever below the limit. -/
def GoesOn (limit : Nat) : Prop := ∀ n, walk next start n ≠ none ∧ gathered next weight start n < limit

/-- The walk comes to a place again with nothing added, below the limit. -/
def Circles (limit : Nat) : Prop :=
  ∃ i j, i < j ∧ walk next start i ≠ none ∧ walk next start j = walk next start i ∧
    gathered next weight start j = gathered next weight start i ∧ gathered next weight start i < limit

variable {next weight start} {limit : Nat}

theorem walk_ne_none_of_le {m n : Nat} (hLe : m ≤ n) (h : walk next start n ≠ none) : walk next start m ≠ none := by
  induction n, hLe using Nat.le_induction with
  | base => exact h
  | succ n _ ih =>
    apply ih
    intro hNone
    rw [walk, hNone] at h
    exact h rfl

theorem gathered_le {m n : Nat} (hLe : m ≤ n) : gathered next weight start m ≤ gathered next weight start n := by
  induction n, hLe using Nat.le_induction with
  | base => exact le_rfl
  | succ n _ ih => exact ih.trans (Nat.le_add_right _ _)

/-- From a place that it has come to again the walk repeats itself. -/
theorem walk_repeats {i j : Nat} (hPlace : walk next start j = walk next start i)
    (hGathered : gathered next weight start j = gathered next weight start i) (k : Nat) :
    walk next start (j + k) = walk next start (i + k) ∧
      gathered next weight start (j + k) = gathered next weight start (i + k) := by
  induction k with
  | zero => exact ⟨hPlace, hGathered⟩
  | succ k ih =>
    rw [← Nat.add_assoc, ← Nat.add_assoc, walk, walk, gathered, gathered, ih.1, ih.2]
    exact ⟨rfl, rfl⟩

theorem Circles.goesOn (h : Circles next weight start limit) : GoesOn next weight start limit := by
  obtain ⟨i, j, hLt, hSome, hPlace, hGathered, hLimit⟩ := h
  intro n
  induction n using Nat.strong_induction_on with
  | h n ih =>
    by_cases hEarly : n ≤ j
    · refine ⟨walk_ne_none_of_le hEarly (by rw [hPlace]; exact hSome), ?_⟩
      calc gathered next weight start n ≤ gathered next weight start j := gathered_le hEarly
        _ = gathered next weight start i := hGathered
        _ < limit := hLimit
    · obtain ⟨k, rfl⟩ := Nat.exists_eq_add_of_le (Nat.le_of_not_le hEarly)
      obtain ⟨hAgain, hSum⟩ := walk_repeats hPlace hGathered k
      rw [hAgain, hSum]
      exact ih (i + k) (Nat.add_lt_add_right hLt k)

/-- On finitely many places a walk that goes on below a limit comes round again. -/
theorem GoesOn.circles {places : Set κ} (hFinite : places.Finite) (h : GoesOn next weight start limit)
    (hPlaces : ∀ n, ∀ place ∈ walk next start n, place ∈ places) : Circles next weight start limit := by
  have hPlace (n : Nat) : ∃ place, walk next start n = some place := Option.ne_none_iff_exists'.mp (h n).1
  choose place hWalk using hPlace
  have := hFinite.to_subtype
  obtain ⟨i, j, hNe, hSame⟩ := Finite.exists_ne_map_eq_of_infinite fun n =>
    ((⟨place n, hPlaces n _ (hWalk n)⟩, ⟨gathered next weight start n, (h n).2⟩) : places × Fin limit)
  have hKey : walk next start i = walk next start j := by
    rw [hWalk, hWalk]
    exact congrArg (fun pair => some pair.1.val) hSame
  have hSum : gathered next weight start i = gathered next weight start j := congrArg (fun pair => pair.2.val) hSame
  rcases Nat.lt_or_gt_of_ne hNe with hLt | hGt
  · exact ⟨i, j, hLt, (h i).1, hKey.symm, hSum.symm, (h i).2⟩
  · exact ⟨j, i, hGt, (h j).1, hKey, hSum, (h j).2⟩

end

end Loops
