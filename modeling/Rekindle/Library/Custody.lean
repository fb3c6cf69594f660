import Mathlib.Data.List.Nodup
import Mathlib.Logic.Function.Basic

/-! # Resources that change hands

Resources are made one after the other and numbered. A carrier has a resource from its making until
it hands it over to the holder; the holder has one at most, and gives it back or lets it go.
-/
namespace Custody
set_option autoImplicit false

structure Ledger where
  made : Nat
  dead : List Nat
  released : List Nat
  held : Option Nat
  carried : Nat → Option Nat

namespace Ledger

/-- No resource that lives is lost, and none is given back twice. -/
structure Orderly (ledger : Ledger) : Prop where
  accounted : ∀ item < ledger.made, item ∉ ledger.dead →
    ledger.held = some item ∨ item ∈ ledger.released ∨ ∃ carrier, ledger.carried carrier = some item
  once : ledger.released.Nodup
  releasedMade : ∀ item ∈ ledger.released, item < ledger.made
  heldMade : ∀ item, ledger.held = some item → item < ledger.made ∧ item ∉ ledger.released
  carriedMade : ∀ carrier item, ledger.carried carrier = some item →
    item < ledger.made ∧ item ∉ ledger.released ∧ ledger.held ≠ some item
  apart : ∀ carrier other item, ledger.carried carrier = some item → ledger.carried other = some item →
    carrier = other

def empty : Ledger := ⟨0, [], [], none, fun _ => none⟩

theorem orderly_empty : Orderly empty where
  accounted item hItem := absurd hItem (Nat.not_lt_zero item)
  once := List.nodup_nil
  releasedMade _ hItem := absurd hItem List.not_mem_nil
  heldMade _ hHeld := nomatch hHeld
  carriedMade _ _ hCarried := nomatch hCarried
  apart _ _ _ hCarried := nomatch hCarried

variable {ledger : Ledger}

/-- A new resource for a carrier that has none. -/
def make (ledger : Ledger) (carrier : Nat) : Ledger :=
  { ledger with made := ledger.made + 1, carried := Function.update ledger.carried carrier (some ledger.made) }

theorem Orderly.make (h : Orderly ledger) {carrier : Nat} (hFree : ledger.carried carrier = none) :
    Orderly (ledger.make carrier) where
  accounted item hItem hAlive := by
    rcases Nat.lt_succ_iff_lt_or_eq.mp hItem with hOld | rfl
    · rcases h.accounted item hOld hAlive with hHeld | hReleased | ⟨other, hCarried⟩
      · exact .inl hHeld
      · exact .inr (.inl hReleased)
      · refine .inr (.inr ⟨other, ?_⟩)
        have hOther : other ≠ carrier := by
          rintro rfl
          rw [hFree] at hCarried
          cases hCarried
        exact (Function.update_of_ne hOther ..).trans hCarried
    · exact .inr (.inr ⟨carrier, Function.update_self ..⟩)
  once := h.once
  releasedMade item hItem := Nat.lt_succ_of_lt (h.releasedMade item hItem)
  heldMade item hHeld := ⟨Nat.lt_succ_of_lt (h.heldMade item hHeld).1, (h.heldMade item hHeld).2⟩
  carriedMade other item hCarried := by
    change Function.update ledger.carried carrier (some ledger.made) other = some item at hCarried
    by_cases hOther : other = carrier
    · subst hOther
      rw [Function.update_self] at hCarried
      cases hCarried
      exact ⟨Nat.lt_succ_self _, fun hReleased => Nat.lt_irrefl _ (h.releasedMade _ hReleased),
        fun hHeld => Nat.lt_irrefl _ (h.heldMade _ hHeld).1⟩
    · rw [Function.update_of_ne hOther] at hCarried
      obtain ⟨hMade, hRest⟩ := h.carriedMade other item hCarried
      exact ⟨Nat.lt_succ_of_lt hMade, hRest⟩
  apart first second item hFirst hSecond := by
    change Function.update ledger.carried carrier (some ledger.made) first = some item at hFirst
    change Function.update ledger.carried carrier (some ledger.made) second = some item at hSecond
    by_cases hOne : first = carrier <;> by_cases hTwo : second = carrier
    · rw [hOne, hTwo]
    · rw [hOne, Function.update_self] at hFirst
      rw [Function.update_of_ne hTwo] at hSecond
      cases hFirst
      exact absurd (h.carriedMade second _ hSecond).1 (Nat.lt_irrefl _)
    · rw [hTwo, Function.update_self] at hSecond
      rw [Function.update_of_ne hOne] at hFirst
      cases hSecond
      exact absurd (h.carriedMade first _ hFirst).1 (Nat.lt_irrefl _)
    · rw [Function.update_of_ne hOne] at hFirst
      rw [Function.update_of_ne hTwo] at hSecond
      exact h.apart first second item hFirst hSecond

/-- Resources may die at any time. -/
theorem Orderly.die (h : Orderly ledger) (items : List Nat) :
    Orderly { ledger with dead := items ++ ledger.dead } where
  accounted item hItem hAlive :=
    h.accounted item hItem fun hDead => hAlive (List.mem_append_right items hDead)
  once := h.once
  releasedMade := h.releasedMade
  heldMade := h.heldMade
  carriedMade := h.carriedMade
  apart := h.apart

/-- The holder lets go of a dead resource, or has none. -/
theorem Orderly.forget (h : Orderly ledger) (hDead : ∀ item, ledger.held = some item → item ∈ ledger.dead) :
    Orderly { ledger with held := none } where
  accounted item hItem hAlive := by
    rcases h.accounted item hItem hAlive with hHeld | hElsewhere
    · exact absurd (hDead item hHeld) hAlive
    · exact .inr hElsewhere
  once := h.once
  releasedMade := h.releasedMade
  heldMade _ hHeld := nomatch hHeld
  carriedMade carrier item hCarried :=
    ⟨(h.carriedMade carrier item hCarried).1, (h.carriedMade carrier item hCarried).2.1, fun hHeld => nomatch hHeld⟩
  apart := h.apart

/-- The holder gives its resource back. -/
theorem Orderly.release (h : Orderly ledger) {item : Nat} (hHeld : ledger.held = some item) :
    Orderly { ledger with held := none, released := item :: ledger.released } where
  accounted other hOther hAlive := by
    rcases h.accounted other hOther hAlive with hSame | hReleased | hCarried
    · rw [hHeld] at hSame
      cases hSame
      exact .inr (.inl List.mem_cons_self)
    · exact .inr (.inl (List.mem_cons_of_mem _ hReleased))
    · exact .inr (.inr hCarried)
  once := List.nodup_cons.mpr ⟨(h.heldMade item hHeld).2, h.once⟩
  releasedMade other hOther := by
    rcases List.mem_cons.mp hOther with rfl | hOld
    · exact (h.heldMade other hHeld).1
    · exact h.releasedMade other hOld
  heldMade _ hNone := nomatch hNone
  carriedMade carrier other hCarried := by
    obtain ⟨hMade, hNot, hDiffers⟩ := h.carriedMade carrier other hCarried
    refine ⟨hMade, fun hReleased => ?_, fun hNone => nomatch hNone⟩
    rcases List.mem_cons.mp hReleased with rfl | hOld
    · exact hDiffers hHeld
    · exact hNot hOld
  apart := h.apart

/-- A carrier hands its resource to a holder that has none. -/
theorem Orderly.handOver (h : Orderly ledger) (hNone : ledger.held = none) {carrier item : Nat}
    (hCarried : ledger.carried carrier = some item) :
    Orderly { ledger with held := some item, carried := Function.update ledger.carried carrier none } where
  accounted other hOther hAlive := by
    rcases h.accounted other hOther hAlive with hHeld | hReleased | ⟨from', hFrom⟩
    · rw [hNone] at hHeld
      cases hHeld
    · exact .inr (.inl hReleased)
    · by_cases hSame : from' = carrier
      · subst hSame
        rw [hCarried] at hFrom
        exact .inl hFrom
      · exact .inr (.inr ⟨from', (Function.update_of_ne hSame ..).trans hFrom⟩)
  once := h.once
  releasedMade := h.releasedMade
  heldMade other hHeld := by
    cases hHeld
    exact ⟨(h.carriedMade carrier item hCarried).1, (h.carriedMade carrier item hCarried).2.1⟩
  carriedMade other thing hThing := by
    change Function.update ledger.carried carrier none other = some thing at hThing
    by_cases hSame : other = carrier
    · rw [hSame, Function.update_self] at hThing
      cases hThing
    · rw [Function.update_of_ne hSame] at hThing
      obtain ⟨hMade, hNot, -⟩ := h.carriedMade other thing hThing
      refine ⟨hMade, hNot, fun hHeld => hSame ?_⟩
      cases hHeld
      exact h.apart other carrier item hThing hCarried
  apart first second thing hFirst hSecond := by
    change Function.update ledger.carried carrier none first = some thing at hFirst
    change Function.update ledger.carried carrier none second = some thing at hSecond
    by_cases hOne : first = carrier
    · rw [hOne, Function.update_self] at hFirst
      cases hFirst
    · by_cases hTwo : second = carrier
      · rw [hTwo, Function.update_self] at hSecond
        cases hSecond
      · rw [Function.update_of_ne hOne] at hFirst
        rw [Function.update_of_ne hTwo] at hSecond
        exact h.apart first second thing hFirst hSecond

end Ledger

end Custody
