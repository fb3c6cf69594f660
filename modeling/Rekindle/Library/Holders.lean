import Mathlib.Data.List.Nodup
import Mathlib.Logic.Function.Basic

/-! # Resources in several places

Resources are made one after the other and numbered. Each place keeps one at most; a resource moves
between places, is given back from the place that keeps it, or is dropped.
-/
namespace Holders
set_option autoImplicit false

variable {Place : Type}

structure Stock (Place : Type) where
  made : Nat
  dead : List Nat
  released : List Nat
  kept : Place → Option Nat

namespace Stock

/-- Nothing is given back twice, and nothing that is kept is kept elsewhere or was given back. -/
structure Sound (stock : Stock Place) : Prop where
  once : stock.released.Nodup
  releasedMade : ∀ item ∈ stock.released, item < stock.made
  keptMade : ∀ place item, stock.kept place = some item → item < stock.made ∧ item ∉ stock.released
  apart : ∀ place other item, stock.kept place = some item → stock.kept other = some item → place = other

/-- No resource that lives is lost. -/
def Accounted (stock : Stock Place) : Prop :=
  ∀ item < stock.made, item ∉ stock.dead → item ∈ stock.released ∨ ∃ place, stock.kept place = some item

/-- The place keeps nothing that lives. -/
def Spare (stock : Stock Place) (place : Place) : Prop := ∀ item, stock.kept place = some item → item ∈ stock.dead

variable {stock : Stock Place} {place : Place} {item : Nat}

theorem spare_of_none (h : stock.kept place = none) : stock.Spare place := by
  intro item hItem
  rw [h] at hItem
  cases hItem

theorem Sound.die (h : stock.Sound) (items : List Nat) : Sound { stock with dead := items ++ stock.dead } :=
  { h with }

theorem Accounted.die (h : stock.Accounted) (items : List Nat) :
    Accounted { stock with dead := items ++ stock.dead } :=
  fun item hMade hAlive => h item hMade fun hDead => hAlive (List.mem_append_right items hDead)

variable [DecidableEq Place]

/-- A new resource for a place. -/
def make (stock : Stock Place) (place : Place) : Stock Place :=
  { stock with made := stock.made + 1, kept := Function.update stock.kept place (some stock.made) }

/-- A place is emptied. -/
def drop (stock : Stock Place) (place : Place) : Stock Place :=
  { stock with kept := Function.update stock.kept place none }

/-- What one place keeps goes to another. -/
def transfer (stock : Stock Place) (source target : Place) : Stock Place :=
  { stock with kept := Function.update (Function.update stock.kept target (stock.kept source)) source none }

/-- A resource is given back. -/
def release (stock : Stock Place) (place : Place) (item : Nat) : Stock Place :=
  { stock with
    released := item :: stock.released
    kept := Function.update stock.kept place none }

theorem drop_eq_self (h : stock.kept place = none) : stock.drop place = stock := by
  rw [drop, ← h, Function.update_eq_self]

theorem kept_update_eq_some_iff {kept : Place → Option Nat} {value : Option Nat} {other : Place} :
    Function.update kept place value other = some item ↔
      other = place ∧ value = some item ∨ other ≠ place ∧ kept other = some item := by
  by_cases h : other = place
  · subst h
    simp
  · simp [h]

theorem kept_drop_eq_some_iff {other : Place} :
    (stock.drop place).kept other = some item ↔ other ≠ place ∧ stock.kept other = some item := by
  rw [drop, kept_update_eq_some_iff]
  simp

theorem Sound.drop (h : stock.Sound) (place : Place) : (stock.drop place).Sound where
  once := h.once
  releasedMade := h.releasedMade
  keptMade other item hItem := h.keptMade other item (kept_drop_eq_some_iff.mp hItem).2
  apart first second item hFirst hSecond :=
    h.apart first second item (kept_drop_eq_some_iff.mp hFirst).2 (kept_drop_eq_some_iff.mp hSecond).2

theorem Sound.make (h : stock.Sound) (place : Place) : (stock.make place).Sound where
  once := h.once
  releasedMade item hItem := Nat.lt_succ_of_lt (h.releasedMade item hItem)
  keptMade other item hItem := by
    rcases kept_update_eq_some_iff.mp hItem with ⟨-, hNew⟩ | ⟨-, hOld⟩
    · cases hNew
      exact ⟨Nat.lt_succ_self _, fun hReleased => Nat.lt_irrefl _ (h.releasedMade _ hReleased)⟩
    · exact ⟨Nat.lt_succ_of_lt (h.keptMade other item hOld).1, (h.keptMade other item hOld).2⟩
  apart first second item hFirst hSecond := by
    rcases kept_update_eq_some_iff.mp hFirst with ⟨hOne, hNew⟩ | ⟨-, hOld⟩
    · cases hNew
      rcases kept_update_eq_some_iff.mp hSecond with ⟨hTwo, -⟩ | ⟨-, hKept⟩
      · exact hOne.trans hTwo.symm
      · exact absurd (h.keptMade second _ hKept).1 (Nat.lt_irrefl _)
    · rcases kept_update_eq_some_iff.mp hSecond with ⟨-, hNew⟩ | ⟨-, hKept⟩
      · cases hNew
        exact absurd (h.keptMade first _ hOld).1 (Nat.lt_irrefl _)
      · exact h.apart first second item hOld hKept

theorem Sound.transfer (h : stock.Sound) (source target : Place) : (stock.transfer source target).Sound := by
  have hKept : ∀ other item, (stock.transfer source target).kept other = some item →
      other ≠ source ∧ (other = target ∧ stock.kept source = some item ∨
        other ≠ target ∧ stock.kept other = some item) := by
    intro other item hItem
    rcases kept_update_eq_some_iff.mp hItem with ⟨-, hNone⟩ | ⟨hOther, hRest⟩
    · cases hNone
    · exact ⟨hOther, kept_update_eq_some_iff.mp hRest⟩
  refine ⟨h.once, h.releasedMade, fun other item hItem => ?_, fun first second item hFirst hSecond => ?_⟩
  · obtain ⟨-, ⟨-, hSource⟩ | ⟨-, hOld⟩⟩ := hKept other item hItem
    · exact h.keptMade source item hSource
    · exact h.keptMade other item hOld
  · obtain ⟨hOne, ⟨rfl, hSource⟩ | ⟨-, hOld⟩⟩ := hKept first item hFirst
    · obtain ⟨hTwo, ⟨rfl, -⟩ | ⟨-, hOther⟩⟩ := hKept second item hSecond
      · rfl
      · exact absurd (h.apart second source item hOther hSource) hTwo
    · obtain ⟨hTwo, ⟨rfl, hSource⟩ | ⟨-, hOther⟩⟩ := hKept second item hSecond
      · exact absurd (h.apart first source item hOld hSource) hOne
      · exact h.apart first second item hOld hOther

theorem Sound.release (h : stock.Sound) (hKept : stock.kept place = some item) :
    (stock.release place item).Sound where
  once := List.nodup_cons.mpr ⟨(h.keptMade place item hKept).2, h.once⟩
  releasedMade other hOther := by
    rcases List.mem_cons.mp hOther with rfl | hOld
    · exact (h.keptMade place other hKept).1
    · exact h.releasedMade other hOld
  keptMade other thing hThing := by
    obtain ⟨hOther, hOld⟩ := kept_drop_eq_some_iff.mp hThing
    refine ⟨(h.keptMade other thing hOld).1, fun hReleased => ?_⟩
    rcases List.mem_cons.mp hReleased with rfl | hBefore
    · exact hOther (h.apart other place thing hOld hKept)
    · exact (h.keptMade other thing hOld).2 hBefore
  apart := (h.drop place).apart

/-! ### What is not lost -/

theorem Accounted.drop (h : stock.Accounted) (hSpare : stock.Spare place) : (stock.drop place).Accounted := by
  intro item hMade hAlive
  rcases h item hMade hAlive with hReleased | ⟨other, hOther⟩
  · exact .inl hReleased
  · refine .inr ⟨other, kept_drop_eq_some_iff.mpr ⟨?_, hOther⟩⟩
    rintro rfl
    exact hAlive (hSpare item hOther)

theorem Accounted.make (h : stock.Accounted) (hSpare : stock.Spare place) : (stock.make place).Accounted := by
  intro item hMade hAlive
  rcases Nat.lt_succ_iff_lt_or_eq.mp hMade with hOld | rfl
  · rcases h item hOld hAlive with hReleased | ⟨other, hOther⟩
    · exact .inl hReleased
    · refine .inr ⟨other, kept_update_eq_some_iff.mpr (.inr ⟨?_, hOther⟩)⟩
      rintro rfl
      exact hAlive (hSpare item hOther)
  · exact .inr ⟨place, Function.update_self ..⟩

theorem Accounted.transfer (h : stock.Accounted) {source target : Place} (hSpare : stock.Spare target)
    (hDiffer : source ≠ target) : (stock.transfer source target).Accounted := by
  intro item hMade hAlive
  rcases h item hMade hAlive with hReleased | ⟨other, hOther⟩
  · exact .inl hReleased
  · by_cases hSource : other = source
    · subst hSource
      refine .inr ⟨target, ?_⟩
      exact kept_update_eq_some_iff.mpr (.inr ⟨hDiffer.symm, kept_update_eq_some_iff.mpr (.inl ⟨rfl, hOther⟩)⟩)
    · refine .inr ⟨other, kept_update_eq_some_iff.mpr (.inr ⟨hSource, kept_update_eq_some_iff.mpr
        (.inr ⟨?_, hOther⟩)⟩)⟩
      rintro rfl
      exact hAlive (hSpare item hOther)

theorem Accounted.release (h : stock.Accounted) (hKept : stock.kept place = some item) :
    (stock.release place item).Accounted := by
  intro other hMade hAlive
  rcases h other hMade hAlive with hReleased | ⟨from', hFrom⟩
  · exact .inl (List.mem_cons_of_mem _ hReleased)
  · by_cases hPlace : from' = place
    · subst hPlace
      rw [hKept] at hFrom
      cases hFrom
      exact .inl List.mem_cons_self
    · exact .inr ⟨from', kept_drop_eq_some_iff.mpr ⟨hPlace, hFrom⟩⟩

end Stock

end Holders
