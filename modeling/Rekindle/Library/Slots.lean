import Mathlib.Data.List.Nodup
import Mathlib.Data.List.Perm.Subperm
import Mathlib.Logic.Function.Basic

/-! # Lists kept in slots

A store of numbered slots and a list of some of them, in the order of the elements that they hold.
The order is in the list alone, so that no element moves when another one goes.
-/
namespace Slots
set_option autoImplicit false

variable {α : Type} {size : Nat} {slots : List Nat} {store : Nat → Option α} {elements : List α}

/-- The slots are different ones of the store, and they hold the elements in this order. -/
structure Holds (size : Nat) (slots : List Nat) (store : Nat → Option α) (elements : List α) : Prop where
  nodup : slots.Nodup
  lt : ∀ slot ∈ slots, slot < size
  values : slots.map store = elements.map some

theorem holds_nil (size : Nat) (store : Nat → Option α) : Holds size [] store [] :=
  ⟨List.nodup_nil, fun _ h => absurd h List.not_mem_nil, rfl⟩

theorem Holds.length_eq (h : Holds size slots store elements) : slots.length = elements.length := by
  have hLengths := congrArg List.length h.values
  rwa [List.length_map, List.length_map] at hLengths

/-- Different slots of a store are at most as many as it has. -/
theorem Holds.length_le (h : Holds size slots store elements) : elements.length ≤ size := by
  have hSubset : slots ⊆ List.range size := fun slot hSlot => List.mem_range.mpr (h.lt slot hSlot)
  have hLength := (h.nodup.subperm hSubset).length_le
  rwa [List.length_range, h.length_eq] at hLength

theorem Holds.getElem? (h : Holds size slots store elements) (i : Nat) : slots[i]?.bind store = elements[i]? := by
  have hValues := congrArg (fun values : List (Option α) => values[i]?) h.values
  simp only [List.getElem?_map] at hValues
  cases hSlot : slots[i]? with
  | none =>
    rw [hSlot, Option.map_none, eq_comm, Option.map_eq_none_iff] at hValues
    rw [hValues]
    rfl
  | some slot =>
    rw [hSlot, Option.map_some, eq_comm, Option.map_eq_some_iff] at hValues
    obtain ⟨a, hElement, hStored⟩ := hValues
    rw [hElement, Option.bind_some, hStored]

theorem Holds.getElem?_slot (h : Holds size slots store elements) {i slot : Nat} (hSlot : slots[i]? = some slot) :
    store slot = elements[i]? := by
  rw [← h.getElem?, hSlot, Option.bind_some]

/-- Fewer slots than the store has leave one free. -/
theorem exists_free (hRoom : slots.length < size) : ∃ slot < size, slot ∉ slots := by
  by_contra hNone
  push Not at hNone
  have hSubset : List.range size ⊆ slots := fun slot hSlot => hNone slot (List.mem_range.mp hSlot)
  have hLength := (List.nodup_range.subperm hSubset).length_le
  rw [List.length_range] at hLength
  omega

/-- The other slots may hold anything. -/
theorem Holds.frame (h : Holds size slots store elements) {store' : Nat → Option α}
    (hSame : ∀ slot ∈ slots, store' slot = store slot) : Holds size slots store' elements where
  nodup := h.nodup
  lt := h.lt
  values := (List.map_congr_left hSame).trans h.values

theorem Holds.push (h : Holds size slots store elements) {slot : Nat} (hSlot : slot < size) (hFree : slot ∉ slots)
    {a : α} (hStored : store slot = some a) : Holds size (slots ++ [slot]) store (elements ++ [a]) where
  nodup := by
    rw [List.nodup_append]
    refine ⟨h.nodup, List.nodup_singleton _, fun other hOther _ hNew => ?_⟩
    rw [List.mem_singleton.mp hNew]
    rintro rfl
    exact hFree hOther
  lt other hOther := by
    rcases List.mem_append.mp hOther with hOld | hNew
    · exact h.lt other hOld
    · rw [List.mem_singleton.mp hNew]
      exact hSlot
  values := by simp [h.values, hStored]

theorem Holds.eraseIdx (h : Holds size slots store elements) (i : Nat) :
    Holds size (slots.eraseIdx i) store (elements.eraseIdx i) where
  nodup := h.nodup.sublist (List.eraseIdx_sublist ..)
  lt slot hSlot := h.lt slot (List.mem_of_mem_eraseIdx hSlot)
  values := by rw [← List.eraseIdx_map, ← List.eraseIdx_map, h.values]

/-- A slot in use is overwritten: no other element is in it. -/
theorem Holds.set (h : Holds size slots store elements) {i slot : Nat} (hSlot : slots[i]? = some slot) (a : α) :
    Holds size slots (Function.update store slot (some a)) (elements.set i a) where
  nodup := h.nodup
  lt := h.lt
  values := by
    apply List.ext_getElem?
    intro j
    rw [List.getElem?_map, List.getElem?_map, List.getElem?_set]
    obtain ⟨hIndex, rfl⟩ := List.getElem?_eq_some_iff.mp hSlot
    by_cases hSame : i = j
    · subst hSame
      have hElement : i < elements.length := h.length_eq ▸ hIndex
      simp [hIndex, hElement]
    · rw [if_neg hSame]
      have hOld := congrArg (fun values : List (Option α) => values[j]?) h.values
      simp only [List.getElem?_map] at hOld
      rw [← hOld]
      refine Option.map_congr fun other hOther => Function.update_of_ne ?_ ..
      rintro rfl
      obtain ⟨hj, hEqual⟩ := List.getElem?_eq_some_iff.mp hOther
      exact hSame ((h.nodup.getElem_inj_iff).mp hEqual.symm)

end Slots
