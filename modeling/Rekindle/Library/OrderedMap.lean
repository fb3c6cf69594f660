import Mathlib.Tactic.Common

/-! # The first key of a map kept in the order of its keys -/
namespace OrderedMap
set_option autoImplicit false
open Std

variable {α β : Type} [Ord α]

/-- `keys().next()`. -/
def firstKey? (map : TreeMap α β) : Option α := map.keys.head?

/-- `pop_first()`, of which only the map that is left is used. -/
def popFirst (map : TreeMap α β) : TreeMap α β :=
  match firstKey? map with
  | some first => map.erase first
  | none => map

variable {map : TreeMap α β} {first key other : α} {value : β}

theorem popFirst_of_firstKey? (h : firstKey? map = some first) : popFirst map = map.erase first := by
  rw [popFirst, h]

section Keys
variable [TransOrd α]

theorem mem_iff_getElem? : key ∈ map ↔ ∃ value, map[key]? = some value := by
  rw [TreeMap.mem_iff_isSome_getElem?, Option.isSome_iff_exists]

theorem size_insert_of_mem (h : key ∈ map) : (map.insert key value).size = map.size := by
  rw [TreeMap.size_insert, if_pos (TreeMap.contains_iff_mem.mpr h)]

theorem size_insert_of_not_mem (h : key ∉ map) : (map.insert key value).size = map.size + 1 := by
  rw [TreeMap.size_insert, if_neg fun hMem => h (TreeMap.contains_iff_mem.mp hMem)]

theorem size_erase_of_mem (h : key ∈ map) : (map.erase key).size = map.size - 1 := by
  rw [TreeMap.size_erase, if_pos (TreeMap.contains_iff_mem.mpr h)]

theorem exists_firstKey? (h : key ∈ map) : ∃ first, firstKey? map = some first := by
  rw [firstKey?, ← TreeMap.minKey?_eq_head?_keys]
  exact Option.isSome_iff_exists.mp (TreeMap.isSome_minKey?_of_mem h)

theorem size_pos_of_mem (h : key ∈ map) : 0 < map.size := by
  rw [Nat.pos_iff_ne_zero]
  intro hZero
  have hEmpty : map.isEmpty = true := by rw [TreeMap.isEmpty_eq_size_eq_zero, hZero]; rfl
  rw [TreeMap.isEmpty_iff_forall_not_mem] at hEmpty
  exact hEmpty key h

theorem exists_mem_of_size_pos (h : 0 < map.size) : ∃ key, key ∈ map := by
  have hFilled : map.isEmpty = false := by
    rw [TreeMap.isEmpty_eq_size_eq_zero, beq_eq_false_iff_ne]
    exact Nat.pos_iff_ne_zero.mp h
  exact TreeMap.isEmpty_eq_false_iff_exists_mem.mp hFilled

end Keys

section EqualKeys
variable [TransOrd α] [LawfulEqOrd α]

theorem mem_insert_iff : other ∈ map.insert key value ↔ other = key ∨ other ∈ map := by
  rw [TreeMap.mem_insert, LawfulEqOrd.compare_eq_iff_eq, eq_comm]

theorem mem_erase_iff : other ∈ map.erase key ↔ other ≠ key ∧ other ∈ map := by
  rw [TreeMap.mem_erase, ne_eq, LawfulEqOrd.compare_eq_iff_eq, ne_comm]

theorem getElem?_insert_iff [DecidableEq α] :
    (map.insert key value)[other]? = if other = key then some value else map[other]? := by
  simp only [TreeMap.getElem?_insert, LawfulEqOrd.compare_eq_iff_eq, @eq_comm _ other key]

theorem firstKey?_eq_some_iff [LE α] [LawfulOrderOrd α] :
    firstKey? map = some first ↔ first ∈ map ∧ ∀ key ∈ map, first ≤ key := by
  rw [firstKey?, ← TreeMap.minKey?_eq_head?_keys, TreeMap.minKey?_eq_some_iff_mem_and_forall]
  simp only [LawfulOrderOrd.isLE_compare]

end EqualKeys

end OrderedMap
