import Mathlib.Data.List.Nodup
import Mathlib.Data.List.Perm.Basic
import Rekindle.Library.Keyed

/-! # A list in memory and the table that stores it

Every record of the list has its row in the table. The rows that are the list's own and can be read back are those of
its records; what cannot be read may lie there besides.
-/
namespace Mirrors
set_option autoImplicit false

variable {α ρ : Type}

structure Mirror (row : α → ρ) (own visible : ρ → Prop) (records : List α) (table : List ρ) : Prop where
  stored : ∀ record ∈ records, row record ∈ table
  known : ∀ entry ∈ table, own entry → visible entry → ∃ record ∈ records, row record = entry

variable {row : α → ρ} {own visible : ρ → Prop} {records : List α} {table : List ρ}

namespace Mirror

/-- Rows of other lists come and go. -/
theorem congr (h : Mirror row own visible records table) {after : List ρ} (hOwn : ∀ record ∈ records, own (row record))
    (hTable : ∀ entry, own entry → (entry ∈ after ↔ entry ∈ table)) : Mirror row own visible records after where
  stored record hRecord := (hTable _ (hOwn record hRecord)).mpr (h.stored record hRecord)
  known entry hEntry hMine := h.known entry ((hTable entry hMine).mp hEntry) hMine

theorem of_mem_iff (h : Mirror row own visible records table) {after : List α}
    (hRecords : ∀ record, record ∈ after ↔ record ∈ records) : Mirror row own visible after table where
  stored record hRecord := h.stored record ((hRecords record).mp hRecord)
  known entry hEntry hMine hVisible := by
    obtain ⟨record, hRecord, hRow⟩ := h.known entry hEntry hMine hVisible
    exact ⟨record, (hRecords record).mpr hRecord, hRow⟩

/-- Of the records only their rows matter. -/
theorem of_rows (h : Mirror row own visible records table) {β : Type} {row' : β → ρ} {others : List β}
    (hRows : others.map row' = records.map row) : Mirror row' own visible others table where
  stored record hRecord := by
    have hRow : row' record ∈ others.map row' := List.mem_map_of_mem hRecord
    rw [hRows] at hRow
    obtain ⟨former, hFormer, hSame⟩ := List.mem_map.mp hRow
    exact hSame ▸ h.stored former hFormer
  known entry hEntry hMine hVisible := by
    have hRow : entry ∈ records.map row := List.mem_map.mpr (h.known entry hEntry hMine hVisible)
    rw [← hRows] at hRow
    exact List.mem_map.mp hRow

theorem empty (hNone : ∀ entry ∈ table, ¬own entry) : Mirror row own visible [] table where
  stored _ hRecord := nomatch hRecord
  known entry hEntry hMine := absurd hMine (hNone entry hEntry)

theorem append (h : Mirror row own visible records table) (record : α) :
    Mirror row own visible (records ++ [record]) (table ++ [row record]) where
  stored other hOther := by
    rcases List.mem_append.mp hOther with hOld | hNew
    · exact List.mem_append_left _ (h.stored other hOld)
    · rw [List.mem_singleton.mp hNew]
      exact List.mem_append_right _ List.mem_cons_self
  known entry hEntry hMine hVisible := by
    rcases List.mem_append.mp hEntry with hOld | hNew
    · obtain ⟨other, hOther, hRow⟩ := h.known entry hOld hMine hVisible
      exact ⟨other, List.mem_append_left _ hOther, hRow⟩
    · exact ⟨record, List.mem_append_right _ List.mem_cons_self, (List.mem_singleton.mp hNew).symm⟩

/-- Records are taken off the list, and their rows off the table. -/
theorem filter (h : Mirror row own visible records table) {keep : α → Bool} {keepRow : ρ → Bool}
    (hKeep : ∀ record ∈ records, keepRow (row record) = keep record) :
    Mirror row own visible (records.filter keep) (table.filter keepRow) where
  stored record hRecord := by
    obtain ⟨hOld, hKept⟩ := List.mem_filter.mp hRecord
    exact List.mem_filter.mpr ⟨h.stored record hOld, (hKeep record hOld).trans hKept⟩
  known entry hEntry hMine hVisible := by
    obtain ⟨hOld, hKept⟩ := List.mem_filter.mp hEntry
    obtain ⟨record, hRecord, rfl⟩ := h.known entry hOld hMine hVisible
    exact ⟨record, List.mem_filter.mpr ⟨hRecord, (hKeep record hRecord).symm.trans hKept⟩, rfl⟩

/-- Records change, and their rows with them. No other row becomes one of the list. -/
theorem map {row' : α → ρ} (h : Mirror row own visible records table) {change : α → α} {changeRow : ρ → ρ}
    (hRow : ∀ record ∈ records, row' (change record) = changeRow (row record))
    (hOther : ∀ entry ∈ table, own (changeRow entry) → visible (changeRow entry) →
      own entry ∧ visible entry ∨ ∃ record ∈ records, row record = entry) :
    Mirror row' own visible (records.map change) (table.map changeRow) where
  stored record hRecord := by
    obtain ⟨old, hOld, rfl⟩ := List.mem_map.mp hRecord
    rw [hRow old hOld]
    exact List.mem_map_of_mem (h.stored old hOld)
  known entry hEntry hMine hVisible := by
    obtain ⟨old, hOld, rfl⟩ := List.mem_map.mp hEntry
    have hRecord : ∃ record ∈ records, row record = old :=
      (hOther old hOld hMine hVisible).elim (fun hBefore => h.known old hOld hBefore.1 hBefore.2) id
    obtain ⟨record, hRecord, rfl⟩ := hRecord
    exact ⟨change record, List.mem_map_of_mem hRecord, hRow record hRecord⟩

/-- The list is what was read from the table. -/
theorem of_read {keep : ρ → Bool} {read : ρ → α} (hKeep : ∀ entry, keep entry = true ↔ own entry ∧ visible entry)
    (hRead : ∀ entry ∈ table, own entry → row (read entry) = entry) :
    Mirror row own visible ((table.filter keep).map read) table where
  stored record hRecord := by
    obtain ⟨entry, hEntry, rfl⟩ := List.mem_map.mp hRecord
    obtain ⟨hEntry, hKept⟩ := List.mem_filter.mp hEntry
    rwa [hRead entry hEntry ((hKeep entry).mp hKept).1]
  known entry hEntry hMine hVisible :=
    ⟨read entry, List.mem_map_of_mem (List.mem_filter.mpr ⟨hEntry, (hKeep entry).mpr ⟨hMine, hVisible⟩⟩),
      hRead entry hEntry hMine⟩

/-- Less is visible. -/
theorem mono (h : Mirror row own visible records table) {visible' : ρ → Prop}
    (hVisible : ∀ entry, visible' entry → visible entry) : Mirror row own visible' records table :=
  ⟨h.stored, fun entry hEntry hMine hSeen => h.known entry hEntry hMine (hVisible entry hSeen)⟩

/-- Two lists of one table have the same visible rows. -/
theorem agree (h : Mirror row own visible records table) {others : List α} (hOthers : Mirror row own visible others table)
    {record : α} (hRecord : record ∈ records) (hOwn : own (row record)) (hVisible : visible (row record)) :
    ∃ other ∈ others, row other = row record :=
  hOthers.known _ (h.stored record hRecord) hOwn hVisible

theorem perm_visible (h : Mirror row own visible records table) {others : List α}
    (hOthers : Mirror row own visible others table) (hOwn : ∀ record, own (row record))
    (hRow : Function.Injective row) (hRecords : records.Nodup) (hDistinct : others.Nodup) [DecidablePred visible] :
    (others.filter fun record => visible (row record)).Perm (records.filter fun record => visible (row record)) := by
  refine (List.perm_ext_iff_of_nodup (hDistinct.filter _) (hRecords.filter _)).mpr fun record => ?_
  rw [List.mem_filter, List.mem_filter, decide_eq_true_eq, and_congr_left_iff]
  intro hVisible
  constructor
  · intro hOther
    obtain ⟨other, hThere, hSame⟩ := hOthers.agree h hOther (hOwn record) hVisible
    rwa [← hRow hSame]
  · intro hRecord
    obtain ⟨other, hThere, hSame⟩ := h.agree hOthers hRecord (hOwn record) hVisible
    rwa [← hRow hSame]

/-- What has the key is found in both lists or in neither. -/
theorem find_agree {κ : Type} [DecidableEq κ] {key : α → κ} {others : List α}
    (h : Mirror row own (fun _ => True) records table) (hOthers : Mirror row own (fun _ => True) others table)
    (hOwn : ∀ record, own (row record)) (hKey : ∀ first second, row first = row second → key first = key second)
    (hDistinct : (others.map key).Nodup) (k : κ) :
    Option.Rel (fun record other => record ∈ records ∧ other ∈ others ∧ row other = row record)
      (Keyed.find key k records) (Keyed.find key k others) := by
  obtain hNone | ⟨record, hFound⟩ := Option.eq_none_or_eq_some (Keyed.find key k records)
  · have hOther : Keyed.find key k others = none := by
      rw [Keyed.find_eq_none_iff] at hNone ⊢
      intro other hThere hSame
      obtain ⟨record, hRecord, hRow⟩ := hOthers.agree h hThere (hOwn other) trivial
      exact hNone record hRecord ((hKey _ _ hRow).trans hSame)
    rw [hNone, hOther]
    exact .none
  · have hRecord : record ∈ records := List.mem_of_find?_eq_some hFound
    obtain ⟨other, hThere, hRow⟩ := h.agree hOthers hRecord (hOwn record) trivial
    have hOther : Keyed.find key k others = some other := by
      rw [← Keyed.key_of_find hFound, ← hKey _ _ hRow]
      exact Keyed.find_of_mem hDistinct hThere
    rw [hFound, hOther]
    exact .some ⟨hRecord, hThere, hRow⟩

end Mirror

end Mirrors
