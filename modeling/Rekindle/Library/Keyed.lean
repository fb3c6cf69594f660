import Mathlib.Data.List.Nodup

/-! # Lists of records found by a key

A key may occur more than once; what it denotes is the first record that has it.
-/
namespace Keyed
set_option autoImplicit false

variable {α κ : Type} [DecidableEq κ] (key : α → κ)

/-- `iter().find(..)`. -/
def find (k : κ) (records : List α) : Option α := records.find? fun record => key record == k

/-- `iter_mut().find(..)` and a change of what it finds. -/
def update (k : κ) (change : α → α) : List α → List α
  | [] => []
  | record :: rest => if key record = k then change record :: rest else record :: update k change rest

/-- `retain(|record| key(record) != k)`. -/
def remove (k : κ) (records : List α) : List α := records.filter fun record => key record != k

/-- `HashMap::insert`: the record replaces the one with its key. -/
def insert (record : α) (records : List α) : List α := remove key (key record) records ++ [record]

variable {key} {k : κ} {records : List α}

theorem key_of_find {record : α} (h : find key k records = some record) : key record = k := by
  have hTest := List.find?_some h
  exact of_decide_eq_true hTest

theorem find_eq_none_iff : find key k records = none ↔ ∀ record ∈ records, key record ≠ k := by
  simp [find]

theorem mem_remove {record : α} : record ∈ remove key k records ↔ record ∈ records ∧ key record ≠ k := by
  rw [remove, List.mem_filter, bne_iff_ne]

theorem find_cons (record : α) :
    find key k (record :: records) = if key record = k then some record else find key k records := by
  by_cases h : key record = k <;> simp [find, h]

theorem find_append (later : List α) :
    find key k (records ++ later) = (find key k records).or (find key k later) :=
  List.find?_append

theorem find_update (change : α → α) (hKey : ∀ record, key (change record) = key record) (j : κ) :
    find key j (update key k change records) =
      if j = k then (find key k records).map change else find key j records := by
  induction records with
  | nil => simp [update, find]
  | cons record rest ih =>
    by_cases hHere : key record = k
    · rw [update, if_pos hHere, find_cons, find_cons, find_cons, hKey, hHere]
      by_cases hj : k = j
      · simp [hj]
      · simp [hj, Ne.symm hj]
    · rw [update, if_neg hHere, find_cons, ih, find_cons, find_cons, if_neg hHere]
      by_cases hj : j = k
      · simp [hj, hHere]
      · simp [hj]

/-- Two changes in a row are one. -/
theorem update_update {change : α → α} (later : α → α) (hKey : ∀ record, key (change record) = key record) :
    update key k later (update key k change records) = update key k (later ∘ change) records := by
  induction records with
  | nil => rfl
  | cons record rest ih =>
    by_cases hHere : key record = k
    · rw [update, if_pos hHere, update, if_pos ((hKey record).trans hHere), update, if_pos hHere]
      rfl
    · rw [update, if_neg hHere, update, if_neg hHere, update, if_neg hHere, ih]

theorem mem_of_mem_update {change : α → α} {record : α} (h : record ∈ update key k change records) :
    record ∈ records ∨ ∃ former, find key k records = some former ∧ record = change former := by
  induction records with
  | nil => exact .inl h
  | cons first rest ih =>
    rw [update] at h
    rw [find_cons]
    split at h
    · rw [if_pos ‹_›]
      rcases List.mem_cons.mp h with rfl | hRest
      · exact .inr ⟨first, rfl, rfl⟩
      · exact .inl (List.mem_cons_of_mem _ hRest)
    · rw [if_neg ‹_›]
      rcases List.mem_cons.mp h with rfl | hRest
      · exact .inl List.mem_cons_self
      · exact (ih hRest).imp (List.mem_cons_of_mem _) id

/-- What a change leaves alone stays the same in the whole list. -/
theorem map_update {β : Type} {read : α → β} {change : α → α}
    (hRead : ∀ record, read (change record) = read record) :
    (update key k change records).map read = records.map read := by
  induction records with
  | nil => rfl
  | cons first rest ih =>
    rw [update]
    split
    · rw [List.map_cons, List.map_cons, hRead]
    · rw [List.map_cons, List.map_cons, ih]

theorem map_key_update {change : α → α} (hKey : ∀ record, key (change record) = key record) :
    (update key k change records).map key = records.map key := map_update hKey

/-- Of records with distinct keys only one has the key. -/
theorem update_eq_map (change : α → α) (hKeys : (records.map key).Nodup) :
    update key k change records = records.map fun record => if key record = k then change record else record := by
  induction records with
  | nil => rfl
  | cons record rest ih =>
    obtain ⟨hFirst, hRest⟩ := List.nodup_cons.mp hKeys
    rw [update, List.map_cons]
    split
    · next hHere =>
      have hOthers : (rest.map fun other => if key other = k then change other else other) = rest.map id :=
        List.map_congr_left fun other hOther =>
          if_neg fun hSame => hFirst (List.mem_map.mpr ⟨other, hOther, hSame.trans hHere.symm⟩)
      rw [hOthers, List.map_id]
    · rw [ih hRest]

theorem forall_mem_update {change : α → α} {P : α → Prop} (hKeys : (records.map key).Nodup)
    (hOther : ∀ record ∈ records, key record ≠ k → P record)
    (hHere : ∀ record ∈ records, key record = k → P (change record)) : ∀ record ∈ update key k change records, P record := by
  rw [update_eq_map change hKeys]
  intro record hRecord
  obtain ⟨former, hFormer, rfl⟩ := List.mem_map.mp hRecord
  split
  · next hSame => exact hHere former hFormer hSame
  · next hDiffers => exact hOther former hFormer hDiffers

/-- The last record is changed when no other has the key. -/
theorem update_append_singleton (change : α → α) {record : α} (hNew : find key (key record) records = none) :
    update key (key record) change (records ++ [record]) = records ++ [change record] := by
  induction records with
  | nil => exact if_pos rfl
  | cons first rest ih =>
    rw [find_cons] at hNew
    split at hNew
    · cases hNew
    · next hDiffers =>
      rw [List.cons_append, update, if_neg hDiffers, ih hNew]
      rfl

theorem find_remove (j : κ) :
    find key j (remove key k records) = if j = k then none else find key j records := by
  induction records with
  | nil => simp [remove, find]
  | cons record rest ih =>
    by_cases hHere : key record = k
    · have hDrop : remove key k (record :: rest) = remove key k rest := by simp [remove, hHere]
      rw [hDrop, ih, find_cons, hHere]
      by_cases hj : j = k
      · simp [hj]
      · simp [hj, Ne.symm hj]
    · have hStay : remove key k (record :: rest) = record :: remove key k rest := by
        simp [remove, hHere]
      rw [hStay, find_cons, ih, find_cons]
      by_cases hj : j = k
      · simp [hj, hHere]
      · simp [hj]

/-- A change that keeps the key of the record is not seen where its key is removed. -/
theorem remove_update (change : α → α) (hKey : ∀ record, key (change record) = key record) :
    remove key k (update key k change records) = remove key k records := by
  induction records with
  | nil => rfl
  | cons record rest ih =>
    rw [update]
    split
    · next hHere => simp [remove, hKey, hHere]
    · simp only [remove, List.filter_cons] at ih ⊢
      rw [ih]

theorem find_insert (record : α) (j : κ) :
    find key j (insert key record records) = if j = key record then some record else find key j records := by
  rw [insert, find_append, find_remove, find_cons]
  by_cases hj : j = key record
  · simp [hj]
  · rw [if_neg hj, if_neg hj, if_neg (Ne.symm hj)]
    exact Option.or_none

theorem nodup_insert (record : α) (hKeys : (records.map key).Nodup) : ((insert key record records).map key).Nodup := by
  rw [insert, List.map_append]
  refine (hKeys.sublist (List.filter_sublist.map key)).append (List.nodup_singleton _) ?_
  rw [List.map_singleton, List.disjoint_singleton, List.mem_map]
  rintro ⟨other, hOther, hSame⟩
  have hDiffers := (List.mem_filter.mp hOther).2
  rw [hSame, bne_self_eq_false] at hDiffers
  cases hDiffers

theorem nodup_foldl_insert {β : Type} (load : β → α) (entries : List β) (hKeys : (records.map key).Nodup) :
    ((entries.foldl (fun records entry => insert key (load entry) records) records).map key).Nodup := by
  induction entries generalizing records with
  | nil => exact hKeys
  | cons entry rest ih => exact ih (nodup_insert (load entry) hKeys)

theorem mem_foldl_insert {β : Type} (load : β → α) {entries : List β} {record : α}
    (h : record ∈ entries.foldl (fun records entry => insert key (load entry) records) records) :
    record ∈ records ∨ ∃ entry ∈ entries, record = load entry := by
  induction entries generalizing records with
  | nil => exact .inl h
  | cons entry rest ih =>
    rcases ih h with hInserted | ⟨other, hOther, hLoaded⟩
    · rcases List.mem_append.mp hInserted with hOld | hNew
      · exact .inl (List.mem_filter.mp hOld).1
      · exact .inr ⟨entry, List.mem_cons_self, List.mem_singleton.mp hNew⟩
    · exact .inr ⟨other, List.mem_cons_of_mem _ hOther, hLoaded⟩

theorem find_of_mem (hKeys : (records.map key).Nodup) {record : α} (h : record ∈ records) :
    find key (key record) records = some record := by
  induction records with
  | nil => cases h
  | cons first rest ih =>
    obtain ⟨hFirst, hRest⟩ := List.nodup_cons.mp hKeys
    rw [find_cons]
    rcases List.mem_cons.mp h with rfl | hMem
    · rw [if_pos rfl]
    · have hOther : key first ≠ key record := by
        intro hSame
        exact hFirst (List.mem_map.mpr ⟨record, hMem, hSame.symm⟩)
      rw [if_neg hOther, ih hRest hMem]

/-- Among records with distinct keys a filter hides a record or leaves it. -/
theorem find_filter (hKeys : (records.map key).Nodup) (test : α → Bool) :
    find key k (records.filter test) = (find key k records).filter test := by
  induction records with
  | nil => rfl
  | cons record rest ih =>
    obtain ⟨hHead, hRest⟩ := List.nodup_cons.mp hKeys
    rw [find_cons]
    split
    · next hHere =>
      have hOnly : find key k (rest.filter test) = none := by
        rw [find_eq_none_iff]
        intro other hOther hSame
        exact hHead (hHere ▸ hSame ▸ List.mem_map_of_mem (List.mem_filter.mp hOther).1)
      cases hTest : test record with
      | true => rw [List.filter_cons_of_pos hTest, find_cons, if_pos hHere, Option.filter_some, if_pos hTest]
      | false =>
        rw [List.filter_cons_of_neg (by simp [hTest]), hOnly, Option.filter_some, if_neg (by simp [hTest])]
    · next hHere =>
      cases hTest : test record with
      | true => rw [List.filter_cons_of_pos hTest, find_cons, if_neg hHere, ih hRest]
      | false => rw [List.filter_cons_of_neg (by simp [hTest]), ih hRest]

/-- Entries with distinct keys are inserted one after the other. -/
theorem find_foldl_insert {β : Type} (load : β → α) {entries : List β}
    (hKeys : (entries.map fun entry => key (load entry)).Nodup) (records : List α) :
    find key k (entries.foldl (fun records entry => insert key (load entry) records) records) =
      ((entries.find? fun entry => key (load entry) == k).map load).or (find key k records) := by
  induction entries generalizing records with
  | nil => rfl
  | cons entry rest ih =>
    obtain ⟨hHead, hRest⟩ := List.nodup_cons.mp hKeys
    rw [List.foldl_cons, ih hRest, find_insert]
    by_cases hHere : key (load entry) = k
    · have hOnly : (rest.find? fun entry => key (load entry) == k) = none := by
        rw [List.find?_eq_none]
        intro other hOther hSame
        rw [beq_iff_eq] at hSame
        exact hHead (List.mem_map.mpr ⟨other, hOther, hSame.trans hHere.symm⟩)
      rw [hOnly, if_pos hHere.symm, List.find?_cons_of_pos (by simpa using hHere)]
      rfl
    · rw [if_neg (Ne.symm hHere), List.find?_cons_of_neg (by simpa using hHere)]

/-- Entries are inserted one after the other, so the last one of a key is found. -/
theorem find_foldl_insert_last {β : Type} (load : β → α) (entries : List β) (records : List α) :
    find key k (entries.foldl (fun records entry => insert key (load entry) records) records) =
      ((find (key ∘ load) k entries.reverse).map load).or (find key k records) := by
  induction entries generalizing records with
  | nil => rfl
  | cons entry rest ih =>
    rw [List.foldl_cons, ih, find_insert, List.reverse_cons, find_append, find_cons]
    cases find (key ∘ load) k rest.reverse with
    | some last => rfl
    | none =>
      by_cases hHere : key (load entry) = k
      · simp [hHere]
      · simp [hHere, Ne.symm hHere, find]

theorem find_map (change : α → α) (hKey : ∀ record, key (change record) = key record) :
    find key k (records.map change) = (find key k records).map change := by
  induction records with
  | nil => rfl
  | cons record rest ih =>
    rw [List.map_cons, find_cons, find_cons, hKey, ih]
    split <;> rfl

/-! ## The order of records with distinct keys -/

section
variable {others : List α}

theorem find_of_perm (hKeys : (records.map key).Nodup) (hPerm : records.Perm others) :
    find key k records = find key k others := by
  have hOthers : (others.map key).Nodup := (hPerm.map key).nodup_iff.mp hKeys
  cases hFound : find key k records with
  | some record =>
    have hMem : record ∈ others := hPerm.subset (List.mem_of_find?_eq_some hFound)
    rw [← key_of_find hFound, find_of_mem hOthers hMem]
  | none =>
    symm
    rw [find_eq_none_iff] at hFound ⊢
    intro record hRecord
    exact hFound record (hPerm.symm.subset hRecord)

/-- A filter that keeps one key only leaves at most one record, in whatever order they stand. -/
theorem filter_of_perm {test : α → Bool} (hKeys : (records.map key).Nodup) (hPerm : records.Perm others)
    (hTest : ∀ record, test record = true → key record = k) : records.filter test = others.filter test := by
  have hKept : ((records.filter test).map key).Nodup := hKeys.sublist (List.filter_sublist.map key)
  have hOnly : ∀ record ∈ records.filter test, key record = k := by
    intro record hRecord
    exact hTest record (List.mem_filter.mp hRecord).2
  have hPermKept : (records.filter test).Perm (others.filter test) := hPerm.filter test
  match hList : records.filter test with
  | [] =>
    rw [hList] at hPermKept
    exact hPermKept.nil_eq
  | [record] =>
    rw [hList] at hPermKept
    exact hPermKept.singleton_eq
  | first :: second :: rest =>
    rw [hList] at hKept hOnly
    have hSame : key first = key second :=
      (hOnly first List.mem_cons_self).trans (hOnly second (List.mem_cons_of_mem _ List.mem_cons_self)).symm
    rw [List.map_cons, List.map_cons, hSame] at hKept
    exact absurd List.mem_cons_self (List.nodup_cons.mp hKept).1

/-- A record and those with other keys are all there is. -/
theorem perm_cons_remove (hKeys : (records.map key).Nodup) {record : α} (h : record ∈ records) :
    records.Perm (record :: remove key (key record) records) := by
  induction records with
  | nil => cases h
  | cons first rest ih =>
    obtain ⟨hFirst, hRest⟩ := List.nodup_cons.mp hKeys
    have hApart : ∀ other ∈ rest, key other ≠ key first :=
      fun other hOther hSame => hFirst (List.mem_map.mpr ⟨other, hOther, hSame⟩)
    rcases List.mem_cons.mp h with rfl | hLater
    · have hAll : remove key (key record) (record :: rest) = rest := by
        rw [remove, List.filter_cons_of_neg (by simp)]
        exact List.filter_eq_self.mpr fun other hOther => bne_iff_ne.mpr (hApart other hOther)
      rw [hAll]
    · have hStay : remove key (key record) (first :: rest) = first :: remove key (key record) rest :=
        List.filter_cons_of_pos (bne_iff_ne.mpr (hApart record hLater).symm)
      rw [hStay]
      exact ((ih hRest hLater).cons first).trans (.swap record first _)

end

end Keyed
