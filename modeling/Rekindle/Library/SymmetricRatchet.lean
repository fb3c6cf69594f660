import Mathlib.Logic.Function.Iterate
import Mathlib.Data.List.Basic

/-! # One direction of a symmetric ratchet

A sender seals each message under the current chain and moves on; a receiver opens with the
chain it holds and moves on only when the message opened. Nothing here fixes what a chain, a
message or a ciphertext is.
-/
namespace SymmetricRatchet
set_option autoImplicit false

structure Scheme (Chain Plain Cipher : Type) where
  next : Chain → Chain
  /-- One plaintext may have many sealings under one chain (counters, nonces). -/
  Seals : Chain → Plain → Cipher → Prop
  open? : Chain → Cipher → Option Plain
  opens : ∀ chain plain cipher, Seals chain plain cipher → open? chain cipher = some plain

variable {Chain Plain Cipher : Type} (S : Scheme Chain Plain Cipher)

/-- The messages between a receiver at the first chain and a sender at the second, oldest first. -/
inductive InFlight : Chain → Chain → List (Cipher × Plain) → Prop
  | empty (chain : Chain) : InFlight chain chain []
  | cons {receiver sender : Chain} {plain : Plain} {cipher : Cipher} {queue : List (Cipher × Plain)}
      (hSealed : S.Seals receiver plain cipher) (rest : InFlight (S.next receiver) sender queue) :
      InFlight receiver sender ((cipher, plain) :: queue)

variable {S}

theorem InFlight.send {receiver sender : Chain} {queue : List (Cipher × Plain)}
    (h : InFlight S receiver sender queue) {plain : Plain} {cipher : Cipher}
    (hSealed : S.Seals sender plain cipher) :
    InFlight S receiver (S.next sender) (queue ++ [(cipher, plain)]) := by
  induction h with
  | empty chain => exact .cons hSealed (.empty _)
  | cons hFirst _ ih => exact .cons hFirst (ih hSealed)

theorem InFlight.receive {receiver sender : Chain} {plain : Plain} {cipher : Cipher}
    {queue : List (Cipher × Plain)} (h : InFlight S receiver sender ((cipher, plain) :: queue)) :
    S.open? receiver cipher = some plain ∧ InFlight S (S.next receiver) sender queue := by
  cases h with
  | cons hSealed rest => exact ⟨S.opens _ _ _ hSealed, rest⟩

theorem InFlight.eq_of_nil {receiver sender : Chain} (h : InFlight S receiver sender []) :
    receiver = sender := by
  cases h
  rfl

theorem InFlight.seals_get {receiver sender : Chain} {queue : List (Cipher × Plain)}
    (h : InFlight S receiver sender queue) (i : Fin queue.length) :
    S.Seals (S.next^[i] receiver) (queue.get i).2 (queue.get i).1 := by
  induction h with
  | empty chain => exact i.elim0
  | cons hSealed _ ih =>
    cases i using Fin.cases with
    | zero => exact hSealed
    | succ i => exact ih i

variable (S)

/-! ## Deliveries in any order

`log` is what a receiver that knows only its current chain makes of a delivery schedule. -/

def log {ι : Type} (cipher : ι → Cipher) : Chain → List ι → List (ι × Option Plain)
  | _, [] => []
  | chain, i :: rest =>
    match S.open? chain (cipher i) with
    | some plain => (i, some plain) :: log cipher (S.next chain) rest
    | none => (i, none) :: log cipher chain rest

/-- Every delivery of a message that is not yet `done`, and that no earlier delivery opened,
yields its plaintext. -/
def Tolerant {ι : Type} (plain : ι → Plain) (done : ι → Prop) (entries : List (ι × Option Plain)) :
    Prop :=
  ∀ before i result after, entries = before ++ (i, result) :: after → ¬ done i →
    (∀ entry ∈ before, entry.1 = i → entry.2 = none) → result = some (plain i)

/-- No message is delivered before all its predecessors are `done` or were delivered. -/
def InOrder {n : Nat} (done : Fin n → Prop) (schedule : List (Fin n)) : Prop :=
  ∀ before i after, schedule = before ++ i :: after → ∀ j < i, done j ∨ j ∈ before

/-- A message of the batch opens only under the chain it was sealed with. -/
def Rejects {n : Nat} (cipher : Fin n → Cipher) (start : Chain) : Prop :=
  ∀ position ≤ n, ∀ i : Fin n, position ≠ i → S.open? (S.next^[position] start) (cipher i) = none

theorem tolerant_cons {ι : Type} (plain : ι → Plain) (done : ι → Prop) (i : ι)
    (result : Option Plain) (entries : List (ι × Option Plain)) :
    Tolerant plain done ((i, result) :: entries) ↔
      (¬ done i → result = some (plain i)) ∧
        Tolerant plain (fun j => done j ∨ (j = i ∧ result ≠ none)) entries := by
  constructor
  · intro h
    refine ⟨fun hDone => h [] i result entries rfl hDone (by simp), ?_⟩
    rintro before j other after rfl hDone hBefore
    obtain ⟨hNotDone, hOpened⟩ := not_or.mp hDone
    apply h ((i, result) :: before) j other after rfl hNotDone
    intro entry hEntry hIndex
    rcases List.mem_cons.mp hEntry with rfl | hEntry
    · by_contra hResult
      exact hOpened ⟨hIndex.symm, hResult⟩
    · exact hBefore entry hEntry hIndex
  · rintro ⟨hHead, hTail⟩ before j other after hSplit hDone hBefore
    cases before with
    | nil =>
      obtain ⟨hEntry, rfl⟩ := List.cons.inj hSplit
      obtain ⟨rfl, rfl⟩ := Prod.mk.inj hEntry
      exact hHead hDone
    | cons entry before =>
      obtain ⟨rfl, rfl⟩ := List.cons.inj hSplit
      refine hTail before j other after rfl ?_ fun e he => hBefore e (List.mem_cons_of_mem _ he)
      rintro (hDone' | ⟨rfl, hResult⟩)
      · exact hDone hDone'
      · exact hResult (hBefore _ List.mem_cons_self rfl)

theorem inOrder_cons {n : Nat} (done : Fin n → Prop) (i : Fin n) (schedule : List (Fin n)) :
    InOrder done (i :: schedule) ↔
      (∀ j < i, done j) ∧ InOrder (fun j => done j ∨ j = i) schedule := by
  constructor
  · intro h
    refine ⟨fun j hj => by simpa using h [] i schedule rfl j hj, ?_⟩
    rintro before k after rfl j hj
    simpa [or_assoc] using h (i :: before) k after rfl j hj
  · rintro ⟨hHead, hTail⟩ before k after hSplit j hj
    cases before with
    | nil =>
      obtain ⟨rfl, rfl⟩ := List.cons.inj hSplit
      exact Or.inl (hHead j hj)
    | cons first before =>
      obtain ⟨rfl, rfl⟩ := List.cons.inj hSplit
      simpa [or_assoc] using hTail before k after rfl j hj

/-- A receiver without skipped-message keys tolerates exactly the schedules in sending order:
the induction carries how many messages, a prefix of the batch, have been opened. -/
theorem tolerant_log_iff {n : Nat} (cipher : Fin n → Cipher) (plain : Fin n → Plain)
    (start : Chain) (hSealed : ∀ i : Fin n, S.Seals (S.next^[i] start) (plain i) (cipher i))
    (hRejects : Rejects S cipher start) (opened : Nat) (hOpened : opened ≤ n)
    (schedule : List (Fin n)) :
    Tolerant plain (fun i => i < opened) (log S cipher (S.next^[opened] start) schedule) ↔
      InOrder (fun i => i < opened) schedule := by
  induction schedule generalizing opened with
  | nil => simp [log, Tolerant, InOrder]
  | cons i schedule ih =>
    rw [inOrder_cons]
    rcases Nat.lt_trichotomy i opened with hLess | hEqual | hGreater
    · have hRejected := hRejects opened hOpened i (by omega)
      have hDone : (fun j : Fin n => (j : Nat) < opened ∨ j = i) = fun j : Fin n => (j : Nat) < opened := by
        funext j
        simp only [eq_iff_iff, or_iff_left_iff_imp]
        rintro rfl
        exact hLess
      simp only [log, hRejected, tolerant_cons, ne_eq, not_true_eq_false, and_false, or_false,
        hDone, ih opened hOpened]
      apply and_congr_left
      intro _
      simp only [hLess, not_true_eq_false, false_implies, true_iff]
      intro j hj
      exact Nat.lt_trans hj hLess
    · have hOpens := S.opens _ _ _ (hSealed i)
      rw [hEqual] at hOpens
      have hDone : (fun j : Fin n => (j : Nat) < opened ∨ j = i) =
          fun j : Fin n => (j : Nat) < opened + 1 := by
        funext j
        simp only [eq_iff_iff, Fin.ext_iff]
        omega
      have hNext : S.next (S.next^[opened] start) = S.next^[opened + 1] start :=
        (Function.iterate_succ_apply' S.next opened start).symm
      simp only [log, hOpens, tolerant_cons, ne_eq, reduceCtorEq, not_false_eq_true, and_true,
        hDone, hNext, ih (opened + 1) (by omega), implies_true, true_and, iff_and_self]
      intro _ j hj
      have hLess : (j : Nat) < i := hj
      omega
    · have hRejected := hRejects opened hOpened i (by omega)
      simp only [log, hRejected, tolerant_cons, reduceCtorEq, imp_false, not_not]
      constructor
      · rintro ⟨hLess, _⟩
        omega
      · rintro ⟨hAll, _⟩
        have hBefore : opened < i := hGreater
        exact absurd (hAll ⟨opened, by omega⟩ hBefore) (Nat.lt_irrefl opened)

/-! ## What a receiver accepts -/

section
variable {Chain Plain Cipher : Type} (next : Chain → Chain) (open? : Chain → Cipher → Option Plain)

/-- The ciphertexts that open, of those that arrive at a receiver with the chain. -/
def accepted : Chain → List Cipher → List Cipher
  | _, [] => []
  | chain, cipher :: rest =>
    match open? chain cipher with
    | none => accepted chain rest
    | some _ => cipher :: accepted (next chain) rest

variable {next open?}

theorem accepted_opens {chain : Chain} {ciphers : List Cipher} {cipher : Cipher}
    (h : cipher ∈ accepted next open? chain ciphers) :
    ∃ i < ciphers.length, (open? (next^[i] chain) cipher).isSome = true := by
  induction ciphers generalizing chain with
  | nil => cases h
  | cons first rest ih =>
    cases hOpened : open? chain first with
    | none =>
      rw [accepted, hOpened] at h
      obtain ⟨i, hi, hOpens⟩ := ih h
      exact ⟨i, Nat.lt_succ_of_lt hi, hOpens⟩
    | some plain =>
      rw [accepted, hOpened] at h
      rcases List.mem_cons.mp h with rfl | hRest
      · exact ⟨0, Nat.zero_lt_succ _, by rw [Function.iterate_zero_apply, hOpened]; rfl⟩
      · obtain ⟨i, hi, hOpens⟩ := ih hRest
        exact ⟨i + 1, Nat.succ_lt_succ hi, by rwa [Function.iterate_succ_apply]⟩

/-- Nothing is accepted twice where nothing opens under two of the chains. -/
theorem accepted_nodup {chain : Chain} {ciphers : List Cipher}
    (hOnce : ∀ i j, i < j → j < ciphers.length → ∀ cipher, (open? (next^[i] chain) cipher).isSome = true →
      open? (next^[j] chain) cipher = none) : (accepted next open? chain ciphers).Nodup := by
  induction ciphers generalizing chain with
  | nil => exact List.nodup_nil
  | cons first rest ih =>
    cases hOpened : open? chain first with
    | none =>
      rw [accepted, hOpened]
      exact ih fun i j hij hj => hOnce i j hij (Nat.lt_succ_of_lt hj)
    | some plain =>
      rw [accepted, hOpened]
      refine List.nodup_cons.mpr ⟨fun hTwice => ?_, ih fun i j hij hj cipher hOpens => ?_⟩
      · obtain ⟨i, hi, hOpens⟩ := accepted_opens hTwice
        have hNone := hOnce 0 (i + 1) (Nat.zero_lt_succ _) (Nat.succ_lt_succ hi) first
          (by rw [Function.iterate_zero_apply, hOpened]; rfl)
        rw [Function.iterate_succ_apply] at hNone
        rw [hNone] at hOpens
        cases hOpens
      · exact hOnce (i + 1) (j + 1) (Nat.succ_lt_succ hij) (Nat.succ_lt_succ hj) cipher hOpens

end

end SymmetricRatchet
