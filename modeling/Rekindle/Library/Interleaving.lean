import Mathlib.Data.List.Perm.Basic
import Rekindle.Library.Fallible

/-! # Tasks that take turns

Tasks work on a shared state in sections that nothing interrupts, and any task may have the next
turn. `advance` runs the next section of a task, which then goes on or ends with an answer.
-/
namespace Interleaving
set_option autoImplicit false
open Fallible

variable {ε σ ρ τ α : Type}

section
variable (advance : τ → EStateM ε σ (τ ⊕ α))

/-- What a task comes to when no other task has a turn before it ends. -/
inductive Alone : τ → σ → EStateM.Result ε σ α → Prop
  | failed {task : τ} {s t : σ} {e : ε} (hRun : (advance task).run s = .error e t) :
      Alone task s (.error e t)
  | ended {task : τ} {s t : σ} {a : α} (hRun : (advance task).run s = .ok (.inr a) t) :
      Alone task s (.ok a t)
  | going {task rest : τ} {s t : σ} {result : EStateM.Result ε σ α}
      (hRun : (advance task).run s = .ok (.inl rest) t) (hRest : Alone rest t result) :
      Alone task s result

/-- Alone, the task does what the computation does in one go. -/
def Implements (task : τ) (x : EStateM ε σ α) : Prop := ∀ s, Alone advance task s (x.run s)

variable {advance}

/-- Cuts the first section off a computation. -/
theorem Implements.of_section {β : Type} {task : τ} {x : EStateM ε σ β} {route : β → τ ⊕ α}
    {f : β → EStateM ε σ α} (hSection : advance task = x >>= fun b => pure (route b))
    (hRest : ∀ b, (∃ rest, route b = .inl rest ∧ Implements advance rest (f b)) ∨
      ∃ a, route b = .inr a ∧ f b = pure a) :
    Implements advance task (x >>= f) := by
  intro s
  cases hRun : x.run s with
  | error e t =>
    rw [run_bind_of_error f hRun]
    exact .failed (by rw [hSection, run_bind_of_error _ hRun])
  | ok b t =>
    have hTurn : (advance task).run s = .ok (route b) t := by
      rw [hSection, run_bind_of_ok _ hRun]
      rfl
    rw [run_bind_of_ok f hRun]
    rcases hRest b with ⟨rest, hRoute, hImplements⟩ | ⟨a, hRoute, hPure⟩
    · rw [hRoute] at hTurn
      exact .going hTurn (hImplements t)
    · rw [hRoute] at hTurn
      rw [hPure]
      exact .ended hTurn

theorem Implements.of_going {β : Type} {task : τ} {x : EStateM ε σ β} {next : β → τ}
    {f : β → EStateM ε σ α} (hSection : advance task = x >>= fun b => pure (.inl (next b)))
    (hRest : ∀ b, Implements advance (next b) (f b)) : Implements advance task (x >>= f) := by
  refine .of_section hSection fun b => .inl ?_
  exact ⟨next b, rfl, hRest b⟩

/-- The rest is needed only for what the first section may return. -/
theorem Implements.of_reached {task : τ} {x : EStateM ε σ τ} {f : τ → EStateM ε σ α}
    (hSection : advance task = x >>= fun rest => pure (.inl rest))
    (hRest : ∀ s rest t, x.run s = .ok rest t → Implements advance rest (f rest)) :
    Implements advance task (x >>= f) := by
  intro s
  cases hRun : x.run s with
  | error e t =>
    rw [run_bind_of_error f hRun]
    exact .failed (by rw [hSection, run_bind_of_error _ hRun])
  | ok rest t =>
    rw [run_bind_of_ok f hRun]
    refine .going ?_ (hRest s rest t hRun t)
    rw [hSection, run_bind_of_ok _ hRun]
    rfl

theorem Implements.of_last {task : τ} {x : EStateM ε σ α}
    (hSection : advance task = x >>= fun a => pure (.inr a)) : Implements advance task x := by
  have h : Implements advance task (x >>= pure) :=
    .of_section hSection fun a => .inr ⟨a, rfl, rfl⟩
  rwa [bind_pure] at h

end

/-! ## Pools -/

/-- Running tasks and the state they share. -/
structure Pool (σ τ : Type) where
  shared : σ
  running : List τ

/-- A request comes in, or the task at an index runs its next section. -/
inductive Turn (ρ : Type) where
  | start (request : ρ)
  | advance (index : Nat)

variable (start : ρ → τ) (advance : τ → EStateM ε σ (τ ⊕ α))

/-- The tasks after the one at the index has had its turn. -/
def settle (running : List τ) (index : Nat) : EStateM.Result ε σ (τ ⊕ α) → List τ
  | .ok (.inl rest) _ => running.set index rest
  | .ok (.inr _) _ => running.eraseIdx index
  | .error _ _ => running.eraseIdx index

def take (pool : Pool σ τ) : Turn ρ → Pool σ τ
  | .start request => { pool with running := pool.running ++ [start request] }
  | .advance index =>
    match pool.running[index]? with
    | none => pool
    | some task =>
      let result := (advance task).run pool.shared
      { shared := Result.state result, running := settle pool.running index result }

/-- The task whose section a turn runs. -/
def turnOf (pool : Pool σ τ) : Turn ρ → Option τ
  | .start _ => none
  | .advance index => pool.running[index]?

/-- The task goes on as `rest`. -/
def GoesOn (result : EStateM.Result ε σ (τ ⊕ α)) (rest : τ) : Prop := ∃ s, result = .ok (.inl rest) s

def goesOn? : EStateM.Result ε σ (τ ⊕ α) → Option τ
  | .ok (.inl rest) _ => some rest
  | _ => none

theorem goesOn?_eq_some_iff {result : EStateM.Result ε σ (τ ⊕ α)} {rest : τ} :
    goesOn? result = some rest ↔ GoesOn result rest := by
  constructor
  · intro h
    match result with
    | .ok (.inl other) s =>
      cases h
      exact ⟨s, rfl⟩
    | .ok (.inr _) _ | .error _ _ => cases h
  · rintro ⟨s, rfl⟩
    rfl

variable {start advance} {pool : Pool σ τ} {turn : Turn ρ}

theorem shared_of_turn {task : τ} (hTurn : turnOf pool turn = some task) :
    (take start advance pool turn).shared = Result.state ((advance task).run pool.shared) := by
  cases turn with
  | start request => cases hTurn
  | advance index =>
    change pool.running[index]? = some task at hTurn
    simp only [take, hTurn]

theorem shared_of_no_turn (hTurn : turnOf pool turn = none) :
    (take start advance pool turn).shared = pool.shared := by
  cases turn with
  | start request => rfl
  | advance index =>
    change pool.running[index]? = none at hTurn
    simp only [take, hTurn]

theorem mem_of_turn {task : τ} (hTurn : turnOf pool turn = some task) : task ∈ pool.running := by
  cases turn with
  | start request => cases hTurn
  | advance index => exact List.mem_of_getElem? hTurn

theorem mem_settle {running : List τ} {index : Nat} {result : EStateM.Result ε σ (τ ⊕ α)} {task : τ}
    (h : task ∈ settle running index result) : task ∈ running ∨ GoesOn result task := by
  cases result with
  | error e s => exact .inl (List.mem_of_mem_eraseIdx h)
  | ok answer s =>
    cases answer with
    | inr a => exact .inl (List.mem_of_mem_eraseIdx h)
    | inl rest =>
      rcases List.mem_or_eq_of_mem_set h with hOld | rfl
      · exact .inl hOld
      · exact .inr ⟨s, rfl⟩

/-- Where a task of the pool after a turn comes from. -/
theorem mem_take {task : τ} (h : task ∈ (take start advance pool turn).running) :
    task ∈ pool.running ∨ (∃ request, task = start request) ∨
      ∃ former, turnOf pool turn = some former ∧ GoesOn ((advance former).run pool.shared) task := by
  cases turn with
  | start request =>
    rcases List.mem_append.mp h with hOld | hNew
    · exact .inl hOld
    · exact .inr (.inl ⟨request, List.mem_singleton.mp hNew⟩)
  | advance index =>
    cases hTask : pool.running[index]? with
    | none =>
      simp only [take, hTask] at h
      exact .inl h
    | some former =>
      simp only [take, hTask] at h
      exact (mem_settle h).imp id fun hNext => .inr ⟨former, hTask, hNext⟩

theorem mem_settle_of_ne {running : List τ} {index : Nat} {result : EStateM.Result ε σ (τ ⊕ α)}
    {task former : τ} (hFormer : running[index]? = some former) (hTask : task ∈ running)
    (hOther : task ≠ former) : task ∈ settle running index result := by
  obtain ⟨position, hPosition⟩ := List.mem_iff_getElem?.mp hTask
  have hApart : index ≠ position := by
    rintro rfl
    exact hOther (Option.some.inj (hPosition.symm.trans hFormer))
  have hErased : task ∈ running.eraseIdx index :=
    List.mem_eraseIdx_iff_getElem?.mpr ⟨position, hApart.symm, hPosition⟩
  cases result with
  | error e s => exact hErased
  | ok answer s =>
    cases answer with
    | inr a => exact hErased
    | inl rest =>
      refine List.mem_iff_getElem?.mpr ⟨position, ?_⟩
      rw [settle, List.getElem?_set_ne hApart, hPosition]

/-- A task that does not have the turn goes on running. -/
theorem mem_take_of_mem {task : τ} (hTask : task ∈ pool.running) (hOther : turnOf pool turn ≠ some task) :
    task ∈ (take start advance pool turn).running := by
  cases turn with
  | start request => exact List.mem_append_left _ hTask
  | advance index =>
    cases hFormer : pool.running[index]? with
    | none => simpa only [take, hFormer] using hTask
    | some former =>
      simp only [take, hFormer]
      refine mem_settle_of_ne hFormer hTask fun hSame => hOther ?_
      rw [hSame]
      exact hFormer

theorem mem_take_of_goesOn {former rest : τ} (hTurn : turnOf pool turn = some former)
    (hNext : GoesOn ((advance former).run pool.shared) rest) :
    rest ∈ (take start advance pool turn).running := by
  cases turn with
  | start request => cases hTurn
  | advance index =>
    obtain ⟨s, hRun⟩ := hNext
    change pool.running[index]? = some former at hTurn
    simp only [take, hTurn, hRun, settle]
    exact List.mem_set (List.getElem?_eq_some_iff.mp hTurn).1 rest

/-- The task of a turn makes way for what it goes on as; nobody else is touched. -/
theorem perm_of_turn {task : τ} (hTurn : turnOf pool turn = some task) :
    ∃ others, pool.running.Perm (task :: others) ∧
      (take start advance pool turn).running.Perm
        ((goesOn? ((advance task).run pool.shared)).toList ++ others) := by
  cases turn with
  | start request => cases hTurn
  | advance index =>
    change pool.running[index]? = some task at hTurn
    obtain ⟨hIndex, hTask⟩ := List.getElem?_eq_some_iff.mp hTurn
    refine ⟨pool.running.eraseIdx index, ?_, ?_⟩
    · rw [← hTask]
      exact (List.getElem_cons_eraseIdx_perm hIndex).symm
    · simp only [take, hTurn]
      cases (advance task).run pool.shared with
      | error e s => exact .refl _
      | ok answer s =>
        cases answer with
        | inr a => exact .refl _
        | inl rest => exact List.set_perm_cons_eraseIdx hIndex rest

end Interleaving
