import Mathlib.Order.Defs.Unbundled

/-! # Stateful computations that may stop early

An early stop keeps the state it was reached in, as a returned error does in a language with
mutable stores. `Keeps R` says how the state may move on every path, stopped or not.
-/
namespace Fallible
set_option autoImplicit false

variable {ε σ α β : Type}

/-- An early return of `e`. -/
def refuseIf (bad : Prop) [Decidable bad] (e : ε) : Except ε Unit := if bad then .error e else .ok ()

theorem refuseIf_eq_ok_iff {bad : Prop} [Decidable bad] {e : ε} :
    refuseIf bad e = .ok () ↔ ¬bad := by
  unfold refuseIf
  split <;> simp_all

/-- What an optional value holds, or `e`. -/
def orThrow (value : Option α) (e : ε) : Except ε α := value.elim (.error e) .ok

theorem orThrow_eq_ok_iff {value : Option α} {e : ε} {a : α} :
    orThrow value e = .ok a ↔ value = some a := by
  cases value <;> simp [orThrow]

theorem bind_eq_ok_iff {x : Except ε α} {f : α → Except ε β} {b : β} :
    x >>= f = .ok b ↔ ∃ a, x = .ok a ∧ f a = .ok b := by
  cases x with
  | ok a => simp [bind, Except.bind]
  | error e => simp [bind, Except.bind]

theorem run_bind_of_ok {x : EStateM ε σ α} (f : α → EStateM ε σ β) {s t : σ} {a : α}
    (h : x.run s = .ok a t) : (x >>= f).run s = (f a).run t := by
  rw [EStateM.run_bind, h]

theorem run_bind_of_error {x : EStateM ε σ α} (f : α → EStateM ε σ β) {s t : σ} {e : ε}
    (h : x.run s = .error e t) : (x >>= f).run s = .error e t := by
  rw [EStateM.run_bind, h]

theorem run_bind_eq_ok_iff {x : EStateM ε σ α} {f : α → EStateM ε σ β} {s t : σ} {b : β} :
    (x >>= f).run s = .ok b t ↔ ∃ a u, x.run s = .ok a u ∧ (f a).run u = .ok b t := by
  constructor
  · intro h
    cases hRun : x.run s with
    | ok a u =>
      rw [run_bind_of_ok f hRun] at h
      exact ⟨a, u, rfl, h⟩
    | error e u =>
      rw [run_bind_of_error f hRun] at h
      cases h
  · rintro ⟨a, u, hRun, h⟩
    rwa [run_bind_of_ok f hRun]

@[simp] theorem run_throw (e : ε) (s : σ) : (throw e : EStateM ε σ α).run s = .error e s := rfl

@[simp] theorem ofExcept_ok_bind (a : α) (f : α → EStateM ε σ β) : (ofExcept (.ok a) >>= f) = f a := rfl

@[simp] theorem run_ofExcept_ok (a : α) (s : σ) :
    (ofExcept (.ok a) : EStateM ε σ α).run s = .ok a s := rfl

@[simp] theorem run_ofExcept_error (e : ε) (s : σ) :
    (ofExcept (.error e) : EStateM ε σ α).run s = .error e s := rfl

theorem run_ofExcept_eq_ok {r : Except ε α} {a : α} {s t : σ} (h : (ofExcept r : EStateM ε σ α).run s = .ok a t) :
    r = .ok a ∧ t = s := by
  cases r with
  | ok b =>
    cases h
    exact ⟨rfl, rfl⟩
  | error e => cases h

/-- A fallible step is over at once or goes on. -/
theorem run_bind_ofExcept_cases {P : EStateM.Result ε σ β → Prop} {r : Except ε α} {f : α → EStateM ε σ β} {s : σ}
    (hError : ∀ e, r = .error e → P (.error e s)) (hOk : ∀ a, r = .ok a → P ((f a).run s)) :
    P ((ofExcept r >>= f).run s) := by
  cases hResult : r with
  | ok a => exact hOk a hResult
  | error e => exact hError e hResult

def Result.state : EStateM.Result ε σ α → σ
  | .ok _ s => s
  | .error _ s => s

@[simp] theorem Result.state_ok (a : α) (s : σ) :
    Result.state (.ok a s : EStateM.Result ε σ α) = s := rfl

@[simp] theorem Result.state_error (e : ε) (s : σ) :
    Result.state (.error e s : EStateM.Result ε σ α) = s := rfl

theorem state_bind_pure (x : EStateM ε σ α) (f : α → β) (s : σ) :
    Result.state ((x >>= fun a => pure (f a)).run s) = Result.state (x.run s) := by
  cases hRun : x.run s with
  | ok a t => rw [run_bind_of_ok _ hRun]; rfl
  | error e t => rw [run_bind_of_error _ hRun]; rfl

theorem state_bind_ofExcept (x : EStateM ε σ α) (f : α → Except ε β) (s : σ) :
    Result.state ((x >>= fun a => ofExcept (f a)).run s) = Result.state (x.run s) := by
  cases hRun : x.run s with
  | error e t => rw [run_bind_of_error _ hRun]; rfl
  | ok a t =>
    rw [run_bind_of_ok _ hRun]
    cases f a <;> rfl

/-- What the computation returned, if it did. -/
def Result.value? : EStateM.Result ε σ α → Option α
  | .ok a _ => some a
  | .error _ _ => none

@[simp] theorem Result.value?_ok (a : α) (s : σ) :
    Result.value? (.ok a s : EStateM.Result ε σ α) = some a := rfl

@[simp] theorem Result.value?_error (e : ε) (s : σ) :
    Result.value? (.error e s : EStateM.Result ε σ α) = none := rfl

theorem eq_ok_of_value? {result : EStateM.Result ε σ α} {a : α} (h : Result.value? result = some a) :
    result = .ok a (Result.state result) := by
  cases result with
  | ok b s =>
    cases h
    rfl
  | error e s => cases h

/-- Every path of the computation moves the state along `R`. -/
def Keeps (R : σ → σ → Prop) (x : EStateM ε σ α) : Prop := ∀ s, R s (Result.state (x.run s))

variable {R : σ → σ → Prop}

theorem keeps_pure [Std.Refl R] (a : α) : Keeps R (pure a : EStateM ε σ α) :=
  fun s => refl_of R s

theorem keeps_throw [Std.Refl R] (e : ε) : Keeps R (throw e : EStateM ε σ α) :=
  fun s => refl_of R s

theorem keeps_ofExcept [Std.Refl R] (r : Except ε α) : Keeps R (ofExcept r : EStateM ε σ α) := by
  intro s
  cases r <;> exact refl_of R s

theorem keeps_get [Std.Refl R] : Keeps R (get : EStateM ε σ σ) := fun s => refl_of R s

theorem keeps_modify {f : σ → σ} (h : ∀ s, R s (f s)) : Keeps R (modify f : EStateM ε σ PUnit) := h

theorem Keeps.bind [IsTrans σ R] {x : EStateM ε σ α} {f : α → EStateM ε σ β}
    (hFirst : Keeps R x) (hRest : ∀ a, Keeps R (f a)) : Keeps R (x >>= f) := by
  intro s
  have hStep := hFirst s
  cases hRun : x.run s with
  | ok a u =>
    rw [run_bind_of_ok f hRun]
    rw [hRun] at hStep
    exact trans_of R hStep (hRest a u)
  | error e u =>
    rw [run_bind_of_error f hRun]
    rwa [hRun] at hStep

theorem keeps_option_forM [Std.Refl R] (value : Option α) {f : α → EStateM ε σ PUnit}
    (h : ∀ a, Keeps R (f a)) : Keeps R (value.forM f) := by
  cases value with
  | none => exact keeps_pure _
  | some a => exact h a

theorem keeps_list_forM [Std.Refl R] [IsTrans σ R] (values : List α) {f : α → EStateM ε σ PUnit}
    (h : ∀ a, Keeps R (f a)) : Keeps R (values.forM f) := by
  induction values with
  | nil => exact keeps_pure _
  | cons a rest ih => exact (h a).bind fun _ => ih

/-- Every path of the computation from `s` ends in a state with `Q`. -/
def Ends (Q : σ → Prop) (x : EStateM ε σ α) (s : σ) : Prop := Q (Result.state (x.run s))

variable {Q : σ → Prop} {s : σ}

theorem Ends.bind_ofExcept {r : Except ε α} {f : α → EStateM ε σ β} (hError : Q s)
    (hOk : ∀ a, r = .ok a → Ends Q (f a) s) : Ends Q (ofExcept r >>= f) s := by
  cases r with
  | ok a => exact hOk a rfl
  | error e => exact hError

theorem Ends.bind_of_ok {x : EStateM ε σ α} {f : α → EStateM ε σ β} {a : α} {t : σ}
    (hRun : x.run s = .ok a t) (hRest : Ends Q (f a) t) : Ends Q (x >>= f) s := by
  unfold Ends
  rw [run_bind_of_ok f hRun]
  exact hRest

theorem Ends.bind_of_keeps {x : EStateM ε σ α} {f : α → EStateM ε σ β} (hFirst : Keeps R x)
    (hError : ∀ t, R s t → Q t) (hRest : ∀ a t, R s t → Ends Q (f a) t) : Ends Q (x >>= f) s := by
  have hStep := hFirst s
  unfold Ends
  cases hRun : x.run s with
  | ok a t =>
    rw [run_bind_of_ok f hRun]
    rw [hRun] at hStep
    exact hRest a t hStep
  | error e t =>
    rw [run_bind_of_error f hRun]
    rw [hRun] at hStep
    exact hError t hStep

theorem Ends.of_keeps {x : EStateM ε σ α} (h : Keeps R x) (hQ : ∀ t, R s t → Q t) : Ends Q x s :=
  hQ _ (h s)

/-- The computation from `s`, when it returns, returns a value and a state with `P`. -/
def Returns (P : α → σ → Prop) (x : EStateM ε σ α) (s : σ) : Prop :=
  ∀ a t, x.run s = .ok a t → P a t

theorem returns_pure {P : α → σ → Prop} {a : α} (h : P a s) :
    Returns P (pure a : EStateM ε σ α) s := by
  rintro _ _ ⟨⟩
  exact h

theorem Returns.bind {P : α → σ → Prop} {P' : β → σ → Prop} {x : EStateM ε σ α}
    {f : α → EStateM ε σ β} (hFirst : Returns P x s) (hRest : ∀ a t, P a t → Returns P' (f a) t) :
    Returns P' (x >>= f) s := by
  intro b u hRun
  obtain ⟨a, t, hX, hF⟩ := run_bind_eq_ok_iff.mp hRun
  exact hRest a t (hFirst a t hX) b u hF

theorem Returns.bind_ofExcept {P : β → σ → Prop} {r : Except ε α} {f : α → EStateM ε σ β}
    (hOk : ∀ a, r = .ok a → Returns P (f a) s) : Returns P (ofExcept r >>= f) s := by
  cases r with
  | ok a => exact hOk a rfl
  | error e =>
    intro b t hRun
    cases hRun

theorem returns_of_keeps {x : EStateM ε σ α} (h : Keeps R x) : Returns (fun _ t => R s t) x s := by
  intro a t hRun
  have hStep := h s
  rwa [hRun] at hStep

/-- As `Ends.bind_of_keeps`, when what the first part returns is known too. -/
theorem Ends.bind_of_returns {P : α → σ → Prop} {x : EStateM ε σ α} {f : α → EStateM ε σ β} (hFirst : Keeps R x)
    (hReturns : Returns P x s) (hError : ∀ t, R s t → Q t) (hRest : ∀ a t, R s t → P a t → Ends Q (f a) t) :
    Ends Q (x >>= f) s := by
  have hStep := hFirst s
  unfold Ends
  cases hRun : x.run s with
  | ok a t =>
    rw [run_bind_of_ok f hRun]
    rw [hRun] at hStep
    exact hRest a t hStep (hReturns a t hRun)
  | error e t =>
    rw [run_bind_of_error f hRun]
    rw [hRun] at hStep
    exact hError t hStep

theorem Ends.mono {P : σ → Prop} {x : EStateM ε σ α} (hPQ : ∀ t, P t → Q t) (h : Ends P x s) :
    Ends Q x s := hPQ _ h

/-- The computation from `s` returns a value and a state with `P`, or stops with an error and a
state with `E`. -/
def Settles (P : α → σ → Prop) (E : ε → σ → Prop) (x : EStateM ε σ α) (s : σ) : Prop :=
  match x.run s with
  | .ok a t => P a t
  | .error e t => E e t

section Settles

variable {P : α → σ → Prop} {E : ε → σ → Prop}

theorem settles_pure {a : α} (h : P a s) : Settles P E (pure a) s := h

theorem settles_throw {e : ε} (h : E e s) : Settles P E (throw e) s := h

theorem settles_set {P : PUnit → σ → Prop} {t : σ} (h : P ⟨⟩ t) : Settles P E (set t) s := h

theorem settles_ofExcept {r : Except ε α} (hOk : ∀ a, r = .ok a → P a s)
    (hError : ∀ e, r = .error e → E e s) : Settles P E (ofExcept r) s := by
  cases r with
  | ok a => exact hOk a rfl
  | error e => exact hError e rfl

theorem Settles.bind {P' : β → σ → Prop} {E' : ε → σ → Prop} {x : EStateM ε σ α}
    {f : α → EStateM ε σ β} (hFirst : Settles P E x s) (hRest : ∀ a t, P a t → Settles P' E' (f a) t)
    (hError : ∀ e t, E e t → E' e t) : Settles P' E' (x >>= f) s := by
  unfold Settles at hFirst ⊢
  cases hRun : x.run s with
  | ok a t =>
    rw [hRun] at hFirst
    rw [run_bind_of_ok f hRun]
    exact hRest a t hFirst
  | error e t =>
    rw [hRun] at hFirst
    rw [run_bind_of_error f hRun]
    exact hError e t hFirst

theorem Settles.bind_get {P' : β → σ → Prop} {E' : ε → σ → Prop} {f : σ → EStateM ε σ β}
    (hRest : Settles P' E' (f s) s) : Settles P' E' (get >>= f) s := hRest

theorem Settles.mono {P' : α → σ → Prop} {E' : ε → σ → Prop} {x : EStateM ε σ α}
    (h : Settles P E x s) (hOk : ∀ a t, P a t → P' a t) (hError : ∀ e t, E e t → E' e t) :
    Settles P' E' x s := by
  unfold Settles at h ⊢
  cases hRun : x.run s with
  | ok a t =>
    rw [hRun] at h
    exact hOk a t h
  | error e t =>
    rw [hRun] at h
    exact hError e t h

theorem Settles.of_ok {x : EStateM ε σ α} {a : α} {t : σ} (h : Settles P E x s) (hRun : x.run s = .ok a t) : P a t := by
  rwa [Settles, hRun] at h

/-- How the computation came out. -/
theorem Settles.cases {x : EStateM ε σ α} (h : Settles P E x s) :
    (∃ a t, x.run s = .ok a t ∧ P a t) ∨ ∃ e t, x.run s = .error e t ∧ E e t := by
  unfold Settles at h
  cases hRun : x.run s with
  | ok a t =>
    rw [hRun] at h
    exact .inl ⟨a, t, rfl, h⟩
  | error e t =>
    rw [hRun] at h
    exact .inr ⟨e, t, rfl, h⟩

end Settles

/-! ## Computations that always return -/

def Total (x : EStateM ε σ α) : Prop := ∀ s, ∃ a t, x.run s = .ok a t

theorem total_pure (a : α) : Total (pure a : EStateM ε σ α) := fun s => ⟨a, s, rfl⟩

theorem total_get : Total (get : EStateM ε σ σ) := fun s => ⟨s, s, rfl⟩

theorem total_modify (f : σ → σ) : Total (modify f : EStateM ε σ PUnit) := fun s => ⟨⟨⟩, f s, rfl⟩

theorem Total.bind {x : EStateM ε σ α} {f : α → EStateM ε σ β} (hFirst : Total x)
    (hRest : ∀ a, Total (f a)) : Total (x >>= f) := by
  intro s
  obtain ⟨a, t, hRun⟩ := hFirst s
  obtain ⟨b, u, hNext⟩ := hRest a t
  exact ⟨b, u, by rw [run_bind_of_ok f hRun, hNext]⟩

theorem total_option_forM (value : Option α) {f : α → EStateM ε σ PUnit} (h : ∀ a, Total (f a)) :
    Total (value.forM f) := by
  cases value with
  | none => exact total_pure _
  | some a => exact h a

theorem total_list_forM (values : List α) {f : α → EStateM ε σ PUnit} (h : ∀ a, Total (f a)) :
    Total (values.forM f) := by
  induction values with
  | nil => exact total_pure _
  | cons a rest ih => exact (h a).bind fun _ => ih

end Fallible
