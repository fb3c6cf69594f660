import Mathlib.Logic.Basic

/-! # Properties of every step of a run

A machine is a total step function; a run is the list of actions it is given. A condition on
steps and an invariant of states are carried along a run by the same induction, stated once.
-/
namespace Runs
set_option autoImplicit false

variable {State Action : Type} (step : State → Action → State)

/-- `Q` holds of every action of the run, in the state the action is taken in. -/
def Along (Q : State → Action → Prop) : State → List Action → Prop
  | _, [] => True
  | state, action :: rest => Q state action ∧ Along Q (step state action) rest

def final (state : State) (actions : List Action) : State := actions.foldl step state

@[simp] theorem final_nil (state : State) : final step state [] = state := rfl

@[simp] theorem final_cons (state : State) (action : Action) (actions : List Action) :
    final step state (action :: actions) = final step (step state action) actions := rfl

theorem final_append (state : State) (first second : List Action) :
    final step state (first ++ second) = final step (final step state first) second :=
  List.foldl_append

variable {step}

instance decidableAlong {Q : State → Action → Prop} [hQ : ∀ state action, Decidable (Q state action)] :
    ∀ state actions, Decidable (Along step Q state actions)
  | _, [] => .isTrue trivial
  | state, action :: rest =>
    @instDecidableAnd _ _ (hQ state action) (decidableAlong (step state action) rest)

theorem Along.of_forall {Q : State → Action → Prop} (h : ∀ state action, Q state action)
    (state : State) (actions : List Action) : Along step Q state actions := by
  induction actions generalizing state with
  | nil => trivial
  | cons action rest ih => exact ⟨h state action, ih _⟩

theorem Along.congr {P Q : State → Action → Prop} (h : ∀ state action, P state action ↔ Q state action)
    (state : State) (actions : List Action) : Along step P state actions ↔ Along step Q state actions := by
  induction actions generalizing state with
  | nil => exact Iff.rfl
  | cons action rest ih => exact and_congr (h state action) (ih _)

/-- As `Along.congr`, for the states of an invariant that the actions of the run keep. -/
theorem Along.congr_of_invariant {P Q : State → Action → Prop} (Inv : State → Prop) {actions : List Action}
    (hStep : ∀ state, ∀ action ∈ actions, Inv state → Inv (step state action) ∧ (P state action ↔ Q state action))
    {state : State} (hInv : Inv state) : Along step P state actions ↔ Along step Q state actions := by
  induction actions generalizing state with
  | nil => exact Iff.rfl
  | cons action rest ih =>
    obtain ⟨hNext, hSame⟩ := hStep state action List.mem_cons_self hInv
    exact and_congr hSame (ih (fun other next hNextMem => hStep other next (List.mem_cons_of_mem _ hNextMem)) hNext)

/-- As `Along.congr`, for the states of an invariant that steps with `P` keep. -/
theorem Along.congr_of_kept {P Q : State → Action → Prop} (Inv : State → Prop)
    (hSame : ∀ state action, Inv state → (P state action ↔ Q state action))
    (hStep : ∀ state action, Inv state → P state action → Inv (step state action))
    {state : State} (hInv : Inv state) (actions : List Action) :
    Along step P state actions ↔ Along step Q state actions := by
  induction actions generalizing state with
  | nil => exact Iff.rfl
  | cons action rest ih =>
    rw [Along, Along, ← hSame state action hInv]
    exact and_congr_right fun hAction => ih (hStep state action hInv hAction)

theorem Along.of_mem {Q : Action → Prop} {actions : List Action} (h : ∀ action ∈ actions, Q action)
    (state : State) : Along step (fun _ action => Q action) state actions := by
  induction actions generalizing state with
  | nil => trivial
  | cons action rest ih =>
    rw [List.forall_mem_cons] at h
    exact ⟨h.1, ih h.2 _⟩

theorem Along.and {P Q : State → Action → Prop} {state : State} {actions : List Action}
    (hP : Along step P state actions) (hQ : Along step Q state actions) :
    Along step (fun state action => P state action ∧ Q state action) state actions := by
  induction actions generalizing state with
  | nil => trivial
  | cons action rest ih => exact ⟨⟨hP.1, hQ.1⟩, ih hP.2 hQ.2⟩

/-- Steps that meet `P` keep the invariant and meet `Q`: so do whole runs. -/
theorem Along.of_invariant {P Q : State → Action → Prop} (Inv : State → Prop)
    (hStep : ∀ state action, Inv state → P state action → Inv (step state action) ∧ Q state action)
    {state : State} {actions : List Action} (hInv : Inv state) (hRun : Along step P state actions) :
    Along step Q state actions ∧ Inv (final step state actions) := by
  induction actions generalizing state with
  | nil => exact ⟨trivial, hInv⟩
  | cons action rest ih =>
    obtain ⟨hAction, hRest⟩ := hRun
    obtain ⟨hNext, hMeets⟩ := hStep state action hInv hAction
    obtain ⟨hAlong, hFinal⟩ := ih hNext hRest
    exact ⟨⟨hMeets, hAlong⟩, hFinal⟩

theorem Along.invariant {P : State → Action → Prop} (Inv : State → Prop)
    (hStep : ∀ state action, Inv state → P state action → Inv (step state action))
    {state : State} {actions : List Action} (hInv : Inv state) (hRun : Along step P state actions) :
    Inv (final step state actions) :=
  (Along.of_invariant (Q := fun _ _ => True) Inv (fun s a hI hP => ⟨hStep s a hI hP, trivial⟩) hInv hRun).2

theorem Along.imp {P Q : State → Action → Prop} {state : State} {actions : List Action}
    (hRun : Along step P state actions) (hImp : ∀ state action, P state action → Q state action) :
    Along step Q state actions :=
  (Along.of_invariant (fun _ => True) (fun s a _ hP => ⟨trivial, hImp s a hP⟩) trivial hRun).1

theorem along_append {Q : State → Action → Prop} (state : State) (first second : List Action) :
    Along step Q state (first ++ second) ↔
      Along step Q state first ∧ Along step Q (final step state first) second := by
  induction first generalizing state with
  | nil => simp [Along]
  | cons action rest ih => simp only [List.cons_append, Along, final_cons, ih, and_assoc]

theorem Along.last {Q : State → Action → Prop} {state : State} {actions : List Action} {action : Action}
    (h : Along step Q state (actions ++ [action])) : Q (final step state actions) action :=
  ((along_append state actions [action]).mp h).2.1

end Runs
