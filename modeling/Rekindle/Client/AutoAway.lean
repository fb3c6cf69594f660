import Rekindle.Client.PresenceFormats
import Rekindle.Library.Runs

/-! # Auto-away

A tick of the idle service reads the status and the saved one and then writes both, in critical sections of
their own. Calls of `set_status` write both as well, and other steps fall between any two of them.
-/
namespace Rekindle.Client
set_option autoImplicit false
open Runs

/-- What a tick does next. -/
inductive TickPhase where
  | waiting
  | started (threshold : Nat)
  | measured (threshold idle : Nat)
  | looked (threshold idle : Nat) (current : Option UserStatus)
  | activating
  | activatingStatus
  | restoring
  | restoringStatus (restore : UserStatus)
  | publishing
  deriving DecidableEq

/-- What a call of `set_status` does next. -/
inductive CallPhase where
  | chosen (status : UserStatus)
  | written
  | publishing
  | returned
  deriving DecidableEq

structure AutoAway where
  /-- The status of the identity, if one is logged in. -/
  status : Option UserStatus
  preAwayStatus : Option UserStatus
  /-- `autoAwayMinutes` of the preferences. -/
  autoAwayMinutes : Option Nat
  tick : TickPhase
  calls : List CallPhase
  /-- What the user last set. -/
  lastSet : UserStatus
  /-- The last tick that could tell found the user active, or the feature off. -/
  sawActive : Bool

inductive AwayAction where
  /-- The tick goes on. `idle` is what `get_idle_seconds` returns if it is asked now. -/
  | tick (idle : Option Nat)
  | setStatus (text : String)
  /-- A call goes on. -/
  | advance (call : Nat)
  | setPreference (autoAwayMinutes : Option Nat)

def readAutoAwayMinutes (stored : Option Nat) : Nat :=
  match stored with
  | none => 10
  | some minutes => if minutes < 4294967296 then minutes else 10

def parseStatusText (text : String) : Option UserStatus :=
  if text = "online" then some .online
  else if text = "away" then some .away
  else if text = "busy" then some .busy
  else if text = "offline" then some .offline
  else none

namespace AutoAway

def writeStatus (state : AutoAway) (status : UserStatus) : AutoAway :=
  { state with status := state.status.map fun _ => status }

def Activates (state : AutoAway) (threshold idle : Nat) (current : Option UserStatus) : Prop :=
  threshold ≤ idle ∧ current = some .online ∧ state.preAwayStatus = none

def Restores (state : AutoAway) (threshold idle : Nat) : Prop :=
  idle < threshold ∧ state.preAwayStatus ≠ none

instance (state : AutoAway) (threshold idle : Nat) (current : Option UserStatus) :
    Decidable (state.Activates threshold idle current) := inferInstanceAs (Decidable (_ ∧ _))

instance (state : AutoAway) (threshold idle : Nat) : Decidable (state.Restores threshold idle) :=
  inferInstanceAs (Decidable (_ ∧ _))

/-- The saved status is read, and the branch is chosen. -/
def chooseBranch (state : AutoAway) (threshold idle : Nat) (current : Option UserStatus) : AutoAway :=
  { state with
    sawActive := decide (idle < threshold)
    tick := if state.Activates threshold idle current then .activating
      else if state.Restores threshold idle then .restoring
      else .waiting }

/-- One step of the loop of `start_idle_service`. -/
def advanceTick (state : AutoAway) (idle : Option Nat) : AutoAway :=
  match state.tick with
  | .waiting =>
    let minutes := readAutoAwayMinutes state.autoAwayMinutes
    if minutes = 0 then { state with sawActive := true } else { state with tick := .started (minutes * 60) }
  | .started threshold =>
    { state with tick := idle.elim .waiting (.measured threshold) }
  | .measured threshold idle => { state with tick := .looked threshold idle state.status }
  | .looked threshold idle current => state.chooseBranch threshold idle current
  | .activating => { state with preAwayStatus := some .online, tick := .activatingStatus }
  | .activatingStatus => { state.writeStatus .away with tick := .publishing }
  | .restoring =>
    { state with preAwayStatus := none, tick := .restoringStatus (state.preAwayStatus.getD .online) }
  | .restoringStatus restore => { state.writeStatus restore with tick := .publishing }
  | .publishing => { state with tick := .waiting }

/-- One step of a call of `set_status`. -/
def advanceCall (state : AutoAway) (call : Nat) : AutoAway :=
  match state.calls[call]? with
  | some (.chosen status) =>
    { state.writeStatus status with lastSet := status, calls := state.calls.set call .written }
  | some .written => { state with preAwayStatus := none, calls := state.calls.set call .publishing }
  | some .publishing => { state with calls := state.calls.set call .returned }
  | _ => state

def step (state : AutoAway) : AwayAction → AutoAway
  | .tick idle => state.advanceTick idle
  | .setStatus text =>
    { state with calls := state.calls ++ (parseStatusText text).toList.map CallPhase.chosen }
  | .advance call => state.advanceCall call
  | .setPreference autoAwayMinutes => { state with autoAwayMinutes }

def start (status : UserStatus) (autoAwayMinutes : Option Nat) : AutoAway where
  status := some status
  preAwayStatus := none
  autoAwayMinutes
  tick := .waiting
  calls := []
  lastSet := status
  sawActive := false

/-- No operation is running. -/
def AtRest (state : AutoAway) : Prop := state.tick = .waiting ∧ ∀ call ∈ state.calls, call = .returned

/-- If the user has been found active the status is the one the user set. -/
def Respected (state : AutoAway) : Prop :=
  state.AtRest → state.sawActive = true → state.status = some state.lastSet

end AutoAway

/-- A tick that has chosen a branch and has not yet written the status. -/
def TickPhase.Acts : TickPhase → Prop
  | .activating | .activatingStatus | .restoring | .restoringStatus _ => True
  | _ => False

/-- A tick that acts, or may do so on what it has read. -/
def TickPhase.Commits : TickPhase → Prop
  | .looked threshold idle current => threshold ≤ idle ∧ current = some .online
  | phase => phase.Acts

namespace AutoAway

/-- Ticks and calls keep apart, and the feature is not switched off while it has made the user away. -/
def KeepApart (state : AutoAway) : AwayAction → Prop
  | .tick _ => match state.tick with
    | .waiting => readAutoAwayMinutes state.autoAwayMinutes = 0 →
        state.preAwayStatus = none ∨ CallPhase.written ∈ state.calls
    | .looked threshold idle current =>
      state.Activates threshold idle current ∨ state.Restores threshold idle → CallPhase.written ∉ state.calls
    | _ => True
  | .advance call => (∃ status, state.calls[call]? = some (.chosen status)) → ¬state.tick.Commits
  | _ => True

/-! ## What a run keeps -/

/-- The status is the user's. What is still saved is about to be cleared. -/
structure Manual (state : AutoAway) : Prop where
  status : state.status = some state.lastSet
  saved : state.preAwayStatus = none ∨ CallPhase.written ∈ state.calls

/-- The status is the service's: the user has set online, and no call is between its two writes. -/
structure Automatic (state : AutoAway) (status : UserStatus) (saved : Option UserStatus) : Prop where
  status : state.status = some status
  saved : state.preAwayStatus = saved
  lastSet : state.lastSet = .online
  noCall : CallPhase.written ∉ state.calls

def Settled (state : AutoAway) : Prop := state.Manual ∨ state.Automatic .away (some .online)

def Coherent (state : AutoAway) : Prop :=
  match state.tick with
  | .looked threshold idle current =>
    state.Settled ∧ (threshold ≤ idle → current = some .online → state.status = some .online)
  | .activating => state.Automatic .online none ∧ state.sawActive = false
  | .activatingStatus => state.Automatic .online (some .online) ∧ state.sawActive = false
  | .restoring => state.Automatic .away (some .online)
  | .restoringStatus restore => state.Automatic .away none ∧ restore = .online
  | _ => state.Settled

structure Consistent (state : AutoAway) : Prop where
  coherent : state.Coherent
  seen : state.sawActive = true →
    state.preAwayStatus = none ∨ CallPhase.written ∈ state.calls ∨ state.tick = .restoring

/-- The states differ in the tick and in what it has seen. -/
structure SameValues (state after : AutoAway) : Prop where
  status : after.status = state.status
  saved : after.preAwayStatus = state.preAwayStatus
  lastSet : after.lastSet = state.lastSet
  calls : CallPhase.written ∈ after.calls ↔ CallPhase.written ∈ state.calls

section
variable {state after : AutoAway}

theorem Automatic.transfer {status : UserStatus} {saved : Option UserStatus} (h : state.Automatic status saved)
    (hSame : SameValues state after) : after.Automatic status saved where
  status := hSame.status.trans h.status
  saved := hSame.saved.trans h.saved
  lastSet := hSame.lastSet.trans h.lastSet
  noCall := fun hCall => h.noCall (hSame.calls.mp hCall)

theorem Settled.transfer (h : state.Settled) (hSame : SameValues state after) : after.Settled := by
  rcases h with h | h
  · left
    constructor
    · rw [hSame.status, hSame.lastSet, h.status]
    · rw [hSame.saved, hSame.calls]
      exact h.saved
  · exact .inr (h.transfer hSame)

theorem Settled.status_eq (h : state.Settled) : ∃ status, state.status = some status := by
  rcases h with h | h
  · exact ⟨_, h.status⟩
  · exact ⟨_, h.status⟩

theorem Settled.manual (h : state.Settled) (hCall : CallPhase.written ∈ state.calls) : state.Manual :=
  h.resolve_right fun hAutomatic => hAutomatic.noCall hCall

theorem writeStatus_status {current status : UserStatus} (h : state.status = some current) :
    (state.writeStatus status).status = some status := by
  rw [writeStatus, h]
  rfl

/-! ### The branch of a tick -/

theorem Settled.automatic_of_saved (h : state.Settled) (hSaved : state.preAwayStatus ≠ none)
    (hCall : CallPhase.written ∉ state.calls) : state.Automatic .away (some .online) :=
  h.resolve_left fun hManual => hManual.saved.elim hSaved hCall

theorem Settled.automatic_of_unsaved (h : state.Settled) (hStatus : state.status = some .online)
    (hSaved : state.preAwayStatus = none) (hCall : CallPhase.written ∉ state.calls) :
    state.Automatic .online none := by
  rcases h with hManual | hAway
  · exact ⟨hStatus, hSaved, Option.some.inj (hManual.status.symm.trans hStatus), hCall⟩
  · exact nomatch hAway.saved.symm.trans hSaved

theorem chooseBranch_consistent {threshold idle : Nat} {current : Option UserStatus} (h : state.Settled)
    (hStatus : threshold ≤ idle → current = some .online → state.status = some .online)
    (hApart : state.Activates threshold idle current ∨ state.Restores threshold idle →
      CallPhase.written ∉ state.calls) :
    (state.chooseBranch threshold idle current).Consistent := by
  have hSame : SameValues state (state.chooseBranch threshold idle current) := ⟨rfl, rfl, rfl, Iff.rfl⟩
  by_cases hActivates : state.Activates threshold idle current
  · obtain ⟨hIdle, hCurrent, hSaved⟩ := hActivates
    have hTick : (state.chooseBranch threshold idle current).tick = .activating :=
      if_pos ⟨hIdle, hCurrent, hSaved⟩
    have hUnseen : (state.chooseBranch threshold idle current).sawActive = false :=
      decide_eq_false (Nat.not_lt.mpr hIdle)
    constructor
    · rw [Coherent, hTick]
      have hAutomatic := h.automatic_of_unsaved (hStatus hIdle hCurrent) hSaved
        (hApart (.inl ⟨hIdle, hCurrent, hSaved⟩))
      exact ⟨hAutomatic.transfer hSame, hUnseen⟩
    · intro hSeen
      exact nomatch hUnseen.symm.trans hSeen
  · by_cases hRestores : state.Restores threshold idle
    · have hTick : (state.chooseBranch threshold idle current).tick = .restoring :=
        (if_neg hActivates).trans (if_pos hRestores)
      constructor
      · rw [Coherent, hTick]
        exact (h.automatic_of_saved hRestores.2 (hApart (.inr hRestores))).transfer hSame
      · exact fun _ => .inr (.inr hTick)
    · have hTick : (state.chooseBranch threshold idle current).tick = .waiting :=
        (if_neg hActivates).trans (if_neg hRestores)
      constructor
      · rw [Coherent, hTick]
        exact h.transfer hSame
      · intro hSeen
        by_cases hSaved : state.preAwayStatus = none
        · exact .inl hSaved
        · exact absurd ⟨of_decide_eq_true hSeen, hSaved⟩ hRestores

/-! ### The other steps -/

theorem coherent_of_not_acts (hSettled : state.Settled) (hTick : ¬state.tick.Acts)
    (hLooked : ∀ threshold idle current, state.tick = .looked threshold idle current →
      threshold ≤ idle → current = some .online → state.status = some .online) : state.Coherent := by
  rw [Coherent]
  split
  · next hPhase => exact ⟨hSettled, hLooked _ _ _ hPhase⟩
  all_goals first
    | exact hSettled
    | next hPhase => exact (hTick (by rw [hPhase]; trivial)).elim

theorem Coherent.settled (h : state.Coherent) (hTick : ¬state.tick.Acts) : state.Settled := by
  rw [Coherent] at h
  split at h
  · exact h.1
  all_goals first
    | exact h
    | next hPhase => exact (hTick (by rw [hPhase]; trivial)).elim

theorem Coherent.looked {threshold idle : Nat} {current : Option UserStatus} (h : state.Coherent)
    (hTick : state.tick = .looked threshold idle current) :
    threshold ≤ idle → current = some .online → state.status = some .online := by
  rw [Coherent, hTick] at h
  exact h.2

theorem Coherent.not_acts (h : state.Coherent) (hCall : CallPhase.written ∈ state.calls) : ¬state.tick.Acts := by
  intro hActs
  rw [Coherent] at h
  cases hTick : state.tick with
  | activating | activatingStatus | restoringStatus =>
    rw [hTick] at h
    exact h.1.noCall hCall
  | restoring =>
    rw [hTick] at h
    exact h.noCall hCall
  | _ =>
    rw [hTick] at hActs
    exact hActs

theorem consistent_of_settled (hSettled : state.Settled) (hSame : SameValues state after) (hTick : ¬after.tick.Acts)
    (hLooked : ∀ threshold idle current, after.tick = .looked threshold idle current → current = state.status)
    (hSeen : after.sawActive = true → state.preAwayStatus = none ∨ CallPhase.written ∈ state.calls) :
    after.Consistent := by
  constructor
  · refine coherent_of_not_acts (hSettled.transfer hSame) hTick fun threshold idle current hPhase _ hCurrent => ?_
    rw [hSame.status, ← hLooked _ _ _ hPhase, hCurrent]
  · intro hActive
    rw [hSame.saved, hSame.calls]
    exact (hSeen hActive).imp_right .inl

theorem Consistent.seen_of_not_acts (h : state.Consistent) (hTick : ¬state.tick.Acts) (hSeen : state.sawActive = true) :
    state.preAwayStatus = none ∨ CallPhase.written ∈ state.calls :=
  (h.seen hSeen).imp_right fun hLast => hLast.resolve_right fun hRestoring => hTick (by rw [hRestoring]; trivial)

theorem advanceTick_consistent (idle : Option Nat) (h : state.Consistent) (hApart : state.KeepApart (.tick idle)) :
    (state.advanceTick idle).Consistent := by
  cases hTick : state.tick with
  | waiting =>
    have hQuiet : ¬state.tick.Acts := by rw [hTick]; exact id
    have hSettled := h.coherent.settled hQuiet
    rw [KeepApart, hTick] at hApart
    simp only [advanceTick, hTick]
    split
    · next hOff =>
      exact consistent_of_settled hSettled ⟨rfl, rfl, rfl, Iff.rfl⟩ id (fun _ _ _ hLooked => nomatch hLooked)
        fun _ => hApart hOff
    · exact consistent_of_settled hSettled ⟨rfl, rfl, rfl, Iff.rfl⟩ id (fun _ _ _ hLooked => nomatch hLooked)
        (h.seen_of_not_acts hQuiet)
  | started threshold =>
    have hQuiet : ¬state.tick.Acts := by rw [hTick]; exact id
    simp only [advanceTick, hTick]
    refine consistent_of_settled (h.coherent.settled hQuiet) ⟨rfl, rfl, rfl, Iff.rfl⟩ ?_ ?_ (h.seen_of_not_acts hQuiet)
    · cases idle <;> exact id
    · intro _ _ _ hLooked
      cases idle <;> exact nomatch hLooked
  | measured threshold measured =>
    have hQuiet : ¬state.tick.Acts := by rw [hTick]; exact id
    simp only [advanceTick, hTick]
    refine consistent_of_settled (h.coherent.settled hQuiet) ⟨rfl, rfl, rfl, Iff.rfl⟩ id ?_ (h.seen_of_not_acts hQuiet)
    rintro _ _ _ ⟨⟩
    rfl
  | looked threshold measured current =>
    have hQuiet : ¬state.tick.Acts := by rw [hTick]; exact id
    rw [KeepApart, hTick] at hApart
    simp only [advanceTick, hTick]
    exact chooseBranch_consistent (h.coherent.settled hQuiet) (h.coherent.looked hTick) hApart
  | activating =>
    have hCoherent := h.coherent
    rw [Coherent, hTick] at hCoherent
    obtain ⟨hAutomatic, hUnseen⟩ := hCoherent
    simp only [advanceTick, hTick]
    exact {
      coherent := ⟨{ hAutomatic with saved := rfl }, hUnseen⟩
      seen := fun hSeen => nomatch hUnseen.symm.trans hSeen }
  | activatingStatus =>
    have hCoherent := h.coherent
    rw [Coherent, hTick] at hCoherent
    obtain ⟨hAutomatic, hUnseen⟩ := hCoherent
    simp only [advanceTick, hTick]
    exact {
      coherent := .inr { hAutomatic with status := writeStatus_status hAutomatic.status }
      seen := fun hSeen => nomatch hUnseen.symm.trans hSeen }
  | restoring =>
    have hAutomatic := h.coherent
    rw [Coherent, hTick] at hAutomatic
    simp only [advanceTick, hTick]
    exact {
      coherent := ⟨{ hAutomatic with saved := rfl }, by rw [hAutomatic.saved]; rfl⟩
      seen := fun _ => .inl rfl }
  | restoringStatus restore =>
    have hCoherent := h.coherent
    rw [Coherent, hTick] at hCoherent
    obtain ⟨hAutomatic, rfl⟩ := hCoherent
    simp only [advanceTick, hTick]
    exact {
      coherent := .inl ⟨(writeStatus_status hAutomatic.status).trans (congrArg some hAutomatic.lastSet.symm),
        .inl hAutomatic.saved⟩
      seen := fun _ => .inl hAutomatic.saved }
  | publishing =>
    have hQuiet : ¬state.tick.Acts := by rw [hTick]; exact id
    simp only [advanceTick, hTick]
    exact consistent_of_settled (h.coherent.settled hQuiet) ⟨rfl, rfl, rfl, Iff.rfl⟩ id
      (fun _ _ _ hLooked => nomatch hLooked) (h.seen_of_not_acts hQuiet)

/-! ### The steps of a call -/

theorem Manual.consistent (h : after.Manual) (hTick : ¬after.tick.Acts) (hSaved : after.sawActive = true →
    after.preAwayStatus = none ∨ CallPhase.written ∈ after.calls) (hLooked : ∀ threshold idle current,
      after.tick = .looked threshold idle current → threshold ≤ idle → current = some .online →
      after.status = some .online) : after.Consistent where
  coherent := coherent_of_not_acts (.inl h) hTick hLooked
  seen := fun hSeen => (hSaved hSeen).imp_right .inl

theorem Consistent.transfer (h : state.Consistent) (hSame : SameValues state after) (hTick : after.tick = state.tick)
    (hSeen : after.sawActive = state.sawActive) : after.Consistent := by
  constructor
  · have hCoherent := h.coherent
    rw [Coherent] at hCoherent ⊢
    rw [hTick]
    cases hPhase : state.tick with
    | looked =>
      rw [hPhase] at hCoherent
      exact ⟨hCoherent.1.transfer hSame, by rw [hSame.status]; exact hCoherent.2⟩
    | activating | activatingStatus =>
      rw [hPhase] at hCoherent
      exact ⟨hCoherent.1.transfer hSame, hSeen.trans hCoherent.2⟩
    | restoringStatus =>
      rw [hPhase] at hCoherent
      exact ⟨hCoherent.1.transfer hSame, hCoherent.2⟩
    | restoring =>
      rw [hPhase] at hCoherent
      exact Automatic.transfer hCoherent hSame
    | _ =>
      rw [hPhase] at hCoherent
      exact Settled.transfer hCoherent hSame
  · rw [hSeen, hSame.saved, hSame.calls, hTick]
    exact h.seen

theorem written_mem_set {calls : List CallPhase} {call : Nat} {old new : CallPhase} (h : calls[call]? = some old)
    (hOld : old ≠ .written) (hNew : new ≠ .written) :
    CallPhase.written ∈ calls.set call new ↔ CallPhase.written ∈ calls := by
  constructor
  · intro hMem
    exact (List.mem_or_eq_of_mem_set hMem).resolve_right hNew.symm
  · intro hMem
    obtain ⟨other, hOther⟩ := List.mem_iff_getElem?.mp hMem
    have hNe : call ≠ other := by
      rintro rfl
      exact hOld (Option.some.inj (h.symm.trans hOther))
    exact List.mem_of_getElem? ((List.getElem?_set_ne hNe).trans hOther)

theorem advanceCall_consistent (call : Nat) (h : state.Consistent) (hApart : state.KeepApart (.advance call)) :
    (state.advanceCall call).Consistent := by
  rw [advanceCall]
  split
  · next status hCall =>
    have hFree : ¬state.tick.Commits := hApart ⟨status, hCall⟩
    have hQuiet : ¬state.tick.Acts := by
      intro hActs
      apply hFree
      cases hTick : state.tick with
      | looked => rw [hTick] at hActs; exact hActs.elim
      | _ => rw [hTick] at hActs; exact hActs
    obtain ⟨current, hCurrent⟩ := (h.coherent.settled hQuiet).status_eq
    have hWritten : CallPhase.written ∈ state.calls.set call .written :=
      List.mem_set (List.getElem?_eq_some_iff.mp hCall).1 _
    refine Manual.consistent ⟨writeStatus_status hCurrent, .inr hWritten⟩ hQuiet (fun _ => .inr hWritten) ?_
    intro threshold idle current hTick hIdle hOnline
    have hTick : state.tick = .looked threshold idle current := hTick
    rw [hTick] at hFree
    exact absurd ⟨hIdle, hOnline⟩ hFree
  · next hCall =>
    have hWritten := List.mem_of_getElem? hCall
    have hQuiet := h.coherent.not_acts hWritten
    have hManual := (h.coherent.settled hQuiet).manual hWritten
    exact Manual.consistent ⟨hManual.status, .inl rfl⟩ hQuiet (fun _ => .inl rfl) fun _ _ _ hTick =>
      h.coherent.looked hTick
  · next hCall =>
    exact h.transfer ⟨rfl, rfl, rfl, written_mem_set hCall nofun nofun⟩ rfl rfl
  · exact h

theorem step_consistent (action : AwayAction) (h : state.Consistent) (hApart : state.KeepApart action) :
    (state.step action).Consistent := by
  cases action with
  | tick idle => exact advanceTick_consistent idle h hApart
  | setStatus text =>
    refine h.transfer ⟨rfl, rfl, rfl, ?_⟩ rfl rfl
    rw [step, List.mem_append]
    refine or_iff_left ?_
    simp
  | advance call => exact advanceCall_consistent call h hApart
  | setPreference => exact h.transfer ⟨rfl, rfl, rfl, Iff.rfl⟩ rfl rfl

theorem start_consistent (status : UserStatus) (autoAwayMinutes : Option Nat) :
    (start status autoAwayMinutes).Consistent where
  coherent := .inl ⟨rfl, .inl rfl⟩
  seen := nofun

theorem Consistent.respected (h : state.Consistent) : state.Respected := by
  rintro ⟨hTick, hCalls⟩ hSeen
  have hQuiet : ¬state.tick.Acts := by rw [hTick]; exact id
  have hNoCall : CallPhase.written ∉ state.calls := fun hCall => nomatch hCalls _ hCall
  have hUnsaved := (h.seen_of_not_acts hQuiet hSeen).resolve_right hNoCall
  rcases h.coherent.settled hQuiet with hManual | hAway
  · exact hManual.status
  · exact nomatch hAway.saved.symm.trans hUnsaved

end

/-- Auto-away leaves the user's choice alone in every run in which ticks and calls keep apart and the feature
is not switched off while it has made the user away. -/
theorem lastSet_respected {status : UserStatus} {autoAwayMinutes : Option Nat} {actions : List AwayAction}
    (hRun : Along step KeepApart (start status autoAwayMinutes) actions) :
    (final step (start status autoAwayMinutes) actions).Respected :=
  (hRun.invariant Consistent (fun _ action h hApart => step_consistent action h hApart)
    (start_consistent status autoAwayMinutes)).respected

/-- The user is away for ten minutes and comes back. -/
def awayAndBack : List AwayAction :=
  [.tick none, .tick (some 600), .tick none, .tick none, .tick none, .tick none, .tick none,
    .tick none, .tick (some 5), .tick none, .tick none, .tick none, .tick none, .tick none]

theorem lastSet_respected_back : (final step (start .online none) awayAndBack).Respected :=
  lastSet_respected ⟨fun h => absurd h (by decide), trivial, trivial, fun _ => by decide, trivial, trivial, trivial,
    fun h => absurd h (by decide), trivial, trivial, fun _ => by decide, trivial, trivial, trivial, trivial⟩

/-- A tick has read that the user is online. Then the user sets busy, and the tick goes on. -/
def busyMeanwhile : List AwayAction :=
  [.tick none, .tick (some 600), .tick none, .setStatus "busy", .advance 0, .advance 0, .advance 0,
    .tick none, .tick none, .tick none, .tick none,
    .tick none, .tick (some 5), .tick none, .tick none, .tick none, .tick none, .tick none]

theorem lastSet_overwritten :
    ¬∀ (status : UserStatus) (autoAwayMinutes : Option Nat) (actions : List AwayAction),
      (final step (start status autoAwayMinutes) actions).Respected := by
  intro hAll
  have hRest : (final step (start .online none) busyMeanwhile).AtRest := ⟨by decide, by decide⟩
  have hStatus := hAll .online none busyMeanwhile hRest (by decide)
  exact absurd hStatus (by decide)

end AutoAway

end Rekindle.Client
