import Rekindle.Voice.CallCommands

/-! # The lifecycle of a voice call

A command that takes loops, streams or the packet channel away goes on to a section that installs new ones or
clears the engine. As long as these sections do not overlap and the devices start, the last one leaves a call
that is live, or none.
-/
namespace Rekindle.Voice.CallLifecycle
set_option autoImplicit false
open Runs

/-- The command has taken something away, and a section that puts things in order is to come. -/
def Phase.Disrupts : Phase → Prop
  | .awaitingToStop _ | .stoppingEngine | .awaitingToRestart _ | .closingPackets | .stoppingDevices
  | .restarting => True
  | _ => False

/-- The phases of a hot-swap, which runs in a monitor task. -/
def Phase.Swaps : Phase → Prop
  | .checkingEngine | .takingLoops | .closingPackets | .stoppingDevices | .restarting | .openingPackets ..
  | .watchingErrors .. | .storing .. => True
  | _ => False

/-- The streams of the engine are those behind these channels. -/
structure Streams (handle : VoiceEngineHandle) (captureRx playbackTx : Option Nat) : Prop where
  capture : handle.capture = captureRx
  captures : captureRx ≠ none
  playback : handle.playback = playbackTx
  plays : playbackTx ≠ none

/-- What a section has achieved if nothing has been taken away meanwhile. -/
def Ready (state : VoiceState) (operation : Operation) : Prop :=
  match operation.phase with
  | .startingDevices => ∃ handle, state.voiceEngine = some handle ∧ handle.deviceErrorRx = true
  | .takingChannels => ∃ handle, state.voiceEngine = some handle ∧ handle.deviceErrorRx = true ∧
      Streams handle handle.captureRx handle.playbackTx
  | .openingPackets captureRx playbackTx joining => ∃ handle, state.voiceEngine = some handle ∧
      (joining = true → handle.deviceErrorRx = true) ∧ Streams handle captureRx playbackTx
  | .watchingErrors send receive joining => ∃ handle, state.voiceEngine = some handle ∧
      (joining = true → handle.deviceErrorRx = true) ∧ Streams handle send.captureRx receive.playbackTx ∧
      state.voicePacketTx = some receive.packetRx
  | .storing send receive monitor => ∃ handle, state.voiceEngine = some handle ∧
      Streams handle send.captureRx receive.playbackTx ∧ state.voicePacketTx = some receive.packetRx ∧
      ∃ task ∈ state.monitors, monitor = ⟨some task⟩ ∧ operation.monitor ≠ some task
  | _ => True

/-- The tasks are numbered below the next number. -/
structure Numbered (state : VoiceState) (operations : List Operation) : Prop where
  monitors : ∀ monitor ∈ state.monitors, monitor < state.nextId
  operations : ∀ operation ∈ operations, ∀ monitor, operation.monitor = some monitor → monitor < state.nextId

/-- Unless something has been taken away, sections are on their way and the state is sound when there is none. -/
def InOrder (state : VoiceState) (operations : List Operation) : Prop :=
  (∀ operation ∈ operations, ¬operation.phase.Disrupts) →
    (∀ operation ∈ operations, operation.phase.Inside → Ready state operation) ∧
    ((∀ operation ∈ operations, ¬operation.phase.Inside) → Sound state)

structure Consistent (state : VoiceState) (operations : List Operation) : Prop where
  alone : operations.Pairwise fun one other => ¬(one.phase.Inside ∧ other.phase.Inside)
  numbered : Numbered state operations
  roles : ∀ operation ∈ operations, operation.monitor = none ∨ operation.phase.Swaps
  registered : ∀ operation ∈ operations, operation.phase.Installs → state.voiceEngine ≠ none
  cleared : ∀ operation ∈ operations, operation.phase = .clearingPackets → state.voiceEngine = none
  closed : state.voiceEngine = none →
    state.voicePacketTx = none ∨ ∃ operation ∈ operations, operation.phase = .clearingPackets
  inOrder : InOrder state operations

section
variable {state after : VoiceState} {operation : Operation} {operations others : List Operation} {next : Phase}

theorem Consistent.perm (h : Consistent state operations) (hPerm : operations.Perm others) :
    Consistent state others where
  alone := (hPerm.pairwise_iff fun hApart hBoth => hApart hBoth.symm).mp h.alone
  numbered := ⟨h.numbered.monitors, fun other hOther => h.numbered.operations other (hPerm.mem_iff.mpr hOther)⟩
  roles := fun other hOther => h.roles other (hPerm.mem_iff.mpr hOther)
  registered := fun other hOther => h.registered other (hPerm.mem_iff.mpr hOther)
  cleared := fun other hOther => h.cleared other (hPerm.mem_iff.mpr hOther)
  closed := fun hNone => (h.closed hNone).imp id fun ⟨other, hOther, hPhase⟩ => ⟨other, hPerm.mem_iff.mp hOther, hPhase⟩
  inOrder := by
    intro hQuiet
    obtain ⟨hReady, hSound⟩ := h.inOrder fun other hOther => hQuiet other (hPerm.mem_iff.mp hOther)
    exact ⟨fun other hOther => hReady other (hPerm.mem_iff.mpr hOther),
      fun hNone => hSound fun other hOther => hNone other (hPerm.mem_iff.mp hOther)⟩

theorem Consistent.others_outside (h : Consistent state (operation :: others)) (hInside : operation.phase.Inside) :
    ∀ other ∈ others, ¬other.phase.Inside :=
  fun other hOther hBoth => (List.pairwise_cons.mp h.alone).1 other hOther ⟨hInside, hBoth⟩

theorem not_inside {phase : Phase} (hInstalls : ¬phase.Installs) (hClearing : phase ≠ .clearingPackets) :
    ¬phase.Inside := not_or.mpr ⟨hInstalls, hClearing⟩

theorem Phase.Disrupts.outside {phase : Phase} (h : phase.Disrupts) : ¬phase.Inside := by
  rintro (hInstalls | rfl)
  · cases phase <;> first | exact h | exact hInstalls
  · exact h

theorem Phase.Installs.inside {phase : Phase} (h : phase.Installs) : phase.Inside := .inl h

theorem Phase.Installs.not_disrupts {phase : Phase} (h : phase.Installs) : ¬phase.Disrupts :=
  fun hDisrupts => hDisrupts.outside h.inside

theorem clearingPackets_not_installs {phase : Phase} (h : phase.Installs) : phase ≠ .clearingPackets := by
  rintro rfl
  exact h

/-! ### What a step makes of the other operations -/

/-- Where there is no engine, only the packet channel may be left. -/
theorem inOrder_of_no_engine (hEngine : state.voiceEngine = none)
    (hRegistered : ∀ other ∈ others, other.phase.Installs → state.voiceEngine ≠ none)
    (hClosed : state.voicePacketTx = none ∨ ∃ other ∈ others, other.phase = .clearingPackets) :
    InOrder state others := by
  refine fun _ => ⟨fun other hOther hInside => ?_, fun hOutside => ?_⟩
  · rcases hInside with hInstalls | hClearing
    · exact absurd hEngine (hRegistered other hOther hInstalls)
    · rw [Ready, hClearing]
      trivial
  · rw [Sound, hEngine]
    refine hClosed.resolve_right ?_
    rintro ⟨other, hOther, hClearing⟩
    exact hOutside other hOther (.inr hClearing)

/-- The command goes on to take things away. -/
theorem Consistent.disrupt (h : Consistent state (operation :: others)) (hBefore : ¬operation.phase.Inside)
    (hRole : operation.monitor = none ∨ next.Swaps) (hNext : next.Disrupts)
    (hEngine : after.voiceEngine = none ↔ state.voiceEngine = none)
    (hPackets : after.voicePacketTx = state.voicePacketTx ∨ after.voicePacketTx = none)
    (hMonitors : after.monitors = state.monitors) (hIds : after.nextId = state.nextId) :
    Consistent after ({ operation with phase := next } :: others) where
  alone := List.pairwise_cons.mpr ⟨fun _ _ hBoth => hNext.outside hBoth.1, (List.pairwise_cons.mp h.alone).2⟩
  numbered := by
    constructor
    · rw [hMonitors, hIds]
      exact h.numbered.monitors
    · rw [hIds]
      exact List.forall_mem_cons.mpr (List.forall_mem_cons.mp h.numbered.operations)
  roles := List.forall_mem_cons.mpr ⟨hRole, (List.forall_mem_cons.mp h.roles).2⟩
  registered := by
    refine List.forall_mem_cons.mpr ⟨fun hInstalls => absurd hNext hInstalls.not_disrupts, fun other hOther hInstalls => ?_⟩
    rw [Ne, hEngine]
    exact (List.forall_mem_cons.mp h.registered).2 other hOther hInstalls
  cleared := by
    refine List.forall_mem_cons.mpr ⟨fun hClearing => ?_, fun other hOther hClearing => ?_⟩
    · exact absurd (.inr hClearing) hNext.outside
    · exact hEngine.mpr ((List.forall_mem_cons.mp h.cleared).2 other hOther hClearing)
  closed := by
    intro hNone
    rcases hPackets with hSame | hClosed
    · rw [hSame]
      refine (h.closed (hEngine.mp hNone)).imp id ?_
      rintro ⟨other, hOther, hClearing⟩
      rcases List.mem_cons.mp hOther with rfl | hOther
      · exact absurd (.inr hClearing) hBefore
      · exact ⟨other, List.mem_cons_of_mem _ hOther, hClearing⟩
    · exact .inl hClosed
  inOrder := fun hQuiet => absurd hNext (hQuiet _ List.mem_cons_self)

/-- The command goes on inside its section. -/
theorem Consistent.install (h : Consistent state (operation :: others))
    (hOthers : ∀ other ∈ others, ¬other.phase.Inside) (hRole : operation.monitor = none ∨ next.Swaps)
    (hNext : next.Installs) (hEngine : after.voiceEngine ≠ none)
    (hMonitors : ∀ monitor ∈ after.monitors, monitor < after.nextId) (hIds : state.nextId ≤ after.nextId)
    (hReady : (∀ other ∈ others, ¬other.phase.Disrupts) → Ready after { operation with phase := next }) :
    Consistent after ({ operation with phase := next } :: others) where
  alone := List.pairwise_cons.mpr ⟨fun other hOther hBoth => hOthers other hOther hBoth.2,
    (List.pairwise_cons.mp h.alone).2⟩
  numbered := by
    refine ⟨hMonitors, List.forall_mem_cons.mpr ⟨fun monitor hMonitor => ?_, fun other hOther monitor hMonitor => ?_⟩⟩
    · exact Nat.lt_of_lt_of_le ((List.forall_mem_cons.mp h.numbered.operations).1 monitor hMonitor) hIds
    · exact Nat.lt_of_lt_of_le ((List.forall_mem_cons.mp h.numbered.operations).2 other hOther monitor hMonitor) hIds
  roles := List.forall_mem_cons.mpr ⟨hRole, (List.forall_mem_cons.mp h.roles).2⟩
  registered := fun _ _ _ => hEngine
  cleared := by
    refine List.forall_mem_cons.mpr ⟨fun hClearing => ?_, fun other hOther hClearing => ?_⟩
    · exact absurd hClearing (clearingPackets_not_installs hNext)
    · exact absurd (.inr hClearing) (hOthers other hOther)
  closed := fun hNone => absurd hNone hEngine
  inOrder := by
    intro hQuiet
    refine ⟨List.forall_mem_cons.mpr ⟨fun _ => ?_, fun other hOther hInside => ?_⟩, fun hOutside => ?_⟩
    · exact hReady fun other hOther => hQuiet other (List.mem_cons_of_mem _ hOther)
    · exact absurd hInside (hOthers other hOther)
    · exact absurd hNext.inside (hOutside _ List.mem_cons_self)

/-- The command is over. -/
theorem Consistent.finish (h : Consistent state (operation :: others))
    (hEngine : after.voiceEngine = none ↔ state.voiceEngine = none)
    (hMonitors : ∀ monitor ∈ after.monitors, monitor ∈ state.monitors) (hIds : after.nextId = state.nextId)
    (hClosed : after.voiceEngine = none →
      after.voicePacketTx = none ∨ ∃ other ∈ others, other.phase = .clearingPackets)
    (hOrder : InOrder after others) : Consistent after others where
  alone := (List.pairwise_cons.mp h.alone).2
  numbered := by
    constructor
    · intro monitor hMonitor
      rw [hIds]
      exact h.numbered.monitors monitor (hMonitors monitor hMonitor)
    · rw [hIds]
      exact (List.forall_mem_cons.mp h.numbered.operations).2
  roles := (List.forall_mem_cons.mp h.roles).2
  registered := fun other hOther hInstalls => by
    rw [Ne, hEngine]
    exact (List.forall_mem_cons.mp h.registered).2 other hOther hInstalls
  cleared := fun other hOther hClearing =>
    hEngine.mpr ((List.forall_mem_cons.mp h.cleared).2 other hOther hClearing)
  closed := hClosed
  inOrder := hOrder

theorem Consistent.closed_others (h : Consistent state (operation :: others))
    (hPhase : operation.phase ≠ .clearingPackets) (hNone : state.voiceEngine = none) :
    state.voicePacketTx = none ∨ ∃ other ∈ others, other.phase = .clearingPackets := by
  refine (h.closed hNone).imp id ?_
  rintro ⟨other, hOther, hClearing⟩
  rcases List.mem_cons.mp hOther with rfl | hOther
  · exact absurd hClearing hPhase
  · exact ⟨other, hOther, hClearing⟩

theorem mem_release {monitor : Option Nat} {task : Nat} (h : task ∈ (VoiceCalls.release state monitor).monitors) :
    task ∈ state.monitors := by
  cases monitor with
  | none => exact h
  | some ended => exact List.mem_of_mem_erase h

theorem mem_release_of_ne {monitor : Option Nat} {task : Nat} (h : task ∈ state.monitors) (hOther : monitor ≠ some task) :
    task ∈ (VoiceCalls.release state monitor).monitors := by
  cases monitor with
  | none => exact h
  | some ended => exact (List.mem_erase_of_ne fun hSame => hOther (congrArg some hSame.symm)).mpr h

/-- The command is over and there is no engine. -/
theorem Consistent.finish_no_engine (h : Consistent state (operation :: others))
    (hPhase : operation.phase ≠ .clearingPackets) (hNone : state.voiceEngine = none) :
    Consistent (VoiceCalls.release state operation.monitor) others :=
  h.finish Iff.rfl (fun _ => mem_release) rfl (fun _ => h.closed_others hPhase hNone)
    (inOrder_of_no_engine hNone (List.forall_mem_cons.mp h.registered).2 (h.closed_others hPhase hNone))

/-- The command is over before it has done anything. -/
theorem Consistent.finish_quiet (h : Consistent state (operation :: others)) (hMonitor : operation.monitor = none)
    (hDisrupts : ¬operation.phase.Disrupts) (hOutside : ¬operation.phase.Inside) :
    Consistent (VoiceCalls.release state operation.monitor) others := by
  rw [hMonitor]
  refine h.finish Iff.rfl (fun _ => mem_release) rfl
    (fun hNone => h.closed_others (fun hClearing => hOutside (.inr hClearing)) hNone) fun hQuiet => ?_
  obtain ⟨hReady, hSound⟩ := h.inOrder (List.forall_mem_cons.mpr ⟨hDisrupts, hQuiet⟩)
  exact ⟨(List.forall_mem_cons.mp hReady).2, fun hOthers => hSound (List.forall_mem_cons.mpr ⟨hOutside, hOthers⟩)⟩

/-- The command goes on without having done anything. -/
theorem Consistent.wait (h : Consistent state (operation :: others)) (hRole : operation.monitor = none ∨ next.Swaps)
    (hBefore : ¬operation.phase.Disrupts ∧ ¬operation.phase.Inside) (hNext : ¬next.Inside) :
    Consistent state ({ operation with phase := next } :: others) where
  alone := List.pairwise_cons.mpr ⟨fun _ _ hBoth => hNext hBoth.1, (List.pairwise_cons.mp h.alone).2⟩
  numbered := ⟨h.numbered.monitors, List.forall_mem_cons.mpr (List.forall_mem_cons.mp h.numbered.operations)⟩
  roles := List.forall_mem_cons.mpr ⟨hRole, (List.forall_mem_cons.mp h.roles).2⟩
  registered := List.forall_mem_cons.mpr ⟨fun hInstalls => absurd hInstalls.inside hNext,
    (List.forall_mem_cons.mp h.registered).2⟩
  cleared := List.forall_mem_cons.mpr ⟨fun hClearing => absurd (.inr hClearing) hNext,
    (List.forall_mem_cons.mp h.cleared).2⟩
  closed := fun hNone => (h.closed_others (fun hClearing => hBefore.2 (.inr hClearing)) hNone).imp id
    fun ⟨other, hOther, hClearing⟩ => ⟨other, List.mem_cons_of_mem _ hOther, hClearing⟩
  inOrder := by
    intro hQuiet
    obtain ⟨hReady, hSound⟩ := h.inOrder
      (List.forall_mem_cons.mpr ⟨hBefore.1, (List.forall_mem_cons.mp hQuiet).2⟩)
    refine ⟨List.forall_mem_cons.mpr ⟨fun hInside => absurd hInside hNext, (List.forall_mem_cons.mp hReady).2⟩,
      fun hOutside => hSound (List.forall_mem_cons.mpr ⟨hBefore.2, (List.forall_mem_cons.mp hOutside).2⟩)⟩

/-! ### The steps -/

theorem startDevices_of_attempt (handle : VoiceEngineHandle) {attempt : Attempt} (id : Nat)
    (hStarts : attempt.startCapture = true ∧ attempt.startPlayback = true) :
    handle.startDevices attempt id = ({ handle with
      capture := some id, captureRx := some id, playback := some (id + 1), playbackTx := some (id + 1) }, true) := by
  rw [VoiceEngineHandle.startDevices, if_pos hStarts.1, if_pos hStarts.2]

theorem map_eq_none_iff {handle : Option VoiceEngineHandle} (f : VoiceEngineHandle → VoiceEngineHandle) :
    handle.map f = none ↔ handle = none := Option.map_eq_none_iff

/-- The command goes on, or is over. -/
def Continues (operation : Operation) (others : List Operation) : VoiceState × Option Phase → Prop
  | (after, some next) => Consistent after ({ operation with phase := next } :: others)
  | (after, none) => Consistent (VoiceCalls.release after operation.monitor) others

theorem Consistent.engine (h : Consistent state (operation :: others)) (hInstalls : operation.phase.Installs) :
    ∃ handle, state.voiceEngine = some handle :=
  Option.ne_none_iff_exists'.mp ((List.forall_mem_cons.mp h.registered).1 hInstalls)

theorem Consistent.ready (h : Consistent state (operation :: others)) (hInstalls : operation.phase.Installs)
    (hQuiet : ∀ other ∈ others, ¬other.phase.Disrupts) : Ready state operation := by
  obtain ⟨hReady, -⟩ := h.inOrder (List.forall_mem_cons.mpr ⟨hInstalls.not_disrupts, hQuiet⟩)
  exact (List.forall_mem_cons.mp hReady).1 hInstalls.inside

theorem Consistent.below (h : Consistent state operations) {count : Nat} :
    ∀ monitor ∈ state.monitors, monitor < state.nextId + count :=
  fun monitor hMonitor => Nat.lt_of_lt_of_le (h.numbered.monitors monitor hMonitor) (Nat.le_add_right _ _)

section
variable {monitor : Option Nat} {attempt : Attempt}

theorem registering_continues {channelId : String} (h : Consistent state (⟨monitor, .registering channelId⟩ :: others))
    (hAlone : ∀ other ∈ others, ¬other.phase.Inside) :
    Continues ⟨monitor, .registering channelId⟩ others (Phase.run (.registering channelId) attempt state) := by
  have hMonitor : monitor = none := (List.forall_mem_cons.mp h.roles).1.resolve_right id
  rw [Phase.run]
  split
  · exact h.install hAlone (.inl hMonitor) trivial nofun h.numbered.monitors (Nat.le_refl _) fun _ => ⟨_, rfl, rfl⟩
  · exact h.finish_quiet hMonitor id (not_inside id nofun)

theorem startingDevices_continues (h : Consistent state (⟨monitor, .startingDevices⟩ :: others))
    (hStarts : state.voiceEngine ≠ none → attempt.startCapture = true ∧ attempt.startPlayback = true) :
    Continues ⟨monitor, .startingDevices⟩ others (Phase.run .startingDevices attempt state) := by
  obtain ⟨handle, hHandle⟩ := h.engine trivial
  have hMonitor : monitor = none := (List.forall_mem_cons.mp h.roles).1.resolve_right id
  simp only [Phase.run, hHandle, startDevices_of_attempt handle state.nextId (hStarts (by rw [hHandle]; nofun)), if_true]
  refine h.install (h.others_outside (.inl trivial)) (.inl hMonitor) trivial nofun h.below (Nat.le_add_right _ _)
    fun hQuiet => ?_
  obtain ⟨other, hOther, hErrors⟩ := h.ready trivial hQuiet
  obtain rfl := Option.some.inj (hHandle.symm.trans hOther)
  exact ⟨_, rfl, hErrors, rfl, nofun, rfl, nofun⟩

theorem takingChannels_continues (h : Consistent state (⟨monitor, .takingChannels⟩ :: others)) :
    Continues ⟨monitor, .takingChannels⟩ others (Phase.run .takingChannels attempt state) := by
  obtain ⟨handle, hHandle⟩ := h.engine trivial
  have hMonitor : monitor = none := (List.forall_mem_cons.mp h.roles).1.resolve_right id
  simp only [Phase.run, hHandle]
  refine h.install (h.others_outside (.inl trivial)) (.inl hMonitor) trivial nofun h.numbered.monitors (Nat.le_refl _)
    fun hQuiet => ?_
  obtain ⟨other, hOther, hErrors, hStreams⟩ := h.ready trivial hQuiet
  obtain rfl := Option.some.inj (hHandle.symm.trans hOther)
  exact ⟨_, rfl, fun _ => hErrors, hStreams.capture, hStreams.captures, hStreams.playback, hStreams.plays⟩

theorem restarting_continues (h : Consistent state (⟨monitor, .restarting⟩ :: others))
    (hAlone : state.voiceEngine ≠ none → ∀ other ∈ others, ¬other.phase.Inside)
    (hStarts : state.voiceEngine ≠ none → attempt.startCapture = true ∧ attempt.startPlayback = true) :
    Continues ⟨monitor, .restarting⟩ others (Phase.run .restarting attempt state) := by
  cases hHandle : state.voiceEngine with
  | none =>
    simp only [Phase.run, hHandle]
    exact h.finish_no_engine nofun hHandle
  | some handle =>
    have hSome : state.voiceEngine ≠ none := by rw [hHandle]; nofun
    simp only [Phase.run, hHandle, startDevices_of_attempt handle state.nextId (hStarts hSome), if_true]
    exact h.install (hAlone hSome) (.inr trivial) trivial nofun h.below (Nat.le_add_right _ _)
      fun _ => ⟨_, rfl, nofun, rfl, nofun, rfl, nofun⟩

theorem openingPackets_continues {captureRx playbackTx : Option Nat} {joining : Bool}
    (h : Consistent state (⟨monitor, .openingPackets captureRx playbackTx joining⟩ :: others)) :
    Continues ⟨monitor, .openingPackets captureRx playbackTx joining⟩ others
      (Phase.run (.openingPackets captureRx playbackTx joining) attempt state) := by
  obtain ⟨handle, hHandle⟩ := h.engine trivial
  rw [Phase.run]
  refine h.install (h.others_outside (.inl trivial)) (.inr trivial) trivial (by rw [hHandle]; nofun) h.below
    (Nat.le_add_right _ _) fun hQuiet => ?_
  obtain ⟨other, hOther, hErrors, hStreams⟩ := h.ready trivial hQuiet
  exact ⟨other, hOther, hErrors, hStreams, rfl⟩

theorem watchingErrors_continues {send : SendLoop} {receive : ReceiveLoop} {joining : Bool}
    (h : Consistent state (⟨monitor, .watchingErrors send receive joining⟩ :: others)) :
    Continues ⟨monitor, .watchingErrors send receive joining⟩ others
      (Phase.run (.watchingErrors send receive joining) attempt state) := by
  obtain ⟨handle, hHandle⟩ := h.engine trivial
  rw [Phase.run]
  refine h.install (h.others_outside (.inl trivial)) (.inr trivial) trivial (by rw [hHandle]; nofun) ?_
    (Nat.le_add_right _ _) fun hQuiet => ?_
  · intro task hTask
    dsimp only at hTask ⊢
    split at hTask
    · rcases List.mem_cons.mp hTask with rfl | hTask
      · exact Nat.lt_succ_self _
      · exact h.below _ hTask
    · exact h.below _ hTask
  · obtain ⟨other, hOther, hErrors, hStreams, hPackets⟩ := h.ready trivial hQuiet
    have hWatched : (state.voiceEngine.any fun handle => !joining || handle.deviceErrorRx) = true := by
      rw [hOther]
      cases joining with
      | false => rfl
      | true => exact hErrors rfl
    refine ⟨_, congrArg (Option.map _) hOther, ⟨hStreams.capture, hStreams.captures, hStreams.playback, hStreams.plays⟩,
      hPackets, state.nextId, ?_, ?_, ?_⟩
    · dsimp only
      rw [if_pos hWatched]
      exact List.mem_cons_self
    · rw [if_pos hWatched]
    · intro hMonitor
      exact Nat.lt_irrefl _ ((List.forall_mem_cons.mp h.numbered.operations).1 _ hMonitor)

theorem storing_continues {send : SendLoop} {receive : ReceiveLoop} {stored : DeviceMonitor}
    (h : Consistent state (⟨monitor, .storing send receive stored⟩ :: others)) :
    Continues ⟨monitor, .storing send receive stored⟩ others
      (Phase.run (.storing send receive stored) attempt state) := by
  have hOutside := h.others_outside (.inl trivial)
  obtain ⟨handle, hHandle⟩ := h.engine trivial
  rw [Phase.run]
  refine h.finish (map_eq_none_iff _) (fun _ => mem_release) rfl ?_ fun hQuiet => ?_
  · intro hNone
    exact nomatch hHandle.symm.trans ((map_eq_none_iff _).mp hNone)
  · refine ⟨fun other hOther hInside => absurd hInside (hOutside other hOther), fun _ => ?_⟩
    obtain ⟨other, hOther, hStreams, hPackets, task, hTask, rfl, hFresh⟩ := h.ready trivial hQuiet
    obtain ⟨capture, hCapture⟩ := Option.ne_none_iff_exists'.mp hStreams.captures
    obtain ⟨playback, hPlayback⟩ := Option.ne_none_iff_exists'.mp hStreams.plays
    let stored := { other with
      sendLoop := some send, receiveLoop := some receive, deviceMonitor := some (⟨some task⟩ : DeviceMonitor) }
    have hLive : Live (VoiceCalls.release { state with voiceEngine := some stored } monitor) stored := {
      sends := ⟨capture, hStreams.capture.trans hCapture, congrArg (fun rx => some (SendLoop.mk rx)) hCapture⟩
      receives := ⟨playback, receive.packetRx, hStreams.playback.trans hPlayback,
        congrArg (fun tx => some (ReceiveLoop.mk tx receive.packetRx)) hPlayback, hPackets⟩
      monitors := ⟨task, mem_release_of_ne hTask hFresh, rfl⟩ }
    rw [hOther]
    exact hLive

theorem stoppingEngine_continues (h : Consistent state (⟨monitor, .stoppingEngine⟩ :: others))
    (hAlone : ∀ other ∈ others, ¬other.phase.Inside) :
    Continues ⟨monitor, .stoppingEngine⟩ others (Phase.run .stoppingEngine attempt state) := by
  have hMonitor : monitor = none := (List.forall_mem_cons.mp h.roles).1.resolve_right id
  have hInstalls : ∀ other ∈ others, other.phase.Installs → (none : Option VoiceEngineHandle) ≠ none :=
    fun other hOther hInstalls => absurd hInstalls.inside (hAlone other hOther)
  exact {
    alone := List.pairwise_cons.mpr ⟨fun other hOther hBoth => hAlone other hOther hBoth.2,
      (List.pairwise_cons.mp h.alone).2⟩
    numbered := ⟨h.numbered.monitors, List.forall_mem_cons.mpr (List.forall_mem_cons.mp h.numbered.operations)⟩
    roles := List.forall_mem_cons.mpr ⟨.inl hMonitor, (List.forall_mem_cons.mp h.roles).2⟩
    registered := List.forall_mem_cons.mpr ⟨False.elim, hInstalls⟩
    cleared := fun _ _ _ => rfl
    closed := fun _ => .inr ⟨_, List.mem_cons_self, rfl⟩
    inOrder := inOrder_of_no_engine rfl (List.forall_mem_cons.mpr ⟨False.elim, hInstalls⟩)
      (.inr ⟨_, List.mem_cons_self, rfl⟩) }

theorem clearingPackets_continues (h : Consistent state (⟨monitor, .clearingPackets⟩ :: others)) :
    Continues ⟨monitor, .clearingPackets⟩ others (Phase.run .clearingPackets attempt state) := by
  have hNone : state.voiceEngine = none := (List.forall_mem_cons.mp h.cleared).1 rfl
  exact h.finish Iff.rfl (fun _ => mem_release) rfl (fun _ => .inl rfl)
    (inOrder_of_no_engine hNone (List.forall_mem_cons.mp h.registered).2 (.inl rfl))

theorem phase_continues {phase : Phase} (h : Consistent state (⟨monitor, phase⟩ :: others))
    (hAlone : phase.Enters state → ∀ other ∈ others, ¬other.phase.Inside)
    (hStarts : phase.StartsDevices → state.voiceEngine ≠ none →
      attempt.startCapture = true ∧ attempt.startPlayback = true) :
    Continues ⟨monitor, phase⟩ others (phase.run attempt state) := by
  have hRole := (List.forall_mem_cons.mp h.roles).1
  cases phase with
  | registering => exact registering_continues h (hAlone trivial)
  | startingDevices => exact startingDevices_continues h (hStarts trivial)
  | takingChannels => exact takingChannels_continues h
  | restarting => exact restarting_continues h hAlone (hStarts trivial)
  | openingPackets => exact openingPackets_continues h
  | watchingErrors => exact watchingErrors_continues h
  | storing => exact storing_continues h
  | stoppingEngine => exact stoppingEngine_continues h (hAlone trivial)
  | clearingPackets => exact clearingPackets_continues h
  | leaving =>
    exact h.disrupt (not_inside id nofun) (.inl (hRole.resolve_right id)) trivial
      (map_eq_none_iff _) (.inl rfl) rfl rfl
  | awaitingToStop awaited =>
    rw [Phase.run]
    refine h.disrupt (Phase.Disrupts.outside trivial) (.inl (hRole.resolve_right id)) ?_ Iff.rfl (.inl rfl) rfl rfl
    split <;> trivial
  | checkingActive =>
    have hMonitor := hRole.resolve_right id
    rw [Phase.run]
    split
    · exact h.wait (.inl hMonitor) ⟨id, not_inside id nofun⟩ (not_inside id nofun)
    · exact h.finish_quiet hMonitor id (not_inside id nofun)
  | takingAll =>
    exact h.disrupt (not_inside id nofun) (.inl (hRole.resolve_right id)) trivial
      (map_eq_none_iff _) (.inl rfl) rfl rfl
  | awaitingToRestart awaited =>
    rw [Phase.run]
    refine h.disrupt (Phase.Disrupts.outside trivial) (.inl (hRole.resolve_right id)) ?_ Iff.rfl (.inl rfl) rfl rfl
    split <;> trivial
  | checkingEngine =>
    cases hHandle : state.voiceEngine with
    | none =>
      simp only [Phase.run, hHandle]
      exact h.finish_no_engine nofun hHandle
    | some handle =>
      simp only [Phase.run, hHandle]
      exact h.wait (.inr trivial) ⟨id, not_inside id nofun⟩ (not_inside id nofun)
  | takingLoops =>
    exact h.disrupt (not_inside id nofun) (.inr trivial) trivial
      (map_eq_none_iff _) (.inl rfl) rfl rfl
  | closingPackets =>
    exact h.disrupt (Phase.Disrupts.outside trivial) (.inr trivial) trivial Iff.rfl (.inr rfl) rfl rfl
  | stoppingDevices =>
    exact h.disrupt (Phase.Disrupts.outside trivial) (.inr trivial) trivial (map_eq_none_iff _) (.inl rfl) rfl rfl

end

theorem Consistent.begin (h : Consistent state operations) {phase : Phase} {monitor : Option Nat}
    (hRole : monitor = none ∨ phase.Swaps) (hOutside : ¬phase.Inside)
    (hMonitor : ∀ task, monitor = some task → task ∈ state.monitors) :
    Consistent state (⟨monitor, phase⟩ :: operations) where
  alone := List.pairwise_cons.mpr ⟨fun _ _ hBoth => hOutside hBoth.1, h.alone⟩
  numbered := ⟨h.numbered.monitors, List.forall_mem_cons.mpr
    ⟨fun task hTask => h.numbered.monitors task (hMonitor task hTask), h.numbered.operations⟩⟩
  roles := List.forall_mem_cons.mpr ⟨hRole, h.roles⟩
  registered := List.forall_mem_cons.mpr ⟨fun hInstalls => absurd hInstalls.inside hOutside, h.registered⟩
  cleared := List.forall_mem_cons.mpr ⟨fun hClearing => absurd (.inr hClearing) hOutside, h.cleared⟩
  closed := fun hNone => (h.closed hNone).imp id
    fun ⟨other, hOther, hClearing⟩ => ⟨other, List.mem_cons_of_mem _ hOther, hClearing⟩
  inOrder := by
    intro hQuiet
    obtain ⟨hReady, hSound⟩ := h.inOrder (List.forall_mem_cons.mp hQuiet).2
    exact ⟨List.forall_mem_cons.mpr ⟨fun hInside => absurd hInside hOutside, hReady⟩,
      fun hNone => hSound (List.forall_mem_cons.mp hNone).2⟩

/-- The end of a monitor that nobody keeps. -/
theorem Consistent.endMonitor (h : Consistent state operations) {monitor : Nat}
    (hEnds : state.voiceEngine = none ∨ ¬VoiceCalls.Kept ⟨state, operations⟩ monitor) :
    Consistent (VoiceCalls.release state (some monitor)) operations where
  alone := h.alone
  numbered := ⟨fun task hTask => h.numbered.monitors task (mem_release hTask), h.numbered.operations⟩
  roles := h.roles
  registered := h.registered
  cleared := h.cleared
  closed := h.closed
  inOrder := by
    rcases hEnds with hNone | hFree
    · exact inOrder_of_no_engine hNone h.registered (h.closed hNone)
    · intro hQuiet
      obtain ⟨hReady, hSound⟩ := h.inOrder hQuiet
      refine ⟨fun operation hOperation hInside => ?_, fun hOutside => ?_⟩
      · have hBefore := hReady operation hOperation hInside
        rw [Ready] at hBefore ⊢
        cases hPhase : operation.phase with
        | storing send receive stored =>
          rw [hPhase] at hBefore
          obtain ⟨handle, hHandle, hStreams, hPackets, task, hTask, rfl, hFresh⟩ := hBefore
          have hOther : some monitor ≠ some task := fun hSame =>
            hFree (.inr ⟨operation, hOperation, by rw [hPhase]; exact hSame.symm⟩)
          exact ⟨handle, hHandle, hStreams, hPackets, task, mem_release_of_ne hTask hOther, rfl, hFresh⟩
        | _ =>
          rw [hPhase] at hBefore
          exact hBefore
      · have hBefore := hSound hOutside
        have hEngine : (VoiceCalls.release state (some monitor)).voiceEngine = state.voiceEngine := rfl
        rw [Sound] at hBefore ⊢
        rw [hEngine]
        cases hHandle : state.voiceEngine with
        | none =>
          rw [hHandle] at hBefore
          exact hBefore
        | some handle =>
          rw [hHandle] at hBefore
          obtain ⟨task, hTask, hStored⟩ := hBefore.monitors
          have hOther : some monitor ≠ some task := fun hSame => hFree (.inl (by
            rw [hHandle, Option.bind_some, VoiceEngineHandle.monitorTask, hStored]
            exact hSame.symm))
          exact {
            sends := hBefore.sends
            receives := hBefore.receives
            monitors := ⟨task, mem_release_of_ne hTask hOther, hStored⟩ }

end

theorem step_consistent {calls : VoiceCalls} (action : VoiceAction) (h : Consistent calls.state calls.operations)
    (hApart : calls.KeepApart action) : Consistent (calls.step action).state (calls.step action).operations := by
  have hBegin {phase : Phase} {monitor : Option Nat} (hNew : Consistent calls.state (⟨monitor, phase⟩ :: calls.operations)) :
      Consistent (calls.begin monitor phase).state (calls.begin monitor phase).operations :=
    hNew.perm (List.perm_append_singleton _ _).symm
  cases action with
  | joinVoiceChannel channelId =>
    rw [VoiceCalls.step]
    split
    · exact h
    · exact hBegin (h.begin (.inl rfl) (not_inside id nofun) nofun)
  | leaveVoice => exact hBegin (h.begin (.inl rfl) (not_inside id nofun) nofun)
  | setAudioDevices => exact hBegin (h.begin (.inl rfl) (not_inside id nofun) nofun)
  | loseDevice monitor =>
    rw [VoiceCalls.step]
    split
    · next hWatching =>
      refine hBegin (h.begin (.inr trivial) (not_inside id nofun) ?_)
      rintro _ ⟨⟩
      exact hWatching.1
    · exact h
  | endMonitor monitor =>
    rw [VoiceCalls.step]
    split
    · next hEnds => exact h.endMonitor hEnds.2
    · exact h
  | advance index attempt =>
    rw [VoiceCalls.step, VoiceCalls.advance]
    cases hOperation : calls.operations[index]? with
    | none => exact h
    | some operation =>
      obtain ⟨hIndex, hAt⟩ := List.getElem?_eq_some_iff.mp hOperation
      obtain ⟨hAlone, hStarts⟩ := hApart operation hOperation
      have hPerm : calls.operations.Perm (operation :: calls.operations.eraseIdx index) := by
        rw [← hAt]
        exact (List.getElem_cons_eraseIdx_perm hIndex).symm
      have hContinues := phase_continues (h.perm hPerm)
        (fun hEnters other hOther => hAlone hEnters other (List.mem_of_mem_eraseIdx hOther)) hStarts
      dsimp only
      cases hRun : operation.phase.run attempt calls.state with
      | mk after next =>
        rw [hRun] at hContinues
        cases next with
        | none => exact hContinues
        | some phase => exact hContinues.perm (List.set_perm_cons_eraseIdx hIndex _).symm

theorem start_consistent : Consistent VoiceCalls.start.state VoiceCalls.start.operations where
  alone := .nil
  numbered := ⟨nofun, nofun⟩
  roles := nofun
  registered := nofun
  cleared := nofun
  closed := fun _ => .inl rfl
  inOrder := fun _ => ⟨nofun, fun _ => rfl⟩

/-- Whenever no command is running there is no call or a live one, in every run in which the sections that put a
call in order do not overlap and the devices start. -/
theorem call_sound {actions : List VoiceAction}
    (hRun : Along VoiceCalls.step VoiceCalls.KeepApart VoiceCalls.start actions)
    (hRest : (final VoiceCalls.step VoiceCalls.start actions).operations = []) :
    Sound (final VoiceCalls.step VoiceCalls.start actions).state := by
  have h := hRun.invariant (fun calls => Consistent calls.state calls.operations)
    (fun _ action h hApart => step_consistent action h hApart) start_consistent
  rw [hRest] at h
  obtain ⟨-, hSound⟩ := h.inOrder nofun
  exact hSound nofun

/-! ## One command at a time -/

def VoiceAction.Works : VoiceAction → Bool
  | .advance _ attempt => attempt.startCapture && attempt.startPlayback
  | _ => true

/-- At most one command runs, and the devices work. -/
def Solitary (calls : VoiceCalls) (action : VoiceAction) : Prop :=
  calls.operations.length ≤ 1 ∧ action.Works = true

instance (calls : VoiceCalls) (action : VoiceAction) : Decidable (Solitary calls action) :=
  inferInstanceAs (Decidable (_ ∧ _))

theorem Phase.Enters.outside {phase : Phase} {state : VoiceState} (h : phase.Enters state) : ¬phase.Inside := by
  rintro (hInstalls | rfl)
  · cases phase <;> first | exact h | exact hInstalls
  · exact h

theorem Solitary.keepApart {calls : VoiceCalls} {action : VoiceAction} (h : Solitary calls action) :
    calls.KeepApart action := by
  cases action with
  | advance index attempt =>
    intro operation hOperation
    constructor
    · intro hEnters other hOther
      obtain ⟨position, hPosition⟩ := List.mem_iff_getElem?.mp hOther
      have hIndex := (List.getElem?_eq_some_iff.mp hOperation).1
      have hBelow := (List.getElem?_eq_some_iff.mp hPosition).1
      have hLength := h.1
      obtain rfl : position = index := by omega
      obtain rfl := Option.some.inj (hPosition.symm.trans hOperation)
      exact hEnters.outside
    · intro _ _
      exact Bool.and_eq_true_iff.mp h.2
  | _ => trivial

def working : Attempt := ⟨true, true, true⟩

/-- A user joins, leaves, joins again and changes the devices. -/
def rejoinAndChange : List VoiceAction :=
  [.joinVoiceChannel "lobby"] ++ List.replicate 6 (.advance 0 working) ++
  [.leaveVoice, .advance 0 working, .endMonitor 3] ++ List.replicate 3 (.advance 0 working) ++
  [.joinVoiceChannel "lobby"] ++ List.replicate 6 (.advance 0 working) ++
  [.setAudioDevices, .advance 0 working, .advance 0 working, .endMonitor 7] ++ List.replicate 8 (.advance 0 working)

theorem call_sound_changed : Sound (final VoiceCalls.step VoiceCalls.start rejoinAndChange).state := by
  have hSolitary : Along VoiceCalls.step Solitary VoiceCalls.start rejoinAndChange := by decide +kernel
  exact call_sound (hSolitary.imp fun _ _ => Solitary.keepApart) (by decide +kernel)

/-- A user joins without a microphone. -/
def failedJoin : List VoiceAction :=
  [.joinVoiceChannel "lobby", .advance 0 working, .advance 0 ⟨true, false, true⟩]

theorem call_dead_after_failed_join :
    ¬∀ actions, (final VoiceCalls.step VoiceCalls.start actions).operations = [] →
      Sound (final VoiceCalls.step VoiceCalls.start actions).state := by
  intro hAll
  have hSound := hAll failedJoin (by decide +kernel)
  obtain ⟨capture, hCapture, -⟩ := Live.sends hSound
  exact nomatch hCapture

end Rekindle.Voice.CallLifecycle
