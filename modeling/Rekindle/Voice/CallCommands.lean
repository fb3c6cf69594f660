import Mathlib.Data.List.Perm.Basic
import Rekindle.Library.Runs

/-! # The commands of a voice call

The engine and the packet channel are shared. Each command runs from lock to lock, and other commands run in
between. Streams, channels and monitor tasks have numbers. The user stays logged in. A loop's shutdown sender
and its join handle are stored and taken together, and a loop whose sender is taken or dropped ends.
-/
namespace Rekindle.Voice.CallLifecycle
set_option autoImplicit false
open Runs

/-- The send loop; it ends with the capture stream it drains. -/
structure SendLoop where
  captureRx : Option Nat
  deriving DecidableEq

structure ReceiveLoop where
  playbackTx : Option Nat
  packetRx : Nat
  deriving DecidableEq

structure DeviceMonitor where
  task : Option Nat
  deriving DecidableEq

structure VoiceEngineHandle where
  channelId : String
  capture : Option Nat
  captureRx : Option Nat
  playback : Option Nat
  playbackTx : Option Nat
  deviceErrorRx : Bool
  sendLoop : Option SendLoop
  receiveLoop : Option ReceiveLoop
  deviceMonitor : Option DeviceMonitor
  deriving DecidableEq

structure VoiceState where
  voiceEngine : Option VoiceEngineHandle
  voicePacketTx : Option Nat
  /-- The monitor tasks that have not ended. -/
  monitors : List Nat
  nextId : Nat

/-- Which calls would succeed now. -/
structure Attempt where
  newEngine : Bool
  startCapture : Bool
  startPlayback : Bool

/-- What a command does next. -/
inductive Phase where
  -- `join_voice_channel`
  | registering (channelId : String)
  | startingDevices
  | takingChannels
  -- `restart_voice_loops`, and what `join_voice_channel` has in common with it
  | restarting
  | openingPackets (captureRx playbackTx : Option Nat) (joining : Bool)
  | watchingErrors (send : SendLoop) (receive : ReceiveLoop) (joining : Bool)
  | storing (send : SendLoop) (receive : ReceiveLoop) (monitor : DeviceMonitor)
  -- `shutdown_voice_loops`
  | leaving
  | awaitingToStop (monitor : Option Nat)
  | stoppingEngine
  | clearingPackets
  -- `set_audio_devices`
  | checkingActive
  | takingAll
  | awaitingToRestart (monitor : Option Nat)
  -- `handle_device_swap`
  | checkingEngine
  | takingLoops
  -- both
  | closingPackets
  | stoppingDevices
  deriving DecidableEq

/-- A running command. A hot-swap runs in a monitor task, which ends with it. -/
structure Operation where
  monitor : Option Nat
  phase : Phase
  deriving DecidableEq

structure VoiceCalls where
  state : VoiceState
  operations : List Operation

inductive VoiceAction where
  | joinVoiceChannel (channelId : String)
  | leaveVoice
  | setAudioDevices
  /-- The monitor notices that a device is gone. -/
  | loseDevice (monitor : Nat)
  /-- A monitor that has been told to, or finds no engine, ends. -/
  | endMonitor (monitor : Nat)
  /-- A command goes on. -/
  | advance (operation : Nat) (attempt : Attempt)

def VoiceEngineHandle.new (channelId : String) : VoiceEngineHandle where
  channelId
  capture := none
  captureRx := none
  playback := none
  playbackTx := none
  deviceErrorRx := true
  sendLoop := none
  receiveLoop := none
  deviceMonitor := none

namespace VoiceEngineHandle

/-- `start_capture` and `start_playback`, and whether both succeed. -/
def startDevices (handle : VoiceEngineHandle) (attempt : Attempt) (id : Nat) : VoiceEngineHandle × Bool :=
  if attempt.startCapture then
    let handle := { handle with capture := some id, captureRx := some id }
    if attempt.startPlayback then
      ({ handle with playback := some (id + 1), playbackTx := some (id + 1) }, true)
    else (handle, false)
  else (handle, false)

/-- `stop_capture` and `stop_playback`. -/
def stopDevices (handle : VoiceEngineHandle) : VoiceEngineHandle :=
  { handle with capture := none, captureRx := none, playback := none, playbackTx := none }

/-- `take_capture_rx` and `take_playback_tx`. -/
def takeChannels (handle : VoiceEngineHandle) : VoiceEngineHandle :=
  { handle with captureRx := none, playbackTx := none }

def takeLoops (handle : VoiceEngineHandle) : VoiceEngineHandle :=
  { handle with sendLoop := none, receiveLoop := none }

def takeAll (handle : VoiceEngineHandle) : VoiceEngineHandle := { handle.takeLoops with deviceMonitor := none }

def monitorTask (handle : VoiceEngineHandle) : Option Nat := handle.deviceMonitor.bind DeviceMonitor.task

end VoiceEngineHandle

/-- One step of a command: the state after it, and what it does next unless it is over. -/
def Phase.run (phase : Phase) (attempt : Attempt) (state : VoiceState) : VoiceState × Option Phase :=
  match phase with
  | .registering channelId =>
    if attempt.newEngine then
      ({ state with voiceEngine := some (.new channelId) }, some .startingDevices)
    else (state, none)
  | .startingDevices =>
    match state.voiceEngine with
    | none => (state, some .takingChannels)
    | some handle =>
      let (handle, started) := handle.startDevices attempt state.nextId
      ({ state with voiceEngine := some handle, nextId := state.nextId + 2 },
        if started then some .takingChannels else none)
  | .takingChannels =>
    match state.voiceEngine with
    -- panics
    | none => (state, none)
    | some handle =>
      ({ state with voiceEngine := some handle.takeChannels },
        some (.openingPackets handle.captureRx handle.playbackTx true))
  | .restarting =>
    match state.voiceEngine with
    | none => (state, none)
    | some handle =>
      let (handle, started) := handle.startDevices attempt state.nextId
      if started then
        ({ state with voiceEngine := some handle.takeChannels, nextId := state.nextId + 2 },
          some (.openingPackets handle.captureRx handle.playbackTx false))
      else ({ state with voiceEngine := some handle, nextId := state.nextId + 2 }, none)
  | .openingPackets captureRx playbackTx joining =>
    ({ state with voicePacketTx := some state.nextId, nextId := state.nextId + 1 },
      some (.watchingErrors ⟨captureRx⟩ ⟨playbackTx, state.nextId⟩ joining))
  | .watchingErrors send receive joining =>
    -- a join takes the receiver of the new engine, a restart makes another one
    let watched := state.voiceEngine.any fun handle => !joining || handle.deviceErrorRx
    ({ state with
        voiceEngine := state.voiceEngine.map fun handle =>
          { handle with deviceErrorRx := handle.deviceErrorRx && !joining }
        monitors := if watched then state.nextId :: state.monitors else state.monitors
        nextId := state.nextId + 1 },
      some (.storing send receive ⟨if watched then some state.nextId else none⟩))
  | .storing send receive monitor =>
    ({ state with
        voiceEngine := state.voiceEngine.map fun handle =>
          { handle with sendLoop := some send, receiveLoop := some receive, deviceMonitor := some monitor } },
      none)
  | .leaving =>
    ({ state with voiceEngine := state.voiceEngine.map VoiceEngineHandle.takeAll },
      some (.awaitingToStop (state.voiceEngine.bind VoiceEngineHandle.monitorTask)))
  | .awaitingToStop monitor =>
    (state, some (if monitor.any (· ∈ state.monitors) then .awaitingToStop monitor else .stoppingEngine))
  | .stoppingEngine => ({ state with voiceEngine := none }, some .clearingPackets)
  | .clearingPackets => ({ state with voicePacketTx := none }, none)
  | .checkingActive => (state, if state.voiceEngine.isSome then some .takingAll else none)
  | .takingAll =>
    ({ state with voiceEngine := state.voiceEngine.map VoiceEngineHandle.takeAll },
      some (.awaitingToRestart (state.voiceEngine.bind VoiceEngineHandle.monitorTask)))
  | .awaitingToRestart monitor =>
    (state, some (if monitor.any (· ∈ state.monitors) then .awaitingToRestart monitor else .closingPackets))
  | .checkingEngine => (state, if state.voiceEngine.isSome then some .takingLoops else none)
  | .takingLoops =>
    ({ state with voiceEngine := state.voiceEngine.map VoiceEngineHandle.takeLoops }, some .closingPackets)
  | .closingPackets => ({ state with voicePacketTx := none }, some .stoppingDevices)
  | .stoppingDevices =>
    ({ state with voiceEngine := state.voiceEngine.map VoiceEngineHandle.stopDevices }, some .restarting)

/-- The task whose handle the command is about to store. -/
def Phase.monitorTask : Phase → Option Nat
  | .storing _ _ monitor => monitor.task
  | _ => none

namespace VoiceCalls

def begin (calls : VoiceCalls) (monitor : Option Nat) (phase : Phase) : VoiceCalls :=
  { calls with operations := calls.operations ++ [⟨monitor, phase⟩] }

/-- The monitor is in its own loop. -/
def Watching (calls : VoiceCalls) (monitor : Nat) : Prop :=
  monitor ∈ calls.state.monitors ∧ ∀ operation ∈ calls.operations, operation.monitor ≠ some monitor

/-- Somebody keeps the monitor's shutdown sender. -/
def Kept (calls : VoiceCalls) (monitor : Nat) : Prop :=
  calls.state.voiceEngine.bind VoiceEngineHandle.monitorTask = some monitor ∨
    ∃ operation ∈ calls.operations, operation.phase.monitorTask = some monitor

instance (calls : VoiceCalls) (monitor : Nat) : Decidable (calls.Watching monitor) :=
  inferInstanceAs (Decidable (_ ∧ _))

instance (calls : VoiceCalls) (monitor : Nat) : Decidable (calls.Kept monitor) :=
  inferInstanceAs (Decidable (_ ∨ _))

/-- The state after an operation, if it was the last step of one. -/
def release (state : VoiceState) (monitor : Option Nat) : VoiceState :=
  { state with monitors := monitor.elim state.monitors state.monitors.erase }

def advance (calls : VoiceCalls) (index : Nat) (attempt : Attempt) : VoiceCalls :=
  match calls.operations[index]? with
  | none => calls
  | some operation =>
    match operation.phase.run attempt calls.state with
    | (state, some phase) => { state, operations := calls.operations.set index { operation with phase } }
    | (state, none) =>
      { state := release state operation.monitor, operations := calls.operations.eraseIdx index }

def step (calls : VoiceCalls) : VoiceAction → VoiceCalls
  | .joinVoiceChannel channelId =>
    if calls.state.voiceEngine.isSome then calls else calls.begin none (.registering channelId)
  | .leaveVoice => calls.begin none .leaving
  | .setAudioDevices => calls.begin none .checkingActive
  | .loseDevice monitor =>
    if calls.Watching monitor then calls.begin (some monitor) .checkingEngine else calls
  | .endMonitor monitor =>
    if calls.Watching monitor ∧ (calls.state.voiceEngine = none ∨ ¬calls.Kept monitor) then
      { calls with state := release calls.state (some monitor) }
    else calls
  | .advance index attempt => calls.advance index attempt

def start : VoiceCalls := ⟨⟨none, none, [], 0⟩, []⟩

end VoiceCalls

/-- The loops, the monitor and the packet channel work for the engine. -/
structure Live (state : VoiceState) (handle : VoiceEngineHandle) : Prop where
  sends : ∃ capture, handle.capture = some capture ∧ handle.sendLoop = some ⟨some capture⟩
  receives : ∃ playback packets, handle.playback = some playback ∧
    handle.receiveLoop = some ⟨some playback, packets⟩ ∧ state.voicePacketTx = some packets
  monitors : ∃ monitor ∈ state.monitors, handle.deviceMonitor = some ⟨some monitor⟩

/-- There is no call, or it is live. -/
def Sound (state : VoiceState) : Prop :=
  match state.voiceEngine with
  | none => state.voicePacketTx = none
  | some handle => Live state handle

/-! ## Sections that put a call in order -/

def Phase.Installs : Phase → Prop
  | .startingDevices | .takingChannels | .openingPackets .. | .watchingErrors .. | .storing .. => True
  | _ => False

def Phase.Inside (phase : Phase) : Prop := phase.Installs ∨ phase = .clearingPackets

/-- The next step leads inside. -/
def Phase.Enters (phase : Phase) (state : VoiceState) : Prop :=
  match phase with
  | .registering _ | .stoppingEngine => True
  | .restarting => state.voiceEngine ≠ none
  | _ => False

def Phase.StartsDevices : Phase → Prop
  | .startingDevices | .restarting => True
  | _ => False

/-- An operation goes inside only when no other is, and the devices start. -/
def VoiceCalls.KeepApart (calls : VoiceCalls) : VoiceAction → Prop
  | .advance index attempt => ∀ operation, calls.operations[index]? = some operation →
      (operation.phase.Enters calls.state → ∀ other ∈ calls.operations, ¬other.phase.Inside) ∧
      (operation.phase.StartsDevices → calls.state.voiceEngine ≠ none →
        attempt.startCapture = true ∧ attempt.startPlayback = true)
  | _ => True

end Rekindle.Voice.CallLifecycle
