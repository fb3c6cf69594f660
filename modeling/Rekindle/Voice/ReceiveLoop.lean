import Mathlib.Logic.Function.Basic
import Rekindle.Voice.PlaybackOrder

/-! # The voice loops

Codecs are taken to be created without an error. What the receive loop plays is what it hands to the
decoder of a participant. -/
namespace Rekindle.Voice
set_option autoImplicit false
open Runs JitterBuffer

/-! ### The send loop -/

structure EncodedFrame where
  data : List UInt8
  timestamp : UInt64
  sequence : UInt32
deriving DecidableEq, Repr

/-- `VoiceTransport::send`. -/
def transportSend (senderKey : List UInt8) (frame : EncodedFrame) : VoicePacket where
  senderKey := senderKey
  sequence := frame.sequence
  timestamp := frame.timestamp
  audioData := frame.data

/-- The packets of the frames that are encoded and sent, numbered on from `sequence`. -/
def voiceSendLoop (senderKey : List UInt8) : UInt32 → List EncodedFrame → List VoicePacket
  | _, [] => []
  | sequence, encoded :: rest =>
    transportSend senderKey { encoded with sequence } :: voiceSendLoop senderKey (sequence + 1) rest

/-! ### The receive loop -/

structure ParticipantDecoder where
  jitterBuffer : JitterBuffer
  isSpeaking : Bool
  lastPacketTime : Nat

structure ReceiveLoop where
  ourKeyBytes : List UInt8
  now : Nat
  participants : List UInt8 → Option ParticipantDecoder

/-- What the loop wakes up for, and the time since it last did. -/
inductive LoopEvent where
  | packet (wait : Nat) (packet : VoicePacket)
  | tick (wait : Nat)
deriving DecidableEq, Repr

def jitterBufferMs : UInt32 := 200

def participantTimeout : Nat := 5 * 1000000000

def speakingTimeout : Nat := 500 * 1000000

def ReceiveLoop.start (ourKeyBytes : List UInt8) (now : Nat) : ReceiveLoop where
  ourKeyBytes := ourKeyBytes
  now := now
  participants _ := none

def ParticipantDecoder.new (now : Nat) : ParticipantDecoder where
  jitterBuffer := JitterBuffer.new jitterBufferMs
  isSpeaking := false
  lastPacketTime := now

def ParticipantDecoder.receive (participant : ParticipantDecoder) (now : Nat) (packet : VoicePacket) :
    ParticipantDecoder where
  jitterBuffer := participant.jitterBuffer.push now packet
  isSpeaking := true
  lastPacketTime := now

/-- The branch of a packet. -/
def ReceiveLoop.receive (loop : ReceiveLoop) (packet : VoicePacket) : ReceiveLoop :=
  if packet.senderKey = loop.ourKeyBytes then loop
  else
    let participant := (loop.participants packet.senderKey).getD (ParticipantDecoder.new loop.now)
    { loop with
      participants := Function.update loop.participants packet.senderKey
        (some (participant.receive loop.now packet)) }

/-- The timeout of a participant, and its speaking state. -/
def ParticipantDecoder.keep (participant : ParticipantDecoder) (now : Nat) (jitterBuffer : JitterBuffer) :
    Option ParticipantDecoder :=
  let elapsed := now - participant.lastPacketTime
  if participantTimeout < elapsed then none
  else
    some { participant with
      jitterBuffer
      isSpeaking := participant.isSpeaking && decide (elapsed ≤ speakingTimeout) }

/-- The branch of a tick, for one participant: what is left of it, and what it plays. -/
def ParticipantDecoder.tick (participant : ParticipantDecoder) (now : Nat) :
    Option ParticipantDecoder × Option VoicePacket :=
  let (jitterBuffer, packet) := participant.jitterBuffer.pop now
  (participant.keep now jitterBuffer, packet)

def LoopEvent.wait : LoopEvent → Nat
  | .packet wait _ => wait
  | .tick wait => wait

def ReceiveLoop.passTime (loop : ReceiveLoop) (wait : Nat) : ReceiveLoop := { loop with now := loop.now + wait }

def ReceiveLoop.step (loop : ReceiveLoop) (event : LoopEvent) : ReceiveLoop :=
  let loop := loop.passTime event.wait
  match event with
  | .packet _ packet => loop.receive packet
  | .tick _ => { loop with participants key := (loop.participants key).bind fun participant => (participant.tick loop.now).1 }

/-- What the event plays of a participant. -/
def ReceiveLoop.plays (loop : ReceiveLoop) (key : List UInt8) : LoopEvent → Option VoicePacket
  | .packet _ _ => none
  | .tick wait => (loop.participants key).bind fun participant => (participant.tick (loop.now + wait)).2

def ReceiveLoop.played (key : List UInt8) : ReceiveLoop → List LoopEvent → List VoicePacket
  | _, [] => []
  | loop, event :: rest => (loop.plays key event).toList ++ played key (loop.step event) rest

/-- The packets of a sender that reach the loop. -/
def arrivals (key : List UInt8) (events : List LoopEvent) : List VoicePacket :=
  events.filterMap fun event =>
    match event with
    | .packet _ packet => if packet.senderKey = key then some packet else none
    | .tick _ => none

def ReceiveLoop.run (ourKeyBytes : List UInt8) (now : Nat) (events : List LoopEvent) : ReceiveLoop :=
  final ReceiveLoop.step (ReceiveLoop.start ourKeyBytes now) events

end Rekindle.Voice
