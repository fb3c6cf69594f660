import Rekindle.Library.ByteWords
import Rekindle.Protocol.Records

/-! # Presence values

The values that friends publish under the status, game and route subkeys of their profiles, and what a
client makes of them. Events for the interface are left out.
-/
namespace Rekindle.Client
set_option autoImplicit false
open Protocol (Bytes)

inductive UserStatus where
  | online
  | away
  | busy
  | offline
  deriving DecidableEq, Repr

/-- `status as u8`, and the byte that `publish_status` writes. -/
def UserStatus.toByte : UserStatus → UInt8
  | .online => 0
  | .away => 1
  | .busy => 2
  | .offline => 3

structure GameInfoState where
  gameId : UInt32
  gameName : String
  serverInfo : Option String
  elapsedSeconds : UInt32
  deriving DecidableEq, Repr

def subkeyDisplayName : Nat := 0
def subkeyStatusMessage : Nat := 1
def subkeyStatus : Nat := 2
def subkeyAvatar : Nat := 3
def subkeyGameInfo : Nat := 4
def subkeyPrekeyBundle : Nat := 5
def subkeyRouteBlob : Nat := 6

def profileSubkeyCount : Nat := 8

def parseStatus : Bytes → Option UserStatus
  | [] => none
  | 0 :: _ => some .online
  | 1 :: _ => some .away
  | 2 :: _ => some .busy
  | _ => some .offline

/-- `i64::to_be_bytes`. -/
def toBeBytes (timestamp : Int64) : Bytes := (ByteWords.toLeBytes 8 timestamp.toUInt64.toNat).reverse

/-- `i64::from_be_bytes`. -/
def fromBeBytes (bytes : Bytes) : Int64 := (UInt64.ofNat (ByteWords.ofLeBytes bytes.reverse)).toInt64

def parseStatusTimestamp (data : Bytes) : Option Int64 :=
  if data.length < 9 then none else some (fromBeBytes ((data.drop 1).take 8))

/-- The payload of `publish_status`. -/
def statusPayload (status : UserStatus) (timestamp : Int64) : Bytes := status.toByte :: toBeBytes timestamp

/-- In milliseconds. -/
def stalePresenceThresholdMs : Int64 := 150 * 1000

theorem fromBeBytes_toBeBytes (timestamp : Int64) : fromBeBytes (toBeBytes timestamp) = timestamp := by
  have hWord : timestamp.toUInt64.toNat < 256 ^ 8 := timestamp.toUInt64.toNat_lt
  rw [fromBeBytes, toBeBytes, List.reverse_reverse, ByteWords.ofLeBytes_toLeBytes_of_lt hWord, UInt64.ofNat_toNat]
  rfl

theorem parseStatus_cons (status : UserStatus) (rest : Bytes) : parseStatus (status.toByte :: rest) = some status := by
  cases status <;> rfl

theorem parseStatus_statusPayload (status : UserStatus) (timestamp : Int64) :
    parseStatus (statusPayload status timestamp) = some status := parseStatus_cons status _

theorem parseStatusTimestamp_statusPayload (status : UserStatus) (timestamp : Int64) :
    parseStatusTimestamp (statusPayload status timestamp) = some timestamp := by
  have hLength : (toBeBytes timestamp).length = 8 := by
    rw [toBeBytes, List.length_reverse, ByteWords.length_toLeBytes]
  rw [parseStatusTimestamp, statusPayload, if_neg (by rw [List.length_cons, hLength]; decide), List.drop_succ_cons,
    List.drop_zero, List.take_of_length_le hLength.le, fromBeBytes_toBeBytes]

/-! ## What a friend's values change -/

/-- What the presence handlers write of a friend, and the route that is cached for it. -/
structure FriendPresence where
  status : UserStatus
  gameInfo : Option GameInfoState
  lastHeartbeatAt : Option Int64
  lastSeenAt : Option Int64
  cachedRoute : Option Bytes
  deriving DecidableEq

/-- A heartbeat that is too old makes its sender offline. -/
def effectiveStatus (now : Int64) (value : Bytes) (status : UserStatus) : UserStatus :=
  if status ≠ .offline ∧ (parseStatusTimestamp value).any (fun sent => now - sent > stalePresenceThresholdMs) then
    .offline
  else status

def handleStatusChange (now : Int64) (friend : FriendPresence) (value : Bytes) : FriendPresence :=
  match parseStatus value with
  | none => friend
  | some parsed =>
    let heard := { friend with lastHeartbeatAt := (parseStatusTimestamp value).or friend.lastHeartbeatAt }
    match effectiveStatus now value parsed with
    | .offline => { heard with status := .offline, lastSeenAt := some now }
    | status => { heard with status }

section
variable (parseGame : Bytes → Option GameInfoState)

/-- `parse_game_info`; `parseGame` is what the JSON reader makes of the bytes. -/
def parseGameInfo (data : Bytes) : Option GameInfoState := if data = [] then none else parseGame data

def handleGameChange (friend : FriendPresence) (value : Bytes) : FriendPresence :=
  { friend with gameInfo := parseGameInfo parseGame value }

end

/-- `handle_route_change`: a blob is cached if the network can import it. -/
def handleRouteChange (imports : Bytes → Bool) (friend : FriendPresence) (value : Bytes) : FriendPresence :=
  if value ≠ [] ∧ imports value then { friend with cachedRoute := some value } else friend

end Rekindle.Client
