import Mathlib.Data.List.Sort
import Rekindle.Client.State
import Rekindle.Community.State

/-! # History queries

The two commands that read a conversation from the table. Rows of one timestamp come out in the order of
their ids, and in falling order the other way round.
-/
namespace Rekindle.Client
set_option autoImplicit false

/-- A row of `messages` with its id. -/
structure IdentifiedRow extends MessageRow where
  id : Int
  deriving DecidableEq

/-- What a command returns of a row. -/
structure HistoryMessage where
  id : Int
  senderId : String
  body : String
  timestamp : Int
  isOwn : Bool
  deriving DecidableEq

def IdentifiedRow.toMessage (isOwn : String → Bool) (row : IdentifiedRow) : HistoryMessage :=
  { id := row.id, senderId := row.senderKey, body := row.body, timestamp := row.timestamp
    isOwn := isOwn row.senderKey }

/-- The rows of a conversation, of a table in the order of its ids. -/
def conversationRows (table : List IdentifiedRow) (ownerKey conversationId : String)
    (conversationType : ConversationType) : List IdentifiedRow :=
  table.filter fun row =>
    row.ownerKey == ownerKey && row.conversationId == conversationId && row.conversationType == conversationType

def NotAfter (first second : IdentifiedRow) : Prop := first.timestamp ≤ second.timestamp

instance : DecidableRel NotAfter := fun first second => inferInstanceAs (Decidable (first.timestamp ≤ second.timestamp))

instance : Std.Total NotAfter := ⟨fun first second => Int.le_total first.timestamp second.timestamp⟩

instance : IsTrans IdentifiedRow NotAfter := ⟨fun _ _ _ => Int.le_trans⟩

/-- `ORDER BY timestamp ASC`. -/
def ascending (rows : List IdentifiedRow) : List IdentifiedRow := rows.insertionSort NotAfter

/-- `ORDER BY timestamp DESC`. -/
def descending (rows : List IdentifiedRow) : List IdentifiedRow := (ascending rows).reverse

section
variable (table : List IdentifiedRow) (ownerKey : Option String) (limit : UInt32)

/-- `get_message_history`. Without an identity the owner is the empty text. -/
def getMessageHistory (peerId : String) : List HistoryMessage :=
  let ourKey := ownerKey.getD ""
  ((ascending (conversationRows table ourKey peerId .dm)).take limit.toNat).map
    (IdentifiedRow.toMessage fun sender => sender == ourKey)

/-- Our pseudonym in the first community that has the channel. -/
def channelPseudonym (communities : List Community.CommunityState) (channelId : String) : String :=
  (communities.find? fun community => community.channels.contains channelId).elim "" fun community =>
    community.myPseudonymKey.getD ""

/-- The part of `get_channel_messages` that queries the local table. -/
def getChannelMessages (communities : List Community.CommunityState) (channelId : String) : List HistoryMessage :=
  let ourKey := ownerKey.getD ""
  let myPseudonymKey := channelPseudonym communities channelId
  (((descending (conversationRows table ourKey channelId .channel)).take limit.toNat).map
    (IdentifiedRow.toMessage fun sender => sender == ourKey || sender == myPseudonymKey)).reverse

end

/-- The result holds as many of the stored messages as the limit allows, none of them older than one that is left
out, in the order of their times. -/
structure IsNewest (stored : List HistoryMessage) (limit : Nat) (result : List HistoryMessage) : Prop where
  chronological : result.Pairwise fun first second => first.timestamp ≤ second.timestamp
  size : result.length = min limit stored.length
  newest : ∃ omitted, (omitted ++ result).Perm stored ∧
    ∀ old ∈ omitted, ∀ new ∈ result, old.timestamp ≤ new.timestamp

section
variable {stored sorted : List HistoryMessage} {limit : Nat}

/-- The end of the stored messages in their order. -/
theorem isNewest_drop (hPerm : sorted.Perm stored)
    (hSorted : sorted.Pairwise fun first second => first.timestamp ≤ second.timestamp) :
    IsNewest stored limit (sorted.drop (sorted.length - limit)) where
  chronological := hSorted.sublist (List.drop_sublist _ _)
  size := by
    rw [List.length_drop, ← hPerm.length_eq]
    omega
  newest := by
    refine ⟨sorted.take (sorted.length - limit), ?_, ?_⟩
    · rwa [List.take_append_drop]
    · intro old hOld new hNew
      rw [← List.take_append_drop (sorted.length - limit) sorted, List.pairwise_append] at hSorted
      exact hSorted.2.2 old hOld new hNew

/-- Their beginning holds the newest only if it is all there is, or nothing, or there is one time. -/
theorem isNewest_take_iff (hPerm : sorted.Perm stored)
    (hSorted : sorted.Pairwise fun first second => first.timestamp ≤ second.timestamp) :
    IsNewest stored limit (sorted.take limit) ↔
      limit = 0 ∨ stored.length ≤ limit ∨
        ∀ first ∈ stored, ∀ second ∈ stored, first.timestamp = second.timestamp := by
  have hParts := hSorted
  rw [← List.take_append_drop limit sorted, List.pairwise_append] at hParts
  obtain ⟨hTake, -, hBetween⟩ := hParts
  have hSize : (sorted.take limit).length = min limit stored.length := by
    rw [List.length_take, hPerm.length_eq]
  constructor
  · intro hNewest
    obtain ⟨omitted, hAll, hOlder⟩ := hNewest.newest
    have hOmitted : omitted.Perm (sorted.drop limit) := by
      rw [← List.perm_append_right_iff (sorted.take limit)]
      refine hAll.trans (hPerm.symm.trans ?_)
      nth_rewrite 1 [← List.take_append_drop limit sorted]
      exact List.perm_append_comm
    by_cases hBoth : limit = 0 ∨ stored.length ≤ limit
    · exact hBoth.imp_right .inl
    · -- A message that is returned and one that is left out force their time on all.
      rw [not_or, not_le] at hBoth
      have hShort : limit < sorted.length := hPerm.length_eq ▸ hBoth.2
      obtain ⟨new, hNew⟩ : ∃ new, new ∈ sorted.take limit :=
        List.exists_mem_of_length_pos (by rw [List.length_take]; omega)
      obtain ⟨old, hOld⟩ : ∃ old, old ∈ sorted.drop limit :=
        List.exists_mem_of_length_pos (by rw [List.length_drop]; omega)
      have hSame (a : HistoryMessage) (hA : a ∈ sorted.take limit) (b : HistoryMessage) (hB : b ∈ sorted.drop limit) :
          a.timestamp = b.timestamp :=
        Int.le_antisymm (hBetween a hA b hB) (hOlder b (hOmitted.mem_iff.mpr hB) a hA)
      have hTime (message : HistoryMessage) (hMessage : message ∈ stored) : message.timestamp = new.timestamp := by
        rw [← hPerm.mem_iff, ← List.take_append_drop limit sorted, List.mem_append] at hMessage
        obtain hReturned | hLeft := hMessage
        · exact (hSame message hReturned old hOld).trans (hSame new hNew old hOld).symm
        · exact (hSame new hNew message hLeft).symm
      exact .inr (.inr fun first hFirst second hSecond => (hTime first hFirst).trans (hTime second hSecond).symm)
  · intro hWhen
    refine ⟨hTake, hSize, sorted.drop limit, ?_, ?_⟩
    · refine List.perm_append_comm.trans ?_
      rwa [List.take_append_drop]
    · intro old hOld new hNew
      obtain rfl | hLong | hTimes := hWhen
      · cases hNew
      · rw [List.drop_eq_nil_of_le (hPerm.length_eq ▸ hLong)] at hOld
        cases hOld
      · exact (hTimes old (hPerm.mem_iff.mp (List.mem_of_mem_drop hOld)) new
          (hPerm.mem_iff.mp (List.mem_of_mem_take hNew))).le

end

/-! ## The two commands -/

section
variable (table : List IdentifiedRow) (ownerKey : Option String) (limit : UInt32)

/-- What is stored of a direct conversation, as the command returns it. -/
def storedDirect (peerId : String) : List HistoryMessage :=
  (conversationRows table (ownerKey.getD "") peerId .dm).map
    (IdentifiedRow.toMessage fun sender => sender == ownerKey.getD "")

def storedInChannel (communities : List Community.CommunityState) (channelId : String) : List HistoryMessage :=
  (conversationRows table (ownerKey.getD "") channelId .channel).map
    (IdentifiedRow.toMessage fun sender =>
      sender == ownerKey.getD "" || sender == channelPseudonym communities channelId)

variable {table ownerKey limit}

theorem pairwise_ascending (isOwn : String → Bool) (rows : List IdentifiedRow) :
    ((ascending rows).map (IdentifiedRow.toMessage isOwn)).Pairwise
      fun first second => first.timestamp ≤ second.timestamp :=
  List.pairwise_map.mpr (List.pairwise_insertionSort NotAfter rows)

theorem perm_ascending (isOwn : String → Bool) (rows : List IdentifiedRow) :
    ((ascending rows).map (IdentifiedRow.toMessage isOwn)).Perm (rows.map (IdentifiedRow.toMessage isOwn)) :=
  (List.perm_insertionSort NotAfter rows).map _

theorem getChannelMessages_isNewest (communities : List Community.CommunityState) (channelId : String) :
    IsNewest (storedInChannel table ownerKey communities channelId) limit.toNat
      (getChannelMessages table ownerKey limit communities channelId) := by
  have hEnd : getChannelMessages table ownerKey limit communities channelId =
      ((ascending (conversationRows table (ownerKey.getD "") channelId .channel)).map
        (IdentifiedRow.toMessage fun sender =>
          sender == ownerKey.getD "" || sender == channelPseudonym communities channelId)).drop
        (((ascending (conversationRows table (ownerKey.getD "") channelId .channel)).map
          (IdentifiedRow.toMessage fun sender =>
            sender == ownerKey.getD "" || sender == channelPseudonym communities channelId)).length - limit.toNat) := by
    rw [getChannelMessages, descending, List.take_reverse, List.map_reverse, List.reverse_reverse, List.map_drop,
      List.length_map]
  rw [hEnd]
  exact isNewest_drop (perm_ascending _ _) (pairwise_ascending _ _)

theorem getMessageHistory_isNewest_iff (peerId : String) :
    IsNewest (storedDirect table ownerKey peerId) limit.toNat (getMessageHistory table ownerKey limit peerId) ↔
      limit.toNat = 0 ∨ (storedDirect table ownerKey peerId).length ≤ limit.toNat ∨
        ∀ first ∈ storedDirect table ownerKey peerId, ∀ second ∈ storedDirect table ownerKey peerId,
          first.timestamp = second.timestamp := by
  rw [getMessageHistory, List.map_take]
  exact isNewest_take_iff (perm_ascending _ _) (pairwise_ascending _ _)

/-- Both queries return the newest messages of a conversation if and only if the direct one is no longer than the
limit, or nothing is asked of it, or all its messages are of one time. -/
theorem history_queries_newest_iff (table : List IdentifiedRow) (ownerKey : Option String) (limit : UInt32)
    (peerId : String) (communities : List Community.CommunityState) (channelId : String) :
    IsNewest (storedDirect table ownerKey peerId) limit.toNat (getMessageHistory table ownerKey limit peerId) ∧
        IsNewest (storedInChannel table ownerKey communities channelId) limit.toNat
          (getChannelMessages table ownerKey limit communities channelId) ↔
      limit.toNat = 0 ∨ (storedDirect table ownerKey peerId).length ≤ limit.toNat ∨
        ∀ first ∈ storedDirect table ownerKey peerId, ∀ second ∈ storedDirect table ownerKey peerId,
          first.timestamp = second.timestamp := by
  rw [and_iff_left (getChannelMessages_isNewest communities channelId)]
  exact getMessageHistory_isNewest_iff peerId

/-- Two messages from a peer. -/
def twoMessages : List IdentifiedRow :=
  [{ ownerKey := "bob", conversationId := "alice", conversationType := .dm, senderKey := "alice", body := "old"
     timestamp := 1, isRead := true, id := 1 },
   { ownerKey := "bob", conversationId := "alice", conversationType := .dm, senderKey := "alice", body := "new"
     timestamp := 2, isRead := false, id := 2 }]

/-- With room for one message the direct query returns the older. -/
theorem new_message_not_returned :
    ¬IsNewest (storedDirect twoMessages (some "bob") "alice") 1 (getMessageHistory twoMessages (some "bob") 1 "alice") := by
  have hWhen : ¬((1 : UInt32).toNat = 0 ∨ (storedDirect twoMessages (some "bob") "alice").length ≤ (1 : UInt32).toNat ∨
      ∀ first ∈ storedDirect twoMessages (some "bob") "alice",
        ∀ second ∈ storedDirect twoMessages (some "bob") "alice", first.timestamp = second.timestamp) := by
    decide
  exact (getMessageHistory_isNewest_iff "alice").not.mpr hWhen

end

end Rekindle.Client
