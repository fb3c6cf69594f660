import Rekindle.Community.KeyRotation

/-! # The local copy of a channel

A client stores its own messages when it sends them, under its own clock, and those of others as broadcasts and pages
of the history bring them, under the server's. One index keeps both apart and drops what has a row already.
-/
namespace Rekindle.Community
set_option autoImplicit false
open ByteWords Server Runs

/-- AES-GCM with the key opens what it has sealed. -/
def Membership.Deciphers (member : Membership) : Prop :=
  ∀ key nonce plaintext, key.length = 32 → nonce.length = 12 →
    member.openBytes key nonce (member.sealBytes key nonce plaintext) = some plaintext

namespace Exchange

variable (member : Membership) (s : Exchange)

/-- Sends, broadcasts and fetches of the history, while the key stays. -/
def Chats : ExchangeEvent → Prop
  | .accept _ _ _ _ _ | .deliver _ | .answerHistory _ _ | .receiveHistory _ | .compose _ _ _ _ | .submit _ _ _ => True
  | .rotate _ | .mekChange | .answerMek | .receiveMek => False

/-- When nothing is on its way, the rows of a channel in the order of their timestamps are the messages that the
server has of it, in the order it has stored them. -/
def MirrorsHistory : Prop :=
  s.inbox = [] → s.outgoing = [] → ∀ (channelId : String) (rows : List MessageRow),
    rows.Perm (s.store.messages.filter (·.conversationId = channelId)) →
    rows.Pairwise (fun earlier later => earlier.timestamp ≤ later.timestamp) →
    rows.map (fun row => (row.senderKey, row.body)) =
      (s.accepted.filter (·.channelId = channelId)).map fun message =>
        (message.dto.senderPseudonym, (member.decrypt s.mek message.dto.ciphertext).elim "" bodyOf)

/-- The row of a message of the client that the server has not confirmed. -/
def Unsent (row : MessageRow) : Prop :=
  row.senderKey = member.myPseudonymKey ∧
    ∃ pending ∈ s.outgoing, pending.channelId = row.conversationId ∧ pending.timestamp = row.timestamp

/-- The timestamp is later than those of the rows and of the waiting messages of the channel. -/
def LaterThanAll (channelId : String) (timestamp : Int64) : Prop :=
  (∀ row ∈ s.store.messages, row.conversationId = channelId → ¬s.Unsent member row → row.timestamp < timestamp) ∧
    ∀ message : ChannelMessage, message.broadcast member.communityId ∈ s.inbox → message.channelId = channelId →
      message.dto.timestamp.toInt64 < timestamp

/-- A new message comes with a later timestamp than all before it, one of another member opens, one of the client is
confirmed, and the history brings none of the client's without a row of its timestamp. -/
def InTime : ExchangeEvent → Prop
  | .accept sender channelId ciphertext mekGeneration now =>
    sender ≠ member.myPseudonymKey → mekGeneration = s.mek.generation →
      member.decrypt s.mek ciphertext ≠ none ∧
        s.LaterThanAll member channelId (UInt64.ofNat
          (acceptedRow member sender channelId ciphertext mekGeneration now).timestamp.toNat).toInt64
  | .submit index _ answered =>
    ∀ pending ∈ s.outgoing[index]?, answered = true ∧ s.LaterThanAll member pending.channelId pending.timestamp
  | .receiveHistory index =>
    ∀ page ∈ s.pages[index]?, ∀ dto ∈ page.2, dto.senderPseudonym = member.myPseudonymKey →
      dto.mekGeneration = s.mek.generation →
        ∃ row ∈ s.store.messages, row.key = (page.1, member.myPseudonymKey, dto.timestamp.toInt64)
  | _ => True

/-! ## What the client should have -/

/-- A stored message as it is broadcast. -/
def relayed (mek : MediaEncryptionKey) (message : Server.MessageRow) : ChannelMessage :=
  ⟨message.channelId, message.senderPseudonym, message.ciphertext, mek.generation,
    UInt64.ofNat message.timestamp.toNat⟩

/-- The row is the client's copy of the message. -/
structure StoredAs (mek : MediaEncryptionKey) (message : Server.MessageRow) (row : MessageRow) : Prop where
  channel : row.conversationId = message.channelId
  sender : row.senderKey = message.senderPseudonym
  body : (member.decrypt mek message.ciphertext).map bodyOf = some row.body
  copied : message.senderPseudonym ≠ member.myPseudonymKey → row = Membership.storedRow (relayed mek message) row.body

/-- The rows are the copies of the server's messages, of rising timestamps in each channel. Each is stored or waits in a
broadcast, and the other rows of the client wait for the server. -/
structure Copies (mek : MediaEncryptionKey) (rows : List MessageRow) : Prop where
  served : s.mek = mek
  cached : s.cached = some mek
  generation : s.mekGeneration = mek.generation
  keyLength : mek.key.length = 32
  idle : s.fetch = none
  keys : (s.store.messages.map MessageRow.key).Nodup
  history : List.Forall₂ (StoredAs member mek) s.server.serverMessages rows
  ordered : rows.Pairwise fun earlier later =>
    earlier.conversationId = later.conversationId → earlier.timestamp < later.timestamp
  stored : ∀ row ∈ rows, row ∈ s.store.messages ∨
    row.senderKey ≠ member.myPseudonymKey ∧ ∃ message : ChannelMessage,
      row = Membership.storedRow message row.body ∧ message.broadcast member.communityId ∈ s.inbox
  waiting : ∀ broadcast ∈ s.inbox, ∃ message ∈ s.server.serverMessages,
    message.senderPseudonym ≠ member.myPseudonymKey ∧ broadcast = (relayed mek message).broadcast member.communityId
  pages : ∀ page ∈ s.pages, ∀ dto ∈ page.2, ∃ message ∈ s.server.serverMessages, messageOfRow message = ⟨page.1, dto⟩
  known : ∀ row ∈ s.store.messages, row ∈ rows ∨ s.Unsent member row
  unsent : ∀ pending ∈ s.outgoing, pending.mekGeneration = mek.generation ∧
    ∃ row ∈ s.store.messages, row ∉ rows ∧ row.key = (pending.channelId, member.myPseudonymKey, pending.timestamp) ∧
      (member.decrypt mek pending.ciphertext).map bodyOf = some row.body
  once : (s.outgoing.map fun pending => (pending.channelId, pending.timestamp)).Nodup

section
variable {member : Membership} {s : Exchange} {mek : MediaEncryptionKey} {rows : List MessageRow}

/-- Of the rows of one key there is one. -/
theorem row_eq_of_key_eq (hKeys : (s.store.messages.map MessageRow.key).Nodup) {row other : MessageRow}
    (hRow : row ∈ s.store.messages) (hOther : other ∈ s.store.messages) (hSame : row.key = other.key) : row = other :=
  List.inj_on_of_nodup_map hKeys hRow hOther hSame

theorem Copies.not_unsent (h : s.Copies member mek rows) {row : MessageRow} (hRow : row ∈ rows)
    (hStored : row ∈ s.store.messages) : ¬s.Unsent member row := by
  rintro ⟨hOwn, pending, hPending, hChannel, hTimestamp⟩
  obtain ⟨-, other, hOther, hNew, hKey, -⟩ := h.unsent pending hPending
  have hSame : other.key = row.key := by
    rw [hKey, hChannel, hTimestamp, ← hOwn]
    rfl
  exact hNew (row_eq_of_key_eq h.keys hOther hStored hSame ▸ hRow)

/-- What is later than all rows and broadcasts is later than all copies. -/
theorem Copies.lt_of_later (h : s.Copies member mek rows) {channelId : String} {timestamp : Int64}
    (hLater : s.LaterThanAll member channelId timestamp) :
    ∀ row ∈ rows, row.conversationId = channelId → row.timestamp < timestamp := by
  intro row hRow hChannel
  rcases h.stored row hRow with hStored | ⟨-, message, hCopy, hWaits⟩
  · exact hLater.1 row hStored hChannel (h.not_unsent hRow hStored)
  · rw [hCopy] at hChannel ⊢
    exact hLater.2 message hWaits hChannel

theorem exists_copy {message : Server.MessageRow} {messages : List Server.MessageRow}
    (h : List.Forall₂ (StoredAs member mek) messages rows) (hMessage : message ∈ messages) :
    ∃ row ∈ rows, StoredAs member mek message row := by
  induction h with
  | nil => cases hMessage
  | cons hHead _ ih =>
    rcases List.mem_cons.mp hMessage with rfl | hRest
    · exact ⟨_, List.mem_cons_self, hHead⟩
    · obtain ⟨row, hRow, hCopy⟩ := ih hRest
      exact ⟨row, List.mem_cons_of_mem _ hRow, hCopy⟩

/-- Of the copies of one channel and one timestamp there is one. -/
theorem copy_eq_of_time_eq (hOrdered : rows.Pairwise fun earlier later =>
    earlier.conversationId = later.conversationId → earlier.timestamp < later.timestamp)
    {row other : MessageRow} (hRow : row ∈ rows) (hOther : other ∈ rows)
    (hChannel : row.conversationId = other.conversationId) (hTime : row.timestamp = other.timestamp) : row = other := by
  have hSymmetric : Std.Symm fun a b : MessageRow => a.conversationId = b.conversationId → a.timestamp ≠ b.timestamp :=
    ⟨fun _ _ hBoth hSame hTimes => hBoth hSame.symm hTimes.symm⟩
  have hApart : rows.Pairwise fun a b => a.conversationId = b.conversationId → a.timestamp ≠ b.timestamp :=
    hOrdered.imp fun hBefore hSame hTimes => Int64.lt_irrefl (hTimes ▸ hBefore hSame)
  by_contra hNe
  exact hApart.forall hRow hOther hNe hChannel hTime

/-! ## Storing -/

theorem subset_keep (message : ChannelMessage) (body : String) :
    s.store.messages ⊆ (s.keep message body).store.messages := by
  unfold Exchange.keep Database.insertMessage
  dsimp only
  split
  · exact List.subset_append_left _ _
  · exact fun _ hRow => hRow

/-- The copy of another member's message gets its row, if it has none yet. -/
theorem Copies.keep (h : s.Copies member mek rows) {message : ChannelMessage} {body : String}
    (hCopy : Membership.storedRow message body ∈ rows) (hOther : message.dto.senderPseudonym ≠ member.myPseudonymKey) :
    (s.keep message body).Copies member mek rows ∧
      Membership.storedRow message body ∈ (s.keep message body).store.messages := by
  cases hFound : Keyed.find MessageRow.key (Membership.storedRow message body).key s.store.messages with
  | some other =>
    have hStore : (s.keep message body).store = s.store := by
      unfold Exchange.keep Database.insertMessage
      rw [hFound, if_neg (Option.some_ne_none other), Option.getD_none]
    have hStored : other ∈ s.store.messages := List.mem_of_find?_eq_some hFound
    have hKey : other.key = (Membership.storedRow message body).key := Keyed.key_of_find hFound
    have hRow : other ∈ rows := by
      refine (h.known other hStored).resolve_right fun hUnsent => hOther ?_
      have hSender : other.senderKey = message.dto.senderPseudonym :=
        congrArg (fun key : String × String × Int64 => key.2.1) hKey
      rw [← hSender, hUnsent.1]
    have hSame : other = Membership.storedRow message body :=
      copy_eq_of_time_eq h.ordered hRow hCopy (congrArg Prod.fst hKey)
        (congrArg (fun key : String × String × Int64 => key.2.2) hKey)
    refine ⟨⟨h.served, h.cached, h.generation, h.keyLength, h.idle, ?_, h.history, h.ordered, ?_, h.waiting, h.pages,
      ?_, ?_, h.once⟩, ?_⟩
    · rw [hStore]
      exact h.keys
    · rw [hStore]
      exact h.stored
    · rw [hStore]
      exact h.known
    · rw [hStore]
      exact h.unsent
    · rw [hStore, ← hSame]
      exact hStored
  | none =>
    have hStore : (s.keep message body).store.messages = s.store.messages ++ [Membership.storedRow message body] := by
      unfold Exchange.keep Database.insertMessage
      rw [hFound, if_pos rfl, Option.getD_some]
    have hOld : s.store.messages ⊆ (s.keep message body).store.messages := by
      rw [hStore]
      exact List.subset_append_left _ _
    refine ⟨⟨h.served, h.cached, h.generation, h.keyLength, h.idle, ?_, h.history, h.ordered, ?_, h.waiting, h.pages,
      ?_, ?_, h.once⟩, ?_⟩
    · rw [hStore, List.map_append, List.nodup_append]
      refine ⟨h.keys, List.nodup_singleton _, ?_⟩
      intro key hKey other hNew
      obtain ⟨row, hRow, rfl⟩ := List.mem_map.mp hKey
      rw [List.map_singleton, List.mem_singleton] at hNew
      rw [hNew]
      exact Keyed.find_eq_none_iff.mp hFound row hRow
    · exact fun row hRow => (h.stored row hRow).imp_left fun hStored => hOld hStored
    · intro row hRow
      rw [hStore, List.mem_append, List.mem_singleton] at hRow
      rcases hRow with hRow | rfl
      · exact h.known row hRow
      · exact .inl hCopy
    · intro pending hPending
      obtain ⟨hGeneration, row, hRow, hRest⟩ := h.unsent pending hPending
      exact ⟨hGeneration, row, hOld hRow, hRest⟩
    · rw [hStore]
      exact List.mem_append_right _ (List.mem_singleton_self _)

/-- What opens a copy. -/
theorem StoredAs.decrypts {message : Server.MessageRow} {row : MessageRow} (h : StoredAs member mek message row) :
    ∃ plaintext, member.decrypt mek message.ciphertext = some plaintext ∧ bodyOf plaintext = row.body :=
  Option.map_eq_some_iff.mp h.body

/-! ## Broadcasts -/

/-- A broadcast goes whose message is stored. -/
theorem Copies.dropBroadcast (h : s.Copies member mek rows) {index : Nat} {taken : ChannelMessage}
    (hTaken : s.inbox[index]? = some (taken.broadcast member.communityId))
    (hStored : ∀ row ∈ rows, row = Membership.storedRow taken row.body → row ∈ s.store.messages) :
    ({ s with inbox := s.inbox.eraseIdx index }).Copies member mek rows := by
  refine ⟨h.served, h.cached, h.generation, h.keyLength, h.idle, h.keys, h.history, h.ordered, ?_, ?_, h.pages,
    h.known, h.unsent, h.once⟩
  · intro row hRow
    rcases h.stored row hRow with hHere | ⟨hOther, message, hCopy, hWaits⟩
    · exact .inl hHere
    · by_cases hSame : message = taken
      · exact .inl (hStored row hRow (hSame ▸ hCopy))
      · exact .inr ⟨hOther, message, hCopy,
          mem_eraseIdx_of_ne hTaken hWaits fun hBoth => hSame (message_of_broadcast_eq hBoth)⟩
  · exact fun broadcast hWaits => h.waiting broadcast (List.mem_of_mem_eraseIdx hWaits)

theorem handleBroadcastNewMessage_relayed {message : Server.MessageRow} {row : MessageRow} (hCached : s.cached = some mek)
    (hCopy : StoredAs member mek message row) (hOther : message.senderPseudonym ≠ member.myPseudonymKey) :
    s.handleBroadcastNewMessage member (relayed mek message) = s.keep (relayed mek message) row.body := by
  obtain ⟨plaintext, hPlaintext, hBody⟩ := hCopy.decrypts
  have hOpens : member.Opens mek (relayed mek message) := ⟨rfl, Option.ne_none_iff_exists'.mpr ⟨plaintext, hPlaintext⟩⟩
  obtain ⟨opened, hOpened, hDecrypts⟩ := decrypts_of_opens hOpens
  obtain rfl := Option.some.inj (hPlaintext.symm.trans hOpened)
  rw [← hCached] at hDecrypts
  unfold Exchange.handleBroadcastNewMessage
  rw [hDecrypts, ← hBody]
  exact if_neg hOther

theorem Copies.deliver (h : s.Copies member mek rows) (index : Nat) :
    (step member s (.deliver index)).Copies member mek rows := by
  unfold step
  dsimp only
  split
  · next broadcast _ hTaken =>
    obtain ⟨message, hMessage, hOther, rfl⟩ := h.waiting broadcast (List.mem_of_getElem? hTaken)
    obtain ⟨row, hRow, hCopy⟩ := exists_copy h.history hMessage
    have hRelayed : Membership.storedRow (relayed mek message) row.body ∈ rows := hCopy.copied hOther ▸ hRow
    obtain ⟨hKept, hStored⟩ := h.keep hRelayed hOther
    have hHandled := @handleBroadcastNewMessage_relayed member { s with inbox := s.inbox.eraseIdx index } mek message row
      h.cached hCopy hOther
    change (({ s with inbox := s.inbox.eraseIdx index }).handleBroadcastNewMessage member
      (relayed mek message)).Copies member mek rows
    rw [hHandled]
    refine hKept.dropBroadcast hTaken fun other hOtherRow hSame => ?_
    rw [copy_eq_of_time_eq h.ordered hOtherRow hRelayed (hSame ▸ rfl) (hSame ▸ rfl)]
    exact hStored
  · exact h

/-! ## The history -/

theorem mem_historyPage {channelId : String} {limit : UInt32} {dto : ChannelMessageDto}
    (h : dto ∈ s.historyPage member channelId limit) :
    ∃ message ∈ s.server.serverMessages, messageOfRow message = ⟨channelId, dto⟩ := by
  obtain ⟨message, hMessage, rfl⟩ := List.mem_map.mp h
  have hPage := List.mem_of_mem_take (List.mem_reverse.mp hMessage)
  obtain ⟨hStored, hTests⟩ := List.mem_filter.mp ((List.mem_insertionSort _).mp (List.mem_reverse.mp hPage))
  have hChannel : message.channelId = channelId := eq_of_beq (Bool.and_eq_true_iff.mp (Bool.and_eq_true_iff.mp hTests).1).2
  exact ⟨message, hStored, by rw [messageOfRow, hChannel]⟩

theorem Copies.answerHistory (h : s.Copies member mek rows) (channelId : String) (limit : UInt32) :
    (step member s (.answerHistory channelId limit)).Copies member mek rows := by
  refine ⟨h.served, h.cached, h.generation, h.keyLength, h.idle, h.keys, h.history, h.ordered, h.stored, h.waiting, ?_,
    h.known, h.unsent, h.once⟩
  intro page hPage dto hDto
  rcases List.mem_append.mp hPage with hOld | hNew
  · exact h.pages page hOld dto hDto
  · rw [List.mem_singleton.mp hNew] at hDto ⊢
    exact mem_historyPage hDto

/-- A message of the client itself is not stored a second time under its timestamp. -/
theorem Copies.keepKnown (h : s.Copies member mek rows) {message : ChannelMessage} {body : String}
    (hKnown : ∃ row ∈ s.store.messages, row.key = (Membership.storedRow message body).key) :
    (s.keep message body).Copies member mek rows ∧ (s.keep message body).store = s.store := by
  have hFound : Keyed.find MessageRow.key (Membership.storedRow message body).key s.store.messages ≠ none := by
    rw [Ne, Keyed.find_eq_none_iff]
    intro hNone
    obtain ⟨row, hRow, hKey⟩ := hKnown
    exact hNone row hRow hKey
  have hStore : (s.keep message body).store = s.store := by
    unfold Exchange.keep Database.insertMessage
    rw [if_neg hFound, Option.getD_none]
  refine ⟨⟨h.served, h.cached, h.generation, h.keyLength, h.idle, ?_, h.history, h.ordered, ?_, h.waiting, h.pages, ?_, ?_,
    h.once⟩, hStore⟩
  · rw [hStore]
    exact h.keys
  · rw [hStore]
    exact h.stored
  · rw [hStore]
    exact h.known
  · rw [hStore]
    exact h.unsent

theorem relayed_of_generation {message : Server.MessageRow} {read : ChannelMessage} (hRead : messageOfRow message = read)
    (hGeneration : read.dto.mekGeneration = mek.generation) : relayed mek message = read := by
  subst hRead
  rw [relayed, ← hGeneration]
  rfl

/-- One message of a page. -/
theorem Copies.readHistoryMessage (h : s.Copies member mek rows) {read : ChannelMessage}
    (hRead : ∃ message ∈ s.server.serverMessages, messageOfRow message = read)
    (hOwn : read.dto.senderPseudonym = member.myPseudonymKey → read.dto.mekGeneration = mek.generation →
      ∃ row ∈ s.store.messages, row.key = (read.channelId, member.myPseudonymKey, read.dto.timestamp.toInt64)) :
    (s.readHistoryMessage member mek read).Copies member mek rows ∧
      s.store.messages ⊆ (s.readHistoryMessage member mek read).store.messages ∧
      (s.readHistoryMessage member mek read).server = s.server := by
  unfold Exchange.readHistoryMessage
  split
  · next hGeneration =>
    obtain hNone | ⟨plaintext, hPlaintext⟩ := Option.eq_none_or_eq_some (member.decrypt mek read.dto.ciphertext)
    · rw [hNone, Option.elim_none]
      exact ⟨h, fun _ hRow => hRow, rfl⟩
    · rw [hPlaintext, Option.elim_some]
      by_cases hSender : read.dto.senderPseudonym = member.myPseudonymKey
      · obtain ⟨row, hRow, hKey⟩ := hOwn hSender hGeneration
        rw [← hSender] at hKey
        obtain ⟨hKept, hStore⟩ := @keepKnown _ _ _ _ h read (bodyOf plaintext) ⟨row, hRow, hKey⟩
        rw [hStore]
        exact ⟨hKept, fun _ hRow => hRow, rfl⟩
      · obtain ⟨message, hMessage, hSame⟩ := hRead
        obtain rfl := relayed_of_generation hSame hGeneration
        obtain ⟨row, hRow, hCopy⟩ := exists_copy h.history hMessage
        obtain ⟨opened, hOpened, hBody⟩ := hCopy.decrypts
        obtain rfl := Option.some.inj (hPlaintext.symm.trans hOpened)
        rw [hBody]
        exact ⟨(h.keep (hCopy.copied hSender ▸ hRow) hSender).1, subset_keep _ _, rfl⟩
  · exact ⟨h, fun _ hRow => hRow, rfl⟩

theorem Copies.readHistory (h : s.Copies member mek rows) {channelId : String} {messages : List ChannelMessageDto}
    (hRead : ∀ dto ∈ messages, ∃ message ∈ s.server.serverMessages, messageOfRow message = ⟨channelId, dto⟩)
    (hOwn : ∀ dto ∈ messages, dto.senderPseudonym = member.myPseudonymKey → dto.mekGeneration = mek.generation →
      ∃ row ∈ s.store.messages, row.key = (channelId, member.myPseudonymKey, dto.timestamp.toInt64)) :
    (s.readHistory member channelId messages).Copies member mek rows := by
  unfold Exchange.readHistory
  rw [h.cached, Option.elim_some]
  induction messages generalizing s with
  | nil => exact h
  | cons dto rest ih =>
    rw [List.forall_mem_cons] at hRead hOwn
    obtain ⟨hNext, hGrown, hServer⟩ := @readHistoryMessage _ _ _ _ h ⟨channelId, dto⟩ hRead.1 hOwn.1
    refine ih hNext ?_ fun other hOther hSender hGeneration => ?_
    · rw [hServer]
      exact hRead.2
    · obtain ⟨row, hRow, hKey⟩ := hOwn.2 other hOther hSender hGeneration
      exact ⟨row, hGrown hRow, hKey⟩

theorem Copies.receiveHistory (h : s.Copies member mek rows) {index : Nat}
    (hInTime : s.InTime member (.receiveHistory index)) :
    (step member s (.receiveHistory index)).Copies member mek rows := by
  unfold step
  dsimp only
  split
  · next channelId messages hPage =>
    have hRest : ({ s with pages := s.pages.eraseIdx index }).Copies member mek rows :=
      ⟨h.served, h.cached, h.generation, h.keyLength, h.idle, h.keys, h.history, h.ordered, h.stored, h.waiting,
        fun page hOld => h.pages page (List.mem_of_mem_eraseIdx hOld), h.known, h.unsent, h.once⟩
    refine hRest.readHistory (h.pages _ (List.mem_of_getElem? hPage)) fun dto hDto hSender hGeneration => ?_
    exact hInTime _ hPage dto hDto hSender (h.served.symm ▸ hGeneration)
  · exact h

/-! ## Sending -/

/-- The message is the newest of its channel. -/
theorem Copies.ordered_append (h : s.Copies member mek rows) {row : MessageRow}
    (hLater : s.LaterThanAll member row.conversationId row.timestamp) :
    (rows ++ [row]).Pairwise fun earlier later =>
      earlier.conversationId = later.conversationId → earlier.timestamp < later.timestamp := by
  refine List.pairwise_append.mpr ⟨h.ordered, List.pairwise_singleton _ _, ?_⟩
  intro earlier hEarlier later hLast hChannel
  rw [List.mem_singleton.mp hLast] at hChannel ⊢
  exact h.lt_of_later hLater earlier hEarlier hChannel

theorem Copies.accept (h : s.Copies member mek rows) {sender channelId : String} {ciphertext : List UInt8}
    {mekGeneration now : UInt64} (hInTime : s.InTime member (.accept sender channelId ciphertext mekGeneration now)) :
    ∃ after, (step member s (.accept sender channelId ciphertext mekGeneration now)).Copies member mek after := by
  unfold step
  dsimp only
  split
  · exact ⟨rows, h⟩
  · next hOther =>
    by_cases hCurrent : mekGeneration = s.mek.generation
    · obtain ⟨hOpens, hLater⟩ := hInTime hOther hCurrent
      rw [h.served] at hCurrent hOpens
      obtain ⟨plaintext, hPlaintext⟩ := Option.ne_none_iff_exists'.mp hOpens
      let message := acceptedRow member sender channelId ciphertext mekGeneration now
      let row := Membership.storedRow (relayed mek message) (bodyOf plaintext)
      have hBroadcast : (relayed mek message).broadcast member.communityId =
          .newMessage member.communityId channelId sender ciphertext mekGeneration
            (UInt64.ofNat message.timestamp.toNat) := by
        rw [hCurrent]
        rfl
      have hAccepted : s.acceptMessage member sender channelId ciphertext mekGeneration now =
          { s with
            server := { s.server with serverMessages := s.server.serverMessages ++ [message] }
            inbox := s.inbox ++ [(relayed mek message).broadcast member.communityId] } := by
        rw [acceptMessage, if_pos (h.served.symm ▸ hCurrent)]
        dsimp only
        rw [if_neg hOther, hBroadcast]
      have hCopy : StoredAs member mek message row :=
        ⟨rfl, rfl, congrArg (Option.map bodyOf) hPlaintext, fun _ => rfl⟩
      rw [hAccepted]
      refine ⟨rows ++ [row], h.served, h.cached, h.generation, h.keyLength, h.idle, h.keys,
        List.rel_append h.history (.cons hCopy .nil), h.ordered_append hLater, ?_, ?_, ?_, ?_, ?_, h.once⟩
      · intro other hRow
        rcases List.mem_append.mp hRow with hOld | hNew
        · refine (h.stored other hOld).imp_right ?_
          rintro ⟨hSender, waiting, hSame, hWaits⟩
          exact ⟨hSender, waiting, hSame, List.mem_append_left _ hWaits⟩
        · rw [List.mem_singleton.mp hNew]
          exact .inr ⟨hOther, relayed mek message, rfl, List.mem_append_right _ (List.mem_singleton_self _)⟩
      · intro broadcast hWaits
        rcases List.mem_append.mp hWaits with hOld | hNew
        · obtain ⟨waiting, hWaiting, hRest⟩ := h.waiting broadcast hOld
          exact ⟨waiting, List.mem_append_left _ hWaiting, hRest⟩
        · exact ⟨message, List.mem_append_right _ (List.mem_singleton_self _), hOther, List.mem_singleton.mp hNew⟩
      · intro page hPage dto hDto
        obtain ⟨read, hRead, hSame⟩ := h.pages page hPage dto hDto
        exact ⟨read, List.mem_append_left _ hRead, hSame⟩
      · exact fun other hStored => (h.known other hStored).imp_left (List.mem_append_left _)
      · intro pending hPending
        obtain ⟨hGeneration, other, hStored, hNew, hKey, hBody⟩ := h.unsent pending hPending
        refine ⟨hGeneration, other, hStored, fun hRow => ?_, hKey, hBody⟩
        rcases List.mem_append.mp hRow with hOld | hLast
        · exact hNew hOld
        · rw [List.mem_singleton.mp hLast] at hKey
          exact hOther (congrArg (fun key : String × String × Int64 => key.2.1) hKey)
    · rw [acceptMessage_of_ne hCurrent]
      exact ⟨rows, h⟩

theorem Copies.compose (h : s.Copies member mek rows) (hCipher : member.Deciphers) (channelId body : String)
    (nonce : Window UInt8 12) (timestamp : Int64) :
    (step member s (.compose channelId body nonce timestamp)).Copies member mek rows := by
  let row : MessageRow :=
    { conversationId := channelId, senderKey := member.myPseudonymKey, body := body, timestamp := timestamp
      isRead := true, mekGeneration := s.mekGeneration.toInt64 }
  let pending : PendingChannelMessage :=
    { communityId := member.communityId, channelId := channelId
      ciphertext := member.encrypt mek nonce.val (Utf8.toBytes body)
      mekGeneration := s.mekGeneration, timestamp := timestamp }
  have hComposed : step member s (.compose channelId body nonce timestamp) =
      (s.store.insertMessage row).elim s fun store => { s with store, outgoing := s.outgoing ++ [pending] } := by
    change s.compose member channelId body nonce.val timestamp = _
    unfold Exchange.compose
    rw [h.cached]
    rfl
  have hOpens : member.decrypt mek pending.ciphertext = some (Utf8.toBytes body) := by
    change member.decrypt mek (nonce.val ++ member.sealBytes mek.key nonce.val (Utf8.toBytes body)) = _
    have hLength : 12 ≤ (nonce.val ++ member.sealBytes mek.key nonce.val (Utf8.toBytes body)).length := by
      rw [List.length_append, nonce.property]
      exact Nat.le_add_right _ _
    rw [Membership.decrypt, if_neg (Nat.not_lt.mpr hLength), List.take_left' nonce.property,
      List.drop_left' nonce.property]
    exact hCipher _ _ _ h.keyLength nonce.property
  rw [hComposed]
  unfold Database.insertMessage
  by_cases hFound : Keyed.find MessageRow.key row.key s.store.messages = none
  · rw [if_pos hFound, Option.elim_some]
    have hNew : ∀ other ∈ s.store.messages, other.key ≠ row.key := Keyed.find_eq_none_iff.mp hFound
    refine ⟨h.served, h.cached, h.generation, h.keyLength, h.idle, ?_, h.history, h.ordered, ?_, h.waiting, h.pages, ?_,
      ?_, ?_⟩
    · rw [List.map_append, List.nodup_append]
      refine ⟨h.keys, List.nodup_singleton _, ?_⟩
      intro key hKey other hLast
      obtain ⟨known, hKnown, rfl⟩ := List.mem_map.mp hKey
      rw [List.map_singleton, List.mem_singleton] at hLast
      rw [hLast]
      exact hNew known hKnown
    · exact fun other hOther => (h.stored other hOther).imp_left (List.mem_append_left _)
    · intro other hOther
      rcases List.mem_append.mp hOther with hOld | hLast
      · refine (h.known other hOld).imp_right ?_
        rintro ⟨hSender, waiting, hWaiting, hSame⟩
        exact ⟨hSender, waiting, List.mem_append_left _ hWaiting, hSame⟩
      · rw [List.mem_singleton.mp hLast]
        exact .inr ⟨rfl, pending, List.mem_append_right _ (List.mem_singleton_self _), rfl, rfl⟩
    · intro other hOther
      rcases List.mem_append.mp hOther with hOld | hLast
      · obtain ⟨hGeneration, known, hKnown, hRest⟩ := h.unsent other hOld
        exact ⟨hGeneration, known, List.mem_append_left _ hKnown, hRest⟩
      · rw [List.mem_singleton.mp hLast]
        refine ⟨h.generation, row, List.mem_append_right _ (List.mem_singleton_self _), fun hCopy => ?_, rfl, ?_⟩
        · rcases h.stored row hCopy with hStored | ⟨hSender, -⟩
          · exact hNew row hStored rfl
          · exact hSender rfl
        · rw [hOpens, Option.map_some, bodyOf, Utf8.ofBytes_toBytes, Option.getD_some]
    · rw [List.map_append, List.nodup_append]
      refine ⟨h.once, List.nodup_singleton _, ?_⟩
      intro key hKey other hLast
      obtain ⟨waiting, hWaiting, rfl⟩ := List.mem_map.mp hKey
      obtain ⟨-, known, hKnown, -, hKnownKey, -⟩ := h.unsent waiting hWaiting
      rw [List.map_singleton, List.mem_singleton] at hLast
      rw [hLast]
      intro hSame
      refine hNew known hKnown (hKnownKey.trans ?_)
      exact congrArg (fun key : String × Int64 => (key.1, member.myPseudonymKey, key.2)) hSame
  · rw [if_neg hFound, Option.elim_none]
    exact h

/-- Another message of the client has another channel or another timestamp. -/
theorem ne_of_mem_eraseIdx {index : Nat} {taken pending : PendingChannelMessage}
    (hOnce : (s.outgoing.map fun pending => (pending.channelId, pending.timestamp)).Nodup)
    (hTaken : s.outgoing[index]? = some taken) (hPending : pending ∈ s.outgoing.eraseIdx index) :
    (pending.channelId, pending.timestamp) ≠ (taken.channelId, taken.timestamp) := by
  obtain ⟨place, hNe, hPlace⟩ := List.mem_eraseIdx_iff_getElem?.mp hPending
  intro hSame
  obtain ⟨hLess, -⟩ := List.getElem?_eq_some_iff.mp hPlace
  refine hNe ((List.getElem?_inj ?_ hOnce).mp ?_)
  · rwa [List.length_map]
  · rw [List.getElem?_map, List.getElem?_map, hPlace, hTaken]
    exact congrArg some hSame

theorem Copies.submit (h : s.Copies member mek rows) {index : Nat} {now : UInt64} {answered : Bool}
    (hInTime : s.InTime member (.submit index now answered)) :
    ∃ after, (step member s (.submit index now answered)).Copies member mek after := by
  change ∃ after, (s.submit member index now answered).Copies member mek after
  unfold Exchange.submit
  cases hTaken : s.outgoing[index]? with
  | none => exact ⟨rows, h⟩
  | some taken =>
    obtain ⟨hAnswered, hLater⟩ := hInTime taken hTaken
    obtain ⟨hGeneration, row, hStored, hNew, hKey, hBody⟩ := h.unsent taken (List.mem_of_getElem? hTaken)
    have hCurrent : taken.mekGeneration = s.mek.generation := by rw [hGeneration, h.served]
    let message := acceptedRow member member.myPseudonymKey taken.channelId taken.ciphertext taken.mekGeneration now
    have hAccepted : s.acceptMessage member member.myPseudonymKey taken.channelId taken.ciphertext taken.mekGeneration
        now = { s with server := { s.server with serverMessages := s.server.serverMessages ++ [message] } } := by
      rw [acceptMessage, if_pos hCurrent]
      dsimp only
      rw [if_pos rfl]
    have hChannel : row.conversationId = taken.channelId := congrArg Prod.fst hKey
    have hSender : row.senderKey = member.myPseudonymKey :=
      congrArg (fun key : String × String × Int64 => key.2.1) hKey
    have hTime : row.timestamp = taken.timestamp := congrArg (fun key : String × String × Int64 => key.2.2) hKey
    have hCopy : StoredAs member mek message row := ⟨hChannel, hSender, hBody, fun hOther => absurd rfl hOther⟩
    rw [← hChannel, ← hTime] at hLater
    dsimp only
    rw [hAccepted, if_pos ⟨hCurrent, hAnswered⟩]
    refine ⟨rows ++ [row], h.served, h.cached, h.generation, h.keyLength, h.idle, h.keys,
      List.rel_append h.history (.cons hCopy .nil), h.ordered_append hLater, ?_, ?_, ?_, ?_, ?_, ?_⟩
    · intro other hRow
      rcases List.mem_append.mp hRow with hOld | hLast
      · exact h.stored other hOld
      · rw [List.mem_singleton.mp hLast]
        exact .inl hStored
    · intro broadcast hWaits
      obtain ⟨waiting, hWaiting, hRest⟩ := h.waiting broadcast hWaits
      exact ⟨waiting, List.mem_append_left _ hWaiting, hRest⟩
    · intro page hPage dto hDto
      obtain ⟨read, hRead, hSame⟩ := h.pages page hPage dto hDto
      exact ⟨read, List.mem_append_left _ hRead, hSame⟩
    · intro other hOther
      rcases h.known other hOther with hOld | ⟨hOwn, pending, hPending, hPendingChannel, hPendingTime⟩
      · exact .inl (List.mem_append_left _ hOld)
      · by_cases hSame : pending = taken
        · have hKeys : other.key = row.key := by
            rw [hKey, ← hSame, hPendingChannel, hPendingTime, ← hOwn]
            rfl
          rw [row_eq_of_key_eq h.keys hOther hStored hKeys]
          exact .inl (List.mem_append_right _ (List.mem_singleton_self _))
        · exact .inr ⟨hOwn, pending, mem_eraseIdx_of_ne hTaken hPending hSame, hPendingChannel, hPendingTime⟩
    · intro pending hPending
      obtain ⟨hOtherGeneration, other, hOther, hOtherNew, hOtherKey, hOtherBody⟩ :=
        h.unsent pending (List.mem_of_mem_eraseIdx hPending)
      refine ⟨hOtherGeneration, other, hOther, fun hRow => ?_, hOtherKey, hOtherBody⟩
      rcases List.mem_append.mp hRow with hOld | hLast
      · exact hOtherNew hOld
      · rw [List.mem_singleton.mp hLast, hKey] at hOtherKey
        refine ne_of_mem_eraseIdx h.once hTaken hPending (Prod.ext ?_ ?_)
        · exact (congrArg Prod.fst hOtherKey).symm
        · exact (congrArg (fun key : String × String × Int64 => key.2.2) hOtherKey).symm
    · exact h.once.sublist ((List.eraseIdx_sublist _ _).map _)

/-! ## Runs -/

theorem copies_joined (generation : UInt64) (mekKey : Window UInt8 32) :
    (joined generation mekKey).Copies member ⟨generation, mekKey.val⟩ [] where
  served := rfl
  cached := rfl
  generation := rfl
  keyLength := mekKey.property
  idle := rfl
  keys := List.nodup_nil
  history := .nil
  ordered := .nil
  stored := fun _ hRow => absurd hRow List.not_mem_nil
  waiting := fun _ hWaits => absurd hWaits List.not_mem_nil
  pages := fun _ hPage => absurd hPage List.not_mem_nil
  known := fun _ hRow => absurd hRow List.not_mem_nil
  unsent := fun _ hPending => absurd hPending List.not_mem_nil
  once := List.nodup_nil

theorem map_copies (messages : List Server.MessageRow) (h : List.Forall₂ (StoredAs member mek) messages rows)
    (channelId : String) :
    (rows.filter (·.conversationId = channelId)).map (fun row => (row.senderKey, row.body)) =
      ((messages.map messageOfRow).filter (·.channelId = channelId)).map fun message =>
        (message.dto.senderPseudonym, (member.decrypt mek message.dto.ciphertext).elim "" bodyOf) := by
  induction h with
  | nil => rfl
  | @cons message row _ _ hCopy _ ih =>
    have hSame : (row.senderKey, row.body) =
        (message.senderPseudonym, (member.decrypt mek message.ciphertext).elim "" bodyOf) := by
      obtain ⟨plaintext, hPlaintext, hBody⟩ := hCopy.decrypts
      rw [hPlaintext, Option.elim_some, hBody, hCopy.sender]
    have hChannel : (messageOfRow message).channelId = message.channelId := rfl
    rw [List.map_cons, List.filter_cons, List.filter_cons, hCopy.channel, hChannel]
    split
    · rw [List.map_cons, List.map_cons, ih, hSame]
      rfl
    · exact ih

theorem Copies.mirrorsHistory (h : s.Copies member mek rows) : s.MirrorsHistory member := by
  intro hInbox hOutgoing channelId found hPerm hSorted
  have hSame : ∀ row, row ∈ s.store.messages ↔ row ∈ rows := by
    intro row
    constructor
    · intro hStored
      refine (h.known row hStored).resolve_right ?_
      rintro ⟨-, pending, hPending, -⟩
      rw [hOutgoing] at hPending
      cases hPending
    · intro hRow
      refine (h.stored row hRow).resolve_right ?_
      rintro ⟨-, message, -, hWaits⟩
      rw [hInbox] at hWaits
      cases hWaits
  have hStrict : (rows.filter (·.conversationId = channelId)).Pairwise
      fun earlier later => earlier.timestamp < later.timestamp := by
    refine (h.ordered.filter _).imp_of_mem fun {earlier later} hEarlier hLater hBefore => hBefore ?_
    rw [of_decide_eq_true (List.mem_filter.mp hEarlier).2, of_decide_eq_true (List.mem_filter.mp hLater).2]
  have hNodup : (rows.filter (·.conversationId = channelId)).Nodup := by
    refine List.Pairwise.imp ?_ hStrict
    rintro earlier later hLess rfl
    exact Int64.lt_irrefl hLess
  have hStore : (s.store.messages.filter (·.conversationId = channelId)).Perm
      (rows.filter (·.conversationId = channelId)) := by
    refine (List.perm_ext_iff_of_nodup (h.keys.of_map.filter _) hNodup).mpr fun row => ?_
    rw [List.mem_filter, List.mem_filter, hSame]
  have hFound : found = rows.filter (·.conversationId = channelId) := by
    refine List.Perm.eq_of_pairwise (fun a b hA hB hLe hGe => ?_) hSorted (hStrict.imp Int64.le_of_lt)
      (hPerm.trans hStore)
    have hMemA := (hPerm.trans hStore).subset hA
    refine copy_eq_of_time_eq h.ordered (List.mem_of_mem_filter hMemA) (List.mem_of_mem_filter hB) ?_
      (Int64.le_antisymm hLe hGe)
    rw [of_decide_eq_true (List.mem_filter.mp hMemA).2, of_decide_eq_true (List.mem_filter.mp hB).2]
  rw [hFound, map_copies _ h.history, h.served]
  rfl

theorem Copies.step (h : s.Copies member mek rows) (hCipher : member.Deciphers) {event : ExchangeEvent}
    (hChats : Chats event) (hInTime : s.InTime member event) :
    ∃ after, (Exchange.step member s event).Copies member mek after := by
  cases event with
  | accept => exact h.accept hInTime
  | deliver index => exact ⟨rows, h.deliver index⟩
  | answerHistory channelId limit => exact ⟨rows, h.answerHistory channelId limit⟩
  | receiveHistory => exact ⟨rows, h.receiveHistory hInTime⟩
  | compose channelId body nonce timestamp => exact ⟨rows, h.compose hCipher channelId body nonce timestamp⟩
  | submit => exact h.submit hInTime
  | _ => exact hChats.elim

end

theorem sampleMembership_deciphers : sampleMembership.Deciphers := by
  intro key nonce plaintext hKey _
  change (if (key ++ plaintext).take 32 = key then some ((key ++ plaintext).drop 32) else none) = some plaintext
  rw [if_pos (List.take_left' hKey), List.drop_left' hKey]

/-- Bob writes, and Alice answers when she has read it. -/
def talk : List ExchangeEvent :=
  [bobSends, .deliver 0, .compose "general" "hello" (.replicate 12 0) 2000, .submit 0 1001 true]

end Exchange

end Rekindle.Community
