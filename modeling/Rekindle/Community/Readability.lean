import Rekindle.Community.ChannelExchange
import Rekindle.Community.KeyViews

/-! # Which messages a client can still read

The client holds one key and the server hands out one. A message is readable while some key within reach opens
it and some copy of it is within reach: on a page of the history, in a broadcast, or waiting for a key.
-/
namespace Rekindle.Community
set_option autoImplicit false
open ByteWords Server Runs

/-- The key's generation is the message's, and the key opens it. -/
def Membership.Opens (member : Membership) (mek : MediaEncryptionKey) (message : ChannelMessage) : Prop :=
  mek.generation = message.dto.mekGeneration ∧ member.decrypt mek message.dto.ciphertext ≠ none

instance (member : Membership) (mek : MediaEncryptionKey) (message : ChannelMessage) :
    Decidable (member.Opens mek message) := inferInstanceAs (Decidable (_ ∧ _))

namespace Exchange

variable (member : Membership) (s : Exchange) (message : ChannelMessage)

/-- Steps of the client and the network alone. -/
def Following : ExchangeEvent → Prop
  | .deliver _ | .answerMek | .receiveMek | .answerHistory _ _ | .receiveHistory _ => True
  | _ => False

/-- The client and the network can go on so that the client decrypts the message. -/
def CanDecrypt : Prop :=
  ∃ events, (∀ event ∈ events, Following event) ∧ message ∈ (final (step member) s events).decrypted

/-! ## Keys and copies within reach -/

/-- The key that a running fetch brings. -/
def fetched? : Option MediaEncryptionKey :=
  s.fetch.bind fun fetch => fetch.reply.bind fun reply => receivedMek reply.1 reply.2

def HasKey : Prop := ∃ mek ∈ s.cached, member.Opens mek message

def AwaitsKey : Prop := ∃ mek ∈ s.fetched?, member.Opens mek message

def Recent : Prop := message.dto ∈ s.historyPage member message.channelId 500

def OnPage : Prop := ∃ page ∈ s.pages, page.1 = message.channelId ∧ message.dto ∈ page.2

def Waiting : Prop := message.broadcast member.communityId ∈ s.inbox

def Retrying : Prop := ∃ fetch ∈ s.fetch, fetch.retry = some message

def Unanswered : Prop := ∃ fetch ∈ s.fetch, fetch.reply = none

/-- One of the keys that the server may still hand out opens the message. -/
def Served (served : List MediaEncryptionKey) : Prop := ∃ mek ∈ served, member.Opens mek message

/-- A copy is on its way to the client, and so is a key that opens it. -/
def Arriving (served : List MediaEncryptionKey) : Prop :=
  s.OnPage message ∧ (s.HasKey member message ∨ s.AwaitsKey member message ∨ Served member message served) ∨
    s.Waiting member message ∧
      (s.HasKey member message ∧ s.fetch = none ∨ s.AwaitsKey member message ∨ Served member message served) ∨
    s.Retrying message ∧ (s.AwaitsKey member message ∨ Served member message served ∧ s.Unanswered)

def Readable (served : List MediaEncryptionKey) : Prop :=
  s.Recent member message ∧ (s.HasKey member message ∨ s.AwaitsKey member message ∨ Served member message served) ∨
    s.Arriving member message served

/-- The client is about to have the server's key, or will be told that there is a new one. -/
def Alert : Prop :=
  (∃ generation, .mekRotated member.communityId generation ∈ s.inbox) ∨ s.fetch = none ∧ s.cached = some s.mek ∨
    s.Unanswered ∨ s.fetched? = some s.mek

/-- The accepted messages of others that the client has not read yet. -/
def unread : List ChannelMessage :=
  s.accepted.filter fun message =>
    message.dto.senderPseudonym != member.myPseudonymKey && !s.decrypted.contains message

/-- Nothing is lost when the client takes up a fetch: the key that it has is the server's too, or what only that
key opens can be had from the history at once. -/
def MayFetch : Prop :=
  ∀ message ∈ s.unread member, s.HasKey member message →
    member.Opens s.mek message ∨ s.Recent member message ∨ s.OnPage message

/-- What the table of the server gains leaves the unread messages among the newest, or they arrive anyway. -/
def MayStore (after : Exchange) : Prop :=
  ∀ message ∈ s.unread member, s.Recent member message →
    after.Recent member message ∨ s.Arriving member message [s.mek]

def MayHandle : CommunityBroadcast → Prop
  | .newMessage _ channelId senderPseudonym ciphertext mekGeneration timestamp =>
    let message : ChannelMessage := ⟨channelId, senderPseudonym, ciphertext, mekGeneration, timestamp⟩
    senderPseudonym ≠ member.myPseudonymKey →
      match member.decryptWithCachedMek s.cached ciphertext mekGeneration with
      | .decrypted _ => True
      | .failed => message ∈ s.unread member → s.Recent member message ∨ s.OnPage message
      | .needRefresh => s.MayFetch member
  | .mekRotated _ _ => s.MayFetch member
  | _ => True

/-- No step takes away the last way to a message that is not read yet. -/
def Spares : ExchangeEvent → Prop
  | .accept sender channelId ciphertext mekGeneration now =>
    sender ≠ member.myPseudonymKey → mekGeneration = s.mek.generation →
      member.Opens s.mek (messageOfRow (acceptedRow member sender channelId ciphertext mekGeneration now)) ∧
        s.MayStore member (s.acceptMessage member sender channelId ciphertext mekGeneration now)
  | .rotate _ => ∀ message ∈ s.unread member, member.Opens s.mek message → s.Readable member message []
  | .deliver index => s.fetch = none → ∀ broadcast ∈ s.inbox[index]?, s.MayHandle member broadcast
  | .mekChange => s.fetch = none → s.MayFetch member
  | .receiveMek =>
    ∀ message ∈ s.unread member, s.HasKey member message → s.Recent member message ∨ s.OnPage message →
      s.AwaitsKey member message ∨ member.Opens s.mek message
  | .receiveHistory index =>
    ∀ page ∈ s.pages[index]?, ∀ dto ∈ page.2, ⟨page.1, dto⟩ ∈ s.unread member →
      s.HasKey member ⟨page.1, dto⟩ ∨ s.Recent member ⟨page.1, dto⟩ ∨
        ({ s with pages := s.pages.eraseIdx index }).Arriving member ⟨page.1, dto⟩ [s.mek]
  | .submit index now answered => s.MayStore member (s.submit member index now answered)
  | _ => True

/-! ## Steps -/

section
variable {member : Membership} {s : Exchange} {message : ChannelMessage} {mek : MediaEncryptionKey}

theorem decrypts_of_opens (h : member.Opens mek message) :
    ∃ plaintext, member.decrypt mek message.dto.ciphertext = some plaintext ∧
      member.decryptWithCachedMek (some mek) message.dto.ciphertext message.dto.mekGeneration =
        .decrypted (bodyOf plaintext) := by
  obtain ⟨plaintext, hPlaintext⟩ := Option.ne_none_iff_exists'.mp h.2
  refine ⟨plaintext, hPlaintext, ?_⟩
  rw [Membership.decryptWithCachedMek, if_pos h.1, hPlaintext]

theorem decrypted_keep (body : String) : message ∈ (s.keep message body).decrypted := by
  simp [keep]

/-- With the key at hand the waiting message is read. -/
theorem decrypted_retryDecrypt (h : s.HasKey member message) : message ∈ (s.retryDecrypt member message).decrypted := by
  obtain ⟨mek, hCached, hOpens⟩ := h
  obtain ⟨plaintext, -, hDecrypts⟩ := decrypts_of_opens hOpens
  rw [retryDecrypt, hCached, hDecrypts]
  exact decrypted_keep _

theorem decrypted_handleBroadcastNewMessage (h : s.HasKey member message)
    (hOther : message.dto.senderPseudonym ≠ member.myPseudonymKey) :
    message ∈ (s.handleBroadcastNewMessage member message).decrypted := by
  obtain ⟨mek, hCached, hOpens⟩ := h
  obtain ⟨plaintext, -, hDecrypts⟩ := decrypts_of_opens hOpens
  rw [handleBroadcastNewMessage, if_neg hOther, hCached, hDecrypts]
  exact decrypted_keep _

/-! ## Reading -/

/-- Messages have been read, and nothing else has happened. -/
structure Reads (s t : Exchange) : Prop where
  mek : t.mek = s.mek
  server : t.server = s.server
  inbox : t.inbox = s.inbox
  pages : t.pages = s.pages
  cached : t.cached = s.cached
  fetch : t.fetch = s.fetch
  decrypted : s.decrypted ⊆ t.decrypted

theorem Reads.refl (s : Exchange) : Reads s s := ⟨rfl, rfl, rfl, rfl, rfl, rfl, fun _ h => h⟩

theorem Reads.trans {t u : Exchange} (h : Reads s t) (hNext : Reads t u) : Reads s u where
  mek := hNext.mek.trans h.mek
  server := hNext.server.trans h.server
  inbox := hNext.inbox.trans h.inbox
  pages := hNext.pages.trans h.pages
  cached := hNext.cached.trans h.cached
  fetch := hNext.fetch.trans h.fetch
  decrypted := fun _ hOld => hNext.decrypted (h.decrypted hOld)

theorem reads_keep (message : ChannelMessage) (body : String) : Reads s (s.keep message body) :=
  ⟨rfl, rfl, rfl, rfl, rfl, rfl, List.subset_append_left _ _⟩

theorem reads_retryDecrypt (message : ChannelMessage) : Reads s (s.retryDecrypt member message) := by
  unfold retryDecrypt
  split
  · exact reads_keep _ _
  · exact .refl s

theorem reads_readHistoryMessage (message : ChannelMessage) : Reads s (s.readHistoryMessage member mek message) := by
  unfold readHistoryMessage
  split
  · cases member.decrypt mek message.dto.ciphertext with
    | none => exact .refl s
    | some plaintext => exact reads_keep _ _
  · exact .refl s

/-- A page is read with the key that it is begun with. -/
theorem reads_fold (channelId : String) (messages : List ChannelMessageDto) (s : Exchange) :
    Reads s (messages.foldl (fun s dto => s.readHistoryMessage member mek ⟨channelId, dto⟩) s) := by
  induction messages generalizing s with
  | nil => exact .refl s
  | cons dto rest ih => exact (reads_readHistoryMessage ⟨channelId, dto⟩).trans (ih _)

theorem reads_readHistory (channelId : String) (messages : List ChannelMessageDto) :
    Reads s (s.readHistory member channelId messages) := by
  unfold readHistory
  cases s.cached with
  | none => exact .refl s
  | some mek => exact reads_fold channelId messages s

theorem decrypted_fold {channelId : String} {dto : ChannelMessageDto} (hOpens : member.Opens mek ⟨channelId, dto⟩)
    {messages : List ChannelMessageDto} (hDto : dto ∈ messages) (s : Exchange) :
    ⟨channelId, dto⟩ ∈
      (messages.foldl (fun s dto => s.readHistoryMessage member mek ⟨channelId, dto⟩) s).decrypted := by
  induction messages generalizing s with
  | nil => cases hDto
  | cons first rest ih =>
    rcases List.mem_cons.mp hDto with rfl | hRest
    · obtain ⟨plaintext, hPlaintext, -⟩ := decrypts_of_opens hOpens
      have hRead : ⟨channelId, dto⟩ ∈ (s.readHistoryMessage member mek ⟨channelId, dto⟩).decrypted := by
        rw [readHistoryMessage, if_pos hOpens.1.symm, hPlaintext]
        exact decrypted_keep _
      exact (reads_fold channelId rest _).decrypted hRead
    · exact ih hRest _

theorem decrypted_readHistory {messages : List ChannelMessageDto} (h : s.HasKey member message)
    (hDto : message.dto ∈ messages) : message ∈ (s.readHistory member message.channelId messages).decrypted := by
  obtain ⟨mek, hCached, hOpens⟩ := h
  rw [readHistory, hCached]
  exact decrypted_fold hOpens hDto s

/-! ## Going on -/

theorem CanDecrypt.of_mem (h : message ∈ s.decrypted) : s.CanDecrypt member message :=
  ⟨[], fun _ hEvent => absurd hEvent List.not_mem_nil, h⟩

theorem CanDecrypt.of_step (event : ExchangeEvent) (hFollowing : Following event)
    (h : (step member s event).CanDecrypt member message) : s.CanDecrypt member message := by
  obtain ⟨events, hEvents, hDecrypted⟩ := h
  exact ⟨event :: events, List.forall_mem_cons.mpr ⟨hFollowing, hEvents⟩, hDecrypted⟩

theorem step_deliver {index : Nat} {broadcast : CommunityBroadcast} (hFetch : s.fetch = none)
    (hBroadcast : s.inbox[index]? = some broadcast) :
    step member s (.deliver index) = ({ s with inbox := s.inbox.eraseIdx index }).handleBroadcast member broadcast := by
  simp only [step, hFetch, hBroadcast]

theorem step_receiveHistory {index : Nat} {page : String × List ChannelMessageDto} (hPage : s.pages[index]? = some page) :
    step member s (.receiveHistory index) =
      ({ s with pages := s.pages.eraseIdx index }).readHistory member page.1 page.2 := by
  simp only [step, hPage]

/-- The client when the answer to its fetch has come, before it looks at the message that waited. -/
def received (s : Exchange) (reply : List UInt8 × UInt64) : Exchange := { s with fetch := none }.cacheReply reply

theorem received_eq (s : Exchange) (reply : List UInt8 × UInt64) :
    s.received reply =
      { s with
        fetch := none
        cached := (receivedMek reply.1 reply.2).or s.cached
        mekGeneration := (receivedMek reply.1 reply.2).elim s.mekGeneration MediaEncryptionKey.generation } := by
  unfold received cacheReply
  cases receivedMek reply.1 reply.2 <;> rfl

theorem step_receiveMek {retry : Option ChannelMessage} {reply : List UInt8 × UInt64}
    (hFetch : s.fetch = some ⟨retry, some reply⟩) :
    step member s .receiveMek = retry.elim (s.received reply) ((s.received reply).retryDecrypt member) := by
  simp only [step, hFetch, finishFetch]
  rfl

theorem reads_receiveMek {retry : Option ChannelMessage} {reply : List UInt8 × UInt64}
    (hFetch : s.fetch = some ⟨retry, some reply⟩) : Reads (s.received reply) (step member s .receiveMek) := by
  rw [step_receiveMek hFetch]
  cases retry with
  | none => exact .refl _
  | some waiting => exact reads_retryDecrypt waiting

theorem Reads.hasKey {t : Exchange} (h : Reads s t) : t.HasKey member message ↔ s.HasKey member message := by
  rw [HasKey, HasKey, h.cached]

theorem Reads.recent {t : Exchange} (h : Reads s t) : t.Recent member message ↔ s.Recent member message := by
  rw [Recent, Recent, historyPage, historyPage, h.server]

theorem Reads.onPage {t : Exchange} (h : Reads s t) : t.OnPage message ↔ s.OnPage message := by
  rw [OnPage, OnPage, h.pages]

theorem Reads.waiting {t : Exchange} (h : Reads s t) : t.Waiting member message ↔ s.Waiting member message := by
  rw [Waiting, Waiting, h.inbox]

theorem fetched?_eq_some_iff : s.fetched? = some mek ↔
    ∃ retry reply, s.fetch = some ⟨retry, some reply⟩ ∧ receivedMek reply.1 reply.2 = some mek := by
  constructor
  · intro h
    obtain ⟨⟨retry, reply⟩, hFetch, hReply⟩ := Option.bind_eq_some_iff.mp h
    obtain ⟨answer, rfl, hMek⟩ := Option.bind_eq_some_iff.mp hReply
    exact ⟨retry, answer, hFetch, hMek⟩
  · rintro ⟨retry, reply, hFetch, hMek⟩
    rw [fetched?, hFetch]
    exact hMek

theorem receivedMek_mekPayload (hKey : mek.key.length = 32) : receivedMek (mekPayload mek) mek.generation = some mek := by
  have hHeader : (toLeBytes 8 mek.generation.toNat).length = 8 := length_toLeBytes 8 _
  have hLong : 40 ≤ (mekPayload mek).length := by
    rw [mekPayload, List.length_append, hHeader, hKey]
  rw [receivedMek, if_pos hLong, mekPayload_drop, List.take_of_length_le (le_of_eq hKey)]

section
variable (hOther : message.dto.senderPseudonym ≠ member.myPseudonymKey)
include hOther

theorem canDecrypt_of_hasKey (hKey : s.HasKey member message)
    (h : s.Recent member message ∨ s.OnPage message ∨ s.Waiting member message ∧ s.fetch = none) :
    s.CanDecrypt member message := by
  have hFromPage {t : Exchange} (hKey : t.HasKey member message) (h : t.OnPage message) :
      t.CanDecrypt member message := by
    obtain ⟨page, hPage, hChannel, hDto⟩ := h
    obtain ⟨index, hIndex⟩ := List.getElem?_of_mem hPage
    refine .of_step (.receiveHistory index) trivial (.of_mem ?_)
    rw [step_receiveHistory hIndex, hChannel]
    exact decrypted_readHistory (s := { t with pages := t.pages.eraseIdx index }) hKey hDto
  rcases h with hRecent | hPage | ⟨hWaiting, hFetch⟩
  · refine .of_step (.answerHistory message.channelId 500) trivial (hFromPage hKey ?_)
    exact ⟨(message.channelId, s.historyPage member message.channelId 500),
      List.mem_append_right _ List.mem_cons_self, rfl, hRecent⟩
  · exact hFromPage hKey hPage
  · obtain ⟨index, hIndex⟩ := List.getElem?_of_mem hWaiting
    refine .of_step (.deliver index) trivial (.of_mem ?_)
    rw [step_deliver hFetch hIndex]
    exact decrypted_handleBroadcastNewMessage (s := { s with inbox := s.inbox.eraseIdx index }) hKey hOther

theorem canDecrypt_of_awaitsKey (hKey : s.AwaitsKey member message)
    (h : s.Recent member message ∨ s.OnPage message ∨ s.Waiting member message ∨ s.Retrying message) :
    s.CanDecrypt member message := by
  obtain ⟨mek, hFetched, hOpens⟩ := hKey
  obtain ⟨retry, reply, hFetch, hMek⟩ := fetched?_eq_some_iff.mp hFetched
  have hReads : Reads (s.received reply) (step member s .receiveMek) := reads_receiveMek hFetch
  have hKey : (s.received reply).HasKey member message := by
    refine ⟨mek, ?_, hOpens⟩
    rw [received_eq, hMek]
    rfl
  refine .of_step .receiveMek trivial ?_
  have hNow (h : (s.received reply).Recent member message ∨ (s.received reply).OnPage message ∨
      (s.received reply).Waiting member message ∧ (s.received reply).fetch = none) :
      (step member s .receiveMek).CanDecrypt member message := by
    refine canDecrypt_of_hasKey hOther (hReads.hasKey.mpr hKey) ?_
    rwa [hReads.recent, hReads.onPage, hReads.waiting, hReads.fetch]
  rcases h with hRecent | hPage | hWaiting | ⟨fetch, hHere, hRetry⟩
  · exact hNow (.inl (by rwa [received_eq]))
  · exact hNow (.inr (.inl (by rwa [received_eq])))
  · exact hNow (.inr (.inr ⟨by rwa [received_eq], by rw [received_eq]⟩))
  · cases hFetch.symm.trans hHere
    cases hRetry
    rw [step_receiveMek hFetch]
    exact .of_mem (decrypted_retryDecrypt hKey)

theorem canDecrypt_of_unanswered (hLength : s.mek.key.length = 32) (hKey : member.Opens s.mek message)
    (hUnanswered : s.Unanswered)
    (h : s.Recent member message ∨ s.OnPage message ∨ s.Waiting member message ∨ s.Retrying message) :
    s.CanDecrypt member message := by
  obtain ⟨⟨retry, reply⟩, hFetch : s.fetch = _, rfl : reply = none⟩ := hUnanswered
  have hStep : step member s .answerMek = { s with fetch := some ⟨retry, some (mekPayload s.mek, s.mek.generation)⟩ } := by
    simp only [step, hFetch]
  refine .of_step .answerMek trivial ?_
  rw [hStep]
  refine canDecrypt_of_awaitsKey hOther ⟨s.mek, receivedMek_mekPayload hLength, hKey⟩ ?_
  refine h.imp id (.imp id (.imp id fun ⟨fetch, hHere, hRetry⟩ => ?_))
  cases hFetch.symm.trans hHere
  exact ⟨_, rfl, hRetry⟩

/-- A broadcast waits that says that there is a new key. -/
theorem canDecrypt_of_rotated {generation : UInt64} (hLength : s.mek.key.length = 32)
    (hKey : member.Opens s.mek message) (hFetch : s.fetch = none)
    (hRotated : .mekRotated member.communityId generation ∈ s.inbox)
    (h : s.Recent member message ∨ s.OnPage message ∨ s.Waiting member message) : s.CanDecrypt member message := by
  obtain ⟨index, hIndex⟩ := List.getElem?_of_mem hRotated
  refine .of_step (.deliver index) trivial ?_
  rw [step_deliver hFetch hIndex]
  refine canDecrypt_of_unanswered hOther hLength hKey ⟨_, rfl, rfl⟩ (h.imp id (.imp id fun hWaiting => .inl ?_))
  refine (List.mem_eraseIdx_iff_getElem?).mpr ?_
  obtain ⟨place, hPlace⟩ := List.getElem?_of_mem hWaiting
  refine ⟨place, ?_, hPlace⟩
  rintro rfl
  cases hIndex.symm.trans hPlace

theorem canDecrypt_of_served (hLength : s.mek.key.length = 32) (hAlert : s.Alert member)
    (hKey : member.Opens s.mek message) (h : s.Recent member message ∨ s.OnPage message ∨ s.Waiting member message) :
    s.CanDecrypt member message := by
  rcases hFetch : s.fetch with _ | ⟨retry, _ | reply⟩
  · rcases hAlert with ⟨generation, hRotated⟩ | ⟨-, hCached⟩ | ⟨fetch, hHere, -⟩ | hFetched
    · exact canDecrypt_of_rotated hOther hLength hKey hFetch hRotated h
    · exact canDecrypt_of_hasKey hOther ⟨s.mek, hCached, hKey⟩ (h.imp id (.imp id fun hWaiting => ⟨hWaiting, hFetch⟩))
    · cases hFetch.symm.trans hHere
    · rw [fetched?, hFetch] at hFetched
      cases hFetched
  · exact canDecrypt_of_unanswered hOther hLength hKey ⟨_, hFetch, rfl⟩ (h.imp id (.imp id .inl))
  · rcases hAlert with ⟨generation, hRotated⟩ | ⟨hNone, -⟩ | ⟨fetch, hHere, hReply⟩ | hFetched
    · have hReads : Reads (s.received reply) (step member s .receiveMek) := reads_receiveMek hFetch
      have hTold : .mekRotated member.communityId generation ∈ (step member s .receiveMek).inbox := by
        rwa [hReads.inbox, received_eq]
      refine .of_step .receiveMek trivial (canDecrypt_of_rotated hOther ?_ ?_ ?_ hTold ?_)
      · rwa [hReads.mek, received_eq]
      · rwa [hReads.mek, received_eq]
      · rw [hReads.fetch, received_eq]
      · rw [hReads.recent, hReads.onPage, hReads.waiting, received_eq]
        exact h
    · cases hFetch.symm.trans hNone
    · cases hFetch.symm.trans hHere
      cases hReply
    · exact canDecrypt_of_awaitsKey hOther ⟨s.mek, hFetched, hKey⟩ (h.imp id (.imp id .inl))

/-- What is readable can be decrypted. -/
theorem CanDecrypt.of_readable (hLength : s.mek.key.length = 32) (hAlert : s.Alert member)
    (h : s.Readable member message [s.mek]) : s.CanDecrypt member message := by
  have hServed (h : Served member message [s.mek]) : member.Opens s.mek message := by
    obtain ⟨mek, hMek, hOpens⟩ := h
    rwa [List.mem_singleton.mp hMek] at hOpens
  rcases h with ⟨hRecent, hKey | hKey | hKey⟩ | ⟨hPage, hKey | hKey | hKey⟩ |
    ⟨hWaiting, ⟨hKey, hFetch⟩ | hKey | hKey⟩ | ⟨hRetrying, hKey | ⟨hKey, hUnanswered⟩⟩
  · exact canDecrypt_of_hasKey hOther hKey (.inl hRecent)
  · exact canDecrypt_of_awaitsKey hOther hKey (.inl hRecent)
  · exact canDecrypt_of_served hOther hLength hAlert (hServed hKey) (.inl hRecent)
  · exact canDecrypt_of_hasKey hOther hKey (.inr (.inl hPage))
  · exact canDecrypt_of_awaitsKey hOther hKey (.inr (.inl hPage))
  · exact canDecrypt_of_served hOther hLength hAlert (hServed hKey) (.inr (.inl hPage))
  · exact canDecrypt_of_hasKey hOther hKey (.inr (.inr ⟨hWaiting, hFetch⟩))
  · exact canDecrypt_of_awaitsKey hOther hKey (.inr (.inr (.inl hWaiting)))
  · exact canDecrypt_of_served hOther hLength hAlert (hServed hKey) (.inr (.inr hWaiting))
  · exact canDecrypt_of_awaitsKey hOther hKey (.inr (.inr (.inr hRetrying)))
  · exact canDecrypt_of_unanswered hOther hLength (hServed hKey) hUnanswered (.inr (.inr (.inr hRetrying)))

end

end

end Exchange

end Rekindle.Community
