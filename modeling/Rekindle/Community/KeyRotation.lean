import Rekindle.Community.Readability

/-! # No message is lost to a new key

Every unread message stays readable along a run whose steps each spare the last way to it.
-/
namespace Rekindle.Community
set_option autoImplicit false
open ByteWords Server Runs

namespace Exchange

/-- Every unread message is readable, and the client will have the server's key. -/
structure Legible (member : Membership) (s : Exchange) : Prop where
  keyLength : s.mek.key.length = 32
  alert : s.Alert member
  readable : ∀ message ∈ s.unread member, s.Readable member message [s.mek]

/-- The client has what it had, and more is on its way to it. -/
structure Extends (s t : Exchange) : Prop where
  cached : t.cached = s.cached
  fetch : t.fetch = s.fetch
  inbox : s.inbox ⊆ t.inbox
  pages : s.pages ⊆ t.pages

variable {member : Membership} {s t : Exchange} {message : ChannelMessage} {served later : List MediaEncryptionKey}

theorem mem_unread_iff : message ∈ s.unread member ↔
    message ∈ s.accepted ∧ message.dto.senderPseudonym ≠ member.myPseudonymKey ∧ message ∉ s.decrypted := by
  simp [unread, List.mem_filter]

theorem unread_of_server_eq (hServer : t.server = s.server) (hDecrypted : s.decrypted ⊆ t.decrypted)
    (h : message ∈ t.unread member) : message ∈ s.unread member := by
  obtain ⟨hAccepted, hOther, hNot⟩ := mem_unread_iff.mp h
  refine mem_unread_iff.mpr ⟨?_, hOther, fun hOld => hNot (hDecrypted hOld)⟩
  rwa [accepted, hServer] at hAccepted

theorem Reads.unread (h : Reads s t) (hUnread : message ∈ t.unread member) : message ∈ s.unread member :=
  unread_of_server_eq h.server h.decrypted hUnread

theorem Reads.readable (h : Reads s t) : t.Readable member message served ↔ s.Readable member message served := by
  unfold Readable Arriving HasKey AwaitsKey fetched? Recent historyPage OnPage Waiting Retrying Unanswered
  rw [h.cached, h.fetch, h.server, h.pages, h.inbox]

theorem Reads.alert (h : Reads s t) : t.Alert member ↔ s.Alert member := by
  unfold Alert fetched? Unanswered
  rw [h.cached, h.fetch, h.inbox, h.mek]

theorem Reads.legible (h : Reads s t) (hLegible : s.Legible member) : t.Legible member where
  keyLength := by rw [h.mek]; exact hLegible.keyLength
  alert := h.alert.mpr hLegible.alert
  readable := fun message hUnread => by
    rw [h.mek]
    exact h.readable.mpr (hLegible.readable message (h.unread hUnread))

theorem Extends.waiting (h : Extends s t) (hWaiting : s.Waiting member message) : t.Waiting member message :=
  h.inbox hWaiting

theorem Extends.onPage (h : Extends s t) (hPage : s.OnPage message) : t.OnPage message := by
  obtain ⟨page, hPages, hHere⟩ := hPage
  exact ⟨page, h.pages hPages, hHere⟩

theorem Extends.arriving (h : Extends s t) (hArriving : s.Arriving member message served) :
    t.Arriving member message served := by
  have hWaiting := @Extends.waiting member s t message h
  unfold Arriving HasKey AwaitsKey fetched? Retrying Unanswered at hArriving ⊢
  rw [h.cached, h.fetch]
  exact hArriving.imp (.imp h.onPage id) (.imp (.imp hWaiting id) id)

theorem Extends.readable (h : Extends s t)
    (hRecent : s.Recent member message → t.Recent member message ∨ s.Arriving member message served)
    (hReadable : s.Readable member message served) : t.Readable member message served := by
  rcases hReadable with ⟨hRecentHere, hKey⟩ | hArriving
  · rcases hRecent hRecentHere with hThere | hArriving
    · refine .inl ⟨hThere, ?_⟩
      unfold HasKey AwaitsKey fetched? at hKey ⊢
      rwa [h.cached, h.fetch]
    · exact .inr (h.arriving hArriving)
  · exact .inr (h.arriving hArriving)

theorem Extends.alert (h : Extends s t) (hMek : t.mek = s.mek) (hAlert : s.Alert member) : t.Alert member := by
  unfold Alert fetched? Unanswered at hAlert ⊢
  rw [h.cached, h.fetch, hMek]
  exact hAlert.imp (fun ⟨generation, hRotated⟩ => ⟨generation, h.inbox hRotated⟩) id

theorem Readable.mono (hServed : Served member message served → Served member message later)
    (h : s.Readable member message served) : s.Readable member message later := by
  refine h.imp (.imp id (.imp id (.imp id hServed))) (.imp (.imp id (.imp id (.imp id hServed))) (.imp ?_ ?_))
  · exact .imp id (.imp id (.imp id hServed))
  · exact .imp id (.imp id (.imp hServed id))

theorem served_self (h : member.Opens s.mek message) : Served member message [s.mek] :=
  ⟨s.mek, List.mem_cons_self, h⟩

theorem opens_of_served (h : Served member message [s.mek]) : member.Opens s.mek message := by
  obtain ⟨mek, hMek, hOpens⟩ := h
  rwa [List.mem_singleton.mp hMek] at hOpens

/-! ## The server -/

theorem acceptMessage_of_ne {sender channelId : String} {ciphertext : List UInt8} {mekGeneration now : UInt64}
    (h : mekGeneration ≠ s.mek.generation) :
    s.acceptMessage member sender channelId ciphertext mekGeneration now = s := if_neg h

theorem extends_acceptMessage (sender channelId : String) (ciphertext : List UInt8) (mekGeneration now : UInt64) :
    Extends s (s.acceptMessage member sender channelId ciphertext mekGeneration now) := by
  unfold acceptMessage
  split
  · refine ⟨rfl, rfl, ?_, fun _ h => h⟩
    dsimp only
    split
    · exact fun _ h => h
    · exact List.subset_append_left _ _
  · exact ⟨rfl, rfl, fun _ h => h, fun _ h => h⟩

theorem mek_acceptMessage (sender channelId : String) (ciphertext : List UInt8) (mekGeneration now : UInt64) :
    (s.acceptMessage member sender channelId ciphertext mekGeneration now).mek = s.mek := by
  unfold acceptMessage
  split <;> rfl

/-- A broadcast brings the message as the history does, if the server's key opens it. -/
theorem waiting_acceptMessage {sender channelId : String} {ciphertext : List UInt8} {mekGeneration now : UInt64}
    (hOther : sender ≠ member.myPseudonymKey) (hCurrent : mekGeneration = s.mek.generation)
    (hOpens : member.Opens s.mek (messageOfRow (acceptedRow member sender channelId ciphertext mekGeneration now))) :
    (s.acceptMessage member sender channelId ciphertext mekGeneration now).Waiting member
      (messageOfRow (acceptedRow member sender channelId ciphertext mekGeneration now)) := by
  have hGeneration : (messageOfRow (acceptedRow member sender channelId ciphertext mekGeneration now)).dto.mekGeneration =
      mekGeneration := hOpens.1.symm.trans hCurrent.symm
  unfold Waiting ChannelMessage.broadcast
  rw [hGeneration, acceptMessage, if_pos hCurrent]
  dsimp only
  rw [if_neg hOther]
  exact List.mem_append_right _ List.mem_cons_self

theorem mem_accepted_acceptMessage {sender channelId : String} {ciphertext : List UInt8} {mekGeneration now : UInt64}
    (hCurrent : mekGeneration = s.mek.generation) :
    (s.acceptMessage member sender channelId ciphertext mekGeneration now).accepted =
      s.accepted ++ [messageOfRow (acceptedRow member sender channelId ciphertext mekGeneration now)] := by
  rw [acceptMessage, if_pos hCurrent, accepted, List.map_append]
  rfl

theorem decrypted_acceptMessage (sender channelId : String) (ciphertext : List UInt8) (mekGeneration now : UInt64) :
    (s.acceptMessage member sender channelId ciphertext mekGeneration now).decrypted = s.decrypted := by
  unfold acceptMessage
  split <;> rfl

theorem Legible.acceptMessage (h : s.Legible member) {sender channelId : String} {ciphertext : List UInt8}
    {mekGeneration now : UInt64}
    (hOpens : sender ≠ member.myPseudonymKey → mekGeneration = s.mek.generation →
      member.Opens s.mek (messageOfRow (acceptedRow member sender channelId ciphertext mekGeneration now)))
    (hStore : s.MayStore member (s.acceptMessage member sender channelId ciphertext mekGeneration now)) :
    (s.acceptMessage member sender channelId ciphertext mekGeneration now).Legible member := by
  have hExtends := @extends_acceptMessage member s sender channelId ciphertext mekGeneration now
  have hMek := @mek_acceptMessage member s sender channelId ciphertext mekGeneration now
  by_cases hCurrent : mekGeneration = s.mek.generation
  · refine ⟨by rw [hMek]; exact h.keyLength, hExtends.alert hMek h.alert, fun message hUnread => ?_⟩
    rw [hMek]
    obtain ⟨hAccepted, hOther, hNot⟩ := mem_unread_iff.mp hUnread
    rw [mem_accepted_acceptMessage hCurrent] at hAccepted
    rw [decrypted_acceptMessage] at hNot
    rcases List.mem_append.mp hAccepted with hOld | hNew
    · have hUnread := mem_unread_iff.mpr ⟨hOld, hOther, hNot⟩
      exact hExtends.readable (hStore message hUnread) (h.readable message hUnread)
    · rw [List.mem_singleton.mp hNew] at hOther ⊢
      have hOpensNew := hOpens hOther hCurrent
      exact .inr (.inr (.inl ⟨waiting_acceptMessage hOther hCurrent hOpensNew, .inr (.inr (served_self hOpensNew))⟩))
  · rwa [acceptMessage_of_ne hCurrent]

theorem Legible.submit (h : s.Legible member) {index : Nat} {now : UInt64} {answered : Bool}
    (hStore : s.MayStore member (s.submit member index now answered)) :
    (s.submit member index now answered).Legible member := by
  unfold Exchange.submit at hStore ⊢
  cases hMessage : s.outgoing[index]? with
  | none => exact h
  | some message =>
    simp only [hMessage] at hStore
    have hSame (after : Exchange) (outgoing : List PendingChannelMessage) :
        Reads after { after with outgoing := outgoing } := ⟨rfl, rfl, rfl, rfl, rfl, rfl, fun _ h => h⟩
    dsimp only
    split
    · next hAnswered =>
      rw [if_pos hAnswered] at hStore
      exact (hSame _ _).legible (h.acceptMessage (fun hOther => absurd rfl hOther) hStore)
    · next hUnanswered =>
      rw [if_neg hUnanswered] at hStore
      exact h.acceptMessage (fun hOther => absurd rfl hOther) hStore

theorem Legible.rotate (h : s.Legible member) {mekKey : Window UInt8 32}
    (hHere : ∀ message ∈ s.unread member, member.Opens s.mek message → s.Readable member message []) :
    (step member s (.rotate mekKey)).Legible member := by
  have hExtends : Extends s (step member s (.rotate mekKey)) :=
    ⟨rfl, rfl, List.subset_append_left _ _, fun _ h => h⟩
  refine ⟨mekKey.property, .inl ⟨_, List.mem_append_right _ List.mem_cons_self⟩, fun message hUnread => ?_⟩
  have hBefore : message ∈ s.unread member := hUnread
  have hOwn : s.Readable member message [] := by
    by_cases hOpens : member.Opens s.mek message
    · exact hHere message hBefore hOpens
    · exact (h.readable message hBefore).mono fun hServed => absurd (opens_of_served hServed) hOpens
  exact (hExtends.readable (fun hRecent => .inl hRecent) hOwn).mono fun ⟨_, hMek, _⟩ => absurd hMek List.not_mem_nil

/-! ## The client -/

theorem not_awaitsKey_of_none (hFetch : s.fetch = none) : ¬s.AwaitsKey member message := by
  rintro ⟨mek, hFetched, -⟩
  rw [fetched?, hFetch] at hFetched
  cases hFetched

theorem not_retrying_of_none (hFetch : s.fetch = none) : ¬s.Retrying message := by
  rintro ⟨fetch, hHere, -⟩
  cases hFetch.symm.trans hHere

/-- The ways to a message of a client that waits for no key. -/
theorem readable_idle (hFetch : s.fetch = none) : s.Readable member message served ↔
    (s.Recent member message ∨ s.OnPage message ∨ s.Waiting member message) ∧
      (s.HasKey member message ∨ Served member message served) := by
  have hAwaits := @not_awaitsKey_of_none member s message hFetch
  have hRetrying := @not_retrying_of_none s message hFetch
  unfold Readable Arriving
  grind

/-- A fetch is taken up; a broadcast that is no longer there waits for its answer, unless the client has its key. -/
theorem readable_startFetch {inbox : List CommunityBroadcast} {retry : Option ChannelMessage} (hFetch : s.fetch = none)
    (hMay : s.HasKey member message → member.Opens s.mek message ∨ s.Recent member message ∨ s.OnPage message)
    (hInbox : s.Waiting member message →
      message.broadcast member.communityId ∈ inbox ∨ retry = some message ∧ ¬s.HasKey member message)
    (h : s.Readable member message [s.mek]) :
    ({ s with inbox := inbox }.startFetch retry).Readable member message [s.mek] := by
  obtain ⟨hCopy, hKey⟩ := (readable_idle hFetch).mp h
  have hThere (hServed : Served member message [s.mek]) :
      ({ s with inbox := inbox }.startFetch retry).Readable member message [s.mek] := by
    rcases hCopy with hRecent | hPage | hWaiting
    · exact .inl ⟨hRecent, .inr (.inr hServed)⟩
    · exact .inr (.inl ⟨hPage, .inr (.inr hServed)⟩)
    · rcases hInbox hWaiting with hStays | ⟨hRetry, -⟩
      · exact .inr (.inr (.inl ⟨hStays, .inr (.inr hServed)⟩))
      · exact .inr (.inr (.inr ⟨⟨_, rfl, hRetry⟩, .inr ⟨hServed, _, rfl, rfl⟩⟩))
  rcases hKey with hHas | hServed
  · rcases hMay hHas with hOpens | hRecent | hPage
    · exact hThere (served_self hOpens)
    · exact .inl ⟨hRecent, .inl hHas⟩
    · exact .inr (.inl ⟨hPage, .inl hHas⟩)
  · exact hThere hServed

theorem Legible.startFetch (h : s.Legible member) {inbox : List CommunityBroadcast} {retry : Option ChannelMessage}
    (hFetch : s.fetch = none) (hMay : s.MayFetch member)
    (hInbox : ∀ message ∈ s.unread member, s.Waiting member message →
      message.broadcast member.communityId ∈ inbox ∨ retry = some message ∧ ¬s.HasKey member message) :
    ({ s with inbox := inbox }.startFetch retry).Legible member where
  keyLength := h.keyLength
  alert := .inr (.inr (.inl ⟨_, rfl, rfl⟩))
  readable := fun message hUnread =>
    readable_startFetch hFetch (hMay message hUnread) (hInbox message hUnread) (h.readable message hUnread)

theorem mem_eraseIdx_of_ne {α : Type} {items : List α} {index : Nat} {taken item : α}
    (hTaken : items[index]? = some taken) (hItem : item ∈ items) (hNe : item ≠ taken) : item ∈ items.eraseIdx index := by
  obtain ⟨place, hPlace⟩ := List.getElem?_of_mem hItem
  refine List.mem_eraseIdx_iff_getElem?.mpr ⟨place, ?_, hPlace⟩
  rintro rfl
  exact hNe (Option.some.inj (hPlace.symm.trans hTaken))

/-- A broadcast goes without a trace, and what it brought is read or can be had from the history. -/
theorem Legible.dropBroadcast (h : s.Legible member) (hFetch : s.fetch = none) {index : Nat}
    {broadcast : CommunityBroadcast} (hBroadcast : s.inbox[index]? = some broadcast)
    (hNew : ∀ generation, broadcast ≠ .mekRotated member.communityId generation)
    (hReads : Reads { s with inbox := s.inbox.eraseIdx index } t)
    (hElse : ∀ message ∈ t.unread member, message.broadcast member.communityId = broadcast →
      (s.Recent member message ∨ s.OnPage message)) :
    t.Legible member := by
  have hBefore : ∀ message ∈ t.unread member, message ∈ s.unread member := fun message hUnread =>
    unread_of_server_eq hReads.server hReads.decrypted hUnread
  refine ⟨by rw [hReads.mek]; exact h.keyLength, hReads.alert.mpr ?_, fun message hUnread => ?_⟩
  · refine h.alert.imp (fun ⟨generation, hRotated⟩ => ⟨generation, ?_⟩) id
    exact mem_eraseIdx_of_ne hBroadcast hRotated fun hSame => hNew generation hSame.symm
  · rw [hReads.mek, hReads.readable]
    obtain ⟨hCopy, hKey⟩ := (readable_idle hFetch).mp (h.readable message (hBefore message hUnread))
    refine (readable_idle (s := { s with inbox := s.inbox.eraseIdx index }) hFetch).mpr ⟨?_, hKey⟩
    rcases hCopy with hRecent | hPage | hWaiting
    · exact .inl hRecent
    · exact .inr (.inl hPage)
    · by_cases hSame : message.broadcast member.communityId = broadcast
      · exact (hElse message hUnread hSame).imp id .inl
      · exact .inr (.inr (mem_eraseIdx_of_ne hBroadcast hWaiting hSame))

theorem message_of_broadcast_eq {a b : ChannelMessage} {aId bId : String} (h : a.broadcast aId = b.broadcast bId) :
    a = b := by
  obtain ⟨_, _, _, _, _⟩ := a
  obtain ⟨_, _, _, _, _⟩ := b
  cases h
  rfl

theorem Legible.handleBroadcastNewMessage (h : s.Legible member) (hFetch : s.fetch = none) {index : Nat}
    {communityId : String} (hBroadcast : s.inbox[index]? = some (message.broadcast communityId))
    (hMay : s.MayHandle member (message.broadcast communityId)) :
    (({ s with inbox := s.inbox.eraseIdx index }).handleBroadcastNewMessage member message).Legible member := by
  have hNew (generation : UInt64) : message.broadcast communityId ≠ .mekRotated member.communityId generation := nofun
  unfold Exchange.handleBroadcastNewMessage
  split
  · next hOwn =>
    refine h.dropBroadcast hFetch hBroadcast hNew (.refl _) fun other hUnread hSame => ?_
    cases message_of_broadcast_eq hSame
    exact absurd hOwn (mem_unread_iff.mp hUnread).2.1
  · next hOther =>
    replace hMay := hMay hOther
    dsimp only at hMay ⊢
    cases hDecrypts : member.decryptWithCachedMek s.cached message.dto.ciphertext message.dto.mekGeneration with
    | decrypted body =>
      refine h.dropBroadcast hFetch hBroadcast hNew (reads_keep message body) fun other hUnread hSame => ?_
      cases message_of_broadcast_eq hSame
      exact absurd (decrypted_keep body) (mem_unread_iff.mp hUnread).2.2
    | failed =>
      rw [hDecrypts] at hMay
      refine h.dropBroadcast hFetch hBroadcast hNew (.refl _) fun other hUnread hSame => ?_
      cases message_of_broadcast_eq hSame
      exact hMay hUnread
    | needRefresh =>
      rw [hDecrypts] at hMay
      refine h.startFetch hFetch hMay fun other _ hWaiting => ?_
      by_cases hSame : other = message
      · subst hSame
        refine .inr ⟨rfl, fun ⟨mek, hCached, hOpens⟩ => ?_⟩
        obtain ⟨plaintext, -, hBody⟩ := decrypts_of_opens hOpens
        rw [hCached, hBody] at hDecrypts
        cases hDecrypts
      · exact .inl (mem_eraseIdx_of_ne hBroadcast hWaiting fun hBoth => hSame (message_of_broadcast_eq hBoth))

theorem Legible.deliver (h : s.Legible member) {index : Nat}
    (hMay : s.fetch = none → ∀ broadcast ∈ s.inbox[index]?, s.MayHandle member broadcast) :
    (step member s (.deliver index)).Legible member := by
  rcases hFetch : s.fetch with _ | fetch
  · rcases hBroadcast : s.inbox[index]? with _ | broadcast
    · simpa only [step, hFetch, hBroadcast] using h
    · rw [step_deliver hFetch hBroadcast]
      have hMayHandle := hMay hFetch broadcast hBroadcast
      have hQuiet (hNew : ∀ id generation, broadcast ≠ .mekRotated id generation)
          (hNoMessage : ∀ message : ChannelMessage, message.broadcast member.communityId ≠ broadcast) :
          ({ s with inbox := s.inbox.eraseIdx index }).Legible member :=
        h.dropBroadcast hFetch hBroadcast (hNew _) (.refl _) fun message _ hSame => absurd hSame (hNoMessage message)
      cases broadcast with
      | newMessage id channelId senderPseudonym ciphertext mekGeneration timestamp =>
        exact h.handleBroadcastNewMessage hFetch hBroadcast hMayHandle
      | mekRotated id generation =>
        exact h.startFetch hFetch hMayHandle fun message _ hWaiting =>
          .inl (mem_eraseIdx_of_ne hBroadcast hWaiting fun hBoth => by cases hBoth)
      | _ => exact hQuiet (fun _ _ hNew => by cases hNew) fun _ hMessage => by cases hMessage
  · simpa only [step, hFetch] using h

theorem Legible.mekChange (h : s.Legible member) (hMay : s.fetch = none → s.MayFetch member) :
    (step member s .mekChange).Legible member := by
  by_cases hFetch : s.fetch = none
  · have hStarted : ({ s with inbox := s.inbox }.startFetch none).Legible member :=
      h.startFetch hFetch (hMay hFetch) fun message _ hWaiting => .inl hWaiting
    simpa only [step, if_pos hFetch] using hStarted
  · simpa only [step, if_neg hFetch] using h

theorem Legible.answerMek (h : s.Legible member) : (step member s .answerMek).Legible member := by
  rcases hFetch : s.fetch with _ | ⟨retry, _ | reply⟩
  · simpa only [step, hFetch] using h
  · have hStep : step member s .answerMek =
        { s with fetch := some ⟨retry, some (mekPayload s.mek, s.mek.generation)⟩ } := by
      simp only [step, hFetch]
    have hFetched : (step member s .answerMek).fetched? = some s.mek := by
      rw [hStep]
      exact receivedMek_mekPayload h.keyLength
    have hAwaits {message : ChannelMessage} (hOpens : member.Opens s.mek message) :
        (step member s .answerMek).AwaitsKey member message := ⟨s.mek, hFetched, hOpens⟩
    refine ⟨?_, .inr (.inr (.inr ?_)), fun message hUnread => ?_⟩
    · rw [hStep]
      exact h.keyLength
    · rw [hFetched, hStep]
    · have hNotAwaited : ¬s.AwaitsKey member message := by
        rintro ⟨mek, hHere, -⟩
        rw [fetched?, hFetch] at hHere
        cases hHere
      have hBefore : message ∈ s.unread member := by rwa [hStep] at hUnread
      have hKey (hKey : s.HasKey member message ∨ s.AwaitsKey member message ∨ Served member message [s.mek]) :
          (step member s .answerMek).HasKey member message ∨ (step member s .answerMek).AwaitsKey member message := by
        rcases hKey with hHas | hAwaited | hServed
        · exact .inl (by rwa [hStep])
        · exact absurd hAwaited hNotAwaited
        · exact .inr (hAwaits (opens_of_served hServed))
      rcases h.readable message hBefore with ⟨hRecent, hAny⟩ | ⟨hPage, hAny⟩ | ⟨hWaiting, ⟨-, hNone⟩ | hAny⟩ |
        ⟨⟨fetch, hHere, hRetry⟩, hAny⟩
      · exact .inl ⟨by rwa [hStep], (hKey hAny).imp id .inl⟩
      · exact .inr (.inl ⟨by rwa [hStep], (hKey hAny).imp id .inl⟩)
      · cases hFetch.symm.trans hNone
      · refine .inr (.inr (.inl ⟨by rwa [hStep], .inr (.inl ?_)⟩))
        exact hAny.elim (fun hAwaited => absurd hAwaited hNotAwaited) fun hServed => hAwaits (opens_of_served hServed)
      · refine .inr (.inr (.inr ⟨?_, .inl ?_⟩))
        · cases hFetch.symm.trans hHere
          rw [hStep]
          exact ⟨_, rfl, hRetry⟩
        · exact hAny.elim (fun hAwaited => absurd hAwaited hNotAwaited)
            fun hServed => hAwaits (opens_of_served hServed.1)
  · simpa only [step, hFetch] using h

theorem Legible.receiveMek (h : s.Legible member)
    (hMay : ∀ message ∈ s.unread member, s.HasKey member message → s.Recent member message ∨ s.OnPage message →
      s.AwaitsKey member message ∨ member.Opens s.mek message) :
    (step member s .receiveMek).Legible member := by
  rcases hFetch : s.fetch with _ | ⟨retry, _ | reply⟩
  · simpa only [step, hFetch] using h
  · simpa only [step, hFetch] using h
  · have hReads : Reads (s.received reply) (step member s .receiveMek) := reads_receiveMek hFetch
    have hFetchedHere : s.fetched? = receivedMek reply.1 reply.2 := by
      rw [fetched?, hFetch]
      rfl
    have hMek : (step member s .receiveMek).mek = s.mek := by
      rw [hReads.mek, received_eq]
    have hHas {message : ChannelMessage} (hAwaits : s.AwaitsKey member message) :
        (s.received reply).HasKey member message := by
      obtain ⟨mek, hFetched, hOpens⟩ := hAwaits
      rw [hFetchedHere] at hFetched
      refine ⟨mek, ?_, hOpens⟩
      rw [received_eq, hFetched]
      rfl
    refine ⟨by rw [hMek]; exact h.keyLength, hReads.alert.mpr ?_, fun message hUnread => ?_⟩
    · rcases h.alert with ⟨generation, hRotated⟩ | ⟨hNone, -⟩ | ⟨fetch, hHere, hReply⟩ | hFetched
      · exact .inl ⟨generation, by rwa [received_eq]⟩
      · cases hFetch.symm.trans hNone
      · cases hFetch.symm.trans hHere
        cases hReply
      · refine .inr (.inl ⟨by rw [received_eq], ?_⟩)
        rw [received_eq, ← hFetchedHere, hFetched]
        rfl
    · have hBefore : message ∈ s.unread member := by
        refine unread_of_server_eq ?_ ?_ hUnread
        · rw [hReads.server, received_eq]
        · have hDecrypted := hReads.decrypted
          rwa [received_eq] at hDecrypted
      rw [hMek, hReads.readable]
      refine (readable_idle (by rw [received_eq])).mpr ?_
      have hKey (hCopy : s.Recent member message ∨ s.OnPage message)
          (hKey : s.HasKey member message ∨ s.AwaitsKey member message ∨ Served member message [s.mek]) :
          (s.received reply).HasKey member message ∨ Served member message [s.mek] := by
        rcases hKey with hOld | hAwaits | hServed
        · exact (hMay message hBefore hOld hCopy).imp hHas served_self
        · exact .inl (hHas hAwaits)
        · exact .inr hServed
      rcases h.readable message hBefore with ⟨hRecent, hAny⟩ | ⟨hPage, hAny⟩ | ⟨hWaiting, ⟨-, hNone⟩ | hAny⟩ |
        ⟨⟨fetch, hHere, hRetry⟩, hAny⟩
      · exact ⟨.inl (by rwa [received_eq]), hKey (.inl hRecent) hAny⟩
      · exact ⟨.inr (.inl (by rwa [received_eq])), hKey (.inr hPage) hAny⟩
      · cases hFetch.symm.trans hNone
      · exact ⟨.inr (.inr (by rwa [received_eq])), hAny.imp hHas id⟩
      · cases hFetch.symm.trans hHere
        cases hRetry
        rcases hAny with hAwaits | ⟨-, fetch, hHere, hReply⟩
        · rw [step_receiveMek hFetch] at hUnread
          exact absurd (decrypted_retryDecrypt (hHas hAwaits)) (mem_unread_iff.mp hUnread).2.2
        · cases hFetch.symm.trans hHere
          cases hReply

theorem Legible.receiveHistory (h : s.Legible member) {index : Nat}
    (hMay : ∀ page ∈ s.pages[index]?, ∀ dto ∈ page.2, ⟨page.1, dto⟩ ∈ s.unread member →
      s.HasKey member ⟨page.1, dto⟩ ∨ s.Recent member ⟨page.1, dto⟩ ∨
        ({ s with pages := s.pages.eraseIdx index }).Arriving member ⟨page.1, dto⟩ [s.mek]) :
    (step member s (.receiveHistory index)).Legible member := by
  rcases hPage : s.pages[index]? with _ | page
  · simpa only [step, hPage] using h
  · rw [step_receiveHistory hPage]
    have hReads : Reads { s with pages := s.pages.eraseIdx index }
        (({ s with pages := s.pages.eraseIdx index }).readHistory member page.1 page.2) := reads_readHistory page.1 page.2
    refine ⟨by rw [hReads.mek]; exact h.keyLength, hReads.alert.mpr h.alert, fun message hUnread => ?_⟩
    have hBefore : message ∈ s.unread member := unread_of_server_eq hReads.server hReads.decrypted hUnread
    rw [hReads.mek, hReads.readable]
    rcases h.readable message hBefore with hRecent | ⟨⟨other, hOther, hChannel, hDto⟩, hKey⟩ | hElse
    · exact .inl hRecent
    · by_cases hSame : other = page
      · subst hSame
        obtain ⟨channelId, dto⟩ := message
        cases hChannel
        rcases hMay other hPage dto hDto hBefore with hHas | hRecent | hArriving
        · have hRead := decrypted_readHistory (s := { s with pages := s.pages.eraseIdx index }) hHas hDto
          exact absurd hRead (mem_unread_iff.mp hUnread).2.2
        · exact .inl ⟨hRecent, hKey⟩
        · exact .inr hArriving
      · obtain ⟨place, hPlace⟩ := List.getElem?_of_mem hOther
        refine .inr (.inl ⟨⟨other, List.mem_eraseIdx_iff_getElem?.mpr ⟨place, ?_, hPlace⟩, hChannel, hDto⟩, hKey⟩)
        rintro rfl
        exact hSame (Option.some.inj (hPlace.symm.trans hPage))
    · exact .inr (.inr hElse)

theorem reads_compose (channelId body : String) (nonce : List UInt8) (timestamp : Int64) :
    Reads s (s.compose member channelId body nonce timestamp) := by
  unfold Exchange.compose
  rcases hCached : s.cached with _ | mek
  · exact .refl s
  · dsimp only [Option.elim_some]
    cases s.store.insertMessage
        { conversationId := channelId, senderKey := member.myPseudonymKey, body := body, timestamp := timestamp
          isRead := true, mekGeneration := s.mekGeneration.toInt64 } with
    | none => exact .refl s
    | some store => exact ⟨rfl, rfl, rfl, rfl, hCached.symm, rfl, fun _ h => h⟩

/-- One step that spares the unread messages. -/
theorem Legible.step (h : s.Legible member) {event : ExchangeEvent} (hSpares : s.Spares member event) :
    (step member s event).Legible member := by
  cases event with
  | accept sender channelId ciphertext mekGeneration now =>
    by_cases hOwn : sender = member.myPseudonymKey
    · simpa only [Exchange.step, if_pos hOwn] using h
    · have hGuarded := hSpares hOwn
      simp only [Exchange.step, if_neg hOwn]
      by_cases hCurrent : mekGeneration = s.mek.generation
      · exact h.acceptMessage (fun _ _ => (hGuarded hCurrent).1) (hGuarded hCurrent).2
      · rwa [acceptMessage_of_ne hCurrent]
  | rotate mekKey => exact h.rotate hSpares
  | deliver index => exact h.deliver hSpares
  | mekChange => exact h.mekChange hSpares
  | answerMek => exact h.answerMek
  | receiveMek => exact h.receiveMek hSpares
  | answerHistory channelId limit =>
    have hExtends : Extends s (Exchange.step member s (.answerHistory channelId limit)) :=
      ⟨rfl, rfl, fun _ h => h, List.subset_append_left _ _⟩
    exact ⟨h.keyLength, hExtends.alert rfl h.alert, fun message hUnread =>
      hExtends.readable .inl (h.readable message hUnread)⟩
  | receiveHistory index => exact h.receiveHistory hSpares
  | compose channelId body nonce timestamp =>
    exact (reads_compose channelId body nonce.val timestamp).legible h
  | submit index now answered => exact h.submit hSpares

theorem legible_joined (generation : UInt64) (mekKey : Window UInt8 32) : (joined generation mekKey).Legible member :=
  ⟨mekKey.property, .inr (.inl ⟨rfl, rfl⟩), fun _ h => absurd h List.not_mem_nil⟩

/-- Every accepted message of another member can be decrypted; the client's own it has stored as it sent them. -/
def NoneLost (member : Membership) (s : Exchange) : Prop :=
  ∀ message ∈ s.accepted, message.dto.senderPseudonym ≠ member.myPseudonymKey → s.CanDecrypt member message

theorem Legible.noneLost (h : s.Legible member) : s.NoneLost member := by
  intro message hAccepted hOther
  by_cases hRead : message ∈ s.decrypted
  · exact .of_mem hRead
  · exact .of_readable hOther h.keyLength h.alert (h.readable message (mem_unread_iff.mpr ⟨hAccepted, hOther, hRead⟩))

/-- In a run whose steps spare the unread messages none is lost. -/
theorem noneLost_of_spares (member : Membership) (generation : UInt64) (mekKey : Window UInt8 32)
    (events : List ExchangeEvent) (hRun : Along (step member) (Spares member) (joined generation mekKey) events) :
    (final (step member) (joined generation mekKey) events).NoneLost member :=
  (hRun.invariant (Legible member) (fun _ _ hLegible hSpares => hLegible.step hSpares)
    (legible_joined generation mekKey)).noneLost

/-! ## A key that is gone -/

/-- No key within reach opens the message, and it has not been read. -/
structure KeyGone (member : Membership) (message : ChannelMessage) (s : Exchange) : Prop where
  keyLength : s.mek.key.length = 32
  server : ¬member.Opens s.mek message
  cached : ¬s.HasKey member message
  fetched : ¬s.AwaitsKey member message
  unread : message ∉ s.decrypted

theorem not_mem_keep {other : ChannelMessage} {body : String} (hUnread : message ∉ s.decrypted)
    (hOther : message ≠ other) : message ∉ (s.keep other body).decrypted := by
  simp [keep, hUnread, hOther]

theorem not_mem_readHistoryMessage {mek : MediaEncryptionKey} {other : ChannelMessage}
    (hUnread : message ∉ s.decrypted) (hCannot : ¬member.Opens mek message) :
    message ∉ (s.readHistoryMessage member mek other).decrypted := by
  unfold readHistoryMessage
  split
  · next hGeneration =>
    rcases hPlaintext : member.decrypt mek other.dto.ciphertext with _ | plaintext
    · exact hUnread
    · refine not_mem_keep hUnread ?_
      rintro rfl
      exact hCannot ⟨hGeneration.symm, by rw [hPlaintext]; exact Option.some_ne_none _⟩
  · exact hUnread

theorem not_mem_readHistory {channelId : String} {messages : List ChannelMessageDto} (hUnread : message ∉ s.decrypted)
    (hCached : ¬s.HasKey member message) : message ∉ (s.readHistory member channelId messages).decrypted := by
  unfold readHistory
  rcases hKey : s.cached with _ | mek
  · exact hUnread
  · have hCannot : ¬member.Opens mek message := fun hOpens => hCached ⟨mek, hKey, hOpens⟩
    have hFold (s : Exchange) (hUnread : message ∉ s.decrypted) :
        message ∉ (messages.foldl (fun s dto => s.readHistoryMessage member mek ⟨channelId, dto⟩) s).decrypted := by
      induction messages generalizing s with
      | nil => exact hUnread
      | cons dto rest ih => exact ih _ (not_mem_readHistoryMessage hUnread hCannot)
    exact hFold s hUnread

/-- Whatever is decrypted with the cached key, the key opens. -/
theorem hasKey_of_decrypted {body : String}
    (h : member.decryptWithCachedMek s.cached message.dto.ciphertext message.dto.mekGeneration = .decrypted body) :
    s.HasKey member message := by
  unfold Membership.decryptWithCachedMek at h
  rcases hCached : s.cached with _ | mek
  · rw [hCached] at h
    cases h
  · rw [hCached] at h
    dsimp only at h
    split at h
    · next hGeneration =>
      refine ⟨mek, hCached, hGeneration, fun hNone => ?_⟩
      rw [hNone] at h
      cases h
    · cases h

theorem not_mem_retryDecrypt {other : ChannelMessage} (hUnread : message ∉ s.decrypted)
    (hCached : ¬s.HasKey member message) : message ∉ (s.retryDecrypt member other).decrypted := by
  unfold retryDecrypt
  split
  · next body hDecrypted =>
    refine not_mem_keep hUnread ?_
    rintro rfl
    exact hCached (hasKey_of_decrypted hDecrypted)
  · exact hUnread

theorem not_mem_handleBroadcastNewMessage {other : ChannelMessage} (hUnread : message ∉ s.decrypted)
    (hCached : ¬s.HasKey member message) : message ∉ (s.handleBroadcastNewMessage member other).decrypted := by
  unfold handleBroadcastNewMessage
  split
  · exact hUnread
  · split
    · next body hDecrypted =>
      refine not_mem_keep hUnread ?_
      rintro rfl
      exact hCached (hasKey_of_decrypted hDecrypted)
    · exact hUnread
    · exact hUnread

/-- No key has come since. -/
structure BringsNoKey (s t : Exchange) : Prop where
  mek : t.mek = s.mek
  cached : t.cached = s.cached
  fetched : ∀ mek, t.fetched? = some mek → s.fetched? = some mek

theorem bringsNoKey_startFetch (retry : Option ChannelMessage) : BringsNoKey s (s.startFetch retry) :=
  ⟨rfl, rfl, fun _ h => nomatch h⟩

theorem bringsNoKey_handleBroadcastNewMessage (message : ChannelMessage) :
    BringsNoKey s (s.handleBroadcastNewMessage member message) := by
  unfold handleBroadcastNewMessage
  split
  · exact ⟨rfl, rfl, fun _ h => h⟩
  · split
    · exact ⟨rfl, rfl, fun _ h => h⟩
    · exact ⟨rfl, rfl, fun _ h => h⟩
    · exact bringsNoKey_startFetch _

theorem bringsNoKey_handleBroadcast (broadcast : CommunityBroadcast) :
    BringsNoKey s (s.handleBroadcast member broadcast) := by
  cases broadcast with
  | newMessage => exact bringsNoKey_handleBroadcastNewMessage _
  | mekRotated id generation => exact bringsNoKey_startFetch none
  | _ => exact ⟨rfl, rfl, fun _ h => h⟩

/-- The client and the network alone do not bring the key back. -/
theorem KeyGone.step (h : KeyGone member message s) {event : ExchangeEvent} (hFollowing : Following event) :
    KeyGone member message (step member s event) := by
  cases event with
  | deliver index =>
    rcases hFetch : s.fetch with _ | fetch
    · rcases hBroadcast : s.inbox[index]? with _ | broadcast
      · simpa only [Exchange.step, hFetch, hBroadcast] using h
      · rw [step_deliver hFetch hBroadcast]
        obtain ⟨hMek, hCached, hFetched⟩ :=
          @bringsNoKey_handleBroadcast member { s with inbox := s.inbox.eraseIdx index } broadcast
        refine ⟨by rw [hMek]; exact h.keyLength, by rw [hMek]; exact h.server, ?_, ?_, ?_⟩
        · unfold HasKey
          rw [hCached]
          exact h.cached
        · rintro ⟨mek, hHere, hOpens⟩
          exact h.fetched ⟨mek, hFetched mek hHere, hOpens⟩
        · have hUnread := h.unread
          cases broadcast with
          | newMessage => exact not_mem_handleBroadcastNewMessage hUnread h.cached
          | _ => exact hUnread
    · simpa only [Exchange.step, hFetch] using h
  | answerMek =>
    rcases hFetch : s.fetch with _ | ⟨retry, _ | reply⟩
    · simpa only [Exchange.step, hFetch] using h
    · simp only [Exchange.step, hFetch]
      refine ⟨h.keyLength, h.server, h.cached, ?_, h.unread⟩
      rintro ⟨mek, hFetched, hOpens⟩
      cases (receivedMek_mekPayload h.keyLength).symm.trans hFetched
      exact h.server hOpens
    · simpa only [Exchange.step, hFetch] using h
  | receiveMek =>
    rcases hFetch : s.fetch with _ | ⟨retry, _ | reply⟩
    · simpa only [Exchange.step, hFetch] using h
    · simpa only [Exchange.step, hFetch] using h
    · have hReads : Reads (s.received reply) (Exchange.step member s .receiveMek) := reads_receiveMek hFetch
      have hCached : ¬(s.received reply).HasKey member message := by
        rintro ⟨mek, hHere, hOpens⟩
        rw [received_eq] at hHere
        rcases Option.or_eq_some_iff.mp hHere with hReply | ⟨-, hOld⟩
        · exact h.fetched ⟨mek, fetched?_eq_some_iff.mpr ⟨retry, reply, hFetch, hReply⟩, hOpens⟩
        · exact h.cached ⟨mek, hOld, hOpens⟩
      refine ⟨?_, ?_, fun hHas => hCached (hReads.hasKey.mp hHas), ?_, ?_⟩
      · rw [hReads.mek, received_eq]
        exact h.keyLength
      · rw [hReads.mek, received_eq]
        exact h.server
      · refine not_awaitsKey_of_none ?_
        rw [hReads.fetch, received_eq]
      · have hUnread : message ∉ (s.received reply).decrypted := by
          rw [received_eq]
          exact h.unread
        rw [step_receiveMek hFetch]
        cases retry with
        | none => exact hUnread
        | some waiting => exact not_mem_retryDecrypt hUnread hCached
  | answerHistory channelId limit => exact ⟨h.keyLength, h.server, h.cached, h.fetched, h.unread⟩
  | receiveHistory index =>
    rcases hPage : s.pages[index]? with _ | page
    · simpa only [Exchange.step, hPage] using h
    · rw [step_receiveHistory hPage]
      have hReads : Reads { s with pages := s.pages.eraseIdx index }
          (({ s with pages := s.pages.eraseIdx index }).readHistory member page.1 page.2) :=
        reads_readHistory page.1 page.2
      refine ⟨by rw [hReads.mek]; exact h.keyLength, by rw [hReads.mek]; exact h.server,
        fun hHas => h.cached (hReads.hasKey.mp hHas), ?_, ?_⟩
      · unfold AwaitsKey fetched?
        rw [hReads.fetch]
        exact h.fetched
      · exact not_mem_readHistory (s := { s with pages := s.pages.eraseIdx index }) h.unread h.cached
  | _ => exact hFollowing.elim

theorem KeyGone.not_canDecrypt (h : KeyGone member message s) : ¬s.CanDecrypt member message := by
  rintro ⟨events, hEvents, hDecrypted⟩
  have hGone := Along.invariant (P := fun _ event => Following event) (KeyGone member message)
    (fun _ _ hGone hFollowing => hGone.step hFollowing) h (Along.of_mem hEvents s)
  exact hGone.unread hDecrypted

/-! ## A run that reads every message, and one that loses the first -/

theorem forall_unread {P : ChannelMessage → Prop} (h : s.unread member = []) : ∀ message ∈ s.unread member, P message := by
  rw [h]
  exact fun _ hMessage => absurd hMessage List.not_mem_nil

/-- A cipher that puts the key in front of the plaintext. -/
def sampleMembership : Membership where
  communityId := "c"
  myPseudonymKey := "alice"
  sealBytes key _ plaintext := key ++ plaintext
  openBytes key _ ciphertext := if ciphertext.take 32 = key then some (ciphertext.drop 32) else none

def sampleKey (byte : UInt8) : Window UInt8 32 := .replicate 32 byte

def sampleCiphertext (mek : MediaEncryptionKey) : List UInt8 := sampleMembership.encrypt mek (List.replicate 12 0) [104, 105]

/-- Bob sends a message. -/
def bobSends : ExchangeEvent := .accept "bob" "general" (sampleCiphertext ⟨1, (sampleKey 1).val⟩) 1 1000

/-- The message is read before the key is replaced. -/
def promptRun : List ExchangeEvent := [bobSends, .deliver 0, .rotate (sampleKey 2), .deliver 0, .answerMek, .receiveMek]

theorem noneLost_of_spares_prompt :
    (final (step sampleMembership) (joined 1 (sampleKey 1)) promptRun).NoneLost sampleMembership := by
  refine noneLost_of_spares sampleMembership 1 (sampleKey 1) promptRun ⟨?_, ?_, ?_, ?_, trivial, ?_, trivial⟩
  · exact fun _ _ => ⟨by decide +kernel, forall_unread rfl⟩
  · intro _ broadcast hBroadcast
    cases hBroadcast
    intro _
    trivial
  · exact forall_unread (by decide +kernel)
  · intro _ broadcast hBroadcast
    cases hBroadcast
    exact forall_unread (by decide +kernel)
  · exact forall_unread (by decide +kernel)

/-- The key is replaced while the message waits, and the client hears of the new key first. -/
def overtakenRun : List ExchangeEvent := [bobSends, .rotate (sampleKey 2), .deliver 1, .answerMek, .receiveMek]

theorem message_lost_to_rotation :
    ¬(final (step sampleMembership) (joined 1 (sampleKey 1)) overtakenRun).NoneLost sampleMembership := by
  intro h
  have hGone : KeyGone sampleMembership
      (messageOfRow (acceptedRow sampleMembership "bob" "general" (sampleCiphertext ⟨1, (sampleKey 1).val⟩) 1 1000))
      (final (step sampleMembership) (joined 1 (sampleKey 1)) overtakenRun) := by
    refine ⟨by decide +kernel, by decide +kernel, ?_, ?_, by decide +kernel⟩
    · rintro ⟨mek, hMek, hOpens⟩
      cases hMek
      revert hOpens
      decide +kernel
    · rintro ⟨mek, hMek, -⟩
      cases hMek
  exact hGone.not_canDecrypt (h _ List.mem_cons_self (by decide +kernel))

end Exchange

end Rekindle.Community
