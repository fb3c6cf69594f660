import Rekindle.Server.Generations
import Rekindle.Server.Hosting

/-! # Key generations over restarts and re-hosting

A history keeps what has been announced: each generation number that a member was told or that
labels a stored message, with the key it stood for at that moment. The number stands for that key
later as well, as long as no announced key is forgotten when it leaves the memory.
-/
namespace Rekindle.Server
set_option autoImplicit false
open Fallible Runs

structure AnnouncedKey where
  communityId : String
  generation : Nat
  key : List UInt8
  deriving DecidableEq

structure KeyHistory where
  server : ServerState
  announced : List AnnouncedKey

/-- What the answer to a request tells. -/
def answered (state : ServerState) (incoming : IncomingRequest) : List (String × Nat) :=
  let result := (dispatchRequest incoming.env incoming.sender incoming.routing incoming.request).run state
  match (Result.value? result).bind CommunityResponse.generation, incoming.target with
  | some generation, some communityId => [(communityId, generation.toNat)]
  | _, _ => []

/-- The generation numbers that a step tells members or puts on messages. -/
def announcements (state : ServerState) (event : ServerEvent) : List (String × Nat) :=
  let after := handleEvent state event
  let answers := match event with
    | .request incoming => answered state incoming
    | _ => []
  let sent := (after.sent.drop state.sent.length).filterMap fun entry =>
    entry.2.announced.map fun (communityId, generation) => (communityId, generation.toNat)
  let labels := (after.db.serverMessages.drop state.db.serverMessages.length).map fun row =>
    (row.communityId, row.mekGeneration)
  answers ++ sent ++ labels

def currentKey (state : ServerState) (communityId : String) : List UInt8 :=
  (state.hosted.lookup communityId).elim [] fun community => community.mek.key

def recordEvent (history : KeyHistory) (event : ServerEvent) : KeyHistory :=
  let after := handleEvent history.server event
  { server := after
    announced := history.announced ++ (announcements history.server event).map
      fun (communityId, generation) =>
        { communityId := communityId, generation := generation, key := currentKey after communityId } }

def KeyHistory.initial (dbFaults : List Bool) : KeyHistory :=
  { server := ServerState.initial dbFaults, announced := [] }

/-- The key now in use under an announced number is the one that was announced. -/
def KeyHistory.NeverReused (history : KeyHistory) : Prop :=
  ∀ entry ∈ history.announced, ∀ community,
    history.server.hosted.lookup entry.communityId = some community →
    community.mek.generation.toNat = entry.generation → community.mek.key = entry.key

/-! ## Keys that are not older than the announced ones -/

/-- The key is a later one than the announced, or the same. -/
def AnnouncedKey.NotAfter (entry : AnnouncedKey) (mek : MediaEncryptionKey) : Prop :=
  entry.generation ≤ mek.generation.toNat ∧
    (entry.generation = mek.generation.toNat → entry.key = mek.key)

/-- The latest stored key of the community is not older than the announced one. -/
def AnnouncedKey.StoredIn (entry : AnnouncedKey) (db : Database) : Prop :=
  ∃ mek, loadLatestMek entry.communityId db = some mek ∧ entry.NotAfter mek

/-- Steps that forget no announced key. -/
def Remembers (history : KeyHistory) : ServerEvent → Prop
  | .restart => ∀ entry ∈ history.announced, entry.communityId ∈ history.server.hosted →
      entry.StoredIn history.server.db
  | .unhost communityId => communityId ∈ history.server.hosted →
      ∀ entry ∈ history.announced, entry.communityId = communityId →
        history.server.dbFaults.headD false = true ∧ entry.StoredIn history.server.db
  | .host _ communityId _ _ _ _ => communityId ∉ history.server.hosted →
      (∃ entry ∈ history.announced, entry.communityId = communityId) →
      history.server.dbFaults.tail.headD false = false
  | .request incoming => ∀ request communityId community, incoming.request = .member request →
      request.rotates = true → incoming.target = some communityId →
      history.server.hosted.lookup communityId = some community →
      community.mek.generation.toNat + 1 < UInt64.size

/-- Every announced key is in memory or stored, or a later one is. -/
structure KeyHistory.Remembered (history : KeyHistory) : Prop where
  hosted : ∀ entry ∈ history.announced, ∀ community,
    history.server.hosted.lookup entry.communityId = some community → entry.NotAfter community.mek
  stored : ∀ entry ∈ history.announced, entry.communityId ∉ history.server.hosted →
    entry.StoredIn history.server.db

theorem KeyHistory.Remembered.neverReused {history : KeyHistory} (h : history.Remembered) :
    history.NeverReused := by
  intro entry hEntry community hCommunity hSame
  exact ((h.hosted entry hEntry community hCommunity).2 hSame.symm).symm

/-! ## What a step announces -/

/-- The number is not above the current generation of the community. -/
def NotAboveCurrent (state : ServerState) (communityId : String) (generation : Nat) : Prop :=
  ∃ community, state.hosted.lookup communityId = some community ∧
    generation ≤ community.mek.generation.toNat

theorem IsCurrent.notAbove {state : ServerState} {communityId : String} {generation : UInt64}
    (h : IsCurrent state communityId generation) : NotAboveCurrent state communityId generation.toNat := by
  obtain ⟨community, hCommunity, rfl⟩ := h
  exact ⟨community, hCommunity, le_refl _⟩

theorem answered_current {state : ServerState} {incoming : IncomingRequest} {communityId : String}
    {generation : Nat} (hIn : (communityId, generation) ∈ answered state incoming) :
    NotAboveCurrent (serve state incoming) communityId generation := by
  unfold answered at hIn
  cases hRun : (dispatchRequest incoming.env incoming.sender incoming.routing incoming.request).run
      state with
  | error e after =>
    rw [hRun] at hIn
    cases hIn
  | ok response after =>
    rw [hRun] at hIn
    have hAfter : serve state incoming = after := by rw [serve, hRun]; rfl
    rw [hAfter]
    cases hTold : response.generation with
    | none => simp [hTold] at hIn
    | some told =>
      obtain ⟨target, hTarget, hCurrent⟩ := dispatchRequest_answers state incoming hRun hTold
      simp only [Result.value?_ok, Option.bind_some, hTold, hTarget, List.mem_singleton] at hIn
      cases hIn
      exact hCurrent.notAbove

theorem announcements_of_request {state : ServerState} {incoming : IncomingRequest}
    (hTells : TellsCurrent state (serve state incoming)) {communityId : String} {generation : Nat}
    (hIn : (communityId, generation) ∈ announcements state (.request incoming)) :
    NotAboveCurrent (serve state incoming) communityId generation := by
  obtain ⟨rows, hRows, hLabels⟩ := hTells.messages
  obtain ⟨sent, hSent, hTold⟩ := hTells.sent
  have hNewRows : (serve state incoming).db.serverMessages.drop state.db.serverMessages.length = rows := by
    rw [hRows, List.drop_left]
  have hNewSent : (serve state incoming).sent.drop state.sent.length = sent := by
    rw [hSent, List.drop_left]
  unfold announcements at hIn
  change _ ∈ answered state incoming ++ _ ++ _ at hIn
  change _ ∈ _ ++ ((serve state incoming).sent.drop _).filterMap _ ++
    ((serve state incoming).db.serverMessages.drop _).map _ at hIn
  rw [hNewRows, hNewSent, List.mem_append, List.mem_append] at hIn
  rcases hIn with (hAnswer | hBroadcast) | hLabel
  · exact answered_current hAnswer
  · obtain ⟨entry, hEntry, hAnnounced⟩ := List.mem_filterMap.mp hBroadcast
    obtain ⟨⟨_, told⟩, hTell, hPair⟩ := Option.map_eq_some_iff.mp hAnnounced
    cases hPair
    exact (hTold entry hEntry _ told hTell).notAbove
  · obtain ⟨row, hRow, hPair⟩ := List.mem_map.mp hLabel
    cases hPair
    obtain ⟨told, ⟨community, hCommunity, rfl⟩, hLabelled⟩ := hLabels row hRow
    refine ⟨community, hCommunity, ?_⟩
    rw [hLabelled]
    exact min_le_left _ _

/-! ## Steps -/

section
variable {history : KeyHistory}

theorem loadLatestMek_congr {communityId : String} {db db' : Database}
    (hRows : db'.serverMek.filter (·.communityId == communityId) =
      db.serverMek.filter (·.communityId == communityId)) :
    loadLatestMek communityId db' = loadLatestMek communityId db := by
  unfold loadLatestMek latestMekRow
  rw [hRows]

theorem AnnouncedKey.StoredIn.congr {entry : AnnouncedKey} {db db' : Database}
    (h : entry.StoredIn db)
    (hRows : db'.serverMek.filter (·.communityId == entry.communityId) =
      db.serverMek.filter (·.communityId == entry.communityId)) : entry.StoredIn db' := by
  obtain ⟨mek, hLoaded, hNotAfter⟩ := h
  exact ⟨mek, (loadLatestMek_congr hRows).trans hLoaded, hNotAfter⟩

/-- A newly announced number stands for the current key. -/
theorem notAfter_of_notAboveCurrent {state : ServerState} {communityId : String} {generation : Nat}
    (h : NotAboveCurrent state communityId generation) {community : HostedCommunity}
    (hCommunity : state.hosted.lookup communityId = some community) :
    (AnnouncedKey.mk communityId generation (currentKey state communityId)).NotAfter community.mek := by
  obtain ⟨found, hFound, hBelow⟩ := h
  rw [hCommunity] at hFound
  cases hFound
  refine ⟨hBelow, fun _ => ?_⟩
  rw [currentKey, hCommunity]
  rfl

/-- It is enough that the step keeps what was announced before. -/
theorem remembered_of_request {incoming : IncomingRequest}
    (hTells : TellsCurrent history.server (serve history.server incoming))
    (hHosted : ∀ entry ∈ history.announced, ∀ community,
      (serve history.server incoming).hosted.lookup entry.communityId = some community →
      entry.NotAfter community.mek)
    (hStored : ∀ entry ∈ history.announced, 
      entry.communityId ∉ (serve history.server incoming).hosted →
      entry.StoredIn (serve history.server incoming).db) :
    (recordEvent history (.request incoming)).Remembered := by
  constructor
  · intro entry hEntry community hCommunity
    rcases List.mem_append.mp hEntry with hOld | hNew
    · exact hHosted entry hOld community hCommunity
    · obtain ⟨⟨communityId, generation⟩, hIn, rfl⟩ := List.mem_map.mp hNew
      exact notAfter_of_notAboveCurrent (announcements_of_request hTells hIn) hCommunity
  · intro entry hEntry hAbsent
    rcases List.mem_append.mp hEntry with hOld | hNew
    · exact hStored entry hOld hAbsent
    · obtain ⟨⟨communityId, generation⟩, hIn, rfl⟩ := List.mem_map.mp hNew
      obtain ⟨community, hCommunity, _⟩ := announcements_of_request hTells hIn
      exact absurd (Finmap.mem_iff.mpr ⟨community, hCommunity⟩) hAbsent

theorem mem_hosted_of_mek {before after : ServerState} {communityId : String}
    (hSame : (after.hosted.lookup communityId).map HostedCommunity.mek =
      (before.hosted.lookup communityId).map HostedCommunity.mek)
    (h : communityId ∈ before.hosted) : communityId ∈ after.hosted := by
  obtain ⟨community, hCommunity⟩ := Finmap.mem_iff.mp h
  rw [hCommunity, Option.map_some] at hSame
  obtain ⟨later, hLater, _⟩ := Option.map_eq_some_iff.mp hSame
  exact Finmap.mem_iff.mpr ⟨later, hLater⟩

/-- A community whose key stays in memory. -/
theorem KeyHistory.Remembered.notAfter (h : history.Remembered) {after : ServerState}
    {entry : AnnouncedKey} (hEntry : entry ∈ history.announced)
    (hSame : (after.hosted.lookup entry.communityId).map HostedCommunity.mek =
      (history.server.hosted.lookup entry.communityId).map HostedCommunity.mek)
    {community : HostedCommunity} (hCommunity : after.hosted.lookup entry.communityId = some community) :
    entry.NotAfter community.mek := by
  rw [hCommunity, Option.map_some] at hSame
  obtain ⟨former, hFormer, hMek⟩ := Option.map_eq_some_iff.mp hSame.symm
  rw [← hMek]
  exact h.hosted entry hEntry former hFormer

theorem remembered_request (h : history.Remembered) {incoming : IncomingRequest}
    (hCondition : Remembers history (.request incoming)) :
    (recordEvent history (.request incoming)).Remembered := by
  rcases serve_keyStep history.server incoming with
    hKept | ⟨communityId, request, hRequest, hRotates, hTarget, hRotated⟩
  · refine remembered_of_request hKept.tellsCurrent ?_ ?_
    · intro entry hEntry community hCommunity
      exact h.notAfter hEntry (hKept.hosted entry.communityId) hCommunity
    · intro entry hEntry hAbsent
      have hBefore := mt (mem_hosted_of_mek (hKept.hosted entry.communityId)) hAbsent
      exact (h.stored entry hEntry hBefore).congr (by rw [hKept.keys])
  · obtain ⟨former, changed, hFormer, hChanged, hMek⟩ := hRotated.rotated
    have hNext : changed.mek.generation.toNat = former.mek.generation.toNat + 1 := by
      have hRoom := hCondition request communityId former hRequest hRotates hTarget hFormer
      rw [hMek, UInt64.toNat_add]
      exact Nat.mod_eq_of_lt hRoom
    refine remembered_of_request hRotated.tells ?_ ?_
    · intro entry hEntry community hCommunity
      by_cases hHere : entry.communityId = communityId
      · rw [hHere, hChanged] at hCommunity
        cases hCommunity
        have hOld := (h.hosted entry hEntry former (hHere ▸ hFormer)).1
        exact ⟨by omega, fun hSame => by omega⟩
      · exact h.notAfter hEntry (hRotated.others entry.communityId hHere) hCommunity
    · intro entry hEntry hAbsent
      have hHere : entry.communityId ≠ communityId := by
        rintro rfl
        exact hAbsent (Finmap.mem_iff.mpr ⟨changed, hChanged⟩)
      have hBefore := mt (mem_hosted_of_mek (hRotated.others entry.communityId hHere)) hAbsent
      exact (h.stored entry hEntry hBefore).congr (hRotated.rows entry.communityId hHere)

variable (history) in
/-- A step that is not a request announces nothing. -/
theorem recordEvent_of_silent (event : ServerEvent) (hEvent : ∀ incoming, event ≠ .request incoming)
    (hSent : (handleEvent history.server event).sent = history.server.sent)
    (hMessages : (handleEvent history.server event).db.serverMessages = history.server.db.serverMessages) :
    recordEvent history event =
      { server := handleEvent history.server event, announced := history.announced } := by
  have hNothing : announcements history.server event = [] := by
    unfold announcements
    dsimp only
    rw [hSent, hMessages, List.drop_length, List.drop_length]
    cases event with
    | request incoming => exact absurd rfl (hEvent incoming)
    | _ => rfl
  unfold recordEvent
  dsimp only
  rw [hNothing, List.map_nil, List.append_nil]

theorem remembered_restart (h : history.Remembered) (hCondition : Remembers history .restart) :
    (recordEvent history .restart).Remembered := by
  rw [recordEvent_of_silent history .restart (fun _ h => by cases h) rfl rfl]
  constructor
  · intro entry hEntry community hCommunity
    cases (Finmap.lookup_empty entry.communityId).symm.trans hCommunity
  · intro entry hEntry _
    by_cases hHosted : entry.communityId ∈ history.server.hosted
    · exact hCondition entry hEntry hHosted
    · exact h.stored entry hEntry hHosted

end

/-! ## Hosting -/

/-- What hosting and unhosting leave alone: what was sent and stored, and other communities. -/
structure OthersKept (communityId : String) (before after : ServerState) : Prop where
  messages : after.db.serverMessages = before.db.serverMessages
  sent : after.sent = before.sent
  hosted : ∀ other, other ≠ communityId → after.hosted.lookup other = before.hosted.lookup other
  rows : ∀ other, other ≠ communityId →
    after.db.serverMek.filter (·.communityId == other) =
      before.db.serverMek.filter (·.communityId == other)

instance (communityId : String) : Std.Refl (OthersKept communityId) :=
  ⟨fun _ => ⟨rfl, rfl, fun _ _ => rfl, fun _ _ => rfl⟩⟩

instance (communityId : String) : IsTrans ServerState (OthersKept communityId) :=
  ⟨fun _ _ _ hFirst hSecond => ⟨hSecond.messages.trans hFirst.messages, hSecond.sent.trans hFirst.sent,
    fun other hOther => (hSecond.hosted other hOther).trans (hFirst.hosted other hOther),
    fun other hOther => (hSecond.rows other hOther).trans (hFirst.rows other hOther)⟩⟩

section
variable {communityId : String} {ε : Type}

theorem Unheard.othersKept {before after : ServerState} (h : Unheard before after) :
    OthersKept communityId before after :=
  ⟨h.messages, h.sent, fun _ _ => by rw [h.hosted], fun _ _ => by rw [h.keys]⟩

theorem unheard_execute {statement : Database → Option Database}
    (h : ∀ db db', statement db = some db' → KeysAside db db') :
    Keeps Unheard (execute statement : EStateM ε ServerState Bool) := by
  intro s
  obtain ⟨stored, db, hRun, hDb⟩ : ∃ stored db, (execute statement : EStateM ε _ _).run s = _ ∧ _ :=
    execute_run statement s
  rw [hRun]
  rcases hDb with rfl | hStatement
  · exact ⟨rfl, rfl, rfl, rfl⟩
  · have hAside := h s.db db hStatement
    exact ⟨rfl, hAside.keys, hAside.messages, rfl⟩

theorem unheard_query {α : Type} (read : Database → α) :
    Keeps Unheard (query read : EStateM ε ServerState (Option α)) := fun _ => ⟨rfl, rfl, rfl, rfl⟩

theorem unheard_load {α : Type} (read : Database → α) : Keeps Unheard (load read) :=
  (unheard_query read).bind fun _ => keeps_ofExcept _

theorem unheard_loadOrCreateRoles : Keeps Unheard (loadOrCreateRoles communityId) := by
  refine (unheard_load _).bind fun roles => ?_
  split
  · refine Keeps.bind (keeps_list_forM _ fun role => ?_) fun _ => keeps_pure _
    refine Keeps.bind (unheard_execute fun db db' hRun => ?_) fun _ => keeps_ofExcept _
    grind [Database.insertRoleOrIgnore, KeysAside]
  · exact keeps_pure _

theorem unheard_insertMemberRows (env : Environment) (pseudonym displayName : String)
    (roleIds : List UInt32) :
    Keeps Unheard (insertMemberRows env communityId pseudonym displayName roleIds :
      EStateM ε ServerState Unit) := by
  refine Keeps.bind (unheard_executeIgnoring fun db db' hRun => ?_) fun _ =>
    keeps_list_forM _ fun _ => unheard_executeIgnoring fun db db' hRun => ?_
  · grind [Database.insertMember, KeysAside]
  · grind [Database.insertMemberRole, KeysAside]

theorem unheard_updateCommunity (update : CommunityRow → CommunityRow) :
    Keeps Unheard (executeIgnoring (Database.updateCommunity communityId · update) :
      EStateM ε ServerState Unit) := by
  refine unheard_executeIgnoring ?_
  rintro _ _ ⟨⟩
  exact ⟨rfl, rfl⟩

/-- Nothing but other tables changed, or the community is in memory, with the key. -/
def MaybeHosted (communityId : String) (mek : MediaEncryptionKey) (before after : ServerState) : Prop :=
  Unheard before after ∨ ∃ u community, Unheard before u ∧ community.mek = mek ∧
    after = { u with hosted := u.hosted.insert communityId community }

section
variable {s t : ServerState} {α : Type} {mek : MediaEncryptionKey}

theorem ends_unheard {x : EStateM ε ServerState α} {β : Type} {f : α → EStateM ε ServerState β}
    (hBefore : Unheard s t) (hFirst : Keeps Unheard x)
    (hRest : ∀ a u, Unheard s u → Ends (MaybeHosted communityId mek s) (f a) u) :
    Ends (MaybeHosted communityId mek s) (x >>= f) t :=
  Ends.bind_of_keeps hFirst (fun _ hKept => .inl (trans_of Unheard hBefore hKept))
    fun a u hKept => hRest a u (trans_of Unheard hBefore hKept)

theorem maybeHosted_setCommunity {community : HostedCommunity} (hBefore : Unheard s t)
    (hMek : community.mek = mek) :
    Ends (MaybeHosted communityId mek s)
      (setCommunity communityId community : EStateM ε ServerState Unit) t :=
  .inr ⟨t, community, hBefore, hMek, rfl⟩

theorem ends_registerAndHost (env : Environment) (creatorKey creatorDisplayName : String)
    {community : HostedCommunity} (hMek : community.mek = mek) (hBefore : Unheard s t) :
    Ends (MaybeHosted communityId mek s) (do
      let community ← registerCreator env communityId creatorKey creatorDisplayName community
      setCommunity communityId community : HostM Unit) t := by
  unfold registerCreator
  split
  · simp only [bind_assoc, pure_bind]
    apply ends_unheard hBefore (unheard_insertMemberRows _ _ _ _)
    intro _ u hInserted
    apply ends_unheard hInserted (unheard_updateCommunity _)
    intro _ v hRecorded
    exact maybeHosted_setCommunity hRecorded hMek
  · exact maybeHosted_setCommunity hBefore hMek

/-- Hosting after the key is there. -/
theorem ends_hostWithMek (env : Environment) (name creatorKey creatorDisplayName : String)
    (setup : Except HostError Unit) (hBefore : Unheard s t) :
    Ends (MaybeHosted communityId mek s) (do
      let channels ← load (loadChannelsFromDb communityId)
      let roles ← loadOrCreateRoles communityId
      let members ← load (loadMembersFromDb env communityId)
      ofExcept setup
      let description ← query (communityRow communityId)
      let creator ← query (communityRow communityId)
      let community ← registerCreator env communityId creatorKey creatorDisplayName
        { communityId := communityId, name := name
          description := description.join.elim "" CommunityRow.description, mek := mek
          members := members, channels := channels, roles := roles
          creatorPseudonymHex := creator.join.elim "" CommunityRow.creatorPseudonym }
      setCommunity communityId community : HostM Unit) t := by
  apply ends_unheard hBefore (unheard_load _)
  intro channels _ hBefore
  apply ends_unheard hBefore unheard_loadOrCreateRoles
  intro roles _ hBefore
  apply ends_unheard hBefore (unheard_load _)
  intro members _ hBefore
  apply ends_unheard hBefore (keeps_ofExcept _)
  intro _ _ hBefore
  apply ends_unheard hBefore (unheard_query _)
  intro description _ hBefore
  apply ends_unheard hBefore (unheard_query _)
  intro creator u hBefore
  exact ends_registerAndHost env creatorKey creatorDisplayName rfl hBefore

end

theorem MaybeHosted.othersKept {mek : MediaEncryptionKey} {before after : ServerState}
    (h : MaybeHosted communityId mek before after) : OthersKept communityId before after := by
  rcases h with hUnheard | ⟨u, community, hUnheard, _, rfl⟩
  · exact hUnheard.othersKept
  · have hInsert : OthersKept communityId u
        { u with hosted := u.hosted.insert communityId community } :=
      ⟨rfl, rfl, fun other hOther => Finmap.lookup_insert_of_ne _ hOther, fun _ _ => rfl⟩
    exact trans_of (OthersKept communityId) hUnheard.othersKept hInsert

theorem othersKept_insertOrReplaceMek {row : MekRow} (hRow : row.communityId = communityId) :
    Keeps (OthersKept communityId) (executeIgnoring (fun db => db.insertOrReplaceMek row) :
      EStateM ε ServerState Unit) := by
  intro s
  obtain ⟨db, hRun, hDb⟩ : ∃ db, (executeIgnoring (fun db => db.insertOrReplaceMek row) :
      EStateM ε _ _).run s = _ ∧ _ := executeIgnoring_run (fun db => db.insertOrReplaceMek row) s
  rw [hRun]
  rcases hDb with rfl | hInsert
  · exact ⟨rfl, rfl, fun _ _ => rfl, fun _ _ => rfl⟩
  · unfold Database.insertOrReplaceMek at hInsert
    split_ifs at hInsert
    cases hInsert
    refine ⟨rfl, rfl, fun _ _ => rfl, fun other hOther => ?_⟩
    have hNot : (row.communityId == other) = false := beq_false_of_ne (hRow ▸ Ne.symm hOther)
    have hSame : ∀ stored : MekRow, (stored.communityId == other &&
        !(stored.communityId == row.communityId && stored.generation == row.generation)) =
        (stored.communityId == other) := by
      intro stored
      by_cases hStored : stored.communityId = other
      · subst hStored
        simp [beq_false_of_ne (hRow ▸ hOther)]
      · simp [hStored]
    change List.filter _ (List.filter _ _ ++ [row]) = _
    rw [List.filter_append, List.filter_filter, List.filter_congr fun stored _ => hSame stored,
      List.filter_cons, hNot, List.filter_nil]
    exact List.append_nil _

/-- A stored key is loaded, unless the query fails. -/
theorem hostNewly_loads (env : Environment) (name creatorKey creatorDisplayName : String)
    (setup : Except HostError Unit) {s : ServerState} {mek : MediaEncryptionKey}
    (hQuery : s.dbFaults.tail.headD false = false) (hStored : loadLatestMek communityId s.db = some mek) :
    Ends (MaybeHosted communityId mek s)
      (hostNewly env communityId name creatorKey creatorDisplayName setup) s := by
  obtain ⟨db, hRun, hDb⟩ := executeIgnoring_run (ε := HostError) (fun db => db.insertCommunity
    { id := communityId, name := name, description := "", creatorPseudonym := "" }) s
  have hAside : KeysAside s.db db := by
    rcases hDb with rfl | hInsert
    · exact ⟨rfl, rfl⟩
    · grind [Database.insertCommunity, KeysAside]
  set t : ServerState := { s with dbFaults := s.dbFaults.tail, db := db }
  have hLoaded : loadLatestMek communityId t.db = some mek :=
    (loadLatestMek_congr (by rw [hAside.keys])).trans hStored
  have hLoad : (loadOrCreateMek env communityId).run t =
      .ok mek { t with dbFaults := t.dbFaults.tail } := by
    have hRow : (query (loadLatestMek communityId) : HostM _).run t =
        .ok (some (some mek)) { t with dbFaults := t.dbFaults.tail } := by
      change EStateM.Result.ok (if s.dbFaults.tail.headD false then none else
        some (loadLatestMek communityId t.db)) _ = _
      rw [hQuery, hLoaded]
      rfl
    unfold loadOrCreateMek
    rw [run_bind_of_ok _ hRow]
    rfl
  unfold hostNewly
  apply Ends.bind_of_ok hRun
  apply Ends.bind_of_ok hLoad
  exact ends_hostWithMek env name creatorKey creatorDisplayName setup
    ⟨rfl, hAside.keys, hAside.messages, rfl⟩

theorem hostNewly_othersKept (env : Environment) (name creatorKey creatorDisplayName : String)
    (setup : Except HostError Unit) :
    Keeps (OthersKept communityId)
      (hostNewly env communityId name creatorKey creatorDisplayName setup) := by
  have hInsert : Keeps Unheard (executeIgnoring (fun db => db.insertCommunity
      { id := communityId, name := name, description := "", creatorPseudonym := "" }) : HostM Unit) := by
    refine unheard_executeIgnoring fun db db' hRun => ?_
    grind [Database.insertCommunity, KeysAside]
  have hMek : Keeps (OthersKept communityId) (loadOrCreateMek env communityId) := by
    refine Keeps.bind (fun s => (unheard_query _ s).othersKept) fun row => ?_
    cases row.join with
    | some mek => exact keeps_pure _
    | none => exact Keeps.bind (othersKept_insertOrReplaceMek rfl) fun _ => keeps_pure _
  refine Keeps.bind (fun s => (hInsert s).othersKept) fun _ => hMek.bind fun mek s => ?_
  have hRest : MaybeHosted communityId mek s _ :=
    ends_hostWithMek env name creatorKey creatorDisplayName setup (refl_of Unheard s)
  exact hRest.othersKept

end

section
variable {history : KeyHistory} {communityId : String}

/-- A step that leaves other communities alone needs a look at its own community only. -/
theorem remembered_of_othersKept (h : history.Remembered) {event : ServerEvent}
    (hEvent : ∀ incoming, event ≠ .request incoming)
    (hKept : OthersKept communityId history.server (handleEvent history.server event))
    (hHosted : ∀ entry ∈ history.announced, entry.communityId = communityId → ∀ community,
      (handleEvent history.server event).hosted.lookup communityId = some community →
      entry.NotAfter community.mek)
    (hStored : ∀ entry ∈ history.announced, entry.communityId = communityId →
      communityId ∉ (handleEvent history.server event).hosted →
      entry.StoredIn (handleEvent history.server event).db) :
    (recordEvent history event).Remembered := by
  rw [recordEvent_of_silent history event hEvent hKept.sent hKept.messages]
  constructor
  · intro entry hEntry community hCommunity
    by_cases hHere : entry.communityId = communityId
    · exact hHosted entry hEntry hHere community (hHere ▸ hCommunity)
    · exact h.hosted entry hEntry community ((hKept.hosted _ hHere).symm.trans hCommunity)
  · intro entry hEntry hAbsent
    by_cases hHere : entry.communityId = communityId
    · exact hStored entry hEntry hHere (hHere ▸ hAbsent)
    · have hBefore : entry.communityId ∉ history.server.hosted := by
        rw [← Finmap.lookup_eq_none] at hAbsent ⊢
        exact (hKept.hosted _ hHere).symm.trans hAbsent
      exact (h.stored entry hEntry hBefore).congr (hKept.rows _ hHere)

section
variable (env : Environment) (name creatorKey creatorDisplayName : String)
variable (setup : Except HostError Unit) {state : ServerState}

theorem hostCommunity_of_hosted {community : HostedCommunity}
    (hHosted : state.hosted.lookup communityId = some community) :
    (hostCommunity env communityId name creatorKey creatorDisplayName setup).run state = .ok () state := by
  have hLookup : (lookupCommunity communityId : HostM _).run state = .ok (some community) state := by
    rw [← hHosted]
    rfl
  unfold hostCommunity
  rw [run_bind_of_ok _ hLookup]
  rfl

theorem hostCommunity_of_absent (hAbsent : state.hosted.lookup communityId = none) :
    (hostCommunity env communityId name creatorKey creatorDisplayName setup).run state =
      (hostNewly env communityId name creatorKey creatorDisplayName setup).run state := by
  have hLookup : (lookupCommunity communityId : HostM _).run state = .ok none state := by
    rw [← hAbsent]
    rfl
  unfold hostCommunity
  rw [run_bind_of_ok _ hLookup]

end

theorem remembered_host (h : history.Remembered) {env : Environment}
    {name creatorKey creatorDisplayName : String} {setup : Except HostError Unit}
    (hCondition : Remembers history (.host env communityId name creatorKey creatorDisplayName setup)) :
    (recordEvent history (.host env communityId name creatorKey creatorDisplayName setup)).Remembered := by
  set event : ServerEvent := .host env communityId name creatorKey creatorDisplayName setup
  have hEvent : ∀ incoming, event ≠ .request incoming := by
    intro incoming
    exact nofun
  have hAfter : handleEvent history.server event = Result.state
      ((hostCommunity env communityId name creatorKey creatorDisplayName setup).run history.server) := rfl
  cases hCommunity : history.server.hosted.lookup communityId with
  | some community =>
    rw [hostCommunity_of_hosted env name creatorKey creatorDisplayName setup hCommunity,
      Result.state_ok] at hAfter
    rw [recordEvent_of_silent history event hEvent (by rw [hAfter]) (by rw [hAfter]), hAfter]
    exact h
  | none =>
    have hAbsent : communityId ∉ history.server.hosted := Finmap.lookup_eq_none.mp hCommunity
    rw [hostCommunity_of_absent env name creatorKey creatorDisplayName setup hCommunity] at hAfter
    have hKept : OthersKept communityId history.server (handleEvent history.server event) := by
      rw [hAfter]
      exact hostNewly_othersKept env name creatorKey creatorDisplayName setup history.server
    have hLoads : ∀ entry ∈ history.announced, entry.communityId = communityId → ∃ mek,
        entry.NotAfter mek ∧ entry.StoredIn history.server.db ∧
        MaybeHosted communityId mek history.server (handleEvent history.server event) := by
      rintro entry hEntry rfl
      have hIn := h.stored entry hEntry hAbsent
      obtain ⟨mek, hLoaded, hNotAfter⟩ := hIn
      refine ⟨mek, hNotAfter, ⟨mek, hLoaded, hNotAfter⟩, ?_⟩
      rw [hAfter]
      exact hostNewly_loads env name creatorKey creatorDisplayName setup
        (hCondition hAbsent ⟨entry, hEntry, rfl⟩) hLoaded
    refine remembered_of_othersKept h hEvent hKept ?_ ?_
    · intro entry hEntry hHere community hHosted
      obtain ⟨mek, hNotAfter, _, hMaybe⟩ := hLoads entry hEntry hHere
      rcases hMaybe with hUnheard | ⟨u, hosted, _, rfl, hInsert⟩
      · rw [hUnheard.hosted, hCommunity] at hHosted
        cases hHosted
      · rw [hInsert] at hHosted
        cases (Finmap.lookup_insert _).symm.trans hHosted
        exact hNotAfter
    · intro entry hEntry hHere hGone
      obtain ⟨mek, _, hStored, hMaybe⟩ := hLoads entry hEntry hHere
      rcases hMaybe with hUnheard | ⟨u, hosted, _, _, hInsert⟩
      · exact hStored.congr (by rw [hUnheard.keys])
      · rw [hInsert] at hGone
        exact absurd (Finmap.mem_insert.mpr (.inl rfl)) hGone

theorem filter_deleteCommunity (db : Database) {other : String} (hOther : other ≠ communityId) :
    (db.serverMek.filter (·.communityId != communityId)).filter (·.communityId == other) =
      db.serverMek.filter (·.communityId == other) := by
  rw [List.filter_filter]
  refine List.filter_congr fun row _ => ?_
  by_cases hRow : row.communityId = other
  · simp [hRow, hOther]
  · simp [hRow]

theorem unhostCommunity_of_hosted {state : ServerState} {community : HostedCommunity}
    (hHosted : state.hosted.lookup communityId = some community) :
    (unhostCommunity communityId).run state =
      (executeIgnoring (Database.deleteCommunity communityId) : HostM Unit).run
        { state with hosted := state.hosted.erase communityId } := by
  have hLookup : (lookupCommunity communityId : HostM _).run state = .ok (some community) state := by
    rw [← hHosted]
    rfl
  unfold unhostCommunity
  rw [run_bind_of_ok _ hLookup]
  rfl

theorem unhostCommunity_of_absent {state : ServerState}
    (hAbsent : state.hosted.lookup communityId = none) :
    (unhostCommunity communityId).run state = .ok () state := by
  have hLookup : (lookupCommunity communityId : HostM _).run state = .ok none state := by
    rw [← hAbsent]
    rfl
  unfold unhostCommunity
  rw [run_bind_of_ok _ hLookup]
  rfl

theorem remembered_unhost (h : history.Remembered)
    (hCondition : Remembers history (.unhost communityId)) :
    (recordEvent history (.unhost communityId)).Remembered := by
  have hEvent : ∀ incoming, ServerEvent.unhost communityId ≠ .request incoming :=
    fun _ hSame => by cases hSame
  have hAfter : handleEvent history.server (.unhost communityId) =
    Result.state ((unhostCommunity communityId).run history.server) := rfl
  cases hCommunity : history.server.hosted.lookup communityId with
  | none =>
    rw [unhostCommunity_of_absent hCommunity, Result.state_ok] at hAfter
    rw [recordEvent_of_silent history _ hEvent (by rw [hAfter]) (by rw [hAfter]), hAfter]
    exact h
  | some community =>
    rw [unhostCommunity_of_hosted hCommunity] at hAfter
    have hHosted : communityId ∈ history.server.hosted := Finmap.mem_iff.mpr ⟨community, hCommunity⟩
    have hRun : Result.state ((executeIgnoring (Database.deleteCommunity communityId) : HostM Unit).run
        { history.server with hosted := history.server.hosted.erase communityId }) =
        { history.server with
          hosted := history.server.hosted.erase communityId
          dbFaults := history.server.dbFaults.tail
          db := (if history.server.dbFaults.headD false then none else
            Database.deleteCommunity communityId history.server.db).getD history.server.db } := rfl
    rw [hRun] at hAfter
    have hKept : OthersKept communityId history.server
        (handleEvent history.server (.unhost communityId)) := by
      rw [hAfter]
      refine ⟨?_, rfl, fun other hOther => Finmap.lookup_erase_ne hOther, fun other hOther => ?_⟩
      · split <;> rfl
      · dsimp only
        split
        · rfl
        · exact filter_deleteCommunity history.server.db hOther
    refine remembered_of_othersKept h hEvent hKept ?_ ?_
    · intro entry _ _ found hFound
      rw [hAfter] at hFound
      cases (Finmap.lookup_erase _ _).symm.trans hFound
    · intro entry hEntry hHere _
      obtain ⟨hFault, hStored⟩ := hCondition hHosted entry hEntry hHere
      rw [hAfter]
      dsimp only
      rw [hFault]
      exact hStored

end

/-! ## Runs -/

theorem remembered_recordEvent {history : KeyHistory} {event : ServerEvent} (h : history.Remembered)
    (hCondition : Remembers history event) : (recordEvent history event).Remembered := by
  cases event with
  | restart => exact remembered_restart h hCondition
  | unhost communityId => exact remembered_unhost h hCondition
  | host => exact remembered_host h hCondition
  | request incoming => exact remembered_request h hCondition

def sampleKey (byte : UInt8) : List UInt8 := List.replicate 32 byte

def hostWithKey (byte : UInt8) : ServerEvent :=
  .host { sampleEnvironment with mekKey := sampleKey byte } "c" "Community" "alice" "Alice" (.ok ())

/-- Alice asks for the key; then the server goes down, or the community, and is hosted again. -/
def hostedTwice (down : ServerEvent) : List ServerEvent :=
  [hostWithKey 1, .request (sampleRequest "alice" (.member .requestMek)), down, hostWithKey 2]

def keyAnnounced : KeyHistory :=
  recordEvent (recordEvent (KeyHistory.initial []) (hostWithKey 1))
    (.request (sampleRequest "alice" (.member .requestMek)))

end Rekindle.Server
