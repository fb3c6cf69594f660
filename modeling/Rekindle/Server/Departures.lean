import Mathlib.Data.List.Pairwise
import Rekindle.Library.Runs
import Rekindle.Server.SectionEffects

/-! # Keys after departures

A ledger of a run keeps every key that a community has had, what each pseudonym has been handed, and
who has left, been kicked or been banned and has not joined again. A key is handed out in the section
that reads it.
-/
namespace Rekindle.Server
set_option autoImplicit false
open Fallible Interleaving Runs

structure KeyLedger where
  pool : Pool ServerState Task
  /-- The keys of the community in the order in which they came into use. -/
  keys : List MediaEncryptionKey
  handed : List (String × List UInt8)
  departed : List String

/-- The key that a response carries. -/
def CommunityResponse.mekEncrypted : CommunityResponse → Option (List UInt8)
  | joined mekEncrypted _ _ _ _ => some mekEncrypted
  | mek mekEncrypted _ => some mekEncrypted
  | _ => none

/-- The key that a finished section has put into a response, or into the response to come. -/
def keyIn : Task ⊕ CommunityResponse → Option (List UInt8)
  | .inr response => response.mekEncrypted
  | .inl task =>
    match task.job with
    | .join _ _ (.announce joined) => some joined.mekPayload
    | _ => none

/-- The key that the task's section has read and handed to its sender. -/
def Task.handed (task : Task) (result : EStateM.Result RpcError ServerState (Task ⊕ CommunityResponse)) :
    Option (List UInt8) :=
  match task.job with
  | .join _ _ (.announce _) => none
  | _ => (Result.value? result).bind keyIn

/-- The task's next section takes a pseudonym that is not the creator out of the roster. -/
def Task.departs (standing : Standing) (task : Task) : Option String :=
  match task.job with
  | .depart leaver .remove => if leaver = standing.creator then none else some leaver
  | _ => none

def Task.joins (task : Task) : Option String :=
  match task.job with
  | .join _ _ (.push _) => some task.sender
  | _ => none

def departedAfter (departed : List String) (left joined : Option String) : List String :=
  (departed ++ left.toList).filter (some · != joined)

/-- The next key, when the section has put one into use. -/
def newKeys (before after : Option Standing) : List MediaEncryptionKey :=
  match before, after with
  | some before, some after => if after.key = before.key then [] else [after.key]
  | _, _ => []

def recordKeys (communityId : String) (ledger : KeyLedger) (turn : Turn RosterCall) : KeyLedger :=
  let pool := take RosterCall.start Task.advance ledger.pool turn
  match turnOf ledger.pool turn with
  | none => { ledger with pool := pool }
  | some task =>
    if task.communityId = communityId then
      let before := ledger.pool.shared.standing communityId
      { pool := pool
        keys := ledger.keys ++ newKeys before (pool.shared.standing communityId)
        handed := ledger.handed ++
          (task.handed (task.advance.run ledger.pool.shared)).toList.map (task.sender, ·)
        departed := departedAfter ledger.departed (before.bind (Task.departs · task)) task.joins }
    else { ledger with pool := pool }

/-- A new key of the community is stored. The insert fails only on a database error. -/
def SavesKey (communityId : String) (ledger : KeyLedger) (turn : Turn RosterCall) : Prop :=
  ∀ before ∈ ledger.pool.shared.standing communityId,
    ∀ after ∈ (recordKeys communityId ledger turn).pool.shared.standing communityId,
      after.key ≠ before.key →
        (recordKeys communityId ledger turn).pool.shared.db.serverMek ≠ ledger.pool.shared.db.serverMek

instance (communityId : String) (ledger : KeyLedger) (turn : Turn RosterCall) :
    Decidable (SavesKey communityId ledger turn) :=
  inferInstanceAs (Decidable (∀ before ∈ ledger.pool.shared.standing communityId,
    ∀ after ∈ (recordKeys communityId ledger turn).pool.shared.standing communityId,
      after.key ≠ before.key →
        (recordKeys communityId ledger turn).pool.shared.db.serverMek ≠ ledger.pool.shared.db.serverMek))

/-- The community is hosted with a stored key, and only keys that it has had were handed out. -/
structure KeysInOrder (communityId : String) (ledger : KeyLedger) (standing : Standing) : Prop where
  hosted : ledger.pool.shared.standing communityId = some standing
  current : ledger.keys.getLast? = some standing.key
  increasing : ledger.keys.Pairwise fun older newer => older.generation < newer.generation
  stored : ∃ row ∈ ledger.pool.shared.db.serverMek, row.communityId = communityId ∧
    row.generation = standing.key.generation.toNat
  bounded : standing.key.generation.toNat ≤ i64Max
  handed : ∀ entry ∈ ledger.handed, ∃ key ∈ ledger.keys, entry.2 = mekPayload key

/-- The current key was never handed to the pseudonym, nor, when no two keys are equal, were its bytes
under any generation. -/
def KeyLedger.Withholds (ledger : KeyLedger) (current : MediaEncryptionKey) (pseudonym : String) : Prop :=
  ∀ bytes, (pseudonym, bytes) ∈ ledger.handed → bytes ≠ mekPayload current ∧
    ((ledger.keys.map MediaEncryptionKey.key).Nodup →
      ∀ generation, bytes ≠ mekPayload { generation := generation, key := current.key })

/-- Someone who has departed is handed a key only when it joins again, and a response carries only
what was handed to its receiver. -/
def HandsToMembers (communityId : String) (ledger : KeyLedger) (turn : Turn RosterCall) : Prop :=
  ∀ task ∈ turnOf ledger.pool turn, task.communityId = communityId →
    (task.sender ∈ ledger.departed → ∀ bytes ∈ task.handed (task.advance.run ledger.pool.shared),
      task.joins = some task.sender) ∧
    ∀ response, Result.value? (task.advance.run ledger.pool.shared) = some (.inr response) →
      ∀ bytes ∈ response.mekEncrypted,
        (task.sender, bytes) ∈ (recordKeys communityId ledger turn).handed

/-! ## What sections hand out -/

section
variable {env : Environment} {communityId sender : String} {s : ServerState}

/-- The response hands the community's key to a member. -/
def HandsKey (state : ServerState) (communityId : String) (bytes : List UInt8)
    (entitled : Standing → Prop) : Prop :=
  ∀ standing, state.standing communityId = some standing → bytes = mekPayload standing.key ∧ entitled standing

theorem handsKey_of_lookup {community : HostedCommunity} {entitled : Standing → Prop}
    (hCommunity : s.hosted.lookup communityId = some community) (hEntitled : entitled community.standing) :
    HandsKey s communityId (mekPayload community.mek) entitled := by
  intro standing hStanding
  rw [standing_of_lookup hCommunity] at hStanding
  cases hStanding
  exact ⟨rfl, hEntitled⟩

theorem mem_rosterOf_find {members : List ServerMember} {member : ServerMember}
    (h : findMember members sender = some member) : sender ∈ rosterOf members := by
  rw [← Keyed.key_of_find h]
  exact List.mem_map_of_mem (List.mem_of_find?_eq_some h)

theorem handleRejoin_hands (routeBlob : Option (List UInt8)) :
    Returns (fun response _ => ∀ told, response = some told → ∀ bytes ∈ told.mekEncrypted,
        HandsKey s communityId bytes (sender ∈ ·.roster))
      (handleRejoin communityId sender routeBlob) s := by
  apply returns_lookupCommunity
  cases hCommunity : s.hosted.lookup communityId with
  | none =>
    apply returns_pure
    rintro _ ⟨⟩
  | some community =>
    cases hMember : findMember community.members sender with
    | none =>
      simp only [hMember]
      apply returns_pure
      rintro _ ⟨⟩
    | some member =>
      have hHands := @handsKey_of_lookup communityId s community (sender ∈ ·.roster) hCommunity
        (mem_rosterOf_find hMember)
      cases routeBlob with
      | none =>
        simp only [hMember]
        apply returns_pure
        rintro _ ⟨⟩ _ ⟨⟩
        exact hHands
      | some blob =>
        simp only [hMember]
        refine Returns.bind (P := fun _ _ => True) (fun _ _ _ => trivial) fun _ _ _ => ?_
        refine Returns.bind (P := fun _ _ => True) (fun _ _ _ => trivial) fun _ _ _ => ?_
        apply returns_pure
        rintro _ ⟨⟩ _ ⟨⟩
        exact hHands

theorem pushMember_hands (isFirstMember : Bool) (displayName : String)
    (routeBlob : Option (List UInt8)) :
    Returns (fun joined _ => ∀ result, joined = some result →
        HandsKey s communityId result.mekPayload fun _ => True)
      (pushMember env communityId sender isFirstMember displayName routeBlob) s := by
  apply returns_lookupCommunity
  cases hCommunity : s.hosted.lookup communityId with
  | none =>
    apply returns_pure
    rintro _ ⟨⟩
  | some community =>
    refine Returns.bind (P := fun _ _ => True) (fun _ _ _ => trivial) fun _ _ _ => ?_
    refine Returns.bind (P := fun _ _ => True) (fun _ _ _ => trivial) fun _ _ _ => ?_
    refine Returns.bind (P := fun _ _ => True) (fun _ _ _ => trivial) fun _ _ _ => ?_
    apply returns_pure
    rintro _ ⟨⟩
    exact @handsKey_of_lookup communityId s community _ hCommunity trivial

theorem handleRequestMek_hands :
    Returns (fun response _ => ∀ bytes ∈ response.mekEncrypted,
        HandsKey s communityId bytes fun standing =>
          sender ∈ standing.roster ∨ sender = standing.creator)
      (handleRequestMek communityId sender) s := by
  change Returns _ (ofExcept (orThrow (s.hosted.lookup communityId) communityNotFound) >>= _) s
  apply Returns.bind_ofExcept
  intro community hCommunity
  apply Returns.bind_ofExcept
  intro _ hVerified
  apply returns_pure
  rintro _ ⟨⟩
  refine handsKey_of_lookup (orThrow_eq_ok_iff.mp hCommunity) ?_
  unfold verifyMembership at hVerified
  split_ifs at hVerified with hCreator hMember
  · exact .inr (beq_iff_eq.mp hCreator).symm
  · obtain ⟨member, hIn, hKey⟩ := List.any_eq_true.mp hMember
    refine .inl ?_
    rw [← beq_iff_eq.mp hKey]
    exact List.mem_map_of_mem hIn

variable {task : Task} {bytes : List UInt8}

/-- Who can be handed a key in a section. -/
def Task.Entitled (task : Task) (standing : Standing) : Prop :=
  task.joins = some task.sender ∨ task.sender ∈ standing.roster ∨ task.sender = standing.creator

theorem keyIn_of_run {α : Type} {x : ServerM α} {route : α → Task ⊕ CommunityResponse}
    (h : bytes ∈ (Result.value? ((x >>= fun a => pure (route a)).run s)).bind keyIn) :
    ∃ a t, x.run s = .ok a t ∧ bytes ∈ keyIn (route a) := by
  cases hRun : x.run s with
  | error e t =>
    rw [run_bind_of_error _ hRun] at h
    cases h
  | ok a t =>
    rw [run_bind_of_ok _ hRun] at h
    exact ⟨a, t, rfl, h⟩

/-- A section after which no key is at hand. -/
theorem keyless {α : Type} {x : ServerM α} {route : α → Task ⊕ CommunityResponse}
    (hRoute : ∀ a, keyIn (route a) = none)
    (h : bytes ∈ (Result.value? ((x >>= fun a => pure (route a)).run s)).bind keyIn) : False := by
  obtain ⟨a, -, -, hKey⟩ := keyIn_of_run h
  rw [hRoute] at hKey
  cases hKey

theorem unban_keyless {target : String} {response : CommunityResponse} {t : ServerState}
    (h : (handleUnban env communityId sender target).run s = .ok response t) :
    response.mekEncrypted = none := by
  obtain ⟨_, _, _, h⟩ := run_bind_eq_ok_iff.mp h
  obtain ⟨_, _, _, h⟩ := run_bind_eq_ok_iff.mp h
  cases h
  rfl

theorem handed_key (h : bytes ∈ task.handed (task.advance.run s)) :
    HandsKey s task.communityId bytes task.Entitled := by
  unfold Task.handed at h
  unfold Task.advance at h
  split at h
  next => cases h
  next hNotAnnounced =>
    split at h
    next displayName routeBlob stage hJob =>
      cases stage with
      | rejoin =>
        obtain ⟨response, t, hRun, hKey⟩ := keyIn_of_run h
        cases response with
        | none => cases hKey
        | some response =>
          intro standing hStanding
          obtain ⟨hBytes, hMember⟩ := handleRejoin_hands routeBlob _ t hRun response rfl bytes hKey standing hStanding
          exact ⟨hBytes, .inr (.inl hMember)⟩
      | push isFirstMember =>
        obtain ⟨joined, t, hRun, hKey⟩ := keyIn_of_run h
        obtain ⟨result, u, hPush, hEnd⟩ := run_bind_eq_ok_iff.mp hRun
        cases hResult : result with
        | none =>
          rw [hResult] at hEnd
          cases hEnd
        | some pushed =>
          rw [hResult] at hEnd
          cases hEnd
          cases hKey
          intro standing hStanding
          have hHands := pushMember_hands isFirstMember displayName routeBlob _ _ hPush joined hResult
          exact ⟨(hHands standing hStanding).1, .inl (by rw [Task.joins, hJob])⟩
      | announce joined => exact absurd hJob (hNotAnnounced _ _ _)
      | _ => exact (keyless (fun _ => rfl) h).elim
    next leaver stage hJob =>
      cases stage with
      | readGeneration =>
        refine (keyless (fun generation => ?_) h).elim
        cases generation <;> rfl
      | _ => exact (keyless (fun _ => rfl) h).elim
    next => exact (keyless (fun _ => rfl) h).elim
    next => exact (keyless (fun _ => rfl) h).elim
    next => exact (keyless (fun _ => rfl) h).elim
    next target _ =>
      obtain ⟨response, t, hRun, hKey⟩ := keyIn_of_run h
      change bytes ∈ response.mekEncrypted at hKey
      rw [unban_keyless hRun] at hKey
      cases hKey
    next => exact (keyless (fun _ => rfl) h).elim
    next => exact (keyless (fun _ => rfl) h).elim
    next =>
      obtain ⟨response, t, hRun, hKey⟩ := keyIn_of_run h
      intro standing hStanding
      obtain ⟨hBytes, hMember⟩ := handleRequestMek_hands response t hRun bytes hKey standing hStanding
      exact ⟨hBytes, .inr hMember⟩

end

/-! ## Runs -/

/-- The keys are in order, those who have departed are out, and no response to come carries a key that
has not been handed to its receiver. -/
structure Withheld (communityId : String) (ledger : KeyLedger) (standing : Standing) : Prop where
  order : KeysInOrder communityId ledger standing
  out : ∀ pseudonym ∈ ledger.departed, pseudonym ∉ standing.roster ∧ pseudonym ≠ standing.creator
  older : ∀ pseudonym ∈ ledger.departed, ∀ bytes, (pseudonym, bytes) ∈ ledger.handed →
    ∃ key ∈ ledger.keys, key.generation < standing.key.generation ∧ bytes = mekPayload key
  announced : ∀ task ∈ ledger.pool.running, task.communityId = communityId →
    ∀ displayName routeBlob joined, task.job = .join displayName routeBlob (.announce joined) →
      (task.sender, joined.mekPayload) ∈ ledger.handed

/-! What a section goes on as keeps the request, and an announcement ends it. -/

theorem goesOn_route {α : Type} {x : ServerM α} {route : α → Task ⊕ CommunityResponse} {s : ServerState}
    {rest : Task} (h : GoesOn ((x >>= fun a => pure (route a)).run s) rest) :
    ∃ a, route a = .inl rest := by
  obtain ⟨t, hRun⟩ := h
  obtain ⟨a, _, -, hEnd⟩ := run_bind_eq_ok_iff.mp hRun
  rw [EStateM.run_pure] at hEnd
  injection hEnd with hRoute
  exact ⟨a, hRoute⟩

theorem goesOn_same {task rest : Task} {s : ServerState} (h : GoesOn (task.advance.run s) rest) :
    (∃ job, rest = { task with job := job }) ∧
      ∀ displayName routeBlob joined, task.job ≠ .join displayName routeBlob (.announce joined) := by
  unfold Task.advance at h
  split at h
  next displayName routeBlob stage hJob =>
    rw [hJob]
    cases stage with
    | rejoin =>
      obtain ⟨response, hRoute⟩ := goesOn_route h
      cases response with
      | none =>
        cases hRoute
        exact ⟨⟨_, rfl⟩, by simp⟩
      | some response => cases hRoute
    | announce joined =>
      obtain ⟨_, hRoute⟩ := goesOn_route h
      cases hRoute
    | _ =>
      obtain ⟨_, hRoute⟩ := goesOn_route h
      cases hRoute
      exact ⟨⟨_, rfl⟩, by simp⟩
  next leaver stage hJob =>
    rw [hJob]
    cases stage with
    | readGeneration =>
      obtain ⟨generation, hRoute⟩ := goesOn_route h
      cases generation with
      | none => cases hRoute
      | some generation =>
        cases hRoute
        exact ⟨⟨_, rfl⟩, by simp⟩
    | announceKey generation =>
      obtain ⟨_, hRoute⟩ := goesOn_route h
      cases hRoute
    | _ =>
      obtain ⟨_, hRoute⟩ := goesOn_route h
      cases hRoute
      exact ⟨⟨_, rfl⟩, by simp⟩
  all_goals
    next hJob =>
      obtain ⟨_, hRoute⟩ := goesOn_route h
      cases hRoute
      try exact ⟨⟨_, rfl⟩, by simp [hJob]⟩

section
variable {communityId : String} {ledger : KeyLedger} {turn : Turn RosterCall} {standing : Standing}

theorem KeysInOrder.current_mem (h : KeysInOrder communityId ledger standing) :
    standing.key ∈ ledger.keys := List.mem_of_getLast? h.current

theorem KeysInOrder.le_current (h : KeysInOrder communityId ledger standing) {key : MediaEncryptionKey}
    (hKey : key ∈ ledger.keys) : key.generation ≤ standing.key.generation := by
  obtain ⟨earlier, hEarlier⟩ := List.getLast?_eq_some_iff.mp h.current
  have hIncreasing := h.increasing
  rw [hEarlier, List.pairwise_append] at hIncreasing
  rw [hEarlier] at hKey
  rcases List.mem_append.mp hKey with hOld | hLast
  · exact UInt64.le_of_lt (hIncreasing.2.2 key hOld _ (List.mem_singleton.mpr rfl))
  · rw [List.mem_singleton.mp hLast]
    exact UInt64.le_refl _

theorem recordKeys_aside (hAside : ∀ task, turnOf ledger.pool turn = some task →
    task.communityId ≠ communityId) :
    recordKeys communityId ledger turn =
      { ledger with pool := take RosterCall.start Task.advance ledger.pool turn } := by
  unfold recordKeys
  split
  · rfl
  · rw [if_neg (hAside _ ‹_›)]

/-- Nothing is noted down, as when the turn is about another community. -/
theorem Withheld.aside (h : Withheld communityId ledger standing)
    (hAside : ∀ task, turnOf ledger.pool turn = some task → task.communityId ≠ communityId) :
    Withheld communityId (recordKeys communityId ledger turn) standing := by
  have hHosted : (take RosterCall.start Task.advance ledger.pool turn).shared.standing communityId =
      some standing ∧ ledger.pool.shared.db.serverMek ⊆
        (take RosterCall.start Task.advance ledger.pool turn).shared.db.serverMek := by
    cases hTurn : turnOf ledger.pool turn with
    | none =>
      rw [shared_of_no_turn hTurn]
      exact ⟨h.order.hosted, List.Subset.refl _⟩
    | some task =>
      rw [shared_of_turn hTurn]
      have hEffect := section_effect task ledger.pool.shared
      exact ⟨(hEffect.elsewhere _ (Ne.symm (hAside task hTurn))).trans h.order.hosted, hEffect.keyRows⟩
  rw [recordKeys_aside hAside]
  refine ⟨⟨hHosted.1, h.order.current, h.order.increasing, ?_, h.order.bounded, h.order.handed⟩,
    h.out, h.older, fun task hTask hHere name blob joined hJob => ?_⟩
  · obtain ⟨row, hRow, hStored⟩ := h.order.stored
    exact ⟨row, hHosted.2 hRow, hStored⟩
  · rcases mem_take hTask with hOld | ⟨request, rfl⟩ | ⟨former, hTurn, hNext⟩
    · exact h.announced task hOld hHere name blob joined hJob
    · obtain ⟨env, id, sender, request⟩ := request
      cases request <;> cases hJob
    · obtain ⟨⟨job, rfl⟩, -⟩ := goesOn_same hNext
      exact absurd hHere (hAside former hTurn)

variable {task : Task} {moved : Standing}

theorem key_of_moves (h : task.Moves standing moved) :
    moved.key = standing.key ∨ moved.key = standing.nextKey task.env := by
  unfold Task.Moves at h
  split at h
  next => exact .inl (by rw [h])
  next => exact .inr (by rw [h])
  next =>
    rcases h with rfl | rfl
    · exact .inl rfl
    · exact .inr rfl
  next => exact .inl (by rw [h])

/-- The next generation, with a row: it is below `i64Max`, or it would share the row of the last. -/
theorem next_stored (h : KeysInOrder communityId ledger standing) {db : Database}
    {next : MediaEncryptionKey} (hNext : next.generation = standing.key.generation + 1)
    (hAdded : KeyRowAdded communityId next ledger.pool.shared.db db) :
    standing.key.generation < next.generation ∧ next.generation.toNat ≤ i64Max ∧
      ∃ row ∈ db.serverMek, row.communityId = communityId ∧ row.generation = next.generation.toNat := by
  obtain ⟨row, hHere, hGeneration, hFresh, hRows⟩ := hAdded
  obtain ⟨old, hOld, hOldHere, hOldGeneration⟩ := h.stored
  have hApart := hFresh old hOld hOldHere
  have hBound := h.bounded
  have hSucc : next.generation.toNat = standing.key.generation.toNat + 1 := by
    rw [hNext, UInt64.toNat_add]
    exact Nat.mod_eq_of_lt (by unfold i64Max at hBound; simp; omega)
  have hRoom : standing.key.generation.toNat + 1 ≤ i64Max := by
    by_contra hFull
    rw [hOldGeneration, hGeneration, hSucc] at hApart
    omega
  refine ⟨UInt64.lt_iff_toNat_lt.mpr (by omega), by omega, row, ?_, hHere, ?_⟩
  · rw [hRows]
    exact List.mem_append_right _ (List.mem_singleton.mpr rfl)
  · rw [hGeneration, hSucc]
    exact min_eq_left hRoom

theorem creator_of_moves (h : task.Moves standing moved) :
    moved.creator = standing.creator ∨ moved.creator = task.sender ∧ task.joins = some task.sender := by
  unfold Task.Moves at h
  split at h
  next name blob isFirst hJob =>
    subst h
    cases isFirst with
    | false => exact .inl rfl
    | true => exact .inr ⟨rfl, by rw [Task.joins, hJob]⟩
  next => exact .inl (by rw [h])
  next =>
    rcases h with rfl | rfl
    · exact .inl rfl
    · exact .inl rfl
  next => exact .inl (by rw [h])

/-- Someone who leaves the roster and is not the creator: the key is the next one. -/
theorem departs_moves {leaver : String} (h : task.Moves standing moved)
    (hLeaves : task.departs standing = some leaver) :
    leaver ∉ moved.roster ∧ leaver ≠ moved.creator ∧ moved.key = standing.nextKey task.env := by
  unfold Task.departs at hLeaves
  split at hLeaves
  next target hJob =>
    split_ifs at hLeaves with hCreator
    cases hLeaves
    refine ⟨not_mem_removed h hJob, ?_⟩
    rw [Task.Moves, hJob] at h
    subst h
    exact ⟨hCreator, rfl⟩
  next => cases hLeaves

/-- The turn's task is about the community. -/
theorem recordKeys_here (hTurn : turnOf ledger.pool turn = some task)
    (hBefore : ledger.pool.shared.standing task.communityId = some standing)
    (hAfter : (take RosterCall.start Task.advance ledger.pool turn).shared.standing task.communityId =
      some moved) :
    recordKeys task.communityId ledger turn =
      { pool := take RosterCall.start Task.advance ledger.pool turn
        keys := ledger.keys ++ if moved.key = standing.key then [] else [moved.key]
        handed := ledger.handed ++
          (task.handed (task.advance.run ledger.pool.shared)).toList.map (task.sender, ·)
        departed := departedAfter ledger.departed (task.departs standing) task.joins } := by
  unfold recordKeys
  simp only [hTurn, if_true, hBefore, hAfter, newKeys, Option.bind_some]

theorem mem_handed {pseudonym : String} {bytes : List UInt8} {key : Option (List UInt8)}
    (h : (pseudonym, bytes) ∈ ledger.handed ++ key.toList.map (task.sender, ·)) :
    (pseudonym, bytes) ∈ ledger.handed ∨ pseudonym = task.sender ∧ bytes ∈ key := by
  rcases List.mem_append.mp h with hOld | hNew
  · exact .inl hOld
  · obtain ⟨told, hTold, hPair⟩ := List.mem_map.mp hNew
    cases hPair
    exact .inr ⟨rfl, Option.mem_toList.mp hTold⟩

theorem mem_departedAfter {departed : List String} {left joined : Option String} {pseudonym : String}
    (h : pseudonym ∈ departedAfter departed left joined) :
    (pseudonym ∈ departed ∨ left = some pseudonym) ∧ joined ≠ some pseudonym := by
  obtain ⟨hIn, hApart⟩ := List.mem_filter.mp h
  refine ⟨?_, fun hJoined => bne_iff_ne.mp hApart hJoined.symm⟩
  rcases List.mem_append.mp hIn with hOld | hNew
  · exact .inl hOld
  · exact .inr (Option.mem_toList.mp hNew)

theorem withheld_here (h : Withheld task.communityId ledger standing)
    (hTurn : turnOf ledger.pool turn = some task) (hSaved : SavesKey task.communityId ledger turn) :
    ∃ moved, Withheld task.communityId (recordKeys task.communityId ledger turn) moved := by
  have hShared : (take RosterCall.start Task.advance ledger.pool turn).shared =
      Result.state (task.advance.run ledger.pool.shared) := shared_of_turn hTurn
  have hEffect : Effect task ledger.pool.shared
      (take RosterCall.start Task.advance ledger.pool turn).shared := by
    rw [hShared]
    exact section_effect task ledger.pool.shared
  obtain ⟨moved, hAfter, hMoves, hRows⟩ := hEffect.standing standing h.order.hosted
  have hRecord := recordKeys_here hTurn h.order.hosted hAfter
  have hHands : ∀ bytes ∈ task.handed (task.advance.run ledger.pool.shared),
      bytes = mekPayload standing.key ∧ task.Entitled standing :=
    fun bytes hBytes => handed_key hBytes standing h.order.hosted
  -- The key stays, or it is the next one and stored.
  have hKey : moved.key = standing.key ∨ standing.key.generation < moved.key.generation ∧
      moved.key.generation.toNat ≤ i64Max ∧
      ∃ row ∈ (take RosterCall.start Task.advance ledger.pool turn).shared.db.serverMek,
        row.communityId = task.communityId ∧ row.generation = moved.key.generation.toNat := by
    by_cases hSame : moved.key = standing.key
    · exact .inl hSame
    · have hNext := (key_of_moves hMoves).resolve_left hSame
      have hPool : (recordKeys task.communityId ledger turn).pool =
          take RosterCall.start Task.advance ledger.pool turn := by rw [hRecord]
      have hInserted := hSaved standing h.order.hosted moved (by rw [hPool]; exact hAfter) hSame
      rw [hPool] at hInserted
      exact .inr (next_stored h.order (by rw [hNext]; rfl) (hRows.resolve_left hInserted))
  have hNotOlder : standing.key.generation ≤ moved.key.generation := by
    rcases hKey with hSame | ⟨hLater, -⟩
    · rw [hSame]
      exact UInt64.le_refl _
    · exact UInt64.le_of_lt hLater
  have hOldKeys : ∀ key ∈ ledger.keys,
      key ∈ ledger.keys ++ if moved.key = standing.key then [] else [moved.key] :=
    fun key hIn => List.mem_append_left _ hIn
  refine ⟨moved, ?_⟩
  rw [hRecord]
  constructor
  · refine ⟨hAfter, ?_, ?_, ?_, ?_, ?_⟩
    · split_ifs with hSame
      · rw [List.append_nil, hSame]
        exact h.order.current
      · exact List.getLast?_concat
    · split_ifs with hSame
      · rw [List.append_nil]
        exact h.order.increasing
      · refine List.pairwise_append.mpr ⟨h.order.increasing, List.pairwise_singleton _ _, ?_⟩
        intro key hIn last hLast
        rw [List.mem_singleton.mp hLast]
        exact UInt64.lt_of_le_of_lt (h.order.le_current hIn) (hKey.resolve_left hSame).1
    · rcases hKey with hSame | ⟨-, -, hStored⟩
      · obtain ⟨row, hRow, hHere, hGeneration⟩ := h.order.stored
        exact ⟨row, hEffect.keyRows hRow, hHere, by rw [hSame]; exact hGeneration⟩
      · exact hStored
    · rcases hKey with hSame | ⟨-, hBound, -⟩
      · rw [hSame]
        exact h.order.bounded
      · exact hBound
    · rintro ⟨pseudonym, bytes⟩ hEntry
      rcases mem_handed hEntry with hOld | ⟨-, hNew⟩
      · obtain ⟨key, hIn, hBytes⟩ := h.order.handed _ hOld
        exact ⟨key, hOldKeys key hIn, hBytes⟩
      · exact ⟨standing.key, hOldKeys _ h.order.current_mem, (hHands bytes hNew).1⟩
  · intro pseudonym hDeparted
    obtain ⟨hOut, hNotJoined⟩ := mem_departedAfter hDeparted
    rcases hOut with hOld | hLeaves
    · obtain ⟨hAbsent, hNotCreator⟩ := h.out pseudonym hOld
      constructor
      · intro hIn
        rcases mem_roster_of_moves hMoves hIn with hBefore | ⟨rfl, name, blob, isFirst, hJob⟩
        · exact hAbsent hBefore
        · exact hNotJoined (by rw [Task.joins, hJob])
      · rintro rfl
        rcases creator_of_moves hMoves with hSame | ⟨hSender, hJoins⟩
        · exact hNotCreator hSame
        · exact hNotJoined (hSender ▸ hJoins)
    · obtain ⟨hAbsent, hNotCreator, -⟩ := departs_moves hMoves hLeaves
      exact ⟨hAbsent, hNotCreator⟩
  · intro pseudonym hDeparted bytes hEntry
    obtain ⟨hOut, hNotJoined⟩ := mem_departedAfter hDeparted
    rcases hOut with hOld | hLeaves
    · rcases mem_handed hEntry with hBefore | ⟨rfl, hNew⟩
      · obtain ⟨key, hIn, hOlder, hBytes⟩ := h.older pseudonym hOld bytes hBefore
        exact ⟨key, hOldKeys key hIn, UInt64.lt_of_lt_of_le hOlder hNotOlder, hBytes⟩
      · obtain ⟨hAbsent, hNotCreator⟩ := h.out _ hOld
        rcases (hHands bytes hNew).2 with hJoins | hMember | hCreator
        · exact absurd hJoins hNotJoined
        · exact absurd hMember hAbsent
        · exact absurd hCreator hNotCreator
    · obtain ⟨-, -, hNext⟩ := departs_moves hMoves hLeaves
      have hLater : standing.key.generation < moved.key.generation := by
        rcases hKey with hSame | ⟨hLater, -⟩
        · exfalso
          have hGeneration := congrArg MediaEncryptionKey.generation (hSame.symm.trans hNext)
          change standing.key.generation = standing.key.generation + 1 at hGeneration
          have hNat := congrArg UInt64.toNat hGeneration
          rw [UInt64.toNat_add] at hNat
          have hBound := h.order.bounded
          unfold i64Max at hBound
          simp at hNat
          omega
        · exact hLater
      rcases mem_handed hEntry with hBefore | ⟨-, hNew⟩
      · obtain ⟨key, hIn, hBytes⟩ := h.order.handed _ hBefore
        exact ⟨key, hOldKeys key hIn, UInt64.lt_of_le_of_lt (h.order.le_current hIn) hLater, hBytes⟩
      · exact ⟨standing.key, hOldKeys _ h.order.current_mem, hLater, (hHands bytes hNew).1⟩
  · intro other hIn hHere name blob joined hJob
    rcases mem_take hIn with hOld | ⟨request, rfl⟩ | ⟨former, hFormer, hNext⟩
    · exact List.mem_append_left _ (h.announced other hOld hHere name blob joined hJob)
    · obtain ⟨env, id, sender, request⟩ := request
      cases request <;> cases hJob
    · cases hFormer.symm.trans hTurn
      obtain ⟨⟨job, rfl⟩, hNotAnnounced⟩ := goesOn_same hNext
      obtain ⟨t, hRun⟩ := hNext
      refine List.mem_append_right _ (List.mem_map_of_mem (Option.mem_toList.mpr ?_))
      change job = _ at hJob
      subst hJob
      unfold Task.handed
      split
      next name blob announced hAnnounces => exact absurd hAnnounces (hNotAnnounced _ _ _)
      next => rw [hRun]; rfl

theorem handsToMembers (h : Withheld communityId ledger standing) :
    HandsToMembers communityId ledger turn := by
  rintro task hTurn rfl
  constructor
  · intro hDeparted bytes hBytes
    obtain ⟨hAbsent, hNotCreator⟩ := h.out _ hDeparted
    rcases (handed_key hBytes standing h.order.hosted).2 with hJoins | hMember | hCreator
    · exact hJoins
    · exact absurd hMember hAbsent
    · exact absurd hCreator hNotCreator
  · intro response hResponse bytes hBytes
    obtain ⟨moved, hAfter, -⟩ : ∃ moved, (take RosterCall.start Task.advance ledger.pool turn).shared.standing
        task.communityId = some moved ∧ True := by
      obtain ⟨moved, hAfter, -⟩ := (section_effect task ledger.pool.shared).standing standing h.order.hosted
      rw [shared_of_turn hTurn]
      exact ⟨moved, hAfter, trivial⟩
    rw [recordKeys_here hTurn h.order.hosted hAfter]
    by_cases hAnnounces : ∃ name blob joined, task.job = .join name blob (.announce joined)
    · -- The announcement ends with the key of the earlier section.
      obtain ⟨name, blob, joined, hJob⟩ := hAnnounces
      refine List.mem_append_left _ ?_
      have hAnnounced := h.announced task (mem_of_turn hTurn) rfl name blob joined hJob
      rw [Task.advance, hJob] at hResponse
      cases hResponse
      cases hBytes
      exact hAnnounced
    · refine List.mem_append_right _ (List.mem_map_of_mem (Option.mem_toList.mpr ?_))
      unfold Task.handed
      split
      next name blob joined hJob => exact absurd ⟨name, blob, joined, hJob⟩ hAnnounces
      next =>
        rw [hResponse]
        exact hBytes

/-- Only what was handed out before the key came into use is in the ledger of someone departed. -/
theorem Withheld.withholds (h : Withheld communityId ledger standing) {pseudonym : String}
    (hDeparted : pseudonym ∈ ledger.departed) : ledger.Withholds standing.key pseudonym := by
  intro bytes hHanded
  obtain ⟨key, hIn, hOlder, rfl⟩ := h.older pseudonym hDeparted bytes hHanded
  constructor
  · intro hSame
    rw [mekPayload_injective hSame] at hOlder
    exact UInt64.lt_irrefl _ hOlder
  · intro hDistinct generation hSame
    have hBytes : key.key = standing.key.key := by
      rw [← mekPayload_drop key, hSame, mekPayload_drop]
    have hKeys := List.inj_on_of_nodup_map hDistinct hIn h.order.current_mem hBytes
    rw [hKeys] at hOlder
    exact UInt64.lt_irrefl _ hOlder

theorem withheld_turn (h : Withheld communityId ledger standing) (hSaved : SavesKey communityId ledger turn) :
    ∃ moved, Withheld communityId (recordKeys communityId ledger turn) moved := by
  by_cases hHere : ∃ task, turnOf ledger.pool turn = some task ∧ task.communityId = communityId
  · obtain ⟨task, hTurn, rfl⟩ := hHere
    exact withheld_here h hTurn hSaved
  · exact ⟨standing, h.aside fun task hTurn hCommunity => hHere ⟨task, hTurn, hCommunity⟩⟩

end

/-- Generations only grow, so that no two keys share one; someone who has departed has never been
handed the current key, and is handed none until it has joined again. -/
theorem keys_withheld {communityId : String} {ledger : KeyLedger} {standing : Standing}
    (hStart : KeysInOrder communityId ledger standing) (hIdle : ledger.pool.running = [])
    (hNobody : ledger.departed = []) (turns : List (Turn RosterCall))
    (hSaved : Along (recordKeys communityId) (SavesKey communityId) ledger turns) :
    Along (recordKeys communityId) (HandsToMembers communityId) ledger turns ∧
      ∃ moved, KeysInOrder communityId (final (recordKeys communityId) ledger turns) moved ∧
        ∀ pseudonym ∈ (final (recordKeys communityId) ledger turns).departed,
          (final (recordKeys communityId) ledger turns).Withholds moved.key pseudonym := by
  have hFirst : Withheld communityId ledger standing := by
    refine ⟨hStart, ?_, ?_, ?_⟩
    · intro pseudonym hDeparted
      rw [hNobody] at hDeparted
      cases hDeparted
    · intro pseudonym hDeparted
      rw [hNobody] at hDeparted
      cases hDeparted
    · intro task hTask
      rw [hIdle] at hTask
      cases hTask
  obtain ⟨hHands, moved, hFinal⟩ := hSaved.of_invariant
    (fun ledger => ∃ standing, Withheld communityId ledger standing)
    (fun _ _ ⟨_, h⟩ hTurn => ⟨withheld_turn h hTurn, handsToMembers h⟩) ⟨standing, hFirst⟩
  exact ⟨hHands, moved, hFinal.order, fun pseudonym hDeparted => hFinal.withholds hDeparted⟩

/-- Alice hosts the community, and nobody has been handed a key. -/
def hostedLedger : KeyLedger :=
  { pool := { shared := hostedByAlice, running := [] }, keys := [⟨1, []⟩], handed := [], departed := [] }

/-- Bob joins and leaves. -/
def bobLeaves : List (Turn RosterCall) :=
  let call (request : RosterRequest) : RosterCall :=
    { env := sampleEnvironment, communityId := "c", sender := "bob", request := request }
  [.start (call (.join "Bob" none true))] ++ List.replicate 7 (.advance 0) ++
    [.start (call .leave)] ++ List.replicate 6 (.advance 0)

theorem key_withheld_from_bob : ∃ standing,
    (final (recordKeys "c") hostedLedger bobLeaves).pool.shared.standing "c" = some standing ∧
      (final (recordKeys "c") hostedLedger bobLeaves).Withholds standing.key "bob" := by
  have hStart : KeysInOrder "c" hostedLedger ⟨["alice"], "alice", ⟨1, []⟩⟩ := by
    refine ⟨by decide +kernel, by decide, List.pairwise_singleton _ _, ?_, by decide, ?_⟩
    · exact ⟨⟨"c", 1, [], 1000⟩, by decide +kernel, rfl, rfl⟩
    · rintro _ ⟨⟩
  obtain ⟨-, standing, hOrder, hWithheld⟩ := keys_withheld hStart rfl rfl bobLeaves (by decide +kernel)
  exact ⟨standing, hOrder.hosted, hWithheld "bob" (by decide +kernel)⟩

end Rekindle.Server
