import Rekindle.Library.Runs
import Rekindle.Server.Escalation
import Rekindle.Server.SectionChanges
import Rekindle.Server.Timeouts

/-! # Admission of messages

A message is checked under the lock of the communities and stored under that of the database. Sections of
other requests may come in between.
-/
namespace Rekindle.Server
set_option autoImplicit false
open Fallible Interleaving Runs

structure MessageCall where
  sender : String
  channelId : String
  ciphertext : List UInt8
  mekGeneration : UInt64

/-- What a request to the community does next. -/
inductive AdmissionTask where
  | check (call : MessageCall)
  | insert (call : MessageCall)
  | announce (call : MessageCall) (timestamp : Int)
  /-- A request about the roster or the key, in its sections. -/
  | roster (task : Task)
  /-- The other requests change the community in one section. -/
  | single (env : Environment) (sender : String) (request : MemberRequest)

inductive AdmissionCall where
  | roster (call : RosterCall)
  | member (env : Environment) (sender : String) (request : MemberRequest)

def AdmissionCall.start : AdmissionCall → AdmissionTask
  | .roster call => .roster call.start
  | .member _ sender (.sendMessage channelId ciphertext mekGeneration) =>
    .check ⟨sender, channelId, ciphertext, mekGeneration⟩
  | .member env sender request => .single env sender request

section
variable (env : Environment) (communityId : String)

/-- The first section of `handle_send_message`. -/
def checkMessage (call : MessageCall) : ServerM Unit := do
  let community ← getCommunity communityId communityNotFound
  ofExcept (verifyMembership community call.sender)
  ofExcept (checkMaySend env call.sender community call.channelId)
  ofExcept (checkMekGeneration community call.mekGeneration)

def insertMessage (call : MessageCall) : ServerM Unit := do
  let stored ← execute fun db => db.insertMessage
    { communityId := communityId, channelId := call.channelId, senderPseudonym := call.sender,
      ciphertext := call.ciphertext, mekGeneration := min call.mekGeneration.toNat i64Max,
      timestamp := env.timestampNow }
  ofExcept (refuseIf (stored = false) ⟨500, "failed to store message"⟩)

def announceMessage (call : MessageCall) (timestamp : Int) : ServerM Unit :=
  broadcastToMembers communityId call.sender
    (.newMessage communityId call.channelId call.sender call.ciphertext call.mekGeneration
      (UInt64.ofNat timestamp.toNat))

/-- The next section of a task. -/
def AdmissionTask.advance : AdmissionTask → ServerM (AdmissionTask ⊕ CommunityResponse)
  | .check call => do
    checkMessage env communityId call
    pure (.inl (.insert call))
  | .insert call => do
    insertMessage env communityId call
    pure (.inl (.announce call env.timestampNow))
  | .announce call timestamp => do
    announceMessage communityId call timestamp
    pure (.inr .ok)
  | .roster task => do
    let next ← task.advance
    pure (next.map AdmissionTask.roster id)
  | .single env sender request => do
    let response ← handleRequest env sender communityId request
    pure (.inr response)

/-- Alone, the sections of a message are its handler. -/
theorem message_implements (call : MessageCall) :
    Implements (AdmissionTask.advance env communityId) (.check call)
      (handleSendMessage env communityId call.sender call.channelId call.ciphertext call.mekGeneration) := by
  have hHandler : handleSendMessage env communityId call.sender call.channelId call.ciphertext call.mekGeneration =
      checkMessage env communityId call >>= fun _ => insertMessage env communityId call >>= fun _ =>
        announceMessage communityId call env.timestampNow >>= fun _ => pure .ok := by
    rw [handleSendMessage, checkMessage, insertMessage]
    simp only [bind_assoc]
    rfl
  rw [hHandler]
  have hAnnounce : Implements (AdmissionTask.advance env communityId) (.announce call env.timestampNow)
      (announceMessage communityId call env.timestampNow >>= fun _ => pure .ok) := .of_last rfl
  have hInsert : Implements (AdmissionTask.advance env communityId) (.insert call)
      (insertMessage env communityId call >>= fun _ =>
        announceMessage communityId call env.timestampNow >>= fun _ => pure .ok) :=
    .of_going rfl fun _ => hAnnounce
  exact .of_going rfl fun _ => hInsert

end

/-! ## Runs -/

structure AdmissionHistory where
  pool : Pool ServerState AdmissionTask
  now : UInt64

inductive AdmissionAction where
  | turn (turn : Turn AdmissionCall)
  /-- Time goes on. -/
  | wait (later : UInt64)

/-- The sections of a message read the clock and draw nothing. -/
def clockEnvironment (now : UInt64) : Environment := { now, mekKey := [], channelSuffix := "" }

section
variable (communityId : String)

def recordAdmission (history : AdmissionHistory) : AdmissionAction → AdmissionHistory
  | .turn turn =>
    let advance := AdmissionTask.advance (clockEnvironment history.now) communityId
    { history with pool := take AdmissionCall.start advance history.pool turn }
  | .wait later => { history with now := if history.now ≤ later then later else history.now }

/-- The sender is a member that may send in the channel, the channel exists, and the key is the current one. -/
structure MayInsert (state : ServerState) (now : UInt64) (call : MessageCall) (community : HostedCommunity)
    (member : ServerMember) : Prop where
  hosted : state.hosted.lookup communityId = some community
  isMember : findMember community.members call.sender = some member
  permitted : hasPermission
    (channelPermissions (clockEnvironment now) call.sender community member call.channelId) sendMessages = true
  channel : ∃ channel ∈ community.channels, channel.id = call.channelId
  generation : call.mekGeneration = community.mek.generation

/-- A message that is inserted now is admitted now. -/
def AdmitsInserts (history : AdmissionHistory) : AdmissionAction → Prop
  | .turn turn => ∀ call, turnOf history.pool turn = some (.insert call) →
      ∃ community member, MayInsert communityId history.pool.shared history.now call community member
  | .wait _ => True

/-- The message passes its check. -/
def Passes (state : ServerState) (now : UInt64) (call : MessageCall) : Prop :=
  (Result.value? ((checkMessage (clockEnvironment now) communityId call).run state)).isSome = true

/-- A sender that passes has a roster entry and its channel exists, and the community in memory stays as it is
while a message waits to be inserted. -/
def Undisturbed (history : AdmissionHistory) : AdmissionAction → Prop
  | .turn turn => ∀ task, turnOf history.pool turn = some task →
      match task with
      | .check call => Passes communityId history.pool.shared history.now call →
          ∀ community ∈ history.pool.shared.hosted.lookup communityId,
            (findMember community.members call.sender).isSome ∧
              ∃ channel ∈ community.channels, channel.id = call.channelId
      | .roster _ | .single .. => (∃ call, .insert call ∈ history.pool.running) →
          (recordAdmission communityId history (.turn turn)).pool.shared.hosted.lookup communityId =
            history.pool.shared.hosted.lookup communityId
      | _ => True
  | .wait _ => True

end

section
variable {communityId : String} {history : AdmissionHistory} {state after : ServerState} {now later : UInt64}
  {call : MessageCall} {community : HostedCommunity} {member : ServerMember}

/-- Timeouts end, and nothing else depends on the time. -/
theorem hasPermission_later {memberRoleIds : List UInt32} {allRoles : List RoleDefinition}
    {channelOverwrites : List PermissionOverwrite} {memberPseudonym : String} {timeoutUntil : Option UInt64}
    {permission : Permissions} (hLater : now ≤ later)
    (h : hasPermission (calculatePermissions now memberRoleIds allRoles channelOverwrites memberPseudonym timeoutUntil)
      permission = true) :
    hasPermission (calculatePermissions later memberRoleIds allRoles channelOverwrites memberPseudonym timeoutUntil)
      permission = true := by
  cases hAdministrator : isAdministrator (basePermissions memberRoleIds allRoles) with
  | true =>
    rw [calculatePermissions_eq, if_pos hAdministrator] at h ⊢
    exact h
  | false =>
    have hOver : timedOut later timeoutUntil = true → timedOut now timeoutUntil = true := by
      cases timeoutUntil with
      | none => exact id
      | some deadline =>
        intro hTimedOut
        exact decide_eq_true (UInt64.lt_of_le_of_lt hLater (of_decide_eq_true hTimedOut))
    rw [hasPermission_iff, getLsbD_administrator hAdministrator] at h ⊢
    refine h.imp id fun hAll bit hBit => ?_
    have hKept := hAll bit hBit
    rw [getLsbD_calculatePermissions hAdministrator] at hKept ⊢
    cases hNow : timedOut later timeoutUntil with
    | false =>
      rw [Bool.and_eq_true, Bool.and_eq_true] at hKept
      rw [Bool.false_and, Bool.not_false, Bool.and_true, hKept.1.1, hKept.2, Bool.and_self]
    | true => rwa [hOver hNow] at hKept

theorem MayInsert.stays (h : MayInsert communityId state now call community member) (hLater : now ≤ later) :
    MayInsert communityId state later call community member :=
  { h with permitted := hasPermission_later hLater h.permitted }

theorem MayInsert.of_same (h : MayInsert communityId state now call community member)
    (hSame : after.hosted.lookup communityId = state.hosted.lookup communityId) :
    MayInsert communityId after now call community member :=
  { h with hosted := hSame.trans h.hosted }

theorem checkMessage_admits (hKnown : ∀ community ∈ state.hosted.lookup communityId,
      (findMember community.members call.sender).isSome ∧ ∃ channel ∈ community.channels, channel.id = call.channelId) :
    Returns (fun _ after => after = state ∧ ∃ community member, MayInsert communityId state now call community member)
      (checkMessage (clockEnvironment now) communityId call) state := by
  unfold checkMessage
  refine returns_getCommunity fun community hCommunity => ?_
  obtain ⟨hEntry, hChannel⟩ := hKnown community hCommunity
  obtain ⟨member, hMember⟩ := Option.isSome_iff_exists.mp hEntry
  refine .bind_ofExcept fun _ _ => .bind_ofExcept fun _ hMaySend => ?_
  intro _ after hRun
  obtain ⟨hGeneration, rfl⟩ := run_ofExcept_eq_ok hRun
  have hSame := not_not.mp (refuseIf_eq_ok_iff.mp hGeneration)
  exact ⟨rfl, community, member, hCommunity, hMember, (checkMaySend_eq_ok_iff hMember).mp hMaySend, hChannel, hSame⟩

theorem sameHosted_check (env : Environment) : Keeps SameHosted (checkMessage env communityId call) :=
  (sameHosted_getCommunity _).bind fun _ => (keeps_ofExcept _).bind fun _ => (keeps_ofExcept _).bind fun _ =>
    keeps_ofExcept _

theorem sameHosted_insert (env : Environment) : Keeps SameHosted (insertMessage env communityId call) :=
  (sameHosted_execute _).bind fun _ => keeps_ofExcept _

/-- A task goes on to insert a message only from its check. -/
theorem insert_of_goesOn {task : AdmissionTask} {env : Environment}
    (h : GoesOn ((task.advance env communityId).run state) (.insert call)) :
    task = .check call ∧ ∃ after, (checkMessage env communityId call).run state = .ok () after := by
  obtain ⟨last, hRun⟩ := h
  cases task with
  | check checked =>
    obtain ⟨_, after, hCheck, hEnd⟩ := run_bind_eq_ok_iff.mp hRun
    cases hEnd
    exact ⟨rfl, _, hCheck⟩
  | insert | announce | single =>
    obtain ⟨_, _, _, hEnd⟩ := run_bind_eq_ok_iff.mp hRun
    cases hEnd
  | roster task =>
    obtain ⟨next, _, _, hEnd⟩ := run_bind_eq_ok_iff.mp hRun
    cases next <;> cases hEnd

theorem start_ne_insert (request : AdmissionCall) : request.start ≠ .insert call := by
  cases request with
  | roster call => nofun
  | member env sender request => cases request <;> nofun

/-- Every message that waits to be inserted is admitted. -/
def WaitsAdmitted (communityId : String) (history : AdmissionHistory) : Prop :=
  ∀ call, .insert call ∈ history.pool.running →
    ∃ community member, MayInsert communityId history.pool.shared history.now call community member

/-- A turn leaves the community in memory, if a message waits. -/
theorem lookup_of_turn {turn : Turn AdmissionCall} (hWaits : .insert call ∈ history.pool.running)
    (hUndisturbed : Undisturbed communityId history (.turn turn)) :
    (recordAdmission communityId history (.turn turn)).pool.shared.hosted.lookup communityId =
      history.pool.shared.hosted.lookup communityId := by
  cases hTurn : turnOf history.pool turn with
  | none =>
    rw [recordAdmission, shared_of_no_turn hTurn]
  | some task =>
    have hAllowed := hUndisturbed task hTurn
    have hShared : (recordAdmission communityId history (.turn turn)).pool.shared =
        Result.state ((task.advance (clockEnvironment history.now) communityId).run history.pool.shared) :=
      shared_of_turn hTurn
    cases task with
    | roster | single => exact hAllowed ⟨call, hWaits⟩
    | check checked =>
      have hSame : SameHosted history.pool.shared (recordAdmission communityId history (.turn turn)).pool.shared := by
        rw [hShared]
        exact ((sameHosted_check _).bind fun _ => keeps_pure _) _
      rw [hSame]
    | insert inserted =>
      have hSame : SameHosted history.pool.shared (recordAdmission communityId history (.turn turn)).pool.shared := by
        rw [hShared]
        exact ((sameHosted_insert _).bind fun _ => keeps_pure _) _
      rw [hSame]
    | announce announced timestamp =>
      have hSame : SameHosted history.pool.shared (recordAdmission communityId history (.turn turn)).pool.shared := by
        rw [hShared]
        exact ((sameHosted_broadcastToMembers _ _ _).bind fun _ => keeps_pure _) _
      rw [hSame]

theorem WaitsAdmitted.step {action : AdmissionAction} (h : WaitsAdmitted communityId history)
    (hUndisturbed : Undisturbed communityId history action) :
    WaitsAdmitted communityId (recordAdmission communityId history action) := by
  intro call hCall
  cases action with
  | wait later =>
    obtain ⟨community, member, hMay⟩ := h call hCall
    refine ⟨community, member, hMay.stays ?_⟩
    change history.now ≤ (if history.now ≤ later then later else history.now)
    split
    · assumption
    · exact UInt64.le_refl _
  | turn turn =>
    rcases mem_take hCall with hOld | ⟨request, hStart⟩ | ⟨former, hTurn, hNext⟩
    · obtain ⟨community, member, hMay⟩ := h call hOld
      exact ⟨community, member, hMay.of_same (lookup_of_turn hOld hUndisturbed)⟩
    · exact absurd hStart.symm (start_ne_insert request)
    · obtain ⟨rfl, after, hRun⟩ := insert_of_goesOn hNext
      have hPasses : Passes communityId history.pool.shared history.now call := by rw [Passes, hRun]; rfl
      obtain ⟨rfl, community, member, hMay⟩ := checkMessage_admits (hUndisturbed _ hTurn hPasses) _ _ hRun
      have hShared : (recordAdmission communityId history (.turn turn)).pool.shared = history.pool.shared := by
        refine (shared_of_turn hTurn).trans ?_
        rw [AdmissionTask.advance, run_bind_of_ok _ hRun]
        rfl
      exact ⟨community, member, hMay.of_same (by rw [hShared])⟩

end

/-- The requests come in one after the other. -/
def AdmissionHistory.start (state : ServerState) (now : UInt64) : AdmissionHistory := ⟨⟨state, []⟩, now⟩

/-- Every message is admitted when it is inserted, as long as the checked senders have roster entries, the channels
exist, and nothing changes the community in memory between a check and the insert. -/
theorem inserts_admitted {communityId : String} {state : ServerState} {now : UInt64} {actions : List AdmissionAction}
    (hRun : Along (recordAdmission communityId) (Undisturbed communityId) (.start state now) actions) :
    Along (recordAdmission communityId) (AdmitsInserts communityId) (.start state now) actions := by
  refine (hRun.of_invariant (WaitsAdmitted communityId) (fun history action h hUndisturbed =>
    ⟨h.step hUndisturbed, ?_⟩) fun _ hNone => absurd hNone List.not_mem_nil).1
  cases action with
  | wait => trivial
  | turn turn => exact fun call hTurn => h call (mem_of_turn hTurn)

/-! ## One request at a time, and a kick in between -/

/-- The sender has a roster entry and the channel exists. -/
def knownCall (communityId : String) (state : ServerState) (call : MessageCall) : Bool :=
  (state.hosted.lookup communityId).all fun community =>
    (findMember community.members call.sender).isSome && community.channels.any (·.id == call.channelId)

def AdmissionTask.known (communityId : String) (state : ServerState) : AdmissionTask → Bool
  | .check call => knownCall communityId state call
  | _ => true

/-- At most one request runs, and its sender and channel are known. -/
def Calm (communityId : String) (history : AdmissionHistory) (_ : AdmissionAction) : Prop :=
  history.pool.running.length ≤ 1 ∧ history.pool.running.all (·.known communityId history.pool.shared) = true

instance (communityId : String) (history : AdmissionHistory) (action : AdmissionAction) :
    Decidable (Calm communityId history action) := inferInstanceAs (Decidable (_ ∧ _))

theorem Calm.undisturbed {communityId : String} {history : AdmissionHistory} {action : AdmissionAction}
    (h : Calm communityId history action) : Undisturbed communityId history action := by
  cases action with
  | wait => trivial
  | turn turn =>
    intro task hTurn
    have hTask := mem_of_turn hTurn
    have hKnown := List.all_eq_true.mp h.2 task hTask
    obtain ⟨only, hOnly⟩ := List.length_eq_one_iff.mp (Nat.le_antisymm h.1 (List.length_pos_of_mem hTask))
    rw [hOnly, List.mem_singleton] at hTask
    cases task with
    | check call =>
      intro _ community hCommunity
      have hBoth := (Option.all_eq_true _ _).mp hKnown community hCommunity
      rw [Bool.and_eq_true, List.any_eq_true] at hBoth
      obtain ⟨hEntry, channel, hChannel, hSame⟩ := hBoth
      exact ⟨hEntry, channel, hChannel, beq_iff_eq.mp hSame⟩
    | insert | announce => trivial
    | roster | single =>
      rintro ⟨call, hWaits⟩
      rw [hOnly, List.mem_singleton, ← hTask] at hWaits
      cases hWaits

def ask (sender : String) (request : MemberRequest) : AdmissionAction :=
  .turn (.start (.member sampleEnvironment sender request))

/-- Alice creates a channel and Bob sends to it. -/
def bobSends : List AdmissionAction :=
  [ask "alice" (.createChannel "general" "text"), .turn (.advance 0),
   ask "bob" (.sendMessage "channel_" [] 1), .turn (.advance 0), .turn (.advance 0), .turn (.advance 0)]

theorem inserts_admitted_bob :
    Along (recordAdmission "c") (AdmitsInserts "c") (.start sampleCommunityState 1000) bobSends := by
  have hCalm : Along (recordAdmission "c") (Calm "c") (.start sampleCommunityState 1000) bobSends := by decide +kernel
  exact inserts_admitted (hCalm.imp fun _ _ => Calm.undisturbed)

/-- Alice kicks Bob between the check of his message and its insert. -/
def bobKicked : List AdmissionAction :=
  [ask "alice" (.createChannel "general" "text"), .turn (.advance 0),
   ask "bob" (.sendMessage "channel_" [] 1), .turn (.advance 0),
   ask "alice" (.kick "bob"), .turn (.advance 1)]

def AdmissionTask.insertsFor (sender : String) : AdmissionTask → Bool
  | .insert call => call.sender == sender
  | _ => false

theorem insert_after_kick :
    ¬∀ (communityId : String) (state : ServerState) (now : UInt64) (actions : List AdmissionAction),
      Along (recordAdmission communityId) (AdmitsInserts communityId) (.start state now) actions := by
  intro hAll
  let kicked := final (recordAdmission "c") (.start sampleCommunityState 1000) bobKicked
  have hAdmits : AdmitsInserts "c" kicked (.turn (.advance 0)) :=
    (hAll "c" sampleCommunityState 1000 (bobKicked ++ [.turn (.advance 0)])).last
  have hInserts : (kicked.pool.running[0]?).any (·.insertsFor "bob") = true := by decide +kernel
  have hGone : inSample kicked.pool.shared (fun community => (findMember community.members "bob").isNone) = true := by
    decide +kernel
  obtain ⟨task, hTask, hBob⟩ := (Option.any_eq_true _ _).mp hInserts
  cases task with
  | insert call =>
    obtain ⟨community, member, hMay⟩ := hAdmits call hTask
    have hNone := test_of_inSample hGone hMay.hosted
    have hSender : call.sender = "bob" := beq_iff_eq.mp hBob
    rw [← hSender, hMay.isMember] at hNone
    cases hNone
  | _ => cases hBob

end Rekindle.Server
