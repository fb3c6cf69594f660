import Mathlib.Data.Multiset.AddSub
import Rekindle.Community.KeyAgreement

/-! # Channel messages that wait to be sent again

A send whose delivery fails puts its message into the queue. The sync loop reads the queue and hands its
messages over one after the other, each at most twenty times.
-/
namespace Rekindle.Community
set_option autoImplicit false
open Server Fallible Interleaving Runs

/-- Whether it returns `Ok`. -/
def checkServerResponse : Reply → Bool
  | some (.ok .ok) => true
  | some (.error _) => false
  | _ => true

/-- Whether it returns `Ok`, and what it leaves. -/
def sendEncryptedToServer (delivery : Delivery) (message : PendingChannelMessage) (state : ClientState) :
    Bool × ClientState :=
  match delivery with
  | .detached => (true, state)
  | .unroutable => (false, state)
  | .failed =>
    (false,
      { state.updateCommunity message.communityId fun community => { community with serverRouteBlob := none } with
        transmitted := state.transmitted ++ [message] })
  | .answered reply => (checkServerResponse reply, { state with transmitted := state.transmitted ++ [message] })

/-- The server has answered with `Ok`. -/
def Delivery.accepted : Delivery → Bool
  | .answered (some (.ok .ok)) => true
  | _ => false

structure PendingRow where
  id : Nat
  message : PendingChannelMessage
  retryCount : Nat

/-- The client with the queue as the sync loop sees it, and what has become of the messages so far. -/
structure Outbox where
  pool : Pool ClientState Task
  /-- `pending_messages`. -/
  rows : List PendingRow
  lastId : Nat
  /-- What the sync loop has read and not come to yet. -/
  round : List PendingRow
  /-- The generation of the key that the server has for a community. -/
  serverMek : String → UInt64
  sent : List PendingChannelMessage
  answered : List PendingChannelMessage
  exhausted : List PendingChannelMessage

inductive OutboxAction where
  | turn (turn : Turn Request)
  /-- `retry_pending_messages` reads the rows. -/
  | readPending
  /-- The sync loop goes on with the next row that it has read. -/
  | retry (delivery : Delivery)
  | learnRoute (communityId : String) (serverRouteBlob : List UInt8)
  | logout
  /-- The server draws another key for a community. -/
  | rotate (communityId : String)

def maxRetries : Nat := 20

namespace Outbox

variable (outbox : Outbox)

def state : ClientState := outbox.pool.shared

def withState (state : ClientState) : Outbox := { outbox with pool := { outbox.pool with shared := state } }

/-- The rows that the last section has inserted are given their ids. -/
def numberRows : Outbox :=
  let messages := outbox.state.db.pendingMessages
  { outbox.withState (outbox.state.mapDb fun db => { db with pendingMessages := [] }) with
    rows := outbox.rows ++ (messages.zipIdx (outbox.lastId + 1)).map fun numbered => ⟨numbered.2, numbered.1, 0⟩
    lastId := outbox.lastId + messages.length }

def deletePendingMessage (id : Nat) : Outbox := { outbox with rows := Keyed.remove PendingRow.id id outbox.rows }

def incrementRetryCount (id : Nat) : Outbox :=
  { outbox with
    rows := Keyed.update PendingRow.id id (fun row => { row with retryCount := row.retryCount + 1 }) outbox.rows }

def retrySinglePending (delivery : Delivery) (row : PendingRow) : Outbox :=
  if maxRetries ≤ row.retryCount then
    { outbox.deletePendingMessage row.id with exhausted := outbox.exhausted ++ [row.message] }
  else
    match (outbox.state.community? row.message.communityId).bind CommunityState.serverRouteBlob with
    | none => outbox.incrementRetryCount row.id
    | some _ =>
      match sendEncryptedToServer delivery row.message outbox.state with
      | (true, state) =>
        { (outbox.withState state).deletePendingMessage row.id with
          answered := outbox.answered ++ if delivery.accepted then [row.message] else [] }
      | (false, state) => (outbox.withState state).incrementRetryCount row.id

end Outbox

/-- The message that the task has stored and not yet got rid of. -/
def Task.outgoing? : Task → Option PendingChannelMessage
  | .send _ (.deliver _ message) => some message
  | .send _ (.queue message) => some message
  | _ => none

/-- The message that the task's section has stored, if it has come to that. -/
def Task.stored? (next : Option Task) : Task → Option PendingChannelMessage
  | .send _ (.store _ _ message) => next.map fun _ => message
  | _ => none

/-- The message that the server accepts in the task's section. -/
def Task.answered? : Task → Option PendingChannelMessage
  | .send call (.deliver (some _) message) => if call.delivery.accepted then some message else none
  | _ => none

section
variable (crypto : Crypto)

def Outbox.takeTurn (outbox : Outbox) (turn : Turn Request) : Outbox :=
  match turnOf outbox.pool turn with
  | none => { outbox with pool := take Request.start (Task.advance crypto) outbox.pool turn }
  | some task =>
    let next := goesOn? ((task.advance crypto).run outbox.state)
    numberRows
      { outbox with
        pool := take Request.start (Task.advance crypto) outbox.pool turn
        sent := outbox.sent ++ (task.stored? next).toList
        answered := outbox.answered ++ task.answered?.toList }

def Outbox.act (outbox : Outbox) : OutboxAction → Outbox
  | .turn turn => outbox.takeTurn crypto turn
  | .readPending => { outbox with round := outbox.rows }
  | .retry delivery =>
    match outbox.round with
    | [] => outbox
    | row :: rest => { outbox.retrySinglePending delivery row with round := rest }
  | .learnRoute communityId serverRouteBlob =>
    outbox.withState (outbox.state.updateCommunity communityId fun community =>
      { community with serverRouteBlob := some serverRouteBlob })
  | .logout => { outbox.withState outbox.state.stopped with round := [] }
  | .rotate communityId =>
    { outbox with serverMek := Function.update outbox.serverMek communityId (outbox.serverMek communityId + 1) }

end

/-! ## What is to hold -/

namespace Outbox

variable (outbox : Outbox)

/-- The messages sent and not dropped yet. -/
def waiting : Multiset PendingChannelMessage :=
  (outbox.pool.running.filterMap Task.outgoing? : Multiset PendingChannelMessage) +
    (outbox.rows.map PendingRow.message : List PendingChannelMessage)

/-- A message leaves the client when the server has accepted it or its retries are used up, and one that
waits is sealed with the key that the server has. -/
structure Lossless : Prop where
  accounted : (outbox.sent : Multiset PendingChannelMessage) = outbox.waiting + outbox.answered + outbox.exhausted
  current : ∀ message ∈ outbox.waiting, outbox.serverMek message.communityId = message.mekGeneration

end Outbox

/-- The client is attached and has its secret, and the server answers with `Ok` or with an error, if at all. -/
def Delivery.Conclusive : Delivery → Prop
  | .detached => False
  | .answered (some (.ok .ok)) => True
  | .answered (some (.error _)) => True
  | .answered _ => False
  | _ => True

def Task.Reliable (outbox : Outbox) : Task → Prop
  | .send _ (.encrypt _ destination) => outbox.serverMek destination.communityId = destination.mekGeneration
  | .send call (.deliver (some _) _) => call.delivery.Conclusive
  | .send _ (.queue _) => outbox.state.identity.isSome
  | _ => True

/-- The step goes without what loses messages: sends that reach no server, replies of another kind, and
keys that are replaced while a message waits. -/
def Reliable (outbox : Outbox) : OutboxAction → Prop
  | .turn turn => ∀ task ∈ turnOf outbox.pool turn, task.Reliable outbox
  | .retry delivery => delivery.Conclusive
  | .rotate communityId => (∀ task ∈ outbox.pool.running, ∀ message ∈ task.message?, message.communityId ≠ communityId) ∧
      ∀ row ∈ outbox.rows, row.message.communityId ≠ communityId
  | _ => True

/-! ## Sections -/

section
variable {crypto : Crypto} {task : Task} {state : ClientState}

/-- What the task was going to get rid of, or has just stored, is passed on, queued or accepted. -/
structure Accounts (crypto : Crypto) (task : Task) (state : ClientState)
    (result : EStateM.Result String ClientState (Task ⊕ Unit)) : Prop where
  balance : ((goesOn? result).bind Task.outgoing?).toList ++ (Result.state result).db.pendingMessages ++
    task.answered?.toList = task.outgoing?.toList ++ (task.stored? (goesOn? result)).toList
  label : ∀ message ∈ (goesOn? result).bind Task.message?, message ∈ task.message? ∨
    ∃ mek, task.composed crypto state = some (message, mek)

theorem mem_nextTask_of_goesOn? {result : EStateM.Result String ClientState (Task ⊕ Unit)} {rest : Task}
    (h : goesOn? result = some rest) : rest ∈ nextTask result :=
  nextTask_of_goesOn (goesOn?_eq_some_iff.mp h)

/-- What is no send goes on as no send. -/
theorem message_of_next (hTask : ∀ call stage, task ≠ .send call stage) {rest : Task}
    (h : rest ∈ nextTask ((task.advance crypto).run state)) : rest.message? = none := by
  cases task with
  | login call stage =>
    cases stage with
    | restore todo restored =>
      cases todo with
      | nil =>
        cases h
        rfl
      | cons visited todo =>
        cases h
        rfl
    | fillCache meks => cases h
    | _ =>
      cases h
      rfl
  | join call stage =>
    cases stage with
    | begin =>
      have hRun : (joinSection crypto call .begin).run state = _ :=
        begin_run (fun ownerKey => Task.join call (.callServer ownerKey)) state
      change rest ∈ nextTask ((joinSection crypto call .begin).run state) at h
      rw [hRun] at h
      cases hIdentity : state.identity with
      | none =>
        rw [hIdentity] at h
        cases h
      | some ownerKey =>
        rw [hIdentity] at h
        cases h
        rfl
    | callServer ownerKey =>
      change rest ∈ nextTask ((ofExcept call.rpcResult >>= fun joined => do
        modify fun state => (joined.bind Joined.mek).elim state (state.cacheMek call.communityId)
        pure (.inl (.join call (.insertCommunity ownerKey joined))) : ClientM (Task ⊕ Unit)).run state) at h
      cases hResult : call.rpcResult with
      | error message =>
        rw [hResult] at h
        cases h
      | ok joined =>
        rw [hResult] at h
        cases h
        rfl
    | insertRow ownerKey joined details => cases h
    | _ =>
      cases h
      rfl
  | requestMek communityId reply =>
    rcases @requestMek_run crypto communityId reply state with hRun | hRun
    · rw [hRun] at h
      cases h
    · rw [hRun] at h
      cases h
      rfl
  | receiveMek communityId reply =>
    cases hReply : reply.mek? with
    | none =>
      simp only [Task.advance, hReply] at h
      cases h
    | some found =>
      simp only [Task.advance, hReply] at h
      cases h
      rfl
  | persistMek communityId mekEncrypted mek stage =>
    cases stage with
    | updateRow => cases h
    | _ =>
      cases h
      rfl
  | send call stage => exact absurd rfl (hTask call stage)

theorem outgoing_of_message (h : task.message? = none) : task.outgoing? = none := by
  cases task with
  | send call stage => cases stage <;> first | rfl | cases h
  | _ => rfl

theorem accounts_of_other (hTask : ∀ call stage, task ≠ .send call stage) (hDrained : state.db.pendingMessages = []) :
    Accounts crypto task state ((task.advance crypto).run state) := by
  have hNone : (goesOn? ((task.advance crypto).run state)).bind Task.message? = none := by
    cases hNext : goesOn? ((task.advance crypto).run state) with
    | none => rfl
    | some rest => exact message_of_next hTask (mem_nextTask_of_goesOn? hNext)
  have hOutgoing : (goesOn? ((task.advance crypto).run state)).bind Task.outgoing? = none := by
    cases hNext : goesOn? ((task.advance crypto).run state) with
    | none => rfl
    | some rest => exact outgoing_of_message (message_of_next hTask (mem_nextTask_of_goesOn? hNext))
  have hMessage : task.message? = none := by
    cases task with
    | send call stage => exact absurd rfl (hTask call stage)
    | _ => rfl
  have hQueued : (Result.state ((task.advance crypto).run state)).db.pendingMessages = [] := by
    refine List.eq_nil_iff_forall_not_mem.mpr fun message hQueued => ?_
    rcases (@section_leaves crypto task state).queued message hQueued with hOld | hOwn
    · rw [hDrained] at hOld
      cases hOld
    · rw [hMessage] at hOwn
      cases hOwn
  constructor
  · rw [hOutgoing, hQueued]
    cases task with
    | send call stage => exact absurd rfl (hTask call stage)
    | _ => rfl
  · rw [hNone]
    exact nofun

/-- The section of a send that delivers is a call of `send_encrypted_to_server`. -/
theorem deliver_run (call : SendCall) (blob : List UInt8) (message : PendingChannelMessage) (state : ClientState) :
    (sendSection crypto call (.deliver (some blob) message)).run state =
      .ok (if (sendEncryptedToServer call.delivery message state).1 then .inr ()
        else .inl (.send call (.queue message))) (sendEncryptedToServer call.delivery message state).2 := by
  unfold sendSection sendEncryptedToServer
  cases call.delivery with
  | answered reply =>
    rcases reply with _ | (error | response)
    · rfl
    · rfl
    · cases response <;> rfl
  | _ => rfl

/-- A conclusive call returns `Ok` just when the server has accepted the message. -/
theorem Delivery.Conclusive.ok_iff {delivery : Delivery} (h : delivery.Conclusive) (message : PendingChannelMessage)
    (state : ClientState) : (sendEncryptedToServer delivery message state).1 = delivery.accepted := by
  cases delivery with
  | detached => exact h.elim
  | answered reply =>
    rcases reply with _ | (error | response)
    · exact h.elim
    · rfl
    · cases response with
      | ok => rfl
      | _ => exact h.elim
  | _ => rfl

theorem sendEncryptedToServer_db (delivery : Delivery) (message : PendingChannelMessage) (state : ClientState) :
    (sendEncryptedToServer delivery message state).2.db = state.db := by
  cases delivery <;> rfl

theorem send_balance {call : SendCall} {stage : SendStage} (hDrained : state.db.pendingMessages = [])
    (hDelivery : ∀ blob message, stage = .deliver (some blob) message → call.delivery.Conclusive)
    (hIdentity : ∀ message, stage = .queue message → state.identity.isSome) :
    ((goesOn? ((sendSection crypto call stage).run state)).bind Task.outgoing?).toList ++
        (Result.state ((sendSection crypto call stage).run state)).db.pendingMessages ++
        (Task.send call stage).answered?.toList =
      (Task.send call stage).outgoing?.toList ++
        ((Task.send call stage).stored? (goesOn? ((sendSection crypto call stage).run state))).toList := by
  have hKept (message : Option PendingChannelMessage) :
      message.toList ++ state.db.pendingMessages ++ [] = message.toList ++ [] := by
    rw [hDrained, List.append_nil]
  cases stage with
  | begin =>
    have hRun : (sendSection crypto call .begin).run state = _ :=
      begin_run (fun ownerKey => Task.send call (.findChannel ownerKey)) state
    rw [hRun]
    cases state.identity <;> exact hKept none
  | findChannel ownerKey =>
    have hRun : (sendSection crypto call (.findChannel ownerKey)).run state = _ := run_orThrow _ _ _ state
    rw [hRun]
    cases state.communities.find? fun community => community.channels.contains call.channelId <;> exact hKept none
  | readSender ownerKey destination => exact hKept none
  | encrypt senderKey destination =>
    have hRun : (sendSection crypto call (.encrypt senderKey destination)).run state = _ := run_orThrow _ _ _ state
    rw [hRun]
    cases state.mekCache.lookup destination.communityId <;> exact hKept none
  | store senderKey serverRouteBlob message =>
    have hRun : (sendSection crypto call (.store senderKey serverRouteBlob message)).run state = _ :=
      run_orThrow _ _ _ state
    rw [hRun]
    generalize hInsert : state.db.insertMessage _ = inserted
    cases inserted with
    | none => exact hKept none
    | some db =>
      have hQueue := (insertMessage_pendingMessages hInsert).trans hDrained
      change [message] ++ db.pendingMessages ++ [] = [] ++ [message]
      rw [hQueue]
      rfl
  | deliver serverRouteBlob message =>
    cases serverRouteBlob with
    | none => exact hKept (some message)
    | some blob =>
      have hOk := (hDelivery blob message rfl).ok_iff message state
      have hDb := (congrArg Database.pendingMessages (sendEncryptedToServer_db call.delivery message state)).trans hDrained
      rw [deliver_run, hOk]
      change _ ++ Database.pendingMessages _ ++ (if call.delivery.accepted then some message else none).toList = [message] ++ []
      rw [Result.state_ok, hDb]
      cases call.delivery.accepted <;> rfl
  | queue message =>
    change [] ++ (if state.identity.isSome then state.mapDb (·.queueMessage message) else state).db.pendingMessages ++
      [] = [message] ++ []
    rw [if_pos (hIdentity message rfl)]
    change [] ++ (state.db.pendingMessages ++ [message]) ++ [] = [message] ++ []
    rw [hDrained]
    rfl

theorem section_accounts {outbox : Outbox} (hTask : task.Reliable outbox) (hDrained : outbox.state.db.pendingMessages = []) :
    Accounts crypto task outbox.state ((task.advance crypto).run outbox.state) := by
  cases task with
  | send call stage =>
    constructor
    · refine send_balance hDrained ?_ ?_
      · rintro blob message rfl
        exact hTask
      · rintro message rfl
        exact hTask
    · intro message hMessage
      obtain ⟨rest, hNext, hRest⟩ := Option.bind_eq_some_iff.mp hMessage
      obtain ⟨next, rfl, hFollows⟩ :=
        @send_follows crypto { pool := { shared := outbox.state, running := [] }, sealedWith := [] } call stage rest
          (mem_nextTask_of_goesOn? hNext)
      exact hFollows.message message hRest
  | _ => exact accounts_of_other (fun _ _ => nofun) hDrained

end

/-! ## Rows -/

namespace Outbox

/-- The ids and messages of the queue. -/
def entries (outbox : Outbox) : List (Nat × PendingChannelMessage) :=
  outbox.rows.map fun row => (row.id, row.message)

/-- What the steps keep. -/
structure Tracked (outbox : Outbox) : Prop where
  accounted : (outbox.sent : Multiset PendingChannelMessage) = outbox.waiting + outbox.answered + outbox.exhausted
  composed : ∀ task ∈ outbox.pool.running, ∀ message ∈ task.message?,
    outbox.serverMek message.communityId = message.mekGeneration
  queued : ∀ entry ∈ outbox.entries, outbox.serverMek entry.2.communityId = entry.2.mekGeneration
  drained : outbox.state.db.pendingMessages = []
  keys : (outbox.entries.map Prod.fst).Nodup
  numbered : ∀ entry ∈ outbox.entries, entry.1 ≤ outbox.lastId
  roundKeys : (outbox.round.map PendingRow.id).Nodup
  known : ∀ row ∈ outbox.round, (row.id, row.message) ∈ outbox.entries

variable {outbox : Outbox} {row : PendingRow}

theorem waiting_eq (outbox : Outbox) : outbox.waiting =
    (outbox.pool.running.filterMap Task.outgoing? : Multiset PendingChannelMessage) +
      (outbox.entries.map Prod.snd : List PendingChannelMessage) := by
  unfold waiting entries
  rw [List.map_map]
  rfl

theorem entries_incrementRetryCount (outbox : Outbox) (id : Nat) :
    (outbox.incrementRetryCount id).entries = outbox.entries :=
  Keyed.map_update fun _ => rfl

theorem entries_deletePendingMessage (outbox : Outbox) (id : Nat) :
    (outbox.deletePendingMessage id).entries = Keyed.remove Prod.fst id outbox.entries := by
  unfold entries deletePendingMessage Keyed.remove
  rw [List.filter_map]
  rfl

theorem entries_numberRows (outbox : Outbox) : outbox.numberRows.entries =
    outbox.entries ++ (outbox.state.db.pendingMessages.zipIdx (outbox.lastId + 1)).map Prod.swap := by
  unfold entries numberRows
  rw [List.map_append, List.map_map]
  rfl

/-- What a retry comes to. -/
theorem retry_cases {delivery : Delivery} (hDelivery : delivery.Conclusive) (outbox : Outbox) (row : PendingRow) :
    ∃ state : ClientState, state.db = outbox.state.db ∧
      (outbox.retrySinglePending delivery row = (outbox.withState state).incrementRetryCount row.id ∨
        outbox.retrySinglePending delivery row =
          { (outbox.withState state).deletePendingMessage row.id with answered := outbox.answered ++ [row.message] } ∨
        outbox.retrySinglePending delivery row =
          { (outbox.withState state).deletePendingMessage row.id with exhausted := outbox.exhausted ++ [row.message] }) := by
  unfold retrySinglePending
  split
  · exact ⟨outbox.state, rfl, .inr (.inr rfl)⟩
  · split
    · exact ⟨outbox.state, rfl, .inl rfl⟩
    · have hOk := hDelivery.ok_iff row.message outbox.state
      refine ⟨(sendEncryptedToServer delivery row.message outbox.state).2, sendEncryptedToServer_db _ _ _, ?_⟩
      generalize sendEncryptedToServer delivery row.message outbox.state = outcome at hOk
      obtain ⟨ok, state⟩ := outcome
      change ok = delivery.accepted at hOk
      cases ok with
      | false => exact .inl rfl
      | true =>
        refine .inr (.inl ?_)
        rw [← hOk]
        rfl

/-! ## Steps -/

/-- Messages leave the queue, and are accounted for. -/
theorem Tracked.of_sublist (h : outbox.Tracked) {after : Outbox} (hRunning : after.pool.running = outbox.pool.running)
    (hMek : after.serverMek = outbox.serverMek) (hLast : after.lastId = outbox.lastId)
    (hDb : after.state.db = outbox.state.db) (hEntries : after.entries.Sublist outbox.entries)
    (hAccounted : (after.sent : Multiset PendingChannelMessage) = after.waiting + after.answered + after.exhausted)
    (hRound : (after.round.map PendingRow.id).Nodup)
    (hKnown : ∀ row ∈ after.round, (row.id, row.message) ∈ after.entries) : after.Tracked := by
  constructor
  · exact hAccounted
  · rw [hRunning, hMek]
    exact h.composed
  · rw [hMek]
    exact fun entry hEntry => h.queued entry (hEntries.subset hEntry)
  · rw [hDb]
    exact h.drained
  · exact h.keys.sublist (hEntries.map Prod.fst)
  · rw [hLast]
    exact fun entry hEntry => h.numbered entry (hEntries.subset hEntry)
  · exact hRound
  · exact hKnown

theorem Tracked.withState (h : outbox.Tracked) {state : ClientState} (hDb : state.db = outbox.state.db) :
    (outbox.withState state).Tracked :=
  h.of_sublist rfl rfl rfl hDb (.refl _) h.accounted h.roundKeys h.known

theorem waiting_deletePendingMessage (hKeys : (outbox.entries.map Prod.fst).Nodup)
    (hRow : (row.id, row.message) ∈ outbox.entries) :
    outbox.waiting = (outbox.deletePendingMessage row.id).waiting + [row.message] := by
  have hPerm : (outbox.entries.map Prod.snd).Perm
      (row.message :: (Keyed.remove Prod.fst row.id outbox.entries).map Prod.snd) :=
    (Keyed.perm_cons_remove hKeys hRow).map Prod.snd
  rw [waiting_eq, waiting_eq, entries_deletePendingMessage, Multiset.coe_eq_coe.mpr hPerm, ← Multiset.cons_coe,
    ← Multiset.singleton_add, Multiset.coe_singleton]
  change _ = Multiset.ofList (outbox.pool.running.filterMap Task.outgoing?) + _ + _
  ac_rfl

theorem Tracked.retry_step (h : outbox.Tracked) {delivery : Delivery} (hDelivery : delivery.Conclusive) {rest : List PendingRow}
    (hRound : outbox.round = row :: rest) : Tracked { outbox.retrySinglePending delivery row with round := rest } := by
  have hKeys := h.roundKeys
  have hKnown := h.known
  rw [hRound] at hKeys hKnown
  obtain ⟨hFirst, hLater⟩ := List.nodup_cons.mp hKeys
  have hRow : (row.id, row.message) ∈ outbox.entries := hKnown row List.mem_cons_self
  obtain ⟨state, hDb, hCases⟩ := retry_cases hDelivery outbox row
  have hRemoved := (outbox.withState state).entries_deletePendingMessage row.id
  have hFewer : ((outbox.withState state).deletePendingMessage row.id).entries.Sublist outbox.entries := by
    rw [hRemoved]
    exact List.filter_sublist
  have hStays : ∀ other ∈ rest, (other.id, other.message) ∈ ((outbox.withState state).deletePendingMessage row.id).entries := by
    intro other hOther
    rw [hRemoved]
    refine List.mem_filter.mpr ⟨hKnown other (List.mem_cons_of_mem _ hOther), bne_iff_ne.mpr fun hSame => ?_⟩
    exact hFirst (List.mem_map.mpr ⟨other, hOther, hSame⟩)
  have hDropped : (outbox.sent : Multiset PendingChannelMessage) =
      ((outbox.withState state).deletePendingMessage row.id).waiting + [row.message] + outbox.answered + outbox.exhausted := by
    rw [← waiting_deletePendingMessage (h.withState hDb).keys hRow]
    exact h.accounted
  rcases hCases with hRetry | hRetry | hRetry
  · have hSame := (outbox.withState state).entries_incrementRetryCount row.id
    rw [hRetry]
    refine h.of_sublist rfl rfl rfl hDb (hSame ▸ .refl _) ?_ hLater ?_
    · change (outbox.sent : Multiset PendingChannelMessage) =
        ((outbox.withState state).incrementRetryCount row.id).waiting + outbox.answered + outbox.exhausted
      rw [waiting_eq, hSame]
      exact h.accounted.trans (by rw [waiting_eq]; rfl)
    · intro other hOther
      exact hSame ▸ hKnown other (List.mem_cons_of_mem _ hOther)
  · rw [hRetry]
    refine h.of_sublist rfl rfl rfl hDb hFewer ?_ hLater hStays
    change (outbox.sent : Multiset PendingChannelMessage) =
      ((outbox.withState state).deletePendingMessage row.id).waiting + ↑(outbox.answered ++ [row.message]) + outbox.exhausted
    rw [hDropped, ← Multiset.coe_add]
    ac_rfl
  · rw [hRetry]
    refine h.of_sublist rfl rfl rfl hDb hFewer ?_ hLater hStays
    change (outbox.sent : Multiset PendingChannelMessage) =
      ((outbox.withState state).deletePendingMessage row.id).waiting + outbox.answered + ↑(outbox.exhausted ++ [row.message])
    rw [hDropped, ← Multiset.coe_add]
    ac_rfl

variable {crypto : Crypto} {turn : Turn Request}

theorem start_message (request : Request) : (request.start).message? = none := by
  cases request <;> rfl

theorem Tracked.idle_step (h : outbox.Tracked) (hTurn : turnOf outbox.pool turn = none) :
    (outbox.takeTurn crypto turn).Tracked := by
  have hTaken : outbox.takeTurn crypto turn =
      { outbox with pool := take Request.start (Task.advance crypto) outbox.pool turn } := by
    unfold takeTurn
    rw [hTurn]
  rw [hTaken]
  cases turn with
  | start request =>
    constructor
    · rw [waiting_eq]
      change (outbox.sent : Multiset PendingChannelMessage) =
        ((outbox.pool.running ++ [request.start]).filterMap Task.outgoing? : Multiset PendingChannelMessage) +
          (outbox.entries.map Prod.snd : List PendingChannelMessage) + outbox.answered + outbox.exhausted
      rw [List.filterMap_append, List.filterMap_cons_none (outgoing_of_message (start_message request)),
        List.filterMap_nil, List.append_nil, ← waiting_eq]
      exact h.accounted
    · intro task hTask message hMessage
      rcases List.mem_append.mp hTask with hOld | hNew
      · exact h.composed task hOld message hMessage
      · cases List.mem_singleton.mp hNew
        rw [start_message] at hMessage
        cases hMessage
    · exact h.queued
    · exact h.drained
    · exact h.keys
    · exact h.numbered
    · exact h.roundKeys
    · exact h.known
  | advance index =>
    change outbox.pool.running[index]? = none at hTurn
    simp only [take, hTurn]
    exact h

theorem filterMap_toList_append {α β : Type} (f : α → Option β) (first : Option α) (rest : List α) :
    (first.toList ++ rest).filterMap f = (first.bind f).toList ++ rest.filterMap f := by
  cases first with
  | none => rfl
  | some value => cases hValue : f value <;> simp [hValue]

/-- The turn of a task, which goes on as `next` and has queued `queued`. -/
structure TurnTaken (outbox after : Outbox) (task : Task) (next : Option Task) (queued : List PendingChannelMessage)
    (others : List Task) : Prop where
  before : outbox.pool.running.Perm ((some task).toList ++ others)
  running : after.pool.running.Perm (next.toList ++ others)
  entries : after.entries = outbox.entries ++ (queued.zipIdx (outbox.lastId + 1)).map Prod.swap
  lastId : after.lastId = outbox.lastId + queued.length
  sent : after.sent = outbox.sent ++ (task.stored? next).toList
  answered : after.answered = outbox.answered ++ task.answered?.toList
  exhausted : after.exhausted = outbox.exhausted
  round : after.round = outbox.round
  serverMek : after.serverMek = outbox.serverMek
  drained : after.state.db.pendingMessages = []

theorem turnTaken {task : Task} (hTurn : turnOf outbox.pool turn = some task) :
    ∃ others, TurnTaken outbox (outbox.takeTurn crypto turn) task (goesOn? ((task.advance crypto).run outbox.state))
      (Result.state ((task.advance crypto).run outbox.state)).db.pendingMessages others := by
  obtain ⟨others, hBefore, hAfter⟩ := @perm_of_turn _ _ _ _ _ Request.start (Task.advance crypto) outbox.pool turn task hTurn
  have hShared : (take Request.start (Task.advance crypto) outbox.pool turn).shared =
      Result.state ((task.advance crypto).run outbox.state) := shared_of_turn hTurn
  have hTaken : outbox.takeTurn crypto turn = numberRows
      { outbox with
        pool := take Request.start (Task.advance crypto) outbox.pool turn
        sent := outbox.sent ++ (task.stored? (goesOn? ((task.advance crypto).run outbox.state))).toList
        answered := outbox.answered ++ task.answered?.toList } := by
    unfold takeTurn
    rw [hTurn]
  rw [hTaken, ← hShared]
  exact ⟨others, hBefore, hAfter, entries_numberRows _, rfl, rfl, rfl, rfl, rfl, rfl, rfl⟩

namespace TurnTaken

variable {after : Outbox} {task : Task} {next : Option Task} {queued : List PendingChannelMessage} {others : List Task}
  (hTaken : TurnTaken outbox after task next queued others)
include hTaken

theorem accounted (h : outbox.Tracked)
    (hBalance : (next.bind Task.outgoing?).toList ++ queued ++ task.answered?.toList =
      task.outgoing?.toList ++ (task.stored? next).toList) :
    (after.sent : Multiset PendingChannelMessage) = after.waiting + after.answered + after.exhausted := by
  have hBefore := hTaken.before.filterMap Task.outgoing?
  have hAfter := hTaken.running.filterMap Task.outgoing?
  rw [filterMap_toList_append] at hBefore hAfter
  have hNew : ((queued.zipIdx (outbox.lastId + 1)).map Prod.swap).map Prod.snd = queued := by
    rw [List.map_map]
    exact List.zipIdx_map_fst _ queued
  have hBalanced := congrArg Multiset.ofList hBalance
  simp only [← Multiset.coe_add] at hBalanced
  calc (after.sent : Multiset PendingChannelMessage)
      = outbox.sent + (task.stored? next).toList := by rw [hTaken.sent, Multiset.coe_add]
    _ = outbox.waiting + outbox.answered + outbox.exhausted + (task.stored? next).toList := by rw [h.accounted]
    _ = (task.outgoing?.toList + (task.stored? next).toList) + others.filterMap Task.outgoing? +
          (outbox.entries.map Prod.snd : List PendingChannelMessage) + outbox.answered + outbox.exhausted := by
        rw [waiting_eq, Multiset.coe_eq_coe.mpr hBefore, ← Multiset.coe_add]
        change Multiset.ofList task.outgoing?.toList + _ + _ + _ + _ + _ = _
        ac_rfl
    _ = after.waiting + after.answered + after.exhausted := by
        rw [← hBalanced, waiting_eq, Multiset.coe_eq_coe.mpr hAfter, hTaken.entries, List.map_append, hNew,
          hTaken.answered, hTaken.exhausted]
        simp only [← Multiset.coe_add]
        ac_rfl

theorem composed (h : outbox.Tracked)
    (hNext : ∀ message ∈ next.bind Task.message?, outbox.serverMek message.communityId = message.mekGeneration) :
    ∀ other ∈ after.pool.running, ∀ message ∈ other.message?, after.serverMek message.communityId = message.mekGeneration := by
  intro other hOther message hMessage
  rw [hTaken.serverMek]
  rcases List.mem_append.mp (hTaken.running.subset hOther) with hFirst | hRest
  · refine hNext message ?_
    rw [Option.mem_toList] at hFirst
    exact Option.bind_eq_some_iff.mpr ⟨other, hFirst, hMessage⟩
  · exact h.composed other (hTaken.before.symm.subset (List.mem_append_right _ hRest)) message hMessage

theorem tracked (h : outbox.Tracked)
    (hBalance : (next.bind Task.outgoing?).toList ++ queued ++ task.answered?.toList =
      task.outgoing?.toList ++ (task.stored? next).toList)
    (hNext : ∀ message ∈ next.bind Task.message?, outbox.serverMek message.communityId = message.mekGeneration)
    (hQueued : ∀ message ∈ queued, outbox.serverMek message.communityId = message.mekGeneration) : after.Tracked := by
  have hNumbers : ((queued.zipIdx (outbox.lastId + 1)).map Prod.swap).map Prod.fst =
      List.range' (outbox.lastId + 1) queued.length := by
    rw [List.map_map]
    exact List.zipIdx_map_snd _ queued
  have hNew {entry : Nat × PendingChannelMessage} (hEntry : entry ∈ (queued.zipIdx (outbox.lastId + 1)).map Prod.swap) :
      outbox.lastId < entry.1 ∧ entry.1 ≤ outbox.lastId + queued.length ∧ entry.2 ∈ queued := by
    obtain ⟨numbered, hMem, rfl⟩ := List.mem_map.mp hEntry
    obtain ⟨hLow, hHigh, hMessage⟩ := List.mem_zipIdx hMem
    refine ⟨hLow, ?_, ?_⟩
    · change numbered.2 ≤ _
      omega
    · rw [Prod.snd_swap, hMessage]
      exact List.getElem_mem _
  constructor
  · exact hTaken.accounted h hBalance
  · exact hTaken.composed h hNext
  · rw [hTaken.entries, hTaken.serverMek]
    intro entry hEntry
    rcases List.mem_append.mp hEntry with hOld | hFresh
    · exact h.queued entry hOld
    · exact hQueued entry.2 (hNew hFresh).2.2
  · exact hTaken.drained
  · rw [hTaken.entries, List.map_append, hNumbers]
    refine List.nodup_append.mpr ⟨h.keys, List.nodup_range', fun id hOld other hFresh => ?_⟩
    obtain ⟨entry, hEntry, rfl⟩ := List.mem_map.mp hOld
    have hBound := h.numbered entry hEntry
    have hLow := (List.mem_range'_1.mp hFresh).1
    omega
  · rw [hTaken.entries, hTaken.lastId]
    intro entry hEntry
    rcases List.mem_append.mp hEntry with hOld | hFresh
    · exact (h.numbered entry hOld).trans (Nat.le_add_right _ _)
    · exact (hNew hFresh).2.1
  · rw [hTaken.round]
    exact h.roundKeys
  · rw [hTaken.round, hTaken.entries]
    exact fun row hRow => List.mem_append_left _ (h.known row hRow)

end TurnTaken

/-- A message composed under the server's key is of the server's generation. -/
theorem composed_current {task : Task} (hReliable : task.Reliable outbox) {message : PendingChannelMessage}
    {mek : MediaEncryptionKey} (hComposed : task.composed crypto outbox.state = some (message, mek)) :
    outbox.serverMek message.communityId = message.mekGeneration := by
  unfold Task.composed at hComposed
  split at hComposed
  next call senderKey destination =>
    obtain ⟨cached, -, hSame⟩ := Option.map_eq_some_iff.mp hComposed
    cases hSame
    exact hReliable
  next => cases hComposed

theorem Tracked.turn_step (h : outbox.Tracked) {task : Task} (hTurn : turnOf outbox.pool turn = some task)
    (hReliable : task.Reliable outbox) : (outbox.takeTurn crypto turn).Tracked := by
  obtain ⟨others, hTaken⟩ := @turnTaken outbox crypto turn task hTurn
  have hAccounts : Accounts crypto task outbox.state ((task.advance crypto).run outbox.state) :=
    section_accounts hReliable h.drained
  have hOwn : ∀ message ∈ task.message?, outbox.serverMek message.communityId = message.mekGeneration :=
    h.composed task (mem_of_turn hTurn)
  refine hTaken.tracked h hAccounts.balance (fun message hMessage => ?_) (fun message hMessage => ?_)
  · rcases hAccounts.label message hMessage with hKept | ⟨mek, hComposed⟩
    · exact hOwn message hKept
    · exact composed_current hReliable hComposed
  · rcases (@section_leaves crypto task outbox.state).queued message hMessage with hOld | hNew
    · rw [h.drained] at hOld
      cases hOld
    · exact hOwn message hNew

theorem Tracked.step (h : outbox.Tracked) {action : OutboxAction} (hReliable : Reliable outbox action) :
    (outbox.act crypto action).Tracked := by
  cases action with
  | turn turn =>
    cases hTurn : turnOf outbox.pool turn with
    | none => exact h.idle_step hTurn
    | some task => exact h.turn_step hTurn (hReliable task hTurn)
  | readPending =>
    have hKeys := h.keys
    rw [entries, List.map_map] at hKeys
    exact h.of_sublist rfl rfl rfl rfl (.refl _) h.accounted hKeys fun row hRow => List.mem_map.mpr ⟨row, hRow, rfl⟩
  | retry delivery =>
    cases hRound : outbox.round with
    | nil =>
      simp only [act, hRound]
      exact h
    | cons row rest =>
      simp only [act, hRound]
      exact h.retry_step hReliable hRound
  | learnRoute communityId serverRouteBlob => exact h.withState rfl
  | logout =>
    exact h.of_sublist rfl rfl rfl rfl (.refl _) h.accounted List.nodup_nil (fun _ hNone => nomatch hNone)
  | rotate communityId =>
    obtain ⟨hTasks, hRows⟩ := hReliable
    constructor
    · exact h.accounted
    · intro task hTask message hMessage
      exact (Function.update_of_ne (hTasks task hTask message hMessage) _ _).trans (h.composed task hTask message hMessage)
    · intro entry hEntry
      obtain ⟨row, hRow, rfl⟩ := List.mem_map.mp hEntry
      exact (Function.update_of_ne (hRows row hRow) _ _).trans (h.queued _ hEntry)
    · exact h.drained
    · exact h.keys
    · exact h.numbered
    · exact h.roundKeys
    · exact h.known

theorem message_of_outgoing {task : Task} {message : PendingChannelMessage} (h : task.outgoing? = some message) :
    task.message? = some message := by
  cases task with
  | send call stage => cases stage <;> first | exact h | cases h
  | _ => cases h

theorem Tracked.lossless (h : outbox.Tracked) : outbox.Lossless := by
  refine ⟨h.accounted, fun message hMessage => ?_⟩
  rw [waiting_eq] at hMessage
  rcases Multiset.mem_add.mp hMessage with hTask | hRow
  · obtain ⟨task, hIn, hOutgoing⟩ := List.mem_filterMap.mp (Multiset.mem_coe.mp hTask)
    exact h.composed task hIn message (message_of_outgoing hOutgoing)
  · obtain ⟨entry, hEntry, rfl⟩ := List.mem_map.mp (Multiset.mem_coe.mp hRow)
    exact h.queued entry hEntry

/-- Nothing runs, and the queue holds what was sent before. -/
structure Rested (outbox : Outbox) : Prop where
  idle : outbox.pool.running = []
  drained : outbox.state.db.pendingMessages = []
  round : outbox.round = []
  keys : (outbox.rows.map PendingRow.id).Nodup
  numbered : ∀ row ∈ outbox.rows, row.id ≤ outbox.lastId
  lossless : outbox.Lossless

theorem Rested.tracked (h : outbox.Rested) : outbox.Tracked := by
  constructor
  · exact h.lossless.accounted
  · rw [h.idle]
    exact fun _ hNone => nomatch hNone
  · intro entry hEntry
    obtain ⟨row, hRow, rfl⟩ := List.mem_map.mp hEntry
    exact h.lossless.current row.message (Multiset.mem_add.mpr (.inr (List.mem_map_of_mem hRow)))
  · exact h.drained
  · have hKeys := h.keys
    rwa [entries, List.map_map]
  · intro entry hEntry
    obtain ⟨row, hRow, rfl⟩ := List.mem_map.mp hEntry
    exact h.numbered row hRow
  · rw [h.round]
    exact List.nodup_nil
  · rw [h.round]
    exact fun _ hNone => nomatch hNone

end Outbox

/-- Sends, retries, logins, joins and fetches in any order lose no message, as long as no call comes out as `Ok`
without the server's and no key is replaced while a message waits. -/
theorem queue_loses_nothing (crypto : Crypto) {start : Outbox} (hStart : start.Rested) {actions : List OutboxAction}
    (hReliable : Along (Outbox.act crypto) Reliable start actions) :
    (final (Outbox.act crypto) start actions).Lossless :=
  (hReliable.invariant Outbox.Tracked (fun _ _ h hAction => h.step hAction) hStart.tracked).lossless

/-! ## A send of a client that is detached -/

instance (delivery : Delivery) : Decidable delivery.Conclusive := by
  unfold Delivery.Conclusive
  split <;> infer_instance

instance (outbox : Outbox) : ∀ task : Task, Decidable (task.Reliable outbox)
  | .send _ (.encrypt _ destination) =>
    inferInstanceAs (Decidable (outbox.serverMek destination.communityId = destination.mekGeneration))
  | .send call (.deliver (some _) _) => inferInstanceAs (Decidable call.delivery.Conclusive)
  | .send _ (.queue _) => inferInstanceAs (Decidable (outbox.state.identity.isSome = true))
  | .send _ .begin | .send _ (.findChannel _) | .send _ (.readSender ..) | .send _ (.store ..)
  | .send _ (.deliver none _) | .login .. | .join .. | .requestMek .. | .receiveMek .. | .persistMek .. => .isTrue trivial

instance (outbox : Outbox) (action : OutboxAction) : Decidable (Reliable outbox action) := by
  unfold Reliable
  split <;> infer_instance

/-- The member of one community, with an empty queue. -/
def emptyOutbox : Outbox :=
  { pool := memberAtRest.pool, rows := [], lastId := 0, round := [], serverMek := fun _ => 1
    sent := [], answered := [], exhausted := [] }

/-- The member logs in and sends a message. -/
def loginAndSend (delivery : Delivery) : List OutboxAction :=
  let login : LoginCall := ⟨"owner", fun _ => ⟨List.replicate 32 1, rfl⟩⟩
  let send : SendCall := ⟨"general", "hello", [], 5, delivery⟩
  let turns : List (Turn Request) := [.start (.login login)] ++ List.replicate 8 (.advance 0) ++
    [.start (.send send)] ++ List.replicate 7 (.advance 0)
  turns.map .turn

theorem emptyOutbox_rested : emptyOutbox.Rested := by
  refine ⟨rfl, rfl, rfl, List.nodup_nil, fun _ hNone => (nomatch hNone), rfl, fun _ hNone => ?_⟩
  exact absurd hNone (Multiset.notMem_zero _)

/-- The call of a client that is detached comes out as `Ok`, and the message is not queued. -/
theorem detached_send_lost : ¬∀ (crypto : Crypto) (start : Outbox), start.Rested → ∀ actions,
    (final (Outbox.act crypto) start actions).Lossless := by
  intro hClaim
  have hAccounted := (hClaim openCrypto emptyOutbox emptyOutbox_rested (loginAndSend .detached)).accounted
  have hCard := congrArg Multiset.card hAccounted
  revert hCard
  decide +kernel

/-- A send that fails, and a retry that the server accepts. -/
theorem queue_loses_nothing_after_retry : (final (Outbox.act openCrypto) emptyOutbox
    (loginAndSend .unroutable ++ [.readPending, .retry (.answered (some (.ok .ok)))])).Lossless :=
  queue_loses_nothing openCrypto emptyOutbox_rested (by decide +kernel)

end Rekindle.Community
