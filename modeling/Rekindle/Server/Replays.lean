import Rekindle.Client.Splicing
import Rekindle.Server.Answers
import Rekindle.Server.Atomicity
import Rekindle.Server.Statements

/-! # Envelopes that arrive again

The server opens an envelope, checks its signature and dispatches the request inside. It keeps no
record of the envelopes that it has seen.
-/
namespace Rekindle.Server
set_option autoImplicit false
open Client Fallible Runs Signal

def protocolErrorText : ProtocolError → String
  | .deserialization text => "deserialization error: " ++ text
  | .verification text => "verification failed: " ++ text

/-- The third-party code in front of the dispatch. -/
structure Gateway where
  prims : Primitives
  wire : Wire
  /-- `serde_json::from_slice::<CommunityRequest>`, with the text of its error. -/
  parseRequest : Bytes → Except String CommunityRequest

/-- One `app_call` as it arrives: the moment, where its route leads, and the bytes. -/
structure Delivery where
  env : Environment
  routing : Routing
  raw : Bytes

section
variable (gateway : Gateway)

/-- The first half of `process_request`. -/
def Gateway.openRequest (delivery : Delivery) : Except RpcError (MessageEnvelope × IncomingRequest) := do
  let envelope ← (processIncoming gateway.prims gateway.wire delivery.raw).mapError fun e =>
    ⟨400, "invalid envelope: " ++ protocolErrorText e⟩
  let request ← (gateway.parseRequest envelope.payload).mapError fun e =>
    ⟨400, "invalid request payload: " ++ e⟩
  pure (envelope, { env := delivery.env, sender := hexEncode envelope.senderKey
                    routing := delivery.routing, request := request })

def processRequest (delivery : Delivery) : ServerM CommunityResponse := do
  let (_, incoming) ← ofExcept (gateway.openRequest delivery)
  dispatchRequest incoming.env incoming.sender incoming.routing incoming.request

end

/-! ## Ledgers -/

/-- A request that was answered without an error, with the envelope it came in. Requests over the
local socket have none. -/
structure Execution where
  envelope : Option MessageEnvelope
  incoming : IncomingRequest

/-- A server with what it has executed so far. -/
structure Ledger where
  server : ServerState
  executed : List Execution

def Ledger.envelopes (ledger : Ledger) : List MessageEnvelope := ledger.executed.filterMap Execution.envelope

/-- The row that SendMessage stores. -/
def IncomingRequest.messageRow (incoming : IncomingRequest) : Option MessageRow :=
  match incoming.request with
  | .member (.sendMessage channelId ciphertext mekGeneration) =>
    (resolveCommunityId incoming.routing).map fun communityId =>
      { communityId := communityId, channelId := channelId, senderPseudonym := incoming.sender
        ciphertext := ciphertext, mekGeneration := min mekGeneration.toNat i64Max
        timestamp := incoming.env.timestampNow }
  | _ => none

def Ledger.answer (ledger : Ledger) (execution : Execution) : Ledger where
  server := serve ledger.server execution.incoming
  executed := ledger.executed ++
    (Result.value? (execution.incoming.answer ledger.server)).elim [] fun _ => [execution]

/-- A delivery, or an event that needs no envelope. -/
inductive LedgerEvent where
  | deliver (delivery : Delivery)
  | event (event : ServerEvent)

section
variable (gateway : Gateway)

def Ledger.step (ledger : Ledger) : LedgerEvent → Ledger
  | .deliver delivery =>
    match gateway.openRequest delivery with
    | .error _ => ledger
    | .ok (envelope, incoming) => ledger.answer ⟨some envelope, incoming⟩
  | .event (.request incoming) => ledger.answer ⟨none, incoming⟩
  | .event event => { ledger with server := handleEvent ledger.server event }

def Ledger.initial (dbFaults : List Bool) : Ledger := ⟨ServerState.initial dbFaults, []⟩

/-- The delivery brings an envelope that was executed before, and its request passes the checks that
any request must. -/
def Ledger.Repeats (ledger : Ledger) : LedgerEvent → Prop
  | .deliver delivery => ∃ envelope incoming, gateway.openRequest delivery = .ok (envelope, incoming) ∧
      envelope ∈ ledger.envelopes ∧ incoming.Passes ledger.server
  | .event _ => False

/-- No envelope was executed twice, and the history has one message for each execution of a
SendMessage. -/
structure Ledger.AtMostOnce (ledger : Ledger) : Prop where
  envelopes : ledger.envelopes.Nodup
  messages : ledger.server.db.serverMessages =
    ledger.executed.filterMap fun execution => execution.incoming.messageRow

end

/-! ## One step -/

section
variable {gateway : Gateway} {ledger : Ledger}

theorem processRequest_run (delivery : Delivery) (s : ServerState) :
    (processRequest gateway delivery).run s = match gateway.openRequest delivery with
      | .error e => .error e s
      | .ok (_, incoming) => incoming.answer s := by
  unfold processRequest
  cases gateway.openRequest delivery with
  | error e => rfl
  | ok opened => rfl

theorem value?_isSome_iff (incoming : IncomingRequest) (s : ServerState) :
    (Result.value? (incoming.answer s)).isSome = true ↔ incoming.Passes s := by
  have hAnswers := dispatch_settles s incoming
  unfold AnswersOr Settles at hAnswers
  unfold IncomingRequest.answer
  cases hRun : (dispatchRequest incoming.env incoming.sender incoming.routing incoming.request).run s with
  | ok response t =>
    rw [hRun] at hAnswers
    simpa using hAnswers
  | error e t =>
    rw [hRun] at hAnswers
    simpa using hAnswers.1

theorem handleSendMessage_stores (env : Environment) (communityId sender channelId : String)
    (ciphertext : List UInt8) (mekGeneration : UInt64) (s : ServerState) :
    Settles (fun _ t => t.db.serverMessages = s.db.serverMessages ++
        [{ communityId := communityId, channelId := channelId, senderPseudonym := sender
           ciphertext := ciphertext, mekGeneration := min mekGeneration.toNat i64Max
           timestamp := env.timestampNow }])
      (fun _ t => t.db.serverMessages = s.db.serverMessages)
      (handleSendMessage env communityId sender channelId ciphertext mekGeneration) s := by
  have hKept : ∀ {α β : Type} {P : β → ServerState → Prop} {r : Except RpcError α} {f : α → ServerM β},
      (∀ a, r = .ok a → Settles P (fun _ t => t.db.serverMessages = s.db.serverMessages) (f a) s) →
      Settles P (fun _ t => t.db.serverMessages = s.db.serverMessages) (ofExcept r >>= f) s := by
    intro α β P r f h
    cases r with
    | error e => exact rfl
    | ok a => exact h a rfl
  unfold handleSendMessage getCommunity
  rw [bind_assoc]
  apply settles_lookupCommunity
  refine hKept fun community _ => hKept fun _ _ => hKept fun _ _ => hKept fun _ _ => ?_
  unfold Settles
  have hRun : (execute (fun db => db.insertMessage
      { communityId := communityId, channelId := channelId, senderPseudonym := sender
        ciphertext := ciphertext, mekGeneration := min mekGeneration.toNat i64Max
        timestamp := env.timestampNow }) : ServerM Bool).run s = .ok _ _ := rfl
  rw [run_bind_of_ok _ hRun]
  cases s.dbFaults.headD false with
  | true => rfl
  | false => rfl

/-- An execution stores the message it carries, if any, and nothing else does. -/
theorem serve_messageRow (incoming : IncomingRequest) (s : ServerState) :
    (serve s incoming).db.serverMessages = s.db.serverMessages ++
      (Result.value? (incoming.answer s)).elim [] fun _ => incoming.messageRow.toList := by
  by_cases hSend : incoming.request.IsSend
  · obtain ⟨env, sender, routing, request⟩ := incoming
    obtain ⟨channelId, ciphertext, mekGeneration, rfl⟩ : ∃ channelId ciphertext mekGeneration,
        request = .member (.sendMessage channelId ciphertext mekGeneration) := by
      cases request with
      | join => exact hSend.elim
      | member request =>
        cases request with
        | sendMessage channelId ciphertext mekGeneration => exact ⟨_, _, _, rfl⟩
        | _ => exact hSend.elim
    unfold serve IncomingRequest.answer IncomingRequest.messageRow
    rw [dispatchRequest]
    cases hTarget : resolveCommunityId routing with
    | none => exact (List.append_nil _).symm
    | some communityId =>
      have hStores := handleSendMessage_stores env communityId sender channelId ciphertext mekGeneration s
      simp only [orThrow, Option.elim_some, ofExcept_ok_bind, handleRequest]
      rcases hStores.cases with ⟨response, t, hRun, hRow⟩ | ⟨e, t, hRun, hSame⟩
      · rw [hRun]
        exact hRow
      · rw [hRun]
        exact hSame.trans (List.append_nil _).symm
  · rw [serve_messages hSend]
    have hNone : incoming.messageRow = none := by
      unfold IncomingRequest.messageRow
      split
      · rename_i hRequest
        rw [hRequest] at hSend
        exact absurd trivial hSend
      · rfl
    rw [hNone]
    cases Result.value? (incoming.answer s) <;> exact (List.append_nil _).symm

theorem envelopes_answer (execution : Execution) :
    (ledger.answer execution).envelopes = ledger.envelopes ++
      (Result.value? (execution.incoming.answer ledger.server)).elim [] fun _ => execution.envelope.toList := by
  unfold Ledger.envelopes Ledger.answer
  rw [List.filterMap_append]
  cases Result.value? (execution.incoming.answer ledger.server) with
  | none => rfl
  | some _ => cases hEnvelope : execution.envelope <;> simp [hEnvelope]

theorem step_refused {delivery : Delivery} {e : RpcError} (h : gateway.openRequest delivery = .error e) :
    ledger.step gateway (.deliver delivery) = ledger := by
  simp only [Ledger.step, h]

theorem step_opened {delivery : Delivery} {envelope : MessageEnvelope} {incoming : IncomingRequest}
    (h : gateway.openRequest delivery = .ok (envelope, incoming)) :
    ledger.step gateway (.deliver delivery) = ledger.answer ⟨some envelope, incoming⟩ := by
  simp only [Ledger.step, h]

/-- The envelopes executed stay in the ledger. -/
theorem envelopes_step (event : LedgerEvent) : ledger.envelopes <+: (ledger.step gateway event).envelopes := by
  cases event with
  | deliver delivery =>
    cases hOpen : gateway.openRequest delivery with
    | error e =>
      rw [step_refused hOpen]
    | ok opened =>
      rw [step_opened hOpen, envelopes_answer]
      exact List.prefix_append _ _
  | event event =>
    cases event with
    | request incoming =>
      change _ <+: (ledger.answer ⟨none, incoming⟩).envelopes
      rw [envelopes_answer]
      exact List.prefix_append _ _
    | _ => exact List.prefix_rfl

theorem repeats_iff {delivery : Delivery} {envelope : MessageEnvelope} {incoming : IncomingRequest}
    (h : gateway.openRequest delivery = .ok (envelope, incoming)) :
    ledger.Repeats gateway (.deliver delivery) ↔
      envelope ∈ ledger.envelopes ∧ incoming.Passes ledger.server := by
  constructor
  · rintro ⟨_, _, hOpen, hRepeats⟩
    rw [h] at hOpen
    cases hOpen
    exact hRepeats
  · exact fun hRepeats => ⟨envelope, incoming, h, hRepeats⟩

/-- A step keeps the envelopes distinct exactly when it repeats none of them. -/
theorem nodup_step_iff (hNodup : ledger.envelopes.Nodup) (event : LedgerEvent) :
    (ledger.step gateway event).envelopes.Nodup ↔ ¬ledger.Repeats gateway event := by
  cases event with
  | deliver delivery =>
    cases hOpen : gateway.openRequest delivery with
    | error e =>
      rw [step_refused hOpen]
      refine iff_of_true hNodup ?_
      rintro ⟨_, _, hOk, _⟩
      rw [hOpen] at hOk
      cases hOk
    | ok opened =>
      obtain ⟨envelope, incoming⟩ := opened
      rw [step_opened hOpen, repeats_iff hOpen, envelopes_answer, ← value?_isSome_iff]
      cases Result.value? (incoming.answer ledger.server) with
      | none => simpa using hNodup
      | some response =>
        simp only [Option.elim_some, Option.toList_some, List.nodup_append, hNodup, List.nodup_singleton,
          List.mem_singleton, forall_eq, true_and, Option.isSome_some, and_true]
        exact ⟨fun hFresh hMember => hFresh envelope hMember rfl, fun hFresh other hOther hSame =>
          hFresh (hSame ▸ hOther)⟩
  | event event =>
    refine iff_of_true ?_ id
    cases event with
    | request incoming =>
      change (ledger.answer ⟨none, incoming⟩).envelopes.Nodup
      rw [envelopes_answer]
      cases Result.value? (incoming.answer ledger.server) <;> simpa using hNodup
    | _ => exact hNodup

theorem messages_answer (execution : Execution)
    (h : ledger.server.db.serverMessages = ledger.executed.filterMap fun execution => execution.incoming.messageRow) :
    (ledger.answer execution).server.db.serverMessages =
      (ledger.answer execution).executed.filterMap fun execution => execution.incoming.messageRow := by
  unfold Ledger.answer
  rw [serve_messageRow, h, List.filterMap_append]
  cases Result.value? (execution.incoming.answer ledger.server) with
  | none => rfl
  | some response => cases hRow : execution.incoming.messageRow <;> simp [hRow]

/-- Each message in the history belongs to one execution. -/
theorem messages_step (event : LedgerEvent)
    (h : ledger.server.db.serverMessages = ledger.executed.filterMap fun execution => execution.incoming.messageRow) :
    (ledger.step gateway event).server.db.serverMessages =
      (ledger.step gateway event).executed.filterMap fun execution => execution.incoming.messageRow := by
  cases event with
  | deliver delivery =>
    cases hOpen : gateway.openRequest delivery with
    | error e =>
      rw [step_refused hOpen]
      exact h
    | ok opened =>
      rw [step_opened hOpen]
      exact messages_answer _ h
  | event event =>
    cases event with
    | request incoming => exact messages_answer _ h
    | restart => exact h
    | unhost => exact (handleEvent_messages ledger.server (by rintro _ ⟨⟩)).trans h
    | host => exact (handleEvent_messages ledger.server (by rintro _ ⟨⟩)).trans h

end

/-! ## Runs -/

section
variable {gateway : Gateway}

theorem envelopes_final (ledger : Ledger) (events : List LedgerEvent) :
    ledger.envelopes <+: (final (Ledger.step gateway) ledger events).envelopes := by
  induction events generalizing ledger with
  | nil => exact List.prefix_rfl
  | cons event rest ih => exact (envelopes_step event).trans (ih _)

theorem nodup_final_iff {ledger : Ledger} (hNodup : ledger.envelopes.Nodup) (events : List LedgerEvent) :
    (final (Ledger.step gateway) ledger events).envelopes.Nodup ↔
      Along (Ledger.step gateway) (fun ledger event => ¬ledger.Repeats gateway event) ledger events := by
  induction events generalizing ledger with
  | nil => exact iff_of_true hNodup trivial
  | cons event rest ih =>
    rw [final_cons, Along]
    by_cases hRepeats : ledger.Repeats gateway event
    · -- An envelope that occurs twice now occurs twice for good.
      refine iff_of_false (fun hFinal => ?_) fun hAlong => hAlong.1 hRepeats
      have hStep := hFinal.sublist (envelopes_final (ledger.step gateway event) rest).sublist
      exact (nodup_step_iff hNodup event).mp hStep hRepeats
    · rw [ih ((nodup_step_iff hNodup event).mpr hRepeats)]
      exact (and_iff_right hRepeats).symm

end

/-! ## A message that arrives twice -/

namespace Reference

open Signal.Reference Client.Reference

/-- SendMessage as serde writes it. -/
def sendText : Bytes :=
  ascii "\x7b\"type\":\"SendMessage\",\"data\":\x7b\"channel_id\":\"general\",\"ciphertext\":[7],\"mek_generation\":1\x7d\x7d"

def gateway : Gateway where
  prims := primitives
  wire := wire
  parseRequest payload :=
    if payload = sendText then .ok (.member (.sendMessage "general" [7] 1)) else .error "unknown request"

/-- What the creator of the community signs. -/
def sentEnvelope : MessageEnvelope := buildEnvelopeFromSecret primitives (Signal.Reference.sampleKey 3) 1000 [9] sendText

def sentDelivery : Delivery where
  env := sampleEnvironment
  routing := { ipcCommunityId := none, routeCommunityId := some "c", memberCommunityId := none }
  raw := wire.encodeEnvelope sentEnvelope

def sentRequest : IncomingRequest where
  env := sampleEnvironment
  sender := address 3
  routing := sentDelivery.routing
  request := .member (.sendMessage "general" [7] 1)

theorem openRequest_sent : gateway.openRequest sentDelivery = .ok (sentEnvelope, sentRequest) := by
  have hSize : sentEnvelope.dataSize ≤ 33554432 := by decide
  have hOpened : processIncoming primitives wire sentDelivery.raw = .ok sentEnvelope :=
    processIncoming_encoded signaturesVerify rfl (wire_roundTrips sentEnvelope hSize)
  unfold Gateway.openRequest
  change (do let envelope ← (processIncoming primitives wire sentDelivery.raw).mapError _; _) = _
  rw [hOpened]
  rfl

def hostedLedger : Ledger :=
  (Ledger.initial []).step gateway (.event
    (.host sampleEnvironment "c" "Community" (address 3) "Alice" (.ok ())))

end Reference

end Rekindle.Server
