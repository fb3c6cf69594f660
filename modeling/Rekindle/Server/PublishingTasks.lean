import Rekindle.Server.PublishedParts

/-! # Tasks that publish

A publication takes its snapshot under the lock and writes it to the record without it. Requests, the
tasks that they spawn and the keepalive publish side by side, and nothing orders their writes.
-/
namespace Rekindle.Server
set_option autoImplicit false
open CapnpCodec Fallible Interleaving
open Protocol (Bytes)

/-- The server, and the record of each community. -/
structure PublishedState where
  server : ServerState
  records : String → Subkeys

abbrev PublishM := EStateM RpcError PublishedState

def onServer {α : Type} (x : ServerM α) : PublishM α := fun state =>
  match x.run state.server with
  | .ok a server => .ok a { state with server := server }
  | .error e server => .error e { state with server := server }

def setValue (records : String → Subkeys) (communityId : String) (subkey : Nat) (data : Bytes) :
    String → Subkeys :=
  Function.update records communityId (Function.update (records communityId) subkey (some data))

/-- Publications in a row, each with its community. -/
abbrev PublicationQueue := List (String × Publication)

inductive PublishingTask where
  /-- A request in sections. -/
  | handle (task : Task)
  | request (env : Environment) (communityId sender : String) (request : MemberRequest)
    (whole : request.job? sender = none)
  /-- `handle_update_community`, after its first section. -/
  | readName (communityId : String) (now : UInt64)
  /-- The keepalive, with the communities in the order in which the map gives them. -/
  | collect (order : List String) (now : UInt64)
  /-- Takes the next snapshot; when there is none to take, the request goes on. -/
  | publish (queue : PublicationQueue) (now : UInt64) (after : Option Task)
  | write (communityId : String) (publication : Publication) (data : Bytes) (queue : PublicationQueue)
    (now : UInt64) (after : Option Task)

/-! ## Sections -/

def Database.communityName (communityId : String) (db : Database) : Option String :=
  (db.hostedCommunities.find? fun row => row.id == communityId).map CommunityRow.name

/-- The names come from the database. -/
def collectNames : List String → ServerM (List (String × String))
  | [] => pure []
  | communityId :: rest => do
    let name ← query (Database.communityName communityId)
    let names ← collectNames rest
    pure ((communityId, name.join.getD "") :: names)

def collectHosted (order : List String) : ServerM (List (String × String)) := do
  let state ← get
  collectNames (order.filter fun communityId => (state.hosted.lookup communityId).isSome)

/-- The keepalive leaves the key bundle as it is. -/
def keepalivePublications (communityId name : String) : PublicationQueue :=
  [(communityId, .metadata name), (communityId, .channels), (communityId, .memberRoster)]

/-- What an answered request goes on with. -/
def MemberRequest.publishes (request : MemberRequest) (communityId : String) (now : UInt64) :
    PublishingTask ⊕ Unit :=
  match request with
  | .createChannel _ _ | .deleteChannel _ | .renameChannel _ _ =>
    .inl (.publish [(communityId, .channels)] now none)
  | .updateCommunity _ _ => .inl (.readName communityId now)
  | _ => .inr ()

def Task.publishingQueue (task : Task) : PublicationQueue :=
  task.publications.map fun publication => (task.communityId, publication)

section
variable (ownerKey : String → String)

def takeSnapshot (communityId : String) (publication : Publication) (now : UInt64) :
    PublishM (Option Bytes) := do
  let state ← get
  pure (publication.snapshot communityId (ownerKey communityId) now state.server)

def PublishingTask.advance : PublishingTask → PublishM (PublishingTask ⊕ Unit)
  | .handle task => do
    let result ← onServer task.advance
    pure (result.map (fun rest => .publish task.publishingQueue task.env.now (some rest)) fun _ => ())
  | .request env communityId sender asked _ => do
    let _ ← onServer (handleRequest env sender communityId asked)
    pure (asked.publishes communityId env.now)
  | .readName communityId now => do
    let community ← onServer (lookupCommunity communityId)
    pure (community.elim (.inr ()) fun community =>
      .inl (.publish [(communityId, .metadata community.name)] now none))
  | .collect order now => do
    let names ← onServer (collectHosted order)
    pure (.inl (.publish (names.flatMap fun (communityId, name) => keepalivePublications communityId name)
      now none))
  | .publish [] _ none => pure (.inr ())
  | .publish [] _ (some task) => pure (.inl (.handle task))
  | .publish ((communityId, publication) :: queue) now after => do
    let data ← takeSnapshot ownerKey communityId publication now
    pure (.inl (data.elim (.publish queue now after) fun data =>
      .write communityId publication data queue now after))
  | .write communityId publication data queue now after => do
    modify fun state =>
      { state with records := setValue state.records communityId publication.subkey data }
    pure (.inl (.publish queue now after))

end

/-! ## Calls -/

inductive PublishingCall where
  | request (incoming : IncomingRequest)
  | keepalive (order : List String) (now : UInt64)

/-- A request that is refused at once goes on with nothing. -/
def PublishingTask.refused (now : UInt64) : PublishingTask := .publish [] now none

def PublishingCall.start : PublishingCall → PublishingTask
  | .keepalive order now => .collect order now
  | .request incoming =>
    match incoming.target, incoming.request with
    | none, _ => .refused incoming.env.now
    | some communityId, .join pseudonym displayName routeBlob =>
      if pseudonym = incoming.sender then
        .handle ⟨incoming.env, communityId, incoming.sender,
          .join displayName routeBlob (.find incoming.routing.ipcCommunityId.isSome)⟩
      else .refused incoming.env.now
    | some communityId, .member asked =>
      match hJob : asked.job? incoming.sender with
      | some job => .handle ⟨incoming.env, communityId, incoming.sender, job⟩
      | none => .request incoming.env communityId incoming.sender asked hJob

end Rekindle.Server
