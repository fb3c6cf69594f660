import Rekindle.Library.Runs
import Rekindle.Server.HostSections
import Rekindle.Server.SectionChanges

/-! # Overlapping calls of `host_community`

A call looks for the community, loads it and puts it into memory in sections of their own. If the
community is still not hosted when a call puts it there, nothing that requests have done in memory is
ever lost.
-/
namespace Rekindle.Server
set_option autoImplicit false
open Fallible Interleaving Runs

inductive ServerTask where
  | host (task : HostTask)
  /-- A request about the roster or the key, in sections. -/
  | roster (task : Task)
  /-- A request that nothing interrupts. -/
  | request (incoming : IncomingRequest)

inductive ServerCall where
  | host (call : HostCall)
  | roster (call : RosterCall)
  | request (incoming : IncomingRequest)

inductive ServerAnswer where
  | hosted
  | response (response : CommunityResponse)

inductive ServerFailure where
  | host (e : HostError)
  | rpc (e : RpcError)

def ServerCall.start : ServerCall → ServerTask
  | .host call => .host call.start
  | .roster call => .roster call.start
  | .request incoming => .request incoming

abbrev SectionM := EStateM ServerFailure ServerState

def ServerTask.advance : ServerTask → SectionM (ServerTask ⊕ ServerAnswer)
  | .host task => do
    let result ← EStateM.adaptExcept .host task.advance
    pure (result.map .host fun _ => .hosted)
  | .roster task => do
    let result ← EStateM.adaptExcept .rpc task.advance
    pure (result.map .roster .response)
  | .request incoming => do
    let response ← EStateM.adaptExcept .rpc
      (dispatchRequest incoming.env incoming.sender incoming.routing incoming.request)
    pure (.inr (.response response))

/-! ## What is recorded -/

structure HostingHistory where
  pool : Pool ServerState ServerTask
  /-- How often the community has been put into memory. -/
  instances : Nat
  /-- A call for the community has been answered `Ok`. -/
  answered : Bool
  /-- What each request has made of the community in memory, the last one first. -/
  changes : List (HostedCommunity × HostedCommunity)
  /-- Who has left since, or before it was hosted. -/
  departed : List String

/-- The section after which a call is answered `Ok`. -/
def HostTask.finishes (task : HostTask) (state : ServerState) : Bool :=
  task.stage = .insert ∨ task.stage = .check ∧ (state.hosted.lookup task.call.communityId).isSome

/-- Who leaves the community in the section. -/
def ServerTask.departing (communityId : String) : ServerTask → Option String
  | .host _ => none
  | .roster task =>
    match task.job with
    | .depart leaver .remove => if task.communityId = communityId then some leaver else none
    | _ => none
  | .request incoming =>
    match incoming.request with
    | .member .leave => if incoming.target = some communityId then some incoming.sender else none
    | _ => none

def changeOf : Option HostedCommunity → Option HostedCommunity → List (HostedCommunity × HostedCommunity)
  | some before, some after => if after = before then [] else [(before, after)]
  | _, _ => []

def rosterOfHosted (community : Option HostedCommunity) : List String :=
  community.elim [] fun community => rosterOf community.members

def recordHosting (communityId : String) (history : HostingHistory) (turn : Turn ServerCall) :
    HostingHistory :=
  let pool := take ServerCall.start ServerTask.advance history.pool turn
  let before := history.pool.shared.hosted.lookup communityId
  let after := pool.shared.hosted.lookup communityId
  match turnOf history.pool turn with
  | none => { history with pool := pool }
  | some (.host task) =>
    if task.call.communityId = communityId then
      { history with
        pool := pool
        instances := history.instances + if task.stage = .insert then 1 else 0
        answered := history.answered || task.finishes history.pool.shared }
    else { history with pool := pool }
  | some task =>
    { history with
      pool := pool
      changes := changeOf before after ++ history.changes
      departed := (history.departed ++ (task.departing communityId).toList).filter fun pseudonym =>
        decide (pseudonym ∉ rosterOfHosted after) }

/-- No task runs yet, and no request has changed anything. -/
def HostingHistory.start (communityId : String) (state : ServerState) : HostingHistory :=
  { pool := { shared := state, running := [] }
    instances := if (state.hosted.lookup communityId).isSome then 1 else 0
    answered := false, changes := [], departed := [] }

/-- Each change starts from what the one before has left, and the last one has left the community. -/
def Chained : List (HostedCommunity × HostedCommunity) → Option HostedCommunity → Prop
  | [], _ => True
  | (before, after) :: earlier, community => community = some after ∧ Chained earlier (some before)

structure NothingLost (communityId : String) (history : HostingHistory) : Prop where
  one : history.instances =
    if (history.pool.shared.hosted.lookup communityId).isSome then 1 else 0
  hosted : history.answered = true → history.instances = 1
  changes : Chained history.changes (history.pool.shared.hosted.lookup communityId)
  departed : ∀ pseudonym ∈ history.departed,
    pseudonym ∉ rosterOfHosted (history.pool.shared.hosted.lookup communityId)

/-- When a call puts the community into memory, it is not there, and nobody in it has left. -/
def OrderlyHosting (communityId : String) (history : HostingHistory) (turn : Turn ServerCall) : Prop :=
  match turnOf history.pool turn with
  | some (.host task) => task.call.communityId = communityId → task.stage = .insert →
    history.pool.shared.hosted.lookup communityId = none ∧
      ∀ pseudonym ∈ rosterOf task.community.members, pseudonym ∉ history.departed
  | _ => True

instance (communityId : String) (history : HostingHistory) (turn : Turn ServerCall) :
    Decidable (OrderlyHosting communityId history turn) := by
  unfold OrderlyHosting
  split <;> infer_instance

/-! ## What sections do to the hosted communities -/

/-- The section hosts nothing new and stops hosting nothing. -/
def SameHosts (before after : ServerState) : Prop :=
  ∀ communityId, (after.hosted.lookup communityId).isSome = (before.hosted.lookup communityId).isSome

section
variable {ε α : Type}

theorem sameHosted_registerCreator (env : Environment) (communityId creatorKey creatorDisplayName : String)
    (community : HostedCommunity) :
    Keeps SameHosted (registerCreator env communityId creatorKey creatorDisplayName community) := by
  unfold registerCreator
  split
  · exact (sameHosted_insertMemberRows _ _ _ _ _).bind fun _ =>
      (sameHosted_executeIgnoring _).bind fun _ => keeps_pure _
  · exact keeps_pure _

theorem state_adaptExcept {ε' σ : Type} (f : ε → ε') (x : EStateM ε σ α) (s : σ) :
    Result.state ((EStateM.adaptExcept f x).run s) = Result.state (x.run s) := by
  unfold EStateM.adaptExcept EStateM.run
  dsimp only
  cases x s <;> rfl

end

/-- Only its last section puts a community into memory. -/
theorem hosted_of_loading {task : HostTask} (h : task.stage ≠ .insert) : Keeps SameHosted task.advance := by
  unfold HostTask.advance
  split
  next => exact Keeps.bind (fun _ => rfl) fun _ => keeps_pure _
  next => exact (sameHosted_executeIgnoring _).bind fun _ => keeps_pure _
  next => exact (sameHosted_query _).bind fun _ => keeps_pure _
  next => exact ((sameHosted_executeIgnoring _).bind fun _ => keeps_pure _).bind fun _ => keeps_pure _
  next => exact (sameHosted_load _).bind fun _ => keeps_pure _
  next => exact (sameHosted_load _).bind fun _ => keeps_pure _
  next =>
    refine Keeps.bind (Keeps.bind (keeps_list_forM _ fun _ => ?_) fun _ => keeps_pure _) fun _ => keeps_pure _
    exact (sameHosted_execute _).bind fun _ => keeps_ofExcept _
  next => exact (sameHosted_load _).bind fun _ => keeps_pure _
  next => exact (keeps_ofExcept _).bind fun _ => keeps_pure _
  next =>
    exact ((sameHosted_query _).bind fun _ => (sameHosted_query _).bind fun _ => keeps_pure _).bind
      fun _ => keeps_pure _
  next => exact (sameHosted_registerCreator _ _ _ _ _).bind fun _ => keeps_pure _
  next hStage => exact absurd hStage h

theorem section_sameHosts (task : Task) (s : ServerState) :
    SameHosts s (Result.state (task.advance.run s)) := by
  intro communityId
  rcases section_writes task s with hSame | hWrites
  · rw [show (Result.state (task.advance.run s)).hosted = s.hosted from hSame]
  · obtain ⟨community, hCommunity, hHosted⟩ := hWrites.written
    rw [hHosted]
    by_cases hHere : communityId = task.communityId
    · rw [hHere, Finmap.lookup_insert, hCommunity]
      rfl
    · rw [Finmap.lookup_insert_of_ne _ hHere]

theorem serve_sameHosts (incoming : IncomingRequest) (s : ServerState) :
    SameHosts s (serve s incoming) := by
  intro communityId
  cases hCommunity : s.hosted.lookup communityId with
  | none => rw [serve_lookup_none s incoming hCommunity]
  | some community =>
    obtain ⟨after, hAfter, -⟩ := serve_changed s incoming hCommunity
    rw [hAfter]
    rfl

/-! ## Turns -/

section
variable {communityId : String} {history : HostingHistory} {turn : Turn ServerCall}

theorem changes_after {before after : Option HostedCommunity}
    {changes : List (HostedCommunity × HostedCommunity)} (h : Chained changes before)
    (hSame : after.isSome = before.isSome) : Chained (changeOf before after ++ changes) after := by
  cases before with
  | none =>
    cases after with
    | none => exact h
    | some after => cases hSame
  | some before =>
    cases after with
    | none => cases hSame
    | some after =>
      unfold changeOf
      dsimp only
      split
      · next hEq =>
        rw [hEq]
        exact h
      · exact ⟨rfl, h⟩

theorem chained_none {changes : List (HostedCommunity × HostedCommunity)} (h : Chained changes none) :
    changes = [] := by
  cases changes with
  | nil => rfl
  | cons change earlier => exact absurd h.1 (by simp)

theorem shared_of_hosting {task : HostTask} (hTurn : turnOf history.pool turn = some (.host task)) :
    (take ServerCall.start ServerTask.advance history.pool turn).shared =
      Result.state (task.advance.run history.pool.shared) := by
  rw [shared_of_turn hTurn, ServerTask.advance, state_bind_pure, state_adaptExcept]

theorem sameHosts_of_request {task : ServerTask} (hTurn : turnOf history.pool turn = some task)
    (hRequest : ∀ hosting, task ≠ .host hosting) :
    SameHosts history.pool.shared (take ServerCall.start ServerTask.advance history.pool turn).shared := by
  rw [shared_of_turn hTurn]
  cases task with
  | host hosting => exact absurd rfl (hRequest hosting)
  | roster task =>
    rw [ServerTask.advance, state_bind_pure, state_adaptExcept]
    exact section_sameHosts task _
  | request incoming =>
    rw [ServerTask.advance, state_bind_pure, state_adaptExcept]
    exact serve_sameHosts incoming _

/-- The turn of a request. -/
theorem NothingLost.request (h : NothingLost communityId history) {task : ServerTask}
    (hTurn : turnOf history.pool turn = some task) (hRequest : ∀ hosting, task ≠ .host hosting) :
    NothingLost communityId (recordHosting communityId history turn) := by
  have hHosts := sameHosts_of_request hTurn hRequest communityId
  have hRecord : recordHosting communityId history turn =
      { history with
        pool := take ServerCall.start ServerTask.advance history.pool turn
        changes := changeOf (history.pool.shared.hosted.lookup communityId)
          ((take ServerCall.start ServerTask.advance history.pool turn).shared.hosted.lookup communityId) ++
            history.changes
        departed := (history.departed ++ (task.departing communityId).toList).filter fun pseudonym =>
          decide (pseudonym ∉ rosterOfHosted ((take ServerCall.start ServerTask.advance history.pool
            turn).shared.hosted.lookup communityId)) } := by
    unfold recordHosting
    rw [hTurn]
    cases task with
    | host hosting => exact absurd rfl (hRequest hosting)
    | roster task => rfl
    | request incoming => rfl
  rw [hRecord]
  constructor
  · rw [hHosts]
    exact h.one
  · exact h.hosted
  · exact changes_after h.changes hHosts
  · intro pseudonym hDeparted
    exact of_decide_eq_true (List.mem_filter.mp hDeparted).2

/-- The turn of a call that only looks or loads. -/
theorem NothingLost.loading (h : NothingLost communityId history) {task : HostTask}
    (hTurn : turnOf history.pool turn = some (.host task)) (hStage : task.stage ≠ .insert) :
    NothingLost communityId (recordHosting communityId history turn) := by
  have hSame : (take ServerCall.start ServerTask.advance history.pool turn).shared.hosted =
      history.pool.shared.hosted := by
    rw [shared_of_hosting hTurn]
    exact hosted_of_loading hStage history.pool.shared
  unfold recordHosting
  rw [hTurn]
  dsimp only
  split
  · next hHere =>
    constructor
    · dsimp only
      rw [hSame]
      exact h.one
    · intro hAnswered
      rw [Bool.or_eq_true] at hAnswered
      dsimp only
      rcases hAnswered with hBefore | hFinishes
      · exact h.hosted hBefore
      · rw [Nat.add_zero, h.one]
        have hFound : (history.pool.shared.hosted.lookup communityId).isSome = true := by
          rcases of_decide_eq_true hFinishes with hInsert | ⟨-, hFound⟩
          · exact absurd hInsert hStage
          · rwa [hHere] at hFound
        rw [if_pos hFound]
    · dsimp only
      rw [hSame]
      exact h.changes
    · dsimp only
      rw [hSame]
      exact h.departed
  · refine ⟨?_, h.hosted, ?_, ?_⟩
    · dsimp only
      rw [hSame]
      exact h.one
    · dsimp only
      rw [hSame]
      exact h.changes
    · dsimp only
      rw [hSame]
      exact h.departed

/-- The turn in which a call puts its community into memory. -/
theorem NothingLost.inserting (h : NothingLost communityId history)
    (hOrderly : OrderlyHosting communityId history turn) {task : HostTask}
    (hTurn : turnOf history.pool turn = some (.host task)) (hStage : task.stage = .insert) :
    NothingLost communityId (recordHosting communityId history turn) := by
  have hInserted : (take ServerCall.start ServerTask.advance history.pool turn).shared.hosted =
      history.pool.shared.hosted.insert task.call.communityId task.community := by
    rw [shared_of_hosting hTurn]
    unfold HostTask.advance
    rw [hStage]
    rfl
  unfold recordHosting
  rw [hTurn]
  dsimp only
  split
  · next hHere =>
    have hCondition : history.pool.shared.hosted.lookup communityId = none ∧
        ∀ pseudonym ∈ rosterOf task.community.members, pseudonym ∉ history.departed := by
      unfold OrderlyHosting at hOrderly
      rw [hTurn] at hOrderly
      exact hOrderly hHere hStage
    have hFound : (history.pool.shared.hosted.insert task.call.communityId task.community).lookup
        communityId = some task.community := by
      rw [hHere]
      exact Finmap.lookup_insert _
    have hNone : history.instances = 0 := by
      rw [h.one, hCondition.1]
      rfl
    constructor
    · dsimp only
      rw [hInserted, hFound, hNone]
      rfl
    · intro _
      dsimp only
      rw [hNone]
    · dsimp only
      have hChanges := h.changes
      rw [hCondition.1] at hChanges
      rw [chained_none hChanges]
      trivial
    · dsimp only
      rw [hInserted, hFound]
      exact fun pseudonym hDeparted hMember => hCondition.2 pseudonym hMember hDeparted
  · next hElsewhere =>
    have hSame : (history.pool.shared.hosted.insert task.call.communityId task.community).lookup
        communityId = history.pool.shared.hosted.lookup communityId :=
      Finmap.lookup_insert_of_ne _ (Ne.symm hElsewhere)
    refine ⟨?_, h.hosted, ?_, ?_⟩
    · dsimp only
      rw [hInserted, hSame]
      exact h.one
    · dsimp only
      rw [hInserted, hSame]
      exact h.changes
    · dsimp only
      rw [hInserted, hSame]
      exact h.departed

theorem nothingLost_turn (h : NothingLost communityId history)
    (hOrderly : OrderlyHosting communityId history turn) :
    NothingLost communityId (recordHosting communityId history turn) := by
  cases hTurn : turnOf history.pool turn with
  | none =>
    have hShared : (take ServerCall.start ServerTask.advance history.pool turn).shared =
        history.pool.shared := shared_of_no_turn hTurn
    unfold recordHosting
    rw [hTurn]
    constructor
    · dsimp only
      rw [hShared]
      exact h.one
    · exact h.hosted
    · dsimp only
      rw [hShared]
      exact h.changes
    · dsimp only
      rw [hShared]
      exact h.departed
  | some task =>
    cases task with
    | host task =>
      by_cases hStage : task.stage = .insert
      · exact h.inserting hOrderly hTurn hStage
      · exact h.loading hTurn hStage
    | roster task => exact h.request hTurn fun _ => ServerTask.noConfusion
    | request incoming => exact h.request hTurn fun _ => ServerTask.noConfusion

end

/-- There is one instance of a community that has been hosted, and memory is what the requests have
made of it. -/
theorem hosting_loses_nothing {communityId : String} {state : ServerState} {turns : List (Turn ServerCall)}
    (hOrderly : Along (recordHosting communityId) (OrderlyHosting communityId)
      (HostingHistory.start communityId state) turns) :
    NothingLost communityId (final (recordHosting communityId) (HostingHistory.start communityId state) turns) := by
  have hStart : NothingLost communityId (HostingHistory.start communityId state) :=
    ⟨rfl, Bool.noConfusion, trivial, fun _ h => absurd h List.not_mem_nil⟩
  exact hOrderly.invariant (NothingLost communityId) (fun _ _ h hTurn => nothingLost_turn h hTurn) hStart

/-! ## Two calls for one community -/

def hostSample : HostCall :=
  { env := sampleEnvironment, communityId := "c", name := "Community", creatorKey := "alice"
    creatorDisplayName := "Alice", setup := .ok () }

/-- A restarted server that has hosted the community before. -/
def restarted : ServerState := handleEvent hostedByAlice .restart

/-- The start-up and the socket host the community. The call of the socket has the turns of `early`
before the one of the start-up runs to its end; then Bob joins, and the other call has those of `late`. -/
def hostedByBoth (early late : Nat) : HostingHistory :=
  final (recordHosting "c") (HostingHistory.start "c" restarted)
    ([.start (.host hostSample), .start (.host hostSample)] ++ List.replicate early (.advance 1) ++
      List.replicate 11 (.advance 0) ++
      [.start (.request (sampleRequest "bob" (.join "bob" "Bob" none))), .advance 1] ++
      List.replicate late (.advance 0))

/-- The second call has looked for the community before the first one puts it into memory, and puts
what it has loaded over it. -/
theorem second_call_loses_join :
    "bob" ∈ rosterOfHosted ((hostedByBoth 9 0).pool.shared.hosted.lookup "c") ∧
    "bob" ∉ rosterOfHosted ((hostedByBoth 9 2).pool.shared.hosted.lookup "c") ∧
    ¬∀ (communityId : String) (state : ServerState) (turns : List (Turn ServerCall)),
      NothingLost communityId (final (recordHosting communityId) (HostingHistory.start communityId state) turns) := by
  refine ⟨by decide +kernel, by decide +kernel, fun hClaim => ?_⟩
  have hTwice : (hostedByBoth 9 2).answered = true ∧ (hostedByBoth 9 2).instances = 2 := by decide +kernel
  have hOnce := (hClaim "c" restarted _).hosted hTwice.1
  rw [← hostedByBoth, hTwice.2] at hOnce
  cases hOnce

/-- The second call looks for the community after the first has ended, and finds it. -/
theorem second_call_finds_community : NothingLost "c" (hostedByBoth 0 1) :=
  hosting_loses_nothing (by decide +kernel)

end Rekindle.Server
