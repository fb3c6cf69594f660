import Rekindle.Library.Runs
import Rekindle.Server.SectionEffects

/-! # Overlapping joins and departures

Roster, bans and member rows agree once all tasks have ended, if at each write what the task found
in its earlier sections is still so. Between the sections it may cease to be so, and then they
disagree for good.
-/
namespace Rekindle.Server
set_option autoImplicit false
open Fallible Interleaving Runs

/-- Running requests, and who has been made the creator of a community so far. -/
structure RosterHistory where
  pool : Pool ServerState Task
  creators : List String

/-- Whom the section makes the creator of the community. -/
def Task.madeCreator (communityId : String) (task : Task) : Option String :=
  match task.job with
  | .join _ _ (.push true) => if task.communityId = communityId then some task.sender else none
  | _ => none

def recordTurn (communityId : String) (history : RosterHistory) (turn : Turn RosterCall) :
    RosterHistory :=
  { pool := take RosterCall.start Task.advance history.pool turn
    creators := history.creators ++
      ((turnOf history.pool turn).bind (Task.madeCreator communityId)).toList }

/-- No task runs yet. -/
def RosterHistory.start (state : ServerState) (creators : List String) : RosterHistory :=
  { pool := { shared := state, running := [] }, creators := creators }

structure Consistent (communityId : String) (state : ServerState) (creators : List String)
    (standing : Standing) : Prop where
  hosted : state.standing communityId = some standing
  banned : ∀ pseudonym, (communityId, pseudonym) ∈ state.db.banKeys → pseudonym ∉ standing.roster
  once : standing.roster.Nodup
  creator : ∀ first ∈ creators, ∀ second ∈ creators, first = second
  stored : ∀ pseudonym, (communityId, pseudonym) ∈ state.db.memberKeys ↔ pseudonym ∈ standing.roster

/-- What a join has found holds when it writes to the roster. -/
structure JoinsOrderly (communityId sender : String) (isFirstMember : Bool) (history : RosterHistory)
    (standing : Standing) : Prop where
  absent : sender ∉ standing.roster
  notBanned : (communityId, sender) ∉ history.pool.shared.db.banKeys
  stored : (communityId, sender) ∈ history.pool.shared.db.memberKeys
  first : isFirstMember = true → ∀ creator ∈ history.creators, creator = sender

/-- What the task's earlier sections have found or done still stands. -/
def Task.Orderly (communityId : String) (history : RosterHistory) (standing : Standing) (task : Task) :
    Prop :=
  match task.job with
  | .join _ _ (.push isFirstMember) =>
    JoinsOrderly communityId task.sender isFirstMember history standing
  | .depart leaver .remove => (communityId, leaver) ∉ history.pool.shared.db.memberKeys
  | _ => True

def Orderly (communityId : String) (history : RosterHistory) (turn : Turn RosterCall) : Prop :=
  ∀ task ∈ turnOf history.pool turn, task.communityId = communityId →
    ∀ standing ∈ history.pool.shared.standing communityId, task.Orderly communityId history standing

theorem joinsOrderly_iff {communityId sender : String} {isFirstMember : Bool} {history : RosterHistory}
    {standing : Standing} :
    JoinsOrderly communityId sender isFirstMember history standing ↔
      sender ∉ standing.roster ∧ (communityId, sender) ∉ history.pool.shared.db.banKeys ∧
        (communityId, sender) ∈ history.pool.shared.db.memberKeys ∧
        (isFirstMember = true → ∀ creator ∈ history.creators, creator = sender) :=
  ⟨fun h => ⟨h.absent, h.notBanned, h.stored, h.first⟩, fun h => ⟨h.1, h.2.1, h.2.2.1, h.2.2.2⟩⟩

instance (communityId : String) (history : RosterHistory) (standing : Standing) (task : Task) :
    Decidable (task.Orderly communityId history standing) := by
  unfold Task.Orderly
  split
  · exact decidable_of_iff _ joinsOrderly_iff.symm
  · infer_instance
  · infer_instance

instance (communityId : String) (history : RosterHistory) (turn : Turn RosterCall) :
    Decidable (Orderly communityId history turn) :=
  inferInstanceAs (Decidable (∀ task ∈ turnOf history.pool turn, task.communityId = communityId →
    ∀ standing ∈ history.pool.shared.standing communityId, task.Orderly communityId history standing))

section
variable {communityId : String} {history : RosterHistory} {turn : Turn RosterCall} {task : Task}

theorem Orderly.join (h : Orderly communityId history turn) (hTurn : turnOf history.pool turn = some task)
    (hHere : task.communityId = communityId) {displayName : String} {routeBlob : Option (List UInt8)}
    {isFirstMember : Bool} (hJob : task.job = .join displayName routeBlob (.push isFirstMember))
    {standing : Standing} (hStanding : history.pool.shared.standing communityId = some standing) :
    JoinsOrderly communityId task.sender isFirstMember history standing := by
  have hOrderly := h task hTurn hHere standing hStanding
  rwa [Task.Orderly, hJob] at hOrderly

theorem Orderly.remove (h : Orderly communityId history turn)
    (hTurn : turnOf history.pool turn = some task) (hHere : task.communityId = communityId)
    {leaver : String} (hJob : task.job = .depart leaver .remove) {standing : Standing}
    (hStanding : history.pool.shared.standing communityId = some standing) :
    (communityId, leaver) ∉ history.pool.shared.db.memberKeys := by
  have hOrderly := h task hTurn hHere standing hStanding
  rwa [Task.Orderly, hJob] at hOrderly

end

/-! ## What a task does next -/

section
variable {task : Task} {s : ServerState} {standing : Standing}

theorem run_executeIgnoring (statement : Database → Option Database) :
    ∃ t, (executeIgnoring statement : ServerM Unit).run s = .ok () t := by
  obtain ⟨db, hRun, -⟩ : ∃ db, (executeIgnoring statement : ServerM Unit).run s = _ ∧ _ :=
    executeIgnoring_run statement s
  exact ⟨_, hRun⟩

theorem goesOn_of_run {α : Type} {x : ServerM α} {route : α → Task ⊕ CommunityResponse} {a : α}
    {t : ServerState} {rest : Task} (hRun : x.run s = .ok a t) (hRoute : route a = .inl rest) :
    GoesOn ((x >>= fun a => pure (route a)).run s) rest := by
  rw [run_bind_of_ok _ hRun, hRoute]
  exact ⟨t, rfl⟩

theorem verify_goesOn {leaver : String} (hJob : task.job = .depart leaver .verify)
    (hStanding : s.standing task.communityId = some standing) (hMember : leaver ∈ standing.roster) :
    GoesOn (task.advance.run s) { task with job := .depart leaver .deleteRows } := by
  obtain ⟨community, hCommunity, rfl⟩ := Option.map_eq_some_iff.mp hStanding
  have hVerified : verifyMembership community leaver = .ok () := by
    obtain ⟨member, hIn, hKey⟩ := List.mem_map.mp hMember
    have hAny : (community.members.any fun member => member.pseudonymKeyHex == leaver) = true :=
      List.any_eq_true.mpr ⟨member, hIn, beq_iff_eq.mpr hKey⟩
    unfold verifyMembership
    rw [hAny]
    split <;> rfl
  have hRun : (verifyMembershipIfHosted task.communityId leaver).run s = .ok () s := by
    change (ofExcept ((s.hosted.lookup task.communityId).elim (.ok ()) (verifyMembership · leaver)) :
      ServerM Unit).run s = _
    rw [hCommunity, Option.elim_some, hVerified]
    rfl
  unfold Task.advance
  rw [hJob]
  exact goesOn_of_run hRun rfl

theorem deleteRows_goesOn {leaver : String} (hJob : task.job = .depart leaver .deleteRows) :
    GoesOn (task.advance.run s) { task with job := .depart leaver .remove } := by
  obtain ⟨t, hRun⟩ := @run_executeIgnoring s (Database.deleteMember task.communityId leaver)
  unfold Task.advance
  rw [hJob]
  exact goesOn_of_run hRun rfl

theorem recordBan_goesOn {target displayName : String} (hJob : task.job = .recordBan target displayName) :
    GoesOn (task.advance.run s) { task with job := .depart target .verify } := by
  obtain ⟨t, hRun⟩ : ∃ t, (recordBan task.env task.communityId target displayName).run s = .ok () t :=
    run_executeIgnoring _
  unfold Task.advance
  rw [hJob]
  exact goesOn_of_run hRun rfl

theorem run_list_forM {α : Type} (values : List α) {f : α → ServerM PUnit}
    (h : ∀ a s, ∃ t, (f a).run s = .ok () t) (s : ServerState) :
    ∃ t, (values.forM f).run s = .ok () t := by
  induction values generalizing s with
  | nil => exact ⟨s, rfl⟩
  | cons a rest ih =>
    obtain ⟨t, hRun⟩ := h a s
    obtain ⟨u, hRest⟩ := ih t
    exact ⟨u, (run_bind_of_ok _ hRun).trans hRest⟩

theorem insertRows_goesOn {displayName : String} {routeBlob : Option (List UInt8)} {isFirstMember : Bool}
    (hJob : task.job = .join displayName routeBlob (.insertRows isFirstMember)) :
    GoesOn (task.advance.run s)
      { task with job := .join displayName routeBlob (.push isFirstMember) } := by
  obtain ⟨t, hRun⟩ : ∃ t, (insertMemberRows task.env task.communityId task.sender displayName
      (defaultRoleIds isFirstMember) : ServerM Unit).run s = .ok () t := by
    obtain ⟨u, hInsert⟩ := @run_executeIgnoring s fun db => db.insertMember
      { communityId := task.communityId, pseudonymKeyHex := task.sender, displayName := displayName
        joinedAt := task.env.timestampNow, routeBlob := none }
    obtain ⟨t, hRoles⟩ := run_list_forM (defaultRoleIds isFirstMember)
      (fun roleId s => @run_executeIgnoring s fun db => db.insertMemberRole
        { communityId := task.communityId, pseudonymKeyHex := task.sender, roleId := roleId }) u
    exact ⟨t, (run_bind_of_ok _ hInsert).trans hRoles⟩
  unfold Task.advance
  rw [hJob]
  exact goesOn_of_run hRun rfl

end

/-! ## Runs -/

/-- The task is going to take the pseudonym out of the roster. -/
def Task.Removes (communityId pseudonym : String) (task : Task) : Prop :=
  task.communityId = communityId ∧ (task.job = .depart pseudonym .verify ∨
    task.job = .depart pseudonym .deleteRows ∨ task.job = .depart pseudonym .remove)

/-- The task is going to put its sender into the roster. -/
def Task.Pushes (communityId pseudonym : String) (task : Task) : Prop :=
  task.communityId = communityId ∧ task.sender = pseudonym ∧
    ∃ displayName routeBlob isFirstMember,
      task.job = .join displayName routeBlob (.push isFirstMember)

/-- Consistent up to what running tasks are going to write. -/
structure InOrder (communityId : String) (history : RosterHistory) (standing : Standing) : Prop where
  hosted : history.pool.shared.standing communityId = some standing
  banned : ∀ pseudonym ∈ standing.roster, (communityId, pseudonym) ∈ history.pool.shared.db.banKeys →
    ∃ task ∈ history.pool.running, task.Removes communityId pseudonym
  once : standing.roster.Nodup
  creator : ∀ first ∈ history.creators, ∀ second ∈ history.creators, first = second
  stored : ∀ pseudonym ∈ standing.roster,
    (communityId, pseudonym) ∈ history.pool.shared.db.memberKeys ∨
      ∃ task ∈ history.pool.running, task.communityId = communityId ∧ task.job = .depart pseudonym .remove
  joined : ∀ pseudonym, (communityId, pseudonym) ∈ history.pool.shared.db.memberKeys →
    pseudonym ∈ standing.roster ∨ ∃ task ∈ history.pool.running, task.Pushes communityId pseudonym

section
variable {communityId : String} {history : RosterHistory} {turn : Turn RosterCall} {standing : Standing}

theorem InOrder.no_turn (h : InOrder communityId history standing)
    (hTurn : turnOf history.pool turn = none) :
    InOrder communityId (recordTurn communityId history turn) standing := by
  have hShared : (recordTurn communityId history turn).pool.shared = history.pool.shared :=
    shared_of_no_turn hTurn
  have hRunning : ∀ task ∈ history.pool.running,
      task ∈ (recordTurn communityId history turn).pool.running :=
    fun task hTask => mem_take_of_mem hTask (by rw [hTurn]; exact nofun)
  have hCreators : (recordTurn communityId history turn).creators = history.creators := by
    simp only [recordTurn, hTurn, Option.bind_none, Option.toList_none, List.append_nil]
  constructor
  · rw [hShared]
    exact h.hosted
  · rw [hShared]
    intro pseudonym hMember hBanned
    obtain ⟨task, hTask, hRemoves⟩ := h.banned pseudonym hMember hBanned
    exact ⟨task, hRunning task hTask, hRemoves⟩
  · exact h.once
  · rw [hCreators]
    exact h.creator
  · rw [hShared]
    intro pseudonym hMember
    refine (h.stored pseudonym hMember).imp id ?_
    rintro ⟨task, hTask, hRemoves⟩
    exact ⟨task, hRunning task hTask, hRemoves⟩
  · rw [hShared]
    intro pseudonym hStored
    refine (h.joined pseudonym hStored).imp id ?_
    rintro ⟨task, hTask, hPushes⟩
    exact ⟨task, hRunning task hTask, hPushes⟩

section
variable {task : Task}

theorem effect_of_turn (hTurn : turnOf history.pool turn = some task) :
    Effect task history.pool.shared (recordTurn communityId history turn).pool.shared := by
  change Effect _ _ (take RosterCall.start Task.advance history.pool turn).shared
  rw [shared_of_turn hTurn]
  exact section_effect task history.pool.shared

/-- The turn's task is about another community. -/
theorem InOrder.other (h : InOrder communityId history standing)
    (hTurn : turnOf history.pool turn = some task) (hOther : task.communityId ≠ communityId) :
    InOrder communityId (recordTurn communityId history turn) standing := by
  have hEffect : Effect task _ (recordTurn communityId history turn).pool.shared := effect_of_turn hTurn
  have hRunning : ∀ other ∈ history.pool.running, other.communityId = communityId →
      other ∈ (recordTurn communityId history turn).pool.running := by
    intro other hIn hCommunity
    refine mem_take_of_mem hIn ?_
    rw [hTurn]
    rintro ⟨⟩
    exact hOther hCommunity
  have hCreators : (recordTurn communityId history turn).creators = history.creators := by
    have hNobody : task.madeCreator communityId = none := by
      unfold Task.madeCreator
      split
      · exact if_neg hOther
      · rfl
    simp only [recordTurn, hTurn, Option.bind_some, hNobody, Option.toList_none, List.append_nil]
  have hMembers : ∀ pseudonym,
      (communityId, pseudonym) ∈ (recordTurn communityId history turn).pool.shared.db.memberKeys ↔
        (communityId, pseudonym) ∈ history.pool.shared.db.memberKeys := by
    intro pseudonym
    constructor
    · intro hAfter
      rcases hEffect.membersAdded _ hAfter with hOld | ⟨_, _, _, _, hKey⟩
      · exact hOld
      · exact absurd (Prod.mk.inj hKey).1.symm hOther
    · intro hBefore
      rcases hEffect.membersKept _ hBefore with hKept | ⟨_, _, hKey⟩
      · exact hKept
      · exact absurd (Prod.mk.inj hKey).1.symm hOther
  constructor
  · rw [hEffect.elsewhere communityId (Ne.symm hOther)]
    exact h.hosted
  · intro pseudonym hMember hBanned
    rcases hEffect.bansAdded _ hBanned with hOld | ⟨_, _, _, hKey⟩
    · obtain ⟨remover, hIn, hRemoves⟩ := h.banned pseudonym hMember hOld
      exact ⟨remover, hRunning remover hIn hRemoves.1, hRemoves⟩
    · exact absurd (Prod.mk.inj hKey).1.symm hOther
  · exact h.once
  · rw [hCreators]
    exact h.creator
  · intro pseudonym hMember
    rw [hMembers]
    refine (h.stored pseudonym hMember).imp id ?_
    rintro ⟨remover, hIn, hCommunity, hJob⟩
    exact ⟨remover, hRunning remover hIn hCommunity, hCommunity, hJob⟩
  · intro pseudonym hStored
    rw [hMembers] at hStored
    refine (h.joined pseudonym hStored).imp id ?_
    rintro ⟨pusher, hIn, hPushes⟩
    exact ⟨pusher, hRunning pusher hIn hPushes.1, hPushes⟩

/-! The turn's task is about the community. -/

variable {moved : Standing}

theorem goesOn_running (hTurn : turnOf history.pool turn = some task) {rest : Task}
    (hNext : GoesOn (task.advance.run history.pool.shared) rest) :
    rest ∈ (recordTurn communityId history turn).pool.running :=
  mem_take_of_goesOn hTurn hNext

theorem others_running (hTurn : turnOf history.pool turn = some task) {other : Task}
    (hIn : other ∈ history.pool.running) (hOther : other ≠ task) :
    other ∈ (recordTurn communityId history turn).pool.running := by
  refine mem_take_of_mem hIn ?_
  rw [hTurn]
  rintro ⟨⟩
  exact hOther rfl

section
variable (h : InOrder task.communityId history standing)
  (hTurn : turnOf history.pool turn = some task)
  (hOrderly : Orderly task.communityId history turn) (hMoves : task.Moves standing moved)
include h hTurn hOrderly hMoves

theorem InOrder.banned_after (pseudonym : String) (hMember : pseudonym ∈ moved.roster)
    (hBanned : (task.communityId, pseudonym) ∈
      (recordTurn task.communityId history turn).pool.shared.db.banKeys) :
    ∃ remover ∈ (recordTurn task.communityId history turn).pool.running,
      remover.Removes task.communityId pseudonym := by
  have hEffect : Effect task _ (recordTurn task.communityId history turn).pool.shared :=
    effect_of_turn hTurn
  rcases hEffect.bansAdded _ hBanned with hBan | ⟨target, displayName, hJob, hKey⟩
  · rcases mem_roster_of_moves hMoves hMember with hOld | ⟨rfl, name, blob, isFirst, hJob⟩
    · obtain ⟨remover, hIn, hRemoves⟩ := h.banned pseudonym hOld hBan
      by_cases hSame : remover = task
      · subst hSame
        rcases hRemoves.2 with hJob | hJob | hJob
        · exact ⟨_, goesOn_running hTurn (verify_goesOn hJob h.hosted hOld), rfl, .inr (.inl rfl)⟩
        · exact ⟨_, goesOn_running hTurn (deleteRows_goesOn hJob), rfl, .inr (.inr rfl)⟩
        · exact absurd hMember (not_mem_removed hMoves hJob)
      · exact ⟨remover, others_running hTurn hIn hSame, hRemoves⟩
    · have hJoin := hOrderly.join hTurn rfl hJob h.hosted
      exact absurd hBan hJoin.notBanned
  · cases hKey
    exact ⟨_, goesOn_running hTurn (recordBan_goesOn hJob), rfl, .inl rfl⟩

theorem InOrder.stored_after (pseudonym : String) (hMember : pseudonym ∈ moved.roster) :
    (task.communityId, pseudonym) ∈
        (recordTurn task.communityId history turn).pool.shared.db.memberKeys ∨
      ∃ remover ∈ (recordTurn task.communityId history turn).pool.running,
        remover.communityId = task.communityId ∧ remover.job = .depart pseudonym .remove := by
  have hEffect : Effect task _ (recordTurn task.communityId history turn).pool.shared :=
    effect_of_turn hTurn
  -- A row that was there stays, or a departure takes it and has the roster next.
  have hRow (hBefore : (task.communityId, pseudonym) ∈ history.pool.shared.db.memberKeys) :
      (task.communityId, pseudonym) ∈
          (recordTurn task.communityId history turn).pool.shared.db.memberKeys ∨
        ∃ remover ∈ (recordTurn task.communityId history turn).pool.running,
          remover.communityId = task.communityId ∧ remover.job = .depart pseudonym .remove := by
    rcases hEffect.membersKept _ hBefore with hKept | ⟨leaver, hJob, hKey⟩
    · exact .inl hKept
    · cases hKey
      exact .inr ⟨_, goesOn_running hTurn (deleteRows_goesOn hJob), rfl, rfl⟩
  rcases mem_roster_of_moves hMoves hMember with hOld | ⟨rfl, name, blob, isFirst, hJob⟩
  · rcases h.stored pseudonym hOld with hStored | ⟨remover, hIn, hCommunity, hJob⟩
    · exact hRow hStored
    · by_cases hSame : remover = task
      · subst hSame
        exact absurd hMember (not_mem_removed hMoves hJob)
      · exact .inr ⟨remover, others_running hTurn hIn hSame, hCommunity, hJob⟩
  · exact hRow (hOrderly.join hTurn rfl hJob h.hosted).stored

theorem InOrder.joined_after (pseudonym : String)
    (hStored : (task.communityId, pseudonym) ∈
      (recordTurn task.communityId history turn).pool.shared.db.memberKeys) :
    pseudonym ∈ moved.roster ∨
      ∃ pusher ∈ (recordTurn task.communityId history turn).pool.running,
        pusher.Pushes task.communityId pseudonym := by
  have hEffect : Effect task _ (recordTurn task.communityId history turn).pool.shared :=
    effect_of_turn hTurn
  rcases hEffect.membersAdded _ hStored with hBefore | ⟨name, blob, isFirst, hJob, hKey⟩
  · rcases h.joined pseudonym hBefore with hOld | ⟨pusher, hIn, hPushes⟩
    · rcases mem_roster_moved hMoves hOld with hStill | hJob
      · exact .inl hStill
      · exact absurd hBefore (hOrderly.remove hTurn rfl hJob h.hosted)
    · by_cases hSame : pusher = task
      · subst hSame
        obtain ⟨_, rfl, name, blob, isFirst, hJob⟩ := hPushes
        exact .inl (mem_pushed hMoves hJob)
      · exact .inr ⟨pusher, others_running hTurn hIn hSame, hPushes⟩
  · cases hKey
    exact .inr ⟨_, goesOn_running hTurn (insertRows_goesOn hJob), rfl, rfl, name, blob, isFirst, rfl⟩

omit hTurn in
theorem InOrder.once_after (hTurn : turnOf history.pool turn = some task) : moved.roster.Nodup := by
  unfold Task.Moves at hMoves
  split at hMoves
  next name blob isFirst hJob =>
    subst hMoves
    have hJoin := hOrderly.join hTurn rfl hJob h.hosted
    exact h.once.append (List.nodup_singleton _) (List.disjoint_singleton.mpr hJoin.absent)
  next =>
    subst hMoves
    exact h.once.filter _
  next =>
    rcases hMoves with rfl | rfl
    · exact h.once
    · exact h.once
  next =>
    subst hMoves
    exact h.once

omit hMoves in
theorem InOrder.creator_after :
    ∀ first ∈ (recordTurn task.communityId history turn).creators,
      ∀ second ∈ (recordTurn task.communityId history turn).creators, first = second := by
  cases hMade : task.madeCreator task.communityId with
  | none =>
    simp only [recordTurn, hTurn, Option.bind_some, hMade, Option.toList_none, List.append_nil]
    exact h.creator
  | some made =>
    have hFirst : made = task.sender ∧ ∀ creator ∈ history.creators, creator = task.sender := by
      unfold Task.madeCreator at hMade
      split at hMade
      next name blob hJob =>
        rw [if_pos rfl] at hMade
        cases hMade
        exact ⟨rfl, (hOrderly.join hTurn rfl hJob h.hosted).first rfl⟩
      next => cases hMade
    simp only [recordTurn, hTurn, Option.bind_some, hMade, Option.toList_some]
    have hAll : ∀ creator ∈ history.creators ++ [made], creator = task.sender := by
      intro creator hCreator
      rcases List.mem_append.mp hCreator with hOld | hNew
      · exact hFirst.2 creator hOld
      · rw [List.mem_singleton.mp hNew]
        exact hFirst.1
    exact fun first hIn second hIn' => (hAll first hIn).trans (hAll second hIn').symm

end

theorem inOrder_turn (h : InOrder communityId history standing)
    (hOrderly : Orderly communityId history turn) :
    ∃ moved, InOrder communityId (recordTurn communityId history turn) moved := by
  cases hTurn : turnOf history.pool turn with
  | none => exact ⟨standing, h.no_turn hTurn⟩
  | some task =>
    by_cases hHere : task.communityId = communityId
    · subst hHere
      have hEffect : Effect task _ (recordTurn task.communityId history turn).pool.shared :=
        effect_of_turn hTurn
      obtain ⟨moved, hHosted, hMoves, -⟩ := hEffect.standing standing h.hosted
      exact ⟨moved, hHosted, h.banned_after hTurn hOrderly hMoves, h.once_after hOrderly hMoves hTurn,
        h.creator_after hTurn hOrderly, h.stored_after hTurn hOrderly hMoves,
        h.joined_after hTurn hOrderly hMoves⟩
    · exact ⟨standing, h.other hTurn hHere⟩

end

end

/-- Once all tasks have ended, everything is consistent again. -/
theorem rosters_settled {communityId : String} {state : ServerState} {creators : List String}
    {standing : Standing} (hStart : Consistent communityId state creators standing)
    (turns : List (Turn RosterCall))
    (hOrderly : Along (recordTurn communityId) (Orderly communityId)
      (RosterHistory.start state creators) turns)
    (hEnded : (final (recordTurn communityId) (RosterHistory.start state creators) turns).pool.running =
      []) :
    ∃ settled, Consistent communityId
      (final (recordTurn communityId) (RosterHistory.start state creators) turns).pool.shared
      (final (recordTurn communityId) (RosterHistory.start state creators) turns).creators settled := by
  have hFirst : InOrder communityId (RosterHistory.start state creators) standing := by
    constructor
    · exact hStart.hosted
    · exact fun pseudonym hMember hBanned => absurd hMember (hStart.banned pseudonym hBanned)
    · exact hStart.once
    · exact hStart.creator
    · exact fun pseudonym hMember => .inl ((hStart.stored pseudonym).mpr hMember)
    · exact fun pseudonym hStored => .inl ((hStart.stored pseudonym).mp hStored)
  obtain ⟨settled, h⟩ := hOrderly.invariant
    (fun history => ∃ settled, InOrder communityId history settled)
    (fun _ _ ⟨_, h⟩ hTurn => inOrder_turn h hTurn) ⟨standing, hFirst⟩
  have hNobody : ∀ {P : Task → Prop}, ¬∃ task ∈ (final (recordTurn communityId)
      (RosterHistory.start state creators) turns).pool.running, P task := by
    rintro P ⟨task, hIn, -⟩
    rw [hEnded] at hIn
    cases hIn
  refine ⟨settled, h.hosted, ?_, h.once, h.creator, fun pseudonym => ⟨?_, ?_⟩⟩
  · exact fun pseudonym hBanned hMember => hNobody (h.banned pseudonym hMember hBanned)
  · exact fun hStored => (h.joined pseudonym hStored).resolve_right hNobody
  · exact fun hMember => (h.stored pseudonym hMember).resolve_right hNobody

/-! ## Bob joins twice -/

/-- Two joins of Bob come in and their sections run in the order of the indices. -/
def bobJoins (order : List Nat) : List (Turn RosterCall) :=
  let join : RosterCall :=
    { env := sampleEnvironment, communityId := "c", sender := "bob", request := .join "Bob" none true }
  [.start join, .start join] ++ order.map .advance

def bobJoined (order : List Nat) : RosterHistory :=
  final (recordTurn "c") (RosterHistory.start hostedByAlice ["alice"]) (bobJoins order)

theorem hostedByAlice_consistent :
    Consistent "c" hostedByAlice ["alice"] ⟨["alice"], "alice", ⟨1, []⟩⟩ := by
  constructor
  · decide +kernel
  · intro pseudonym hBanned
    have hNone : hostedByAlice.db.banKeys = [] := by decide +kernel
    rw [hNone] at hBanned
    cases hBanned
  · decide
  · simp
  · intro pseudonym
    have hStored : hostedByAlice.db.memberKeys = [("c", "alice")] := by decide +kernel
    simp [hStored]

/-- Both look for Bob before either puts him into the roster. -/
theorem joins_overlap : ¬∀ (communityId : String) (state : ServerState) (creators : List String)
    (standing : Standing), Consistent communityId state creators standing →
    ∀ turns, (final (recordTurn communityId) (RosterHistory.start state creators) turns).pool.running =
      [] →
    ∃ settled, Consistent communityId
      (final (recordTurn communityId) (RosterHistory.start state creators) turns).pool.shared
      (final (recordTurn communityId) (RosterHistory.start state creators) turns).creators settled := by
  intro hClaim
  set order : List Nat := [0, 0, 0, 1, 1, 1, 0, 0, 0, 0, 0, 0, 0, 0]
  have hEnded : (bobJoined order).pool.running = [] := by
    rw [← List.isEmpty_iff]
    decide +kernel
  have hTwice : (bobJoined order).pool.shared.standing "c" =
      some ⟨["alice", "bob", "bob"], "alice", ⟨1, []⟩⟩ := by decide +kernel
  obtain ⟨settled, h⟩ := hClaim "c" hostedByAlice ["alice"] _ hostedByAlice_consistent (bobJoins order) hEnded
  have hSettled := h.hosted.symm.trans hTwice
  cases hSettled
  have hOnce := h.once
  revert hOnce
  decide

/-- The second join begins after the first has ended, and finds Bob in the roster. -/
theorem rosters_settled_in_turn : ∃ settled, Consistent "c"
    (bobJoined [0, 0, 0, 0, 0, 0, 0, 0, 0, 0]).pool.shared
    (bobJoined [0, 0, 0, 0, 0, 0, 0, 0, 0, 0]).creators settled := by
  refine rosters_settled hostedByAlice_consistent (bobJoins [0, 0, 0, 0, 0, 0, 0, 0, 0, 0]) ?_ ?_
  · decide +kernel
  · rw [← List.isEmpty_iff]
    decide +kernel

end Rekindle.Server
