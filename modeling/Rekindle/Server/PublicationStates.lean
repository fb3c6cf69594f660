import Rekindle.Library.Runs
import Rekindle.Server.PublishingTasks

/-! # Publications side by side

Once all tasks have ended, a subkey holds the part as it is in memory when no snapshot is taken while
another task still has to write an older one.
-/
namespace Rekindle.Server
set_option autoImplicit false
open CapnpCodec Client Fallible Interleaving Json Runs
open Protocol (Bytes)

instance decidableForallSome {α : Type} (value : Option α) (P : α → Prop) [DecidablePred P] :
    Decidable (∀ a, value = some a → P a) :=
  match value with
  | none => .isTrue fun _ h => nomatch h
  | some a => decidable_of_iff (P a) ⟨fun h _ hSome => Option.some.inj hSome ▸ h, fun h => h a rfl⟩

instance decidableForallPart (P : Part → Prop) [DecidablePred P] : Decidable (∀ part, P part) :=
  decidable_of_iff (∀ part ∈ [Part.metadata, .channels, .memberRoster, .mekBundle], P part)
    ⟨fun h part => h part (by cases part <;> simp), fun h part _ => h part⟩

section
variable (ownerKey : String → String) (communityId : String) (part : Part)

/-- What the names in a queue are written as, with the time. -/
def queuedValues (queue : PublicationQueue) (now : UInt64) : List (UInt64 × Bytes) :=
  queue.flatMap fun (owner, publication) =>
    match publication with
    | .metadata name =>
      if owner = communityId ∧ part = .metadata then
        [(now, write (metadataValue name (ownerKey communityId) now))]
      else []
    | _ => []

/-- The values of the part that the task has read and not written yet. -/
def PublishingTask.held : PublishingTask → List (UInt64 × Bytes)
  | .publish queue now _ => queuedValues ownerKey communityId part queue now
  | .write owner publication data queue now _ =>
    (if owner = communityId ∧ publication.part = part then [(now, data)] else []) ++
      queuedValues ownerKey communityId part queue now
  | _ => []

/-- The queue holds a publication of the part whose snapshot is yet to be taken. -/
def QueueOwes (queue : PublicationQueue) : Prop :=
  ∃ publication, (communityId, publication) ∈ queue ∧ publication.part = part ∧ part ≠ .metadata

/-- The task will read the part and write it. -/
def PublishingTask.Owes : PublishingTask → Prop
  | .publish queue _ _ => QueueOwes communityId part queue
  | .write _ _ _ queue _ _ => QueueOwes communityId part queue
  | .readName owner _ => owner = communityId ∧ part = .metadata
  | _ => False

/-- The next section of the task reads the part. -/
def PublishingTask.Reads : PublishingTask → Prop
  | .publish ((owner, publication) :: _) _ _ =>
    owner = communityId ∧ publication.part = part ∧ part ≠ .metadata
  | .readName owner _ => owner = communityId ∧ part = .metadata
  | _ => False

instance (task : PublishingTask) : Decidable (task.Reads communityId part) := by
  unfold PublishingTask.Reads
  split <;> infer_instance

def Current (community : HostedCommunity) (value : UInt64 × Bytes) : Prop :=
  value.2 = part.encoding community (ownerKey communityId) value.1

instance (community : HostedCommunity) (value : UInt64 × Bytes) :
    Decidable (Current ownerKey communityId part community value) :=
  inferInstanceAs (Decidable (_ = _))

/-- What is on its way is the part as it is; when nothing is, the record has it. -/
structure UpToDate (tasks : List PublishingTask) (record : Option Bytes) (community : HostedCommunity) : Prop where
  held : ∀ task ∈ tasks, ∀ value ∈ task.held ownerKey communityId part,
    Current ownerKey communityId part community value
  written : (∀ task ∈ tasks, task.held ownerKey communityId part = []) →
    ∃ now, record = some (part.encoding community (ownerKey communityId) now)

def Converges (pool : Pool PublishedState PublishingTask) : Prop :=
  ∃ community, pool.shared.server.hosted.lookup communityId = some community ∧
    ((∃ task ∈ pool.running, task.Owes communityId part) ∨
      UpToDate ownerKey communityId part pool.running (pool.shared.records communityId part.subkey) community)

/-- A turn does none of three things: read a part of the community while a task has still to write an
older state of it, change the roles of a member, or read a name in the database that is not the one in
memory. -/
def OrderlyPublication (pool : Pool PublishedState PublishingTask) (turn : Turn PublishingCall) : Prop :=
  ∀ task, turnOf pool turn = some task →
    ∀ community, pool.shared.server.hosted.lookup communityId = some community →
      (∀ part, task.Reads communityId part → ∀ other ∈ pool.running,
        ∀ value ∈ other.held ownerKey communityId part, Current ownerKey communityId part community value) ∧
      match task with
      | .request env owner sender request _ => owner = communityId →
        request.Passes env sender communityId pool.shared.server →
        ¬request.ChangesRoleIds env communityId sender community
      | .collect order _ => communityId ∈ order →
        pool.shared.server.db.communityName communityId = some community.name ∧
          true ∉ pool.shared.server.dbFaults.take order.length
      | _ => True

instance (pool : Pool PublishedState PublishingTask) (turn : Turn PublishingCall) :
    Decidable (OrderlyPublication ownerKey communityId pool turn) := by
  unfold OrderlyPublication
  refine @decidableForallSome _ _ _ fun task => @decidableForallSome _ _ _ fun community => ?_
  refine @instDecidableAnd _ _ (decidableForallPart _) ?_
  split <;> infer_instance

/-- What a turn of a task means for the part: the task will publish it, or it is as it was, or the task
writes a value that it has held. -/
inductive PublishingOutcome (task : PublishingTask) (before after : PublishedState) (rest : Option PublishingTask)
    (community changed : HostedCommunity) : Prop
  | owed (next : PublishingTask) (hNext : rest = some next) (hOwes : next.Owes communityId part)
  | kept (hSame : part.Same changed community)
      (hRecord : after.records communityId part.subkey = before.records communityId part.subkey)
      (hHeld : ∀ next, rest = some next → ∀ value ∈ next.held ownerKey communityId part,
        value ∈ task.held ownerKey communityId part ∨ Current ownerKey communityId part changed value)
      (hLeft : (∀ next, rest = some next → next.held ownerKey communityId part = []) →
        task.held ownerKey communityId part = [])
      (hRead : task.Owes communityId part → task.Reads communityId part ∧
        ∃ next, rest = some next ∧ next.held ownerKey communityId part ≠ [])
  | wrote (hSame : part.Same changed community) (value : UInt64 × Bytes)
      (hValue : value ∈ task.held ownerKey communityId part)
      (hRecord : after.records communityId part.subkey = some value.2)
      (hHeld : ∀ next, rest = some next → ∀ value ∈ next.held ownerKey communityId part,
        value ∈ task.held ownerKey communityId part)
      (hDone : ¬task.Owes communityId part)

end

section
variable {ownerKey : String → String} {communityId : String} {part : Part}

theorem Current.of_same {community changed : HostedCommunity} {value : UInt64 × Bytes}
    (h : Current ownerKey communityId part community value) (hSame : part.Same changed community) :
    Current ownerKey communityId part changed value := by
  unfold Current
  rw [Part.encoding_congr hSame]
  exact h

theorem held_start (call : PublishingCall) : call.start.held ownerKey communityId part = [] := by
  unfold PublishingCall.start
  split
  next => rfl
  next =>
    split
    next => rfl
    next => split <;> rfl
    next => split <;> rfl

/-- The outcome of the turn decides about the pool. -/
theorem Converges.of_outcome {pool : Pool PublishedState PublishingTask} {turn : Turn PublishingCall}
    {task : PublishingTask} {community changed : HostedCommunity}
    (hTurn : turnOf pool turn = some task)
    (hHosted : pool.shared.server.hosted.lookup communityId = some community)
    (hChanged : (take PublishingCall.start (PublishingTask.advance ownerKey) pool turn).shared.server.hosted.lookup
      communityId = some changed)
    (hOutcome : PublishingOutcome ownerKey communityId part task pool.shared
      (take PublishingCall.start (PublishingTask.advance ownerKey) pool turn).shared
      (goesOn? ((task.advance ownerKey).run pool.shared)) community changed)
    (hReads : task.Reads communityId part → ∀ other ∈ pool.running,
      ∀ value ∈ other.held ownerKey communityId part, Current ownerKey communityId part community value)
    (h : Converges ownerKey communityId part pool) :
    Converges ownerKey communityId part (take PublishingCall.start (PublishingTask.advance ownerKey) pool turn) := by
  have hMem := mem_of_turn hTurn
  have hGoes : ∀ next, goesOn? ((task.advance ownerKey).run pool.shared) = some next →
      next ∈ (take PublishingCall.start (PublishingTask.advance ownerKey) pool turn).running :=
    fun next hNext => mem_take_of_goesOn hTurn (goesOn?_eq_some_iff.mp hNext)
  have hStays : ∀ other ∈ pool.running, other ≠ task →
      other ∈ (take PublishingCall.start (PublishingTask.advance ownerKey) pool turn).running := by
    intro other hOther hApart
    exact mem_take_of_mem hOther fun hSame => hApart (Option.some.inj (hSame.symm.trans hTurn))
  have hFrom : ∀ other ∈ (take PublishingCall.start (PublishingTask.advance ownerKey) pool turn).running,
      other.held ownerKey communityId part ≠ [] → other ∈ pool.running ∨
        goesOn? ((task.advance ownerKey).run pool.shared) = some other := by
    intro other hOther hHeld
    rcases mem_take hOther with hOld | ⟨request, rfl⟩ | ⟨former, hFormer, hNext⟩
    · exact .inl hOld
    · exact absurd (held_start request) hHeld
    · cases hTurn.symm.trans hFormer
      exact .inr (goesOn?_eq_some_iff.mpr hNext)
  have hElse : (∃ other ∈ pool.running, other.Owes communityId part) → ¬task.Owes communityId part →
      ∃ other ∈ (take PublishingCall.start (PublishingTask.advance ownerKey) pool turn).running,
        other.Owes communityId part := by
    rintro ⟨other, hOther, hOwes⟩ hNot
    refine ⟨other, hStays other hOther ?_, hOwes⟩
    rintro rfl
    exact hNot hOwes
  obtain ⟨_, hFound, h⟩ := h
  cases hHosted.symm.trans hFound
  refine ⟨changed, hChanged, ?_⟩
  cases hOutcome with
  | owed next hNext hOwes => exact .inl ⟨next, hGoes next hNext, hOwes⟩
  | wrote hSame value hValue hRecord hHeld hDone =>
    refine h.imp (hElse · hDone) fun hUpToDate => ⟨?_, fun _ => ?_⟩
    · intro other hOther found hFoundIn
      rcases hFrom other hOther (List.ne_nil_of_mem hFoundIn) with hOld | hNext
      · exact (hUpToDate.held other hOld found hFoundIn).of_same hSame
      · exact (hUpToDate.held task hMem found (hHeld other hNext found hFoundIn)).of_same hSame
    · refine ⟨value.1, ?_⟩
      rw [hRecord]
      exact congrArg some ((hUpToDate.held task hMem value hValue).of_same hSame)
  | kept hSame hRecord hHeld hLeft hRead =>
    -- the values held before the turn are current, unless another task will read the part
    have hSettled (hBefore : ∀ other ∈ pool.running, ∀ value ∈ other.held ownerKey communityId part,
        Current ownerKey communityId part community value) :
        ∀ other ∈ (take PublishingCall.start (PublishingTask.advance ownerKey) pool turn).running,
          ∀ value ∈ other.held ownerKey communityId part, Current ownerKey communityId part changed value := by
      intro other hOther value hValue
      rcases hFrom other hOther (List.ne_nil_of_mem hValue) with hOld | hNext
      · exact (hBefore other hOld value hValue).of_same hSame
      · rcases hHeld other hNext value hValue with hTask | hCurrent
        · exact (hBefore task hMem value hTask).of_same hSame
        · exact hCurrent
    by_cases hOwes : task.Owes communityId part
    · obtain ⟨hReading, next, hNext, hSome⟩ := hRead hOwes
      exact .inr ⟨hSettled (hReads hReading), fun hNone => absurd (hNone next (hGoes next hNext)) hSome⟩
    · refine h.imp (hElse · hOwes) fun hUpToDate => ⟨hSettled hUpToDate.held, fun hNone => ?_⟩
      have hTask := hLeft fun next hNext => hNone next (hGoes next hNext)
      obtain ⟨now, hWritten⟩ := hUpToDate.written fun other hOther => by
        by_cases hSameTask : other = task
        · rw [hSameTask, hTask]
        · exact hNone other (hStays other hOther hSameTask)
      refine ⟨now, ?_⟩
      rw [hRecord, hWritten, Part.encoding_congr hSame]

end

end Rekindle.Server
