import Rekindle.Server.Answers
import Rekindle.Server.Holdings
import Rekindle.Server.KeyHistory
import Rekindle.Server.RepresentationRuns
import Rekindle.Server.Statements

/-! # Who is the creator of a community

The creator is recorded in memory and in the community's row. A community without members takes the
next one who joins for its creator.
-/
namespace Rekindle.Server
set_option autoImplicit false
open Fallible Runs

/-! ## The recorded creators -/

/-- The creators in the table, each with the id of its community. -/
def creators (db : Database) : List (String × String) :=
  db.hostedCommunities.map fun row => (row.id, row.creatorPseudonym)

def creatorEntry (communityId : String) (db : Database) : Option (String × String) :=
  (creators db).find? (·.1 == communityId)

def nameCreator (communityId pseudonym : String) (entry : String × String) : String × String :=
  if entry.1 = communityId then (entry.1, pseudonym) else entry

section
variable {communityId pseudonym : String} {db db' : Database}

theorem creatorEntry_eq :
    creatorEntry communityId db = (communityRow communityId db).map fun row => (row.id, row.creatorPseudonym) := by
  unfold creatorEntry communityRow creators
  exact List.find?_map

theorem recordedCreator_eq : recordedCreator communityId db = (creatorEntry communityId db).elim "" Prod.snd := by
  unfold recordedCreator
  rw [creatorEntry_eq]
  cases communityRow communityId db <;> rfl

theorem hasCommunity_eq : db.hasCommunity communityId = (creatorEntry communityId db).isSome := by
  unfold Database.hasCommunity
  rw [creatorEntry_eq, Option.isSome_map, communityRow, List.isSome_find?]

theorem creators_updateCommunity {id : String} {update : CommunityRow → CommunityRow}
    (hRun : db.updateCommunity id update = some db')
    (hUpdate : ∀ row, (update row).id = row.id ∧ (update row).creatorPseudonym = row.creatorPseudonym) :
    creators db' = creators db := by
  cases hRun
  unfold creators
  simp only [List.map_map]
  refine List.map_congr_left fun row _ => ?_
  rw [Function.comp_apply]
  split
  · rw [(hUpdate row).1, (hUpdate row).2]
  · rfl

theorem Statement.NamesNoCreator.creators {statement : Statement} (h : statement.NamesNoCreator)
    (hRun : statement.run db = some db') : creators db' = creators db := by
  cases statement with
  | insertCommunity | deleteCommunity | recordCreator => exact h.elim
  | rename | describe => exact creators_updateCommunity hRun fun _ => ⟨rfl, rfl⟩
  | insertMember | insertMemberRole | insertMek | insertOrReplaceMek | insertOrReplaceBan
  | insertRole | insertRoleOrIgnore | insertChannel | insertOrReplaceOverwrite | insertOrReplaceTimeout =>
    simp only [run, Database.insertMember, Database.insertMemberRole,
      Database.insertMek, Database.insertOrReplaceMek, Database.insertOrReplaceBan, Database.insertRole,
      Database.insertRoleOrIgnore, Database.insertChannel, Database.insertOrReplaceOverwrite,
      Database.insertOrReplaceTimeout] at hRun
    split_ifs at hRun <;> cases hRun <;> rfl
  | _ => cases hRun; rfl

theorem creators_recordCreator (hRun : (Statement.recordCreator communityId pseudonym).run db = some db') :
    creators db' = (creators db).map (nameCreator communityId pseudonym) := by
  cases hRun
  unfold creators nameCreator
  simp only [List.map_map]
  refine List.map_congr_left fun row _ => ?_
  by_cases hRow : row.id = communityId <;> simp [hRow]

theorem creatorEntry_named (hCreators : creators db' = (creators db).map (nameCreator communityId pseudonym))
    (other : String) :
    creatorEntry other db' = (creatorEntry other db).map (nameCreator communityId pseudonym) := by
  have hKey : ∀ entry, (nameCreator communityId pseudonym entry).1 = entry.1 := by
    intro entry
    unfold nameCreator
    split <;> rfl
  unfold creatorEntry
  rw [hCreators, List.find?_map]
  congr 1
  refine congrArg ((creators db).find? ·) (funext fun entry => ?_)
  rw [Function.comp_apply, hKey]

theorem creatorEntry_key {entry : String × String} (h : creatorEntry communityId db = some entry) :
    entry.1 = communityId := by
  simpa using List.find?_some h

/-- Naming the creator of a community that has a row. -/
theorem recordedCreator_named (hCreators : creators db' = (creators db).map (nameCreator communityId pseudonym))
    (hRow : db.hasCommunity communityId = true) : recordedCreator communityId db' = pseudonym := by
  rw [hasCommunity_eq, Option.isSome_iff_exists] at hRow
  obtain ⟨entry, hEntry⟩ := hRow
  rw [recordedCreator_eq, creatorEntry_named hCreators, hEntry, Option.map_some, nameCreator,
    if_pos (creatorEntry_key hEntry)]
  rfl

theorem creatorEntry_named_other {other : String} (hOther : other ≠ communityId)
    (hCreators : creators db' = (creators db).map (nameCreator communityId pseudonym)) :
    creatorEntry other db' = creatorEntry other db := by
  rw [creatorEntry_named hCreators]
  cases hEntry : creatorEntry other db with
  | none => rfl
  | some entry =>
    have hKey : entry.1 ≠ communityId := by
      rw [creatorEntry_key hEntry]
      exact hOther
    rw [Option.map_some, nameCreator, if_neg hKey]

theorem hasCommunity_named (hCreators : creators db' = (creators db).map (nameCreator communityId pseudonym))
    (other : String) : db'.hasCommunity other = db.hasCommunity other := by
  rw [hasCommunity_eq, hasCommunity_eq, creatorEntry_named hCreators, Option.isSome_map]

/-- Hosting another community. -/
theorem Statement.Hosts.creatorEntry {statement : Statement} {other : String} (h : statement.Hosts other)
    (hOther : communityId ≠ other) (hRun : statement.run db = some db') :
    creatorEntry communityId db' = creatorEntry communityId db := by
  cases statement with
  | insertCommunity row =>
    simp only [run, Database.insertCommunity] at hRun
    split_ifs at hRun
    · cases hRun
      rfl
    · cases hRun
      have hLast : row.id ≠ communityId := fun hSame => hOther (hSame.symm.trans h)
      simp [Server.creatorEntry, creators, List.find?_append, hLast]
  | deleteCommunity deleted =>
    cases hRun
    cases h
    rw [creatorEntry_eq, creatorEntry_eq]
    unfold communityRow
    simp only [List.find?_filter]
    congr 2
    funext row
    by_cases hRow : row.id = communityId <;> simp [hRow, hOther]
  | recordCreator named pseudonym =>
    cases h
    exact creatorEntry_named_other hOther (creators_recordCreator hRun)
  | insertMessage => exact h.elim
  | _ =>
    unfold Server.creatorEntry
    rw [NamesNoCreator.creators (by trivial) hRun]

end

/-! ## What a join records -/

section
variable {env : Environment} {communityId sender : String} {s t : ServerState} {ε α : Type}

theorem Edited.creators {allowed : Statement → Prop} (h : Edited allowed s t)
    (hAllowed : ∀ statement, allowed statement → statement.NamesNoCreator) : creators t.db = creators s.db :=
  h.keeps fun statement hStatement _ _ hRun => (hAllowed statement hStatement).creators hRun

theorem Beside.creators (h : Beside Statement.Routine s t) : creators t.db = creators s.db :=
  h.edited.creators fun _ => Statement.Routine.namesNoCreator

theorem settles_beside {x : ServerM α} (hTotal : Total x) (hBeside : Keeps (Beside Statement.Routine) x) :
    Settles (fun _ t => Beside Statement.Routine s t) (fun _ _ => False) x s := by
  obtain ⟨a, t, hRun⟩ := hTotal s
  have hKept := hBeside s
  unfold Settles
  rw [hRun] at hKept ⊢
  exact hKept

/-- The creators in the table once the sender is in. -/
def creatorsAfterJoin (communityId sender : String) (community : HostedCommunity) (db : Database) :
    List (String × String) :=
  if community.members.isEmpty then (creators db).map (nameCreator communityId sender) else creators db

theorem recordCreator_settles (hFaults : true ∉ s.dbFaults) (isFirstMember : Bool) :
    Settles (fun _ t => t.hosted = s.hosted ∧ t.dbFaults <:+ s.dbFaults ∧
        creators t.db = if isFirstMember then (creators s.db).map (nameCreator communityId sender)
          else creators s.db)
      (fun _ _ => False) (recordCreator communityId sender isFirstMember) s := by
  cases isFirstMember with
  | false => exact ⟨rfl, List.suffix_refl _, rfl⟩
  | true =>
    refine ⟨rfl, List.tail_suffix _, ?_⟩
    change creators ((if s.dbFaults.headD false then none
      else (Statement.recordCreator communityId sender).run s.db).getD s.db) = _
    rw [headD_faultless hFaults]
    exact creators_recordCreator rfl

theorem settles_setCommunity (communityId : String) (community : HostedCommunity) :
    Settles (fun _ t => t = { s with hosted := s.hosted.insert communityId community }) (fun _ _ => False)
      (setCommunity communityId community : EStateM ε ServerState Unit) s := rfl

theorem joinAsNewMember_effect (hFaults : true ∉ s.dbFaults) {community : HostedCommunity}
    (hCommunity : s.hosted.lookup communityId = some community) (displayName : String)
    (routeBlob : Option (List UInt8)) :
    Settles (fun _ t =>
        t.hosted = s.hosted.insert communityId
          ((Change.join displayName env.timestampNow routeBlob).apply sender community) ∧
        t.dbFaults <:+ s.dbFaults ∧ creators t.db = creatorsAfterJoin communityId sender community s.db)
      (fun _ _ => False) (joinAsNewMember env communityId sender displayName routeBlob) s := by
  unfold joinAsNewMember addNewMember
  simp only [bind_assoc]
  apply settles_lookupCommunity
  rw [hCommunity, Option.any_some]
  refine (settles_beside (total_insertMemberRows _ _ _ _ _) (insertMemberRows_beside trivial fun _ => trivial)).bind
    (fun _ t hInserted => ?_) fun _ _ => False.elim
  unfold pushMember
  rw [bind_assoc]
  apply settles_lookupCommunity
  rw [hInserted.hosted, hCommunity]
  simp only [bind_assoc, pure_bind]
  have hFaultless : true ∉ t.dbFaults := fun hFault => hFaults (hInserted.edited.faults.subset hFault)
  refine (recordCreator_settles hFaultless _).bind (fun _ u hRecorded => ?_) fun _ _ => False.elim
  obtain ⟨hHosted, hSuffix, hCreators⟩ := hRecorded
  refine (settles_setCommunity _ _).bind (fun _ v hSet => ?_) fun _ _ => False.elim
  have hRow : Keeps (Beside Statement.Routine) (routeBlob.forM fun blob =>
      executeIgnoring (Database.updateRouteBlob community.communityId sender · blob) : ServerM Unit) :=
    keeps_option_forM _ fun blob => beside_executeIgnoring (.updateRouteBlob _ sender blob) trivial
  refine (settles_beside (total_option_forM _ fun _ => total_executeIgnoring _) hRow).bind
    (fun _ w hRoute => ?_) fun _ _ => False.elim
  refine ⟨?_, ?_, ?_⟩
  · change w.hosted = _
    rw [hRoute.hosted, hSet, hHosted, hInserted.hosted]
    rfl
  · refine hRoute.edited.faults.trans ?_
    rw [hSet]
    exact hSuffix.trans hInserted.edited.faults
  · change creators w.db = _
    rw [hRoute.creators, hSet, hCreators, hInserted.creators]
    rfl

/-- No community changes its creator. -/
structure CreatorsKept (before after : ServerState) : Prop where
  tables : creators after.db = creators before.db
  faults : after.dbFaults <:+ before.dbFaults
  hosted : ∀ communityId, (after.hosted.lookup communityId).map HostedCommunity.creatorPseudonymHex =
    (before.hosted.lookup communityId).map HostedCommunity.creatorPseudonymHex

theorem CreatorsKept.refl (s : ServerState) : CreatorsKept s s := ⟨rfl, List.suffix_refl _, fun _ => rfl⟩

theorem Beside.creatorsKept (h : Beside Statement.Routine s t) : CreatorsKept s t :=
  ⟨h.creators, h.edited.faults, fun _ => by rw [h.hosted]⟩

theorem CreatorsKept.trans {u : ServerState} (hFirst : CreatorsKept s t) (hSecond : CreatorsKept t u) :
    CreatorsKept s u :=
  ⟨hSecond.tables.trans hFirst.tables, hSecond.faults.trans hFirst.faults,
    fun id => (hSecond.hosted id).trans (hFirst.hosted id)⟩

/-- The join lets the sender into the community. -/
structure Admits (s : ServerState) (routing : Routing) (sender communityId : String)
    (community : HostedCommunity) : Prop where
  target : routing.joinTarget = some communityId
  hosted : s.hosted.lookup communityId = some community
  absent : findMember community.members sender = none
  welcome : s.db.isBanned communityId sender = false

/-- What the join leaves. -/
structure Admitted (s : ServerState) (sender communityId : String) (change : Change)
    (community : HostedCommunity) (t : ServerState) : Prop where
  hosted : t.hosted = s.hosted.insert communityId (change.apply sender community)
  tables : creators t.db = creatorsAfterJoin communityId sender community s.db
  faults : t.dbFaults <:+ s.dbFaults

variable (communityId sender) in
theorem checkNotBanned_run (hFaults : true ∉ s.dbFaults) :
    (checkNotBanned communityId sender).run s = if s.db.isBanned communityId sender
      then .error ⟨403, "you are banned from this community"⟩ { s with dbFaults := s.dbFaults.tail }
      else .ok () { s with dbFaults := s.dbFaults.tail } := by
  unfold checkNotBanned
  rw [run_bind_of_ok _ (query_run_of_faultless hFaults _)]
  cases s.db.isBanned communityId sender <;> rfl

theorem settles_ends {x : ServerM α} {P : α → ServerState → Prop} {E : RpcError → ServerState → Prop}
    {Q : ServerState → Prop} (h : Settles P E x s) (hOk : ∀ a t, P a t → Q t) (hError : ∀ e t, E e t → Q t) :
    Ends Q x s := by
  obtain ⟨a, t, hRun, hP⟩ | ⟨e, t, hRun, hE⟩ := h.cases
  · unfold Ends
    rw [hRun]
    exact hOk a t hP
  · unfold Ends
    rw [hRun]
    exact hError e t hE

/-- Letting a sender into a community that is not hosted leaves rows at most. -/
theorem joinAsNewMember_unhosted (hCommunity : s.hosted.lookup communityId = none) (displayName : String)
    (routeBlob : Option (List UInt8)) :
    Ends (CreatorsKept s) (joinAsNewMember env communityId sender displayName routeBlob) s := by
  unfold joinAsNewMember addNewMember
  simp only [bind_assoc]
  refine Ends.bind_of_ok (a := s.hosted.lookup communityId) (t := s) rfl ?_
  refine Ends.bind_of_keeps (insertMemberRows_beside trivial fun _ => trivial) (fun t h => h.creatorsKept) fun _ t hInserted => ?_
  have hMissing : t.hosted.lookup communityId = none := by rw [hInserted.hosted, hCommunity]
  unfold pushMember
  rw [bind_assoc]
  refine Ends.bind_of_ok (a := none) (t := t) (congrArg (EStateM.Result.ok · t) hMissing) ?_
  exact hInserted.creatorsKept

/-- The sender is not on the roster of the hosted community. -/
def Newcomer (s : ServerState) (communityId sender : String) (community : HostedCommunity) : Prop :=
  s.hosted.lookup communityId = some community ∧ findMember community.members sender = none

theorem rejoinOrJoin_effect (hFaults : true ∉ s.dbFaults) (displayName : String)
    (routeBlob : Option (List UInt8)) :
    Ends (fun t =>
        (∃ community, Newcomer s communityId sender community ∧
          Admitted s sender communityId (.join displayName env.timestampNow routeBlob) community t) ∨
        (¬∃ community, Newcomer s communityId sender community) ∧ CreatorsKept s t)
      (handleRejoin communityId sender routeBlob >>= fun
        | some response => pure response
        | none => joinAsNewMember env communityId sender displayName routeBlob) s := by
  unfold handleRejoin Newcomer
  rw [bind_assoc]
  refine Ends.bind_of_ok (a := s.hosted.lookup communityId) (t := s) rfl ?_
  cases hCommunity : s.hosted.lookup communityId with
  | none =>
    refine (joinAsNewMember_unhosted hCommunity displayName routeBlob).mono fun t hKept => .inr ⟨?_, hKept⟩
    rintro ⟨community, hHosted, _⟩
    cases hHosted
  | some community =>
    cases hMember : findMember community.members sender with
    | none =>
      simp only [hMember, pure_bind]
      refine settles_ends (joinAsNewMember_effect hFaults hCommunity displayName routeBlob)
        (fun _ t hAdmitted => .inl ⟨community, ⟨rfl, hMember⟩, ?_⟩) fun _ _ => False.elim
      exact ⟨hAdmitted.1, hAdmitted.2.2, hAdmitted.2.1⟩
    | some member =>
      have hKnown : ¬∃ found, some community = some found ∧ findMember found.members sender = none := by
        rintro ⟨_, ⟨⟩, hAbsent⟩
        rw [hMember] at hAbsent
        cases hAbsent
      cases routeBlob with
      | none =>
        simp only [hMember, pure_bind]
        exact .inr ⟨hKnown, .refl s⟩
      | some blob =>
        simp only [hMember, bind_assoc, pure_bind]
        have hKept : Keeps (Beside Statement.Routine) (executeIgnoring (Database.updateRouteBlob communityId sender · blob) :
            ServerM Unit) := beside_executeIgnoring (.updateRouteBlob communityId sender blob) trivial
        have hSet : CreatorsKept s { s with hosted := s.hosted.insert communityId { community with
            members := updateMember community.members sender fun member =>
              { member with routeBlob := some blob } } } :=
          ⟨rfl, List.suffix_refl _, lookup_insert_map (fun _ => rfl) hCommunity rfl⟩
        refine Ends.bind_of_ok rfl (Ends.bind_of_keeps hKept (fun _ h => ?_) fun _ _ h => ?_)
        · exact .inr ⟨hKnown, hSet.trans h.creatorsKept⟩
        · exact .inr ⟨hKnown, hSet.trans h.creatorsKept⟩

variable (env sender) in
/-- A join lets one sender into one community, or changes no creator. -/
theorem handleJoin_effect (hFaults : true ∉ s.dbFaults) (routing : Routing) (displayName : String)
    (routeBlob : Option (List UInt8)) :
    Ends (fun t =>
        (∃ communityId community, Admits s routing sender communityId community ∧
          Admitted s sender communityId (.join displayName env.timestampNow routeBlob) community t) ∨
        (¬∃ communityId community, Admits s routing sender communityId community) ∧ CreatorsKept s t)
      (handleJoin env sender routing displayName routeBlob) s := by
  unfold handleJoin
  cases hTarget : routing.joinTarget with
  | none =>
    refine Or.inr ⟨?_, .refl s⟩
    rintro ⟨_, _, hAdmits⟩
    rw [hAdmits.target] at hTarget
    cases hTarget
  | some communityId =>
    have hOnly : ∀ other community, Admits s routing sender other community → other = communityId := by
      intro other community hAdmits
      rw [hAdmits.target] at hTarget
      exact Option.some.inj hTarget
    refine Ends.bind_of_ok (a := communityId) (t := s) rfl ?_
    refine Ends.bind_of_ok (a := s.hosted.lookup communityId) (t := s) rfl ?_
    cases hRefused : (refuseIf (routing.ipcCommunityId.isSome ∧ (s.hosted.lookup communityId).isNone)
        communityNotFound : Except RpcError Unit) with
    | error =>
      refine Or.inr ⟨?_, .refl s⟩
      rintro ⟨other, community, hAdmits⟩
      cases hOnly other community hAdmits
      have hPasses : refuseIf (routing.ipcCommunityId.isSome ∧ (s.hosted.lookup communityId).isNone)
          communityNotFound = .ok () := refuseIf_eq_ok_iff.mpr (by simp [hAdmits.hosted])
      rw [hPasses] at hRefused
      cases hRefused
    | ok =>
      refine Ends.bind_of_ok (a := ()) (t := s) rfl ?_
      have hCheck := checkNotBanned_run communityId sender hFaults
      cases hBanned : s.db.isBanned communityId sender with
      | true =>
        rw [hBanned, if_pos rfl] at hCheck
        unfold Ends
        rw [run_bind_of_error _ hCheck]
        refine Or.inr ⟨?_, rfl, List.tail_suffix _, fun _ => rfl⟩
        rintro ⟨other, community, hAdmits⟩
        cases hOnly other community hAdmits
        rw [hAdmits.welcome] at hBanned
        cases hBanned
      | false =>
        rw [hBanned, if_neg Bool.false_ne_true] at hCheck
        refine Ends.bind_of_ok hCheck ?_
        refine (rejoinOrJoin_effect (tail_faultless hFaults) displayName routeBlob).mono fun t hEnd => ?_
        rcases hEnd with ⟨community, hNewcomer, hAdmitted⟩ | ⟨hNobody, hKept⟩
        · refine .inl ⟨communityId, community, ⟨hTarget, hNewcomer.1, hNewcomer.2, hBanned⟩, ?_⟩
          exact ⟨hAdmitted.hosted, hAdmitted.tables, hAdmitted.faults.trans (List.tail_suffix _)⟩
        · refine .inr ⟨?_, hKept.tables, hKept.faults.trans (List.tail_suffix _), hKept.hosted⟩
          rintro ⟨other, community, hAdmits⟩
          cases hOnly other community hAdmits
          exact hNobody ⟨community, hAdmits.hosted, hAdmits.absent⟩

end

/-! ## The record of one community -/

/-- Memory and table agree on the creator of the community. -/
structure Recorded (communityId : String) (state : ServerState) : Prop where
  faultless : true ∉ state.dbFaults
  row : ∀ community, state.hosted.lookup communityId = some community →
    state.db.hasCommunity communityId = true
  creator : ∀ community, state.hosted.lookup communityId = some community →
    community.creatorPseudonymHex = recordedCreator communityId state.db

/-- The creator: in memory while the community is hosted, in its row otherwise. -/
def creatorOf (communityId : String) (state : ServerState) : String :=
  (state.hosted.lookup communityId).elim (recordedCreator communityId state.db)
    HostedCommunity.creatorPseudonymHex

structure RecordKept (communityId : String) (before after : ServerState) : Prop where
  entry : creatorEntry communityId after.db = creatorEntry communityId before.db
  faults : after.dbFaults <:+ before.dbFaults
  hosted : (after.hosted.lookup communityId).map HostedCommunity.creatorPseudonymHex =
    (before.hosted.lookup communityId).map HostedCommunity.creatorPseudonymHex

section
variable {communityId : String} {s t : ServerState}

theorem Recorded.creatorOf_eq (h : Recorded communityId s) :
    creatorOf communityId s = recordedCreator communityId s.db := by
  unfold creatorOf
  cases hCommunity : s.hosted.lookup communityId with
  | none => rfl
  | some community => exact h.creator community hCommunity

theorem CreatorsKept.recordKept (h : CreatorsKept s t) : RecordKept communityId s t :=
  ⟨by rw [creatorEntry, h.tables, ← creatorEntry], h.faults, h.hosted communityId⟩

theorem RecordKept.creator (h : RecordKept communityId s t) :
    recordedCreator communityId t.db = recordedCreator communityId s.db := by
  rw [recordedCreator_eq, recordedCreator_eq, h.entry]

theorem RecordKept.row (h : RecordKept communityId s t) :
    t.db.hasCommunity communityId = s.db.hasCommunity communityId := by
  rw [hasCommunity_eq, hasCommunity_eq, h.entry]

theorem Recorded.of_kept (h : Recorded communityId s) (hKept : RecordKept communityId s t) :
    Recorded communityId t := by
  have hFormer : ∀ community, t.hosted.lookup communityId = some community → ∃ former,
      s.hosted.lookup communityId = some former ∧
        former.creatorPseudonymHex = community.creatorPseudonymHex := by
    intro community hCommunity
    have hSame := hKept.hosted
    rw [hCommunity, Option.map_some] at hSame
    exact Option.map_eq_some_iff.mp hSame.symm
  refine ⟨fun hFault => h.faultless (hKept.faults.subset hFault), fun community hCommunity => ?_,
    fun community hCommunity => ?_⟩
  · obtain ⟨former, hHosted, _⟩ := hFormer community hCommunity
    rw [hKept.row]
    exact h.row former hHosted
  · obtain ⟨former, hHosted, hSame⟩ := hFormer community hCommunity
    rw [← hSame, hKept.creator]
    exact h.creator former hHosted

/-- What a step may do to the record: nothing, or name a creator where there is none. -/
structure Settled (communityId : String) (before after : ServerState) : Prop where
  recorded : Recorded communityId after
  kept : recordedCreator communityId before.db ≠ "" →
    recordedCreator communityId after.db = recordedCreator communityId before.db

theorem Recorded.settled (h : Recorded communityId s) (hKept : RecordKept communityId s t) :
    Settled communityId s t := ⟨h.of_kept hKept, fun _ => hKept.creator⟩

end

/-! ## Requests -/

section
variable {communityId sender : String} {s t : ServerState} {env : Environment}

theorem handleRequest_creatorsKept (target : String) (request : MemberRequest) :
    Keeps CreatorsKept (handleRequest env sender target request) := by
  intro s
  have hEdited := handleRequest_namesNoCreator env target sender request s
  refine ⟨hEdited.creators fun _ => id, hEdited.faults, fun other => ?_⟩
  obtain ⟨_, hHosted⟩ := handleRequest_outcome env sender target request s
  rcases hHosted with hSame | ⟨community, changed, hCommunity, hChanged, hInsert⟩
  · rw [hSame]
  · rw [hInsert]
    refine lookup_insert_map (fun _ => rfl) hCommunity ?_ other
    rcases hChanged with hSame | ⟨change, rfl, _, hAfter⟩
    · exact hSame.creator
    · rw [hAfter.creator]
      cases request <;> rfl

/-- A member who joins others keeps the record, and so does one who joins another community. -/
theorem Admitted.recordKept {target displayName : String} {joinedAt : Int} {routeBlob : Option (List UInt8)}
    {community : HostedCommunity}
    (h : Admitted s sender target (.join displayName joinedAt routeBlob) community t)
    (hHosted : s.hosted.lookup target = some community)
    (hOther : target = communityId → community.members ≠ []) : RecordKept communityId s t := by
  by_cases hTarget : target = communityId
  · subst hTarget
    have hMembers : community.members.isEmpty = false := List.isEmpty_eq_false_iff.mpr (hOther rfl)
    have hTables : creators t.db = creators s.db := by
      rw [h.tables, creatorsAfterJoin, hMembers, if_neg Bool.false_ne_true]
    refine CreatorsKept.recordKept ⟨hTables, h.faults, fun other => ?_⟩
    rw [h.hosted]
    refine lookup_insert_map (fun _ => rfl) hHosted ?_ other
    simp only [Change.apply, hMembers, Bool.false_eq_true, if_false]
  · have hLookup : t.hosted.lookup communityId = s.hosted.lookup communityId := by
      rw [h.hosted, Finmap.lookup_insert_of_ne _ (Ne.symm hTarget)]
    have hTables := h.tables
    unfold creatorsAfterJoin at hTables
    split at hTables
    · exact ⟨creatorEntry_named_other (Ne.symm hTarget) hTables, h.faults, by rw [hLookup]⟩
    · exact ⟨by rw [creatorEntry, hTables, ← creatorEntry], h.faults, by rw [hLookup]⟩

/-- One who joins nobody is the creator. -/
theorem Admitted.named {displayName : String} {joinedAt : Int} {routeBlob : Option (List UInt8)}
    {community : HostedCommunity} (hRecorded : Recorded communityId s)
    (h : Admitted s sender communityId (.join displayName joinedAt routeBlob) community t)
    (hHosted : s.hosted.lookup communityId = some community) (hEmpty : community.members = []) :
    Recorded communityId t ∧ recordedCreator communityId t.db = sender := by
  have hTables : creators t.db = (creators s.db).map (nameCreator communityId sender) := by
    rw [h.tables, creatorsAfterJoin, hEmpty, List.isEmpty_nil, if_pos rfl]
  have hNamed := recordedCreator_named hTables (hRecorded.row community hHosted)
  refine ⟨⟨fun hFault => hRecorded.faultless (h.faults.subset hFault), fun found hFound => ?_,
    fun found hFound => ?_⟩, hNamed⟩
  · rw [hasCommunity_named hTables]
    exact hRecorded.row community hHosted
  · rw [h.hosted, Finmap.lookup_insert] at hFound
    cases hFound
    rw [hNamed]
    simp only [Change.apply, hEmpty, List.isEmpty_nil, if_true]

/-- The sender is let into the community while it has no members. -/
def JoinsEmpty (communityId : String) (state : ServerState) (incoming : IncomingRequest) : Prop :=
  ∃ displayName routeBlob community,
    incoming.request = .join incoming.sender displayName routeBlob ∧
      Admits state incoming.routing incoming.sender communityId community ∧ community.members = []

/-- A request keeps the record, or it makes the sender the creator. -/
theorem serve_record (h : Recorded communityId s) (incoming : IncomingRequest) :
    JoinsEmpty communityId s incoming ∧ Recorded communityId (serve s incoming) ∧
        recordedCreator communityId (serve s incoming).db = incoming.sender ∨
      ¬JoinsEmpty communityId s incoming ∧ RecordKept communityId s (serve s incoming) := by
  obtain ⟨env, sender, routing, request⟩ := incoming
  cases request with
  | member request =>
    refine .inr ⟨?_, ?_⟩
    · rintro ⟨_, _, _, ⟨⟩, _⟩
    · have hKept : Keeps CreatorsKept (dispatchRequest env sender routing (.member request)) := by
        intro s
        cases hTarget : resolveCommunityId routing with
        | none =>
          unfold dispatchRequest
          rw [hTarget]
          exact .refl s
        | some target =>
          unfold dispatchRequest
          rw [hTarget]
          exact handleRequest_creatorsKept target request s
      exact (hKept s).recordKept
  | join pseudonym displayName routeBlob =>
    by_cases hClaim : pseudonym = sender
    · subst hClaim
      have hServe : serve s ⟨env, pseudonym, routing, .join pseudonym displayName routeBlob⟩ =
          Result.state ((handleJoin env pseudonym routing displayName routeBlob).run s) := by
        simp [serve, dispatchRequest, handleJoinRequest, refuseIf]
      have hEffect := handleJoin_effect env pseudonym h.faultless routing displayName routeBlob
      unfold Ends at hEffect
      rw [← hServe] at hEffect
      rcases hEffect with ⟨target, community, hAdmits, hAdmitted⟩ | ⟨hNobody, hKept⟩
      · by_cases hFirst : target = communityId ∧ community.members = []
        · obtain ⟨rfl, hEmpty⟩ := hFirst
          exact .inl ⟨⟨displayName, routeBlob, community, rfl, hAdmits, hEmpty⟩,
            hAdmitted.named h hAdmits.hosted hEmpty⟩
        · refine .inr ⟨?_, hAdmitted.recordKept hAdmits.hosted fun hTarget hEmpty => hFirst ⟨hTarget, hEmpty⟩⟩
          rintro ⟨_, _, found, _, hFound, hEmpty⟩
          have hSame : communityId = target :=
            Option.some.inj (hFound.target.symm.trans hAdmits.target)
          subst hSame
          have hCommunity := hFound.hosted.symm.trans hAdmits.hosted
          cases hCommunity
          exact hFirst ⟨rfl, hEmpty⟩
      · refine .inr ⟨?_, hKept.recordKept⟩
        rintro ⟨_, _, community, _, hAdmits, _⟩
        exact hNobody ⟨communityId, community, hAdmits⟩
    · have hServe : serve s ⟨env, sender, routing, .join pseudonym displayName routeBlob⟩ = s := by
        simp [serve, dispatchRequest, handleJoinRequest, refuseIf, hClaim]
      refine .inr ⟨?_, ?_⟩
      · rintro ⟨_, _, _, hRequest, _⟩
        exact hClaim (CommunityRequest.join.inj hRequest).1
      · rw [hServe]
        exact (CreatorsKept.refl s).recordKept

end

/-! ## Hosting -/

section
variable {communityId : String} {s t : ServerState} {env : Environment}

theorem loadOrCreateMek_beside : Keeps (Beside Statement.Routine) (loadOrCreateMek env communityId) := by
  refine (beside_query _).bind fun row => ?_
  cases row.join with
  | some mek => exact keeps_pure _
  | none => exact (beside_executeIgnoring (.insertOrReplaceMek _) trivial).bind fun _ => keeps_pure _

theorem load_beside {α : Type} (read : Database → α) : Keeps (Beside Statement.Routine) (load read) :=
  (beside_query _).bind fun _ => keeps_ofExcept _

theorem loadOrCreateRoles_beside : Keeps (Beside Statement.Routine) (loadOrCreateRoles communityId) := by
  refine (load_beside _).bind fun roles => ?_
  split
  · refine Keeps.bind (keeps_list_forM _ fun role => ?_) fun _ => keeps_pure _
    exact (beside_execute (.insertRoleOrIgnore ⟨communityId, role⟩) trivial).bind fun _ => keeps_ofExcept _
  · exact keeps_pure _

/-- The community has its row and is not in memory yet. -/
structure Begun (communityId : String) (before now : ServerState) : Prop where
  faultless : true ∉ now.dbFaults
  absent : now.hosted.lookup communityId = none
  row : now.db.hasCommunity communityId = true
  creator : recordedCreator communityId now.db = recordedCreator communityId before.db

theorem Begun.beside {u : ServerState} (h : Begun communityId s t) (hBeside : Beside Statement.Routine t u) :
    Begun communityId s u :=
  ⟨fun hFault => h.faultless (hBeside.edited.faults.subset hFault),
    by rw [hBeside.hosted, h.absent],
    by rw [hasCommunity_eq, creatorEntry, hBeside.creators, ← creatorEntry, ← hasCommunity_eq, h.row],
    by rw [recordedCreator_eq, creatorEntry, hBeside.creators, ← creatorEntry, ← recordedCreator_eq, h.creator]⟩

theorem Begun.settled (h : Begun communityId s t) : Settled communityId s t := by
  refine ⟨⟨h.faultless, fun community hCommunity => ?_, fun community hCommunity => ?_⟩, fun _ => h.creator⟩
  · rw [h.absent] at hCommunity
    cases hCommunity
  · rw [h.absent] at hCommunity
    cases hCommunity

/-- The community comes into memory with the creator of its row. -/
theorem Begun.hosts (h : Begun communityId s t) {u : ServerState} {community : HostedCommunity}
    (hFaults : true ∉ u.dbFaults) (hHosted : u.hosted.lookup communityId = some community)
    (hRow : u.db.hasCommunity communityId = true)
    (hCreator : community.creatorPseudonymHex = recordedCreator communityId u.db)
    (hKept : recordedCreator communityId t.db ≠ "" →
      recordedCreator communityId u.db = recordedCreator communityId t.db) : Settled communityId s u := by
  refine ⟨⟨hFaults, fun found hFound => ?_, fun found hFound => ?_⟩, fun hSome => ?_⟩
  · exact hRow
  · rw [hHosted] at hFound
    cases hFound
    exact hCreator
  · rw [← h.creator] at hSome ⊢
    exact hKept hSome

theorem insertCommunity_hasCommunity (db : Database) (row : CommunityRow) :
    ∃ db', db.insertCommunity row = some db' ∧ db'.hasCommunity row.id = true := by
  unfold Database.insertCommunity
  split
  · rename_i hThere
    exact ⟨db, rfl, hThere⟩
  · refine ⟨_, rfl, ?_⟩
    simp [Database.hasCommunity]

theorem registerCreator_settled {creatorKey creatorDisplayName : String} {community : HostedCommunity}
    (h : Begun communityId s t) (hCreator : community.creatorPseudonymHex = recordedCreator communityId t.db) :
    Ends (Settled communityId s) (registerCreator env communityId creatorKey creatorDisplayName community >>=
      setCommunity communityId) t := by
  unfold registerCreator
  split
  · rename_i hRegisters
    simp only [bind_assoc, pure_bind]
    refine Ends.bind_of_keeps (insertMemberRows_beside trivial fun _ => trivial) (fun u hU => (h.beside hU).settled) fun _ u hU => ?_
    have hInserted := h.beside hU
    refine Ends.bind_of_ok (executeIgnoring_run_of_faultless hInserted.faultless _) ?_
    set named := (u.db.updateCommunity communityId fun row =>
      { row with creatorPseudonym := creatorKey }).getD u.db
    have hCreators : creators named = (creators u.db).map (nameCreator communityId creatorKey) :=
      creators_recordCreator rfl
    have hNamed := recordedCreator_named hCreators hInserted.row
    refine h.hosts (tail_faultless hInserted.faultless) (Finmap.lookup_insert _) ?_ hNamed.symm fun hSome => ?_
    · exact (hasCommunity_named hCreators communityId).trans hInserted.row
    · exact absurd (hCreator.symm.trans hRegisters.2.1) hSome
  · rw [pure_bind]
    exact h.hosts h.faultless (Finmap.lookup_insert _) h.row hCreator fun _ => rfl

theorem hostNewly_settled (hFaults : true ∉ s.dbFaults) (hAbsent : s.hosted.lookup communityId = none)
    (name creatorKey creatorDisplayName : String) (setup : Except HostError Unit) :
    Ends (Settled communityId s) (hostNewly env communityId name creatorKey creatorDisplayName setup) s := by
  unfold hostNewly
  refine Ends.bind_of_ok (executeIgnoring_run_of_faultless hFaults _) ?_
  set row : CommunityRow := { id := communityId, name := name, description := "", creatorPseudonym := "" }
  have hBegun : Begun communityId s
      { s with dbFaults := s.dbFaults.tail, db := (s.db.insertCommunity row).getD s.db } := by
    obtain ⟨db, hRun, hRow⟩ := insertCommunity_hasCommunity s.db row
    rw [hRun, Option.getD_some]
    exact ⟨tail_faultless hFaults, hAbsent, hRow, (insertCommunity_recordedCreator hRun).2⟩
  refine Ends.bind_of_keeps loadOrCreateMek_beside (fun t hT => (hBegun.beside hT).settled) fun mek t hT => ?_
  replace hBegun := hBegun.beside hT
  refine Ends.bind_of_keeps (load_beside _) (fun t hT => (hBegun.beside hT).settled) fun channels t hT => ?_
  replace hBegun := hBegun.beside hT
  refine Ends.bind_of_keeps loadOrCreateRoles_beside (fun t hT => (hBegun.beside hT).settled) fun roles t hT => ?_
  replace hBegun := hBegun.beside hT
  refine Ends.bind_of_keeps (load_beside _) (fun t hT => (hBegun.beside hT).settled) fun members t hT => ?_
  replace hBegun := hBegun.beside hT
  refine Ends.bind_ofExcept hBegun.settled fun _ _ => ?_
  refine Ends.bind_of_keeps (beside_query _) (fun t hT => (hBegun.beside hT).settled) fun description t hT => ?_
  replace hBegun := hBegun.beside hT
  refine Ends.bind_of_ok (query_run_of_faultless hBegun.faultless _) ?_
  refine registerCreator_settled ?_ rfl
  exact ⟨tail_faultless hBegun.faultless, hBegun.absent, hBegun.row, hBegun.creator⟩

theorem RecordKept.of_hosts {other : String} (hOther : communityId ≠ other)
    (hEdited : Edited (Statement.Hosts other) s t)
    (hHosted : t.hosted.lookup communityId = s.hosted.lookup communityId) : RecordKept communityId s t :=
  ⟨hEdited.keeps fun _ hStatement _ _ hRun => hStatement.creatorEntry hOther hRun, hEdited.faults,
    by rw [hHosted]⟩

end

/-! ## Runs -/

/-- Someone joins the empty community of another creator. -/
def TakesOver (communityId : String) (state : ServerState) : ServerEvent → Prop
  | .request incoming => JoinsEmpty communityId state incoming ∧
      creatorOf communityId state ≠ "" ∧ creatorOf communityId state ≠ incoming.sender
  | _ => False

/-- A join puts the sender on the roster with the roles of an owner. -/
def JoinsAsOwner (communityId : String) (state : ServerState) (incoming : IncomingRequest) : Prop :=
  (∃ pseudonym displayName routeBlob, incoming.request = .join pseudonym displayName routeBlob) ∧
    ∃ before after member, state.hosted.lookup communityId = some before ∧
      findMember before.members incoming.sender = none ∧
      (serve state incoming).hosted.lookup communityId = some after ∧
      findMember after.members incoming.sender = some member ∧ member.roleIds = defaultRoleIds true

/-- The step keeps a recorded creator, and makes no one else an owner by joining. -/
structure CreatorStable (communityId : String) (state : ServerState) (event : ServerEvent) : Prop where
  kept : creatorOf communityId state ≠ "" →
    creatorOf communityId (handleEvent state event) = creatorOf communityId state
  owners : ∀ incoming, event = .request incoming → JoinsAsOwner communityId state incoming →
    creatorOf communityId (handleEvent state event) = incoming.sender ∧
      (creatorOf communityId state ≠ "" → creatorOf communityId state = incoming.sender)

section
variable {communityId : String} {s : ServerState}

theorem unhost_recordKept {other : String} (hOther : communityId ≠ other) :
    RecordKept communityId s (handleEvent s (.unhost other)) := by
  refine RecordKept.of_hosts hOther (unhostCommunity_edited other s) ?_
  change (Result.state ((unhostCommunity other).run s)).hosted.lookup communityId = _
  cases hCommunity : s.hosted.lookup other with
  | none => rw [unhostCommunity_of_absent hCommunity, Result.state_ok]
  | some community =>
    rw [unhostCommunity_of_hosted hCommunity]
    exact Finmap.lookup_erase_ne hOther

theorem host_settled (h : Recorded communityId s) (env : Environment)
    (hosted name creatorKey creatorDisplayName : String) (setup : Except HostError Unit) :
    Settled communityId s (handleEvent s (.host env hosted name creatorKey creatorDisplayName setup)) := by
  have hEdited : Edited (Statement.Hosts hosted) s
      (handleEvent s (.host env hosted name creatorKey creatorDisplayName setup)) :=
    hostCommunity_edited env hosted name creatorKey creatorDisplayName setup s
  cases hCommunity : s.hosted.lookup hosted with
  | some community =>
    have hSame : handleEvent s (.host env hosted name creatorKey creatorDisplayName setup) = s := by
      have hLookup : (lookupCommunity hosted : HostM _).run s = .ok (some community) s :=
        congrArg (EStateM.Result.ok · s) hCommunity
      rw [handleEvent, hostCommunity, run_bind_of_ok _ hLookup]
      rfl
    rw [hSame]
    exact ⟨h, fun _ => rfl⟩
  | none =>
    have hNew : handleEvent s (.host env hosted name creatorKey creatorDisplayName setup) =
        Result.state ((hostNewly env hosted name creatorKey creatorDisplayName setup).run s) := by
      have hLookup : (lookupCommunity hosted : HostM _).run s = .ok none s :=
        congrArg (EStateM.Result.ok · s) hCommunity
      rw [handleEvent, hostCommunity, run_bind_of_ok _ hLookup]
    rw [hNew] at hEdited ⊢
    by_cases hOther : communityId = hosted
    · subst hOther
      exact hostNewly_settled h.faultless hCommunity name creatorKey creatorDisplayName setup
    · refine h.settled (RecordKept.of_hosts hOther hEdited ?_)
      exact (hostNewly_othersKept env name creatorKey creatorDisplayName setup s).hosted communityId hOther

/-- Every step but deleting the community settles the record, unless it is a take-over. -/
theorem handleEvent_settled (h : Recorded communityId s) {event : ServerEvent}
    (hStays : event ≠ .unhost communityId) :
    Recorded communityId (handleEvent s event) ∧
      (¬TakesOver communityId s event → Settled communityId s (handleEvent s event)) := by
  cases event with
  | restart =>
    have hRestarted : Recorded communityId (handleEvent s .restart) := by
      refine ⟨h.faultless, fun community hCommunity => ?_, fun community hCommunity => ?_⟩
      · cases Finmap.lookup_empty communityId ▸ hCommunity
      · cases Finmap.lookup_empty communityId ▸ hCommunity
    exact ⟨hRestarted, fun _ => ⟨hRestarted, fun _ => rfl⟩⟩
  | unhost other =>
    have hSettled := h.settled (unhost_recordKept (s := s) fun hSame => hStays (hSame ▸ rfl))
    exact ⟨hSettled.recorded, fun _ => hSettled⟩
  | host env hosted name creatorKey creatorDisplayName setup =>
    have hSettled := host_settled h env hosted name creatorKey creatorDisplayName setup
    exact ⟨hSettled.recorded, fun _ => hSettled⟩
  | request incoming =>
    rcases serve_record h incoming with ⟨hJoins, hRecorded, hNamed⟩ | ⟨_, hKept⟩
    · refine ⟨hRecorded, fun hMild => ⟨hRecorded, fun hSome => ?_⟩⟩
      have hSame : creatorOf communityId s = incoming.sender := by
        by_contra hElse
        exact hMild ⟨hJoins, by rwa [h.creatorOf_eq], hElse⟩
      rw [← h.creatorOf_eq, hSame]
      exact hNamed
    · exact ⟨h.of_kept hKept, fun _ => h.settled hKept⟩

theorem joinsAsOwner_creator {incoming : IncomingRequest} (h : JoinsAsOwner communityId s incoming) :
    creatorOf communityId (serve s incoming) = incoming.sender := by
  obtain ⟨⟨pseudonym, displayName, routeBlob, hRequest⟩, before, after, member, hBefore, hNew, hAfter, hMember,
    hOwner⟩ := h
  obtain ⟨found, hFound, hChanged⟩ := serve_changed s incoming hBefore
  rw [hAfter] at hFound
  cases hFound
  unfold creatorOf
  rw [hAfter]
  change after.creatorPseudonymHex = _
  rcases hChanged with hSame | ⟨change, rfl, _, hSame⟩
  · rw [hSame.members, hNew] at hMember
    cases hMember
  · rw [hRequest] at hSame
    simp only [requestedChange, hNew] at hSame
    rw [hSame.members, Change.apply, findMember_joined, hNew, newMember, if_pos rfl] at hMember
    cases hMember
    have hEmpty : before.members.isEmpty = true := by
      cases hMembers : before.members.isEmpty with
      | true => rfl
      | false =>
        rw [hMembers] at hOwner
        cases hOwner
    rw [hSame.creator, Change.apply, hEmpty, if_pos rfl]

theorem creatorStable_iff (h : Recorded communityId s) {event : ServerEvent}
    (hStays : event ≠ .unhost communityId) :
    CreatorStable communityId s event ↔ ¬TakesOver communityId s event := by
  have hEvent := handleEvent_settled h hStays
  constructor
  · intro hStable hTakes
    cases event with
    | request incoming =>
      obtain ⟨hJoins, hSome, hElse⟩ := hTakes
      rcases serve_record h incoming with ⟨_, hRecorded, hNamed⟩ | ⟨hNot, _⟩
      · have hKept := hStable.kept hSome
        rw [hEvent.1.creatorOf_eq] at hKept
        exact hElse (hKept.symm.trans hNamed)
      · exact hNot hJoins
    | _ => exact hTakes
  · intro hMild
    have hSettled := hEvent.2 hMild
    have hKept : creatorOf communityId s ≠ "" →
        creatorOf communityId (handleEvent s event) = creatorOf communityId s := by
      rw [h.creatorOf_eq, hEvent.1.creatorOf_eq]
      exact hSettled.kept
    refine ⟨hKept, fun incoming hRequest hJoins => ?_⟩
    subst hRequest
    have hCreator : creatorOf communityId (handleEvent s (.request incoming)) = incoming.sender :=
      joinsAsOwner_creator hJoins
    exact ⟨hCreator, fun hSome => (hKept hSome).symm.trans hCreator⟩

theorem initial_recorded {dbFaults : List Bool} (hFaults : true ∉ dbFaults) :
    Recorded communityId (ServerState.initial dbFaults) := by
  refine ⟨hFaults, fun community hCommunity => ?_, fun community hCommunity => ?_⟩
  · rw [ServerState.initial, Finmap.lookup_empty] at hCommunity
    cases hCommunity
  · rw [ServerState.initial, Finmap.lookup_empty] at hCommunity
    cases hCommunity

/-- Along a run without database errors that does not delete the community, every step keeps the
creator exactly when none is a take-over. -/
theorem creator_stable_iff {dbFaults : List Bool} (hFaults : true ∉ dbFaults) {events : List ServerEvent}
    (hStays : .unhost communityId ∉ events) :
    Along handleEvent (CreatorStable communityId) (ServerState.initial dbFaults) events ↔
      Along handleEvent (fun state event => ¬TakesOver communityId state event)
        (ServerState.initial dbFaults) events := by
  refine Along.congr_of_invariant (Recorded communityId) (fun state event hEvent h => ?_) (initial_recorded hFaults)
  have hStep : event ≠ .unhost communityId := fun hSame => hStays (hSame ▸ hEvent)
  exact ⟨(handleEvent_settled h hStep).1, creatorStable_iff h hStep⟩

end

/-! ## The creator leaves -/

namespace Reference

def aliceHosts : ServerEvent := .host sampleEnvironment "c" "Community" "alice" "Alice" (.ok ())

def aliceLeaves : ServerEvent := .request (sampleRequest "alice" (.member .leave))

def bobJoins : ServerEvent := .request (sampleRequest "bob" (.join "bob" "Bob" none))

theorem joiner_takes_over : ¬∀ communityId dbFaults events, true ∉ dbFaults →
    ServerEvent.unhost communityId ∉ events →
      Along handleEvent (CreatorStable communityId) (ServerState.initial dbFaults) events := by
  intro hClaim
  have hStable := (hClaim "c" [] ([aliceHosts, aliceLeaves] ++ [bobJoins]) (by simp)
    (by simp [aliceHosts, aliceLeaves, bobJoins])).last.kept
  have hBefore : creatorOf "c" (final handleEvent (ServerState.initial []) [aliceHosts, aliceLeaves]) = "alice" := by
    decide +kernel
  have hAfter : creatorOf "c" (handleEvent
      (final handleEvent (ServerState.initial []) [aliceHosts, aliceLeaves]) bobJoins) = "bob" := by
    decide +kernel
  rw [hBefore, hAfter] at hStable
  exact absurd (hStable (by decide)) (by decide)

theorem joiner_beside_creator :
    true ∉ ([] : List Bool) ∧ ServerEvent.unhost "c" ∉ [aliceHosts, bobJoins] ∧
      Along handleEvent (CreatorStable "c") (ServerState.initial []) [aliceHosts, bobJoins] := by
  have hFaults : true ∉ ([] : List Bool) := List.not_mem_nil
  have hStays : ServerEvent.unhost "c" ∉ [aliceHosts, bobJoins] := by simp [aliceHosts, bobJoins]
  refine ⟨hFaults, hStays, (creator_stable_iff hFaults hStays).mpr ⟨id, ?_, trivial⟩⟩
  rintro ⟨⟨_, _, community, _, hAdmits, hEmpty⟩, _⟩
  have hMembers : inSample (handleEvent (ServerState.initial []) aliceHosts) (fun found => !found.members.isEmpty) =
      true := by decide +kernel
  have hTest := test_of_inSample hMembers hAdmits.hosted
  rw [hEmpty] at hTest
  cases hTest

end Reference

end Rekindle.Server
