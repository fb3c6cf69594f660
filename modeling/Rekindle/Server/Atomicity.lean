import Rekindle.Server.Answers
import Rekindle.Server.Hosting

/-! # Errors that change nothing -/
namespace Rekindle.Server
set_option autoImplicit false
open Fallible

/-- The tables are sets of rows. -/
def SameRows {α : Type} (before after : List α) : Prop := ∀ row, row ∈ after ↔ row ∈ before

structure Unchanged (before after : ServerState) : Prop where
  hosted : after.hosted = before.hosted
  communities : SameRows before.db.hostedCommunities after.db.hostedCommunities
  members : SameRows before.db.serverMembers after.db.serverMembers
  keys : SameRows before.db.serverMek after.db.serverMek
  channels : SameRows before.db.serverChannels after.db.serverChannels
  messages : SameRows before.db.serverMessages after.db.serverMessages
  bans : SameRows before.db.bannedMembers after.db.bannedMembers
  roles : SameRows before.db.serverRoles after.db.serverRoles
  memberRoles : SameRows before.db.serverMemberRoles after.db.serverMemberRoles
  overwrites : SameRows before.db.serverChannelOverwrites after.db.serverChannelOverwrites
  timeouts : SameRows before.db.serverMemberTimeouts after.db.serverMemberTimeouts

def IncomingRequest.answer (incoming : IncomingRequest) (s : ServerState) :
    EStateM.Result RpcError ServerState CommunityResponse :=
  (dispatchRequest incoming.env incoming.sender incoming.routing incoming.request).run s

/-- An error answer to the request changes nothing. -/
def ErrorAtomic (s : ServerState) (incoming : IncomingRequest) : Prop :=
  ∀ e t, incoming.answer s = .error e t → Unchanged s t

/-- Routes are looked up among the hosted communities. -/
def Routing.Leads (routing : Routing) (s : ServerState) : Prop :=
  ∀ communityId, routing.routeCommunityId = some communityId → communityId ∈ s.hosted

section
variable (env : Environment) (communityId sender : String) (s : ServerState)

/-- The table has just this row for the banned. -/
def JustBanned (row : BanRow) : Prop :=
  row ∈ s.db.bannedMembers ∧ ∀ other ∈ s.db.bannedMembers, other.communityId = row.communityId →
    other.pseudonymKeyHex = row.pseudonymKeyHex → other = row

/-- The request bans someone outside the roster, and the database writes a row that it did not have. -/
def NewlyBansOutsider (s : ServerState) (incoming : IncomingRequest) : Prop :=
  ∃ communityId target, resolveCommunityId incoming.routing = some communityId ∧
    incoming.request = .member (.ban target) ∧
    BansOutsider incoming.env communityId incoming.sender s target ∧
    s.Answering ∧ s.db.hasCommunity communityId = true ∧
    ¬JustBanned s (outsiderBan incoming.env communityId target)

variable {env communityId sender s}

theorem Unchanged.of_bans {t : ServerState} {bans : List BanRow} (hHosted : t.hosted = s.hosted)
    (hDb : t.db = { s.db with bannedMembers := bans }) (hBans : SameRows s.db.bannedMembers bans) :
    Unchanged s t := by
  constructor
  · exact hHosted
  all_goals rw [hDb]
  case bans => exact hBans
  all_goals exact fun _ => Iff.rfl

theorem SameData.unchanged {t : ServerState} (h : SameData s t) : Unchanged s t :=
  Unchanged.of_bans h.hosted h.db fun _ => Iff.rfl

/-- The replaced table has the new row, and the others as they were. -/
theorem sameRows_replaced_iff (row : BanRow) :
    SameRows s.db.bannedMembers (s.db.bannedMembers.filter (fun other =>
      !(other.communityId == row.communityId && other.pseudonymKeyHex == row.pseudonymKeyHex)) ++ [row]) ↔
      JustBanned s row := by
  unfold SameRows JustBanned
  simp only [List.mem_append, List.mem_filter, List.mem_singleton, Bool.not_eq_true', Bool.and_eq_false_iff,
    beq_eq_false_iff_ne]
  constructor
  · intro h
    refine ⟨(h row).mp (.inr rfl), fun other hOther hCommunity hTarget => ?_⟩
    rcases (h other).mpr hOther with ⟨_, hDiffers⟩ | hRow
    · rcases hDiffers with hDiffers | hDiffers
      · exact absurd hCommunity hDiffers
      · exact absurd hTarget hDiffers
    · exact hRow
  · rintro ⟨hRow, hOnly⟩ other
    constructor
    · rintro (⟨hOther, _⟩ | rfl)
      · exact hOther
      · exact hRow
    · intro hOther
      by_cases hSame : other.communityId = row.communityId ∧ other.pseudonymKeyHex = row.pseudonymKeyHex
      · exact .inr (hOnly other hOther hSame.1 hSame.2)
      · exact .inl ⟨hOther, by tauto⟩

/-- Whoever passes the checks of `handle_ban` gets to the row, and then fails the check of
`handle_leave` on the target. -/
theorem handleBan_outsider {target : String} (h : BansOutsider env communityId sender s target) :
    ∃ e t, (handleBan env communityId sender target).run s = .error e t ∧
      OutsiderBanned env communityId sender s target t := by
  obtain ⟨community, hCommunity, ⟨hMember, hPermitted⟩, hOther, hOutranks, hOutsider⟩ := id h
  have hOpen : (openCommunity env communityId sender banMembers).run s = .ok community s := by
    unfold openCommunity getCommunity
    rw [IsMember] at hMember
    rw [Permitted] at hPermitted
    simp only [bind_assoc]
    change (ofExcept (orThrow (s.hosted.lookup communityId) communityNotFound) >>= _ : ServerM _).run s = _
    simp only [hCommunity, orThrow, Option.elim_some, ofExcept_ok_bind, hMember, hPermitted]
    rfl
  have hNotSelf : refuseIf (sender = target) (⟨400, "cannot ban yourself"⟩ : RpcError) = .ok () :=
    refuseIf_eq_ok_iff.mpr hOther
  have hHierarchy : checkHierarchy community sender target = .ok () := hOutranks
  have hBan : Settles (fun _ _ => False) (fun _ t => OutsiderBanned env communityId sender s target t)
      (handleBan env communityId sender target) s := by
    unfold handleBan Settles
    rw [run_bind_of_ok _ hOpen]
    simp only [hNotSelf, hHierarchy, ofExcept_ok_bind]
    refine (settles_executeIgnoring s _).bind (fun _ t hWritten => ?_) (fun _ _ => False.elim)
    have hTarget : MemberIfHosted target communityId t ↔ IsMember community target :=
      memberIfHosted_iff communityId s hCommunity hWritten.1
    refine Settles.mono (handleLeave_settles env communityId target t)
      (fun _ _ hMember => hOutsider (hTarget.mp hMember)) fun _ u hRefused => ?_
    have hSame : SameData t u := hRefused.2.resolve_right id
    refine ⟨h, ?_, ?_⟩
    · rw [hSame.hosted, hWritten.1]
    · rw [hSame.db, hWritten.2, findMember_of_not_isMember hOutsider]
      rfl
  rcases hBan.cases with ⟨_, _, _, hFalse⟩ | hError
  · exact hFalse.elim
  · exact hError

theorem OutsiderBanned.unchanged_iff {target : String} {t : ServerState}
    (h : OutsiderBanned env communityId sender s target t) :
    Unchanged s t ↔ ¬(s.Answering ∧ s.db.hasCommunity communityId = true ∧
      ¬JustBanned s (outsiderBan env communityId target)) := by
  have hDb := h.db
  unfold ServerState.Answering
  by_cases hWritten : s.dbFaults.headD false = false ∧ s.db.hasCommunity communityId = true
  · have hCommunity : s.db.hasCommunity (outsiderBan env communityId target).communityId = true := hWritten.2
    simp only [hWritten.1, Database.insertOrReplaceBan, hCommunity] at hDb
    have hBans : Unchanged s t ↔ JustBanned s (outsiderBan env communityId target) := by
      rw [← sameRows_replaced_iff]
      constructor
      · intro hUnchanged
        have hSame := hUnchanged.bans
        rwa [hDb] at hSame
      · exact Unchanged.of_bans h.hosted hDb
    rw [hBans]
    tauto
  · have hSame : t.db = s.db := by
      rw [hDb]
      cases hFault : s.dbFaults.headD false with
      | true => rfl
      | false =>
        have hMissing : s.db.hasCommunity (outsiderBan env communityId target).communityId = false := by
          rw [← Bool.not_eq_true]
          exact fun hCommunity => hWritten ⟨hFault, hCommunity⟩
        simp [Database.insertOrReplaceBan, hMissing]
    have hUnchanged : Unchanged s t := SameData.unchanged ⟨h.hosted, hSame⟩
    tauto

/-- An error changes nothing, but for a new ban of someone outside the roster. -/
theorem error_atomic_iff {incoming : IncomingRequest} (hRoute : incoming.routing.Leads s) :
    ErrorAtomic s incoming ↔ ¬NewlyBansOutsider s incoming := by
  constructor
  · rintro hAtomic ⟨communityId, target, hTarget, hBan, hOutsider, hWritten⟩
    obtain ⟨e, t, hRun, hBanned⟩ := handleBan_outsider hOutsider
    refine hBanned.unchanged_iff.mp (hAtomic e t ?_) hWritten
    rw [IncomingRequest.answer, hBan, dispatchRequest, hTarget]
    exact hRun
  · intro hCondition e t hRun
    have hAnswers := dispatch_settles s incoming
    unfold AnswersOr Settles at hAnswers
    rw [IncomingRequest.answer] at hRun
    rw [hRun] at hAnswers
    obtain ⟨_, hSame | hWrites⟩ := hAnswers
    · exact hSame.unchanged
    · obtain ⟨env, sender, routing, request⟩ := incoming
      cases request with
      | join pseudonym displayName routeBlob =>
        obtain ⟨hIpc, communityId, hTarget, hNone⟩ := hWrites
        rw [Routing.joinTarget, hIpc] at hTarget
        have hHosted := hRoute communityId hTarget
        exact absurd hHosted (Finmap.lookup_eq_none.mp hNone)
      | member request =>
        obtain ⟨communityId, hTarget, target, rfl, hBanned⟩ := hWrites
        rw [hBanned.unchanged_iff]
        rintro ⟨hAnswering, hCommunity, hNew⟩
        exact hCondition ⟨communityId, target, hTarget, rfl, hBanned.outsider, hAnswering, hCommunity, hNew⟩

end

/-! ## A ban of someone who is not there -/

theorem sample_leads (state : ServerState) (sender : String) (request : CommunityRequest) :
    (sampleRequest sender request).routing.Leads state := by
  rintro communityId ⟨⟩

/-- A kick of someone who never joined is refused and changes nothing. -/
theorem kick_atomic : ErrorAtomic hostedByAlice (sampleRequest "alice" (.member (.kick "mallory"))) := by
  rw [error_atomic_iff (sample_leads _ _ _)]
  rintro ⟨communityId, target, _, hBan, _⟩
  cases hBan

theorem hostedByAlice_reachable : Reachable hostedByAlice := by
  refine ⟨[], [.host sampleEnvironment "c" "Community" "alice" "Alice" (.ok ())], ?_⟩
  rw [Runs.final_cons, Runs.final_nil, hostedByAlice]

def refusedBan : IncomingRequest := sampleRequest "alice" (.member (.ban "mallory"))

/-- A ban of someone who never joined is answered with an error, and is there. -/
theorem ban_not_atomic : Reachable hostedByAlice ∧ refusedBan.routing.Leads hostedByAlice ∧
    ¬ErrorAtomic hostedByAlice refusedBan := by
  refine ⟨hostedByAlice_reachable, sample_leads _ _ _, fun hAtomic => ?_⟩
  have hRefused : (Result.value? (refusedBan.answer hostedByAlice)).isNone = true ∧
      (Result.state (refusedBan.answer hostedByAlice)).db.isBanned "c" "mallory" = true := by decide +kernel
  have hNobody : hostedByAlice.db.isBanned "c" "mallory" = false := by decide +kernel
  unfold ErrorAtomic at hAtomic
  generalize refusedBan.answer hostedByAlice = answer at hAtomic hRefused
  cases answer with
  | ok response t => cases hRefused.1
  | error e t =>
    obtain ⟨row, hRow, hKey⟩ := List.any_eq_true.mp hRefused.2
    have hOld : hostedByAlice.db.isBanned "c" "mallory" = true :=
      List.any_eq_true.mpr ⟨row, ((hAtomic e t rfl).bans row).mp hRow, hKey⟩
    rw [hNobody] at hOld
    cases hOld

end Rekindle.Server
