import Rekindle.Community.Rosters
import Rekindle.Server.Announcements
import Rekindle.Server.Holdings

/-! # A member's copy of the roster

The server answers requests and sends broadcasts; the broadcasts on a client's routes wait for it, and it handles them
one by one in the order they were sent.
-/
namespace Rekindle.Community
set_option autoImplicit false
open Runs
open Server (Announcement CommunityBroadcast HostedCommunity IncomingRequest MemberRequest RoleDto ServerMember
  ServerState announced findMember memberRoutes nextRoleId rolesToDto serve)

def RosterEntry.ofMember (member : ServerMember) : RosterEntry := ⟨member.roleIds, member.timeoutUntil⟩

/-- The roster as the server has it. -/
def rosterOf (community : HostedCommunity) : Roster where
  roles := rolesToDto community
  members pseudonym := (findMember community.members pseudonym).map .ofMember

/-- A client as the server knows it: its pseudonym in the community, and the routes that lead to it. -/
structure Link where
  communityId : String
  me : String
  routes : List (List UInt8)
  /-- A pseudonym is the text of a key. -/
  named : me ≠ ""

structure Linked where
  server : ServerState
  client : Replica
  waiting : List CommunityBroadcast

inductive LinkEvent where
  | request (incoming : IncomingRequest)
  | delivery (env : Surroundings)

namespace Link

variable (link : Link)

/-- What of the sent broadcasts comes to the client. -/
def reaching (sent : List (List UInt8 × CommunityBroadcast)) : List CommunityBroadcast :=
  (sent.filter (·.1 ∈ link.routes)).map (·.2)

def step (s : Linked) : LinkEvent → Linked
  | .request incoming =>
    let server := serve s.server incoming
    { s with server, waiting := s.waiting ++ link.reaching (server.sent.drop s.server.sent.length) }
  | .delivery env =>
    match s.waiting with
    | [] => s
    | broadcast :: rest => { s with client := s.client.handleCommunityBroadcast env broadcast, waiting := rest }

/-- The server has a route of the client. -/
def Reached (community : HostedCommunity) : Prop :=
  ∃ member route, findMember community.members link.me = some member ∧ member.routeBlob = some route ∧
    route ∈ link.routes

/-- A quiet server has a member whose client has its roster, or a client without the community. -/
def Converged (s : Linked) : Prop :=
  s.waiting = [] → ∀ community, s.server.hosted.lookup link.communityId = some community →
    (link.Reached community → Mirrors link.communityId link.me (rosterOf community) s.client) ∧
      (findMember community.members link.me = none → s.client.community? link.communityId = none)

/-- The request is none whose effect the members are not all told of. -/
def FitsIn (community : HostedCommunity) (incoming : IncomingRequest) : Prop :=
  match incoming.request with
  | .join _ _ routeBlob => incoming.sender = link.me → ∀ route, routeBlob = some route → route ∈ link.routes
  | .member .leave => incoming.sender ≠ link.me
  | .member (.kick target) | .member (.ban target) => target ≠ link.me
  | .member (.createRole _ _ _ _ _) => nextRoleId community.roles ∉ community.roles.map (·.id)
  | .member (.deleteRole roleId) => ∀ member ∈ community.members, roleId ∉ member.roleIds
  | _ => True

def Fits (s : Linked) : LinkEvent → Prop
  | .request incoming => incoming.target = some link.communityId → incoming.Passes s.server →
      ∀ community, s.server.hosted.lookup link.communityId = some community → link.FitsIn community incoming
  | .delivery _ => True

end Link

/-! ## What the members are told -/

namespace Roster

/-- What the roster of one community is after a broadcast of any. -/
def hear (communityId : String) (roster : Roster) (broadcast : CommunityBroadcast) : Roster :=
  if broadcastCommunity broadcast = communityId then roster.told broadcast else roster

variable {communityId : String} {roster : Roster}

theorem hear_of_eq {broadcast : CommunityBroadcast} (h : broadcastCommunity broadcast = communityId) :
    roster.hear communityId broadcast = roster.told broadcast := if_pos h

theorem hear_hear (broadcast : CommunityBroadcast) :
    (roster.hear communityId broadcast).hear communityId broadcast = roster.hear communityId broadcast := by
  unfold hear
  split
  · exact told_told broadcast
  · rfl

/-- To hear copies is to hear one. -/
theorem foldl_hear_replicate (broadcast : CommunityBroadcast) (n : Nat) :
    (List.replicate (n + 1) broadcast).foldl (hear communityId) roster = roster.hear communityId broadcast := by
  induction n with
  | zero => rfl
  | succ n ih => rw [List.replicate_succ', List.foldl_concat, ih, hear_hear]

theorem foldl_hear_elsewhere {broadcasts : List CommunityBroadcast}
    (h : ∀ broadcast ∈ broadcasts, broadcastCommunity broadcast ≠ communityId) :
    broadcasts.foldl (hear communityId) roster = roster := by
  induction broadcasts with
  | nil => rfl
  | cons broadcast rest ih =>
    rw [List.forall_mem_cons] at h
    rw [List.foldl_cons, hear, if_neg h.1, ih h.2]

end Roster

section
variable {communityId sender : String} {community : HostedCommunity} {env : Server.Environment}

theorem rosterOf_updateMember (target : String) {change : ServerMember → ServerMember}
    {changeEntry : RosterEntry → RosterEntry} (hKey : ∀ member, (change member).pseudonymKeyHex = member.pseudonymKeyHex)
    (hEntry : ∀ member, findMember community.members target = some member →
      RosterEntry.ofMember (change member) = changeEntry (.ofMember member)) :
    rosterOf { community with members := Server.updateMember community.members target change } =
      { rosterOf community with
        members := Function.update (rosterOf community).members target
          (((rosterOf community).members target).map changeEntry) } := by
  refine Roster.ext rfl (funext fun pseudonym => ?_)
  dsimp only [rosterOf]
  rw [Server.findMember_updateMember _ _ hKey, Function.update_apply]
  split
  · rw [Option.map_map, Option.map_map]
    exact Option.map_congr hEntry
  · rfl

/-- The roster of a community whose members' roles and timeouts stay. -/
theorem rosterOf_updateMember_same (target : String) {change : ServerMember → ServerMember}
    (hKey : ∀ member, (change member).pseudonymKeyHex = member.pseudonymKeyHex)
    (hEntry : ∀ member, RosterEntry.ofMember (change member) = .ofMember member) :
    rosterOf { community with members := Server.updateMember community.members target change } =
      rosterOf community := by
  have hUpdated := @rosterOf_updateMember community target change id hKey fun member _ => hEntry member
  rw [Option.map_id, id, Function.update_eq_self] at hUpdated
  exact hUpdated

theorem told_memberRolesChanged {target : String} (change : ServerMember → ServerMember)
    (hKey : ∀ member, (change member).pseudonymKeyHex = member.pseudonymKeyHex)
    (hTimeout : ∀ member, (change member).timeoutUntil = member.timeoutUntil) :
    rosterOf { community with members := Server.updateMember community.members target change } =
      (rosterOf community).told (.memberRolesChanged communityId target
        ((findMember (Server.updateMember community.members target change) target).elim []
          ServerMember.roleIds)) := by
  refine rosterOf_updateMember target hKey fun member hMember => ?_
  rw [Server.findMember_updateMember _ _ hKey, if_pos rfl, hMember]
  exact congrArg (RosterEntry.mk _) (hTimeout member)

theorem rosterOf_departed (target : String) :
    rosterOf (Server.departure env communityId community target).community =
      (rosterOf community).told (.memberRemoved communityId target) := by
  refine Roster.ext rfl (funext fun pseudonym => ?_)
  dsimp only [rosterOf, Server.departure, Roster.told]
  rw [Server.findMember_removed, Function.update_apply]
  split <;> rfl

theorem dropRole_eq_self {roleId : UInt32} {member : ServerMember} (h : roleId ∉ member.roleIds) :
    Server.dropRole roleId member = member := by
  have hKept : member.roleIds.filter (· != roleId) = member.roleIds := by
    refine List.filter_eq_self.mpr fun held hHeld => bne_iff_ne.mpr ?_
    rintro rfl
    exact h hHeld
  unfold Server.dropRole
  rw [hKept]

/-- The announcements of a request tell what it does to the roster. -/
theorem rosterOf_request (link : Link) (incoming : IncomingRequest)
    (hFits : link.FitsIn community incoming) :
    rosterOf (incoming.effect communityId community).community =
      ((incoming.announcements communityId community (incoming.effect communityId community).community).map
        Prod.snd).foldl Roster.told (rosterOf community) := by
  obtain ⟨env, sender, routing, request⟩ := incoming
  cases request with
  | join pseudonym displayName routeBlob =>
    dsimp only [IncomingRequest.effect, IncomingRequest.announcements, Server.joinNews, Server.joinEffect]
    obtain hNone | ⟨member, hMember⟩ := Option.eq_none_or_eq_some (findMember community.members sender)
    · rw [hNone, if_pos rfl]
      refine Roster.ext rfl (funext fun other => ?_)
      change Option.map RosterEntry.ofMember (findMember (community.members ++ [_]) other) =
        Function.update (rosterOf community).members sender
          (((rosterOf community).members sender).or (some ⟨_, none⟩)) other
      rw [Server.findMember_joined, Function.update_apply]
      by_cases hOther : other = sender
      · have hEntry : (rosterOf community).members sender = none := congrArg (Option.map _) hNone
        rw [hOther, hNone, hEntry, if_pos rfl, Option.none_or, Option.none_or]
        exact congrArg _ (if_pos rfl)
      · rw [if_neg hOther, if_neg]
        · exact congrArg _ Option.or_none
        · exact Ne.symm hOther
    · rw [hMember, if_neg (Option.some_ne_none member)]
      cases routeBlob with
      | none => rfl
      | some blob => exact rosterOf_updateMember_same sender (fun _ => rfl) fun _ => rfl
  | member request =>
    dsimp only [IncomingRequest.effect, IncomingRequest.announcements]
    cases request with
    | leave => exact rosterOf_departed sender
    | kick target | ban target => exact @rosterOf_departed communityId community env target
    | deleteRole roleId =>
      refine Roster.ext rfl (funext fun pseudonym => ?_)
      dsimp only [rosterOf, MemberRequest.effect, MemberRequest.announcements, List.map_cons, List.map_nil,
        List.foldl_cons, List.foldl_nil, Roster.told]
      rw [Server.findMember_map_dropRole, Option.map_map]
      refine Option.map_congr fun member hMember => ?_
      exact congrArg RosterEntry.ofMember (dropRole_eq_self (hFits member (List.mem_of_find?_eq_some hMember)))
    | assignRole target roleId =>
      dsimp only [MemberRequest.effect, MemberRequest.announcements, List.map_cons, List.map_nil, List.foldl_cons,
        List.foldl_nil]
      split
      · next hHeld =>
        obtain ⟨member, hMember, -⟩ := (Option.any_eq_true _ _).mp hHeld
        have hEntry : (rosterOf community).members target = some (.ofMember member) := by
          dsimp only [rosterOf]
          rw [hMember, Option.map_some]
        refine Roster.ext rfl ?_
        change _ = Function.update (rosterOf community).members target (Option.map _ ((rosterOf community).members target))
        rw [hEntry, hMember]
        exact (Function.update_eq_self_iff.mpr hEntry.symm).symm
      · exact @told_memberRolesChanged communityId community target _ (fun _ => rfl) fun _ => rfl
    | unassignRole target roleId =>
      exact @told_memberRolesChanged communityId community target (Server.dropRole roleId) (fun _ => rfl) fun _ => rfl
    | timeoutMember target durationSeconds reason =>
      exact rosterOf_updateMember target (fun _ => rfl) fun _ _ => rfl
    | removeTimeout target => exact rosterOf_updateMember target (fun _ => rfl) fun _ _ => rfl
    | _ => rfl

end

/-! ## What comes to the client -/

section
variable {link : Link} {community after : HostedCommunity}

theorem announcement_community {incoming : IncomingRequest} {communityId : String} :
    ∀ announcement ∈ incoming.announcements communityId community after,
      broadcastCommunity announcement.2 = communityId := by
  obtain ⟨env, sender, routing, request⟩ := incoming
  intro announcement hNews
  cases request with
  | join pseudonym displayName routeBlob =>
    dsimp only [IncomingRequest.announcements, Server.joinNews] at hNews
    split at hNews
    · rw [List.mem_singleton.mp hNews]
      rfl
    · cases hNews
  | member request =>
    cases request with
    | leave | kick | ban =>
      rcases List.mem_cons.mp hNews with rfl | hKey
      · rfl
      · rw [List.mem_singleton.mp hKey]
        rfl
    | sendMessage | createRole | editRole | deleteRole | rotateMek | assignRole | unassignRole | setChannelOverwrite
      | timeoutMember | removeTimeout =>
      rw [List.mem_singleton.mp hNews]
      rfl
    | _ => cases hNews

/-- The announcement comes to the client if it is about the roster, and does not name it as removed. -/
structure Tells (link : Link) (after : HostedCommunity) (announcement : Announcement) : Prop where
  heard : announcement.1 ≠ link.me ∨ ∀ roster : Roster, roster.told announcement.2 = roster
  stays : announcement.2 ≠ .memberRemoved link.communityId link.me
  roles : ∀ roles, announcement.2 = .rolesChanged link.communityId roles → roles = rolesToDto after

theorem tells_departure {target : String} (hOther : target ≠ link.me) :
    ∀ announcement ∈ Server.departureNews link.communityId after target, Tells link after announcement := by
  intro announcement hNews
  rw [Server.departureNews, List.mem_cons, List.mem_singleton] at hNews
  rcases hNews with rfl | rfl
  · refine ⟨.inl hOther, fun hSame => ?_, fun roles hRoles => by cases hRoles⟩
    exact hOther (CommunityBroadcast.memberRemoved.inj hSame).2
  · exact ⟨.inl hOther, fun hSame => (by cases hSame), fun roles hRoles => by cases hRoles⟩

/-- All members are told. -/
theorem tells_all {broadcast : CommunityBroadcast}
    (hStays : broadcast ≠ .memberRemoved link.communityId link.me)
    (hRoles : ∀ roles, broadcast = .rolesChanged link.communityId roles → roles = rolesToDto after) :
    ∀ announcement ∈ [(("", broadcast) : Announcement)], Tells link after announcement := by
  intro announcement hNews
  rw [List.mem_singleton] at hNews
  subst hNews
  exact ⟨.inl (Ne.symm link.named), hStays, hRoles⟩

theorem tells_request {incoming : IncomingRequest} (hReached : link.Reached community)
    (hFits : link.FitsIn community incoming) :
    ∀ announcement ∈ incoming.announcements link.communityId community after, Tells link after announcement := by
  obtain ⟨env, sender, routing, request⟩ := incoming
  cases request with
  | join pseudonym displayName routeBlob =>
    dsimp only [IncomingRequest.announcements, Server.joinNews]
    split
    · next hNone =>
      intro announcement hNews
      rw [List.mem_singleton] at hNews
      subst hNews
      refine ⟨.inl ?_, fun hSame => (by cases hSame), fun roles hRoles => by cases hRoles⟩
      rintro rfl
      obtain ⟨member, _, hMember, -⟩ := hReached
      rw [hMember] at hNone
      cases hNone
    · intro announcement hNews
      cases hNews
  | member request =>
    cases request with
    | sendMessage =>
      intro announcement hNews
      rw [List.mem_singleton.mp hNews]
      exact ⟨.inr fun _ => rfl, fun hSame => (by cases hSame), fun roles hRoles => by cases hRoles⟩
    | leave => exact tells_departure hFits
    | kick | ban => exact tells_departure hFits
    | createRole | editRole | deleteRole =>
      refine tells_all (fun hSame => by cases hSame) fun roles hRoles => ?_
      exact (CommunityBroadcast.rolesChanged.inj hRoles).2.symm
    | rotateMek | assignRole | unassignRole | setChannelOverwrite | timeoutMember | removeTimeout =>
      exact tells_all (fun hSame => by cases hSame) fun roles hRoles => by cases hRoles
    | _ =>
      intro announcement hNews
      cases hNews

/-! ### The client stays a member -/

theorem Link.Reached.updateMember (h : link.Reached community) (target : String) {change : ServerMember → ServerMember}
    (hKey : ∀ member, (change member).pseudonymKeyHex = member.pseudonymKeyHex)
    (hRoute : ∀ member, (change member).routeBlob = member.routeBlob) :
    link.Reached { community with members := Server.updateMember community.members target change } := by
  obtain ⟨member, route, hMember, hBlob, hLeads⟩ := h
  by_cases hTarget : link.me = target
  · refine ⟨change member, route, ?_, (hRoute member).trans hBlob, hLeads⟩
    rw [Server.findMember_updateMember _ _ hKey, if_pos hTarget, ← hTarget, hMember, Option.map_some]
  · refine ⟨member, route, ?_, hBlob, hLeads⟩
    rw [Server.findMember_updateMember _ _ hKey, if_neg hTarget, hMember]

theorem Link.Reached.departed (h : link.Reached community) {env : Server.Environment} (communityId : String)
    {target : String} (hOther : target ≠ link.me) : link.Reached (Server.departure env communityId community target).community := by
  obtain ⟨member, route, hMember, hBlob, hLeads⟩ := h
  refine ⟨member, route, ?_, hBlob, hLeads⟩
  dsimp only [Server.departure]
  rw [Server.findMember_removed, if_neg (Ne.symm hOther), hMember]

theorem reached_request {incoming : IncomingRequest} {communityId : String} (h : link.Reached community)
    (hFits : link.FitsIn community incoming) : link.Reached (incoming.effect communityId community).community := by
  obtain ⟨env, sender, routing, request⟩ := incoming
  cases request with
  | join pseudonym displayName routeBlob =>
    dsimp only [IncomingRequest.effect, Server.joinEffect]
    split
    · obtain ⟨member, route, hMember, hBlob, hLeads⟩ := h
      refine ⟨member, route, ?_, hBlob, hLeads⟩
      dsimp only [Server.Change.apply]
      rw [Server.findMember_joined, hMember, Option.some_or]
    · exact h
    · next blob hSender =>
      obtain ⟨member, route, hMember, hBlob, hLeads⟩ := h
      have hFind := @Server.findMember_updateMember link.me community.members sender
        (fun member => { member with routeBlob := some blob }) fun _ => rfl
      by_cases hMe : link.me = sender
      · subst hMe
        rw [if_pos rfl, hMember, Option.map_some] at hFind
        exact ⟨{ member with routeBlob := some blob }, blob, hFind, rfl, hFits rfl blob rfl⟩
      · rw [if_neg hMe, hMember] at hFind
        exact ⟨member, route, hFind, hBlob, hLeads⟩
  | member request =>
    dsimp only [IncomingRequest.effect]
    cases request with
    | leave => exact h.departed communityId hFits
    | kick | ban => exact h.departed communityId hFits
    | deleteRole roleId =>
      obtain ⟨member, route, hMember, hBlob, hLeads⟩ := h
      refine ⟨Server.dropRole roleId member, route, ?_, hBlob, hLeads⟩
      dsimp only [MemberRequest.effect]
      rw [Server.findMember_map_dropRole, hMember, Option.map_some]
    | assignRole target roleId =>
      dsimp only [MemberRequest.effect]
      split
      · exact h
      · exact h.updateMember target (fun _ => rfl) fun _ => rfl
    | unassignRole target roleId =>
      exact @Link.Reached.updateMember link community h target (Server.dropRole roleId) (fun _ => rfl) fun _ => rfl
    | timeoutMember target => exact h.updateMember target (fun _ => rfl) fun _ => rfl
    | removeTimeout target => exact h.updateMember target (fun _ => rfl) fun _ => rfl
    | _ => exact h

theorem nodup_rolesToDto : ((rolesToDto community).map RoleDto.id).Nodup ↔
    (community.roles.map Server.RoleDefinition.id).Nodup := by
  unfold rolesToDto
  rw [List.map_map]
  rfl

theorem nodup_request {incoming : IncomingRequest} {communityId : String}
    (hFits : link.FitsIn community incoming) (h : (community.roles.map Server.RoleDefinition.id).Nodup) :
    ((incoming.effect communityId community).community.roles.map Server.RoleDefinition.id).Nodup := by
  obtain ⟨env, sender, routing, request⟩ := incoming
  cases request with
  | join pseudonym displayName routeBlob =>
    dsimp only [IncomingRequest.effect, Server.joinEffect]
    split <;> exact h
  | member request =>
    dsimp only [IncomingRequest.effect]
    cases request with
    | createRole =>
      dsimp only [MemberRequest.effect]
      rw [List.map_append, List.nodup_append]
      refine ⟨h, List.nodup_singleton _, fun id hId other hOther => ?_⟩
      rw [List.map_singleton, List.mem_singleton] at hOther
      rintro rfl
      rw [hOther] at hId
      exact hFits hId
    | editRole roleId edit =>
      have hIds := @Keyed.map_key_update _ _ _ Server.RoleDefinition.id roleId community.roles edit.apply fun _ => rfl
      dsimp only [MemberRequest.effect]
      rw [hIds]
      exact h
    | deleteRole => exact h.sublist (List.filter_sublist.map _)
    | assignRole =>
      dsimp only [MemberRequest.effect]
      split <;> exact h
    | _ => exact h

/-! ### Copies -/

/-- How many members other than the one left out have a route of the client. -/
def Link.copies (link : Link) (community : HostedCommunity) (exclude : String) : Nat :=
  ((memberRoutes community exclude).filter (· ∈ link.routes)).length

theorem Link.Reached.copies_pos (h : link.Reached community) {exclude : String} (hOther : exclude ≠ link.me) :
    0 < link.copies community exclude := by
  obtain ⟨member, route, hMember, hBlob, hLeads⟩ := h
  refine List.length_pos_of_mem (a := route) (List.mem_filter.mpr ⟨?_, decide_eq_true hLeads⟩)
  refine List.mem_filterMap.mpr ⟨member, List.mem_filter.mpr ⟨List.mem_of_find?_eq_some hMember, ?_⟩, hBlob⟩
  rw [Keyed.key_of_find hMember]
  exact bne_iff_ne.mpr (Ne.symm hOther)

theorem reaching_announced (announcements : List Announcement) :
    link.reaching (announced community announcements) =
      announcements.flatMap fun announcement =>
        List.replicate (link.copies community announcement.1) announcement.2 := by
  induction announcements with
  | nil => rfl
  | cons announcement rest ih =>
    have hHere : link.reaching ((memberRoutes community announcement.1).map (·, announcement.2)) =
        List.replicate (link.copies community announcement.1) announcement.2 := by
      unfold Link.reaching Link.copies
      rw [List.filter_map, List.map_map]
      exact List.map_const'
    rw [List.flatMap_cons, ← ih, ← hHere]
    unfold Link.reaching announced
    rw [List.flatMap_cons, List.filter_append, List.map_append]

theorem foldl_hear_copies {announcement : Announcement} (hReached : link.Reached community)
    (hHere : broadcastCommunity announcement.2 = link.communityId) (hTells : Tells link after announcement)
    (roster : Roster) :
    (List.replicate (link.copies community announcement.1) announcement.2).foldl (Roster.hear link.communityId) roster =
      roster.told announcement.2 := by
  have hHear : roster.hear link.communityId announcement.2 = roster.told announcement.2 :=
    Roster.hear_of_eq hHere
  rcases hTells.heard with hOther | hSame
  · obtain ⟨n, hCopies⟩ := Nat.exists_eq_succ_of_ne_zero (hReached.copies_pos hOther).ne'
    rw [hCopies, Roster.foldl_hear_replicate, hHear]
  · rw [hSame] at hHear ⊢
    induction link.copies community announcement.1 with
    | zero => rfl
    | succ n ih => rw [List.replicate_succ, List.foldl_cons, hHear, ih]

/-- The client hears what the announcements tell. -/
theorem foldl_hear_reaching (hReached : link.Reached community) {announcements : List Announcement}
    (hHere : ∀ announcement ∈ announcements, broadcastCommunity announcement.2 = link.communityId)
    (hTells : ∀ announcement ∈ announcements, Tells link after announcement) (roster : Roster) :
    (link.reaching (announced community announcements)).foldl (Roster.hear link.communityId) roster =
      (announcements.map Prod.snd).foldl Roster.told roster := by
  rw [reaching_announced]
  induction announcements generalizing roster with
  | nil => rfl
  | cons announcement rest ih =>
    rw [List.forall_mem_cons] at hHere hTells
    rw [List.flatMap_cons, List.foldl_append, foldl_hear_copies hReached hHere.1 hTells.1, ih hHere.2 hTells.2]
    rfl

theorem mem_reaching_announced {announcements : List Announcement} {broadcast : CommunityBroadcast}
    (h : broadcast ∈ link.reaching (announced community announcements)) :
    ∃ announcement ∈ announcements, announcement.2 = broadcast := by
  rw [reaching_announced, List.mem_flatMap] at h
  obtain ⟨announcement, hMem, hCopy⟩ := h
  exact ⟨announcement, hMem, (List.eq_of_mem_replicate hCopy).symm⟩

end

/-! ## Runs -/

/-- The client has the roster of a community that is hosted and that it can be reached in, and nothing waits for it. -/
def Link.InStep (link : Link) (s : Linked) : Prop :=
  ∃ community, s.server.hosted.lookup link.communityId = some community ∧ link.Reached community ∧
    (community.roles.map Server.RoleDefinition.id).Nodup ∧
    Mirrors link.communityId link.me (rosterOf community) s.client ∧ s.waiting = []

/-- The broadcast does not end the membership, and its roles are of distinct ids. -/
def Link.Harmless (link : Link) (broadcast : CommunityBroadcast) : Prop :=
  broadcast ≠ .memberRemoved link.communityId link.me ∧
    ∀ roles, broadcast = .rolesChanged link.communityId roles → (roles.map RoleDto.id).Nodup

/-- What waits for the client brings it the roster of the server. -/
structure Link.Following (link : Link) (s : Linked) (community : HostedCommunity) : Prop where
  hosted : s.server.hosted.lookup link.communityId = some community
  reached : link.Reached community
  distinct : (community.roles.map Server.RoleDefinition.id).Nodup
  behind : ∃ roster, Mirrors link.communityId link.me roster s.client ∧
    s.waiting.foldl (Roster.hear link.communityId) roster = rosterOf community
  harmless : ∀ broadcast ∈ s.waiting, link.Harmless broadcast

section
variable {link : Link} {s : Linked} {community : HostedCommunity}

theorem harmless_elsewhere {broadcast : CommunityBroadcast} (h : broadcastCommunity broadcast ≠ link.communityId) :
    link.Harmless broadcast := by
  constructor
  · rintro rfl
    exact h rfl
  · rintro roles rfl
    exact absurd rfl h

theorem Link.Following.request (h : link.Following s community) {incoming : IncomingRequest}
    (hFits : link.Fits s (.request incoming)) :
    ∃ after, link.Following (link.step s (.request incoming)) after := by
  obtain ⟨roster, hMirrors, hBehind⟩ := h.behind
  rcases Server.serve_announces incoming with
    ⟨communityId, before, hTarget, hPasses, hPerformed, hSent⟩ | hSilent
  · have hNew : (serve s.server incoming).sent.drop s.server.sent.length =
        announced (incoming.effect communityId before).community
          (incoming.announcements communityId before (incoming.effect communityId before).community) := by
      rw [hSent, List.drop_left]
    have hWaiting : (link.step s (.request incoming)).waiting = s.waiting ++
        link.reaching (announced (incoming.effect communityId before).community
          (incoming.announcements communityId before (incoming.effect communityId before).community)) :=
      congrArg (s.waiting ++ link.reaching ·) hNew
    have hHosted : (link.step s (.request incoming)).server.hosted.lookup link.communityId =
        (s.server.hosted.insert communityId (incoming.effect communityId before).community).lookup link.communityId :=
      hPerformed.hosted link.communityId
    by_cases hHere : communityId = link.communityId
    · subst hHere
      obtain rfl := Option.some.inj (hPerformed.found.symm.trans h.hosted)
      have hFitsIn := hFits hTarget hPasses before h.hosted
      have hTells := @tells_request link before
        (incoming.effect link.communityId before).community incoming h.reached hFitsIn
      have hReached := @reached_request link before incoming link.communityId h.reached hFitsIn
      have hDistinct := @nodup_request link before incoming link.communityId hFitsIn h.distinct
      refine ⟨(incoming.effect link.communityId before).community, ?_, hReached, hDistinct,
        ⟨roster, hMirrors, ?_⟩, ?_⟩
      · rw [hHosted, Finmap.lookup_insert]
      · rw [hWaiting, List.foldl_append, hBehind, foldl_hear_reaching hReached announcement_community hTells,
          rosterOf_request link incoming hFitsIn]
      · rw [hWaiting]
        intro broadcast hBroadcast
        rcases List.mem_append.mp hBroadcast with hOld | hNews
        · exact h.harmless broadcast hOld
        · obtain ⟨announcement, hMem, rfl⟩ := mem_reaching_announced hNews
          refine ⟨(hTells announcement hMem).stays, fun roles hRoles => ?_⟩
          rw [(hTells announcement hMem).roles roles hRoles]
          exact nodup_rolesToDto.mpr hDistinct
    · -- The news of another community.
      have hElsewhere : ∀ broadcast ∈ link.reaching (announced (incoming.effect communityId before).community
          (incoming.announcements communityId before (incoming.effect communityId before).community)),
          broadcastCommunity broadcast ≠ link.communityId := by
        intro broadcast hNews
        obtain ⟨announcement, hMem, rfl⟩ := mem_reaching_announced hNews
        rw [announcement_community announcement hMem]
        exact hHere
      refine ⟨community, ?_, h.reached, h.distinct, ⟨roster, hMirrors, ?_⟩, ?_⟩
      · rw [hHosted, Finmap.lookup_insert_of_ne _ (Ne.symm hHere), h.hosted]
      · rw [hWaiting, List.foldl_append, hBehind, Roster.foldl_hear_elsewhere hElsewhere]
      · rw [hWaiting]
        intro broadcast hBroadcast
        rcases List.mem_append.mp hBroadcast with hOld | hNews
        · exact h.harmless broadcast hOld
        · exact harmless_elsewhere (hElsewhere broadcast hNews)
  · have hNone : (serve s.server incoming).sent.drop s.server.sent.length = [] := by
      rw [hSilent.sent, List.drop_length]
    have hWaiting : (link.step s (.request incoming)).waiting = s.waiting :=
      (congrArg (s.waiting ++ link.reaching ·) hNone).trans (List.append_nil _)
    have hHosted : (link.step s (.request incoming)).server.hosted = s.server.hosted := hSilent.hosted
    refine ⟨community, ?_, h.reached, h.distinct, ⟨roster, hMirrors, ?_⟩, ?_⟩
    · rw [hHosted, h.hosted]
    · rw [hWaiting, hBehind]
    · rw [hWaiting]
      exact h.harmless

theorem Link.Following.delivery (h : link.Following s community) (env : Surroundings) :
    link.Following (link.step s (.delivery env)) community := by
  obtain ⟨server, client, waiting⟩ := s
  cases waiting with
  | nil => exact h
  | cons broadcast rest =>
    obtain ⟨roster, hMirrors, hBehind⟩ := h.behind
    obtain ⟨⟨hStays, hDistinct⟩, hRest⟩ := List.forall_mem_cons.mp h.harmless
    refine ⟨h.hosted, h.reached, h.distinct, ⟨roster.hear link.communityId broadcast, ?_, hBehind⟩, hRest⟩
    unfold Roster.hear
    split
    · next hHere => exact hMirrors.handleCommunityBroadcast hHere hStays hDistinct
    · next hElsewhere => exact hMirrors.handleCommunityBroadcast_other hElsewhere

theorem Link.Following.converged (h : link.Following s community) : link.Converged s := by
  intro hQuiet other hOther
  obtain rfl := Option.some.inj (h.hosted.symm.trans hOther)
  obtain ⟨roster, hMirrors, hBehind⟩ := h.behind
  rw [hQuiet, List.foldl_nil] at hBehind
  refine ⟨fun _ => hBehind ▸ hMirrors, fun hGone => ?_⟩
  obtain ⟨member, _, hMember, -⟩ := h.reached
  rw [hMember] at hGone
  cases hGone

/-- After requests that the members are told of in full, a client that has handled what came to it has the server's
roster. -/
theorem converged_of_fits (link : Link) (s : Linked) (hStart : link.InStep s) (events : List LinkEvent)
    (hFits : Along link.step link.Fits s events) : link.Converged (final link.step s events) := by
  obtain ⟨community, hHosted, hReached, hDistinct, hMirrors, hQuiet⟩ := hStart
  have hFollowing : link.Following s community := by
    refine ⟨hHosted, hReached, hDistinct, ⟨_, hMirrors, ?_⟩, ?_⟩
    · rw [hQuiet, List.foldl_nil]
    · rw [hQuiet]
      exact fun _ hNone => by cases hNone
  obtain ⟨after, hAfter⟩ := Along.invariant (fun t => ∃ now, link.Following t now) (fun t event hNow hEvent => by
    obtain ⟨now, hNow⟩ := hNow
    cases event with
    | request incoming => exact hNow.request hEvent
    | delivery env => exact ⟨now, hNow.delivery env⟩) ⟨community, hFollowing⟩ hFits
  exact hAfter.converged

end

/-! ## A community of two -/

def plainRole (id : UInt32) (name : String) (position : Server.Position) : Server.RoleDefinition :=
  { id, name, color := 0, permissions := 0, position, hoist := false, mentionable := false }

/-- Alice heads the community, and Bob helps. -/
def ofTwo : HostedCommunity where
  communityId := "c"
  name := "Community"
  description := ""
  mek := ⟨1, []⟩
  members := [⟨"alice", "Alice", [0, 1, 4], 0, none, none⟩, ⟨"bob", "Bob", [0, 1, 5], 0, some [9], none⟩]
  channels := []
  roles := [plainRole 4 "head" .one, plainRole 5 "helper" .zero]
  creatorPseudonymHex := "alice"

def bobsClient : Replica :=
  { Replica.memberOfOne with
    communities := Finmap.singleton "c" ⟨[], some "bob", [0, 1, 5], rolesToDto ofTwo, 1, none⟩
    communityRows := [⟨Replica.memberOfOne.ownerKey, "c", roleIdsText [0, 1, 5], 1⟩]
    memberRows :=
      [⟨Replica.memberOfOne.ownerKey, "c", "alice", some "Alice", roleIdsText [0, 1, 4], none, 0⟩,
        ⟨Replica.memberOfOne.ownerKey, "c", "bob", some "Bob", roleIdsText [0, 1, 5], none, 0⟩]
    roleRows := (rolesToDto ofTwo).map (.ofDto Replica.memberOfOne.ownerKey "c") }

def bobsLink : Link where
  communityId := "c"
  me := "bob"
  routes := [[9]]
  named := by decide

def inStepOfTwo : Linked where
  server := { hosted := Finmap.singleton "c" ofTwo, db := Server.emptyDatabase, sent := [], dbFaults := [] }
  client := bobsClient
  waiting := []

theorem bobsClient_mirrors : Mirrors "c" "bob" (rosterOf ofTwo) bobsClient := by
  refine ⟨?_, ⟨_, Finmap.lookup_singleton_eq, rfl, rfl, rfl⟩, ?_, ?_, ?_⟩
  · change Replica.memberOfOne.app.ownerKey ∈ Replica.memberOfOne.app.db.identities
    decide +kernel
  · intro row hRow _
    rw [List.mem_singleton.mp hRow]
    rfl
  · rintro row -
    refine List.mem_map.trans (exists_congr fun _ => and_congr_right fun _ => eq_comm)
  · intro pseudonym
    have hAlice : (⟨Replica.memberOfOne.ownerKey, "c", "alice", some "Alice", roleIdsText [0, 1, 4], none, 0⟩ :
        StoredMember).key = (bobsClient.ownerKey, "c", pseudonym) ↔ "alice" = pseudonym := by
      simp [StoredMember.key, bobsClient, Replica.ownerKey]
    have hBob : (⟨Replica.memberOfOne.ownerKey, "c", "bob", some "Bob", roleIdsText [0, 1, 5], none, 0⟩ :
        StoredMember).key = (bobsClient.ownerKey, "c", pseudonym) ↔ "bob" = pseudonym := by
      simp [StoredMember.key, bobsClient, Replica.ownerKey]
    change Option.map _ (Keyed.find StoredMember.key _ [_, _]) =
      Option.map _ (Option.map _ (Keyed.find ServerMember.pseudonymKeyHex pseudonym [_, _]))
    rw [Keyed.find_cons, Keyed.find_cons, Keyed.find_cons, Keyed.find_cons]
    simp only [hAlice, hBob]
    split
    · rfl
    · split <;> rfl

theorem inStepOfTwo_inStep : bobsLink.InStep inStepOfTwo :=
  ⟨ofTwo, Finmap.lookup_singleton_eq, ⟨_, [9], rfl, rfl, List.mem_singleton_self _⟩, by decide,
    bobsClient_mirrors, rfl⟩

/-- Alice silences Bob for a minute, and his client is told. -/
theorem converged_silenced : bobsLink.Converged (final bobsLink.step inStepOfTwo
    [.request (Server.sampleRequest "alice" (.member (.timeoutMember "bob" 60 none))), .delivery Replica.offline]) :=
  converged_of_fits bobsLink inStepOfTwo inStepOfTwo_inStep _ ⟨fun _ _ _ _ => trivial, trivial, trivial⟩

def kickOfBob : List LinkEvent := [.request (Server.sampleRequest "alice" (.member (.kick "bob")))]

def deletionOfHelper : List LinkEvent :=
  [.request (Server.sampleRequest "alice" (.member (.deleteRole 5))), .delivery Replica.offline]

/-- Alice removes Bob, and his client is not told; she deletes his role, and his client is not told that he has it no
longer. -/
theorem news_withheld :
    bobsLink.InStep inStepOfTwo ∧ ¬bobsLink.Converged (final bobsLink.step inStepOfTwo kickOfBob) ∧
      ¬bobsLink.Converged (final bobsLink.step inStepOfTwo deletionOfHelper) := by
  refine ⟨inStepOfTwo_inStep, fun hConverged => ?_, fun hConverged => ?_⟩
  · have hQuiet : (final bobsLink.step inStepOfTwo kickOfBob).waiting = [] := by decide +kernel
    have hGone : Server.inSample (final bobsLink.step inStepOfTwo kickOfBob).server
        (fun community => (findMember community.members "bob").isNone) = true := by decide +kernel
    have hStays : ((final bobsLink.step inStepOfTwo kickOfBob).client.community? "c").isSome = true := by
      decide +kernel
    obtain ⟨community, hHosted⟩ := Server.exists_of_inSample hGone
    have hDropped := (hConverged hQuiet community hHosted).2
      (Option.isNone_iff_eq_none.mp (Server.test_of_inSample hGone hHosted))
    change ((final bobsLink.step inStepOfTwo kickOfBob).client.community? "c") = none at hDropped
    rw [hDropped] at hStays
    cases hStays
  · have hQuiet : (final bobsLink.step inStepOfTwo deletionOfHelper).waiting = [] := by decide +kernel
    have hServer : Server.inSample (final bobsLink.step inStepOfTwo deletionOfHelper).server (fun community =>
        (findMember community.members "bob").any fun member =>
          member.routeBlob = some [9] && member.roleIds = [0, 1]) = true := by decide +kernel
    have hClient : ((final bobsLink.step inStepOfTwo deletionOfHelper).client.community? "c").any
        (·.myRoleIds = [0, 1, 5]) = true := by decide +kernel
    obtain ⟨community, hHosted⟩ := Server.exists_of_inSample hServer
    obtain ⟨member, hMember, hBoth⟩ := (Option.any_eq_true _ _).mp (Server.test_of_inSample hServer hHosted)
    obtain ⟨hRoute, hRoles⟩ := Bool.and_eq_true_iff.mp hBoth
    have hReached : bobsLink.Reached community :=
      ⟨member, [9], hMember, of_decide_eq_true hRoute, List.mem_singleton_self _⟩
    obtain ⟨memory, hMemory, -, -, hMine⟩ := ((hConverged hQuiet community hHosted).1 hReached).memory
    obtain ⟨found, hFound, hHeld⟩ := (Option.any_eq_true _ _).mp hClient
    obtain rfl := Option.some.inj (hFound.symm.trans hMemory)
    have hSame : some member.roleIds = some found.myRoleIds := by
      rw [← hMine]
      exact (congrArg (fun entry => (Option.map RosterEntry.ofMember entry).map RosterEntry.roleIds) hMember).symm
    rw [of_decide_eq_true hRoles, of_decide_eq_true hHeld] at hSame
    cases hSame

end Rekindle.Community
