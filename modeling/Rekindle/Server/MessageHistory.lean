import Rekindle.Server.Atomicity

/-! # Who is given the history of a channel

The history is read from the table. The roster is consulted only while the community is hosted, and
the creator passes without an entry in it.
-/
namespace Rekindle.Server
set_option autoImplicit false
open Fallible

/-- On the roster; of a community that is not hosted, in its table. -/
def ServerState.HasMember (s : ServerState) (communityId pseudonym : String) : Prop :=
  match s.hosted.lookup communityId with
  | some community => findMember community.members pseudonym ≠ none
  | none => s.db.hasMember communityId pseudonym = true

/-- Whoever is answered with messages is a member at that moment. -/
def MembersOnly (s : ServerState) (incoming : IncomingRequest) : Prop :=
  ∀ rows t, incoming.answer s = .ok (.messages rows) t → rows ≠ [] →
    ∃ communityId, incoming.target = some communityId ∧ s.HasMember communityId incoming.sender

/-- The rows that the request is for. -/
def requestedPage (db : Database) (communityId channelId : String) (beforeTimestamp : Option UInt64)
    (limit : UInt32) : List MessageRow :=
  messagePage communityId db channelId (beforeTimestamp.map fun time => (min time.toNat i64Max : Int))
    (min limit.toNat 500)

/-- The creator of a hosted community is on its roster; a community that is not hosted has the sender
in its table. -/
def ServerState.Vouches (s : ServerState) (communityId sender : String) : Prop :=
  match s.hosted.lookup communityId with
  | some community => community.creatorPseudonymHex = sender → findMember community.members sender ≠ none
  | none => s.db.hasMember communityId sender = true

section
variable {communityId sender : String} {s : ServerState}

theorem isMember_iff {community : HostedCommunity} :
    IsMember community sender ↔ community.creatorPseudonymHex = sender ∨ findMember community.members sender ≠ none := by
  unfold IsMember verifyMembership
  rw [findMember, Ne, Keyed.find_eq_none_iff]
  by_cases hCreator : community.creatorPseudonymHex = sender
  · simp [hCreator]
  · simp [hCreator]

/-- A sender that passes the check is a member if the state vouches for it, and only then. -/
theorem hasMember_iff_vouches (hPasses : MemberIfHosted sender communityId s) :
    s.HasMember communityId sender ↔ s.Vouches communityId sender := by
  unfold ServerState.HasMember ServerState.Vouches
  cases hHosted : s.hosted.lookup communityId with
  | none => exact Iff.rfl
  | some community =>
    have hMember := isMember_iff.mp (hPasses community hHosted)
    constructor
    · exact fun hThere _ => hThere
    · exact fun hCreator => hMember.elim hCreator id

/-- A sender that is refused is not the creator. -/
theorem vouches_of_refused (hRefused : ¬MemberIfHosted sender communityId s) : s.Vouches communityId sender := by
  unfold MemberIfHosted at hRefused
  unfold ServerState.Vouches
  cases hHosted : s.hosted.lookup communityId with
  | none =>
    refine absurd (fun community hFound => ?_) hRefused
    cases hHosted.symm.trans hFound
  | some community =>
    refine fun hCreator => absurd (fun other hFound => ?_) hRefused
    cases hHosted.symm.trans hFound
    exact isMember_iff.mpr (.inl hCreator)

theorem verifyMembershipIfHosted_run : (verifyMembershipIfHosted communityId sender).run s =
    (ofExcept ((s.hosted.lookup communityId).elim (.ok ()) (verifyMembership · sender)) : ServerM Unit).run s := rfl

/-- Once the sender has passed, the answer is the page, unless the query fails. -/
theorem handleGetMessages_answer {channelId : String} {beforeTimestamp : Option UInt64} {limit : UInt32}
    {rows : List ChannelMessageDto} :
    (∃ t, (handleGetMessages communityId sender channelId beforeTimestamp limit).run s = .ok (.messages rows) t) ↔
      MemberIfHosted sender communityId s ∧ s.Answering ∧
        (requestedPage s.db communityId channelId beforeTimestamp limit).reverse.map messageToDto = rows := by
  unfold handleGetMessages MemberIfHosted
  have hQuery : (query (messagePage communityId · channelId
      (beforeTimestamp.map fun time => (min time.toNat i64Max : Int)) (min limit.toNat 500)) : ServerM _).run s =
      .ok (if s.dbFaults.headD false then none else some (requestedPage s.db communityId channelId beforeTimestamp limit))
        { s with dbFaults := s.dbFaults.tail } := rfl
  cases hCheck : (s.hosted.lookup communityId).elim (.ok ()) (verifyMembership · sender) with
  | error e =>
    have hRun : (verifyMembershipIfHosted communityId sender).run s = .error e s := by
      rw [verifyMembershipIfHosted_run, hCheck, run_ofExcept_error]
    rw [run_bind_of_error _ hRun]
    refine iff_of_false (fun ⟨t, h⟩ => by cases h) fun ⟨hMember, _⟩ => ?_
    cases hHosted : s.hosted.lookup communityId with
    | none =>
      rw [hHosted] at hCheck
      cases hCheck
    | some community =>
      rw [hHosted] at hCheck
      cases hCheck.symm.trans (hMember community hHosted)
  | ok u =>
    have hRun : (verifyMembershipIfHosted communityId sender).run s = .ok u s := by
      rw [verifyMembershipIfHosted_run, hCheck, run_ofExcept_ok]
    rw [run_bind_of_ok _ hRun, run_bind_of_ok _ hQuery]
    have hMember : ∀ community, s.hosted.lookup communityId = some community → IsMember community sender := by
      intro community hHosted
      rw [hHosted] at hCheck
      exact hCheck
    unfold ServerState.Answering
    cases hFault : s.dbFaults.headD false with
    | true => exact iff_of_false (fun ⟨t, h⟩ => by cases h) fun ⟨_, h, _⟩ => by cases h
    | false =>
      constructor
      · rintro ⟨t, h⟩
        cases h
        exact ⟨hMember, rfl, rfl⟩
      · rintro ⟨_, _, rfl⟩
        exact ⟨_, rfl⟩

theorem answer_getMessages (env : Environment) {routing : Routing}
    (hTarget : resolveCommunityId routing = some communityId) (channelId : String) (beforeTimestamp : Option UInt64)
    (limit : UInt32) :
    (⟨env, sender, routing, .member (.getMessages channelId beforeTimestamp limit)⟩ : IncomingRequest).answer s =
      (handleGetMessages communityId sender channelId beforeTimestamp limit).run s := by
  unfold IncomingRequest.answer dispatchRequest
  rw [hTarget]
  rfl

/-- While the community is not hosted, nobody is refused. -/
theorem leaks_of_not_hosted (hGone : s.hosted.lookup communityId = none) (hAnswering : s.Answering)
    {channelId : String} {limit : UInt32} (hPage : requestedPage s.db communityId channelId none limit ≠ [])
    (hStranger : s.db.hasMember communityId sender = false) (env : Environment) {routing : Routing}
    (hTarget : resolveCommunityId routing = some communityId) :
    ¬MembersOnly s ⟨env, sender, routing, .member (.getMessages channelId none limit)⟩ := by
  intro hOnly
  have hPasses : MemberIfHosted sender communityId s := by
    intro community hHosted
    cases hGone.symm.trans hHosted
  obtain ⟨t, hRun⟩ := handleGetMessages_answer.mpr ⟨hPasses, hAnswering, rfl⟩
  rw [← answer_getMessages env hTarget] at hRun
  obtain ⟨other, hOther, hMember⟩ := hOnly _ t hRun (by simpa using hPage)
  cases hTarget.symm.trans hOther
  unfold ServerState.HasMember at hMember
  rw [hGone, hStranger] at hMember
  cases hMember

end

/-- Alice hosts a community, posts to it and unhosts it. -/
def postThenUnhost : List ServerEvent :=
  [.host sampleEnvironment "c" "Community" "alice" "Alice" (.ok ()),
   .request (sampleRequest "alice" (.member (.sendMessage "general" [7] 1))), .unhost "c"]

def postedAndUnhosted : ServerState := Runs.final handleEvent (ServerState.initial []) postThenUnhost

end Rekindle.Server
