import Rekindle.Library.Cursors
import Rekindle.Library.Loops
import Rekindle.Server.MessageHistory
import Rekindle.Server.Replays

/-! # Reading a channel page by page

The cursor of a page is the time of the oldest message of the page before, in seconds. Messages of that second that
did not fit on the page are on no other.
-/
namespace Rekindle.Server
set_option autoImplicit false

open Cursors Fallible Loops Runs

/-- The cursor of the next page and the messages so far. -/
abbrev Collected := Option UInt64 × List ChannelMessageDto

/-- Asks for the page before the cursor. -/
def fetchPage (communityId sender channelId : String) (limit : UInt32) (collected : Collected) :
    ServerM (Collected ⊕ List ChannelMessageDto) := do
  match ← handleGetMessages communityId sender channelId collected.1 limit with
  | .messages (oldest :: newer) => pure (.inl (some oldest.timestamp, oldest :: newer ++ collected.2))
  | _ => pure (.inr collected.2)

/-- Until a page is empty. -/
def fetchHistory (communityId sender channelId : String) (limit : UInt32) :
    Collected × ServerState → (Collected × ServerState) ⊕ EStateM.Result RpcError ServerState (List ChannelMessageDto) :=
  stateful (fetchPage communityId sender channelId limit)

/-- The messages of a channel as they are stored. -/
def channelRows (db : Database) (communityId channelId : String) : List MessageRow :=
  db.serverMessages.filter fun row => row.communityId == communityId && row.channelId == channelId

def newestFirst (rows : List MessageRow) : List MessageRow :=
  (rows.insertionSort fun a b => a.timestamp ≤ b.timestamp).reverse

def pageSize (limit : UInt32) : Nat := min limit.toNat 500

/-- Every message has a time of the server's clock. -/
def ServerState.Stamped (s : ServerState) : Prop :=
  ∀ row ∈ s.db.serverMessages, 0 ≤ row.timestamp ∧ row.timestamp ≤ i64Max

/-- No coming database call fails. -/
def ServerState.Reliable (s : ServerState) : Prop := ∀ fault ∈ s.dbFaults, fault = false

def cursorTime (cursor : Option UInt64) : Option Int := cursor.map fun time => (min time.toNat i64Max : Int)

section
variable {communityId sender channelId : String} {limit : UInt32} {s : ServerState} {rows : List MessageRow}

instance : Std.Total fun a b : MessageRow => a.timestamp ≤ b.timestamp := ⟨fun a b => Int.le_total a.timestamp b.timestamp⟩

instance : IsTrans MessageRow fun a b => a.timestamp ≤ b.timestamp := ⟨fun _ _ _ => Int.le_trans⟩

theorem falling_newestFirst (rows : List MessageRow) : Falling MessageRow.timestamp (newestFirst rows) :=
  List.pairwise_reverse.mpr (List.pairwise_insertionSort _ rows)

theorem requestedPage_eq (db : Database) (cursor : Option UInt64) :
    requestedPage db communityId channelId cursor limit =
      (below MessageRow.timestamp (newestFirst (channelRows db communityId channelId)) (cursorTime cursor)).take
        (pageSize limit) := by
  have hFilter : (db.serverMessages.filter fun row => row.communityId == communityId && row.channelId == channelId &&
      (cursorTime cursor).all fun time => decide (row.timestamp < time)) =
      (channelRows db communityId channelId).filter fun row =>
        (cursorTime cursor).all fun time => decide (row.timestamp < time) := by
    rw [channelRows, List.filter_filter]
    exact List.filter_congr fun row _ => Bool.and_comm _ _
  change (((db.serverMessages.filter fun row => row.communityId == communityId && row.channelId == channelId &&
      (cursorTime cursor).all fun time => decide (row.timestamp < time)).insertionSort _).reverse).take _ = _
  rw [hFilter, filter_insertionSort, ← List.filter_reverse]
  rfl

variable (channelId limit) in
theorem handleGetMessages_run (hMember : MemberIfHosted sender communityId s) (hAnswering : s.Answering)
    (cursor : Option UInt64) : (handleGetMessages communityId sender channelId cursor limit).run s =
      .ok (.messages ((requestedPage s.db communityId channelId cursor limit).reverse.map messageToDto))
        { s with dbFaults := s.dbFaults.tail } := by
  have hCheck : (s.hosted.lookup communityId).elim (.ok ()) (verifyMembership · sender) = .ok () := by
    cases hHosted : s.hosted.lookup communityId with
    | none => rfl
    | some community => exact hMember community hHosted
  have hRun : (verifyMembershipIfHosted communityId sender).run s = .ok () s := by
    rw [verifyMembershipIfHosted_run, hCheck, run_ofExcept_ok]
  have hQuery : (query (messagePage communityId · channelId
      (cursor.map fun time => (min time.toNat i64Max : Int)) (min limit.toNat 500)) : ServerM _).run s =
      .ok (if s.dbFaults.headD false then none else some (requestedPage s.db communityId channelId cursor limit))
        { s with dbFaults := s.dbFaults.tail } := rfl
  unfold ServerState.Answering at hAnswering
  rw [hAnswering] at hQuery
  rw [handleGetMessages, run_bind_of_ok _ hRun, run_bind_of_ok _ hQuery]
  rfl

theorem ServerState.Reliable.answering (h : s.Reliable) : s.Answering := by
  unfold ServerState.Answering
  cases hFaults : s.dbFaults with
  | nil => rfl
  | cons fault rest => exact h fault (by rw [hFaults]; exact List.mem_cons_self)

theorem ServerState.Reliable.tail (h : s.Reliable) : ServerState.Reliable { s with dbFaults := s.dbFaults.tail } :=
  fun fault hFault => h fault (List.mem_of_mem_tail hFault)

/-- The time of a message is read back from its copy in an answer. -/
theorem cursorTime_messageToDto {row : MessageRow} (hTime : 0 ≤ row.timestamp ∧ row.timestamp ≤ i64Max) :
    cursorTime (some (messageToDto row).timestamp) = some row.timestamp := by
  have hMax : i64Max = 9223372036854775807 := rfl
  rw [hMax] at hTime
  simp only [cursorTime, messageToDto, Option.map_some, Option.some.injEq, UInt64.toNat_ofNat', hMax]
  omega

theorem below_cursor {key : MessageRow → Int} {rows : List MessageRow} {cursor : Option Int} {last : MessageRow}
    (hLast : last ∈ below key rows cursor) : below key rows (some (key last)) = olderThan key last (below key rows cursor) := by
  have hBelow := (List.mem_filter.mp hLast).2
  rw [olderThan, below, below, List.filter_filter]
  apply List.filter_congr
  intro row _
  cases cursor with
  | none => simp
  | some time =>
    simp only [Option.all_some, decide_eq_true_eq] at hBelow ⊢
    by_cases hRow : key row < key last
    · simp [hRow, lt_trans hRow hBelow]
    · simp [hRow]

/-! ## The loop -/

variable (channelId limit) in
/-- One page, or the end at an empty one. -/
theorem fetchHistory_round (hMember : MemberIfHosted sender communityId s) (hReliable : s.Reliable)
    (cursor : Option UInt64) (collected : List ChannelMessageDto) :
    fetchHistory communityId sender channelId limit ((cursor, collected), s) =
      match (requestedPage s.db communityId channelId cursor limit).reverse.map messageToDto with
      | [] => .inr (.ok collected { s with dbFaults := s.dbFaults.tail })
      | oldest :: newer =>
        .inl ((some oldest.timestamp, oldest :: newer ++ collected), { s with dbFaults := s.dbFaults.tail }) := by
  have hRun := handleGetMessages_run channelId limit hMember hReliable.answering cursor
  rw [fetchHistory, stateful, fetchPage, run_bind_of_ok _ hRun]
  cases (requestedPage s.db communityId channelId cursor limit).reverse.map messageToDto <;> rfl

variable (channelId limit) in
/-- The loop returns what lies on the pages behind its cursor. -/
theorem fetchHistory_returns (hMember : MemberIfHosted sender communityId s) (hReliable : s.Reliable)
    (hStamped : s.Stamped) (cursor : Option UInt64) (collected : List ChannelMessageDto) :
    ∃ t, Returns (fetchHistory communityId sender channelId limit) ((cursor, collected), s)
      (.ok ((visited MessageRow.timestamp (pageSize limit) (below MessageRow.timestamp
        (newestFirst (channelRows s.db communityId channelId)) (cursorTime cursor))).reverse.map messageToDto ++
          collected) t) := by
  induction hLength : (below MessageRow.timestamp (newestFirst (channelRows s.db communityId channelId))
    (cursorTime cursor)).length using Nat.strong_induction_on generalizing s cursor collected with
  | h n ih =>
    subst hLength
    have hRound := fetchHistory_round channelId limit hMember hReliable cursor collected
    rw [requestedPage_eq] at hRound
    generalize hRest : below MessageRow.timestamp (newestFirst (channelRows s.db communityId channelId))
      (cursorTime cursor) = rest at hRound ih ⊢
    cases hLast : (rest.take (pageSize limit)).getLast? with
    | none =>
      rw [List.getLast?_eq_none_iff.mp hLast] at hRound
      rw [visited_of_empty hLast]
      exact ⟨_, returns_of_body hRound⟩
    | some last =>
      obtain ⟨front, hFront⟩ := List.getLast?_eq_some_iff.mp hLast
      have hPage : (rest.take (pageSize limit)).reverse.map messageToDto =
          messageToDto last :: front.reverse.map messageToDto := by
        rw [hFront, List.reverse_append]
        rfl
      rw [hPage] at hRound
      have hMem : last ∈ rest := List.mem_of_mem_take (List.mem_of_getLast? hLast)
      have hStored : last ∈ s.db.serverMessages := by
        rw [← hRest] at hMem
        have hSorted := List.mem_reverse.mp (List.mem_of_mem_filter hMem)
        exact List.mem_of_mem_filter ((List.mem_insertionSort _).mp hSorted)
      have hCursor := cursorTime_messageToDto (hStamped last hStored)
      have hBelow : below MessageRow.timestamp (newestFirst (channelRows s.db communityId channelId))
          (cursorTime (some (messageToDto last).timestamp)) = olderThan MessageRow.timestamp last rest := by
        rw [hCursor, ← hRest]
        exact below_cursor (hRest ▸ hMem)
      have hFewer := length_olderThan MessageRow.timestamp (pageSize limit) hLast
      obtain ⟨t, hReturns⟩ := ih _ hFewer (s := { s with dbFaults := s.dbFaults.tail }) hMember hReliable.tail hStamped
        (some (messageToDto last).timestamp) (messageToDto last :: front.reverse.map messageToDto ++ collected)
        (congrArg List.length hBelow)
      refine ⟨t, (returns_step hRound).mpr ?_⟩
      rw [visited_of_page hLast, List.reverse_append, List.map_append, hPage, List.append_assoc]
      rw [hBelow] at hReturns
      exact hReturns

/-! ## When nothing is missing -/

theorem messageToDto_le_iff {a b : MessageRow} (ha : 0 ≤ a.timestamp ∧ a.timestamp ≤ i64Max)
    (hb : 0 ≤ b.timestamp ∧ b.timestamp ≤ i64Max) :
    (messageToDto a).timestamp ≤ (messageToDto b).timestamp ↔ a.timestamp ≤ b.timestamp := by
  have hMax : i64Max = 9223372036854775807 := rfl
  rw [hMax] at ha hb
  rw [UInt64.le_iff_toNat_le]
  simp only [messageToDto, UInt64.toNat_ofNat']
  omega

/-- Rows that answer like a sorted list are in order. -/
theorem pairwise_of_map_eq {sorted : List MessageRow} (hRows : ∀ row ∈ rows, 0 ≤ row.timestamp ∧ row.timestamp ≤ i64Max)
    (hPerm : sorted.Perm rows) (hSorted : sorted.Pairwise fun a b => a.timestamp ≤ b.timestamp)
    (hSame : rows.map messageToDto = sorted.map messageToDto) : rows.Pairwise fun a b => a.timestamp ≤ b.timestamp := by
  have hDtos : (rows.map messageToDto).Pairwise fun a b => a.timestamp ≤ b.timestamp := by
    rw [hSame, List.pairwise_map]
    refine hSorted.imp_of_mem fun ha hb hLe => ?_
    exact (messageToDto_le_iff (hRows _ (hPerm.mem_iff.mp ha)) (hRows _ (hPerm.mem_iff.mp hb))).mpr hLe
  rw [List.pairwise_map] at hDtos
  refine hDtos.imp_of_mem fun ha hb hLe => ?_
  exact (messageToDto_le_iff (hRows _ ha) (hRows _ hb)).mp hLe

theorem newestFirst_of_sorted (h : rows.Pairwise fun a b => a.timestamp ≤ b.timestamp) :
    newestFirst rows = rows.reverse := congrArg List.reverse h.insertionSort_eq

theorem visited_newestFirst_iff (hLimit : 0 < limit)
    (hRows : ∀ row ∈ rows, 0 ≤ row.timestamp ∧ row.timestamp ≤ i64Max) :
    (visited MessageRow.timestamp (pageSize limit) (newestFirst rows)).reverse.map messageToDto =
        rows.map messageToDto ↔
      (rows.Pairwise fun a b => a.timestamp ≤ b.timestamp) ∧
        Apart MessageRow.timestamp (pageSize limit) rows.reverse := by
  have hSize : 0 < pageSize limit := by
    have hPositive : 0 < limit.toNat := UInt32.lt_iff_toNat_lt.mp hLimit
    unfold pageSize
    omega
  have hFalling := falling_newestFirst rows
  constructor
  · intro hSame
    have hLength : (newestFirst rows).length = rows.length := by
      rw [newestFirst, List.length_reverse, List.length_insertionSort]
    have hCount := congrArg List.length hSame
    rw [List.length_map, List.length_map, List.length_reverse, ← hLength] at hCount
    have hVisited := (visited_sublist hFalling).eq_of_length hCount
    rw [hVisited, newestFirst, List.reverse_reverse] at hSame
    have hOrder := pairwise_of_map_eq hRows (List.perm_insertionSort _ rows) (List.pairwise_insertionSort _ rows)
      hSame.symm
    refine ⟨hOrder, ?_⟩
    rw [← newestFirst_of_sorted hOrder]
    exact (visited_eq_iff hSize hFalling).mp hVisited
  · rintro ⟨hOrder, hApart⟩
    rw [← newestFirst_of_sorted hOrder] at hApart
    rw [(visited_eq_iff hSize hFalling).mpr hApart, newestFirst_of_sorted hOrder, List.reverse_reverse]

theorem below_none (rows : List MessageRow) : below MessageRow.timestamp rows none = rows :=
  List.filter_eq_self.mpr fun _ _ => rfl

theorem fetchHistory_complete_iff (hMember : MemberIfHosted sender communityId s) (hReliable : s.Reliable)
    (hStamped : s.Stamped) (hLimit : 0 < limit) :
    (∃ t, Returns (fetchHistory communityId sender channelId limit) ((none, []), s)
      (.ok ((channelRows s.db communityId channelId).map messageToDto) t)) ↔
      ((channelRows s.db communityId channelId).Pairwise fun a b => a.timestamp ≤ b.timestamp) ∧
        Apart MessageRow.timestamp (pageSize limit) (channelRows s.db communityId channelId).reverse := by
  have hRows : ∀ row ∈ channelRows s.db communityId channelId, 0 ≤ row.timestamp ∧ row.timestamp ≤ i64Max :=
    fun row hRow => hStamped row (List.mem_of_mem_filter hRow)
  obtain ⟨t, hReturns⟩ := fetchHistory_returns channelId limit hMember hReliable hStamped none []
  rw [cursorTime, Option.map_none, below_none, List.append_nil] at hReturns
  rw [← visited_newestFirst_iff hLimit hRows]
  constructor
  · rintro ⟨u, hAll⟩
    have hSame := hReturns.unique hAll
    injection hSame
  · intro hSame
    rw [hSame] at hReturns
    exact ⟨t, hReturns⟩

/-! ## The times of the server -/

theorem timestampNow_stamped (env : Environment) : 0 ≤ env.timestampNow ∧ env.timestampNow ≤ i64Max := by
  unfold Environment.timestampNow
  omega

theorem handleEvent_stamped (h : s.Stamped) (event : ServerEvent) : (handleEvent s event).Stamped := by
  cases event with
  | request incoming =>
    intro row hRow
    change row ∈ (serve s incoming).db.serverMessages at hRow
    rw [serve_messageRow, List.mem_append] at hRow
    rcases hRow with hOld | hNew
    · exact h row hOld
    · cases hAnswer : Result.value? (incoming.answer s) with
      | none =>
        rw [hAnswer] at hNew
        cases hNew
      | some response =>
        rw [hAnswer, Option.elim_some, Option.mem_toList] at hNew
        unfold IncomingRequest.messageRow at hNew
        split at hNew
        · cases hTarget : resolveCommunityId incoming.routing with
          | none =>
            rw [hTarget] at hNew
            cases hNew
          | some communityId =>
            rw [hTarget] at hNew
            cases hNew
            exact timestampNow_stamped incoming.env
        · cases hNew
  | restart => exact h
  | unhost communityId =>
    unfold ServerState.Stamped
    rw [handleEvent_messages s (by simp)]
    exact h
  | host =>
    unfold ServerState.Stamped
    rw [handleEvent_messages s (by simp)]
    exact h

theorem Reachable.stamped (h : Reachable s) : s.Stamped := by
  obtain ⟨dbFaults, events, rfl⟩ := h
  have hStart : (ServerState.initial dbFaults).Stamped := fun _ hRow => nomatch hRow
  induction events using List.reverseRecOn with
  | nil => exact hStart
  | append_singleton events event ih =>
    rw [final_append]
    exact handleEvent_stamped ih event

/-- Reading page by page brings all messages in stored order exactly when they are stored in the order of their
times and no page ends between messages of the same second. -/
theorem pagination_complete_iff (hReached : Reachable s) (hMember : MemberIfHosted sender communityId s)
    (hReliable : s.Reliable) (hLimit : 0 < limit) :
    (∃ t, Returns (fetchHistory communityId sender channelId limit) ((none, []), s)
      (.ok ((channelRows s.db communityId channelId).map messageToDto) t)) ↔
      ((channelRows s.db communityId channelId).Pairwise fun a b => a.timestamp ≤ b.timestamp) ∧
        Apart MessageRow.timestamp (pageSize limit) (channelRows s.db communityId channelId).reverse :=
  fetchHistory_complete_iff hMember hReliable hReached.stamped hLimit

end

/-! ## Two messages in one second -/

def sentTwice : ServerState := final handleEvent (ServerState.initial [])
  [.host sampleEnvironment "c" "Community" "alice" "Alice" (.ok ()),
   .request (sampleRequest "alice" (.member (.sendMessage "general" [7] 1))),
   .request (sampleRequest "alice" (.member (.sendMessage "general" [8] 1)))]

def sampleRow (ciphertext : List UInt8) : MessageRow where
  communityId := "c"
  channelId := "general"
  senderPseudonym := "alice"
  ciphertext := ciphertext
  mekGeneration := 1
  timestamp := sampleEnvironment.timestampNow

theorem sentTwice_reachable : Reachable sentTwice := ⟨[], _, rfl⟩

theorem sentTwice_rows : channelRows sentTwice.db "c" "general" = [sampleRow [7], sampleRow [8]] := by decide +kernel

theorem sentTwice_member : MemberIfHosted "alice" "c" sentTwice := by
  intro community hHosted
  have hCreator : inSample sentTwice (fun community => community.creatorPseudonymHex == "alice") = true := by
    decide +kernel
  exact isMember_iff.mpr (.inl (eq_of_beq (test_of_inSample hCreator hHosted)))

theorem sentTwice_reliable : sentTwice.Reliable := by
  have hFaults : sentTwice.dbFaults = [] := by decide +kernel
  intro fault hFault
  rw [hFaults] at hFault
  cases hFault

/-- Pages of one message skip the older of the two. -/
theorem same_second_skipped : Reachable sentTwice ∧ MemberIfHosted "alice" "c" sentTwice ∧ sentTwice.Reliable ∧
    ¬∃ t, Returns (fetchHistory "c" "alice" "general" 1) ((none, []), sentTwice)
      (.ok ((channelRows sentTwice.db "c" "general").map messageToDto) t) := by
  refine ⟨sentTwice_reachable, sentTwice_member, sentTwice_reliable, fun hAll => ?_⟩
  have hApart := ((fetchHistory_complete_iff sentTwice_member sentTwice_reliable sentTwice_reachable.stamped
    (by decide)).mp hAll).2 0
  rw [sentTwice_rows] at hApart
  exact hApart (sampleRow [8]) rfl (sampleRow [7]) rfl rfl

theorem pagination_complete_iff_page : ∃ t, Returns (fetchHistory "c" "alice" "general" 2) ((none, []), sentTwice)
    (.ok ([sampleRow [7], sampleRow [8]].map messageToDto) t) := by
  rw [← sentTwice_rows]
  refine (pagination_complete_iff sentTwice_reachable sentTwice_member sentTwice_reliable (by decide)).mpr ?_
  rw [sentTwice_rows]
  refine ⟨by simp [sampleRow], fun pages newer _ older hOlder => ?_⟩
  have hLong : [sampleRow [7], sampleRow [8]].reverse.length ≤ pageSize 2 * (pages + 1) := by
    have hSize : pageSize 2 = 2 := by decide
    rw [hSize]
    change 2 ≤ 2 * (pages + 1)
    omega
  rw [List.getElem?_eq_none hLong] at hOlder
  cases hOlder

end Rekindle.Server
