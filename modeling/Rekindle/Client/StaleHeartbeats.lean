import Rekindle.Client.PresenceFormats

/-! # Heartbeats that are too old

The age of a heartbeat is the difference of two `i64`, of which the sender chooses one. Here an overflow has no
result: a debug build panics and a release build wraps.
-/
namespace Rekindle.Client
set_option autoImplicit false
open Protocol (Bytes)

def InRange (age : Int) : Prop := Int64.minValue.toInt ≤ age ∧ age ≤ Int64.maxValue.toInt

instance (age : Int) : Decidable (InRange age) := inferInstanceAs (Decidable (_ ∧ _))

/-- `now - ts`. -/
def heartbeatAge (now sent : Int64) : Option Int64 :=
  if InRange (now.toInt - sent.toInt) then some (now - sent) else none

/-- `now - ts > STALE_PRESENCE_THRESHOLD_MS`, of a heartbeat if there is one. -/
def isStale (now : Int64) : Option Int64 → Option Bool
  | none => some false
  | some sent => (heartbeatAge now sent).map fun age => decide (age > stalePresenceThresholdMs)

/-- The override of both paths. -/
def freshStatus (now : Int64) (value : Bytes) (parsed : UserStatus) : Option UserStatus :=
  if parsed = .offline then some .offline
  else (isStale now (parseStatusTimestamp value)).map fun stale => if stale then .offline else parsed

/-- The status that the watch path stores. -/
def FriendPresence.watched (friend : FriendPresence) (now : Int64) (value : Bytes) (status : UserStatus) :
    FriendPresence :=
  let heard := { friend with lastHeartbeatAt := (parseStatusTimestamp value).or friend.lastHeartbeatAt }
  match status with
  | .offline => { heard with status := .offline, lastSeenAt := some now }
  | status => { heard with status }

/-- `handle_status_change`. -/
def watchStatus (now : Int64) (friend : FriendPresence) (value : Bytes) : Option FriendPresence :=
  match parseStatus value with
  | none => some friend
  | some parsed => (freshStatus now value parsed).map (friend.watched now value)

/-- `sync_friend_status`. -/
def syncFriendStatus (now : Int64) (friend : FriendPresence) (value : Bytes) : Option FriendPresence :=
  match parseStatus value with
  | none => some friend
  | some parsed =>
    (freshStatus now value parsed).map fun status =>
      { friend with
        lastHeartbeatAt := (parseStatusTimestamp value).or friend.lastHeartbeatAt
        status := status }

/-- What `check_stale_presences` does to a friend. -/
def checkStalePresence (now : Int64) (friend : FriendPresence) : Option FriendPresence :=
  if friend.status = .offline then some friend
  else
    (isStale now friend.lastHeartbeatAt).map fun stale =>
      if stale then { friend with status := .offline, lastSeenAt := some now } else friend

/-- A tick of `sync_friends`, as far as it concerns the status of a friend. -/
def syncStatus (now : Int64) (friend : FriendPresence) (value : Bytes) : Option FriendPresence :=
  (syncFriendStatus now friend value).bind (checkStalePresence now)

/-- Neither path overflows, and by both the peer is online or by both it is not: if it names a time, exactly when
that is recent and it does not say that it is offline. -/
def ClassifiedAlike (now : Int64) (friend : FriendPresence) (value : Bytes) : Prop :=
  ∃ watched synced, watchStatus now friend value = some watched ∧ syncStatus now friend value = some synced ∧
    (watched.status = .offline ↔ synced.status = .offline) ∧
    ∀ sent ∈ parseStatusTimestamp value, watched.status ≠ .offline ↔
      parseStatus value ≠ some .offline ∧ now.toInt - sent.toInt ≤ stalePresenceThresholdMs.toInt

/-- The peer says that it is offline, or the age of its last heartbeat is an `i64`, and a heartbeat that came
before a value without a time is recent. -/
def Measurable (now : Int64) (friend : FriendPresence) (value : Bytes) : Prop :=
  (parseStatus value).getD friend.status = .offline ∨
    ∀ sent ∈ (parseStatusTimestamp value).or friend.lastHeartbeatAt, InRange (now.toInt - sent.toInt) ∧
      (parseStatusTimestamp value = none → now.toInt - sent.toInt ≤ stalePresenceThresholdMs.toInt)

variable {now sent : Int64} {friend : FriendPresence} {value : Bytes} {parsed : UserStatus}

theorem toInt_sub_of_inRange (h : InRange (now.toInt - sent.toInt)) : (now - sent).toInt = now.toInt - sent.toInt := by
  rw [Int64.toInt_sub]
  obtain ⟨hLower, hUpper⟩ := h
  have hMin : Int64.minValue.toInt = -9223372036854775808 := rfl
  have hMax : Int64.maxValue.toInt = 9223372036854775807 := rfl
  rw [hMin] at hLower
  rw [hMax] at hUpper
  exact Int.bmod_eq_of_le (by omega) (by omega)

theorem isStale_some (now sent : Int64) : isStale now (some sent) =
    if InRange (now.toInt - sent.toInt) then some (decide (stalePresenceThresholdMs.toInt < now.toInt - sent.toInt))
    else none := by
  change (heartbeatAge now sent).map _ = _
  unfold heartbeatAge
  split
  · next hRange =>
    rw [Option.map_some, ← toInt_sub_of_inRange hRange]
    exact congrArg some (decide_eq_decide.mpr Int64.lt_iff_toInt_lt)
  · rfl

@[simp] theorem status_watched (status : UserStatus) : (friend.watched now value status).status = status := by
  cases status <;> rfl

theorem parseStatusTimestamp_of_parseStatus (h : parseStatus value = none) : parseStatusTimestamp value = none := by
  cases value with
  | nil => rfl
  | cons first rest =>
    unfold parseStatus at h
    split at h <;> contradiction

theorem freshStatus_of_untimed (hTime : parseStatusTimestamp value = none) :
    freshStatus now value parsed = some parsed := by
  rw [freshStatus, hTime]
  split
  · next hOffline => rw [hOffline]
  · rfl

/-- The scan leaves a friend's status as it is, unless its heartbeat is old or has no age. -/
theorem checkStalePresence_keeps_iff :
    (∃ checked, checkStalePresence now friend = some checked ∧ (friend.status = .offline ↔ checked.status = .offline)) ↔
      friend.status = .offline ∨ ∀ sent ∈ friend.lastHeartbeatAt,
        InRange (now.toInt - sent.toInt) ∧ now.toInt - sent.toInt ≤ stalePresenceThresholdMs.toInt := by
  unfold checkStalePresence
  by_cases hOffline : friend.status = .offline
  · rw [if_pos hOffline]
    exact iff_of_true ⟨friend, rfl, Iff.rfl⟩ (.inl hOffline)
  · rw [if_neg hOffline]
    rcases hHeartbeat : friend.lastHeartbeatAt with _ | sent
    · exact iff_of_true ⟨friend, rfl, Iff.rfl⟩ (.inr fun _ hNone => nomatch hNone)
    · rw [isStale_some]
      by_cases hRange : InRange (now.toInt - sent.toInt)
      · rw [if_pos hRange]
        by_cases hStale : stalePresenceThresholdMs.toInt < now.toInt - sent.toInt
        · simp only [hStale, decide_true, Option.map_some, if_true]
          refine iff_of_false ?_ ?_
          · rintro ⟨checked, ⟨⟩, hSame⟩
            exact hOffline (hSame.mpr rfl)
          · rintro (hHere | hRecent)
            · exact hOffline hHere
            · exact absurd (hRecent sent rfl).2 (Int.not_le.mpr hStale)
        · simp only [hStale, decide_false, Option.map_some, Bool.false_eq_true, if_false]
          refine iff_of_true ⟨friend, rfl, Iff.rfl⟩ (.inr fun other hOther => ?_)
          cases hOther
          exact ⟨hRange, Int.not_lt.mp hStale⟩
      · rw [if_neg hRange]
        refine iff_of_false (fun ⟨checked, hChecked, _⟩ => nomatch hChecked) ?_
        rintro (hHere | hRecent)
        · exact hOffline hHere
        · exact hRange (hRecent sent rfl).1

/-- A value without a time: the scan is what the paths may differ by. -/
theorem classifiedAlike_of_untimed {watched synced : FriendPresence} (hTime : parseStatusTimestamp value = none)
    (hWatch : watchStatus now friend value = some watched) (hSync : syncFriendStatus now friend value = some synced)
    (hStatus : watched.status = synced.status) :
    ClassifiedAlike now friend value ↔ synced.status = .offline ∨ ∀ sent ∈ synced.lastHeartbeatAt,
      InRange (now.toInt - sent.toInt) ∧ now.toInt - sent.toInt ≤ stalePresenceThresholdMs.toInt := by
  rw [← checkStalePresence_keeps_iff]
  unfold ClassifiedAlike syncStatus
  rw [hWatch, hSync, hTime]
  constructor
  · rintro ⟨_, checked, ⟨⟩, hChecked, hSame, -⟩
    exact ⟨checked, hChecked, hStatus ▸ hSame⟩
  · rintro ⟨checked, hChecked, hSame⟩
    exact ⟨watched, checked, rfl, hChecked, hStatus ▸ hSame, fun _ hNone => nomatch hNone⟩

/-- A value with a time: both paths judge it by that time, and the scan judges it again. -/
theorem classifiedAlike_of_timed (hParsed : parseStatus value = some parsed) (hOnline : parsed ≠ .offline)
    (hTime : parseStatusTimestamp value = some sent) :
    ClassifiedAlike now friend value ↔ InRange (now.toInt - sent.toInt) := by
  have hStale := isStale_some now sent
  unfold ClassifiedAlike syncStatus watchStatus syncFriendStatus freshStatus
  simp only [hParsed, hTime, if_neg hOnline]
  by_cases hRange : InRange (now.toInt - sent.toInt)
  · refine iff_of_true ?_ hRange
    rw [if_pos hRange] at hStale
    by_cases hOld : stalePresenceThresholdMs.toInt < now.toInt - sent.toInt
    · simp only [hStale, hOld, decide_true, Option.map_some, if_true, Option.bind_some]
      refine ⟨_, _, rfl, rfl, iff_of_true (status_watched _) rfl, fun other hOther => ?_⟩
      cases hOther
      exact iff_of_false (fun hHere => hHere (status_watched _)) fun hRecent => absurd hRecent.2 (Int.not_le.mpr hOld)
    · simp only [hStale, hOld, decide_false, Option.map_some, Bool.false_eq_true, if_false, Option.bind_some]
      refine ⟨_, { friend with lastHeartbeatAt := some sent, status := parsed }, rfl, ?_, ?_, fun other hOther => ?_⟩
      · unfold checkStalePresence
        rw [if_neg hOnline]
        dsimp only [Option.some_or]
        rw [hStale]
        simp only [hOld, decide_false, Option.map_some, Bool.false_eq_true, if_false]
      · rw [status_watched]
      · cases hOther
        rw [status_watched]
        exact iff_of_true hOnline ⟨fun hSame => hOnline (Option.some.inj hSame), Int.not_lt.mp hOld⟩
  · rw [if_neg hRange] at hStale
    simp only [hStale, Option.map_none]
    exact iff_of_false (fun ⟨_, _, hNone, _⟩ => nomatch hNone) hRange

/-- What the two paths make of a value is the same exactly when the heartbeat they go by has an age. -/
theorem classifiedAlike_iff (now : Int64) (friend : FriendPresence) (value : Bytes) :
    ClassifiedAlike now friend value ↔ Measurable now friend value := by
  unfold Measurable
  rcases hParsed : parseStatus value with _ | parsed
  · have hTime := parseStatusTimestamp_of_parseStatus hParsed
    have hWatch : watchStatus now friend value = some friend := by rw [watchStatus, hParsed]
    have hSync : syncFriendStatus now friend value = some friend := by rw [syncFriendStatus, hParsed]
    rw [classifiedAlike_of_untimed hTime hWatch hSync rfl, hTime, Option.none_or]
    exact or_congr Iff.rfl (forall₂_congr fun sent _ => and_congr_right fun _ => ⟨fun hRecent _ => hRecent, fun hRecent => hRecent rfl⟩)
  · rcases hTime : parseStatusTimestamp value with _ | sent
    · have hFresh := @freshStatus_of_untimed now value parsed hTime
      have hWatch : watchStatus now friend value = some (friend.watched now value parsed) := by
        simp only [watchStatus, hParsed, hFresh, Option.map_some]
      have hSync : syncFriendStatus now friend value = some { friend with status := parsed } := by
        simp only [syncFriendStatus, hParsed, hFresh, hTime, Option.map_some, Option.none_or]
      rw [classifiedAlike_of_untimed hTime hWatch hSync (status_watched parsed), Option.none_or]
      exact or_congr Iff.rfl (forall₂_congr fun sent _ => and_congr_right fun _ => ⟨fun hRecent _ => hRecent, fun hRecent => hRecent rfl⟩)
    · by_cases hOnline : parsed = .offline
      · subst hOnline
        refine iff_of_true ⟨friend.watched now value .offline,
          { friend with lastHeartbeatAt := some sent, status := .offline }, ?_, ?_, ?_, ?_⟩ (.inl rfl)
        · simp only [watchStatus, hParsed, freshStatus, if_true, Option.map_some]
        · simp only [syncStatus, syncFriendStatus, hParsed, hTime, freshStatus, if_true, Option.map_some, Option.some_or,
            Option.bind_some, checkStalePresence]
        · exact iff_of_true rfl rfl
        · exact fun _ _ => iff_of_false (fun hHere => hHere rfl) fun hSays => hSays.1 hParsed
      · rw [classifiedAlike_of_timed hParsed hOnline hTime, Option.some_or]
        constructor
        · rintro hRange
          refine .inr fun other hOther => ?_
          cases hOther
          exact ⟨hRange, fun hNone => nomatch hNone⟩
        · rintro (hOffline | hRange)
          · exact absurd hOffline hOnline
          · exact (hRange sent rfl).1

theorem effectiveStatus_of_freshStatus {status : UserStatus} (h : freshStatus now value parsed = some status) :
    effectiveStatus now value parsed = status := by
  unfold freshStatus at h
  unfold effectiveStatus
  by_cases hOffline : parsed = .offline
  · rw [if_pos hOffline] at h
    rw [if_neg fun hBoth => hBoth.1 hOffline, hOffline]
    exact Option.some.inj h
  · rw [if_neg hOffline] at h
    rcases hTime : parseStatusTimestamp value with _ | sent
    · rw [hTime] at h
      cases h
      simp
    · simp only [hTime, isStale, heartbeatAge] at h
      split at h
      · simp only [Option.map_some, Option.some.injEq, decide_eq_true_eq] at h
        simp only [ne_eq, hOffline, not_false_eq_true, true_and, Option.any_some, decide_eq_true_eq]
        exact h
      · cases h

/-- Without an overflow a release build does the same. -/
theorem handleStatusChange_of_watchStatus {watched : FriendPresence}
    (h : watchStatus now friend value = some watched) : handleStatusChange now friend value = watched := by
  unfold watchStatus at h
  unfold handleStatusChange
  rcases hParsed : parseStatus value with _ | parsed
  · rw [hParsed] at h
    exact Option.some.inj h
  · rw [hParsed] at h
    obtain ⟨status, hFresh, hWatched⟩ := Option.map_eq_some_iff.mp h
    dsimp only
    rw [effectiveStatus_of_freshStatus hFresh]
    exact hWatched

/-- Of the year 2023, in milliseconds. -/
def sampleNow : Int64 := 1700000000000

def silentFriend : FriendPresence where
  status := .offline
  gameInfo := none
  lastHeartbeatAt := none
  lastSeenAt := none
  cachedRoute := none

/-- Online, with the least `i64` as its time. -/
def earliestHeartbeat : Bytes := statusPayload .online Int64.minValue

/-- The age of the heartbeat is not an `i64`; a release build takes the peer to be online. -/
theorem earliest_heartbeat_overflows : ¬ClassifiedAlike sampleNow silentFriend earliestHeartbeat ∧
    (handleStatusChange sampleNow silentFriend earliestHeartbeat).status = .online := by
  refine ⟨?_, by decide +kernel⟩
  have hWatch : watchStatus sampleNow silentFriend earliestHeartbeat = none := by decide +kernel
  rintro ⟨watched, _, hWatched, _⟩
  cases hWatch.symm.trans hWatched

end Rekindle.Client
