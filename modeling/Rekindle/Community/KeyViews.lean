import Rekindle.Community.KeyTasks

/-! # What the client holds about the key of one community

The cached key, the generation that goes with messages, the payload in the keychain and the
generation in the row.
-/
namespace Rekindle.Community
set_option autoImplicit false
open ByteWords Server Fallible

structure KeyView where
  cached : Option MediaEncryptionKey
  label : Option UInt64
  /-- Some community of this id in memory is one's own. -/
  hosted : Bool
  payload : Option (List UInt8)
  /-- The generation of the row and whether it is of a community of one's own. -/
  row : Option (Int64 × Bool)

def rowView (row : CommunityRow) : Int64 × Bool := (row.mekGeneration, row.isHosted)

def ClientState.view (state : ClientState) (communityId : String) : KeyView :=
  { cached := state.mekCache.lookup communityId
    label := state.label? communityId
    hosted := state.communities.any fun community => community.id == communityId && community.isHosted
    payload := state.vault.lookup communityId
    row := (state.row? communityId).map rowView }

/-! ## Payloads -/

theorem receivedMek_key {mekEncrypted : List UInt8} {mekGeneration : UInt64} {mek : MediaEncryptionKey}
    (h : receivedMek mekEncrypted mekGeneration = some mek) : mek.key.length = 32 ∧ mek.generation = mekGeneration := by
  unfold receivedMek at h
  split at h
  next hLong =>
    cases h
    constructor
    · rw [List.length_take, List.length_drop]
      omega
    · rfl
  next => cases h

theorem storedMek_mekPayload {mek : MediaEncryptionKey} (hKey : mek.key.length = 32) :
    storedMek (mekPayload mek) = some mek := by
  have hHeader : (toLeBytes 8 mek.generation.toNat).length = 8 := length_toLeBytes 8 _
  have hLong : 40 ≤ (mekPayload mek).length := by
    rw [mekPayload, List.length_append, hHeader, hKey]
  have hGeneration : (mekPayload mek).take 8 = toLeBytes 8 mek.generation.toNat := by
    rw [mekPayload, List.take_append_of_le_length (le_of_eq hHeader.symm), List.take_of_length_le (le_of_eq hHeader)]
  rw [storedMek, if_pos hLong, hGeneration, mekPayload_drop, ofLeBytes_toLeBytes_of_lt mek.generation.toNat_lt,
    List.take_of_length_le (le_of_eq hKey), UInt64.ofNat_toNat]

/-! ## Updates -/

section
variable (state : ClientState) (communityId other : String)

theorem view_cacheMek (mek : MediaEncryptionKey) : (state.cacheMek communityId mek).view other =
    if other = communityId then { state.view other with cached := some mek } else state.view other := by
  by_cases h : other = communityId
  · subst h
    simp [ClientState.cacheMek, ClientState.view, ClientState.label?, ClientState.community?, ClientState.row?]
  · simp [ClientState.cacheMek, ClientState.view, ClientState.label?, ClientState.community?, ClientState.row?, h,
      Finmap.lookup_insert_of_ne]

theorem view_storeKey (hOpen : state.unlocked = true) (payload : List UInt8) :
    (state.storeKey communityId payload).view other =
      if other = communityId then { state.view other with payload := some payload } else state.view other := by
  rw [ClientState.storeKey, if_pos hOpen]
  by_cases h : other = communityId
  · subst h
    simp [ClientState.view, ClientState.label?, ClientState.community?, ClientState.row?]
  · simp [ClientState.view, ClientState.label?, ClientState.community?, ClientState.row?, h,
      Finmap.lookup_insert_of_ne]

theorem any_insert_community (community : CommunityState) (communities : List CommunityState) :
    ((Keyed.insert CommunityState.id community communities).any fun entry => entry.id == other && entry.isHosted) =
      if other = community.id then community.isHosted
      else communities.any fun entry => entry.id == other && entry.isHosted := by
  have hRemoved : ((Keyed.remove CommunityState.id community.id communities).any
      fun entry => entry.id == other && entry.isHosted) =
        if other = community.id then false else communities.any fun entry => entry.id == other && entry.isHosted := by
    induction communities with
    | nil => simp [Keyed.remove]
    | cons entry rest ih =>
      unfold Keyed.remove at ih ⊢
      by_cases hHere : entry.id = community.id
      · rw [List.filter_cons_of_neg (by simp [hHere]), ih]
        by_cases hOther : other = community.id
        · simp [hOther]
        · simp [hOther, hHere, Ne.symm hOther]
      · rw [List.filter_cons_of_pos (by simp [hHere]), List.any_cons, ih]
        by_cases hOther : other = community.id
        · simp [hOther, hHere]
        · simp [hOther]
  rw [Keyed.insert, List.any_append, hRemoved]
  by_cases hOther : other = community.id
  · simp [hOther]
  · simp [hOther, Ne.symm hOther]

theorem view_insertCommunity (community : CommunityState) : (state.insertCommunity community).view other =
    if other = community.id then
      { state.view other with label := some community.mekGeneration, hosted := community.isHosted }
    else state.view other := by
  have hFound := @Keyed.find_insert _ _ _ CommunityState.id state.communities community other
  simp only [ClientState.insertCommunity, ClientState.view, ClientState.label?, ClientState.community?,
    ClientState.row?, any_insert_community, hFound]
  split <;> rfl

theorem any_update_community (change : CommunityState → CommunityState) (hKey : ∀ entry, (change entry).id = entry.id)
    (hHosted : ∀ entry, (change entry).isHosted = entry.isHosted) (communities : List CommunityState) :
    ((Keyed.update CommunityState.id communityId change communities).any
        fun entry => entry.id == other && entry.isHosted) =
      communities.any fun entry => entry.id == other && entry.isHosted := by
  induction communities with
  | nil => rfl
  | cons entry rest ih =>
    rw [Keyed.update]
    split
    · rw [List.any_cons, List.any_cons, hKey, hHosted]
    · rw [List.any_cons, List.any_cons, ih]

theorem view_setGeneration (generation : UInt64) : (state.setGeneration communityId generation).view other =
    if other = communityId then
      { state.view other with label := (state.view other).label.map fun _ => generation }
    else state.view other := by
  have hFound := @Keyed.find_update _ _ _ CommunityState.id communityId state.communities
    (fun community => { community with mekGeneration := generation }) (fun _ => rfl) other
  have hAny := any_update_community communityId other (fun community => { community with mekGeneration := generation })
    (fun _ => rfl) (fun _ => rfl) state.communities
  simp only [ClientState.setGeneration, ClientState.updateCommunity, ClientState.view, ClientState.label?,
    ClientState.community?, ClientState.row?, hFound, hAny]
  split
  next h =>
    subst h
    simp only [Option.map_map]
    rfl
  next => rfl

/-- A change of a community's other fields is not seen. -/
theorem view_updateCommunity {change : CommunityState → CommunityState}
    (hKey : ∀ entry, (change entry).id = entry.id) (hLabel : ∀ entry, (change entry).mekGeneration = entry.mekGeneration)
    (hHosted : ∀ entry, (change entry).isHosted = entry.isHosted) :
    (state.updateCommunity communityId change).view other = state.view other := by
  have hFound := @Keyed.find_update _ _ _ CommunityState.id communityId state.communities change hKey other
  simp only [ClientState.updateCommunity, ClientState.view, ClientState.label?, ClientState.community?,
    ClientState.row?, hFound, any_update_community communityId other change hKey hHosted]
  split
  next h =>
    subst h
    simp only [Option.map_map]
    congr 2
    funext entry
    exact hLabel entry
  next => rfl

theorem view_updateGeneration (generation : Int64) :
    (state.mapDb fun db => db.updateGeneration communityId generation).view other =
      if other = communityId then
        { state.view other with row := (state.view other).row.map fun row => (generation, row.2) }
      else state.view other := by
  have hFound := @Keyed.find_update _ _ _ CommunityRow.id communityId state.db.communities
    (fun row => { row with mekGeneration := generation }) (fun _ => rfl) other
  simp only [ClientState.mapDb, Database.updateGeneration, ClientState.view, ClientState.label?,
    ClientState.community?, ClientState.row?, Database.community?, hFound]
  split
  next h =>
    subst h
    simp only [Option.map_map]
    rfl
  next => rfl

end

/-! ## Rows -/

theorem insertChannel_communities (db : Database) (row : ChannelRow) :
    (db.insertChannel row).communities = db.communities := by
  unfold Database.insertChannel
  split <;> rfl

theorem joinRows_communities (call : JoinCall) (ownerKey : String) (details : JoinDetails) (db : Database) :
    (joinRows call ownerKey details db).communities = (db.insertCommunity
      { id := call.communityId, myPseudonymKey := some (details.myPseudonymKey.getD ownerKey)
        mekGeneration := details.mekGeneration.toInt64, serverRouteBlob := details.serverRouteBlob
        isHosted := false }).communities := by
  have hChannels (channels : List String) (db : Database) :
      (channels.foldl (fun db channelId => db.insertChannel ⟨channelId, call.communityId⟩) db).communities =
        db.communities := by
    induction channels generalizing db with
    | nil => rfl
    | cons channelId rest ih => rw [List.foldl_cons, ih, insertChannel_communities]
  exact hChannels _ _

theorem row_insertCommunity (db : Database) (row : CommunityRow) (other : String) :
    Keyed.find CommunityRow.id other (db.insertCommunity row).communities =
      if other = row.id then some ((Keyed.find CommunityRow.id other db.communities).getD row)
      else Keyed.find CommunityRow.id other db.communities := by
  unfold Database.insertCommunity
  split
  next hNone =>
    have hAbsent : Keyed.find CommunityRow.id row.id db.communities = none := hNone
    rw [Keyed.find_append, Keyed.find_cons]
    by_cases h : other = row.id
    · subst h
      simp [hAbsent]
    · simp [h, Ne.symm h, Keyed.find]
  next hSome =>
    by_cases h : other = row.id
    · subst h
      obtain ⟨old, hOld⟩ := Option.ne_none_iff_exists'.mp hSome
      have hFound : Keyed.find CommunityRow.id row.id db.communities = some old := hOld
      rw [if_pos rfl, hFound, Option.getD_some]
    · rw [if_neg h]

theorem nodup_insertCommunity (db : Database) (row : CommunityRow)
    (hKeys : (db.communities.map CommunityRow.id).Nodup) :
    ((db.insertCommunity row).communities.map CommunityRow.id).Nodup := by
  unfold Database.insertCommunity
  split
  next hNone =>
    have hAbsent := Keyed.find_eq_none_iff.mp hNone
    rw [List.map_append]
    refine hKeys.append (List.nodup_singleton _) ?_
    rw [List.map_singleton, List.disjoint_singleton, List.mem_map]
    rintro ⟨other, hOther, hSame⟩
    exact hAbsent other hOther hSame
  next => exact hKeys

theorem view_joinRows (state : ClientState) (call : JoinCall) (ownerKey : String) (details : JoinDetails)
    (other : String) : (state.mapDb (joinRows call ownerKey details)).view other =
      if other = call.communityId then
        { state.view other with row := some ((state.view other).row.getD (details.mekGeneration.toInt64, false)) }
      else state.view other := by
  simp only [ClientState.mapDb, ClientState.view, ClientState.label?, ClientState.community?, ClientState.row?,
    Database.community?, joinRows_communities, row_insertCommunity]
  split
  · cases Keyed.find CommunityRow.id other state.db.communities <;> rfl
  · rfl

end Rekindle.Community
