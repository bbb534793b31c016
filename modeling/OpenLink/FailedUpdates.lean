import OpenLink.RegistryRuns

/-!
Updates of the registry one of whose bucket operations fails. What comes before the
failure has taken effect, and the update goes on after a delete that fails. A failed
operation changes nothing.
-/
namespace OpenLink.FailedUpdates
open Actions Cpdlc Envelope Kv Registry RegistryRuns Session

variable (toUppercase : String → String)

/-- Every index entry names a station that is online under that callsign. -/
def IndexSound (registry : StationRegistry) : Prop :=
  ∀ key id, registry.kvCallsignIndexStore.get key = some id →
    ∃ entry, registry.kvRegistryStore.get id = some entry ∧ entry.status = .online ∧
      callsignIndexKey toUppercase entry.acarsEndpoint.callsign = key

def LookupsHold (registry : StationRegistry) : Prop :=
  ∀ callsign entry, lookupCallsign toUppercase registry callsign = some entry →
    entry.status = .online ∧ toUppercase entry.acarsEndpoint.callsign = toUppercase callsign

def only (failed operation : KvOperation) (_ : String) : Bool := operation == failed

/-- What is left of the update with this entry when the operation `failed` fails, whether
the update reports it or not. -/
def interrupted (failed : KvOperation) (registry : StationRegistry) (entry : StationEntry) :
    StationRegistry :=
  (runOn (updateStatus toUppercase (only failed) entry.lastUpdated entry.stationId entry.status
    entry.acarsEndpoint entry.networkAddress) registry).2

def newKey (entry : StationEntry) : String :=
  callsignIndexKey toUppercase entry.acarsEndpoint.callsign

def dropped (registry : StationRegistry) (entry : StationEntry) : StationRegistry :=
  dropStaleIndex toUppercase registry entry.stationId entry.acarsEndpoint.callsign

def reindexed (registry : StationRegistry) (entry : StationEntry) : StationRegistry :=
  if entry.status = .online then
    putIndex toUppercase registry entry.acarsEndpoint.callsign entry.stationId
  else deleteIndex toUppercase registry entry.acarsEndpoint.callsign

/-- The failed delete leaves an index entry of this station behind: that of the callsign it
gives up, or its own when it goes offline. -/
def leavesIndex (failed : KvOperation) (registry : StationRegistry) (entry : StationEntry) : Prop :=
  match failed with
  | .deleteStaleIndex => ∃ key, staleKey toUppercase registry entry = some key ∧
      key ≠ newKey toUppercase entry ∧
      registry.kvCallsignIndexStore.get key = some entry.stationId
  | .deleteIndex => entry.status ≠ .online ∧
      staleKey toUppercase registry entry ≠ some (newKey toUppercase entry) ∧
      registry.kvCallsignIndexStore.get (newKey toUppercase entry) = some entry.stationId
  | .readEntry | .putEntry | .putIndex => False

section Outcome
variable (registry : StationRegistry) (entry : StationEntry)

theorem interrupted_cases (failed : KvOperation) :
    interrupted toUppercase failed registry entry =
      match failed with
      | .readEntry => registry
      | .deleteStaleIndex => reindexed toUppercase (putEntry registry entry) entry
      | .putEntry => dropped toUppercase registry entry
      | .putIndex =>
          if entry.status = .online then putEntry (dropped toUppercase registry entry) entry
          else recorded toUppercase registry entry
      | .deleteIndex =>
          if entry.status = .online then recorded toUppercase registry entry
          else putEntry (dropped toUppercase registry entry) entry := by
  obtain ⟨id, status, now, address, endpoint⟩ := entry
  cases present : registry.kvRegistryStore.get id with
  | none =>
      cases failed <;> cases status <;>
        simp [interrupted, updateStatus, require, tolerate, only, run_bind, present, dropped,
          reindexed, recorded, dropStaleIndex]
  | some existing =>
      by_cases kept : existing.acarsEndpoint.callsign = endpoint.callsign <;>
        cases failed <;> cases status <;>
          simp [interrupted, updateStatus, require, tolerate, only, run_bind, present, dropped,
            reindexed, recorded, dropStaleIndex, kept]

theorem reindexed_entry (id : StationId) :
    (reindexed toUppercase (putEntry registry entry) entry).kvRegistryStore.get id =
      if id = entry.stationId then some entry else registry.kvRegistryStore.get id := by
  unfold reindexed
  split <;> simp [putIndex, deleteIndex, putEntry]

theorem reindexed_index (key : String) :
    (reindexed toUppercase (putEntry registry entry) entry).kvCallsignIndexStore.get key =
      if key = newKey toUppercase entry then
        if entry.status = .online then some entry.stationId else none
      else registry.kvCallsignIndexStore.get key := by
  unfold reindexed newKey
  cases entry.status <;> simp [putIndex, deleteIndex, putEntry]

theorem stored_entry (id : StationId) :
    (putEntry (dropped toUppercase registry entry) entry).kvRegistryStore.get id =
      if id = entry.stationId then some entry else registry.kvRegistryStore.get id := by
  simp [putEntry, dropped, dropped_store]

end Outcome

/-! When the index stays sound. -/
section Soundness
variable {registry : StationRegistry} {entry : StationEntry}

theorem lookups_sound (sound : IndexSound toUppercase registry) :
    LookupsHold toUppercase registry :=
  lookup_indexed toUppercase registry sound

/-- A station is found under one key, which a renaming update gives up. -/
theorem own_key_stale (sound : IndexSound toUppercase registry) {key : String}
    (named : registry.kvCallsignIndexStore.get key = some entry.stationId)
    (away : key ≠ newKey toUppercase entry) :
    staleKey toUppercase registry entry = some key := by
  obtain ⟨existing, present, _, own⟩ := sound key entry.stationId named
  have renamed : existing.acarsEndpoint.callsign ≠ entry.acarsEndpoint.callsign := by
    intro same
    exact away (by rw [← own, newKey, same])
  simp [staleKey, present, renamed, own]

/-- With the new entry stored, an index is sound that names this station at most under its new
key while it is online, and the others as before. -/
theorem sound_stored (sound : IndexSound toUppercase registry) {after : StationRegistry}
    (stored : ∀ id, after.kvRegistryStore.get id =
      if id = entry.stationId then some entry else registry.kvRegistryStore.get id)
    (indexed : ∀ key id, after.kvCallsignIndexStore.get key = some id →
      (id = entry.stationId ∧ entry.status = .online ∧ newKey toUppercase entry = key) ∨
        (id ≠ entry.stationId ∧ registry.kvCallsignIndexStore.get key = some id)) :
    IndexSound toUppercase after := by
  intro key id named
  rcases indexed key id named with ⟨rfl, online, own⟩ | ⟨other, before⟩
  · exact ⟨entry, by rw [stored, if_pos rfl], online, own⟩
  · obtain ⟨old, present, online, own⟩ := sound key id before
    exact ⟨old, by rw [stored, if_neg other, present], online, own⟩

theorem sound_dropped (sound : IndexSound toUppercase registry) :
    IndexSound toUppercase (dropped toUppercase registry entry) := by
  intro key id named
  rw [dropped, dropped_index] at named
  split at named
  · cases named
  · rw [dropped, dropped_store]
    exact sound key id named

theorem sound_complete (sound : IndexSound toUppercase registry) :
    IndexSound toUppercase (recorded toUppercase registry entry) := by
  apply sound_stored toUppercase sound (recorded_entry toUppercase registry entry)
  intro key id named
  rw [recorded_index] at named
  split_ifs at named with own online stale
  · exact Or.inl ⟨(Option.some.inj named).symm, online, own.symm⟩
  · refine Or.inr ⟨?_, named⟩
    rintro rfl
    exact stale (own_key_stale toUppercase sound named own)

/-- Without the stale delete the old key may stay behind. -/
theorem sound_undropped (sound : IndexSound toUppercase registry)
    (clean : ¬ leavesIndex toUppercase .deleteStaleIndex registry entry) :
    IndexSound toUppercase (reindexed toUppercase (putEntry registry entry) entry) := by
  apply sound_stored toUppercase sound (reindexed_entry toUppercase registry entry)
  intro key id named
  rw [reindexed_index] at named
  split_ifs at named with own online
  · exact Or.inl ⟨(Option.some.inj named).symm, online, own.symm⟩
  · refine Or.inr ⟨?_, named⟩
    rintro rfl
    exact clean ⟨key, own_key_stale toUppercase sound named own, own, named⟩

/-- Without the last operation the index still names an online station under its own key, and
an offline one where the key was its own before. -/
theorem sound_unindexed (sound : IndexSound toUppercase registry)
    (clean : entry.status = .online ∨ ¬ leavesIndex toUppercase .deleteIndex registry entry) :
    IndexSound toUppercase (putEntry (dropped toUppercase registry entry) entry) := by
  apply sound_stored toUppercase sound (stored_entry toUppercase registry entry)
  intro key id named
  change (dropped toUppercase registry entry).kvCallsignIndexStore.get key = some id at named
  rw [dropped, dropped_index] at named
  split_ifs at named with stale
  by_cases here : id = entry.stationId
  · subst here
    have own : key = newKey toUppercase entry := by
      by_contra away
      exact stale (own_key_stale toUppercase sound named away)
    subst own
    rcases clean with online | clean
    · exact Or.inl ⟨rfl, online, rfl⟩
    · exact Or.inl ⟨rfl, by_contra fun offline => clean ⟨offline, stale, named⟩, rfl⟩
  · exact Or.inr ⟨here, named⟩

theorem sound_interrupted (sound : IndexSound toUppercase registry) (failed : KvOperation)
    (clean : ¬ leavesIndex toUppercase failed registry entry) :
    IndexSound toUppercase (interrupted toUppercase failed registry entry) := by
  rw [interrupted_cases]
  cases failed with
  | readEntry => exact sound
  | deleteStaleIndex => exact sound_undropped toUppercase sound clean
  | putEntry => exact sound_dropped toUppercase sound
  | putIndex =>
      by_cases online : entry.status = .online
      · simpa only [online, if_true] using sound_unindexed toUppercase sound (Or.inl online)
      · simpa only [online, if_false] using sound_complete toUppercase sound
  | deleteIndex =>
      by_cases online : entry.status = .online
      · simpa only [online, if_true] using sound_complete toUppercase sound
      · simpa only [online, if_false] using sound_unindexed toUppercase sound (Or.inr clean)

end Soundness

/-! When a lookup is led astray. -/
section Strays
variable {registry : StationRegistry} {entry : StationEntry}

theorem stale_key_old {key : String} (stale : staleKey toUppercase registry entry = some key) :
    ∃ existing, registry.kvRegistryStore.get entry.stationId = some existing ∧
      callsignIndexKey toUppercase existing.acarsEndpoint.callsign = key := by
  obtain ⟨existing, present, kept⟩ := Option.bind_eq_some_iff.mp stale
  split at kept
  · exact ⟨existing, present, Option.some.inj kept⟩
  · cases kept

theorem lookup_named (after : StationRegistry) (callsign : AcarsEndpointCallsign)
    (named : after.kvCallsignIndexStore.get (callsignIndexKey toUppercase callsign) =
      some entry.stationId)
    (stored : after.kvRegistryStore.get entry.stationId = some entry) :
    lookupCallsign toUppercase after callsign = some entry := by
  rw [lookupCallsign, named]
  exact stored

theorem left_index_strays (failed : KvOperation)
    (left : leavesIndex toUppercase failed registry entry) :
    ¬ LookupsHold toUppercase (interrupted toUppercase failed registry entry) := by
  intro hold
  rw [interrupted_cases] at hold
  cases failed with
  | deleteStaleIndex =>
      obtain ⟨key, stale, away, named⟩ := left
      obtain ⟨existing, _, rfl⟩ := stale_key_old toUppercase stale
      -- the old callsign now finds the entry of the new one
      have found := lookup_named toUppercase
        (reindexed toUppercase (putEntry registry entry) entry) existing.acarsEndpoint.callsign
        (by rw [reindexed_index, if_neg away, named])
        (by rw [reindexed_entry, if_pos rfl])
      exact away (hold _ entry found).2.symm
  | deleteIndex =>
      obtain ⟨offline, kept, named⟩ := left
      simp only [offline, if_false] at hold
      have found := lookup_named toUppercase
        (putEntry (dropped toUppercase registry entry) entry) entry.acarsEndpoint.callsign
        (by
          change (dropped toUppercase registry entry).kvCallsignIndexStore.get _ = _
          rw [dropped, dropped_index]
          exact (if_neg kept).trans named)
        (by rw [stored_entry, if_pos rfl])
      exact offline (hold _ entry found).1
  | readEntry | putEntry | putIndex => exact left

end Strays

/-- After an update one operation of which has failed, lookups still find nothing or an online
station of that callsign, unless what failed is a delete that leaves an index entry of the
station behind. -/
theorem lookups_hold_iff (registry : StationRegistry) (sound : IndexSound toUppercase registry)
    (failed : KvOperation) (entry : StationEntry) :
    LookupsHold toUppercase (interrupted toUppercase failed registry entry) ↔
      ¬ leavesIndex toUppercase failed registry entry := by
  constructor
  · intro hold left
    exact left_index_strays toUppercase failed left hold
  · intro clean
    exact lookups_sound toUppercase (sound_interrupted toUppercase sound failed clean)

/-! A unit that is online, and its next updates. -/

def unit (callsign : AcarsEndpointCallsign) (status : StationStatus) : StationEntry :=
  ⟨"unit-1", status, 0, "address-1", ⟨callsign, callsign⟩⟩

def oneUnit : StationRegistry := recorded asciiUppercase .empty (unit "LFPG" .online)

theorem one_unit_sound : IndexSound asciiUppercase oneUnit :=
  (sound_recorded asciiUppercase .empty _ (sound_empty asciiUppercase)).indexed

theorem lookups_hold_failed_put :
    LookupsHold asciiUppercase
        (interrupted asciiUppercase .putIndex oneUnit (unit "LFFF" .online)) ↔
      ¬ leavesIndex asciiUppercase .putIndex oneUnit (unit "LFFF" .online) :=
  lookups_hold_iff asciiUppercase oneUnit one_unit_sound .putIndex (unit "LFFF" .online)

/-- The delete of the index is lost, and the unit that has left is still found. -/
theorem departed_unit_found :
    IndexSound asciiUppercase oneUnit ∧
      lookupCallsign asciiUppercase
          (interrupted asciiUppercase .deleteIndex oneUnit (unit "LFPG" .offline)) "LFPG" =
        some (unit "LFPG" .offline) :=
  ⟨one_unit_sound, by decide⟩

end OpenLink.FailedUpdates
