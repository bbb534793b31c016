import OpenLink.MainLoop

/-!
A registry whose buckets refuse some keys, whichever these are. The status of a station whose id is
refused changes nothing. An index entry under a refused callsign is neither written nor deleted, and
an update that puts one fails when the station has its entry already.
-/
namespace OpenLink.RefusedKeys
open Actions Cpdlc Envelope Kv MainLoop Registry RegistryRuns Runs Server Slots

section Updates
variable (toUppercase : String → String) (accepts : String → Bool)

def refusing (_ : KvOperation) (key : String) : Bool := !accepts key

section Records
variable (registry : StationRegistry) (entry : StationEntry)

def dropStaleWhere : StationRegistry :=
  match staleKey toUppercase registry entry with
  | some key =>
      if accepts key then
        { registry with kvCallsignIndexStore := registry.kvCallsignIndexStore.delete key }
      else registry
  | none => registry

def reindexWhere : StationRegistry :=
  if accepts (stationKey toUppercase entry) then
    if entry.status = .online then
      putIndex toUppercase registry entry.acarsEndpoint.callsign entry.stationId
    else deleteIndex toUppercase registry entry.acarsEndpoint.callsign
  else registry

/-- What an update with this entry leaves behind, whether it fails or not. -/
def recordedWhere : StationRegistry :=
  if accepts entry.stationId then
    reindexWhere toUppercase accepts
      (putEntry (dropStaleWhere toUppercase accepts registry entry) entry) entry
  else registry

end Records

variable {accepts}

theorem run_required (operation : KvOperation) (key : String)
    (write : StationRegistry → StationRegistry) (registry : StationRegistry) :
    runOn (require (refusing accepts) operation key write) registry =
      if accepts key then (.ok (), write registry) else (.error "KV operation failed", registry) := by
  cases taken : accepts key <;> simp [require, refusing, taken]

theorem run_tolerated (operation : KvOperation) (key : String)
    (write : StationRegistry → StationRegistry) (registry : StationRegistry) :
    runOn (tolerate (refusing accepts) operation key write) registry =
      (.ok (), if accepts key then write registry else registry) := by
  cases taken : accepts key <;> simp [tolerate, refusing, taken]

theorem run_recording (registry : StationRegistry) (entry : StationEntry)
    (taken : accepts entry.stationId = true) :
    runOn (do
        require (refusing accepts) .putEntry entry.stationId fun registry =>
          putEntry registry entry
        if entry.status = .online then
          require (refusing accepts) .putIndex
            (callsignIndexKey toUppercase entry.acarsEndpoint.callsign) fun registry =>
              putIndex toUppercase registry entry.acarsEndpoint.callsign entry.stationId
        else
          tolerate (refusing accepts) .deleteIndex
            (callsignIndexKey toUppercase entry.acarsEndpoint.callsign) fun registry =>
              deleteIndex toUppercase registry entry.acarsEndpoint.callsign) registry =
      (if entry.status = .offline ∨ accepts (stationKey toUppercase entry) then .ok ()
        else .error "KV operation failed",
        reindexWhere toUppercase accepts (putEntry registry entry) entry) := by
  have own : callsignIndexKey toUppercase entry.acarsEndpoint.callsign =
      stationKey toUppercase entry := rfl
  rw [run_bind, run_required, if_pos taken, reindexWhere]
  cases status : entry.status with
  | offline => simp [run_tolerated, own]
  | online =>
      cases indexed : accepts (stationKey toUppercase entry) <;> simp [run_required, own, indexed]

variable (accepts)

theorem run_update_status (registry : StationRegistry) (entry : StationEntry) :
    runOn (updateStatus toUppercase (refusing accepts) entry.lastUpdated entry.stationId
        entry.status entry.acarsEndpoint entry.networkAddress) registry =
      (if accepts entry.stationId ∧
          (entry.status = .offline ∨ accepts (stationKey toUppercase entry)) then .ok ()
        else .error "KV operation failed",
        recordedWhere toUppercase accepts registry entry) := by
  unfold recordedWhere
  rw [updateStatus, run_bind, run_required]
  cases taken : accepts entry.stationId with
  | false => simp
  | true =>
      simp only [if_true, run_bind, run_get]
      cases known : registry.kvRegistryStore.get entry.stationId with
      | none =>
          simp [known, dropStaleWhere, staleKey, ← run_recording toUppercase _ entry taken]
      | some existing =>
          by_cases kept : existing.acarsEndpoint.callsign = entry.acarsEndpoint.callsign
          · simp [known, kept, dropStaleWhere, staleKey, ← run_recording toUppercase _ entry taken]
          · simp [known, kept, dropStaleWhere, staleKey, run_bind, run_tolerated, deleteIndex,
              ← run_recording toUppercase _ entry taken]

end Updates

/-! The entries and the index after an update. -/
section Stored
variable (toUppercase : String → String) (accepts : String → Bool) (registry : StationRegistry)
  (entry : StationEntry)

theorem dropped_where_store :
    (dropStaleWhere toUppercase accepts registry entry).kvRegistryStore =
      registry.kvRegistryStore := by
  unfold dropStaleWhere
  split
  · split <;> rfl
  · rfl

theorem dropped_where_index (key : String) :
    (dropStaleWhere toUppercase accepts registry entry).kvCallsignIndexStore.get key =
      if accepts key ∧ staleKey toUppercase registry entry = some key then none
      else registry.kvCallsignIndexStore.get key := by
  unfold dropStaleWhere
  cases staleKey toUppercase registry entry with
  | none => simp
  | some old =>
      by_cases same : old = key
      · subst same
        cases taken : accepts old <;> simp [taken]
      · have away : key ≠ old := Ne.symm same
        cases taken : accepts old <;> simp [taken, same, away]

theorem reindexed_where_store :
    (reindexWhere toUppercase accepts registry entry).kvRegistryStore =
      registry.kvRegistryStore := by
  unfold reindexWhere
  split
  · split <;> rfl
  · rfl

theorem reindexed_where_index (key : String) :
    (reindexWhere toUppercase accepts registry entry).kvCallsignIndexStore.get key =
      if accepts key ∧ key = stationKey toUppercase entry then
        if entry.status = .online then some entry.stationId else none
      else registry.kvCallsignIndexStore.get key := by
  unfold reindexWhere
  by_cases own : key = stationKey toUppercase entry
  · subst own
    cases accepts (stationKey toUppercase entry) <;> cases entry.status <;>
      simp [putIndex, deleteIndex, stationKey]
  · have away : key ≠ callsignIndexKey toUppercase entry.acarsEndpoint.callsign := own
    cases accepts (stationKey toUppercase entry) <;> cases entry.status <;>
      simp [putIndex, deleteIndex, own, away]

theorem recorded_where_entry (other : StationId) :
    (recordedWhere toUppercase accepts registry entry).kvRegistryStore.get other =
      if accepts entry.stationId ∧ other = entry.stationId then some entry
      else registry.kvRegistryStore.get other := by
  unfold recordedWhere
  cases accepts entry.stationId with
  | false => simp
  | true => simp [reindexed_where_store, putEntry, dropped_where_store]

/-- Under an accepted key the index is that after a complete update. -/
theorem recorded_where_index (key : String) :
    (recordedWhere toUppercase accepts registry entry).kvCallsignIndexStore.get key =
      if accepts entry.stationId ∧ accepts key then
        (recorded toUppercase registry entry).kvCallsignIndexStore.get key
      else registry.kvCallsignIndexStore.get key := by
  unfold recordedWhere
  cases accepts entry.stationId with
  | false => simp
  | true =>
      rw [recorded_index, if_pos rfl, reindexed_where_index]
      change (if _ then _ else
        (dropStaleWhere toUppercase accepts registry entry).kvCallsignIndexStore.get key) = _
      rw [dropped_where_index]
      cases accepts key <;> simp [stationKey]

end Stored

/-! A sweep of the leases over a registry whose stations are accepted. -/
section Sweeps
variable (toUppercase : String → String) {accepts : String → Bool}

/-- Every entry is stored under the id of its station, which the bucket accepts. -/
structure Lawful (accepts : String → Bool) (registry : StationRegistry) : Prop where
  named : ∀ id entry, registry.kvRegistryStore.get id = some entry → entry.stationId = id
  accepted : ∀ id entry, registry.kvRegistryStore.get id = some entry → accepts id = true

theorem lawful_recorded (registry : StationRegistry) (entry : StationEntry)
    (lawful : Lawful accepts registry) :
    Lawful accepts (recordedWhere toUppercase accepts registry entry) := by
  have either : ∀ id stored,
      (recordedWhere toUppercase accepts registry entry).kvRegistryStore.get id = some stored →
        (accepts id = true ∧ stored.stationId = id) := by
    intro id stored present
    rw [recorded_where_entry] at present
    split at present
    · next own =>
      obtain ⟨taken, rfl⟩ := own
      cases present
      exact ⟨taken, rfl⟩
    · exact ⟨lawful.accepted id stored present, lawful.named id stored present⟩
  exact ⟨fun id stored present => (either id stored present).2,
    fun id stored present => (either id stored present).1⟩

theorem run_expire_each (now ttl : DateTime) (entries expired : List StationEntry)
    (taken : ∀ entry ∈ entries, accepts entry.stationId = true) (registry : StationRegistry) :
    runOn (expireEach toUppercase (refusing accepts) now ttl entries expired) registry =
      (.ok (expired ++ entries.filter (stale now ttl)),
        ((entries.filter (stale now ttl)).map (retired now)).foldl
          (recordedWhere toUppercase accepts) registry) := by
  induction entries generalizing expired registry with
  | nil => simp [expireEach]
  | cons entry rest ih =>
      have later := fun expired => ih expired fun other member =>
        taken other (List.mem_cons_of_mem _ member)
      cases elapsed : stale now ttl entry with
      | false => simp [expireEach, elapsed, later]
      | true =>
          -- an accepted station goes off line without a failure
          have updated : runOn (updateStatus toUppercase (refusing accepts) now entry.stationId
              .offline entry.acarsEndpoint entry.networkAddress) registry =
              (.ok (), recordedWhere toUppercase accepts registry (retired now entry)) := by
            have ran := run_update_status toUppercase accepts registry (retired now entry)
            rwa [if_pos ⟨taken entry List.mem_cons_self, .inl rfl⟩] at ran
          simp only [expireEach, elapsed, if_true, run_bind, updated, later]
          simp [elapsed]

theorem run_expire_stale (registry : StationRegistry) (lawful : Lawful accepts registry)
    (now ttl : DateTime) :
    runOn (expireStaleOnline toUppercase (refusing accepts) now ttl) registry =
      (.ok (expiring registry now ttl),
        ((expiring registry now ttl).map (retired now)).foldl
          (recordedWhere toUppercase accepts) registry) := by
  have taken : ∀ entry ∈ listEntries registry, accepts entry.stationId = true := by
    intro entry member
    obtain ⟨id, present⟩ := (mem_list_entries registry entry).mp member
    rw [lawful.named id entry present]
    exact lawful.accepted id entry present
  simp [expireStaleOnline, run_bind, run_expire_each toUppercase now ttl _ [] taken, expiring]

theorem lawful_each (entries : List StationEntry) (registry : StationRegistry)
    (lawful : Lawful accepts registry) :
    Lawful accepts (entries.foldl (recordedWhere toUppercase accepts) registry) :=
  run_invariant (recordedWhere toUppercase accepts) (Lawful accepts)
    (lawful_recorded toUppercase) registry lawful entries

theorem accepted_each (entries : List StationEntry) (registry : StationRegistry) (id : StationId)
    (taken : accepts id = true) :
    (entries.foldl (recordedWhere toUppercase accepts) registry).kvRegistryStore.get id =
      ((entries.filter fun entry => entry.stationId = id).getLast?).or
        (registry.kvRegistryStore.get id) := by
  induction entries using List.reverseRecOn with
  | nil => rfl
  | append_singleton entries entry ih =>
      rw [List.foldl_append, List.foldl_cons, List.foldl_nil, recorded_where_entry, ih]
      by_cases own : entry.stationId = id
      · simp [own, taken]
      · simp [own, Ne.symm own]

theorem entries_distinct (registry : StationRegistry) (lawful : Lawful accepts registry) :
    ((listEntries registry).map StationEntry.stationId).Nodup := by
  have within : ∀ ids : List StationId,
      ((ids.filterMap registry.kvRegistryStore.get).map StationEntry.stationId).Sublist ids := by
    intro ids
    induction ids with
    | nil => exact List.Sublist.refl _
    | cons id rest ih =>
        cases stored : registry.kvRegistryStore.get id with
        | none => simpa [stored] using ih.cons id
        | some entry =>
            have own := lawful.named id entry stored
            simpa [stored, own] using ih.cons_cons id
  exact (within _).nodup (KvStore.keys_nodup _)

/-- A sweep retires the entries whose lease has run out, and leaves the others. -/
theorem swept_entry (registry : StationRegistry) (lawful : Lawful accepts registry)
    (now ttl : DateTime) (id : StationId) :
    (((expiring registry now ttl).map (retired now)).foldl (recordedWhere toUppercase accepts)
        registry).kvRegistryStore.get id =
      (registry.kvRegistryStore.get id).map fun entry =>
        if stale now ttl entry then retired now entry else entry := by
  cases taken : accepts id with
  | false =>
      have unknown : ∀ other, Lawful accepts other → other.kvRegistryStore.get id = none := by
        intro other kept
        rw [Option.eq_none_iff_forall_not_mem]
        intro entry present
        exact absurd (kept.accepted id entry present) (by simp [taken])
      rw [unknown _ (lawful_each toUppercase _ registry lawful), unknown registry lawful]
      rfl
  | true =>
      have own : (expiring registry now ttl).filter (fun entry => entry.stationId == id) =
          ((registry.kvRegistryStore.get id).filter (stale now ttl)).toList := by
        apply filter_key _ _ ((entries_distinct registry lawful).sublist
          (List.filter_sublist.map _))
        intro entry
        change entry ∈ expiring registry now ttl ∧ _ ↔ _
        rw [mem_expiring registry lawful.named, Option.filter_eq_some_iff]
        constructor
        · rintro ⟨found, rfl⟩
          exact found
        · rintro ⟨stored, elapsed⟩
          have named := lawful.named id entry stored
          exact ⟨by rw [named]; exact ⟨stored, elapsed⟩, named⟩
      rw [accepted_each toUppercase _ registry id taken]
      have last : ((expiring registry now ttl).map (retired now)).filter
          (fun entry => entry.stationId = id) =
            (((registry.kvRegistryStore.get id).filter (stale now ttl)).toList.map
              (retired now)) := by
        rw [← own, List.filter_map]
        rfl
      rw [last]
      cases registry.kvRegistryStore.get id with
      | none => rfl
      | some entry => cases elapsed : stale now ttl entry <;> simp [Option.filter, elapsed]

end Sweeps

/-! One event of the main loop. -/
section Events
variable (config : ServerConfig) (accepts : String → Bool)

/-- The status that an event has the registry take. -/
def reported : Event → Option StationEntry
  | .arrives now envelope => (announced now envelope).filter fun entry => accepts entry.stationId
  | .presenceTick _ => none

theorem arrives_accepted (registry : StationRegistry) (now : DateTime)
    (envelope : OpenLinkEnvelope) :
    registryStep config (refusing accepts) registry (.arrives now envelope) =
      match reported accepts (.arrives now envelope) with
      | some entry => recordedWhere config.toUppercase accepts registry entry
      | none => registry := by
  simp only [registryStep, reported]
  cases announced now envelope with
  | none => rfl
  | some entry =>
      simp only [run_update_status, Option.filter]
      by_cases taken : accepts entry.stationId = true <;> simp [taken, recordedWhere]

theorem tick_accepted (registry : StationRegistry) (lawful : Lawful accepts registry)
    (now : DateTime) :
    registryStep config (refusing accepts) registry (.presenceTick now) =
      ((expiring registry now (leaseTtl config)).map (retired now)).foldl
        (recordedWhere config.toUppercase accepts) registry := by
  rw [registryStep, run_expire_stale _ registry lawful]

theorem lawful_step (registry : StationRegistry) (event : Event)
    (lawful : Lawful accepts registry) :
    Lawful accepts (registryStep config (refusing accepts) registry event) := by
  cases event with
  | presenceTick now =>
      rw [tick_accepted config accepts registry lawful]
      exact lawful_each _ _ registry lawful
  | arrives now envelope =>
      rw [arrives_accepted]
      split
      · exact lawful_recorded _ registry _ lawful
      · exact lawful

end Events

end OpenLink.RefusedKeys
