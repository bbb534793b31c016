import OpenLink.Registry
import OpenLink.Runs
import OpenLink.Session

/-!
Runs of the registry whose bucket operations all succeed. The index only ever
names online stations under their own callsign. The converse is not kept: an
index entry is given up with the station that leaves it, whoever else holds the
callsign.
-/
namespace OpenLink.RegistryRuns
open Actions Cpdlc Envelope Kv Registry Runs Session

variable (toUppercase : String → String)

inductive RegistryCall where
  | updateStatus (now : DateTime) (stationId : StationId) (status : StationStatus)
      (acarsEndpoint : AcarsRoutingEndpoint) (networkAddress : NetworkAddress)
  | expireStaleOnline (now ttl : DateTime)
  deriving DecidableEq

def call (registry : StationRegistry) : RegistryCall → StationRegistry
  | .updateStatus now stationId status acarsEndpoint networkAddress =>
      (runOn (updateStatus toUppercase noFailure now stationId status acarsEndpoint networkAddress)
        registry).2
  | .expireStaleOnline now ttl =>
      (runOn (expireStaleOnline toUppercase noFailure now ttl) registry).2

def registryAfter (calls : List RegistryCall) : StationRegistry :=
  exec (call toUppercase) .empty calls

/-! A call as a list of complete updates. -/
section Calls

def retired (now : DateTime) (entry : StationEntry) : StationEntry :=
  { entry with status := .offline, lastUpdated := now }

/-- The online stations whose lease has run out, in the order they are retired. -/
def expiring (registry : StationRegistry) (now ttl : DateTime) : List StationEntry :=
  (listEntries registry).filter (stale now ttl)

def records (registry : StationRegistry) : RegistryCall → List StationEntry
  | .updateStatus now stationId status acarsEndpoint networkAddress =>
      [⟨stationId, status, now, networkAddress, acarsEndpoint⟩]
  | .expireStaleOnline now ttl => (expiring registry now ttl).map (retired now)

theorem run_expire_each (now ttl : DateTime) (entries expired : List StationEntry)
    (registry : StationRegistry) :
    runOn (expireEach toUppercase noFailure now ttl entries expired) registry =
      (.ok (expired ++ entries.filter (stale now ttl)),
        ((entries.filter (stale now ttl)).map (retired now)).foldl (recorded toUppercase)
          registry) := by
  induction entries generalizing expired registry with
  | nil => simp [expireEach]
  | cons entry rest ih =>
      cases elapsed : stale now ttl entry with
      | false => simp [expireEach, elapsed, ih]
      | true =>
          simp only [expireEach, elapsed, if_true, run_bind, update_status_recorded, ih]
          simp [elapsed, retired]

theorem run_expire_stale_online (now ttl : DateTime) (registry : StationRegistry) :
    runOn (expireStaleOnline toUppercase noFailure now ttl) registry =
      (.ok (expiring registry now ttl),
        ((expiring registry now ttl).map (retired now)).foldl (recorded toUppercase) registry) := by
  simp [expireStaleOnline, run_bind, run_expire_each, expiring]

theorem call_recorded (registry : StationRegistry) (made : RegistryCall) :
    call toUppercase registry made =
      (records registry made).foldl (recorded toUppercase) registry := by
  cases made with
  | updateStatus now stationId status acarsEndpoint networkAddress =>
      simp [call, records, update_status_recorded]
  | expireStaleOnline now ttl => simp [call, records, run_expire_stale_online]

end Calls

/-! What the index names. -/
section Soundness

structure Sound (registry : StationRegistry) : Prop where
  named : ∀ id entry, registry.kvRegistryStore.get id = some entry → entry.stationId = id
  indexed : ∀ key id, registry.kvCallsignIndexStore.get key = some id →
    ∃ entry, registry.kvRegistryStore.get id = some entry ∧ entry.status = .online ∧
      callsignIndexKey toUppercase entry.acarsEndpoint.callsign = key

theorem sound_empty : Sound toUppercase .empty where
  named := by simp [StationRegistry.empty]
  indexed := by simp [StationRegistry.empty]

theorem sound_recorded (registry : StationRegistry) (entry : StationEntry)
    (sound : Sound toUppercase registry) :
    Sound toUppercase (recorded toUppercase registry entry) where
  named := by
    intro id stored present
    rw [recorded_entry] at present
    split at present
    · next own =>
        cases present
        exact own.symm
    · exact sound.named id stored present
  indexed := by
    intro key id present
    rw [recorded_index] at present
    split at present
    · next own =>
        split at present
        · next online =>
            cases present
            exact ⟨entry, by simp [recorded_entry], online, own.symm⟩
        · cases present
    · next away =>
        split at present
        · cases present
        · next unrenamed =>
            obtain ⟨stored, found, online, same⟩ := sound.indexed key id present
            -- the entry behind another key is not the one that is recorded
            have other : id ≠ entry.stationId := by
              rintro rfl
              apply unrenamed
              have renamed : stored.acarsEndpoint.callsign ≠ entry.acarsEndpoint.callsign := by
                intro kept
                exact away (by rw [← same, kept])
              simp [staleKey, found, renamed, same]
            exact ⟨stored, by simp [recorded_entry, other, found], online, same⟩

theorem sound_call (registry : StationRegistry) (made : RegistryCall)
    (sound : Sound toUppercase registry) : Sound toUppercase (call toUppercase registry made) := by
  rw [call_recorded]
  exact run_invariant (recorded toUppercase) (Sound toUppercase) (sound_recorded toUppercase)
    registry sound (records registry made)

theorem sound_after (calls : List RegistryCall) :
    Sound toUppercase (registryAfter toUppercase calls) :=
  run_invariant (call toUppercase) (Sound toUppercase) (sound_call toUppercase) .empty
    (sound_empty toUppercase) calls

theorem lookup_indexed (registry : StationRegistry)
    (indexed : ∀ key id, registry.kvCallsignIndexStore.get key = some id →
      ∃ entry, registry.kvRegistryStore.get id = some entry ∧ entry.status = .online ∧
        callsignIndexKey toUppercase entry.acarsEndpoint.callsign = key)
    (callsign : AcarsEndpointCallsign) (entry : StationEntry)
    (found : lookupCallsign toUppercase registry callsign = some entry) :
    entry.status = .online ∧ toUppercase entry.acarsEndpoint.callsign = toUppercase callsign := by
  unfold lookupCallsign at found
  split at found
  · cases found
  · next id named =>
      obtain ⟨stored, present, online, same⟩ := indexed _ id named
      obtain rfl : stored = entry := Option.some.inj (present.symm.trans found)
      exact ⟨online, same⟩

theorem lookup_online (registry : StationRegistry) (sound : Sound toUppercase registry)
    (callsign : AcarsEndpointCallsign) (entry : StationEntry)
    (found : lookupCallsign toUppercase registry callsign = some entry) :
    entry.status = .online ∧ toUppercase entry.acarsEndpoint.callsign = toUppercase callsign :=
  lookup_indexed toUppercase registry sound.indexed callsign entry found

/-- Every index entry points to a stored station that is online under a callsign
with that key, so a lookup returns nothing or an online station of that callsign. -/
theorem index_names_online (calls : List RegistryCall) :
    (∀ key id, (registryAfter toUppercase calls).kvCallsignIndexStore.get key = some id →
      ∃ entry, (registryAfter toUppercase calls).kvRegistryStore.get id = some entry ∧
        entry.stationId = id ∧ entry.status = .online ∧
        toUppercase entry.acarsEndpoint.callsign = key) ∧
    ∀ callsign entry,
      lookupCallsign toUppercase (registryAfter toUppercase calls) callsign = some entry →
      entry.status = .online ∧
        toUppercase entry.acarsEndpoint.callsign = toUppercase callsign := by
  have sound := sound_after toUppercase calls
  constructor
  · intro key id named
    obtain ⟨entry, present, online, same⟩ := sound.indexed key id named
    exact ⟨entry, present, sound.named id entry present, online, same⟩
  · exact lookup_online toUppercase _ sound

end Soundness

/-! What the index loses. -/
section Completeness

/-- Every online station is found under its callsign: it, or another online station
of the same callsign. -/
def Complete (registry : StationRegistry) : Prop :=
  ∀ id entry, registry.kvRegistryStore.get id = some entry → entry.status = .online →
    ∃ found, lookupCallsign toUppercase registry entry.acarsEndpoint.callsign = some found ∧
      found.status = .online ∧
      toUppercase found.acarsEndpoint.callsign = toUppercase entry.acarsEndpoint.callsign

def stationKey (entry : StationEntry) : String :=
  callsignIndexKey toUppercase entry.acarsEndpoint.callsign

/-- The keys whose index entry the call deletes: that of a station which goes
offline, and that of a callsign which a station changes for one of another key. -/
def givesUp (registry : StationRegistry) (key : String) : RegistryCall → Prop
  | .updateStatus now stationId status acarsEndpoint networkAddress =>
      (key = callsignIndexKey toUppercase acarsEndpoint.callsign ∧ status = .offline) ∨
        (key ≠ callsignIndexKey toUppercase acarsEndpoint.callsign ∧
          staleKey toUppercase registry ⟨stationId, status, now, networkAddress, acarsEndpoint⟩ =
            some key)
  | .expireStaleOnline now ttl =>
      ∃ entry ∈ expiring registry now ttl, stationKey toUppercase entry = key

def leaves (id : StationId) (entry : StationEntry) : RegistryCall → Prop
  | .updateStatus _ stationId _ _ _ => id ≠ stationId
  | .expireStaleOnline now ttl => stale now ttl entry = false

/-- No station that the call leaves online holds a key that the call gives up. -/
def spares (registry : StationRegistry) (made : RegistryCall) : Prop :=
  ∀ id entry, registry.kvRegistryStore.get id = some entry → entry.status = .online →
    leaves id entry made → ¬ givesUp toUppercase registry (stationKey toUppercase entry) made

theorem complete_iff (registry : StationRegistry) (sound : Sound toUppercase registry) :
    Complete toUppercase registry ↔
      ∀ id entry, registry.kvRegistryStore.get id = some entry → entry.status = .online →
        registry.kvCallsignIndexStore.get (stationKey toUppercase entry) ≠ none := by
  constructor
  · intro complete id entry present online lost
    obtain ⟨found, located, _⟩ := complete id entry present online
    change registry.kvCallsignIndexStore.get (callsignIndexKey toUppercase _) = none at lost
    simp [lookupCallsign, lost] at located
  · intro indexed id entry present online
    obtain ⟨named, there⟩ := Option.ne_none_iff_exists'.mp (indexed id entry present online)
    obtain ⟨found, stored, up, same⟩ := sound.indexed _ named there
    refine ⟨found, ?_, up, same⟩
    change registry.kvCallsignIndexStore.get (callsignIndexKey toUppercase _) = some named at there
    simp [lookupCallsign, there, stored]

theorem mem_list_entries (registry : StationRegistry) (entry : StationEntry) :
    entry ∈ listEntries registry ↔ ∃ id, registry.kvRegistryStore.get id = some entry := by
  simp only [listEntries, List.mem_filterMap, KvStore.mem_keys_iff]
  constructor
  · rintro ⟨id, _, present⟩
    exact ⟨id, present⟩
  · rintro ⟨id, present⟩
    exact ⟨id, ⟨entry, present⟩, present⟩

theorem mem_expiring (registry : StationRegistry)
    (named : ∀ id entry, registry.kvRegistryStore.get id = some entry → entry.stationId = id)
    (now ttl : DateTime) (entry : StationEntry) :
    entry ∈ expiring registry now ttl ↔
      registry.kvRegistryStore.get entry.stationId = some entry ∧ stale now ttl entry = true := by
  rw [expiring, List.mem_filter, mem_list_entries]
  refine and_congr_left fun _ => ⟨?_, fun present => ⟨_, present⟩⟩
  rintro ⟨id, present⟩
  rwa [named id entry present]

theorem retired_index (now : DateTime) (entries : List StationEntry) (registry : StationRegistry)
    (unchanged : ∀ entry ∈ entries, ∃ stored,
      registry.kvRegistryStore.get entry.stationId = some stored ∧
        stored.acarsEndpoint.callsign = entry.acarsEndpoint.callsign) (key : String) :
    ((entries.map (retired now)).foldl (recorded toUppercase)
        registry).kvCallsignIndexStore.get key =
      if ∃ entry ∈ entries, stationKey toUppercase entry = key then none
      else registry.kvCallsignIndexStore.get key := by
  induction entries generalizing registry with
  | nil => simp
  | cons entry rest ih =>
      obtain ⟨stored, present, same⟩ := unchanged entry List.mem_cons_self
      have kept : staleKey toUppercase registry (retired now entry) = none := by
        simp [staleKey, retired, present, same]
      rw [List.map_cons, List.foldl_cons, ih]
      · rw [recorded_index]
        by_cases own : stationKey toUppercase entry = key
        · have hit : key = callsignIndexKey toUppercase
              (retired now entry).acarsEndpoint.callsign := own.symm
          have listed : ∃ other ∈ entry :: rest, stationKey toUppercase other = key :=
            ⟨entry, List.mem_cons_self, own⟩
          rw [if_pos hit, if_pos listed]
          simp [retired]
        · have away : key ≠ callsignIndexKey toUppercase
              (retired now entry).acarsEndpoint.callsign := Ne.symm own
          rw [if_neg away, kept]
          simp [own]
      · intro other member
        obtain ⟨before, located, alike⟩ := unchanged other (List.mem_cons_of_mem _ member)
        by_cases at_id : other.stationId = entry.stationId
        -- a station listed twice is listed under one callsign
        · refine ⟨retired now entry, by simp [recorded_entry, retired, at_id], ?_⟩
          rw [at_id, present] at located
          cases located
          exact same.symm.trans alike
        · exact ⟨before, by simp [recorded_entry, retired, at_id, located], alike⟩

theorem retired_entry (now : DateTime) (entries : List StationEntry) (registry : StationRegistry)
    (id : StationId) (away : ∀ entry ∈ entries, entry.stationId ≠ id) :
    ((entries.map (retired now)).foldl (recorded toUppercase) registry).kvRegistryStore.get id =
      registry.kvRegistryStore.get id := by
  rw [recorded_each]
  have none_here : (entries.map (retired now)).filter (fun entry => entry.stationId = id) = [] := by
    rw [List.filter_eq_nil_iff]
    intro entry member
    obtain ⟨before, inList, rfl⟩ := List.mem_map.mp member
    simp [retired, away before inList]
  rw [none_here]
  rfl

theorem retired_offline (now : DateTime) (entries : List StationEntry) (registry : StationRegistry)
    (expired : StationEntry) (member : expired ∈ entries) :
    ∃ entry, ((entries.map (retired now)).foldl (recorded toUppercase)
        registry).kvRegistryStore.get expired.stationId = some entry ∧ entry.status = .offline := by
  rw [recorded_each]
  have listed : retired now expired ∈ (entries.map (retired now)).filter
      fun entry => entry.stationId = expired.stationId := by
    rw [List.mem_filter, List.mem_map]
    exact ⟨⟨expired, member, rfl⟩, by simp [retired]⟩
  cases last : ((entries.map (retired now)).filter
      fun entry => entry.stationId = expired.stationId).getLast? with
  | none =>
      rw [List.getLast?_eq_none_iff.mp last] at listed
      simp at listed
  | some entry =>
      have inList := (List.mem_filter.mp (List.mem_of_getLast? last)).1
      obtain ⟨before, _, rfl⟩ := List.mem_map.mp inList
      exact ⟨_, rfl, rfl⟩

theorem call_index (registry : StationRegistry) (sound : Sound toUppercase registry)
    (made : RegistryCall) (key : String) :
    (givesUp toUppercase registry key made →
      (call toUppercase registry made).kvCallsignIndexStore.get key = none) ∧
    (¬ givesUp toUppercase registry key made → registry.kvCallsignIndexStore.get key ≠ none →
      (call toUppercase registry made).kvCallsignIndexStore.get key ≠ none) := by
  rw [call_recorded]
  cases made with
  | updateStatus now stationId status acarsEndpoint networkAddress =>
      simp only [records, List.foldl_cons, List.foldl_nil, recorded_index, givesUp]
      constructor
      · rintro (⟨own, offline⟩ | ⟨away, stale⟩)
        · simp [own, offline]
        · rw [if_neg away, if_pos stale]
      · intro kept present
        rw [not_or] at kept
        by_cases own : key = callsignIndexKey toUppercase acarsEndpoint.callsign
        · cases status with
          | online => simp [own]
          | offline => exact absurd ⟨own, rfl⟩ kept.1
        · rw [if_neg own, if_neg fun stale => kept.2 ⟨own, stale⟩]
          exact present
  | expireStaleOnline now ttl =>
      have unchanged : ∀ entry ∈ expiring registry now ttl, ∃ stored,
          registry.kvRegistryStore.get entry.stationId = some stored ∧
            stored.acarsEndpoint.callsign = entry.acarsEndpoint.callsign := by
        intro entry member
        exact ⟨entry, ((mem_expiring registry sound.named now ttl entry).mp member).1, rfl⟩
      simp only [records, retired_index toUppercase now _ registry unchanged, givesUp]
      exact ⟨fun given => if_pos given, fun kept present => by rwa [if_neg kept]⟩

theorem call_leaves (registry : StationRegistry) (sound : Sound toUppercase registry)
    (made : RegistryCall) (id : StationId) (entry : StationEntry)
    (present : registry.kvRegistryStore.get id = some entry) (left : leaves id entry made) :
    (call toUppercase registry made).kvRegistryStore.get id = some entry := by
  rw [call_recorded]
  cases made with
  | updateStatus now stationId status acarsEndpoint networkAddress =>
      have other : id ≠ stationId := left
      simp [records, recorded_entry, other, present]
  | expireStaleOnline now ttl =>
      rw [records, retired_entry]
      · exact present
      · rintro expired member rfl
        obtain ⟨stored, elapsed⟩ := (mem_expiring registry sound.named now ttl expired).mp member
        rw [present] at stored
        cases stored
        have current : stale now ttl entry = false := left
        simp [current] at elapsed

theorem call_online (registry : StationRegistry) (sound : Sound toUppercase registry)
    (made : RegistryCall) (id : StationId) (entry : StationEntry)
    (present : (call toUppercase registry made).kvRegistryStore.get id = some entry)
    (online : entry.status = .online) :
    (registry.kvRegistryStore.get id = some entry ∧ leaves id entry made) ∨
      (call toUppercase registry made).kvCallsignIndexStore.get (stationKey toUppercase entry) ≠
        none := by
  rw [call_recorded] at present ⊢
  cases made with
  | updateStatus now stationId status acarsEndpoint networkAddress =>
      simp only [records, List.foldl_cons, List.foldl_nil, recorded_entry] at present ⊢
      split at present
      · apply Or.inr
        cases present
        have up : status = .online := online
        simp [recorded_index, stationKey, up]
      · next other => exact Or.inl ⟨present, other⟩
  | expireStaleOnline now ttl =>
      simp only [records] at present ⊢
      by_cases listed : ∃ expired ∈ expiring registry now ttl, expired.stationId = id
      -- an expired station is not online any more
      · obtain ⟨expired, member, rfl⟩ := listed
        obtain ⟨stored, located, offline⟩ :=
          retired_offline toUppercase now _ registry expired member
        rw [present] at located
        cases located
        rw [online] at offline
        cases offline
      · have away : ∀ expired ∈ expiring registry now ttl, expired.stationId ≠ id :=
          fun expired member same => listed ⟨expired, member, same⟩
        rw [retired_entry toUppercase now _ registry id away] at present
        refine Or.inl ⟨present, ?_⟩
        have own := sound.named id entry present
        by_contra elapsed
        refine away entry ((mem_expiring registry sound.named now ttl entry).mpr ?_) own
        exact ⟨by rw [own, present], by simpa [leaves] using elapsed⟩

/-- A call keeps the index complete exactly when it spares the stations it leaves. -/
theorem complete_call_iff (registry : StationRegistry) (sound : Sound toUppercase registry)
    (complete : Complete toUppercase registry) (made : RegistryCall) :
    Complete toUppercase (call toUppercase registry made) ↔ spares toUppercase registry made := by
  rw [complete_iff toUppercase _ (sound_call toUppercase registry made sound)]
  rw [complete_iff toUppercase registry sound] at complete
  constructor
  · intro indexed id entry present online left given
    have stays := call_leaves toUppercase registry sound made id entry present left
    exact indexed id entry stays online ((call_index toUppercase registry sound made _).1 given)
  · intro spared id entry present online
    rcases call_online toUppercase registry sound made id entry present online with
      ⟨before, left⟩ | indexed
    · exact (call_index toUppercase registry sound made _).2 (spared id entry before online left)
        (complete id entry before online)
    · exact indexed

/-- Throughout a run every online station is found under its callsign, if and only
if no call gives up a callsign that a station it leaves online holds. -/
theorem complete_throughout_iff (calls : List RegistryCall) :
    (∀ before, before <+: calls → Complete toUppercase (registryAfter toUppercase before)) ↔
      Guarded (call toUppercase) (spares toUppercase) .empty calls := by
  have start : Sound toUppercase .empty ∧ Complete toUppercase .empty :=
    ⟨sound_empty toUppercase, by simp [Complete, StationRegistry.empty]⟩
  have exactly := guarded_exact (call toUppercase) (spares toUppercase)
    (fun registry => Sound toUppercase registry ∧ Complete toUppercase registry)
    (fun registry made valid spared => ⟨sound_call toUppercase registry made valid.1,
      (complete_call_iff toUppercase registry valid.1 valid.2 made).mpr spared⟩)
    (fun registry made valid given after => given
      ((complete_call_iff toUppercase registry valid.1 valid.2 made).mp after.2))
    .empty start calls
  rw [exactly]
  constructor
  · intro always before short
    exact ⟨sound_after toUppercase before, always before short⟩
  · exact fun always before short => (always before short).2

def reconnected : List RegistryCall :=
  [.updateStatus 0 "unit-1" .online ⟨"LFPG", "LFPG"⟩ "address-1",
    .updateStatus 80 "unit-2" .online ⟨"LFPG", "LFPG"⟩ "address-2",
    .expireStaleOnline 100 90]

theorem old_lease_unroutes :
    (registryAfter asciiUppercase reconnected).kvRegistryStore.get "unit-2" =
        some ⟨"unit-2", .online, 80, "address-2", ⟨"LFPG", "LFPG"⟩⟩ ∧
      lookupCallsign asciiUppercase (registryAfter asciiUppercase reconnected) "LFPG" = none := by
  decide

end Completeness

end OpenLink.RegistryRuns
