import OpenLink.Actions
import OpenLink.Kv
import OpenLink.Envelope
import Mathlib.Data.List.Induction

/-!
The station registry: one bucket from station id to station entry, and one from
upper-cased callsign to the id of an online station. An update is a sequence of
bucket operations, any of which may fail; `failing` says which, and on which key:
a bucket refuses some keys at all times. The clock is the argument `now`, and a
stored value always parses.
-/
namespace OpenLink.Registry
open Actions Cpdlc Envelope Kv

structure StationEntry where
  stationId : StationId
  status : StationStatus
  lastUpdated : DateTime
  networkAddress : NetworkAddress
  acarsEndpoint : AcarsRoutingEndpoint
  deriving DecidableEq

structure StationRegistry where
  kvRegistryStore : KvStore StationId StationEntry
  kvCallsignIndexStore : KvStore String StationId

def StationRegistry.empty : StationRegistry := ⟨.empty, .empty⟩

inductive KvOperation where
  | readEntry
  | deleteStaleIndex
  | putEntry
  | putIndex
  | deleteIndex
  deriving DecidableEq

abbrev Update := Action StationRegistry

section Operations
variable (toUppercase : String → String)

def callsignIndexKey (callsign : AcarsEndpointCallsign) : String := toUppercase callsign

def putEntry (registry : StationRegistry) (entry : StationEntry) : StationRegistry :=
  { registry with kvRegistryStore := registry.kvRegistryStore.put entry.stationId entry }

def putIndex (registry : StationRegistry) (callsign : AcarsEndpointCallsign)
    (stationId : StationId) : StationRegistry :=
  { registry with
    kvCallsignIndexStore :=
      registry.kvCallsignIndexStore.put (callsignIndexKey toUppercase callsign) stationId }

def deleteIndex (registry : StationRegistry) (callsign : AcarsEndpointCallsign) :
    StationRegistry :=
  { registry with
    kvCallsignIndexStore :=
      registry.kvCallsignIndexStore.delete (callsignIndexKey toUppercase callsign) }

def getStatus (registry : StationRegistry) (stationId : StationId) : Option StationEntry :=
  registry.kvRegistryStore.get stationId

def lookupCallsign (registry : StationRegistry) (callsign : AcarsEndpointCallsign) :
    Option StationEntry :=
  match registry.kvCallsignIndexStore.get (callsignIndexKey toUppercase callsign) with
  | none => none
  | some stationId => registry.kvRegistryStore.get stationId

variable (failing : KvOperation → String → Bool)

/-- An operation whose failure ends the update. -/
def require (operation : KvOperation) (key : String)
    (write : StationRegistry → StationRegistry) : Update Unit :=
  if failing operation key then throw "KV operation failed" else modify write

/-- An operation whose failure is ignored. -/
def tolerate (operation : KvOperation) (key : String)
    (write : StationRegistry → StationRegistry) : Update Unit :=
  if failing operation key then pure () else modify write

def updateStatus (now : DateTime) (stationId : StationId) (status : StationStatus)
    (acarsEndpoint : AcarsRoutingEndpoint) (networkAddress : NetworkAddress) : Update Unit := do
  require failing .readEntry stationId id
  match (← get).kvRegistryStore.get stationId with
  | some existing =>
      -- a station that changes its callsign gives up the index of the old one
      if existing.acarsEndpoint.callsign ≠ acarsEndpoint.callsign then
        tolerate failing .deleteStaleIndex
          (callsignIndexKey toUppercase existing.acarsEndpoint.callsign) fun registry =>
            deleteIndex toUppercase registry existing.acarsEndpoint.callsign
  | none => pure ()
  require failing .putEntry stationId fun registry =>
    putEntry registry ⟨stationId, status, now, networkAddress, acarsEndpoint⟩
  -- the index only keeps stations that are online
  let key := callsignIndexKey toUppercase acarsEndpoint.callsign
  if status = .online then
    require failing .putIndex key fun registry =>
      putIndex toUppercase registry acarsEndpoint.callsign stationId
  else
    tolerate failing .deleteIndex key fun registry =>
      deleteIndex toUppercase registry acarsEndpoint.callsign

def listEntries (registry : StationRegistry) : List StationEntry :=
  registry.kvRegistryStore.keys.filterMap registry.kvRegistryStore.get

def stale (now ttl : DateTime) (entry : StationEntry) : Bool :=
  entry.status == .online && ttl < now - entry.lastUpdated

/-- The loop of `expire_stale_online`; `expired` is what the earlier entries have added. -/
def expireEach (now ttl : DateTime) : List StationEntry → List StationEntry →
    Update (List StationEntry)
  | [], expired => return expired
  | entry :: rest, expired =>
      if stale now ttl entry then do
        updateStatus toUppercase failing now entry.stationId .offline entry.acarsEndpoint
          entry.networkAddress
        expireEach now ttl rest (expired ++ [entry])
      else expireEach now ttl rest expired

def expireStaleOnline (now ttl : DateTime) : Update (List StationEntry) := do
  let entries := listEntries (← get)
  expireEach toUppercase failing now ttl entries []

end Operations

/-! An update none of whose operations fails. -/
section Recorded
variable (toUppercase : String → String)

def noFailure (_ : KvOperation) (_ : String) : Bool := false

def dropStaleIndex (registry : StationRegistry) (stationId : StationId)
    (callsign : AcarsEndpointCallsign) : StationRegistry :=
  match registry.kvRegistryStore.get stationId with
  | some existing =>
      if existing.acarsEndpoint.callsign ≠ callsign then
        deleteIndex toUppercase registry existing.acarsEndpoint.callsign
      else registry
  | none => registry

def recorded (registry : StationRegistry) (entry : StationEntry) : StationRegistry :=
  let stored := putEntry
    (dropStaleIndex toUppercase registry entry.stationId entry.acarsEndpoint.callsign) entry
  if entry.status = .online then
    putIndex toUppercase stored entry.acarsEndpoint.callsign entry.stationId
  else deleteIndex toUppercase stored entry.acarsEndpoint.callsign

theorem update_status_recorded (registry : StationRegistry) (now : DateTime)
    (stationId : StationId) (status : StationStatus) (acarsEndpoint : AcarsRoutingEndpoint)
    (networkAddress : NetworkAddress) :
    runOn (updateStatus toUppercase noFailure now stationId status acarsEndpoint networkAddress)
        registry =
      (.ok (), recorded toUppercase registry
        ⟨stationId, status, now, networkAddress, acarsEndpoint⟩) := by
  simp only [updateStatus, require, tolerate, noFailure, run_bind, run_modify, run_get,
    Bool.false_eq_true, if_false]
  cases known : registry.kvRegistryStore.get stationId with
  | none => cases status <;> simp [run_bind, recorded, dropStaleIndex, known]
  | some existing =>
      by_cases kept : existing.acarsEndpoint.callsign = acarsEndpoint.callsign
      · cases status <;> simp [run_bind, recorded, dropStaleIndex, known, kept]
      · cases status <;> simp [run_bind, recorded, dropStaleIndex, known, kept]

theorem dropped_store (registry : StationRegistry) (stationId : StationId)
    (callsign : AcarsEndpointCallsign) :
    (dropStaleIndex toUppercase registry stationId callsign).kvRegistryStore =
      registry.kvRegistryStore := by
  unfold dropStaleIndex
  split
  · split <;> rfl
  · rfl

theorem recorded_store (registry : StationRegistry) (entry : StationEntry) :
    (recorded toUppercase registry entry).kvRegistryStore =
      registry.kvRegistryStore.put entry.stationId entry := by
  unfold recorded
  split <;> simp [putIndex, deleteIndex, putEntry, dropped_store]

theorem recorded_entry (registry : StationRegistry) (entry : StationEntry) (other : StationId) :
    (recorded toUppercase registry entry).kvRegistryStore.get other =
      if other = entry.stationId then some entry else registry.kvRegistryStore.get other := by
  rw [recorded_store, KvStore.get_put]

def staleKey (registry : StationRegistry) (entry : StationEntry) : Option String :=
  (registry.kvRegistryStore.get entry.stationId).bind fun existing =>
    if existing.acarsEndpoint.callsign ≠ entry.acarsEndpoint.callsign then
      some (callsignIndexKey toUppercase existing.acarsEndpoint.callsign)
    else none

theorem dropped_index (registry : StationRegistry) (entry : StationEntry) (key : String) :
    (dropStaleIndex toUppercase registry entry.stationId
        entry.acarsEndpoint.callsign).kvCallsignIndexStore.get key =
      if staleKey toUppercase registry entry = some key then none
      else registry.kvCallsignIndexStore.get key := by
  unfold dropStaleIndex staleKey
  cases registry.kvRegistryStore.get entry.stationId with
  | none => simp
  | some existing =>
      by_cases kept : existing.acarsEndpoint.callsign = entry.acarsEndpoint.callsign
      · simp [kept]
      · by_cases same : key = callsignIndexKey toUppercase existing.acarsEndpoint.callsign
        · simp [kept, deleteIndex, same]
        · simp [kept, deleteIndex, same, Ne.symm same]

theorem recorded_index (registry : StationRegistry) (entry : StationEntry) (key : String) :
    (recorded toUppercase registry entry).kvCallsignIndexStore.get key =
      if key = callsignIndexKey toUppercase entry.acarsEndpoint.callsign then
        if entry.status = .online then some entry.stationId else none
      else if staleKey toUppercase registry entry = some key then none
      else registry.kvCallsignIndexStore.get key := by
  unfold recorded
  cases status : entry.status <;> simp [putIndex, deleteIndex, putEntry, dropped_index]

/-- A station has the entry of its last update. -/
theorem recorded_each (entries : List StationEntry) (registry : StationRegistry)
    (stationId : StationId) :
    (entries.foldl (recorded toUppercase) registry).kvRegistryStore.get stationId =
      ((entries.filter fun entry => entry.stationId = stationId).getLast?).or
        (registry.kvRegistryStore.get stationId) := by
  induction entries using List.reverseRecOn with
  | nil => rfl
  | append_singleton entries entry ih =>
      rw [List.foldl_append, List.foldl_cons, List.foldl_nil, recorded_entry, ih]
      by_cases own : entry.stationId = stationId
      · simp [own]
      · simp [own, Ne.symm own]

end Recorded

end OpenLink.Registry
