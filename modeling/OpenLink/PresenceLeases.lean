import OpenLink.Registrations

/-!
The presence of a station over a run of the server, from whatever registry it finds. Its entry is
that of its last report, until the first sweep that finds the lease of that report run out.
-/
namespace OpenLink.PresenceLeases
open Actions Cpdlc CpdlcServer Envelope Kv MainLoop RefusedKeys Registry RegistryRuns Runs Server

def sweeps (events : List Event) : List DateTime :=
  events.filterMap fun
    | .arrives _ _ => none
    | .presenceTick now => some now

/-- The last report of a station, with the events after it. -/
def lastReport (accepts : String → Bool) (stationId : StationId) :
    List Event → Option (StationEntry × List Event)
  | [] => none
  | event :: rest =>
      (lastReport accepts stationId rest).or
        (((reported accepts event).filter fun entry => entry.stationId == stationId).map (·, rest))

def leased (ttl : DateTime) (times : List DateTime) (entry : StationEntry) : StationEntry :=
  match times.find? fun now => stale now ttl entry with
  | some now => retired now entry
  | none => entry

section Leases
variable (ttl now : DateTime) (entry : StationEntry)

@[simp] theorem leased_nil : leased ttl [] entry = entry := rfl

theorem leased_retired (times : List DateTime) :
    leased ttl times (retired now entry) = retired now entry := by
  unfold leased
  have never : (times.find? fun time => stale time ttl (retired now entry)) = none := by
    simp [stale, retired]
  rw [never]

theorem leased_cons (times : List DateTime) :
    leased ttl (now :: times) entry =
      leased ttl times (if stale now ttl entry then retired now entry else entry) := by
  cases elapsed : stale now ttl entry with
  | true => rw [if_pos rfl, leased_retired]; simp [leased, elapsed]
  | false => simp [leased, elapsed]

end Leases

/-! Runs. -/
section Runs
variable (config : ServerConfig) (accepts : String → Bool) (update : SessionUpdate)

theorem loop_lawful (server : OpenLinkServer) (event : Event)
    (lawful : Lawful accepts server.stationRegistry) :
    Lawful accepts
      (mainLoopUnder config update (refusing accepts) server event).stationRegistry := by
  rw [under_registry]
  exact lawful_step config accepts server.stationRegistry event lawful

/-- What an event makes of the entry of a station. -/
theorem loop_status_entry (server : OpenLinkServer) (event : Event)
    (lawful : Lawful accepts server.stationRegistry) (id : StationId) :
    getStatus (mainLoopUnder config update (refusing accepts) server event).stationRegistry id =
      (((reported accepts event).filter fun entry => entry.stationId == id).or
        ((getStatus server.stationRegistry id).map (leased (leaseTtl config) (sweeps [event])))) := by
  rw [under_registry]
  cases event with
  | presenceTick now =>
      rw [tick_accepted config accepts _ lawful]
      have swept := swept_entry config.toUppercase server.stationRegistry lawful now
        (leaseTtl config) id
      have once : leased (leaseTtl config) [now] = fun entry =>
          if stale now (leaseTtl config) entry then retired now entry else entry := by
        funext entry
        rw [leased_cons, leased_nil]
      simp only [getStatus, swept, reported, sweeps, Option.filter_none, Option.none_or,
        List.filterMap_cons, List.filterMap_nil, once]
  | arrives now envelope =>
      have kept : (getStatus server.stationRegistry id).map
          (leased (leaseTtl config) (sweeps [.arrives now envelope])) =
            getStatus server.stationRegistry id := by
        cases getStatus server.stationRegistry id <;> rfl
      rw [arrives_accepted, kept]
      cases announcement : reported accepts (.arrives now envelope) with
      | none => simp
      | some entry =>
          have taken : accepts entry.stationId = true :=
            (Option.filter_eq_some_iff.mp announcement).2
          simp only [getStatus, recorded_where_entry, taken, true_and]
          by_cases own : entry.stationId = id
          · simp [own, Option.filter]
          · simp [own, Ne.symm own, Option.filter]

theorem presence_from (server : OpenLinkServer) (lawful : Lawful accepts server.stationRegistry)
    (events : List Event) (id : StationId) :
    getStatus
        (exec (mainLoopUnder config update (refusing accepts)) server events).stationRegistry id =
      ((lastReport accepts id events).map fun report =>
        leased (leaseTtl config) (sweeps report.2) report.1).or
          ((getStatus server.stationRegistry id).map (leased (leaseTtl config) (sweeps events))) := by
  induction events generalizing server with
  | nil => cases stored : getStatus server.stationRegistry id <;> simp [lastReport, sweeps, stored]
  | cons event rest ih =>
      rw [exec_cons, ih _ (loop_lawful config accepts update server event lawful), lastReport]
      cases lastReport accepts id rest with
      | some found => rfl
      | none =>
          rw [loop_status_entry config accepts update server event lawful id]
          cases own : (reported accepts event).filter fun entry => entry.stationId == id with
          | some entry => rfl
          | none =>
              cases getStatus server.stationRegistry id with
              | none => rfl
              | some entry =>
                  cases event with
                  | arrives now envelope => rfl
                  | presenceTick now => simp [sweeps, leased_cons]

theorem presence_exact (server : OpenLinkServer) (lawful : Lawful accepts server.stationRegistry)
    (events : List Event) (id : StationId) :
    let after := exec (mainLoopUnder config update (refusing accepts)) server events
    getStatus after.stationRegistry id =
      match lastReport accepts id events with
      | some (report, later) => some (leased (leaseTtl config) (sweeps later) report)
      | none =>
          (getStatus server.stationRegistry id).map (leased (leaseTtl config) (sweeps events)) := by
  intro after
  rw [presence_from config accepts update server lawful]
  cases lastReport accepts id events <;> rfl

end Runs

/-! The callsign of a station that no other station uses. -/
section Callsigns
variable (toUppercase : String → String) (key : String) (id : StationId)

def Own (entry : StationEntry) : Prop := stationKey toUppercase entry = key ↔ entry.stationId = id

/-- The entries are of stations that keep to their own callsigns, and the callsign leads to the
station while it is online. -/
structure Routed (registry : StationRegistry) : Prop where
  own : ∀ other entry, registry.kvRegistryStore.get other = some entry →
    (stationKey toUppercase entry = key ↔ other = id)
  index : registry.kvCallsignIndexStore.get key =
    if (registry.kvRegistryStore.get id).any fun entry => entry.status == .online then some id
    else none

variable {toUppercase key id} {accepts : String → Bool}

theorem routed_recorded (usable : accepts key = true) (registry : StationRegistry)
    (entry : StationEntry) (own : Own toUppercase key id entry)
    (routed : Routed toUppercase key id registry) :
    Routed toUppercase key id (recordedWhere toUppercase accepts registry entry) where
  own := by
    intro other stored present
    rw [recorded_where_entry] at present
    split at present
    · next same =>
      cases present
      rw [same.2]
      exact own
    · exact routed.own other stored present
  index := by
    cases taken : accepts entry.stationId with
    | false =>
        -- nothing is written
        rw [recorded_where_index, recorded_where_entry, routed.index]
        simp [taken]
    | true =>
      rw [recorded_where_index, if_pos ⟨taken, usable⟩, recorded_index, recorded_where_entry]
      simp only [taken, true_and]
      by_cases mine : entry.stationId = id
      · have named : key = callsignIndexKey toUppercase entry.acarsEndpoint.callsign :=
          (own.mpr mine).symm
        rw [if_pos named, if_pos mine.symm]
        cases status : entry.status <;> simp [status, mine]
      · have away : key ≠ callsignIndexKey toUppercase entry.acarsEndpoint.callsign :=
          fun same => mine (own.mp same.symm)
        have kept : staleKey toUppercase registry entry ≠ some key := by
          intro given
          obtain ⟨existing, stored, changed⟩ := Option.bind_eq_some_iff.mp given
          split at changed
          · exact mine ((routed.own _ existing stored).mp (Option.some.inj changed))
          · cases changed
        have other : id ≠ entry.stationId := fun same => mine same.symm
        rw [if_neg away, if_neg kept, routed.index]
        simp only [if_neg other]

theorem routed_each (usable : accepts key = true) (entries : List StationEntry)
    (registry : StationRegistry) (own : ∀ entry ∈ entries, Own toUppercase key id entry)
    (routed : Routed toUppercase key id registry) :
    Routed toUppercase key id (entries.foldl (recordedWhere toUppercase accepts) registry) := by
  induction entries generalizing registry with
  | nil => exact routed
  | cons entry rest ih =>
      exact ih _ (fun other member => own other (List.mem_cons_of_mem _ member))
        (routed_recorded usable registry entry (own entry List.mem_cons_self) routed)

theorem routed_lookup (registry : StationRegistry) (callsign : AcarsEndpointCallsign)
    (named : callsignIndexKey toUppercase callsign = key)
    (routed : Routed toUppercase key id registry) :
    lookupCallsign toUppercase registry callsign =
      (getStatus registry id).filter fun entry => entry.status == .online := by
  rw [lookupCallsign, named, routed.index]
  cases stored : registry.kvRegistryStore.get id with
  | none => simp [getStatus, stored]
  | some entry => cases status : entry.status <;> simp [getStatus, stored, status, Option.filter]

variable (config : ServerConfig) (accepts) (update : SessionUpdate)

theorem loop_routed (key : String) (usable : accepts key = true) (id : StationId)
    (server : OpenLinkServer) (event : Event)
    (own : ∀ entry ∈ reported accepts event, Own config.toUppercase key id entry)
    (state : Lawful accepts server.stationRegistry ∧
      Routed config.toUppercase key id server.stationRegistry) :
    let after := mainLoopUnder config update (refusing accepts) server event
    Lawful accepts after.stationRegistry ∧
      Routed config.toUppercase key id after.stationRegistry := by
  intro after
  obtain ⟨lawful, routed⟩ := state
  refine ⟨loop_lawful config accepts update server event lawful, ?_⟩
  have same : after.stationRegistry =
      registryStep config (refusing accepts) server.stationRegistry event :=
    under_registry config update _ server event
  rw [same]
  cases event with
  | arrives now envelope =>
      rw [arrives_accepted]
      cases announcement : reported accepts (.arrives now envelope) with
      | none => exact routed
      | some entry => exact routed_recorded usable _ entry (own entry announcement) routed
  | presenceTick now =>
      rw [tick_accepted config accepts _ lawful]
      refine routed_each usable _ _ ?_ routed
      intro entry member
      obtain ⟨before, expired, rfl⟩ := List.mem_map.mp member
      obtain ⟨stored, _⟩ := (mem_expiring _ lawful.named _ _ before).mp expired
      exact routed.own _ before stored

theorem routed_while_leased (server : OpenLinkServer) (events : List Event)
    (callsign : AcarsEndpointCallsign) (id : StationId)
    (lawful : Lawful accepts server.stationRegistry)
    (usable : accepts (callsignIndexKey config.toUppercase callsign) = true)
    (routed : Routed config.toUppercase (callsignIndexKey config.toUppercase callsign) id
      server.stationRegistry)
    (own : ∀ event ∈ events, ∀ entry ∈ reported accepts event,
      (config.toUppercase entry.acarsEndpoint.callsign = config.toUppercase callsign ↔
        entry.stationId = id)) :
    let after := exec (mainLoopUnder config update (refusing accepts)) server events
    lookupCallsign config.toUppercase after.stationRegistry callsign =
      (((lastReport accepts id events).map fun report =>
          leased (leaseTtl config) (sweeps report.2) report.1).or
        ((getStatus server.stationRegistry id).map
          (leased (leaseTtl config) (sweeps events)))).filter
            fun entry => entry.status == .online := by
  intro after
  rw [← presence_from config accepts update server lawful events id]
  apply routed_lookup _ callsign rfl
  refine (guarded_invariant (mainLoopUnder config update (refusing accepts))
    (fun _ event => ∀ entry ∈ reported accepts event, Own config.toUppercase _ id entry) _
    (fun server event state admitted =>
      loop_routed accepts config update _ usable id server event admitted state)
    server ⟨lawful, routed⟩ events ?_).2
  rw [guarded_each]
  intro before event part
  exact own event (part.subset (by simp))

end Callsigns

section Sample
open MessageBuilder Registrations Session

def heartbeat (second : DateTime) : Event :=
  .arrives (second * 1000000000) (envelope "e1" 1 (.address "vatsim" "42") (.server "vatsim") none
    (stationStatus "LFPG" "LFPG" "LFPG" .online))

def sweptAt (second : DateTime) : Event := .presenceTick (second * 1000000000)

theorem tower_lawful : Lawful validKey towerServer.stationRegistry := by
  have stored : ∀ id entry, towerServer.stationRegistry.kvRegistryStore.get id = some entry →
      id = "LFPG" ∧ entry = towerEntry := by
    intro id entry present
    rw [towerServer, recorded_entry] at present
    split at present
    · next own =>
        cases present
        exact ⟨own, rfl⟩
    · cases present
  constructor
  · intro id entry present
    obtain ⟨rfl, rfl⟩ := stored id entry present
    rfl
  · intro id entry present
    obtain ⟨rfl, -⟩ := stored id entry present
    decide

theorem tower_routed : Routed asciiUppercase "LFPG" "LFPG" towerServer.stationRegistry := by
  have own : Own asciiUppercase "LFPG" "LFPG" towerEntry := by
    unfold Own
    decide
  constructor
  · intro id entry present
    rw [towerServer, recorded_entry] at present
    split at present
    · next same =>
        cases present
        rw [same]
        exact own
    · cases present
  · decide

theorem tower_swept :
    let unnamed : Event := .arrives 81000000000 (envelope "e2" 1 (.address "vatsim" "66")
      (.server "vatsim") none (stationStatus "EVIL UNIT" "LFPG" "LFPG" .online))
    getStatus (exec (mainLoopUnder vatsimConfig getAndUpdateSessionForAircraft (refusing validKey))
        towerServer [sweptAt 80, unnamed, sweptAt 120]).stationRegistry "LFPG" =
      some { towerEntry with status := .offline, lastUpdated := 120000000000 } := by
  intro unnamed
  exact (presence_exact vatsimConfig validKey getAndUpdateSessionForAircraft towerServer tower_lawful
    [sweptAt 80, unnamed, sweptAt 120] "LFPG").trans (by decide)

theorem tower_leased :
    let kept := [sweptAt 80, heartbeat 85, sweptAt 160]
    lookupCallsign asciiUppercase
        (exec (mainLoopUnder vatsimConfig getAndUpdateSessionForAircraft (refusing validKey))
          towerServer kept).stationRegistry "lfpg" =
      some ⟨"LFPG", .online, 85000000000, "42", ⟨"LFPG", "LFPG"⟩⟩ ∧
    lookupCallsign asciiUppercase
        (exec (mainLoopUnder vatsimConfig getAndUpdateSessionForAircraft (refusing validKey))
          towerServer (kept ++ [sweptAt 200])).stationRegistry "lfpg" = none := by
  intro kept
  have first := routed_while_leased validKey vatsimConfig getAndUpdateSessionForAircraft towerServer
    kept "lfpg" "LFPG" tower_lawful (by decide) tower_routed (by decide)
  have later := routed_while_leased validKey vatsimConfig getAndUpdateSessionForAircraft towerServer
    (kept ++ [sweptAt 200]) "lfpg" "LFPG" tower_lawful (by decide) tower_routed (by decide)
  exact ⟨first.trans (by decide), later.trans (by decide)⟩

end Sample

end OpenLink.PresenceLeases
