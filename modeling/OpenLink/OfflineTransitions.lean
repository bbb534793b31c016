import OpenLink.MainLoop

/-!
A station that goes offline, or whose lease runs out, ends the service of its
callsign. The sessions name their stations by callsign alone, so a termination
does not know which entry of the registry a connection was made under.
-/
namespace OpenLink.OfflineTransitions
open Actions Cpdlc CpdlcServer Envelope HandlerEffects Kv MainLoop MessageBuilder Publications
  Registry RegistryRuns Runs Server Session SessionSteps

/-! The connections of one callsign in a session. -/
section Connections
variable (callsign : AcarsEndpointCallsign)

def connectionsOf (session : CPDLCSession) : List CPDLCConnection :=
  (slots session).filter (isAt callsign)

theorem connections_of_nil_iff (session : CPDLCSession) :
    connectionsOf callsign session = [] ↔ session.holds callsign = false := by
  rw [connectionsOf, List.filter_eq_nil_iff, ← Bool.not_eq_true, holds_iff]
  simp only [is_at_iff, not_exists, not_and]

theorem filter_erased {Item : Type} (hit keep : Item → Bool) (row : List Item)
    (kept : ∀ item, hit item = true → keep item = false) :
    (row.eraseP hit).filter keep = row.filter keep := by
  induction row with
  | nil => rfl
  | cons item rest ih =>
      by_cases struck : hit item = true
      · simp [struck, kept item struck]
      · simp [struck, List.filter_cons, ih]

theorem filter_erased_own {Item : Type} (hit : Item → Bool) (row : List Item) :
    (row.eraseP hit).filter hit = (row.filter hit).tail := by
  induction row with
  | nil => rfl
  | cons item rest ih =>
      by_cases struck : hit item = true
      · simp [struck]
      · simp [struck, ih]

theorem connections_terminated (session : CPDLCSession) (station : AcarsEndpointCallsign) :
    connectionsOf callsign (session.terminationRequest station) =
      if station = callsign then (connectionsOf callsign session).tail
      else connectionsOf callsign session := by
  unfold connectionsOf
  rw [slots_termination_request]
  split
  · next own =>
      subst own
      exact filter_erased_own _ _
  · next other =>
      apply filter_erased
      intro conn hit
      have same := (is_at_iff station conn).mp hit
      rw [← Bool.not_eq_true, is_at_iff, same]
      exact other

theorem connections_shrink (stations : List AcarsEndpointCallsign) (session : CPDLCSession) :
    (connectionsOf callsign (stations.foldl CPDLCSession.terminationRequest session)).length ≤
      (connectionsOf callsign session).length := by
  induction stations generalizing session with
  | nil => exact Nat.le_refl _
  | cons station rest ih =>
      refine Nat.le_trans (ih (session.terminationRequest station)) ?_
      rw [connections_terminated]
      split <;> simp

/-- A callsign among those terminated loses a connection wherever it has one. -/
theorem connections_lost (stations : List AcarsEndpointCallsign) (listed : callsign ∈ stations)
    (session : CPDLCSession) (held : connectionsOf callsign session ≠ []) :
    connectionsOf callsign (stations.foldl CPDLCSession.terminationRequest session) ≠
      connectionsOf callsign session := by
  obtain ⟨earlier, later, rfl⟩ := List.append_of_mem listed
  rw [List.foldl_append, List.foldl_cons]
  intro same
  have shorter := connections_shrink callsign later
    ((earlier.foldl CPDLCSession.terminationRequest session).terminationRequest callsign)
  have before := connections_shrink callsign earlier session
  have own := connections_terminated callsign
    (earlier.foldl CPDLCSession.terminationRequest session) callsign
  rw [if_pos rfl] at own
  rw [same, own, List.length_tail] at shorter
  have some_left := List.length_pos_iff.mpr held
  omega

theorem connections_absent (stations : List AcarsEndpointCallsign) (session : CPDLCSession)
    (absent : session.holds callsign = false) :
    connectionsOf callsign (stations.foldl CPDLCSession.terminationRequest session) =
      connectionsOf callsign session := by
  have empty := (connections_of_nil_iff callsign session).mpr absent
  have bound := connections_shrink callsign stations session
  rw [empty] at bound ⊢
  exact List.length_eq_zero_iff.mp (Nat.le_zero.mp bound)

end Connections

/-! The end of service in what is published. -/
section Notices

def endsServiceOf (callsign : AcarsEndpointCallsign) : OpenLinkMessage → Bool
  | .acars ⟨_, .cpdlc ⟨source, _, .application msg⟩⟩ =>
      source == callsign && msg.elements.any endsService
  | .acars ⟨_, .cpdlc ⟨_, _, .metaMessage _⟩⟩ => false
  | .metaMessage _ => false

variable (config : ServerConfig) (now : DateTime)

theorem addressed_payload (registry : StationRegistry) (callsign : AcarsEndpointCallsign)
    (payload : OpenLinkMessage) (posting : Posting)
    (member : posting ∈ addressed config registry callsign payload) :
    posting.2 = payload ∧ lookupCallsign config.toUppercase registry callsign ≠ none := by
  obtain ⟨entry, found, rfl⟩ := List.mem_map.mp member
  refine ⟨rfl, ?_⟩
  rw [Option.mem_toList.mp found]
  exact Option.some_ne_none entry

theorem updates_end_nothing (session : CPDLCSession) (payload : OpenLinkMessage)
    (registry : StationRegistry) (posting : Posting) (callsign : AcarsEndpointCallsign)
    (member : posting ∈ broadcastUpdates config session payload registry) :
    endsServiceOf callsign posting.2 = false := by
  rcases List.mem_append.mp member with toAircraft | toStations
  · rw [(addressed_payload config registry _ _ posting toAircraft).1]
    rfl
  · obtain ⟨station, _, here⟩ := List.mem_flatMap.mp toStations
    rw [(addressed_payload config registry _ _ posting here).1]
    rfl

/-- An END SERVICE of an offline transition is that of its station, to a registered aircraft. -/
theorem notices_end_service (station callsign : AcarsEndpointCallsign) (session : CPDLCSession)
    (registry : StationRegistry) (posting : Posting)
    (member : posting ∈ offlineNotices config now station session registry)
    (ending : endsServiceOf callsign posting.2 = true) :
    station = callsign ∧
      lookupCallsign config.toUppercase registry session.aircraft.callsign ≠ none := by
  rcases List.mem_append.mp member with service | updates
  · split at service
    · obtain ⟨same, registered⟩ := addressed_payload config registry _ _ posting service
      rw [same] at ending
      have source := (Bool.and_eq_true _ _).mp ending
      exact ⟨by simpa using source.1, registered⟩
    · cases service
  · rw [updates_end_nothing config session _ registry posting callsign updates] at ending
    cases ending

end Notices

/-! The transition itself. -/
section Transitions

theorem retired_unindexed (toUppercase : String → String) (entries : List StationEntry)
    (offline : ∀ entry ∈ entries, entry.status = .offline) (registry : StationRegistry)
    (key : String)
    (gone : registry.kvCallsignIndexStore.get key = none ∨
      ∃ entry ∈ entries, stationKey toUppercase entry = key) :
    (entries.foldl (recorded toUppercase) registry).kvCallsignIndexStore.get key = none := by
  induction entries generalizing registry with
  | nil => simpa using gone
  | cons entry rest ih =>
      refine ih (fun other member => offline other (List.mem_cons_of_mem _ member)) _ ?_
      have status := offline entry List.mem_cons_self
      rw [recorded_index]
      by_cases own : key = callsignIndexKey toUppercase entry.acarsEndpoint.callsign
      · simp [own, status]
      · rw [if_neg own]
        rcases gone with absent | ⟨other, member, same⟩
        · simp [absent]
        · rcases List.mem_cons.mp member with rfl | later
          · exact absurd same.symm own
          · exact Or.inr ⟨other, later, same⟩

theorem retired_unfound (toUppercase : String → String) (entries : List StationEntry)
    (offline : ∀ entry ∈ entries, entry.status = .offline) (registry : StationRegistry)
    (entry : StationEntry) (listed : entry ∈ entries) :
    lookupCallsign toUppercase (entries.foldl (recorded toUppercase) registry)
      entry.acarsEndpoint.callsign = none := by
  have gone : (entries.foldl (recorded toUppercase) registry).kvCallsignIndexStore.get
      (callsignIndexKey toUppercase entry.acarsEndpoint.callsign) = none :=
    retired_unindexed toUppercase entries offline registry _ (Or.inr ⟨entry, listed, rfl⟩)
  simp [lookupCallsign, gone]

variable (config : ServerConfig)

def goesOffline (server : OpenLinkServer) (entry : StationEntry) : Event → Prop
  | .arrives now envelope => announced now envelope = some entry ∧ entry.status = .offline
  | .presenceTick now => entry ∈ expiring server.stationRegistry now (leaseTtl config)

/-- A transition ends the service of the callsign, over a registry in which no
lookup finds that callsign. -/
theorem transition_ends (server : OpenLinkServer) (event : Event) (entry : StationEntry)
    (keyed : Keyed server.sessions) (gone : goesOffline config server entry event) :
    ∃ now stations registry, entry.acarsEndpoint.callsign ∈ stations ∧
      lookupCallsign config.toUppercase registry entry.acarsEndpoint.callsign = none ∧
      Ended config now stations { server with stationRegistry := registry }
        (mainLoop config server event) := by
  cases event with
  | arrives now envelope =>
      obtain ⟨announcing, offline⟩ := gone
      unfold announced at announcing
      split at announcing
      · next stationId status acarsEndpoint network address payload source =>
          cases announcing
          cases offline
          refine ⟨now, _, _, List.mem_singleton_self _, ?_, loop_offline config server now envelope
            stationId acarsEndpoint network address payload source keyed⟩
          exact retired_unfound config.toUppercase
            [⟨stationId, .offline, now, address, acarsEndpoint⟩] (by simp) server.stationRegistry
            _ (List.mem_singleton_self _)
      · cases announcing
  | presenceTick now =>
      refine ⟨now, _, _, List.mem_map.mpr ⟨entry, gone, rfl⟩, ?_,
        loop_tick config server now keyed⟩
      have listed : retired now entry ∈
          (expiring server.stationRegistry now (leaseTtl config)).map (retired now) :=
        List.mem_map.mpr ⟨entry, gone, rfl⟩
      have offline : ∀ other ∈
          (expiring server.stationRegistry now (leaseTtl config)).map (retired now),
          other.status = .offline := by simp [retired]
      exact retired_unfound config.toUppercase _ offline server.stationRegistry
        (retired now entry) listed

/-- An offline transition leaves the connections of its callsign alone, and announces
no end of its service, exactly when no stored session has such a connection. Which
other entries are online under the callsign makes no difference. -/
theorem offline_spares_iff (server : OpenLinkServer) (event : Event) (entry : StationEntry)
    (keyed : Keyed server.sessions) (gone : goesOffline config server entry event) :
    ((∀ id, ((mainLoop config server event).sessions.get id).map
          (connectionsOf entry.acarsEndpoint.callsign) =
        (server.sessions.get id).map (connectionsOf entry.acarsEndpoint.callsign)) ∧
      ∀ posting ∈ published server (mainLoop config server event),
        endsServiceOf entry.acarsEndpoint.callsign posting.2 = false) ↔
      ∀ id session, server.sessions.get id = some session →
        session.holds entry.acarsEndpoint.callsign = false := by
  obtain ⟨now, stations, registry, listed, unknown, ended⟩ :=
    transition_ends config server event entry keyed gone
  constructor
  · rintro ⟨same, _⟩ id session stored
    rw [← connections_of_nil_iff]
    by_contra held
    have here := same id
    rw [ended.sessions, stored] at here
    exact connections_lost _ stations listed session held (Option.some.inj here)
  · intro absent
    constructor
    · intro id
      rw [ended.sessions]
      cases stored : server.sessions.get id with
      | none => rfl
      | some session =>
          exact congrArg some (connections_absent _ stations session (absent id session stored))
    · obtain ⟨notices, sent, origins⟩ := ended.notices
      rw [published_append server _ notices sent]
      intro posting member
      obtain ⟨station, _, session, id, before, stored, wanted, same, notice⟩ :=
        origins posting member
      by_contra ending
      obtain ⟨rfl, registered⟩ := notices_end_service config now station _ session registry posting
        notice (by simpa using ending)
      -- the station holds no slot, so it is listed as the aircraft, which is not registered
      have own : before.aircraft.callsign = entry.acarsEndpoint.callsign := by
        simpa [relevant, absent id before stored] using wanted
      rw [same, own] at registered
      exact registered unknown

/-! A unit that came back under a new station id, when its old lease runs out. -/

def oldUnit : StationEntry := ⟨"unit-1", .online, 0, "address-1", ⟨"LFPG", "LFPG"⟩⟩

def newUnit : StationEntry := ⟨"unit-2", .online, 80000000000, "address-2", ⟨"LFPG", "LFPG"⟩⟩

def flight : StationEntry := ⟨"flight", .online, 80000000000, "address-3", ⟨"AFR123", "39A1B2"⟩⟩

def served : CPDLCSession :=
  ⟨⟨"AFR123", "39A1B2"⟩, some ⟨⟨"LFPG", ""⟩, true, true⟩, none, none⟩

def reconnectedServer : OpenLinkServer where
  sessions := KvStore.empty.put "39A1B2" served
  stationRegistry := [oldUnit, newUnit, flight].foldl (recorded asciiUppercase) .empty
  issued := 0
  sent := []

theorem reconnected_keyed : Keyed reconnectedServer.sessions := by
  intro id session stored
  simp only [reconnectedServer, KvStore.get_put, KvStore.get_empty, Option.ite_none_right_eq_some,
    Option.some.injEq] at stored
  obtain ⟨rfl, rfl⟩ := stored
  rfl

theorem offline_spares_reconnected :
    ((∀ id, ((mainLoop vatsimConfig reconnectedServer (.presenceTick 100000000000)).sessions.get
          id).map (connectionsOf "LFPG") =
        (reconnectedServer.sessions.get id).map (connectionsOf "LFPG")) ∧
      ∀ posting ∈ published reconnectedServer
          (mainLoop vatsimConfig reconnectedServer (.presenceTick 100000000000)),
        endsServiceOf "LFPG" posting.2 = false) ↔
      ∀ id session, reconnectedServer.sessions.get id = some session →
        session.holds "LFPG" = false :=
  offline_spares_iff vatsimConfig reconnectedServer (.presenceTick 100000000000) oldUnit
    reconnected_keyed (by unfold goesOffline; decide)

/-- The unit is online under its new id and loses its connection all the same. -/
theorem old_lease_ends_service :
    reconnectedServer.stationRegistry.kvRegistryStore.get "unit-2" = some newUnit ∧
      oldUnit ∈ expiring reconnectedServer.stationRegistry 100000000000 (leaseTtl vatsimConfig) ∧
      (reconnectedServer.sessions.get "39A1B2").map (connectionsOf "LFPG") =
        some [⟨⟨"LFPG", ""⟩, true, true⟩] ∧
      ((mainLoop vatsimConfig reconnectedServer (.presenceTick 100000000000)).sessions.get
        "39A1B2").map (connectionsOf "LFPG") = some [] ∧
      ∃ posting ∈ published reconnectedServer
          (mainLoop vatsimConfig reconnectedServer (.presenceTick 100000000000)),
        endsServiceOf "LFPG" posting.2 = true := by
  decide

end Transitions

end OpenLink.OfflineTransitions
