import OpenLink.Publications
import OpenLink.RegistryRuns
import OpenLink.StoredSessions

/-!
The main loop as a machine that takes one envelope or one tick of the presence
clock at a time, and what an event makes of the sessions, the registry and the
publications.
-/
namespace OpenLink.MainLoop
open Actions Cpdlc CpdlcServer Envelope HandlerEffects Publications Registry RegistryRuns Runs Server
  Session SessionRuns StoredSessions

inductive Event where
  | arrives (now : DateTime) (envelope : OpenLinkEnvelope)
  | presenceTick (now : DateTime)

variable (config : ServerConfig)

/-- The machine over buckets that may fail. -/
def mainLoopUnder (update : SessionUpdate) (failing : KvOperation → String → Bool)
    (server : OpenLinkServer) : Event → OpenLinkServer
  | .arrives now envelope => (runOn (receiveUnder config now update failing envelope) server).2
  | .presenceTick now => (runOn (sweepUnder config now failing) server).2

def mainLoop (server : OpenLinkServer) : Event → OpenLinkServer :=
  mainLoopUnder config getAndUpdateSessionForAircraft noFailure server

def starting (registry : StationRegistry) (issued : Nat) : OpenLinkServer where
  sessions := .empty
  stationRegistry := registry
  issued := issued
  sent := []

def published (server after : OpenLinkServer) : List Posting :=
  (posted after).drop (posted server).length

theorem published_append (server after : OpenLinkServer) (postings : List Posting)
    (same : posted after = posted server ++ postings) : published server after = postings := by
  rw [published, same, List.drop_left]

/-! Events that end the service of stations. -/
section Endings

/-- The stations lose their connections one after the other, over a fixed registry. -/
structure Ended (now : DateTime) (stations : List AcarsEndpointCallsign)
    (server after : OpenLinkServer) : Prop where
  sessions : ∀ id, after.sessions.get id = (server.sessions.get id).map fun session =>
    stations.foldl CPDLCSession.terminationRequest session
  registry : after.stationRegistry = server.stationRegistry
  notices : ∃ notices, posted after = posted server ++ notices ∧ ∀ posting ∈ notices,
    ∃ station ∈ stations, ∃ session id before, server.sessions.get id = some before ∧
      relevant station before = true ∧ session.aircraft = before.aircraft ∧
      posting ∈ offlineNotices config now station session server.stationRegistry

theorem ended_nothing (now : DateTime) (server : OpenLinkServer) :
    Ended config now [] server server where
  sessions id := by simp
  registry := rfl
  notices := ⟨[], by simp, by simp⟩

theorem holds_terminated (station other : AcarsEndpointCallsign) (session : CPDLCSession)
    (held : (session.terminationRequest other).holds station = true) :
    session.holds station = true := by
  rw [SessionSteps.holds_iff] at held ⊢
  obtain ⟨conn, member, same⟩ := held
  rw [SessionSteps.slots_termination_request] at member
  exact ⟨conn, List.mem_of_mem_eraseP member, same⟩

theorem relevant_terminations (station : AcarsEndpointCallsign)
    (stations : List AcarsEndpointCallsign) (session : CPDLCSession)
    (listed : relevant station (stations.foldl CPDLCSession.terminationRequest session) = true) :
    relevant station session = true := by
  induction stations generalizing session with
  | nil => exact listed
  | cons other rest ih =>
      have before := ih _ listed
      simp only [relevant, Bool.or_eq_true, SessionSteps.termination_request_aircraft] at before ⊢
      exact before.imp_right (holds_terminated station other session)

theorem ended_keyed {now : DateTime} {stations : List AcarsEndpointCallsign}
    {server after : OpenLinkServer} (ended : Ended config now stations server after)
    (keyed : Keyed server.sessions) : Keyed after.sessions :=
  terminated_keyed stations _ _ ended.sessions keyed

theorem ended_then {now : DateTime} {earlier later : List AcarsEndpointCallsign}
    {server middle after : OpenLinkServer} (first : Ended config now earlier server middle)
    (second : Ended config now later middle after) :
    Ended config now (earlier ++ later) server after where
  sessions id := by
    rw [second.sessions, first.sessions, Option.map_map]
    simp only [List.foldl_append, Function.comp_def]
  registry := second.registry.trans first.registry
  notices := by
    obtain ⟨before, sent, origins⟩ := first.notices
    obtain ⟨rest, sent_rest, origins_rest⟩ := second.notices
    refine ⟨before ++ rest, by rw [sent_rest, sent, List.append_assoc], ?_⟩
    intro posting member
    rcases List.mem_append.mp member with early | late
    · obtain ⟨station, inEarlier, found⟩ := origins posting early
      exact ⟨station, List.mem_append_left _ inEarlier, found⟩
    · obtain ⟨station, inLater, session, id, terminated, stored, wanted, same, notice⟩ :=
        origins_rest posting late
      rw [first.sessions, Option.map_eq_some_iff] at stored
      obtain ⟨original, found, rfl⟩ := stored
      refine ⟨station, List.mem_append_right _ inLater, session, id, original, found,
        relevant_terminations station earlier original wanted, ?_, ?_⟩
      · exact same.trans (terminations_aircraft earlier original)
      · rwa [first.registry] at notice

theorem ended_one (now : DateTime) (station : AcarsEndpointCallsign) (correlationId : String)
    (server : OpenLinkServer) (keyed : Keyed server.sessions) :
    ∃ after, runOn (handleStationOffline config now station correlationId) server =
        (.ok (), after) ∧ Ended config now [station] server after := by
  obtain ⟨updated, after, ran, registry, sessions, sent, origins⟩ :=
    run_station_offline config now station correlationId server keyed
  refine ⟨after, ran, sessions, registry, _, sent, ?_⟩
  intro posting member
  obtain ⟨session, inUpdated, notice⟩ := List.mem_flatMap.mp member
  obtain ⟨id, before, stored, wanted, rfl⟩ := origins session inUpdated
  exact ⟨station, List.mem_singleton_self _, _, id, before, stored, wanted,
    SessionSteps.termination_request_aircraft before station, notice⟩

theorem ended_each (now : DateTime) (entries : List StationEntry) (server : OpenLinkServer)
    (keyed : Keyed server.sessions) :
    ∃ after, runOn (entries.forM fun entry => do
        let _ ← attempt (handleStationOffline config now entry.acarsEndpoint.callsign
          s!"presence-expire-{entry.stationId}")) server = (.ok (), after) ∧
      Ended config now (entries.map fun entry => entry.acarsEndpoint.callsign) server after := by
  induction entries generalizing server with
  | nil => exact ⟨server, rfl, ended_nothing config now server⟩
  | cons entry rest ih =>
      obtain ⟨middle, ran, first⟩ := ended_one config now entry.acarsEndpoint.callsign
        s!"presence-expire-{entry.stationId}" server keyed
      obtain ⟨after, finished, second⟩ := ih middle (ended_keyed config first keyed)
      refine ⟨after, ?_, ended_then config first second⟩
      simp only [List.forM, run_bind, run_attempt, ran]
      exact finished

end Endings

/-! What each event comes to. -/
section Events
variable (server : OpenLinkServer)

theorem loop_unaddressed (now : DateTime) (envelope : OpenLinkEnvelope) (message : MetaMessage)
    (network : NetworkId) (payload : envelope.payload = .metaMessage message)
    (source : envelope.routing.source = .server network) :
    mainLoop config server (.arrives now envelope) = server := by
  obtain ⟨stationId, status, acarsEndpoint⟩ := message
  simp [mainLoop, mainLoopUnder, receiveUnder, handleMetaMessageUnder, payload, source]

theorem loop_status (now : DateTime) (envelope : OpenLinkEnvelope) (stationId : StationId)
    (status : StationStatus) (acarsEndpoint : AcarsRoutingEndpoint) (network : NetworkId)
    (address : NetworkAddress)
    (payload : envelope.payload = .metaMessage (.stationStatus stationId status acarsEndpoint))
    (source : envelope.routing.source = .address network address) :
    mainLoop config server (.arrives now envelope) =
      (runOn (if status = .online then
          syncSessionSnapshotsForCallsign config now address acarsEndpoint.callsign envelope.id
        else handleStationOffline config now acarsEndpoint.callsign envelope.id)
        { server with
          stationRegistry := recorded config.toUppercase server.stationRegistry
            ⟨stationId, status, now, address, acarsEndpoint⟩ }).2 := by
  simp only [mainLoop, mainLoopUnder, receiveUnder, payload, handleMetaMessageUnder, source,
    run_bind, run_attempt, run_on_registry, run_pure, update_status_recorded]

/-- A station that comes online is sent the sessions it takes part in. -/
theorem loop_online (now : DateTime) (envelope : OpenLinkEnvelope) (stationId : StationId)
    (acarsEndpoint : AcarsRoutingEndpoint) (network : NetworkId) (address : NetworkAddress)
    (payload : envelope.payload = .metaMessage (.stationStatus stationId .online acarsEndpoint))
    (source : envelope.routing.source = .address network address) :
    let after := mainLoop config server (.arrives now envelope)
    after.sessions = server.sessions ∧
      after.stationRegistry = recorded config.toUppercase server.stationRegistry
        ⟨stationId, .online, now, address, acarsEndpoint⟩ ∧
      posted after = posted server ++
        (listed acarsEndpoint.callsign server.sessions).map fun session =>
          (address, updateMessage session acarsEndpoint.callsign
            (snapshotView session acarsEndpoint.callsign)) := by
  rw [loop_status config server now envelope stationId .online acarsEndpoint network address
    payload source]
  obtain ⟨after, ran, sessions, registry, sent⟩ := run_sync_snapshots config now address
    acarsEndpoint.callsign envelope.id { server with
      stationRegistry := recorded config.toUppercase server.stationRegistry
        ⟨stationId, .online, now, address, acarsEndpoint⟩ }
  rw [if_pos rfl, ran]
  exact ⟨sessions, registry, sent⟩

theorem loop_offline (now : DateTime) (envelope : OpenLinkEnvelope) (stationId : StationId)
    (acarsEndpoint : AcarsRoutingEndpoint) (network : NetworkId) (address : NetworkAddress)
    (payload : envelope.payload = .metaMessage (.stationStatus stationId .offline acarsEndpoint))
    (source : envelope.routing.source = .address network address)
    (keyed : Keyed server.sessions) :
    Ended config now [acarsEndpoint.callsign]
      { server with
        stationRegistry := recorded config.toUppercase server.stationRegistry
          ⟨stationId, .offline, now, address, acarsEndpoint⟩ }
      (mainLoop config server (.arrives now envelope)) := by
  rw [loop_status config server now envelope stationId .offline acarsEndpoint network address
    payload source]
  obtain ⟨after, ran, ended⟩ := ended_one config now acarsEndpoint.callsign envelope.id
    { server with
      stationRegistry := recorded config.toUppercase server.stationRegistry
        ⟨stationId, .offline, now, address, acarsEndpoint⟩ } keyed
  rw [if_neg (by simp), ran]
  exact ended

def sweptRegistry (now : DateTime) : StationRegistry :=
  ((expiring server.stationRegistry now (leaseTtl config)).map (retired now)).foldl
    (recorded config.toUppercase) server.stationRegistry

/-- A tick ends the service of every station whose lease has run out. -/
theorem loop_tick (now : DateTime) (keyed : Keyed server.sessions) :
    Ended config now ((expiring server.stationRegistry now (leaseTtl config)).map
        fun entry => entry.acarsEndpoint.callsign)
      { server with stationRegistry := sweptRegistry config server now }
      (mainLoop config server (.presenceTick now)) := by
  obtain ⟨after, ran, ended⟩ := ended_each config now
    (expiring server.stationRegistry now (leaseTtl config))
    { server with stationRegistry := sweptRegistry config server now } keyed
  have same : mainLoop config server (.presenceTick now) = after := by
    unfold sweptRegistry at ran
    simp only [mainLoop, mainLoopUnder, sweepUnder, run_bind, run_on_registry,
      run_expire_stale_online]
    exact congrArg Prod.snd ran
  rw [same]
  exact ended

end Events

/-! The registry over a run. -/
section Registry

def registryStep (failing : KvOperation → String → Bool) (registry : StationRegistry) :
    Event → StationRegistry
  | .arrives now envelope =>
      match announced now envelope with
      | some entry => (runOn (updateStatus config.toUppercase failing entry.lastUpdated
          entry.stationId entry.status entry.acarsEndpoint entry.networkAddress) registry).2
      | none => registry
  | .presenceTick now =>
      (runOn (expireStaleOnline config.toUppercase failing now (leaseTtl config)) registry).2

/-- Only the two registry calls write to the registry. -/
theorem under_registry (update : SessionUpdate) (failing : KvOperation → String → Bool)
    (server : OpenLinkServer) (event : Event) :
    (mainLoopUnder config update failing server event).stationRegistry =
      registryStep config failing server.stationRegistry event := by
  -- the sessions of a station that leaves are ended without a look at its entry
  have ends (now : DateTime) (station : AcarsEndpointCallsign) (correlationId : String) :
      Keeps OpenLinkServer.stationRegistry
        (attempt (handleStationOffline config now station correlationId)) :=
    keeps_attempt (offline_keeps_registry config now station correlationId)
  cases event with
  | presenceTick now =>
      simp only [mainLoopUnder, registryStep, sweepUnder, run_bind, run_on_registry]
      rcases runOn (expireStaleOnline config.toUppercase failing now (leaseTtl config))
        server.stationRegistry with ⟨_ | expired, registry⟩
      · rfl
      · exact keeps_each expired (fun entry => keeps_bind (ends now _ _) fun _ _ => rfl)
          { server with stationRegistry := registry }
  | arrives now envelope =>
      cases payload : envelope.payload with
      | acars acars =>
          obtain ⟨routing, ⟨message⟩⟩ := acars
          simp only [mainLoopUnder, registryStep, announced, receiveUnder, payload]
          exact (run_acars_under config now update routing message envelope server).2.1
      | metaMessage message =>
          obtain ⟨stationId, status, acarsEndpoint⟩ := message
          cases source : envelope.routing.source with
          | server network =>
              simp [mainLoopUnder, registryStep, announced, receiveUnder, handleMetaMessageUnder,
                payload, source]
          | address network address =>
              simp only [mainLoopUnder, registryStep, announced, receiveUnder,
                handleMetaMessageUnder, payload, source, run_bind, run_attempt, run_on_registry]
              rcases runOn (updateStatus config.toUppercase failing now stationId status
                acarsEndpoint address) server.stationRegistry with ⟨_ | _, registry⟩
              · rfl
              · simp only [run_bind, run_attempt, run_pure]
                split
                · exact snapshots_keep_registry config now _ _ _ _
                · exact offline_keeps_registry config now _ _ _

/-- An envelope records the entry that it announces, and no other. -/
theorem arrives_registry (server : OpenLinkServer) (now : DateTime) (envelope : OpenLinkEnvelope) :
    (mainLoop config server (.arrives now envelope)).stationRegistry =
      match announced now envelope with
      | some entry => recorded config.toUppercase server.stationRegistry entry
      | none => server.stationRegistry := by
  rw [mainLoop, under_registry, registryStep]
  cases announced now envelope with
  | none => rfl
  | some entry => simp only [update_status_recorded]

/-- Only what the envelopes announce reaches the registry, in their order. -/
theorem served_registry (server : OpenLinkServer) (arrivals : List (DateTime × OpenLinkEnvelope)) :
    (exec (serve config) server arrivals).stationRegistry =
      (announcements arrivals).foldl (recorded config.toUppercase) server.stationRegistry := by
  induction arrivals generalizing server with
  | nil => rfl
  | cons arrival rest ih =>
      have first : (serve config server arrival).stationRegistry = _ :=
        arrives_registry config server arrival.1 arrival.2
      rw [exec_cons, ih, first]
      cases entry : announced arrival.1 arrival.2 with
      | none => simp [announcements, entry]
      | some entry => simp [announcements, entry]

end Registry

/-! The sessions over a run. -/
section Sessions

/-- What an event makes of the bucket of sessions: the work of one message handler,
or terminations in every session. -/
inductive Changes (server : OpenLinkServer) : Event → SessionStore → Prop where
  | message (now : DateTime) (envelope : OpenLinkEnvelope) (routing : AcarsRouting)
      (message : CpdlcEnvelope) (payload : envelope.payload = .acars ⟨routing, .cpdlc message⟩) :
      Changes server (.arrives now envelope)
        (runOn (handleCpdlcMessage config.toUppercase message ⟨routing, .cpdlc message⟩ envelope)
          server.sessions).2
  | endings (event : Event) (stations : List AcarsEndpointCallsign) (after : SessionStore)
      (other : ∀ now envelope acars, event = .arrives now envelope →
        envelope.payload ≠ .acars acars)
      (ended : ∀ id, after.get id = (server.sessions.get id).map fun session =>
        stations.foldl CPDLCSession.terminationRequest session) :
      Changes server event after

theorem loop_changes (server : OpenLinkServer) (event : Event) (keyed : Keyed server.sessions) :
    Changes config server event (mainLoop config server event).sessions := by
  cases event with
  | presenceTick now =>
      exact .endings _ _ _ (by simp) (loop_tick config server now keyed).sessions
  | arrives now envelope =>
      cases payload : envelope.payload with
      | acars acars =>
          obtain ⟨routing, ⟨message⟩⟩ := acars
          have same := (run_acars_message config now routing message envelope server payload).1
          change (mainLoop config server (.arrives now envelope)).sessions = _ at same
          rw [same]
          exact .message now envelope routing message payload
      | metaMessage message =>
          have other : ∀ later received acars, Event.arrives now envelope = .arrives later received →
              received.payload ≠ .acars acars := by
            rintro later received acars same
            cases same
            rw [payload]
            exact OpenLinkMessage.noConfusion
          obtain ⟨stationId, status, acarsEndpoint⟩ := message
          cases source : envelope.routing.source with
          | server network =>
              refine .endings _ [] _ other fun id => ?_
              rw [loop_unaddressed config server now envelope _ network payload source]
              simp
          | address network address =>
              cases status with
              | online =>
                  refine .endings _ [] _ other fun id => ?_
                  rw [(loop_online config server now envelope stationId acarsEndpoint network
                    address payload source).1]
                  simp
              | offline =>
                  exact .endings _ _ _ other (loop_offline config server now envelope stationId
                    acarsEndpoint network address payload source keyed).sessions

theorem loop_keyed (server : OpenLinkServer) (event : Event) (keyed : Keyed server.sessions) :
    Keyed (mainLoop config server event).sessions := by
  have changes := loop_changes config server event keyed
  generalize (mainLoop config server event).sessions = after at changes ⊢
  cases changes with
  | message now envelope routing message payload =>
      exact handled_keyed config.toUppercase message ⟨routing, .cpdlc message⟩ envelope
        server.sessions keyed
  | endings _ stations _ _ ended => exact terminated_keyed stations server.sessions _ ended keyed

end Sessions

end OpenLink.MainLoop
