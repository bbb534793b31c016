import OpenLink.Arrangements
import OpenLink.MainLoop

/-!
What the server may publish. It takes the stations of a broadcast out of a set, whose order is open,
so their updates form one group; the groups themselves follow each other in order. What the model
publishes is one arrangement of the groups.
-/
namespace OpenLink.Broadcasts
open Actions Arrangements Cpdlc CpdlcServer Envelope HandlerEffects Kv MainLoop Publications Registry
  RegistryRuns Runs Server Session

variable (config : ServerConfig)

/-! The groups of each handler. -/
section Groups

/-- A broadcast: the update of the aircraft, and then those of the stations in any order. -/
def updateGroups (session : CPDLCSession) (payload : OpenLinkMessage)
    (registry : StationRegistry) : List (List Posting) :=
  [addressed config registry session.aircraft.callsign
      (updateMessage session session.aircraft.callsign session.toAircraftView),
    (broadcastStations session payload).flatMap fun station =>
      addressed config registry station
        (updateMessage session station (session.toStationView station))]

def noticeGroups (now : DateTime) (station : AcarsEndpointCallsign) (session : CPDLCSession)
    (registry : StationRegistry) : List (List Posting) :=
  (if config.autoEndServiceOnStationOffline then
      addressed config registry session.aircraft.callsign (endServiceMessage now session station)
    else []) :: updateGroups config session (endServiceMessage now session station) registry

def deliveryGroups (original : OpenLinkMessage) (registry : StationRegistry) :
    Except String (AcarsEndpointCallsign × Option CPDLCSession × OpenLinkEnvelope) →
      List (List Posting)
  | .error _ => []
  | .ok (destination, session, forwardEnvelope) =>
      addressed config registry destination forwardEnvelope.payload ::
        match session with
        | some session => updateGroups config session original registry
        | none => []

def endingGroups (now : DateTime) (station : AcarsEndpointCallsign) (registry : StationRegistry)
    (sessions : List CPDLCSession) : List (List Posting) :=
  ((sessions.map fun session => session.terminationRequest station).filter
    fun ended => !ended.holds station).flatMap
      fun session => noticeGroups config now station session registry

def snapshotGroups (address : NetworkAddress) (callsign : AcarsEndpointCallsign)
    (sessions : List CPDLCSession) : List (List Posting) :=
  sessions.map fun session =>
    [(address, updateMessage session callsign (snapshotView session callsign))]

def sweepGroups (now : DateTime) : List StationEntry → OpenLinkServer → List (List Posting)
  | [], _ => []
  | entry :: rest, server =>
      endingGroups config now entry.acarsEndpoint.callsign server.stationRegistry
          (listed entry.acarsEndpoint.callsign server.sessions) ++
        sweepGroups now rest
          (runOn (handleStationOffline config now entry.acarsEndpoint.callsign
            s!"presence-expire-{entry.stationId}") server).2

def eventGroups (server : OpenLinkServer) : Event → List (List Posting)
  | .arrives now envelope =>
      match envelope.payload, envelope.routing.source with
      | .acars ⟨routing, .cpdlc message⟩, _ =>
          deliveryGroups config envelope.payload server.stationRegistry
            (runOn (handleCpdlcMessage config.toUppercase message ⟨routing, .cpdlc message⟩
              envelope) server.sessions).1
      | .metaMessage (.stationStatus _ .online acarsEndpoint), .address _ address =>
          snapshotGroups address acarsEndpoint.callsign
            (listed acarsEndpoint.callsign server.sessions)
      | .metaMessage (.stationStatus stationId .offline acarsEndpoint), .address _ address =>
          endingGroups config now acarsEndpoint.callsign
            (recorded config.toUppercase server.stationRegistry
              ⟨stationId, .offline, now, address, acarsEndpoint⟩)
            (listed acarsEndpoint.callsign server.sessions)
      | .metaMessage _, .server _ => []
  | .presenceTick now =>
      sweepGroups config now (expiring server.stationRegistry now (leaseTtl config))
        { server with stationRegistry := sweptRegistry config server now }

def runGroups : OpenLinkServer → List Event → List (List Posting) :=
  collected (mainLoop config) (eventGroups config)

end Groups

/-! The log of the model is the groups in order. -/
section Log

theorem update_groups_flatten (session : CPDLCSession) (payload : OpenLinkMessage)
    (registry : StationRegistry) :
    (updateGroups config session payload registry).flatten =
      broadcastUpdates config session payload registry := by
  simp [updateGroups, broadcastUpdates]

theorem delivery_groups_flatten (original : OpenLinkMessage) (registry : StationRegistry)
    (outcome : Except String (AcarsEndpointCallsign × Option CPDLCSession × OpenLinkEnvelope)) :
    (deliveryGroups config original registry outcome).flatten =
      deliveries config original registry outcome := by
  rcases outcome with _ | ⟨destination, _ | session, forwardEnvelope⟩
  · rfl
  · simp [deliveryGroups, deliveries]
  · simp [deliveryGroups, deliveries, update_groups_flatten]

theorem ending_groups_flatten (now : DateTime) (station : AcarsEndpointCallsign)
    (registry : StationRegistry) (sessions : List CPDLCSession) :
    (endingGroups config now station registry sessions).flatten =
      ((sessions.map fun session => session.terminationRequest station).filter
        fun ended => !ended.holds station).flatMap
          fun session => offlineNotices config now station session registry := by
  unfold endingGroups
  induction (sessions.map fun session => session.terminationRequest station).filter
      fun ended => !ended.holds station with
  | nil => rfl
  | cons session rest ih =>
      rw [List.flatMap_cons, List.flatMap_cons, List.flatten_append, ih, noticeGroups,
        List.flatten_cons, update_groups_flatten, offlineNotices]

theorem run_ending (now : DateTime) (station : AcarsEndpointCallsign) (correlationId : String)
    (server : OpenLinkServer) (keyed : Keyed server.sessions) :
    let after := (runOn (handleStationOffline config now station correlationId) server).2
    after.stationRegistry = server.stationRegistry ∧
      (∀ key, after.sessions.get key =
        (server.sessions.get key).map fun session => session.terminationRequest station) ∧
      posted after = posted server ++ (endingGroups config now station server.stationRegistry
        (listed station server.sessions)).flatten := by
  intro after
  obtain ⟨store, ran, effect⟩ := run_terminate_exact station server.sessions keyed
  obtain ⟨last, finished, sessions, registry, sent⟩ := posts_each
    (((listed station server.sessions).map fun session => session.terminationRequest station).filter
      fun ended => !ended.holds station)
    (fun session => posts_offline_notices config now station session correlationId)
    { server with sessions := store }
  have same : after = last := by
    have whole : runOn (handleStationOffline config now station correlationId) server =
        (.ok (), last) := by
      simp only [handleStationOffline, run_bind, run_on_sessions, ran]
      exact finished
    exact congrArg Prod.snd whole
  rw [same]
  refine ⟨registry, fun key => by rw [sessions]; exact effect key, ?_⟩
  rw [sent, ending_groups_flatten]
  rfl

theorem run_endings (now : DateTime) (entries : List StationEntry) (server : OpenLinkServer)
    (keyed : Keyed server.sessions) :
    posted (runOn (entries.forM fun entry => do
        let _ ← attempt (handleStationOffline config now entry.acarsEndpoint.callsign
          s!"presence-expire-{entry.stationId}")) server).2 =
      posted server ++ (sweepGroups config now entries server).flatten := by
  induction entries generalizing server with
  | nil => exact (List.append_nil _).symm
  | cons entry rest ih =>
      obtain ⟨_, sessions, sent⟩ := run_ending config now entry.acarsEndpoint.callsign
        s!"presence-expire-{entry.stationId}" server keyed
      have later := ih _ (terminated_keyed [entry.acarsEndpoint.callsign] _ _ sessions keyed)
      simp only [List.forM, run_bind, run_attempt] at later ⊢
      rw [sweepGroups, List.flatten_append, ← List.append_assoc, ← sent]
      exact later

theorem event_groups_posted (server : OpenLinkServer) (event : Event)
    (keyed : Keyed server.sessions) :
    posted (mainLoop config server event) =
      posted server ++ (eventGroups config server event).flatten := by
  cases event with
  | presenceTick now =>
      have swept := run_endings config now (expiring server.stationRegistry now (leaseTtl config))
        { server with stationRegistry := sweptRegistry config server now } keyed
      simp only [mainLoop, mainLoopUnder, sweepUnder, run_bind, run_on_registry,
        run_expire_stale_online]
      exact swept
  | arrives now envelope =>
      cases payload : envelope.payload with
      | acars acars =>
          obtain ⟨routing, ⟨message⟩⟩ := acars
          have sent : posted (mainLoop config server (.arrives now envelope)) = _ :=
            (run_acars_message config now routing message envelope server payload).2.2
          simp only [eventGroups, payload, delivery_groups_flatten] at sent ⊢
          exact sent
      | metaMessage message =>
          obtain ⟨stationId, status, acarsEndpoint⟩ := message
          cases source : envelope.routing.source with
          | server network =>
              rw [loop_unaddressed config server now envelope _ network payload source]
              cases status <;> simp [eventGroups, payload, source]
          | address network address =>
              cases status with
              | online =>
                  have sent := (loop_online config server now envelope stationId acarsEndpoint
                    network address payload source).2.2
                  simp only [eventGroups, payload, source, snapshotGroups, ← List.flatMap_def]
                  rw [sent, List.map_eq_flatMap]
              | offline =>
                  rw [loop_status config server now envelope stationId .offline acarsEndpoint
                    network address payload source, if_neg (by simp)]
                  have ended := run_ending config now acarsEndpoint.callsign envelope.id
                    { server with
                      stationRegistry := recorded config.toUppercase server.stationRegistry
                        ⟨stationId, .offline, now, address, acarsEndpoint⟩ } keyed
                  simp only [eventGroups, payload, source]
                  exact ended.2.2

theorem run_groups_posted (server : OpenLinkServer) (keyed : Keyed server.sessions)
    (events : List Event) :
    posted (exec (mainLoop config) server events) =
      posted server ++ (runGroups config server events).flatten := by
  rw [runGroups, ← collected_flatten]
  exact collected_log (mainLoop config) _ posted (fun server => Keyed server.sessions)
    (loop_keyed config) (event_groups_posted config) server keyed events

end Log

/-- A log to which the run may have led, in whatever order each broadcast addressed its stations. -/
def Logged (server : OpenLinkServer) (events : List Event) (log : List Posting) : Prop :=
  ∃ added, Arranged (runGroups config server events) added ∧ log = posted server ++ added

theorem posted_logged (server : OpenLinkServer) (keyed : Keyed server.sessions)
    (events : List Event) : Logged config server events
      (posted (exec (mainLoop config) server events)) :=
  ⟨_, arranged_flatten _, run_groups_posted config server keyed events⟩

end OpenLink.Broadcasts
