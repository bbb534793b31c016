import OpenLink.HandlerEffects
import OpenLink.Server

/-!
What the server publishes, address and payload, in order. The ids and times of
the envelopes are left open. An action that only publishes leaves both stores as
they are, and what it publishes depends on the registry alone.
-/
namespace OpenLink.Publications
open Actions Cpdlc CpdlcServer Envelope HandlerEffects MessageBuilder Registry Server Session

abbrev Posting := NetworkAddress × OpenLinkMessage

def posted (server : OpenLinkServer) : List Posting :=
  server.sent.map fun item => (item.1, item.2.payload)

/-- The action succeeds, publishes exactly these, and changes no store. -/
def Posts (action : Handler Unit) (postings : StationRegistry → List Posting) : Prop :=
  ∀ server, ∃ after, runOn action server = (.ok (), after) ∧
    after.sessions = server.sessions ∧ after.stationRegistry = server.stationRegistry ∧
    posted after = posted server ++ postings server.stationRegistry

/-! Rules, one for each way the handlers are put together. -/
section Rules
variable {first second : Handler Unit} {before after : StationRegistry → List Posting}

theorem posts_nothing : Posts (pure ()) fun _ => [] :=
  fun server => ⟨server, rfl, rfl, rfl, by simp⟩

theorem posts_send (station : NetworkAddress) (envelope : OpenLinkEnvelope) :
    Posts (sendToStation station envelope) fun _ => [(station, envelope.payload)] :=
  fun server => ⟨_, rfl, rfl, rfl, by simp [posted]⟩

theorem posts_then (earlier : Posts first before) (later : Posts second after) :
    Posts (first >>= fun _ => second) fun registry => before registry ++ after registry := by
  intro server
  obtain ⟨middle, ran, sessions, registry, sent⟩ := earlier server
  obtain ⟨last, finished, sessions_last, registry_last, sent_last⟩ := later middle
  refine ⟨last, ?_, sessions_last.trans sessions, registry_last.trans registry, ?_⟩
  · rw [run_bind, ran]
    exact finished
  · rw [sent_last, sent, registry, List.append_assoc]

theorem posts_keeps_registry (posts : Posts first before) :
    Keeps OpenLinkServer.stationRegistry first := by
  intro server
  obtain ⟨last, ran, _, registry, _⟩ := posts server
  rw [ran]
  exact registry

theorem posts_each {Item : Type} (items : List Item) {body : Item → Handler Unit}
    {postings : Item → StationRegistry → List Posting}
    (each : ∀ item, Posts (body item) (postings item)) :
    Posts (items.forM body) fun registry => items.flatMap fun item => postings item registry := by
  induction items with
  | nil => exact posts_nothing
  | cons item rest ih => exact posts_then (each item) ih

variable (config : ServerConfig) (now : DateTime)

theorem posts_built (destination : NetworkAddress) (correlationId : String)
    (payload : OpenLinkMessage) {next : OpenLinkEnvelope → Handler Unit}
    {postings : StationRegistry → List Posting}
    (built : ∀ envelope, envelope.payload = payload → Posts (next envelope) postings) :
    Posts (serverEnvelope config now destination correlationId payload >>= next) postings := by
  intro server
  rw [run_bind]
  obtain ⟨last, ran, rest⟩ := built (envelope (config.newUuid server.issued) now
    (.server config.networkId) (.address config.networkId destination) (some correlationId) payload)
    rfl { server with issued := server.issued + 1 }
  exact ⟨last, ran, rest⟩

/-- What follows a lookup may depend on what it finds. -/
theorem posts_looked_up (callsign : AcarsEndpointCallsign)
    (postings : Option StationEntry → StationRegistry → List Posting)
    {next : Option StationEntry → Handler Unit}
    (found : ∀ entry, Posts (next entry) (postings entry)) :
    Posts (lookup config callsign >>= next) fun registry =>
      postings (lookupCallsign config.toUppercase registry callsign) registry := by
  intro server
  rw [run_bind]
  exact found (lookupCallsign config.toUppercase server.stationRegistry callsign) server

end Rules

/-! The publications of each handler. -/
section Handlers
variable (config : ServerConfig) (now : DateTime)

def addressed (registry : StationRegistry) (callsign : AcarsEndpointCallsign)
    (payload : OpenLinkMessage) : List Posting :=
  (lookupCallsign config.toUppercase registry callsign).toList.map fun entry =>
    (entry.networkAddress, payload)

def updateMessage (session : CPDLCSession) (party : AcarsEndpointCallsign)
    (view : CpdlcSessionView) : OpenLinkMessage :=
  cpdlc session.aircraft.callsign session.aircraft.address "SERVER" party (sessionUpdate view)

def broadcastUpdates (session : CPDLCSession) (payload : OpenLinkMessage)
    (registry : StationRegistry) : List Posting :=
  addressed config registry session.aircraft.callsign
      (updateMessage session session.aircraft.callsign session.toAircraftView) ++
    (broadcastStations session payload).flatMap fun station =>
      addressed config registry station
        (updateMessage session station (session.toStationView station))

theorem posts_update (session : CPDLCSession) (party : AcarsEndpointCallsign)
    (view : CpdlcSessionView) (destination : NetworkAddress) (correlationId : String) :
    Posts (sendSessionUpdate config now session party view destination correlationId)
      fun registry => addressed config registry party (updateMessage session party view) := by
  apply posts_built
  intro update content
  refine posts_looked_up config party (fun found _ => found.toList.map fun entry =>
    (entry.networkAddress, updateMessage session party view)) ?_
  intro found
  cases found with
  | none => exact posts_nothing
  | some entry =>
      have sending := posts_send entry.networkAddress update
      rwa [content] at sending

theorem posts_broadcast (session : CPDLCSession) (original : OpenLinkEnvelope) :
    Posts (broadcastSessionUpdate config now session original)
      (broadcastUpdates config session original.payload) := by
  apply posts_then (posts_update config now session _ _ _ _)
  exact posts_each _ fun station => posts_update config now session station _ _ _

def endServiceMessage (session : CPDLCSession) (stationCallsign : AcarsEndpointCallsign) :
    OpenLinkMessage :=
  cpdlc session.aircraft.callsign session.aircraft.address stationCallsign
    session.aircraft.callsign (endService now)

def offlineNotices (stationCallsign : AcarsEndpointCallsign) (session : CPDLCSession)
    (registry : StationRegistry) : List Posting :=
  (if config.autoEndServiceOnStationOffline then
      addressed config registry session.aircraft.callsign
        (endServiceMessage now session stationCallsign)
    else []) ++
  broadcastUpdates config session (endServiceMessage now session stationCallsign) registry

theorem posts_offline_notices (stationCallsign : AcarsEndpointCallsign) (session : CPDLCSession)
    (correlationId : String) :
    Posts (do
        let aircraft := session.aircraft
        let endServiceEnvelope ← serverEnvelope config now "aircraft" correlationId
          (cpdlc aircraft.callsign aircraft.address stationCallsign aircraft.callsign
            (endService now))
        if config.autoEndServiceOnStationOffline then
          match ← lookup config aircraft.callsign with
          | some entry => sendToStation entry.networkAddress endServiceEnvelope
          | none => pure ()
        broadcastSessionUpdate config now session endServiceEnvelope)
      (offlineNotices config now stationCallsign session) := by
  apply posts_built
  intro ending content
  have broadcast := posts_broadcast config now session ending
  rw [content] at broadcast
  unfold offlineNotices
  split
  · refine posts_looked_up config session.aircraft.callsign (fun found registry =>
      (found.toList.map fun entry =>
        (entry.networkAddress, endServiceMessage now session stationCallsign)) ++
      broadcastUpdates config session (endServiceMessage now session stationCallsign) registry) ?_
    intro found
    cases found with
    | none => exact broadcast
    | some entry =>
        have sending := posts_send entry.networkAddress ending
        rw [content] at sending
        exact posts_then sending fun server => broadcast server
  · exact broadcast

theorem offline_keeps_registry (stationCallsign : AcarsEndpointCallsign) (correlationId : String) :
    Keeps OpenLinkServer.stationRegistry
      (handleStationOffline config now stationCallsign correlationId) := by
  apply keeps_bind fun server => by rw [run_on_sessions]
  intro updated
  apply posts_keeps_registry
  exact posts_each updated fun session =>
    posts_offline_notices config now stationCallsign session correlationId

/-- An offline transition terminates the station in every stored session, and
publishes about sessions in which it then holds no slot. -/
theorem run_station_offline (stationCallsign : AcarsEndpointCallsign) (correlationId : String)
    (server : OpenLinkServer) (keyed : Keyed server.sessions) :
    ∃ (updated : List CPDLCSession) (after : OpenLinkServer),
      runOn (handleStationOffline config now stationCallsign correlationId) server =
        (.ok (), after) ∧
      after.stationRegistry = server.stationRegistry ∧
      (∀ id, after.sessions.get id =
        (server.sessions.get id).map fun session => session.terminationRequest stationCallsign) ∧
      posted after = posted server ++ (updated.flatMap fun session =>
        offlineNotices config now stationCallsign session server.stationRegistry) ∧
      ∀ session ∈ updated, ∃ id before, server.sessions.get id = some before ∧
        relevant stationCallsign before = true ∧
        session = before.terminationRequest stationCallsign := by
  obtain ⟨updated, store, ran, effect, origins⟩ :=
    run_terminate_sessions stationCallsign server.sessions keyed
  obtain ⟨after, finished, sessions, registry, sent⟩ :=
    posts_each updated (fun session => posts_offline_notices config now stationCallsign session
      correlationId) { server with sessions := store }
  refine ⟨updated, after, ?_, registry, ?_, sent, origins⟩
  · simp only [handleStationOffline, run_bind, run_on_sessions, ran]
    exact finished
  · intro id
    rw [sessions]
    exact effect id

def snapshotView (session : CPDLCSession) (callsign : AcarsEndpointCallsign) : CpdlcSessionView :=
  if session.aircraft.callsign = callsign then session.toAircraftView
  else session.toStationView callsign

theorem run_sync_snapshots (networkAddress : NetworkAddress) (callsign : AcarsEndpointCallsign)
    (correlationId : String) (server : OpenLinkServer) :
    ∃ after,
      runOn (syncSessionSnapshotsForCallsign config now networkAddress callsign correlationId)
        server = (.ok (), after) ∧
      after.sessions = server.sessions ∧ after.stationRegistry = server.stationRegistry ∧
      posted after = posted server ++ (listed callsign server.sessions).map fun session =>
        (networkAddress, updateMessage session callsign (snapshotView session callsign)) := by
  have posting : ∀ session, Posts (serverEnvelope config now networkAddress correlationId
      (updateMessage session callsign (snapshotView session callsign)) >>= fun update =>
        sendToStation networkAddress update) fun _ =>
      [(networkAddress, updateMessage session callsign (snapshotView session callsign))] := by
    intro session
    apply posts_built
    intro update content
    have sending := posts_send networkAddress update
    rwa [content] at sending
  obtain ⟨after, finished, sessions, registry, sent⟩ :=
    posts_each (listed callsign server.sessions) posting server
  refine ⟨after, ?_, sessions, registry, ?_⟩
  · simp only [syncSessionSnapshotsForCallsign, run_bind, run_on_sessions, run_list_sessions]
    exact finished
  · rw [sent, List.map_eq_flatMap]

/-- What the result of a CPDLC message makes the server publish: the message itself
to its destination, and an update about the session it returns. -/
def deliveries (original : OpenLinkMessage) (registry : StationRegistry) :
    Except String (AcarsEndpointCallsign × Option CPDLCSession × OpenLinkEnvelope) → List Posting
  | .error _ => []
  | .ok (destination, session, forwardEnvelope) =>
      addressed config registry destination forwardEnvelope.payload ++
        match session with
        | some session => broadcastUpdates config session original registry
        | none => []

theorem posts_deliveries (envelope forwardEnvelope : OpenLinkEnvelope)
    (destination : Option StationEntry) (session : Option CPDLCSession) :
    Posts (do
        match destination with
        | some entry =>
            sendToStation entry.networkAddress (transferred config envelope forwardEnvelope entry)
        | none => pure ()
        match session with
        | some session => broadcastSessionUpdate config now session envelope
        | none => pure ())
      fun registry =>
        (destination.toList.map fun entry => (entry.networkAddress, forwardEnvelope.payload)) ++
          match session with
          | some session => broadcastUpdates config session envelope.payload registry
          | none => [] := by
  have updates : Posts (
      match session with
      | some session => broadcastSessionUpdate config now session envelope
      | none => pure ()) fun registry =>
        match session with
        | some session => broadcastUpdates config session envelope.payload registry
        | none => [] := by
    cases session with
    | none => exact posts_nothing
    | some session => exact posts_broadcast config now session envelope
  cases destination with
  | none => exact updates
  | some entry => exact posts_then (posts_send entry.networkAddress _) updates

/-- A message, whatever its update of the session makes of the bucket. -/
theorem run_acars_under (update : SessionUpdate) (routing : AcarsRouting) (message : CpdlcEnvelope)
    (envelope : OpenLinkEnvelope) (server : OpenLinkServer) :
    let handled := runOn (handleCpdlcMessageUnder update config.toUppercase message
      ⟨routing, .cpdlc message⟩ envelope) server.sessions
    let after := (runOn (receiveAcarsUnder config now update ⟨routing, .cpdlc message⟩ envelope)
      server).2
    after.sessions = handled.2 ∧ after.stationRegistry = server.stationRegistry ∧
      posted after = posted server ++
        deliveries config envelope.payload server.stationRegistry handled.1 := by
  intro handled after
  have outcome : runOn (handleCpdlcMessageUnder update config.toUppercase message
    ⟨routing, .cpdlc message⟩ envelope) server.sessions = handled := rfl
  have received : (runOn (receiveAcarsUnder config now update ⟨routing, .cpdlc message⟩ envelope)
    server).2 = after := rfl
  obtain ⟨result, store⟩ := handled
  unfold receiveAcarsUnder at received
  simp only [handleAcarsMessageUnder, run_bind, run_on_sessions, outcome] at received
  cases result with
  | error message =>
      simp only at received
      simp [← received, deliveries, posted]
  | ok result =>
      obtain ⟨destination, session, forwardEnvelope⟩ := result
      obtain ⟨last, finished, sessions, registry, sent⟩ := posts_deliveries config now envelope
        forwardEnvelope (lookupCallsign config.toUppercase server.stationRegistry destination)
        session { server with sessions := store }
      have ended : last = after := by
        rw [← received]
        exact (congrArg Prod.snd finished).symm
      subst ended
      exact ⟨sessions, registry, sent⟩

theorem run_acars_message (routing : AcarsRouting) (message : CpdlcEnvelope)
    (envelope : OpenLinkEnvelope) (server : OpenLinkServer)
    (payload : envelope.payload = .acars ⟨routing, .cpdlc message⟩) :
    let handled := runOn (handleCpdlcMessage config.toUppercase message ⟨routing, .cpdlc message⟩
      envelope) server.sessions
    let after := (runOn (receive config now envelope) server).2
    after.sessions = handled.2 ∧ after.stationRegistry = server.stationRegistry ∧
      posted after = posted server ++
        deliveries config envelope.payload server.stationRegistry handled.1 := by
  have same : receive config now envelope = receiveAcarsUnder config now
      getAndUpdateSessionForAircraft ⟨routing, .cpdlc message⟩ envelope := by
    unfold receive receiveUnder
    rw [payload]
  rw [same]
  exact run_acars_under config now getAndUpdateSessionForAircraft routing message envelope server

theorem snapshots_keep_registry (networkAddress : NetworkAddress)
    (callsign : AcarsEndpointCallsign) (correlationId : String) :
    Keeps OpenLinkServer.stationRegistry
      (syncSessionSnapshotsForCallsign config now networkAddress callsign correlationId) := by
  intro server
  obtain ⟨after, ran, _, registry, _⟩ :=
    run_sync_snapshots config now networkAddress callsign correlationId server
  rw [ran]
  exact registry

end Handlers

end OpenLink.Publications
