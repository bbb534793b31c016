import OpenLink.CpdlcServer
import OpenLink.MessageBuilder
import OpenLink.Registry
import OpenLink.Runs

/-!
The server of one network: its main loop takes one envelope or one sweep of the
presence leases at a time. What it publishes is collected in `sent`, in order, and
publishing is taken to succeed. Its handlers are given the update of a session and
the operations of the registry that fail.
-/
namespace OpenLink.Server
open Actions Cpdlc CpdlcServer Envelope MessageBuilder Registry Runs Session

structure ServerConfig where
  networkId : NetworkId
  leaseTtlSeconds : Int
  autoEndServiceOnStationOffline : Bool
  toUppercase : String → String
  newUuid : Nat → Uuid

structure OpenLinkServer where
  sessions : SessionStore
  stationRegistry : StationRegistry
  issued : Nat
  sent : List (NetworkAddress × OpenLinkEnvelope)

abbrev Handler := Action OpenLinkServer

section Effects

def onSessions {Result : Type} (action : CpdlcServer.Server Result) : Handler Result := do
  let server ← get
  let (result, sessions) := runOn action server.sessions
  set { server with sessions := sessions }
  lift result

def onRegistry {Result : Type} (action : Registry.Update Result) : Handler Result := do
  let server ← get
  let (result, stationRegistry) := runOn action server.stationRegistry
  set { server with stationRegistry := stationRegistry }
  lift result

def sendToStation (station : NetworkAddress) (envelope : OpenLinkEnvelope) : Handler Unit :=
  modify fun server => { server with sent := server.sent ++ [(station, envelope)] }

theorem run_on_sessions {Result : Type} (action : CpdlcServer.Server Result)
    (server : OpenLinkServer) :
    runOn (onSessions action) server = ((runOn action server.sessions).1,
      { server with sessions := (runOn action server.sessions).2 }) := by
  simp only [onSessions, run_bind, run_get, run_set, run_lift]

theorem run_on_registry {Result : Type} (action : Registry.Update Result)
    (server : OpenLinkServer) :
    runOn (onRegistry action) server = ((runOn action server.stationRegistry).1,
      { server with stationRegistry := (runOn action server.stationRegistry).2 }) := by
  simp only [onRegistry, run_bind, run_get, run_set, run_lift]

end Effects

section Handlers
variable (config : ServerConfig) (now : DateTime)

def serverEnvelope (destination : NetworkAddress) (correlationId : String)
    (payload : OpenLinkMessage) : Handler OpenLinkEnvelope := do
  let server ← get
  set { server with issued := server.issued + 1 }
  return envelope (config.newUuid server.issued) now (.server config.networkId)
    (.address config.networkId destination) (some correlationId) payload

def lookup (callsign : AcarsEndpointCallsign) : Handler (Option StationEntry) := do
  return lookupCallsign config.toUppercase (← get).stationRegistry callsign

def sendSessionUpdate (session : CPDLCSession) (party : AcarsEndpointCallsign)
    (view : CpdlcSessionView) (destination : NetworkAddress) (correlationId : String) :
    Handler Unit := do
  let message := cpdlc session.aircraft.callsign session.aircraft.address "SERVER" party
    (sessionUpdate view)
  let update ← serverEnvelope config now destination correlationId message
  match ← lookup config party with
  | some entry => sendToStation entry.networkAddress update
  | none => return ()

/-- The callsigns that a broadcast addresses as stations: those in the slots, and the parties of the
message that started it, the aircraft excepted. They are a set, whose order is open; the list is one
order of it. -/
def broadcastStations (session : CPDLCSession) (originalPayload : OpenLinkMessage) :
    List AcarsEndpointCallsign :=
  let connected := (session.activeConnection.toList ++ session.inactiveConnection.toList).map
    fun conn => conn.station.callsign
  let parties :=
    match originalPayload with
    | .acars ⟨_, .cpdlc message⟩ =>
        [message.source, message.destination].filter (· != session.aircraft.callsign)
    | .metaMessage _ => []
  (connected ++ parties).dedup

def broadcastSessionUpdate (session : CPDLCSession) (original : OpenLinkEnvelope) :
    Handler Unit := do
  sendSessionUpdate config now session session.aircraft.callsign session.toAircraftView "aircraft"
    original.id
  (broadcastStations session original.payload).forM fun station =>
    sendSessionUpdate config now session station (session.toStationView station) "station"
      original.id

def handleStationOffline (stationCallsign : AcarsEndpointCallsign) (correlationId : String) :
    Handler Unit := do
  let updatedSessions ← onSessions (terminateSessionsForStation stationCallsign)
  updatedSessions.forM fun session => do
    let aircraft := session.aircraft
    let endServiceEnvelope ← serverEnvelope config now "aircraft" correlationId
      (cpdlc aircraft.callsign aircraft.address stationCallsign aircraft.callsign (endService now))
    -- the end of service is announced, not handled again
    if config.autoEndServiceOnStationOffline then
      match ← lookup config aircraft.callsign with
      | some entry => sendToStation entry.networkAddress endServiceEnvelope
      | none => pure ()
    broadcastSessionUpdate config now session endServiceEnvelope

def syncSessionSnapshotsForCallsign (networkAddress : NetworkAddress)
    (callsign : AcarsEndpointCallsign) (correlationId : String) : Handler Unit := do
  let sessions ← onSessions (listSessionsForCallsign callsign)
  sessions.forM fun session => do
    let view :=
      if session.aircraft.callsign = callsign then session.toAircraftView
      else session.toStationView callsign
    let update ← serverEnvelope config now networkAddress correlationId
      (cpdlc session.aircraft.callsign session.aircraft.address "SERVER" callsign
        (sessionUpdate view))
    sendToStation networkAddress update

section Buckets
variable (update : SessionUpdate) (failing : KvOperation → String → Bool)

/-- A status is recorded under the address that the envelope names as its source. -/
def handleMetaMessageUnder (message : MetaMessage) (root : OpenLinkEnvelope) :
    Handler (Option StationEntry) := do
  match message, root.routing.source with
  | .stationStatus stationId status acarsEndpoint, .address _ address =>
      let updated ← attempt (onRegistry (updateStatus config.toUppercase failing now stationId
        status acarsEndpoint address))
      match updated with
      -- a status that cannot be recorded has no further effect
      | .error _ => return none
      | .ok () =>
          let _ ← attempt (
            if status = .online then
              syncSessionSnapshotsForCallsign config now address acarsEndpoint.callsign root.id
            else handleStationOffline config now acarsEndpoint.callsign root.id)
          return none
  | .stationStatus _ _ _, .server _ => return none

def handleAcarsMessageUnder (acars : AcarsEnvelope) (envelope : OpenLinkEnvelope) :
    Handler (Option StationEntry × Option CPDLCSession × OpenLinkEnvelope) := do
  match acars.message with
  | .cpdlc message =>
      let (destination, session, modifiedEnvelope) ←
        onSessions (handleCpdlcMessageUnder update config.toUppercase message acars envelope)
      return (← lookup config destination, session, modifiedEnvelope)

/-- The envelope that goes on to the destination; it names as its source what the original named
as its destination. -/
def transferred (envelope forwardEnvelope : OpenLinkEnvelope) (entry : StationEntry) :
    OpenLinkEnvelope :=
  { forwardEnvelope with
    routing := ⟨envelope.routing.destination, .address config.networkId entry.networkAddress⟩ }

def receiveAcarsUnder (acars : AcarsEnvelope) (envelope : OpenLinkEnvelope) : Handler Unit := do
  let (destination, session, forwardEnvelope) ←
    handleAcarsMessageUnder config update acars envelope
  match destination with
  | some entry =>
      sendToStation entry.networkAddress (transferred config envelope forwardEnvelope entry)
  | none => pure ()
  match session with
  | some session => broadcastSessionUpdate config now session envelope
  | none => pure ()

/-- One message of the main loop. A handler that fails ends its own branch only. -/
def receiveUnder (envelope : OpenLinkEnvelope) : Handler Unit := do
  match envelope.payload with
  | .metaMessage message => let _ ← handleMetaMessageUnder config now failing message envelope
  | .acars acars => receiveAcarsUnder config now update acars envelope

/-- The length of a presence lease, of at least one second, in nanoseconds. -/
def leaseTtl : DateTime := max config.leaseTtlSeconds 1 * 1000000000

def sweepUnder : Handler Unit := do
  let expired ← onRegistry (expireStaleOnline config.toUppercase failing now (leaseTtl config))
  expired.forM fun entry => do
    let _ ← attempt (handleStationOffline config now entry.acarsEndpoint.callsign
      s!"presence-expire-{entry.stationId}")

end Buckets

/-! The handlers over buckets that do not fail and have no other writer. -/

abbrev handleMetaMessage (message : MetaMessage) (root : OpenLinkEnvelope) :
    Handler (Option StationEntry) :=
  handleMetaMessageUnder config now noFailure message root

abbrev handleAcarsMessage (acars : AcarsEnvelope) (envelope : OpenLinkEnvelope) :
    Handler (Option StationEntry × Option CPDLCSession × OpenLinkEnvelope) :=
  handleAcarsMessageUnder config getAndUpdateSessionForAircraft acars envelope

abbrev receive (envelope : OpenLinkEnvelope) : Handler Unit :=
  receiveUnder config now getAndUpdateSessionForAircraft noFailure envelope

end Handlers

/-! Envelopes as they arrive. -/
section Arrivals
variable (config : ServerConfig)

/-- The entry that an envelope announces: the status of a station, under the address
that the envelope comes from. -/
def announced (now : DateTime) (envelope : OpenLinkEnvelope) : Option StationEntry :=
  match envelope.payload, envelope.routing.source with
  | .metaMessage (.stationStatus stationId status acarsEndpoint), .address _ address =>
      some ⟨stationId, status, now, address, acarsEndpoint⟩
  | _, _ => none

def serve (server : OpenLinkServer) (arrival : DateTime × OpenLinkEnvelope) : OpenLinkServer :=
  (runOn (receive config arrival.1 arrival.2) server).2

def announcements (arrivals : List (DateTime × OpenLinkEnvelope)) : List StationEntry :=
  arrivals.filterMap fun arrival => announced arrival.1 arrival.2

end Arrivals

def vatsimConfig : ServerConfig := ⟨"vatsim", 90, true, asciiUppercase, Nat.repr⟩

end OpenLink.Server
