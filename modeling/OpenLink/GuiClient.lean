import OpenLink.SdkClient
import Mathlib.Data.List.AList

/-!
The demonstrator GUI of one participant: what an incoming message makes of its tab.
The list of messages that the tab displays is left out; nothing else is read from
it. A hash map is an association list here, and its order is never used.
-/
namespace OpenLink.GuiClient
open Cpdlc Envelope MessageBuilder SdkClient

inductive StationType where
  | aircraft
  | atc
  deriving DecidableEq

structure SetupFields where
  callsign : String
  acarsAddress : String
  stationType : StationType

structure TabState where
  setup : SetupFields
  session : Option CpdlcSessionView
  selectedFlightIdx : Option Nat
  atcSessions : AList fun _ : String => CpdlcSessionView

def TabState.new (setup : SetupFields) : TabState := ⟨setup, none, none, ∅⟩

def flightKey (session : CpdlcSessionView) : Option String :=
  (session.aircraft.or (session.activeConnection.map CpdlcConnectionView.peer)).or
    (session.inactiveConnection.map CpdlcConnectionView.peer)

/-- The reconciliation of the flights of an ATC tab with one session update. -/
def reconcile (session : CpdlcSessionView) (atcSessions : AList fun _ : String => CpdlcSessionView) :
    AList fun _ : String => CpdlcSessionView :=
  match flightKey session with
  | none => atcSessions
  | some key =>
      if session.activeConnection.isNone && session.inactiveConnection.isNone then
        atcSessions.erase key
      else atcSessions.insert key session

def handleSessionUpdate (session : CpdlcSessionView) (tab : TabState) : TabState :=
  let tab := { tab with session := some session }
  if tab.setup.stationType = .atc then
    let atcSessions := reconcile session tab.atcSessions
    -- a selection beyond the remaining flights is dropped
    let selectedFlightIdx :=
      tab.selectedFlightIdx.filter fun idx => idx < atcSessions.entries.length
    { tab with atcSessions := atcSessions, selectedFlightIdx := selectedFlightIdx }
  else tab

variable (client : OpenLinkClient) (setup : SetupFields)

def handleIncomingMeta (message : CpdlcMetaMessage) (cpdlc : CpdlcEnvelope)
    (aircraftAddress : AcarsEndpointAddress) (tab : TabState) : TabState × List OpenLinkMessage :=
  match message with
  -- an aircraft accepts connection requests automatically
  | .connectionRequest =>
      if tab.setup.stationType = .aircraft then
        (tab, [OpenLinkClient.cpdlcConnectionResponse setup.callsign setup.acarsAddress cpdlc.source
          true])
      else (tab, [])
  | .logonResponse _ => (tab, [])
  | .logonRequest _ _ _ => (tab, [])
  | .connectionResponse _ => (tab, [])
  -- a station answers a forwarded logon with a connection request
  | .logonForward flight _ _ _ =>
      if tab.setup.stationType = .atc then
        (tab, [(client.cpdlcConnectionRequest setup.callsign flight aircraftAddress).1])
      else (tab, [])
  | .sessionUpdate session => (handleSessionUpdate session tab, [])

/-- The client after an incoming meta message: only a connection request sets a MIN back. -/
def clientAfterMeta (message : CpdlcMetaMessage) (aircraftAddress : AcarsEndpointAddress)
    (tab : TabState) : OpenLinkClient :=
  match message with
  | .logonForward flight _ _ _ =>
      if tab.setup.stationType = .atc then
        (client.cpdlcConnectionRequest setup.callsign flight aircraftAddress).2
      else client
  | _ => client

def handleIncoming (tab : TabState) (payload : OpenLinkMessage) : TabState :=
  match payload with
  | .acars ⟨routing, .cpdlc ⟨source, destination, .metaMessage message⟩⟩ =>
      (handleIncomingMeta client setup message ⟨source, destination, .metaMessage message⟩
        routing.aircraft.address tab).1
  | .acars ⟨_, .cpdlc ⟨_, _, .application _⟩⟩ => tab
  | .metaMessage _ => tab

/-! The replies to an application message: an acknowledgement, and an aircraft logs on to every
station that it is told to contact. -/
section Application

/-- A logical acknowledgement is not acknowledged, which would go on forever. -/
def autoLogicalAck (now : DateTime) (app : CpdlcApplicationMessage) (cpdlc : CpdlcEnvelope)
    (aircraftAddress : AcarsEndpointAddress) (isAircraft : Bool) :
    List OpenLinkMessage × OpenLinkClient :=
  if CpdlcRuntime.shouldAutoSendLogicalAck app.elements app.min &&
      cpdlc.source != setup.callsign then
    let aircraftCallsign := if isAircraft then setup.callsign else cpdlc.source
    let (ack, client) := client.cpdlcLogicalAck now setup.callsign cpdlc.source aircraftCallsign
      aircraftAddress app.min
    ([ack], client)
  else ([], client)

/-- The unit that an element names, or else the station it comes from. -/
def contactStation (cpdlc : CpdlcEnvelope) (element : MessageElement) : String :=
  (element.args.findSome? fun arg =>
    match arg with
    | .unitName unit => some unit
    | _ => none).getD cpdlc.source

def autoLogons (cpdlc : CpdlcEnvelope) (client : OpenLinkClient) :
    List MessageElement → List OpenLinkMessage × OpenLinkClient
  | [] => ([], client)
  | element :: rest =>
      if element.id = "UM117" then
        let (message, client) := client.cpdlcLogonRequest setup.callsign setup.acarsAddress
          (contactStation cpdlc element)
        let (messages, client) := autoLogons cpdlc client rest
        (message :: messages, client)
      else autoLogons cpdlc client rest

def handleIncomingApplication (now : DateTime) (app : CpdlcApplicationMessage)
    (cpdlc : CpdlcEnvelope) (aircraftAddress : AcarsEndpointAddress) (tab : TabState) :
    List OpenLinkMessage × OpenLinkClient :=
  let isAircraft := tab.setup.stationType == .aircraft
  let (acks, client) := autoLogicalAck client setup now app cpdlc aircraftAddress isAircraft
  if isAircraft then
    let (logons, client) := autoLogons setup cpdlc client app.elements
    (acks ++ logons, client)
  else (acks, client)

end Application

/-! The flights of the tab. -/
section Flights

def isSessionUpdate : OpenLinkMessage → Bool
  | .acars ⟨_, .cpdlc ⟨_, _, .metaMessage (.sessionUpdate _)⟩⟩ => true
  | _ => false

def flights (tab : TabState) (callsign : String) : Option CpdlcSessionView :=
  tab.atcSessions.lookup callsign

theorem incoming_setup (tab : TabState) (payload : OpenLinkMessage) :
    (handleIncoming client setup tab payload).setup = tab.setup := by
  unfold handleIncoming
  split
  · next message =>
      cases message <;> simp only [handleIncomingMeta, handleSessionUpdate] <;> split_ifs <;> rfl
  · rfl
  · rfl

theorem incoming_other (tab : TabState) (payload : OpenLinkMessage)
    (other : isSessionUpdate payload = false) :
    handleIncoming client setup tab payload = tab := by
  unfold handleIncoming
  split
  · next message =>
      cases message with
      | sessionUpdate session => cases other
      | logonRequest station origin arrival => rfl
      | logonResponse accepted => rfl
      | connectionRequest => simp only [handleIncomingMeta]; split <;> rfl
      | connectionResponse accepted => rfl
      | logonForward flight origin arrival station =>
          simp only [handleIncomingMeta]
          split <;> rfl
  · rfl
  · rfl

/-- An update that names its aircraft sets the flight of that callsign, and deletes
it where neither connection is left. -/
theorem reconciled_flights (view : CpdlcSessionView) (callsign : AcarsEndpointCallsign)
    (named : view.aircraft = some callsign)
    (atcSessions : AList fun _ : String => CpdlcSessionView) :
    (fun key => (reconcile view atcSessions).lookup key) =
      Function.update (fun key => atcSessions.lookup key) callsign
        (if view.activeConnection.isNone && view.inactiveConnection.isNone then none
        else some view) := by
  funext key
  simp only [reconcile, flightKey, named, Option.some_or]
  by_cases own : key = callsign
  · subst own
    rw [Function.update_self]
    split <;> simp
  · rw [Function.update_of_ne own]
    split <;> simp [own]

theorem updated_flights (tab : TabState) (atc : tab.setup.stationType = .atc)
    (view : CpdlcSessionView) (callsign : AcarsEndpointCallsign)
    (named : view.aircraft = some callsign) :
    flights (handleSessionUpdate view tab) = Function.update (flights tab) callsign
      (if view.activeConnection.isNone && view.inactiveConnection.isNone then none
      else some view) := by
  have same : (handleSessionUpdate view tab).atcSessions = reconcile view tab.atcSessions := by
    simp [handleSessionUpdate, atc]
  funext key
  rw [flights, same]
  exact congrFun (reconciled_flights view callsign named tab.atcSessions) key

end Flights

end OpenLink.GuiClient
