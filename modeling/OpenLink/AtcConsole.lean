import OpenLink.GuiClient
import Mathlib.Data.String.Basic

/-!
The console of a controller: the list of his flights, in which one is selected by its
position, and the composer, which locks onto the aircraft of the request that it replies
to. The order of the hash map of sessions shows only where two sessions name one aircraft.
-/
namespace OpenLink.AtcConsole
open Cpdlc Envelope GuiClient SdkClient

structure AtcLinkedFlight where
  callsign : String
  aircraftCallsign : String
  aircraftAddress : AcarsEndpointAddress
  phase : CpdlcConnectionPhase
  deriving DecidableEq

def linkedPhase (session : CpdlcSessionView) : CpdlcConnectionPhase :=
  ((session.activeConnection.map CpdlcConnectionView.phase).or
    (session.inactiveConnection.map CpdlcConnectionView.phase)).getD .terminated

/-- A session is a flight once its aircraft has a callsign and an address. -/
def linkedFlight (session : CpdlcSessionView) : Option AtcLinkedFlight := do
  let callsign ← session.aircraft
  let aircraftAddress ← session.aircraftAddress
  return ⟨callsign, callsign, aircraftAddress, linkedPhase session⟩

def linkedFlights (tab : TabState) : List AtcLinkedFlight :=
  ((tab.atcSessions.entries.map Sigma.snd).filterMap linkedFlight).mergeSort
    fun first second => decide (first.callsign ≤ second.callsign)

def selectedFlight (tab : TabState) : Option AtcLinkedFlight :=
  tab.selectedFlightIdx.bind fun idx => (linkedFlights tab)[idx]?

def clickRow (idx : Nat) (tab : TabState) : TabState :=
  { tab with
    selectedFlightIdx := if tab.selectedFlightIdx = some idx then none else some idx }

/-! The composer. -/
section Composer

structure Console where
  tab : TabState
  composeElements : List MessageElement
  composeMrn : Option UInt8
  composeTargetCallsign : Option String

/-- The aircraft that the reply is locked onto, or else the selected flight. -/
def composeFlight (console : Console) : Option AtcLinkedFlight :=
  (console.composeTargetCallsign.bind fun callsign =>
    (linkedFlights console.tab).find? fun flight => flight.aircraftCallsign = callsign).or
      (selectedFlight console.tab)

def canCompose (console : Console) : Option AtcLinkedFlight :=
  (composeFlight console).filter fun flight => flight.phase = .connected

variable (client : OpenLinkClient) (now : DateTime) (callsign : String)

def sendComposedMessage (flight : AtcLinkedFlight) (elements : List MessageElement)
    (mrn : Option UInt8) (console : Console) : Option OpenLinkMessage × Console :=
  if elements.isEmpty then (none, console)
  else
    (some (client.cpdlcStationApplication now callsign flight.aircraftCallsign
        flight.aircraftAddress elements mrn).1,
      { console with
        composeElements := []
        composeMrn := none
        composeTargetCallsign := none })

/-- Either button of the composer: what is composed so far is sent, or that with the element of
the command that is being edited, if it is complete. -/
def send (element : Option MessageElement) (console : Console) : Option OpenLinkMessage × Console :=
  match canCompose console with
  | none => (none, console)
  | some flight => sendComposedMessage client now callsign flight
      (console.composeElements ++ element.toList) console.composeMrn console

inductive ConsoleEvent where
  | sessionUpdate (session : CpdlcSessionView)
  | clickRow (idx : Nat)
  | addElement (element : MessageElement)

def consoleStep (console : Console) : ConsoleEvent → Console
  | .sessionUpdate session => { console with tab := handleSessionUpdate session console.tab }
  | .clickRow idx => { console with tab := AtcConsole.clickRow idx console.tab }
  | .addElement element =>
      { console with composeElements := console.composeElements ++ [element] }

end Composer

end OpenLink.AtcConsole
