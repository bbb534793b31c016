import OpenLink.Envelope

/-!
The message builders. A builder collects its fields call by call and panics when
a required one is missing; every caller sets them all, so each builder is one
function here, in the order of the calls. The random id and the clock are
arguments.
-/
namespace OpenLink.MessageBuilder
open Cpdlc Envelope

/-- `MessageBuilder::cpdlc(..).from(..).to(..)` with its message, built. -/
def cpdlc (aircraftCallsign : String) (aircraftAddress : String) (source destination : String)
    (message : CpdlcMessageType) : OpenLinkMessage :=
  .acars ⟨⟨⟨aircraftCallsign, aircraftAddress⟩⟩, .cpdlc ⟨source, destination, message⟩⟩

def logonRequest (station origin destination : String) : CpdlcMessageType :=
  .metaMessage (.logonRequest station origin destination)

def logonResponse (accepted : Bool) : CpdlcMessageType := .metaMessage (.logonResponse accepted)

def connectionRequest : CpdlcMessageType := .metaMessage .connectionRequest

def connectionResponse (accepted : Bool) : CpdlcMessageType :=
  .metaMessage (.connectionResponse accepted)

def logonForward (flight origin destination newStation : String) : CpdlcMessageType :=
  .metaMessage (.logonForward flight origin destination newStation)

def sessionUpdate (session : CpdlcSessionView) : CpdlcMessageType :=
  .metaMessage (.sessionUpdate session)

def applicationMessageWithMinAndMrn (now : DateTime) (elements : List MessageElement)
    (min : UInt8) (mrn : Option UInt8) : CpdlcMessageType :=
  .application ⟨min, mrn, elements, now⟩

/-- The address of the next data authority is not used. -/
def nextDataAuthorityWithMin (now : DateTime) (ndaCallsign _ndaAddress : String) (min : UInt8) :
    CpdlcMessageType :=
  .application ⟨min, none, [⟨"UM160", [.facilityDesignation ndaCallsign]⟩], now⟩

def contactRequestWithMin (now : DateTime) (station : String) (min : UInt8) : CpdlcMessageType :=
  .application ⟨min, none, [⟨"UM117", [.unitName station, .frequency "UNKNOWN"]⟩], now⟩

def endServiceWithMin (now : DateTime) (min : UInt8) : CpdlcMessageType :=
  .application ⟨min, none, [⟨"UM161", []⟩], now⟩

def endService (now : DateTime) : CpdlcMessageType := endServiceWithMin now 0

/-! The compatibility helpers, which leave the MIN at zero. -/

def applicationMessage (now : DateTime) (elements : List MessageElement) : CpdlcMessageType :=
  applicationMessageWithMinAndMrn now elements 0 none

def applicationMessageWithMrn (now : DateTime) (elements : List MessageElement)
    (mrn : Option UInt8) : CpdlcMessageType :=
  applicationMessageWithMinAndMrn now elements 0 mrn

def uplink (now : DateTime) (id : String) (args : List CpdlcArgument) : CpdlcMessageType :=
  applicationMessage now [⟨id, args⟩]

def downlink (now : DateTime) (id : String) (args : List CpdlcArgument) : CpdlcMessageType :=
  applicationMessage now [⟨id, args⟩]

def climbTo (now : DateTime) (level : FlightLevel) : CpdlcMessageType :=
  uplink now "UM20" [.level level]

def requestLevel (now : DateTime) (level : FlightLevel) : CpdlcMessageType :=
  downlink now "DM6" [.level level]

/-- `MessageBuilder::station_status(..)` with its status, built. -/
def stationStatus (networkAddress callsign acarsAddress : String) (status : StationStatus) :
    OpenLinkMessage :=
  .metaMessage (.stationStatus networkAddress status ⟨callsign, acarsAddress⟩)

/-- `MessageBuilder::envelope(..)` with both endpoints, built; the token stays empty. -/
def envelope (id : Uuid) (now : DateTime) (source destination : OpenLinkRoutingEndpoint)
    (correlationId : Option String) (payload : OpenLinkMessage) : OpenLinkEnvelope where
  id := id
  timestamp := now
  correlationId := correlationId
  routing := ⟨source, destination⟩
  payload := payload
  token := ""

end OpenLink.MessageBuilder
