import OpenLink.HoppieSession
import OpenLink.TsTypes

/-!
The message builders of the TypeScript SDK. All of them share one table of MIN
sequences, which is the state here; the clock is an argument, and so are the
parameters that have a default.
-/
namespace OpenLink.TsEnvelope
open Cpdlc HoppieSession TsTypes

abbrev Sequences := HashMap String Nat

def sessionKey (sender receiver : String) : String := sender ++ ">" ++ receiver

def nextMinAt (minSequences : Sequences) (key : String) : Nat × Sequences :=
  let current := (minSequences key).getD 1
  let normalized := if 0 < current ∧ current ≤ 63 then current else 1
  let next := if 63 ≤ normalized then 1 else normalized + 1
  (normalized, Function.update minSequences key (some next))

def nextMinForSession (minSequences : Sequences) (sender receiver : String) : Nat × Sequences :=
  nextMinAt minSequences (sessionKey sender receiver)

def resetMinForSession (minSequences : Sequences) (sender receiver : String) : Sequences :=
  Function.update minSequences (sessionKey sender receiver) (some 1)

def buildCpdlcMessage (aircraftCallsign acarsAddress source destination : String)
    (message : TsCpdlcMessage) : TsMessage :=
  .acars ⟨aircraftCallsign, acarsAddress⟩ ⟨source, destination, message⟩

def logicalAckDownlinkId : String := "DM100"

def logicalAckUplinkId : String := "UM227"

def logicalAckElementIdForSender (isAircraftSender : Bool) : String :=
  if isAircraftSender then logicalAckDownlinkId else logicalAckUplinkId

section Builders
variable (minSequences : Sequences)

def buildLogonRequest (aircraftCallsign acarsAddress targetStation origin destination : String) :
    TsMessage × Sequences :=
  (buildCpdlcMessage aircraftCallsign acarsAddress aircraftCallsign targetStation
      (.metaMessage (.logonRequest targetStation origin destination)),
    resetMinForSession minSequences aircraftCallsign targetStation)

def buildLogonResponse (atcCallsign aircraftCallsign acarsAddress : String) (accepted : Bool) :
    TsMessage × Sequences :=
  (buildCpdlcMessage aircraftCallsign acarsAddress atcCallsign aircraftCallsign
      (.metaMessage (.logonResponse accepted)),
    if accepted then resetMinForSession minSequences atcCallsign aircraftCallsign
    else minSequences)

def buildConnectionRequest (atcCallsign aircraftCallsign acarsAddress : String) :
    TsMessage × Sequences :=
  (buildCpdlcMessage aircraftCallsign acarsAddress atcCallsign aircraftCallsign
      (.metaMessage .connectionRequest),
    resetMinForSession minSequences atcCallsign aircraftCallsign)

def buildConnectionResponse (aircraftCallsign acarsAddress atcCallsign : String)
    (accepted : Bool) : TsMessage :=
  buildCpdlcMessage aircraftCallsign acarsAddress aircraftCallsign atcCallsign
    (.metaMessage (.connectionResponse accepted))

def buildLogonForward (atcCallsign aircraftCallsign acarsAddress newStation origin
    destination : String) : TsMessage :=
  buildCpdlcMessage aircraftCallsign acarsAddress atcCallsign newStation
    (.metaMessage (.logonForward aircraftCallsign origin destination newStation))

variable (now : DateTime)

/-- The application message that every other builder ends in, under the next MIN of its
sender and receiver. -/
def buildApplication (aircraftCallsign acarsAddress sender receiver : String)
    (elements : List TsElement) (mrn : Option Nat) : TsMessage × Sequences :=
  let (min, minSequences) := nextMinForSession minSequences sender receiver
  (buildCpdlcMessage aircraftCallsign acarsAddress sender receiver
    (.application ⟨min, mrn, elements, now⟩), minSequences)

def buildApplicationResponse (aircraftCallsign acarsAddress atcStation downlinkId : String)
    (mrn : Option Nat) : TsMessage × Sequences :=
  buildApplication minSequences now aircraftCallsign acarsAddress aircraftCallsign atcStation
    [⟨downlinkId, []⟩] mrn

def buildApplicationDownlink (aircraftCallsign acarsAddress atcStation : String)
    (elements : List TsElement) (mrn : Option Nat) : TsMessage × Sequences :=
  buildApplication minSequences now aircraftCallsign acarsAddress aircraftCallsign atcStation
    elements mrn

def buildLogicalAck (aircraftCallsign acarsAddress atcStation : String) (referencedMin : Nat) :
    TsMessage × Sequences :=
  buildApplication minSequences now aircraftCallsign acarsAddress aircraftCallsign atcStation
    [⟨logicalAckDownlinkId, []⟩] (some referencedMin)

def buildLogicalAckForSender (aircraftCallsign acarsAddress senderCallsign
    receiverCallsign : String) (referencedMin : Nat) (isAircraftSender : Bool) :
    TsMessage × Sequences :=
  buildApplication minSequences now aircraftCallsign acarsAddress senderCallsign receiverCallsign
    [⟨logicalAckElementIdForSender isAircraftSender, []⟩] (some referencedMin)

def buildNextDataAuthority (atcCallsign aircraftCallsign acarsAddress ndaCallsign : String) :
    TsMessage × Sequences :=
  buildApplication minSequences now aircraftCallsign acarsAddress atcCallsign aircraftCallsign
    [⟨"UM160", [⟨"FacilityDesignation", .text ndaCallsign⟩]⟩] none

def buildContactRequest (atcCallsign aircraftCallsign acarsAddress nextStation
    frequency : String) : TsMessage × Sequences :=
  buildApplication minSequences now aircraftCallsign acarsAddress atcCallsign aircraftCallsign
    [⟨"UM117", [⟨"UnitName", .text nextStation⟩, ⟨"Frequency", .text frequency⟩]⟩] none

def buildEndService (atcCallsign aircraftCallsign acarsAddress : String) :
    TsMessage × Sequences :=
  buildApplication minSequences now aircraftCallsign acarsAddress atcCallsign aircraftCallsign
    [⟨"UM161", []⟩] none

def buildStationApplication (stationCallsign aircraftCallsign acarsAddress : String)
    (elements : List TsElement) (mrn : Option Nat) : TsMessage × Sequences :=
  buildApplication minSequences now aircraftCallsign acarsAddress stationCallsign
    aircraftCallsign elements mrn

def buildAircraftApplication (aircraftCallsign acarsAddress stationCallsign : String)
    (elements : List TsElement) (mrn : Option Nat) : TsMessage × Sequences :=
  buildApplication minSequences now aircraftCallsign acarsAddress aircraftCallsign
    stationCallsign elements mrn

end Builders

end OpenLink.TsEnvelope
