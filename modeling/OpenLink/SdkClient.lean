import OpenLink.CpdlcRuntime
import OpenLink.HoppieSession
import OpenLink.MessageBuilder

/-!
The client of one participant: the MIN sequence of each pair of callsigns, and
the messages it builds. A message that needs a MIN takes the next one of its
sender and receiver; some requests and responses set a sequence back to its start.
-/
namespace OpenLink.SdkClient
open Cpdlc CpdlcRuntime Envelope HoppieSession MessageBuilder

structure OpenLinkClient where
  network : NetworkId
  cid : NetworkAddress
  minSequences : HashMap String UInt8

namespace OpenLinkClient

def sequenceKey (senderCallsign receiverCallsign : String) : String :=
  senderCallsign ++ ">" ++ receiverCallsign

/-- The stored value is the next MIN; one out of range counts as the first. -/
def nextMinAt (client : OpenLinkClient) (key : String) : UInt8 × OpenLinkClient :=
  let entry := (client.minSequences key).getD 1
  let current := if entry = 0 ∨ 63 < entry then 1 else entry
  let next := if 63 ≤ current then 1 else current + 1
  (current, { client with
    minSequences := Function.update client.minSequences key (some next) })

def nextMinForSession (client : OpenLinkClient) (senderCallsign receiverCallsign : String) :
    UInt8 × OpenLinkClient :=
  client.nextMinAt (sequenceKey senderCallsign receiverCallsign)

def resetMinForSession (client : OpenLinkClient) (senderCallsign receiverCallsign : String) :
    OpenLinkClient :=
  { client with
    minSequences :=
      Function.update client.minSequences (sequenceKey senderCallsign receiverCallsign) (some 1) }

/-- The envelope that `send_to_server` publishes on the outbox. -/
def toServer (client : OpenLinkClient) (id : Uuid) (now : DateTime) (message : OpenLinkMessage) :
    OpenLinkEnvelope :=
  envelope id now (.address client.network client.cid) (.server client.network) none message

def cpdlcLogonRequest (client : OpenLinkClient) (aircraftCallsign aircraftAddress
    targetStation : String) : OpenLinkMessage × OpenLinkClient :=
  (cpdlc aircraftCallsign aircraftAddress aircraftCallsign targetStation
      (logonRequest targetStation "ZZZZ" "ZZZZ"),
    client.resetMinForSession aircraftCallsign targetStation)

def cpdlcLogonResponse (client : OpenLinkClient) (atcCallsign aircraftCallsign
    aircraftAddress : String) (accepted : Bool) : OpenLinkMessage × OpenLinkClient :=
  (cpdlc aircraftCallsign aircraftAddress atcCallsign aircraftCallsign (logonResponse accepted),
    if accepted then client.resetMinForSession atcCallsign aircraftCallsign else client)

def cpdlcConnectionRequest (client : OpenLinkClient) (atcCallsign aircraftCallsign
    aircraftAddress : String) : OpenLinkMessage × OpenLinkClient :=
  (cpdlc aircraftCallsign aircraftAddress atcCallsign aircraftCallsign connectionRequest,
    client.resetMinForSession atcCallsign aircraftCallsign)

def cpdlcConnectionResponse (aircraftCallsign aircraftAddress atcCallsign : String)
    (accepted : Bool) : OpenLinkMessage :=
  cpdlc aircraftCallsign aircraftAddress aircraftCallsign atcCallsign (connectionResponse accepted)

def cpdlcLogonForward (atcCallsign aircraftCallsign aircraftAddress newStation : String) :
    OpenLinkMessage :=
  cpdlc aircraftCallsign aircraftAddress atcCallsign newStation
    (logonForward aircraftCallsign "ZZZZ" "ZZZZ" newStation)

/-! The messages that carry a MIN. -/
section Numbered
variable (client : OpenLinkClient) (now : DateTime)

def cpdlcNextDataAuthority (atcCallsign aircraftCallsign aircraftAddress ndaCallsign : String) :
    OpenLinkMessage × OpenLinkClient :=
  let (min, client) := client.nextMinForSession atcCallsign aircraftCallsign
  (cpdlc aircraftCallsign aircraftAddress atcCallsign aircraftCallsign
    (nextDataAuthorityWithMin now ndaCallsign "" min), client)

def cpdlcContactRequest (atcCallsign aircraftCallsign aircraftAddress nextStation : String) :
    OpenLinkMessage × OpenLinkClient :=
  let (min, client) := client.nextMinForSession atcCallsign aircraftCallsign
  (cpdlc aircraftCallsign aircraftAddress atcCallsign aircraftCallsign
    (contactRequestWithMin now nextStation min), client)

def cpdlcEndService (atcCallsign aircraftCallsign aircraftAddress : String) :
    OpenLinkMessage × OpenLinkClient :=
  let (min, client) := client.nextMinForSession atcCallsign aircraftCallsign
  (cpdlc aircraftCallsign aircraftAddress atcCallsign aircraftCallsign
    (endServiceWithMin now min), client)

def cpdlcStationApplication (stationCallsign aircraftCallsign aircraftAddress : String)
    (elements : List MessageElement) (mrn : Option UInt8) : OpenLinkMessage × OpenLinkClient :=
  let (min, client) := client.nextMinForSession stationCallsign aircraftCallsign
  (cpdlc aircraftCallsign aircraftAddress stationCallsign aircraftCallsign
    (applicationMessageWithMinAndMrn now elements min mrn), client)

def cpdlcAircraftApplication (aircraftCallsign aircraftAddress stationCallsign : String)
    (elements : List MessageElement) (mrn : Option UInt8) : OpenLinkMessage × OpenLinkClient :=
  let (min, client) := client.nextMinForSession aircraftCallsign stationCallsign
  (cpdlc aircraftCallsign aircraftAddress aircraftCallsign stationCallsign
    (applicationMessageWithMinAndMrn now elements min mrn), client)

def cpdlcLogicalAck (senderCallsign receiverCallsign aircraftCallsign aircraftAddress : String)
    (mrn : UInt8) : OpenLinkMessage × OpenLinkClient :=
  let ackId :=
    if senderCallsign = aircraftCallsign then logicalAckDownlinkId else logicalAckUplinkId
  let (min, client) := client.nextMinForSession senderCallsign receiverCallsign
  (cpdlc aircraftCallsign aircraftAddress senderCallsign receiverCallsign
    (applicationMessageWithMinAndMrn now [⟨ackId, []⟩] min (some mrn)), client)

end Numbered

end OpenLinkClient

end OpenLink.SdkClient
