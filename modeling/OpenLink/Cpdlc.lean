/-!
The CPDLC message types and the ACARS envelope that carries them. The wrapper
types around a string are the string itself; a `u8` or `u16` keeps its width.
An instant is its distance from the epoch, since no modelled function does more
with one than copy it or subtract it from another.
-/
namespace OpenLink.Cpdlc

abbrev AcarsEndpointCallsign := String
abbrev AcarsEndpointAddress := String
abbrev ICAOAirportCode := String
abbrev DateTime := Int

structure AcarsRoutingEndpoint where
  callsign : AcarsEndpointCallsign
  address : AcarsEndpointAddress
  deriving DecidableEq

structure FlightLevel where
  value : UInt16
  deriving DecidableEq

inductive MessageDirection where
  | uplink
  | downlink
  deriving DecidableEq

inductive ResponseAttribute where
  | N
  | Y
  | R
  | AN
  | WU
  | NE
  deriving DecidableEq

namespace ResponseAttribute

/-- The discriminant the derived order compares. -/
def discriminant : ResponseAttribute → Nat
  | .N => 0
  | .Y => 1
  | .R => 2
  | .AN => 3
  | .WU => 4
  | .NE => 5

def max (left right : ResponseAttribute) : ResponseAttribute :=
  if left.discriminant ≤ right.discriminant then right else left

/-- `NE` counts as `N`; the empty message has attribute `N`. -/
def effective (attrs : List ResponseAttribute) : ResponseAttribute :=
  (attrs.map fun attr => if attr = .NE then .N else attr).foldl max .N

end ResponseAttribute

inductive ArgType where
  | level
  | speed
  | time
  | position
  | direction
  | degrees
  | distance
  | routeClearance
  | procedureName
  | unitName
  | facilityDesignation
  | frequency
  | code
  | atisCode
  | errorInfo
  | freeText
  | verticalRate
  | altimeter
  | legType
  | positionReport
  | remainingFuel
  | personsOnBoard
  | speedType
  | departureClearance
  deriving DecidableEq

inductive CpdlcArgument where
  | level (level : FlightLevel)
  | speed (text : String)
  | time (text : String)
  | position (text : String)
  | direction (text : String)
  | degrees (degrees : UInt16)
  | distance (text : String)
  | routeClearance (text : String)
  | procedureName (text : String)
  | unitName (text : String)
  | facilityDesignation (text : String)
  | frequency (text : String)
  | code (text : String)
  | atisCode (text : String)
  | errorInfo (text : String)
  | freeText (text : String)
  | verticalRate (text : String)
  | altimeter (text : String)
  | legType (text : String)
  | positionReport (text : String)
  | remainingFuel (text : String)
  | personsOnBoard (text : String)
  | speedType (text : String)
  | departureClearance (text : String)
  deriving DecidableEq

def CpdlcArgument.argType : CpdlcArgument → ArgType
  | .level _ => .level
  | .speed _ => .speed
  | .time _ => .time
  | .position _ => .position
  | .direction _ => .direction
  | .degrees _ => .degrees
  | .distance _ => .distance
  | .routeClearance _ => .routeClearance
  | .procedureName _ => .procedureName
  | .unitName _ => .unitName
  | .facilityDesignation _ => .facilityDesignation
  | .frequency _ => .frequency
  | .code _ => .code
  | .atisCode _ => .atisCode
  | .errorInfo _ => .errorInfo
  | .freeText _ => .freeText
  | .verticalRate _ => .verticalRate
  | .altimeter _ => .altimeter
  | .legType _ => .legType
  | .positionReport _ => .positionReport
  | .remainingFuel _ => .remainingFuel
  | .personsOnBoard _ => .personsOnBoard
  | .speedType _ => .speedType
  | .departureClearance _ => .departureClearance

structure MessageElement where
  id : String
  args : List CpdlcArgument
  deriving DecidableEq

structure CpdlcApplicationMessage where
  min : UInt8
  mrn : Option UInt8
  elements : List MessageElement
  timestamp : DateTime
  deriving DecidableEq

inductive CpdlcConnectionPhase where
  | logonPending
  | loggedOn
  | connected
  | terminated
  deriving DecidableEq

structure CpdlcConnectionView where
  peer : AcarsEndpointCallsign
  phase : CpdlcConnectionPhase
  deriving DecidableEq

structure CpdlcSessionView where
  aircraft : Option AcarsEndpointCallsign
  aircraftAddress : Option AcarsEndpointAddress
  activeConnection : Option CpdlcConnectionView
  inactiveConnection : Option CpdlcConnectionView
  nextDataAuthority : Option AcarsEndpointCallsign
  deriving DecidableEq

inductive CpdlcMetaMessage where
  | logonRequest (station : AcarsEndpointCallsign)
      (flightPlanOrigin flightPlanDestination : ICAOAirportCode)
  | logonResponse (accepted : Bool)
  | connectionRequest
  | connectionResponse (accepted : Bool)
  | logonForward (flight : AcarsEndpointCallsign)
      (flightPlanOrigin flightPlanDestination : ICAOAirportCode)
      (newStation : AcarsEndpointCallsign)
  | sessionUpdate (session : CpdlcSessionView)
  deriving DecidableEq

inductive CpdlcMessageType where
  | application (message : CpdlcApplicationMessage)
  | metaMessage (message : CpdlcMetaMessage)
  deriving DecidableEq

structure CpdlcEnvelope where
  source : AcarsEndpointCallsign
  destination : AcarsEndpointCallsign
  message : CpdlcMessageType
  deriving DecidableEq

structure AcarsRouting where
  aircraft : AcarsRoutingEndpoint
  deriving DecidableEq

inductive AcarsMessage where
  | cpdlc (envelope : CpdlcEnvelope)
  deriving DecidableEq

structure AcarsEnvelope where
  routing : AcarsRouting
  message : AcarsMessage
  deriving DecidableEq

end OpenLink.Cpdlc
