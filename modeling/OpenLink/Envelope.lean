import OpenLink.Cpdlc

/-!
The envelope of every message on the network: the network addresses, the station
status message and the routing header. A message id is the text of its UUID, and
the serialized form is left out.
-/
namespace OpenLink.Envelope
open Cpdlc

abbrev NetworkId := String
abbrev NetworkAddress := String
abbrev StationId := String
abbrev Uuid := String

inductive OpenLinkRoutingEndpoint where
  | server (network : NetworkId)
  | address (network : NetworkId) (address : NetworkAddress)
  deriving DecidableEq

structure OpenLinkRouting where
  source : OpenLinkRoutingEndpoint
  destination : OpenLinkRoutingEndpoint
  deriving DecidableEq

inductive StationStatus where
  | online
  | offline
  deriving DecidableEq

inductive MetaMessage where
  | stationStatus (stationId : StationId) (status : StationStatus)
      (acarsEndpoint : AcarsRoutingEndpoint)
  deriving DecidableEq

inductive OpenLinkMessage where
  | acars (envelope : AcarsEnvelope)
  | metaMessage (message : MetaMessage)
  deriving DecidableEq

structure OpenLinkEnvelope where
  id : Uuid
  timestamp : DateTime
  correlationId : Option String
  routing : OpenLinkRouting
  payload : OpenLinkMessage
  token : String
  deriving DecidableEq

end OpenLink.Envelope
