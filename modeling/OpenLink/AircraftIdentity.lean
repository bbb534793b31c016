import OpenLink.MainLoop

/-!
Whose session a message works on. A session is stored under the address of its
aircraft and keeps the endpoint it was opened with, so a later flight of the same
address goes on with the session of the first.
-/
namespace OpenLink.AircraftIdentity
open Actions Cpdlc CpdlcServer Envelope HandlerEffects Kv MainLoop MessageBuilder Publications
  Registry Runs Server Session

variable (config : ServerConfig)

def accepts (server : OpenLinkServer) : Event → Option (AcarsRoutingEndpoint × CPDLCSession)
  | .arrives _ envelope =>
      match envelope.payload with
      | .acars ⟨routing, .cpdlc message⟩ =>
          match (runOn (handleCpdlcMessage config.toUppercase message ⟨routing, .cpdlc message⟩
              envelope) server.sessions).1 with
          | .ok (_, some session, _) => some (routing.aircraft, session)
          | .ok (_, none, _) => none
          | .error _ => none
      | .metaMessage _ => none
  | .presenceTick _ => none

/-- The aircraft that an event can open a session for, at this address. -/
def opens (id : String) (server : OpenLinkServer) (event : Event) : Option AcarsRoutingEndpoint :=
  (accepts config server event).bind fun result =>
    if sessionId result.1 = id then some result.1 else none

end OpenLink.AircraftIdentity
