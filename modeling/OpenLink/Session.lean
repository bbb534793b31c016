import OpenLink.MessageRegistry

/-!
The per-aircraft CPDLC session of the server and the functions that update it.
A method on `&mut self` returns the session it leaves behind; one that can fail
returns `Except`, and the caller drops the half-updated session on an error.
Logging is left out. `toUppercase` stands for the full Unicode mapping of the
standard library, of which only idempotence is ever used.
-/
namespace OpenLink.Session
open Cpdlc MessageRegistry

structure CPDLCConnection where
  station : AcarsRoutingEndpoint
  logon : Bool
  connection : Bool
  deriving DecidableEq

structure CPDLCSession where
  aircraft : AcarsRoutingEndpoint
  activeConnection : Option CPDLCConnection
  inactiveConnection : Option CPDLCConnection
  nextDataAuthority : Option AcarsRoutingEndpoint
  deriving DecidableEq

/-- The session key: `CPDLCSessionId::from` an aircraft endpoint. -/
def sessionId (endpoint : AcarsRoutingEndpoint) : String := endpoint.address

namespace CPDLCConnection

def new (station : AcarsRoutingEndpoint) : CPDLCConnection := ⟨station, false, false⟩

/-- The method `logon`; the field of that name is the flag it sets. -/
def logOn (conn : CPDLCConnection) : CPDLCConnection := { conn with logon := true }

def connect (conn : CPDLCConnection) : Except String CPDLCConnection :=
  if conn.logon then .ok { conn with connection := true }
  else .error "cannot connect without prior logon"

def readyExchange (conn : CPDLCConnection) : Bool := conn.logon && conn.connection

def phase (conn : CPDLCConnection) : CpdlcConnectionPhase :=
  if conn.connection then .connected
  else if conn.logon then .loggedOn
  else .logonPending

def toView (conn : CPDLCConnection) (peer : AcarsEndpointCallsign) : CpdlcConnectionView :=
  ⟨peer, conn.phase⟩

end CPDLCConnection

def heldBy (slot : Option CPDLCConnection) (station : AcarsEndpointCallsign) : Bool :=
  slot.any fun conn => conn.station.callsign == station

namespace CPDLCSession

def new (aircraft : AcarsRoutingEndpoint) : CPDLCSession := ⟨aircraft, none, none, none⟩

def logonRequest (session : CPDLCSession) (station : AcarsRoutingEndpoint) : CPDLCSession :=
  if session.activeConnection.isNone then
    { session with activeConnection := some (.new station) }
  -- in place of whatever the slot holds
  else { session with inactiveConnection := some (.new station) }

def logonAccepted (session : CPDLCSession) (station : AcarsEndpointCallsign) : CPDLCSession :=
  if heldBy session.activeConnection station then
    { session with activeConnection := session.activeConnection.map .logOn }
  else if heldBy session.inactiveConnection station then
    { session with inactiveConnection := session.inactiveConnection.map .logOn }
  else session

def connectionRequest (session : CPDLCSession) (station : AcarsEndpointCallsign) : CPDLCSession :=
  if heldBy session.activeConnection station then session
  else if heldBy session.inactiveConnection station then session
  else if session.nextDataAuthority.any fun nda => nda.callsign == station then
    -- NDA-based implicit logon
    let ndaConnection := (CPDLCConnection.new ⟨station, ""⟩).logOn
    if session.activeConnection.isNone then
      { session with activeConnection := some ndaConnection }
    else { session with inactiveConnection := some ndaConnection }
  else session

def connectionAccepted (session : CPDLCSession) (station : AcarsEndpointCallsign) :
    Except String CPDLCSession :=
  if heldBy session.activeConnection station then do
    let conn ← session.activeConnection.mapM CPDLCConnection.connect
    return { session with activeConnection := conn }
  else if heldBy session.inactiveConnection station then do
    let conn ← session.inactiveConnection.mapM CPDLCConnection.connect
    return { session with inactiveConnection := conn }
  else return session

/-- The method `next_data_authority`; the field of that name is what it sets. -/
def designate (session : CPDLCSession) (station : AcarsRoutingEndpoint) : CPDLCSession :=
  { session with nextDataAuthority := some station }

def terminationRequest (session : CPDLCSession) (station : AcarsEndpointCallsign) : CPDLCSession :=
  if heldBy session.activeConnection station then
    { session with
      activeConnection := session.inactiveConnection
      inactiveConnection := none }
  else if heldBy session.inactiveConnection station then
    { session with inactiveConnection := none }
  else session

def toAircraftView (session : CPDLCSession) : CpdlcSessionView where
  aircraft := some session.aircraft.callsign
  aircraftAddress := some session.aircraft.address
  activeConnection := session.activeConnection.map fun conn => conn.toView conn.station.callsign
  inactiveConnection := session.inactiveConnection.map fun conn => conn.toView conn.station.callsign
  nextDataAuthority := session.nextDataAuthority.map AcarsRoutingEndpoint.callsign

def toStationView (session : CPDLCSession) (station : AcarsEndpointCallsign) : CpdlcSessionView :=
  let connToView (conn : CPDLCConnection) : Option CpdlcConnectionView :=
    if conn.station.callsign = station then some (conn.toView session.aircraft.callsign) else none
  { aircraft := some session.aircraft.callsign
    aircraftAddress := some session.aircraft.address
    activeConnection := session.activeConnection.bind connToView
    inactiveConnection := session.inactiveConnection.bind connToView
    nextDataAuthority := session.nextDataAuthority.map AcarsRoutingEndpoint.callsign }

end CPDLCSession

/-! The update functions that the handlers pass to the read-modify-write of the
stored session. `none` stands for an aircraft without a stored session. -/
section Updates
variable (toUppercase : String → String)

def normalizeArgument (definition : MessageDefinition) (index : Nat) (argument : CpdlcArgument) :
    CpdlcArgument :=
  match definition.args[index]?, argument with
  | some .freeText, .freeText text => .freeText (toUppercase text)
  | _, argument => argument

def normalizeElement (element : MessageElement) : MessageElement :=
  match findDefinition element.id with
  | some definition =>
      { element with args := element.args.mapIdx (normalizeArgument toUppercase definition) }
  | none => element

def normalizeMessage (msg : CpdlcApplicationMessage) : CpdlcApplicationMessage :=
  { msg with elements := msg.elements.map (normalizeElement toUppercase) }

def applyElement (source : AcarsEndpointCallsign) (session : CPDLCSession)
    (element : MessageElement) : CPDLCSession :=
  -- UM160 NEXT DATA AUTHORITY [facility designation]
  if element.id = "UM160" then
    match element.args.head? with
    | some (.facilityDesignation facility) => session.designate ⟨facility, ""⟩
    | _ => session
  -- UM161 END SERVICE
  else if element.id = "UM161" then session.terminationRequest source
  else session

def minInRange (min : UInt8) : Bool := 1 ≤ min && min ≤ 63

/-- The closure of `handle_cpdlc_application_message`; the second component is
the message it leaves in the shared cell. -/
def applicationUpdate (source : AcarsEndpointCallsign) (msg : CpdlcApplicationMessage)
    (maybeSession : Option CPDLCSession) :
    Except String (CPDLCSession × CpdlcApplicationMessage) :=
  match maybeSession with
  | none => .error "no CPDLC session for aircraft"
  | some session =>
      let msg := normalizeMessage toUppercase msg
      match session.activeConnection with
      | none => .error "no active connection"
      | some active =>
          if !active.readyExchange then .error "active connection is not in Connected state"
          -- MIN ownership is client-side
          else if !minInRange msg.min then
            .error s!"invalid CPDLC MIN {msg.min} (expected 1..=63, client-assigned)"
          else .ok (msg.elements.foldl (applyElement source) session, msg)

end Updates

def asciiUpper (char : Char) : Char :=
  if 97 ≤ char.toNat ∧ char.toNat ≤ 122 then Char.ofNat (char.toNat - 32) else char

def asciiUppercase (text : String) : String := String.ofList (text.toList.map asciiUpper)

theorem ascii_upper_twice (char : Char) : asciiUpper (asciiUpper char) = asciiUpper char := by
  by_cases lower : 97 ≤ char.toNat ∧ char.toNat ≤ 122
  · have valid : (char.toNat - 32).isValidChar := Or.inl (by omega)
    have shifted : (asciiUpper char).toNat = char.toNat - 32 := by
      rw [asciiUpper, if_pos lower]
      exact congrArg Char.toNat (dif_pos valid)
    rw [asciiUpper, if_neg (by omega)]
  · have same : asciiUpper char = char := if_neg lower
    rw [same, same]

theorem ascii_uppercase_twice (text : String) :
    asciiUppercase (asciiUppercase text) = asciiUppercase text := by
  simp [asciiUppercase, Function.comp_def, ascii_upper_twice]

/-- The closure each branch of `handle_cpdlc_meta_message` runs; `none` where the
branch leaves the store alone. -/
def metaUpdate (aircraft : AcarsRoutingEndpoint) (source destination : AcarsEndpointCallsign) :
    CpdlcMetaMessage → Option (Option CPDLCSession → Except String (Option CPDLCSession))
  | .logonRequest station _ _ => some fun maybeSession =>
      let session := maybeSession.getD (.new aircraft)
      .ok (some (session.logonRequest ⟨station, ""⟩))
  | .logonResponse accepted =>
      if accepted then some fun maybeSession =>
        let session := maybeSession.getD (.new aircraft)
        .ok (some (session.logonAccepted source))
      else none
  | .connectionRequest => some fun maybeSession =>
      let session := maybeSession.getD (.new aircraft)
      .ok (some (session.connectionRequest source))
  | .connectionResponse accepted =>
      -- the aircraft answers, so the station is the destination
      if accepted then some fun maybeSession => do
        let session := maybeSession.getD (.new aircraft)
        return some (← session.connectionAccepted destination)
      else none
  | .sessionUpdate _ => none
  | .logonForward _ _ _ _ => none

def CPDLCSession.holds (session : CPDLCSession) (station : AcarsEndpointCallsign) : Bool :=
  heldBy session.activeConnection station || heldBy session.inactiveConnection station

/-- The closure of `terminate_sessions_for_station`. -/
def terminationUpdate (station : AcarsEndpointCallsign) (maybeSession : Option CPDLCSession) :
    Except String (Option CPDLCSession) :=
  match maybeSession with
  | none => .ok none
  | some existing =>
      if !existing.holds station then .ok (some existing)
      else .ok (some (existing.terminationRequest station))

end OpenLink.Session
