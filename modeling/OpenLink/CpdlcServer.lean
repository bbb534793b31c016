import OpenLink.Actions
import OpenLink.SessionRuns
import OpenLink.Kv
import OpenLink.Envelope

/-!
The CPDLC server over the bucket of stored sessions. A handler reads and writes
the bucket and may fail; what it wrote before a failure stays written. Reading
and writing one session are two operations on the bucket, and the write names
the revision that the read saw.
-/
namespace OpenLink.CpdlcServer
open Actions Cpdlc Envelope Kv Session SessionSteps SessionRuns Runs

abbrev SessionStore := KvStore String CPDLCSession

abbrev Server := Action SessionStore

def readSession (store : SessionStore) (id : String) : Nat × Option CPDLCSession :=
  match store.entry id with
  | some entry => (entry.revision, entry.value)
  | none => (0, none)

def commitSession (store : SessionStore) (id : String) (revision : Nat) :
    Option CPDLCSession → Except String SessionStore
  | some session => store.update id session revision
  | none => .ok (store.delete id)

/-- The cell of type `Cell` is what the closure leaves for its caller beside the
session. -/
def getAndUpdateSessionForAircraft {Cell : Type} (aircraft : AcarsRoutingEndpoint)
    (updateFn : Option CPDLCSession → Except String (Option CPDLCSession × Cell)) :
    Server (Option CPDLCSession × Cell) := do
  let id := sessionId aircraft
  let (revision, value) := readSession (← get) id
  -- a failing closure ends here, before anything is written
  let (updated, cell) ← lift (updateFn value)
  set (← lift (commitSession (← get) id revision updated))
  return (updated, cell)

abbrev SessionUpdate := ∀ {Cell : Type}, AcarsRoutingEndpoint →
  (Option CPDLCSession → Except String (Option CPDLCSession × Cell)) →
    Server (Option CPDLCSession × Cell)

/-! The handlers, for any way to update a session. -/
section Updates
variable (update : SessionUpdate) (toUppercase : String → String)

def handleCpdlcApplicationMessageUnder (msg : CpdlcApplicationMessage) (cpdlc : CpdlcEnvelope)
    (acars : AcarsEnvelope) :
    Server (AcarsEndpointCallsign × Option CPDLCSession × CpdlcEnvelope) := do
  let aircraft := acars.routing.aircraft
  let (updated, modified) ← update aircraft fun maybeSession =>
    (applicationUpdate toUppercase cpdlc.source msg maybeSession).map fun result =>
      (some result.1, result.2)
  return (cpdlc.destination, updated, { cpdlc with message := .application modified })

def handleCpdlcMetaMessageUnder (message : CpdlcMetaMessage) (cpdlc : CpdlcEnvelope)
    (acars : AcarsEnvelope) : Server (AcarsEndpointCallsign × Option CPDLCSession) := do
  let aircraft := acars.routing.aircraft
  match metaUpdate aircraft cpdlc.source cpdlc.destination message with
  | none => return (cpdlc.destination, none)
  | some change =>
      let (updated, _) ← update aircraft fun maybeSession =>
        (change maybeSession).map fun session => (session, ())
      return (cpdlc.destination, updated)

def handleCpdlcMessageUnder (cpdlc : CpdlcEnvelope) (acars : AcarsEnvelope)
    (originalEnvelope : OpenLinkEnvelope) :
    Server (AcarsEndpointCallsign × Option CPDLCSession × OpenLinkEnvelope) := do
  match cpdlc.message with
  | .application msg =>
      let (destination, session, modifiedCpdlc) ←
        handleCpdlcApplicationMessageUnder update toUppercase msg cpdlc acars
      let modifiedEnvelope :=
        match originalEnvelope.payload with
        | .acars acarsEnvelope =>
            { originalEnvelope with
              payload := .acars { acarsEnvelope with message := .cpdlc modifiedCpdlc } }
        | .metaMessage _ => originalEnvelope
      return (destination, session, modifiedEnvelope)
  | .metaMessage message =>
      let (destination, session) ← handleCpdlcMetaMessageUnder update message cpdlc acars
      return (destination, session, originalEnvelope)

end Updates

/-! The handlers over a bucket that does not fail and has no other writer. -/
section Handlers
variable (toUppercase : String → String)

abbrev handleCpdlcApplicationMessage (msg : CpdlcApplicationMessage) (cpdlc : CpdlcEnvelope)
    (acars : AcarsEnvelope) :
    Server (AcarsEndpointCallsign × Option CPDLCSession × CpdlcEnvelope) :=
  handleCpdlcApplicationMessageUnder getAndUpdateSessionForAircraft toUppercase msg cpdlc acars

abbrev handleCpdlcMetaMessage (message : CpdlcMetaMessage) (cpdlc : CpdlcEnvelope)
    (acars : AcarsEnvelope) : Server (AcarsEndpointCallsign × Option CPDLCSession) :=
  handleCpdlcMetaMessageUnder getAndUpdateSessionForAircraft message cpdlc acars

abbrev handleCpdlcMessage (cpdlc : CpdlcEnvelope) (acars : AcarsEnvelope)
    (originalEnvelope : OpenLinkEnvelope) :
    Server (AcarsEndpointCallsign × Option CPDLCSession × OpenLinkEnvelope) :=
  handleCpdlcMessageUnder getAndUpdateSessionForAircraft toUppercase cpdlc acars originalEnvelope

end Handlers

def relevant (callsign : AcarsEndpointCallsign) (session : CPDLCSession) : Bool :=
  session.aircraft.callsign == callsign || session.holds callsign

def listSessionsForCallsign (callsign : AcarsEndpointCallsign) : Server (List CPDLCSession) := do
  let store ← get
  return (store.keys.filterMap store.get).filter (relevant callsign)

/-- The loop of `terminate_sessions_for_station`; `updatedSessions` is what the
earlier sessions have added. -/
def terminateEach (stationCallsign : AcarsEndpointCallsign) :
    List CPDLCSession → List CPDLCSession → Server (List CPDLCSession)
  | [], updatedSessions => return updatedSessions
  | session :: rest, updatedSessions => do
      let (updated, _) ← getAndUpdateSessionForAircraft session.aircraft fun maybeSession =>
        (terminationUpdate stationCallsign maybeSession).map fun session => (session, ())
      match updated with
      | some updated =>
          if updated.holds stationCallsign then terminateEach stationCallsign rest updatedSessions
          else terminateEach stationCallsign rest (updatedSessions ++ [updated])
      | none => terminateEach stationCallsign rest updatedSessions

def terminateSessionsForStation (stationCallsign : AcarsEndpointCallsign) :
    Server (List CPDLCSession) := do
  let sessions ← listSessionsForCallsign stationCallsign
  terminateEach stationCallsign sessions []

/-! What a handler does to the bucket. -/
section Specification

theorem read_session_value (store : SessionStore) (id : String) :
    (readSession store id).2 = store.get id := by
  unfold readSession KvStore.get
  cases store.entry id <;> rfl

theorem read_session_revision (store : SessionStore) (id : String) :
    (readSession store id).1 = store.revision id := by
  unfold readSession KvStore.revision
  cases store.entry id <;> rfl

/-- With no other writer between its two operations, the read-modify-write stores
what the closure returns, and a failed closure stores nothing. -/
theorem run_get_and_update {Cell : Type} (aircraft : AcarsRoutingEndpoint)
    (updateFn : Option CPDLCSession → Except String (Option CPDLCSession × Cell))
    (store : SessionStore) :
    runOn (getAndUpdateSessionForAircraft aircraft updateFn) store =
      match updateFn (store.get (sessionId aircraft)) with
      | .error message => (.error message, store)
      | .ok (some session, cell) =>
          (.ok (some session, cell), store.put (sessionId aircraft) session)
      | .ok (none, cell) => (.ok (none, cell), store.delete (sessionId aircraft)) := by
  simp only [getAndUpdateSessionForAircraft, run_bind, run_get, run_lift, run_set, run_pure,
    read_session_value, read_session_revision]
  cases updateFn (store.get (sessionId aircraft)) with
  | error message => rfl
  | ok result =>
      obtain ⟨updated, cell⟩ := result
      cases updated with
      | none => rfl
      | some session => simp only [commitSession, KvStore.update_latest]

end Specification

end OpenLink.CpdlcServer
