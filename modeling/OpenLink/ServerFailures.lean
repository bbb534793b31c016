import OpenLink.Server

/-!
The server with a bucket of sessions that can fail. The read or the write of a
session update may be refused, and other clients may write between the two. A failure
writes nothing, sends nothing and publishes nothing.
-/
namespace OpenLink.ServerFailures
open Actions Cpdlc CpdlcServer Envelope Kv Registry Server Session

structure BucketConditions where
  readFailure : Option String
  /-- What other clients make of the bucket between the read and the write. -/
  others : SessionStore → SessionStore
  writeFailure : Option String

namespace BucketConditions

def undisturbed : BucketConditions := ⟨none, id, none⟩

def meanwhile (conditions : BucketConditions) (store : SessionStore) : SessionStore :=
  if conditions.readFailure.isSome then store else conditions.others store

end BucketConditions

def orFail : Option String → CpdlcServer.Server Unit
  | none => pure ()
  | some message => throw message

def getAndUpdateSessionForAircraftUnder (conditions : BucketConditions) {Cell : Type}
    (aircraft : AcarsRoutingEndpoint)
    (updateFn : Option CPDLCSession → Except String (Option CPDLCSession × Cell)) :
    CpdlcServer.Server (Option CPDLCSession × Cell) := do
  let id := sessionId aircraft
  orFail conditions.readFailure
  let (revision, value) := readSession (← get) id
  modify conditions.others
  let (updated, cell) ← lift (updateFn value)
  orFail conditions.writeFailure
  set (← lift (commitSession (← get) id revision updated))
  return (updated, cell)

/-- With nothing failing and nobody else writing, this is the update of the server. -/
theorem update_undisturbed {Cell : Type} (aircraft : AcarsRoutingEndpoint)
    (updateFn : Option CPDLCSession → Except String (Option CPDLCSession × Cell)) :
    getAndUpdateSessionForAircraftUnder .undisturbed aircraft updateFn =
      getAndUpdateSessionForAircraft aircraft updateFn := by
  funext store
  change runOn (getAndUpdateSessionForAircraftUnder .undisturbed aircraft updateFn) store =
    runOn (getAndUpdateSessionForAircraft aircraft updateFn) store
  simp only [getAndUpdateSessionForAircraftUnder, getAndUpdateSessionForAircraft,
    BucketConditions.undisturbed, orFail, run_bind, run_pure, run_get, run_modify, run_lift, id]

/-! What a failure leaves behind. -/
section Atomicity
variable (conditions : BucketConditions)

theorem run_update_under {Cell : Type} (aircraft : AcarsRoutingEndpoint)
    (updateFn : Option CPDLCSession → Except String (Option CPDLCSession × Cell))
    (store : SessionStore) :
    runOn (getAndUpdateSessionForAircraftUnder conditions aircraft updateFn) store =
      match conditions.readFailure, updateFn (readSession store (sessionId aircraft)).2,
        conditions.writeFailure with
      | some message, _, _ => (.error message, store)
      | none, .error message, _ => (.error message, conditions.others store)
      | none, .ok _, some message => (.error message, conditions.others store)
      | none, .ok (updated, cell), none =>
          match commitSession (conditions.others store) (sessionId aircraft)
            (readSession store (sessionId aircraft)).1 updated with
          | .error message => (.error message, conditions.others store)
          | .ok after => (.ok (updated, cell), after) := by
  obtain ⟨readFailure, others, writeFailure⟩ := conditions
  cases readFailure with
  | some message => rfl
  | none =>
      simp only [getAndUpdateSessionForAircraftUnder, orFail, run_bind, run_pure, run_get,
        run_modify, run_lift]
      rcases updateFn (readSession store (sessionId aircraft)).2 with message | ⟨updated, cell⟩
      · rfl
      · cases writeFailure with
        | some message => rfl
        | none =>
            simp only [run_pure]
            cases commitSession (others store) (sessionId aircraft)
              (readSession store (sessionId aircraft)).1 updated <;> rfl

theorem update_on_failure {Cell : Type} (aircraft : AcarsRoutingEndpoint)
    (updateFn : Option CPDLCSession → Except String (Option CPDLCSession × Cell)) :
    OnFailure conditions.meanwhile
      (getAndUpdateSessionForAircraftUnder conditions aircraft updateFn) := by
  intro store message failed
  rw [run_update_under] at failed ⊢
  obtain ⟨readFailure, others, writeFailure⟩ := conditions
  cases readFailure with
  | some refusal => rfl
  | none =>
      generalize updateFn (readSession store (sessionId aircraft)).2 = result at failed ⊢
      rcases result with refusal | ⟨updated, cell⟩
      · rfl
      · cases writeFailure with
        | some refusal => rfl
        | none =>
            -- the bucket itself refuses a write behind another client's
            cases committed : commitSession (others store) (sessionId aircraft)
                (readSession store (sessionId aircraft)).1 updated with
            | error refusal => simp [committed, BucketConditions.meanwhile]
            | ok after => simp [committed] at failed

theorem handle_on_failure (toUppercase : String → String) (cpdlc : CpdlcEnvelope)
    (acars : AcarsEnvelope) (envelope : OpenLinkEnvelope) :
    OnFailure conditions.meanwhile
      (handleCpdlcMessageUnder (getAndUpdateSessionForAircraftUnder conditions) toUppercase cpdlc
        acars envelope) := by
  unfold handleCpdlcMessageUnder
  cases cpdlc.message with
  | application msg =>
      apply on_failure_bind_pure
      apply on_failure_bind_pure
      exact update_on_failure conditions _ _
  | metaMessage message =>
      apply on_failure_bind_pure
      unfold handleCpdlcMetaMessageUnder
      cases known : metaUpdate acars.routing.aircraft cpdlc.source cpdlc.destination message with
      | none =>
          simp only [known]
          exact on_failure_pure _
      | some update =>
          simp only [known]
          apply on_failure_bind_pure
          exact update_on_failure conditions _ _

/-- A CPDLC message whose handler fails, for whatever reason, leaves the sessions
as the other clients have made them, and the main loop neither forwards it nor
publishes anything else. -/
theorem failed_message_unseen (config : ServerConfig) (now : DateTime) (cpdlc : CpdlcEnvelope)
    (routing : AcarsRouting) (envelope : OpenLinkEnvelope) (server : OpenLinkServer)
    (message : String)
    (failed : (runOn (handleCpdlcMessageUnder (getAndUpdateSessionForAircraftUnder conditions)
      config.toUppercase cpdlc ⟨routing, .cpdlc cpdlc⟩ envelope) server.sessions).1 =
        .error message) :
    (runOn (receiveAcarsUnder config now (getAndUpdateSessionForAircraftUnder conditions)
        ⟨routing, .cpdlc cpdlc⟩ envelope) server).2 =
      { server with sessions := conditions.meanwhile server.sessions } := by
  have left := handle_on_failure conditions config.toUppercase cpdlc ⟨routing, .cpdlc cpdlc⟩
    envelope server.sessions message failed
  have handling : runOn (onSessions
      (handleCpdlcMessageUnder (getAndUpdateSessionForAircraftUnder conditions) config.toUppercase
        cpdlc ⟨routing, .cpdlc cpdlc⟩ envelope)) server =
      (.error message, { server with sessions := conditions.meanwhile server.sessions }) := by
    rw [run_on_sessions, failed, left]
  have acars : runOn (handleAcarsMessageUnder config
      (getAndUpdateSessionForAircraftUnder conditions) ⟨routing, .cpdlc cpdlc⟩ envelope) server =
      (.error message, { server with sessions := conditions.meanwhile server.sessions }) := by
    unfold handleAcarsMessageUnder
    rw [run_bind_error _ _ server message (by rw [handling]), handling]
  unfold receiveAcarsUnder
  rw [run_bind_error _ _ server message (by rw [acars]), acars]

def overtaken : BucketConditions :=
  ⟨none, fun store => store.put "39A1B2" (.new ⟨"AFR123", "39A1B2"⟩), none⟩

def logonEnvelope : OpenLinkEnvelope :=
  ⟨"1", 0, none, ⟨.address "vatsim" "afr123", .server "vatsim"⟩,
    .acars ⟨⟨⟨"AFR123", "39A1B2"⟩⟩, .cpdlc ⟨"AFR123", "LFPG",
      .metaMessage (.logonRequest "LFPG" "LFBO" "LFPG")⟩⟩, ""⟩

/-- The logon request that comes second leaves only the other client's session. -/
theorem failed_message_unseen_overtaken :
    (runOn (receiveAcarsUnder ⟨"vatsim", 60, true, asciiUppercase, Nat.repr⟩ 0
        (getAndUpdateSessionForAircraftUnder overtaken)
        ⟨⟨⟨"AFR123", "39A1B2"⟩⟩, .cpdlc ⟨"AFR123", "LFPG",
          .metaMessage (.logonRequest "LFPG" "LFBO" "LFPG")⟩⟩ logonEnvelope)
        ⟨.empty, .empty, 0, []⟩).2 =
      ⟨overtaken.meanwhile .empty, .empty, 0, []⟩ :=
  failed_message_unseen overtaken ⟨"vatsim", 60, true, asciiUppercase, Nat.repr⟩ 0
    ⟨"AFR123", "LFPG", .metaMessage (.logonRequest "LFPG" "LFBO" "LFPG")⟩ ⟨⟨"AFR123", "39A1B2"⟩⟩
    logonEnvelope ⟨.empty, .empty, 0, []⟩ "wrong last sequence" (by decide)

end Atomicity

end OpenLink.ServerFailures
