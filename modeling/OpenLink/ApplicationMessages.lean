import OpenLink.CpdlcServer

/-!
The handler of application messages on the stored sessions: which messages it
takes, what an accepted message changes in the session and in the message that
is forwarded, and what it leaves alone.
-/
namespace OpenLink.ApplicationMessages
open Actions Cpdlc Kv MessageRegistry Session SessionSteps SessionRuns CpdlcServer

/-! When the handler takes a message. -/
section Acceptance
variable (toUppercase : String → String) (store : SessionStore) (msg : CpdlcApplicationMessage)
    (cpdlc : CpdlcEnvelope) (acars : AcarsEnvelope)

theorem run_application_accepted (session : CPDLCSession)
    (stored : store.get (sessionId acars.routing.aircraft) = some session)
    (admitted : admits session msg = true) :
    runOn (handleCpdlcApplicationMessage toUppercase msg cpdlc acars) store =
      (.ok (cpdlc.destination, some (msg.elements.foldl (applyElement cpdlc.source) session),
          { cpdlc with message := .application (normalizeMessage toUppercase msg) }),
        store.put (sessionId acars.routing.aircraft)
          (msg.elements.foldl (applyElement cpdlc.source) session)) := by
  simp only [handleCpdlcApplicationMessage, handleCpdlcApplicationMessageUnder, run_bind,
    run_get_and_update, stored,
    application_update_ok toUppercase cpdlc.source msg session admitted, Except.map, run_pure]

theorem run_application_refused
    (refused : ∀ session, store.get (sessionId acars.routing.aircraft) = some session →
      admits session msg = false) :
    ∃ message, runOn (handleCpdlcApplicationMessage toUppercase msg cpdlc acars) store =
      (.error message, store) := by
  simp only [handleCpdlcApplicationMessage, handleCpdlcApplicationMessageUnder, run_bind,
    run_get_and_update]
  cases stored : store.get (sessionId acars.routing.aircraft) with
  | none => exact ⟨_, rfl⟩
  | some session =>
      obtain ⟨message, failed⟩ := application_update_refused toUppercase cpdlc.source msg session
        (refused session stored)
      exact ⟨message, by simp only [failed, Except.map]⟩

theorem admits_iff (session : CPDLCSession) :
    admits session msg = true ↔
      (∃ active, session.activeConnection = some active ∧ active.logon = true ∧
        active.connection = true) ∧ 1 ≤ msg.min ∧ msg.min ≤ 63 := by
  simp [admits, activeReady, minInRange, CPDLCConnection.readyExchange, Option.any_eq_true]

theorem application_accepted :
    (∃ result, (runOn (handleCpdlcApplicationMessage toUppercase msg cpdlc acars) store).1 =
        .ok result) ↔
      ∃ session, store.get (sessionId acars.routing.aircraft) = some session ∧
        admits session msg = true := by
  constructor
  · rintro ⟨result, outcome⟩
    by_contra refused
    have failing : ∀ session, store.get (sessionId acars.routing.aircraft) = some session →
        admits session msg = false := by
      intro session stored
      by_contra taken
      exact refused ⟨session, stored, by simpa using taken⟩
    obtain ⟨message, failed⟩ := run_application_refused toUppercase store msg cpdlc acars failing
    rw [failed] at outcome
    cases outcome
  · rintro ⟨session, stored, admitted⟩
    rw [run_application_accepted toUppercase store msg cpdlc acars session stored admitted]
    exact ⟨_, rfl⟩

theorem application_failure_unchanged (message : String)
    (failed : (runOn (handleCpdlcApplicationMessage toUppercase msg cpdlc acars) store).1 =
      .error message) :
    (runOn (handleCpdlcApplicationMessage toUppercase msg cpdlc acars) store).2 = store := by
  have refused : ∀ session, store.get (sessionId acars.routing.aircraft) = some session →
      admits session msg = false := by
    intro session stored
    by_contra taken
    rw [run_application_accepted toUppercase store msg cpdlc acars session stored
      (by simpa using taken)] at failed
    cases failed
  obtain ⟨_, outcome⟩ := run_application_refused toUppercase store msg cpdlc acars refused
  rw [outcome]

/-- The handler takes an application message exactly when the aircraft's stored
session has a ready active connection and the MIN is in range. Neither party of
the message is compared with that connection. -/
theorem application_accepted_iff :
    ((∃ result, (runOn (handleCpdlcApplicationMessage toUppercase msg cpdlc acars) store).1 =
        .ok result) ↔
      ∃ session, store.get (sessionId acars.routing.aircraft) = some session ∧
        (∃ active, session.activeConnection = some active ∧ active.logon = true ∧
          active.connection = true) ∧
        1 ≤ msg.min ∧ msg.min ≤ 63) ∧
    ∀ message, (runOn (handleCpdlcApplicationMessage toUppercase msg cpdlc acars) store).1 =
        .error message →
      (runOn (handleCpdlcApplicationMessage toUppercase msg cpdlc acars) store).2 = store := by
  constructor
  · rw [application_accepted]
    constructor
    · rintro ⟨session, stored, admitted⟩
      exact ⟨session, stored, (admits_iff msg session).mp admitted⟩
    · rintro ⟨session, stored, ready⟩
      exact ⟨session, stored, (admits_iff msg session).mpr ready⟩
  · exact application_failure_unchanged toUppercase store msg cpdlc acars

/-- A station that has no connection at all designates the next data authority. -/
theorem stranger_designates :
    let session : CPDLCSession :=
      ⟨⟨"AFR123", "39A1B2"⟩, some ⟨⟨"LFFF", ""⟩, true, true⟩, none, some ⟨"EGTT", ""⟩⟩
    let msg : CpdlcApplicationMessage := ⟨1, none, [⟨"UM160", [.facilityDesignation "EBBU"]⟩], 0⟩
    let cpdlc : CpdlcEnvelope := ⟨"EDGG", "AFR123", .application msg⟩
    let outcome := runOn (handleCpdlcApplicationMessage String.toUpper msg cpdlc
      ⟨⟨session.aircraft⟩, .cpdlc cpdlc⟩) (KvStore.empty.put "39A1B2" session)
    cpdlc.source ≠ session.aircraft.callsign ∧
      (∀ active ∈ session.activeConnection, callsign active ≠ cpdlc.source) ∧
      outcome.1.toBool = true ∧
      outcome.2.get "39A1B2" = some { session with nextDataAuthority := some ⟨"EBBU", ""⟩ } := by
  decide

end Acceptance

/-! The effect of an application message, and what it leaves alone. The effects of
the two session-management elements are stated on the row of slots, apart from
the methods that carry them out. -/
section Effect

def withoutStation (session : CPDLCSession) (station : AcarsEndpointCallsign) : CPDLCSession :=
  let row := (slots session).eraseP (isAt station)
  { session with activeConnection := row[0]?, inactiveConnection := row[1]? }

def designationEffect (element : MessageElement) (session : CPDLCSession) : CPDLCSession :=
  match designatedFacility element with
  | some facility => { session with nextDataAuthority := some (ndaEndpoint facility) }
  | none => session

def endServiceEffect (source : AcarsEndpointCallsign) (element : MessageElement)
    (session : CPDLCSession) : CPDLCSession :=
  if endsService element then withoutStation session source else session

def elementEffect (source : AcarsEndpointCallsign) (session : CPDLCSession)
    (element : MessageElement) : CPDLCSession :=
  endServiceEffect source element (designationEffect element session)

theorem ordered_fields (session : CPDLCSession) (ordered : Ordered session) :
    session.activeConnection = (slots session)[0]? ∧
      session.inactiveConnection = (slots session)[1]? := by
  cases active : session.activeConnection with
  | none => simp [slots, active, ordered active]
  | some conn =>
      cases inactive : session.inactiveConnection <;> simp [slots, active, inactive]

theorem termination_removes (session : CPDLCSession) (station : AcarsEndpointCallsign)
    (ordered : Ordered session) :
    session.terminationRequest station = withoutStation session station := by
  have row := slots_termination_request session station
  obtain ⟨active, inactive⟩ :=
    ordered_fields _ (ordered_termination_request session station ordered)
  rw [row] at active inactive
  have aircraft := termination_request_aircraft session station
  have nda := termination_request_nda session station
  cases after : session.terminationRequest station
  simp_all [withoutStation]

theorem apply_element_effect (source : AcarsEndpointCallsign) (session : CPDLCSession)
    (element : MessageElement) (ordered : Ordered session) :
    applyElement source session element = elementEffect source session element := by
  rw [apply_element_eq]
  cases named : designatedFacility element with
  | some facility =>
      have silent := designation_keeps_service element facility named
      simp [elementEffect, endServiceEffect, designationEffect, named, silent,
        CPDLCSession.designate]
  | none =>
      cases service : endsService element with
      | true =>
          simp [elementEffect, endServiceEffect, designationEffect, named, service,
            termination_removes session source ordered]
      | false => simp [elementEffect, endServiceEffect, designationEffect, named, service]

theorem apply_elements_effect (source : AcarsEndpointCallsign) (elements : List MessageElement)
    (session : CPDLCSession) (ordered : Ordered session) :
    elements.foldl (applyElement source) session =
      elements.foldl (elementEffect source) session := by
  induction elements generalizing session with
  | nil => rfl
  | cons element rest ih =>
      have kept := ordered_apply_elements source [element] session ordered
      rw [List.foldl_cons, List.foldl_cons, ← apply_element_effect source session element ordered]
      exact ih _ kept

def DeclaresFreeText (id : String) (index : Nat) : Prop :=
  ∃ definition, findDefinition id = some definition ∧ definition.args[index]? = some .freeText

structure Uppercased (toUppercase : String → String) (before after : MessageElement) : Prop where
  id : after.id = before.id
  count : after.args.length = before.args.length
  raised : ∀ index text, before.args[index]? = some (.freeText text) →
    DeclaresFreeText before.id index → after.args[index]? = some (.freeText (toUppercase text))
  kept : ∀ index argument, before.args[index]? = some argument →
    (DeclaresFreeText before.id index → ∀ text, argument ≠ .freeText text) →
    after.args[index]? = some argument

theorem normalize_argument_kept (toUppercase : String → String) (definition : MessageDefinition)
    (index : Nat) (argument : CpdlcArgument)
    (other : definition.args[index]? = some .freeText → ∀ text, argument ≠ .freeText text) :
    normalizeArgument toUppercase definition index argument = argument := by
  unfold normalizeArgument
  split
  · next text declared => exact absurd rfl (other declared text)
  · rfl

theorem normalize_element_uppercased (toUppercase : String → String) (element : MessageElement) :
    Uppercased toUppercase element (normalizeElement toUppercase element) := by
  unfold normalizeElement
  cases known : findDefinition element.id with
  | none =>
      constructor
      · rfl
      · rfl
      · rintro index text _ ⟨definition, found, _⟩
        simp [known] at found
      · intro index argument there _
        exact there
  | some definition =>
      have declared : ∀ index, DeclaresFreeText element.id index ↔
          definition.args[index]? = some .freeText := by
        intro index
        simp [DeclaresFreeText, known]
      constructor
      · rfl
      · simp
      · intro index text there free
        have slot := (declared index).mp free
        simp [List.getElem?_mapIdx, there, normalizeArgument, slot]
      · intro index argument there other
        rw [declared index] at other
        simp [List.getElem?_mapIdx, there,
          normalize_argument_kept toUppercase definition index argument other]

theorem normalize_argument_twice (toUppercase : String → String)
    (idempotent : ∀ text, toUppercase (toUppercase text) = toUppercase text)
    (definition : MessageDefinition) (index : Nat) (argument : CpdlcArgument) :
    normalizeArgument toUppercase definition index
        (normalizeArgument toUppercase definition index argument) =
      normalizeArgument toUppercase definition index argument := by
  by_cases free : definition.args[index]? = some .freeText ∧ ∃ text, argument = .freeText text
  · obtain ⟨declared, text, rfl⟩ := free
    simp [normalizeArgument, declared, idempotent]
  · have other : definition.args[index]? = some .freeText → ∀ text, argument ≠ .freeText text :=
      fun declared text same => free ⟨declared, text, same⟩
    have kept := normalize_argument_kept toUppercase definition index argument other
    rw [kept, kept]

theorem normalize_element_twice (toUppercase : String → String)
    (idempotent : ∀ text, toUppercase (toUppercase text) = toUppercase text)
    (element : MessageElement) :
    normalizeElement toUppercase (normalizeElement toUppercase element) =
      normalizeElement toUppercase element := by
  cases known : findDefinition element.id with
  | none => simp [normalizeElement, known]
  | some definition =>
      simp [normalizeElement, known, Function.comp_def,
        normalize_argument_twice toUppercase idempotent]

theorem normalize_message_twice (toUppercase : String → String)
    (idempotent : ∀ text, toUppercase (toUppercase text) = toUppercase text)
    (msg : CpdlcApplicationMessage) :
    normalizeMessage toUppercase (normalizeMessage toUppercase msg) =
      normalizeMessage toUppercase msg := by
  simp [normalizeMessage, Function.comp_def, normalize_element_twice toUppercase idempotent]

variable (toUppercase : String → String) (store : SessionStore) (msg : CpdlcApplicationMessage)
    (cpdlc : CpdlcEnvelope) (acars : AcarsEnvelope)

/-- The handler fails without a session, a ready active connection or a MIN in
range. Otherwise it stores the session with the effects of all elements applied
from left to right, touches no other session, and forwards the message with its
declared free texts in upper case, which a second pass would leave alone. -/
theorem application_effect_and_frame
    (idempotent : ∀ text, toUppercase (toUppercase text) = toUppercase text) :
    ((store.get (sessionId acars.routing.aircraft) = none ∨
        (∃ session, store.get (sessionId acars.routing.aircraft) = some session ∧
          activeReady session = false) ∨
        ¬ (1 ≤ msg.min ∧ msg.min ≤ 63)) →
      ∃ message, runOn (handleCpdlcApplicationMessage toUppercase msg cpdlc acars) store =
        (.error message, store)) ∧
    (∀ destination updated forwarded after,
      runOn (handleCpdlcApplicationMessage toUppercase msg cpdlc acars) store =
        (.ok (destination, updated, forwarded), after) →
      (∃ session, store.get (sessionId acars.routing.aircraft) = some session ∧
        updated = some (msg.elements.foldl (elementEffect cpdlc.source) session) ∧
        (msg.elements.foldl (elementEffect cpdlc.source) session).aircraft = session.aircraft) ∧
      after.get (sessionId acars.routing.aircraft) = updated ∧
      (∀ other, other ≠ sessionId acars.routing.aircraft → after.get other = store.get other) ∧
      destination = cpdlc.destination ∧ forwarded.source = cpdlc.source ∧
      forwarded.destination = cpdlc.destination ∧
      ∃ out, forwarded.message = .application out ∧ out.min = msg.min ∧ out.mrn = msg.mrn ∧
        out.timestamp = msg.timestamp ∧
        List.Forall₂ (Uppercased toUppercase) msg.elements out.elements) ∧
    normalizeMessage toUppercase (normalizeMessage toUppercase msg) =
      normalizeMessage toUppercase msg := by
  constructor
  · intro failing
    apply run_application_refused
    intro session stored
    rcases failing with missing | ⟨other, found, notReady⟩ | outOfRange
    · rw [missing] at stored
      cases stored
    · obtain rfl : other = session := Option.some.inj (found.symm.trans stored)
      simp [admits, notReady]
    · by_contra taken
      have ready := (admits_iff msg session).mp (by simpa using taken)
      exact outOfRange ready.2
  constructor
  · intro destination updated forwarded after outcome
    have accepted := (application_accepted toUppercase store msg cpdlc acars).mp
      ⟨_, congrArg Prod.fst outcome⟩
    obtain ⟨session, stored, admitted⟩ := accepted
    -- the accepting test itself puts a connection into the active slot
    have ordered : Ordered session := by
      obtain ⟨active, taken, _⟩ := ((admits_iff msg session).mp admitted).1
      simp [Ordered, taken]
    have effect := apply_elements_effect cpdlc.source msg.elements session ordered
    have aircraft := apply_elements_aircraft cpdlc.source msg.elements session
    rw [run_application_accepted toUppercase store msg cpdlc acars session stored admitted,
      effect] at outcome
    rw [effect] at aircraft
    cases outcome
    refine ⟨⟨session, stored, rfl, aircraft⟩, ?_, ?_, rfl, rfl, rfl, ?_⟩
    · simp
    · intro other different
      simp [different]
    · refine ⟨normalizeMessage toUppercase msg, rfl, rfl, rfl, rfl, ?_⟩
      simp only [normalizeMessage, List.forall₂_map_right_iff]
      exact List.forall₂_same.mpr fun element _ =>
        normalize_element_uppercased toUppercase element
  · exact normalize_message_twice toUppercase idempotent msg

theorem application_effect_and_frame_handover :
    let store : SessionStore := KvStore.empty.put "39A1B2"
      ⟨⟨"AFR123", "39A1B2"⟩, some ⟨⟨"LFFF", ""⟩, true, true⟩, some ⟨⟨"EGTT", ""⟩, true, true⟩, none⟩
    let msg : CpdlcApplicationMessage := ⟨7, some 3, [⟨"UM160", [.facilityDesignation "EGTT"]⟩,
      ⟨"UM169", [.freeText "contact London"]⟩, ⟨"UM161", []⟩], 0⟩
    let cpdlc : CpdlcEnvelope := ⟨"LFFF", "AFR123", .application msg⟩
    let outcome := runOn (handleCpdlcApplicationMessage asciiUppercase msg cpdlc
      ⟨⟨⟨"AFR123", "39A1B2"⟩⟩, .cpdlc cpdlc⟩) store
    (∃ session, store.get "39A1B2" = some session ∧
      outcome.2.get "39A1B2" = some (msg.elements.foldl (elementEffect "LFFF") session)) ∧
    normalizeMessage asciiUppercase (normalizeMessage asciiUppercase msg) =
      normalizeMessage asciiUppercase msg := by
  intro store msg cpdlc outcome
  obtain ⟨_, effect, twice⟩ := application_effect_and_frame asciiUppercase store msg cpdlc
    ⟨⟨⟨"AFR123", "39A1B2"⟩⟩, .cpdlc cpdlc⟩ ascii_uppercase_twice
  obtain ⟨⟨session, stored, updated, _⟩, kept, _⟩ := effect _ _ _ _ rfl
  exact ⟨⟨session, stored, kept.trans updated⟩, twice⟩

end Effect

end OpenLink.ApplicationMessages
