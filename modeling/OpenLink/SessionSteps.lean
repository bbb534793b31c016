import OpenLink.Session
import OpenLink.Slots
import OpenLink.Runs

/-!
One handler execution on a stored session, and what it can do to the two slots.
The slots are read as a row, the active connection first; every method of the
session is one of the row operations, so each later argument about a session is
an argument about a row.
-/
namespace OpenLink.SessionSteps
open Cpdlc MessageRegistry Session Slots

variable (toUppercase : String → String)

inductive Handler where
  | message (cpdlc : CpdlcEnvelope)
  | stationOffline (station : AcarsEndpointCallsign)
  deriving DecidableEq

def handle (session : CPDLCSession) : Handler → Except String CPDLCSession
  | .message ⟨source, destination, content⟩ =>
      match content with
      | .application msg => (applicationUpdate toUppercase source msg (some session)).map Prod.fst
      | .metaMessage message =>
          match metaUpdate session.aircraft source destination message with
          | none => .ok session
          | some update => (update (some session)).map fun updated => updated.getD session
  | .stationOffline station =>
      (terminationUpdate station (some session)).map fun updated => updated.getD session

/-- A handler that returns an error writes nothing. -/
def step (session : CPDLCSession) (handler : Handler) : CPDLCSession :=
  match handle toUppercase session handler with
  | .ok updated => updated
  | .error _ => session

def slots (session : CPDLCSession) : List CPDLCConnection :=
  session.activeConnection.toList ++ session.inactiveConnection.toList

def callsign (conn : CPDLCConnection) : AcarsEndpointCallsign := conn.station.callsign

def isAt (station : AcarsEndpointCallsign) (conn : CPDLCConnection) : Bool :=
  callsign conn == station

def establish (conn : CPDLCConnection) : CPDLCConnection := { conn with connection := true }

@[simp] theorem callsign_new (endpoint : AcarsRoutingEndpoint) :
    callsign (.new endpoint) = endpoint.callsign := rfl

@[simp] theorem callsign_log_on (conn : CPDLCConnection) : callsign conn.logOn = callsign conn :=
  rfl

@[simp] theorem callsign_establish (conn : CPDLCConnection) :
    callsign (establish conn) = callsign conn := rfl

def Ordered (session : CPDLCSession) : Prop :=
  session.activeConnection = none → session.inactiveConnection = none

def activeReady (session : CPDLCSession) : Bool :=
  session.activeConnection.any CPDLCConnection.readyExchange

/-! Row readings of the session methods. -/
section Rows
variable (session : CPDLCSession) (station : AcarsEndpointCallsign)

theorem holds_iff :
    session.holds station = true ↔ ∃ conn ∈ slots session, callsign conn = station := by
  cases active : session.activeConnection <;> cases inactive : session.inactiveConnection <;>
    simp [CPDLCSession.holds, heldBy, slots, callsign, active, inactive]

theorem slots_new (aircraft : AcarsRoutingEndpoint) : slots (.new aircraft) = [] := rfl

theorem slots_logon_request (ordered : Ordered session) (endpoint : AcarsRoutingEndpoint) :
    slots (session.logonRequest endpoint) = place (slots session) (.new endpoint) := by
  cases active : session.activeConnection with
  | none =>
      have inactive := ordered active
      simp [CPDLCSession.logonRequest, slots, place, active, inactive]
  | some conn => simp [CPDLCSession.logonRequest, slots, place, active]

theorem is_at_iff (conn : CPDLCConnection) : isAt station conn = true ↔ callsign conn = station :=
  beq_iff_eq

theorem held_some (conn : CPDLCConnection) : heldBy (some conn) station = isAt station conn := rfl

theorem held_none : heldBy none station = false := rfl

theorem slots_logon_accepted :
    slots (session.logonAccepted station) =
      updateFirst (isAt station) CPDLCConnection.logOn (slots session) := by
  rcases session with ⟨aircraft, _ | active, _ | inactive, nda⟩
  · rfl
  · by_cases hit : isAt station inactive = true <;>
      simp [CPDLCSession.logonAccepted, held_some, held_none, slots, updateFirst, hit]
  · by_cases hit : isAt station active = true <;>
      simp [CPDLCSession.logonAccepted, held_some, held_none, slots, updateFirst, hit]
  · by_cases hit : isAt station active = true <;> by_cases other : isAt station inactive = true <;>
      simp [CPDLCSession.logonAccepted, held_some, slots, updateFirst, hit, other]

theorem slots_termination_request :
    slots (session.terminationRequest station) = (slots session).eraseP (isAt station) := by
  rcases session with ⟨aircraft, _ | active, _ | inactive, nda⟩
  · rfl
  · by_cases hit : isAt station inactive = true <;>
      simp [CPDLCSession.terminationRequest, held_some, held_none, slots, hit]
  · by_cases hit : isAt station active = true <;>
      simp [CPDLCSession.terminationRequest, held_some, held_none, slots, hit]
  · by_cases hit : isAt station active = true <;> by_cases other : isAt station inactive = true <;>
      simp [CPDLCSession.terminationRequest, held_some, slots, hit, other]

/-- The request of the next data authority that holds no slot yet: the only
connection request that changes a session. -/
def invited : Bool :=
  !session.holds station && session.nextDataAuthority.any fun nda => nda.callsign == station

theorem invited_absent (asked : invited session station = true) :
    heldBy session.activeConnection station = false := by
  have absent := ((Bool.and_eq_true _ _).mp asked).1
  simp only [CPDLCSession.holds, Bool.not_eq_true', Bool.or_eq_false_iff] at absent
  exact absent.1

def ndaConnection : CPDLCConnection := (CPDLCConnection.new ⟨station, ""⟩).logOn

theorem connection_request_eq :
    session.connectionRequest station =
      if invited session station then
        if session.activeConnection.isNone then
          { session with activeConnection := some (ndaConnection station) }
        else { session with inactiveConnection := some (ndaConnection station) }
      else session := by
  cases front : heldBy session.activeConnection station with
  | true => simp [CPDLCSession.connectionRequest, invited, CPDLCSession.holds, front]
  | false =>
      cases back : heldBy session.inactiveConnection station with
      | true => simp [CPDLCSession.connectionRequest, invited, CPDLCSession.holds, front, back]
      | false =>
          simp [CPDLCSession.connectionRequest, invited, CPDLCSession.holds, front, back,
            ndaConnection]

theorem slots_connection_request (ordered : Ordered session) :
    slots (session.connectionRequest station) =
      if invited session station then place (slots session) (ndaConnection station)
      else slots session := by
  rw [connection_request_eq]
  cases invited session station with
  | false => rfl
  | true =>
      cases active : session.activeConnection with
      | none => simp [slots, place, active, ordered active]
      | some conn => simp [slots, place, active]

theorem connect_ok (conn linked : CPDLCConnection) :
    conn.connect = .ok linked ↔ conn.logon = true ∧ linked = establish conn := by
  cases logged : conn.logon with
  | false => simp [CPDLCConnection.connect, logged]
  | true => simp [CPDLCConnection.connect, logged, establish, eq_comm]

theorem held_by_taken (slot : Option CPDLCConnection) (held : heldBy slot station = true) :
    ∃ conn, slot = some conn ∧ isAt station conn = true :=
  (Option.any_eq_true _ _).mp held

/-- The acceptance reaches the first slot at the station, and is refused where
that slot has no logon. -/
theorem connection_accepted_cases (after : CPDLCSession)
    (accepted : session.connectionAccepted station = .ok after) :
    (∃ conn, session.activeConnection = some conn ∧ isAt station conn = true ∧
      conn.logon = true ∧ after = { session with activeConnection := some (establish conn) }) ∨
    (heldBy session.activeConnection station = false ∧ ∃ conn,
      session.inactiveConnection = some conn ∧ isAt station conn = true ∧
      conn.logon = true ∧ after = { session with inactiveConnection := some (establish conn) }) ∨
    (session.holds station = false ∧ after = session) := by
  cases front : heldBy session.activeConnection station with
  | true =>
      obtain ⟨conn, taken, here⟩ := held_by_taken station _ front
      cases linked : conn.connect with
      -- a connection without a logon fails the whole acceptance
      | error message =>
          simp [CPDLCSession.connectionAccepted, taken, held_some, here, linked, bind, Except.bind]
            at accepted
      | ok joined =>
          obtain ⟨logged, rfl⟩ := (connect_ok conn joined).mp linked
          simp [CPDLCSession.connectionAccepted, taken, held_some, here, linked, pure, bind,
            Except.pure, Except.bind] at accepted
          exact Or.inl ⟨conn, taken, here, logged, accepted.symm⟩
  | false =>
      cases back : heldBy session.inactiveConnection station with
      | true =>
          obtain ⟨conn, taken, here⟩ := held_by_taken station _ back
          cases linked : conn.connect with
          | error message =>
              simp [CPDLCSession.connectionAccepted, front, taken, held_some, here, linked, bind,
                Except.bind] at accepted
          | ok joined =>
              obtain ⟨logged, rfl⟩ := (connect_ok conn joined).mp linked
              simp [CPDLCSession.connectionAccepted, front, taken, held_some, here, linked, pure,
                bind, Except.pure, Except.bind] at accepted
              exact Or.inr (Or.inl ⟨rfl, conn, taken, here, logged, accepted.symm⟩)
      | false =>
          simp [CPDLCSession.connectionAccepted, front, back, pure, Except.pure] at accepted
          exact Or.inr (Or.inr ⟨by simp [CPDLCSession.holds, front, back], accepted.symm⟩)

theorem update_first_absent (row : List CPDLCConnection)
    (absent : ∀ conn ∈ row, isAt station conn = false) (change : CPDLCConnection → CPDLCConnection) :
    updateFirst (isAt station) change row = row := by
  induction row with
  | nil => rfl
  | cons conn rest ih =>
      have away := absent conn List.mem_cons_self
      have tail := ih fun other member => absent other (List.mem_cons_of_mem _ member)
      simp [updateFirst, away, tail]

theorem slots_connection_accepted (after : CPDLCSession)
    (accepted : session.connectionAccepted station = .ok after) :
    slots after = updateFirst (isAt station) establish (slots session) := by
  rcases connection_accepted_cases session station after accepted with
    ⟨conn, taken, here, _, rfl⟩ | ⟨front, conn, taken, here, _, rfl⟩ | ⟨absent, rfl⟩
  · simp [slots, taken, updateFirst, here]
  · cases active : session.activeConnection with
    | none => simp [slots, active, taken, updateFirst, here]
    | some other =>
        have away : isAt station other = false := by simpa [active, held_some] using front
        simp [slots, active, taken, updateFirst, here, away]
  · refine (update_first_absent station _ ?_ establish).symm
    intro conn member
    by_contra hit
    have present := (holds_iff after station).mpr
      ⟨conn, member, (is_at_iff station conn).mp (by simpa using hit)⟩
    simp [absent] at present

theorem established_logged (after : CPDLCSession)
    (accepted : session.connectionAccepted station = .ok after)
    (conn : CPDLCConnection) (member : conn ∈ slots after) :
    conn ∈ slots session ∨
      ∃ old ∈ slots session, callsign old = station ∧ old.logon = true ∧ conn = establish old := by
  rcases connection_accepted_cases session station after accepted with
    ⟨old, taken, here, logged, rfl⟩ | ⟨front, old, taken, here, logged, rfl⟩ | ⟨absent, rfl⟩
  · rcases List.mem_append.mp member with first | second
    · refine Or.inr ⟨old, by simp [slots, taken], (is_at_iff station old).mp here, logged, ?_⟩
      simpa using first
    · exact Or.inl (List.mem_append.mpr (Or.inr second))
  · rcases List.mem_append.mp member with first | second
    · exact Or.inl (List.mem_append.mpr (Or.inl first))
    · refine Or.inr ⟨old, by simp [slots, taken], (is_at_iff station old).mp here, logged, ?_⟩
      simpa using second
  · exact Or.inl member

end Rows

/-! The two session-management elements of an application message. -/
section Elements
variable (source : AcarsEndpointCallsign)

def designatedFacility (element : MessageElement) : Option AcarsEndpointCallsign :=
  if element.id = "UM160" then
    match element.args.head? with
    | some (.facilityDesignation facility) => some facility
    | _ => none
  else none

def endsService (element : MessageElement) : Bool := element.id == "UM161"

def ndaEndpoint (facility : AcarsEndpointCallsign) : AcarsRoutingEndpoint := ⟨facility, ""⟩

theorem apply_element_eq (session : CPDLCSession) (element : MessageElement) :
    applyElement source session element =
      match designatedFacility element with
      | some facility => session.designate (ndaEndpoint facility)
      | none => if endsService element then session.terminationRequest source else session := by
  by_cases designation : element.id = "UM160"
  · rcases named : element.args.head? with _ | argument
    · simp [designatedFacility, endsService, applyElement, designation, named]
    · cases argument <;>
        simp [designatedFacility, endsService, applyElement, designation, named, ndaEndpoint]
  · simp [designatedFacility, endsService, applyElement, designation]

theorem designation_keeps_service (element : MessageElement) (facility : AcarsEndpointCallsign)
    (named : designatedFacility element = some facility) : endsService element = false := by
  by_cases designation : element.id = "UM160"
  · simp [endsService, designation]
  · simp [designatedFacility, designation] at named

theorem slots_apply_element (session : CPDLCSession) (element : MessageElement) :
    slots (applyElement source session element) =
      if endsService element then (slots session).eraseP (isAt source) else slots session := by
  rw [apply_element_eq]
  cases named : designatedFacility element with
  | some facility =>
      rw [designation_keeps_service element facility named]
      rfl
  | none =>
      cases service : endsService element with
      | true => exact slots_termination_request session source
      | false => rfl

theorem termination_request_nda (session : CPDLCSession) (station : AcarsEndpointCallsign) :
    (session.terminationRequest station).nextDataAuthority = session.nextDataAuthority := by
  unfold CPDLCSession.terminationRequest
  split_ifs <;> rfl

theorem termination_request_aircraft (session : CPDLCSession) (station : AcarsEndpointCallsign) :
    (session.terminationRequest station).aircraft = session.aircraft := by
  unfold CPDLCSession.terminationRequest
  split_ifs <;> rfl

theorem apply_element_nda (session : CPDLCSession) (element : MessageElement) :
    (applyElement source session element).nextDataAuthority =
      ((designatedFacility element).map ndaEndpoint).or session.nextDataAuthority := by
  rw [apply_element_eq]
  cases designatedFacility element with
  | some facility => rfl
  | none => cases endsService element <;> simp [termination_request_nda]

theorem apply_element_aircraft (session : CPDLCSession) (element : MessageElement) :
    (applyElement source session element).aircraft = session.aircraft := by
  rw [apply_element_eq]
  cases designatedFacility element with
  | some facility => rfl
  | none => cases endsService element <;> simp [termination_request_aircraft]

theorem apply_elements_sublist (elements : List MessageElement) (session : CPDLCSession) :
    (slots (elements.foldl (applyElement source) session)).Sublist (slots session) := by
  induction elements generalizing session with
  | nil => exact List.Sublist.refl _
  | cons element rest ih =>
      refine (ih (applyElement source session element)).trans ?_
      rw [slots_apply_element]
      split
      · exact List.eraseP_sublist
      · exact List.Sublist.refl _

/-- An element list ends only the service of its own source. -/
theorem apply_elements_keep (elements : List MessageElement) (session : CPDLCSession)
    (conn : CPDLCConnection) (member : conn ∈ slots session)
    (spared : callsign conn = source → elements.any endsService = false) :
    conn ∈ slots (elements.foldl (applyElement source) session) := by
  induction elements generalizing session with
  | nil => exact member
  | cons element rest ih =>
      refine ih (applyElement source session element) ?_ ?_
      · rw [slots_apply_element]
        split
        -- an end of service spares every station but its source
        · next service =>
            refine (List.mem_eraseP_of_neg ?_).mpr member
            intro hit
            have silent := spared ((is_at_iff source conn).mp hit)
            simp [service] at silent
        · exact member
      · intro own
        have silent := spared own
        rw [List.any_cons, Bool.or_eq_false_iff] at silent
        exact silent.2

/-- With distinct stations, a message that ends service leaves no slot to its source. -/
theorem apply_elements_gone (elements : List MessageElement) (session : CPDLCSession)
    (distinct : ((slots session).map callsign).Nodup) (ended : elements.any endsService = true)
    (conn : CPDLCConnection)
    (member : conn ∈ slots (elements.foldl (applyElement source) session)) :
    callsign conn ≠ source := by
  induction elements generalizing session with
  | nil => simp at ended
  | cons element rest ih =>
      by_cases service : endsService element = true
      -- later elements only take slots away
      · have inStep := (apply_elements_sublist source rest _).subset member
        rw [slots_apply_element, if_pos service] at inStep
        exact erased_absent callsign (slots session) distinct source conn inStep
      · have silent : endsService element = false := by simpa using service
        refine ih (applyElement source session element) ?_ ?_ member
        · simpa [slots_apply_element, silent] using distinct
        · simpa [silent] using ended

/-- The next data authority after a message is the last one it designates. -/
theorem apply_elements_nda (elements : List MessageElement) (session : CPDLCSession) :
    (elements.foldl (applyElement source) session).nextDataAuthority =
      ((elements.filterMap designatedFacility).getLast?.map ndaEndpoint).or
        session.nextDataAuthority := by
  induction elements using List.reverseRecOn with
  | nil => rfl
  | append_singleton elements element ih =>
      rw [List.foldl_append, List.foldl_cons, List.foldl_nil, apply_element_nda, ih,
        List.filterMap_append]
      cases named : designatedFacility element <;> simp [named]

theorem apply_elements_aircraft (elements : List MessageElement) (session : CPDLCSession) :
    (elements.foldl (applyElement source) session).aircraft = session.aircraft := by
  induction elements generalizing session with
  | nil => rfl
  | cons element rest ih => exact (ih _).trans (apply_element_aircraft source session element)

theorem normalize_id (element : MessageElement) :
    (normalizeElement toUppercase element).id = element.id := by
  unfold normalizeElement
  cases findDefinition element.id <;> rfl

theorem normalize_designated (element : MessageElement) :
    designatedFacility (normalizeElement toUppercase element) = designatedFacility element := by
  simp only [designatedFacility, normalize_id]
  unfold normalizeElement
  cases known : findDefinition element.id with
  | none => rfl
  | some definition =>
      rcases args : element.args with _ | ⟨argument, rest⟩
      · rfl
      · cases argument with
        -- only a declared free text changes, and it stays a free text
        | freeText text =>
            cases declared : definition.args[0]? with
            | none => simp [normalizeArgument, declared]
            | some expected => cases expected <;> simp [normalizeArgument, declared]
        | _ => simp [normalizeArgument]

/-- Upper-casing never touches what the session effects read. -/
theorem apply_normalized (session : CPDLCSession) (element : MessageElement) :
    applyElement source session (normalizeElement toUppercase element) =
      applyElement source session element := by
  have facility := normalize_designated toUppercase element
  have service : endsService (normalizeElement toUppercase element) = endsService element := by
    simp [endsService, normalize_id]
  rw [apply_element_eq, apply_element_eq, facility, service]

theorem apply_normalized_elements (elements : List MessageElement) (session : CPDLCSession) :
    (elements.map (normalizeElement toUppercase)).foldl (applyElement source) session =
      elements.foldl (applyElement source) session := by
  rw [List.foldl_map]
  exact List.foldl_ext _ _ _ fun state element _ =>
    apply_normalized toUppercase source state element

end Elements

/-! Inversion of a step: every later argument about runs starts here. -/
section Steps

def admits (session : CPDLCSession) (msg : CpdlcApplicationMessage) : Bool :=
  activeReady session && minInRange msg.min

/-- `idle` is a refused handler, or one that only passes a message on. -/
inductive Stepped (session : CPDLCSession) : Handler → CPDLCSession → Prop where
  | idle (handler : Handler)
      (refused : ∀ source destination msg,
        handler = .message ⟨source, destination, .application msg⟩ → admits session msg = false) :
      Stepped session handler session
  | logonRequest (source destination station : AcarsEndpointCallsign)
      (flightPlanOrigin flightPlanDestination : ICAOAirportCode) :
      Stepped session
        (.message ⟨source, destination, .metaMessage
          (.logonRequest station flightPlanOrigin flightPlanDestination)⟩)
        (session.logonRequest ⟨station, ""⟩)
  | logonAccepted (source destination : AcarsEndpointCallsign) :
      Stepped session (.message ⟨source, destination, .metaMessage (.logonResponse true)⟩)
        (session.logonAccepted source)
  | connectionRequest (source destination : AcarsEndpointCallsign) :
      Stepped session (.message ⟨source, destination, .metaMessage .connectionRequest⟩)
        (session.connectionRequest source)
  | connectionAccepted (source destination : AcarsEndpointCallsign) (after : CPDLCSession)
      (accepted : session.connectionAccepted destination = .ok after) :
      Stepped session (.message ⟨source, destination, .metaMessage (.connectionResponse true)⟩)
        after
  | application (source destination : AcarsEndpointCallsign) (msg : CpdlcApplicationMessage)
      (admitted : admits session msg = true) :
      Stepped session (.message ⟨source, destination, .application msg⟩)
        (msg.elements.foldl (applyElement source) session)
  | stationOffline (station : AcarsEndpointCallsign) :
      Stepped session (.stationOffline station) (session.terminationRequest station)

theorem application_update_ok (source : AcarsEndpointCallsign) (msg : CpdlcApplicationMessage)
    (session : CPDLCSession) (admitted : admits session msg = true) :
    applicationUpdate toUppercase source msg (some session) =
      .ok (msg.elements.foldl (applyElement source) session, normalizeMessage toUppercase msg) := by
  obtain ⟨ready, inRange⟩ := (Bool.and_eq_true _ _).mp admitted
  obtain ⟨active, taken, exchanging⟩ := (Option.any_eq_true _ _).mp ready
  have effects := apply_normalized_elements toUppercase source msg.elements session
  have inStep : minInRange (normalizeMessage toUppercase msg).min = true := inRange
  simp only [applicationUpdate, taken, exchanging, inStep, Bool.not_true, Bool.false_eq_true,
    if_false]
  rw [← effects]
  rfl

theorem application_update_refused (source : AcarsEndpointCallsign)
    (msg : CpdlcApplicationMessage) (session : CPDLCSession)
    (refused : admits session msg = false) :
    ∃ message, applicationUpdate toUppercase source msg (some session) = .error message := by
  simp only [applicationUpdate, normalizeMessage]
  cases active : session.activeConnection with
  | none => exact ⟨_, rfl⟩
  | some conn =>
      cases ready : conn.readyExchange with
      | false => exact ⟨_, by simp only [ready]; rfl⟩
      | true =>
          have outOfRange : minInRange msg.min = false := by
            simpa [admits, activeReady, active, ready] using refused
          exact ⟨_, by simp only [outOfRange, ready]; rfl⟩

theorem termination_request_absent (session : CPDLCSession) (station : AcarsEndpointCallsign)
    (absent : session.holds station = false) : session.terminationRequest station = session := by
  obtain ⟨front, back⟩ := Bool.or_eq_false_iff.mp absent
  simp [CPDLCSession.terminationRequest, front, back]

theorem termination_update_eq (session : CPDLCSession) (station : AcarsEndpointCallsign) :
    terminationUpdate station (some session) = .ok (some (session.terminationRequest station)) := by
  cases held : session.holds station with
  | true => simp [terminationUpdate, held]
  | false => simp [terminationUpdate, held, termination_request_absent session station held]

theorem step_offline (session : CPDLCSession) (station : AcarsEndpointCallsign) :
    step toUppercase session (.stationOffline station) = session.terminationRequest station := by
  simp [step, handle, termination_update_eq, Except.map]

theorem step_application (session : CPDLCSession) (source destination : AcarsEndpointCallsign)
    (msg : CpdlcApplicationMessage) :
    step toUppercase session (.message ⟨source, destination, .application msg⟩) =
      if admits session msg then msg.elements.foldl (applyElement source) session
      else session := by
  cases admitted : admits session msg with
  | true =>
      simp [step, handle, application_update_ok toUppercase source msg session admitted, Except.map]
  | false =>
      obtain ⟨message, failed⟩ :=
        application_update_refused toUppercase source msg session admitted
      simp [step, handle, failed, Except.map]

theorem stepped (session : CPDLCSession) (handler : Handler) :
    Stepped session handler (step toUppercase session handler) := by
  cases handler with
  | stationOffline station =>
      rw [step_offline]
      exact .stationOffline station
  | message cpdlc =>
      obtain ⟨source, destination, content⟩ := cpdlc
      cases content with
      | application msg =>
          rw [step_application]
          split
          · next admitted => exact .application source destination msg admitted
          · next refused =>
              refine .idle _ fun _ _ _ same => ?_
              cases same
              simpa using refused
      | metaMessage message =>
          cases message with
          | logonRequest station origin arrival =>
              exact .logonRequest source destination station origin arrival
          | logonResponse accepted =>
              cases accepted with
              | true => exact .logonAccepted source destination
              | false => exact .idle _ (by simp)
          | connectionRequest => exact .connectionRequest source destination
          | connectionResponse accepted =>
              cases accepted with
              | false => exact .idle _ (by simp)
              | true =>
                  cases outcome : session.connectionAccepted destination with
                  | ok after =>
                      have same : step toUppercase session (.message ⟨source, destination,
                          .metaMessage (.connectionResponse true)⟩) = after := by
                        simp [step, handle, metaUpdate, outcome, bind, Except.bind, pure,
                          Except.pure, Except.map]
                      rw [same]
                      exact .connectionAccepted source destination after outcome
                  -- nothing is written after a failed connect
                  | error failure =>
                      have same : step toUppercase session (.message ⟨source, destination,
                          .metaMessage (.connectionResponse true)⟩) = session := by
                        simp [step, handle, metaUpdate, outcome, bind, Except.bind, Except.map]
                      rw [same]
                      exact .idle _ (by simp)
          | logonForward flight origin arrival station => exact .idle _ (by simp)
          | sessionUpdate view => exact .idle _ (by simp)

end Steps

end OpenLink.SessionSteps
