import OpenLink.HandlerEffects

/-!
The abstract model of a session: the authorities of one aircraft, current and next, as a row of at
most two connections with their phases, and the station that is designated next. A row cannot hold
a second connection without a first one, nor a connection without a logon. The sessions of the
server refine it.
-/
namespace OpenLink.SessionAuthority
open Cpdlc Runs Session SessionRuns SessionSteps Slots

@[ext] structure Authority where
  row : List CpdlcConnectionView
  designated : Option AcarsEndpointCallsign
  short : row.length ≤ 2
  deriving DecidableEq

def isPeer (station : AcarsEndpointCallsign) (conn : CpdlcConnectionView) : Bool :=
  conn.peer == station

def logged (conn : CpdlcConnectionView) : CpdlcConnectionView :=
  if conn.phase = .logonPending then { conn with phase := .loggedOn } else conn

def linked (conn : CpdlcConnectionView) : CpdlcConnectionView := { conn with phase := .connected }

/-! The transitions. -/
namespace Authority

def free : Authority := ⟨[], none, by simp⟩

/-- A station in front of whose place only the first connection stands. -/
def arrive (authority : Authority) (conn : CpdlcConnectionView) : Authority :=
  { authority with row := place authority.row conn, short := place_length authority.row conn }

def change (authority : Authority) (station : AcarsEndpointCallsign)
    (by' : CpdlcConnectionView → CpdlcConnectionView) : Authority :=
  { authority with
    row := updateFirst (isPeer station) by' authority.row
    short := by rw [update_first_length]; exact authority.short }

def depart (authority : Authority) (station : AcarsEndpointCallsign) : Authority :=
  { authority with
    row := authority.row.eraseP (isPeer station)
    short := Nat.le_trans List.length_eraseP_le authority.short }

def designate (authority : Authority) (station : AcarsEndpointCallsign) : Authority :=
  { authority with designated := some station }

def exchanges (authority : Authority) : Bool :=
  authority.row.head?.any fun conn => conn.phase == .connected

def element (source : AcarsEndpointCallsign) (authority : Authority) (element : MessageElement) :
    Authority :=
  match designatedFacility element with
  | some facility => authority.designate facility
  | none => if endsService element then authority.depart source else authority

/-- What an event makes of the authorities; `none` where it is refused. -/
def act (authority : Authority) : Handler → Option Authority
  | .stationOffline station => some (authority.depart station)
  | .message ⟨source, destination, content⟩ =>
      match content with
      | .application msg =>
          if authority.exchanges && minInRange msg.min then
            some (msg.elements.foldl (element source) authority)
          else none
      | .metaMessage (.logonRequest station _ _) =>
          some (authority.arrive ⟨station, .logonPending⟩)
      | .metaMessage (.logonResponse true) => some (authority.change source logged)
      | .metaMessage .connectionRequest =>
          -- the designated station needs no logon of its own
          if !authority.row.any (isPeer source) && authority.designated == some source then
            some (authority.arrive ⟨source, .loggedOn⟩)
          else some authority
      | .metaMessage (.connectionResponse true) =>
          match authority.row.find? (isPeer destination) with
          | some conn =>
              if conn.phase = .logonPending then none
              else some (authority.change destination linked)
          | none => some authority
      | .metaMessage _ => some authority

def next (authority : Authority) (handler : Handler) : Authority :=
  (authority.act handler).getD authority

def aircraftView (aircraft : AcarsRoutingEndpoint) (authority : Authority) : CpdlcSessionView where
  aircraft := some aircraft.callsign
  aircraftAddress := some aircraft.address
  activeConnection := authority.row[0]?
  inactiveConnection := authority.row[1]?
  nextDataAuthority := authority.designated

def stationView (aircraft : AcarsRoutingEndpoint) (station : AcarsEndpointCallsign)
    (authority : Authority) : CpdlcSessionView :=
  let own (conn : CpdlcConnectionView) : Option CpdlcConnectionView :=
    if conn.peer = station then some { conn with peer := aircraft.callsign } else none
  { aircraft := some aircraft.callsign
    aircraftAddress := some aircraft.address
    activeConnection := authority.row[0]?.bind own
    inactiveConnection := authority.row[1]?.bind own
    nextDataAuthority := authority.designated }

end Authority

/-! The abstraction of a session. -/
section Abstraction

def shown (conn : CPDLCConnection) : CpdlcConnectionView := conn.toView conn.station.callsign

@[simp] theorem shown_peer (conn : CPDLCConnection) : (shown conn).peer = callsign conn := rfl

@[simp] theorem is_peer_shown (station : AcarsEndpointCallsign) (conn : CPDLCConnection) :
    isPeer station (shown conn) = isAt station conn := rfl

theorem shown_logged (conn : CPDLCConnection) (valid : conn.connection = true → conn.logon = true) :
    shown conn.logOn = logged (shown conn) := by
  rcases conn with ⟨station, _ | _, _ | _⟩ <;> simp_all [shown, logged, CPDLCConnection.toView,
    CPDLCConnection.phase, CPDLCConnection.logOn]

theorem shown_linked (conn : CPDLCConnection) : shown (establish conn) = linked (shown conn) := by
  simp [shown, linked, establish, CPDLCConnection.toView, CPDLCConnection.phase]

theorem shown_pending (conn : CPDLCConnection) (valid : conn.connection = true → conn.logon = true) :
    (shown conn).phase = .logonPending ↔ conn.logon = false := by
  rcases conn with ⟨station, _ | _, _ | _⟩ <;> simp_all [shown, CPDLCConnection.toView,
    CPDLCConnection.phase]

theorem slots_short (session : CPDLCSession) : (slots session).length ≤ 2 := by
  rcases session with ⟨aircraft, _ | active, _ | inactive, nda⟩ <;> simp [slots]

def authorityOf (session : CPDLCSession) : Authority where
  row := (slots session).map shown
  designated := session.nextDataAuthority.map AcarsRoutingEndpoint.callsign
  short := by rw [List.length_map]; exact slots_short session

end Abstraction

/-! Each update of a session as a transition. -/
section Updates
variable (session : CPDLCSession) (station : AcarsEndpointCallsign)

theorem authority_logon_request (ordered : Ordered session) :
    authorityOf (session.logonRequest ⟨station, ""⟩) =
      (authorityOf session).arrive ⟨station, .logonPending⟩ := by
  apply Authority.ext
  · change (slots _).map shown = place ((slots session).map shown) _
    rw [slots_logon_request session ordered, map_place]
    rfl
  · unfold CPDLCSession.logonRequest authorityOf Authority.arrive
    split <;> rfl

theorem authority_logon_accepted (valid : WellFormed session) :
    authorityOf (session.logonAccepted station) = (authorityOf session).change station logged := by
  apply Authority.ext
  · change (slots _).map shown = updateFirst (isPeer station) logged ((slots session).map shown)
    rw [slots_logon_accepted]
    exact map_update_first shown _ _ _ _ _ (is_peer_shown station)
      fun conn member => shown_logged conn (valid.logged conn member)
  · unfold CPDLCSession.logonAccepted authorityOf Authority.change
    split_ifs <;> rfl

theorem invited_shown :
    invited session station = (!(authorityOf session).row.any (isPeer station) &&
      (authorityOf session).designated == some station) := by
  have held : session.holds station = (authorityOf session).row.any (isPeer station) := by
    rcases session with ⟨aircraft, _ | active, _ | inactive, nda⟩ <;>
      simp [CPDLCSession.holds, heldBy, authorityOf, slots, isPeer, callsign]
  have named : (session.nextDataAuthority.any fun nda => nda.callsign == station) =
      ((authorityOf session).designated == some station) := by
    cases nda : session.nextDataAuthority <;> simp [authorityOf, nda]
  rw [invited, held, named]

theorem authority_connection_request (ordered : Ordered session) :
    authorityOf (session.connectionRequest station) =
      if invited session station then (authorityOf session).arrive ⟨station, .loggedOn⟩
      else authorityOf session := by
  have row : (slots (session.connectionRequest station)).map shown = _ :=
    congrArg (List.map shown) (slots_connection_request session station ordered)
  have designated : (session.connectionRequest station).nextDataAuthority =
      session.nextDataAuthority := by
    rw [connection_request_eq]
    split_ifs <;> rfl
  cases asked : invited session station with
  | false =>
      rw [asked] at row
      exact Authority.ext row (congrArg (Option.map _) designated)
  | true =>
      rw [asked, if_pos rfl, map_place] at row
      exact Authority.ext row (congrArg (Option.map _) designated)

def reached : Option CPDLCConnection := (slots session).find? (isAt station)

theorem reached_front (conn : CPDLCConnection) (taken : session.activeConnection = some conn)
    (here : isAt station conn = true) : reached session station = some conn := by
  simp [reached, slots, taken, here]

theorem reached_back (front : heldBy session.activeConnection station = false)
    (conn : CPDLCConnection) (taken : session.inactiveConnection = some conn)
    (here : isAt station conn = true) : reached session station = some conn := by
  cases active : session.activeConnection with
  | none => simp [reached, slots, active, taken, here]
  | some other =>
      have away : isAt station other = false := by simpa [active, held_some] using front
      simp [reached, slots, active, taken, here, away]

theorem reached_none (absent : session.holds station = false) : reached session station = none := by
  rw [reached, List.find?_eq_none]
  intro conn member here
  have held := (holds_iff session station).mpr ⟨conn, member, (is_at_iff station conn).mp here⟩
  rw [absent] at held
  cases held

/-- An acceptance fails at a connection without a logon, and only there. -/
theorem accepted_error (message : String)
    (failed : session.connectionAccepted station = .error message) :
    ∃ conn, reached session station = some conn ∧ conn.logon = false := by
  cases front : heldBy session.activeConnection station with
  | true =>
      obtain ⟨conn, taken, here⟩ := held_by_taken station _ front
      refine ⟨conn, reached_front session station conn taken here, ?_⟩
      by_contra logon
      have joined := (connect_ok conn _).mpr ⟨by simpa using logon, rfl⟩
      simp [CPDLCSession.connectionAccepted, taken, held_some, here, joined, pure, bind,
        Except.pure, Except.bind] at failed
  | false =>
      cases back : heldBy session.inactiveConnection station with
      | true =>
          obtain ⟨conn, taken, here⟩ := held_by_taken station _ back
          refine ⟨conn, reached_back session station front conn taken here, ?_⟩
          by_contra logon
          have joined := (connect_ok conn _).mpr ⟨by simpa using logon, rfl⟩
          simp [CPDLCSession.connectionAccepted, front, taken, held_some, here, joined, pure, bind,
            Except.pure, Except.bind] at failed
      | false =>
          simp [CPDLCSession.connectionAccepted, front, back, pure, Except.pure] at failed

theorem accepted_ok (after : CPDLCSession)
    (accepted : session.connectionAccepted station = .ok after) :
    (∀ conn, reached session station = some conn → conn.logon = true) ∧
      after.nextDataAuthority = session.nextDataAuthority ∧
      (reached session station = none → after = session) := by
  rcases connection_accepted_cases session station after accepted with
    ⟨conn, taken, here, logon, rfl⟩ | ⟨front, conn, taken, here, logon, rfl⟩ | ⟨absent, rfl⟩
  · rw [reached_front session station conn taken here]
    simp [logon]
  · rw [reached_back session station front conn taken here]
    simp [logon]
  · rw [reached_none after station absent]
    simp

theorem authority_connection_accepted (valid : WellFormed session) :
    (session.connectionAccepted station).toOption.map authorityOf =
      match (authorityOf session).row.find? (isPeer station) with
      | some conn =>
          if conn.phase = .logonPending then none
          else some ((authorityOf session).change station linked)
      | none => some (authorityOf session) := by
  have first : (authorityOf session).row.find? (isPeer station) =
      (reached session station).map shown := by
    rw [authorityOf, List.find?_map]
    rfl
  have pending : ∀ conn, reached session station = some conn →
      ((shown conn).phase = .logonPending ↔ conn.logon = false) := fun conn found =>
    shown_pending conn (valid.logged conn (List.mem_of_find?_eq_some found))
  rw [first]
  -- the session refuses just where the first connection with the station is not logged on
  cases outcome : session.connectionAccepted station with
  | error message =>
      obtain ⟨conn, found, logon⟩ := accepted_error session station message outcome
      simp [found, (pending conn found).mpr logon, Except.toOption]
  | ok after =>
      obtain ⟨logon, nda, absent⟩ := accepted_ok session station after outcome
      cases found : reached session station with
      | none => simp [absent found, Except.toOption]
      | some conn =>
          have live : (shown conn).phase ≠ .logonPending := by
            rw [Ne, pending conn found, logon conn found]
            simp
          have moved : authorityOf after = (authorityOf session).change station linked := by
            apply Authority.ext
            · change (slots _).map shown = updateFirst (isPeer station) linked _
              rw [slots_connection_accepted session station after outcome]
              exact map_update_first shown _ _ _ _ _ (is_peer_shown station)
                fun conn _ => shown_linked conn
            · exact congrArg (Option.map _) nda
          simp [live, moved, Except.toOption]

theorem authority_termination_request :
    authorityOf (session.terminationRequest station) = (authorityOf session).depart station := by
  apply Authority.ext
  · change (slots _).map shown = ((slots session).map shown).eraseP (isPeer station)
    rw [slots_termination_request, List.eraseP_map]
    rfl
  · exact congrArg (Option.map _) (termination_request_nda session station)

theorem authority_element (source : AcarsEndpointCallsign) (element : MessageElement) :
    authorityOf (applyElement source session element) =
      (authorityOf session).element source element := by
  rw [apply_element_eq, Authority.element]
  cases designatedFacility element with
  | some facility => rfl
  | none =>
      cases endsService element with
      | true => exact authority_termination_request session source
      | false => rfl

theorem authority_elements (source : AcarsEndpointCallsign) (elements : List MessageElement) :
    authorityOf (elements.foldl (applyElement source) session) =
      elements.foldl (Authority.element source) (authorityOf session) := by
  induction elements generalizing session with
  | nil => rfl
  | cons element rest ih => rw [List.foldl_cons, List.foldl_cons, ih, authority_element]

theorem exchanges_shown (valid : WellFormed session) :
    activeReady session = (authorityOf session).exchanges := by
  rcases session with ⟨aircraft, _ | active, _ | inactive, nda⟩
  · rfl
  · cases valid.ordered rfl
  all_goals
    have logon := valid.logged active (by simp [slots])
    rcases active with ⟨at', _ | _, _ | _⟩ <;> simp_all [activeReady, CPDLCConnection.readyExchange,
      Authority.exchanges, authorityOf, slots, shown, CPDLCConnection.toView, CPDLCConnection.phase]

end Updates

/-! Runs. -/
section Refinement
variable (toUppercase : String → String)

/-- The handlers accept what the authorities accept, and leave what they leave. -/
theorem handle_refines (session : CPDLCSession) (valid : WellFormed session) (handler : Handler) :
    (handle toUppercase session handler).toOption.map authorityOf =
      (authorityOf session).act handler := by
  cases handler with
  | stationOffline station =>
      simp only [handle, termination_update_eq]
      exact congrArg some (authority_termination_request session station)
  | message cpdlc =>
      obtain ⟨source, destination, msg | message⟩ := cpdlc
      · have admitted : admits session msg =
            ((authorityOf session).exchanges && minInRange msg.min) := by
          rw [admits, exchanges_shown session valid]
        simp only [handle, Authority.act, ← admitted]
        cases taken : admits session msg with
        | true =>
            rw [application_update_ok toUppercase source msg session taken, if_pos rfl]
            exact congrArg some (authority_elements session source msg.elements)
        | false =>
            obtain ⟨failure, refused⟩ :=
              application_update_refused toUppercase source msg session taken
            rw [refused]
            rfl
      · cases message with
        | logonRequest station origin arrival =>
            exact congrArg some (authority_logon_request session station valid.ordered)
        | logonResponse accepted =>
            cases accepted with
            | true => exact congrArg some (authority_logon_accepted session source valid)
            | false => rfl
        -- an uninvited request is no failure: the session is stored again as it was
        | connectionRequest =>
            have invitation := invited_shown session source
            have requested := authority_connection_request session source valid.ordered
            change some (authorityOf (session.connectionRequest source)) = _
            rw [requested]
            simp only [Authority.act, ← invitation]
            split <;> rfl
        | connectionResponse accepted =>
            cases accepted with
            | false => rfl
            | true =>
                have accepted := authority_connection_accepted session destination valid
                simp only [Authority.act, ← accepted]
                cases outcome : session.connectionAccepted destination <;>
                  simp [handle, metaUpdate, outcome, bind, Except.bind, pure, Except.pure,
                    Except.map, Except.toOption]
        | logonForward flight origin arrival station => rfl
        | sessionUpdate view => rfl

theorem step_refines (session : CPDLCSession) (handler : Handler) (valid : WellFormed session) :
    authorityOf (step toUppercase session handler) = (authorityOf session).next handler := by
  rw [Authority.next, ← handle_refines toUppercase session valid handler, step]
  cases handle toUppercase session handler <;> rfl

def authorityAfter (handlers : List Handler) : Authority := exec Authority.next .free handlers

theorem session_after_refines (aircraft : AcarsRoutingEndpoint) (handlers : List Handler) :
    authorityOf (sessionAfter toUppercase aircraft handlers) = authorityAfter handlers :=
  exec_simulates (step toUppercase) Authority.next authorityOf WellFormed
    (well_formed_step toUppercase) (step_refines toUppercase) (.new aircraft)
    (well_formed_new aircraft) handlers

/-! What the parties are shown of a session is what they are shown of its authorities. -/
theorem shown_aircraft (session : CPDLCSession) (ordered : Ordered session) :
    session.toAircraftView = (authorityOf session).aircraftView session.aircraft := by
  rcases session with ⟨aircraft, _ | active, _ | inactive, nda⟩
  · rfl
  · cases ordered rfl
  · rfl
  · rfl

theorem shown_station (session : CPDLCSession) (ordered : Ordered session)
    (station : AcarsEndpointCallsign) :
    session.toStationView station = (authorityOf session).stationView session.aircraft station := by
  rcases session with ⟨aircraft, _ | active, _ | inactive, nda⟩
  · rfl
  · cases ordered rfl
  · rfl
  · rfl

section After
variable (aircraft : AcarsRoutingEndpoint) (handlers : List Handler)

theorem handle_after (handler : Handler) :
    (handle toUppercase (sessionAfter toUppercase aircraft handlers) handler).toOption.map
        authorityOf = (authorityAfter handlers).act handler := by
  have valid := well_formed_after toUppercase aircraft handlers
  rw [handle_refines toUppercase _ valid handler, session_after_refines]

theorem aircraft_after :
    (sessionAfter toUppercase aircraft handlers).toAircraftView =
      (authorityAfter handlers).aircraftView aircraft := by
  have valid := well_formed_after toUppercase aircraft handlers
  rw [shown_aircraft _ valid.ordered, session_after_refines,
    HandlerEffects.session_after_aircraft]

theorem station_after (station : AcarsEndpointCallsign) :
    (sessionAfter toUppercase aircraft handlers).toStationView station =
      (authorityAfter handlers).stationView aircraft station := by
  have valid := well_formed_after toUppercase aircraft handlers
  rw [shown_station _ valid.ordered, session_after_refines,
    HandlerEffects.session_after_aircraft]

theorem session_refines (aircraft : AcarsRoutingEndpoint) (handlers : List Handler) :
    let session := sessionAfter toUppercase aircraft handlers
    let authority := authorityAfter handlers
    (∀ handler, (handle toUppercase session handler).toOption.map authorityOf =
        authority.act handler) ∧
      session.toAircraftView = authority.aircraftView aircraft ∧
      ∀ station, session.toStationView station = authority.stationView aircraft station :=
  ⟨handle_after toUppercase aircraft handlers, aircraft_after toUppercase aircraft handlers,
    station_after toUppercase aircraft handlers⟩

end After

/-- The aircraft is shown all that there is to the authorities. -/
theorem aircraft_view_injective (aircraft : AcarsRoutingEndpoint) (first second : Authority)
    (same : first.aircraftView aircraft = second.aircraftView aircraft) : first = second := by
  simp only [Authority.aircraftView, CpdlcSessionView.mk.injEq, true_and] at same
  obtain ⟨front, back, designated⟩ := same
  apply Authority.ext _ designated
  apply List.ext_getElem?
  intro position
  match position with
  | 0 => exact front
  | 1 => exact back
  -- no row goes beyond its second place
  | position + 2 =>
      have short := first.short
      have short_second := second.short
      rw [List.getElem?_eq_none (by omega), List.getElem?_eq_none (by omega)]

theorem view_determines (aircraft : AcarsRoutingEndpoint) (first second later : List Handler)
    (same : (sessionAfter toUppercase aircraft first).toAircraftView =
      (sessionAfter toUppercase aircraft second).toAircraftView) :
    let session := sessionAfter toUppercase aircraft (first ++ later)
    let other := sessionAfter toUppercase aircraft (second ++ later)
    session.toAircraftView = other.toAircraftView ∧
      (∀ station, session.toStationView station = other.toStationView station) ∧
      ∀ handler, (handle toUppercase session handler).toOption.isSome =
        (handle toUppercase other handler).toOption.isSome := by
  intro session other
  have alike : authorityAfter first = authorityAfter second := by
    apply aircraft_view_injective aircraft
    rw [← aircraft_after toUppercase, ← aircraft_after toUppercase, same]
  have onward : authorityAfter (first ++ later) = authorityAfter (second ++ later) := by
    rw [authorityAfter, authorityAfter, exec_append, exec_append]
    exact congrArg (exec Authority.next · later) alike
  refine ⟨?_, fun station => ?_, fun handler => ?_⟩
  · rw [aircraft_after, aircraft_after, onward]
  · rw [station_after, station_after, onward]
  · have answers := handle_after toUppercase aircraft (first ++ later) handler
    rw [onward, ← handle_after toUppercase aircraft (second ++ later) handler] at answers
    simpa using congrArg Option.isSome answers

end Refinement

section Sample

theorem withdrawn_logon :
    let aircraft : AcarsRoutingEndpoint := ⟨"AFR123", "39401A"⟩
    let logon (station : AcarsEndpointCallsign) : Handler :=
      .message ⟨"AFR123", station, .metaMessage (.logonRequest station "LFPG" "EHAM")⟩
    let answer : Handler := .message ⟨"EHAM", "AFR123", .metaMessage (.logonResponse true)⟩
    let withdrawn := [logon "LFPG", .stationOffline "LFPG"]
    let later := [logon "EHAM", answer]
    (sessionAfter asciiUppercase aircraft (withdrawn ++ later)).toAircraftView =
        (sessionAfter asciiUppercase aircraft later).toAircraftView ∧
      (sessionAfter asciiUppercase aircraft later).toAircraftView.activeConnection =
        some ⟨"EHAM", .loggedOn⟩ := by
  intro aircraft logon answer withdrawn later
  have alike := view_determines asciiUppercase aircraft withdrawn [] later (by decide)
  exact ⟨alike.1, by decide⟩

end Sample

end OpenLink.SessionAuthority
