import OpenLink.SessionHistory

/-!
Three laws one would want of every run of the handlers, each with what the
handlers keep of it: a connected inactive slot stands behind a connected active
one, a station whose service has ended stays out, a refused logon is undone.
-/
namespace OpenLink.SessionLaws
open Cpdlc Session Slots SessionSteps SessionRuns SessionHistory Runs

variable (toUppercase : String → String)

def connected (slot : Option CPDLCConnection) : Bool :=
  slot.any fun conn => conn.phase == .connected

@[simp] theorem connected_none : connected none = false := rfl

@[simp] theorem connected_some (conn : CPDLCConnection) :
    connected (some conn) = conn.connection := by
  rw [Bool.eq_iff_iff, ← phase_connected_iff]
  simp [connected]

theorem connected_log_on (slot : Option CPDLCConnection) :
    connected (slot.map .logOn) = connected slot := by
  cases slot <;> simp [CPDLCConnection.logOn]

/-! The active connection before the inactive one. -/
section Precedence

def ActiveFirst (session : CPDLCSession) : Prop :=
  connected session.inactiveConnection = true → connected session.activeConnection = true

instance (session : CPDLCSession) : Decidable (ActiveFirst session) :=
  inferInstanceAs (Decidable (_ → _))

theorem active_first_new (aircraft : AcarsRoutingEndpoint) : ActiveFirst (.new aircraft) := by
  simp [ActiveFirst, CPDLCSession.new]

theorem active_first_vacant (session : CPDLCSession)
    (vacant : session.inactiveConnection = none) : ActiveFirst session := by
  simp [ActiveFirst, vacant]

/-- An accepted connection of the inactive station, logged on, while the active
connection does not stand. -/
def connectsBehind (session : CPDLCSession) : Handler → Bool
  | .message ⟨_, destination, .metaMessage (.connectionResponse true)⟩ =>
      !heldBy session.activeConnection destination &&
        session.inactiveConnection.any (fun conn => isAt destination conn && conn.logon) &&
        !connected session.activeConnection
  | _ => false

theorem active_first_termination (session : CPDLCSession) (station : AcarsEndpointCallsign)
    (first : ActiveFirst session) : ActiveFirst (session.terminationRequest station) := by
  unfold CPDLCSession.terminationRequest
  split_ifs
  · exact active_first_vacant _ rfl
  · exact active_first_vacant _ rfl
  · exact first

theorem active_first_elements (source : AcarsEndpointCallsign) (elements : List MessageElement)
    (session : CPDLCSession) (first : ActiveFirst session) :
    ActiveFirst (elements.foldl (applyElement source) session) := by
  induction elements generalizing session with
  | nil => exact first
  | cons element rest ih =>
      apply ih
      rw [apply_element_eq]
      cases designatedFacility element with
      | some facility => exact first
      | none =>
          cases endsService element with
          | true => exact active_first_termination session source first
          | false => exact first

theorem active_first_step (session : CPDLCSession) (handler : Handler)
    (ordered : Ordered session) (first : ActiveFirst session)
    (behind : connectsBehind session handler = false) :
    ActiveFirst (step toUppercase session handler) := by
  have done := stepped toUppercase session handler
  generalize step toUppercase session handler = after at done ⊢
  cases done with
  | idle => exact first
  | logonRequest source destination station origin arrival =>
      unfold CPDLCSession.logonRequest
      split_ifs with free
      · exact active_first_vacant _ (ordered (Option.isNone_iff_eq_none.mp free))
      -- a newcomer is not connected yet
      · simp [ActiveFirst, CPDLCConnection.new]
  | logonAccepted source destination =>
      unfold CPDLCSession.logonAccepted
      split_ifs <;> simpa [ActiveFirst, connected_log_on] using first
  | connectionRequest source destination =>
      rw [connection_request_eq]
      split_ifs with asked free
      · exact active_first_vacant _ (ordered (Option.isNone_iff_eq_none.mp free))
      · simp [ActiveFirst, ndaConnection, CPDLCConnection.new, CPDLCConnection.logOn]
      · exact first
  | connectionAccepted source destination _ accepted =>
      rcases connection_accepted_cases session destination after accepted with
        ⟨conn, _, _, _, rfl⟩ | ⟨front, conn, taken, here, logged, rfl⟩ | ⟨_, rfl⟩
      · simp [ActiveFirst, establish]
      -- the guard leaves this case only where the active connection stands
      · intro _
        simpa [connectsBehind, front, taken, here, logged] using behind
      · exact first
  | application source destination msg admitted =>
      exact active_first_elements source msg.elements session first
  | stationOffline station => exact active_first_termination session station first

theorem connection_accepted_inactive (session : CPDLCSession) (station : AcarsEndpointCallsign)
    (conn : CPDLCConnection) (front : heldBy session.activeConnection station = false)
    (taken : session.inactiveConnection = some conn) (here : isAt station conn = true)
    (logged : conn.logon = true) :
    session.connectionAccepted station =
      .ok { session with inactiveConnection := some (establish conn) } := by
  simp [CPDLCSession.connectionAccepted, front, taken, held_some, here, CPDLCConnection.connect,
    logged, establish, bind, Except.bind, pure, Except.pure]

theorem active_first_broken (session : CPDLCSession) (handler : Handler)
    (behind : connectsBehind session handler = true) :
    ¬ ActiveFirst (step toUppercase session handler) := by
  rcases handler with ⟨source, destination, msg | message⟩ | station
  · simp [connectsBehind] at behind
  · cases message with
    | connectionResponse accepted =>
        cases accepted with
        | false => simp [connectsBehind] at behind
        | true =>
            simp only [connectsBehind, Bool.and_eq_true, Bool.not_eq_true'] at behind
            obtain ⟨⟨front, back⟩, standing⟩ := behind
            obtain ⟨conn, taken, ready⟩ := (Option.any_eq_true _ _).mp back
            obtain ⟨here, logged⟩ := (Bool.and_eq_true _ _).mp ready
            have outcome := connection_accepted_inactive session destination conn front taken here
              logged
            have same : step toUppercase session (.message ⟨source, destination,
                .metaMessage (.connectionResponse true)⟩) =
                { session with inactiveConnection := some (establish conn) } := by
              simp [step, handle, metaUpdate, outcome, bind, Except.bind, pure, Except.pure,
                Except.map]
            rw [same]
            simp [ActiveFirst, establish, standing]
    | _ => simp [connectsBehind] at behind
  · simp [connectsBehind] at behind

/-- Throughout a run the inactive connection is connected only behind a connected
active one, if and only if no acceptance connects the inactive station first. -/
theorem active_first_throughout_iff (aircraft : AcarsRoutingEndpoint) (handlers : List Handler) :
    (∀ before, before <+: handlers → ActiveFirst (sessionAfter toUppercase aircraft before)) ↔
      Guarded (step toUppercase) (fun session handler => connectsBehind session handler = false)
        (.new aircraft) handlers := by
  have start : WellFormed (.new aircraft) ∧ ActiveFirst (.new aircraft) :=
    ⟨well_formed_new aircraft, active_first_new aircraft⟩
  have exactly := guarded_exact (step toUppercase)
    (fun session handler => connectsBehind session handler = false)
    (fun session => WellFormed session ∧ ActiveFirst session)
    (fun session handler valid clear => ⟨well_formed_step toUppercase session handler valid.1,
      active_first_step toUppercase session handler valid.1.ordered valid.2 clear⟩)
    (fun session handler _ behind after =>
      active_first_broken toUppercase session handler (by simpa using behind) after.2)
    (.new aircraft) start handlers
  rw [exactly]
  constructor
  · intro always before short
    exact ⟨well_formed_after toUppercase aircraft before, always before short⟩
  · exact fun always before short => (always before short).2

/-- A second station that answers first connects behind a pending logon, and the
traffic of the aircraft is then refused. -/
theorem second_station_first :
    ¬ ActiveFirst (sessionAfter String.toUpper ⟨"AFR123", "39A1B2"⟩
        (logonTo "LFFF" :: attachTo "EGTT")) ∧
      ∀ msg, admits (sessionAfter String.toUpper ⟨"AFR123", "39A1B2"⟩
        (logonTo "LFFF" :: attachTo "EGTT")) msg = false := by
  refine ⟨by decide, fun msg => ?_⟩
  have idle : activeReady (sessionAfter String.toUpper ⟨"AFR123", "39A1B2"⟩
      (logonTo "LFFF" :: attachTo "EGTT")) = false := by decide
  simp [admits, idle]

end Precedence

/-! A station whose service has ended. -/
section Finality
variable (station : AcarsEndpointCallsign)

def connectedTo (session : CPDLCSession) : Bool :=
  (slots session).any fun conn => isAt station conn && conn.phase == .connected

/-- The handler neither asks for a logon to the station nor is an accepted message
with an element that designates it. -/
def uninvited (session : CPDLCSession) : Handler → Bool
  | .message ⟨_, _, .metaMessage (.logonRequest asked _ _)⟩ => asked != station
  | .message ⟨_, _, .application msg⟩ =>
      !(admits session msg && msg.elements.any fun element =>
        designatedFacility element == some station)
  | _ => true

/-- The station is out: it holds no slot, and no designation lets it back in. -/
def Out (session : CPDLCSession) : Prop :=
  session.holds station = false ∧ ndaCallsign session ≠ some station

variable {station}

theorem connected_to_held (session : CPDLCSession) (back : connectedTo station session = true) :
    session.holds station = true := by
  obtain ⟨conn, member, here⟩ := List.any_eq_true.mp back
  exact (holds_iff session station).mpr
    ⟨conn, member, (is_at_iff station conn).mp ((Bool.and_eq_true _ _).mp here).1⟩

theorem uninvited_designation (session : CPDLCSession) (handler : Handler)
    (alone : uninvited station session handler = true) :
    designation session handler ≠ some station := by
  intro named
  rcases handler with ⟨source, destination, msg | message⟩ | gone
  · simp only [designation] at named
    split at named
    · next admitted =>
        -- the last designation of the message is one of its elements
        have member := List.mem_of_getLast? named
        obtain ⟨element, inMessage, facility⟩ := List.mem_filterMap.mp member
        have found : (msg.elements.any fun element =>
            designatedFacility element == some station) = true :=
          List.any_eq_true.mpr ⟨element, inMessage, by simp [facility]⟩
        simp [uninvited, admitted, found] at alone
    · cases named
  · simp [designation] at named
  · simp [designation] at named

theorem out_step (session : CPDLCSession) (handler : Handler) (ordered : Ordered session)
    (out : Out station session) (alone : uninvited station session handler = true) :
    Out station (step toUppercase session handler) := by
  obtain ⟨absent, undesignated⟩ := out
  have unheld : ∀ conn ∈ slots session, callsign conn ≠ station := by
    intro conn member here
    simp [(holds_iff session station).mpr ⟨conn, member, here⟩] at absent
  constructor
  · by_contra present
    obtain ⟨conn, member, here⟩ := (holds_iff _ station).mp (by simpa using present)
    cases slot_origin toUppercase session handler ordered conn member with
    | kept _ old => exact unheld conn old here
    | requested asked request =>
        obtain rfl : asked = station := here
        obtain ⟨source, destination, origin, arrival, rfl⟩ := request
        simp [uninvited] at alone
    | designated asked request =>
        obtain rfl : asked = station := here
        exact undesignated request.1
    | loggedOn old inRow granted => exact unheld old inRow here
    | connected old inRow logged granted => exact unheld old inRow here
  · rw [nda_callsign_step]
    cases named : designation session handler with
    | none => exact undesignated
    | some other =>
        have away := uninvited_designation session handler alone
        rw [named] at away
        exact away

theorem out_after (aircraft : AcarsRoutingEndpoint) (run later : List Handler)
    (out : Out station (sessionAfter toUppercase aircraft run))
    (alone : Guarded (step toUppercase)
      (fun session handler => uninvited station session handler = true)
      (sessionAfter toUppercase aircraft run) later) :
    Out station (sessionAfter toUppercase aircraft (run ++ later)) := by
  have kept := guarded_invariant (step toUppercase)
    (fun session handler => uninvited station session handler = true)
    (fun session => WellFormed session ∧ Out station session)
    (fun session handler valid alone => ⟨well_formed_step toUppercase session handler valid.1,
      out_step toUppercase session handler valid.1.ordered valid.2 alone⟩)
    (sessionAfter toUppercase aircraft run) ⟨well_formed_after toUppercase aircraft run, out⟩
    later alone
  rw [sessionAfter, exec_append]
  exact kept.2

def reconnection (station aircraft : AcarsEndpointCallsign) : List Handler :=
  [.message ⟨station, aircraft, .metaMessage .connectionRequest⟩,
    .message ⟨aircraft, station, .metaMessage (.connectionResponse true)⟩]

theorem connection_accepted_active (session : CPDLCSession) (conn : CPDLCConnection)
    (taken : session.activeConnection = some conn) (here : isAt station conn = true)
    (logged : conn.logon = true) :
    session.connectionAccepted station =
      .ok { session with activeConnection := some (establish conn) } := by
  simp [CPDLCSession.connectionAccepted, taken, held_some, here, CPDLCConnection.connect, logged,
    establish, bind, Except.bind, pure, Except.pure]

theorem step_acceptance (session after : CPDLCSession) (source : AcarsEndpointCallsign)
    (accepted : session.connectionAccepted station = .ok after) :
    step toUppercase session (.message ⟨source, station, .metaMessage (.connectionResponse true)⟩) =
      after := by
  simp [step, handle, metaUpdate, accepted, bind, Except.bind, pure, Except.pure, Except.map]

/-- A designation that is left over lets the station back in at its first request. -/
theorem reconnected (session : CPDLCSession) (aircraft : AcarsEndpointCallsign)
    (absent : session.holds station = false) (authority : ndaCallsign session = some station) :
    connectedTo station
      (exec (step toUppercase) session (reconnection station aircraft)) = true := by
  have asked : invited session station = true := by
    obtain ⟨nda, named, same⟩ := Option.map_eq_some_iff.mp authority
    simp [invited, absent, named, same]
  have request : step toUppercase session
      (.message ⟨station, aircraft, .metaMessage .connectionRequest⟩) =
        session.connectionRequest station := rfl
  have here : isAt station (ndaConnection station) = true := by
    simp [isAt, callsign, ndaConnection, CPDLCConnection.new, CPDLCConnection.logOn]
  have logged : (ndaConnection station).logon = true := rfl
  have front := invited_absent session station asked
  simp only [reconnection, exec_cons, exec_nil, request, connection_request_eq, asked, if_true]
  rcases session with ⟨flight, _ | active, inactive, nda⟩
  · have accepted := connection_accepted_active
      ⟨flight, some (ndaConnection station), inactive, nda⟩ _ rfl here logged
    rw [Option.isNone_none, if_pos rfl, step_acceptance toUppercase _ _ aircraft accepted]
    simp [connectedTo, slots, establish, phase_connected_iff, isAt, callsign, ndaConnection,
      CPDLCConnection.new, CPDLCConnection.logOn]
  · have accepted := connection_accepted_inactive
      ⟨flight, some active, some (ndaConnection station), nda⟩ station _ front rfl here logged
    rw [Option.isNone_some, if_neg (by simp), step_acceptance toUppercase _ _ aircraft accepted]
    simp [connectedTo, slots, establish, phase_connected_iff, isAt, callsign, ndaConnection,
      CPDLCConnection.new, CPDLCConnection.logOn]

/-- A station that holds no slot, its service ended or not yet begun, comes back
without a logon request and without a new designation exactly where it still is
the next data authority. -/
theorem readmitted_iff (aircraft : AcarsRoutingEndpoint) (run : List Handler)
    (station : AcarsEndpointCallsign)
    (absent : (sessionAfter toUppercase aircraft run).holds station = false) :
    (∃ later, Guarded (step toUppercase)
        (fun session handler => uninvited station session handler = true)
        (sessionAfter toUppercase aircraft run) later ∧
      connectedTo station (sessionAfter toUppercase aircraft (run ++ later)) = true) ↔
    ndaCallsign (sessionAfter toUppercase aircraft run) = some station := by
  constructor
  · rintro ⟨later, alone, back⟩
    by_contra undesignated
    have out := out_after toUppercase aircraft run later ⟨absent, undesignated⟩ alone
    exact absurd (connected_to_held _ back) (by simp [out.1])
  · intro authority
    refine ⟨reconnection station aircraft.callsign, ⟨rfl, rfl, trivial⟩, ?_⟩
    rw [sessionAfter, exec_append]
    exact reconnected toUppercase _ aircraft.callsign absent authority

def handedOver : List Handler :=
  attachTo "LFFF" ++ [uplinkFrom "LFFF" [⟨"UM160", [.facilityDesignation "EGTT"]⟩],
    connectionFrom "EGTT", connectionTo "EGTT", uplinkFrom "LFFF" [⟨"UM161", []⟩],
    uplinkFrom "EGTT" [⟨"UM161", []⟩]]

/-- The designation that brought EGTT in outlives the service it was made for. -/
theorem designation_outlives_service :
    removes (sessionAfter String.toUpper ⟨"AFR123", "39A1B2"⟩ handedOver.dropLast) "EGTT"
        (uplinkFrom "EGTT" [⟨"UM161", []⟩]) = true ∧
      (sessionAfter String.toUpper ⟨"AFR123", "39A1B2"⟩ handedOver).holds "EGTT" = false ∧
      Guarded (step String.toUpper)
        (fun session handler => uninvited "EGTT" session handler = true)
        (sessionAfter String.toUpper ⟨"AFR123", "39A1B2"⟩ handedOver)
        (reconnection "EGTT" "AFR123") ∧
      connectedTo "EGTT" (sessionAfter String.toUpper ⟨"AFR123", "39A1B2"⟩
        (handedOver ++ reconnection "EGTT" "AFR123")) = true := by
  decide

theorem readmitted_handed_over :
    (∃ later, Guarded (step String.toUpper)
        (fun session handler => uninvited "EGTT" session handler = true)
        (sessionAfter String.toUpper ⟨"AFR123", "39A1B2"⟩ handedOver) later ∧
      connectedTo "EGTT" (sessionAfter String.toUpper ⟨"AFR123", "39A1B2"⟩
        (handedOver ++ later)) = true) ↔
    ndaCallsign (sessionAfter String.toUpper ⟨"AFR123", "39A1B2"⟩ handedOver) = some "EGTT" :=
  readmitted_iff String.toUpper ⟨"AFR123", "39A1B2"⟩ handedOver "EGTT" (by decide)

end Finality

/-! A logon that the station refuses. -/
section Refusal

def logonRefusal (station recipient : AcarsEndpointCallsign) : Handler :=
  .message ⟨station, recipient, .metaMessage (.logonResponse false)⟩

/-- A refused logon stays where its request put it: pending in the active slot if
that was free, otherwise in the inactive one, in place of whatever it held. The
rest of the session is as it was before the request. -/
theorem refused_logon_stays (aircraft : AcarsRoutingEndpoint) (run : List Handler)
    (source destination station recipient : AcarsEndpointCallsign)
    (flightPlanOrigin flightPlanDestination : ICAOAirportCode)
    (absent : (sessionAfter toUppercase aircraft run).holds station = false) :
    let before := sessionAfter toUppercase aircraft run
    let after := sessionAfter toUppercase aircraft (run ++
      [.message ⟨source, destination, .metaMessage
        (.logonRequest station flightPlanOrigin flightPlanDestination)⟩,
      logonRefusal station recipient])
    slots after ≠ slots before ∧
      after.aircraft = before.aircraft ∧ after.nextDataAuthority = before.nextDataAuthority ∧
      (before.activeConnection = none →
        after.activeConnection = some (.new ⟨station, ""⟩) ∧ after.inactiveConnection = none) ∧
      (before.activeConnection ≠ none →
        after.activeConnection = before.activeConnection ∧
          after.inactiveConnection = some (.new ⟨station, ""⟩)) := by
  intro before after
  have ordered := (well_formed_after toUppercase aircraft run).ordered
  have outcome : after = before.logonRequest ⟨station, ""⟩ := by
    simp only [after, sessionAfter, exec_append]
    rfl
  have held : after.holds station = true := by
    rw [holds_iff, outcome, slots_logon_request before ordered]
    exact ⟨.new ⟨station, ""⟩, by simp [place], rfl⟩
  refine ⟨?_, ?_⟩
  · intro same
    rw [holds_iff, same, ← holds_iff] at held
    exact absurd held (by simp [before, absent])
  · rw [outcome]
    cases active : before.activeConnection with
    | none =>
        have vacant : before.inactiveConnection = none := ordered active
        simp [CPDLCSession.logonRequest, active, vacant]
    | some front => simp [CPDLCSession.logonRequest, active]

/-- The refused request of EBBU costs EGTT its connection. -/
theorem refused_logon_evicts :
    (sessionAfter String.toUpper ⟨"AFR123", "39A1B2"⟩
        (attachTo "LFFF" ++ attachTo "EGTT")).holds "EBBU" = false ∧
      slots (sessionAfter String.toUpper ⟨"AFR123", "39A1B2"⟩ (attachTo "LFFF" ++ attachTo "EGTT")) =
        [⟨⟨"LFFF", ""⟩, true, true⟩, ⟨⟨"EGTT", ""⟩, true, true⟩] ∧
      slots (sessionAfter String.toUpper ⟨"AFR123", "39A1B2"⟩
          (attachTo "LFFF" ++ attachTo "EGTT" ++ [logonTo "EBBU", logonRefusal "EBBU" "AFR123"])) =
        [⟨⟨"LFFF", ""⟩, true, true⟩, ⟨⟨"EBBU", ""⟩, false, false⟩] := by
  decide

theorem refused_logon_stays_pending :
    let before := sessionAfter String.toUpper ⟨"AFR123", "39A1B2"⟩ (attachTo "LFFF")
    let after := sessionAfter String.toUpper ⟨"AFR123", "39A1B2"⟩ (attachTo "LFFF" ++
      [logonTo "EBBU", logonRefusal "EBBU" "AFR123"])
    slots after ≠ slots before ∧
      after.aircraft = before.aircraft ∧ after.nextDataAuthority = before.nextDataAuthority ∧
      (before.activeConnection = none →
        after.activeConnection = some (.new ⟨"EBBU", ""⟩) ∧ after.inactiveConnection = none) ∧
      (before.activeConnection ≠ none →
        after.activeConnection = before.activeConnection ∧
          after.inactiveConnection = some (.new ⟨"EBBU", ""⟩)) :=
  refused_logon_stays String.toUpper ⟨"AFR123", "39A1B2"⟩ (attachTo "LFFF") "AFR123" "EBBU" "EBBU"
    "AFR123" "LFBO" "LFPG" (by decide)

end Refusal

end OpenLink.SessionLaws
