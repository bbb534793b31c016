import OpenLink.SessionRuns

/-!
The past of a reachable session. Every connection in a slot is traced back to
the handlers that put it there, logged it on and connected it, and the next data
authority to the application message that named it.
-/
namespace OpenLink.SessionHistory
open Cpdlc Session Slots SessionSteps SessionRuns Runs

variable (toUppercase : String → String)

def ndaCallsign (session : CPDLCSession) : Option AcarsEndpointCallsign :=
  session.nextDataAuthority.map AcarsRoutingEndpoint.callsign

/-! The handlers that a connection to one station goes through. -/
section Marks
variable (station : AcarsEndpointCallsign)

def AsksLogon (_ : CPDLCSession) (handler : Handler) : Prop :=
  ∃ source destination origin arrival, handler =
    .message ⟨source, destination, .metaMessage (.logonRequest station origin arrival)⟩

def GrantsLogon (_ : CPDLCSession) (handler : Handler) : Prop :=
  ∃ destination, handler = .message ⟨station, destination, .metaMessage (.logonResponse true)⟩

def AsksAsNda (session : CPDLCSession) (handler : Handler) : Prop :=
  ndaCallsign session = some station ∧
    ∃ destination, handler = .message ⟨station, destination, .metaMessage .connectionRequest⟩

def GrantsConnection (_ : CPDLCSession) (handler : Handler) : Prop :=
  ∃ source, handler = .message ⟨source, station, .metaMessage (.connectionResponse true)⟩

end Marks

def designation (session : CPDLCSession) : Handler → Option AcarsEndpointCallsign
  | .message ⟨_, _, .application msg⟩ =>
      if admits session msg then (msg.elements.filterMap designatedFacility).getLast? else none
  | _ => none

/-- An accepted application message, taken with the active connection ready,
whose last designation is this station. -/
def Designates (station : AcarsEndpointCallsign) (session : CPDLCSession) (handler : Handler) :
    Prop :=
  designation session handler = some station

/-! One step read backwards. -/
section Origins

theorem nda_callsign_step (session : CPDLCSession) (handler : Handler) :
    ndaCallsign (step toUppercase session handler) =
      (designation session handler).or (ndaCallsign session) := by
  have done := stepped toUppercase session handler
  generalize step toUppercase session handler = after at done ⊢
  cases done with
  | idle _ refused =>
      rcases handler with ⟨source, destination, msg | message⟩ | station
      · simp [designation, refused source destination msg rfl]
      · rfl
      · rfl
  | logonRequest source destination station origin arrival =>
      unfold CPDLCSession.logonRequest
      split_ifs <;> rfl
  | logonAccepted source destination =>
      unfold CPDLCSession.logonAccepted
      split_ifs <;> rfl
  | connectionRequest source destination =>
      rw [connection_request_eq]
      split_ifs <;> rfl
  | connectionAccepted source destination _ accepted =>
      rcases connection_accepted_cases session destination after accepted with
        ⟨conn, _, _, _, rfl⟩ | ⟨_, conn, _, _, _, rfl⟩ | ⟨_, rfl⟩ <;> rfl
  | application source destination msg admitted =>
      simp only [ndaCallsign, apply_elements_nda, designation, admitted, if_true]
      cases (msg.elements.filterMap designatedFacility).getLast? <;> rfl
  | stationOffline station => simp [ndaCallsign, termination_request_nda, designation]

inductive SlotOrigin (session : CPDLCSession) (handler : Handler) : CPDLCConnection → Prop where
  | kept (conn : CPDLCConnection) (old : conn ∈ slots session) : SlotOrigin session handler conn
  | requested (station : AcarsEndpointCallsign) (asked : AsksLogon station session handler) :
      SlotOrigin session handler (.new ⟨station, ""⟩)
  | designated (station : AcarsEndpointCallsign) (asked : AsksAsNda station session handler) :
      SlotOrigin session handler (ndaConnection station)
  | loggedOn (conn : CPDLCConnection) (old : conn ∈ slots session)
      (granted : GrantsLogon (callsign conn) session handler) :
      SlotOrigin session handler conn.logOn
  | connected (conn : CPDLCConnection) (old : conn ∈ slots session) (logged : conn.logon = true)
      (granted : GrantsConnection (callsign conn) session handler) :
      SlotOrigin session handler (establish conn)

theorem slot_origin (session : CPDLCSession) (handler : Handler) (ordered : Ordered session)
    (conn : CPDLCConnection) (member : conn ∈ slots (step toUppercase session handler)) :
    SlotOrigin session handler conn := by
  have done := stepped toUppercase session handler
  generalize step toUppercase session handler = after at done member
  cases done with
  | idle => exact .kept conn member
  | logonRequest source destination station origin arrival =>
      rw [slots_logon_request session ordered] at member
      rcases mem_place _ _ _ member with old | rfl
      · exact .kept conn old
      · exact .requested station ⟨source, destination, origin, arrival, rfl⟩
  | logonAccepted source destination =>
      rw [slots_logon_accepted] at member
      -- only the first connection with the station has changed
      rcases mem_update_first _ _ _ _ member with old | ⟨before, inRow, here, rfl⟩
      · exact .kept conn old
      · have same := (is_at_iff source before).mp here
        exact .loggedOn before inRow ⟨destination, by rw [same]⟩
  | connectionRequest source destination =>
      rw [slots_connection_request session source ordered] at member
      split at member
      · next asked =>
          rcases mem_place _ _ _ member with old | rfl
          · exact .kept conn old
          · have designated := ((Bool.and_eq_true _ _).mp asked).2
            obtain ⟨nda, taken, same⟩ := (Option.any_eq_true _ _).mp designated
            have authority : ndaCallsign session = some source := by
              simpa [ndaCallsign, taken] using same
            exact .designated source ⟨authority, destination, rfl⟩
      · exact .kept conn member
  | connectionAccepted source destination _ accepted =>
      rcases established_logged session destination after accepted conn member with
        old | ⟨before, inRow, same, ready, rfl⟩
      · exact .kept conn old
      · exact .connected before inRow ready ⟨source, by rw [same]⟩
  | application source destination msg admitted =>
      exact .kept conn ((apply_elements_sublist source msg.elements session).subset member)
  | stationOffline station =>
      rw [slots_termination_request] at member
      exact .kept conn (List.mem_of_mem_eraseP member)

end Origins

/-! The whole past of a connection, from a moment at which its station held no slot. -/
section Provenance
variable (aircraft : AcarsRoutingEndpoint) (before : List Handler)
    (station : AcarsEndpointCallsign)

/-- The station was asked for a logon and then granted one. -/
def LogonPath : List Handler → Prop :=
  After (step toUppercase)
    (Seen (step toUppercase) (AsksLogon station) (sessionAfter toUppercase aircraft before))
    (GrantsLogon station) (sessionAfter toUppercase aircraft before)

/-- The station asked for a connection as the next data authority that an earlier
message of the whole run had designated. -/
def HandoverPath : List Handler → Prop :=
  After (step toUppercase)
    (fun part => Seen (step toUppercase) (Designates station) (.new aircraft) (before ++ part))
    (AsksAsNda station) (sessionAfter toUppercase aircraft before)

def Established : List Handler → Prop :=
  After (step toUppercase)
    (fun part => LogonPath toUppercase aircraft before station part ∨
      HandoverPath toUppercase aircraft before station part)
    (GrantsConnection station) (sessionAfter toUppercase aircraft before)

/-- What the flags of a connection say about the part of the run that made it. -/
structure Traced (part : List Handler) (conn : CPDLCConnection) : Prop where
  placed : Seen (step toUppercase) (AsksLogon station) (sessionAfter toUppercase aircraft before)
      part ∨ HandoverPath toUppercase aircraft before station part
  logged : conn.logon = true → LogonPath toUppercase aircraft before station part ∨
      HandoverPath toUppercase aircraft before station part
  linked : conn.connection = true → Established toUppercase aircraft before station part

variable {toUppercase aircraft before station}

theorem traced_extend (part later : List Handler) (conn : CPDLCConnection)
    (traced : Traced toUppercase aircraft before station part conn) :
    Traced toUppercase aircraft before station (part ++ later) conn where
  placed := traced.placed.imp (seen_extend later) (after_extend later)
  logged := fun logged => (traced.logged logged).imp (after_extend later) (after_extend later)
  linked := fun linked => after_extend later (traced.linked linked)

theorem nda_latest (run : List Handler) :
    ndaCallsign (sessionAfter toUppercase aircraft run) =
      latest (step toUppercase) designation (.new aircraft) run := by
  have field := latest_field (step toUppercase) designation ndaCallsign
    (nda_callsign_step toUppercase) (.new aircraft) run
  simpa [sessionAfter, ndaCallsign, CPDLCSession.new] using field

theorem nda_designated (run : List Handler)
    (authority : ndaCallsign (sessionAfter toUppercase aircraft run) = some station) :
    Seen (step toUppercase) (Designates station) (.new aircraft) run := by
  rw [nda_latest] at authority
  exact latest_seen authority

theorem traced_run (absent : (sessionAfter toUppercase aircraft before).holds station = false)
    (part : List Handler) (conn : CPDLCConnection)
    (member : conn ∈ slots (sessionAfter toUppercase aircraft (before ++ part)))
    (here : callsign conn = station) :
    Traced toUppercase aircraft before station part conn := by
  -- by the last handler: each origin of a slot adds its own part of the past
  induction part using List.reverseRecOn generalizing conn with
  | nil =>
      have present := (holds_iff _ station).mpr ⟨conn, by simpa using member, here⟩
      simp [absent] at present
  | append_singleton part handler ih =>
      have reached : exec (step toUppercase) (sessionAfter toUppercase aircraft before) part =
          sessionAfter toUppercase aircraft (before ++ part) :=
        (exec_append (step toUppercase) (.new aircraft) before part).symm
      rw [← List.append_assoc, session_after_snoc] at member
      have ordered := (well_formed_after toUppercase aircraft (before ++ part)).ordered
      cases slot_origin toUppercase _ handler ordered conn member with
      | kept _ old => exact traced_extend part [handler] conn (ih conn old here)
      | requested asked_station asked =>
          obtain rfl : asked_station = station := here
          constructor
          · exact Or.inl (seen_last asked)
          · intro logged
            simp [CPDLCConnection.new] at logged
          · intro linked
            simp [CPDLCConnection.new] at linked
      | designated asked_station asked =>
          obtain rfl : asked_station = station := here
          have handover : HandoverPath toUppercase aircraft before asked_station
              (part ++ [handler]) := by
            apply after_last
            · exact nda_designated (before ++ part) asked.1
            · rw [reached]
              exact asked
          constructor
          · exact Or.inr handover
          · exact fun _ => Or.inr handover
          · intro linked
            simp [ndaConnection, CPDLCConnection.new, CPDLCConnection.logOn] at linked
      | loggedOn source old granted =>
          obtain rfl : callsign source = station := here
          have earlier := ih source old rfl
          have later := traced_extend part [handler] source earlier
          constructor
          · exact later.placed
          · intro _
            -- a station that came in as next data authority is logged on already
            rcases earlier.placed with asked | handover
            · exact Or.inl (after_last asked granted)
            · exact Or.inr (after_extend [handler] handover)
          · exact later.linked
      | connected source old ready granted =>
          obtain rfl : callsign source = station := here
          have earlier := ih source old rfl
          have later := traced_extend part [handler] source earlier
          constructor
          · exact later.placed
          · exact later.logged
          · exact fun _ => after_last (earlier.logged ready) granted

/-- A station in a slot is traced from the last moment at which it held none. -/
theorem traced_since (run : List Handler) (conn : CPDLCConnection)
    (member : conn ∈ slots (sessionAfter toUppercase aircraft run)) :
    ∃ before after, run = before ++ after ∧
      (sessionAfter toUppercase aircraft before).holds (callsign conn) = false ∧
      (∀ part, part ≠ [] → part <+: after →
        (sessionAfter toUppercase aircraft (before ++ part)).holds (callsign conn) = true) ∧
      Traced toUppercase aircraft before (callsign conn) after conn := by
  obtain ⟨before, after, rfl, absent, held⟩ := last_moment (step toUppercase)
    (fun session => session.holds (callsign conn) = true) (.new aircraft)
    (by simp [CPDLCSession.new, CPDLCSession.holds, held_none]) run
  have vacant : (sessionAfter toUppercase aircraft before).holds (callsign conn) = false := by
    simpa [sessionAfter] using absent
  exact ⟨before, after, rfl, vacant, held, traced_run vacant after conn member rfl⟩

/-- A connected station has come in since the last moment at which it held no
slot, by its logon or by its designation, and was then granted its connection. -/
theorem connected_provenance (run : List Handler) (conn : CPDLCConnection)
    (taken : (sessionAfter toUppercase aircraft run).activeConnection = some conn ∨
      (sessionAfter toUppercase aircraft run).inactiveConnection = some conn)
    (linked : conn.phase = .connected) :
    ∃ before after, run = before ++ after ∧
      (sessionAfter toUppercase aircraft before).holds (callsign conn) = false ∧
      (∀ part, part ≠ [] → part <+: after →
        (sessionAfter toUppercase aircraft (before ++ part)).holds (callsign conn) = true) ∧
      Established toUppercase aircraft before (callsign conn) after := by
  obtain ⟨before, after, same, vacant, held, traced⟩ :=
    traced_since run conn ((mem_slots_iff _ conn).mpr taken)
  exact ⟨before, after, same, vacant, held, traced.linked ((phase_connected_iff conn).mp linked)⟩

/-- The path of a logon, for a station that nothing designates. -/
theorem connected_provenance_logon :
    ∃ before after, attachTo "LFFF" = before ++ after ∧
      (sessionAfter String.toUpper ⟨"AFR123", "39A1B2"⟩ before).holds "LFFF" = false ∧
      (∀ part, part ≠ [] → part <+: after →
        (sessionAfter String.toUpper ⟨"AFR123", "39A1B2"⟩ (before ++ part)).holds "LFFF" = true) ∧
      Established String.toUpper ⟨"AFR123", "39A1B2"⟩ before "LFFF" after :=
  connected_provenance (attachTo "LFFF") ⟨⟨"LFFF", ""⟩, true, true⟩ (Or.inl (by decide)) (by decide)

end Provenance

/-! The next data authority beside two connected slots. -/
section Handover
variable {toUppercase : String → String} {aircraft : AcarsRoutingEndpoint}

/-- A station that came in as the next data authority still is, unless another
one has been designated since. -/
theorem handover_authority (before after : List Handler) (station : AcarsEndpointCallsign)
    (path : HandoverPath toUppercase aircraft before station after) :
    ndaCallsign (sessionAfter toUppercase aircraft (before ++ after)) = some station ∨
      After (step toUppercase) (HandoverPath toUppercase aircraft before station)
        (fun session handler => ∃ other, other ≠ station ∧ Designates other session handler)
        (sessionAfter toUppercase aircraft before) after := by
  obtain ⟨part, asking, ⟨rest, rfl⟩, earlier, authority, destination, request⟩ := path
  have whole : sessionAfter toUppercase aircraft (before ++ (part ++ [asking] ++ rest)) =
      exec (step toUppercase) (exec (step toUppercase) (sessionAfter toUppercase aircraft before)
        (part ++ [asking])) rest := by
    simp only [sessionAfter, exec_append]
  have asked : ndaCallsign (exec (step toUppercase) (sessionAfter toUppercase aircraft before)
      (part ++ [asking])) = some station := by
    rw [exec_snoc, nda_callsign_step, authority, request]
    rfl
  rw [whole, latest_field (step toUppercase) designation ndaCallsign
    (nda_callsign_step toUppercase), asked]
  cases last : latest (step toUppercase) designation (exec (step toUppercase)
      (sessionAfter toUppercase aircraft before) (part ++ [asking])) rest with
  -- no designation since the request keeps the authority; the latest one decides
  | none => exact Or.inl rfl
  | some other =>
      by_cases same : other = station
      · exact Or.inl (by rw [same]; rfl)
      · obtain ⟨between, handler, short, _, named⟩ := latest_seen last
        apply Or.inr
        apply after_seen (fun part =>
          Seen (step toUppercase) (Designates station) (.new aircraft) (before ++ part)) earlier
        · exact ⟨authority, destination, request⟩
        · exact ⟨between, handler, short, trivial, other, same, named⟩

theorem silent_elements (source : AcarsEndpointCallsign) (elements : List MessageElement)
    (session : CPDLCSession) (silent : elements.any endsService = false) :
    (elements.foldl (applyElement source) session).activeConnection = session.activeConnection ∧
      (elements.foldl (applyElement source) session).inactiveConnection =
        session.inactiveConnection := by
  induction elements generalizing session with
  | nil => exact ⟨rfl, rfl⟩
  | cons element rest ih =>
      rw [List.any_cons, Bool.or_eq_false_iff] at silent
      have head : (applyElement source session element).activeConnection =
            session.activeConnection ∧
          (applyElement source session element).inactiveConnection =
            session.inactiveConnection := by
        rw [apply_element_eq, silent.1]
        cases designatedFacility element <;> exact ⟨rfl, rfl⟩
      have tail := ih (applyElement source session element) silent.2
      exact ⟨tail.1.trans head.1, tail.2.trans head.2⟩

/-- The next data authority is the last station designated. Beside a connected
active station, a connected inactive one came in by a logon of its own or as the
next data authority, which it still is unless another was designated since; a
designation itself moves no slot. -/
theorem handover_consistency (run : List Handler) :
    ndaCallsign (sessionAfter toUppercase aircraft run) =
        latest (step toUppercase) designation (.new aircraft) run ∧
      (∀ active inactive,
        (sessionAfter toUppercase aircraft run).activeConnection = some active →
        (sessionAfter toUppercase aircraft run).inactiveConnection = some inactive →
        active.phase = .connected → inactive.phase = .connected →
        ∃ before after, run = before ++ after ∧
          (sessionAfter toUppercase aircraft before).holds (callsign inactive) = false ∧
          (∀ part, part ≠ [] → part <+: after →
            (sessionAfter toUppercase aircraft (before ++ part)).holds (callsign inactive) =
              true) ∧
          Established toUppercase aircraft before (callsign inactive) after ∧
          (LogonPath toUppercase aircraft before (callsign inactive) after ∨
            ndaCallsign (sessionAfter toUppercase aircraft run) = some (callsign inactive) ∨
            After (step toUppercase) (HandoverPath toUppercase aircraft before (callsign inactive))
              (fun session handler =>
                ∃ other, other ≠ callsign inactive ∧ Designates other session handler)
              (sessionAfter toUppercase aircraft before) after)) ∧
      ∀ source destination msg,
        admits (sessionAfter toUppercase aircraft run) msg = true →
        msg.elements.any endsService = false →
        (sessionAfter toUppercase aircraft
            (run ++ [.message ⟨source, destination, .application msg⟩])).activeConnection =
          (sessionAfter toUppercase aircraft run).activeConnection ∧
        (sessionAfter toUppercase aircraft
            (run ++ [.message ⟨source, destination, .application msg⟩])).inactiveConnection =
          (sessionAfter toUppercase aircraft run).inactiveConnection := by
  refine ⟨nda_latest run, ?_, ?_⟩
  · intro active inactive _ behind _ linked
    -- `before` ends where the inactive station last took its place
    obtain ⟨before, after, rfl, vacant, held, traced⟩ :=
      traced_since run inactive ((mem_slots_iff _ inactive).mpr (Or.inr behind))
    have joined := (phase_connected_iff inactive).mp linked
    obtain ⟨part, granting, ⟨rest, rfl⟩, path, _⟩ := traced.linked joined
    refine ⟨before, part ++ [granting] ++ rest, rfl, vacant, held, traced.linked joined, ?_⟩
    rcases path with logon | handover
    · apply Or.inl
      rw [List.append_assoc]
      exact after_extend ([granting] ++ rest) logon
    · apply Or.inr
      apply handover_authority
      rw [List.append_assoc]
      exact after_extend ([granting] ++ rest) handover
  · intro source destination msg admitted silent
    rw [session_after_snoc, step_application, admitted, if_pos rfl]
    exact silent_elements source msg.elements _ silent

/-- A plain logon connects a second station that nothing designates, and a new
designation leaves the station designated before it connected. -/
theorem second_station_undesignated :
    ((sessionAfter String.toUpper ⟨"AFR123", "39A1B2"⟩ (attachTo "LFFF" ++ attachTo "EGTT"))
        = ⟨⟨"AFR123", "39A1B2"⟩, some ⟨⟨"LFFF", ""⟩, true, true⟩, some ⟨⟨"EGTT", ""⟩, true, true⟩,
          none⟩) ∧
      (sessionAfter String.toUpper ⟨"AFR123", "39A1B2"⟩
          (attachTo "LFFF" ++ [uplinkFrom "LFFF" [⟨"UM160", [.facilityDesignation "EGTT"]⟩],
            connectionFrom "EGTT", connectionTo "EGTT",
            uplinkFrom "LFFF" [⟨"UM160", [.facilityDesignation "EBBU"]⟩]]) =
        ⟨⟨"AFR123", "39A1B2"⟩, some ⟨⟨"LFFF", ""⟩, true, true⟩, some ⟨⟨"EGTT", ""⟩, true, true⟩,
          some ⟨"EBBU", ""⟩⟩) := by
  decide

end Handover

end OpenLink.SessionHistory
