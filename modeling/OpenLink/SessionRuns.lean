import OpenLink.SessionSteps

/-!
What holds of every session a run of the handlers reaches from a new session.
The representation invariant needs no condition. Distinct slots need one: a
logon request is placed without looking at the active slot.
-/
namespace OpenLink.SessionRuns
open Cpdlc Session Slots SessionSteps Runs

variable (toUppercase : String → String)

def sessionAfter (aircraft : AcarsRoutingEndpoint) (handlers : List Handler) : CPDLCSession :=
  exec (step toUppercase) (.new aircraft) handlers

theorem session_after_snoc (aircraft : AcarsRoutingEndpoint) (before : List Handler)
    (handler : Handler) :
    sessionAfter toUppercase aircraft (before ++ [handler]) =
      step toUppercase (sessionAfter toUppercase aircraft before) handler :=
  exec_snoc (step toUppercase) (.new aircraft) before handler

theorem mem_slots_iff (session : CPDLCSession) (conn : CPDLCConnection) :
    conn ∈ slots session ↔
      session.activeConnection = some conn ∨ session.inactiveConnection = some conn := by
  simp [slots]

/-! The representation invariant. -/
section Representation

structure WellFormed (session : CPDLCSession) : Prop where
  ordered : Ordered session
  logged : ∀ conn ∈ slots session, conn.connection = true → conn.logon = true

theorem well_formed_new (aircraft : AcarsRoutingEndpoint) : WellFormed (.new aircraft) where
  ordered := fun _ => rfl
  logged := by simp [slots_new]

theorem ordered_logon_request (session : CPDLCSession) (endpoint : AcarsRoutingEndpoint) :
    Ordered (session.logonRequest endpoint) := by
  intro vacant
  cases active : session.activeConnection <;> simp [CPDLCSession.logonRequest, active] at vacant

theorem ordered_logon_accepted (session : CPDLCSession) (station : AcarsEndpointCallsign)
    (ordered : Ordered session) : Ordered (session.logonAccepted station) := by
  unfold CPDLCSession.logonAccepted
  split_ifs with front back
  · obtain ⟨conn, taken, _⟩ := held_by_taken station _ front
    simp [Ordered, taken]
  · intro vacant
    simp [ordered vacant, held_none] at back
  · exact ordered

theorem ordered_connection_request (session : CPDLCSession) (station : AcarsEndpointCallsign)
    (ordered : Ordered session) : Ordered (session.connectionRequest station) := by
  cases active : session.activeConnection <;> unfold CPDLCSession.connectionRequest <;>
    split_ifs <;> simp_all [Ordered]

theorem ordered_connection_accepted (session after : CPDLCSession)
    (station : AcarsEndpointCallsign) (ordered : Ordered session)
    (accepted : session.connectionAccepted station = .ok after) : Ordered after := by
  rcases connection_accepted_cases session station after accepted with
    ⟨conn, _, _, _, rfl⟩ | ⟨_, conn, taken, _, _, rfl⟩ | ⟨_, rfl⟩
  · simp [Ordered]
  · intro vacant
    simp [ordered vacant] at taken
  · exact ordered

theorem ordered_termination_request (session : CPDLCSession) (station : AcarsEndpointCallsign)
    (ordered : Ordered session) : Ordered (session.terminationRequest station) := by
  unfold CPDLCSession.terminationRequest
  split_ifs
  · exact fun _ => rfl
  · exact fun _ => rfl
  · exact ordered

theorem ordered_apply_elements (source : AcarsEndpointCallsign) (elements : List MessageElement)
    (session : CPDLCSession) (ordered : Ordered session) :
    Ordered (elements.foldl (applyElement source) session) := by
  induction elements generalizing session with
  | nil => exact ordered
  | cons element rest ih =>
      refine ih _ ?_
      rw [apply_element_eq]
      cases designatedFacility element with
      | some facility => exact ordered
      | none =>
          cases endsService element with
          | true => exact ordered_termination_request session source ordered
          | false => exact ordered

/-- One handler keeps the representation; a failed one changes nothing. -/
theorem well_formed_step (session : CPDLCSession) (handler : Handler)
    (valid : WellFormed session) : WellFormed (step toUppercase session handler) := by
  obtain ⟨ordered, logged⟩ := valid
  have done := stepped toUppercase session handler
  generalize step toUppercase session handler = after at done ⊢
  cases done with
  | idle => exact ⟨ordered, logged⟩
  | logonRequest source destination station origin arrival =>
      refine ⟨ordered_logon_request session _, ?_⟩
      intro conn member linked
      rw [slots_logon_request session ordered] at member
      rcases mem_place _ _ _ member with old | rfl
      · exact logged conn old linked
      · exact absurd linked (by simp [CPDLCConnection.new])
  | logonAccepted source destination =>
      refine ⟨ordered_logon_accepted session source ordered, ?_⟩
      intro conn member linked
      rw [slots_logon_accepted] at member
      rcases mem_update_first _ _ _ _ member with old | ⟨before, _, _, rfl⟩
      · exact logged conn old linked
      · rfl
  | connectionRequest source destination =>
      refine ⟨ordered_connection_request session source ordered, ?_⟩
      intro conn member linked
      rw [slots_connection_request session source ordered] at member
      split at member
      · rcases mem_place _ _ _ member with old | rfl
        · exact logged conn old linked
        · rfl
      · exact logged conn member linked
  | connectionAccepted source destination _ accepted =>
      refine ⟨ordered_connection_accepted session after destination ordered accepted, ?_⟩
      intro conn member linked
      rcases established_logged session destination _ accepted conn member with
        old | ⟨before, _, _, ready, rfl⟩
      · exact logged conn old linked
      · exact ready
  | application source destination msg admitted =>
      refine ⟨ordered_apply_elements source msg.elements session ordered, ?_⟩
      intro conn member linked
      -- what is left in the slots was there before
      exact logged conn ((apply_elements_sublist source _ session).subset member) linked
  | stationOffline station =>
      refine ⟨ordered_termination_request session station ordered, ?_⟩
      intro conn member linked
      rw [slots_termination_request] at member
      exact logged conn (List.mem_of_mem_eraseP member) linked

theorem well_formed_after (aircraft : AcarsRoutingEndpoint) (handlers : List Handler) :
    WellFormed (sessionAfter toUppercase aircraft handlers) :=
  run_invariant (step toUppercase) WellFormed (well_formed_step toUppercase) _
    (well_formed_new aircraft) handlers

theorem phase_connected_iff (conn : CPDLCConnection) :
    conn.phase = .connected ↔ conn.connection = true := by
  unfold CPDLCConnection.phase
  split_ifs with linked logged <;> simp [linked]

theorem phase_ne_terminated (conn : CPDLCConnection) : conn.phase ≠ .terminated := by
  unfold CPDLCConnection.phase
  split_ifs <;> simp

/-- The representation invariant of every reachable session, and what it makes of
the phase that clients see. -/
theorem reachable_representation (aircraft : AcarsRoutingEndpoint) (handlers : List Handler) :
    ((sessionAfter toUppercase aircraft handlers).inactiveConnection.isSome = true →
      (sessionAfter toUppercase aircraft handlers).activeConnection.isSome = true) ∧
    ∀ conn, (sessionAfter toUppercase aircraft handlers).activeConnection = some conn ∨
        (sessionAfter toUppercase aircraft handlers).inactiveConnection = some conn →
      (conn.connection = true → conn.logon = true) ∧
      (conn.phase = .connected ↔ conn.readyExchange = true) ∧
      conn.phase ≠ .terminated := by
  obtain ⟨ordered, logged⟩ := well_formed_after toUppercase aircraft handlers
  constructor
  · intro behind
    by_contra vacant
    have inactive := ordered (by simpa using vacant)
    simp [inactive] at behind
  · intro conn taken
    have ready := logged conn ((mem_slots_iff _ conn).mpr taken)
    refine ⟨ready, ?_, phase_ne_terminated conn⟩
    rw [phase_connected_iff]
    constructor
    · intro linked
      simp [CPDLCConnection.readyExchange, linked, ready linked]
    · intro exchanging
      exact ((Bool.and_eq_true _ _).mp exchanging).2

end Representation

/-! The exchange of flight AFR123 with a station, for runs on fixed inputs. -/
section Exchange
variable (station : AcarsEndpointCallsign)

def logonTo : Handler :=
  .message ⟨"AFR123", station, .metaMessage (.logonRequest station "LFBO" "LFPG")⟩

def logonFrom : Handler := .message ⟨station, "AFR123", .metaMessage (.logonResponse true)⟩

def connectionFrom : Handler := .message ⟨station, "AFR123", .metaMessage .connectionRequest⟩

def connectionTo : Handler := .message ⟨"AFR123", station, .metaMessage (.connectionResponse true)⟩

def uplinkFrom (elements : List MessageElement) : Handler :=
  .message ⟨station, "AFR123", .application ⟨1, none, elements, 0⟩⟩

def attachTo : List Handler :=
  [logonTo station, logonFrom station, connectionFrom station, connectionTo station]

end Exchange

/-! Distinct stations, and the requests that keep them distinct. -/
section Distinct

def Distinct (session : CPDLCSession) : Prop :=
  ∀ active ∈ session.activeConnection, ∀ inactive ∈ session.inactiveConnection,
    callsign active ≠ callsign inactive

/-- A logon request that does not name the station of the active slot. Nothing
in the server makes this test, unlike the one of a connection request. -/
def freshLogon (session : CPDLCSession) : Handler → Bool
  | .message ⟨_, _, .metaMessage (.logonRequest station _ _)⟩ =>
      !heldBy session.activeConnection station
  | _ => true

def removes (session : CPDLCSession) (station : AcarsEndpointCallsign) : Handler → Bool
  | .message ⟨source, _, .application msg⟩ =>
      source == station && admits session msg && msg.elements.any endsService
  | .message ⟨_, _, .metaMessage _⟩ => false
  | .stationOffline gone => gone == station

instance (session : CPDLCSession) : Decidable (Distinct session) :=
  inferInstanceAs (Decidable (∀ active ∈ session.activeConnection, _))

theorem distinct_iff (session : CPDLCSession) :
    Distinct session ↔ ((slots session).map callsign).Nodup := by
  rcases session with ⟨aircraft, _ | active, _ | inactive, nda⟩ <;> simp [Distinct, slots]

theorem distinct_new (aircraft : AcarsRoutingEndpoint) : Distinct (.new aircraft) := by
  simp [Distinct, CPDLCSession.new]

/-- A placed newcomer keeps the stations distinct exactly when the active slot
is not his. -/
theorem place_distinct_iff (session : CPDLCSession) (ordered : Ordered session)
    (conn : CPDLCConnection) :
    ((place (slots session) conn).map callsign).Nodup ↔
      heldBy session.activeConnection (callsign conn) = false := by
  rw [place_nodup_iff]
  cases active : session.activeConnection with
  | none => simp [slots, active, ordered active, held_none]
  | some front => simp [slots, active, heldBy, callsign]

theorem distinct_step (session : CPDLCSession) (handler : Handler) (ordered : Ordered session)
    (distinct : Distinct session) (fresh : freshLogon session handler = true) :
    Distinct (step toUppercase session handler) := by
  rw [distinct_iff] at distinct ⊢
  have done := stepped toUppercase session handler
  generalize step toUppercase session handler = after at done ⊢
  cases done with
  | idle => exact distinct
  | logonRequest source destination station origin arrival =>
      rw [slots_logon_request session ordered, place_distinct_iff session ordered]
      simpa [freshLogon] using fresh
  | logonAccepted source destination =>
      rw [slots_logon_accepted, update_first_keys callsign _ _ callsign_log_on]
      exact distinct
  | connectionRequest source destination =>
      rw [slots_connection_request session source ordered]
      split
      · next asked =>
          -- the request is served only where the station holds neither slot
          rw [place_distinct_iff session ordered]
          exact invited_absent session source asked
      · exact distinct
  | connectionAccepted source destination _ accepted =>
      rw [slots_connection_accepted session destination after accepted,
        update_first_keys callsign _ _ callsign_establish]
      exact distinct
  | application source destination msg admitted =>
      exact distinct.sublist ((apply_elements_sublist source msg.elements session).map callsign)
  | stationOffline station =>
      rw [slots_termination_request]
      exact distinct.sublist (List.eraseP_sublist.map callsign)

theorem distinct_broken (session : CPDLCSession) (handler : Handler) (ordered : Ordered session)
    (stale : freshLogon session handler = false) :
    ¬ Distinct (step toUppercase session handler) := by
  rcases handler with ⟨source, destination, msg | message⟩ | station
  · simp [freshLogon] at stale
  · cases message with
    | logonRequest station origin arrival =>
        intro distinct
        have same : slots (step toUppercase session (.message ⟨source, destination,
            .metaMessage (.logonRequest station origin arrival)⟩)) =
            place (slots session) (.new ⟨station, ""⟩) :=
          slots_logon_request session ordered ⟨station, ""⟩
        rw [distinct_iff, same, place_distinct_iff session ordered] at distinct
        have held : heldBy session.activeConnection station = true := by
          simpa [freshLogon] using stale
        simp [held] at distinct
    | _ => simp [freshLogon] at stale
  · simp [freshLogon] at stale

theorem removed_absent (session : CPDLCSession) (station : AcarsEndpointCallsign)
    (handler : Handler) (distinct : Distinct session)
    (removed : removes session station handler = true) :
    (step toUppercase session handler).holds station = false := by
  rw [distinct_iff] at distinct
  by_contra present
  obtain ⟨conn, member, same⟩ := (holds_iff _ station).mp (by simpa using present)
  rcases handler with ⟨source, destination, msg | message⟩ | gone
  · simp only [removes, Bool.and_eq_true, beq_iff_eq] at removed
    obtain ⟨⟨rfl, admitted⟩, ended⟩ := removed
    rw [step_application, admitted, if_pos rfl] at member
    exact apply_elements_gone source msg.elements session distinct ended conn member same
  · simp [removes] at removed
  · obtain rfl : gone = station := by simpa [removes] using removed
    rw [step_offline, slots_termination_request] at member
    exact erased_absent callsign (slots session) distinct gone conn member same

/-- The two slots stay distinct throughout a run, and a removed station is gone
from both, if and only if no logon request names the active station. -/
theorem distinct_throughout_iff (aircraft : AcarsRoutingEndpoint) (handlers : List Handler) :
    ((∀ before, before <+: handlers → Distinct (sessionAfter toUppercase aircraft before)) ∧
      ∀ before handler station, before ++ [handler] <+: handlers →
        removes (sessionAfter toUppercase aircraft before) station handler = true →
        (sessionAfter toUppercase aircraft (before ++ [handler])).holds station = false) ↔
    Guarded (step toUppercase) (fun session handler => freshLogon session handler = true)
      (.new aircraft) handlers := by
  have start : WellFormed (.new aircraft) ∧ Distinct (.new aircraft) :=
    ⟨well_formed_new aircraft, distinct_new aircraft⟩
  have exactly := guarded_exact (step toUppercase)
    (fun session handler => freshLogon session handler = true)
    (fun session => WellFormed session ∧ Distinct session)
    (fun session handler valid fresh => ⟨well_formed_step toUppercase session handler valid.1,
      distinct_step toUppercase session handler valid.1.ordered valid.2 fresh⟩)
    (fun session handler valid stale after => distinct_broken toUppercase session handler
      valid.1.ordered (by simpa using stale) after.2)
    (.new aircraft) start handlers
  rw [exactly]
  constructor
  · rintro ⟨always, _⟩ before short
    exact ⟨well_formed_after toUppercase aircraft before, always before short⟩
  · intro always
    refine ⟨fun before short => (always before short).2, ?_⟩
    intro before handler station short removed
    have earlier := always before ((List.prefix_append _ _).trans short)
    rw [session_after_snoc]
    exact removed_absent toUppercase _ station handler earlier.2 removed

/-- A second logon request to the active station fills the inactive slot with it,
and going offline once leaves the copy behind. -/
theorem repeated_logon_doubles :
    ¬ Distinct (sessionAfter String.toUpper ⟨"AFR123", "39A1B2"⟩
        [logonTo "LFPG", logonTo "LFPG"]) ∧
      (sessionAfter String.toUpper ⟨"AFR123", "39A1B2"⟩
        [logonTo "LFPG", logonTo "LFPG", .stationOffline "LFPG"]).holds "LFPG" = true := by
  decide

end Distinct

/-! What a live connection survives. -/
section Survival

/-- The newcomer that a step puts into the inactive slot, in place of whatever is
there: a second station that asks for a logon, or the next data authority that
asks for a connection. -/
def newcomer (session : CPDLCSession) : Handler → Option CPDLCConnection
  | .message ⟨_, _, .metaMessage (.logonRequest station _ _)⟩ =>
      if session.activeConnection.isSome then some (.new ⟨station, ""⟩) else none
  | .message ⟨source, _, .metaMessage .connectionRequest⟩ =>
      if session.activeConnection.isSome && invited session source then some (ndaConnection source)
      else none
  | _ => none

theorem log_on_fixed (conn : CPDLCConnection) (logged : conn.logon = true) : conn.logOn = conn := by
  cases conn
  simp_all [CPDLCConnection.logOn]

theorem establish_fixed (conn : CPDLCConnection) (linked : conn.connection = true) :
    establish conn = conn := by
  cases conn
  simp_all [establish]

theorem removal_keeps (session : CPDLCSession) (station : AcarsEndpointCallsign)
    (conn : CPDLCConnection) (member : conn ∈ slots session) (other : callsign conn ≠ station) :
    conn ∈ slots (session.terminationRequest station) := by
  rw [slots_termination_request]
  exact (List.mem_eraseP_of_neg (by simpa [isAt] using other)).mpr member

/-- The active slot is filled first. -/
theorem front_of_member (session : CPDLCSession) (valid : WellFormed session)
    (conn : CPDLCConnection) (member : conn ∈ slots session) :
    ∃ front, session.activeConnection = some front := by
  cases active : session.activeConnection with
  | none => simp [slots, active, valid.ordered active] at member
  | some front => exact ⟨front, rfl⟩

/-- A newcomer takes the inactive slot: the connection there gives way, the active one stays. -/
theorem newcomer_displaces (session after : CPDLCSession) (handler : Handler)
    (placed conn : CPDLCConnection) (member : conn ∈ slots session)
    (came : newcomer session handler = some placed)
    (front : after.activeConnection = session.activeConnection)
    (behind : after.inactiveConnection = some placed) :
    conn ∈ slots after ∨ session.inactiveConnection = some conn ∧
      ∃ placed, newcomer session handler = some placed ∧
        after.activeConnection = session.activeConnection ∧
        after.inactiveConnection = some placed := by
  rcases (mem_slots_iff session conn).mp member with first | second
  · exact Or.inl ((mem_slots_iff after conn).mpr (Or.inl (front.trans first)))
  · exact Or.inr ⟨second, placed, came, front, behind⟩

/-- A connected slot survives every step but its own removal and a newcomer in
the inactive slot. -/
theorem connected_step (session : CPDLCSession) (handler : Handler) (valid : WellFormed session)
    (conn : CPDLCConnection) (member : conn ∈ slots session) (linked : conn.connection = true) :
    conn ∈ slots (step toUppercase session handler) ∨
      removes session (callsign conn) handler = true ∨
      session.inactiveConnection = some conn ∧
        ∃ placed, newcomer session handler = some placed ∧
          (step toUppercase session handler).activeConnection = session.activeConnection ∧
          (step toUppercase session handler).inactiveConnection = some placed := by
  have logged := valid.logged conn member linked
  have done := stepped toUppercase session handler
  generalize step toUppercase session handler = after at done ⊢
  cases done with
  | idle => exact Or.inl member
  -- a session with a connection has a first one, so the newcomer goes into the second slot
  | logonRequest source destination station origin arrival =>
      obtain ⟨front, active⟩ := front_of_member session valid conn member
      refine Or.imp_right Or.inr
        (newcomer_displaces session _ _ (.new ⟨station, ""⟩) conn member ?_ ?_ ?_)
      · simp [newcomer, active]
      · simp [CPDLCSession.logonRequest, active]
      · simp [CPDLCSession.logonRequest, active]
  | logonAccepted source destination =>
      refine Or.inl ?_
      rw [slots_logon_accepted]
      exact update_first_keeps _ _ _ conn member fun _ => log_on_fixed conn logged
  | connectionRequest source destination =>
      rw [connection_request_eq]
      cases asked : invited session source with
      | false => exact Or.inl member
      | true =>
          obtain ⟨front, active⟩ := front_of_member session valid conn member
          refine Or.imp_right Or.inr
            (newcomer_displaces session _ _ (ndaConnection source) conn member ?_ ?_ ?_)
          · simp [newcomer, asked, active]
          · simp [active]
          · simp [active]
  | connectionAccepted source destination _ accepted =>
      refine Or.inl ?_
      rw [slots_connection_accepted session destination after accepted]
      exact update_first_keeps _ _ _ conn member fun _ => establish_fixed conn linked
  -- only its own station can end it, and only with a message that ends the service
  | application source destination msg admitted =>
      by_cases spared : callsign conn = source → msg.elements.any endsService = false
      · exact Or.inl (apply_elements_keep source msg.elements session conn member spared)
      · have ended : callsign conn = source ∧ msg.elements.any endsService = true := by
          simpa using spared
        have own : (source == callsign conn) = true := by simp [ended.1]
        refine Or.inr (Or.inl ?_)
        simp only [removes, own, admitted, ended.2, Bool.and_self]
  | stationOffline station =>
      by_cases own : callsign conn = station
      · exact Or.inr (Or.inl (by simp [removes, own]))
      · exact Or.inl (removal_keeps session station conn member own)

/-- In a reachable session a connected slot is lost only to its own station's end
of service or absence, or, from the inactive slot, to the newcomer that replaces it. -/
theorem connected_survives (aircraft : AcarsRoutingEndpoint) (handlers : List Handler)
    (handler : Handler) (conn : CPDLCConnection)
    (member : conn ∈ slots (sessionAfter toUppercase aircraft handlers))
    (linked : conn.phase = .connected) :
    conn ∈ slots (sessionAfter toUppercase aircraft (handlers ++ [handler])) ∨
      removes (sessionAfter toUppercase aircraft handlers) (callsign conn) handler = true ∨
      (sessionAfter toUppercase aircraft handlers).inactiveConnection = some conn ∧
        ∃ placed, newcomer (sessionAfter toUppercase aircraft handlers) handler = some placed ∧
          (sessionAfter toUppercase aircraft (handlers ++ [handler])).activeConnection =
            (sessionAfter toUppercase aircraft handlers).activeConnection ∧
          (sessionAfter toUppercase aircraft (handlers ++ [handler])).inactiveConnection =
            some placed := by
  rw [session_after_snoc]
  exact connected_step toUppercase _ handler (well_formed_after toUppercase aircraft handlers)
    conn member ((phase_connected_iff conn).mp linked)

/-- A third logon request takes the slot of a connected station that is never told. -/
theorem third_logon_evicts :
    (⟨⟨"EGTT", ""⟩, true, true⟩ : CPDLCConnection) ∈
        slots (sessionAfter String.toUpper ⟨"AFR123", "39A1B2"⟩
          (attachTo "LFFF" ++ attachTo "EGTT")) ∧
      (⟨⟨"EGTT", ""⟩, true, true⟩ : CPDLCConnection).phase = .connected ∧
      (sessionAfter String.toUpper ⟨"AFR123", "39A1B2"⟩
        (attachTo "LFFF" ++ attachTo "EGTT" ++ [logonTo "EBBU"])).holds "EGTT" = false ∧
      removes (sessionAfter String.toUpper ⟨"AFR123", "39A1B2"⟩
        (attachTo "LFFF" ++ attachTo "EGTT")) "EGTT" (logonTo "EBBU") = false := by
  decide

theorem connected_survives_eviction :
    (⟨⟨"EGTT", ""⟩, true, true⟩ : CPDLCConnection) ∈
        slots (sessionAfter String.toUpper ⟨"AFR123", "39A1B2"⟩
          (attachTo "LFFF" ++ attachTo "EGTT" ++ [logonTo "EBBU"])) ∨
      removes (sessionAfter String.toUpper ⟨"AFR123", "39A1B2"⟩
        (attachTo "LFFF" ++ attachTo "EGTT")) "EGTT" (logonTo "EBBU") = true ∨
      (sessionAfter String.toUpper ⟨"AFR123", "39A1B2"⟩
          (attachTo "LFFF" ++ attachTo "EGTT")).inactiveConnection =
        some ⟨⟨"EGTT", ""⟩, true, true⟩ ∧
        ∃ placed, newcomer (sessionAfter String.toUpper ⟨"AFR123", "39A1B2"⟩
              (attachTo "LFFF" ++ attachTo "EGTT")) (logonTo "EBBU") = some placed ∧
          (sessionAfter String.toUpper ⟨"AFR123", "39A1B2"⟩
              (attachTo "LFFF" ++ attachTo "EGTT" ++ [logonTo "EBBU"])).activeConnection =
            (sessionAfter String.toUpper ⟨"AFR123", "39A1B2"⟩
              (attachTo "LFFF" ++ attachTo "EGTT")).activeConnection ∧
          (sessionAfter String.toUpper ⟨"AFR123", "39A1B2"⟩
              (attachTo "LFFF" ++ attachTo "EGTT" ++ [logonTo "EBBU"])).inactiveConnection =
            some placed :=
  connected_survives String.toUpper ⟨"AFR123", "39A1B2"⟩ (attachTo "LFFF" ++ attachTo "EGTT")
    (logonTo "EBBU") ⟨⟨"EGTT", ""⟩, true, true⟩ (by decide) (by decide)

end Survival

end OpenLink.SessionRuns
