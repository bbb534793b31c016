import OpenLink.SessionAuthority
import OpenLink.MessageBuilder

/-!
What holds a session up, and what gets it going again. Application messages wait for the first
authority alone: until its connection is accepted, or it goes offline, nothing else helps. On the
other hand there is no session that its parties cannot lead to any station.
-/
namespace OpenLink.SessionRecovery
open Cpdlc MessageBuilder Runs Session SessionAuthority SessionRuns SessionSteps Slots

/-! A first authority that is not connected. -/
section Waiting

def Waiting (station : AcarsEndpointCallsign) (authority : Authority) : Prop :=
  ∃ conn, authority.row.head? = some conn ∧ conn.peer = station ∧ conn.phase ≠ .connected

def releases (station : AcarsEndpointCallsign) : Handler → Bool
  | .stationOffline other => other == station
  | .message ⟨_, destination, .metaMessage (.connectionResponse true)⟩ => destination == station
  | _ => false

variable {station : AcarsEndpointCallsign} {authority : Authority}

/-- Only the first item decides what is in front. -/
theorem waiting_arrive (waiting : Waiting station authority) (conn : CpdlcConnectionView) :
    Waiting station (authority.arrive conn) := by
  obtain ⟨first, front, here, apart⟩ := waiting
  obtain ⟨rest, row⟩ := List.head?_eq_some_iff.mp front
  exact ⟨first, by simp [Authority.arrive, row, place_head], here, apart⟩

theorem waiting_change (waiting : Waiting station authority) (other : AcarsEndpointCallsign)
    (by' : CpdlcConnectionView → CpdlcConnectionView)
    (harmless : other = station → ∀ conn, (by' conn).peer = conn.peer ∧
      (conn.phase ≠ .connected → (by' conn).phase ≠ .connected)) :
    Waiting station (authority.change other by') := by
  obtain ⟨first, front, here, apart⟩ := waiting
  obtain ⟨rest, row⟩ := List.head?_eq_some_iff.mp front
  cases struck : isPeer other first with
  | true =>
      have own : other = station := by rw [← here, ← beq_iff_eq.mp struck]
      obtain ⟨samePeer, stillApart⟩ := harmless own first
      refine ⟨by' first, ?_, samePeer.trans here, stillApart apart⟩
      simp [Authority.change, row, updateFirst, struck]
  | false =>
      refine ⟨first, ?_, here, apart⟩
      simp [Authority.change, row, updateFirst, struck]

theorem waiting_depart (waiting : Waiting station authority) {other : AcarsEndpointCallsign}
    (away : other ≠ station) : Waiting station (authority.depart other) := by
  obtain ⟨first, front, here, apart⟩ := waiting
  obtain ⟨rest, row⟩ := List.head?_eq_some_iff.mp front
  have missed : isPeer other first = false := by
    simpa [isPeer, here] using Ne.symm away
  exact ⟨first, by simp [Authority.depart, row, missed], here, apart⟩

theorem waiting_refuses (waiting : Waiting station authority) : authority.exchanges = false := by
  obtain ⟨first, front, _, apart⟩ := waiting
  simp [Authority.exchanges, front, apart]

theorem logged_harmless (conn : CpdlcConnectionView) : (logged conn).peer = conn.peer ∧
    (conn.phase ≠ .connected → (logged conn).phase ≠ .connected) := by
  unfold logged
  split
  · exact ⟨rfl, fun _ => by simp⟩
  · exact ⟨rfl, id⟩

theorem waiting_step (authority : Authority) (handler : Handler)
    (waiting : Waiting station authority) (held : releases station handler = false) :
    Waiting station (authority.next handler) := by
  cases handler with
  | stationOffline other => exact waiting_depart waiting (by simpa [releases] using held)
  | message cpdlc =>
      obtain ⟨source, destination, msg | message⟩ := cpdlc
      · simp only [Authority.next, Authority.act, waiting_refuses waiting, Bool.false_and,
          Bool.false_eq_true, if_false, Option.getD_none]
        exact waiting
      -- only the acceptance of its own connection would end the waiting of the first authority
      · cases message with
        | logonRequest other origin arrival => exact waiting_arrive waiting _
        | logonResponse accepted =>
            cases accepted with
            | true => exact waiting_change waiting source logged fun _ => logged_harmless
            | false => exact waiting
        | connectionRequest =>
            simp only [Authority.next, Authority.act]
            split
            · exact waiting_arrive waiting _
            · exact waiting
        | connectionResponse accepted =>
            cases accepted with
            | true =>
                have away : destination ≠ station := by simpa [releases] using held
                simp only [Authority.next, Authority.act]
                split
                · split
                  · exact waiting
                  · exact waiting_change waiting destination linked fun own => absurd own away
                · exact waiting
            | false => exact waiting
        | logonForward flight origin arrival other => exact waiting
        | sessionUpdate view => exact waiting

theorem waiting_run (waiting : Waiting station authority) (later : List Handler)
    (held : ∀ handler ∈ later, releases station handler = false) :
    Waiting station (exec Authority.next authority later) := by
  induction later generalizing authority with
  | nil => exact waiting
  | cons handler rest ih =>
      exact ih (waiting_step authority handler waiting (held handler List.mem_cons_self))
        fun other member => held other (List.mem_cons_of_mem _ member)

end Waiting

/-! The way to any station. -/
section Recovery
variable (aircraft : AcarsEndpointCallsign)

def complete (station : AcarsEndpointCallsign) : List Handler :=
  [.message ⟨station, aircraft, logonResponse true⟩,
    .message ⟨aircraft, station, connectionResponse true⟩]

def handshake (station : AcarsEndpointCallsign) : List Handler :=
  [.message ⟨aircraft, station, logonRequest station "ZZZZ" "ZZZZ"⟩,
    .message ⟨station, aircraft, logonResponse true⟩,
    .message ⟨station, aircraft, connectionRequest⟩,
    .message ⟨aircraft, station, connectionResponse true⟩]

/-- The messages that make the station the current authority: the first authority, if it is another
one, completes its own connection to be able to end it. -/
def takeOver (first : Option AcarsEndpointCallsign) (station : AcarsEndpointCallsign)
    (now : DateTime) : List Handler :=
  match first with
  | none => handshake aircraft station
  | some current =>
      if current = station then complete aircraft station
      else complete aircraft current ++ handshake aircraft station ++
        [.message ⟨current, aircraft, endServiceWithMin now 1⟩]

variable (station : AcarsEndpointCallsign) (authority : Authority)

def connectedTo (station : AcarsEndpointCallsign) : CpdlcConnectionView := ⟨station, .connected⟩

theorem linked_to {conn : CpdlcConnectionView} (here : conn.peer = station) :
    linked (logged conn) = connectedTo station := by
  subst here
  unfold logged
  split <;> rfl

theorem logged_live (conn : CpdlcConnectionView) : (logged conn).phase ≠ .logonPending := by
  unfold logged
  split
  · simp
  · next live => exact live

theorem completed {authority : Authority} {conn : CpdlcConnectionView}
    {rest : List CpdlcConnectionView} (row : authority.row = conn :: rest)
    (here : conn.peer = station) :
    (exec Authority.next authority (complete aircraft station)).row =
      connectedTo station :: rest := by
  have struck : isPeer station conn = true := beq_iff_eq.mpr here
  have kept : (logged conn).peer = station := (logged_harmless conn).1.trans here
  have struckAgain : isPeer station (logged conn) = true := beq_iff_eq.mpr kept
  simp [complete, logonResponse, connectionResponse, Authority.next, Authority.act, Authority.change,
    row, updateFirst, struck, struckAgain, logged_live, linked_to station here]

theorem handshake_alone {authority : Authority} (row : authority.row = []) :
    (exec Authority.next authority (handshake aircraft station)).row = [connectedTo station] := by
  simp [handshake, logonRequest, logonResponse, connectionRequest, connectionResponse,
    Authority.next, Authority.act, Authority.arrive, Authority.change, row, place, updateFirst,
    isPeer, logged, linked, connectedTo]

theorem handshake_behind {authority : Authority} {conn : CpdlcConnectionView}
    {rest : List CpdlcConnectionView} (row : authority.row = conn :: rest)
    (away : conn.peer ≠ station) :
    (exec Authority.next authority (handshake aircraft station)).row =
      [conn, connectedTo station] := by
  simp [handshake, logonRequest, logonResponse, connectionRequest, connectionResponse,
    Authority.next, Authority.act, Authority.arrive, Authority.change, row, place, updateFirst,
    isPeer, away, logged, linked, connectedTo]

theorem service_ended {authority : Authority} {current : AcarsEndpointCallsign}
    {rest : List CpdlcConnectionView} (row : authority.row = connectedTo current :: rest)
    (now : DateTime) :
    (authority.next (.message ⟨current, aircraft, endServiceWithMin now 1⟩)).row = rest := by
  have exchanging : (authority.exchanges && minInRange 1) = true := by
    simp [Authority.exchanges, row, connectedTo, minInRange]
  simp only [Authority.next, endServiceWithMin, Authority.act, exchanging, if_true,
    Option.getD_some, List.foldl_cons, List.foldl_nil]
  simp [Authority.element, designatedFacility, endsService, Authority.depart, row, isPeer,
    connectedTo]

/-- Whatever the authorities are, the station becomes the first one, and connected. -/
theorem taken_over (now : DateTime) :
    ∃ rest, (exec Authority.next authority (takeOver aircraft
      (authority.row.head?.map CpdlcConnectionView.peer) station now)).row =
        connectedTo station :: rest := by
  cases row : authority.row with
  | nil => exact ⟨[], handshake_alone aircraft station row⟩
  | cons conn rest =>
      rw [List.head?_cons, Option.map_some]
      by_cases here : conn.peer = station
      · rw [takeOver, if_pos here]
        exact ⟨rest, completed aircraft station row here⟩
      · rw [takeOver, if_neg here, exec_append, exec_append]
        have connected := completed aircraft conn.peer row rfl
        have behind := handshake_behind aircraft station connected here
        exact ⟨[], service_ended aircraft behind now⟩

end Recovery

/-! The sessions of the server. -/
section Sessions
variable (toUppercase : String → String) (aircraft : AcarsRoutingEndpoint)

theorem active_shown (handlers : List Handler) :
    (sessionAfter toUppercase aircraft handlers).toAircraftView.activeConnection =
      (authorityAfter handlers).row.head? := by
  rw [aircraft_after, Authority.aircraftView, List.head?_eq_getElem?]

theorem application_answered (handlers : List Handler) (source destination : AcarsEndpointCallsign)
    (msg : CpdlcApplicationMessage) :
    (handle toUppercase (sessionAfter toUppercase aircraft handlers)
      (.message ⟨source, destination, .application msg⟩)).toOption.isSome =
      ((authorityAfter handlers).exchanges && minInRange msg.min) := by
  have answered := congrArg Option.isSome (handle_after toUppercase aircraft handlers
    (.message ⟨source, destination, .application msg⟩))
  rw [Option.isSome_map] at answered
  rw [answered, Authority.act]
  split
  · next admitted => rw [admitted]; rfl
  · next refused => simpa using refused

/-- While the first authority is not connected, it stays the first one, and no application message
is accepted from anyone, whatever happens but for what releases it. -/
theorem held_up (station : AcarsEndpointCallsign) (handlers later : List Handler)
    (waiting : ∃ conn,
      (sessionAfter toUppercase aircraft handlers).toAircraftView.activeConnection = some conn ∧
        conn.peer = station ∧ conn.phase ≠ .connected)
    (held : ∀ handler ∈ later, releases station handler = false) :
    let session := sessionAfter toUppercase aircraft (handlers ++ later)
    (∃ conn, session.toAircraftView.activeConnection = some conn ∧ conn.peer = station ∧
        conn.phase ≠ .connected) ∧
      ∀ source destination msg, (handle toUppercase session
        (.message ⟨source, destination, .application msg⟩)).toOption.isSome = false := by
  intro session
  rw [active_shown] at waiting
  have still : Waiting station (authorityAfter (handlers ++ later)) := by
    rw [authorityAfter, exec_append]
    exact waiting_run waiting later held
  refine ⟨?_, fun source destination msg => ?_⟩
  · rw [active_shown]
    exact still
  · rw [application_answered, waiting_refuses still, Bool.false_and]

theorem recovered (station : AcarsEndpointCallsign) (handlers : List Handler) (now : DateTime) :
    let session := sessionAfter toUppercase aircraft handlers
    let later := takeOver aircraft.callsign
      (session.toAircraftView.activeConnection.map CpdlcConnectionView.peer) station now
    let after := sessionAfter toUppercase aircraft (handlers ++ later)
    after.toAircraftView.activeConnection = some ⟨station, .connected⟩ ∧
      ∀ source destination msg, (handle toUppercase after
        (.message ⟨source, destination, .application msg⟩)).toOption.isSome =
          minInRange msg.min := by
  intro session later after
  obtain ⟨rest, row⟩ := taken_over aircraft.callsign station (authorityAfter handlers) now
  rw [← active_shown toUppercase aircraft handlers] at row
  have reached : (authorityAfter (handlers ++ later)).row = connectedTo station :: rest := by
    rw [authorityAfter, exec_append]
    exact row
  refine ⟨?_, fun source destination msg => ?_⟩
  · rw [active_shown, reached]
    rfl
  · rw [application_answered, Authority.exchanges, reached]
    rfl

end Sessions

section Sample

theorem unanswered_logon :
    let aircraft : AcarsRoutingEndpoint := ⟨"AFR123", "39401A"⟩
    let first : List Handler := [.message ⟨"AFR123", "LFPG", logonRequest "LFPG" "ZZZZ" "ZZZZ"⟩]
    let session := sessionAfter asciiUppercase aircraft (first ++ handshake "AFR123" "EHAM")
    (∃ conn, session.toAircraftView.activeConnection = some conn ∧ conn.peer = "LFPG" ∧
        conn.phase ≠ .connected) ∧
      ∀ source destination msg, (handle asciiUppercase session
        (.message ⟨source, destination, .application msg⟩)).toOption.isSome = false := by
  intro aircraft first session
  exact held_up asciiUppercase aircraft "LFPG" first (handshake "AFR123" "EHAM")
    ⟨⟨"LFPG", .logonPending⟩, rfl, rfl, by decide⟩ (by decide)

end Sample

end OpenLink.SessionRecovery
