import OpenLink.MainLoop
import OpenLink.Mirroring
import OpenLink.GuiClient
import OpenLink.SessionMembers

/-!
The flights that an ATC client displays and the sessions that the server stores.
The client knows the sessions from the updates addressed to it, so it follows them
as long as every session that its station enters or leaves is announced to it.
-/
namespace OpenLink.AtcProjection
open Actions Cpdlc CpdlcServer Envelope GuiClient HandlerEffects Kv MainLoop MessageBuilder Mirroring
  Publications Registry RegistryRuns Runs SdkClient Server Session SessionMembers SessionSteps

/-! A session as the client of one station displays it. -/
section Views
variable (station : AcarsEndpointCallsign)

def flightOf (session : CPDLCSession) : AcarsEndpointCallsign := session.aircraft.callsign

/-- Only a session that holds the station is displayed. -/
def displayed (session : CPDLCSession) : Option CpdlcSessionView :=
  if session.holds station then some (session.toStationView station) else none

theorem station_view_empty (session : CPDLCSession) :
    ((session.toStationView station).activeConnection.isNone &&
      (session.toStationView station).inactiveConnection.isNone) = !session.holds station := by
  have side : ∀ slot : Option CPDLCConnection, (slot.bind fun conn =>
      if conn.station.callsign = station then
        some (conn.toView session.aircraft.callsign) else none).isNone = !heldBy slot station := by
    intro slot
    cases slot with
    | none => rfl
    | some conn => by_cases same : conn.station.callsign = station <;> simp [heldBy, same]
  simp only [CPDLCSession.toStationView, side, CPDLCSession.holds, Bool.not_or]

theorem displayed_flights (session : CPDLCSession) (tab : TabState)
    (atc : tab.setup.stationType = .atc) :
    flights (handleSessionUpdate (session.toStationView station) tab) =
      Function.update (flights tab) (flightOf session) (displayed station session) := by
  have updated := updated_flights tab atc (session.toStationView station) (flightOf session) rfl
  rw [station_view_empty] at updated
  rw [updated]
  unfold displayed
  cases session.holds station <;> rfl

end Views

/-! What reaches one network address. -/
section Deliveries
variable (config : ServerConfig) (address : NetworkAddress)

def delivered (postings : List Posting) : List OpenLinkMessage :=
  (postings.filter fun posting => posting.1 == address).map Prod.snd

theorem delivered_append (earlier later : List Posting) :
    delivered address (earlier ++ later) = delivered address earlier ++ delivered address later := by
  simp [delivered]

theorem delivered_own {Item : Type} (items : List Item) (payload : Item → OpenLinkMessage) :
    delivered address (items.map fun item => (address, payload item)) = items.map payload := by
  simp [delivered, List.filter_map, Function.comp_def]

def leadsTo (registry : StationRegistry) (callsign : AcarsEndpointCallsign) : Bool :=
  (lookupCallsign config.toUppercase registry callsign).any fun entry =>
    entry.networkAddress == address

theorem delivered_addressed (registry : StationRegistry) (callsign : AcarsEndpointCallsign)
    (payload : OpenLinkMessage) :
    delivered address (addressed config registry callsign payload) =
      if leadsTo config address registry callsign then [payload] else [] := by
  unfold delivered addressed leadsTo
  cases lookupCallsign config.toUppercase registry callsign with
  | none => rfl
  | some entry => by_cases here : entry.networkAddress = address <;> simp [here]

theorem delivered_each (stations : List AcarsEndpointCallsign)
    (postings : AcarsEndpointCallsign → List Posting) :
    delivered address (stations.flatMap postings) =
      stations.flatMap fun station => delivered address (postings station) := by
  induction stations with
  | nil => rfl
  | cons station rest ih => simp only [List.flatMap_cons, delivered_append, ih]

theorem flat_map_single {Item Value : Type} [DecidableEq Item] (items : List Item)
    (distinct : items.Nodup) (chosen : Item) (values : Item → List Value)
    (others : ∀ item ∈ items, item ≠ chosen → values item = []) :
    items.flatMap values = if chosen ∈ items then values chosen else [] := by
  induction items with
  | nil => rfl
  | cons item rest ih =>
      obtain ⟨fresh, tail⟩ := List.nodup_cons.mp distinct
      have later := ih tail fun other member => others other (List.mem_cons_of_mem _ member)
      rw [List.flatMap_cons, later]
      by_cases own : item = chosen
      · subst own
        simp [fresh]
      · have absent := others item List.mem_cons_self own
        simp [absent, Ne.symm own]

theorem mem_broadcast_stations (session : CPDLCSession) (routing : AcarsRouting)
    (message : CpdlcEnvelope) (station : AcarsEndpointCallsign) :
    station ∈ broadcastStations session (.acars ⟨routing, .cpdlc message⟩) ↔
      session.holds station = true ∨
        (station = message.source ∨ station = message.destination) ∧
          station ≠ session.aircraft.callsign := by
  rw [holds_mem]
  simp [broadcastStations, slots, callsign, or_assoc]

theorem broadcast_involved (toUppercase : String → String) (session : CPDLCSession)
    (routing : AcarsRouting) (message : CpdlcEnvelope) (station : AcarsEndpointCallsign)
    (told : station ∈ broadcastStations (step toUppercase session (.message message))
      (.acars ⟨routing, .cpdlc message⟩)) : station ∈ involved session message := by
  rcases (mem_broadcast_stations _ routing message station).mp told with held | ⟨party, _⟩
  · rw [holds_mem] at held
    exact step_callsigns toUppercase session message station held
  · rcases party with same | same <;> simp [involved, same]

/-- A station that a broadcast leaves out had no part in the session, unless it was
displaced unheard. -/
theorem untold_absent (toUppercase : String → String) (session : CPDLCSession)
    (routing : AcarsRouting) (message : CpdlcEnvelope) (station : AcarsEndpointCallsign)
    (far : flightOf session ≠ station)
    (heard : displaces session message station →
      station = message.source ∨ station = message.destination)
    (untold : station ∉ broadcastStations (step toUppercase session (.message message))
      (.acars ⟨routing, .cpdlc message⟩)) :
    session.holds station = false ∧
      (step toUppercase session (.message message)).holds station = false := by
  rw [mem_broadcast_stations, not_or, step_aircraft] at untold
  have absent := (Bool.not_eq_true _).mp untold.1
  refine ⟨?_, absent⟩
  by_contra held
  refine untold.2 ⟨?_, far.symm⟩
  rcases step_loses toUppercase session message station (by simpa using held) absent with
    own | displaced
  · exact Or.inl own
  · exact heard displaced

/-- Where a broadcast leads to the address under one callsign only, and not as the
aircraft, it delivers that station's update or nothing. -/
theorem delivered_broadcast (registry : StationRegistry) (session : CPDLCSession)
    (payload : OpenLinkMessage) (station : AcarsEndpointCallsign)
    (here : leadsTo config address registry station = true)
    (away : leadsTo config address registry session.aircraft.callsign = false)
    (only : ∀ other ∈ broadcastStations session payload,
      leadsTo config address registry other = true → other = station) :
    delivered address (broadcastUpdates config session payload registry) =
      if station ∈ broadcastStations session payload then
        [updateMessage session station (session.toStationView station)] else [] := by
  rw [broadcastUpdates, delivered_append, delivered_addressed, away, delivered_each]
  simp only [delivered_addressed, Bool.false_eq_true, if_false, List.nil_append]
  rw [flat_map_single (broadcastStations session payload) (List.nodup_dedup _) station, here,
    if_pos rfl]
  intro other member different
  rw [if_neg fun leads => different (only other member leads)]

end Deliveries

/-! The client of a station, at its network address, beside the server. -/
section Clients
variable (config : ServerConfig) (station : AcarsEndpointCallsign) (address : NetworkAddress)
  (client : OpenLinkClient) (acarsAddress : String)

def atcSetup : SetupFields := ⟨station, acarsAddress, .atc⟩

def atcTab (server : OpenLinkServer) : TabState :=
  (delivered address (posted server)).foldl
    (handleIncoming client (atcSetup station acarsAddress)) (.new (atcSetup station acarsAddress))

theorem atc_tab_setup (server : OpenLinkServer) :
    (atcTab station address client acarsAddress server).setup = atcSetup station acarsAddress :=
  run_invariant (handleIncoming client (atcSetup station acarsAddress))
    (fun tab => tab.setup = atcSetup station acarsAddress)
    (fun tab payload same => (incoming_setup client _ tab payload).trans same)
    (.new (atcSetup station acarsAddress)) rfl _

def atcFlights (server : OpenLinkServer) : String → Option CpdlcSessionView :=
  flights (atcTab station address client acarsAddress server)

theorem atc_tab_append (server after : OpenLinkServer) (postings : List Posting)
    (sent : posted after = posted server ++ postings) :
    atcTab station address client acarsAddress after =
      (delivered address postings).foldl (handleIncoming client (atcSetup station acarsAddress))
        (atcTab station address client acarsAddress server) := by
  rw [atcTab, sent, delivered_append, List.foldl_append]
  rfl

theorem flights_untouched (payloads : List OpenLinkMessage) (setup : SetupFields)
    (other : ∀ payload ∈ payloads, isSessionUpdate payload = false) (tab : TabState) :
    payloads.foldl (handleIncoming client setup) tab = tab := by
  induction payloads with
  | nil => rfl
  | cons payload rest ih =>
      rw [List.foldl_cons, incoming_other client setup tab payload (other payload List.mem_cons_self)]
      exact ih fun later member => other later (List.mem_cons_of_mem _ member)

theorem flights_updated (setup : SetupFields) (session : CPDLCSession) (tab : TabState)
    (atc : tab.setup.stationType = .atc) :
    flights (handleIncoming client setup tab
        (updateMessage session station (session.toStationView station))) =
      Function.update (flights tab) (flightOf session) (displayed station session) :=
  displayed_flights station session tab atc

/-! The runs in which the station hears of everything. -/

def staysOnline (server : OpenLinkServer) : Event → Prop
  | .arrives now envelope => ∀ entry ∈ announced now envelope, entry.status = .online
  | .presenceTick now => expiring server.stationRegistry now (leaseTtl config) = []

/-- What a CPDLC message must observe for the station to hear of its effect. -/
structure Followable (server : OpenLinkServer) (routing : AcarsRouting) (message : CpdlcEnvelope) :
    Prop where
  /-- The callsign of the station leads to its client. -/
  here : leadsTo config address server.stationRegistry station = true
  /-- No other callsign that takes part does. -/
  only : ∀ other ∈ involved (sessionAt ⟨routing, .cpdlc message⟩ server.sessions) message,
    leadsTo config address server.stationRegistry other = true → other = station
  /-- Nor does the callsign of the aircraft. -/
  away : leadsTo config address server.stationRegistry
    (flightOf (sessionAt ⟨routing, .cpdlc message⟩ server.sessions)) = false
  /-- The message is not itself a session update for the station. -/
  genuine : message.destination = station →
    ∀ view, message.message ≠ .metaMessage (.sessionUpdate view)
  /-- The station is not displaced by a message that it neither sends nor receives. -/
  heard : displaces (sessionAt ⟨routing, .cpdlc message⟩ server.sessions) message station →
    station = message.source ∨ station = message.destination
  /-- No other session of the station is one of the same flight. -/
  alone : station ∈ involved (sessionAt ⟨routing, .cpdlc message⟩ server.sessions) message →
    Alone flightOf (displayed station) server.sessions.get (sessionId routing.aircraft)
      (flightOf (sessionAt ⟨routing, .cpdlc message⟩ server.sessions))

/-- A status from the address of the station names the station. -/
def follows (server : OpenLinkServer) : Event → Prop
  | .arrives now envelope =>
      match envelope.payload with
      | .acars ⟨routing, .cpdlc message⟩ => Followable config station address server routing message
      | .metaMessage _ => ∀ entry ∈ announced now envelope, entry.networkAddress = address →
          entry.acarsEndpoint.callsign = station
  | .presenceTick _ => True

structure CaughtUp (server : OpenLinkServer) : Prop where
  keyed : Keyed server.sessions
  distant : ∀ id session, server.sessions.get id = some session → flightOf session ≠ station
  mirrors : Mirrors flightOf (displayed station) server.sessions.get
    (atcFlights station address client acarsAddress server)

variable {config station address client acarsAddress} {server after : OpenLinkServer}

theorem caught_up_start (registry : StationRegistry) (issued : Nat) :
    CaughtUp station address client acarsAddress (starting registry issued) where
  keyed := by simp [Keyed, starting]
  distant := by simp [starting]
  mirrors := by
    intro callsign view
    simp [starting, Shows, atcFlights, atcTab, posted, delivered, flights, TabState.new]

theorem caught_up_kept (caught : CaughtUp station address client acarsAddress server)
    (same : after.sessions.get = server.sessions.get)
    (flown : atcFlights station address client acarsAddress after =
      atcFlights station address client acarsAddress server) :
    CaughtUp station address client acarsAddress after where
  keyed id session stored := caught.keyed id session (by rwa [← same])
  distant id session stored := caught.distant id session (by rwa [← same])
  mirrors := by
    rw [flown, same]
    exact caught.mirrors

theorem caught_up_quiet (caught : CaughtUp station address client acarsAddress server)
    (same : after.sessions.get = server.sessions.get) (postings : List Posting)
    (sent : posted after = posted server ++ postings)
    (quiet : ∀ payload ∈ delivered address postings, isSessionUpdate payload = false) :
    CaughtUp station address client acarsAddress after := by
  refine caught_up_kept caught same ?_
  rw [atcFlights, atc_tab_append station address client acarsAddress server after postings sent,
    flights_untouched client _ _ quiet]
  rfl

theorem forwarded_update (toUppercase : String → String) (message : CpdlcEnvelope)
    (routing : AcarsRouting) (envelope : OpenLinkEnvelope)
    (payload : envelope.payload = .acars ⟨routing, .cpdlc message⟩)
    (update : isSessionUpdate (forwarded toUppercase message envelope).payload = true) :
    ∃ view, message.message = .metaMessage (.sessionUpdate view) := by
  obtain ⟨source, destination, content⟩ := message
  cases content with
  | application msg => simp [forwarded, payload, isSessionUpdate] at update
  | metaMessage content => cases content <;> simp [forwarded, payload, isSessionUpdate] at update ⊢

theorem forwarded_quiet (message : CpdlcEnvelope) (routing : AcarsRouting)
    (envelope : OpenLinkEnvelope) (payload : envelope.payload = .acars ⟨routing, .cpdlc message⟩)
    (followable : Followable config station address server routing message) :
    ∀ other ∈ delivered address (addressed config server.stationRegistry message.destination
      (forwarded config.toUppercase message envelope).payload), isSessionUpdate other = false := by
  intro other member
  rw [delivered_addressed] at member
  split at member
  · next leads =>
      rw [List.mem_singleton.mp member]
      by_contra update
      obtain ⟨view, content⟩ := forwarded_update config.toUppercase message routing envelope payload
        (by simpa using update)
      have own := followable.only message.destination (by simp [involved]) leads
      exact followable.genuine own view content
  · cases member

theorem get_put_update (store : SessionStore) (id : String) (session : CPDLCSession) :
    (store.put id session).get = Function.update store.get id (some session) := by
  funext other
  rw [KvStore.get_put, Function.update_apply]

theorem caught_up_stored (caught : CaughtUp station address client acarsAddress server)
    (routing : AcarsRouting) (message : CpdlcEnvelope)
    (followable : Followable config station address server routing message)
    (quiet : List Posting)
    (stored : after.sessions = server.sessions.put (sessionId routing.aircraft)
      (step config.toUppercase (sessionAt ⟨routing, .cpdlc message⟩ server.sessions)
        (.message message)))
    (keyed : Keyed after.sessions)
    (sent : posted after = posted server ++ (quiet ++ broadcastUpdates config
      (step config.toUppercase (sessionAt ⟨routing, .cpdlc message⟩ server.sessions)
        (.message message)) (.acars ⟨routing, .cpdlc message⟩) server.stationRegistry))
    (silent : ∀ payload ∈ delivered address quiet, isSessionUpdate payload = false) :
    CaughtUp station address client acarsAddress after := by
  obtain ⟨here, only, away, _, heard, alone⟩ := followable
  have kept : ∀ old, server.sessions.get (sessionId routing.aircraft) = some old →
      old = sessionAt ⟨routing, .cpdlc message⟩ server.sessions := by
    intro old found
    simp [sessionAt, found]
  generalize sessionAt ⟨routing, .cpdlc message⟩ server.sessions = session at *
  have involving := broadcast_involved config.toUppercase session routing message
  have missing := untold_absent config.toUppercase session routing message station
  have aircraft : flightOf (step config.toUppercase session (.message message)) =
      flightOf session := congrArg AcarsRoutingEndpoint.callsign
    (step_aircraft config.toUppercase session (.message message))
  generalize step config.toUppercase session (.message message) = updated at *
  have far : flightOf session ≠ station := by
    intro same
    rw [same, here] at away
    cases away
  -- what reaches the client is what is passed on, and its own update or nothing
  have tab := atc_tab_append station address client acarsAddress server after _ sent
  rw [← aircraft] at away
  rw [delivered_append, List.foldl_append, flights_untouched client _ _ silent,
    delivered_broadcast config address server.stationRegistry updated _ station here away
      fun other member leads => only other (involving other member) leads] at tab
  refine ⟨keyed, ?_, ?_⟩
  · intro id other found
    rw [stored, KvStore.get_put] at found
    split at found
    · cases found
      rwa [aircraft]
    · exact caught.distant id other found
  · rw [stored, get_put_update]
    by_cases told : station ∈ broadcastStations updated (.acars ⟨routing, .cpdlc message⟩)
    · have atc : (atcTab station address client acarsAddress server).setup.stationType = .atc := by
        rw [atc_tab_setup]
        rfl
      rw [if_pos told, List.foldl_cons, List.foldl_nil] at tab
      rw [atcFlights, tab, flights_updated station client _ updated _ atc]
      apply mirrors_notified caught.mirrors
      · rw [aircraft]
        exact alone (involving station told)
      · intro old found
        rw [kept old found, aircraft]
    · obtain ⟨before, absent⟩ := missing far heard told
      rw [if_neg told, List.foldl_nil] at tab
      rw [atcFlights, tab]
      apply mirrors_unnotified caught.mirrors
      · simp [displayed, absent]
      · intro old found
        rw [kept old found]
        simp [displayed, before]

theorem caught_up_acars (caught : CaughtUp station address client acarsAddress server)
    (now : DateTime) (routing : AcarsRouting) (message : CpdlcEnvelope)
    (envelope : OpenLinkEnvelope) (payload : envelope.payload = .acars ⟨routing, .cpdlc message⟩)
    (followable : Followable config station address server routing message) :
    CaughtUp station address client acarsAddress
      (mainLoop config server (.arrives now envelope)) := by
  have keyed := loop_keyed config server (.arrives now envelope) caught.keyed
  obtain ⟨sessions, _, sent⟩ := run_acars_message config now routing message envelope server payload
  have done := handled config.toUppercase message ⟨routing, .cpdlc message⟩ envelope server.sessions
  have silent := forwarded_quiet message routing envelope payload followable
  change (mainLoop config server (.arrives now envelope)).sessions = _ at sessions
  change posted (mainLoop config server (.arrives now envelope)) = _ at sent
  generalize mainLoop config server (.arrives now envelope) = after at keyed sessions sent ⊢
  generalize runOn (handleCpdlcMessage config.toUppercase message ⟨routing, .cpdlc message⟩
    envelope) server.sessions = outcome at done sessions sent
  cases done with
  | failed failure => exact caught_up_quiet caught (congrArg _ sessions) [] sent (by simp [delivered])
  | passed =>
      refine caught_up_quiet caught (congrArg _ sessions) _ sent ?_
      simpa [deliveries] using silent
  | updated =>
      rw [payload] at sent
      exact caught_up_stored caught routing message followable _ sessions keyed sent silent

/-- Snapshots of stored sessions tell the client what it already displays. -/
theorem flights_resynced (caught : CaughtUp station address client acarsAddress server)
    (sessions : List CPDLCSession)
    (stored : ∀ session ∈ sessions, session.holds station = true ∧
      ∃ id, server.sessions.get id = some session)
    (tab : TabState) (atc : tab.setup.stationType = .atc)
    (current : flights tab = atcFlights station address client acarsAddress server) :
    flights ((sessions.map fun session => updateMessage session station
        (session.toStationView station)).foldl
      (handleIncoming client (atcSetup station acarsAddress)) tab) =
      atcFlights station address client acarsAddress server := by
  induction sessions generalizing tab with
  | nil => exact current
  | cons session rest ih =>
      obtain ⟨held, id, found⟩ := stored session List.mem_cons_self
      apply ih fun other member => stored other (List.mem_cons_of_mem _ member)
      · rw [incoming_setup]
        exact atc
      · have shown : displayed station session = some (session.toStationView station) := by
          simp [displayed, held]
        rw [flights_updated station client _ session tab atc, current, shown]
        exact notified_again caught.mirrors id session found _ shown

theorem snapshots_listed (sessions : SessionStore) (address : NetworkAddress)
    (distant : ∀ session ∈ listed station sessions, session.aircraft.callsign ≠ station) :
    delivered address ((listed station sessions).map fun session =>
        (address, updateMessage session station (snapshotView session station))) =
      (listed station sessions).map fun session =>
        updateMessage session station (session.toStationView station) := by
  rw [delivered_own]
  apply List.map_congr_left
  intro session member
  rw [snapshotView, if_neg (distant session member)]

theorem caught_up_status (caught : CaughtUp station address client acarsAddress server)
    (now : DateTime) (envelope : OpenLinkEnvelope) (message : MetaMessage)
    (payload : envelope.payload = .metaMessage message)
    (online : ∀ entry ∈ announced now envelope, entry.status = .online)
    (own : ∀ entry ∈ announced now envelope, entry.networkAddress = address →
      entry.acarsEndpoint.callsign = station) :
    CaughtUp station address client acarsAddress
      (mainLoop config server (.arrives now envelope)) := by
  obtain ⟨stationId, status, acarsEndpoint⟩ := message
  cases source : envelope.routing.source with
  | server network =>
      rwa [loop_unaddressed config server now envelope _ network payload source]
  | address network sender =>
      simp only [announced, payload, source, Option.mem_def, Option.some.injEq,
        forall_eq'] at online own
      subst online
      obtain ⟨sessions, _, sent⟩ := loop_online config server now envelope stationId acarsEndpoint
        network sender payload source
      by_cases here : sender = address
      -- the client itself is back: what it hears is a snapshot of each session that it holds
      · subst here
        have callsign := own rfl
        rw [callsign] at sent
        refine caught_up_kept caught (congrArg _ sessions) ?_
        have distant : ∀ session ∈ listed station server.sessions,
            session.aircraft.callsign ≠ station := by
          intro session member
          obtain ⟨⟨id, found⟩, _⟩ := (mem_listed station server.sessions session).mp member
          exact caught.distant id session found
        have each : ∀ session ∈ listed station server.sessions, session.holds station = true ∧
            ∃ id, server.sessions.get id = some session := by
          intro session member
          obtain ⟨stored, wanted⟩ := (mem_listed station server.sessions session).mp member
          exact ⟨by simpa [relevant, distant session member] using wanted, stored⟩
        rw [atcFlights, atc_tab_append station sender client acarsAddress server _ _ sent,
          snapshots_listed server.sessions sender distant]
        apply flights_resynced caught _ each _ _ rfl
        rw [atc_tab_setup]
        rfl
      · refine caught_up_quiet caught (congrArg _ sessions) _ sent ?_
        simp [delivered, here]

theorem caught_up_tick (caught : CaughtUp station address client acarsAddress server)
    (now : DateTime)
    (online : expiring server.stationRegistry now (leaseTtl config) = []) :
    CaughtUp station address client acarsAddress
      (mainLoop config server (.presenceTick now)) := by
  have ended := loop_tick config server now caught.keyed
  rw [online] at ended
  obtain ⟨notices, sent, origins⟩ := ended.notices
  have none_sent : notices = [] := by
    rw [List.eq_nil_iff_forall_not_mem]
    intro posting member
    obtain ⟨_, listed, _⟩ := origins posting member
    cases listed
  subst none_sent
  refine caught_up_quiet caught ?_ [] sent (by simp [delivered])
  funext id
  rw [ended.sessions]
  simp

theorem caught_up_step (caught : CaughtUp station address client acarsAddress server)
    (event : Event) (online : staysOnline config server event)
    (followed : follows config station address server event) :
    CaughtUp station address client acarsAddress (mainLoop config server event) := by
  cases event with
  | presenceTick now => exact caught_up_tick caught now online
  | arrives now envelope =>
      cases payload : envelope.payload with
      | acars acars =>
          obtain ⟨routing, ⟨message⟩⟩ := acars
          simp only [follows, payload] at followed
          exact caught_up_acars caught now routing message envelope payload followed
      | metaMessage message =>
          simp only [follows, payload] at followed
          exact caught_up_status caught now envelope message payload online followed

end Clients

/-- In a run in which every station stays online and every step can be followed, the
flights that the client of the station displays, once all is delivered, are the
stored sessions that hold the station, each under the callsign of its aircraft and
as the station sees it, and nothing else. -/
theorem projection_converges (config : ServerConfig) (station : AcarsEndpointCallsign)
    (address : NetworkAddress) (client : OpenLinkClient) (acarsAddress : String)
    (registry : StationRegistry) (issued : Nat) (events : List Event)
    (online : Guarded (mainLoop config) (staysOnline config) (starting registry issued) events)
    (followed : Guarded (mainLoop config) (follows config station address)
      (starting registry issued) events)
    (before : List Event) (moment : before <+: events) (flight : String) (view : CpdlcSessionView) :
    let server := exec (mainLoop config) (starting registry issued) before
    (atcTab station address client acarsAddress server).atcSessions.lookup flight = some view ↔
      ∃ id session, server.sessions.get id = some session ∧ session.holds station = true ∧
        session.aircraft.callsign = flight ∧ session.toStationView station = view := by
  intro server
  obtain ⟨later, rfl⟩ := moment
  have both := guarded_both (mainLoop config) (staysOnline config) (follows config station address)
    (starting registry issued) before (guarded_earlier _ _ _ before later online)
    (guarded_earlier _ _ _ before later followed)
  have caught : CaughtUp station address client acarsAddress server :=
    guarded_invariant (mainLoop config) _ (CaughtUp station address client acarsAddress)
      (fun _ event caught admitted => caught_up_step caught event admitted.1 admitted.2)
      (starting registry issued) (caught_up_start registry issued) before both
  rw [show (atcTab station address client acarsAddress server).atcSessions.lookup flight =
    atcFlights station address client acarsAddress server flight from rfl, caught.mirrors]
  refine exists_congr fun id => exists_congr fun session => and_congr_right fun _ => ?_
  cases held : session.holds station <;> simp [displayed, held, flightOf]

/-! A flight that logs on to three stations in a row. -/

def centres : StationRegistry :=
  [(⟨"cid-1", .online, 0, "cid-1", ⟨"LFFF", "LFFF"⟩⟩ : StationEntry),
    ⟨"cid-2", .online, 0, "cid-2", ⟨"EGTT", "EGTT"⟩⟩,
    ⟨"cid-3", .online, 0, "cid-3", ⟨"EBBU", "EBBU"⟩⟩].foldl (recorded asciiUppercase) .empty

def demoClient : OpenLinkClient := ⟨"vatsim", "cid-2", fun _ => none⟩

def logonTo (station : AcarsEndpointCallsign) : Event :=
  .arrives 0 ⟨"1", 0, none, ⟨.address "vatsim" "afr123", .server "vatsim"⟩,
    .acars ⟨⟨⟨"AFR123", "39A1B2"⟩⟩, .cpdlc ⟨"AFR123", station,
      .metaMessage (.logonRequest station "LFBO" "EGLL")⟩⟩, ""⟩

theorem logon_followable :
    Followable vatsimConfig "LFFF" "cid-1" (starting centres 0) ⟨⟨"AFR123", "39A1B2"⟩⟩
      ⟨"AFR123", "LFFF", .metaMessage (.logonRequest "LFFF" "LFBO" "EGLL")⟩ where
  here := by decide
  only := by decide
  away := by decide
  genuine := fun _ _ content => by cases content
  heard := fun ⟨behind, _⟩ => by cases behind
  alone := fun _ _ _ _ stored => by cases stored

theorem projection_converges_logon :
    let server := exec (mainLoop vatsimConfig) (starting centres 0) [logonTo "LFFF"]
    (atcTab "LFFF" "cid-1" demoClient "LFFF" server).atcSessions.lookup "AFR123" =
        some ⟨some "AFR123", some "39A1B2", some ⟨"AFR123", .logonPending⟩, none, none⟩ ↔
      ∃ id session, server.sessions.get id = some session ∧ session.holds "LFFF" = true ∧
        session.aircraft.callsign = "AFR123" ∧ session.toStationView "LFFF" =
          ⟨some "AFR123", some "39A1B2", some ⟨"AFR123", .logonPending⟩, none, none⟩ :=
  projection_converges vatsimConfig "LFFF" "cid-1" demoClient "LFFF" centres 0 [logonTo "LFFF"]
    ⟨by simp [staysOnline, announced, logonTo], trivial⟩ ⟨logon_followable, trivial⟩
    [logonTo "LFFF"] (List.prefix_refl _) "AFR123" _

/-- The third logon takes the slot of EGTT, whose client is not told. -/
theorem displaced_station_displays :
    let server := exec (mainLoop vatsimConfig) (starting centres 0)
      [logonTo "LFFF", logonTo "EGTT", logonTo "EBBU"]
    Guarded (mainLoop vatsimConfig) (staysOnline vatsimConfig) (starting centres 0)
        [logonTo "LFFF", logonTo "EGTT", logonTo "EBBU"] ∧
      (atcTab "EGTT" "cid-2" demoClient "EGTT" server).atcSessions.lookup "AFR123" =
        some ⟨some "AFR123", some "39A1B2", none, some ⟨"AFR123", .logonPending⟩, none⟩ ∧
      ¬ ∃ id session, server.sessions.get id = some session ∧ session.holds "EGTT" = true := by
  intro server
  refine ⟨by simp [Guarded, staysOnline, announced, logonTo], by decide, ?_⟩
  rintro ⟨id, session, stored, held⟩
  have only : server.sessions.keys = ["39A1B2"] := by decide
  have listed := (server.sessions.mem_keys_iff id).mpr ⟨session, stored⟩
  rw [only, List.mem_singleton] at listed
  subst listed
  have absent : (server.sessions.get "39A1B2").map (fun session => session.holds "EGTT") =
    some false := by decide
  rw [stored, Option.map_some, held] at absent
  cases absent

end OpenLink.AtcProjection
