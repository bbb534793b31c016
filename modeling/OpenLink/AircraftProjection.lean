import OpenLink.AtcProjection

/-!
The session that the client of an aircraft displays and the one that the server stores for it. The
client may be away: while its callsign does not lead to it, it is told nothing, and it is told
everything when it comes back.
-/
namespace OpenLink.AircraftProjection
open Actions AtcProjection Cpdlc CpdlcServer Envelope GuiClient HandlerEffects Kv MainLoop
  Publications Registry RegistryRuns Runs SdkClient Server Session SessionMembers SessionRuns
  SessionSteps Slots

/-! What a tab displays of the messages that reach it. -/
section Tabs

def updateOf : OpenLinkMessage → Option CpdlcSessionView
  | .acars ⟨_, .cpdlc ⟨_, _, .metaMessage (.sessionUpdate view)⟩⟩ => some view
  | _ => none

theorem update_of_none {payload : OpenLinkMessage} (other : isSessionUpdate payload = false) :
    updateOf payload = none := by
  unfold updateOf
  split
  · cases other
  · rfl

theorem incoming_session (client : OpenLinkClient) (setup : SetupFields) (tab : TabState)
    (payload : OpenLinkMessage) :
    (handleIncoming client setup tab payload).session = (updateOf payload).or tab.session := by
  cases update : isSessionUpdate payload with
  | false => rw [incoming_other client setup tab payload update, update_of_none update]; rfl
  | true =>
      unfold isSessionUpdate at update
      split at update
      · next view =>
        simp only [handleIncoming, handleIncomingMeta, handleSessionUpdate, updateOf]
        split <;> rfl
      · cases update

theorem received_session (client : OpenLinkClient) (setup : SetupFields) (tab : TabState)
    (payloads : List OpenLinkMessage) :
    (payloads.foldl (handleIncoming client setup) tab).session =
      (payloads.filterMap updateOf).getLast?.or tab.session := by
  induction payloads generalizing tab with
  | nil => rfl
  | cons payload rest ih =>
      rw [List.foldl_cons, ih, incoming_session, ← Option.or_assoc]
      cases update : updateOf payload with
      | none => simp [update]
      | some view =>
          cases later : rest.filterMap updateOf with
          | nil => simp [update, later]
          | cons other others => simp [update, later, List.getLast?_cons]

end Tabs

variable (config : ServerConfig) (aircraft : AcarsRoutingEndpoint) (address : NetworkAddress)

def told (postings : List Posting) : List CpdlcSessionView :=
  (delivered address postings).filterMap updateOf

theorem told_append (earlier later : List Posting) :
    told address (earlier ++ later) = told address earlier ++ told address later := by
  rw [told, delivered_append, List.filterMap_append]
  rfl

theorem told_each {Item : Type} (items : List Item) (postings : Item → List Posting) :
    told address (items.flatMap postings) = items.flatMap fun item => told address (postings item) := by
  induction items with
  | nil => rfl
  | cons item rest ih => rw [List.flatMap_cons, told_append, ih, List.flatMap_cons]

theorem told_addressed (registry : StationRegistry) (callsign : AcarsEndpointCallsign)
    (payload : OpenLinkMessage) :
    told address (addressed config registry callsign payload) =
      if leadsTo config address registry callsign then (updateOf payload).toList else [] := by
  rw [told, delivered_addressed]
  split
  · cases update : updateOf payload <;> simp [update]
  · rfl

def aircraftTab (client : OpenLinkClient) (server : OpenLinkServer) : TabState :=
  let setup : SetupFields := ⟨aircraft.callsign, aircraft.address, .aircraft⟩
  (delivered address (posted server)).foldl (handleIncoming client setup) (.new setup)

theorem tab_session (client : OpenLinkClient) (server : OpenLinkServer) :
    (aircraftTab aircraft address client server).session =
      (told address (posted server)).getLast? := by
  rw [aircraftTab, received_session, told]
  exact Option.or_none

/-! The messages that keep the callsign of the aircraft to the aircraft. -/
section Followed

def named (callsign : AcarsEndpointCallsign) : Prop :=
  config.toUppercase callsign = config.toUppercase aircraft.callsign

/-- The stations that a message may bring into a session. -/
def joining (message : CpdlcEnvelope) : List AcarsEndpointCallsign :=
  match message.message with
  | .metaMessage (.logonRequest station _ _) => [station]
  | .metaMessage .connectionRequest => [message.source]
  | _ => []

structure OwnMessage (server : OpenLinkServer) (routing : AcarsRouting) (message : CpdlcEnvelope) :
    Prop where
  whole : routing.aircraft = aircraft
  /-- A party with the callsign of the aircraft is the aircraft. -/
  parties : ∀ party ∈ [message.source, message.destination], named config aircraft party →
    party = aircraft.callsign
  /-- The aircraft is not its own authority. -/
  stations : ∀ station ∈ joining message, ¬ named config aircraft station
  /-- The message is not itself a session update for the aircraft. -/
  genuine : named config aircraft message.destination →
    ∀ view, message.message ≠ .metaMessage (.sessionUpdate view)
  /-- The aircraft does not log on twice at one station. -/
  fresh : freshLogon (sessionAt ⟨routing, .cpdlc message⟩ server.sessions) (.message message) = true

def OtherMessage (routing : AcarsRouting) (message : CpdlcEnvelope) : Prop :=
  ∀ callsign ∈ routing.aircraft.callsign :: message.source :: message.destination ::
    joining message, ¬ named config aircraft callsign

def followed (server : OpenLinkServer) : Event → Prop
  | .arrives now envelope =>
      match envelope.payload with
      | .acars ⟨routing, .cpdlc message⟩ =>
          if sessionId routing.aircraft = sessionId aircraft then
            OwnMessage config aircraft server routing message
          else OtherMessage config aircraft routing message
      | .metaMessage _ => ∀ entry ∈ announced now envelope, entry.networkAddress = address →
          entry.acarsEndpoint.callsign = aircraft.callsign
  | .presenceTick _ => True

/-- Only a message that brings a station in makes a session hold it. -/
theorem step_joins (toUppercase : String → String) (session : CPDLCSession)
    (message : CpdlcEnvelope) (station : AcarsEndpointCallsign)
    (held : (step toUppercase session (.message message)).holds station = true) :
    session.holds station = true ∨ station ∈ joining message := by
  have done := stepped toUppercase session (.message message)
  generalize step toUppercase session (.message message) = after at done held
  cases done with
  | idle => exact .inl held
  | logonRequest source destination asked origin arrival =>
      refine (placing_holds session (.new ⟨asked, ""⟩) station held).imp_right fun same => ?_
      simp [joining, ← same, callsign, CPDLCConnection.new]
  | logonAccepted source destination =>
      rw [holds_mem, slots_logon_accepted, update_first_keys callsign _ _ callsign_log_on] at held
      exact .inl ((holds_mem session station).mpr held)
  | connectionRequest source destination =>
      rw [connection_request_places] at held
      split at held
      · refine (placing_holds session (ndaConnection source) station held).imp_right fun same => ?_
        simp [joining, ← same, ndaConnection]
      · exact .inl held
  | connectionAccepted source destination _ accepted =>
      rw [holds_mem, slots_connection_accepted session destination after accepted,
        update_first_keys callsign _ _ callsign_establish] at held
      exact .inl ((holds_mem session station).mpr held)
  | application source destination msg admitted =>
      rw [holds_mem] at held ⊢
      exact .inl (((apply_elements_sublist source msg.elements session).map callsign).subset held)

end Followed

/-! The registry: only the aircraft is at its address. -/
section Placed

structure Placed (registry : StationRegistry) : Prop where
  sound : Sound config.toUppercase registry
  own : ∀ id entry, registry.kvRegistryStore.get id = some entry → entry.networkAddress = address →
    entry.acarsEndpoint.callsign = aircraft.callsign

variable {config aircraft address} {registry : StationRegistry}

theorem leads_named (placed : Placed config aircraft address registry)
    (callsign : AcarsEndpointCallsign) (leads : leadsTo config address registry callsign = true) :
    named config aircraft callsign := by
  obtain ⟨entry, found, here⟩ := (Option.any_eq_true ..).mp leads
  obtain ⟨_, same⟩ := lookup_online config.toUppercase registry placed.sound callsign entry found
  have stored : ∃ id, registry.kvRegistryStore.get id = some entry := by
    unfold lookupCallsign at found
    split at found
    · cases found
    · next id _ => exact ⟨id, found⟩
  obtain ⟨id, stored⟩ := stored
  rw [placed.own id entry stored (by simpa using here)] at same
  exact same.symm

theorem placed_recorded (placed : Placed config aircraft address registry) (entry : StationEntry)
    (own : entry.networkAddress = address → entry.acarsEndpoint.callsign = aircraft.callsign) :
    Placed config aircraft address (recorded config.toUppercase registry entry) where
  sound := sound_recorded config.toUppercase registry entry placed.sound
  own := by
    intro id stored present
    rw [recorded_entry] at present
    split at present
    · cases present
      exact own
    · exact placed.own id stored present

/-- Only a station that reports online from the address can lead to it anew. -/
theorem leads_recorded (sound : Sound config.toUppercase registry) (entry : StationEntry)
    (callsign : AcarsEndpointCallsign)
    (away : entry.status = .online → entry.networkAddress ≠ address)
    (leads : leadsTo config address (recorded config.toUppercase registry entry) callsign = true) :
    leadsTo config address registry callsign = true := by
  obtain ⟨found, looked, here⟩ := (Option.any_eq_true ..).mp leads
  obtain ⟨online, _⟩ := lookup_online config.toUppercase _
    (sound_recorded config.toUppercase registry entry sound) callsign found looked
  have other : found ≠ entry := by
    rintro rfl
    exact away online (by simpa using here)
  unfold lookupCallsign at looked
  split at looked
  · cases looked
  · next id indexed =>
    rw [recorded_entry] at looked
    split at looked
    · cases looked
      exact absurd rfl other
    · next elsewhere =>
      have kept : registry.kvCallsignIndexStore.get
          (callsignIndexKey config.toUppercase callsign) = some id := by
        rw [recorded_index] at indexed
        split_ifs at indexed
        · cases indexed
          exact absurd rfl elsewhere
        · exact indexed
      rw [leadsTo, lookupCallsign, kept]
      simpa [looked] using here

end Placed

/-! The sessions: no other aircraft goes by the callsign, and no station does. -/
section Held

structure Held (store : SessionStore) : Prop where
  keyed : Keyed store
  own : ∀ session, store.get (sessionId aircraft) = some session →
    session.aircraft = aircraft ∧ WellFormed session ∧ Distinct session
  apart : ∀ id session, store.get id = some session → id ≠ sessionId aircraft →
    ¬ named config aircraft session.aircraft.callsign
  stations : ∀ id session, store.get id = some session → ∀ station, session.holds station = true →
    ¬ named config aircraft station

variable {config aircraft address} {store : SessionStore} {routing : AcarsRouting}
  {message : CpdlcEnvelope}

theorem session_at_holds (held : Held config aircraft store) (station : AcarsEndpointCallsign)
    (holds : (sessionAt ⟨routing, .cpdlc message⟩ store).holds station = true) :
    ¬ named config aircraft station := by
  unfold sessionAt at holds
  cases stored : store.get (sessionId routing.aircraft) with
  | none =>
      rw [stored] at holds
      cases holds
  | some session =>
      rw [stored] at holds
      exact held.stations _ session stored station holds

variable (message) in
theorem session_at_own (held : Held config aircraft store) (whole : routing.aircraft = aircraft) :
    (sessionAt ⟨routing, .cpdlc message⟩ store).aircraft = aircraft ∧
      WellFormed (sessionAt ⟨routing, .cpdlc message⟩ store) ∧
      Distinct (sessionAt ⟨routing, .cpdlc message⟩ store) := by
  subst whole
  unfold sessionAt
  cases stored : store.get (sessionId routing.aircraft) with
  | none => exact ⟨rfl, well_formed_new _, distinct_new _⟩
  | some session => exact held.own session stored

theorem session_at_other (held : Held config aircraft store)
    (elsewhere : sessionId routing.aircraft ≠ sessionId aircraft)
    (other : ¬ named config aircraft routing.aircraft.callsign) :
    ¬ named config aircraft (sessionAt ⟨routing, .cpdlc message⟩ store).aircraft.callsign := by
  unfold sessionAt
  cases stored : store.get (sessionId routing.aircraft) with
  | none => exact other
  | some session => exact held.apart _ session stored elsewhere

theorem step_stations (held : Held config aircraft store)
    (stations : ∀ station ∈ joining message, ¬ named config aircraft station)
    (station : AcarsEndpointCallsign)
    (holds : (step config.toUppercase (sessionAt ⟨routing, .cpdlc message⟩ store)
      (.message message)).holds station = true) : ¬ named config aircraft station := by
  rcases step_joins config.toUppercase _ message station holds with before | joined
  · exact session_at_holds held station before
  · exact stations station joined

theorem held_own (held : Held config aircraft store) (whole : routing.aircraft = aircraft)
    (stations : ∀ station ∈ joining message, ¬ named config aircraft station)
    (fresh : freshLogon (sessionAt ⟨routing, .cpdlc message⟩ store) (.message message) = true)
    (keyed : Keyed (store.put (sessionId routing.aircraft)
      (step config.toUppercase (sessionAt ⟨routing, .cpdlc message⟩ store) (.message message)))) :
    Held config aircraft (store.put (sessionId routing.aircraft)
      (step config.toUppercase (sessionAt ⟨routing, .cpdlc message⟩ store) (.message message))) where
  keyed := keyed
  own := by
    intro session stored
    rw [KvStore.get_put, if_pos (by rw [whole])] at stored
    cases stored
    obtain ⟨same, valid, distinct⟩ := session_at_own message held whole
    exact ⟨(step_aircraft config.toUppercase _ _).trans same,
      well_formed_step config.toUppercase _ _ valid,
      distinct_step config.toUppercase _ _ valid.ordered distinct fresh⟩
  apart := by
    intro id session stored elsewhere
    rw [KvStore.get_put, if_neg (by rw [whole]; exact elsewhere)] at stored
    exact held.apart id session stored elsewhere
  stations := by
    intro id session stored
    rw [KvStore.get_put] at stored
    split at stored
    · cases stored
      exact step_stations held stations
    · exact held.stations id session stored

theorem held_other (held : Held config aircraft store)
    (elsewhere : sessionId routing.aircraft ≠ sessionId aircraft)
    (other : OtherMessage config aircraft routing message)
    (keyed : Keyed (store.put (sessionId routing.aircraft)
      (step config.toUppercase (sessionAt ⟨routing, .cpdlc message⟩ store) (.message message)))) :
    Held config aircraft (store.put (sessionId routing.aircraft)
      (step config.toUppercase (sessionAt ⟨routing, .cpdlc message⟩ store) (.message message))) where
  keyed := keyed
  own := by
    intro session stored
    rw [KvStore.get_put, if_neg (Ne.symm elsewhere)] at stored
    exact held.own session stored
  apart := by
    intro id session stored away
    rw [KvStore.get_put] at stored
    split at stored
    · cases stored
      rw [step_aircraft]
      exact session_at_other held elsewhere (other _ (by simp))
    · exact held.apart id session stored away
  stations := by
    intro id session stored
    rw [KvStore.get_put] at stored
    split at stored
    · cases stored
      exact step_stations held fun station joined => other station (by simp [joined])
    · exact held.stations id session stored

theorem held_terminated (held : Held config aircraft store) (station : AcarsEndpointCallsign)
    (after : SessionStore)
    (ended : ∀ id, after.get id = (store.get id).map fun session =>
      session.terminationRequest station) : Held config aircraft after where
  keyed := terminated_keyed [station] store after ended held.keyed
  own := by
    intro session stored
    rw [ended, Option.map_eq_some_iff] at stored
    obtain ⟨before, found, rfl⟩ := stored
    obtain ⟨same, valid, distinct⟩ := held.own before found
    have stepped := step_offline config.toUppercase before station
    refine ⟨(termination_request_aircraft before station).trans same, ?_, ?_⟩
    · rw [← stepped]
      exact well_formed_step config.toUppercase before (.stationOffline station) valid
    · rw [← stepped]
      exact distinct_step config.toUppercase before (.stationOffline station) valid.ordered distinct
        rfl
  apart := by
    intro id session stored elsewhere
    rw [ended, Option.map_eq_some_iff] at stored
    obtain ⟨before, found, rfl⟩ := stored
    rw [termination_request_aircraft]
    exact held.apart id before found elsewhere
  stations := by
    intro id session stored other holds
    rw [ended, Option.map_eq_some_iff] at stored
    obtain ⟨before, found, rfl⟩ := stored
    exact held.stations id before found other (holds_terminated other station before holds)

end Held

/-! What the client is told of one session. -/
section Updates

variable {config aircraft address} {registry : StationRegistry}

theorem told_elsewhere (placed : Placed config aircraft address registry)
    (callsign : AcarsEndpointCallsign) (other : ¬ named config aircraft callsign)
    (payload : OpenLinkMessage) :
    told address (addressed config registry callsign payload) = [] := by
  rw [told_addressed, if_neg]
  exact fun leads => other (leads_named placed callsign leads)

/-- Of a broadcast, the client is told the view of the aircraft, or nothing. -/
theorem told_broadcast (placed : Placed config aircraft address registry) (session : CPDLCSession)
    (payload : OpenLinkMessage)
    (apart : ∀ station ∈ broadcastStations session payload, ¬ named config aircraft station) :
    told address (broadcastUpdates config session payload registry) =
      if leadsTo config address registry session.aircraft.callsign then [session.toAircraftView]
      else [] := by
  have stations : ((broadcastStations session payload).flatMap fun station =>
      told address (addressed config registry station
        (updateMessage session station (session.toStationView station)))) = [] :=
    List.flatMap_eq_nil_iff.mpr fun station member =>
      told_elsewhere placed station (apart station member) _
  rw [broadcastUpdates, told_append, told_each, stations, List.append_nil, told_addressed]
  rfl

theorem told_forwarded (placed : Placed config aircraft address registry) (message : CpdlcEnvelope)
    (routing : AcarsRouting) (envelope : OpenLinkEnvelope)
    (payload : envelope.payload = .acars ⟨routing, .cpdlc message⟩)
    (genuine : named config aircraft message.destination →
      ∀ view, message.message ≠ .metaMessage (.sessionUpdate view)) :
    told address (addressed config registry message.destination
      (forwarded config.toUppercase message envelope).payload) = [] := by
  cases update : isSessionUpdate (forwarded config.toUppercase message envelope).payload with
  | false => rw [told_addressed, update_of_none update]; simp
  | true =>
      obtain ⟨view, content⟩ := forwarded_update config.toUppercase message routing envelope payload
        update
      exact told_elsewhere placed _ (fun same => genuine same view content) _

end Updates

/-! The client beside the server. -/
section Machine

def storedView (server : OpenLinkServer) : Option CpdlcSessionView :=
  (server.sessions.get (sessionId aircraft)).map CPDLCSession.toAircraftView

def updated (store : SessionStore) (routing : AcarsRouting) (message : CpdlcEnvelope) :
    CPDLCSession :=
  step config.toUppercase (sessionAt ⟨routing, .cpdlc message⟩ store) (.message message)

structure Synced (server : OpenLinkServer) : Prop where
  placed : Placed config aircraft address server.stationRegistry
  held : Held config aircraft server.sessions
  shown : leadsTo config address server.stationRegistry aircraft.callsign = true →
    (told address (posted server)).getLast? = storedView aircraft server
  unseen : storedView aircraft server = none → told address (posted server) = []

variable {config aircraft address} {server after : OpenLinkServer}

theorem synced_start (issued : Nat) :
    Synced config aircraft address (starting .empty issued) where
  placed := ⟨sound_empty config.toUppercase, by simp [starting, StationRegistry.empty]⟩
  held := ⟨by simp [Keyed, starting], by simp [starting], by simp [starting], by simp [starting]⟩
  shown := fun _ => rfl
  unseen := fun _ => rfl

/-- The client stays in step if all that it is told is what is stored, and it misses nothing. -/
theorem synced_told (synced : Synced config aircraft address server)
    (placed : Placed config aircraft address after.stationRegistry)
    (held : Held config aircraft after.sessions) (postings : List Posting)
    (sent : posted after = posted server ++ postings)
    (kept : storedView aircraft after = none → storedView aircraft server = none)
    (current : ∀ view ∈ told address postings, storedView aircraft after = some view)
    (heard : leadsTo config address after.stationRegistry aircraft.callsign = true →
      told address postings = [] →
      storedView aircraft after = storedView aircraft server ∧
        (leadsTo config address server.stationRegistry aircraft.callsign = true ∨
          storedView aircraft server = none)) :
    Synced config aircraft address after where
  placed := placed
  held := held
  shown := by
    intro leads
    rw [sent, told_append]
    rcases List.eq_nil_or_concat (told address postings) with silent | ⟨earlier, last, spoken⟩
    · obtain ⟨same, before | absent⟩ := heard leads silent
      · rw [silent, List.append_nil, same]
        exact synced.shown before
      · rw [silent, List.append_nil, same, absent, synced.unseen absent]
        rfl
    · rw [current last (by rw [spoken]; simp), spoken]
      simp
  unseen := by
    intro absent
    rw [sent, told_append, synced.unseen (kept absent), List.nil_append,
      List.eq_nil_iff_forall_not_mem]
    intro view member
    rw [current view member] at absent
    cases absent

theorem synced_quiet (synced : Synced config aircraft address server)
    (placed : Placed config aircraft address after.stationRegistry)
    (held : Held config aircraft after.sessions) (postings : List Posting)
    (sent : posted after = posted server ++ postings)
    (same : storedView aircraft after = storedView aircraft server)
    (silent : told address postings = [])
    (before : leadsTo config address after.stationRegistry aircraft.callsign = true →
      leadsTo config address server.stationRegistry aircraft.callsign = true) :
    Synced config aircraft address after := by
  refine synced_told synced placed held postings sent (fun absent => by rw [← same]; exact absent)
    ?_ fun leads _ => ⟨same, .inl (before leads)⟩
  rw [silent]
  simp

/-- A message is passed on past the client, and its broadcast reaches the client as that of the
aircraft, or not at all. -/
theorem synced_message (synced : Synced config aircraft address server) (now : DateTime)
    (routing : AcarsRouting) (message : CpdlcEnvelope) (envelope : OpenLinkEnvelope)
    (payload : envelope.payload = .acars ⟨routing, .cpdlc message⟩)
    (silent : told address (addressed config server.stationRegistry message.destination
      (forwarded config.toUppercase message envelope).payload) = [])
    (held : Keyed (server.sessions.put (sessionId routing.aircraft)
        (updated config server.sessions routing message)) →
      Held config aircraft (server.sessions.put (sessionId routing.aircraft)
        (updated config server.sessions routing message)))
    (apart : ∀ station ∈ broadcastStations (updated config server.sessions routing message)
      (.acars ⟨routing, .cpdlc message⟩), ¬ named config aircraft station)
    (flight : (updated config server.sessions routing message).aircraft = aircraft ∧
        routing.aircraft = aircraft ∨
      ¬ named config aircraft (updated config server.sessions routing message).aircraft.callsign ∧
        sessionId routing.aircraft ≠ sessionId aircraft) :
    Synced config aircraft address (mainLoop config server (.arrives now envelope)) := by
  have keyed := loop_keyed config server (.arrives now envelope) synced.held.keyed
  obtain ⟨sessions, registry, sent⟩ :=
    run_acars_message config now routing message envelope server payload
  have done := handled config.toUppercase message ⟨routing, .cpdlc message⟩ envelope server.sessions
  change (mainLoop config server (.arrives now envelope)).sessions = _ at sessions
  change (mainLoop config server (.arrives now envelope)).stationRegistry = _ at registry
  change posted (mainLoop config server (.arrives now envelope)) = _ at sent
  generalize mainLoop config server (.arrives now envelope) = after at keyed sessions registry sent ⊢
  generalize runOn (handleCpdlcMessage config.toUppercase message ⟨routing, .cpdlc message⟩
    envelope) server.sessions = outcome at done sessions sent
  have placed : Placed config aircraft address after.stationRegistry := by
    rw [registry]
    exact synced.placed
  have way : leadsTo config address after.stationRegistry aircraft.callsign = true →
      leadsTo config address server.stationRegistry aircraft.callsign = true := by
    rw [registry]
    exact id
  -- a refusal tells nobody anything, a session that stays has only the message to pass on, and a
  -- changed session is broadcast besides
  cases done with
  | failed failure =>
      refine synced_quiet synced placed (by rw [sessions]; exact synced.held) [] sent ?_ rfl way
      rw [storedView, sessions]
      rfl
  | passed =>
      refine synced_quiet synced placed (by rw [sessions]; exact synced.held) _ sent ?_ ?_ way
      · rw [storedView, sessions]
        rfl
      · rw [deliveries, List.append_nil]
        exact silent
  | updated =>
      change after.sessions = server.sessions.put _ (updated config server.sessions routing message)
        at sessions
      change posted after = posted server ++ deliveries config envelope.payload
        server.stationRegistry (.ok (_, some (updated config server.sessions routing message), _))
        at sent
      rw [sessions] at keyed
      have heard := told_broadcast synced.placed _ _ apart
      rw [payload] at sent
      rcases flight with ⟨own, whole⟩ | ⟨other, elsewhere⟩
      -- the own session: what the client hears is what is stored from now on
      · have stored : storedView aircraft after =
            some (updated config server.sessions routing message).toAircraftView := by
          rw [storedView, sessions, KvStore.get_put, if_pos (by rw [whole]), Option.map_some]
        rw [own] at heard
        refine synced_told synced placed (by rw [sessions]; exact held keyed) _ sent ?_ ?_ ?_
        · rw [stored]
          exact fun absent => absurd absent (Option.some_ne_none _)
        · intro view member
          rw [deliveries, told_append, silent, List.nil_append, heard] at member
          split at member
          · rw [stored, List.mem_singleton.mp member]
          · cases member
        · intro leads nothing
          rw [deliveries, told_append, silent, List.nil_append, heard, if_pos (way leads)] at nothing
          cases nothing
      -- another session: its broadcast does not lead to this client
      · refine synced_quiet synced placed (by rw [sessions]; exact held keyed) _ sent ?_ ?_ way
        · rw [storedView, sessions, KvStore.get_put, if_neg (Ne.symm elsewhere)]
          rfl
        · rw [deliveries, told_append, silent, List.nil_append, heard, if_neg]
          exact fun leads => other (leads_named synced.placed _ leads)

theorem synced_own (synced : Synced config aircraft address server) (now : DateTime)
    (routing : AcarsRouting) (message : CpdlcEnvelope) (envelope : OpenLinkEnvelope)
    (payload : envelope.payload = .acars ⟨routing, .cpdlc message⟩)
    (own : OwnMessage config aircraft server routing message) :
    Synced config aircraft address (mainLoop config server (.arrives now envelope)) := by
  obtain ⟨same, _, _⟩ := session_at_own _ synced.held own.whole
  have flown : (updated config server.sessions routing message).aircraft = aircraft :=
    (step_aircraft config.toUppercase _ _).trans same
  apply synced_message synced now routing message envelope payload
  · exact told_forwarded synced.placed message routing envelope payload own.genuine
  · exact held_own synced.held own.whole own.stations own.fresh
  · intro station member
    rcases (mem_broadcast_stations _ routing message station).mp member with holds | ⟨party, away⟩
    · exact step_stations synced.held own.stations station holds
    · rw [flown] at away
      exact fun known => away (own.parties station (by simpa using party) known)
  · exact .inl ⟨flown, own.whole⟩

theorem synced_other (synced : Synced config aircraft address server) (now : DateTime)
    (routing : AcarsRouting) (message : CpdlcEnvelope) (envelope : OpenLinkEnvelope)
    (payload : envelope.payload = .acars ⟨routing, .cpdlc message⟩)
    (elsewhere : sessionId routing.aircraft ≠ sessionId aircraft)
    (other : OtherMessage config aircraft routing message) :
    Synced config aircraft address (mainLoop config server (.arrives now envelope)) := by
  have stations : ∀ station ∈ joining message, ¬ named config aircraft station :=
    fun station joined => other station (by simp [joined])
  apply synced_message synced now routing message envelope payload
  · exact told_elsewhere synced.placed message.destination (other _ (by simp)) _
  · exact held_other synced.held elsewhere other
  · intro station member
    rcases (mem_broadcast_stations _ routing message station).mp member with holds | ⟨party, _⟩
    · exact step_stations synced.held stations station holds
    · rcases party with rfl | rfl <;> exact other _ (by simp)
  · refine .inr ⟨?_, elsewhere⟩
    rw [updated, step_aircraft]
    exact session_at_other synced.held elsewhere (other _ (by simp))

/-! The end of a station's service. -/
theorem run_offline_exact (now : DateTime) (station : AcarsEndpointCallsign)
    (correlationId : String) (server : OpenLinkServer) (keyed : Keyed server.sessions) :
    ∃ after, runOn (handleStationOffline config now station correlationId) server =
        (.ok (), after) ∧
      after.stationRegistry = server.stationRegistry ∧
      (∀ id, after.sessions.get id =
        (server.sessions.get id).map fun session => session.terminationRequest station) ∧
      posted after = posted server ++
        ((((listed station server.sessions).map fun session =>
            session.terminationRequest station).filter fun ended => !ended.holds station).flatMap
          fun session => offlineNotices config now station session server.stationRegistry) := by
  obtain ⟨store, ran, effect⟩ := run_terminate_exact station server.sessions keyed
  obtain ⟨after, finished, sessions, registry, sent⟩ :=
    posts_each (((listed station server.sessions).map fun session =>
        session.terminationRequest station).filter fun ended => !ended.holds station)
      (fun session => posts_offline_notices config now station session correlationId)
      { server with sessions := store }
  refine ⟨after, ?_, registry, ?_, sent⟩
  · simp only [handleStationOffline, run_bind, run_on_sessions, ran]
    exact finished
  · intro id
    rw [sessions]
    exact effect id

theorem told_notices (synced : Synced config aircraft address server) (now : DateTime)
    (station : AcarsEndpointCallsign) (id : String) (session : CPDLCSession)
    (stored : server.sessions.get id = some session)
    (wanted : relevant station session = true) :
    told address (offlineNotices config now station (session.terminationRequest station)
        server.stationRegistry) =
      if id = sessionId aircraft ∧
          leadsTo config address server.stationRegistry aircraft.callsign = true then
        [(session.terminationRequest station).toAircraftView]
      else [] := by
  have ending : told address (if config.autoEndServiceOnStationOffline then
      addressed config server.stationRegistry
        (session.terminationRequest station).aircraft.callsign
        (endServiceMessage now (session.terminationRequest station) station) else []) = [] := by
    split
    · rw [told_addressed]
      split <;> rfl
    · rfl
  have held := synced.held.stations id session stored
  have apart : ∀ other ∈ broadcastStations (session.terminationRequest station)
      (endServiceMessage now (session.terminationRequest station) station),
      ¬ named config aircraft other := by
    intro other member
    rcases (mem_broadcast_stations _ _ _ other).mp member with holds | ⟨party, away⟩
    · exact held other (holds_terminated other station session holds)
    · -- only the station itself is told as a party, and it was in the session
      rw [termination_request_aircraft] at party away
      have same : other = station := party.resolve_right away
      rw [same] at away ⊢
      simp only [relevant, Bool.or_eq_true, beq_iff_eq] at wanted
      exact held station (wanted.resolve_left (Ne.symm away))
  rw [offlineNotices, told_append, ending, List.nil_append,
    told_broadcast synced.placed _ _ apart, termination_request_aircraft]
  by_cases own : id = sessionId aircraft
  · subst own
    rw [(synced.held.own session stored).1]
    simp
  · rw [if_neg, if_neg fun both => own both.1]
    exact fun leads => synced.held.apart id session stored own (leads_named synced.placed _ leads)

theorem synced_offline (synced : Synced config aircraft address server) (now : DateTime)
    (station : AcarsEndpointCallsign) (correlationId : String) :
    ∃ after, runOn (handleStationOffline config now station correlationId) server =
        (.ok (), after) ∧ Synced config aircraft address after := by
  obtain ⟨after, ran, registry, sessions, sent⟩ :=
    run_offline_exact now station correlationId server synced.held.keyed
  refine ⟨after, ran, ?_⟩
  have placed : Placed config aircraft address after.stationRegistry := by
    rw [registry]
    exact synced.placed
  have view : storedView aircraft after =
      (server.sessions.get (sessionId aircraft)).map fun session =>
        (session.terminationRequest station).toAircraftView := by
    rw [storedView, sessions, Option.map_map]
    rfl
  refine synced_told synced placed (held_terminated synced.held station _ sessions) _ sent ?_ ?_ ?_
  · rw [view, storedView]
    cases server.sessions.get (sessionId aircraft) <;> simp
  · intro shown member
    rw [told_each, List.mem_flatMap] at member
    obtain ⟨ended, inList, spoken⟩ := member
    obtain ⟨before, wanted, rfl⟩ := List.mem_map.mp (List.mem_filter.mp inList).1
    obtain ⟨⟨id, stored⟩, relevant⟩ := (mem_listed station server.sessions before).mp wanted
    rw [told_notices synced now station id before stored relevant] at spoken
    split at spoken
    · next own =>
      rw [view, ← own.1, stored, List.mem_singleton.mp spoken]
      rfl
    · cases spoken
  · intro leads nothing
    rw [registry] at leads
    refine ⟨?_, .inl leads⟩
    rw [view, storedView]
    cases stored : server.sessions.get (sessionId aircraft) with
    | none => rfl
    | some session =>
        cases wanted : relevant station session with
        | false => simp [irrelevant_kept station session wanted]
        | true =>
            -- the session has lost the station for good, so that the client was told
            have lost : (session.terminationRequest station).holds station = false := by
              rw [← step_offline config.toUppercase session station]
              exact removed_absent config.toUppercase session station (.stationOffline station)
                (synced.held.own session stored).2.2 (by simp [removes])
            have inList : session.terminationRequest station ∈
                ((listed station server.sessions).map fun session =>
                  session.terminationRequest station).filter fun ended => !ended.holds station :=
              List.mem_filter.mpr ⟨List.mem_map.mpr ⟨session,
                (mem_listed station server.sessions session).mpr ⟨⟨_, stored⟩, wanted⟩, rfl⟩,
                by simp [lost]⟩
            rw [told_each, List.flatMap_eq_nil_iff] at nothing
            have spoken := nothing _ inList
            rw [told_notices synced now station _ session stored wanted, if_pos ⟨rfl, leads⟩]
              at spoken
            cases spoken

theorem synced_endings (synced : Synced config aircraft address server) (now : DateTime)
    (entries : List StationEntry) :
    ∃ after, runOn (entries.forM fun entry => do
        let _ ← attempt (handleStationOffline config now entry.acarsEndpoint.callsign
          s!"presence-expire-{entry.stationId}")) server = (.ok (), after) ∧
      Synced config aircraft address after := by
  induction entries generalizing server with
  | nil => exact ⟨server, rfl, synced⟩
  | cons entry rest ih =>
      obtain ⟨middle, ran, kept⟩ := synced_offline synced now entry.acarsEndpoint.callsign
        s!"presence-expire-{entry.stationId}"
      obtain ⟨after, finished, ended⟩ := ih kept
      refine ⟨after, ?_, ended⟩
      simp only [List.forM, run_bind, run_attempt, ran]
      exact finished

theorem synced_recorded (synced : Synced config aircraft address server) (entry : StationEntry)
    (own : entry.networkAddress = address → entry.acarsEndpoint.callsign = aircraft.callsign)
    (away : entry.status = .online → entry.networkAddress ≠ address) :
    Synced config aircraft address
      { server with
        stationRegistry := recorded config.toUppercase server.stationRegistry entry } :=
  synced_quiet synced (placed_recorded synced.placed entry own) synced.held [] (by simp [posted]) rfl
    rfl (leads_recorded synced.placed.sound entry aircraft.callsign away)

theorem synced_retired (synced : Synced config aircraft address server) (now : DateTime)
    (entries : List StationEntry)
    (own : ∀ entry ∈ entries, entry.networkAddress = address →
      entry.acarsEndpoint.callsign = aircraft.callsign) :
    Synced config aircraft address
      { server with
        stationRegistry := (entries.map (retired now)).foldl (recorded config.toUppercase)
          server.stationRegistry } := by
  induction entries generalizing server with
  | nil => exact synced
  | cons entry rest ih =>
      have passed := synced_recorded synced (retired now entry) (own entry List.mem_cons_self)
        (by simp [retired])
      exact ih passed fun other member => own other (List.mem_cons_of_mem _ member)

theorem synced_tick (synced : Synced config aircraft address server) (now : DateTime) :
    Synced config aircraft address (mainLoop config server (.presenceTick now)) := by
  have swept := synced_retired synced now (expiring server.stationRegistry now (leaseTtl config))
    fun entry member => by
      obtain ⟨stored, _⟩ :=
        (mem_expiring _ synced.placed.sound.named _ _ entry).mp member
      exact synced.placed.own _ entry stored
  obtain ⟨after, ran, ended⟩ := synced_endings swept now
    (expiring server.stationRegistry now (leaseTtl config))
  have same : mainLoop config server (.presenceTick now) = after := by
    simp only [mainLoop, mainLoopUnder, sweepUnder, run_bind, run_on_registry,
      run_expire_stale_online]
    exact congrArg Prod.snd ran
  rw [same]
  exact ended

/-- When the aircraft reports online, the client is told what is stored. -/
theorem synced_back (synced : Synced config aircraft address server) (now : DateTime)
    (envelope : OpenLinkEnvelope) (stationId : StationId) (acarsEndpoint : AcarsRoutingEndpoint)
    (network : NetworkId)
    (payload : envelope.payload = .metaMessage (.stationStatus stationId .online acarsEndpoint))
    (source : envelope.routing.source = .address network address)
    (own : acarsEndpoint.callsign = aircraft.callsign) :
    Synced config aircraft address (mainLoop config server (.arrives now envelope)) := by
  obtain ⟨sessions, registry, sent⟩ := loop_online config server now envelope stationId
    acarsEndpoint network address payload source
  rw [own] at sent
  have stored : storedView aircraft (mainLoop config server (.arrives now envelope)) =
      storedView aircraft server := by rw [storedView, sessions]; rfl
  have snapshots : told address ((listed aircraft.callsign server.sessions).map fun session =>
      (address, updateMessage session aircraft.callsign
        (snapshotView session aircraft.callsign))) =
      (listed aircraft.callsign server.sessions).map fun session =>
        snapshotView session aircraft.callsign := by
    rw [told, delivered_own, List.filterMap_map]
    exact congrFun List.filterMap_eq_map (listed aircraft.callsign server.sessions)
  -- no other session is of this callsign or holds it as a station
  have only : ∀ session ∈ listed aircraft.callsign server.sessions,
      server.sessions.get (sessionId aircraft) = some session := by
    intro session member
    obtain ⟨⟨id, found⟩, wanted⟩ := (mem_listed aircraft.callsign _ session).mp member
    simp only [relevant, Bool.or_eq_true, beq_iff_eq] at wanted
    rcases wanted with flown | holds
    · by_cases here : id = sessionId aircraft
      · rwa [here] at found
      · exact absurd (congrArg config.toUppercase flown) (synced.held.apart id session found here)
    · exact absurd rfl (synced.held.stations id session found _ holds)
  refine synced_told synced ?_ (by rw [sessions]; exact synced.held) _ sent ?_ ?_ ?_
  · rw [registry]
    exact placed_recorded synced.placed _ fun _ => own
  · rw [stored]
    exact id
  · rw [snapshots, stored]
    intro view member
    obtain ⟨session, inList, rfl⟩ := List.mem_map.mp member
    have found := only session inList
    rw [storedView, found, snapshotView, if_pos (by rw [(synced.held.own session found).1]),
      Option.map_some]
  · rw [snapshots]
    intro _ nothing
    refine ⟨stored, .inr ?_⟩
    rw [storedView, Option.map_eq_none_iff]
    by_contra present
    obtain ⟨session, found⟩ := Option.ne_none_iff_exists'.mp present
    have inList : session ∈ listed aircraft.callsign server.sessions :=
      (mem_listed aircraft.callsign _ session).mpr
        ⟨⟨_, found⟩, by simp [relevant, (synced.held.own session found).1]⟩
    rw [List.map_eq_nil_iff.mp nothing] at inList
    cases inList

theorem synced_status (synced : Synced config aircraft address server) (now : DateTime)
    (envelope : OpenLinkEnvelope) (message : MetaMessage)
    (payload : envelope.payload = .metaMessage message)
    (own : ∀ entry ∈ announced now envelope, entry.networkAddress = address →
      entry.acarsEndpoint.callsign = aircraft.callsign) :
    Synced config aircraft address (mainLoop config server (.arrives now envelope)) := by
  obtain ⟨stationId, status, acarsEndpoint⟩ := message
  cases source : envelope.routing.source with
  | server network => rwa [loop_unaddressed config server now envelope _ network payload source]
  | address network sender =>
      simp only [announced, payload, source, Option.mem_def, Option.some.injEq,
        forall_eq'] at own
      cases status with
      | offline =>
          have passed := synced_recorded synced ⟨stationId, .offline, now, sender, acarsEndpoint⟩
            own (by simp)
          obtain ⟨after, ran, ended⟩ := synced_offline passed now acarsEndpoint.callsign envelope.id
          rw [loop_status config server now envelope stationId .offline acarsEndpoint network sender
            payload source, if_neg (by simp), ran]
          exact ended
      | online =>
          by_cases here : sender = address
          · subst here
            exact synced_back synced now envelope stationId acarsEndpoint network payload source
              (own rfl)
          · have passed := synced_recorded synced ⟨stationId, .online, now, sender, acarsEndpoint⟩
              own fun _ => here
            obtain ⟨sessions, registry, sent⟩ := loop_online config server now envelope stationId
              acarsEndpoint network sender payload source
            refine synced_quiet passed (by rw [registry]; exact passed.placed)
              (by rw [sessions]; exact synced.held) _ sent ?_ ?_ (by rw [registry]; exact id)
            · rw [storedView, sessions]
              rfl
            · simp [told, delivered, here]

theorem synced_step (synced : Synced config aircraft address server) (event : Event)
    (follows : followed config aircraft address server event) :
    Synced config aircraft address (mainLoop config server event) := by
  cases event with
  | presenceTick now => exact synced_tick synced now
  | arrives now envelope =>
      cases payload : envelope.payload with
      | metaMessage message =>
          simp only [followed, payload] at follows
          exact synced_status synced now envelope message payload follows
      | acars acars =>
          obtain ⟨routing, ⟨message⟩⟩ := acars
          simp only [followed, payload] at follows
          split at follows
          · exact synced_own synced now routing message envelope payload follows
          · next elsewhere =>
            exact synced_other synced now routing message envelope payload elsewhere follows

end Machine

theorem client_follows (client : OpenLinkClient) (issued : Nat) (events : List Event)
    (follows : Guarded (mainLoop config) (followed config aircraft address) (starting .empty issued)
      events) (before : List Event) (moment : before <+: events) :
    let server := exec (mainLoop config) (starting .empty issued) before
    leadsTo config address server.stationRegistry aircraft.callsign = true →
      (aircraftTab aircraft address client server).session =
        (server.sessions.get (sessionId aircraft)).map CPDLCSession.toAircraftView := by
  intro server leads
  obtain ⟨later, rfl⟩ := moment
  have synced : Synced config aircraft address server :=
    guarded_invariant (mainLoop config) (followed config aircraft address)
      (Synced config aircraft address)
      (fun _ event synced admitted => synced_step synced event admitted)
      (starting .empty issued) (synced_start issued) before
      (guarded_earlier _ _ _ before later follows)
  rw [tab_session]
  exact synced.shown leads

/-! A flight that is away while its station goes offline. -/
section Sample

def airbus : AcarsRoutingEndpoint := ⟨"AFR123", "39A1B2"⟩

def report (second : DateTime) (sender callsign : String) (status : StationStatus) : Event :=
  .arrives (second * 1000000000) ⟨"1", 0, none, ⟨.address "vatsim" sender, .server "vatsim"⟩,
    .metaMessage (.stationStatus sender status ⟨callsign, callsign⟩), ""⟩

def absence : List Event :=
  [report 0 "cid-1" "AFR123" .online, logonTo "LFFF", .presenceTick 100000000000,
    report 110 "cid-2" "LFFF" .offline, report 120 "cid-1" "AFR123" .online]

theorem absence_followed :
    Guarded (mainLoop vatsimConfig) (followed vatsimConfig airbus "cid-1") (starting .empty 0)
      absence := by
  have logon : OwnMessage vatsimConfig airbus
      (mainLoop vatsimConfig (starting .empty 0) (report 0 "cid-1" "AFR123" .online)) ⟨airbus⟩
      ⟨"AFR123", "LFFF", .metaMessage (.logonRequest "LFFF" "LFBO" "EGLL")⟩ := {
    whole := rfl
    parties := by simp only [named]; decide
    stations := by simp only [named]; decide
    genuine := fun _ _ content => by cases content
    fresh := by decide }
  refine ⟨?_, logon, trivial, ?_, ?_, trivial⟩
  · rintro entry ⟨⟩ _
    rfl
  · rintro entry ⟨⟩ here
    exact absurd here (by decide)
  · rintro entry ⟨⟩ _
    rfl

theorem client_follows_absence :
    (aircraftTab airbus "cid-1" ⟨"vatsim", "cid-1", fun _ => none⟩
        (exec (mainLoop vatsimConfig) (starting .empty 0) absence)).session =
      some ⟨some "AFR123", some "39A1B2", none, none, none⟩ :=
  (client_follows vatsimConfig airbus "cid-1" ⟨"vatsim", "cid-1", fun _ => none⟩ 0 absence
    absence_followed absence (List.prefix_refl _) (by decide)).trans (by decide)

end Sample

end OpenLink.AircraftProjection
