import OpenLink.Broadcasts
import OpenLink.Terminations

/-!
The traffic of different aircraft. What the server stores about one aircraft, and what it publishes
about it, depends on the messages about that aircraft and on what the stations announce, and on no
message about another aircraft.
-/
namespace OpenLink.AircraftIsolation
open Actions Arrangements Broadcasts Cpdlc CpdlcServer Envelope HandlerEffects Kv MainLoop
  Publications Registry RegistryRuns Runs Server Session Slots

def isAbout (id : String) : OpenLinkMessage → Bool
  | .acars acars => sessionId acars.routing.aircraft == id
  | .metaMessage _ => false

/-- A message about the aircraft, or an event of the stations. -/
def concerns (id : String) : Event → Bool
  | .arrives _ envelope =>
      match envelope.payload with
      | .acars acars => isAbout id (.acars acars)
      | .metaMessage _ => true
  | .presenceTick _ => true

def about (id : String) (postings : List Posting) : List Posting :=
  postings.filter fun posting => isAbout id posting.2

abbrev groupsAbout (id : String) : List (List Posting) → List (List Posting) :=
  seenGroups fun posting => isAbout id posting.2

/-! Postings of one session. -/
section Postings
variable (id : String)

def Only (postings : List Posting) : Prop := ∀ posting ∈ postings, isAbout id posting.2 = true

theorem only_append {earlier later : List Posting} (first : Only id earlier)
    (second : Only id later) : Only id (earlier ++ later) := by
  intro posting member
  rcases List.mem_append.mp member with before | after
  · exact first posting before
  · exact second posting after

theorem only_elsewhere {other : String} {postings : List Posting} (only : Only other postings)
    (different : other ≠ id) : ∀ posting ∈ postings, isAbout id posting.2 = false := by
  intro posting member
  have own := only posting member
  rcases posting with ⟨address, acars | message⟩
  · simp only [isAbout, beq_iff_eq] at own
    simp only [isAbout, own]
    exact beq_false_of_ne different
  · cases own

theorem groups_elsewhere {other : String} {groups : List (List Posting)}
    (only : Only other groups.flatten) (different : other ≠ id) : groupsAbout id groups = [] := by
  apply seen_groups_none
  intro group member posting inGroup
  exact only_elsewhere id only different posting
    (List.mem_flatten.mpr ⟨group, member, inGroup⟩)

variable (config : ServerConfig) (session : CPDLCSession) (named : sessionId session.aircraft = id)

theorem only_addressed (registry : StationRegistry) (callsign : AcarsEndpointCallsign)
    (payload : OpenLinkMessage) (own : isAbout id payload = true) :
    Only id (addressed config registry callsign payload) := by
  intro posting member
  obtain ⟨entry, _, rfl⟩ := List.mem_map.mp member
  exact own

include named in
theorem only_broadcast (payload : OpenLinkMessage) (registry : StationRegistry) :
    Only id (broadcastUpdates config session payload registry) := by
  have own : ∀ party view, isAbout id (updateMessage session party view) = true := by
    intro party view
    exact beq_iff_eq.mpr named
  apply only_append id (only_addressed id config registry _ _ (own _ _))
  intro posting member
  obtain ⟨station, _, told⟩ := List.mem_flatMap.mp member
  exact only_addressed id config registry _ _ (own _ _) posting told

include named in
theorem only_notices (now : DateTime) (station : AcarsEndpointCallsign)
    (registry : StationRegistry) :
    Only id (noticeGroups config now station session registry).flatten := by
  rw [noticeGroups, List.flatten_cons, update_groups_flatten]
  refine only_append id ?_ (only_broadcast id config session named _ registry)
  split
  · exact only_addressed id config registry _ _ (beq_iff_eq.mpr named)
  · simp [Only]

end Postings

/-! What the stations' events do to one session, and what they publish about it. -/
section Stations
variable (config : ServerConfig) (id : String)

def listing (callsign : AcarsEndpointCallsign) (store : SessionStore) : Option CPDLCSession :=
  (store.get id).filter (relevant callsign)

theorem listed_own (callsign : AcarsEndpointCallsign) (store : SessionStore)
    (keyed : Keyed store) :
    ((listed callsign store).filter fun session => sessionId session.aircraft == id) =
      (listing id callsign store).toList := by
  apply filter_key _ _ (listed_distinct callsign store keyed)
  intro session
  rw [mem_listed, listing, Option.filter_eq_some_iff]
  constructor
  · rintro ⟨⟨⟨key, stored⟩, wanted⟩, rfl⟩
    rw [keyed key session stored]
    exact ⟨stored, wanted⟩
  · rintro ⟨stored, wanted⟩
    exact ⟨⟨⟨id, stored⟩, wanted⟩, keyed id session stored⟩

theorem endings_about (now : DateTime) (station : AcarsEndpointCallsign)
    (registry : StationRegistry) (store : SessionStore) (keyed : Keyed store) :
    groupsAbout id (endingGroups config now station registry (listed station store)) =
      groupsAbout id
        (endingGroups config now station registry (listing id station store).toList) := by
  rw [← listed_own id station store keyed]
  unfold endingGroups groupsAbout
  rw [seen_groups_chosen _ _ _ fun session => sessionId session.aircraft == id]
  · simp only [List.filter_map, List.filter_filter, Function.comp_def,
      SessionSteps.termination_request_aircraft, Bool.and_comm]
  · intro session other group member posting inGroup
    have different : sessionId session.aircraft ≠ id := by simpa using other
    exact only_elsewhere id (only_notices _ config session rfl now station _) different posting
      (List.mem_flatten.mpr ⟨group, member, inGroup⟩)

theorem snapshots_about (address : NetworkAddress) (callsign : AcarsEndpointCallsign)
    (store : SessionStore) (keyed : Keyed store) :
    groupsAbout id (snapshotGroups address callsign (listed callsign store)) =
      groupsAbout id (snapshotGroups address callsign (listing id callsign store).toList) := by
  rw [← listed_own id callsign store keyed]
  unfold snapshotGroups groupsAbout
  rw [List.map_eq_flatMap, List.map_eq_flatMap,
    seen_groups_chosen _ _ _ fun session => sessionId session.aircraft == id]
  intro session other group member posting inGroup
  obtain rfl := List.mem_singleton.mp member
  obtain rfl := List.mem_singleton.mp inGroup
  exact other

end Stations

/-! Servers that stand alike for one aircraft. -/
section Unnoticed
variable (config : ServerConfig) (id : String)

structure Alike (server other : OpenLinkServer) : Prop where
  session : server.sessions.get id = other.sessions.get id
  registry : server.stationRegistry = other.stationRegistry
  keyed : Keyed server.sessions
  keyed_other : Keyed other.sessions

/-- What an event does to the aircraft is the same in both servers, and so is what may be published
about it. -/
structure Unchanged (event : Event) (server other : OpenLinkServer) : Prop where
  alike : Alike id (mainLoop config server event) (mainLoop config other event)
  groups : groupsAbout id (eventGroups config server event) =
    groupsAbout id (eventGroups config other event)

variable {id}

theorem offline_alike (now : DateTime) (station : AcarsEndpointCallsign) (correlationId : String)
    {server other : OpenLinkServer} (alike : Alike id server other) :
    Alike id (runOn (handleStationOffline config now station correlationId) server).2
      (runOn (handleStationOffline config now station correlationId) other).2 := by
  obtain ⟨registry, sessions, _⟩ :=
    run_ending config now station correlationId server alike.keyed
  obtain ⟨registry_other, sessions_other, _⟩ :=
    run_ending config now station correlationId other alike.keyed_other
  exact {
    session := by rw [sessions, sessions_other, alike.session]
    registry := by rw [registry, registry_other, alike.registry]
    keyed := terminated_keyed [station] _ _ sessions alike.keyed
    keyed_other := terminated_keyed [station] _ _ sessions_other alike.keyed_other }

theorem endings_alike (now : DateTime) (station : AcarsEndpointCallsign)
    (registry : StationRegistry) {server other : OpenLinkServer} (alike : Alike id server other) :
    groupsAbout id (endingGroups config now station registry (listed station server.sessions)) =
      groupsAbout id (endingGroups config now station registry (listed station other.sessions)) := by
  rw [endings_about config id now station registry _ alike.keyed,
    endings_about config id now station registry _ alike.keyed_other, listing, listing,
    alike.session]

theorem expired_alike (now : DateTime) (entries : List StationEntry)
    {server other : OpenLinkServer} (alike : Alike id server other) :
    let ending : Handler Unit := entries.forM fun entry => do
      let _ ← attempt (handleStationOffline config now entry.acarsEndpoint.callsign
        s!"presence-expire-{entry.stationId}")
    Alike id (runOn ending server).2 (runOn ending other).2 ∧
      groupsAbout id (sweepGroups config now entries server) =
        groupsAbout id (sweepGroups config now entries other) := by
  induction entries generalizing server other with
  | nil => exact ⟨alike, rfl⟩
  | cons entry rest ih =>
      have first := offline_alike config now entry.acarsEndpoint.callsign
        s!"presence-expire-{entry.stationId}" alike
      have told := endings_alike config now entry.acarsEndpoint.callsign server.stationRegistry alike
      obtain ⟨later, told_later⟩ := ih first
      constructor
      · simp only [List.forM, run_bind, run_attempt] at later ⊢
        exact later
      · rw [sweepGroups, sweepGroups, groupsAbout, seen_groups_append, seen_groups_append]
        exact congrArg₂ _ (alike.registry ▸ told) told_later

theorem registered_alike {server other : OpenLinkServer} (alike : Alike id server other)
    (registry : StationRegistry) :
    Alike id { server with stationRegistry := registry }
      { other with stationRegistry := registry } where
  session := alike.session
  registry := rfl
  keyed := alike.keyed
  keyed_other := alike.keyed_other

theorem tick_alike (now : DateTime) {server other : OpenLinkServer} (alike : Alike id server other) :
    Unchanged config id (.presenceTick now) server other := by
  have swept := registered_alike alike (sweptRegistry config server now)
  obtain ⟨ended, told⟩ := expired_alike config now
    (expiring server.stationRegistry now (leaseTtl config)) swept
  constructor
  · simp only [mainLoop, mainLoopUnder, sweepUnder, run_bind, run_on_registry,
      run_expire_stale_online, ← alike.registry]
    exact ended
  · have same : sweptRegistry config server now = sweptRegistry config other now := by
      rw [sweptRegistry, sweptRegistry, alike.registry]
    simp only [eventGroups, ← alike.registry, ← same]
    exact told

theorem status_alike (now : DateTime) (envelope : OpenLinkEnvelope) (message : MetaMessage)
    (payload : envelope.payload = .metaMessage message)
    {server other : OpenLinkServer} (alike : Alike id server other) :
    Unchanged config id (.arrives now envelope) server other := by
  obtain ⟨stationId, status, acarsEndpoint⟩ := message
  cases source : envelope.routing.source with
  | server network =>
      constructor
      · rw [loop_unaddressed config server now envelope _ network payload source,
          loop_unaddressed config other now envelope _ network payload source]
        exact alike
      · cases status <;> simp [eventGroups, payload, source]
  | address network address =>
      cases status with
      | online =>
          obtain ⟨sessions, registry, _⟩ := loop_online config server now envelope stationId
            acarsEndpoint network address payload source
          obtain ⟨sessions_other, registry_other, _⟩ := loop_online config other now envelope
            stationId acarsEndpoint network address payload source
          constructor
          · exact {
              session := by rw [sessions, sessions_other, alike.session]
              registry := by rw [registry, registry_other, alike.registry]
              keyed := by rw [sessions]; exact alike.keyed
              keyed_other := by rw [sessions_other]; exact alike.keyed_other }
          · simp only [eventGroups, payload, source]
            rw [snapshots_about id _ _ _ alike.keyed, snapshots_about id _ _ _ alike.keyed_other,
              listing, listing, alike.session]
      | offline =>
          constructor
          · rw [loop_status config server now envelope stationId .offline acarsEndpoint network
                address payload source,
              loop_status config other now envelope stationId .offline acarsEndpoint network address
                payload source, if_neg (by simp), ← alike.registry]
            exact offline_alike config now _ _ (registered_alike alike _)
          · simp only [eventGroups, payload, source, ← alike.registry]
            exact endings_alike config now _ _ alike

end Unnoticed

/-! Messages about aircraft. -/
section Messages
variable (config : ServerConfig) (id : String)

theorem handled_local (toUppercase : String → String) (cpdlc : CpdlcEnvelope)
    (acars : AcarsEnvelope) (envelope : OpenLinkEnvelope) (store other : SessionStore)
    (same : store.get (sessionId acars.routing.aircraft) =
      other.get (sessionId acars.routing.aircraft)) :
    let first := runOn (handleCpdlcMessage toUppercase cpdlc acars envelope) store
    let second := runOn (handleCpdlcMessage toUppercase cpdlc acars envelope) other
    first.1 = second.1 ∧ first.2.get (sessionId acars.routing.aircraft) =
      second.2.get (sessionId acars.routing.aircraft) := by
  intro first second
  unfold first second
  cases content : cpdlc.message with
  | application msg =>
      simp only [handleCpdlcMessage, handleCpdlcMessageUnder, content,
        handleCpdlcApplicationMessageUnder, run_bind,
        run_get_and_update, same]
      cases applicationUpdate toUppercase cpdlc.source msg
          (other.get (sessionId acars.routing.aircraft)) with
      | error failure => exact ⟨rfl, same⟩
      | ok result =>
          simp [Except.map, run_pure]
  | metaMessage message =>
      simp only [handleCpdlcMessage, handleCpdlcMessageUnder, content, handleCpdlcMetaMessageUnder,
        run_bind]
      cases metaUpdate acars.routing.aircraft cpdlc.source cpdlc.destination message with
      | none => exact ⟨rfl, same⟩
      | some update =>
          simp only [run_bind, run_get_and_update, same]
          cases update (other.get (sessionId acars.routing.aircraft)) with
          | error failure => exact ⟨rfl, same⟩
          | ok updated =>
              cases updated <;> simp [Except.map, run_pure]

theorem only_deliveries (toUppercase : String → String) (routing : AcarsRouting)
    (cpdlc : CpdlcEnvelope) (envelope : OpenLinkEnvelope) (store : SessionStore)
    (keyed : Keyed store) (payload : envelope.payload = .acars ⟨routing, .cpdlc cpdlc⟩)
    (registry : StationRegistry) :
    Only (sessionId routing.aircraft) (deliveryGroups config envelope.payload registry
      (runOn (handleCpdlcMessage toUppercase cpdlc ⟨routing, .cpdlc cpdlc⟩ envelope)
        store).1).flatten := by
  have passed : isAbout (sessionId routing.aircraft)
      (forwarded toUppercase cpdlc envelope).payload = true := by
    cases content : cpdlc.message <;> simp [forwarded, content, payload, isAbout]
  have after := handled_keyed toUppercase cpdlc ⟨routing, .cpdlc cpdlc⟩ envelope store keyed
  have done := handled toUppercase cpdlc ⟨routing, .cpdlc cpdlc⟩ envelope store
  rw [delivery_groups_flatten]
  generalize runOn (handleCpdlcMessage toUppercase cpdlc ⟨routing, .cpdlc cpdlc⟩ envelope) store =
    outcome at done after
  cases done with
  | failed failure => simp [deliveries, Only]
  | passed =>
      exact only_append _ (only_addressed _ config registry _ _ passed) (by simp [Only])
  | updated =>
      apply only_append _ (only_addressed _ config registry _ _ passed)
      exact only_broadcast _ config _ (after _ _ (by simp)) _ registry

theorem message_groups (now : DateTime) (envelope : OpenLinkEnvelope) (routing : AcarsRouting)
    (cpdlc : CpdlcEnvelope) (payload : envelope.payload = .acars ⟨routing, .cpdlc cpdlc⟩)
    (server : OpenLinkServer) :
    eventGroups config server (.arrives now envelope) =
      deliveryGroups config envelope.payload server.stationRegistry
        (runOn (handleCpdlcMessage config.toUppercase cpdlc ⟨routing, .cpdlc cpdlc⟩ envelope)
          server.sessions).1 := by
  simp only [eventGroups, payload]

variable {id}

theorem message_alike (now : DateTime) (envelope : OpenLinkEnvelope) (routing : AcarsRouting)
    (cpdlc : CpdlcEnvelope) (payload : envelope.payload = .acars ⟨routing, .cpdlc cpdlc⟩)
    (own : sessionId routing.aircraft = id) {server other : OpenLinkServer}
    (alike : Alike id server other) :
    Unchanged config id (.arrives now envelope) server other := by
  obtain ⟨sessions, registry, _⟩ :=
    run_acars_message config now routing cpdlc envelope server payload
  obtain ⟨sessions_other, registry_other, _⟩ :=
    run_acars_message config now routing cpdlc envelope other payload
  obtain ⟨answers, stored⟩ := handled_local config.toUppercase cpdlc ⟨routing, .cpdlc cpdlc⟩
    envelope server.sessions other.sessions (by rw [own]; exact alike.session)
  constructor
  · exact {
      session := by
        rw [← own]
        exact (congrArg (KvStore.get · _) sessions).trans
          (stored.trans (congrArg (KvStore.get · _) sessions_other).symm)
      registry := registry.trans (alike.registry.trans registry_other.symm)
      keyed := loop_keyed config server (.arrives now envelope) alike.keyed
      keyed_other := loop_keyed config other (.arrives now envelope) alike.keyed_other }
  · rw [message_groups config now envelope routing cpdlc payload,
      message_groups config now envelope routing cpdlc payload, answers, alike.registry]

/-- A message about another aircraft does not touch this one. -/
theorem elsewhere_alike (now : DateTime) (envelope : OpenLinkEnvelope) (routing : AcarsRouting)
    (cpdlc : CpdlcEnvelope) (payload : envelope.payload = .acars ⟨routing, .cpdlc cpdlc⟩)
    (elsewhere : sessionId routing.aircraft ≠ id) {server other : OpenLinkServer}
    (alike : Alike id server other) :
    Alike id (mainLoop config server (.arrives now envelope)) other ∧
      groupsAbout id (eventGroups config server (.arrives now envelope)) = [] := by
  obtain ⟨sessions, registry, _⟩ :=
    run_acars_message config now routing cpdlc envelope server payload
  have kept : (runOn (handleCpdlcMessage config.toUppercase cpdlc ⟨routing, .cpdlc cpdlc⟩ envelope)
      server.sessions).2.get id = server.sessions.get id := by
    have done := handled config.toUppercase cpdlc ⟨routing, .cpdlc cpdlc⟩ envelope server.sessions
    generalize runOn (handleCpdlcMessage config.toUppercase cpdlc ⟨routing, .cpdlc cpdlc⟩ envelope)
      server.sessions = outcome at done ⊢
    cases done with
    | failed failure => rfl
    | passed => rfl
    | updated => rw [KvStore.get_put, if_neg fun same => elsewhere same.symm]
  constructor
  · exact {
      session := ((congrArg (KvStore.get · id) sessions).trans kept).trans alike.session
      registry := registry.trans alike.registry
      keyed := loop_keyed config server (.arrives now envelope) alike.keyed
      keyed_other := alike.keyed_other }
  · rw [message_groups config now envelope routing cpdlc payload]
    exact groups_elsewhere id (only_deliveries config config.toUppercase routing cpdlc envelope
      server.sessions alike.keyed payload server.stationRegistry) elsewhere

end Messages

section Runs
variable (config : ServerConfig) {id : String}

theorem noticed_alike (server other : OpenLinkServer) (event : Event)
    (alike : Alike id server other) (noticed : concerns id event = true) :
    Unchanged config id event server other := by
  cases event with
  | presenceTick now => exact tick_alike config now alike
  | arrives now envelope =>
      cases payload : envelope.payload with
      | metaMessage message => exact status_alike config now envelope message payload alike
      | acars acars =>
          obtain ⟨routing, ⟨cpdlc⟩⟩ := acars
          have own : sessionId routing.aircraft = id := by
            simpa [concerns, payload, isAbout] using noticed
          exact message_alike config now envelope routing cpdlc payload own alike

theorem unnoticed_alike (server other : OpenLinkServer) (event : Event)
    (alike : Alike id server other) (unnoticed : concerns id event = false) :
    Alike id (mainLoop config server event) other ∧
      groupsAbout id (eventGroups config server event) = [] := by
  cases event with
  | presenceTick now => simp [concerns] at unnoticed
  | arrives now envelope =>
      cases payload : envelope.payload with
      | metaMessage message => simp [concerns, payload] at unnoticed
      | acars acars =>
          obtain ⟨routing, ⟨cpdlc⟩⟩ := acars
          have elsewhere : sessionId routing.aircraft ≠ id := by
            simpa [concerns, payload, isAbout] using unnoticed
          exact elsewhere_alike config now envelope routing cpdlc payload elsewhere alike

variable (id) in
theorem runs_about (server : OpenLinkServer) (keyed : Keyed server.sessions)
    (events : List Event) :
    groupsAbout id (runGroups config server events) =
      groupsAbout id (runGroups config server (events.filter (concerns id))) := by
  apply collected_purged (mainLoop config) (Alike id) (concerns id) (eventGroups config)
    (groupsAbout id) (seen_groups_append _)
  · intro server other event alike noticed
    have same := noticed_alike config server other event alike noticed
    exact ⟨same.alike, same.groups⟩
  · exact unnoticed_alike config
  · exact ⟨rfl, rfl, keyed, keyed⟩

/-- The part of a log about the aircraft is the part it had before, and then an arrangement of what
can be seen of the groups of the run. -/
theorem logged_about (server : OpenLinkServer) (events : List Event) (part : List Posting) :
    (∃ log, Logged config server events log ∧ about id log = part) ↔
      ∃ added, Arranged (groupsAbout id (runGroups config server events)) added ∧
        part = about id (posted server) ++ added := by
  constructor
  · rintro ⟨_, ⟨added, arranged, rfl⟩, rfl⟩
    exact ⟨about id added, arranged_seen arranged, List.filter_append ..⟩
  · rintro ⟨added, arranged, rfl⟩
    obtain ⟨whole, orders, rfl⟩ := arranged_shown arranged
    exact ⟨posted server ++ whole, ⟨whole, orders, rfl⟩, List.filter_append ..⟩

end Runs

theorem isolated (config : ServerConfig) (id : String) (server : OpenLinkServer)
    (keyed : Keyed server.sessions) (events : List Event) :
    let own := events.filter (concerns id)
    let whole := exec (mainLoop config) server events
    let alone := exec (mainLoop config) server own
    whole.sessions.get id = alone.sessions.get id ∧
      whole.stationRegistry = alone.stationRegistry ∧
      (∀ part, (∃ log, Logged config server events log ∧ about id log = part) ↔
        ∃ log, Logged config server own log ∧ about id log = part) ∧
      Logged config server events (posted whole) ∧ Logged config server own (posted alone) := by
  have alike : Alike id server server := ⟨rfl, rfl, keyed, keyed⟩
  have ended := exec_purged (mainLoop config) (Alike id) (concerns id)
    (fun server other event alike noticed =>
      (noticed_alike config server other event alike noticed).alike)
    (fun server other event alike unnoticed =>
      (unnoticed_alike config server other event alike unnoticed).1) _ _ alike events
  refine ⟨ended.session, ended.registry, fun part => ?_, posted_logged config server keyed _,
    posted_logged config server keyed _⟩
  rw [logged_about, logged_about, runs_about config id server keyed]

/-! `LFFF` leaves while another flight logs on. -/
section Sample

def radar : OpenLinkServer where
  sessions := Terminations.flights
  stationRegistry := [(⟨"cid-1", .online, 0, "cid-1", ⟨"LFFF", "LFFF"⟩⟩ : StationEntry),
    ⟨"cid-2", .online, 0, "cid-2", ⟨"LFPG", "LFPG"⟩⟩,
    ⟨"cid-3", .online, 0, "cid-3", ⟨"AFR123", "39A1B2"⟩⟩].foldl (recorded asciiUppercase) .empty
  issued := 0
  sent := []

def shift : List Event :=
  [.arrives 1 ⟨"1", 1, none, ⟨.address "vatsim" "cid-4", .server "vatsim"⟩,
      .acars ⟨⟨⟨"BAW45", "400CB6"⟩⟩, .cpdlc ⟨"BAW45", "LFPG",
        .metaMessage (.logonRequest "LFPG" "LFBO" "EGLL")⟩⟩, ""⟩,
    .arrives 2 ⟨"2", 2, none, ⟨.address "vatsim" "cid-1", .server "vatsim"⟩,
      .metaMessage (.stationStatus "cid-1" .offline ⟨"LFFF", "LFFF"⟩), ""⟩]

theorem isolated_handover :
    let own := shift.filter (concerns "39A1B2")
    (exec (mainLoop vatsimConfig) radar shift).sessions.get "39A1B2" =
        (exec (mainLoop vatsimConfig) radar own).sessions.get "39A1B2" ∧
      ∀ part, (∃ log, Logged vatsimConfig radar shift log ∧ about "39A1B2" log = part) ↔
        ∃ log, Logged vatsimConfig radar own log ∧ about "39A1B2" log = part :=
  have same := isolated vatsimConfig "39A1B2" radar Terminations.flights_keyed shift
  ⟨same.1, same.2.2.1⟩

end Sample

end OpenLink.AircraftIsolation
