import OpenLink.ApplicationMessages
import OpenLink.MainLoop

/-!
The application traffic of a run. What the server publishes of it is what it has accepted, in the
order of arrival and once each, at the address its destination had at that time.
-/
namespace OpenLink.RelayedTraffic
open Actions ApplicationMessages Cpdlc CpdlcServer Envelope HandlerEffects MainLoop Publications
  Registry RegistryRuns Runs Server Session SessionSteps

/-- Application traffic, which has a MIN in range. The server's own END SERVICE has the MIN 0. -/
def isTraffic : OpenLinkMessage → Bool
  | .acars ⟨_, .cpdlc ⟨_, _, .application msg⟩⟩ => minInRange msg.min
  | _ => false

def traffic (postings : List Posting) : List Posting :=
  postings.filter fun posting => isTraffic posting.2

@[simp] theorem traffic_append (earlier later : List Posting) :
    traffic (earlier ++ later) = traffic earlier ++ traffic later := List.filter_append ..

/-- What the server relays of an event: a message that it accepts goes to the station that is
online under the callsign of its destination, with its free text in upper case. -/
def relayed (config : ServerConfig) (server : OpenLinkServer) : Event → List Posting
  | .arrives _ envelope =>
      match envelope.payload with
      | .acars ⟨routing, .cpdlc ⟨source, destination, .application msg⟩⟩ =>
          if (server.sessions.get (sessionId routing.aircraft)).any fun session =>
              admits session msg then
            addressed config server.stationRegistry destination (.acars ⟨routing,
              .cpdlc ⟨source, destination, .application (normalizeMessage config.toUppercase msg)⟩⟩)
          else []
      | _ => []
  | .presenceTick _ => []

/-! What is no traffic. -/
section Silence
variable (config : ServerConfig)

theorem traffic_silent {postings : List Posting}
    (silent : ∀ posting ∈ postings, isTraffic posting.2 = false) : traffic postings = [] := by
  apply List.filter_eq_nil_iff.mpr
  intro posting member
  simp [silent posting member]

theorem silent_addressed (registry : StationRegistry) (callsign : AcarsEndpointCallsign)
    (payload : OpenLinkMessage) (other : isTraffic payload = false) :
    ∀ posting ∈ addressed config registry callsign payload, isTraffic posting.2 = false := by
  intro posting member
  obtain ⟨entry, _, rfl⟩ := List.mem_map.mp member
  exact other

theorem silent_broadcast (session : CPDLCSession) (payload : OpenLinkMessage)
    (registry : StationRegistry) :
    ∀ posting ∈ broadcastUpdates config session payload registry, isTraffic posting.2 = false := by
  intro posting member
  rcases List.mem_append.mp member with aircraft | station
  · exact silent_addressed config registry _ _ rfl posting aircraft
  · obtain ⟨station, _, told⟩ := List.mem_flatMap.mp station
    exact silent_addressed config registry _ _ rfl posting told

theorem silent_notices (now : DateTime) (station : AcarsEndpointCallsign) (session : CPDLCSession)
    (registry : StationRegistry) :
    ∀ posting ∈ offlineNotices config now station session registry,
      isTraffic posting.2 = false := by
  intro posting member
  rcases List.mem_append.mp member with ending | update
  · split at ending
    · exact silent_addressed config registry _ _ rfl posting ending
    · cases ending
  · exact silent_broadcast config session _ registry posting update

theorem silent_endings {now : DateTime} {stations : List AcarsEndpointCallsign}
    {server after : OpenLinkServer} (ended : Ended config now stations server after) :
    traffic (posted after) = traffic (posted server) := by
  obtain ⟨notices, sent, origins⟩ := ended.notices
  have silent : traffic notices = [] := by
    apply traffic_silent
    intro posting member
    obtain ⟨station, _, session, _, _, _, _, _, notice⟩ := origins posting member
    exact silent_notices config now station session _ posting notice
  rw [sent, traffic_append, silent, List.append_nil]

end Silence

/-! What an event adds. -/
section Events
variable (config : ServerConfig) (server : OpenLinkServer)

theorem status_silent (now : DateTime) (envelope : OpenLinkEnvelope) (message : MetaMessage)
    (payload : envelope.payload = .metaMessage message) (keyed : Keyed server.sessions) :
    traffic (posted (mainLoop config server (.arrives now envelope))) = traffic (posted server) := by
  obtain ⟨stationId, status, acarsEndpoint⟩ := message
  cases source : envelope.routing.source with
  | server network => rw [loop_unaddressed config server now envelope _ network payload source]
  | address network address =>
      cases status with
      | online =>
          obtain ⟨_, _, sent⟩ := loop_online config server now envelope stationId acarsEndpoint
            network address payload source
          have silent : traffic ((listed acarsEndpoint.callsign server.sessions).map fun session =>
              (address, updateMessage session acarsEndpoint.callsign
                (snapshotView session acarsEndpoint.callsign))) = [] := by
            apply traffic_silent
            intro posting member
            obtain ⟨session, _, rfl⟩ := List.mem_map.mp member
            rfl
          rw [sent, traffic_append, silent, List.append_nil]
      | offline =>
          have ended := silent_endings config (loop_offline config server now envelope stationId
            acarsEndpoint network address payload source keyed)
          exact ended

/-- What a handled message publishes besides itself is no traffic. -/
theorem deliveries_traffic (original : OpenLinkMessage) (registry : StationRegistry)
    (destination : AcarsEndpointCallsign) (session : Option CPDLCSession)
    (forwardEnvelope : OpenLinkEnvelope) :
    traffic (deliveries config original registry (.ok (destination, session, forwardEnvelope))) =
      traffic (addressed config registry destination forwardEnvelope.payload) := by
  cases session with
  | none => simp [deliveries]
  | some session =>
      simp only [deliveries, traffic_append,
        traffic_silent (silent_broadcast config session original registry), List.append_nil]

theorem addressed_traffic (registry : StationRegistry) (callsign : AcarsEndpointCallsign)
    (payload : OpenLinkMessage) (own : isTraffic payload = true) :
    traffic (addressed config registry callsign payload) =
      addressed config registry callsign payload := by
  apply List.filter_eq_self.mpr
  intro posting member
  obtain ⟨entry, _, rfl⟩ := List.mem_map.mp member
  exact own

theorem message_traffic (now : DateTime) (envelope : OpenLinkEnvelope) (routing : AcarsRouting)
    (cpdlc : CpdlcEnvelope) (payload : envelope.payload = .acars ⟨routing, .cpdlc cpdlc⟩) :
    traffic (posted (mainLoop config server (.arrives now envelope))) =
      traffic (posted server) ++ relayed config server (.arrives now envelope) := by
  have sent : posted (mainLoop config server (.arrives now envelope)) = _ :=
    (run_acars_message config now routing cpdlc envelope server payload).2.2
  rw [sent, traffic_append]
  congr 1
  obtain ⟨source, destination, msg | message⟩ := cpdlc
  -- an application message goes out once if its session admits it, and else not at all
  · by_cases taken : ∃ session, server.sessions.get (sessionId routing.aircraft) = some session ∧
        admits session msg = true
    · obtain ⟨session, stored, admitted⟩ := taken
      have outcome := run_application_accepted config.toUppercase server.sessions msg
        ⟨source, destination, .application msg⟩
        ⟨routing, .cpdlc ⟨source, destination, .application msg⟩⟩ session stored admitted
      simp only [handleCpdlcMessage, handleCpdlcMessageUnder, run_bind, outcome, run_pure, payload,
        deliveries_traffic, relayed, stored, Option.any_some, admitted, if_true]
      apply addressed_traffic
      exact (Bool.and_eq_true_iff.mp admitted).2
    · have refused : ∀ session, server.sessions.get (sessionId routing.aircraft) = some session →
          admits session msg = false := by
        intro session stored
        by_contra admitted
        exact taken ⟨session, stored, by simpa using admitted⟩
      obtain ⟨failure, outcome⟩ := run_application_refused config.toUppercase server.sessions msg
        ⟨source, destination, .application msg⟩
        ⟨routing, .cpdlc ⟨source, destination, .application msg⟩⟩ refused
      have silent : relayed config server (.arrives now envelope) = [] := by
        cases stored : server.sessions.get (sessionId routing.aircraft) with
        | none => simp [relayed, payload, stored]
        | some session => simp [relayed, payload, stored, refused session stored]
      simp only [handleCpdlcMessage, handleCpdlcMessageUnder, run_bind, outcome, silent]
      rfl
  -- the logon messages and all updates are no traffic
  · have silent : relayed config server (.arrives now envelope) = [] := by simp [relayed, payload]
    rw [silent]
    have passed : (forwarded config.toUppercase ⟨source, destination, .metaMessage message⟩
        envelope) = envelope := rfl
    have done := handled config.toUppercase ⟨source, destination, .metaMessage message⟩
      ⟨routing, .cpdlc ⟨source, destination, .metaMessage message⟩⟩ envelope server.sessions
    generalize runOn (handleCpdlcMessage config.toUppercase ⟨source, destination,
      .metaMessage message⟩ ⟨routing, .cpdlc ⟨source, destination, .metaMessage message⟩⟩ envelope)
      server.sessions = outcome at done ⊢
    cases done with
    | failed failure => rfl
    | passed =>
        rw [deliveries_traffic, passed, payload]
        exact traffic_silent (silent_addressed config _ _ _ rfl)
    | updated =>
        rw [deliveries_traffic, passed, payload]
        exact traffic_silent (silent_addressed config _ _ _ rfl)

theorem loop_traffic (event : Event) (keyed : Keyed server.sessions) :
    traffic (posted (mainLoop config server event)) =
      traffic (posted server) ++ relayed config server event := by
  cases event with
  | presenceTick now =>
      rw [silent_endings config (loop_tick config server now keyed)]
      exact (List.append_nil _).symm
  | arrives now envelope =>
      cases payload : envelope.payload with
      | metaMessage message =>
          rw [status_silent config server now envelope message payload keyed]
          simp [relayed, payload]
      | acars acars =>
          obtain ⟨routing, ⟨cpdlc⟩⟩ := acars
          exact message_traffic config server now envelope routing cpdlc payload

end Events

theorem traffic_relayed (config : ServerConfig) (registry : StationRegistry) (issued : Nat)
    (events : List Event) :
    traffic (posted (exec (mainLoop config) (starting registry issued) events)) =
      collected (mainLoop config) (relayed config) (starting registry issued) events :=
  collected_log (mainLoop config) (relayed config) (fun server => traffic (posted server))
    (fun server => Keyed server.sessions) (loop_keyed config)
    (fun server event keyed => loop_traffic config server event keyed) (starting registry issued)
    (by simp [Keyed, starting]) events

end OpenLink.RelayedTraffic
