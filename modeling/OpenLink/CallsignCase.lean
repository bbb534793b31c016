import OpenLink.MainLoop
import OpenLink.Respelling

/-!
What the server makes of two sequences of events that spell callsigns differently. The
registry compares callsigns in upper case, so it sees one sequence where only the case
differs; the sessions compare them as they are spelled.
-/
namespace OpenLink.CallsignCase
open Actions Cpdlc CpdlcServer Envelope HandlerEffects Kv MainLoop Publications Registry
  RegistryRuns Respelling Runs Server Session

variable (config : ServerConfig) (spelled : AcarsEndpointCallsign → AcarsEndpointCallsign → Prop)

def CaseOnly (toUppercase : String → String) : Prop :=
  ∀ left right, spelled left right → toUppercase left = toUppercase right

/-! What arrives and what is stored, apart from the spelling. -/
section Relations

structure EntryLike (left right : StationEntry) : Prop where
  stationId : left.stationId = right.stationId
  status : left.status = right.status
  lastUpdated : left.lastUpdated = right.lastUpdated
  networkAddress : left.networkAddress = right.networkAddress
  acarsEndpoint : EndpointLike spelled left.acarsEndpoint right.acarsEndpoint

inductive PayloadLike : OpenLinkMessage → OpenLinkMessage → Prop where
  | acars {left right : AcarsRoutingEndpoint} (aircraft : EndpointLike spelled left right)
      {message other : CpdlcEnvelope} (same : CpdlcLike spelled message other) :
      PayloadLike (.acars ⟨⟨left⟩, .cpdlc message⟩) (.acars ⟨⟨right⟩, .cpdlc other⟩)
  | metaMessage (stationId : StationId) (status : StationStatus)
      {left right : AcarsRoutingEndpoint} (acarsEndpoint : EndpointLike spelled left right) :
      PayloadLike (.metaMessage (.stationStatus stationId status left))
        (.metaMessage (.stationStatus stationId status right))

structure EnvelopeLike (left right : OpenLinkEnvelope) : Prop where
  id : left.id = right.id
  timestamp : left.timestamp = right.timestamp
  correlationId : left.correlationId = right.correlationId
  routing : left.routing = right.routing
  payload : PayloadLike spelled left.payload right.payload
  token : left.token = right.token

inductive EventLike : Event → Event → Prop where
  | arrives (now : DateTime) {left right : OpenLinkEnvelope} (same : EnvelopeLike spelled left right) :
      EventLike (.arrives now left) (.arrives now right)
  | presenceTick (now : DateTime) : EventLike (.presenceTick now) (.presenceTick now)

structure RegistryLike (left right : StationRegistry) : Prop where
  entries : ∀ id, Option.Rel (EntryLike spelled) (left.kvRegistryStore.get id)
    (right.kvRegistryStore.get id)
  order : left.kvRegistryStore.keys = right.kvRegistryStore.keys
  index : ∀ key, left.kvCallsignIndexStore.get key = right.kvCallsignIndexStore.get key

def StoreLike (left right : SessionStore) : Prop :=
  ∀ id, Option.Rel (SessionLike spelled) (left.get id) (right.get id)

end Relations

/-! The registry reads a callsign in upper case, but for the test whether a station changes it. -/
section Registry
variable {toUppercase : String → String} {spelled} (folded : CaseOnly spelled toUppercase)

theorem stale_key_iff (registry : StationRegistry) (entry : StationEntry) (key : String)
    (away : key ≠ callsignIndexKey toUppercase entry.acarsEndpoint.callsign) :
    staleKey toUppercase registry entry = some key ↔
      (registry.kvRegistryStore.get entry.stationId).map
        (fun existing => toUppercase existing.acarsEndpoint.callsign) = some key := by
  unfold staleKey
  cases registry.kvRegistryStore.get entry.stationId with
  | none => simp
  | some existing =>
      by_cases kept : existing.acarsEndpoint.callsign = entry.acarsEndpoint.callsign
      · simpa [kept, callsignIndexKey] using Ne.symm away
      · simp [kept, callsignIndexKey]

include folded in
theorem key_like {left right : StationEntry} (same : EntryLike spelled left right) :
    callsignIndexKey toUppercase left.acarsEndpoint.callsign =
      callsignIndexKey toUppercase right.acarsEndpoint.callsign :=
  folded _ _ same.acarsEndpoint.callsign

include folded in
theorem former_key_like {left right : Option StationEntry}
    (stored : Option.Rel (EntryLike spelled) left right) :
    left.map (fun existing => toUppercase existing.acarsEndpoint.callsign) =
      right.map fun existing => toUppercase existing.acarsEndpoint.callsign := by
  cases stored with
  | none => rfl
  | some same => exact congrArg some (key_like folded same)

include folded in
theorem recorded_like {left right : StationRegistry} (alike : RegistryLike spelled left right)
    {entry other : StationEntry} (same : EntryLike spelled entry other) :
    RegistryLike spelled (recorded toUppercase left entry) (recorded toUppercase right other) where
  entries id := by
    rw [recorded_entry, recorded_entry, same.stationId]
    split
    · exact .some same
    · exact alike.entries id
  order := by
    rw [recorded_store, recorded_store, KvStore.keys_put, KvStore.keys_put, alike.order,
      same.stationId]
  index key := by
    have own := key_like folded same
    rw [recorded_index, recorded_index, same.stationId, same.status, own]
    by_cases away : key = callsignIndexKey toUppercase other.acarsEndpoint.callsign
    · rw [if_pos away, if_pos away]
    · have former := former_key_like folded (alike.entries entry.stationId)
      have givenUp : staleKey toUppercase left entry = some key ↔
          staleKey toUppercase right other = some key := by
        rw [stale_key_iff left entry key (own ▸ away), stale_key_iff right other key away, former,
          same.stationId]
      simp only [if_neg away, givenUp, alike.index key]

theorem stale_like (now ttl : DateTime) {left right : StationEntry}
    (same : EntryLike spelled left right) : stale now ttl left = stale now ttl right := by
  rw [stale, stale, same.status, same.lastUpdated]

theorem expiring_like {left right : StationRegistry} (alike : RegistryLike spelled left right)
    (now ttl : DateTime) :
    List.Forall₂ (EntryLike spelled) (expiring left now ttl) (expiring right now ttl) := by
  have listed : List.Forall₂ (EntryLike spelled) (listEntries left) (listEntries right) := by
    unfold listEntries
    rw [alike.order]
    refine List.rel_filterMap (R := Eq) ?_ (List.forall₂_refl _)
    rintro id _ rfl
    exact alike.entries id
  refine List.rel_filter ?_ listed
  intro entry other same
  simp only [stale_like now ttl same]

include folded in
theorem swept_like {left right : StationRegistry} (alike : RegistryLike spelled left right)
    (now ttl : DateTime) :
    RegistryLike spelled
      (((expiring left now ttl).map (retired now)).foldl (recorded toUppercase) left)
      (((expiring right now ttl).map (retired now)).foldl (recorded toUppercase) right) := by
  have ended : List.Forall₂ (EntryLike spelled) ((expiring left now ttl).map (retired now))
      ((expiring right now ttl).map (retired now)) := by
    refine List.rel_map ?_ (expiring_like alike now ttl)
    exact fun _ _ same => ⟨same.stationId, rfl, rfl, same.networkAddress, same.acarsEndpoint⟩
  refine List.rel_foldl ?_ alike ended
  exact fun _ _ like _ _ same => recorded_like folded like same

/-- Callsigns that are one in upper case resolve to one entry. -/
theorem lookup_like {left right : StationRegistry} (alike : RegistryLike spelled left right)
    {callsign other : AcarsEndpointCallsign} (same : toUppercase callsign = toUppercase other) :
    Option.Rel (EntryLike spelled) (lookupCallsign toUppercase left callsign)
      (lookupCallsign toUppercase right other) := by
  unfold lookupCallsign
  rw [callsignIndexKey, callsignIndexKey, same, alike.index]
  cases right.kvCallsignIndexStore.get (toUppercase other) with
  | none => exact .none
  | some id => exact alike.entries id

end Registry

/-! The sessions are alike where the two spellings tell the same callsigns apart. -/
section Sessions
variable {config spelled} (exactly : OneToOne spelled)

theorem get_and_update_like {Cell : Type} {aircraft another : AcarsRoutingEndpoint}
    (owner : EndpointLike spelled aircraft another)
    {first second : Option CPDLCSession → Except String (Option CPDLCSession × Cell)}
    {store other : SessionStore} (alike : StoreLike spelled store other)
    (outcome : OutcomeLike (fun left right => Option.Rel (SessionLike spelled) left.1 right.1)
      (first (store.get (sessionId aircraft))) (second (other.get (sessionId another)))) :
    StoreLike spelled (runOn (getAndUpdateSessionForAircraft aircraft first) store).2
      (runOn (getAndUpdateSessionForAircraft another second) other).2 := by
  have address : sessionId aircraft = sessionId another := owner.address
  rw [run_get_and_update, run_get_and_update]
  generalize first (store.get (sessionId aircraft)) = left at outcome ⊢
  generalize second (other.get (sessionId another)) = right at outcome ⊢
  intro id
  rcases left with failure | ⟨left, cell⟩ <;> rcases right with failure | ⟨right, content⟩
  · exact alike id
  · exact outcome.elim
  · exact outcome.elim
  · have written : Option.Rel (SessionLike spelled) left right := outcome
    cases written with
    | none =>
        simp only [KvStore.get_delete, address]
        split
        · exact .none
        · exact alike id
    | some same =>
        simp only [KvStore.get_put, address]
        split
        · exact .some same
        · exact alike id

theorem application_store (toUppercase : String → String)
    (source destination : AcarsEndpointCallsign) (msg : CpdlcApplicationMessage)
    (acars : AcarsEnvelope) (envelope : OpenLinkEnvelope) (store : SessionStore) :
    (runOn (handleCpdlcMessage toUppercase ⟨source, destination, .application msg⟩ acars envelope)
        store).2 =
      (runOn (getAndUpdateSessionForAircraft acars.routing.aircraft fun maybeSession =>
        (applicationUpdate toUppercase source msg maybeSession).map fun result =>
          (some result.1, result.2)) store).2 := by
  simp only [handleCpdlcMessage, handleCpdlcMessageUnder, handleCpdlcApplicationMessageUnder,
    run_bind]
  rcases runOn (getAndUpdateSessionForAircraft acars.routing.aircraft _) store with ⟨_ | _, after⟩ <;>
    rfl

theorem meta_store (toUppercase : String → String) (source destination : AcarsEndpointCallsign)
    (message : CpdlcMetaMessage) (acars : AcarsEnvelope) (envelope : OpenLinkEnvelope)
    (store : SessionStore) :
    (runOn (handleCpdlcMessage toUppercase ⟨source, destination, .metaMessage message⟩ acars
        envelope) store).2 =
      (metaUpdate acars.routing.aircraft source destination message).elim store fun update =>
        (runOn (getAndUpdateSessionForAircraft acars.routing.aircraft fun maybeSession =>
          (update maybeSession).map fun session => (session, ())) store).2 := by
  simp only [handleCpdlcMessage, handleCpdlcMessageUnder, handleCpdlcMetaMessageUnder]
  cases metaUpdate acars.routing.aircraft source destination message with
  | none => rfl
  | some update =>
      simp only [run_bind, Option.elim_some]
      rcases runOn (getAndUpdateSessionForAircraft acars.routing.aircraft _) store with
        ⟨_ | _, after⟩ <;> rfl

include exactly in
theorem message_like (toUppercase : String → String) {aircraft another : AcarsRoutingEndpoint}
    (owner : EndpointLike spelled aircraft another) {message content : CpdlcEnvelope}
    (same : CpdlcLike spelled message content) (envelope received : OpenLinkEnvelope)
    {store other : SessionStore} (alike : StoreLike spelled store other) :
    StoreLike spelled
      (runOn (handleCpdlcMessage toUppercase message ⟨⟨aircraft⟩, .cpdlc message⟩ envelope) store).2
      (runOn (handleCpdlcMessage toUppercase content ⟨⟨another⟩, .cpdlc content⟩ received)
        other).2 := by
  have stored : Option.Rel (SessionLike spelled) (store.get (sessionId aircraft))
      (other.get (sessionId another)) := by
    have address : sessionId aircraft = sessionId another := owner.address
    rw [address]
    exact alike _
  obtain ⟨source, destination, message⟩ := message
  obtain ⟨sender, addressee, content⟩ := content
  obtain ⟨named, addressed, written⟩ := same
  cases written with
  | application msg =>
      rw [application_store, application_store]
      refine get_and_update_like owner alike (outcome_map ?_
        (application_like exactly toUppercase named msg stored))
      exact fun _ _ updated => .some updated
  | metaMessage update =>
      rw [meta_store, meta_store]
      have updates := meta_like exactly owner named addressed update
      generalize metaUpdate aircraft source destination _ = first at updates ⊢
      generalize metaUpdate another sender addressee _ = second at updates ⊢
      cases updates with
      | none => exact alike
      | some updates =>
          refine get_and_update_like owner alike (outcome_map ?_ (updates _ _ stored))
          exact fun _ _ updated => updated

include exactly in
theorem ended_like {now : DateTime} {stations others : List AcarsEndpointCallsign}
    (named : List.Forall₂ spelled stations others) {left right after last : OpenLinkServer}
    (first : Ended config now stations left after) (second : Ended config now others right last)
    (alike : StoreLike spelled left.sessions right.sessions) :
    StoreLike spelled after.sessions last.sessions := by
  intro id
  have same := alike id
  rw [first.sessions, second.sessions]
  generalize left.sessions.get id = stored at same ⊢
  generalize right.sessions.get id = found at same ⊢
  cases same with
  | none => exact .none
  | some same =>
      refine .some (List.rel_foldl ?_ same named)
      exact fun _ _ like _ _ station => termination_like exactly like station

end Sessions

/-! The two runs. -/
section TwoRuns
variable {config spelled} (folded : CaseOnly spelled config.toUppercase)

theorem announced_like (now : DateTime) {left right : OpenLinkEnvelope}
    (same : EnvelopeLike spelled left right) :
    Option.Rel (EntryLike spelled) (announced now left) (announced now right) := by
  obtain ⟨_, _, _, leftRouting, leftPayload, _⟩ := left
  obtain ⟨_, _, _, rightRouting, rightPayload, _⟩ := right
  obtain ⟨_, _, _, routing, payload, _⟩ := same
  simp only at routing payload
  subst routing
  cases payload with
  | acars aircraft message => exact .none
  | metaMessage stationId status acarsEndpoint =>
      obtain ⟨source, _⟩ := leftRouting
      cases source with
      | server network => exact .none
      | address network address => exact .some ⟨rfl, rfl, rfl, rfl, acarsEndpoint⟩

/-- What two runs have in common: the registry, and where callsigns are told apart in the
same way, the sessions. -/
structure ServerLike (spelled : AcarsEndpointCallsign → AcarsEndpointCallsign → Prop)
    (left right : OpenLinkServer) : Prop where
  keyed : Keyed left.sessions ∧ Keyed right.sessions
  registry : RegistryLike spelled left.stationRegistry right.stationRegistry
  sessions : OneToOne spelled → StoreLike spelled left.sessions right.sessions

include folded in
theorem loop_registry_like {left right : OpenLinkServer} (alike : ServerLike spelled left right)
    {event other : Event} (same : EventLike spelled event other) :
    RegistryLike spelled (mainLoop config left event).stationRegistry
      (mainLoop config right other).stationRegistry := by
  cases same with
  | presenceTick now =>
      rw [(loop_tick config left now alike.keyed.1).registry,
        (loop_tick config right now alike.keyed.2).registry]
      exact swept_like folded alike.registry now (leaseTtl config)
  | arrives now same =>
      rw [arrives_registry, arrives_registry]
      have entries := announced_like now same
      generalize announced now _ = first at entries ⊢
      generalize announced now _ = second at entries ⊢
      cases entries with
      | none => exact alike.registry
      | some entry => exact recorded_like folded alike.registry entry

theorem loop_sessions_like (exactly : OneToOne spelled) {left right : OpenLinkServer}
    (alike : ServerLike spelled left right) {event other : Event}
    (same : EventLike spelled event other) :
    StoreLike spelled (mainLoop config left event).sessions
      (mainLoop config right other).sessions := by
  have stored := alike.sessions exactly
  -- the two runs handle the same kind of event, with callsigns that are spellings of each other
  cases same with
  | presenceTick now =>
      have named : List.Forall₂ spelled
          ((expiring left.stationRegistry now (leaseTtl config)).map
            fun entry => entry.acarsEndpoint.callsign)
          ((expiring right.stationRegistry now (leaseTtl config)).map
            fun entry => entry.acarsEndpoint.callsign) :=
        List.rel_map (fun _ _ same => same.acarsEndpoint.callsign)
          (expiring_like alike.registry now (leaseTtl config))
      exact ended_like exactly named (loop_tick config left now alike.keyed.1)
        (loop_tick config right now alike.keyed.2) stored
  | @arrives now envelope received same =>
      have payloads := same.payload
      generalize payload : envelope.payload = first at payloads
      generalize content : received.payload = second at payloads
      cases payloads with
      | @acars aircraft another owner message other written =>
          have first := (run_acars_message config now ⟨aircraft⟩ message envelope left payload).1
          have second := (run_acars_message config now ⟨another⟩ other received right content).1
          simp only [mainLoop, mainLoopUnder]
          rw [first, second]
          exact message_like exactly config.toUppercase owner written envelope received stored
      | @metaMessage stationId status endpoint another acarsEndpoint =>
          cases source : envelope.routing.source with
          | server network =>
              rw [loop_unaddressed config left now envelope _ network payload source,
                loop_unaddressed config right now received _ network content (same.routing ▸ source)]
              exact stored
          | address network address =>
              have sender : received.routing.source = .address network address :=
                same.routing ▸ source
              cases status with
              | online =>
                  rw [(loop_online config left now envelope stationId endpoint network address
                      payload source).1,
                    (loop_online config right now received stationId another network address
                      content sender).1]
                  exact stored
              | offline =>
                  exact ended_like exactly (.cons acarsEndpoint.callsign .nil)
                    (loop_offline config left now envelope stationId endpoint network address
                      payload source alike.keyed.1)
                    (loop_offline config right now received stationId another network address
                      content sender alike.keyed.2) stored

include folded in
theorem loop_like {left right : OpenLinkServer} (alike : ServerLike spelled left right)
    {event other : Event} (same : EventLike spelled event other) :
    ServerLike spelled (mainLoop config left event) (mainLoop config right other) where
  keyed := ⟨loop_keyed config left event alike.keyed.1, loop_keyed config right other alike.keyed.2⟩
  registry := loop_registry_like folded alike same
  sessions exactly := loop_sessions_like exactly alike same

theorem starting_like (issued : Nat) :
    ServerLike spelled (starting .empty issued) (starting .empty issued) where
  keyed := ⟨by simp [Keyed, starting], by simp [Keyed, starting]⟩
  registry := ⟨fun _ => .none, rfl, fun _ => rfl⟩
  sessions _ := fun _ => .none

/-- Two runs whose events differ in the case of callsigns only keep one registry, and end in
the same sessions, up to case, where both tell the same callsigns apart. -/
theorem case_insensitive (config : ServerConfig)
    (spelled : AcarsEndpointCallsign → AcarsEndpointCallsign → Prop)
    (folded : CaseOnly spelled config.toUppercase) (issued : Nat) (events others : List Event)
    (same : List.Forall₂ (EventLike spelled) events others) :
    let left := exec (mainLoop config) (starting .empty issued) events
    let right := exec (mainLoop config) (starting .empty issued) others
    (∀ callsign other, config.toUppercase callsign = config.toUppercase other →
      Option.Rel (EntryLike spelled)
        (lookupCallsign config.toUppercase left.stationRegistry callsign)
        (lookupCallsign config.toUppercase right.stationRegistry other)) ∧
    (OneToOne spelled → ∀ id,
      Option.Rel (SessionLike spelled) (left.sessions.get id) (right.sessions.get id)) := by
  have alike : ServerLike spelled (exec (mainLoop config) (starting .empty issued) events)
      (exec (mainLoop config) (starting .empty issued) others) := by
    refine List.rel_foldl ?_ (starting_like issued) same
    exact fun _ _ like _ _ arrived => loop_like folded like arrived
  exact ⟨fun _ _ one => lookup_like alike.registry one, alike.sessions⟩

/-! A logon in two spellings. -/

def logonRun (aircraft station answering : AcarsEndpointCallsign) : List Event :=
  [.arrives 0 ⟨"1", 0, none, ⟨.address "vatsim" "cid-1", .server "vatsim"⟩,
      .metaMessage (.stationStatus "cid-1" .online ⟨station, "LFPG"⟩), ""⟩,
    .arrives 1 ⟨"2", 1, none, ⟨.address "vatsim" "cid-2", .server "vatsim"⟩,
      .acars ⟨⟨⟨aircraft, "39A1B2"⟩⟩, .cpdlc ⟨aircraft, station,
        .metaMessage (.logonRequest station "LFPG" "EGLL")⟩⟩, ""⟩,
    .arrives 2 ⟨"3", 2, none, ⟨.address "vatsim" "cid-1", .server "vatsim"⟩,
      .acars ⟨⟨⟨aircraft, "39A1B2"⟩⟩, .cpdlc ⟨answering, aircraft,
        .metaMessage (.logonResponse true)⟩⟩, ""⟩]

theorem logon_run_like {aircraft another station other answering replying : AcarsEndpointCallsign}
    (flight : spelled aircraft another) (asked : spelled station other)
    (answered : spelled answering replying) :
    List.Forall₂ (EventLike spelled) (logonRun aircraft station answering)
      (logonRun another other replying) := by
  have owner : EndpointLike spelled ⟨aircraft, "39A1B2"⟩ ⟨another, "39A1B2"⟩ := ⟨flight, rfl⟩
  have accepted : CpdlcLike spelled ⟨answering, aircraft, .metaMessage (.logonResponse true)⟩
      ⟨replying, another, .metaMessage (.logonResponse true)⟩ :=
    ⟨answered, flight, .metaMessage (.logonResponse true)⟩
  refine .cons (.arrives 0 ⟨rfl, rfl, rfl, rfl, ?_, rfl⟩) (.cons (.arrives 1 ⟨rfl, rfl, rfl, rfl, ?_,
    rfl⟩) (.cons (.arrives 2 ⟨rfl, rfl, rfl, rfl, .acars owner accepted, rfl⟩) .nil))
  · exact .metaMessage "cid-1" .online ⟨asked, rfl⟩
  · exact .acars owner ⟨flight, asked, .metaMessage (.logonRequest asked "LFPG" "EGLL")⟩

def serverAfter (events : List Event) : OpenLinkServer :=
  exec (mainLoop vatsimConfig) (starting .empty 0) events

def lowerCase (left right : AcarsEndpointCallsign) : Prop :=
  (left, right) ∈ [("AFR123", "afr123"), ("LFPG", "lfpg")]

theorem case_insensitive_logon :
    Option.Rel (EntryLike lowerCase)
        (lookupCallsign asciiUppercase
          (serverAfter (logonRun "AFR123" "LFPG" "LFPG")).stationRegistry "LFPG")
        (lookupCallsign asciiUppercase
          (serverAfter (logonRun "afr123" "lfpg" "lfpg")).stationRegistry "lfpg") ∧
      Option.Rel (SessionLike lowerCase)
        ((serverAfter (logonRun "AFR123" "LFPG" "LFPG")).sessions.get "39A1B2")
        ((serverAfter (logonRun "afr123" "lfpg" "lfpg")).sessions.get "39A1B2") := by
  have folded : CaseOnly lowerCase asciiUppercase := by
    simp only [CaseOnly, lowerCase, List.mem_cons, List.not_mem_nil, or_false, Prod.mk.injEq]
    rintro _ _ (⟨rfl, rfl⟩ | ⟨rfl, rfl⟩) <;> decide
  have exactly : OneToOne lowerCase := by
    simp only [OneToOne, lowerCase, List.mem_cons, List.not_mem_nil, or_false, Prod.mk.injEq]
    rintro _ _ _ _ (⟨rfl, rfl⟩ | ⟨rfl, rfl⟩) (⟨rfl, rfl⟩ | ⟨rfl, rfl⟩) <;> decide
  have flight : lowerCase "AFR123" "afr123" := by simp [lowerCase]
  have station : lowerCase "LFPG" "lfpg" := by simp [lowerCase]
  have both := case_insensitive vatsimConfig lowerCase folded 0 _ _
    (logon_run_like flight station station)
  exact ⟨both.1 "LFPG" "lfpg" (by decide), both.2 exactly "39A1B2"⟩

def sameCase (left right : AcarsEndpointCallsign) : Prop :=
  asciiUppercase left = asciiUppercase right

/-- A station that answers its logon in lower case is not the one that was asked. -/
theorem answer_in_lower_case :
    List.Forall₂ (EventLike sameCase) (logonRun "AFR123" "LFPG" "LFPG")
        (logonRun "AFR123" "LFPG" "lfpg") ∧
      ¬ Option.Rel (SessionLike sameCase)
        ((serverAfter (logonRun "AFR123" "LFPG" "LFPG")).sessions.get "39A1B2")
        ((serverAfter (logonRun "AFR123" "LFPG" "lfpg")).sessions.get "39A1B2") := by
  have station : sameCase "LFPG" "lfpg" := by
    unfold sameCase
    decide
  have accepted : (serverAfter (logonRun "AFR123" "LFPG" "LFPG")).sessions.get "39A1B2" =
      some ⟨⟨"AFR123", "39A1B2"⟩, some ⟨⟨"LFPG", ""⟩, true, false⟩, none, none⟩ := by decide
  have pending : (serverAfter (logonRun "AFR123" "LFPG" "lfpg")).sessions.get "39A1B2" =
      some ⟨⟨"AFR123", "39A1B2"⟩, some ⟨⟨"LFPG", ""⟩, false, false⟩, none, none⟩ := by decide
  refine ⟨logon_run_like (Eq.refl _) (Eq.refl _) station, ?_⟩
  rw [accepted, pending]
  rintro ⟨⟨_, active, _, _⟩⟩
  cases active with
  | some slot => exact absurd slot.logon (by decide)

end TwoRuns

end OpenLink.CallsignCase
