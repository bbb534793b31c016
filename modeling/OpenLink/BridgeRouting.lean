import OpenLink.Bridge
import OpenLink.MainLoop

/-!
The bridge registers every Hoppie aircraft under its own station id, and the
registry keeps one callsign for each station id. What becomes of the aircraft
registered before the last one is the subject here.
-/
namespace OpenLink.BridgeRouting
open Actions Bridge Cpdlc Envelope HoppieClient MessageBuilder Registry Runs SdkClient Server Session
  Texts Translator

/-! One station among others that leave its callsigns alone. -/
section Callsigns
variable (toUppercase : String → String) (cid : StationId) (keys : List String)

def Apart (entry : StationEntry) : Prop :=
  entry.stationId ≠ cid ∧ callsignIndexKey toUppercase entry.acarsEndpoint.callsign ∉ keys

def Clear (registry : StationRegistry) : Prop :=
  ∀ stationId entry, stationId ≠ cid → registry.kvRegistryStore.get stationId = some entry →
    callsignIndexKey toUppercase entry.acarsEndpoint.callsign ∉ keys

/-- The callsign leads to an online entry of its own with the address `cid`. -/
def ResolvesTo (registry : StationRegistry) (callsign : AcarsEndpointCallsign) : Prop :=
  ∃ entry, lookupCallsign toUppercase registry callsign = some entry ∧ entry.status = .online ∧
    entry.acarsEndpoint.callsign = callsign ∧ entry.networkAddress = cid

variable {toUppercase cid keys}

theorem clear_recorded {registry : StationRegistry} (clear : Clear toUppercase cid keys registry)
    {entry : StationEntry} (own : entry.stationId = cid ∨ Apart toUppercase cid keys entry) :
    Clear toUppercase cid keys (recorded toUppercase registry entry) := by
  intro stationId found other present
  rw [recorded_entry] at present
  split at present
  next same =>
    cases present
    rcases own with own | apart
    · exact absurd (same.trans own) other
    · exact apart.2
  next => exact clear stationId found other present

theorem clear_each (entries : List StationEntry)
    (each : ∀ entry ∈ entries, entry.stationId = cid ∨ Apart toUppercase cid keys entry)
    {registry : StationRegistry} (clear : Clear toUppercase cid keys registry) :
    Clear toUppercase cid keys (entries.foldl (recorded toUppercase) registry) := by
  induction entries generalizing registry with
  | nil => exact clear
  | cons entry rest ih =>
      apply ih fun other member => each other (by simp [member])
      exact clear_recorded clear (each entry (by simp))

/-- Where a callsign of the station leads to its own entry, that is the one entry
the station has. -/
theorem resolved_entry {registry : StationRegistry} (clear : Clear toUppercase cid keys registry)
    {entry : StationEntry}
    (listed : callsignIndexKey toUppercase entry.acarsEndpoint.callsign ∈ keys)
    (found : lookupCallsign toUppercase registry entry.acarsEndpoint.callsign = some entry) :
    registry.kvRegistryStore.get cid = some entry := by
  unfold lookupCallsign at found
  split at found
  next => contradiction
  next stationId _ =>
    by_cases own : stationId = cid
    · rwa [own] at found
    · exact absurd listed (clear stationId entry own found)

/-- An update of another station keeps the index of the station's callsigns. -/
theorem index_kept {registry : StationRegistry} (clear : Clear toUppercase cid keys registry)
    {entry : StationEntry} (apart : Apart toUppercase cid keys entry) {key : String}
    (listed : key ∈ keys) :
    (recorded toUppercase registry entry).kvCallsignIndexStore.get key =
      registry.kvCallsignIndexStore.get key := by
  have different : key ≠ callsignIndexKey toUppercase entry.acarsEndpoint.callsign := by
    rintro rfl
    exact apart.2 listed
  have unmoved : staleKey toUppercase registry entry ≠ some key := by
    intro stale
    obtain ⟨existing, present, moved⟩ := Option.bind_eq_some_iff.mp stale
    split at moved
    · cases moved
      exact clear entry.stationId existing apart.1 present listed
    · contradiction
  rw [recorded_index, if_neg different, if_neg unmoved]

theorem kept_each (entries : List StationEntry)
    (apart : ∀ entry ∈ entries, Apart toUppercase cid keys entry) {registry : StationRegistry}
    (clear : Clear toUppercase cid keys registry) {key : String} (listed : key ∈ keys) :
    (entries.foldl (recorded toUppercase) registry).kvCallsignIndexStore.get key =
      registry.kvCallsignIndexStore.get key := by
  induction entries generalizing registry with
  | nil => rfl
  | cons entry rest ih =>
      have first := apart entry (by simp)
      rw [List.foldl_cons, ih (fun other member => apart other (by simp [member]))
        (clear_recorded clear (.inr first)), index_kept clear first listed]

theorem resolves_once {registry : StationRegistry} (clear : Clear toUppercase cid keys registry)
    {left right : AcarsEndpointCallsign} (inLeft : callsignIndexKey toUppercase left ∈ keys)
    (inRight : callsignIndexKey toUppercase right ∈ keys)
    (one : ResolvesTo toUppercase cid registry left)
    (two : ResolvesTo toUppercase cid registry right) : left = right := by
  -- both lookups end at the one entry of the station
  obtain ⟨first, foundFirst, _, rfl, _⟩ := one
  obtain ⟨second, foundSecond, _, rfl, _⟩ := two
  have held := resolved_entry clear inLeft foundFirst
  rw [resolved_entry clear inRight foundSecond] at held
  rw [Option.some.inj held]

/-- An update of the station that only other stations follow is found by its callsign. -/
theorem resolves_last {registry : StationRegistry} {before after : List StationEntry}
    {entry : StationEntry} (clear : Clear toUppercase cid keys registry)
    (earlier : ∀ other ∈ before, other.stationId = cid ∨ Apart toUppercase cid keys other)
    (own : entry.stationId = cid) (online : entry.status = .online)
    (address : entry.networkAddress = cid)
    (later : ∀ other ∈ after, Apart toUppercase cid keys other)
    (listed : callsignIndexKey toUppercase entry.acarsEndpoint.callsign ∈ keys) :
    ResolvesTo toUppercase cid ((before ++ entry :: after).foldl (recorded toUppercase) registry)
      entry.acarsEndpoint.callsign := by
  have cleared := clear_recorded (clear_each before earlier clear) (.inl own)
  have index := kept_each after later cleared listed
  rw [recorded_index, if_pos rfl, if_pos online, own] at index
  have others : after.filter (fun other => other.stationId = cid) = [] :=
    List.filter_eq_nil_iff.mpr fun other member => by simp [(later other member).1]
  have stored : ((before ++ entry :: after).foldl (recorded toUppercase)
      registry).kvRegistryStore.get cid = some entry := by
    rw [recorded_each, List.filter_append, List.filter_cons_of_pos (by simp [own]), others]
    simp
  refine ⟨entry, ?_, online, rfl, address⟩
  rw [List.foldl_append, List.foldl_cons] at stored ⊢
  simp only [lookupCallsign, index, stored]

/-- All callsigns that a station has registered lead to it exactly when there is one. -/
theorem registered_resolve_iff {registry : StationRegistry} (entries : List StationEntry)
    (clear : Clear toUppercase cid keys registry)
    (each : ∀ entry ∈ entries,
      (entry.stationId = cid ∧ entry.status = .online ∧ entry.networkAddress = cid) ∨
        Apart toUppercase cid keys entry)
    (callsigns : List AcarsEndpointCallsign) (nonempty : callsigns ≠ [])
    (registered : (entries.filter fun entry => entry.stationId = cid).map
      (fun entry => entry.acarsEndpoint.callsign) = callsigns)
    (same : keys = callsigns.map (callsignIndexKey toUppercase)) (distinct : keys.Nodup) :
    (∀ callsign ∈ callsigns,
        ResolvesTo toUppercase cid (entries.foldl (recorded toUppercase) registry) callsign) ↔
      callsigns.length = 1 := by
  have listed : ∀ callsign ∈ callsigns, callsignIndexKey toUppercase callsign ∈ keys := by
    intro callsign member
    rw [same]
    exact List.mem_map_of_mem member
  have mine : ∀ entry ∈ entries, entry.stationId = cid ∨ Apart toUppercase cid keys entry :=
    fun entry member => (each entry member).imp And.left id
  constructor
  · intro resolve
    cases callsigns with
    | nil => contradiction
    | cons first rest =>
        cases rest with
        | nil => rfl
        | cons second rest =>
            -- one station id has one entry, so two callsigns cannot both lead to it
            have equal := resolves_once (clear_each entries mine clear) (listed first (by simp))
              (listed second (by simp)) (resolve first (by simp)) (resolve second (by simp))
            rw [same, equal] at distinct
            simp at distinct
  · intro single
    obtain ⟨callsign, rfl⟩ := List.length_eq_one_iff.mp single
    obtain ⟨entry, only, rfl⟩ := List.map_eq_singleton_iff.mp registered
    obtain ⟨before, after, rfl, _, own, rest⟩ := List.filter_eq_cons_iff.mp only
    have own : entry.stationId = cid := by simpa using own
    obtain ⟨_, online, address⟩ := (each entry (by simp)).resolve_right fun apart => apart.1 own
    have later : ∀ other ∈ after, Apart toUppercase cid keys other := by
      intro other member
      apply (each other (by simp [member])).resolve_left
      rintro ⟨also, _⟩
      simpa [also] using List.filter_eq_nil_iff.mp rest other member
    intro callsign member
    rw [List.mem_singleton.mp member]
    exact resolves_last clear (fun other member => mine other (by simp [member])) own online
      address later (listed _ (by simp))

end Callsigns

/-! Logons on Hoppie, as the bridge passes them on. -/
section Logons
variable (config : BridgeConfig)

def RelaysLogon (bridge : BridgeState) : BridgeEvent → Prop
  | .polled _ _ message =>
      config.mode ≠ .aircraft ∧ ∃ packet, Relayable config bridge message packet ∧
        isLogonBody config.toUppercase packet.body = true
  | .received _ _ => False

def aircraftOf : BridgeEvent → List AcarsEndpointCallsign
  | .polled _ _ message => [message.sender]
  | .received _ _ => []

def registers (network : NetworkId) (cid : NetworkAddress) (envelope : OpenLinkEnvelope) :
    Option AcarsEndpointCallsign :=
  match envelope.payload with
  | .metaMessage (.stationStatus stationId .online acarsEndpoint) =>
      if stationId = cid ∧ envelope.routing.source = .address network cid then
        some acarsEndpoint.callsign
      else none
  | _ => none

def FromBridge (network : NetworkId) (cid : NetworkAddress) (envelope : OpenLinkEnvelope) :
    Prop :=
  envelope.routing.source = .address network cid ∧
    ∀ stationId status acarsEndpoint,
      envelope.payload = .metaMessage (.stationStatus stationId status acarsEndpoint) →
        stationId = cid ∧ status = .online

theorem relays_logon_step {bridge : BridgeState} {event : BridgeEvent}
    (relays : RelaysLogon config bridge event) :
    ∃ registration logon,
      (step config bridge event).published = bridge.published ++ [registration, logon] ∧
      (step config bridge event).client.network = bridge.client.network ∧
      (step config bridge event).client.cid = bridge.client.cid ∧
      FromBridge bridge.client.network bridge.client.cid registration ∧
      FromBridge bridge.client.network bridge.client.cid logon ∧
      [registration, logon].filterMap (registers bridge.client.network bridge.client.cid) =
        aircraftOf event := by
  cases event with
  | received now envelope => exact relays.elim
  | polled now polledAs message =>
      obtain ⟨mode, packet, relayable, logon⟩ := relays
      rw [step, stepUnder, if_neg mode, handle_relayable noOutage config now relayable,
        if_pos logon, run_relay_logon]
      refine ⟨bridge.client.toServer (config.newUuid bridge.issued) now
          (stationStatus bridge.client.cid message.sender message.sender .online),
        (bridge.client.resetMinForSession message.sender polledAs).toServer
          (config.newUuid (bridge.issued + 1)) now
          (cpdlc message.sender message.sender message.sender polledAs
            (logonRequest polledAs "ZZZZ" "ZZZZ")),
        by simp [publish, marked], rfl, rfl, ?_, ?_, ?_⟩
      · constructor
        · rfl
        · rintro _ _ _ ⟨⟩
          exact ⟨rfl, rfl⟩
      · constructor
        · rfl
        · rintro _ _ _ ⟨⟩
      · simp [registers, OpenLinkClient.toServer, envelope, stationStatus, cpdlc, aircraftOf,
          OpenLinkClient.resetMinForSession]

theorem logons_published {events : List BridgeEvent} {bridge : BridgeState}
    (logons : Guarded (step config) (RelaysLogon config) bridge events) :
    ∃ sent, (exec (step config) bridge events).published = bridge.published ++ sent ∧
      (∀ envelope ∈ sent, FromBridge bridge.client.network bridge.client.cid envelope) ∧
      sent.filterMap (registers bridge.client.network bridge.client.cid) =
        events.flatMap aircraftOf := by
  induction events generalizing bridge with
  | nil => exact ⟨[], by simp, by simp, rfl⟩
  | cons event rest ih =>
      obtain ⟨registration, logon, published, network, cid, first, second, registered⟩ :=
        relays_logon_step config logons.1
      obtain ⟨sent, more, from_bridge, later⟩ := ih logons.2
      rw [network, cid] at from_bridge later
      refine ⟨[registration, logon] ++ sent, ?_, ?_, ?_⟩
      · rw [exec_cons, more, published, List.append_assoc]
      · intro envelope member
        rcases List.mem_append.mp member with own | further
        · rcases List.mem_pair.mp own with rfl | rfl
          · exact first
          · exact second
        · exact from_bridge envelope further
      · rw [List.filterMap_append, registered, later, List.flatMap_cons]

end Logons

/-! What the server makes of them, with the envelopes of others in between. -/
section Routing
variable (network : NetworkId) (cid : NetworkAddress)

def fromAddress (envelope : OpenLinkEnvelope) : Bool :=
  envelope.routing.source == .address network cid

/-- The server has received these envelopes of the bridge, in their order, and no
other registration touches the callsigns. -/
structure Delivered (toUppercase : String → String) (keys : List String)
    (sent : List OpenLinkEnvelope) (arrivals : List (DateTime × OpenLinkEnvelope)) : Prop where
  inOrder : (arrivals.map Prod.snd).filter (fromAddress network cid) = sent
  elsewhere : ∀ arrival ∈ arrivals, fromAddress network cid arrival.2 = false →
    ∀ entry, announced arrival.1 arrival.2 = some entry → Apart toUppercase cid keys entry

variable {network cid} {toUppercase : String → String} {keys : List String}

theorem announced_own {envelope : OpenLinkEnvelope} (own : FromBridge network cid envelope)
    (now : DateTime) :
    (∃ entry, announced now envelope = some entry ∧
        (entry.stationId = cid ∧ entry.status = .online ∧ entry.networkAddress = cid) ∧
        registers network cid envelope = some entry.acarsEndpoint.callsign) ∨
      (announced now envelope = none ∧ registers network cid envelope = none) := by
  obtain ⟨source, status⟩ := own
  cases payload : envelope.payload with
  | acars acars =>
      right
      simp [announced, registers, payload]
  | metaMessage message =>
      left
      obtain ⟨stationId, presence, acarsEndpoint⟩ := message
      obtain ⟨rfl, rfl⟩ := status stationId presence acarsEndpoint payload
      exact ⟨⟨stationId, .online, now, stationId, acarsEndpoint⟩,
        by simp [announced, payload, source], ⟨rfl, rfl, rfl⟩,
        by simp [registers, payload, source]⟩

theorem announced_callsigns {arrivals : List (DateTime × OpenLinkEnvelope)}
    (own : ∀ arrival ∈ arrivals, fromAddress network cid arrival.2 = true →
      FromBridge network cid arrival.2)
    (elsewhere : ∀ arrival ∈ arrivals, fromAddress network cid arrival.2 = false →
      ∀ entry, announced arrival.1 arrival.2 = some entry → Apart toUppercase cid keys entry) :
    ((announcements arrivals).filter fun entry => entry.stationId = cid).map
        (fun entry => entry.acarsEndpoint.callsign) =
      ((arrivals.map Prod.snd).filter (fromAddress network cid)).filterMap
        (registers network cid) := by
  induction arrivals with
  | nil => rfl
  | cons arrival rest ih =>
      have later := ih (fun other member => own other (by simp [member]))
        fun other member => elsewhere other (by simp [member])
      rw [announcements] at later ⊢
      cases origin : fromAddress network cid arrival.2 with
      | true =>
          rcases announced_own (own arrival (by simp) origin) arrival.1 with
            ⟨entry, announces, ⟨mine, _⟩, registered⟩ | ⟨silent, unregistered⟩
          · simp [announces, mine, registered, origin, later]
          · simp [silent, unregistered, origin, later]
      | false =>
          cases announces : announced arrival.1 arrival.2 with
          | none => simp [announces, origin, later]
          | some entry =>
              have apart := elsewhere arrival (by simp) origin entry announces
              simp [announces, apart.1, origin, later]

/-- After one or more logons of different aircraft, every one of them can be reached
through the bridge exactly when there was only one. -/
theorem bridge_routing_iff (config : BridgeConfig) (serverConfig : ServerConfig)
    (bridge : BridgeState) (events : List BridgeEvent) (nonempty : events ≠ [])
    (logons : Guarded (step config) (RelaysLogon config) bridge events)
    (distinct : ((events.flatMap aircraftOf).map serverConfig.toUppercase).Nodup)
    (sent : List OpenLinkEnvelope)
    (published : (exec (step config) bridge events).published = bridge.published ++ sent)
    (server : OpenLinkServer) (arrivals : List (DateTime × OpenLinkEnvelope))
    (clear : Clear serverConfig.toUppercase bridge.client.cid
      ((events.flatMap aircraftOf).map serverConfig.toUppercase) server.stationRegistry)
    (delivered : Delivered bridge.client.network bridge.client.cid serverConfig.toUppercase
      ((events.flatMap aircraftOf).map serverConfig.toUppercase) sent arrivals) :
    (∀ callsign ∈ events.flatMap aircraftOf,
        ResolvesTo serverConfig.toUppercase bridge.client.cid
          (exec (serve serverConfig) server arrivals).stationRegistry callsign) ↔
      (events.flatMap aircraftOf).length = 1 := by
  obtain ⟨more, grown, from_bridge, registered⟩ := logons_published config logons
  rw [published] at grown
  have same := List.append_cancel_left grown
  subst same
  -- what comes in from the address of the bridge is what the bridge has published, so the callsigns
  -- announced from there are those of the logons, in order
  have own : ∀ arrival ∈ arrivals,
      fromAddress bridge.client.network bridge.client.cid arrival.2 = true →
        FromBridge bridge.client.network bridge.client.cid arrival.2 := by
    intro arrival member origin
    apply from_bridge
    rw [← delivered.inOrder]
    exact List.mem_filter.mpr ⟨List.mem_map_of_mem member, origin⟩
  have callsigns := announced_callsigns own delivered.elsewhere
  rw [delivered.inOrder, registered] at callsigns
  have some : events.flatMap aircraftOf ≠ [] := by
    cases events with
    | nil => contradiction
    | cons event rest =>
        cases event with
        | polled now polledAs message => simp [aircraftOf]
        | received now envelope => exact logons.1.elim
  rw [MainLoop.served_registry]
  apply registered_resolve_iff (announcements arrivals) clear _ _ some callsigns rfl distinct
  intro entry announces
  obtain ⟨arrival, member, announces⟩ := List.mem_filterMap.mp announces
  cases origin : fromAddress bridge.client.network bridge.client.cid arrival.2 with
  | false => exact .inr (delivered.elsewhere arrival member origin entry announces)
  | true =>
      left
      rcases announced_own (own arrival member origin) arrival.1 with
        ⟨found, same, mine, _⟩ | ⟨silent, _⟩
      · rw [announces] at same
        cases same
        exact mine
      · rw [announces] at silent
        contradiction

theorem delivered_alone {sent : List OpenLinkEnvelope}
    (own : ∀ envelope ∈ sent, FromBridge network cid envelope) (now : DateTime) :
    Delivered network cid toUppercase keys sent (sent.map fun envelope => (now, envelope)) := by
  have origin : ∀ envelope ∈ sent, fromAddress network cid envelope = true := by
    intro envelope member
    rw [fromAddress, (own envelope member).1, beq_self_eq_true]
  constructor
  · have plain : (sent.map fun envelope => (now, envelope)).map Prod.snd = sent := by
      simp [Function.comp_def]
    rw [plain]
    exact List.filter_eq_self.mpr origin
  · intro arrival member elsewhere
    obtain ⟨envelope, listed, rfl⟩ := List.mem_map.mp member
    rw [origin envelope listed] at elsewhere
    contradiction

end Routing

/-! One and two aircraft on a network that is otherwise empty. -/
section Sample

def logonPacket : Text := "/data2/1//Y/REQUEST LOGON".toList

def hoppieLogon (callsign : String) : HoppieMessage := ⟨callsign, .cpdlc, logonPacket⟩

def logonEvent (callsign : String) : BridgeEvent := .polled 0 "LFPG" (hoppieLogon callsign)

def sampleServerConfig : ServerConfig := ⟨"vatsim", 60, true, asciiUppercase, Nat.repr⟩

def sampleServer : OpenLinkServer := ⟨.empty, .empty, 0, []⟩

def servedAfter (events : List BridgeEvent) : OpenLinkServer :=
  exec (serve sampleServerConfig) sampleServer
    ((exec (step sampleConfig) sampleStart events).published.map fun envelope => (0, envelope))

theorem logon_event_relayed {bridge : BridgeState} {callsign : String}
    (fresh : bridge.tracker.isHoppieSeen (sampleConfig.hoppieMessageHash callsign logonPacket) =
      false)
    (foreign : sampleConfig.toUppercase callsign ∉ bridgeCallsigns sampleConfig) :
    RelaysLogon sampleConfig bridge (logonEvent callsign) := by
  have parsed : parseCpdlcPacket logonPacket =
      some ⟨"1".toList, none, "Y".toList, "REQUEST LOGON".toList⟩ := by decide +kernel
  exact ⟨by decide, _, ⟨rfl, fresh, foreign, parsed⟩, by decide +kernel⟩

theorem bridge_routing_one_aircraft :
    ResolvesTo asciiUppercase "bridge" (servedAfter [logonEvent "AFR123"]).stationRegistry
      "AFR123" := by
  have logons : Guarded (step sampleConfig) (RelaysLogon sampleConfig) sampleStart
      [logonEvent "AFR123"] :=
    ⟨logon_event_relayed (by decide +kernel) (by decide +kernel), trivial⟩
  obtain ⟨sent, published, from_bridge, _⟩ := logons_published sampleConfig logons
  have clear : Clear asciiUppercase "bridge" (["AFR123"].map asciiUppercase)
      sampleServer.stationRegistry := by
    rintro _ _ _ ⟨⟩
  have resolves := bridge_routing_iff sampleConfig sampleServerConfig sampleStart
    [logonEvent "AFR123"] (by simp) logons (by simp [aircraftOf, logonEvent]) sent published
    sampleServer (sent.map fun envelope => (0, envelope)) clear (delivered_alone from_bridge 0)
  have found := resolves.mpr rfl "AFR123" (by simp [aircraftOf, logonEvent, hoppieLogon])
  rw [servedAfter, published]
  exact found

/-- The second logon takes the first aircraft out of the index. -/
theorem second_logon_unroutes_first :
    Guarded (step sampleConfig) (RelaysLogon sampleConfig) sampleStart
        [logonEvent "AFR123", logonEvent "BAW45"] ∧
      (["AFR123", "BAW45"].map asciiUppercase).Nodup ∧
      lookupCallsign asciiUppercase
        (servedAfter [logonEvent "AFR123", logonEvent "BAW45"]).stationRegistry "AFR123" = none ∧
      lookupCallsign asciiUppercase
        (servedAfter [logonEvent "AFR123", logonEvent "BAW45"]).stationRegistry "BAW45" =
          some ⟨"bridge", .online, 0, "bridge", ⟨"BAW45", "BAW45"⟩⟩ := by
  refine ⟨⟨?_, ?_, trivial⟩, by decide +kernel, by decide +kernel, by decide +kernel⟩
  · exact logon_event_relayed (by decide +kernel) (by decide +kernel)
  · exact logon_event_relayed (by decide +kernel) (by decide +kernel)

end Sample

end OpenLink.BridgeRouting
