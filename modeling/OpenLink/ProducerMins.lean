import OpenLink.ApplicationMessages
import OpenLink.ClientParity
import OpenLink.CliCommands
import OpenLink.UplinkMrns

/-!
The MINs of everything that a client of this repository publishes: the helpers of the Rust
client, the builders of the TypeScript client, the relay of the bridge and the commands of the
command line client. The server takes an application message only under a MIN from 1 to 63.
-/
namespace OpenLink.ProducerMins
open Actions Bridge ClientParity CliCommands Cpdlc CpdlcServer Envelope HoppieClient HoppieSession
  Kv MessageBuilder MinSequencing SdkClient Session Translator TsEnvelope TsTypes UplinkMrns

inductive BuilderCall where
  | applicationResponse (aircraftCallsign acarsAddress atcStation downlinkId : String)
      (mrn : Option Nat)
  | applicationDownlink (aircraftCallsign acarsAddress atcStation : String)
      (elements : List TsElement) (mrn : Option Nat)
  | logicalAck (aircraftCallsign acarsAddress atcStation : String) (referencedMin : Nat)
  | logicalAckForSender (aircraftCallsign acarsAddress senderCallsign receiverCallsign : String)
      (referencedMin : Nat) (isAircraftSender : Bool)
  | nextDataAuthority (atcCallsign aircraftCallsign acarsAddress ndaCallsign : String)
  | contactRequest (atcCallsign aircraftCallsign acarsAddress nextStation frequency : String)
  | endService (atcCallsign aircraftCallsign acarsAddress : String)
  | stationApplication (stationCallsign aircraftCallsign acarsAddress : String)
      (elements : List TsElement) (mrn : Option Nat)
  | aircraftApplication (aircraftCallsign acarsAddress stationCallsign : String)
      (elements : List TsElement) (mrn : Option Nat)

def build (minSequences : Sequences) (now : DateTime) : BuilderCall → TsMessage × Sequences
  | .applicationResponse aircraft address station id mrn =>
      buildApplicationResponse minSequences now aircraft address station id mrn
  | .applicationDownlink aircraft address station elements mrn =>
      buildApplicationDownlink minSequences now aircraft address station elements mrn
  | .logicalAck aircraft address station min =>
      buildLogicalAck minSequences now aircraft address station min
  | .logicalAckForSender aircraft address sender receiver min isAircraft =>
      buildLogicalAckForSender minSequences now aircraft address sender receiver min isAircraft
  | .nextDataAuthority atc aircraft address nda =>
      buildNextDataAuthority minSequences now atc aircraft address nda
  | .contactRequest atc aircraft address next frequency =>
      buildContactRequest minSequences now atc aircraft address next frequency
  | .endService atc aircraft address => buildEndService minSequences now atc aircraft address
  | .stationApplication station aircraft address elements mrn =>
      buildStationApplication minSequences now station aircraft address elements mrn
  | .aircraftApplication aircraft address station elements mrn =>
      buildAircraftApplication minSequences now aircraft address station elements mrn

/-- A client about to publish, with all that it has counted so far. -/
inductive Producer where
  | rust (client : OpenLinkClient) (helper : HelperCall)
  | typescript (minSequences : Sequences) (now : DateTime) (builder : BuilderCall)
  | bridge (config : BridgeConfig) (state : BridgeState) (event : BridgeEvent)
  | commandLine (now : DateTime) (cli : CpdlcArgs) (command : CpdlcMessageCommand)

namespace Producer

def publishes : Producer → List TsMessage
  | .rust client helper => [wire (perform client helper).1]
  | .typescript minSequences now builder => [(build minSequences now builder).1]
  | .bridge config state event =>
      ((step config state event).published.drop state.published.length).map fun envelope =>
        wire envelope.payload
  | .commandLine now cli command => (send now cli command).toList.map wire

def IsCommandLine : Producer → Prop
  | .commandLine _ _ _ => True
  | .rust _ _ | .typescript _ _ _ | .bridge _ _ _ => False

end Producer

/-! Where each client takes its MINs from. -/
section Clients

theorem ts_next_bounds (minSequences : Sequences) (sender receiver : String) :
    1 ≤ (nextMinForSession minSequences sender receiver).1 ∧
      (nextMinForSession minSequences sender receiver).1 ≤ 63 := by
  have counted := ts_cycles.value minSequences (sessionKey sender receiver)
  have small := stored_position_bound ((minSequences (sessionKey sender receiver)).getD 1)
  change (nextMinForSession minSequences sender receiver).1 = tsPosition _ _ + 1 at counted
  rw [counted, tsPosition]
  omega

theorem built_min (minSequences : Sequences) (now : DateTime) (builder : BuilderCall) (min : Nat)
    (numbered : tsMessageMin (build minSequences now builder).1 = some min) :
    1 ≤ min ∧ min ≤ 63 := by
  cases builder <;>
    · cases numbered
      exact ts_next_bounds minSequences _ _

theorem performed_min (client : OpenLinkClient) (helper : HelperCall) (min : Nat)
    (numbered : tsMessageMin (wire (perform client helper).1) = some min) :
    1 ≤ min ∧ min ≤ 63 := by
  rw [(perform_alike (table_alike client) helper).1] at numbered
  cases helper with
  | logonRequest | logonResponse | connectionRequest | connectionResponse | logonForward =>
      cases numbered
  | nextDataAuthority | contactRequest | endService | stationApplication | aircraftApplication
  | logicalAck =>
      cases numbered
      exact ts_next_bounds (tableOf client) _ _

theorem numbered_payload {message : OpenLinkMessage} {min : Nat}
    (numbered : messageMin message = some min) :
    ∃ routing source destination application, message =
        .acars ⟨routing, .cpdlc ⟨source, destination, .application application⟩⟩ ∧
      application.min.toNat = min := by
  obtain ⟨routing, source, destination, application | other⟩ | other := message
  · exact ⟨routing, source, destination, application, rfl, Option.some.inj numbered⟩
  · cases numbered
  · cases numbered

/-- The bridge relays a packet under the next MIN of its tracker. -/
theorem polled_min (config : BridgeConfig) (now : DateTime) (bridge : BridgeState)
    (polledAs : String) (message : HoppieMessage) :
    ∃ added, (step config bridge (.polled now polledAs message)).published =
        bridge.published ++ added ∧
      ∀ envelope ∈ added, ∀ min, messageMin envelope.payload = some min → 1 ≤ min ∧ min ≤ 63 := by
  obtain ⟨added, grown, relayed⟩ := polled_publishes config now bridge polledAs message
  refine ⟨added, grown, ?_⟩
  intro envelope member min numbered
  obtain ⟨routing, source, destination, application, payload, rfl⟩ := numbered_payload numbered
  obtain ⟨packet, _, rfl⟩ := relayed envelope member _ _ _ _ payload
  rw [relayed_message_min]
  have counted := tracker_cycles.value (marked config bridge message).tracker
    (SessionKey.new config.toUppercase message.sender polledAs)
  change (SessionTracker.nextMin _ _).1.toNat = trackerPosition _ _ + 1 at counted
  rw [counted, trackerPosition]
  omega

theorem inbox_publishes (config : BridgeConfig) (now : DateTime) (envelope : OpenLinkEnvelope)
    (bridge : BridgeState) :
    ∃ added, (runOn (handleOpenlinkMessage config now envelope) bridge).2.published =
        bridge.published ++ added ∧
      ∀ published ∈ added, messageMin published.payload = none := by
  cases seen : bridge.tracker.isOpenlinkSeen envelope.id with
  | true => exact ⟨[], by simp [handleOpenlinkMessageUnder, run_bind, seen], by simp⟩
  | false =>
      cases payload : envelope.payload with
      | metaMessage message =>
          exact ⟨[], by simp [handleOpenlinkMessageUnder, run_bind, seen, payload], by simp⟩
      | acars acars =>
          obtain ⟨routing, ⟨source, destination, content⟩⟩ := acars
          cases own : isOwnMessage bridge.client envelope with
          | true =>
              refine ⟨[], ?_, by simp⟩
              simp [handleOpenlinkMessageUnder, run_bind, seen, payload, own]
          | false =>
              simp only [handleOpenlinkMessageUnder, run_bind, run_get, run_set, seen, payload, own,
                Bool.false_eq_true, if_false]
              cases content with
              | application message =>
                  exact ⟨[], by simp [relayToHoppie, openlinkToHoppie, sendCpdlc, run_bind], by simp⟩
              | metaMessage message =>
                  cases message with
                  | logonResponse accepted =>
                      cases accepted with
                      | false => exact ⟨[], by simp [handleOpenlinkMetaUnder, sendCpdlc], by simp⟩
                      | true =>
                          refine ⟨_, List.append_assoc _ _ _, ?_⟩
                          rintro published (_ | ⟨_, _ | ⟨_, ⟨⟩⟩⟩)
                          · rfl
                          · rfl
                  | logonRequest | connectionRequest | connectionResponse | logonForward
                  | sessionUpdate => exact ⟨[], by simp [handleOpenlinkMetaUnder], by simp⟩

theorem bridge_min (config : BridgeConfig) (bridge : BridgeState) (event : BridgeEvent) :
    ∃ added, (step config bridge event).published = bridge.published ++ added ∧
      ∀ envelope ∈ added, ∀ min, messageMin envelope.payload = some min → 1 ≤ min ∧ min ≤ 63 := by
  cases event with
  | polled now polledAs message => exact polled_min config now bridge polledAs message
  | received now envelope =>
      rw [step, stepUnder]
      split
      · exact ⟨[], by simp, by simp⟩
      · obtain ⟨added, grown, silent⟩ := inbox_publishes config now envelope bridge
        refine ⟨added, grown, ?_⟩
        intro published member min numbered
        rw [silent published member] at numbered
        cases numbered

def contentMin : CpdlcMessageType → Option Nat
  | .application message => some message.min.toNat
  | .metaMessage _ => none

theorem cpdlc_min (cli : CpdlcArgs) (destination : AcarsEndpointCallsign)
    (content : CpdlcMessageType) :
    messageMin (cpdlcMessage cli destination content) = contentMin content := by
  cases content <;> rfl

/-- What a command sends is one of the contents below, to some destination. -/
theorem sent_content (now : DateTime) (cli : CpdlcArgs) (command : CpdlcMessageCommand)
    (message : OpenLinkMessage) (sent : send now cli command = some message) :
    ∃ destination content, message = cpdlcMessage cli destination content ∧
      ∀ min, contentMin content = some min → min = 0 := by
  have zero : ∀ elements mrn min,
      contentMin (applicationMessageWithMinAndMrn now elements 0 mrn) = some min → min = 0 :=
    fun _ _ _ numbered => (Option.some.inj numbered).symm
  have silent : ∀ other min, contentMin (.metaMessage other) = some min → min = 0 :=
    fun _ _ numbered => nomatch numbered
  unfold send at sent
  split at sent
  · exact ⟨_, _, (Option.some.inj sent).symm, silent _⟩
  · exact ⟨_, _, (Option.some.inj sent).symm, silent _⟩
  · exact ⟨_, _, (Option.some.inj sent).symm, silent _⟩
  · obtain ⟨station, _, same⟩ := Option.map_eq_some_iff.mp sent
    exact ⟨_, _, same.symm, silent _⟩
  · exact ⟨_, _, (Option.some.inj sent).symm, zero _ _⟩
  · obtain ⟨station, _, same⟩ := Option.map_eq_some_iff.mp sent
    exact ⟨_, _, same.symm, zero _ _⟩
  · exact ⟨_, _, (Option.some.inj sent).symm, zero _ _⟩
  · exact ⟨_, _, (Option.some.inj sent).symm, silent _⟩
  · exact ⟨_, _, (Option.some.inj sent).symm, zero _ _⟩
  · exact ⟨_, _, (Option.some.inj sent).symm, zero _ _⟩
  · obtain ⟨level, _, same⟩ := Option.map_eq_some_iff.mp sent
    exact ⟨_, _, same.symm, zero _ _⟩
  · obtain ⟨level, _, same⟩ := Option.map_eq_some_iff.mp sent
    exact ⟨_, _, same.symm, zero _ _⟩
  · simp only [sendUmDm, Option.bind_eq_bind, Option.bind_eq_some_iff, Option.pure_def] at sent
    obtain ⟨definition, _, _, _, parsedArgs, _, destination, _, same⟩ := sent
    exact ⟨_, _, (Option.some.inj same).symm, zero _ _⟩
  · cases sent

theorem sent_min (now : DateTime) (cli : CpdlcArgs) (command : CpdlcMessageCommand)
    (message : OpenLinkMessage) (sent : send now cli command = some message) (min : Nat)
    (numbered : messageMin message = some min) : min = 0 := by
  obtain ⟨destination, content, rfl, zero⟩ := sent_content now cli command message sent
  rw [cpdlc_min] at numbered
  exact zero min numbered

end Clients

/-! When the server refuses a message for its MIN. -/
section Refusal
variable (toUppercase : String → String)

def invalidMin (min : UInt8) : String :=
  s!"invalid CPDLC MIN {min} (expected 1..=63, client-assigned)"

theorem head_append {first : String} (rest : String) {char : Char}
    (lead : first.toList.head? = some char) : (first ++ rest).toList.head? = some char := by
  rw [String.toList_append, List.head?_append, lead]
  rfl

theorem invalid_min_starts (min : UInt8) : (invalidMin min).toList.head? = some 'i' := by
  have lead : "invalid CPDLC MIN ".toList.head? = some 'i' := by decide +kernel
  apply head_append
  apply head_append
  exact lead

theorem other_refusal (message : String) (min : UInt8)
    (differs : message.toList.head? ≠ some 'i') : message ≠ invalidMin min := by
  rintro rfl
  exact differs (invalid_min_starts min)

/-- A message is refused for its MIN once its session could take it. -/
theorem refused_iff (source : AcarsEndpointCallsign) (application : CpdlcApplicationMessage)
    (session : Option CPDLCSession) :
    applicationUpdate toUppercase source application session = .error (invalidMin application.min) ↔
      session.any SessionSteps.activeReady = true ∧ minInRange application.min = false := by
  have unknown := other_refusal "no CPDLC session for aircraft" application.min (by decide +kernel)
  have unconnected := other_refusal "no active connection" application.min (by decide +kernel)
  have early := other_refusal "active connection is not in Connected state" application.min
    (by decide +kernel)
  cases session with
  | none => simp [applicationUpdate, unknown]
  | some session =>
      simp only [applicationUpdate, normalizeMessage, Option.any_some, SessionSteps.activeReady]
      cases active : session.activeConnection with
      | none => simp [unconnected]
      | some conn =>
          cases ready : conn.readyExchange with
          | false => simp only [ready, Option.any_some]; simp [early]
          | true =>
              simp only [ready, Option.any_some]
              by_cases inRange : minInRange application.min = true
              · simp [inRange]
              · have outside : minInRange application.min = false := by simpa using inRange
                simp only [outside]
                exact ⟨fun _ => ⟨trivial, trivial⟩, fun _ => rfl⟩

theorem run_refused_iff (application : CpdlcApplicationMessage) (cpdlc : CpdlcEnvelope)
    (acars : AcarsEnvelope) (store : SessionStore) :
    (runOn (handleCpdlcApplicationMessage toUppercase application cpdlc acars) store).1 =
        .error (invalidMin application.min) ↔
      (store.get (sessionId acars.routing.aircraft)).any SessionSteps.activeReady = true ∧
        minInRange application.min = false := by
  rw [← refused_iff toUppercase cpdlc.source]
  simp only [handleCpdlcApplicationMessage, handleCpdlcApplicationMessageUnder, run_bind,
    run_get_and_update]
  cases applicationUpdate toUppercase cpdlc.source application
    (store.get (sessionId acars.routing.aircraft)) <;> simp [Except.map]

/-- A message that no session takes is refused for its MIN in some. -/
theorem refused_somewhere_iff (application : CpdlcApplicationMessage) (cpdlc : CpdlcEnvelope)
    (acars : AcarsEnvelope) :
    (∃ store, (runOn (handleCpdlcApplicationMessage toUppercase application cpdlc acars) store).1 =
        .error (invalidMin application.min)) ↔ minInRange application.min = false := by
  constructor
  · rintro ⟨store, refused⟩
    exact ((run_refused_iff toUppercase application cpdlc acars store).mp refused).2
  · intro outside
    let ready : CPDLCConnection := ⟨⟨cpdlc.source, ""⟩, true, true⟩
    let session : CPDLCSession := ⟨acars.routing.aircraft, some ready, none, none⟩
    refine ⟨KvStore.empty.put (sessionId acars.routing.aircraft) session, ?_⟩
    rw [run_refused_iff, KvStore.get_put, if_pos rfl]
    exact ⟨rfl, outside⟩

end Refusal

/-! What the server reads. -/
section Reading

theorem read_min {message : TsMessage} {routing : AcarsRouting} {cpdlc : CpdlcEnvelope}
    {application : CpdlcApplicationMessage}
    (received : read message = some (.acars ⟨routing, .cpdlc cpdlc⟩))
    (content : cpdlc.message = .application application) :
    tsMessageMin message = some application.min.toNat := by
  rcases message with ⟨aircraft, source, destination, sent | other⟩ | other
  · simp only [TsTypes.read, readCpdlc, Option.map_map, Option.map_eq_some_iff] at received
    obtain ⟨carried, decoded, same⟩ := received
    cases same
    cases content
    simp only [readApplication, Option.bind_eq_bind, Option.bind_eq_some_iff] at decoded
    obtain ⟨min, byte, rest⟩ := decoded
    have kept : application.min = min := by
      split at rest <;>
        · simp only [Option.bind_eq_some_iff] at rest
          obtain ⟨mrn, _, elements, _, same⟩ := rest
          cases same
          rfl
    subst kept
    unfold readByte at byte
    split at byte
    · next small =>
        rw [← Option.some.inj byte]
        exact congrArg some (Nat.mod_eq_of_lt small).symm
    · cases byte
  · cases received
    cases content
  · cases received

theorem min_in_range_iff (min : UInt8) :
    minInRange min = true ↔ 1 ≤ min.toNat ∧ min.toNat ≤ 63 := by
  rw [minInRange, Bool.and_eq_true, decide_eq_true_eq, decide_eq_true_eq, UInt8.le_iff_toNat_le,
    UInt8.le_iff_toNat_le]
  rfl

end Reading

theorem published_min (producer : Producer) (message : TsMessage)
    (published : message ∈ producer.publishes) (min : Nat)
    (numbered : tsMessageMin message = some min) :
    (1 ≤ min ∧ min ≤ 63) ↔ ¬ producer.IsCommandLine := by
  cases producer with
  | rust client helper =>
      obtain rfl := List.mem_singleton.mp published
      simpa [Producer.IsCommandLine] using performed_min client helper min numbered
  | typescript minSequences now builder =>
      obtain rfl := List.mem_singleton.mp published
      simpa [Producer.IsCommandLine] using built_min minSequences now builder min numbered
  | bridge config state event =>
      obtain ⟨added, grown, inRange⟩ := bridge_min config state event
      rw [Producer.publishes, grown, List.drop_left] at published
      obtain ⟨envelope, member, rfl⟩ := List.mem_map.mp published
      rw [wire_min] at numbered
      simpa [Producer.IsCommandLine] using inRange envelope member min numbered
  | commandLine now cli command =>
      obtain ⟨sent, made, rfl⟩ := List.mem_map.mp published
      rw [wire_min] at numbered
      have zero := sent_min now cli command sent (Option.mem_toList.mp made) min numbered
      simp [Producer.IsCommandLine, zero]

/-- What is published carries a MIN from 1 to 63, and is never refused for its MIN, unless it is
a command of the command line client; then its MIN is out of range. -/
theorem valid_mins_iff (producer : Producer) (message : TsMessage)
    (published : message ∈ producer.publishes) :
    (∀ min, tsMessageMin message = some min →
      ((1 ≤ min ∧ min ≤ 63) ↔ ¬ producer.IsCommandLine)) ∧
    ∀ toUppercase routing cpdlc application,
      read message = some (.acars ⟨routing, .cpdlc cpdlc⟩) →
      cpdlc.message = .application application →
      ((∃ store, (runOn (handleCpdlcApplicationMessage toUppercase application cpdlc
          ⟨routing, .cpdlc cpdlc⟩) store).1 = .error (invalidMin application.min)) ↔
        producer.IsCommandLine) := by
  refine ⟨published_min producer message published, ?_⟩
  intro toUppercase routing cpdlc application received content
  have mins := published_min producer message published _ (read_min received content)
  rw [refused_somewhere_iff, ← Bool.not_eq_true, min_in_range_iff, mins, not_not]

/-! A controller ends the service from the command line. -/

def controller : CpdlcArgs := ⟨"LFPG", "AFR123", "39A1B2", false, true⟩

def endServiceSent : TsMessage :=
  .acars ⟨"AFR123", "39A1B2"⟩ ⟨"LFPG", "AFR123", .application ⟨0, none, [⟨"UM161", []⟩], 0⟩⟩

theorem end_service_published :
    endServiceSent ∈ (Producer.commandLine 0 controller .endService).publishes := by
  decide

theorem valid_mins_end_service :
    (∀ min, tsMessageMin endServiceSent = some min →
      ((1 ≤ min ∧ min ≤ 63) ↔
        ¬ (Producer.commandLine 0 controller .endService).IsCommandLine)) ∧
    ∀ toUppercase routing cpdlc application,
      read endServiceSent = some (.acars ⟨routing, .cpdlc cpdlc⟩) →
      cpdlc.message = .application application →
      ((∃ store, (runOn (handleCpdlcApplicationMessage toUppercase application cpdlc
          ⟨routing, .cpdlc cpdlc⟩) store).1 = .error (invalidMin application.min)) ↔
        (Producer.commandLine 0 controller .endService).IsCommandLine) :=
  valid_mins_iff (.commandLine 0 controller .endService) endServiceSent end_service_published

/-- The server has the connected session of the aircraft, and refuses the message all the same. -/
theorem end_service_refused :
    let application : CpdlcApplicationMessage := ⟨0, none, [⟨"UM161", []⟩], 0⟩
    let cpdlc : CpdlcEnvelope := ⟨"LFPG", "AFR123", .application application⟩
    let session : CPDLCSession :=
      ⟨⟨"AFR123", "39A1B2"⟩, some ⟨⟨"LFPG", ""⟩, true, true⟩, none, none⟩
    endServiceSent ∈ (Producer.commandLine 0 controller .endService).publishes ∧
      read endServiceSent = some (.acars ⟨⟨⟨"AFR123", "39A1B2"⟩⟩, .cpdlc cpdlc⟩) ∧
      (runOn (handleCpdlcApplicationMessage asciiUppercase application cpdlc
        ⟨⟨⟨"AFR123", "39A1B2"⟩⟩, .cpdlc cpdlc⟩) (KvStore.empty.put "39A1B2" session)).1 =
          .error (invalidMin 0) := by
  intro application cpdlc session
  refine ⟨by decide, rfl, ?_⟩
  exact (run_refused_iff asciiUppercase application cpdlc _ _).mpr (by decide)

end OpenLink.ProducerMins
