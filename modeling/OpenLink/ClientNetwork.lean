import OpenLink.Cascades
import OpenLink.GuiClient
import OpenLink.MainLoop
import OpenLink.UseOpenLink

/-!
The server and the programs of its participants, with the messages under way between them. Several
programs may listen at one address, and each of them gets a copy of what is published there. What a
program answers of itself is sent at once; whatever a user does, a station that goes on or off line,
and a sweep of the server come from outside. However long the answers of one program make another
one answer, it comes to an end: a message of a user causes a bounded number of deliveries.
-/
namespace OpenLink.ClientNetwork
open Actions ApplicationMessages Cascades Cpdlc CpdlcRuntime CpdlcServer Envelope GuiClient
  HandlerEffects MainLoop MessageBuilder Publications Registry Runs SdkClient Server Session TsTypes
  UseOpenLink

inductive Participant where
  | gui (setup : SetupFields) (client : OpenLinkClient) (tab : TabState)
  | a320 (settings : ConnectionSettings) (minSequences : TsEnvelope.Sequences)

/-- What a program makes of a message, and answers. The server does not see what it cannot read. -/
def Participant.receive (now : DateTime) (payload : OpenLinkMessage) :
    Participant → Participant × List OpenLinkMessage
  | .gui setup client tab =>
      match payload with
      | .acars ⟨routing, .cpdlc cpdlc⟩ =>
          match cpdlc.message with
          | .metaMessage message =>
              let (after, replies) :=
                handleIncomingMeta client setup message cpdlc routing.aircraft.address tab
              (.gui setup (clientAfterMeta client setup message routing.aircraft.address tab) after,
                replies)
          | .application app =>
              let (replies, client) :=
                handleIncomingApplication client setup now app cpdlc routing.aircraft.address tab
              (.gui setup client tab, replies)
      | .metaMessage _ => (.gui setup client tab, [])
  | .a320 settings minSequences =>
      let (replies, minSequences) :=
        UseOpenLink.handleIncomingMessage settings minSequences now (wire payload)
      (.a320 settings minSequences, replies.filterMap TsTypes.read)

inductive Parcel where
  | toServer (sender : NetworkAddress) (acars : AcarsEnvelope)
  | toProgram (address : NetworkAddress) (index : Nat) (payload : OpenLinkMessage)

/-- No more programs than the bound share an address. -/
structure Network (bound : Nat) where
  server : OpenLinkServer
  programs : NetworkAddress → List Participant
  few : ∀ address, (programs address).length ≤ bound

def acarsOf : OpenLinkMessage → Option AcarsEnvelope
  | .acars acars => some acars
  | .metaMessage _ => none

def copies (programs : NetworkAddress → List Participant) (postings : List Posting) : List Parcel :=
  postings.flatMap fun posting =>
    (List.range (programs posting.1).length).map (.toProgram posting.1 · posting.2)

theorem few_updated {bound : Nat} (network : Network bound) (address : NetworkAddress) (index : Nat)
    (after : Participant) (other : NetworkAddress) :
    (Function.update network.programs address ((network.programs address).set index after)
      other).length ≤ bound := by
  by_cases same : other = address
  · rw [same, Function.update_self, List.length_set]
    exact network.few address
  · rw [Function.update_of_ne same]
    exact network.few other

variable (config : ServerConfig) {bound : Nat}

def handle (label : Uuid × DateTime) (network : Network bound) :
    Parcel → Network bound × List Parcel
  | .toServer sender acars =>
      let arrived := envelope label.1 label.2 (.address config.networkId sender)
        (.server config.networkId) none (.acars acars)
      let server := mainLoop config network.server (.arrives label.2 arrived)
      ({ network with server := server }, copies network.programs (published network.server server))
  | .toProgram address index payload =>
      match (network.programs address)[index]? with
      | none => (network, [])
      | some participant =>
          let (after, replies) := participant.receive label.2 payload
          ({ network with
              programs := Function.update network.programs address
                ((network.programs address).set index after)
              few := few_updated network address index after },
            (replies.filterMap acarsOf).map (.toServer address))

/-! What a message weighs: the deliveries that it may cause. -/
section Weight
variable (bound)

def contacts (app : CpdlcApplicationMessage) : Nat :=
  app.elements.countP fun element => element.id == "UM117"

/-- The server passes a message on, and tells the aircraft and up to four stations of it. -/
def serverWeight (weight : Nat) : Nat := 1 + bound * (5 + weight)

/-- At a program: a connection request is answered with a response, a forwarded logon with a
request, an application message with an acknowledgement and a logon for each contact instruction. -/
def programWeight : OpenLinkMessage → Nat
  | .acars ⟨_, .cpdlc ⟨_, _, .metaMessage .connectionRequest⟩⟩ => 1 + serverWeight bound 1
  | .acars ⟨_, .cpdlc ⟨_, _, .metaMessage (.logonForward _ _ _ _)⟩⟩ =>
      1 + serverWeight bound (1 + serverWeight bound 1)
  | .acars ⟨_, .cpdlc ⟨_, _, .application app⟩⟩ =>
      1 + (if messageContainsLogicalAck app.elements then 0 else serverWeight bound 1) +
        serverWeight bound 1 * contacts app
  | _ => 1

def Parcel.weight : Parcel → Nat
  | .toServer _ acars => serverWeight bound (programWeight bound (.acars acars))
  | .toProgram _ _ payload => programWeight bound payload

end Weight

/-! What the server publishes. -/
section Server

theorem addressed_single (registry : StationRegistry) (callsign : AcarsEndpointCallsign)
    (payload : OpenLinkMessage) : (addressed config registry callsign payload).length ≤ 1 := by
  unfold addressed
  cases lookupCallsign config.toUppercase registry callsign <;> simp

theorem stations_few (session : CPDLCSession) (payload : OpenLinkMessage) :
    (broadcastStations session payload).length ≤ 4 := by
  have slots :
      (session.activeConnection.toList ++ session.inactiveConnection.toList).length ≤ 2 := by
    cases session.activeConnection <;> cases session.inactiveConnection <;> simp
  unfold broadcastStations
  refine (List.dedup_sublist _).length_le.trans ?_
  rw [List.length_append, List.length_map]
  cases payload with
  | metaMessage _ => exact slots.trans (by simp)
  | acars acars =>
      obtain ⟨_, ⟨source, destination, _⟩⟩ := acars
      have parties := (List.filter_sublist (p := (· != session.aircraft.callsign))
        (l := [source, destination])).length_le
      simp only [List.length_cons, List.length_nil] at parties
      exact Nat.add_le_add slots parties

variable (bound) in
def postingWeight (postings : List Posting) : Nat :=
  total (fun posting => programWeight bound posting.2) postings

theorem copies_weight (network : Network bound) (postings : List Posting) :
    total (Parcel.weight bound) (copies network.programs postings) ≤
      bound * postingWeight bound postings := by
  induction postings with
  | nil => exact Nat.zero_le _
  | cons posting rest ih =>
      have light : ∀ parcel ∈ (List.range (network.programs posting.1).length).map
          (Parcel.toProgram posting.1 · posting.2),
            parcel.weight bound ≤ programWeight bound posting.2 := by
        intro parcel member
        obtain ⟨index, _, rfl⟩ := List.mem_map.mp member
        exact le_rfl
      have each := total_bounded (Parcel.weight bound) light
      rw [List.length_map, List.length_range] at each
      have here := each.trans (Nat.mul_le_mul_right (programWeight bound posting.2)
        (network.few posting.1))
      rw [copies, List.flatMap_cons, total_append]
      have split : postingWeight bound (posting :: rest) =
          programWeight bound posting.2 + postingWeight bound rest := by
        simp [postingWeight, total]
      rw [split, Nat.mul_add]
      exact Nat.add_le_add here ih

variable (bound) in
theorem updates_weight (session : CPDLCSession) (payload : OpenLinkMessage)
    (registry : StationRegistry) :
    postingWeight bound (broadcastUpdates config session payload registry) ≤ 5 := by
  have light : ∀ posting ∈ broadcastUpdates config session payload registry,
      programWeight bound posting.2 ≤ 1 := by
    intro posting among
    obtain ⟨party, view, same⟩ : ∃ party view, posting.2 = updateMessage session party view := by
      rcases List.mem_append.mp among with aircraft | stations
      · obtain ⟨entry, _, rfl⟩ := List.mem_map.mp aircraft
        exact ⟨_, _, rfl⟩
      · obtain ⟨station, _, told⟩ := List.mem_flatMap.mp stations
        obtain ⟨entry, _, rfl⟩ := List.mem_map.mp told
        exact ⟨_, _, rfl⟩
    rw [same]
    exact le_rfl
  have few : (broadcastUpdates config session payload registry).length ≤ 5 := by
    have aircraft := addressed_single config registry session.aircraft.callsign
      (updateMessage session session.aircraft.callsign session.toAircraftView)
    have stations := total_bounded (fun station => (addressed config registry station
        (updateMessage session station (session.toStationView station))).length)
      (fun station (_ : station ∈ broadcastStations session payload) =>
        addressed_single config registry station _)
    have number := stations_few session payload
    rw [total] at stations
    rw [broadcastUpdates, List.length_append, List.length_flatMap]
    omega
  have bounded := total_bounded _ light
  exact bounded.trans (by omega)

theorem forwarded_weight (toUppercase : String → String) (cpdlc : CpdlcEnvelope)
    (routing : AcarsRouting) (envelope : OpenLinkEnvelope)
    (payload : envelope.payload = .acars ⟨routing, .cpdlc cpdlc⟩) :
    programWeight bound (forwarded toUppercase cpdlc envelope).payload =
      programWeight bound (.acars ⟨routing, .cpdlc cpdlc⟩) := by
  obtain ⟨source, destination, content⟩ := cpdlc
  cases content with
  | metaMessage message => simp only [forwarded, payload]
  | application app =>
      have same (element : MessageElement) :
          (normalizeElement toUppercase element).id = element.id :=
        (normalize_element_uppercased toUppercase element).id
      simp only [forwarded, payload, programWeight, normalizeMessage, messageContainsLogicalAck,
        contacts, List.any_map, List.countP_map, Function.comp_def, same]
      rfl

variable (bound) in
theorem deliveries_weight (routing : AcarsRouting) (cpdlc : CpdlcEnvelope)
    (envelope : OpenLinkEnvelope) (payload : envelope.payload = .acars ⟨routing, .cpdlc cpdlc⟩)
    (store : SessionStore) (registry : StationRegistry) :
    postingWeight bound (deliveries config envelope.payload registry
        (runOn (handleCpdlcMessage config.toUppercase cpdlc ⟨routing, .cpdlc cpdlc⟩ envelope)
          store).1) ≤ 5 + programWeight bound (.acars ⟨routing, .cpdlc cpdlc⟩) := by
  have relayed : postingWeight bound (addressed config registry cpdlc.destination
      (forwarded config.toUppercase cpdlc envelope).payload) ≤
      programWeight bound (.acars ⟨routing, .cpdlc cpdlc⟩) := by
    rw [← forwarded_weight config.toUppercase cpdlc routing envelope payload, addressed]
    cases lookupCallsign config.toUppercase registry cpdlc.destination <;>
      simp [postingWeight, total]
  have done := handled config.toUppercase cpdlc ⟨routing, .cpdlc cpdlc⟩ envelope store
  generalize runOn (handleCpdlcMessage config.toUppercase cpdlc ⟨routing, .cpdlc cpdlc⟩ envelope)
    store = outcome at done ⊢
  cases done with
  | failed failure => exact Nat.zero_le _
  | passed =>
      rw [deliveries, List.append_nil]
      omega
  | updated =>
      have updates := updates_weight config bound (SessionSteps.step config.toUppercase
        (sessionAt ⟨routing, .cpdlc cpdlc⟩ store) (.message cpdlc)) envelope.payload registry
      rw [deliveries, postingWeight, total_append]
      exact (Nat.add_le_add relayed updates).trans (by omega)

theorem acars_published (now : DateTime) (routing : AcarsRouting) (cpdlc : CpdlcEnvelope)
    (envelope : OpenLinkEnvelope) (payload : envelope.payload = .acars ⟨routing, .cpdlc cpdlc⟩)
    (server : OpenLinkServer) :
    published server (mainLoop config server (.arrives now envelope)) =
      deliveries config envelope.payload server.stationRegistry
        (runOn (handleCpdlcMessage config.toUppercase cpdlc ⟨routing, .cpdlc cpdlc⟩ envelope)
          server.sessions).1 :=
  published_append server _ _
    (run_acars_message config now routing cpdlc envelope server payload).2.2

theorem server_lighter (label : Uuid × DateTime) (network : Network bound)
    (sender : NetworkAddress) (acars : AcarsEnvelope) :
    total (Parcel.weight bound) (handle config label network (.toServer sender acars)).2 <
      Parcel.weight bound (.toServer sender acars) := by
  obtain ⟨routing, ⟨cpdlc⟩⟩ := acars
  rw [handle, acars_published config label.2 routing cpdlc _ rfl, Parcel.weight, serverWeight,
    Nat.add_comm 1]
  have bounded := deliveries_weight config bound routing cpdlc (envelope label.1 label.2
    (.address config.networkId sender) (.server config.networkId) none
      (.acars ⟨routing, .cpdlc cpdlc⟩)) rfl network.server.sessions network.server.stationRegistry
  exact Nat.lt_succ_of_le ((copies_weight network _).trans (Nat.mul_le_mul_left bound bounded))

end Server

/-! What the programs answer. -/
section Participants
variable (bound)

def replyWeight (replies : List OpenLinkMessage) : Nat :=
  total (fun message => serverWeight bound (programWeight bound message)) replies

theorem replies_weight (address : NetworkAddress) (replies : List OpenLinkMessage) :
    total (Parcel.weight bound) ((replies.filterMap acarsOf).map (.toServer address)) ≤
      replyWeight bound replies := by
  induction replies with
  | nil => exact le_rfl
  | cons reply rest ih =>
      cases reply with
      | acars acars => exact Nat.add_le_add_left ih _
      | metaMessage message => exact ih.trans (Nat.le_add_left _ _)

section Gui
variable (setup : SetupFields) (client : OpenLinkClient) (now : DateTime)

/-- An acknowledgement is not answered. -/
theorem ack_light (aircraft address source destination : String) (min : UInt8)
    (mrn : Option UInt8) (ackId : String)
    (acks : ackId = logicalAckDownlinkId ∨ ackId = logicalAckUplinkId) :
    programWeight bound (cpdlc aircraft address source destination
      (applicationMessageWithMinAndMrn now [⟨ackId, []⟩] min mrn)) = 1 := by
  rcases acks with rfl | rfl <;> rfl

theorem ack_weight (app : CpdlcApplicationMessage) (cpdlc : CpdlcEnvelope)
    (address : AcarsEndpointAddress) (isAircraft : Bool) :
    replyWeight bound (autoLogicalAck client setup now app cpdlc address isAircraft).1 ≤
      if messageContainsLogicalAck app.elements then 0 else serverWeight bound 1 := by
  unfold autoLogicalAck
  split
  · next sends =>
      have plain : messageContainsLogicalAck app.elements = false := by
        simp only [shouldAutoSendLogicalAck, Bool.and_eq_true, Bool.not_eq_true'] at sends
        exact sends.1.2
      have light := ack_light bound now
        (if isAircraft then setup.callsign else cpdlc.source) address setup.callsign cpdlc.source
        (client.nextMinForSession setup.callsign cpdlc.source).1 (some app.min)
        (if setup.callsign = (if isAircraft then setup.callsign else cpdlc.source) then
          logicalAckDownlinkId else logicalAckUplinkId) (ite_eq_or_eq _ _ _)
      rw [plain]
      simp only [OpenLinkClient.cpdlcLogicalAck, replyWeight, total, List.map_cons, List.map_nil,
        List.sum_cons, List.sum_nil, light]
      exact le_rfl
  · exact Nat.zero_le _

theorem logons_weight (cpdlc : CpdlcEnvelope) (elements : List MessageElement) :
    replyWeight bound (autoLogons setup cpdlc client elements).1 =
      serverWeight bound 1 * elements.countP fun element => element.id == "UM117" := by
  induction elements generalizing client with
  | nil => rfl
  | cons element rest ih =>
      unfold autoLogons
      by_cases contact : element.id = "UM117"
      · have later := ih (client.cpdlcLogonRequest setup.callsign setup.acarsAddress
          (GuiClient.contactStation cpdlc element)).2
        rw [if_pos contact, List.countP_cons_of_pos (by simpa using contact), Nat.mul_succ, ← later,
          Nat.add_comm]
        rfl
      · rw [if_neg contact, List.countP_cons_of_neg (by simpa using contact), ih]

theorem gui_lighter (tab : TabState) (payload : OpenLinkMessage) :
    replyWeight bound ((Participant.gui setup client tab).receive now payload).2 <
      programWeight bound payload := by
  cases payload with
  | metaMessage message => exact Nat.zero_lt_one
  | acars acars =>
      obtain ⟨routing, ⟨source, destination, content⟩⟩ := acars
      cases content with
      | metaMessage message =>
          cases message with
          | connectionRequest =>
              simp only [Participant.receive, handleIncomingMeta]
              split
              · exact Nat.lt_one_add_iff.mpr le_rfl
              · exact Nat.lt_one_add_iff.mpr (Nat.zero_le _)
          | logonForward flight origin arrival station =>
              simp only [Participant.receive, handleIncomingMeta]
              split
              · exact Nat.lt_one_add_iff.mpr le_rfl
              · exact Nat.lt_one_add_iff.mpr (Nat.zero_le _)
          | _ => exact Nat.zero_lt_one
      | application app =>
          have acks := ack_weight bound setup client now app ⟨source, destination, .application app⟩
            routing.aircraft.address (tab.setup.stationType == .aircraft)
          simp only [Participant.receive, handleIncomingApplication, programWeight]
          split
          · have logons := logons_weight bound setup (autoLogicalAck client setup now app
                ⟨source, destination, .application app⟩ routing.aircraft.address
                (tab.setup.stationType == .aircraft)).2 ⟨source, destination, .application app⟩
                app.elements
            simp only [replyWeight, total_append, contacts] at *
            omega
          · dsimp only
            omega

end Gui

section A320
variable (settings : ConnectionSettings) (minSequences : TsEnvelope.Sequences) (now : DateTime)

theorem wire_acks (elements : List MessageElement) :
    TsRuntime.messageContainsLogicalAck (elements.map wireElement) =
      messageContainsLogicalAck elements := by
  simp only [TsRuntime.messageContainsLogicalAck, List.any_map]
  rfl

theorem read_elements {message : TsApplicationMessage} {app : CpdlcApplicationMessage}
    (known : readApplication message = some app) :
    message.elements.mapM readElement = some app.elements := by
  obtain ⟨min, mrn, elements, timestamp⟩ := message
  cases mrn <;>
    · simp only [readApplication, Option.bind_eq_bind, Option.bind_some, Option.bind_eq_some_iff]
        at known
      grind

theorem read_ack_light (aircraft : AcarsRoutingEndpoint) (source destination : String) (min : Nat)
    (mrn : Option Nat) :
    replyWeight bound ([TsMessage.acars aircraft ⟨source, destination,
      .application ⟨min, mrn, [⟨TsEnvelope.logicalAckDownlinkId, []⟩], now⟩⟩].filterMap
        TsTypes.read) ≤ serverWeight bound 1 := by
  rw [List.filterMap_cons, List.filterMap_nil]
  cases known : readApplication ⟨min, mrn, [⟨TsEnvelope.logicalAckDownlinkId, []⟩], now⟩ with
  | none => simp [TsTypes.read, readCpdlc, known, replyWeight]
  | some app =>
      have elements : app.elements = [⟨logicalAckDownlinkId, []⟩] :=
        (Option.some.inj (read_elements known)).symm
      simp only [TsTypes.read, readCpdlc, known, Option.map_some, replyWeight, total, List.map_cons,
        List.map_nil, List.sum_cons, List.sum_nil, programWeight, contacts, elements]
      exact le_rfl

theorem a320_ack_weight (source : String) (app : CpdlcApplicationMessage) :
    replyWeight bound ((replyLogicalAck settings minSequences now source
        (wireApplication app)).1.filterMap TsTypes.read) ≤
      if messageContainsLogicalAck app.elements then 0 else serverWeight bound 1 := by
  unfold replyLogicalAck
  split
  · next sends =>
      have plain : messageContainsLogicalAck app.elements = false := by
        simp only [TsRuntime.shouldAutoSendLogicalAck, wireApplication, wire_acks,
          Bool.and_eq_true, Bool.not_eq_true'] at sends
        exact sends.2
      rw [plain]
      exact read_ack_light bound now _ _ _ _ _
  · exact Nat.zero_le _

theorem a320_logon_weight (app : CpdlcApplicationMessage) :
    replyWeight bound ((replyLogon settings minSequences (wireApplication app).elements).1.filterMap
        TsTypes.read) ≤ serverWeight bound 1 * contacts app := by
  unfold replyLogon
  split
  · next station found =>
      have some_contact : 0 < contacts app := by
        simp only [UseOpenLink.contactStation, wireApplication, Option.bind_eq_bind,
          Option.bind_eq_some_iff] at found
        obtain ⟨wired, first, _⟩ := found
        obtain ⟨element, member, rfl⟩ := List.mem_map.mp (List.mem_of_find?_eq_some first)
        have named := List.find?_some first
        exact List.countP_pos_iff.mpr ⟨element, member, named⟩
      have light : replyWeight bound ([(TsEnvelope.buildLogonRequest minSequences settings.callsign
          settings.acarsAddress station "ZZZZ" "ZZZZ").1].filterMap TsTypes.read) =
            serverWeight bound 1 := rfl
      rw [light]
      exact Nat.le_mul_of_pos_right _ some_contact
  · exact Nat.zero_le _

theorem a320_lighter (payload : OpenLinkMessage) :
    replyWeight bound ((Participant.a320 settings minSequences).receive now payload).2 <
      programWeight bound payload := by
  cases payload with
  | metaMessage message => exact Nat.zero_lt_one
  | acars acars =>
      obtain ⟨routing, ⟨source, destination, content⟩⟩ := acars
      cases content with
      | metaMessage message =>
          cases message with
          | connectionRequest => exact Nat.lt_one_add_iff.mpr le_rfl
          | logonForward flight origin arrival station =>
              exact Nat.lt_one_add_iff.mpr (Nat.zero_le _)
          | _ => exact Nat.zero_lt_one
      | application app =>
          have acks := a320_ack_weight bound settings minSequences now source app
          have logons := a320_logon_weight bound settings
            (replyLogicalAck settings minSequences now source (wireApplication app)).2 app
          simp only [Participant.receive, wire, wireCpdlc, handleIncomingMessage, programWeight]
          split
          · exact Nat.lt_of_lt_of_le Nat.zero_lt_one (by omega)
          · simp only [List.filterMap_append, replyWeight, total_append] at *
            omega

end A320

theorem participant_lighter (participant : Participant) (now : DateTime)
    (payload : OpenLinkMessage) :
    replyWeight bound (participant.receive now payload).2 < programWeight bound payload := by
  cases participant with
  | gui setup client tab => exact gui_lighter bound setup client now tab payload
  | a320 settings minSequences => exact a320_lighter bound settings minSequences now payload

end Participants

theorem network_outweighs :
    Outweighs (fun label (network : Network bound) => handle config label network)
      (Parcel.weight bound) := by
  intro label network parcel
  cases parcel with
  | toServer sender acars => exact server_lighter config label network sender acars
  | toProgram address index payload =>
      cases known : (network.programs address)[index]? with
      | none =>
          have positive := participant_lighter bound (.a320 ⟨"", ""⟩ fun _ => none) 0 payload
          simp only [handle, known, total_nil, Parcel.weight]
          omega
      | some participant =>
          have lighter := participant_lighter bound participant label.2 payload
          simp only [handle, known, Parcel.weight]
          exact (replies_weight bound address _).trans_lt lighter

theorem chatter_bounded (config : ServerConfig) (bound : Nat)
    (traffic : Traffic (Network bound) Parcel)
    (moves : List (Move (Network bound) Parcel (Uuid × DateTime))) :
    (collected (advance (handle config)) delivered traffic moves).length +
        total (Parcel.weight bound) (exec (advance (handle config)) traffic moves).underWay ≤
      total (Parcel.weight bound) traffic.underWay +
        total (Parcel.weight bound) (moves.flatMap sent) :=
  deliveries_bounded (network_outweighs config) traffic moves

end OpenLink.ClientNetwork
