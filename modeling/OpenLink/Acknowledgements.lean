import OpenLink.ClientParity
import OpenLink.GuiClient
import OpenLink.Networks
import OpenLink.UseOpenLink

/-!
Two connected clients, each a GUI or the hook, that send each other messages over a
network and acknowledge what they receive. Messages are as the wire carries them.
-/
namespace OpenLink.Acknowledgements
open ClientParity Cpdlc Envelope GuiClient MessageBuilder MinSequencing Networks Runs SdkClient
  TsEnvelope TsRuntime TsTypes UseOpenLink

/-! The two clients. -/
section Parties

inductive Party where
  | gui (setup : SetupFields) (tab : TabState) (client : OpenLinkClient)
  | hook (settings : ConnectionSettings) (minSequences : Sequences)

def Party.callsign : Party → String
  | .gui setup _ _ => setup.callsign
  | .hook settings _ => settings.callsign

def Party.call : Party → HelperCall → TsMessage × Party
  | .gui setup tab client, helper =>
      (wire (perform client helper).1, .gui setup tab (perform client helper).2)
  | .hook settings minSequences, helper =>
      ((tsPerform minSequences helper).1, .hook settings (tsPerform minSequences helper).2)

def guiReceive (setup : SetupFields) (tab : TabState) (client : OpenLinkClient) (now : DateTime) :
    OpenLinkMessage → List OpenLinkMessage × Party
  | .metaMessage _ => ([], .gui setup tab client)
  | .acars ⟨routing, .cpdlc ⟨source, destination, .metaMessage message⟩⟩ =>
      let (after, replies) := handleIncomingMeta client setup message
        ⟨source, destination, .metaMessage message⟩ routing.aircraft.address tab
      (replies, .gui setup after
        (clientAfterMeta client setup message routing.aircraft.address tab))
  | .acars ⟨routing, .cpdlc ⟨source, destination, .application app⟩⟩ =>
      let (replies, client) := handleIncomingApplication client setup now app
        ⟨source, destination, .application app⟩ routing.aircraft.address tab
      (replies, .gui setup tab client)

def Party.receive (party : Party) (now : DateTime) (message : TsMessage) : List TsMessage × Party :=
  match party with
  | .gui setup tab client =>
      match read message with
      | some message =>
          let (replies, after) := guiReceive setup tab client now message
          (replies.map wire, after)
      | none => ([], party)
  | .hook settings minSequences =>
      let (replies, minSequences) := handleIncomingMessage settings minSequences now message
      (replies, .hook settings minSequences)

end Parties

/-! The messages that matter here. -/
section Messages

def application : TsMessage → Option TsApplicationMessage
  | .acars _ ⟨_, _, .application message⟩ => some message
  | _ => none

def isAck (message : TsMessage) : Bool :=
  (application message).any fun app => messageContainsLogicalAck app.elements

def isPlain (message : TsMessage) : Bool :=
  (application message).any fun app => !messageContainsLogicalAck app.elements

def acknowledged (messages : List TsMessage) : List (Option Nat) :=
  (messages.filter isAck).map fun message => (application message).bind TsApplicationMessage.mrn

/-- The MRNs that a message is to be acknowledged with. -/
def owed (message : TsMessage) : List (Option Nat) :=
  match application message with
  | some app =>
      if 0 < app.min ∧ messageContainsLogicalAck app.elements = false then [some app.min] else []
  | none => []

end Messages

/-! The network between them. -/
section Network

inductive Side where
  | first
  | second
  deriving DecidableEq

def Side.other : Side → Side
  | .first => .second
  | .second => .first

variable (callsign : Side → String)

def between (sender receiver : String) : TsMessage → Bool
  | .acars _ ⟨source, destination, .application _⟩ => source == sender && destination == receiver
  | _ => true

/-- A helper of the client builds a message, or it is put together by other means, which may
leave its MIN at zero. -/
inductive UserAction where
  | call (helper : HelperCall)
  | write (aircraft : AcarsRoutingEndpoint) (message : CpdlcMessageType)

def act (side : Side) (party : Party) : UserAction → List TsMessage × Party
  | .call helper =>
      if between (callsign side) (callsign side.other) (party.call helper).1 then
        ([(party.call helper).1], (party.call helper).2)
      else ([], party)
  | .write aircraft message =>
      ([wire (cpdlc aircraft.callsign aircraft.address (callsign side) (callsign side.other)
        message)], party)

def addressed (party : Party) : TsMessage → Bool
  | .acars _ cpdlc => cpdlc.destination == party.callsign
  | .metaMessage _ => false

def behaviour : Behaviour Side Party UserAction DateTime TsMessage where
  addressed := addressed
  act := act callsign
  receive := Party.receive

end Network

/-! What each client replies. -/
section Replies

theorem acknowledged_append (earlier later : List TsMessage) :
    acknowledged (earlier ++ later) = acknowledged earlier ++ acknowledged later := by
  simp [acknowledged]

theorem acknowledged_others (messages : List TsMessage)
    (others : ∀ message ∈ messages, application message = none) : acknowledged messages = [] := by
  have unmarked : messages.filter isAck = [] := by
    rw [List.filter_eq_nil_iff]
    intro message member
    simp [isAck, others message member]
  rw [acknowledged, unmarked, List.map_nil]

theorem contains_wire (elements : List MessageElement) :
    messageContainsLogicalAck (elements.map wireElement) =
      CpdlcRuntime.messageContainsLogicalAck elements := by
  rw [messageContainsLogicalAck, List.any_map]
  rfl

/-- Both SDKs have the same rule. -/
theorem rule_wire (app : CpdlcApplicationMessage) :
    shouldAutoSendLogicalAck (wireApplication app).elements (wireApplication app).min =
      CpdlcRuntime.shouldAutoSendLogicalAck app.elements app.min := by
  have counted : 0 < (wireApplication app).min ↔ 0 < app.min := by
    rw [UInt8.lt_iff_toNat_lt]
    rfl
  unfold shouldAutoSendLogicalAck CpdlcRuntime.shouldAutoSendLogicalAck
  rw [decide_eq_decide.mpr counted, ← contains_wire]
  rfl

structure Reply (sender receiver : String) (reply : TsMessage) : Prop where
  wired : ∃ origin, wire origin = reply
  between : between sender receiver reply = true

theorem other_reply (sender receiver : String) (origin : OpenLinkMessage)
    (other : application (wire origin) = none) : Reply sender receiver (wire origin) := by
  refine ⟨⟨origin, rfl⟩, ?_⟩
  obtain ⟨⟨aircraft⟩, source, destination, app | message⟩ | message := origin
  · cases other
  · rfl
  · rfl

/-- Acknowledgements with whatever else a client replies. -/
theorem replies_joined {sender receiver : String} {mrns : List (Option Nat)}
    (acks others : List OpenLinkMessage) (counted : acknowledged (acks.map wire) = mrns)
    (returned : ∀ ack ∈ acks, between sender receiver (wire ack) = true)
    (silent : ∀ other ∈ others, application (wire other) = none) :
    acknowledged ((acks ++ others).map wire) = mrns ∧
      ∀ reply ∈ (acks ++ others).map wire, Reply sender receiver reply := by
  constructor
  · rw [List.map_append, acknowledged_append, counted,
      acknowledged_others _ (List.forall_mem_map.mpr silent), List.append_nil]
  · rw [List.forall_mem_map, List.forall_mem_append]
    exact ⟨fun ack member => ⟨⟨ack, rfl⟩, returned ack member⟩,
      fun other member => other_reply sender receiver other (silent other member)⟩

/-- What a message is owed is what the rule has a client send. -/
theorem owed_wire (aircraft : AcarsRoutingEndpoint) (source destination : String)
    (app : CpdlcApplicationMessage) :
    owed (.acars aircraft ⟨source, destination, .application (wireApplication app)⟩) =
      if CpdlcRuntime.shouldAutoSendLogicalAck app.elements app.min then [some app.min.toNat]
      else [] := by
  rw [← rule_wire, shouldAutoSendLogicalAck]
  simp only [owed, application, Bool.and_eq_true, decide_eq_true_eq, Bool.not_eq_true']
  rfl

/-! The acknowledgement of a Rust client, which the hook sends as well. -/
section Acks
variable (client : OpenLinkClient) (now : DateTime)
  (sender receiver aircraftCallsign aircraftAddress : String)

theorem ack_acknowledged (mrn : UInt8) :
    acknowledged [wire (client.cpdlcLogicalAck now sender receiver aircraftCallsign
      aircraftAddress mrn).1] = [some mrn.toNat] := by
  have marked : isLogicalAckElementId
      (if sender = aircraftCallsign then CpdlcRuntime.logicalAckDownlinkId
        else CpdlcRuntime.logicalAckUplinkId) = true := by
    split <;> rfl
  simp [acknowledged, isAck, application, wire, wireCpdlc, wireApplication, wireElement,
    OpenLinkClient.cpdlcLogicalAck, cpdlc, applicationMessageWithMinAndMrn,
    messageContainsLogicalAck, marked]

def acksFor (app : CpdlcApplicationMessage) : List OpenLinkMessage :=
  if CpdlcRuntime.shouldAutoSendLogicalAck app.elements app.min then
    [(client.cpdlcLogicalAck now sender receiver aircraftCallsign aircraftAddress app.min).1]
  else []

theorem acks_owed (app : CpdlcApplicationMessage) (aircraft : AcarsRoutingEndpoint)
    (source destination : String) :
    acknowledged ((acksFor client now sender receiver aircraftCallsign aircraftAddress app).map
        wire) =
      owed (.acars aircraft ⟨source, destination, .application (wireApplication app)⟩) := by
  rw [owed_wire, acksFor]
  split
  · exact ack_acknowledged client now _ _ _ _ app.min
  · rfl

theorem acks_between (app : CpdlcApplicationMessage) :
    ∀ ack ∈ acksFor client now sender receiver aircraftCallsign aircraftAddress app,
      between sender receiver (wire ack) = true := by
  unfold acksFor
  split
  · rw [List.forall_mem_singleton]
    simp [between, wire, wireCpdlc, OpenLinkClient.cpdlcLogicalAck, MessageBuilder.cpdlc,
      applicationMessageWithMinAndMrn]
  · exact List.forall_mem_nil _

theorem acks_replied (app : CpdlcApplicationMessage) (aircraft : AcarsRoutingEndpoint)
    (destination : String) (others : List OpenLinkMessage)
    (silent : ∀ other ∈ others, application (wire other) = none) :
    let replies := (acksFor client now sender receiver aircraftCallsign aircraftAddress app ++
      others).map wire
    acknowledged replies =
        owed (.acars aircraft ⟨receiver, destination, .application (wireApplication app)⟩) ∧
      ∀ reply ∈ replies, Reply sender receiver reply :=
  replies_joined _ others
    (acks_owed client now sender receiver aircraftCallsign aircraftAddress app aircraft receiver
      destination)
    (acks_between client now sender receiver aircraftCallsign aircraftAddress app) silent

end Acks

section Gui
variable (client : OpenLinkClient) (setup : SetupFields) (now : DateTime)

theorem gui_acks (app : CpdlcApplicationMessage) (cpdlc : CpdlcEnvelope)
    (aircraftAddress : AcarsEndpointAddress) (isAircraft : Bool)
    (foreign : cpdlc.source ≠ setup.callsign) :
    (autoLogicalAck client setup now app cpdlc aircraftAddress isAircraft).1 =
      acksFor client now setup.callsign cpdlc.source
        (if isAircraft then setup.callsign else cpdlc.source) aircraftAddress app := by
  unfold autoLogicalAck acksFor
  by_cases due : CpdlcRuntime.shouldAutoSendLogicalAck app.elements app.min <;>
    simp [due, foreign]

theorem gui_logons (cpdlc : CpdlcEnvelope) (elements : List MessageElement) :
    ∀ message ∈ (autoLogons setup cpdlc client elements).1, application (wire message) = none := by
  induction elements generalizing client with
  | nil => simp [autoLogons]
  | cons element rest ih =>
      unfold autoLogons
      split
      · exact List.forall_mem_cons.mpr ⟨rfl, ih _⟩
      · exact ih client

theorem gui_metas (message : CpdlcMetaMessage) (cpdlc : CpdlcEnvelope)
    (aircraftAddress : AcarsEndpointAddress) (tab : TabState) :
    ∀ reply ∈ (handleIncomingMeta client setup message cpdlc aircraftAddress tab).2,
      application (wire reply) = none := by
  cases message with
  | connectionRequest | logonForward =>
      simp only [handleIncomingMeta]
      split
      · exact List.forall_mem_singleton.mpr rfl
      · exact List.forall_mem_nil _
  | _ => exact List.forall_mem_nil _

theorem gui_application (tab : TabState) (aircraft : AcarsRoutingEndpoint)
    (source destination : String) (app : CpdlcApplicationMessage)
    (foreign : source ≠ setup.callsign) :
    let message := TsMessage.acars aircraft ⟨source, destination,
      .application (wireApplication app)⟩
    let received := (Party.gui setup tab client).receive now message
    acknowledged received.1 = owed message ∧
      (∀ reply ∈ received.1, Reply setup.callsign source reply) ∧
      received.2.callsign = setup.callsign := by
  intro message received
  have readable : read message =
      some (.acars ⟨⟨aircraft⟩, .cpdlc ⟨source, destination, .application app⟩⟩) :=
    read_wire (.acars ⟨⟨aircraft⟩, .cpdlc ⟨source, destination, .application app⟩⟩)
  simp only [received, Party.receive, readable, guiReceive, handleIncomingApplication]
  rw [gui_acks client setup now app ⟨source, destination, .application app⟩ aircraft.address
    (tab.setup.stationType == .aircraft) foreign]
  split
  · obtain ⟨all, replies⟩ := acks_replied client now setup.callsign source _ aircraft.address app
      aircraft destination _ (gui_logons _ setup _ app.elements)
    exact ⟨all, replies, rfl⟩
  · obtain ⟨all, replies⟩ := acks_replied client now setup.callsign source _ aircraft.address app
      aircraft destination [] (List.forall_mem_nil _)
    rw [List.append_nil] at all replies
    exact ⟨all, replies, rfl⟩

end Gui

section Hook
variable (settings : ConnectionSettings) (minSequences : Sequences) (now : DateTime)

theorem hook_ack (source : String) (mrn : UInt8) :
    (buildLogicalAck minSequences now settings.callsign settings.acarsAddress source
        mrn.toNat).1 =
      wire ((clientOf minSequences).cpdlcLogicalAck now settings.callsign source settings.callsign
        settings.acarsAddress mrn).1 := by
  have built := (perform_alike (client_alike minSequences)
    (.logicalAck settings.callsign source settings.callsign settings.acarsAddress mrn now)).1
  rw [perform, tsPerform, beq_self_eq_true] at built
  exact built.symm

theorem hook_acks (source : String) (app : CpdlcApplicationMessage) :
    (replyLogicalAck settings minSequences now source (wireApplication app)).1 =
      (acksFor (clientOf minSequences) now settings.callsign source settings.callsign
        settings.acarsAddress app).map wire := by
  unfold replyLogicalAck acksFor
  rw [rule_wire]
  split
  · exact congrArg (fun ack => [ack]) (hook_ack settings minSequences now source app.min)
  · rfl

theorem hook_logons (elements : List TsElement) :
    ∃ others : List OpenLinkMessage, (replyLogon settings minSequences elements).1 = others.map wire ∧
      ∀ other ∈ others, application (wire other) = none := by
  unfold replyLogon
  split
  · next station _ =>
      exact ⟨[((clientOf minSequences).cpdlcLogonRequest settings.callsign settings.acarsAddress
        station).1], rfl, List.forall_mem_singleton.mpr rfl⟩
  · exact ⟨[], rfl, List.forall_mem_nil _⟩

theorem hook_application (aircraft : AcarsRoutingEndpoint)
    (source destination : String) (app : CpdlcApplicationMessage) :
    let message := TsMessage.acars aircraft ⟨source, destination,
      .application (wireApplication app)⟩
    let received := (Party.hook settings minSequences).receive now message
    acknowledged received.1 = owed message ∧
      (∀ reply ∈ received.1, Reply settings.callsign source reply) ∧
      received.2.callsign = settings.callsign := by
  intro message received
  by_cases silent : messageContainsLogicalAck (wireApplication app).elements
  · have nothing : received.1 = [] := by
      simp [received, message, Party.receive, handleIncomingMessage, silent]
    have free : owed message = [] := by simp [message, owed, application, silent]
    rw [nothing, free]
    exact ⟨rfl, List.forall_mem_nil _, rfl⟩
  · obtain ⟨others, logons, plain⟩ := hook_logons settings
      (replyLogicalAck settings minSequences now source (wireApplication app)).2
      (wireApplication app).elements
    obtain ⟨all, replies⟩ := acks_replied (clientOf minSequences) now settings.callsign source
      settings.callsign settings.acarsAddress app aircraft destination others plain
    have whole : received.1 = (acksFor (clientOf minSequences) now settings.callsign source
        settings.callsign settings.acarsAddress app ++ others).map wire := by
      simp only [received, message, Party.receive, handleIncomingMessage, if_neg silent,
        hook_acks settings minSequences now source app, logons, List.map_append]
    rw [whole]
    exact ⟨all, replies, rfl⟩

end Hook

theorem hook_metas (settings : ConnectionSettings) (source : String) (message : CpdlcMetaMessage) :
    ∃ replies : List OpenLinkMessage,
      handleMetaMessage settings source message = replies.map wire ∧
      ∀ reply ∈ replies, application (wire reply) = none := by
  cases message with
  | connectionRequest =>
      exact ⟨[OpenLinkClient.cpdlcConnectionResponse settings.callsign settings.acarsAddress source
        true], rfl, List.forall_mem_singleton.mpr rfl⟩
  | _ => exact ⟨[], rfl, List.forall_mem_nil _⟩

/-- Both clients reply to other messages with such messages only. -/
theorem receive_other (party : Party) (now : DateTime) (origin : OpenLinkMessage)
    (other : application (wire origin) = none) :
    let received := party.receive now (wire origin)
    (∃ replies : List OpenLinkMessage, received.1 = replies.map wire ∧
        ∀ reply ∈ replies, application (wire reply) = none) ∧
      received.2.callsign = party.callsign := by
  have readable := read_wire origin
  obtain ⟨⟨aircraft⟩, source, destination, app | message⟩ | message := origin
  · cases other
  · cases party with
    | gui setup tab client =>
        simp only [Party.receive, readable, guiReceive]
        exact ⟨⟨_, rfl, gui_metas client setup message _ _ tab⟩, rfl⟩
    | hook settings minSequences => exact ⟨hook_metas settings source message, rfl⟩
  · cases party with
    | gui setup tab client =>
        simp only [Party.receive, readable, guiReceive]
        exact ⟨⟨[], rfl, List.forall_mem_nil _⟩, trivial⟩
    | hook settings minSequences => exact ⟨⟨[], rfl, List.forall_mem_nil _⟩, rfl⟩

theorem receive_application (party : Party) (now : DateTime) (aircraft : AcarsRoutingEndpoint)
    (source destination : String) (app : CpdlcApplicationMessage)
    (foreign : source ≠ party.callsign) :
    let message := TsMessage.acars aircraft ⟨source, destination,
      .application (wireApplication app)⟩
    let received := party.receive now message
    acknowledged received.1 = owed message ∧
      (∀ reply ∈ received.1, Reply party.callsign source reply) ∧
      received.2.callsign = party.callsign := by
  cases party with
  | gui setup tab client =>
      exact gui_application client setup now tab aircraft source destination app foreign
  | hook settings minSequences =>
      exact hook_application settings minSequences now aircraft source destination app

end Replies

/-! The runs of the network. -/
section Runs
variable (callsign : Side → String)

def regular (message : TsMessage) : Prop :=
  (∃ origin, wire origin = message) ∧
    ∃ side : Side, between (callsign side) (callsign side.other) message = true

theorem call_callsign (party : Party) (helper : HelperCall) :
    (party.call helper).2.callsign = party.callsign := by
  cases party <;> rfl

theorem call_wired (party : Party) (helper : HelperCall) :
    ∃ origin, wire origin = (party.call helper).1 := by
  cases party with
  | gui setup tab client => exact ⟨(perform client helper).1, rfl⟩
  | hook settings minSequences =>
      exact ⟨_, (perform_alike (client_alike minSequences) helper).1⟩

theorem application_origin (different : callsign .first ≠ callsign .second) (side sender : Side)
    (source destination : String) (here : destination = callsign side)
    (directed : source = callsign sender ∧ destination = callsign sender.other) :
    source = callsign side.other ∧ source ≠ callsign side := by
  obtain ⟨rfl, rfl⟩ := directed
  have apart := different.symm
  cases side <;> cases sender <;> simp_all [Side.other]

theorem ack_protocol (different : callsign .first ≠ callsign .second) :
    Protocol (behaviour callsign) (fun side party => party.callsign = callsign side)
      (regular callsign)
      (fun delivery => acknowledged delivery.replies = owed delivery.message) where
  act side party action own := by
    cases action with
    | call helper =>
        simp only [behaviour, act]
        split
        · next directed =>
            exact ⟨List.forall_mem_singleton.mpr ⟨call_wired party helper, side, directed⟩,
              (call_callsign party helper).trans own⟩
        · exact ⟨List.forall_mem_nil _, own⟩
    | write aircraft message =>
        refine ⟨List.forall_mem_singleton.mpr ⟨⟨_, rfl⟩, side, ?_⟩, own⟩
        cases message with
        | application app =>
            simp [between, wire, wireCpdlc, cpdlc]
        | metaMessage message => rfl
  receive side party now message own arrived standing := by
    obtain ⟨⟨origin, rfl⟩, sender, directed⟩ := standing
    -- no acknowledgement is owed for anything but an application message of the peer
    by_cases other : application (wire origin) = none
    · obtain ⟨⟨replies, same, silent⟩, kept⟩ := receive_other party now origin other
      obtain ⟨counted, all⟩ := replies_joined [] replies rfl (List.forall_mem_nil _) silent
      have free : owed (wire origin) = [] := by rw [owed, other]
      simp only [behaviour, same, free]
      exact ⟨counted, fun reply member => ⟨(all reply member).wired, side, (all reply member).between⟩,
        kept.trans own⟩
    · obtain ⟨⟨aircraft⟩, source, destination, app | message⟩ | message := origin
      · simp only [wire, wireCpdlc, between, Bool.and_eq_true, beq_iff_eq] at directed
        have here : destination = callsign side := (beq_iff_eq.mp arrived).trans own
        obtain ⟨origin, foreign⟩ :=
          application_origin callsign different side sender source destination here directed
        obtain ⟨counted, all, kept⟩ :=
          receive_application party now aircraft source destination app (own ▸ foreign)
        refine ⟨counted, fun reply member => ⟨(all reply member).wired, side, ?_⟩, kept.trans own⟩
        rw [← own, ← origin]
        exact (all reply member).between
      · exact absurd rfl other
      · exact absurd rfl other

theorem acks_counted (delivery : Delivery TsMessage)
    (answered : acknowledged delivery.replies = owed delivery.message) :
    delivery.replies.countP isAck ≤ if isPlain delivery.message then 1 else 0 := by
  have counted : delivery.replies.countP isAck = (owed delivery.message).length := by
    rw [← answered, acknowledged, List.length_map, List.countP_eq_length_filter]
  rw [counted, owed, isPlain]
  cases application delivery.message with
  | none => simp
  | some app =>
      cases acks : messageContainsLogicalAck app.elements with
      | true => simp [acks]
      | false =>
          simp only [acks, Option.any_some, Bool.not_false]
          split <;> simp

/-- In every run each delivery is acknowledged as it is owed, so the acknowledgements never
outnumber the messages without one that were delivered. -/
theorem no_ack_storm (parties : Side → Party)
    (different : (parties .first).callsign ≠ (parties .second).callsign)
    (events : List (Event Side UserAction DateTime TsMessage)) :
    let network := exec (step (behaviour fun side => (parties side).callsign)) (start parties) events
    (∀ delivery ∈ network.deliveries, acknowledged delivery.replies = owed delivery.message) ∧
      (network.deliveries.flatMap Delivery.replies).countP isAck ≤
        (network.deliveries.map Delivery.message).countP isPlain := by
  intro network
  have kept := kept_run (ack_protocol (fun side => (parties side).callsign) different) parties
    (fun _ => rfl) events
  exact ⟨kept.deliveries, replies_bounded isAck isPlain network.deliveries
    fun delivery member => acks_counted delivery (kept.deliveries delivery member)⟩

/-- A station asks an aircraft for something, and is acknowledged. -/
theorem no_ack_storm_question :
    let parties : Side → Party := fun side =>
      match side with
      | .first => .gui ⟨"LFFF", "LFFFA", .atc⟩ (.new ⟨"LFFF", "LFFFA", .atc⟩)
          ⟨"demonetwork", "1", fun _ => none⟩
      | .second => .hook ⟨"AFR123", "39401A"⟩ fun _ => none
    let question := HelperCall.stationApplication "LFFF" "AFR123" "39401A" [⟨"UM133", []⟩] none 0
    let network := exec (step (behaviour fun side => (parties side).callsign)) (start parties)
      [.act .first (.call question), .deliver .second ((parties .first).call question).1 1]
    network.deliveries.map Delivery.message = [((parties .first).call question).1] ∧
      network.deliveries.map (fun delivery => acknowledged delivery.replies) = [[some 1]] ∧
      ∀ delivery ∈ network.deliveries, acknowledged delivery.replies = owed delivery.message :=
  ⟨rfl, rfl, (no_ack_storm _ (by decide) _).1⟩

end Runs

end OpenLink.Acknowledgements
