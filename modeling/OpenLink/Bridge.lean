import OpenLink.Actions
import OpenLink.Runs
import OpenLink.SdkClient
import OpenLink.Session
import OpenLink.Translator

/-!
The bridge between the two networks. It polls Hoppie under its own callsigns and
relays what it finds to the server, and relays what its inbox holds to Hoppie.
What it publishes and sends is collected in order. The server may be out of reach
of a publication; what is sent to Hoppie is taken to arrive.
-/
namespace OpenLink.Bridge
open Actions Cpdlc Envelope HoppieClient HoppieSession MessageBuilder Runs SdkClient Texts
  Translator

inductive BridgeMode where
  | ground
  | aircraft
  | full
  deriving DecidableEq

/-- What stays fixed while the bridge runs; the hash of a Hoppie message is that of
the standard library. -/
structure BridgeConfig where
  mode : BridgeMode
  callsigns : List String
  toUppercase : String → String
  newUuid : Nat → Uuid
  hoppieMessageHash : String → Text → UInt64

structure HoppieSend where
  sender : String
  receiver : String
  packet : Text
  deriving DecidableEq

structure BridgeState where
  client : OpenLinkClient
  tracker : SessionTracker
  issued : Nat
  published : List OpenLinkEnvelope
  sent : List HoppieSend

abbrev Handler := Action BridgeState

/-- The publications that fail, by the numbers the bridge gives them. -/
abbrev Outage := Nat → Bool

def noOutage : Outage := fun _ => false

section Handlers
variable (outage : Outage) (config : BridgeConfig) (now : DateTime)

def bridgeCallsigns : List String := config.callsigns.map config.toUppercase

def sendToServer (message : OpenLinkMessage) : Handler Unit :=
  modify fun bridge =>
    { bridge with
      issued := bridge.issued + 1
      published := bridge.published ++
        [bridge.client.toServer (config.newUuid bridge.issued) now message] }

def sendCpdlc (sender receiver : String) (packet : Text) : Handler Unit :=
  modify fun bridge => { bridge with sent := bridge.sent ++ [⟨sender, receiver, packet⟩] }

def sendToServerUnder (context : String) (message : OpenLinkMessage) : Handler Unit := do
  let bridge ← get
  if outage bridge.issued then
    set { bridge with issued := bridge.issued + 1 }
    throw context
  else sendToServer config now message

def relayLogonUnder (aircraft station : String) : Handler Unit := do
  let cid := (← get).client.cid
  sendToServerUnder outage config now "failed to register Hoppie aircraft on OpenLink"
    (stationStatus cid aircraft aircraft .online)
  let bridge ← get
  let (message, client) := bridge.client.cpdlcLogonRequest aircraft aircraft station
  set { bridge with client := client }
  sendToServerUnder outage config now "failed to relay logon request to OpenLink" message

def translated (tracker : SessionTracker) (key : SessionKey) (message : CpdlcApplicationMessage) :
    CpdlcApplicationMessage :=
  { message with
    mrn := message.mrn.map fun mrn => (tracker.translateHoppieMrn key mrn).getD mrn }

def relayApplicationUnder (aircraft station : String) (packet : Text) : Handler Unit := do
  let key := SessionKey.new config.toUppercase aircraft station
  let bridge ← get
  let (bridgeMin, tracker) := bridge.tracker.nextMin key
  set { bridge with tracker := tracker }
  let relayed ← lift (hoppieToOpenlink now aircraft station packet bridgeMin .downlink)
  let message ←
    match relayed.message with
    | .application message => do
        modify fun bridge =>
          { bridge with tracker := bridge.tracker.recordHoppieMin key bridgeMin bridgeMin }
        pure (.application (translated tracker key message))
    | .metaMessage message => pure (.metaMessage message)
  sendToServerUnder outage config now "failed to send to OpenLink"
    (cpdlc aircraft aircraft relayed.source relayed.destination message)

def handleHoppieMessageUnder (polledAs : String) (message : HoppieMessage) : Handler Unit := do
  if message.msgType ≠ .cpdlc then return ()
  else
    let hash := config.hoppieMessageHash message.sender message.packet
    let bridge ← get
    if bridge.tracker.isHoppieSeen hash then return ()
    else
      set { bridge with tracker := bridge.tracker.markHoppieSeen hash }
      -- what the bridge itself has sent comes back under its own callsigns
      if config.toUppercase message.sender ∈ bridgeCallsigns config then return ()
      else
        match parseCpdlcPacket message.packet with
        | none => throw "failed to parse CPDLC packet"
        | some packet =>
            if isLogonBody config.toUppercase packet.body then
              relayLogonUnder outage config now message.sender polledAs
            else relayApplicationUnder outage config now message.sender polledAs message.packet

/-- A logon response connects the aircraft at once and is passed on as text. -/
def handleOpenlinkMetaUnder (message : CpdlcMetaMessage) (source dest : String) : Handler Unit := do
  match message with
  | .logonResponse accepted =>
      if accepted then
        -- Hoppie knows no connection request, so the bridge plays both parts of it
        let bridge ← get
        let (request, client) := bridge.client.cpdlcConnectionRequest source dest dest
        set { bridge with client := client }
        sendToServerUnder outage config now "auto-connect: connection request" request
        sendToServerUnder outage config now "auto-connect: connection response"
          (OpenLinkClient.cpdlcConnectionResponse dest dest source true)
      let body := if accepted then "LOGON ACCEPTED" else "LOGON REJECTED"
      sendCpdlc source dest (formatCpdlcPacket "1".toList none "N".toList body.toList)
  | _ => return ()

def determineAircraftStation (source dest : String) : String × String :=
  if dest ∈ bridgeCallsigns config then (source, dest) else (dest, source)

def isOwnMessage (client : OpenLinkClient) (envelope : OpenLinkEnvelope) : Bool :=
  match envelope.routing.source with
  | .address _ address => address == client.cid
  | .server _ => false

def relayToHoppie (envelope : CpdlcEnvelope) (source dest : String) : Handler Unit := do
  match openlinkToHoppie envelope with
  | none => return ()
  | some out =>
      match envelope.message with
      | .application message =>
          let (aircraft, station) := determineAircraftStation config source dest
          let key := SessionKey.new config.toUppercase aircraft station
          modify fun bridge =>
            { bridge with tracker := bridge.tracker.recordOpenlinkMin key message.min message.min }
      | .metaMessage _ => pure ()
      sendCpdlc out.sender out.peer out.packet

def handleOpenlinkMessageUnder (envelope : OpenLinkEnvelope) : Handler Unit := do
  let bridge ← get
  if bridge.tracker.isOpenlinkSeen envelope.id then return ()
  else
    set { bridge with tracker := bridge.tracker.markOpenlinkSeen envelope.id }
    match envelope.payload with
    | .metaMessage _ => return ()
    | .acars ⟨_, .cpdlc relayed⟩ =>
        let dest := config.toUppercase relayed.destination
        let source := config.toUppercase relayed.source
        if isOwnMessage bridge.client envelope then return ()
        else
          match relayed.message with
          | .metaMessage message =>
              handleOpenlinkMetaUnder outage config now message source dest
          | .application _ => relayToHoppie config relayed source dest

/-! The handlers of a bridge that always reaches the server. -/

abbrev relayLogon := relayLogonUnder noOutage

abbrev relayApplication := relayApplicationUnder noOutage

abbrev handleHoppieMessage := handleHoppieMessageUnder noOutage

abbrev handleOpenlinkMeta := handleOpenlinkMetaUnder noOutage

abbrev handleOpenlinkMessage := handleOpenlinkMessageUnder noOutage

@[simp] theorem send_undisturbed (context : String) (message : OpenLinkMessage) :
    sendToServerUnder noOutage config now context message = sendToServer config now message := by
  funext bridge
  rfl

end Handlers

/-- What the main loop reacts to. A poll is one event for each message it finds. -/
inductive BridgeEvent where
  | polled (now : DateTime) (polledAs : String) (message : HoppieMessage)
  | received (now : DateTime) (envelope : OpenLinkEnvelope)

/-- A handler that fails is logged; what it changed before stays changed. -/
def stepUnder (outage : Outage) (config : BridgeConfig) (bridge : BridgeState) :
    BridgeEvent → BridgeState
  | .polled now polledAs message =>
      if config.mode = .aircraft then bridge
      else (runOn (handleHoppieMessageUnder outage config now polledAs message) bridge).2
  | .received now envelope =>
      if config.mode = .ground then bridge
      else (runOn (handleOpenlinkMessageUnder outage config now envelope) bridge).2

def step (config : BridgeConfig) (bridge : BridgeState) (event : BridgeEvent) : BridgeState :=
  stepUnder noOutage config bridge event

/-! What one Hoppie message leads to. -/
section HoppieSide
variable (outage : Outage) (config : BridgeConfig) (now : DateTime)

/-- The message is news to the bridge, comes from outside, and holds this packet. -/
structure Relayable (bridge : BridgeState) (message : HoppieMessage)
    (packet : HoppieCpdlcPacket) : Prop where
  cpdlc : message.msgType = .cpdlc
  fresh : bridge.tracker.isHoppieSeen
    (config.hoppieMessageHash message.sender message.packet) = false
  foreign : config.toUppercase message.sender ∉ bridgeCallsigns config
  parsed : parseCpdlcPacket message.packet = some packet

def marked (bridge : BridgeState) (message : HoppieMessage) : BridgeState :=
  { bridge with
    tracker := bridge.tracker.markHoppieSeen
      (config.hoppieMessageHash message.sender message.packet) }

def publish (bridge : BridgeState) (message : OpenLinkMessage) : BridgeState :=
  { bridge with
    issued := bridge.issued + 1
    published := bridge.published ++
      [bridge.client.toServer (config.newUuid bridge.issued) now message] }

theorem run_send_under (context : String) (message : OpenLinkMessage) (bridge : BridgeState) :
    runOn (sendToServerUnder outage config now context message) bridge =
      if outage bridge.issued then (.error context, { bridge with issued := bridge.issued + 1 })
      else (.ok (), publish config now bridge message) := by
  rw [sendToServerUnder, run_bind, run_get]
  dsimp only
  split <;> rfl

theorem handle_relayable {bridge : BridgeState} {message : HoppieMessage}
    {packet : HoppieCpdlcPacket} (relayable : Relayable config bridge message packet)
    (polledAs : String) :
    runOn (handleHoppieMessageUnder outage config now polledAs message) bridge =
      runOn (if isLogonBody config.toUppercase packet.body then
          relayLogonUnder outage config now message.sender polledAs
        else relayApplicationUnder outage config now message.sender polledAs message.packet)
        (marked config bridge message) := by
  obtain ⟨cpdlc, fresh, foreign, parsed⟩ := relayable
  simp [handleHoppieMessageUnder, cpdlc, run_bind, fresh, foreign, parsed, marked]

/-- A message that is not relayed leaves no trace outside the seen hashes. -/
theorem relayed_or_ignored (bridge : BridgeState) (polledAs : String) (message : HoppieMessage) :
    (∃ packet, Relayable config bridge message packet) ∨
      (runOn (handleHoppieMessageUnder outage config now polledAs message) bridge).2 = bridge ∨
      (runOn (handleHoppieMessageUnder outage config now polledAs message) bridge).2 =
        marked config bridge message := by
  by_cases cpdlc : message.msgType = .cpdlc
  · cases fresh : bridge.tracker.isHoppieSeen
        (config.hoppieMessageHash message.sender message.packet) with
    | true =>
        right; left
        simp [handleHoppieMessageUnder, cpdlc, run_bind, fresh]
    | false =>
        by_cases foreign : config.toUppercase message.sender ∈ bridgeCallsigns config
        · right; right
          simp [handleHoppieMessageUnder, cpdlc, run_bind, fresh, foreign, marked]
        · cases parsed : parseCpdlcPacket message.packet with
          | none =>
              right; right
              simp [handleHoppieMessageUnder, cpdlc, run_bind, fresh, foreign, parsed, marked]
          | some packet => exact .inl ⟨packet, cpdlc, fresh, foreign, parsed⟩
  · right; left
    simp [handleHoppieMessageUnder, cpdlc]

theorem run_relay_logon (aircraft station : String) (bridge : BridgeState) :
    (runOn (relayLogon config now aircraft station) bridge).2 =
      publish config now
        { publish config now bridge (stationStatus bridge.client.cid aircraft aircraft .online) with
          client := bridge.client.resetMinForSession aircraft station }
        (cpdlc aircraft aircraft aircraft station (logonRequest station "ZZZZ" "ZZZZ")) := by
  simp [relayLogonUnder, sendToServer, run_bind, publish, OpenLinkClient.cpdlcLogonRequest]

def relayedMessage (bridge : BridgeState) (key : SessionKey) (packet : HoppieCpdlcPacket) :
    CpdlcApplicationMessage :=
  let (msgId, args) := matchBodyToElement packet.body .downlink
  translated (bridge.tracker.nextMin key).2 key
    ⟨(bridge.tracker.nextMin key).1, (packet.mrn.bind (parseDecimal 255)).map UInt8.ofNat,
      [⟨msgId, args⟩], now⟩

theorem relayed_message_min (bridge : BridgeState) (key : SessionKey)
    (packet : HoppieCpdlcPacket) :
    (relayedMessage now bridge key packet).min = (bridge.tracker.nextMin key).1 := rfl

theorem run_relay_application (aircraft station : String) (bridge : BridgeState) {text : Text}
    {packet : HoppieCpdlcPacket} (parsed : parseCpdlcPacket text = some packet) :
    (runOn (relayApplication config now aircraft station text) bridge).2 =
      let key := SessionKey.new config.toUppercase aircraft station
      let (bridgeMin, tracker) := bridge.tracker.nextMin key
      publish config now
        { bridge with tracker := tracker.recordHoppieMin key bridgeMin bridgeMin }
        (cpdlc aircraft aircraft aircraft station
          (.application (relayedMessage now bridge key packet))) := by
  simp [relayApplicationUnder, sendToServer, run_bind, publish, hoppieToOpenlink, parsed,
    relayedMessage]

end HoppieSide

/-! What one message of the inbox leads to. -/
section InboxSide
variable (config : BridgeConfig) (now : DateTime)

def accepted (bridge : BridgeState) (envelope : OpenLinkEnvelope) : Bool :=
  !bridge.tracker.isOpenlinkSeen envelope.id && !isOwnMessage bridge.client envelope

/-- What is polled on Hoppie does not change what the bridge takes from its inbox. -/
theorem polled_accepts (bridge : BridgeState) (polledAs : String) (message : HoppieMessage)
    (envelope : OpenLinkEnvelope) :
    accepted (step config bridge (.polled now polledAs message)) envelope =
      accepted bridge envelope := by
  by_cases mode : config.mode = .aircraft
  · simp [step, stepUnder, mode]
  · rw [step, stepUnder, if_neg mode]
    rcases relayed_or_ignored noOutage config now bridge polledAs message with
      ⟨packet, relayable⟩ | same | same
    · rw [handle_relayable noOutage config now relayable]
      split
      · rw [run_relay_logon]
        rfl
      · rw [run_relay_application config now _ _ _ relayable.parsed]
        rfl
    · rw [same]
    · rw [same]
      rfl

/-- An application message goes out under its own MIN and MRN, once. -/
theorem run_application {envelope : OpenLinkEnvelope} {routing : AcarsRouting}
    {source destination : AcarsEndpointCallsign} {message : CpdlcApplicationMessage}
    (payload : envelope.payload =
      .acars ⟨routing, .cpdlc ⟨source, destination, .application message⟩⟩)
    (bridge : BridgeState) :
    (runOn (handleOpenlinkMessage config now envelope) bridge).2.sent =
      if accepted bridge envelope then
        bridge.sent ++ [⟨source, destination, packetOf message⟩]
      else bridge.sent := by
  cases seen : bridge.tracker.isOpenlinkSeen envelope.id with
  | true => simp [handleOpenlinkMessageUnder, run_bind, accepted, seen]
  | false =>
      cases own : isOwnMessage bridge.client envelope with
      | true => simp [handleOpenlinkMessageUnder, run_bind, accepted, seen, own, payload]
      | false =>
          simp [handleOpenlinkMessageUnder, run_bind, accepted, seen, own, payload, relayToHoppie,
            openlinkToHoppie, sendCpdlc]

end InboxSide

/-! A bridge that has just started, for runs on fixed messages. -/
section Sample

def sampleConfig : BridgeConfig where
  mode := .full
  callsigns := ["LFPG"]
  toUppercase := Session.asciiUppercase
  newUuid := Nat.repr
  hoppieMessageHash := fun sender packet =>
    (sender.toList ++ packet).foldl (fun hash char => hash * 31 + char.toNat.toUInt64) 0

def sampleStart : BridgeState where
  client := ⟨"vatsim", "bridge", fun _ => none⟩
  tracker := .empty
  issued := 0
  published := []
  sent := []

end Sample

end OpenLink.Bridge
