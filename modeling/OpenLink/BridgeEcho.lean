import OpenLink.BridgeEffects
import OpenLink.BridgeRouting

/-!
What comes back to the bridge from the server. The bridge knows its own messages
by their source address; the server puts the original destination in its place
when it forwards, and that is the server itself for whatever the bridge sends.
-/
namespace OpenLink.BridgeEcho
open Actions Bridge BridgeEffects BridgeRouting Cpdlc CpdlcServer Envelope HoppieSession
  MessageBuilder Registry Runs SdkClient Server Translator

/-- The bridge takes the envelope for its own and passes nothing on to Hoppie. -/
def Suppressed (config : BridgeConfig) (bridge : BridgeState) (now : DateTime)
    (envelope : OpenLinkEnvelope) : Prop :=
  isOwnMessage bridge.client envelope = true ∧
    (step config bridge (.received now envelope)).sent = bridge.sent

section Sources
variable (serverConfig : ServerConfig) (server : OpenLinkServer)

def forwarded (envelope : OpenLinkEnvelope) : Option (NetworkAddress × OpenLinkEnvelope) :=
  match envelope.payload with
  | .metaMessage _ => none
  | .acars acars =>
      match (runOn (handleAcarsMessage serverConfig acars envelope) server).1 with
      | .ok (some entry, _, forwardEnvelope) =>
          some (entry.networkAddress, transferred serverConfig envelope forwardEnvelope entry)
      | _ => none

theorem forwarded_routing {envelope back : OpenLinkEnvelope} {address : NetworkAddress}
    (returned : forwarded serverConfig server envelope = some (address, back)) :
    back.routing = ⟨envelope.routing.destination, .address serverConfig.networkId address⟩ := by
  unfold forwarded at returned
  split at returned
  · contradiction
  · split at returned
    · cases returned
      rfl
    · contradiction

/-- An envelope that was forwarded is taken for the bridge's own by its destination. -/
theorem own_forwarded_iff (client : OpenLinkClient) {envelope back : OpenLinkEnvelope}
    {address : NetworkAddress}
    (returned : forwarded serverConfig server envelope = some (address, back)) :
    isOwnMessage client back = true ↔
      ∃ network, envelope.routing.destination = .address network client.cid := by
  unfold isOwnMessage
  rw [forwarded_routing serverConfig server returned]
  cases envelope.routing.destination with
  | server network => simp
  | address network destination => simp

end Sources

section Echo
variable (serverConfig : ServerConfig) (config : BridgeConfig)

/-- All that a bridge has published since its start goes to the server. -/
theorem published_outbound (start : BridgeState) (fresh : start.published = [])
    (events : List BridgeEvent) :
    ∀ envelope ∈ (exec (step config) start events).published,
      envelope.routing = outbound start.client := by
  obtain ⟨added, grown, routed⟩ := (effect_run config start events).published
  rw [grown, fresh, List.nil_append]
  exact routed

/-- The bridge never recognises an envelope of its own that the server forwards to it, and
takes another client's for its own exactly when that is addressed to the bridge itself. -/
theorem echo_suppression (start : BridgeState) (fresh : start.published = [])
    (events : List BridgeEvent) (server : OpenLinkServer) (now : DateTime)
    (envelope back : OpenLinkEnvelope)
    (returned : forwarded serverConfig server envelope = some (start.client.cid, back)) :
    let bridge := exec (step config) start events
    (envelope ∈ bridge.published → ¬ Suppressed config bridge now back) ∧
    (envelope ∉ bridge.published →
      (isOwnMessage bridge.client back = false ↔
        ∀ network, envelope.routing.destination ≠ .address network start.client.cid)) := by
  intro bridge
  have own := own_forwarded_iff serverConfig server bridge.client returned
  have cid : bridge.client.cid = start.client.cid := (effect_run config start events).cid
  rw [cid] at own
  constructor
  · rintro published ⟨recognised, _⟩
    obtain ⟨network, addressed⟩ := own.mp recognised
    rw [published_outbound config start fresh events envelope published] at addressed
    exact OpenLinkRoutingEndpoint.noConfusion addressed
  · intro _
    rw [← Bool.not_eq_true, own, not_exists]

theorem echo_relayed (start : BridgeState) (fresh : start.published = [])
    (events : List BridgeEvent) (server : OpenLinkServer) (now : DateTime)
    (envelope back : OpenLinkEnvelope)
    (returned : forwarded serverConfig server envelope = some (start.client.cid, back))
    (published : envelope ∈ (exec (step config) start events).published)
    {routing : AcarsRouting} {source destination : AcarsEndpointCallsign}
    {message : CpdlcApplicationMessage}
    (payload : back.payload = .acars ⟨routing, .cpdlc ⟨source, destination, .application message⟩⟩) :
    let bridge := exec (step config) start events
    (step config bridge (.received now back)).sent =
      if config.mode ≠ .ground ∧ bridge.tracker.isOpenlinkSeen back.id = false then
        bridge.sent ++ [⟨source, destination, packetOf message⟩]
      else bridge.sent := by
  intro bridge
  have foreign : isOwnMessage bridge.client back = false := by
    rw [← Bool.not_eq_true, own_forwarded_iff serverConfig server bridge.client returned,
      published_outbound config start fresh events envelope published]
    simp [outbound]
  by_cases mode : config.mode = .ground
  · simp [step, stepUnder, mode]
  · have sends := run_application config now payload bridge
    simp only [step, stepUnder, if_neg mode, sends]
    simp [accepted, foreign, mode]

end Echo

/-! A Hoppie pilot logs on to a station whose callsign leads to the bridge. -/
section Sample

def echoServer : OpenLinkServer where
  sessions := .empty
  stationRegistry := recorded Session.asciiUppercase .empty
    ⟨"station", .online, 0, "bridge", ⟨"LFPG", "LFPG"⟩⟩
  issued := 0
  sent := []

def relayedLogon : OpenLinkEnvelope :=
  sampleStart.client.toServer "1" 0
    (cpdlc "AFR123" "AFR123" "AFR123" "LFPG" (logonRequest "LFPG" "ZZZZ" "ZZZZ"))

def returnedLogon : OpenLinkEnvelope :=
  { relayedLogon with routing := ⟨.server "vatsim", .address "vatsim" "bridge"⟩ }

theorem logon_returned :
    forwarded sampleServerConfig echoServer relayedLogon = some ("bridge", returnedLogon) := by
  decide

theorem logon_published :
    relayedLogon ∈ (exec (step sampleConfig) sampleStart [logonEvent "AFR123"]).published := by
  decide +kernel

theorem echo_suppression_logon :
    ¬ Suppressed sampleConfig (exec (step sampleConfig) sampleStart [logonEvent "AFR123"]) 1
      returnedLogon :=
  (echo_suppression sampleServerConfig sampleConfig sampleStart rfl [logonEvent "AFR123"] echoServer
    1 relayedLogon returnedLogon logon_returned).1 logon_published

/-- The bridge's own logon request comes back, and the bridge takes it for another's. -/
theorem logon_not_recognised :
    relayedLogon ∈ (exec (step sampleConfig) sampleStart [logonEvent "AFR123"]).published ∧
      forwarded sampleServerConfig echoServer relayedLogon = some ("bridge", returnedLogon) ∧
      isOwnMessage (exec (step sampleConfig) sampleStart [logonEvent "AFR123"]).client
        returnedLogon = false :=
  ⟨logon_published, logon_returned, by decide +kernel⟩

end Sample

end OpenLink.BridgeEcho
