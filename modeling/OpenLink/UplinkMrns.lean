import OpenLink.BridgeEffects
import OpenLink.BridgeReplies

/-!
The MRN of what a pilot sends through the bridge. It is looked up in a map that the
bridge fills with its own MINs of the other direction; the map is an identity as far
as it goes, so the lookup changes nothing.
-/
namespace OpenLink.UplinkMrns
open Actions Bridge BridgeEffects BridgeReplies Cpdlc Envelope HoppieClient HoppieSession
  MessageBuilder Runs Texts Translator

def mrnOf (packet : HoppieCpdlcPacket) : Option UInt8 :=
  (packet.mrn.bind (parseDecimal 255)).map UInt8.ofNat

/-- The tracker maps no MIN to a different one. -/
def Transparent (tracker : SessionTracker) : Prop :=
  ∀ key hoppieMin bridgeMin, tracker.translateHoppieMrn key hoppieMin = some bridgeMin →
    bridgeMin = hoppieMin

theorem transparent_effect {before after : BridgeState} (effect : Effect before after)
    (transparent : Transparent before.tracker) : Transparent after.tracker := by
  intro key hoppieMin bridgeMin known
  rcases effect.mapped key hoppieMin bridgeMin known with earlier | same
  · exact transparent key hoppieMin bridgeMin earlier
  · exact same

theorem translated_mrn {tracker : SessionTracker} (transparent : Transparent tracker)
    (key : SessionKey) (message : CpdlcApplicationMessage) :
    (translated tracker key message).mrn = message.mrn := by
  cases mrn : message.mrn with
  | none => simp [translated, mrn]
  | some value =>
      simp only [translated, mrn, Option.map_some]
      cases known : tracker.translateHoppieMrn key value with
      | none => rfl
      | some bridgeMin => rw [transparent key value bridgeMin known, Option.getD_some]

section Relays
variable (config : BridgeConfig) (now : DateTime)

theorem relayed_message_mrn {bridge : BridgeState} (transparent : Transparent bridge.tracker)
    (key : SessionKey) (packet : HoppieCpdlcPacket) :
    (relayedMessage now bridge key packet).mrn = mrnOf packet :=
  @translated_mrn (bridge.tracker.nextMin key).2 transparent key _

/-- Of what the bridge publishes for one poll, an application message is the relayed packet. -/
theorem polled_publishes (bridge : BridgeState) (polledAs : String) (message : HoppieMessage) :
    ∃ added, (step config bridge (.polled now polledAs message)).published =
        bridge.published ++ added ∧
      ∀ envelope ∈ added, ∀ routing source destination application,
        envelope.payload =
            .acars ⟨routing, .cpdlc ⟨source, destination, .application application⟩⟩ →
        ∃ packet, parseCpdlcPacket message.packet = some packet ∧
          application = relayedMessage now (marked config bridge message)
            (SessionKey.new config.toUppercase message.sender polledAs) packet := by
  by_cases mode : config.mode = .aircraft
  · exact ⟨[], by simp [step, stepUnder, mode], by simp⟩
  · rw [step, stepUnder, if_neg mode]
    rcases relayed_or_ignored noOutage config now bridge polledAs message with
      ⟨packet, relayable⟩ | same | same
    · rw [handle_relayable noOutage config now relayable]
      split
      -- a logon is a status and a logon request
      · rw [run_relay_logon]
        refine ⟨_, List.append_assoc _ _ _, ?_⟩
        rintro envelope (_ | ⟨_, _ | ⟨_, ⟨⟩⟩⟩) routing source destination application payload
        · exact OpenLinkMessage.noConfusion payload
        · cases payload
      · rw [run_relay_application config now _ _ _ relayable.parsed]
        refine ⟨_, rfl, ?_⟩
        intro envelope member routing source destination application payload
        obtain rfl := List.mem_singleton.mp member
        cases payload
        exact ⟨packet, relayable.parsed, rfl⟩
    · exact ⟨[], by simp [same], by simp⟩
    · exact ⟨[], by simp [same, marked], by simp⟩

theorem relayable_publishes {bridge : BridgeState} {message : HoppieMessage}
    {packet : HoppieCpdlcPacket} (mode : config.mode ≠ .aircraft)
    (relayable : Relayable config bridge message packet)
    (text : isLogonBody config.toUppercase packet.body = false) (polledAs : String) :
    ∃ envelope routing application,
      (step config bridge (.polled now polledAs message)).published =
          bridge.published ++ [envelope] ∧
        envelope.payload =
          .acars ⟨routing, .cpdlc ⟨message.sender, polledAs, .application application⟩⟩ := by
  rw [step, stepUnder, if_neg mode, handle_relayable noOutage config now relayable, text,
    if_neg (by simp), run_relay_application config now _ _ _ relayable.parsed]
  exact ⟨_, _, _, rfl, rfl⟩

end Relays

section Correlation
variable (config : BridgeConfig)

def PassesOn (bridge : BridgeState) (now : DateTime) (uplink : OpenLinkEnvelope)
    (message : CpdlcApplicationMessage) (carried : HoppieCpdlcPacket) : Prop :=
  ∃ routing source destination text,
    uplink.payload = .acars ⟨routing, .cpdlc ⟨source, destination, .application message⟩⟩ ∧
      (step config bridge (.received now uplink)).sent =
        bridge.sent ++ [⟨source, destination, text⟩] ∧
      parseCpdlcPacket text = some carried

/-- The MIN field of a packet that the bridge has sent reads as the MIN of the uplink. -/
theorem passed_on_min {bridge : BridgeState} {now : DateTime} {uplink : OpenLinkEnvelope}
    {message : CpdlcApplicationMessage} {carried : HoppieCpdlcPacket}
    (passed : PassesOn config bridge now uplink message carried) :
    parseDecimal 255 carried.min = some message.min.toNat := by
  obtain ⟨routing, source, destination, text, payload, grown, parsed⟩ := passed
  by_cases mode : config.mode = .ground
  · simp [step, stepUnder, mode] at grown
  · have sends := run_application config now payload bridge
    rw [step, stepUnder, if_neg mode, sends] at grown
    split at grown
    · have same := List.append_cancel_left grown
      simp only [List.cons.injEq, HoppieSend.mk.injEq, and_true, true_and] at same
      rw [← same, parse_packet_of] at parsed
      cases parsed
      exact parse_decimal (Nat.le_of_lt_succ message.min.toNat_lt)
    · simp at grown

/-- In every run from an empty tracker, a packet is relayed with the MRN that its field
holds, and none if it holds none; a packet that answers a relayed uplink by the MIN field
which that had on Hoppie is relayed with the uplink's own MIN. -/
theorem uplink_mrn (start : BridgeState) (empty : start.tracker = .empty)
    (events : List BridgeEvent) (now : DateTime) (polledAs : String) (message : HoppieMessage)
    (packet : HoppieCpdlcPacket) (parsed : parseCpdlcPacket message.packet = some packet) :
    let bridge := exec (step config) start events
    let after := step config bridge (.polled now polledAs message)
    (∃ added, after.published = bridge.published ++ added ∧
      (∀ envelope ∈ added, ∀ routing source destination application,
        envelope.payload =
            .acars ⟨routing, .cpdlc ⟨source, destination, .application application⟩⟩ →
        application.mrn = mrnOf packet) ∧
      (config.mode ≠ .aircraft → Relayable config bridge message packet →
        isLogonBody config.toUppercase packet.body = false →
        ∃ envelope routing application, added = [envelope] ∧ envelope.payload =
          .acars ⟨routing, .cpdlc ⟨message.sender, polledAs, .application application⟩⟩)) ∧
    ∀ before sentAt uplink application carried,
      before ++ [.received sentAt uplink] <+: events →
      PassesOn config (exec (step config) start before) sentAt uplink application carried →
      packet.mrn = some carried.min → mrnOf packet = some application.min := by
  intro bridge after
  -- whatever a run enters into the table of MINs maps a MIN to itself
  have transparent : Transparent bridge.tracker := by
    apply transparent_effect (effect_run config start events)
    rw [empty]
    rintro key hoppieMin bridgeMin ⟨⟩
  constructor
  · obtain ⟨added, grown, relays⟩ := polled_publishes config now bridge polledAs message
    refine ⟨added, grown, ?_, ?_⟩
    · intro envelope member routing source destination application payload
      obtain ⟨read, same, rfl⟩ := relays envelope member routing source destination application
        payload
      obtain rfl := Option.some.inj (same.symm.trans parsed)
      exact @relayed_message_mrn now (marked config bridge message) transparent _ read
    · intro mode relayable text
      obtain ⟨envelope, routing, application, published, payload⟩ :=
        relayable_publishes config now mode relayable text polledAs
      rw [grown] at published
      exact ⟨envelope, routing, application, List.append_cancel_left published, payload⟩
  · intro before sentAt uplink application carried _ passed answers
    rw [mrnOf, answers, Option.bind_some, passed_on_min config passed, Option.map_some,
      UInt8.ofNat_toNat]

end Correlation

/-! The controller's message with the MIN 4, and the pilot's answer to it. -/
section Sample

def pilotAnswer : HoppieMessage :=
  ⟨"AFR123", .cpdlc, formatCpdlcPacket "1".toList (some "4".toList) "N".toList "WILCO".toList⟩

def answerPacket : HoppieCpdlcPacket :=
  ⟨"1".toList, some "4".toList, "N".toList, trimEnd "WILCO".toList⟩

def climbMessage : CpdlcApplicationMessage := ⟨4, some 1, [⟨"UM20", [.level ⟨350⟩]⟩], 0⟩

theorem answer_passed_on :
    ∃ message carried, message.min = 4 ∧ carried.min = "4".toList ∧
      PassesOn sampleConfig sampleStart 0 controllerAnswer message carried := by
  have read := parse_packet_of climbMessage
  refine ⟨climbMessage, _, rfl, ?_, _, _, _, _, rfl, ?_, read⟩
  · decide +kernel
  · rw [step, stepUnder, if_neg (by decide), run_application sampleConfig 0 rfl sampleStart]
    exact if_pos (by decide)

theorem uplink_mrn_answer :
    ∃ added, (step sampleConfig (exec (step sampleConfig) sampleStart
          [.received 0 controllerAnswer]) (.polled 1 "LFPG" pilotAnswer)).published =
        (exec (step sampleConfig) sampleStart [.received 0 controllerAnswer]).published ++ added ∧
      ∀ envelope ∈ added, ∀ routing source destination application,
        envelope.payload =
            .acars ⟨routing, .cpdlc ⟨source, destination, .application application⟩⟩ →
        application.mrn = some 4 := by
  have parsed : parseCpdlcPacket pilotAnswer.packet = some answerPacket :=
    parse_formatted _ (by simp) (by simp) (by simp)
  obtain ⟨⟨added, grown, relayed, _⟩, answers⟩ := uplink_mrn sampleConfig sampleStart rfl
    [.received 0 controllerAnswer] 1 "LFPG" pilotAnswer answerPacket parsed
  obtain ⟨message, carried, min, field, passed⟩ := answer_passed_on
  have mrn : mrnOf answerPacket = some message.min :=
    answers [] 0 controllerAnswer message carried (List.prefix_refl _) passed (by rw [field]; rfl)
  rw [mrn, min] at relayed
  exact ⟨added, grown, relayed⟩

end Sample

end OpenLink.UplinkMrns
