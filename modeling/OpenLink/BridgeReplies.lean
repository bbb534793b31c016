import OpenLink.Bridge

/-!
A controller's answer names the MIN that the bridge gave the pilot's request. The
pilot knows the request by the MIN it had on Hoppie, and the bridge does not turn
one into the other.
-/
namespace OpenLink.BridgeReplies
open Actions Bridge Cpdlc Envelope HoppieClient HoppieSession Runs Texts Translator

section Correlation
variable (config : BridgeConfig)

/-- A Hoppie message with the first MIN goes on to the server, as an application
message with the second. -/
def RelayedUnder (bridge : BridgeState) (now : DateTime) (polledAs : String)
    (message : HoppieMessage) (hoppieMin : Text) (bridgeMin : UInt8) : Prop :=
  (parseCpdlcPacket message.packet).map HoppieCpdlcPacket.min = some hoppieMin ∧
  ∃ envelope routing application,
    (step config bridge (.polled now polledAs message)).published =
        bridge.published ++ [envelope] ∧
      envelope.payload =
        .acars ⟨routing, .cpdlc ⟨message.sender, polledAs, .application application⟩⟩ ∧
      application.min = bridgeMin

def Answers (aircraft station : String) (bridgeMin : UInt8) (envelope : OpenLinkEnvelope) : Prop :=
  ∃ routing source destination application,
    envelope.payload = .acars ⟨routing, .cpdlc ⟨source, destination, .application application⟩⟩ ∧
      config.toUppercase source = config.toUppercase station ∧
      config.toUppercase destination = config.toUppercase aircraft ∧
      application.mrn = some bridgeMin

def SentWithMrn (bridge : BridgeState) (now : DateTime) (envelope : OpenLinkEnvelope)
    (mrn : Text) : Prop :=
  ∃ send packet, (step config bridge (.received now envelope)).sent = bridge.sent ++ [send] ∧
    parseCpdlcPacket send.packet = some packet ∧ packet.mrn = some mrn

def RelaysInbox (bridge : BridgeState) (envelope : OpenLinkEnvelope) : Prop :=
  config.mode ≠ .ground ∧ accepted bridge envelope = true

theorem relayed_min {bridge : BridgeState} {now : DateTime} {polledAs : String}
    {message : HoppieMessage} {hoppieMin : Text} {bridgeMin : UInt8}
    (relayed : RelayedUnder config bridge now polledAs message hoppieMin bridgeMin) :
    bridgeMin = SessionTracker.followingMin (bridge.tracker.counter
      (SessionKey.new config.toUppercase message.sender polledAs)) := by
  obtain ⟨_, envelope, routing, application, grown, payload, rfl⟩ := relayed
  by_cases mode : config.mode = .aircraft
  · simp [step, stepUnder, mode] at grown
  · rw [step, stepUnder, if_neg mode] at grown
    rcases relayed_or_ignored noOutage config now bridge polledAs message with
      ⟨packet, relayable⟩ | same | same
    · rw [handle_relayable noOutage config now relayable] at grown
      by_cases logon : isLogonBody config.toUppercase packet.body = true
      -- a logon publishes two envelopes, not one
      · have lengths := congrArg List.length grown
        simp [logon, run_relay_logon, publish, marked] at lengths
      · rw [if_neg logon, run_relay_application config now _ _ _ relayable.parsed] at grown
        have same := List.append_cancel_left grown
        rw [List.cons.injEq] at same
        rw [← same.1] at payload
        injection payload with payload
        cases payload
        exact relayed_message_min now _ _ packet
    · simp [same] at grown
    · simp [same, marked] at grown

theorem sent_with_mrn_iff {bridge : BridgeState} {now : DateTime} {envelope : OpenLinkEnvelope}
    {aircraft station : String} {bridgeMin : UInt8}
    (answers : Answers config aircraft station bridgeMin envelope) (mrn : Text) :
    SentWithMrn config bridge now envelope mrn ↔
      RelaysInbox config bridge envelope ∧ mrn = decimal bridgeMin.toNat := by
  obtain ⟨routing, source, destination, application, payload, _, _, answered⟩ := answers
  by_cases mode : config.mode = .ground
  · simp [SentWithMrn, RelaysInbox, step, stepUnder, mode]
  · have sends := run_application config now payload bridge
    by_cases relays : accepted bridge envelope = true
    · rw [if_pos relays] at sends
      have read := parse_packet_of application
      simp only [answered, Option.map_some] at read
      simp only [SentWithMrn, RelaysInbox, step, stepUnder, if_neg mode, sends,
        List.append_cancel_left_eq, List.cons.injEq, and_true]
      constructor
      · rintro ⟨send, packet, rfl, parsed, field⟩
        rw [read] at parsed
        cases parsed
        exact ⟨⟨mode, relays⟩, (Option.some.inj field).symm⟩
      · rintro ⟨_, rfl⟩
        exact ⟨_, _, rfl, read, rfl⟩
    · rw [if_neg relays] at sends
      simp [SentWithMrn, RelaysInbox, step, stepUnder, mode, sends, relays]

/-- In every run, an answer to a relayed request carries the pilot's own MIN exactly
when the bridge relays it and that MIN is the one its counter gave out next. -/
theorem reply_mrn_iff (start : BridgeState) (before between : List BridgeEvent)
    (asked answeredAt : DateTime) (polledAs : String) (request : HoppieMessage)
    (hoppieMin : Text) (bridgeMin : UInt8)
    (relayed : RelayedUnder config (exec (step config) start before) asked polledAs request
      hoppieMin bridgeMin)
    (reply : OpenLinkEnvelope)
    (answers : Answers config request.sender polledAs bridgeMin reply) :
    SentWithMrn config
        (exec (step config) start (before ++ .polled asked polledAs request :: between))
        answeredAt reply hoppieMin ↔
      RelaysInbox config
          (exec (step config) start (before ++ .polled asked polledAs request :: between)) reply ∧
        hoppieMin = decimal (SessionTracker.followingMin
          ((exec (step config) start before).tracker.counter
            (SessionKey.new config.toUppercase request.sender polledAs))).toNat := by
  rw [sent_with_mrn_iff config answers, relayed_min config relayed]

end Correlation

/-! A pilot's request and the controller's answer, on a bridge that has relayed nothing. -/
section Sample

def pilotRequest (min : Text) : HoppieMessage :=
  ⟨"AFR123", .cpdlc, formatCpdlcPacket min none "Y".toList "REQUEST FL350".toList⟩

def controllerAnswer : OpenLinkEnvelope where
  id := "answer"
  timestamp := 0
  correlationId := none
  routing := ⟨.server "vatsim", .address "vatsim" "bridge"⟩
  payload := .acars ⟨⟨⟨"AFR123", "AFR123"⟩⟩,
    .cpdlc ⟨"LFPG", "AFR123", .application ⟨4, some 1, [⟨"UM20", [.level ⟨350⟩]⟩], 0⟩⟩⟩
  token := ""

theorem answer_answers :
    Answers sampleConfig "AFR123" "LFPG" 1 controllerAnswer :=
  ⟨_, _, _, _, rfl, rfl, rfl, rfl⟩

theorem pilot_relayed (min : Text) (plain : '/' ∉ min) :
    RelayedUnder sampleConfig sampleStart 0 "LFPG" (pilotRequest min) min 1 := by
  have parsed : parseCpdlcPacket (pilotRequest min).packet =
      some ⟨min, none, "Y".toList, trimEnd "REQUEST FL350".toList⟩ :=
    parse_formatted _ plain (by simp) (by decide)
  have outside : sampleConfig.toUppercase "AFR123" ∉ bridgeCallsigns sampleConfig := by
    decide +kernel
  have relayable : Relayable sampleConfig sampleStart (pilotRequest min)
      ⟨min, none, "Y".toList, trimEnd "REQUEST FL350".toList⟩ :=
    ⟨rfl, rfl, outside, parsed⟩
  have text : ¬ isLogonBody sampleConfig.toUppercase (trimEnd "REQUEST FL350".toList) = true := by
    decide +kernel
  constructor
  · rw [parsed]
    rfl
  · rw [step, stepUnder, if_neg (by decide), handle_relayable noOutage sampleConfig 0 relayable,
      if_neg text, run_relay_application sampleConfig 0 _ _ _ parsed]
    refine ⟨_, _, _, rfl, rfl, ?_⟩
    rw [relayed_message_min]
    rfl

theorem answer_relayed (min : Text) :
    RelaysInbox sampleConfig
      (exec (step sampleConfig) sampleStart [.polled 0 "LFPG" (pilotRequest min)])
      controllerAnswer := by
  refine ⟨by decide, ?_⟩
  rw [exec_cons, exec_nil, polled_accepts]
  decide +kernel

theorem reply_mrn_first_request :
    SentWithMrn sampleConfig
      (exec (step sampleConfig) sampleStart [.polled 0 "LFPG" (pilotRequest "1".toList)]) 1
      controllerAnswer "1".toList :=
  (reply_mrn_iff sampleConfig sampleStart [] [] 0 1 "LFPG" (pilotRequest "1".toList)
    "1".toList 1 (pilot_relayed _ (by decide)) controllerAnswer answer_answers).mpr
    ⟨answer_relayed _, by decide +kernel⟩

/-- The pilot's request had the MIN 5, and the answer to it says 1. -/
theorem answer_names_bridge_min :
    RelayedUnder sampleConfig sampleStart 0 "LFPG" (pilotRequest "5".toList) "5".toList 1 ∧
      Answers sampleConfig "AFR123" "LFPG" 1 controllerAnswer ∧
      SentWithMrn sampleConfig
        (exec (step sampleConfig) sampleStart [.polled 0 "LFPG" (pilotRequest "5".toList)]) 1
        controllerAnswer "1".toList ∧
      ¬ SentWithMrn sampleConfig
        (exec (step sampleConfig) sampleStart [.polled 0 "LFPG" (pilotRequest "5".toList)]) 1
        controllerAnswer "5".toList := by
  refine ⟨pilot_relayed _ (by decide), answer_answers, ?_, ?_⟩
  · rw [sent_with_mrn_iff sampleConfig answer_answers]
    exact ⟨answer_relayed _, by decide +kernel⟩
  · rw [sent_with_mrn_iff sampleConfig answer_answers]
    rintro ⟨_, same⟩
    exact absurd same (by decide +kernel)

end Sample

end OpenLink.BridgeReplies
