import OpenLink.SeenMessages

/-!
The bridge and a server that it cannot always reach. A message counts as seen before anything is
published for it, and whichever station it was polled for.
-/
namespace OpenLink.BridgeOutages
open Actions Bridge Cpdlc Envelope HoppieClient HoppieSession MessageBuilder Runs SdkClient
  SeenMessages SessionTracker Texts Translator

/-! What relaying does under an outage. -/
section Relaying
variable (outage : Outage) (config : BridgeConfig) (now : DateTime)

theorem logon_undisturbed (aircraft station : String) (bridge : BridgeState)
    (done : (runOn (relayLogonUnder outage config now aircraft station) bridge).1 = .ok ()) :
    (runOn (relayLogonUnder outage config now aircraft station) bridge).2 =
      (runOn (relayLogon config now aircraft station) bridge).2 := by
  simp only [relayLogonUnder, run_bind, run_get, run_set, run_send_under] at done ⊢
  cases registered : outage bridge.issued with
  | true => simp [registered] at done
  | false =>
      cases requested : outage (bridge.issued + 1) with
      | true => simp [registered, requested, publish] at done
      | false => simp [requested, publish, noOutage]

theorem application_undisturbed (aircraft station : String) (packet : Text) (bridge : BridgeState)
    (done : (runOn (relayApplicationUnder outage config now aircraft station packet) bridge).1 =
      .ok ()) :
    (runOn (relayApplicationUnder outage config now aircraft station packet) bridge).2 =
      (runOn (relayApplication config now aircraft station packet) bridge).2 := by
  simp only [relayApplicationUnder, run_bind, run_get, run_set, run_lift, hoppieToOpenlink] at done ⊢
  cases parsed : parseCpdlcPacket packet with
  | none => rfl
  | some content =>
      simp only [parsed, run_bind, run_modify, run_pure, run_send_under] at done ⊢
      cases refused : outage bridge.issued with
      | true => simp [refused] at done
      | false => rfl

/-- What a message says to the station it was polled for: its logon, or its text. -/
def relayedPayload (bridge : BridgeState) (polledAs : String) (message : HoppieMessage)
    (packet : HoppieCpdlcPacket) : OpenLinkMessage :=
  cpdlc message.sender message.sender message.sender polledAs
    (if isLogonBody config.toUppercase packet.body then logonRequest polledAs "ZZZZ" "ZZZZ"
    else .application (relayedMessage now bridge
      (SessionKey.new config.toUppercase message.sender polledAs) packet))

/-- The last publication is what the message says to this station. -/
def Relayed (bridge : BridgeState) (polledAs : String) (message : HoppieMessage)
    (after : BridgeState) : Prop :=
  ∃ packet earlier envelope, parseCpdlcPacket message.packet = some packet ∧
    after.published = bridge.published ++ earlier ++ [envelope] ∧
    envelope.payload = relayedPayload config now bridge polledAs message packet

/-- A message that is new to the bridge is marked. It is then an echo of the bridge itself, or its
relaying fails, or it is relayed to the station it was polled for. -/
theorem handled_under (bridge : BridgeState) (polledAs : String) (message : HoppieMessage)
    (cpdlc : message.msgType = .cpdlc)
    (fresh : bridge.tracker.isHoppieSeen
      (config.hoppieMessageHash message.sender message.packet) = false) :
    let outcome := runOn (handleHoppieMessageUnder outage config now polledAs message) bridge
    config.toUppercase message.sender ∈ bridgeCallsigns config ∨
      (∃ failure, outcome.1 = .error failure) ∨
        Relayed config now bridge polledAs message outcome.2 := by
  intro outcome
  by_cases own : config.toUppercase message.sender ∈ bridgeCallsigns config
  · exact .inl own
  · right
    cases parsed : parseCpdlcPacket message.packet with
    | none =>
        left
        refine ⟨"failed to parse CPDLC packet", ?_⟩
        simp [outcome, handleHoppieMessageUnder, cpdlc, run_bind, fresh, own, parsed]
    | some packet =>
        have ran : outcome = _ := handle_relayable outage config now ⟨cpdlc, fresh, own, parsed⟩
          polledAs
        cases result : outcome.1 with
        | error failure => exact .inl ⟨failure, rfl⟩
        | ok done =>
            right
            rw [ran] at result ⊢
            unfold Relayed relayedPayload
            split at result
            · next logon =>
                rw [if_pos logon, logon_undisturbed outage config now _ _ _ result, run_relay_logon]
                refine ⟨packet, [_], _, parsed, rfl, ?_⟩
                rw [if_pos logon]
                rfl
            · next text =>
                rw [if_neg text, application_undisturbed outage config now _ _ _ _ result,
                  run_relay_application config now _ _ _ parsed]
                refine ⟨packet, [], _, parsed, by rw [List.append_nil]; rfl, ?_⟩
                rw [if_neg text]
                rfl

end Relaying

/-! Which messages are taken for duplicates. -/
section Duplicates
variable (outage : Outage) (config : BridgeConfig)

def hashOf (message : HoppieMessage) : UInt64 :=
  config.hoppieMessageHash message.sender message.packet

/-- The event handles such a message, which is not taken for a duplicate: it is an echo, or
its relaying fails, or it is relayed to the station it was polled for. -/
def Handles (wanted : HoppieMessage → Prop) (bridge : BridgeState) (event : BridgeEvent) : Prop :=
  ∃ now polledAs message, event = .polled now polledAs message ∧ wanted message ∧
    config.mode ≠ .aircraft ∧ message.msgType = .cpdlc ∧
    bridge.tracker.isHoppieSeen (hashOf config message) = false ∧
    let outcome := runOn (handleHoppieMessageUnder outage config now polledAs message) bridge
    config.toUppercase message.sender ∈ bridgeCallsigns config ∨
      (∃ failure, outcome.1 = .error failure) ∨
        Relayed config now bridge polledAs message outcome.2

/-- The same sender and the same packet, whatever station it was polled for. -/
def Copy (message earlier : HoppieMessage) : Prop :=
  earlier.sender = message.sender ∧ earlier.packet = message.packet

/-- What comes from the inbox never touches the Hoppie messages seen. -/
theorem received_hashes (bridge : BridgeState) (now : DateTime) (envelope : OpenLinkEnvelope) :
    (stepUnder outage config bridge (.received now envelope)).tracker.seenHoppieHashes =
      bridge.tracker.seenHoppieHashes := by
  rw [stepUnder]
  split
  · rfl
  · cases fresh : bridge.tracker.isOpenlinkSeen envelope.id with
    | true => simp [handleOpenlinkMessageUnder, run_bind, fresh]
    | false => exact congrArg Prod.snd (received_seen outage config now bridge envelope fresh)

theorem hashes_step (bridge : BridgeState) (event : BridgeEvent) (hash : UInt64)
    (member : hash ∈ (stepUnder outage config bridge event).tracker.seenHoppieHashes) :
    hash ∈ bridge.tracker.seenHoppieHashes ∨
      Handles outage config (fun message => hashOf config message = hash) bridge event := by
  cases event with
  | received now envelope =>
      rw [received_hashes] at member
      exact .inl member
  | polled now polledAs message =>
      rw [stepUnder] at member
      split at member
      · exact .inl member
      · next mode =>
          by_cases cpdlc : message.msgType = .cpdlc
          · cases fresh : bridge.tracker.isHoppieSeen (hashOf config message) with
            | true =>
                left
                rw [hashOf] at fresh
                simpa [handleHoppieMessageUnder, cpdlc, run_bind, fresh] using member
            | false =>
                rw [polled_hashes outage config now bridge polledAs message cpdlc fresh] at member
                rcases mem_remember member with same | earlier
                · right
                  subst same
                  exact ⟨now, polledAs, message, rfl, rfl, mode, cpdlc, fresh,
                    handled_under outage config now bridge polledAs message cpdlc fresh⟩
                · exact .inl earlier
          · left
            simpa [handleHoppieMessageUnder, cpdlc] using member

/-- Every hash in the set comes from a message that was handled. -/
theorem hashes_handled (start : BridgeState) (empty : start.tracker.seenHoppieHashes = ∅)
    (events : List BridgeEvent) (hash : UInt64)
    (member : hash ∈ (exec (stepUnder outage config) start events).tracker.seenHoppieHashes) :
    Seen (stepUnder outage config)
      (Handles outage config fun message => hashOf config message = hash) start events := by
  induction events using List.reverseRecOn with
  | nil =>
      rw [exec_nil, empty] at member
      exact absurd member (Finset.notMem_empty hash)
  | append_singleton before event ih =>
      rw [exec_snoc] at member
      rcases hashes_step outage config _ event hash member with earlier | handled
      · exact seen_extend [event] (ih earlier)
      · exact seen_last handled

def CollisionFree (message : HoppieMessage) (events : List BridgeEvent) : Prop :=
  ∀ now polledAs earlier, .polled now polledAs earlier ∈ events →
    hashOf config earlier = hashOf config message → Copy message earlier

/-- A message is only taken for a duplicate where a copy of it came in before and was not
taken for one: that copy was relayed to its own station, or its relaying failed, or the two
are echoes of the bridge itself. -/
theorem duplicates_have_copies (start : BridgeState)
    (empty : start.tracker.seenHoppieHashes = ∅) (events : List BridgeEvent)
    (message : HoppieMessage) (apart : CollisionFree config message events)
    (skipped : (exec (stepUnder outage config) start events).tracker.isHoppieSeen
      (hashOf config message) = true) :
    Seen (stepUnder outage config) (Handles outage config (Copy message)) start events := by
  rw [isHoppieSeen, decide_eq_true_iff] at skipped
  obtain ⟨before, event, early, _, now, polledAs, earlier, rfl, same, outcome⟩ :=
    hashes_handled outage config start empty events _ skipped
  have copy := apart now polledAs earlier (early.subset (by simp)) same
  exact ⟨before, _, early, trivial, now, polledAs, earlier, rfl, copy, outcome⟩

end Duplicates

/-! One pilot asks two stations of the same bridge for a logon, in the same words. -/
section Sample

def twoStations : BridgeConfig := { sampleConfig with callsigns := ["LFPG", "LFBO"] }

def logonRequested : HoppieMessage :=
  ⟨"AFR123", .cpdlc, "/data2/1//Y/REQUEST LOGON".toList⟩

def firstStation : List BridgeEvent := [.polled 0 "LFPG" logonRequested]

theorem logon_collision_free : CollisionFree twoStations logonRequested firstStation := by
  intro now polledAs earlier member _
  cases List.mem_singleton.mp member
  exact ⟨rfl, rfl⟩

theorem logon_skipped : (exec (stepUnder noOutage twoStations) sampleStart
    firstStation).tracker.isHoppieSeen (hashOf twoStations logonRequested) = true := by
  decide +kernel

theorem duplicates_have_copies_logon :
    Seen (stepUnder noOutage twoStations)
      (Handles noOutage twoStations (Copy logonRequested)) sampleStart firstStation :=
  duplicates_have_copies noOutage twoStations sampleStart rfl firstStation logonRequested
    logon_collision_free logon_skipped

/-- Both stations are polled by the bridge. The request to the second one is dropped, though only
the first one has had it. -/
theorem other_station_dropped :
    ¬ ∀ (outage : Outage) (config : BridgeConfig) (start : BridgeState)
      (events : List BridgeEvent) (message : HoppieMessage) (polledAs : String),
      (∀ now station polled, .polled now station polled ∈ events → station ∈ config.callsigns) →
      polledAs ∈ config.callsigns → message.msgType = .cpdlc →
      start.tracker.seenHoppieHashes = ∅ → CollisionFree config message events →
      (exec (stepUnder outage config) start events).tracker.isHoppieSeen
        (hashOf config message) = true →
      Seen (stepUnder outage config) (fun bridge event => ∃ now earlier,
        event = .polled now polledAs earlier ∧ Copy message earlier ∧
        Relayed config now bridge polledAs earlier (stepUnder outage config bridge event))
        start events := by
  intro genuine
  have own : ∀ now station polled, .polled now station polled ∈ firstStation →
      station ∈ twoStations.callsigns := by
    intro now station polled member
    cases List.mem_singleton.mp member
    decide
  obtain ⟨before, event, early, _, now, earlier, rfl, _⟩ := genuine noOutage twoStations
    sampleStart firstStation logonRequested "LFBO" own (by decide) rfl rfl logon_collision_free
    logon_skipped
  have member : BridgeEvent.polled now "LFBO" earlier ∈ firstStation := early.subset (by simp)
  simp [firstStation] at member

end Sample

end OpenLink.BridgeOutages
