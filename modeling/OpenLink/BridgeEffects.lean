import OpenLink.Bridge

/-!
What one event can do to the bridge: it keeps the identity of the client, puts
everything it publishes on the way to the server, and maps no Hoppie MIN to
another one. An effect that allows no change allows doing nothing, and two
effects make one, so it is shown for each handler and holds over every run.
-/
namespace OpenLink.BridgeEffects
open Actions Bridge Cpdlc Envelope HoppieClient HoppieSession MessageBuilder Runs SdkClient
  Translator

def outbound (client : OpenLinkClient) : OpenLinkRouting :=
  ⟨.address client.network client.cid, .server client.network⟩

structure Effect (before after : BridgeState) : Prop where
  network : after.client.network = before.client.network
  cid : after.client.cid = before.client.cid
  published : ∃ added, after.published = before.published ++ added ∧
    ∀ envelope ∈ added, envelope.routing = outbound before.client
  mapped : ∀ key hoppieMin bridgeMin,
    after.tracker.translateHoppieMrn key hoppieMin = some bridgeMin →
    before.tracker.translateHoppieMrn key hoppieMin = some bridgeMin ∨ bridgeMin = hoppieMin

theorem effect_refl (bridge : BridgeState) : Effect bridge bridge where
  network := rfl
  cid := rfl
  published := ⟨[], by simp⟩
  mapped _ _ _ known := .inl known

theorem effect_trans {before middle after : BridgeState} (first : Effect before middle)
    (second : Effect middle after) : Effect before after where
  network := second.network.trans first.network
  cid := second.cid.trans first.cid
  published := by
    obtain ⟨earlier, grown, early⟩ := first.published
    obtain ⟨later, further, late⟩ := second.published
    refine ⟨earlier ++ later, by rw [further, grown, List.append_assoc], ?_⟩
    intro envelope member
    rcases List.mem_append.mp member with here | there
    · exact early envelope here
    · rw [late envelope there, outbound, outbound, first.network, first.cid]
  mapped key hoppieMin bridgeMin known := by
    rcases second.mapped key hoppieMin bridgeMin known with earlier | same
    · exact first.mapped key hoppieMin bridgeMin earlier
    · exact .inr same

section Steps
variable (config : BridgeConfig) (now : DateTime)

theorem effect_aside {before after : BridgeState} (network : after.client.network =
    before.client.network) (cid : after.client.cid = before.client.cid)
    (published : after.published = before.published)
    (mapped : after.tracker.minMapHoppieToOpenlink = before.tracker.minMapHoppieToOpenlink) :
    Effect before after where
  network := network
  cid := cid
  published := ⟨[], by simp [published]⟩
  mapped key hoppieMin bridgeMin known := by
    left
    rwa [SessionTracker.translateHoppieMrn, mapped] at known

theorem effect_publish (bridge : BridgeState) (message : OpenLinkMessage) :
    Effect bridge (publish config now bridge message) where
  network := rfl
  cid := rfl
  published := ⟨_, rfl, by simp [OpenLinkClient.toServer, envelope, outbound]⟩
  mapped _ _ _ known := .inl known

theorem effect_allocated (bridge : BridgeState) (key : SessionKey) :
    Effect bridge
      { bridge with
        tracker := (bridge.tracker.nextMin key).2.recordHoppieMin key
          (bridge.tracker.nextMin key).1 (bridge.tracker.nextMin key).1 } where
  network := rfl
  cid := rfl
  published := ⟨[], by simp⟩
  mapped other hoppieMin bridgeMin known := by
    simp only [SessionTracker.translateHoppieMrn, SessionTracker.recordHoppieMin,
      Function.update_apply] at known
    split at known
    next same =>
      right
      rw [← Option.some.inj known]
      exact (Prod.mk.inj same).2.symm
    next => exact .inl known

theorem effect_polled (polledAs : String) (message : HoppieMessage) (bridge : BridgeState) :
    Effect bridge (runOn (handleHoppieMessage config now polledAs message) bridge).2 := by
  have marking : Effect bridge (marked config bridge message) := effect_aside rfl rfl rfl rfl
  rcases relayed_or_ignored noOutage config now bridge polledAs message with
    ⟨packet, relayable⟩ | same | same
  · rw [handle_relayable noOutage config now relayable]
    apply effect_trans marking
    split
    · rw [run_relay_logon]
      refine effect_trans ?_ (effect_publish config now _ _)
      exact effect_trans (effect_publish config now _ _) (effect_aside rfl rfl rfl rfl)
    · rw [run_relay_application config now _ _ _ relayable.parsed]
      exact effect_trans (effect_allocated _ _) (effect_publish config now _ _)
  · rw [same]
    exact effect_refl bridge
  · rw [same]
    exact marking

theorem effect_inbox_meta (message : CpdlcMetaMessage) (source dest : String)
    (bridge : BridgeState) :
    Effect bridge (runOn (handleOpenlinkMeta config now message source dest) bridge).2 := by
  cases message with
  | logonResponse accepted =>
      cases accepted with
      | false => exact effect_aside rfl rfl rfl rfl
      | true =>
          have reset : Effect bridge
              { bridge with client := (bridge.client.cpdlcConnectionRequest source dest dest).2 } :=
            effect_aside rfl rfl rfl rfl
          apply effect_trans reset
          apply effect_trans (effect_publish config now _ _)
          exact effect_trans (effect_publish config now _ _) (effect_aside rfl rfl rfl rfl)
  | _ => exact effect_refl bridge

theorem effect_inbox (envelope : OpenLinkEnvelope) (bridge : BridgeState) :
    Effect bridge (runOn (handleOpenlinkMessage config now envelope) bridge).2 := by
  have marking : Effect bridge
      { bridge with tracker := bridge.tracker.markOpenlinkSeen envelope.id } :=
    effect_aside rfl rfl rfl rfl
  cases seen : bridge.tracker.isOpenlinkSeen envelope.id with
  | true => simpa [handleOpenlinkMessageUnder, run_bind, seen] using effect_refl bridge
  | false =>
      cases payload : envelope.payload with
      | metaMessage message =>
          simpa [handleOpenlinkMessageUnder, run_bind, seen, payload] using marking
      | acars acars =>
          obtain ⟨routing, ⟨source, destination, content⟩⟩ := acars
          cases own : isOwnMessage bridge.client envelope with
          | true => simpa [handleOpenlinkMessageUnder, run_bind, seen, payload, own] using marking
          | false =>
              simp only [handleOpenlinkMessageUnder, run_bind, run_get, run_set, seen, payload, own,
                Bool.false_eq_true, if_false]
              apply effect_trans marking
              cases content with
              | metaMessage message => exact effect_inbox_meta config now message _ _ _
              | application message => exact effect_aside rfl rfl rfl rfl

theorem effect_step (bridge : BridgeState) (event : BridgeEvent) :
    Effect bridge (step config bridge event) := by
  unfold step stepUnder
  cases event with
  | polled now polledAs message =>
      dsimp only
      split
      · exact effect_refl bridge
      · exact effect_polled config now polledAs message bridge
  | received now envelope =>
      dsimp only
      split
      · exact effect_refl bridge
      · exact effect_inbox config now envelope bridge

theorem effect_run (start : BridgeState) (events : List BridgeEvent) :
    Effect start (exec (step config) start events) :=
  run_invariant (step config) (Effect start)
    (fun bridge event earlier => effect_trans earlier (effect_step config bridge event))
    start (effect_refl start) events

end Steps

end OpenLink.BridgeEffects
