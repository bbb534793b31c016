import OpenLink.Bridge

/-!
What the bridge remembers of the messages it has seen, over any run of marks. A
set that would grow past its bound is cleared together with the item that was just
put into it, so the latest message is remembered only while there is room for it.
-/
namespace OpenLink.SeenMessages
open Actions Bridge Cpdlc Envelope HoppieClient HoppieSession MessageBuilder Runs SdkClient
  SessionTracker

/-! A set of bounded size. -/
section Memory
variable {Item : Type} [DecidableEq Item]

def Room (seen : Finset Item) (item : Item) : Prop := item ∈ seen ∨ seen.card < 10000

instance (seen : Finset Item) (item : Item) : Decidable (Room seen item) :=
  inferInstanceAs (Decidable (_ ∨ _))

theorem remember_bounded (seen : Finset Item) (item : Item) :
    (remember seen item).card ≤ 10000 := by
  unfold remember
  split
  · simp
  · omega

theorem mem_remember_self (seen : Finset Item) (bounded : seen.card ≤ 10000) (item : Item) :
    item ∈ remember seen item ↔ Room seen item := by
  unfold remember Room
  by_cases known : item ∈ seen
  · simp [known, Nat.not_lt.mpr bounded]
  · rw [Finset.card_insert_of_notMem known]
    split
    · simp only [known, Finset.notMem_empty, false_or, false_iff]
      omega
    · simp only [Finset.mem_insert_self, known, false_or, true_iff]
      omega

theorem mem_remember {seen : Finset Item} {item other : Item}
    (member : other ∈ remember seen item) : other = item ∨ other ∈ seen := by
  unfold remember at member
  split at member
  · simp at member
  · exact Finset.mem_insert.mp member

/-- Different items fill the set up to its bound. -/
theorem remember_each (items : List Item) (distinct : items.Nodup)
    (fits : items.length ≤ 10000) : exec remember ∅ items = items.toFinset := by
  induction items using List.reverseRecOn with
  | nil => rfl
  | append_singleton front item ih =>
      rw [List.length_append, List.length_singleton] at fits
      obtain ⟨earlier, _, apart⟩ := List.nodup_append.mp distinct
      have fresh : item ∉ front.toFinset := by
        rw [List.mem_toFinset]
        exact fun member => apart item member item (by simp) rfl
      rw [exec_snoc, ih earlier (by omega), remember, Finset.card_insert_of_notMem fresh,
        List.toFinset_card_of_nodup earlier, if_neg (by omega), List.toFinset_append,
        Finset.insert_eq, Finset.union_comm]
      rfl

end Memory

/-! Runs of marks. -/
section Marks

inductive Mark where
  | openlink (id : String)
  | hoppie (hash : UInt64)

def mark (tracker : SessionTracker) : Mark → SessionTracker
  | .openlink id => tracker.markOpenlinkSeen id
  | .hoppie hash => tracker.markHoppieSeen hash

def Bounded (tracker : SessionTracker) : Prop :=
  tracker.seenOpenlinkIds.card ≤ 10000 ∧ tracker.seenHoppieHashes.card ≤ 10000

theorem bounded_mark (tracker : SessionTracker) (marking : Mark) (bounded : Bounded tracker) :
    Bounded (mark tracker marking) := by
  cases marking with
  | openlink id => exact ⟨remember_bounded _ id, bounded.2⟩
  | hoppie hash => exact ⟨bounded.1, remember_bounded _ hash⟩

theorem bounded_marks (marks : List Mark) : Bounded (exec mark .empty marks) :=
  run_invariant mark Bounded bounded_mark .empty ⟨by simp [empty], by simp [empty]⟩ marks

theorem openlink_seen_iff (tracker : SessionTracker) (bounded : Bounded tracker) (id : String) :
    (tracker.markOpenlinkSeen id).isOpenlinkSeen id = true ↔ Room tracker.seenOpenlinkIds id := by
  rw [isOpenlinkSeen, decide_eq_true_iff]
  exact mem_remember_self _ bounded.1 id

theorem hoppie_seen_iff (tracker : SessionTracker) (bounded : Bounded tracker) (hash : UInt64) :
    (tracker.markHoppieSeen hash).isHoppieSeen hash = true ↔ Room tracker.seenHoppieHashes hash := by
  rw [isHoppieSeen, decide_eq_true_iff]
  exact mem_remember_self _ bounded.2 hash

theorem hashes_marked (hashes : List UInt64) :
    (exec mark .empty (hashes.map Mark.hoppie)).seenHoppieHashes = exec remember ∅ hashes := by
  induction hashes using List.reverseRecOn with
  | nil => rfl
  | append_singleton front hash ih =>
      rw [List.map_append, List.map_singleton, exec_snoc, exec_snoc, ← ih]
      rfl

end Marks

/-! What the handlers of the bridge do to the two sets, whatever fails. -/
section Handlers
variable (outage : Outage) (config : BridgeConfig) (now : DateTime)

def seenSets (bridge : BridgeState) : Finset String × Finset UInt64 :=
  (bridge.tracker.seenOpenlinkIds, bridge.tracker.seenHoppieHashes)

theorem logon_seen (aircraft station : String) :
    Keeps seenSets (relayLogonUnder outage config now aircraft station) := by
  intro bridge
  simp only [relayLogonUnder, run_bind, run_get, run_set, run_send_under]
  cases outage bridge.issued with
  | true => rfl
  | false =>
      simp only [Bool.false_eq_true, if_false]
      split <;> rfl

theorem application_seen (aircraft station : String) (packet : Texts.Text) :
    Keeps seenSets (relayApplicationUnder outage config now aircraft station packet) := by
  intro bridge
  simp only [relayApplicationUnder, run_bind, run_get, run_set, run_lift,
    Translator.hoppieToOpenlink]
  cases parseCpdlcPacket packet with
  | none => rfl
  | some parsed =>
      simp only [run_bind, run_modify, run_pure, run_send_under]
      split <;> rfl

theorem polled_hashes (bridge : BridgeState) (polledAs : String) (message : HoppieMessage)
    (cpdlc : message.msgType = .cpdlc)
    (fresh : bridge.tracker.isHoppieSeen
      (config.hoppieMessageHash message.sender message.packet) = false) :
    (runOn (handleHoppieMessageUnder outage config now polledAs message)
        bridge).2.tracker.seenHoppieHashes =
      remember bridge.tracker.seenHoppieHashes
        (config.hoppieMessageHash message.sender message.packet) := by
  by_cases own : config.toUppercase message.sender ∈ bridgeCallsigns config
  · simp [handleHoppieMessageUnder, cpdlc, run_bind, fresh, own, markHoppieSeen]
  · cases parsed : parseCpdlcPacket message.packet with
    | none => simp [handleHoppieMessageUnder, cpdlc, run_bind, fresh, own, parsed, markHoppieSeen]
    | some packet =>
        rw [handle_relayable outage config now ⟨cpdlc, fresh, own, parsed⟩]
        split
        · have kept := logon_seen outage config now message.sender polledAs
            (marked config bridge message)
          exact congrArg Prod.snd kept
        · have kept := application_seen outage config now message.sender polledAs message.packet
            (marked config bridge message)
          exact congrArg Prod.snd kept

theorem relayed_seen (envelope : CpdlcEnvelope) (source dest : String) :
    Keeps seenSets (relayToHoppie config envelope source dest) := by
  intro bridge
  obtain ⟨sender, receiver, content⟩ := envelope
  cases content <;> rfl

theorem connected_seen (message : CpdlcMetaMessage) (source dest : String) :
    Keeps seenSets (handleOpenlinkMetaUnder outage config now message source dest) := by
  cases message with
  | logonResponse accepted =>
      cases accepted with
      | false => exact fun _ => rfl
      | true =>
          intro bridge
          simp only [handleOpenlinkMetaUnder, run_bind, run_get, run_set, run_send_under, if_true]
          cases outage bridge.issued with
          | true => rfl
          | false =>
              cases answered : outage (bridge.issued + 1) <;> simp [publish, answered] <;> rfl
  | _ => exact fun _ => rfl

theorem received_seen (bridge : BridgeState) (envelope : OpenLinkEnvelope)
    (fresh : bridge.tracker.isOpenlinkSeen envelope.id = false) :
    seenSets (runOn (handleOpenlinkMessageUnder outage config now envelope) bridge).2 =
      seenSets { bridge with tracker := bridge.tracker.markOpenlinkSeen envelope.id } := by
  cases payload : envelope.payload with
  | metaMessage message =>
      simp [handleOpenlinkMessageUnder, run_bind, fresh, payload]
  | acars acars =>
      obtain ⟨routing, ⟨source, destination, content⟩⟩ := acars
      cases own : isOwnMessage bridge.client envelope with
      | true => simp [handleOpenlinkMessageUnder, run_bind, fresh, payload, own]
      | false =>
          simp only [handleOpenlinkMessageUnder, run_bind, run_get, run_set, fresh, payload, own,
            Bool.false_eq_true, if_false]
          cases content with
          | metaMessage message => exact connected_seen outage config now message _ _ _
          | application message => exact relayed_seen config _ _ _ _

end Handlers

/-! The same message twice in a row. -/
section Redelivery
variable (config : BridgeConfig)

theorem received_again (bridge : BridgeState) (now : DateTime) (envelope : OpenLinkEnvelope)
    (seen : bridge.tracker.isOpenlinkSeen envelope.id = true) :
    step config bridge (.received now envelope) = bridge := by
  simp [step, stepUnder, handleOpenlinkMessageUnder, run_bind, seen]

theorem polled_again (bridge : BridgeState) (now : DateTime) (polledAs : String)
    (message : HoppieMessage) (seen : bridge.tracker.isHoppieSeen
      (config.hoppieMessageHash message.sender message.packet) = true) :
    step config bridge (.polled now polledAs message) = bridge := by
  by_cases cpdlc : message.msgType = .cpdlc
  · simp [step, stepUnder, handleHoppieMessageUnder, run_bind, cpdlc, seen]
  · simp [step, stepUnder, handleHoppieMessageUnder, cpdlc]

theorem received_twice (bridge : BridgeState) (bounded : Bounded bridge.tracker)
    (now later : DateTime) (envelope : OpenLinkEnvelope)
    (room : Room bridge.tracker.seenOpenlinkIds envelope.id) :
    step config (step config bridge (.received now envelope)) (.received later envelope) =
      step config bridge (.received now envelope) := by
  by_cases mode : config.mode = .ground
  · simp [step, stepUnder, mode]
  · cases fresh : bridge.tracker.isOpenlinkSeen envelope.id with
    | true =>
        rw [received_again config bridge now envelope fresh]
        exact received_again config bridge later envelope fresh
    | false =>
        apply received_again
        have marked : (runOn (handleOpenlinkMessage config now envelope)
            bridge).2.tracker.seenOpenlinkIds =
              remember bridge.tracker.seenOpenlinkIds envelope.id :=
          congrArg Prod.fst (received_seen noOutage config now bridge envelope fresh)
        rw [isOpenlinkSeen, decide_eq_true_iff, step, stepUnder, if_neg mode, marked]
        exact (mem_remember_self _ bounded.1 _).mpr room

theorem polled_twice (bridge : BridgeState) (bounded : Bounded bridge.tracker)
    (now later : DateTime) (polledAs again : String) (message : HoppieMessage)
    (room : Room bridge.tracker.seenHoppieHashes
      (config.hoppieMessageHash message.sender message.packet)) :
    step config (step config bridge (.polled now polledAs message)) (.polled later again message) =
      step config bridge (.polled now polledAs message) := by
  by_cases cpdlc : config.mode ≠ .aircraft ∧ message.msgType = .cpdlc
  · cases fresh : bridge.tracker.isHoppieSeen
        (config.hoppieMessageHash message.sender message.packet) with
    | true =>
        rw [polled_again config bridge now polledAs message fresh]
        exact polled_again config bridge later again message fresh
    | false =>
        apply polled_again
        rw [isHoppieSeen, decide_eq_true_iff, step, stepUnder, if_neg cpdlc.1,
          polled_hashes noOutage config now bridge polledAs message cpdlc.2 fresh]
        exact (mem_remember_self _ bounded.2 _).mpr room
  · rw [not_and_or, not_not] at cpdlc
    rcases cpdlc with mode | other
    · simp [step, stepUnder, mode]
    · simp [step, stepUnder, handleHoppieMessageUnder, other]

end Redelivery

/-! The latest message, after any run of marks. -/
section Latest

/-- The message marked last is known, and delivering it again changes nothing. -/
def RemembersOpenlink (tracker : SessionTracker) (id : String) : Prop :=
  (tracker.markOpenlinkSeen id).isOpenlinkSeen id = true ∧
    ∀ (config : BridgeConfig) (bridge : BridgeState) (now later : DateTime)
      (envelope : OpenLinkEnvelope), bridge.tracker = tracker → envelope.id = id →
      step config (step config bridge (.received now envelope)) (.received later envelope) =
        step config bridge (.received now envelope)

def RemembersHoppie (tracker : SessionTracker) (hash : UInt64) : Prop :=
  (tracker.markHoppieSeen hash).isHoppieSeen hash = true ∧
    ∀ (config : BridgeConfig) (bridge : BridgeState) (now later : DateTime)
      (polledAs again : String) (message : HoppieMessage), bridge.tracker = tracker →
      config.hoppieMessageHash message.sender message.packet = hash →
      step config (step config bridge (.polled now polledAs message))
          (.polled later again message) =
        step config bridge (.polled now polledAs message)

/-- The sets stay bounded over every run, and the latest message is remembered exactly when
it was known before or its set had room for it. -/
theorem latest_remembered_iff (marks : List Mark) :
    Bounded (exec mark .empty marks) ∧
    (∀ id, RemembersOpenlink (exec mark .empty marks) id ↔
      Room (exec mark .empty marks).seenOpenlinkIds id) ∧
    (∀ hash, RemembersHoppie (exec mark .empty marks) hash ↔
      Room (exec mark .empty marks).seenHoppieHashes hash) := by
  have bounded := bounded_marks marks
  refine ⟨bounded, fun id => ?_, fun hash => ?_⟩
  · rw [RemembersOpenlink, openlink_seen_iff _ bounded]
    refine and_iff_left_of_imp fun room config bridge now later envelope same named => ?_
    rw [← same] at room bounded
    exact received_twice config bridge bounded now later envelope (named ▸ room)
  · rw [RemembersHoppie, hoppie_seen_iff _ bounded]
    refine and_iff_left_of_imp fun room config bridge now later polledAs again message same
      hashed => ?_
    rw [← same] at room bounded
    exact polled_twice config bridge bounded now later polledAs again message (hashed ▸ room)

def tenThousand : List UInt64 := (List.range 10000).map UInt64.ofNat

theorem ten_thousand_distinct : tenThousand.Nodup := by
  refine List.Nodup.map_on ?_ List.nodup_range
  intro left small right other same
  rw [List.mem_range] at small other
  have numbers := congrArg UInt64.toNat same
  simp only [UInt64.toNat_ofNat'] at numbers
  omega

/-- The message after them is forgotten at once. -/
theorem overflow_forgets :
    ¬ ∀ (marks : List Mark) (hash : UInt64),
      ((exec mark .empty marks).markHoppieSeen hash).isHoppieSeen hash = true := by
  intro remembered
  have length : tenThousand.length = 10000 := by simp [tenThousand]
  have full : (exec mark .empty (tenThousand.map Mark.hoppie)).seenHoppieHashes =
      tenThousand.toFinset := by
    rw [hashes_marked, remember_each tenThousand ten_thousand_distinct (by omega)]
  have known := (hoppie_seen_iff _ (bounded_marks _) 10000).mp
    (remembered (tenThousand.map Mark.hoppie) 10000)
  rw [Room, full, List.toFinset_card_of_nodup ten_thousand_distinct, length] at known
  rcases known with member | few
  · obtain ⟨number, small, same⟩ := List.mem_map.mp (List.mem_toFinset.mp member)
    rw [List.mem_range] at small
    have numbers := congrArg UInt64.toNat same
    rw [UInt64.toNat_ofNat', show (10000 : UInt64).toNat = 10000 from rfl] at numbers
    omega
  · omega

end Latest

end OpenLink.SeenMessages
