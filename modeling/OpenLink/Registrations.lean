import OpenLink.NatsSubjects
import OpenLink.RefusedKeys

/-!
Who may register what. A message comes in on the outbox subject of its sender,
which the broker has checked, with an envelope that nobody has. The main loop
takes the address of a station from the envelope alone.
-/
namespace OpenLink.Registrations
open Cpdlc CpdlcServer Envelope Kv MainLoop MessageBuilder NatsSubjects RefusedKeys Registry Runs
  Server Session

structure NatsMessage where
  subject : String
  envelope : OpenLinkEnvelope

variable (config : ServerConfig) (accepts : String → Bool) (update : SessionUpdate)

/-- The server after one message of its subscription, handled at the given time; it never
looks at the subject. The buckets of the registry refuse some keys. -/
def consume (server : OpenLinkServer) (arrival : DateTime × NatsMessage) : OpenLinkServer :=
  mainLoopUnder config update (refusing accepts) server (.arrives arrival.1 arrival.2.envelope)

/-- The entry that a message has the server write. -/
def declared (arrival : DateTime × NatsMessage) : Option StationEntry :=
  reported accepts (.arrives arrival.1 arrival.2.envelope)

def Declares (sender : NetworkAddress) (message : NatsMessage) : Prop :=
  message.subject = outbox config.networkId sender ∧
    ∃ network, message.envelope.routing.source = .address network sender

section Recording
variable (toUppercase : String → String) (registry : StationRegistry) (entry : StationEntry)

/-- The callsign is one that the update declares or gives up, under a key that is accepted, or one
that leads to its station. -/
def Touches (callsign : AcarsEndpointCallsign) : Prop :=
  (accepts (callsignIndexKey toUppercase callsign) = true ∧
    (callsignIndexKey toUppercase callsign =
        callsignIndexKey toUppercase entry.acarsEndpoint.callsign ∨
      staleKey toUppercase registry entry = some (callsignIndexKey toUppercase callsign))) ∨
    registry.kvCallsignIndexStore.get (callsignIndexKey toUppercase callsign) =
      some entry.stationId

variable {accepts} (taken : accepts entry.stationId = true)

theorem lookup_spared (callsign : AcarsEndpointCallsign)
    (spared : ¬ Touches accepts toUppercase registry entry callsign) :
    lookupCallsign toUppercase (recordedWhere toUppercase accepts registry entry) callsign =
      lookupCallsign toUppercase registry callsign := by
  obtain ⟨unwritten, elsewhere⟩ := not_or.mp spared
  have kept : (recordedWhere toUppercase accepts registry entry).kvCallsignIndexStore.get
      (callsignIndexKey toUppercase callsign) =
        registry.kvCallsignIndexStore.get (callsignIndexKey toUppercase callsign) := by
    rw [recorded_where_index]
    split
    · next accepted =>
        have free := not_or.mp fun written => unwritten ⟨accepted.2, written⟩
        rw [recorded_index, if_neg free.1, if_neg free.2]
    · rfl
  unfold lookupCallsign
  rw [kept]
  cases indexed : registry.kvCallsignIndexStore.get (callsignIndexKey toUppercase callsign) with
  | none => rfl
  | some station =>
      have differs : ¬ (accepts entry.stationId = true ∧ station = entry.stationId) :=
        fun same => elsewhere (by rw [indexed, same.2])
      simp only
      rw [recorded_where_entry, if_neg differs]

include taken

/-- What a touched callsign resolves to is the new entry, or nothing. -/
theorem lookup_touched (callsign : AcarsEndpointCallsign) (known : StationEntry)
    (touched : Touches accepts toUppercase registry entry callsign)
    (found : lookupCallsign toUppercase (recordedWhere toUppercase accepts registry entry) callsign =
      some known) : known = entry := by
  unfold lookupCallsign at found
  split at found
  · contradiction
  next station indexed =>
    have own : station = entry.stationId := by
      rw [recorded_where_index] at indexed
      split at indexed
      · next accepted =>
          rw [recorded_index] at indexed
          split at indexed
          · split at indexed
            · exact (Option.some.inj indexed).symm
            · contradiction
          · next away =>
              split at indexed
              · contradiction
              · next kept =>
                  rcases touched with ⟨_, same | given⟩ | reached
                  · exact absurd same away
                  · exact absurd given kept
                  · exact Option.some.inj (indexed.symm.trans reached)
      · next refused =>
          rcases touched with ⟨accepted, _⟩ | reached
          · exact absurd ⟨taken, accepted⟩ refused
          · exact Option.some.inj (indexed.symm.trans reached)
    rw [recorded_where_entry, if_pos ⟨taken, own⟩] at found
    exact (Option.some.inj found).symm

end Recording

structure Writes (entry : StationEntry) (before after : StationRegistry) : Prop where
  written : ∀ id, getStatus after id = if id = entry.stationId then some entry
    else getStatus before id
  kept : ∀ id known, getStatus before id = some known →
    known.networkAddress ≠ entry.networkAddress →
    (getStatus after id = some known ↔ id ≠ entry.stationId)
  resolved : ∀ callsign known, lookupCallsign config.toUppercase before callsign = some known →
    known.networkAddress ≠ entry.networkAddress →
    (lookupCallsign config.toUppercase after callsign = some known ↔
      ¬ Touches accepts config.toUppercase before entry callsign)

theorem recorded_writes (registry : StationRegistry) (entry : StationEntry)
    (taken : accepts entry.stationId = true) :
    Writes config accepts entry registry
      (recordedWhere config.toUppercase accepts registry entry) where
  written id := by
    unfold getStatus
    rw [recorded_where_entry]
    simp only [taken, true_and]
  kept id known stored foreign := by
    unfold getStatus at stored ⊢
    rw [recorded_where_entry]
    by_cases own : id = entry.stationId
    · have differs : entry ≠ known := fun same => foreign (by rw [same])
      simp [own, taken, differs]
    · simp [own, stored]
  resolved callsign known found foreign := by
    constructor
    · intro still touched
      exact foreign (by rw [lookup_touched config.toUppercase registry entry taken callsign known
        touched still])
    · intro spared
      rw [lookup_spared config.toUppercase registry entry callsign spared, found]

structure Registers (arrival : DateTime × NatsMessage) (before after : StationRegistry) :
    Prop where
  silent : declared accepts arrival = none → after = before
  writes : ∀ entry, declared accepts arrival = some entry →
    (∃ network, arrival.2.envelope.routing.source = .address network entry.networkAddress) ∧
      Writes config accepts entry before after
  owned : ∀ sender, Declares config sender arrival.2 → ∀ id,
    getStatus after id ≠ getStatus before id →
    ∃ entry, getStatus after id = some entry ∧ entry.networkAddress = sender

/-- The status of a message names the source of its envelope, and a station that is accepted. -/
theorem declared_source (arrival : DateTime × NatsMessage) (entry : StationEntry)
    (announces : declared accepts arrival = some entry) :
    (∃ network, arrival.2.envelope.routing.source = .address network entry.networkAddress) ∧
      accepts entry.stationId = true := by
  obtain ⟨announced_entry, taken⟩ := Option.filter_eq_some_iff.mp announces
  refine ⟨?_, taken⟩
  unfold announced at announced_entry
  split at announced_entry
  next network address _ source =>
    cases announced_entry
    exact ⟨network, source⟩
  next => contradiction

theorem consume_registry (server : OpenLinkServer) (arrival : DateTime × NatsMessage) :
    (consume config accepts update server arrival).stationRegistry =
      match declared accepts arrival with
      | some entry => recordedWhere config.toUppercase accepts server.stationRegistry entry
      | none => server.stationRegistry := by
  unfold consume
  rw [under_registry, arrives_accepted]
  rfl

theorem consume_registers (server : OpenLinkServer) (arrival : DateTime × NatsMessage) :
    Registers config accepts arrival server.stationRegistry
      (consume config accepts update server arrival).stationRegistry := by
  rw [consume_registry]
  cases announces : declared accepts arrival with
  | none =>
      exact ⟨fun _ => rfl, fun entry found => absurd (announces.symm.trans found) (by simp),
        fun _ _ id changed => absurd rfl changed⟩
  | some entry =>
      obtain ⟨⟨network, source⟩, taken⟩ := declared_source accepts arrival entry announces
      have writes := recorded_writes config accepts server.stationRegistry entry taken
      refine ⟨fun silent => absurd (announces.symm.trans silent) (by simp), ?_, ?_⟩
      · intro other found
        obtain rfl : entry = other := Option.some.inj (announces.symm.trans found)
        exact ⟨⟨network, source⟩, writes⟩
      · rintro sender ⟨_, home, origin⟩ id changed
        have own : id = entry.stationId := by
          by_contra differs
          exact changed (by rw [writes.written, if_neg differs])
        refine ⟨entry, by rw [writes.written, if_pos own], ?_⟩
        rw [source, OpenLinkRoutingEndpoint.address.injEq] at origin
        exact origin.2

/-- The message leaves the callsign alone. -/
def Spares (callsign : AcarsEndpointCallsign) (server : OpenLinkServer)
    (arrival : DateTime × NatsMessage) : Prop :=
  ∀ entry, declared accepts arrival = some entry →
    ¬ Touches accepts config.toUppercase server.stationRegistry entry callsign

theorem consume_spares (callsign : AcarsEndpointCallsign) (server : OpenLinkServer)
    (arrival : DateTime × NatsMessage)
    (spared : Spares config accepts callsign server arrival) :
    lookupCallsign config.toUppercase
        (consume config accepts update server arrival).stationRegistry callsign =
      lookupCallsign config.toUppercase server.stationRegistry callsign := by
  rw [consume_registry]
  cases announces : declared accepts arrival with
  | none => rfl
  | some entry =>
      exact lookup_spared config.toUppercase server.stationRegistry entry callsign
        (spared entry announces)

/-- Whatever keys the buckets accept: in any sequence of messages each entry has the address that
its envelope declares, a sender that declares its own address writes no other, and a callsign goes
on resolving as long as no message that is accepted declares it, gives it up or names its
station. -/
theorem registrations (server : OpenLinkServer) (messages : List (DateTime × NatsMessage)) :
    (∀ before arrival, before ++ [arrival] <+: messages →
      Registers config accepts arrival
        (exec (consume config accepts update) server before).stationRegistry
        (exec (consume config accepts update) server (before ++ [arrival])).stationRegistry) ∧
    ∀ callsign known,
      lookupCallsign config.toUppercase server.stationRegistry callsign = some known →
      Guarded (consume config accepts update) (Spares config accepts callsign) server messages →
      lookupCallsign config.toUppercase
        (exec (consume config accepts update) server messages).stationRegistry callsign =
          some known := by
  constructor
  · intro before arrival _
    rw [exec_snoc]
    exact consume_registers config accepts update _ arrival
  · intro callsign known found spared
    exact guarded_invariant (consume config accepts update) (Spares config accepts callsign)
      (fun state => lookupCallsign config.toUppercase state.stationRegistry callsign = some known)
      (fun state arrival still spares =>
        (consume_spares config accepts update callsign state arrival spares).trans still)
      server found messages spared

section Sample

def towerEntry : StationEntry := ⟨"LFPG", .online, 0, "42", ⟨"LFPG", "LFPG"⟩⟩

def towerServer : OpenLinkServer where
  sessions := .empty
  stationRegistry := recorded asciiUppercase .empty towerEntry
  issued := 0
  sent := []

def statusMessage (source : NetworkAddress) (station : StationId) (callsign : String) :
    DateTime × NatsMessage :=
  (1, ⟨outbox "vatsim" "7", envelope "e1" 1 (.address "vatsim" source)
    (.server "vatsim") none (stationStatus station callsign callsign .online)⟩)

/-- Neither a station of its own nor a station id that is refused takes the callsign away. -/
theorem registrations_tower :
    lookupCallsign asciiUppercase
      (exec (consume vatsimConfig validKey getAndUpdateSessionForAircraft) towerServer
        [statusMessage "7" "EGLL" "EGLL", statusMessage "7" "EVIL UNIT" "LFPG"]).stationRegistry
      "LFPG" = some towerEntry := by
  apply (registrations vatsimConfig validKey getAndUpdateSessionForAircraft towerServer
    [statusMessage "7" "EGLL" "EGLL", statusMessage "7" "EVIL UNIT" "LFPG"]).2 "LFPG" towerEntry
  · decide
  · refine ⟨?_, ?_, trivial⟩
    · rintro entry found
      obtain rfl := Option.some.inj found
      unfold Touches
      decide
    · rintro entry found
      have refused : declared validKey (statusMessage "7" "EVIL UNIT" "LFPG") = none := by decide
      rw [refused] at found
      contradiction

/-- A message on the outbox of `7` that declares another source and another's station moves
the callsign of that station to a third address. -/
theorem forged_registration :
    let arrival := statusMessage "66" "LFPG" "LFPG"
    let after := (consume vatsimConfig validKey getAndUpdateSessionForAircraft towerServer
      arrival).stationRegistry
    arrival.2.subject = outbox "vatsim" "7" ∧
      getStatus towerServer.stationRegistry "LFPG" = some towerEntry ∧
      towerEntry.networkAddress = "42" ∧
      (getStatus after "LFPG").map (fun entry => entry.networkAddress) = some "66" ∧
      (lookupCallsign asciiUppercase after "LFPG").map (fun entry => entry.networkAddress) =
        some "66" := by
  decide

end Sample

end OpenLink.Registrations
