import OpenLink.CyclicCounters
import OpenLink.SdkClient
import OpenLink.Texts
import OpenLink.TsEnvelope

/-!
The three sources of MINs: the Rust client and the TypeScript builders store the
next one, the tracker of the bridge the last one. Each is a family of counters of
period 63.
-/
namespace OpenLink.MinSequencing
open Cpdlc CyclicCounters Envelope HoppieSession Runs SdkClient Texts TsEnvelope TsTypes

def storedPosition (stored : Nat) : Nat :=
  if 0 < stored ∧ stored ≤ 63 then stored - 1 else 0

/-- The MIN that a stored value stands for, and the value stored after it. -/
def normalized (stored : Nat) : Nat := if 0 < stored ∧ stored ≤ 63 then stored else 1

def following (current : Nat) : Nat := if 63 ≤ current then 1 else current + 1

theorem normalized_position (stored : Nat) : normalized stored = storedPosition stored + 1 := by
  unfold normalized storedPosition
  split <;> omega

theorem stored_position_bound (stored : Nat) : storedPosition stored < 63 := by
  unfold storedPosition
  split <;> omega

theorem following_position (stored : Nat) :
    storedPosition (following (normalized stored)) = (storedPosition stored + 1) % 63 := by
  have bounds : 1 ≤ normalized stored ∧ normalized stored ≤ 63 := by
    unfold normalized
    split <;> omega
  rw [← normalized_position]
  by_cases last : 63 ≤ normalized stored
  · have whole : normalized stored = 63 := by omega
    rw [whole]
    rfl
  · have inside : 0 < normalized stored + 1 ∧ normalized stored + 1 ≤ 63 := by omega
    rw [following, if_neg last, storedPosition, if_pos inside, Nat.mod_eq_of_lt (by omega)]
    rfl

/-! The TypeScript builders. -/
section Builders

def tsAllocator : Allocator Sequences String where
  next := TsEnvelope.nextMinAt
  reset minSequences key := Function.update minSequences key (some 1)

def tsPosition (minSequences : Sequences) (key : String) : Nat :=
  storedPosition ((minSequences key).getD 1)

theorem ts_cycles : Cycles tsAllocator 63 tsPosition where
  value minSequences key := normalized_position _
  next minSequences key other := by
    by_cases same : key = other
    · subst same
      rw [if_pos rfl, tsPosition, tsPosition]
      simp only [tsAllocator, TsEnvelope.nextMinAt, Function.update_self, Option.getD_some]
      exact following_position _
    · rw [if_neg same, tsPosition, tsPosition]
      simp only [tsAllocator, TsEnvelope.nextMinAt, Function.update_of_ne (Ne.symm same)]
  reset minSequences key other := by
    by_cases same : key = other
    · subst same
      simp [tsPosition, tsAllocator, storedPosition]
    · simp [tsPosition, tsAllocator, same, Function.update_of_ne (Ne.symm same)]

end Builders

/-! The Rust client, whose numbers have eight bits. -/
section Client

def clientAllocator : Allocator OpenLinkClient String where
  next client key := ((client.nextMinAt key).1.toNat, (client.nextMinAt key).2)
  reset client key :=
    { client with minSequences := Function.update client.minSequences key (some 1) }

def clientPosition (client : OpenLinkClient) (key : String) : Nat :=
  storedPosition ((client.minSequences key).getD 1).toNat

theorem normalized_byte (entry : UInt8) :
    (if entry = 0 ∨ 63 < entry then 1 else entry : UInt8).toNat = normalized entry.toNat := by
  unfold normalized
  by_cases out : entry = 0 ∨ 63 < entry
  · rw [if_pos out]
    rw [UInt8.lt_iff_toNat_lt, ← UInt8.toNat_inj] at out
    change entry.toNat = 0 ∨ 63 < entry.toNat at out
    rw [if_neg (by omega)]
    rfl
  · rw [if_neg out]
    rw [UInt8.lt_iff_toNat_lt, ← UInt8.toNat_inj] at out
    change ¬ (entry.toNat = 0 ∨ 63 < entry.toNat) at out
    rw [if_pos (by omega)]

theorem following_byte (current : UInt8) :
    (if 63 ≤ current then 1 else current + 1 : UInt8).toNat = following current.toNat := by
  unfold following
  by_cases last : 63 ≤ current
  · rw [if_pos last]
    rw [UInt8.le_iff_toNat_le] at last
    exact (if_pos last).symm
  · rw [if_neg last]
    rw [UInt8.le_iff_toNat_le] at last
    change ¬ 63 ≤ current.toNat at last
    rw [if_neg last, UInt8.toNat_add]
    change (current.toNat + 1) % 256 = current.toNat + 1
    omega

theorem client_cycles : Cycles clientAllocator 63 clientPosition where
  value client key := by
    simp only [clientAllocator, OpenLinkClient.nextMinAt, normalized_byte]
    exact normalized_position _
  next client key other := by
    by_cases same : key = other
    · subst same
      rw [if_pos rfl, clientPosition, clientPosition]
      simp only [clientAllocator, OpenLinkClient.nextMinAt, Function.update_self, Option.getD_some,
        following_byte, normalized_byte]
      exact following_position _
    · rw [if_neg same, clientPosition, clientPosition]
      simp only [clientAllocator, OpenLinkClient.nextMinAt, Function.update_of_ne (Ne.symm same)]
  reset client key other := by
    by_cases same : key = other
    · subst same
      simp [clientPosition, clientAllocator, storedPosition]
    · simp [clientPosition, clientAllocator, same, Function.update_of_ne (Ne.symm same)]

end Client

/-! The tracker of the bridge, which stores the last MIN. -/
section Tracker

def trackerAllocator : Allocator SessionTracker SessionKey where
  next tracker key := ((tracker.nextMin key).1.toNat, (tracker.nextMin key).2)
  reset := SessionTracker.resetSession

def trackerPosition (tracker : SessionTracker) (key : SessionKey) : Nat :=
  (tracker.counter key).toNat % 63

theorem following_min (counter : UInt8) :
    (SessionTracker.followingMin counter).toNat = counter.toNat % 63 + 1 := by
  rw [SessionTracker.followingMin, UInt8.toNat_add, UInt8.toNat_mod]
  change (counter.toNat % 63 + 1) % 256 = counter.toNat % 63 + 1
  omega

theorem tracker_cycles : Cycles trackerAllocator 63 trackerPosition where
  value tracker key := following_min _
  next tracker key other := by
    by_cases same : key = other
    · subst same
      simp only [trackerPosition, trackerAllocator, SessionTracker.nextMin, SessionTracker.counter,
        Function.update_self, Option.getD_some, following_min, if_true]
    · simp only [trackerPosition, trackerAllocator, SessionTracker.nextMin, SessionTracker.counter,
        Function.update_of_ne (Ne.symm same), if_neg same]
  reset tracker key other := by
    by_cases same : key = other
    · subst same
      simp [trackerPosition, trackerAllocator, SessionTracker.resetSession, SessionTracker.counter]
    · simp [trackerPosition, trackerAllocator, SessionTracker.resetSession, SessionTracker.counter,
        same, Function.update_of_ne (Ne.symm same)]

end Tracker

/-! The law, for pairs of callsigns. -/
section Law

abbrev Callsign := { callsign : String // '>' ∉ callsign.toList }

abbrev Pair := Callsign × Callsign

def pairKey (pair : Pair) : String := OpenLinkClient.sequenceKey pair.1 pair.2

theorem pair_key_injective : Function.Injective pairKey := by
  rintro ⟨⟨sender, plain⟩, receiver, _⟩ ⟨⟨other, bare⟩, another, _⟩ same
  have spelled := congrArg String.toList same
  simp only [pairKey, OpenLinkClient.sequenceKey, String.toList_append, List.append_assoc] at spelled
  -- the first separator of a key ends its sender
  have cut := congrArg (splitOnce ['>']) spelled
  change splitOnce ['>'] (sender.toList ++ '>' :: receiver.toList) =
    splitOnce ['>'] (other.toList ++ '>' :: another.toList) at cut
  rw [split_once_char plain, split_once_char bare, Option.some.injEq, Prod.mk.injEq,
    String.toList_inj, String.toList_inj] at cut
  simp [cut]

/-- The MIN counts the uses of its key since the last reset, round and round from 1 to 63. -/
def Counted {Key : Type} [DecidableEq Key] (min : Nat) (key : Key)
    (operations : List (Operation Key)) : Prop :=
  min = uses key operations % 63 + 1 ∧ 1 ≤ min ∧ min ≤ 63

theorem next_counted {State Key : Type} [DecidableEq Key] {allocator : Allocator State Key}
    {position : State → Key → Nat} (cycles : Cycles allocator 63 position) (start : State)
    (key : Key) (fresh : position start key = 0) (operations : List (Operation Key)) :
    Counted (allocator.next (exec allocator.apply start operations) key).1 key operations :=
  ⟨next_value cycles start key fresh operations,
    next_bounds cycles start key fresh operations (by decide)⟩

def clientStep (client : OpenLinkClient) : Operation Pair → OpenLinkClient
  | .next pair => (client.nextMinForSession pair.1 pair.2).2
  | .reset pair => client.resetMinForSession pair.1 pair.2

theorem client_steps (client : OpenLinkClient) (operations : List (Operation Pair)) :
    exec clientStep client operations =
      exec clientAllocator.apply client (operations.map (Operation.map pairKey)) := by
  induction operations generalizing client with
  | nil => rfl
  | cons operation rest ih => cases operation <;> exact ih _

theorem client_law (network : NetworkId) (cid : NetworkAddress)
    (operations : List (Operation Pair)) (pair : Pair) :
    Counted ((exec clientStep ⟨network, cid, fun _ => none⟩ operations).nextMinForSession
      pair.1 pair.2).1.toNat pair operations := by
  have counted := next_counted client_cycles ⟨network, cid, fun _ => none⟩ (pairKey pair) rfl
    (operations.map (Operation.map pairKey))
  rw [← client_steps] at counted
  unfold Counted at counted ⊢
  rwa [uses_renamed pairKey pair_key_injective] at counted

def tsStep (minSequences : Sequences) : Operation Pair → Sequences
  | .next pair => (TsEnvelope.nextMinForSession minSequences pair.1 pair.2).2
  | .reset pair => TsEnvelope.resetMinForSession minSequences pair.1 pair.2

theorem ts_steps (minSequences : Sequences) (operations : List (Operation Pair)) :
    exec tsStep minSequences operations =
      exec tsAllocator.apply minSequences (operations.map (Operation.map pairKey)) := by
  induction operations generalizing minSequences with
  | nil => rfl
  | cons operation rest ih => cases operation <;> exact ih _

theorem ts_law (operations : List (Operation Pair)) (pair : Pair) :
    Counted (TsEnvelope.nextMinForSession (exec tsStep (fun _ => none) operations)
      pair.1 pair.2).1 pair operations := by
  have counted := next_counted ts_cycles (fun _ => none) (pairKey pair) rfl
    (operations.map (Operation.map pairKey))
  rw [← ts_steps] at counted
  unfold Counted at counted ⊢
  rwa [uses_renamed pairKey pair_key_injective] at counted

variable (toUppercase : String → String)

def sessionOf (pair : String × String) : SessionKey := SessionKey.new toUppercase pair.1 pair.2

def trackerStep (tracker : SessionTracker) : Operation (String × String) → SessionTracker
  | .next pair => (tracker.nextMin (sessionOf toUppercase pair)).2
  | .reset pair => tracker.resetSession (sessionOf toUppercase pair)

theorem tracker_steps (tracker : SessionTracker) (operations : List (Operation (String × String))) :
    exec (trackerStep toUppercase) tracker operations =
      exec trackerAllocator.apply tracker
        (operations.map (Operation.map (sessionOf toUppercase))) := by
  induction operations generalizing tracker with
  | nil => rfl
  | cons operation rest ih => cases operation <;> exact ih _

theorem tracker_law (operations : List (Operation (String × String))) (pair : String × String) :
    Counted ((exec (trackerStep toUppercase) .empty operations).nextMin
        (sessionOf toUppercase pair)).1.toNat
      (sessionOf toUppercase pair) (operations.map (Operation.map (sessionOf toUppercase))) := by
  rw [tracker_steps]
  exact next_counted tracker_cycles .empty (sessionOf toUppercase pair) rfl _

end Law

end OpenLink.MinSequencing
