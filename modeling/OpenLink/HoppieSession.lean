import Mathlib.Data.Finset.Card
import Mathlib.Logic.Function.Basic

/-!
What the bridge remembers: a MIN counter and two MIN maps for each pair of an
aircraft and a station, and the messages it has seen. A hash map is a partial
function.
-/
namespace OpenLink.HoppieSession

abbrev HashMap (Key Value : Type) := Key → Option Value

structure SessionKey where
  aircraft : String
  station : String
  deriving DecidableEq

def SessionKey.new (toUppercase : String → String) (aircraft station : String) : SessionKey :=
  ⟨toUppercase aircraft, toUppercase station⟩

structure SessionTracker where
  minCounters : HashMap SessionKey UInt8
  minMapHoppieToOpenlink : HashMap (SessionKey × UInt8) UInt8
  minMapOpenlinkToHoppie : HashMap (SessionKey × UInt8) UInt8
  seenOpenlinkIds : Finset String
  seenHoppieHashes : Finset UInt64

namespace SessionTracker

def empty : SessionTracker := ⟨fun _ => none, fun _ => none, fun _ => none, ∅, ∅⟩

/-- The counter of a pair that has none yet is zero. -/
def counter (tracker : SessionTracker) (key : SessionKey) : UInt8 :=
  (tracker.minCounters key).getD 0

def followingMin (counter : UInt8) : UInt8 := counter % 63 + 1

def nextMin (tracker : SessionTracker) (key : SessionKey) : UInt8 × SessionTracker :=
  let min := followingMin (tracker.counter key)
  (min, { tracker with minCounters := Function.update tracker.minCounters key (some min) })

def recordHoppieMin (tracker : SessionTracker) (key : SessionKey) (hoppieMin bridgeMin : UInt8) :
    SessionTracker :=
  { tracker with
    minMapHoppieToOpenlink :=
      Function.update tracker.minMapHoppieToOpenlink (key, hoppieMin) (some bridgeMin) }

def recordOpenlinkMin (tracker : SessionTracker) (key : SessionKey)
    (openlinkMin bridgeMin : UInt8) : SessionTracker :=
  { tracker with
    minMapOpenlinkToHoppie :=
      Function.update tracker.minMapOpenlinkToHoppie (key, openlinkMin) (some bridgeMin) }

def translateHoppieMrn (tracker : SessionTracker) (key : SessionKey) (hoppieMrn : UInt8) :
    Option UInt8 :=
  tracker.minMapHoppieToOpenlink (key, hoppieMrn)

def isOpenlinkSeen (tracker : SessionTracker) (id : String) : Bool :=
  decide (id ∈ tracker.seenOpenlinkIds)

def isHoppieSeen (tracker : SessionTracker) (hash : UInt64) : Bool :=
  decide (hash ∈ tracker.seenHoppieHashes)

/-- A set that has grown too large starts over, without the item just added. -/
def remember {Item : Type} [DecidableEq Item] (seen : Finset Item) (item : Item) : Finset Item :=
  if 10000 < (insert item seen).card then ∅ else insert item seen

def markOpenlinkSeen (tracker : SessionTracker) (id : String) : SessionTracker :=
  { tracker with seenOpenlinkIds := remember tracker.seenOpenlinkIds id }

def markHoppieSeen (tracker : SessionTracker) (hash : UInt64) : SessionTracker :=
  { tracker with seenHoppieHashes := remember tracker.seenHoppieHashes hash }

/-- The session is forgotten, the messages seen are not. -/
def resetSession (tracker : SessionTracker) (key : SessionKey) : SessionTracker :=
  { tracker with
    minCounters := Function.update tracker.minCounters key none
    minMapHoppieToOpenlink := fun entry =>
      if entry.1 = key then none else tracker.minMapHoppieToOpenlink entry
    minMapOpenlinkToHoppie := fun entry =>
      if entry.1 = key then none else tracker.minMapOpenlinkToHoppie entry }

end SessionTracker

end OpenLink.HoppieSession
