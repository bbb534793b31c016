import OpenLink.Slots

/-!
A revisioned key/value bucket. The bucket keeps the last message of every
subject, oldest first; a delete leaves a marker with a revision of its own. The
stream numbers its messages from one, so revision zero names a key that was
never written. Serialization of the stored values is outside this model. An
operation on a key that is not valid fails before it reaches the bucket.
-/
namespace OpenLink.Kv

/-- The client of the bucket takes these keys. -/
def validKey (key : String) : Bool :=
  let characters := key.toList
  characters != [] && characters.head? != some '.' && characters.getLast? != some '.' &&
    characters.all fun character => character.isAlphanum || "-/_=.".toList.contains character

structure KvEntry (Value : Type) where
  value : Option Value
  revision : Nat
  deriving DecidableEq

structure KvStore (Key Value : Type) where
  entries : List (Key × KvEntry Value)
  lastRevision : Nat
  distinct : (entries.map Prod.fst).Nodup
  stamped : ∀ item ∈ entries, 0 < item.2.revision ∧ item.2.revision ≤ lastRevision

namespace KvStore
variable {Key Value : Type} [DecidableEq Key]

def empty : KvStore Key Value := ⟨[], 0, List.nodup_nil, by simp⟩

/-- The last message of the key, delete markers included. -/
def entry (store : KvStore Key Value) (key : Key) : Option (KvEntry Value) :=
  (store.entries.find? fun item => item.1 == key).map Prod.snd

def get (store : KvStore Key Value) (key : Key) : Option Value :=
  (store.entry key).bind KvEntry.value

def keys (store : KvStore Key Value) : List Key :=
  (store.entries.filter fun item => item.2.value.isSome).map Prod.fst

def revision (store : KvStore Key Value) (key : Key) : Nat :=
  match store.entry key with
  | some found => found.revision
  | none => 0

theorem write_distinct (entries : List (Key × KvEntry Value)) (key : Key) (written : KvEntry Value)
    (distinct : (entries.map Prod.fst).Nodup) :
    ((entries.filter (fun item => item.1 != key) ++ [(key, written)]).map Prod.fst).Nodup := by
  rw [List.map_append, List.nodup_append]
  refine ⟨distinct.sublist (List.filter_sublist.map _), by simp, ?_⟩
  rintro other member last single rfl
  obtain ⟨item, kept, same⟩ := List.mem_map.mp member
  have away := (List.mem_filter.mp kept).2
  simp only [List.map_cons, List.map_nil, List.mem_singleton] at single
  subst single
  simp [same] at away

theorem write_stamped (entries : List (Key × KvEntry Value)) (last : Nat) (key : Key)
    (value : Option Value)
    (stamped : ∀ item ∈ entries, 0 < item.2.revision ∧ item.2.revision ≤ last) :
    ∀ item ∈ entries.filter (fun item => item.1 != key) ++ [(key, ⟨value, last + 1⟩)],
      0 < item.2.revision ∧ item.2.revision ≤ last + 1 := by
  intro item member
  rcases List.mem_append.mp member with kept | fresh
  · have bound := stamped item (List.mem_filter.mp kept).1
    exact ⟨bound.1, Nat.le_succ_of_le bound.2⟩
  · rw [List.mem_singleton.mp fresh]
    exact ⟨Nat.succ_pos last, Nat.le_refl _⟩

def write (store : KvStore Key Value) (key : Key) (value : Option Value) : KvStore Key Value where
  entries := store.entries.filter (fun item => item.1 != key) ++
    [(key, ⟨value, store.lastRevision + 1⟩)]
  lastRevision := store.lastRevision + 1
  distinct := write_distinct store.entries key _ store.distinct
  stamped := write_stamped store.entries store.lastRevision key value store.stamped

def put (store : KvStore Key Value) (key : Key) (value : Value) : KvStore Key Value :=
  store.write key (some value)

/-- A delete is not conditional on a revision. -/
def delete (store : KvStore Key Value) (key : Key) : KvStore Key Value :=
  store.write key none

/-- An update is accepted only at the key's latest revision. -/
def update (store : KvStore Key Value) (key : Key) (value : Value) (expected : Nat) :
    Except String (KvStore Key Value) :=
  if expected = store.revision key then .ok (store.put key value)
  else .error "wrong last sequence"

theorem find_erased (entries : List (Key × KvEntry Value)) (key other : Key) :
    (entries.filter fun item => item.1 != key).find? (fun item => item.1 == other) =
      if other = key then none else entries.find? fun item => item.1 == other := by
  induction entries with
  | nil => simp
  | cons item rest ih =>
      by_cases erased : item.1 = key
      · rw [List.filter_cons_of_neg (by simp [erased]), ih]
        by_cases same : other = key
        · simp [same]
        · simp [same, erased, Ne.symm same]
      · rw [List.filter_cons_of_pos (by simp [erased])]
        by_cases hit : item.1 = other
        · subst hit
          simp [erased]
        · simp [hit, ih]

theorem entry_write (store : KvStore Key Value) (key other : Key) (value : Option Value) :
    (store.write key value).entry other =
      if other = key then some ⟨value, store.lastRevision + 1⟩ else store.entry other := by
  simp only [entry, write, List.find?_append, find_erased]
  by_cases same : other = key
  · simp [same]
  · simp [same, Ne.symm same]

@[simp] theorem get_empty (key : Key) : (empty : KvStore Key Value).get key = none := rfl

theorem get_write (store : KvStore Key Value) (key other : Key) (value : Option Value) :
    (store.write key value).get other = if other = key then value else store.get other := by
  simp only [get, entry_write]
  by_cases same : other = key <;> simp [same]

@[simp] theorem get_put (store : KvStore Key Value) (key other : Key) (value : Value) :
    (store.put key value).get other = if other = key then some value else store.get other :=
  get_write store key other (some value)

@[simp] theorem get_delete (store : KvStore Key Value) (key other : Key) :
    (store.delete key).get other = if other = key then none else store.get other :=
  get_write store key other none

theorem revision_le (store : KvStore Key Value) (key : Key) :
    store.revision key ≤ store.lastRevision := by
  unfold revision
  cases present : store.entry key with
  | none => exact Nat.zero_le _
  | some found =>
      obtain ⟨item, located, same⟩ := Option.map_eq_some_iff.mp present
      subst same
      exact (store.stamped item (List.mem_of_find?_eq_some located)).2

theorem revision_write (store : KvStore Key Value) (key : Key) (value : Option Value) :
    (store.write key value).revision key = store.lastRevision + 1 := by
  simp [revision, entry_write]

theorem update_latest (store : KvStore Key Value) (key : Key) (value : Value) :
    store.update key value (store.revision key) = .ok (store.put key value) := by
  simp [update]

theorem entry_eq_of_mem (store : KvStore Key Value) (item : Key × KvEntry Value)
    (member : item ∈ store.entries) : store.entry item.1 = some item.2 := by
  have found := Slots.find_of_mem Prod.fst store.entries store.distinct item member
  rw [entry, found, Option.map_some]

omit [DecidableEq Key] in
theorem keys_nodup (store : KvStore Key Value) : store.keys.Nodup :=
  store.distinct.sublist (List.filter_sublist.map _)

theorem keys_put (store : KvStore Key Value) (key : Key) (value : Value) :
    (store.put key value).keys = store.keys.filter (fun other => other != key) ++ [key] := by
  simp only [keys, put, write, List.filter_append, List.filter_map, List.map_append,
    List.filter_filter]
  simp [Bool.and_comm]

theorem mem_keys_iff (store : KvStore Key Value) (key : Key) :
    key ∈ store.keys ↔ ∃ value, store.get key = some value := by
  simp only [keys, List.mem_map, List.mem_filter]
  constructor
  · rintro ⟨item, ⟨member, live⟩, rfl⟩
    obtain ⟨value, present⟩ := Option.isSome_iff_exists.mp live
    exact ⟨value, by simp [get, store.entry_eq_of_mem item member, present]⟩
  · rintro ⟨value, present⟩
    obtain ⟨found, located, live⟩ := Option.bind_eq_some_iff.mp present
    obtain ⟨item, hit, same⟩ := Option.map_eq_some_iff.mp located
    subst same
    have key_eq : item.1 = key := by simpa using List.find?_some hit
    exact ⟨item, ⟨List.mem_of_find?_eq_some hit, by simp [live]⟩, key_eq⟩

end KvStore
end OpenLink.Kv
