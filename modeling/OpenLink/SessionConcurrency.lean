import OpenLink.CpdlcServer
import OpenLink.Transactions

/-!
Session updates of one aircraft by several clients at a time. Each is a
transaction on the bucket: it reads the session, and later writes what its
closure makes of what it read. A write of a session names the revision that was
read and is refused at any other; a delete names none.
-/
namespace OpenLink.SessionConcurrency
open Actions Cpdlc Kv Session CpdlcServer Transactions Runs

variable {Client Cell : Type} (aircraft : AcarsRoutingEndpoint)
    (updateFn : Client → Option CPDLCSession → Except String (Option CPDLCSession × Cell))

/-- The part of `get_and_update_session_for_aircraft` behind its read. -/
def finishUpdate (client : Client) (seen : Nat × Option CPDLCSession) (store : SessionStore) :
    Except String (Option CPDLCSession × Cell) × SessionStore :=
  match updateFn client seen.2 with
  | .error message => (.error message, store)
  | .ok (updated, cell) =>
      match commitSession store (sessionId aircraft) seen.1 updated with
      | .error message => (.error message, store)
      | .ok after => (.ok (updated, cell), after)

theorem commit_cases (store after : SessionStore) (id : String) (revision : Nat)
    (updated : Option CPDLCSession)
    (committed : commitSession store id revision updated = .ok after) :
    after = store.write id updated ∧ (updated ≠ none → revision = store.revision id) := by
  cases updated with
  | none =>
      obtain rfl : store.delete id = after := by simpa [commitSession] using committed
      exact ⟨rfl, fun present => absurd rfl present⟩
  | some session =>
      by_cases latest : revision = store.revision id
      · obtain rfl : store.put id session = after := by
          simpa [commitSession, KvStore.update, latest] using committed
        exact ⟨rfl, fun _ => latest⟩
      · simp [commitSession, KvStore.update, latest] at committed

theorem finish_cases (client : Client) (seen : Nat × Option CPDLCSession) (store : SessionStore) :
    (∃ message, finishUpdate aircraft updateFn client seen store = (.error message, store)) ∨
      ∃ updated cell, updateFn client seen.2 = .ok (updated, cell) ∧
        (updated ≠ none → seen.1 = store.revision (sessionId aircraft)) ∧
        finishUpdate aircraft updateFn client seen store =
          (.ok (updated, cell), store.write (sessionId aircraft) updated) := by
  unfold finishUpdate
  cases result : updateFn client seen.2 with
  | error message => exact Or.inl ⟨message, rfl⟩
  | ok outcome =>
      obtain ⟨updated, cell⟩ := outcome
      cases committed : commitSession store (sessionId aircraft) seen.1 updated with
      | error message => exact Or.inl ⟨message, by simp only [committed]⟩
      | ok after =>
          obtain ⟨rfl, latest⟩ := commit_cases store after _ _ updated committed
          exact Or.inr ⟨updated, cell, rfl, latest, by simp only [committed]⟩

def sessionUpdates :
    Optimistic Client SessionStore (Nat × Option CPDLCSession) (Option CPDLCSession × Cell) where
  observe store := readSession store (sessionId aircraft)
  finish := finishUpdate aircraft updateFn
  version store := store.revision (sessionId aircraft)
  stamp := Prod.fst
  observed_stamp store := read_session_revision store (sessionId aircraft)
  failed_keeps client seen store message failed := by
    rcases finish_cases aircraft updateFn client seen store with ⟨_, same⟩ | ⟨_, _, _, _, same⟩
    · rw [same]
    · simp [same] at failed
  writes_raise client seen store := by
    rcases finish_cases aircraft updateFn client seen store with ⟨_, same⟩ | ⟨_, _, _, _, same⟩
    · exact Or.inl (by rw [same])
    · apply Or.inr
      rw [same, KvStore.revision_write]
      exact Nat.lt_succ_of_le (store.revision_le _)

/-- Nothing in between, the two halves are the read-modify-write of the server. -/
theorem whole_update (client : Client) :
    (sessionUpdates aircraft updateFn).whole client =
      getAndUpdateSessionForAircraft aircraft (updateFn client) := by
  funext store
  change finishUpdate aircraft updateFn client (readSession store (sessionId aircraft)) store =
    runOn (getAndUpdateSessionForAircraft aircraft (updateFn client)) store
  simp only [getAndUpdateSessionForAircraft, finishUpdate, run_bind, run_get, run_lift]
  cases updateFn client (readSession store (sessionId aircraft)).2 with
  | error message => rfl
  | ok outcome =>
      obtain ⟨updated, cell⟩ := outcome
      simp only
      cases commitSession store (sessionId aircraft) (readSession store (sessionId aircraft)).1
        updated <;> rfl

/-- The updates that returned a result, run whole in some order from the same
bucket, return the same results and leave the same bucket. -/
def Serializable (start : SessionStore)
    (system : System Client SessionStore (Nat × Option CPDLCSession)
      (Option CPDLCSession × Cell)) : Prop :=
  ∃ order : List Client, order.Nodup ∧
    (∀ client, client ∈ order ↔ ∃ result, system.phase client = .finished (.ok result)) ∧
    ∃ results, runOn (order.mapM fun client =>
        getAndUpdateSessionForAircraft aircraft (updateFn client)) start =
        (.ok results, system.store) ∧
      order.map system.phase = results.map fun result => .finished (.ok result)

/-- A closure that returns no session does so for a read that is still the latest
when its delete reaches the bucket. -/
def deletesLatest (system : System Client SessionStore (Nat × Option CPDLCSession)
    (Option CPDLCSession × Cell)) : Move Client → Prop
  | .read _ => True
  | .finish client => ∀ revision value cell, system.phase client = .reading (revision, value) →
      updateFn client value = .ok (none, cell) →
      revision = system.store.revision (sessionId aircraft)

theorem deletes_latest_current
    (system : System Client SessionStore (Nat × Option CPDLCSession) (Option CPDLCSession × Cell))
    (move : Move Client) (latest : deletesLatest aircraft updateFn system move) :
    (sessionUpdates aircraft updateFn).current system move := by
  cases move with
  | read client => trivial
  | finish client =>
      intro seen result reading succeeded
      change (finishUpdate aircraft updateFn client seen system.store).1 = .ok result at succeeded
      rcases finish_cases aircraft updateFn client seen system.store with
        ⟨_, same⟩ | ⟨updated, cell, returned, checked, same⟩
      · simp [same] at succeeded
      · cases updated with
        | none => exact latest seen.1 seen.2 cell reading returned
        -- the bucket has made this test itself
        | some session => exact checked (by simp)

/-- However the reads and writes of any number of session updates interleave, the
updates are serializable at the end, provided that no delete acts on a read that
another write has overtaken. -/
theorem session_updates_serializable [DecidableEq Client] (start : SessionStore)
    (moves : List (Move Client))
    (latest : Guarded (sessionUpdates aircraft updateFn).step (deletesLatest aircraft updateFn)
      (initial start) moves) :
    Serializable aircraft updateFn start
      (exec (sessionUpdates aircraft updateFn).step (initial start) moves) := by
  have timely := guarded_mono (sessionUpdates aircraft updateFn).step _ _
    (deletes_latest_current aircraft updateFn) (initial start) moves latest
  have serial := Optimistic.serializable_run start moves timely
  have same : (sessionUpdates aircraft updateFn).whole =
      fun client => getAndUpdateSessionForAircraft aircraft (updateFn client) :=
    funext (whole_update aircraft updateFn)
  rwa [Optimistic.Serializable, same] at serial

/-! A delete that overtakes a logon. -/
section Overtaken

/-- Two updates of flight AFR123: `true` asks LFPG for a logon, `false` takes LFPG
offline, which returns no session where none is stored. -/
def logonOrOffline (logon : Bool) (maybeSession : Option CPDLCSession) :
    Except String (Option CPDLCSession × Unit) :=
  if logon then
    .ok (some ((maybeSession.getD (.new ⟨"AFR123", "39A1B2"⟩)).logonRequest ⟨"LFPG", ""⟩), ())
  else (terminationUpdate "LFPG" maybeSession).map fun session => (session, ())

def overtaken : List (Move Bool) := [.read false, .read true, .finish true, .finish false]

theorem both_orders (order : List Bool) (distinct : order.Nodup) (second : false ∈ order)
    (first : true ∈ order) : order = [false, true] ∨ order = [true, false] := by
  rcases order with _ | ⟨head, _ | ⟨next, _ | ⟨third, rest⟩⟩⟩
  · simp at first
  · cases head <;> simp at first second
  · cases head <;> cases next <;> simp at distinct ⊢
  · cases head <;> cases next <;> cases third <;> simp at distinct

/-- The delete of a session that was not there wipes out the logon made since; run
one after the other, the two updates leave a session behind. -/
theorem delete_overtakes_logon :
    ¬ Serializable ⟨"AFR123", "39A1B2"⟩ logonOrOffline KvStore.empty
      (exec (sessionUpdates ⟨"AFR123", "39A1B2"⟩ logonOrOffline).step (initial KvStore.empty)
        overtaken) := by
  rintro ⟨order, distinct, exactly, results, ran, _⟩
  have front := (exactly false).mpr ⟨(none, ()), by decide⟩
  have back := (exactly true).mpr ⟨_, rfl⟩
  have gone : (exec (sessionUpdates ⟨"AFR123", "39A1B2"⟩ logonOrOffline).step
      (initial KvStore.empty) overtaken).store.get "39A1B2" = none := by decide
  have serially := congrArg (fun outcome => outcome.2.get "39A1B2") ran
  rw [gone] at serially
  rcases both_orders order distinct front back with rfl | rfl
  · exact absurd serially (by decide)
  · exact absurd serially (by decide)

end Overtaken

/-! Updates that overlap without such a delete. -/
section Overlapping

def threeUpdates (client : Fin 3) (maybeSession : Option CPDLCSession) :
    Except String (Option CPDLCSession × Unit) :=
  let session := maybeSession.getD (.new ⟨"AFR123", "39A1B2"⟩)
  match client with
  | 0 => .ok (some (session.logonRequest ⟨"LFPG", ""⟩), ())
  | 1 => .ok (some (session.logonRequest ⟨"LFFF", ""⟩), ())
  | 2 => (terminationUpdate "LFPG" maybeSession).map fun session => (session, ())

/-- The second logon overlaps both other updates, and is refused for its revision. -/
theorem session_updates_serializable_overlapping :
    Serializable ⟨"AFR123", "39A1B2"⟩ threeUpdates KvStore.empty
      (exec (sessionUpdates ⟨"AFR123", "39A1B2"⟩ threeUpdates).step (initial KvStore.empty)
        [.read 0, .read 1, .finish 0, .read 2, .finish 1, .finish 2]) := by
  apply session_updates_serializable
  refine ⟨trivial, trivial, ?_, trivial, ?_, ?_, trivial⟩
  · intro revision value cell _ returned
    simp [threeUpdates] at returned
  · intro revision value cell _ returned
    simp [threeUpdates] at returned
  · intro revision value cell reading _
    obtain rfl : 1 = revision := congrArg Prod.fst (Phase.reading.inj reading)
    decide

end Overlapping

end OpenLink.SessionConcurrency
