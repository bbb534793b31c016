import OpenLink.Actions
import OpenLink.Runs

/-!
Optimistic transactions. A transaction reads the state once and finishes later,
with what it read, on whatever the state has become; any number of them are
under way at a time. The state has a version that every write raises, and what a
transaction read carries the version it was read at. A transaction that succeeds
at its own version is as good as one that ran alone.
-/
namespace OpenLink.Transactions
open Actions Runs

structure Optimistic (Client State Snapshot Result : Type) where
  observe : State → Snapshot
  finish : Client → Snapshot → State → Except String Result × State
  version : State → Nat
  stamp : Snapshot → Nat
  observed_stamp : ∀ state, stamp (observe state) = version state
  failed_keeps : ∀ client seen state message,
    (finish client seen state).1 = .error message → (finish client seen state).2 = state
  writes_raise : ∀ client seen state,
    (finish client seen state).2 = state ∨ version state < version (finish client seen state).2

inductive Phase (Snapshot Result : Type) where
  | waiting
  | reading (seen : Snapshot)
  | finished (result : Except String Result)
  deriving DecidableEq

structure System (Client State Snapshot Result : Type) where
  store : State
  phase : Client → Phase Snapshot Result

inductive Move (Client : Type) where
  | read (client : Client)
  | finish (client : Client)
  deriving DecidableEq

variable {Client State Snapshot Result : Type}

def initial (store : State) : System Client State Snapshot Result := ⟨store, fun _ => .waiting⟩

namespace Optimistic
variable (protocol : Optimistic Client State Snapshot Result)

def whole (client : Client) : Action State Result :=
  ExceptT.mk fun state => protocol.finish client (protocol.observe state) state

/-- The transactions that succeeded, run whole one after the other in some order,
return what they returned and leave the same state. -/
def Serializable (start : State) (system : System Client State Snapshot Result) : Prop :=
  ∃ order : List Client, order.Nodup ∧
    (∀ client, client ∈ order ↔ ∃ result, system.phase client = .finished (.ok result)) ∧
    ∃ results, runOn (order.mapM protocol.whole) start = (.ok results, system.store) ∧
      order.map system.phase = results.map fun result => .finished (.ok result)

def current (system : System Client State Snapshot Result) : Move Client → Prop
  | .read _ => True
  | .finish client => ∀ seen result, system.phase client = .reading seen →
      (protocol.finish client seen system.store).1 = .ok result →
      protocol.stamp seen = protocol.version system.store

def Dated (system : System Client State Snapshot Result) : Prop :=
  ∀ client seen, system.phase client = .reading seen →
    protocol.stamp seen ≤ protocol.version system.store ∧
      (protocol.stamp seen = protocol.version system.store → seen = protocol.observe system.store)

variable {protocol}

theorem run_whole (client : Client) (state : State) :
    runOn (protocol.whole client) state =
      protocol.finish client (protocol.observe state) state := rfl

theorem run_order_snoc (order : List Client) (client : Client) (start between after : State)
    (results : List Result) (result : Result)
    (earlier : runOn (order.mapM protocol.whole) start = (.ok results, between))
    (last : runOn (protocol.whole client) between = (.ok result, after)) :
    runOn ((order ++ [client]).mapM protocol.whole) start = (.ok (results ++ [result]), after) := by
  simp [List.mapM_append, run_bind, earlier, run_map, last, Except.map]

theorem dated_initial (store : State) : protocol.Dated (initial store) := by
  intro client seen reading
  cases reading

theorem serializable_initial (start : State) :
    protocol.Serializable start (initial start) := by
  refine ⟨[], List.nodup_nil, ?_, [], rfl, rfl⟩
  intro client
  simp [initial]

/-- A client that has not succeeded is none of the serial order. -/
theorem unordered (order : List Client) (system : System Client State Snapshot Result)
    (exactly : ∀ client, client ∈ order ↔ ∃ result, system.phase client = .finished (.ok result))
    (client : Client) (pending : ∀ result, system.phase client ≠ .finished (.ok result)) :
    client ∉ order := by
  intro member
  obtain ⟨result, done⟩ := (exactly client).mp member
  exact pending result done

section Moves
variable [DecidableEq Client]

def step (protocol : Optimistic Client State Snapshot Result)
    (system : System Client State Snapshot Result) :
    Move Client → System Client State Snapshot Result
  | .read client =>
      match system.phase client with
      | .waiting =>
          { system with
            phase := Function.update system.phase client
              (.reading (protocol.observe system.store)) }
      | _ => system
  | .finish client =>
      match system.phase client with
      | .reading seen =>
          let (result, store) := protocol.finish client seen system.store
          ⟨store, Function.update system.phase client (.finished result)⟩
      | _ => system

inductive Stepped (protocol : Optimistic Client State Snapshot Result)
    (system : System Client State Snapshot Result) :
    Move Client → System Client State Snapshot Result → Prop where
  | lost (move : Move Client) : Stepped protocol system move system
  | read (client : Client) (waiting : system.phase client = .waiting) :
      Stepped protocol system (.read client) ⟨system.store,
        Function.update system.phase client (.reading (protocol.observe system.store))⟩
  | finished (client : Client) (seen : Snapshot) (reading : system.phase client = .reading seen) :
      Stepped protocol system (.finish client) ⟨(protocol.finish client seen system.store).2,
        Function.update system.phase client
          (.finished (protocol.finish client seen system.store).1)⟩

theorem stepped (system : System Client State Snapshot Result) (move : Move Client) :
    Stepped protocol system move (protocol.step system move) := by
  cases move with
  | read client =>
      cases phase : system.phase client with
      | waiting =>
          simp only [step, phase]
          exact .read client phase
      | _ =>
          simp only [step, phase]
          exact .lost _
  | finish client =>
      cases phase : system.phase client with
      | reading seen =>
          simp only [step, phase]
          exact .finished client seen phase
      | _ =>
          simp only [step, phase]
          exact .lost _

theorem dated_step (system : System Client State Snapshot Result) (move : Move Client)
    (dated : protocol.Dated system) : protocol.Dated (protocol.step system move) := by
  have done : Stepped protocol system move _ := stepped system move
  generalize protocol.step system move = after at done ⊢
  cases done with
  | lost => exact dated
  | read client waiting =>
      intro other seen reading
      by_cases own : other = client
      · subst own
        obtain rfl : protocol.observe system.store = seen := by simpa using reading
        exact ⟨Nat.le_of_eq (protocol.observed_stamp _), fun _ => rfl⟩
      · exact dated other seen (by simpa [own] using reading)
  | finished client snapshot before =>
      intro other seen reading
      by_cases own : other = client
      · subst own
        simp at reading
      · have earlier := dated other seen (by simpa [own] using reading)
        rcases protocol.writes_raise client snapshot system.store with kept | raised
        · simpa only [kept] using earlier
        -- a write leaves every snapshot behind
        · exact ⟨Nat.le_trans earlier.1 (Nat.le_of_lt raised), fun same =>
            absurd (Nat.lt_of_le_of_lt earlier.1 raised) (by simp [same])⟩

theorem map_phase_update (order : List Client) (phase : Client → Phase Snapshot Result)
    (client : Client) (absent : client ∉ order) (value : Phase Snapshot Result) :
    order.map (Function.update phase client value) = order.map phase := by
  apply List.map_congr_left
  intro other member
  have away : other ≠ client := fun same => absent (same ▸ member)
  simp [away]

theorem serializable_step (start : State) (system : System Client State Snapshot Result)
    (move : Move Client) (dated : protocol.Dated system)
    (serial : protocol.Serializable start system) (timely : protocol.current system move) :
    protocol.Serializable start (protocol.step system move) := by
  obtain ⟨order, distinct, exactly, results, ran, returned⟩ := serial
  have done : Stepped protocol system move _ := stepped system move
  generalize protocol.step system move = after at done ⊢
  cases done with
  | lost => exact ⟨order, distinct, exactly, results, ran, returned⟩
  | read client waiting =>
      have absent := unordered order system exactly client (by simp [waiting])
      refine ⟨order, distinct, ?_, results, ran, ?_⟩
      · intro other
        rw [exactly other]
        by_cases own : other = client
        · subst own
          simp [waiting]
        · simp [own]
      · rw [map_phase_update order system.phase client absent, returned]
  | finished client seen reading =>
      have absent := unordered order system exactly client (by simp [reading])
      cases outcome : (protocol.finish client seen system.store).1 with
      | error message =>
          refine ⟨order, distinct, ?_, results, ?_, ?_⟩
          · intro other
            rw [exactly other]
            by_cases own : other = client
            · subst own
              simp [reading]
            · simp [own]
          · rw [ran, protocol.failed_keeps client seen system.store message outcome]
          · rw [map_phase_update order system.phase client absent, returned]
      | ok result =>
          -- at its own version the snapshot is the state, and the transaction is whole
          have fresh : seen = protocol.observe system.store :=
            (dated client seen reading).2 (timely seen result reading outcome)
          subst fresh
          refine ⟨order ++ [client], ?_, ?_, results ++ [result], ?_, ?_⟩
          · refine List.nodup_append.mpr ⟨distinct, by simp, ?_⟩
            rintro other member _ last rfl
            exact absent (List.mem_singleton.mp last ▸ member)
          · intro other
            rw [List.mem_append, List.mem_singleton, exactly other]
            by_cases own : other = client
            · subst own
              simp
            · simp [own]
          · apply run_order_snoc order client start system.store _ results result ran
            rw [run_whole, ← outcome]
          · rw [List.map_append, List.map_append, map_phase_update order system.phase client absent,
              returned]
            simp

/-- In a run whose successful transactions all finish at the version they read,
the transactions are serializable at every moment. -/
theorem serializable_run (start : State) (moves : List (Move Client))
    (timely : Guarded protocol.step protocol.current (initial start) moves) :
    protocol.Serializable start (exec protocol.step (initial start) moves) :=
  (guarded_invariant protocol.step protocol.current
    (fun system => protocol.Dated system ∧ protocol.Serializable start system)
    (fun system move valid timely => ⟨dated_step system move valid.1,
      serializable_step start system move valid.1 valid.2 timely⟩)
    (initial start) ⟨dated_initial start, serializable_initial start⟩ moves timely).2

end Moves

end Optimistic
end OpenLink.Transactions
