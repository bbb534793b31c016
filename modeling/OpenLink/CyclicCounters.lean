import OpenLink.Runs

/-!
Counters that run round from one to a period, one for each key, each of which can
be set back to its start. However an implementation stores them, it is enough to
say where each counter stands in its cycle and what the two operations do to that.
-/
namespace OpenLink.CyclicCounters
open Runs

inductive Operation (Key : Type) where
  | next (key : Key)
  | reset (key : Key)

def Operation.map {Key Other : Type} (rename : Key → Other) : Operation Key → Operation Other
  | .next key => .next (rename key)
  | .reset key => .reset (rename key)

structure Allocator (State Key : Type) where
  next : State → Key → Nat × State
  reset : State → Key → State

variable {State Other Key Name : Type} [DecidableEq Key] [DecidableEq Name]

def Allocator.apply (allocator : Allocator State Key) (state : State) : Operation Key → State
  | .next key => (allocator.next state key).2
  | .reset key => allocator.reset state key

def tally (key : Key) (count : Nat) : Operation Key → Nat
  | .next other => if other = key then count + 1 else count
  | .reset other => if other = key then 0 else count

/-- How often a sequence of operations uses a key after it has last reset it. -/
def uses (key : Key) (operations : List (Operation Key)) : Nat :=
  exec (tally key) 0 operations

/-- The counter of each key stands at a position in the cycle that the two operations
move on and set back, and that the numbers handed out follow. -/
structure Cycles (allocator : Allocator State Key) (period : Nat)
    (position : State → Key → Nat) : Prop where
  value : ∀ state key, (allocator.next state key).1 = position state key + 1
  next : ∀ state key other, position (allocator.next state key).2 other =
    if key = other then (position state other + 1) % period else position state other
  reset : ∀ state key other, position (allocator.reset state key) other =
    if key = other then 0 else position state other

section Law
variable {allocator : Allocator State Key} {period : Nat} {position : State → Key → Nat}
  (cycles : Cycles allocator period position)
include cycles

theorem position_step (state : State) (operation : Operation Key) (key : Key) (count : Nat)
    (standing : position state key = count % period) :
    position (allocator.apply state operation) key = tally key count operation % period := by
  cases operation with
  | next other =>
      rw [Allocator.apply, cycles.next, tally]
      split
      · rw [standing, Nat.mod_add_mod]
      · exact standing
  | reset other =>
      rw [Allocator.apply, cycles.reset, tally]
      split
      · rw [Nat.zero_mod]
      · exact standing

theorem position_run (operations : List (Operation Key)) (state : State) (key : Key)
    (count : Nat) (standing : position state key = count % period) :
    position (exec allocator.apply state operations) key =
      exec (tally key) count operations % period := by
  induction operations generalizing state count with
  | nil => exact standing
  | cons operation rest ih =>
      exact ih _ _ (position_step cycles state operation key count standing)

/-- The number handed out for a key counts its uses since the last reset, whatever is
done with the other keys. -/
theorem next_value (start : State) (key : Key) (fresh : position start key = 0)
    (operations : List (Operation Key)) :
    (allocator.next (exec allocator.apply start operations) key).1 =
      uses key operations % period + 1 := by
  rw [cycles.value, position_run cycles operations start key 0 (by rw [fresh, Nat.zero_mod]), uses]

theorem next_bounds (start : State) (key : Key) (fresh : position start key = 0)
    (operations : List (Operation Key)) (positive : 0 < period) :
    let value := (allocator.next (exec allocator.apply start operations) key).1
    1 ≤ value ∧ value ≤ period := by
  intro value
  have counted : value = uses key operations % period + 1 :=
    next_value cycles start key fresh operations
  have bounded := Nat.mod_lt (uses key operations) positive
  omega

end Law

/-- Two implementations stand alike when all their counters do. -/
theorem next_alike {first : Allocator State Key} {second : Allocator Other Key} {period : Nat}
    {position : State → Key → Nat} {standing : Other → Key → Nat}
    (cycles : Cycles first period position) (follows : Cycles second period standing)
    (state : State) (other : Other) (alike : ∀ key, position state key = standing other key)
    (key : Key) :
    (first.next state key).1 = (second.next other key).1 ∧
      (∀ name, position (first.next state key).2 name = standing (second.next other key).2 name) ∧
      ∀ name, position (first.reset state key) name = standing (second.reset other key) name := by
  refine ⟨?_, fun name => ?_, fun name => ?_⟩
  · rw [cycles.value, follows.value, alike]
  · rw [cycles.next, follows.next, alike]
  · rw [cycles.reset, follows.reset, alike]

theorem uses_renamed (rename : Key → Name) (injective : Function.Injective rename) (key : Key)
    (operations : List (Operation Key)) :
    uses (rename key) (operations.map (Operation.map rename)) = uses key operations := by
  have counted : ∀ count, exec (tally (rename key)) count (operations.map (Operation.map rename)) =
      exec (tally key) count operations := by
    induction operations with
    | nil => exact fun _ => rfl
    | cons operation rest ih =>
        intro count
        have same : tally (rename key) count (operation.map rename) = tally key count operation := by
          cases operation <;> simp [Operation.map, tally, injective.eq_iff]
        rw [List.map_cons, exec_cons, exec_cons, same, ih]
  exact counted 0

end OpenLink.CyclicCounters
