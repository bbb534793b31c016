import Mathlib.Tactic.Common

/-!
Actions that read and write a state and may fail. A failure keeps what was
written before it, so whether a failed action changed anything is a theorem
about the action and not a property of the monad.
-/
namespace OpenLink.Actions

abbrev Action (State : Type) := ExceptT String (StateM State)

variable {State First Second Result : Type}

def runOn (action : Action State Result) (state : State) : Except String Result × State :=
  StateT.run (ExceptT.run action) state

def lift (result : Except String Result) : Action State Result := ExceptT.mk (pure result)

def attempt (action : Action State Result) : Action State (Except String Result) :=
  ExceptT.mk (Except.ok <$> ExceptT.run action)

@[simp] theorem run_pure (result : Result) (state : State) :
    runOn (pure result) state = (.ok result, state) := rfl

@[simp] theorem run_throw (message : String) (state : State) :
    runOn (throw message : Action State Result) state = (.error message, state) := rfl

@[simp] theorem run_lift (result : Except String Result) (state : State) :
    runOn (lift result) state = (result, state) := rfl

@[simp] theorem run_get (state : State) : runOn get state = (.ok state, state) := rfl

@[simp] theorem run_set (state after : State) : runOn (set after) state = (.ok (), after) := rfl

@[simp] theorem run_modify (change : State → State) (state : State) :
    runOn (modify change) state = (.ok (), change state) := rfl

@[simp] theorem run_attempt (action : Action State Result) (state : State) :
    runOn (attempt action) state = (.ok (runOn action state).1, (runOn action state).2) := rfl

theorem run_bind (action : Action State First) (next : First → Action State Second)
    (state : State) :
    runOn (action >>= next) state =
      match runOn action state with
      | (.ok result, after) => runOn (next result) after
      | (.error message, after) => (.error message, after) := by
  simp only [runOn, ExceptT.run, StateT.run, bind, ExceptT.bind, ExceptT.mk, StateT.bind]
  cases action state with
  | mk result after => cases result <;> rfl

theorem run_bind_pure (action : Action State First) (finish : First → Second) (state : State) :
    (runOn (action >>= fun result => pure (finish result)) state).2 = (runOn action state).2 := by
  rw [run_bind]
  rcases runOn action state with ⟨_ | _, after⟩ <;> rfl

/-- A failure ends the action there, with the state as the failure left it. -/
theorem run_bind_error (action : Action State First) (next : First → Action State Second)
    (state : State) (message : String) (failed : (runOn action state).1 = .error message) :
    runOn (action >>= next) state = (.error message, (runOn action state).2) := by
  rw [run_bind]
  rcases outcome : runOn action state with ⟨_ | result, after⟩
  · rw [outcome] at failed
    cases failed
    rfl
  · rw [outcome] at failed
    cases failed

theorem run_map (change : First → Second) (action : Action State First) (state : State) :
    runOn (change <$> action) state =
      ((runOn action state).1.map change, (runOn action state).2) := by
  rw [map_eq_pure_bind, run_bind]
  rcases runOn action state with ⟨_ | _, after⟩ <;> rfl

/-! What is left of the state where an action fails. -/
section Failures
variable {leaves : State → State}

def OnFailure (leaves : State → State) (action : Action State Result) : Prop :=
  ∀ state message, (runOn action state).1 = .error message →
    (runOn action state).2 = leaves state

theorem on_failure_pure (result : Result) :
    OnFailure leaves (pure result : Action State Result) := by
  intro state message failed
  cases failed

theorem on_failure_bind_pure {action : Action State First} (left : OnFailure leaves action)
    (finish : First → Second) : OnFailure leaves (action >>= fun result => pure (finish result)) := by
  intro state message failed
  rw [run_bind_pure]
  apply left state message
  rw [run_bind] at failed
  rcases outcome : runOn action state with ⟨_ | result, after⟩
  · rw [outcome] at failed
    cases failed
    rfl
  · rw [outcome] at failed
    cases failed

end Failures

/-! Parts of the state that an action leaves alone, whether it fails or not. -/
section Frames
variable {Part : Type} (part : State → Part)

def Keeps (action : Action State Result) : Prop :=
  ∀ state, part (runOn action state).2 = part state

variable {part}

theorem keeps_bind {action : Action State First} {next : First → Action State Second}
    (first : Keeps part action) (later : ∀ result, Keeps part (next result)) :
    Keeps part (action >>= next) := by
  intro state
  have kept := first state
  rw [run_bind]
  rcases outcome : runOn action state with ⟨_ | result, after⟩
  -- a failure leaves what the first action left
  · rwa [outcome] at kept
  · rw [outcome] at kept
    exact (later result after).trans kept

theorem keeps_attempt {action : Action State Result} (kept : Keeps part action) :
    Keeps part (attempt action) := kept

theorem keeps_each {Item : Type} (items : List Item) {body : Item → Action State Unit}
    (each : ∀ item, Keeps part (body item)) : Keeps part (items.forM body) := by
  induction items with
  | nil => exact fun _ => rfl
  | cons item rest ih => exact keeps_bind (each item) fun _ => ih

end Frames

end OpenLink.Actions
