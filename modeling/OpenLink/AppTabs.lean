import OpenLink.Runs
import Mathlib.Data.List.Nodup

/-!
The tabs of the GUI and the one that has the focus, which is held as a position. A tab is
its id here, a random one that is taken as the next number; the saved stations are left out.
-/
namespace OpenLink.AppTabs
open Runs

structure AppState where
  tabs : List Nat
  activeTab : Nat
  nextId : Nat

def addTab (state : AppState) : AppState where
  tabs := state.tabs ++ [state.nextId]
  activeTab := state.tabs.length
  nextId := state.nextId + 1

def AppState.new : AppState := addTab ⟨[], 0, 0⟩

/-- The focus moves only when it has fallen off the end. -/
def closeTab (idx : Nat) (state : AppState) : AppState :=
  if idx < state.tabs.length then
    let tabs := state.tabs.eraseIdx idx
    { state with
      tabs := tabs
      activeTab :=
        if tabs.length ≤ state.activeTab ∧ tabs ≠ [] then tabs.length - 1 else state.activeTab }
  else state

def selectTab (idx : Nat) (state : AppState) : AppState :=
  if idx < state.tabs.length then { state with activeTab := idx } else state

inductive TabEvent where
  | add
  | close (idx : Nat)
  | select (idx : Nat)

def step (state : AppState) : TabEvent → AppState
  | .add => addTab state
  | .close idx => closeTab idx state
  | .select idx => selectTab idx state

def activeId (state : AppState) : Option Nat := state.tabs[state.activeTab]?

def FocusValid (state : AppState) : Prop :=
  state.tabs ≠ [] → state.activeTab < state.tabs.length

structure WellFormed (state : AppState) : Prop where
  valid : FocusValid state
  idle : state.tabs = [] → state.activeTab = 0
  distinct : state.tabs.Nodup
  below : ∀ id ∈ state.tabs, id < state.nextId

/-- Another tab than the active one is closed, and the active one stays. -/
def KeepsFocus (state : AppState) (event : TabEvent) : Prop :=
  ∀ idx, event = .close idx → idx ≠ state.activeTab → activeId (step state event) = activeId state

/-- A tab in front of the active one is closed only when the active one is the last. -/
def Steady (state : AppState) (event : TabEvent) : Prop :=
  ∀ idx, event = .close idx → idx < state.activeTab → state.activeTab + 1 = state.tabs.length

section Closing
variable {state : AppState}

theorem close_length {idx : Nat} (present : idx < state.tabs.length) :
    (closeTab idx state).tabs.length + 1 = state.tabs.length := by
  simp only [closeTab, if_pos present]
  rw [List.length_eraseIdx_of_lt present]
  omega

theorem close_active {idx : Nat} (present : idx < state.tabs.length) (wellFormed : WellFormed state) :
    (closeTab idx state).activeTab =
      if state.activeTab + 1 = state.tabs.length then state.activeTab - 1 else state.activeTab := by
  have occupied : state.tabs ≠ [] := List.ne_nil_of_length_pos (Nat.zero_lt_of_lt present)
  have within := wellFormed.valid occupied
  have length := close_length present
  simp only [closeTab, if_pos present] at length ⊢
  by_cases alone : state.tabs.eraseIdx idx = []
  · simp only [alone, List.length_nil] at length ⊢
    simp only [ne_eq, not_true, and_false, if_false]
    split <;> omega
  · simp only [ne_eq, alone, not_false_iff, and_true]
    split <;> split <;> omega

theorem well_formed_close (idx : Nat) (wellFormed : WellFormed state) :
    WellFormed (closeTab idx state) := by
  by_cases present : idx < state.tabs.length
  · have occupied : state.tabs ≠ [] := List.ne_nil_of_length_pos (Nat.zero_lt_of_lt present)
    have within := wellFormed.valid occupied
    have length := close_length present
    have active := close_active present wellFormed
    have tabs : (closeTab idx state).tabs = state.tabs.eraseIdx idx := by
      simp only [closeTab, if_pos present]
    have next : (closeTab idx state).nextId = state.nextId := by
      simp only [closeTab, if_pos present]
    constructor
    · intro left
      have some_left := List.length_pos_of_ne_nil left
      rw [active]
      split <;> omega
    · intro empty
      rw [empty, List.length_nil] at length
      rw [active]
      split <;> omega
    · rw [tabs]
      exact wellFormed.distinct.sublist (List.eraseIdx_sublist _ _)
    · rw [tabs, next]
      exact fun id member => wellFormed.below id ((List.eraseIdx_sublist _ _).subset member)
  · rwa [closeTab, if_neg present]

/-- What is closed in front of the active tab takes the tabs behind it one place forward. -/
theorem close_focus {idx : Nat} (wellFormed : WellFormed state) (other : idx ≠ state.activeTab) :
    activeId (closeTab idx state) = activeId state ↔
      (idx < state.activeTab → state.activeTab + 1 = state.tabs.length) := by
  by_cases present : idx < state.tabs.length
  · have occupied : state.tabs ≠ [] := List.ne_nil_of_length_pos (Nat.zero_lt_of_lt present)
    have within := wellFormed.valid occupied
    have tabs : (closeTab idx state).tabs = state.tabs.eraseIdx idx := by
      simp only [closeTab, if_pos present]
    rw [activeId, activeId, close_active present wellFormed, tabs, List.getElem?_eraseIdx]
    by_cases last : state.activeTab + 1 = state.tabs.length
    · have before : ¬ state.activeTab - 1 < idx := by omega
      have back : state.activeTab - 1 + 1 = state.activeTab := by omega
      simp only [last, if_true, if_neg before, back, implies_true]
    · rw [if_neg last]
      by_cases behind : state.activeTab < idx
      · have notBefore : ¬ idx < state.activeTab := by omega
        simp only [if_pos behind, notBefore, false_imp_iff]
      · have before : idx < state.activeTab := by omega
        have next : state.activeTab + 1 < state.tabs.length := by omega
        rw [if_neg behind, List.getElem?_eq_getElem next, List.getElem?_eq_getElem within]
        simp only [Option.some.injEq, before, last, imp_false, not_true, iff_false]
        intro same
        have moved := (List.Nodup.getElem_inj_iff wellFormed.distinct).mp same
        omega
  · have gone : ¬ idx < state.activeTab := by
      intro before
      by_cases empty : state.tabs = []
      · rw [wellFormed.idle empty] at before
        omega
      · have within := wellFormed.valid empty
        omega
    simp only [closeTab, if_neg present, gone, false_imp_iff]

end Closing

theorem well_formed_add (state : AppState) (distinct : state.tabs.Nodup)
    (below : ∀ id ∈ state.tabs, id < state.nextId) : WellFormed (addTab state) := by
  constructor
  · intro _
    simp [addTab]
  · intro empty
    simp [addTab] at empty
  · rw [addTab, List.nodup_append_comm, List.singleton_append, List.nodup_cons]
    exact ⟨fun member => Nat.lt_irrefl _ (below _ member), distinct⟩
  · intro id member
    rcases List.mem_append.mp member with old | new
    · exact Nat.lt_succ_of_lt (below id old)
    · rw [List.mem_singleton.mp new]
      exact Nat.lt_succ_self _

theorem well_formed_step (state : AppState) (event : TabEvent) (wellFormed : WellFormed state) :
    WellFormed (step state event) := by
  cases event with
  | add => exact well_formed_add state wellFormed.distinct wellFormed.below
  | close idx => exact well_formed_close idx wellFormed
  | select idx =>
      rw [step, selectTab]
      split
      · next present =>
          refine ⟨fun _ => present, ?_, wellFormed.distinct, wellFormed.below⟩
          intro (empty : state.tabs = [])
          rw [empty] at present
          cases present
      · exact wellFormed

theorem well_formed_new : WellFormed .new :=
  well_formed_add ⟨[], 0, 0⟩ List.nodup_nil fun _ member => absurd member List.not_mem_nil

theorem steady_keeps (state : AppState) (event : TabEvent) (wellFormed : WellFormed state) :
    Steady state event ↔ KeepsFocus state event := by
  constructor
  · rintro steady idx rfl other
    exact (close_focus wellFormed other).mpr (steady idx rfl)
  · rintro keeps idx rfl before
    exact (close_focus wellFormed (Nat.ne_of_lt before)).mp (keeps idx rfl (Nat.ne_of_lt before)) before

/-- Through any tabs that come, go and are selected, one of them has the focus while there is one;
and the focus stays with its tab when others are closed, exactly when each of these stands behind
it or it is the last. -/
theorem focus_stable_iff (events : List TabEvent) :
    (∀ before, before <+: events → FocusValid (exec step .new before)) ∧
    (Guarded step Steady .new events ↔
      ∀ before event, before ++ [event] <+: events → KeepsFocus (exec step .new before) event) := by
  constructor
  · intro before _
    exact (run_invariant step WellFormed well_formed_step .new well_formed_new before).valid
  · exact guarded_alike step Steady KeepsFocus WellFormed well_formed_step steady_keeps .new
      well_formed_new events

/-- The first of three tabs is closed, and the focus goes from the second to the third. -/
theorem focus_moves :
    let state := exec step .new [.add, .add, .select 1]
    activeId state = some 1 ∧ activeId (step state (.close 0)) = some 2 ∧
      ¬ KeepsFocus state (.close 0) := by
  intro state
  refine ⟨by decide, by decide, ?_⟩
  intro keeps
  exact absurd (keeps 0 rfl (by decide)) (by decide)

end OpenLink.AppTabs
