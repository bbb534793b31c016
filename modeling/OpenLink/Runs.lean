import Mathlib.Data.List.Induction
import Mathlib.Tactic.Common

/-!
Finite runs of a deterministic machine. `step` is total; a refused event leaves
the state where it was, so a run never gets stuck. `After` places one event of a
run behind an earlier part of that run, which is how histories are described.
-/
namespace OpenLink.Runs

variable {State Event : Type} (step : State → Event → State)

def exec (state : State) (events : List Event) : State :=
  events.foldl step state

@[simp] theorem exec_nil (state : State) : exec step state [] = state := rfl

@[simp] theorem exec_cons (state : State) (event : Event) (rest : List Event) :
    exec step state (event :: rest) = exec step (step state event) rest := rfl

theorem exec_append (state : State) (before after : List Event) :
    exec step state (before ++ after) = exec step (exec step state before) after :=
  List.foldl_append

theorem exec_snoc (state : State) (before : List Event) (event : Event) :
    exec step state (before ++ [event]) = step (exec step state before) event :=
  exec_append step state before [event]

theorem run_invariant (holds : State → Prop)
    (preserved : ∀ state event, holds state → holds (step state event))
    (state : State) (start : holds state) (events : List Event) :
    holds (exec step state events) := by
  induction events generalizing state with
  | nil => exact start
  | cons event rest ih => exact ih (step state event) (preserved state event start)

def Guarded (admits : State → Event → Prop) : State → List Event → Prop
  | _, [] => True
  | state, event :: rest => admits state event ∧ Guarded admits (step state event) rest

instance decidableGuarded (admits : State → Event → Prop) [∀ state, DecidablePred (admits state)] :
    (state : State) → (events : List Event) → Decidable (Guarded step admits state events)
  | _, [] => .isTrue trivial
  | state, event :: rest =>
      haveI := decidableGuarded admits (step state event) rest
      inferInstanceAs (Decidable (_ ∧ _))

theorem guarded_snoc (admits : State → Event → Prop) (state : State)
    (before : List Event) (event : Event) :
    Guarded step admits state (before ++ [event]) ↔
      Guarded step admits state before ∧ admits (exec step state before) event := by
  induction before generalizing state with
  | nil => simp [Guarded]
  | cons first rest ih => simp [Guarded, ih, and_assoc]

theorem guarded_earlier (admits : State → Event → Prop) (state : State)
    (before after : List Event) (guarded : Guarded step admits state (before ++ after)) :
    Guarded step admits state before := by
  induction before generalizing state with
  | nil => trivial
  | cons first rest ih => exact ⟨guarded.1, ih _ guarded.2⟩

theorem guarded_mono (admits allows : State → Event → Prop)
    (weaker : ∀ state event, admits state event → allows state event) (state : State)
    (events : List Event) (guarded : Guarded step admits state events) :
    Guarded step allows state events := by
  induction events generalizing state with
  | nil => trivial
  | cons event rest ih => exact ⟨weaker state event guarded.1, ih _ guarded.2⟩

theorem guarded_both (admits allows : State → Event → Prop) (state : State) (events : List Event)
    (guarded : Guarded step admits state events) (allowed : Guarded step allows state events) :
    Guarded step (fun state event => admits state event ∧ allows state event) state events := by
  induction events generalizing state with
  | nil => trivial
  | cons event rest ih => exact ⟨⟨guarded.1, allowed.1⟩, ih _ guarded.2 allowed.2⟩

theorem guarded_invariant (admits : State → Event → Prop) (holds : State → Prop)
    (preserved : ∀ state event, holds state → admits state event → holds (step state event))
    (state : State) (start : holds state) (events : List Event)
    (guarded : Guarded step admits state events) : holds (exec step state events) := by
  induction events generalizing state with
  | nil => exact start
  | cons event rest ih =>
      exact ih (step state event) (preserved state event start guarded.1) guarded.2

theorem guarded_shown (admits : State → Event → Prop) (holds shows : State → Prop)
    (shown : ∀ state, holds state → shows state)
    (preserved : ∀ state event, holds state → admits state event → holds (step state event))
    (spoiled : ∀ state event, holds state → ¬ admits state event → ¬ shows (step state event))
    (state : State) (start : holds state) (events : List Event) :
    Guarded step admits state events ↔
      ∀ before, before <+: events → shows (exec step state before) := by
  constructor
  · rintro guarded before ⟨after, same⟩
    subst same
    exact shown _ (guarded_invariant step admits holds preserved state start before
      (guarded_earlier step admits state before after guarded))
  · intro always
    induction events using List.reverseRecOn with
    | nil => trivial
    | append_singleton before event ih =>
        have earlier := ih fun part member => always part (member.trans (List.prefix_append _ _))
        refine (guarded_snoc step admits state before event).mpr ⟨earlier, ?_⟩
        by_contra refused
        -- a refused last event spoils what shows at the end of the run
        have atPrefix := guarded_invariant step admits holds preserved state start before earlier
        have atEnd := always (before ++ [event]) (List.prefix_refl _)
        rw [exec_snoc] at atEnd
        exact spoiled _ event atPrefix refused atEnd

/-- When every refused guard breaks the invariant at once, the guard is exact:
it admits the run if and only if the invariant holds at every moment of it. -/
theorem guarded_exact (admits : State → Event → Prop) (holds : State → Prop)
    (preserved : ∀ state event, holds state → admits state event → holds (step state event))
    (broken : ∀ state event, holds state → ¬ admits state event → ¬ holds (step state event))
    (state : State) (start : holds state) (events : List Event) :
    Guarded step admits state events ↔
      ∀ before, before <+: events → holds (exec step state before) :=
  guarded_shown step admits holds holds (fun _ held => held) preserved broken state start events

theorem guarded_each (admits : State → Event → Prop) (state : State) (events : List Event) :
    Guarded step admits state events ↔
      ∀ before event, before ++ [event] <+: events → admits (exec step state before) event := by
  induction events using List.reverseRecOn with
  | nil => simp [Guarded]
  | append_singleton earlier last ih =>
      rw [guarded_snoc, ih]
      constructor
      · rintro ⟨steps, final⟩ before event part
        rcases List.prefix_concat_iff.mp part with whole | shorter
        · obtain ⟨rfl, same⟩ := List.append_inj' whole rfl
          obtain rfl := (List.cons.inj same).1
          exact final
        · exact steps before event shorter
      · intro steps
        exact ⟨fun before event part => steps before event (part.trans (List.prefix_append _ _)),
          steps earlier last (List.prefix_refl _)⟩

theorem guarded_alike (admits allows : State → Event → Prop) (holds : State → Prop)
    (preserved : ∀ state event, holds state → holds (step state event))
    (exactly : ∀ state event, holds state → (admits state event ↔ allows state event))
    (state : State) (start : holds state) (events : List Event) :
    Guarded step admits state events ↔
      ∀ before event, before ++ [event] <+: events → allows (exec step state before) event := by
  rw [guarded_each]
  have reached := run_invariant step holds preserved state start
  exact forall_congr' fun before => forall_congr' fun event => imp_congr_right fun _ =>
    exactly _ event (reached before)

theorem guarded_steps (admits : State → Event → Prop) (holds : State → Prop)
    (preserved : ∀ state event, holds state → holds (step state event))
    (relates : State → State → Prop)
    (exactly : ∀ state event, holds state → (admits state event ↔ relates state (step state event)))
    (state : State) (start : holds state) (events : List Event) :
    Guarded step admits state events ↔
      ∀ before event, before ++ [event] <+: events →
        relates (exec step state before) (exec step state (before ++ [event])) := by
  simp only [exec_snoc]
  exact guarded_alike step admits (fun state event => relates state (step state event)) holds
    preserved exactly state start events

/-- A run that starts outside a condition has a last moment outside it. -/
theorem last_moment (condition : State → Prop) (state : State) (start : ¬ condition state)
    (events : List Event) :
    ∃ before after, events = before ++ after ∧ ¬ condition (exec step state before) ∧
      ∀ part, part ≠ [] → part <+: after → condition (exec step state (before ++ part)) := by
  induction events using List.reverseRecOn with
  | nil => exact ⟨[], [], rfl, start, fun part nonempty short =>
      absurd (List.prefix_nil.mp short) nonempty⟩
  | append_singleton events event ih =>
      -- either the run ends outside, or its last moment outside is that of the shorter run
      by_cases reached : condition (exec step state (events ++ [event]))
      · obtain ⟨before, after, same, outside, inside⟩ := ih
        subst same
        refine ⟨before, after ++ [event], by simp, outside, ?_⟩
        intro part nonempty short
        rcases List.prefix_concat_iff.mp (by simpa using short) with whole | shorter
        · simpa [whole] using reached
        · exact inside part nonempty shorter
      · exact ⟨events ++ [event], [], by simp, reached, fun part nonempty short =>
          absurd (List.prefix_nil.mp short) nonempty⟩

/-- Some event of the run satisfies `mark` in the state it was executed in, and
the part of the run before it satisfies `past`. -/
def After (past : List Event → Prop) (mark : State → Event → Prop) (state : State)
    (events : List Event) : Prop :=
  ∃ before event, before ++ [event] <+: events ∧ past before ∧ mark (exec step state before) event

/-- Some event of the run satisfies `mark` in the state it was executed in. -/
def Seen (mark : State → Event → Prop) : State → List Event → Prop :=
  After step (fun _ => True) mark

def latest {Value : Type} (yields : State → Event → Option Value) :
    State → List Event → Option Value
  | _, [] => none
  | state, event :: rest => (latest yields (step state event) rest).or (yields state event)

theorem latest_field {Value : Type} (yields : State → Event → Option Value)
    (field : State → Option Value)
    (sets : ∀ state event, field (step state event) = (yields state event).or (field state))
    (state : State) (events : List Event) :
    field (exec step state events) = (latest step yields state events).or (field state) := by
  induction events generalizing state with
  | nil => rfl
  | cons event rest ih => rw [exec_cons, ih, sets, latest, Option.or_assoc]

variable {step}

theorem after_last {past : List Event → Prop} {mark : State → Event → Prop} {state : State}
    {before : List Event} {event : Event} (earlier : past before)
    (marked : mark (exec step state before) event) :
    After step past mark state (before ++ [event]) :=
  ⟨before, event, List.prefix_refl _, earlier, marked⟩

theorem after_extend {past : List Event → Prop} {mark : State → Event → Prop} {state : State}
    {events : List Event} (later : List Event) (found : After step past mark state events) :
    After step past mark state (events ++ later) := by
  obtain ⟨before, event, short, earlier, marked⟩ := found
  exact ⟨before, event, short.trans (List.prefix_append _ _), earlier, marked⟩

theorem seen_last {mark : State → Event → Prop} {state : State} {before : List Event}
    {event : Event} (marked : mark (exec step state before) event) :
    Seen step mark state (before ++ [event]) :=
  after_last trivial marked

theorem seen_extend {mark : State → Event → Prop} {state : State} {events : List Event}
    (later : List Event) (found : Seen step mark state events) :
    Seen step mark state (events ++ later) :=
  after_extend later found

theorem seen_snoc {mark : State → Event → Prop} {state : State} {before : List Event}
    {event : Event} : Seen step mark state (before ++ [event]) ↔
      Seen step mark state before ∨ mark (exec step state before) event := by
  constructor
  · rintro ⟨part, last, short, _, marked⟩
    rcases List.prefix_concat_iff.mp short with same | earlier
    · obtain ⟨rfl, rfl⟩ := List.append_inj' same rfl |>.imp id List.singleton_inj.mp
      exact .inr marked
    · exact .inl ⟨part, last, earlier, trivial, marked⟩
  · rintro (earlier | marked)
    · exact seen_extend [event] earlier
    · exact seen_last marked

theorem after_seen (past : List Event → Prop) {mark other : State → Event → Prop} {state : State}
    {before rest : List Event} {event : Event} (earlier : past before)
    (marked : mark (exec step state before) event)
    (found : Seen step other (exec step state (before ++ [event])) rest) :
    After step (After step past mark state) other state (before ++ [event] ++ rest) := by
  obtain ⟨part, last, ⟨tail, rfl⟩, _, here⟩ := found
  refine ⟨before ++ [event] ++ part, last, ⟨tail, by simp⟩, ?_, ?_⟩
  · exact after_extend part (after_last earlier marked)
  · rw [exec_append]
    exact here

theorem seen_cons {mark : State → Event → Prop} {state : State} {event : Event}
    {rest : List Event} (found : Seen step mark (step state event) rest) :
    Seen step mark state (event :: rest) := by
  obtain ⟨before, marked, short, _, here⟩ := found
  exact ⟨event :: before, marked, by simpa using short, trivial, here⟩

theorem latest_seen {Value : Type} {yields : State → Event → Option Value} {state : State}
    {events : List Event} {value : Value} (last : latest step yields state events = some value) :
    Seen step (fun state event => yields state event = some value) state events := by
  induction events generalizing state with
  | nil => simp [latest] at last
  | cons event rest ih =>
      rcases Option.or_eq_some_iff.mp last with later | ⟨_, here⟩
      · exact seen_cons (ih later)
      · exact ⟨[], event, by simp, trivial, here⟩

/-! Runs that an observer cannot tell apart. -/
section Purging
variable (step)

/-- Events that one observer does not notice may be left out of a run: it sees the same at the end,
if what it sees alike stays alike under a noticed event in both runs, and under an unnoticed event
in one of them. -/
theorem exec_purged (alike : State → State → Prop) (noticed : Event → Bool)
    (together : ∀ state other event, alike state other → noticed event = true →
      alike (step state event) (step other event))
    (alone : ∀ state other event, alike state other → noticed event = false →
      alike (step state event) other)
    (state other : State) (start : alike state other) (events : List Event) :
    alike (exec step state events) (exec step other (events.filter noticed)) := by
  induction events generalizing state other with
  | nil => exact start
  | cons event rest ih =>
      cases seen : noticed event with
      | true =>
          rw [List.filter_cons_of_pos seen]
          exact ih _ _ (together state other event start seen)
      | false =>
          rw [List.filter_cons_of_neg (by simp [seen])]
          exact ih _ _ (alone state other event start seen)

end Purging

/-- A machine that simulates another one, step by step on the states of an invariant, simulates its
runs. -/
theorem exec_simulates {Spec : Type} (step : State → Event → State) (specStep : Spec → Event → Spec)
    (spec : State → Spec) (holds : State → Prop)
    (preserved : ∀ state event, holds state → holds (step state event))
    (simulates : ∀ state event, holds state → spec (step state event) = specStep (spec state) event)
    (state : State) (start : holds state) (events : List Event) :
    spec (exec step state events) = exec specStep (spec state) events := by
  induction events generalizing state with
  | nil => rfl
  | cons event rest ih =>
      rw [exec_cons, exec_cons, ih _ (preserved state event start), simulates state event start]

/-! What a run writes to a log. -/
section Logs
variable (step) {Item : Type}

def collected (yields : State → Event → List Item) : State → List Event → List Item
  | _, [] => []
  | state, event :: rest => yields state event ++ collected yields (step state event) rest

theorem collected_log (yields : State → Event → List Item) (log : State → List Item)
    (holds : State → Prop) (preserved : ∀ state event, holds state → holds (step state event))
    (grows : ∀ state event, holds state →
      log (step state event) = log state ++ yields state event)
    (state : State) (start : holds state) (events : List Event) :
    log (exec step state events) = log state ++ collected step yields state events := by
  induction events generalizing state with
  | nil => exact (List.append_nil _).symm
  | cons event rest ih =>
      rw [exec_cons, ih _ (preserved state event start), grows state event start, collected,
        List.append_assoc]

theorem collected_sublist (yields : State → Event → List Item) (log : State → List Item)
    (holds : State → Prop) (preserved : ∀ state event, holds state → holds (step state event))
    (grows : ∀ state event, holds state →
      (log (step state event)).Sublist (log state ++ yields state event))
    (state : State) (start : holds state) (events : List Event) :
    (log (exec step state events)).Sublist (log state ++ collected step yields state events) := by
  induction events generalizing state with
  | nil => simp [collected]
  | cons event rest ih =>
      refine (ih _ (preserved state event start)).trans ?_
      rw [collected, ← List.append_assoc]
      exact (grows state event start).append (List.Sublist.refl _)

/-- A machine each step of which does what some steps of another one do runs as the other one does
on all these steps. -/
theorem exec_translated {Spec Move : Type} (specStep : Spec → Move → Spec) (spec : State → Spec)
    (moves : State → Event → List Move)
    (translates : ∀ state event,
      spec (step state event) = exec specStep (spec state) (moves state event))
    (state : State) (events : List Event) :
    spec (exec step state events) =
      exec specStep (spec state) (collected step moves state events) := by
  induction events generalizing state with
  | nil => rfl
  | cons event rest ih => rw [exec_cons, ih, translates, collected, exec_append]

theorem collected_all (yields : State → Event → List Item) (allowed : Item → Prop)
    (each : ∀ state event, ∀ item ∈ yields state event, allowed item) (state : State)
    (events : List Event) : ∀ item ∈ collected step yields state events, allowed item := by
  induction events generalizing state with
  | nil => simp [collected]
  | cons event rest ih =>
      intro item member
      rcases List.mem_append.mp member with first | later
      · exact each state event item first
      · exact ih _ item later

theorem collected_seen {yields : State → Event → List Item} {state : State} {events : List Event}
    {item : Item} (member : item ∈ collected step yields state events) :
    Seen step (fun state event => item ∈ yields state event) state events := by
  induction events generalizing state with
  | nil => simp [collected] at member
  | cons event rest ih =>
      rcases List.mem_append.mp member with first | later
      · exact ⟨[], event, by simp, trivial, first⟩
      · exact seen_cons (ih later)

/-- In a log to which a step appends an item at most, there is a step for every item, which appends
it to the items before it. -/
theorem appended_there (log : State → List Item) (mark : Item → State → Event → Prop)
    (grows : ∀ state event, log (step state event) = log state ∨
      ∃ item, mark item state event ∧ log (step state event) = log state ++ [item])
    (state : State) (empty : log state = []) (events : List Event) {earlier : List Item}
    {item : Item} (part : earlier ++ [item] <+: log (exec step state events)) :
    Seen step (fun state event => mark item state event ∧ log state = earlier ∧
      log (step state event) = earlier ++ [item]) state events := by
  induction events using List.reverseRecOn with
  | nil =>
      rw [exec_nil, empty, List.prefix_nil] at part
      exact absurd part (by simp)
  | append_singleton before event ih =>
      rw [exec_snoc] at part
      rcases grows (exec step state before) event with same | ⟨last, marked, grown⟩
      · exact seen_extend [event] (ih (same ▸ part))
      · rcases List.prefix_concat_iff.mp (grown ▸ part) with whole | old
        · obtain ⟨rfl, lasts⟩ := List.append_inj' whole rfl
          obtain rfl := (List.cons.inj lasts).1
          exact seen_last ⟨marked, rfl, grown⟩
        · exact seen_extend [event] (ih old)

/-- What an observer sees of what a run yields does not depend on the events it does not notice. -/
theorem collected_purged {Seen : Type} (alike : State → State → Prop) (noticed : Event → Bool)
    (yields : State → Event → List Item) (view : List Item → List Seen)
    (both : ∀ earlier later, view (earlier ++ later) = view earlier ++ view later)
    (together : ∀ state other event, alike state other → noticed event = true →
      alike (step state event) (step other event) ∧
        view (yields state event) = view (yields other event))
    (alone : ∀ state other event, alike state other → noticed event = false →
      alike (step state event) other ∧ view (yields state event) = [])
    (state other : State) (start : alike state other) (events : List Event) :
    view (collected step yields state events) =
      view (collected step yields other (events.filter noticed)) := by
  induction events generalizing state other with
  | nil => rfl
  | cons event rest ih =>
      cases seen : noticed event with
      | true =>
          obtain ⟨after, same⟩ := together state other event start seen
          rw [List.filter_cons_of_pos seen, collected, collected, both, both, same, ih _ _ after]
      | false =>
          obtain ⟨after, silent⟩ := alone state other event start seen
          rw [List.filter_cons_of_neg (by simp [seen]), collected, both, silent, List.nil_append,
            ih _ _ after]

theorem collected_flatten {Group : Type} (yields : State → Event → List (List Group))
    (state : State) (events : List Event) :
    collected step (fun state event => (yields state event).flatten) state events =
      (collected step yields state events).flatten := by
  induction events generalizing state with
  | nil => rfl
  | cons event rest ih => rw [collected, collected, List.flatten_append, ih]

end Logs

/-! Machines that put something out at every event. -/
section Outputs
variable {Other Output Answer : Type}

def outputs (machine : State → Event → Output × State) : State → List Event → List Output
  | _, [] => []
  | state, event :: rest => (machine state event).1 :: outputs machine (machine state event).2 rest

/-- Two machines that answer every event alike, and stand alike afterwards, answer every
sequence of events alike. -/
theorem outputs_lockstep {first : State → Event → Output × State}
    {second : Other → Event → Answer × Other} {translate : Output → Answer}
    (alike : State → Other → Prop)
    (answered : ∀ state other event, alike state other →
      translate (first state event).1 = (second other event).1 ∧
        alike (first state event).2 (second other event).2)
    (state : State) (other : Other) (start : alike state other) (events : List Event) :
    (outputs first state events).map translate = outputs second other events := by
  induction events generalizing state other with
  | nil => rfl
  | cons event rest ih =>
      obtain ⟨same, after⟩ := answered state other event start
      rw [outputs, outputs, List.map_cons, same, ih _ _ after]

end Outputs

end OpenLink.Runs
