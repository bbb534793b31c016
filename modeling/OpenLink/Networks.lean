import OpenLink.Runs
import Mathlib.Logic.Function.Basic

/-!
Parties that exchange messages over a network. A message in flight reaches a party
that it is addressed to, or is lost, in any order and at most once. A party sends
what its user has it send, and replies to what reaches it.
-/
namespace OpenLink.Networks
open Runs

variable {Name Party UserAction Moment Message : Type} [DecidableEq Name] [DecidableEq Message]

structure Behaviour (Name Party UserAction Moment Message : Type) where
  addressed : Party → Message → Bool
  act : Name → Party → UserAction → List Message × Party
  receive : Party → Moment → Message → List Message × Party

structure Delivery (Message : Type) where
  message : Message
  replies : List Message

structure Network (Name Party Message : Type) where
  parties : Name → Party
  inFlight : List Message
  deliveries : List (Delivery Message)

inductive Event (Name UserAction Moment Message : Type) where
  | act (name : Name) (action : UserAction)
  | deliver (name : Name) (message : Message) (moment : Moment)
  | lose (message : Message)

variable (behaviour : Behaviour Name Party UserAction Moment Message)

def step (network : Network Name Party Message) :
    Event Name UserAction Moment Message → Network Name Party Message
  | .act name action =>
      let (sent, party) := behaviour.act name (network.parties name) action
      { network with
        parties := Function.update network.parties name party
        inFlight := sent ++ network.inFlight }
  | .deliver name message moment =>
      if message ∈ network.inFlight ∧ behaviour.addressed (network.parties name) message then
        let (replies, party) := behaviour.receive (network.parties name) moment message
        { parties := Function.update network.parties name party
          inFlight := replies ++ network.inFlight.erase message
          deliveries := ⟨message, replies⟩ :: network.deliveries }
      else network
  | .lose message => { network with inFlight := network.inFlight.erase message }

def start (parties : Name → Party) : Network Name Party Message := ⟨parties, [], []⟩

/-- What every message and every party keeps to, and what that makes of each delivery. -/
structure Protocol (holds : Name → Party → Prop) (regular : Message → Prop)
    (answered : Delivery Message → Prop) : Prop where
  act : ∀ name party action, holds name party →
    (∀ sent ∈ (behaviour.act name party action).1, regular sent) ∧
      holds name (behaviour.act name party action).2
  receive : ∀ name party moment message, holds name party → behaviour.addressed party message →
    regular message →
    answered ⟨message, (behaviour.receive party moment message).1⟩ ∧
      (∀ reply ∈ (behaviour.receive party moment message).1, regular reply) ∧
      holds name (behaviour.receive party moment message).2

structure Kept (holds : Name → Party → Prop) (regular : Message → Prop)
    (answered : Delivery Message → Prop) (network : Network Name Party Message) : Prop where
  parties : ∀ name, holds name (network.parties name)
  inFlight : ∀ message ∈ network.inFlight, regular message
  deliveries : ∀ delivery ∈ network.deliveries, answered delivery

variable {behaviour} {holds : Name → Party → Prop} {regular : Message → Prop}
  {answered : Delivery Message → Prop}

theorem updated_party (parties : Name → Party) (name : Name) (party : Party)
    (all : ∀ other, holds other (parties other)) (one : holds name party) (other : Name) :
    holds other (Function.update parties name party other) := by
  by_cases same : other = name
  · subst same
    rwa [Function.update_self]
  · rw [Function.update_of_ne same]
    exact all other

theorem kept_step (protocol : Protocol behaviour holds regular answered)
    (network : Network Name Party Message) (event : Event Name UserAction Moment Message)
    (kept : Kept holds regular answered network) :
    Kept holds regular answered (step behaviour network event) := by
  obtain ⟨parties, inFlight, deliveries⟩ := kept
  cases event with
  | act name action =>
      obtain ⟨sent, after⟩ := protocol.act name _ action (parties name)
      refine ⟨updated_party _ _ _ parties after, ?_, deliveries⟩
      intro message member
      exact (List.mem_append.mp member).elim (sent message) (inFlight message)
  | deliver name message moment =>
      by_cases arrives :
        message ∈ network.inFlight ∧ behaviour.addressed (network.parties name) message
      · obtain ⟨answer, replies, after⟩ := protocol.receive name _ moment message (parties name)
          arrives.2 (inFlight message arrives.1)
        simp only [step, if_pos arrives]
        refine ⟨updated_party _ _ _ parties after, ?_, ?_⟩
        · intro other member
          exact (List.mem_append.mp member).elim (replies other)
            fun remaining => inFlight other (List.mem_of_mem_erase remaining)
        · exact List.forall_mem_cons.mpr ⟨answer, deliveries⟩
      · simp only [step, if_neg arrives]
        exact ⟨parties, inFlight, deliveries⟩
  | lose message =>
      exact ⟨parties, fun other member => inFlight other (List.mem_of_mem_erase member), deliveries⟩

/-- Whatever is sent, delivered and lost in whatever order, each delivery is answered as the
protocol says. -/
theorem kept_run (protocol : Protocol behaviour holds regular answered)
    (parties : Name → Party) (all : ∀ name, holds name (parties name))
    (events : List (Event Name UserAction Moment Message)) :
    Kept holds regular answered (exec (step behaviour) (start parties) events) :=
  run_invariant (step behaviour) (Kept holds regular answered) (kept_step protocol) _
    ⟨all, by simp [start], by simp [start]⟩ events

omit [DecidableEq Message] in
/-- Replies that need a cause, one each, are not more than the causes. -/
theorem replies_bounded (marked cause : Message → Bool) (deliveries : List (Delivery Message))
    (each : ∀ delivery ∈ deliveries,
      delivery.replies.countP marked ≤ if cause delivery.message then 1 else 0) :
    (deliveries.flatMap Delivery.replies).countP marked ≤
      (deliveries.map Delivery.message).countP cause := by
  induction deliveries with
  | nil => simp
  | cons delivery rest ih =>
      have first := each delivery List.mem_cons_self
      have others := ih fun other member => each other (List.mem_cons_of_mem _ member)
      rw [List.flatMap_cons, List.countP_append, List.map_cons, List.countP_cons]
      omega

end OpenLink.Networks
