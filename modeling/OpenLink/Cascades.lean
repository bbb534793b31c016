import OpenLink.Runs
import Mathlib.Algebra.BigOperators.Group.List.Basic
import Mathlib.Algebra.Order.BigOperators.Group.List
import Mathlib.Algebra.Order.Group.Nat
import Mathlib.Algebra.Group.Action.Defs
import Mathlib.Algebra.Ring.Nat

/-!
Messages that cause messages. The parcels under way are delivered in any order, and what one of
them causes at its destination is put under way at once; the surroundings may change the state and
send parcels at any time. Where a parcel weighs more than all that it causes, there are no more
deliveries than the parcels sent weigh.
-/
namespace OpenLink.Cascades
open Runs

structure Traffic (State Parcel : Type) where
  state : State
  underWay : List Parcel

inductive Move (State Parcel Label : Type) where
  | deliver (index : Nat) (label : Label)
  | act (state : State) (parcels : List Parcel)

variable {State Parcel Label : Type} (handle : Label → State → Parcel → State × List Parcel)

def advance (traffic : Traffic State Parcel) : Move State Parcel Label → Traffic State Parcel
  | .deliver index label =>
      match traffic.underWay[index]? with
      | none => traffic
      | some parcel =>
          let (state, caused) := handle label traffic.state parcel
          ⟨state, traffic.underWay.eraseIdx index ++ caused⟩
  | .act state parcels => ⟨state, traffic.underWay ++ parcels⟩

def delivered (traffic : Traffic State Parcel) : Move State Parcel Label → List Parcel
  | .deliver index _ => traffic.underWay[index]?.toList
  | .act _ _ => []

def sent : Move State Parcel Label → List Parcel
  | .deliver _ _ => []
  | .act _ parcels => parcels

section Weight
variable (weight : Parcel → Nat)

def total (parcels : List Parcel) : Nat := (parcels.map weight).sum

@[simp] theorem total_nil : total weight [] = 0 := rfl

@[simp] theorem total_append (first second : List Parcel) :
    total weight (first ++ second) = total weight first + total weight second := by
  simp [total]

theorem total_erase {parcels : List Parcel} {index : Nat} {parcel : Parcel}
    (found : parcels[index]? = some parcel) :
    weight parcel + total weight (parcels.eraseIdx index) = total weight parcels := by
  obtain ⟨within, same⟩ := List.getElem?_eq_some_iff.mp found
  have moved := ((List.getElem_cons_eraseIdx_perm within).map weight).sum_eq
  rw [same, List.map_cons, List.sum_cons] at moved
  exact moved

/-- No parcel of a list weighs more than the bound. -/
theorem total_bounded {parcels : List Parcel} {bound : Nat}
    (light : ∀ parcel ∈ parcels, weight parcel ≤ bound) :
    total weight parcels ≤ parcels.length * bound := by
  have bounded := List.sum_le_card_nsmul (parcels.map weight) bound (by simpa using light)
  rwa [List.length_map, smul_eq_mul] at bounded

/-- A parcel weighs more than what it causes. -/
def Outweighs : Prop :=
  ∀ label state parcel, total weight (handle label state parcel).2 < weight parcel

variable {handle weight}

theorem move_bounded (outweighs : Outweighs handle weight) (traffic : Traffic State Parcel)
    (move : Move State Parcel Label) :
    (delivered traffic move).length + total weight (advance handle traffic move).underWay ≤
      total weight traffic.underWay + total weight (sent move) := by
  cases move with
  | act state parcels => simp [delivered, advance, sent]
  | deliver index label =>
      cases found : traffic.underWay[index]? with
      | none => simp [delivered, advance, sent, found]
      | some parcel =>
          have lighter := outweighs label traffic.state parcel
          have moved := total_erase weight found
          simp only [delivered, advance, sent, found, Option.toList_some, List.length_singleton,
            total_append, total_nil]
          omega

theorem deliveries_bounded (outweighs : Outweighs handle weight) (traffic : Traffic State Parcel)
    (moves : List (Move State Parcel Label)) :
    (collected (advance handle) delivered traffic moves).length +
        total weight (exec (advance handle) traffic moves).underWay ≤
      total weight traffic.underWay + total weight (moves.flatMap sent) := by
  induction moves generalizing traffic with
  | nil => simp [collected]
  | cons move rest ih =>
      have first := move_bounded outweighs traffic move
      have later := ih (advance handle traffic move)
      rw [collected, List.length_append, exec_cons, List.flatMap_cons, total_append]
      omega

end Weight

end OpenLink.Cascades
