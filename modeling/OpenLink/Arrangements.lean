import Mathlib.Data.List.Perm.Basic
import Mathlib.Tactic.Common

/-!
Groups of items that reach a log one after the other, where the order within a group is open. What
an observer of some of the items can see of the log.
-/
namespace OpenLink.Arrangements

variable {Item : Type}

/-- The log holds the groups one after the other, each in some order. -/
inductive Arranged : List (List Item) → List Item → Prop where
  | nil : Arranged [] []
  | cons {part group log : List Item} {groups : List (List Item)} (order : part.Perm group)
      (rest : Arranged groups log) : Arranged (group :: groups) (part ++ log)

theorem arranged_flatten (groups : List (List Item)) : Arranged groups groups.flatten := by
  induction groups with
  | nil => exact .nil
  | cons group rest ih => exact .cons (.refl group) ih

variable (wanted : Item → Bool)

/-- The groups of which an observer sees something, and what it sees of each. -/
def seenGroups (groups : List (List Item)) : List (List Item) :=
  (groups.map (List.filter wanted)).filter (!·.isEmpty)

@[simp] theorem seen_groups_append (earlier later : List (List Item)) :
    seenGroups wanted (earlier ++ later) = seenGroups wanted earlier ++ seenGroups wanted later := by
  simp [seenGroups]

theorem seen_groups_none {groups : List (List Item)}
    (unseen : ∀ group ∈ groups, ∀ item ∈ group, wanted item = false) :
    seenGroups wanted groups = [] := by
  simp only [seenGroups, List.filter_eq_nil_iff, List.mem_map]
  rintro _ ⟨group, member, rfl⟩
  have nothing : group.filter wanted = [] :=
    List.filter_eq_nil_iff.mpr fun item inGroup => by simp [unseen group member item inGroup]
  simp [nothing]

theorem seen_groups_chosen {Value : Type} (values : List Value)
    (groups : Value → List (List Item)) (chosen : Value → Bool)
    (others : ∀ value, chosen value = false → ∀ group ∈ groups value, ∀ item ∈ group,
      wanted item = false) :
    seenGroups wanted (values.flatMap groups) =
      seenGroups wanted ((values.filter chosen).flatMap groups) := by
  induction values with
  | nil => rfl
  | cons value rest ih =>
      rw [List.flatMap_cons, seen_groups_append, ih]
      cases pick : chosen value with
      | true => rw [List.filter_cons_of_pos pick, List.flatMap_cons, seen_groups_append]
      | false =>
          rw [List.filter_cons_of_neg (by simp [pick]), seen_groups_none wanted (others value pick),
            List.nil_append]

variable {wanted}

theorem arranged_seen {groups : List (List Item)} {log : List Item}
    (arranged : Arranged groups log) : Arranged (seenGroups wanted groups) (log.filter wanted) := by
  induction arranged with
  | nil => exact .nil
  | cons order rest ih =>
      rename_i part group log groups
      have seen := order.filter wanted
      rw [List.filter_append]
      cases visible : group.filter wanted with
      | nil =>
          rw [visible, List.perm_nil] at seen
          simpa [seenGroups, visible, seen] using ih
      | cons first others =>
          have all : seenGroups wanted (group :: groups) =
              (first :: others) :: seenGroups wanted groups := by simp [seenGroups, visible]
          rw [all]
          exact .cons (visible ▸ seen) ih

/-- Whatever order the seen items of the groups take, some order of the groups shows it. -/
theorem arranged_shown {groups : List (List Item)} {seen : List Item}
    (arranged : Arranged (seenGroups wanted groups) seen) :
    ∃ log, Arranged groups log ∧ log.filter wanted = seen := by
  induction groups generalizing seen with
  | nil =>
      cases arranged
      exact ⟨[], .nil, rfl⟩
  | cons group rest ih =>
      cases visible : group.filter wanted with
      | nil =>
          have unseen : seenGroups wanted (group :: rest) = seenGroups wanted rest := by
            simp [seenGroups, visible]
          obtain ⟨log, orders, shows⟩ := ih (unseen ▸ arranged)
          exact ⟨group ++ log, .cons (.refl group) orders, by simp [visible, shows]⟩
      | cons first others =>
          have all : seenGroups wanted (group :: rest) =
              (first :: others) :: seenGroups wanted rest := by simp [seenGroups, visible]
          rw [all] at arranged
          cases arranged with
          | cons order later =>
              rename_i part tail
              obtain ⟨log, orders, shows⟩ := ih later
              -- the seen items of the group in the given order, and then the others
              have whole : (part ++ group.filter (fun item => !wanted item)).Perm group :=
                ((visible ▸ order).append_right _).trans (List.filter_append_perm wanted group)
              have own : part.filter wanted = part := by
                apply List.filter_eq_self.mpr
                intro item member
                have inSeen : item ∈ group.filter wanted := visible ▸ order.mem_iff.mp member
                exact List.of_mem_filter inSeen
              refine ⟨_, .cons whole orders, ?_⟩
              simp [List.filter_append, own, shows, List.filter_filter]

end OpenLink.Arrangements
