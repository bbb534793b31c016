import Mathlib.Data.Finset.Card
import Mathlib.Data.Finset.Sort
import Mathlib.Order.Interval.Finset.Defs
import Mathlib.Tactic.Common

/-!
Positions in a sorted list without duplicates: an item stands where as many items are
smaller. What one item more or less does to the position of another.
-/
namespace OpenLink.Ranks

variable {Item : Type} [LinearOrder Item]

def rank (items : Finset Item) (item : Item) : Nat := (items.filter (· < item)).card

/-! The first item of a list stands in front of the others. -/
section First
variable {first : Item} {rest : List Item} (least : ∀ other ∈ rest, first < other)
include least

theorem rank_first : rank (first :: rest).toFinset first = 0 := by
  rw [rank, Finset.card_eq_zero, Finset.filter_eq_empty_iff]
  intro other member
  rcases List.mem_cons.mp (List.mem_toFinset.mp member) with rfl | later
  · exact lt_irrefl _
  · exact not_lt_of_gt (least other later)

theorem rank_later {item : Item} (member : item ∈ rest) :
    rank (first :: rest).toFinset item = rank rest.toFinset item + 1 := by
  have absent : first ∉ rest.toFinset := by
    intro member
    exact lt_irrefl first (least first (List.mem_toFinset.mp member))
  rw [rank, List.toFinset_cons, Finset.filter_insert, if_pos (least item member),
    Finset.card_insert_of_notMem fun inside => absent (Finset.mem_of_mem_filter _ inside)]
  rfl

end First

theorem getElem_rank {list : List Item} (sorted : list.Pairwise (· < ·)) (index : Nat)
    (item : Item) :
    list[index]? = some item ↔ item ∈ list ∧ rank list.toFinset item = index := by
  induction list generalizing index with
  | nil => simp
  | cons first rest ih =>
      obtain ⟨least, sorted⟩ := List.pairwise_cons.mp sorted
      cases index with
      | zero =>
          constructor
          · intro found
            obtain rfl : first = item := by simpa using found
            exact ⟨List.mem_cons_self, rank_first least⟩
          · rintro ⟨member, ranked⟩
            rcases List.mem_cons.mp member with rfl | later
            · rfl
            · rw [rank_later least later] at ranked
              cases ranked
      | succ index =>
          rw [List.getElem?_cons_succ, ih sorted]
          constructor
          · rintro ⟨member, ranked⟩
            exact ⟨List.mem_cons_of_mem _ member, by rw [rank_later least member, ranked]⟩
          · rintro ⟨member, ranked⟩
            rcases List.mem_cons.mp member with rfl | later
            · rw [rank_first least] at ranked
              cases ranked
            · rw [rank_later least later] at ranked
              exact ⟨later, Nat.succ.inj ranked⟩

/-! One item is in the set afterwards, or is not; the others stay. -/
section Change
variable (items : Finset Item) (changed : Item) (present : Prop) [Decidable present]

def change : Finset Item := if present then insert changed items else items.erase changed

theorem mem_change (item : Item) :
    item ∈ change items changed present ↔ if item = changed then present else item ∈ items := by
  unfold change
  by_cases same : item = changed <;> by_cases now : present <;> simp [same, now]

theorem rank_change (item : Item) :
    rank (change items changed present) item = rank items item ↔
      (changed < item → (changed ∈ items ↔ present)) := by
  by_cases smaller : changed < item
  · by_cases now : present <;> by_cases before : changed ∈ items
    · simp [change, now, before, Finset.insert_eq_of_mem]
    · have fresh : changed ∉ items.filter (· < item) := fun inside =>
        before (Finset.mem_of_mem_filter _ inside)
      simp [change, now, before, smaller, rank, Finset.filter_insert,
        Finset.card_insert_of_notMem fresh]
    · have inside : changed ∈ items.filter (· < item) := Finset.mem_filter.mpr ⟨before, smaller⟩
      have some_left := Finset.card_pos.mpr ⟨changed, inside⟩
      simp [change, now, before, smaller, rank, Finset.filter_erase,
        Finset.card_erase_of_mem inside]
      omega
    · simp [change, now, before, Finset.erase_eq_of_notMem]
  · refine iff_of_true ?_ fun below => absurd below smaller
    unfold rank change
    congr 1
    split
    · rw [Finset.filter_insert, if_neg smaller]
    · rw [Finset.filter_erase]
      exact Finset.erase_eq_of_notMem fun inside => smaller (Finset.mem_filter.mp inside).2

/-- When an item goes, nothing takes its place if it was the greatest. -/
theorem card_erase_rank (item : Item) :
    (items.erase item).card ≤ rank items item ↔ ∀ other ∈ items, other ≤ item := by
  have split : items.erase item = items.filter (· < item) ∪ items.filter (item < ·) := by
    ext other
    simp only [Finset.mem_erase, Finset.mem_union, Finset.mem_filter, ← and_or_left,
      lt_or_lt_iff_ne]
    exact and_comm
  have apart : Disjoint (items.filter (· < item)) (items.filter (item < ·)) := by
    rw [Finset.disjoint_filter]
    intro other _ below above
    exact lt_asymm below above
  have greatest : (items.filter (item < ·)).card = 0 ↔ ∀ other ∈ items, other ≤ item := by
    rw [Finset.card_eq_zero, Finset.filter_eq_empty_iff]
    simp
  rw [split, Finset.card_union_of_disjoint apart, rank, ← greatest]
  omega

/-- The set outgrows a bound that it has reached when an item is new to it. -/
theorem card_change_le {bound : Nat} (within : items.card ≤ bound) :
    (change items changed present).card ≤ bound ↔
      (items.card = bound → present → changed ∈ items) := by
  unfold change
  by_cases now : present
  · by_cases before : changed ∈ items
    · simp [now, before, within]
    · simp only [now, if_true, Finset.card_insert_of_notMem before, before,
        forall_const, imp_false]
      omega
  · simp only [now, if_false, false_imp_iff, imp_true_iff, iff_true]
    exact (Finset.card_erase_le).trans within

end Change

end OpenLink.Ranks
