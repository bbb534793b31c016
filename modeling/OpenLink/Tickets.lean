import Mathlib.Data.List.Perm.Basic
import Mathlib.Data.List.Nodup

/-!
Requests that take their time. A request for an item is issued, and settled later, in any order:
it fails, or it succeeds with a result, and some results are final. Where no request is issued for
an item that has one under way or a final result, an item gets one final result at most, and
nothing after it.
-/
namespace OpenLink.Tickets

variable {Item Result : Type} (final : Result → Bool)

def Settled (results : List (Item × Result)) (item : Item) : Prop :=
  ∃ result, (item, result) ∈ results ∧ final result = true

/-- The requests that wait, and the results so far. -/
structure Orderly (waiting : List Item) (results : List (Item × Result)) : Prop where
  single : waiting.Nodup
  closed : ∀ item, Settled final results item → item ∉ waiting
  ordered : results.Pairwise fun earlier later => earlier.1 = later.1 → final earlier.2 = false

theorem orderly_nil : Orderly final ([] : List Item) ([] : List (Item × Result)) where
  single := List.nodup_nil
  closed := fun _ _ => List.not_mem_nil
  ordered := List.Pairwise.nil

variable {final} {waiting rest : List Item} {results : List (Item × Result)} {item : Item}

/-- The order in which the requests wait does not matter. -/
theorem orderly_perm (orderly : Orderly final waiting results) (same : rest.Perm waiting) :
    Orderly final rest results where
  single := same.nodup_iff.mpr orderly.single
  closed := fun other settled member => orderly.closed other settled (same.mem_iff.mp member)
  ordered := orderly.ordered

theorem orderly_issue (orderly : Orderly final waiting results) (idle : item ∉ waiting)
    (unsettled : ¬ Settled final results item) : Orderly final (waiting ++ [item]) results where
  single := by
    rw [← List.concat_eq_append]
    exact orderly.single.concat idle
  closed := by
    intro other settled member
    rcases List.mem_append.mp member with old | new
    · exact orderly.closed other settled old
    · obtain rfl := List.mem_singleton.mp new
      exact unsettled settled
  ordered := orderly.ordered

theorem orderly_fail (orderly : Orderly final waiting results)
    (taken : waiting.Perm (item :: rest)) : Orderly final rest results := by
  obtain ⟨single, closed, ordered⟩ := orderly_perm orderly taken.symm
  exact ⟨(List.nodup_cons.mp single).2,
    fun other settled member => closed other settled (List.mem_cons_of_mem _ member), ordered⟩

theorem orderly_succeed (orderly : Orderly final waiting results)
    (taken : waiting.Perm (item :: rest)) (result : Result) :
    Orderly final rest (results ++ [(item, result)]) := by
  obtain ⟨single, closed, ordered⟩ := orderly_fail orderly taken
  have waits : item ∈ waiting := taken.mem_iff.mpr List.mem_cons_self
  have gone : item ∉ rest := (List.nodup_cons.mp (taken.nodup_iff.mp orderly.single)).1
  refine ⟨single, ?_, ?_⟩
  · rintro other ⟨found, member, isFinal⟩ still
    rcases List.mem_append.mp member with old | new
    · exact closed other ⟨found, old, isFinal⟩ still
    · obtain ⟨rfl, rfl⟩ := Prod.mk.inj (List.mem_singleton.mp new)
      exact gone still
  · refine List.pairwise_append.mpr ⟨ordered, List.pairwise_singleton _ _, ?_⟩
    rintro ⟨other, found⟩ member _ last same
    obtain rfl := List.mem_singleton.mp last
    change other = item at same
    subst same
    -- the item was waiting, so none of its earlier results is final
    rw [← Bool.not_eq_true]
    exact fun isFinal => orderly.closed other ⟨found, member, isFinal⟩ waits

theorem doubled (waits : item ∈ waiting) : ¬ (waiting ++ [item]).Nodup := by
  intro distinct
  exact (List.nodup_append.mp distinct).2.2 item waits item (List.mem_singleton_self item) rfl

/-- Taking an entry out of a list takes out what it is mapped to. -/
theorem filter_map_erase {Entry : Type} (select : Entry → Option Item) {entries : List Entry}
    {index : Nat} {entry : Entry} (found : entries[index]? = some entry) :
    (entries.filterMap select).Perm
      ((select entry).toList ++ (entries.eraseIdx index).filterMap select) := by
  obtain ⟨within, same⟩ := List.getElem?_eq_some_iff.mp found
  have moved := (List.getElem_cons_eraseIdx_perm within).symm.filterMap select
  rw [same, List.filterMap_cons] at moved
  cases picked : select entry with
  | none => simpa [picked] using moved
  | some item => simpa [picked] using moved

end OpenLink.Tickets
