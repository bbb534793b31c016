import Mathlib.Data.List.Induction
import Mathlib.Tactic.Common

/-!
The running best of a list under a score: an item replaces the one held only if
its score is greater, so the first of the best is chosen.
-/
namespace OpenLink.Selection

variable {Item : Type}

/-- Two cuts of one list fall together, or each marked item lies on its side of the other. -/
theorem split_cases {before other after rest : List Item} {item mark : Item}
    (same : before ++ item :: after = other ++ mark :: rest) :
    (before = other ∧ item = mark ∧ after = rest) ∨
      (item ∈ other ∧ mark ∈ after) ∨ (mark ∈ before ∧ item ∈ rest) := by
  induction before generalizing other with
  | nil =>
      cases other with
      | nil => simp_all
      | cons first tail =>
          obtain ⟨rfl, rfl⟩ := List.cons.inj same
          simp
  | cons first tail ih =>
      cases other with
      | nil =>
          obtain ⟨rfl, rfl⟩ := List.cons.inj same
          simp
      | cons head others =>
          obtain ⟨rfl, tails⟩ := List.cons.inj same
          rcases ih tails with ⟨rfl, rest⟩ | ⟨left, right⟩ | ⟨left, right⟩
          · exact .inl ⟨rfl, rest⟩
          · exact .inr (.inl ⟨by simp [left], right⟩)
          · exact .inr (.inr ⟨by simp [left], right⟩)

variable (score : Item → Nat)

def better (held : Option Item) (item : Item) : Option Item :=
  match held with
  | none => some item
  | some best => if score best < score item then some item else some best

def choose (items : List Item) : Option Item := items.foldl (better score) none

/-- The item scores more than all before it, and at least as much as all behind it. -/
def FirstBest (before : List Item) (item : Item) (after : List Item) : Prop :=
  (∀ other ∈ before, score other < score item) ∧ ∀ other ∈ after, score other ≤ score item

theorem choose_snoc (items : List Item) (item : Item) :
    choose score (items ++ [item]) = better score (choose score items) item := by
  simp [choose]

theorem choose_first_best (items : List Item) (present : items ≠ []) :
    ∃ before best after, items = before ++ best :: after ∧
      choose score items = some best ∧ FirstBest score before best after := by
  induction items using List.reverseRecOn with
  | nil => contradiction
  | append_singleton items item ih =>
      by_cases first : items = []
      · subst first
        exact ⟨[], item, [], rfl, rfl, by simp, by simp⟩
      · obtain ⟨before, best, after, same, held, below, above⟩ := ih first
        rw [choose_snoc, held, better]
        by_cases greater : score best < score item
        · refine ⟨items, item, [], rfl, if_pos greater, ?_, by simp⟩
          intro other member
          rw [same, List.mem_append, List.mem_cons] at member
          rcases member with earlier | rfl | later
          · exact Nat.lt_trans (below other earlier) greater
          · exact greater
          · exact Nat.lt_of_le_of_lt (above other later) greater
        · refine ⟨before, best, after ++ [item], by simp [same], if_neg greater, below, ?_⟩
          intro other member
          rcases List.mem_append.mp member with earlier | last
          · exact above other earlier
          · rw [List.mem_singleton.mp last]
            exact Nat.le_of_not_lt greater

theorem choose_iff {before after : List Item} {item : Item} (fresh : item ∉ before) :
    choose score (before ++ item :: after) = some item ↔ FirstBest score before item after := by
  obtain ⟨others, best, rest, same, chosen, below, above⟩ :=
    choose_first_best score (before ++ item :: after) (by simp)
  rw [chosen, Option.some.injEq]
  rcases split_cases same with ⟨rfl, rfl, rfl⟩ | ⟨early, late⟩ | ⟨early, late⟩
  · exact ⟨fun _ => ⟨below, above⟩, fun _ => rfl⟩
  · constructor
    · rintro rfl
      exact absurd (below best early) (Nat.lt_irrefl _)
    · rintro ⟨_, least⟩
      have lower := below item early
      have upper := least best late
      omega
  · constructor
    · rintro rfl
      exact absurd early fresh
    · rintro ⟨least, _⟩
      have lower := least best early
      have upper := above item late
      omega

theorem choose_some {items : List Item} (present : items ≠ []) :
    ∃ best, choose score items = some best := by
  obtain ⟨_, best, _, _, chosen, _⟩ := choose_first_best score items present
  exact ⟨best, chosen⟩

theorem choose_mem {items : List Item} {item : Item} (chosen : choose score items = some item) :
    item ∈ items := by
  have present : items ≠ [] := by
    rintro rfl
    contradiction
  obtain ⟨before, best, after, same, held, _⟩ := choose_first_best score items present
  rw [held] at chosen
  cases chosen
  simp [same]

theorem choose_none_iff (items : List Item) : choose score items = none ↔ items = [] := by
  constructor
  · intro nothing
    by_contra present
    obtain ⟨best, chosen⟩ := choose_some score present
    rw [nothing] at chosen
    cases chosen
  · rintro rfl
    rfl

/-! The choice among the items that the sources of a list give, where not every source gives one. -/
section Sources
variable {Source : Type} (give : Source → Option Item)

def FirstGiven (before : List Source) (item : Item) (after : List Source) : Prop :=
  (∀ source ∈ before, ∀ other, give source = some other → score other < score item) ∧
    ∀ source ∈ after, ∀ other, give source = some other → score other ≤ score item

theorem first_given_iff (before : List Source) (item : Item) (after : List Source) :
    FirstBest score (before.filterMap give) item (after.filterMap give) ↔
      FirstGiven score give before item after := by
  simp only [FirstBest, FirstGiven, List.mem_filterMap]
  constructor
  · rintro ⟨below, above⟩
    exact ⟨fun source member other given => below other ⟨source, member, given⟩,
      fun source member other given => above other ⟨source, member, given⟩⟩
  · rintro ⟨below, above⟩
    exact ⟨fun other ⟨source, member, given⟩ => below source member other given,
      fun other ⟨source, member, given⟩ => above source member other given⟩

theorem choose_given_iff (sources : List Source) (item : Item) :
    choose score (sources.filterMap give) = some item ↔
      ∃ before source after, sources = before ++ source :: after ∧ give source = some item ∧
        FirstGiven score give before item after := by
  constructor
  · intro chosen
    have present : sources.filterMap give ≠ [] := by
      intro nothing
      rw [nothing] at chosen
      cases chosen
    obtain ⟨front, best, rest, same, held, first⟩ := choose_first_best score _ present
    obtain rfl := Option.some.inj (held.symm.trans chosen)
    obtain ⟨before, others, rfl, rfl, behind⟩ := List.filterMap_eq_append_iff.mp same
    obtain ⟨silent, source, after, rfl, none, given, rfl⟩ := List.filterMap_eq_cons_iff.mp behind
    refine ⟨before ++ silent, source, after, by simp, given, ?_⟩
    rw [← first_given_iff, List.filterMap_append, List.filterMap_eq_nil_iff.mpr none,
      List.append_nil]
    exact first
  · rintro ⟨before, source, after, rfl, given, first⟩
    have best := (first_given_iff score give before item after).mpr first
    rw [List.filterMap_append, List.filterMap_cons_some given]
    exact (choose_iff score fun early => Nat.lt_irrefl _ (best.1 item early)).mpr best

def scan (held : Option Item) (source : Source) : Option Item :=
  match give source with
  | some item => better score held item
  | none => held

theorem scan_choose (sources : List Source) :
    sources.foldl (scan score give) none = choose score (sources.filterMap give) := by
  rw [choose]
  generalize (none : Option Item) = held
  induction sources generalizing held with
  | nil => rfl
  | cons source rest ih =>
      rw [List.foldl_cons, ih, scan]
      cases given : give source with
      | none => rw [List.filterMap_cons_none given]
      | some item => rw [List.filterMap_cons_some given, List.foldl_cons]

end Sources

end OpenLink.Selection
