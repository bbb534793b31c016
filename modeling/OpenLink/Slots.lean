import Mathlib.Data.List.Nodup

/-!
A short row of items in order of precedence. A newcomer is placed behind the
first item, in place of whatever stood there; a lookup stops at the first match;
a departure moves the items behind it up.
-/
namespace OpenLink.Slots

variable {Item Key : Type}

def place (row : List Item) (item : Item) : List Item := row.take 1 ++ [item]

def updateFirst (hit : Item → Bool) (change : Item → Item) : List Item → List Item
  | [] => []
  | item :: rest =>
      if hit item then change item :: rest else item :: updateFirst hit change rest

theorem mem_place (row : List Item) (item other : Item) (member : other ∈ place row item) :
    other ∈ row ∨ other = item := by
  rcases List.mem_append.mp member with first | last
  · exact Or.inl (List.mem_of_mem_take first)
  · exact Or.inr (List.mem_singleton.mp last)

theorem place_head (first : Item) (rest : List Item) (item : Item) :
    place (first :: rest) item = [first, item] := rfl

theorem place_nodup_iff [DecidableEq Key] (key : Item → Key) (row : List Item) (item : Item) :
    ((place row item).map key).Nodup ↔ ∀ first ∈ row.head?, key first ≠ key item := by
  cases row with
  | nil => simp [place]
  | cons first rest => simp [place_head]

theorem mem_update_first (hit : Item → Bool) (change : Item → Item) (row : List Item)
    (other : Item) (member : other ∈ updateFirst hit change row) :
    other ∈ row ∨ ∃ item ∈ row, hit item = true ∧ other = change item := by
  induction row with
  | nil => simp [updateFirst] at member
  | cons item rest ih =>
      by_cases found : hit item = true
      · rcases List.mem_cons.mp (by simpa [updateFirst, found] using member) with same | later
        · exact Or.inr ⟨item, List.mem_cons_self, found, same⟩
        · exact Or.inl (List.mem_cons_of_mem _ later)
      · rcases List.mem_cons.mp (by simpa [updateFirst, found] using member) with same | later
        · exact Or.inl (same ▸ List.mem_cons_self)
        · rcases ih later with old | ⟨source, inRest, struck, same⟩
          · exact Or.inl (List.mem_cons_of_mem _ old)
          · exact Or.inr ⟨source, List.mem_cons_of_mem _ inRest, struck, same⟩

theorem update_first_keeps (hit : Item → Bool) (change : Item → Item) (row : List Item)
    (item : Item) (member : item ∈ row) (fixed : hit item = true → change item = item) :
    item ∈ updateFirst hit change row := by
  induction row with
  | nil => simp at member
  | cons first rest ih =>
      by_cases found : hit first = true
      · rcases List.mem_cons.mp member with same | later
        · subst same
          simp [updateFirst, found, fixed found]
        · simp [updateFirst, found, later]
      · rcases List.mem_cons.mp member with same | later
        · simp [updateFirst, found, same]
        · simp [updateFirst, found, ih later]

theorem update_first_keys (key : Item → Key) (hit : Item → Bool) (change : Item → Item)
    (unchanged : ∀ item, key (change item) = key item) (row : List Item) :
    (updateFirst hit change row).map key = row.map key := by
  induction row with
  | nil => rfl
  | cons first rest ih =>
      by_cases found : hit first = true <;> simp [updateFirst, found, unchanged, ih]

theorem place_length (row : List Item) (item : Item) : (place row item).length ≤ 2 := by
  simp only [place, List.length_append, List.length_take, List.length_singleton]
  omega

theorem update_first_length (hit : Item → Bool) (change : Item → Item) (row : List Item) :
    (updateFirst hit change row).length = row.length := by
  induction row with
  | nil => rfl
  | cons first rest ih => by_cases found : hit first = true <;> simp [updateFirst, found, ih]

theorem map_place {Other : Type} (view : Item → Other) (row : List Item) (item : Item) :
    (place row item).map view = place (row.map view) (view item) := by
  simp [place, List.map_take]

/-- A view under which the hits stay hits and the change is a change of the view. -/
theorem map_update_first {Other : Type} (view : Item → Other) (hit : Item → Bool)
    (shownHit : Other → Bool) (change : Item → Item) (shownChange : Other → Other) (row : List Item)
    (same : ∀ item, shownHit (view item) = hit item)
    (changed : ∀ item ∈ row, view (change item) = shownChange (view item)) :
    (updateFirst hit change row).map view = updateFirst shownHit shownChange (row.map view) := by
  induction row with
  | nil => rfl
  | cons first rest ih =>
      have later := ih fun item member => changed item (List.mem_cons_of_mem _ member)
      have first_changed := changed first List.mem_cons_self
      by_cases found : hit first = true
      · simp [updateFirst, same, found, first_changed]
      · simp [updateFirst, same, found, later]

theorem find_of_mem [DecidableEq Key] (key : Item → Key) (row : List Item)
    (distinct : (row.map key).Nodup) (item : Item) (member : item ∈ row) :
    (row.find? fun other => key other == key item) = some item := by
  induction row with
  | nil => simp at member
  | cons first rest ih =>
      obtain ⟨fresh, tail⟩ := List.nodup_cons.mp (List.map_cons ▸ distinct)
      rcases List.mem_cons.mp member with same | later
      · subst same
        simp
      · have away : key first ≠ key item :=
          fun same => fresh (List.mem_map.mpr ⟨item, later, same.symm⟩)
        rw [List.find?_cons_of_neg (by simpa using away)]
        exact ih tail later

/-- Where keys are distinct, at most one item has a given key. -/
theorem filter_key [DecidableEq Key] (items : List Item) (key : Item → Key)
    (distinct : (items.map key).Nodup) (wanted : Key) (chosen : Option Item)
    (found : ∀ item, item ∈ items ∧ key item = wanted ↔ chosen = some item) :
    (items.filter fun item => key item == wanted) = chosen.toList := by
  have nodup : (items.filter fun item => key item == wanted).Nodup :=
    (List.Nodup.of_map key distinct).filter _
  have same : (items.filter fun item => key item == wanted).Perm chosen.toList := by
    refine (List.perm_ext_iff_of_nodup nodup ?_).mpr fun item => ?_
    · cases chosen <;> simp
    · rw [List.mem_filter, beq_iff_eq, found]
      simp
  cases chosen with
  | none => exact List.perm_nil.mp same
  | some item => exact List.perm_singleton.mp same

/-- Where keys are distinct, a departure leaves no item of that key behind. -/
theorem erased_absent [DecidableEq Key] (key : Item → Key) (row : List Item)
    (distinct : (row.map key).Nodup) (gone : Key) (item : Item)
    (member : item ∈ row.eraseP fun other => key other == gone) : key item ≠ gone := by
  induction row with
  | nil => simp at member
  | cons first rest ih =>
      obtain ⟨fresh, tail⟩ := List.nodup_cons.mp (List.map_cons ▸ distinct)
      by_cases found : key first = gone
      · have later : item ∈ rest := by simpa [List.eraseP_cons, found] using member
        intro same
        exact fresh (List.mem_map.mpr ⟨item, later, same.trans found.symm⟩)
      · rcases List.mem_cons.mp (by simpa [List.eraseP_cons, found] using member) with same | later
        · exact same ▸ found
        · exact ih tail later

end OpenLink.Slots
