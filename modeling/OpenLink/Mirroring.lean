import Mathlib.Logic.Function.Basic
import Mathlib.Tactic.Common

/-!
A mirror of a table of records, kept up by notifications. A record is shown under a
key of its own, and hidden where it has no view. The mirror sees keys and views, so
it can only follow a table in which no two records are shown under one key.
-/
namespace OpenLink.Mirroring

variable {Id Record Key View : Type} (key : Record → Key) (view : Record → Option View)

def Shows (table : Id → Option Record) (shown : Key) (value : View) : Prop :=
  ∃ id record, table id = some record ∧ key record = shown ∧ view record = some value

/-- The mirror holds what the table shows, and nothing else. -/
def Mirrors (table : Id → Option Record) (mirror : Key → Option View) : Prop :=
  ∀ shown value, mirror shown = some value ↔ Shows key view table shown value

def Alone (table : Id → Option Record) (id : Id) (shown : Key) : Prop :=
  ∀ other record, other ≠ id → table other = some record → key record = shown →
    view record = none

variable {key view} {table : Id → Option Record} {mirror : Key → Option View}

theorem notified_again [DecidableEq Key] (mirrors : Mirrors key view table mirror) (id : Id)
    (record : Record) (stored : table id = some record) (value : View)
    (seen : view record = some value) :
    Function.update mirror (key record) (some value) = mirror :=
  Function.update_eq_self_iff.mpr
    ((mirrors (key record) value).mpr ⟨id, record, stored, rfl, seen⟩).symm

variable [DecidableEq Id]

theorem shows_update_iff (id : Id) (record : Record) (shown : Key) (value : View) :
    Shows key view (Function.update table id (some record)) shown value ↔
      (key record = shown ∧ view record = some value) ∨
        ∃ other found, other ≠ id ∧ table other = some found ∧ key found = shown ∧
          view found = some value := by
  constructor
  · rintro ⟨other, found, stored, same, seen⟩
    by_cases own : other = id
    · subst own
      rw [Function.update_self] at stored
      cases stored
      exact Or.inl ⟨same, seen⟩
    · rw [Function.update_of_ne own] at stored
      exact Or.inr ⟨other, found, own, stored, same, seen⟩
  · rintro (⟨same, seen⟩ | ⟨other, found, away, stored, same, seen⟩)
    · exact ⟨id, record, Function.update_self .., same, seen⟩
    · exact ⟨other, found, by rwa [Function.update_of_ne away], same, seen⟩

theorem mirrors_unnotified (mirrors : Mirrors key view table mirror) (id : Id) (record : Record)
    (hidden : view record = none) (before : ∀ old, table id = some old → view old = none) :
    Mirrors key view (Function.update table id (some record)) mirror := by
  intro shown value
  rw [shows_update_iff, mirrors shown value]
  constructor
  · rintro ⟨other, found, stored, same, seen⟩
    refine Or.inr ⟨other, found, ?_, stored, same, seen⟩
    rintro rfl
    rw [before found stored] at seen
    cases seen
  · rintro (⟨_, seen⟩ | ⟨other, found, _, stored, same, seen⟩)
    · rw [hidden] at seen
      cases seen
    · exact ⟨other, found, stored, same, seen⟩

theorem mirrors_notified [DecidableEq Key] (mirrors : Mirrors key view table mirror) (id : Id)
    (record : Record) (alone : Alone key view table id (key record))
    (kept : ∀ old, table id = some old → key old = key record) :
    Mirrors key view (Function.update table id (some record))
      (Function.update mirror (key record) (view record)) := by
  intro shown value
  rw [shows_update_iff]
  by_cases here : shown = key record
  · subst here
    rw [Function.update_self]
    constructor
    · exact fun seen => Or.inl ⟨rfl, seen⟩
    · rintro (⟨_, seen⟩ | ⟨other, found, away, stored, same, seen⟩)
      · exact seen
      · rw [alone other found away stored same] at seen
        cases seen
  · rw [Function.update_of_ne here, mirrors shown value]
    constructor
    · rintro ⟨other, found, stored, same, seen⟩
      refine Or.inr ⟨other, found, ?_, stored, same, seen⟩
      rintro rfl
      exact here (same.symm.trans (kept found stored))
    · rintro (⟨same, _⟩ | ⟨other, found, _, stored, same, seen⟩)
      · exact absurd same.symm here
      · exact ⟨other, found, stored, same, seen⟩

end OpenLink.Mirroring
