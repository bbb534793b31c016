import OpenLink.CpdlcRuntime
import OpenLink.TsRuntime

/-!
The short responses to a message on either side. The Rust SDK takes the effective
attribute of all elements, the TypeScript SDK the first entry of highest priority; over
one catalog they offer the same downlinks.
-/
namespace OpenLink.ResponseIntents
open Cpdlc CpdlcRuntime TsRuntime TsTypes

/-! The catalog, as the exporter writes it. -/
section Catalog

def attrName : ResponseAttribute → String
  | .WU => "WU"
  | .AN => "AN"
  | .R => "R"
  | .Y => "Y"
  | .N => "N"
  | .NE => "NE"

def parseAttr : String → Option ResponseAttribute
  | "WU" => some .WU
  | "AN" => some .AN
  | "R" => some .R
  | "Y" => some .Y
  | "N" => some .N
  | "NE" => some .NE
  | _ => none

theorem parse_attr_name (attr : ResponseAttribute) : parseAttr (attrName attr) = some attr := by
  cases attr <;> rfl

def intentName : CpdlcResponseIntent → String
  | .wilco => "Wilco"
  | .unable => "Unable"
  | .standby => "Standby"
  | .roger => "Roger"
  | .affirm => "Affirm"
  | .negative => "Negative"

def shortResponseIntents (attr : ResponseAttribute) : List CatalogResponseIntent :=
  (CpdlcResponseIntent.forAttribute attr).map fun intent =>
    ⟨intentName intent, intent.label, intent.uplinkId, intent.downlinkId⟩

structure CatalogEntry where
  entry : CatalogEntryForRuntime
  attr : ResponseAttribute
  named : entry.responseAttr = attrName attr
  listed : entry.shortResponseIntents = [] ∨ entry.shortResponseIntents = shortResponseIntents attr

abbrev Catalog := String → Option CatalogEntry

def Catalog.resolveEntry (catalog : Catalog) (id : String) : Option CatalogEntryForRuntime :=
  (catalog id).map CatalogEntry.entry

def Catalog.resolveAttr (catalog : Catalog) (id : String) : Option ResponseAttribute :=
  (catalog.resolveEntry id).bind fun entry => parseAttr entry.responseAttr

end Catalog

/-! The order of the attributes. -/
section Order

/-- `NE` counts as `N`. -/
def counted (attr : ResponseAttribute) : ResponseAttribute := if attr = .NE then .N else attr

theorem priority_counted (attr : ResponseAttribute) :
    responseAttrPriority (attrName attr) = (counted attr).discriminant + 1 := by
  cases attr <;> rfl

theorem discriminant_injective : Function.Injective ResponseAttribute.discriminant := by
  intro left right
  cases left <;> cases right <;> simp [ResponseAttribute.discriminant]

theorem intents_counted (attr : ResponseAttribute) :
    CpdlcResponseIntent.forAttribute (counted attr) = CpdlcResponseIntent.forAttribute attr := by
  cases attr <;> rfl

theorem effective_snoc (attrs : List ResponseAttribute) (attr : ResponseAttribute) :
    ResponseAttribute.effective (attrs ++ [attr]) =
      (ResponseAttribute.effective attrs).max (counted attr) := by
  simp [ResponseAttribute.effective, counted]

end Order

/-! The scan of the elements. -/
section Scan
variable (catalog : Catalog)

def Follows (seen : List ResponseAttribute) : Option CatalogEntryForRuntime × Nat → Prop
  | (none, priority) => seen = [] ∧ priority = 0
  | (some entry, priority) => ∃ found : CatalogEntry, found.entry = entry ∧
      seen ≠ [] ∧ counted found.attr = ResponseAttribute.effective seen ∧
      priority = (ResponseAttribute.effective seen).discriminant + 1

theorem resolve_attr (id : String) :
    catalog.resolveAttr id = (catalog id).map CatalogEntry.attr := by
  unfold Catalog.resolveAttr Catalog.resolveEntry
  cases catalog id with
  | none => rfl
  | some found => simp [found.named, parse_attr_name]

theorem follows_step (seen : List ResponseAttribute) (best : Option CatalogEntryForRuntime × Nat)
    (follows : Follows seen best) (element : TsElement) :
    Follows (seen ++ (catalog.resolveAttr element.id).toList)
      (better catalog.resolveEntry best element) := by
  rw [resolve_attr]
  unfold better Catalog.resolveEntry
  cases catalog element.id with
  | none => simpa using follows
  | some found =>
      simp only [Option.map_some, Option.toList_some, found.named, priority_counted]
      obtain ⟨_ | entry, priority⟩ := best
      · -- the first entry is taken whatever it is
        obtain ⟨rfl, rfl⟩ := follows
        have first : counted found.attr = ResponseAttribute.effective [found.attr] := by
          cases found.attr <;> rfl
        rw [if_pos (Nat.succ_pos _)]
        exact ⟨found, rfl, by simp, first, by rw [List.nil_append, ← first]⟩
      · obtain ⟨earlier, same, nonempty, standing, rfl⟩ := follows
        by_cases higher : (ResponseAttribute.effective seen).discriminant <
            (counted found.attr).discriminant
        · have raised : ResponseAttribute.effective (seen ++ [found.attr]) = counted found.attr := by
            rw [effective_snoc, ResponseAttribute.max, if_pos higher.le]
          rw [if_pos (Nat.succ_lt_succ higher)]
          exact ⟨found, rfl, by simp, raised.symm, by rw [raised]⟩
        · have kept : ResponseAttribute.effective (seen ++ [found.attr]) =
              ResponseAttribute.effective seen := by
            rw [effective_snoc, ResponseAttribute.max]
            split
            · next tied => exact discriminant_injective (Nat.le_antisymm (Nat.not_lt.mp higher) tied)
            · rfl
          rw [if_neg (fun less => higher (Nat.lt_of_succ_lt_succ less))]
          exact ⟨earlier, same, by simp, by rw [kept, standing], by rw [kept]⟩

theorem follows_scan (elements : List TsElement) :
    Follows (elements.filterMap fun element => catalog.resolveAttr element.id)
      (elements.foldl (better catalog.resolveEntry) (none, 0)) := by
  induction elements using List.reverseRecOn with
  | nil => exact ⟨rfl, rfl⟩
  | append_singleton before element ih =>
      rw [List.filterMap_append, List.foldl_append]
      have stepped := follows_step catalog _ _ ih element
      cases resolved : catalog.resolveAttr element.id <;>
        simpa [resolved] using stepped

end Scan

/-- What an entry offers, listed or not, is what its attribute offers. -/
theorem entry_intents (found : CatalogEntry) :
    (if 0 < found.entry.shortResponseIntents.length then
        found.entry.shortResponseIntents.map fun intent =>
          ResponseIntent.mk intent.label intent.downlinkId
      else responseAttrToIntents found.entry.responseAttr).map ResponseIntent.downlinkId =
      (CpdlcResponseIntent.forAttribute found.attr).map CpdlcResponseIntent.downlinkId := by
  rcases found.listed with listed | listed
  · rw [listed, found.named]
    cases found.attr <;> rfl
  · rw [listed, found.named]
    cases found.attr <;> rfl

/-- Both SDKs offer the same downlinks in the same order. -/
theorem intents_alike (catalog : Catalog) (elements : List MessageElement) :
    (TsRuntime.chooseShortResponseIntents catalog.resolveEntry
        (elements.map wireElement)).map ResponseIntent.downlinkId =
      (chooseShortResponseIntentsWithResolver elements catalog.resolveAttr).map
        CpdlcResponseIntent.downlinkId := by
  have follows := follows_scan catalog (elements.map wireElement)
  have attrs : ((elements.map wireElement).filterMap fun element =>
      catalog.resolveAttr element.id) =
      elements.filterMap fun element => catalog.resolveAttr element.id := by
    rw [List.filterMap_map]
    rfl
  rw [attrs] at follows
  unfold TsRuntime.chooseShortResponseIntents chooseShortResponseIntentsWithResolver
  generalize ((elements.map wireElement).foldl (better catalog.resolveEntry) (none, 0)) = best
    at follows
  obtain ⟨_ | entry, priority⟩ := best
  · obtain ⟨nothing, -⟩ := follows
    rw [nothing]
    rfl
  · obtain ⟨found, rfl, nonempty, standing, -⟩ := follows
    simp only [List.isEmpty_eq_false_iff.mpr nonempty]
    rw [entry_intents, ← intents_counted, standing]
    rfl

end OpenLink.ResponseIntents
