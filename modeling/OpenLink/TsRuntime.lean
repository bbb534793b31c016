import OpenLink.TsEnvelope

/-!
The runtime rules of the TypeScript SDK: when a message is acknowledged, and which
short responses it can be answered with.
-/
namespace OpenLink.TsRuntime
open TsTypes

def isLogicalAckElementId (id : String) : Bool := id == "DM100" || id == "UM227"

def messageContainsLogicalAck (elements : List TsElement) : Bool :=
  elements.any fun element => isLogicalAckElementId element.id

def shouldAutoSendLogicalAck (elements : List TsElement) (min : Nat) : Bool :=
  decide (0 < min) && !messageContainsLogicalAck elements

/-- A standby keeps the dialogue open, whatever else the message says. -/
def closesDialogueResponseElements (elements : List TsElement) : Bool :=
  let hasStandby := elements.any fun element => ["DM2", "UM1", "UM2"].contains element.id
  let hasClosing := elements.any fun element =>
    ["DM0", "DM1", "DM3", "DM4", "DM5", "UM0", "UM3", "UM4", "UM5"].contains element.id
  hasClosing && !hasStandby

/-! The short responses, which a catalog of messages may list itself. -/

structure CatalogResponseIntent where
  intent : String
  label : String
  uplinkId : String
  downlinkId : String
  deriving DecidableEq

structure CatalogEntryForRuntime where
  id : String
  responseAttr : String
  shortResponseIntents : List CatalogResponseIntent
  deriving DecidableEq

structure ResponseIntent where
  label : String
  downlinkId : String
  deriving DecidableEq

def responseAttrPriority : String → Nat
  | "WU" => 5
  | "AN" => 4
  | "R" => 3
  | "Y" => 2
  | "N" => 1
  | "NE" => 1
  | _ => 0

def responseAttrToIntents : String → List ResponseIntent
  | "WU" => [⟨"WILCO", "DM0"⟩, ⟨"UNABLE", "DM1"⟩, ⟨"STANDBY", "DM2"⟩]
  | "AN" => [⟨"AFFIRM", "DM4"⟩, ⟨"NEGATIVE", "DM5"⟩, ⟨"STANDBY", "DM2"⟩]
  | "R" => [⟨"ROGER", "DM3"⟩, ⟨"STANDBY", "DM2"⟩]
  | "Y" => []
  | _ => []

section Choice
variable (resolveEntry : String → Option CatalogEntryForRuntime)

/-- The entry of highest priority so far, the first one where several have it. -/
def better (best : Option CatalogEntryForRuntime × Nat) (element : TsElement) :
    Option CatalogEntryForRuntime × Nat :=
  match resolveEntry element.id with
  | none => best
  | some entry =>
      let priority := responseAttrPriority entry.responseAttr
      if best.2 < priority then (some entry, priority) else best

def chooseShortResponseIntents (elements : List TsElement) : List ResponseIntent :=
  match (elements.foldl (better resolveEntry) (none, 0)).1 with
  | none => responseAttrToIntents "WU"
  | some best =>
      if 0 < best.shortResponseIntents.length then
        best.shortResponseIntents.map fun intent => ⟨intent.label, intent.downlinkId⟩
      else responseAttrToIntents best.responseAttr

end Choice

end OpenLink.TsRuntime
