import OpenLink.MessageRegistry

/-!
The runtime rules of the Rust SDK: when a client answers a message with a logical
acknowledgement, which short responses its user can answer it with, and which responses
close a dialogue.
-/
namespace OpenLink.CpdlcRuntime
open Cpdlc MessageRegistry

/-- The acknowledgement that an aircraft sends. -/
def logicalAckDownlinkId : String := "DM100"

/-- The acknowledgement that a station sends. -/
def logicalAckUplinkId : String := "UM227"

def isLogicalAckElementId (id : String) : Bool :=
  id == logicalAckDownlinkId || id == logicalAckUplinkId

def messageContainsLogicalAck (elements : List MessageElement) : Bool :=
  elements.any fun element => isLogicalAckElementId element.id

def shouldAutoSendLogicalAck (elements : List MessageElement) (min : UInt8) : Bool :=
  decide (0 < min) && !messageContainsLogicalAck elements

def logicalAckMatchesOutgoing (outgoingMin : UInt8) (incomingElements : List MessageElement)
    (incomingMrn : Option UInt8) : Bool :=
  decide (0 < outgoingMin) && incomingMrn == some outgoingMin &&
    messageContainsLogicalAck incomingElements

/-- A standby keeps the dialogue open, whatever else the message says. -/
def closesDialogueResponseElements (elements : List MessageElement) : Bool :=
  let hasStandby := elements.any fun element => ["DM2", "UM1", "UM2"].contains element.id
  let hasClosingResponse := elements.any fun element =>
    ["DM0", "DM1", "DM3", "DM4", "DM5", "UM0", "UM3", "UM4", "UM5"].contains element.id
  hasClosingResponse && !hasStandby

/-! The short responses. -/

inductive CpdlcResponseIntent where
  | wilco
  | unable
  | standby
  | roger
  | affirm
  | negative
  deriving DecidableEq

namespace CpdlcResponseIntent

def downlinkId : CpdlcResponseIntent → String
  | .wilco => "DM0"
  | .unable => "DM1"
  | .standby => "DM2"
  | .roger => "DM3"
  | .affirm => "DM4"
  | .negative => "DM5"

/-- A request that was granted is acknowledged with a roger. -/
def uplinkId : CpdlcResponseIntent → String
  | .wilco => "UM3"
  | .unable => "UM0"
  | .standby => "UM1"
  | .roger => "UM3"
  | .affirm => "UM4"
  | .negative => "UM5"

def label : CpdlcResponseIntent → String
  | .wilco => "WILCO"
  | .unable => "UNABLE"
  | .standby => "STANDBY"
  | .roger => "ROGER"
  | .affirm => "AFFIRM"
  | .negative => "NEGATIVE"

/-- A message with attribute `Y` is answered with data, not with a fixed intent. -/
def forAttribute : ResponseAttribute → List CpdlcResponseIntent
  | .WU => [.wilco, .unable, .standby]
  | .AN => [.affirm, .negative, .standby]
  | .R => [.roger, .standby]
  | .Y | .N | .NE => []

end CpdlcResponseIntent

def chooseShortResponseIntentsWithResolver (elements : List MessageElement)
    (resolveAttr : String → Option ResponseAttribute) : List CpdlcResponseIntent :=
  let attrs := elements.filterMap fun element => resolveAttr element.id
  let effective := if attrs.isEmpty then .WU else ResponseAttribute.effective attrs
  CpdlcResponseIntent.forAttribute effective

def chooseShortResponseIntents (elements : List MessageElement) : List CpdlcResponseIntent :=
  chooseShortResponseIntentsWithResolver elements fun id =>
    (findDefinition id).map MessageDefinition.responseAttr

end OpenLink.CpdlcRuntime
