import OpenLink.TsRuntime

/-!
The hook of the A320 demonstrator: how it answers an incoming message, once it is
connected. The messages that it displays are left out; no answer depends on them.
-/
namespace OpenLink.UseOpenLink
open Cpdlc TsEnvelope TsRuntime TsTypes

structure ConnectionSettings where
  callsign : String
  acarsAddress : String

/-- The unit that the first contact instruction names; a number or an empty name does not
count. -/
def contactStation (elements : List TsElement) : Option String := do
  let contactElement ← elements.find? fun element => element.id == "UM117"
  let stationArg ← contactElement.args.find? fun arg => arg.argType == "UnitName"
  match stationArg.value with
  | .text station => if station = "" then none else some station
  | .number _ => none

variable (settings : ConnectionSettings) (minSequences : Sequences)

def handleMetaMessage (source : String) : CpdlcMetaMessage → List TsMessage
  | .connectionRequest =>
      [buildConnectionResponse settings.callsign settings.acarsAddress source true]
  | .logonRequest _ _ _ | .logonResponse _ | .connectionResponse _ | .logonForward _ _ _ _
  | .sessionUpdate _ => []

def replyLogicalAck (now : DateTime) (source : String) (message : TsApplicationMessage) :
    List TsMessage × Sequences :=
  if shouldAutoSendLogicalAck message.elements message.min then
    let (ack, minSequences) := buildLogicalAck minSequences now settings.callsign
      settings.acarsAddress source message.min
    ([ack], minSequences)
  else ([], minSequences)

def replyLogon (elements : List TsElement) : List TsMessage × Sequences :=
  match contactStation elements with
  | some station =>
      let (logon, minSequences) := buildLogonRequest minSequences settings.callsign
        settings.acarsAddress station "ZZZZ" "ZZZZ"
      ([logon], minSequences)
  | none => ([], minSequences)

def handleIncomingMessage (now : DateTime) : TsMessage → List TsMessage × Sequences
  | .metaMessage _ => ([], minSequences)
  | .acars _ ⟨source, _, .metaMessage message⟩ =>
      (handleMetaMessage settings source message, minSequences)
  | .acars _ ⟨source, _, .application message⟩ =>
      if messageContainsLogicalAck message.elements then ([], minSequences)
      else
        let (acks, minSequences) := replyLogicalAck settings minSequences now source message
        let (logons, minSequences) := replyLogon settings minSequences message.elements
        (acks ++ logons, minSequences)

end OpenLink.UseOpenLink
