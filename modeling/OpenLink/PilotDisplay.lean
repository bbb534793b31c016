import OpenLink.DcduResponses
import OpenLink.OfferedIntents
import OpenLink.UplinkComposer

/-!
The classic display of the pilot: the list of messages with its response buttons, the logon, and the
panel in which he puts a downlink together. The order in which the panel lists the commands is left
out. The upper case of a character is a parameter, as it is that of Unicode.
-/
namespace OpenLink.PilotDisplay
open Cpdlc CpdlcRuntime DcduLayout DcduResponses Envelope GuiMessages MessageRegistry OfferedIntents
  Runs SdkClient Texts UplinkComposer

/-! What is typed into the fields of a command. -/
section Arguments

/-- The views of the pilot differ in what they take for a level. -/
def parseArgWith (levelText : Text → Text) (argType : ArgType) (raw : Text) :
    Option CpdlcArgument :=
  let value := trim raw
  if value = [] then none
  else
    match argType with
    | .level =>
        (parseDecimal 65535 (levelText value)).map fun level => .level ⟨UInt16.ofNat level⟩
    | .degrees => (parseDecimal 65535 value).map fun degrees => .degrees (UInt16.ofNat degrees)
    | .speed => some (.speed (String.ofList value))
    | .time => some (.time (String.ofList value))
    | .position => some (.position (String.ofList value))
    | .direction => some (.direction (String.ofList value))
    | .distance => some (.distance (String.ofList value))
    | .routeClearance => some (.routeClearance (String.ofList value))
    | .procedureName => some (.procedureName (String.ofList value))
    | .unitName => some (.unitName (String.ofList value))
    | .facilityDesignation => some (.facilityDesignation (String.ofList value))
    | .frequency => some (.frequency (String.ofList value))
    | .code => some (.code (String.ofList value))
    | .atisCode => some (.atisCode (String.ofList value))
    | .errorInfo => some (.errorInfo (String.ofList value))
    | .freeText => some (.freeText (String.ofList value))
    | .verticalRate => some (.verticalRate (String.ofList value))
    | .altimeter => some (.altimeter (String.ofList value))
    | .legType => some (.legType (String.ofList value))
    | .positionReport => some (.positionReport (String.ofList value))
    | .remainingFuel => some (.remainingFuel (String.ofList value))
    | .personsOnBoard => some (.personsOnBoard (String.ofList value))
    | .speedType => some (.speedType (String.ofList value))
    | .departureClearance => some (.departureClearance (String.ofList value))

def parseArg : ArgType → Text → Option CpdlcArgument := parseArgWith id

def parseArgs (inputs : List String) : Nat → List ArgType → Option (List CpdlcArgument)
  | _, [] => some []
  | idx, argType :: rest => do
      let raw ← inputs[idx]?
      let parsed ← parseArg argType raw.toList
      let others ← parseArgs inputs (idx + 1) rest
      return parsed :: others

def ValidDownlink (element : MessageElement) : Prop :=
  ∃ definition, findDefinition element.id = some definition ∧ definition.direction = .downlink ∧
    element.args.map CpdlcArgument.argType = definition.args

theorem parsed_type {levelText : Text → Text} {argType : ArgType} {raw : Text}
    {parsed : CpdlcArgument} (read : parseArgWith levelText argType raw = some parsed) :
    parsed.argType = argType := by
  unfold parseArgWith at read
  simp only at read
  split at read
  · cases read
  · cases argType <;> first
      | (cases read; rfl)
      | (obtain ⟨value, _, rfl⟩ := Option.map_eq_some_iff.mp read; rfl)

theorem parsed_types {inputs : List String} {idx : Nat} {types : List ArgType}
    {parsed : List CpdlcArgument} (read : parseArgs inputs idx types = some parsed) :
    parsed.map CpdlcArgument.argType = types := by
  induction types generalizing idx parsed with
  | nil =>
      cases read
      rfl
  | cons argType rest ih =>
      simp only [parseArgs, bind, Option.bind_eq_some_iff, pure, Option.some.injEq] at read
      obtain ⟨raw, _, first, typed, others, later, rfl⟩ := read
      rw [List.map_cons, parsed_type typed, ih later]

theorem response_valid (intent : CpdlcResponseIntent) : ValidDownlink ⟨intent.downlinkId, []⟩ := by
  cases intent <;> exact ⟨_, rfl, rfl, rfl⟩

end Arguments

/-! The state of the display. -/
section State

/-- What is composed so far: nothing outside of the composing mode. -/
structure Composition where
  mode : Bool
  elements : List MessageElement
  mrn : Option UInt8
  idle : mode = false → elements = [] ∧ mrn = none

namespace Composition

def empty : Composition := ⟨false, [], none, fun _ => ⟨rfl, rfl⟩⟩

def started (composition : Composition) : Composition where
  mode := true
  elements := composition.elements
  mrn := composition.mrn
  idle := by simp

def pushed (composition : Composition) (element : MessageElement) : Composition where
  mode := true
  elements := composition.elements ++ [element]
  mrn := composition.mrn
  idle := by simp

def answering (composition : Composition) (min : UInt8) : Composition where
  mode := true
  elements := composition.elements
  mrn := some min
  idle := by simp

def hasQueue (composition : Composition) : Bool :=
  composition.mode && (!composition.elements.isEmpty || composition.mrn.isSome)

theorem unqueued {composition : Composition} (nothing : composition.hasQueue = false) :
    composition.elements = [] ∧ composition.mrn = none := by
  cases composing : composition.mode with
  | false => exact composition.idle composing
  | true => simpa [hasQueue, composing] using nothing

end Composition

/-- The panel has commands for the downlinks of the registry only. -/
abbrev DownlinkCommand : Type :=
  { id : String // ∃ definition, findDefinition id = some definition ∧
    definition.direction = .downlink }

structure Dcdu where
  tab : DcduTab
  client : OpenLinkClient
  logonInput : String
  pilotDownlinkOpen : Bool
  pendingDownlinkCmd : Option DownlinkCommand
  cmdArgInputs : List String
  cmdSearchQuery : String
  composition : Composition
  composeSendAfterParam : Bool
  /-- the messages from the panel, and those of the response buttons -/
  downlinks : List OpenLinkMessage
  responses : List OpenLinkMessage
  logons : List OpenLinkMessage

def Dcdu.new (callsign acarsAddress : String) (client : OpenLinkClient) : Dcdu where
  tab := ⟨callsign, acarsAddress, none, []⟩
  client := client
  logonInput := ""
  pilotDownlinkOpen := false
  pendingDownlinkCmd := none
  cmdArgInputs := []
  cmdSearchQuery := ""
  composition := .empty
  composeSendAfterParam := false
  downlinks := []
  responses := []
  logons := []

inductive DcduConnectionState where
  | disconnected
  | pending (station : String)
  | connected (station : String)

def connectionState (tab : DcduTab) : DcduConnectionState :=
  match tab.session.bind fun session => session.activeConnection.or session.inactiveConnection with
  | none => .disconnected
  | some connection =>
      match connection.phase with
      | .logonPending | .loggedOn => .pending connection.peer
      | .connected => .connected connection.peer
      | .terminated => .disconnected

/-- Where the panel is on the screen, its messages go to the station that is connected. -/
def connectedStation (tab : DcduTab) : Option String :=
  match connectionState tab with
  | .connected _ => stationCallsign tab
  | _ => none

end State

/-! What the pilot can click on and type. -/
section Model
variable (upper : Char → Text)

inductive PanelGesture where
  | clear
  | sendAll (now : DateTime)
  | cancel
  | typed (idx : Nat) (value : String)
  | submit (now : DateTime)
  | search (value : String)
  | choose (now : DateTime) (command : DownlinkCommand)
  | plus (command : DownlinkCommand)

inductive DcduEvent where
  /-- what arrives may not have parsed -/
  | received (now : DateTime) (envelope : Option OpenLinkEnvelope)
  | sessionUpdate (session : CpdlcSessionView)
  /-- a message that the program sends of itself takes a MIN, and may have a row -/
  | automatic (client : OpenLinkClient) (row : Option (DateTime × String))
  | respond (now : DateTime) (min : UInt8) (intent : CpdlcResponseIntent)
  | respondCompose (min : UInt8) (intent : CpdlcResponseIntent)
  | typeLogon (value : String)
  | logon (now : DateTime)
  | cancelLogon
  | togglePanel
  | composing (gesture : PanelGesture)

def pushRow (row : ReceivedMessage) (dcdu : Dcdu) : Dcdu :=
  { dcdu with tab := { dcdu.tab with messages := dcdu.tab.messages ++ [row] } }

def markDialogueResponded (mrn : Option UInt8) (elements : List MessageElement)
    (messages : List ReceivedMessage) : List ReceivedMessage :=
  match mrn with
  | none => messages
  | some mrn =>
      if closesDialogueResponseElements elements then markResponded mrn messages else messages

def renderElement (element : MessageElement) : String :=
  (findDefinition element.id).elim element.id fun definition =>
    String.ofList (Rendering.render definition element.args)

def elementsText (elements : List MessageElement) : String :=
  " / ".intercalate (elements.map renderElement)

def closePanel (dcdu : Dcdu) : Dcdu :=
  { dcdu with
    pilotDownlinkOpen := false
    pendingDownlinkCmd := none
    cmdArgInputs := []
    cmdSearchQuery := ""
    composition := .empty
    composeSendAfterParam := false }

variable (now : DateTime) (station : String)

def transmit (elements : List MessageElement) (mrn : Option UInt8) (text : String) (dcdu : Dcdu) :
    Dcdu :=
  let (message, client) := dcdu.client.cpdlcAircraftApplication now dcdu.tab.callsign
    dcdu.tab.acarsAddress station elements mrn
  pushRow (outgoingMessage now text none none mrn)
    { dcdu with client := client, downlinks := dcdu.downlinks ++ [message] }

def sendComposition (composition : Composition) (dcdu : Dcdu) : Dcdu :=
  let sent := transmit now station composition.elements composition.mrn
    (elementsText composition.elements) dcdu
  closePanel
    { sent with
      tab :=
        { sent.tab with
          messages := markDialogueResponded composition.mrn composition.elements
            sent.tab.messages } }

def submitCommand (command : DownlinkCommand) (args : List CpdlcArgument) (dcdu : Dcdu) : Dcdu :=
  let element : MessageElement := ⟨command.val, args⟩
  if dcdu.composition.mode then
    if dcdu.composeSendAfterParam then
      sendComposition now station (dcdu.composition.pushed element) dcdu
    else
      { dcdu with
        composition := dcdu.composition.pushed element
        pendingDownlinkCmd := none
        cmdArgInputs := []
        composeSendAfterParam := false }
  else
    { transmit now station [element] none (renderElement element) dcdu with
      pilotDownlinkOpen := false
      pendingDownlinkCmd := none
      cmdArgInputs := []
      composeSendAfterParam := false }

/-- A command without fields is sent at once, behind what is composed. -/
def chooseCommand (command : DownlinkCommand) (definition : MessageDefinition) (dcdu : Dcdu) :
    Dcdu :=
  let element : MessageElement := ⟨command.val, []⟩
  if dcdu.composition.hasQueue ∧ definition.args = [] then
    sendComposition now station (dcdu.composition.pushed element) dcdu
  else if definition.args = [] then
    { transmit now station [element] none definition.template dcdu with
      pilotDownlinkOpen := false
      pendingDownlinkCmd := none
      cmdArgInputs := []
      cmdSearchQuery := "" }
  else
    { dcdu with
      pendingDownlinkCmd := some command
      cmdArgInputs := List.replicate definition.args.length ""
      cmdSearchQuery := ""
      composeSendAfterParam := dcdu.composition.hasQueue }

def addCommand (command : DownlinkCommand) (definition : MessageDefinition) (dcdu : Dcdu) : Dcdu :=
  if definition.args = [] then
    { dcdu with
      composition := dcdu.composition.pushed ⟨command.val, []⟩
      cmdSearchQuery := ""
      composeSendAfterParam := false }
  else
    { dcdu with
      composition := dcdu.composition.started
      pendingDownlinkCmd := some command
      cmdArgInputs := List.replicate definition.args.length ""
      cmdSearchQuery := ""
      composeSendAfterParam := false }

def pendingDefinition (dcdu : Dcdu) : Option (DownlinkCommand × MessageDefinition) :=
  dcdu.pendingDownlinkCmd.bind fun command =>
    (findDefinition command.val).map fun definition => (command, definition)

/-- The definition of a command that the search has not hidden; there is no list beside a form. -/
def listedDefinition (dcdu : Dcdu) (command : DownlinkCommand) : Option MessageDefinition :=
  if dcdu.pendingDownlinkCmd.isSome then none
  else (findDefinition command.val).filter fun definition =>
    dcdu.cmdSearchQuery = "" ∨
      dcdu.cmdSearchQuery.toList <:+: toUppercase upper definition.template.toList

def panelStep (dcdu : Dcdu) : PanelGesture → Dcdu
  | .clear =>
      if dcdu.composition.hasQueue then
        { dcdu with composition := .empty, composeSendAfterParam := false }
      else dcdu
  | .sendAll now =>
      if dcdu.composition.hasQueue ∧ dcdu.composition.elements ≠ [] then
        sendComposition now station dcdu.composition dcdu
      else dcdu
  | .cancel =>
      if (pendingDefinition dcdu).isSome then
        { dcdu with pendingDownlinkCmd := none, cmdArgInputs := [] }
      else dcdu
  | .typed idx value =>
      match pendingDefinition dcdu with
      | none => dcdu
      | some (_, definition) =>
          if idx < definition.args.length then
            { dcdu with cmdArgInputs := typeInput idx value dcdu.cmdArgInputs }
          else dcdu
  | .submit now =>
      match pendingDefinition dcdu with
      | none => dcdu
      | some (command, definition) =>
          match parseArgs dcdu.cmdArgInputs 0 definition.args with
          | none => dcdu
          | some args => submitCommand now station command args dcdu
  | .search value =>
      if dcdu.pendingDownlinkCmd.isSome then dcdu
      else { dcdu with cmdSearchQuery := String.ofList (toUppercase upper value.toList) }
  | .choose now command =>
      match listedDefinition upper dcdu command with
      | none => dcdu
      | some definition => chooseCommand now station command definition dcdu
  | .plus command =>
      match listedDefinition upper dcdu command with
      | none => dcdu
      | some definition => addCommand command definition dcdu

def hasResponse (messages : List ReceivedMessage) (min : UInt8) (intent : CpdlcResponseIntent) :
    Bool :=
  messages.any fun message => canRespond message && message.min == some min &&
    (sharedResponseIntents message).contains intent

/-- Only the first of its responses can be composed with other elements. -/
def hasCompose (messages : List ReceivedMessage) (min : UInt8) (intent : CpdlcResponseIntent) :
    Bool :=
  messages.any fun message => canRespond message && message.min == some min &&
    (sharedResponseIntents message).head? == some intent

def dcduStep (dcdu : Dcdu) : DcduEvent → Dcdu
  | .received now envelope =>
      match received now envelope with
      | none => dcdu
      | some row => pushRow row dcdu
  | .sessionUpdate session => { dcdu with tab := { dcdu.tab with session := some session } }
  | .automatic client none => { dcdu with client := client }
  | .automatic client (some (now, text)) =>
      pushRow (outgoingMessage now text none none none) { dcdu with client := client }
  | .respond now min intent =>
      if hasResponse dcdu.tab.messages min intent then
        match stationCallsign dcdu.tab, onRespond dcdu.client now dcdu.tab min intent with
        | some station, (some message, tab) =>
            { dcdu with
              tab := tab
              client := (dcdu.client.nextMinForSession dcdu.tab.callsign station).2
              responses := dcdu.responses ++ [message] }
        | _, _ => dcdu
      else dcdu
  | .respondCompose min intent =>
      if hasCompose dcdu.tab.messages min intent then
        { dcdu with
          composition := (dcdu.composition.answering min).pushed ⟨intent.downlinkId, []⟩
          pilotDownlinkOpen := true
          pendingDownlinkCmd := none
          cmdArgInputs := []
          cmdSearchQuery := ""
          composeSendAfterParam := false }
      else dcdu
  | .typeLogon value =>
      match connectionState dcdu.tab with
      | .disconnected =>
          let input := String.ofList (toUppercase upper value.toList)
          if input.utf8ByteSize ≤ 4 then { dcdu with logonInput := input } else dcdu
      | _ => dcdu
  | .logon now =>
      match connectionState dcdu.tab with
      | .disconnected =>
          if dcdu.logonInput.utf8ByteSize = 4 then
            let (request, client) := dcdu.client.cpdlcLogonRequest dcdu.tab.callsign
              dcdu.tab.acarsAddress dcdu.logonInput
            pushRow (outgoingMessage now ("LOGON REQUEST → " ++ dcdu.logonInput) none none none)
              { dcdu with client := client, logons := dcdu.logons ++ [request] }
          else dcdu
      | _ => dcdu
  | .cancelLogon =>
      match connectionState dcdu.tab with
      | .pending _ => { dcdu with tab := { dcdu.tab with session := none }, logonInput := "" }
      | _ => dcdu
  | .togglePanel =>
      match connectionState dcdu.tab with
      | .connected _ =>
          if dcdu.pilotDownlinkOpen then closePanel dcdu
          else { dcdu with pilotDownlinkOpen := true }
      | _ => dcdu
  | .composing gesture =>
      match connectedStation dcdu.tab with
      | none => dcdu
      | some station =>
          if dcdu.pilotDownlinkOpen then panelStep upper station dcdu gesture else dcdu

end Model

end OpenLink.PilotDisplay
