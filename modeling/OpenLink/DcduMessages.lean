import OpenLink.UseOpenLink

/-!
The messages that the hook of the A320 demonstrator keeps for its DCDU, through
everything that the user and the network do. A publish takes its time: what depends on
its outcome waits in `publishing`. Random ids are numbers here, and what the catalog
makes of some elements is a parameter.
-/
namespace OpenLink.DcduMessages
open Cpdlc TsEnvelope TsRuntime TsTypes UseOpenLink

inductive DcduMessageStatus where
  | new
  | opened
  | responding
  | responded
  | draft
  | sending
  | sent
  deriving DecidableEq

structure DcduMessage where
  id : Nat
  sender : String
  text : String
  isOutgoing : Bool
  status : DcduMessageStatus
  responseIntents : List ResponseIntent
  respondedWith : Option String
  acknowledgedByAtc : Bool
  mrn : Option Nat
  min : Option Nat
  elements : Option (List TsElement)
  deriving DecidableEq

inductive Publication where
  | logon (callsign station : String)
  | response (messageId : Nat) (responseLabel downlinkId : String)
  | draft (messageId : Nat) (peer : String) (outgoingMin : Option Nat)

structure HookState where
  settings : Option ConnectionSettings
  session : Option CpdlcSessionView
  dcduMessages : List DcduMessage
  minSequences : Sequences
  publishing : List Publication
  nextId : Nat

def HookState.initial : HookState := ⟨none, none, [], fun _ => none, [], 0⟩

def withMessage (messageId : Nat) (change : DcduMessage → DcduMessage)
    (messages : List DcduMessage) : List DcduMessage :=
  messages.map fun message => if message.id = messageId then change message else message

def HookState.push (state : HookState) (message : Nat → DcduMessage) : HookState :=
  { state with
    dcduMessages := state.dcduMessages ++ [message state.nextId]
    nextId := state.nextId + 1 }

/-! What comes in. -/
section Incoming
variable (textOf : List TsElement → String)
  (responseIntentsOf : List TsElement → List ResponseIntent)

/-- A logical acknowledgement marks every message of its MRN. -/
def acknowledge (incomingMrn : Option Nat) (messages : List DcduMessage) : List DcduMessage :=
  match incomingMrn with
  | none => messages
  | some mrn => messages.map fun message =>
      if message.isOutgoing && message.min == some mrn then
        { message with acknowledgedByAtc := true }
      else message

def incomingRow (source : String) (app : TsApplicationMessage) (id : Nat) : DcduMessage where
  id := id
  sender := source
  text := textOf app.elements
  isOutgoing := false
  status := .opened
  responseIntents := responseIntentsOf app.elements
  respondedWith := none
  acknowledgedByAtc := false
  mrn := app.mrn
  min := some app.min
  elements := none

def rootUplinkMin (incomingMrn : Option Nat) (messages : List DcduMessage) : Option Nat := do
  let mrn ← incomingMrn
  let targetOutgoing ← messages.find? fun message => message.isOutgoing && message.min == some mrn
  targetOutgoing.mrn

/-- An answer to an answer is linked to the root uplink, and closes it. -/
def addIncoming (message : DcduMessage) (messages : List DcduMessage) : List DcduMessage :=
  match rootUplinkMin message.mrn messages with
  | none => messages ++ [message]
  | some root =>
      let closed := { message with
        mrn := some root
        status := .responded
        respondedWith := some message.text
        responseIntents := [] }
      (messages.map fun uplink =>
        if !uplink.isOutgoing && uplink.min == some root then
          { uplink with status := .responded, respondedWith := some message.text }
        else uplink) ++ [closed]

def logonResponseRow (source : String) (accepted : Bool) (id : Nat) : DcduMessage :=
  let statusText := if accepted then "ACCEPTED" else "REJECTED"
  { id := id
    sender := source
    text := "LOGON " ++ statusText ++ " BY " ++ source
    isOutgoing := false
    status := .responded
    responseIntents := []
    respondedWith := some statusText
    acknowledgedByAtc := false
    mrn := none
    min := none
    elements := none }

def reply (state : HookState) (now : DateTime) (message : TsMessage) : HookState :=
  match state.settings with
  | none => state
  | some settings => { state with
      minSequences := (handleIncomingMessage settings state.minSequences now message).2 }

def display (state : HookState) : TsMessage → HookState
  | .metaMessage _ => state
  | .acars _ ⟨_, _, .metaMessage (.sessionUpdate session)⟩ => { state with session := some session }
  | .acars _ ⟨source, _, .metaMessage (.logonResponse accepted)⟩ =>
      state.push (logonResponseRow source accepted)
  | .acars _ ⟨_, _, .metaMessage _⟩ => state
  | .acars _ ⟨source, _, .application app⟩ =>
      if messageContainsLogicalAck app.elements then
        { state with dcduMessages := acknowledge app.mrn state.dcduMessages }
      else
        { state with
          dcduMessages :=
            addIncoming (incomingRow textOf responseIntentsOf source app state.nextId)
              state.dcduMessages
          nextId := state.nextId + 1 }

end Incoming

/-! What the user sends. -/
section Outgoing
variable (textOf : List TsElement → String) (toUpperCase : String → String)

def sendLogonRequest (state : HookState) (station : String) : HookState :=
  match state.settings with
  | none => state
  | some settings =>
      let (_, minSequences) := buildLogonRequest state.minSequences settings.callsign
        settings.acarsAddress (toUpperCase station) "ZZZZ" "ZZZZ"
      { state with
        minSequences := minSequences
        publishing := state.publishing ++ [.logon settings.callsign (toUpperCase station)] }

def logonRequestRow (callsign station : String) (id : Nat) : DcduMessage where
  id := id
  sender := callsign
  text := "LOGON REQUEST → " ++ station
  isOutgoing := true
  status := .sent
  responseIntents := []
  respondedWith := none
  acknowledgedByAtc := false
  mrn := none
  min := none
  elements := none

def sendResponse (state : HookState) (now : DateTime) (messageId : Nat)
    (responseLabel downlinkId : String) : HookState :=
  match state.settings with
  | none => state
  | some settings =>
      let origMsg := state.dcduMessages.find? fun message => message.id = messageId
      let destination := (origMsg.map DcduMessage.sender).getD "UNKNOWN"
      let (_, minSequences) := buildApplicationResponse state.minSequences now settings.callsign
        settings.acarsAddress destination downlinkId (origMsg.bind DcduMessage.min)
      { state with
        dcduMessages := withMessage messageId (fun message =>
          { message with status := .responding, respondedWith := some responseLabel })
          state.dcduMessages
        minSequences := minSequences
        publishing := state.publishing ++ [.response messageId responseLabel downlinkId] }

/-- Without a MRN a draft answers the latest uplink that is still open. -/
def effectiveMrn (messages : List DcduMessage) (mrn : Option Nat) : Option Nat :=
  mrn.or ((messages.reverse.find? fun message => !message.isOutgoing && message.min.isSome &&
    (message.status == .opened || message.status == .new || message.status == .sent)).bind
      DcduMessage.min)

def draftRow (sender : String) (elements : List TsElement) (mrn : Option Nat) (id : Nat) :
    DcduMessage where
  id := id
  sender := sender
  text := textOf elements
  isOutgoing := true
  status := .draft
  responseIntents := []
  respondedWith := none
  acknowledgedByAtc := false
  mrn := mrn
  min := none
  elements := some elements

def transferToDcdu (state : HookState) (elements : List TsElement) (mrn : Option Nat) :
    HookState :=
  state.push (draftRow textOf ((state.settings.map ConnectionSettings.callsign).getD "SELF")
    elements (effectiveMrn state.dcduMessages mrn))

def applicationMin : TsMessage → Option Nat
  | .acars _ ⟨_, _, .application app⟩ => some app.min
  | _ => none

def sendDraft (state : HookState) (now : DateTime) (messageId : Nat) : HookState :=
  match state.settings, (state.dcduMessages.find? fun message => message.id = messageId) with
  | some settings, some draftMsg =>
      match draftMsg.elements with
      | none => state
      | some elements =>
          let peer := ((state.session.bind CpdlcSessionView.activeConnection).map
            CpdlcConnectionView.peer).getD "UNKNOWN"
          let (payload, minSequences) := buildApplicationDownlink state.minSequences now
            settings.callsign settings.acarsAddress peer elements draftMsg.mrn
          { state with
            dcduMessages := withMessage messageId (fun message =>
              { message with status := .sending }) state.dcduMessages
            minSequences := minSequences
            publishing := state.publishing ++ [.draft messageId peer (applicationMin payload)] }
  | _, _ => state

/-- The outcome of a publish. A standby keeps its dialogue open. -/
def settle (state : HookState) (success : Bool) : Publication → HookState
  | .logon callsign station => if success then state.push (logonRequestRow callsign station) else state
  | .response messageId responseLabel downlinkId => { state with
      dcduMessages := withMessage messageId (fun message =>
        if success then { message with
          status := if downlinkId = "DM2" then .sent else .responded
          respondedWith := some responseLabel }
        else { message with status := .opened, respondedWith := none }) state.dcduMessages }
  | .draft messageId _ outgoingMin => { state with
      dcduMessages := withMessage messageId (fun message =>
        if success then { message with status := .sent, min := outgoingMin }
        else { message with status := .draft }) state.dcduMessages }

end Outgoing

/-! The hook as a machine. -/
section Machine
variable (textOf : List TsElement → String)
  (responseIntentsOf : List TsElement → List ResponseIntent) (toUpperCase : String → String)

inductive HookEvent where
  | connect (settings : ConnectionSettings)
  | disconnect
  | receive (now : DateTime) (message : TsMessage)
  | sendLogonRequest (station : String)
  | sendResponse (now : DateTime) (messageId : Nat) (responseLabel downlinkId : String)
  | transferToDcdu (elements : List TsElement) (mrn : Option Nat)
  | sendDraft (now : DateTime) (messageId : Nat)
  | settled (index : Nat) (success : Bool)

def hookStep (state : HookState) : HookEvent → HookState
  | .connect settings => { state with settings := some settings }
  | .disconnect => { state with settings := none, session := none, dcduMessages := [] }
  | .receive now message => display textOf responseIntentsOf (reply state now message) message
  | .sendLogonRequest station => sendLogonRequest toUpperCase state station
  | .sendResponse now messageId responseLabel downlinkId =>
      sendResponse state now messageId responseLabel downlinkId
  | .transferToDcdu elements mrn => transferToDcdu textOf state elements mrn
  | .sendDraft now messageId => sendDraft state now messageId
  | .settled index success =>
      match state.publishing[index]? with
      | none => state
      | some publication => settle
          { state with publishing := state.publishing.eraseIdx index } success publication

end Machine

end OpenLink.DcduMessages
