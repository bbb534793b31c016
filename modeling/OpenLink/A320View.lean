import OpenLink.DialogueLinks
import OpenLink.ResponseMarks
import Mathlib.Data.Finset.Basic

/-!
The view of an Airbus in the GUI: a display that shows one message with keys for its responses, and
a unit in which requests are put together and transferred to the display. What is shown only is left
out. A key acts on what was drawn last; the keys that turn the display take effect a moment later.
-/
namespace OpenLink.A320View
open Cpdlc CpdlcRuntime DcduLayout DcduResponses DialogueLinks Envelope GuiMessages OfferedIntents
  PilotDisplay ResponseMarks Runs SdkClient Texts UplinkComposer

section Model
variable (upper : Char → Text)

def withoutPrefix : Text → Text
  | [] => []
  | 'F' :: 'L' :: rest => withoutPrefix rest
  | char :: rest => char :: withoutPrefix rest

def parseArg : ArgType → Text → Option CpdlcArgument :=
  parseArgWith fun value => withoutPrefix (toUppercase upper value)

inductive McduPage where
  | atcMenu
  | notification
  | latReq
  | vertReq
  | otherReq
  | text
  deriving DecidableEq

def entries : McduPage → List (String × Option ArgType)
  | .atcMenu | .notification => []
  | .latReq =>
      [("DM22", some .position), ("DM27", some .distance), ("DM70", some .degrees), ("DM65", none),
        ("DM66", none)]
  | .vertReq =>
      [("DM9", some .level), ("DM10", some .level), ("DM6", some .level), ("DM18", some .speed),
        ("DM65", none), ("DM66", none)]
  | .otherReq =>
      [("DM18", some .speed), ("DM70", some .degrees), ("DM20", none), ("DM25", none)]
  | .text => [("DM67", some .freeText)]

structure A320State where
  tab : DcduTab
  client : OpenLinkClient
  page : McduPage
  scratchpad : Text
  pendingElements : List MessageElement
  atcCenter : String
  viewIndex : Int
  /-- the positions that the display is about to turn to -/
  turning : List Int
  draftElements : List MessageElement
  draftMrn : Option UInt8
  stbySentMins : Finset UInt8
  /-- the messages of the response keys, the transferred requests, and the logons -/
  responses : List OpenLinkMessage
  requests : List OpenLinkMessage
  logons : List OpenLinkMessage

def A320State.new (tab : DcduTab) (client : OpenLinkClient) : A320State where
  tab := tab
  client := client
  page := .atcMenu
  scratchpad := []
  pendingElements := []
  atcCenter := ""
  viewIndex := -1
  turning := []
  draftElements := []
  draftMrn := none
  stbySentMins := ∅
  responses := []
  requests := []
  logons := []

inductive A320Key where
  | msgPrev
  | msgNext
  | topLeft
  | topRight
  | botLeft
  | botRight
  | menu (page : McduPage)
  | back
  | notify
  | entry (idx : Nat)
  | erase
  | transfer

inductive A320Event where
  | press (now : DateTime) (key : A320Key)
  | typed (value : Text)
  | turned (idx : Nat)
  | received (now : DateTime) (envelope : Option OpenLinkEnvelope)
  | sessionUpdate (session : CpdlcSessionView)
  /-- a message that the program sends of itself takes a MIN, and may have a row -/
  | automatic (client : OpenLinkClient) (row : Option (DateTime × String))

/-! What the display shows. -/
section Display

structure ResponseGrid where
  topLeft : Option CpdlcResponseIntent
  topRight : Option CpdlcResponseIntent
  botLeft : Option CpdlcResponseIntent
  botRight : Option CpdlcResponseIntent

def arrangeResponses (intents : List CpdlcResponseIntent) : ResponseGrid :=
  let find (needle : CpdlcResponseIntent) := intents.find? (· == needle)
  if (find .wilco).isSome then ⟨find .unable, find .standby, none, find .wilco⟩
  else if (find .affirm).isSome then ⟨find .negative, find .standby, none, find .affirm⟩
  else if (find .roger).isSome then ⟨none, find .standby, none, find .roger⟩
  else ⟨intents[2]?, intents[1]?, intents[3]?, intents[0]?⟩

/-- Without a connection it is the sender of the latest message. -/
def a320Station (tab : DcduTab) : Option String :=
  (stationCallsign tab).or (tab.messages.reverse.findSome? fun message =>
    if message.isOutgoing then none else message.fromCallsign)

variable (view : A320State)

def effectiveIdx : Int :=
  let visible := rootVisibleMessages view.tab.messages
  if visible.isEmpty then -1
  else if 0 ≤ view.viewIndex ∧ view.viewIndex < visible.length then view.viewIndex
  else visible.length - 1

def current : Option ReceivedMessage :=
  if 0 ≤ effectiveIdx view then (rootVisibleMessages view.tab.messages)[(effectiveIdx view).toNat]?
  else none

def currentMin : Option UInt8 := (current view).bind ReceivedMessage.min

def effectiveIntents : List CpdlcResponseIntent :=
  let intents := (current view).elim [] a320ResponseIntents
  match currentMin view with
  | some min => if min ∈ view.stbySentMins then intents.filter (· != .standby) else intents
  | none => intents

def showResponses : Bool :=
  ((current view).any fun message =>
    !message.isOutgoing && !message.responded && view.draftElements.isEmpty) &&
  !(effectiveIntents view).isEmpty

def responseGrid : ResponseGrid :=
  if showResponses view then arrangeResponses (effectiveIntents view) else ⟨none, none, none, none⟩

/-- What a request transferred now will be the answer to. -/
def currentOpenMin : Option UInt8 :=
  (current view).bind fun message =>
    if !message.isOutgoing && !message.responded then message.min else none

end Display

/-! What the keys do, and send. -/
section Keys
variable (now : DateTime) (view : A320State)

def respond (intent : Option CpdlcResponseIntent) : A320State :=
  match intent, a320Station view.tab, currentMin view with
  | some intent, some station, some min =>
      let (message, client) := view.client.cpdlcAircraftApplication now view.tab.callsign
        view.tab.acarsAddress station [⟨intent.downlinkId, []⟩] (some min)
      let pushed := view.tab.messages ++ [outgoingMessage now intent.label none none (some min)]
      { view with
        client := client
        responses := view.responses ++ [message]
        stbySentMins :=
          if intent = .standby then insert min view.stbySentMins else view.stbySentMins.erase min
        tab :=
          { view.tab with
            messages := if intent != .standby then markResponded min pushed else pushed } }
  | _, _, _ => view

def sendDraft : A320State :=
  match a320Station view.tab with
  | none => view
  | some station =>
      let (message, client) := view.client.cpdlcAircraftApplication now view.tab.callsign
        view.tab.acarsAddress station view.draftElements view.draftMrn
      let pushed := view.tab.messages ++
        [outgoingMessage now (elementsText view.draftElements) none none view.draftMrn]
      { view with
        client := client
        requests := view.requests ++ [message]
        draftElements := []
        draftMrn := none
        tab :=
          { view.tab with
            messages := markDialogueResponded view.draftMrn view.draftElements pushed } }

def notify : A320State :=
  if view.atcCenter.utf8ByteSize < 3 then view
  else
    let (request, client) := view.client.cpdlcLogonRequest view.tab.callsign view.tab.acarsAddress
      view.atcCenter
    let row := outgoingMessage now ("LOGON REQUEST → " ++ view.atcCenter) none none none
    { view with
      client := client
      logons := view.logons ++ [request]
      tab := { view.tab with messages := view.tab.messages ++ [row] } }

def entryElement (idx : Nat) : Option MessageElement :=
  (entries view.page)[idx]?.bind fun entry =>
    match entry.2 with
    | some argType => (parseArg upper argType view.scratchpad).map fun parsed => ⟨entry.1, [parsed]⟩
    | none => some ⟨entry.1, []⟩

/-- A request takes the place of an earlier one of its kind. -/
def addElement (element : MessageElement) : A320State :=
  let allowDuplicates := element.id = "DM67" ∨ element.args = []
  { view with
    pendingElements :=
      (if allowDuplicates then view.pendingElements
        else view.pendingElements.filter (·.id != element.id)) ++ [element]
    scratchpad := if element.args = [] then view.scratchpad else [] }

def transfer : A320State :=
  if view.pendingElements = [] ∨ view.page = .notification then view
  else
    { view with
      draftMrn := currentOpenMin view
      draftElements := view.pendingElements
      pendingElements := [] }

def pressKey : A320Key → A320State
  | .msgPrev =>
      if 0 < effectiveIdx view ∧ 0 < view.viewIndex then
        { view with turning := view.turning ++ [view.viewIndex - 1] }
      else view
  | .msgNext =>
      let last : Int := (rootVisibleMessages view.tab.messages).length - 1
      if effectiveIdx view < last ∧ view.viewIndex < last then
        { view with turning := view.turning ++ [view.viewIndex + 1] }
      else view
  | .topLeft => respond now view (responseGrid view).topLeft
  | .topRight => respond now view (responseGrid view).topRight
  | .botLeft => respond now view (responseGrid view).botLeft
  | .botRight =>
      if view.draftElements.isEmpty then respond now view (responseGrid view).botRight
      else sendDraft now view
  | .menu page => if view.page = .atcMenu then { view with page := page } else view
  | .back => { view with page := .atcMenu }
  | .notify => if view.page = .notification then notify now view else view
  | .entry idx =>
      match entryElement upper view idx with
      | none => view
      | some element => addElement view element
  | .erase =>
      if entries view.page = [] then view
      else { view with pendingElements := [], scratchpad := [] }
  | .transfer => transfer view

end Keys

def pushRow (row : ReceivedMessage) (view : A320State) : A320State :=
  { view with tab := { view.tab with messages := view.tab.messages ++ [row] } }

def a320Step (view : A320State) : A320Event → A320State
  | .press now key => pressKey upper now view key
  | .typed value => { view with scratchpad := toUppercase upper value }
  | .turned idx =>
      match view.turning[idx]? with
      | none => view
      | some position => { view with viewIndex := position, turning := view.turning.eraseIdx idx }
  | .received now envelope =>
      match received now envelope with
      | none => view
      | some row => pushRow row view
  | .sessionUpdate session => { view with tab := { view.tab with session := some session } }
  | .automatic client none => { view with client := client }
  | .automatic client (some (now, text)) =>
      pushRow (outgoingMessage now text none none none) { view with client := client }

end Model

end OpenLink.A320View
