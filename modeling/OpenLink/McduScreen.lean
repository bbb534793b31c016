import Mathlib.Data.List.Basic
import OpenLink.DcduMessages
import OpenLink.MessageRegistry
import OpenLink.Runs
import OpenLink.Texts

/-!
The MCDU of the A320 demonstrator, on which the pilot composes a message: its pages, the keys
beside their lines, and the scratchpad. What a page only displays is left out. Numbers are exact
here; `parseInt` of the source rounds them above 2^53.
-/
namespace OpenLink.McduScreen
open Cpdlc DcduMessages MessageRegistry Runs Texts TsTypes

inductive McduPage where
  | atcMenu
  | connectionStatus
  | notification
  | latReq
  | vertReq
  | whenCanWe
  | otherReq
  | text
  | reports
  deriving DecidableEq

structure McduState where
  currentPage : McduPage
  scratchpad : Text
  atcCenter : Text
  pendingElements : List TsElement
  fieldValues : String → Option String

def McduState.initial : McduState := ⟨.atcMenu, [], [], [], fun _ => none⟩

/-! The keyboard. -/
section Keyboard

inductive McduKey where
  | backspace
  | clear
  | character (char : Char)

/-- Letters of the alphabet, digits, space, slash and dot. -/
def keyAccepted (char : Char) : Bool :=
  char.isAlpha || char.isDigit || char == ' ' || char == '/' || char == '.'

def handleKeyDown (scratchpad : Text) : McduKey → Text
  | .backspace => scratchpad.dropLast
  | .clear => []
  | .character char =>
      if keyAccepted char = true ∧ scratchpad.length < 24 then scratchpad ++ [char.toUpper]
      else scratchpad

end Keyboard

/-! The elements. -/
section Elements

/-- `parseInt` of a text without a sign: what follows the digits does not count. -/
def parseInt (text : Text) : Option Nat :=
  let digits := (trimStart text).takeWhile Char.isDigit
  if digits = [] then none else some (Nat.ofDigitChars 10 digits 0)

/-- A level without its prefix. -/
def bareLevel (scratchpad : Text) : Text :=
  let upper := scratchpad.map Char.toUpper
  ("FL".toList.isPrefixOf? upper).getD upper

def argumentValue (scratchpad : Text) (argType : String) : Option TsValue :=
  if argType = "Level" then (parseInt (bareLevel scratchpad)).map .number
  else if argType = "Speed" ∨ argType = "Degrees" then (parseInt scratchpad).map .number
  else some (.text (String.ofList scratchpad))

/-- The element that `addElement` pushes, unless it has no value for it. -/
def pushedElement (scratchpad : Text) (dmId : String) : Option String → Option TsElement
  | none => some ⟨dmId, []⟩
  | some argType =>
      if scratchpad = [] then none
      else (argumentValue scratchpad argType).map fun value => ⟨dmId, [⟨argType, value⟩]⟩

/-- Free text and what has no argument may be stacked; anything else replaces its like. -/
def addElement (dmId : String) (argType : Option String) (state : McduState) : McduState :=
  match pushedElement state.scratchpad dmId argType with
  | none => state
  | some element =>
      let allowDuplicates := dmId = "DM67" ∨ element.args = []
      let others :=
        if allowDuplicates then state.pendingElements
        else state.pendingElements.filter fun other => other.id ≠ dmId
      let pushed := { state with pendingElements := others ++ [element] }
      match argType with
      | none => pushed
      | some _ => { pushed with
          fieldValues := fun field =>
            if field = dmId then some (String.ofList (state.scratchpad.map Char.toUpper))
            else state.fieldValues field
          scratchpad := [] }

end Elements

/-! The keys beside the lines. -/
section Keys

inductive LskAction where
  | setCurrentPage (page : McduPage)
  | addElement (dmId : String) (argType : Option String)
  | eraseInputs
  | doTransferToDcdu
  | transferScratchpad
  | logonRequest
  deriving DecidableEq

structure McduRow where
  onLskLeft : Option LskAction
  onLskRight : Option LskAction

inductive Side where
  | left
  | right
  deriving DecidableEq

def McduRow.onLsk (row : McduRow) : Side → Option LskAction
  | .left => row.onLskLeft
  | .right => row.onLskRight

variable (hasPending canNotify : Bool)

def subPageFooter : List McduRow :=
  [⟨some .eraseInputs, none⟩,
    ⟨some (.setCurrentPage .atcMenu), if hasPending then some .doTransferToDcdu else none⟩]

def pageRows : McduPage → List McduRow
  | .atcMenu =>
      [⟨some (.setCurrentPage .latReq), some (.setCurrentPage .vertReq)⟩,
        ⟨none, none⟩,
        ⟨some (.setCurrentPage .whenCanWe), some (.setCurrentPage .otherReq)⟩,
        ⟨none, some (.setCurrentPage .text)⟩,
        ⟨none, some (.setCurrentPage .reports)⟩,
        ⟨some (.setCurrentPage .notification),
          some (if hasPending then .doTransferToDcdu else .setCurrentPage .connectionStatus)⟩]
  | .connectionStatus =>
      [⟨none, none⟩, ⟨none, none⟩, ⟨none, none⟩, ⟨none, none⟩, ⟨none, none⟩,
        ⟨some (.setCurrentPage .atcMenu), some (.setCurrentPage .notification)⟩]
  | .notification =>
      [⟨none, none⟩,
        ⟨some .transferScratchpad, if canNotify then some .logonRequest else none⟩,
        ⟨none, none⟩, ⟨none, none⟩, ⟨none, none⟩,
        ⟨some (.setCurrentPage .atcMenu), some (.setCurrentPage .connectionStatus)⟩]
  | .latReq =>
      [⟨some (.addElement "DM22" (some "Position")), some (.addElement "DM27" (some "Distance"))⟩,
        ⟨some (.addElement "DM70" (some "Degrees")), some (.addElement "DM70" (some "Degrees"))⟩,
        ⟨some (.addElement "DM65" none), some (.addElement "DM66" none)⟩,
        ⟨none, none⟩] ++ subPageFooter hasPending
  | .vertReq =>
      [⟨some (.addElement "DM9" (some "Level")), some (.addElement "DM18" (some "Speed"))⟩,
        ⟨some (.addElement "DM10" (some "Level")), none⟩,
        ⟨some (.addElement "DM6" (some "Level")), none⟩,
        ⟨some (.addElement "DM65" none), some (.addElement "DM66" none)⟩] ++
        subPageFooter hasPending
  | .whenCanWe =>
      [⟨some (.addElement "DM49" (some "Speed")), none⟩,
        ⟨some (.addElement "DM50" (some "Level")), none⟩,
        ⟨none, none⟩, ⟨none, none⟩] ++ subPageFooter hasPending
  | .otherReq =>
      [⟨some (.addElement "DM18" (some "Speed")), none⟩,
        ⟨some (.addElement "DM70" (some "Degrees")), none⟩,
        ⟨some (.addElement "DM20" none), none⟩,
        ⟨some (.addElement "DM25" none), none⟩] ++ subPageFooter hasPending
  | .text =>
      [⟨some (.addElement "DM67" (some "FreeText")), none⟩,
        ⟨none, none⟩, ⟨none, none⟩, ⟨none, none⟩] ++ subPageFooter hasPending
  | .reports =>
      [⟨some (.addElement "DM32" (some "Level")), none⟩,
        ⟨some (.addElement "DM48" (some "Position")), none⟩,
        ⟨some (.addElement "DM34" (some "Speed")), none⟩,
        ⟨none, none⟩] ++ subPageFooter hasPending

end Keys

/-! The screen as a machine, with what it asks of the hook. -/
section Machine

def hasPending (state : McduState) : Bool := !state.pendingElements.isEmpty

def canNotify (state : McduState) : Bool :=
  decide (3 ≤ state.atcCenter.length ∧ state.atcCenter.length ≤ 4)

/-- What the key of this line and side does on the page that is shown. -/
def onLsk (state : McduState) (row : Nat) (side : Side) : Option LskAction :=
  (pageRows (hasPending state) (canNotify state) state.currentPage)[row]?.bind fun data =>
    data.onLsk side

def perform (state : McduState) : LskAction → List HookEvent × McduState
  | .setCurrentPage page => ([], { state with currentPage := page })
  | .addElement dmId argType => ([], addElement dmId argType state)
  | .eraseInputs =>
      ([], { state with pendingElements := [], fieldValues := fun _ => none, scratchpad := [] })
  | .doTransferToDcdu =>
      if state.pendingElements = [] then ([], state)
      else ([.transferToDcdu state.pendingElements none],
        { state with pendingElements := [], fieldValues := fun _ => none, currentPage := .atcMenu })
  | .transferScratchpad =>
      if state.scratchpad = [] then ([], state)
      else ([], { state with atcCenter := state.scratchpad, scratchpad := [] })
  | .logonRequest =>
      ([.sendLogonRequest (String.ofList (state.atcCenter.map Char.toUpper))], state)

inductive McduEvent where
  | key (key : McduKey)
  | lsk (row : Nat) (side : Side)

def respond (state : McduState) : McduEvent → List HookEvent × McduState
  | .key key => ([], { state with scratchpad := handleKeyDown state.scratchpad key })
  | .lsk row side =>
      match onLsk state row side with
      | some action => perform state action
      | none => ([], state)

def step (state : McduState) (event : McduEvent) : McduState := (respond state event).2

/-- The element that an event adds. -/
def pushedBy (state : McduState) : McduEvent → Option TsElement
  | .key _ => none
  | .lsk row side =>
      match onLsk state row side with
      | some (.addElement dmId argType) => pushedElement state.scratchpad dmId argType
      | _ => none

end Machine

end OpenLink.McduScreen
