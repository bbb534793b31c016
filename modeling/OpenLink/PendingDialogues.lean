import OpenLink.GuiMessages
import OpenLink.HoppieSession
import Mathlib.Data.List.AList

/-!
The queue of pending requests of a controller. One pass over the messages groups them
into dialogues, each under the callsign of the aircraft and the MIN that it began with;
then each dialogue makes a card, unless it is closed. The hash map of the dialogues is an
association list, whose order only tells cards of one priority and one time apart; the
MINs listed for a dialogue are read by nothing and are left out.
-/
namespace OpenLink.PendingDialogues
open Cpdlc CpdlcRuntime GuiMessages HoppieSession

def closedDialogueRetentionSecs : Int := 60

def numSeconds (duration : Int) : Int := duration.tdiv 1000000000

def isRecentClosureMessage (now : DateTime) (message : ReceivedMessage) : Bool :=
  isClosingResponseMessage message &&
    decide (numSeconds (now - message.timestamp) ≤ closedDialogueRetentionSecs)

def closingFlagIntent (message : ReceivedMessage) : Option CpdlcResponseIntent :=
  if isClosingResponseMessage message then
    (localShortResponseIntent message).or
      ([.unable, .negative, .wilco, .roger, .affirm].find? fun intent =>
        (responseIntentsForMessage message).contains intent)
  else none

def isPositiveClosureIntent (intent : CpdlcResponseIntent) : Bool :=
  [CpdlcResponseIntent.wilco, .roger, .affirm].contains intent

def findDialogueMessageByMin (messages : List ReceivedMessage) (min : UInt8) (callsign : String) :
    Option ReceivedMessage :=
  messages.find? fun message => message.min == some min && !isLogicalAck message &&
    !isLogonLine message && dialogueCallsign message == some callsign

def isDialogueCandidate (message : ReceivedMessage) : Bool :=
  !isLogicalAck message && !isLogonLine message && message.min.isSome

/-! The dialogues. -/
section Tracking

abbrev DialogueKey := String × UInt8

structure DialogueTrack where
  lastIndex : Nat
  closed : Bool

structure Tracking where
  minToRoot : HashMap DialogueKey UInt8
  dialogues : AList fun _ : DialogueKey => DialogueTrack

def Tracking.empty : Tracking := ⟨fun _ => none, ∅⟩

/-- A reply belongs to the dialogue of the MIN it refers to, if that is known. -/
def rootMin (minToRoot : HashMap DialogueKey UInt8) (callsign : String) (min : UInt8)
    (mrn : Option UInt8) : UInt8 :=
  match mrn with
  | some parent => (minToRoot (callsign, parent)).getD min
  | none => min

def trackMessage (tracking : Tracking) (indexed : ReceivedMessage × Nat) : Tracking :=
  let (message, index) := indexed
  if isDialogueCandidate message then
    match message.min, dialogueCallsign message with
    | some min, some callsign =>
        let root := rootMin tracking.minToRoot callsign min message.mrn
        let earlier := tracking.dialogues.lookup (callsign, root)
        { minToRoot := Function.update tracking.minToRoot (callsign, min) (some root)
          dialogues := tracking.dialogues.insert (callsign, root)
            ⟨index, earlier.any DialogueTrack.closed || isClosingResponseMessage message⟩ }
    | _, _ => tracking
  else tracking

def trackDialogues (messages : List ReceivedMessage) : Tracking :=
  messages.zipIdx.foldl trackMessage .empty

end Tracking

/-! The cards. -/
section Cards

inductive DialogueFlag where
  | none
  | standby (timestamp : DateTime)
  | closed (intent : CpdlcResponseIntent) (positive : Bool)
  | received (timestamp : DateTime)
  deriving DecidableEq

structure PendingDialogue where
  aircraftCallsign : String
  actionMin : Option UInt8
  displayText : String
  responseIntents : List CpdlcResponseIntent
  isYResponse : Bool
  timestamp : DateTime
  cardClass : String
  flag : DialogueFlag
  priority : Nat
  deriving DecidableEq

variable (now : DateTime) (messages : List ReceivedMessage)

def actionSource (callsign : String) (request : ReceivedMessage) : Option ReceivedMessage :=
  if isStandbyMessage request || isRecentClosureMessage now request then
    request.mrn.bind fun mrn => findDialogueMessageByMin messages mrn callsign
  else if request.isOutgoing then none
  else some request

def sourceIntents (source : ReceivedMessage) : List CpdlcResponseIntent :=
  if source.responseAttr = some .Y then [.unable, .standby]
  else if (responseIntentsForMessage source).isEmpty then [.wilco, .unable, .standby]
  else responseIntentsForMessage source

/-- A request is not deferred twice. -/
def cardIntents (source : Option ReceivedMessage) (standbyFromAtc : Bool) :
    List CpdlcResponseIntent :=
  let intents := (source.map sourceIntents).getD []
  if standbyFromAtc then intents.filter (· != .standby) else intents

def dialogueCard (request : ReceivedMessage) : PendingDialogue :=
  let recentClosure := isRecentClosureMessage now request
  let callsign := (dialogueCallsign request).getD ""
  let source := actionSource now messages callsign request
  let standbyFromAircraft := !request.isOutgoing && isStandbyMessage request
  let standbyFromAtc := request.isOutgoing && isStandbyMessage request
  let closureIntent := if recentClosure then closingFlagIntent request else none
  let closurePositive := closureIntent.any isPositiveClosureIntent
  let actionMin := source.bind ReceivedMessage.min
  let responseIntents := cardIntents source standbyFromAtc
  let needsAtcResponse := !recentClosure && actionMin.isSome && !responseIntents.isEmpty
  let fromSource := standbyFromAircraft || standbyFromAtc || recentClosure
  let requestText := request.displayText.getD "Unknown request"
  { aircraftCallsign :=
      if fromSource then (source.bind dialogueCallsign).getD callsign else callsign
    actionMin := actionMin
    displayText :=
      if fromSource then (source.bind ReceivedMessage.displayText).getD requestText
      else requestText
    responseIntents := if needsAtcResponse then responseIntents else []
    isYResponse := source.bind ReceivedMessage.responseAttr == some .Y
    timestamp := request.timestamp
    cardClass :=
      if standbyFromAircraft then "pending-request-item standby-aircraft"
      else if standbyFromAtc then "pending-request-item standby-atc"
      else if recentClosure && closurePositive then "pending-request-item closed-positive"
      else if recentClosure then "pending-request-item closed-negative"
      else "pending-request-item"
    flag :=
      if standbyFromAircraft || standbyFromAtc then .standby request.timestamp
      else match closureIntent with
        | some intent => .closed intent closurePositive
        | none =>
            if request.isOutgoing && !recentClosure && !isClosingResponseMessage request then
              .received request.timestamp
            else .none
    priority :=
      if recentClosure then 2
      else if needsAtcResponse || !request.isOutgoing then 0
      else 1 }

/-- A closed dialogue is hidden, unless what closed it is its latest message and recent. -/
def trackCard (track : DialogueTrack) : Option PendingDialogue :=
  messages[track.lastIndex]?.bind fun request =>
    if track.closed && !isRecentClosureMessage now request then none
    else some (dialogueCard now messages request)

def cardBefore (first second : PendingDialogue) : Bool :=
  first.priority < second.priority ||
    (first.priority == second.priority && decide (second.timestamp ≤ first.timestamp))

def buildPendingDialogues : List PendingDialogue :=
  (((trackDialogues messages).dialogues.entries.map Sigma.snd).filterMap
    (trackCard now messages)).mergeSort cardBefore

end Cards

end OpenLink.PendingDialogues
