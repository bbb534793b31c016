import OpenLink.CpdlcRuntime
import OpenLink.Envelope
import OpenLink.Session
import OpenLink.Texts

/-!
The messages that a tab of the GUI displays, and what its views read from one of them.
A message of the user's own comes without an envelope, so its text has to do.
-/
namespace OpenLink.GuiMessages
open Cpdlc CpdlcRuntime Envelope Session Texts

structure ReceivedMessage where
  timestamp : DateTime
  envelope : Option OpenLinkEnvelope
  fromCallsign : Option String
  toCallsign : Option String
  displayText : Option String
  isOutgoing : Bool
  min : Option UInt8
  mrn : Option UInt8
  responseAttr : Option ResponseAttribute
  responded : Bool
  deriving DecidableEq

def applicationOf : OpenLinkMessage → Option CpdlcApplicationMessage
  | .acars ⟨_, .cpdlc ⟨_, _, .application message⟩⟩ => some message
  | _ => none

def addressee : OpenLinkMessage → Option (String × Option UInt8)
  | .acars ⟨_, .cpdlc ⟨_, destination, .application message⟩⟩ => some (destination, message.mrn)
  | _ => none

def ReceivedMessage.application (message : ReceivedMessage) : Option CpdlcApplicationMessage :=
  message.envelope.bind fun envelope => applicationOf envelope.payload

def upperTrimmed (text : String) : String :=
  asciiUppercase (String.ofList (trim text.toList))

def upperContains (text needle : String) : Bool :=
  (splitOnce needle.toList (asciiUppercase text).toList).isSome

section Views
variable (message : ReceivedMessage)

def isLogicalAck : Bool :=
  match message.envelope with
  | none => message.displayText.any fun text => upperContains text "LOGICAL ACKNOWLEDGMENT"
  | some _ => message.application.any fun app => messageContainsLogicalAck app.elements

def localShortResponseIntent : Option CpdlcResponseIntent :=
  message.displayText.bind fun text =>
    match upperTrimmed text with
    | "WILCO" => some .wilco
    | "UNABLE" => some .unable
    | "STANDBY" => some .standby
    | "ROGER" => some .roger
    | "AFFIRM" => some .affirm
    | "NEGATIVE" => some .negative
    | _ => none

def isLogonLine : Bool := upperContains (message.displayText.getD "") "LOGON"

/-- A pure short response of the user closes, except a standby; a composed message does not. -/
def isClosingResponseMessage : Bool :=
  match message.envelope with
  | none => (localShortResponseIntent message).any (· != .standby)
  | some _ => message.application.any fun app => closesDialogueResponseElements app.elements

def isStandbyMessage : Bool :=
  match message.envelope with
  | none => message.displayText.any fun text => upperTrimmed text == "STANDBY"
  | some _ => message.application.any fun app =>
      app.elements.any fun element => ["DM2", "UM1", "UM2"].contains element.id

/-- The responses of the catalog, and then those of the attribute that are missing. -/
def responseIntentsForMessage : List CpdlcResponseIntent :=
  match message.application with
  | none => (message.responseAttr.map CpdlcResponseIntent.forAttribute).getD []
  | some app =>
      let intents := chooseShortResponseIntents app.elements
      match message.responseAttr with
      | none => intents
      | some attr => (CpdlcResponseIntent.forAttribute attr).foldl
          (fun intents intent => if intents.contains intent then intents else intents ++ [intent])
          intents

def dialogueCallsign : Option String :=
  if message.isOutgoing then message.toCallsign else message.fromCallsign

end Views

/-- Nothing is lost or made up when the missing intents are added. -/
theorem mem_enriched (added intents : List CpdlcResponseIntent) (intent : CpdlcResponseIntent) :
    intent ∈ added.foldl
        (fun intents intent => if intents.contains intent then intents else intents ++ [intent])
        intents ↔ intent ∈ intents ∨ intent ∈ added := by
  induction added generalizing intents with
  | nil => simp
  | cons first rest ih =>
      rw [List.foldl_cons, ih, List.mem_cons]
      split
      · next present =>
          have held : first ∈ intents := by simpa using present
          constructor
          · rintro (old | new)
            · exact Or.inl old
            · exact Or.inr (Or.inr new)
          · rintro (old | rfl | new)
            · exact Or.inl old
            · exact Or.inl held
            · exact Or.inr new
      · simp [or_assoc]

end OpenLink.GuiMessages
