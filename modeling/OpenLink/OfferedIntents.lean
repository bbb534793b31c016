import OpenLink.DcduResponses
import OpenLink.GuiClient
import OpenLink.HoppieClient
import OpenLink.Rendering

/-!
The responses that the three views of the GUI offer to a message as its inbox loop has stored
it. The loop reads the effective attribute off the elements once; the views decide from the
attribute, from the elements, or from both.
-/
namespace OpenLink.OfferedIntents
open Cpdlc CpdlcRuntime DcduResponses Envelope GuiMessages MessageRegistry Rendering

/-! What the inbox loop stores. -/
section Inbox

def phaseText : CpdlcConnectionPhase → String
  | .logonPending => "LOGON PENDING"
  | .loggedOn => "LOGGED ON"
  | .connected => "CONNECTED"
  | .terminated => "TERMINATED"

def connectionText (connection : Option CpdlcConnectionView) : String :=
  match connection with
  | some view => view.peer ++ " (" ++ phaseText view.phase ++ ")"
  | none => "NONE"

def outcomeText (accepted : Bool) : String := if accepted then "ACCEPTED" else "REJECTED"

def serializedMessagePayload : CpdlcMessageType → String
  | .application app => String.ofList (renderMessage app)
  | .metaMessage (.logonRequest station origin destination) =>
      "LOGON REQUEST TO " ++ station ++ " - FP ORIGIN " ++ origin ++ " DEST " ++ destination
  | .metaMessage (.logonResponse accepted) => "LOGON " ++ outcomeText accepted
  | .metaMessage .connectionRequest => "CONNECTION REQUEST"
  | .metaMessage (.connectionResponse accepted) => "CONNECTION " ++ outcomeText accepted
  | .metaMessage (.logonForward flight origin destination newStation) =>
      "LOGON FORWARD FLIGHT " ++ flight ++ " ORIGIN " ++ origin ++ " DEST " ++ destination ++
        " NEW STATION " ++ newStation
  | .metaMessage (.sessionUpdate session) =>
      "SESSION UPDATE ACTIVE " ++ connectionText session.activeConnection ++ " INACTIVE " ++
        connectionText session.inactiveConnection

/-- Messages of the protocol itself are not displayed. -/
def isInternalMeta : OpenLinkMessage → Bool
  | .acars ⟨_, .cpdlc ⟨_, _, .metaMessage (.sessionUpdate _)⟩⟩
  | .acars ⟨_, .cpdlc ⟨_, _, .metaMessage .connectionRequest⟩⟩
  | .acars ⟨_, .cpdlc ⟨_, _, .metaMessage (.connectionResponse _)⟩⟩ => true
  | _ => false

def cpdlcOf : OpenLinkMessage → Option CpdlcEnvelope
  | .acars ⟨_, .cpdlc cpdlc⟩ => some cpdlc
  | .metaMessage _ => none

def received (now : DateTime) (envelope : Option OpenLinkEnvelope) : Option ReceivedMessage :=
  let payload := envelope.map OpenLinkEnvelope.payload
  let app := payload.bind applicationOf
  if payload.any isInternalMeta then none
  else some {
    timestamp := now
    envelope := envelope
    fromCallsign := (payload.bind cpdlcOf).map CpdlcEnvelope.source
    toCallsign := none
    displayText := (payload.bind cpdlcOf).map fun cpdlc => serializedMessagePayload cpdlc.message
    isOutgoing := false
    min := app.map CpdlcApplicationMessage.min
    mrn := app.bind CpdlcApplicationMessage.mrn
    responseAttr := app.map effectiveResponseAttr
    responded := false }

end Inbox

def a320ResponseIntents (message : ReceivedMessage) : List CpdlcResponseIntent :=
  if message.responseAttr = some .Y then [.unable, .standby]
  else match message.responseAttr with
    | some attr => CpdlcResponseIntent.forAttribute attr
    | none => (message.application.map fun app =>
        chooseShortResponseIntents app.elements).getD []

def knownAttrs (elements : List MessageElement) : List ResponseAttribute :=
  elements.filterMap fun element => (findDefinition element.id).map MessageDefinition.responseAttr

/-- A view offers what the SDK chooses for these elements. -/
def Offers (offered : List CpdlcResponseIntent) (elements : List MessageElement) : Prop :=
  ∀ intent, intent ∈ offered ↔ intent ∈ chooseShortResponseIntents elements

/-! What is read off the elements. -/
section Elements

theorem effective_known (app : CpdlcApplicationMessage) :
    effectiveResponseAttr app = .effective (knownAttrs app.elements) := by
  rw [effectiveResponseAttr, knownAttrs, List.map_filterMap]

theorem choose_unknown {elements : List MessageElement} (unknown : knownAttrs elements = []) :
    chooseShortResponseIntents elements = [.wilco, .unable, .standby] := by
  unfold knownAttrs at unknown
  rw [chooseShortResponseIntents, chooseShortResponseIntentsWithResolver, unknown]
  rfl

theorem choose_known {elements : List MessageElement} (known : knownAttrs elements ≠ []) :
    chooseShortResponseIntents elements =
      CpdlcResponseIntent.forAttribute (.effective (knownAttrs elements)) := by
  unfold knownAttrs at known
  simp only [chooseShortResponseIntents, chooseShortResponseIntentsWithResolver,
    List.isEmpty_eq_false_iff.mpr known]
  rfl

theorem known_iff (elements : List MessageElement) :
    knownAttrs elements ≠ [] ↔ ∃ element ∈ elements, (findDefinition element.id).isSome = true := by
  simp [knownAttrs, List.filterMap_eq_nil_iff, Option.isSome_iff_ne_none]

/-- The effective attribute offers what the SDK chooses when it comes from some element. -/
theorem effective_offers_iff (elements : List MessageElement) :
    Offers (CpdlcResponseIntent.forAttribute (.effective (knownAttrs elements))) elements ↔
      knownAttrs elements ≠ [] := by
  constructor
  · rintro offers unknown
    have fallback := (offers .wilco).mpr (by rw [choose_unknown unknown]; exact List.mem_cons_self)
    rw [unknown] at fallback
    cases fallback
  · intro known intent
    rw [choose_known known]

end Elements

structure Stored (app : CpdlcApplicationMessage) (row : ReceivedMessage) : Prop where
  content : row.application = some app
  attr : row.responseAttr = some (effectiveResponseAttr app)

theorem received_stored (now : DateTime) (envelope : OpenLinkEnvelope)
    (app : CpdlcApplicationMessage) (content : applicationOf envelope.payload = some app) :
    ∃ row, received now (some envelope) = some row ∧ Stored app row := by
  have external : isInternalMeta envelope.payload = false := by
    unfold applicationOf at content
    split at content
    · next same => rw [same]; rfl
    · cases content
  unfold received
  simp only [Option.map_some, Option.bind_some, Option.any_some, external, content]
  exact ⟨_, rfl, content, rfl⟩

/-! What the three views make of such a row. -/
section Views
variable {app : CpdlcApplicationMessage} {row : ReceivedMessage}

theorem shared_intents (stored : Stored app row) (noData : effectiveResponseAttr app ≠ .Y) :
    sharedResponseIntents row =
      CpdlcResponseIntent.forAttribute (.effective (knownAttrs app.elements)) := by
  have other : row.responseAttr ≠ some .Y := by
    rw [stored.attr]
    exact fun same => noData (Option.some.inj same)
  rw [sharedResponseIntents, if_neg other, stored.attr, effective_known]

theorem a320_intents (stored : Stored app row) (noData : effectiveResponseAttr app ≠ .Y) :
    a320ResponseIntents row =
      CpdlcResponseIntent.forAttribute (.effective (knownAttrs app.elements)) := by
  have same : a320ResponseIntents row = sharedResponseIntents row := rfl
  rw [same, shared_intents stored noData]

/-- The attribute adds nothing: it comes from the elements, or it has nothing to add. -/
theorem atc_intents (stored : Stored app row) :
    Offers (responseIntentsForMessage row) app.elements := by
  intro intent
  simp only [responseIntentsForMessage, stored.content, stored.attr, mem_enriched, effective_known]
  by_cases unknown : knownAttrs app.elements = []
  · rw [unknown]
    simp [ResponseAttribute.effective, CpdlcResponseIntent.forAttribute]
  · rw [choose_known unknown, or_self]

end Views

/-- All three views offer what the SDK chooses exactly when the registry knows one of the elements;
otherwise only that of the controller falls back as the SDK does. -/
theorem offered_iff (now : DateTime) (envelope : OpenLinkEnvelope) (app : CpdlcApplicationMessage)
    (content : applicationOf envelope.payload = some app)
    (noData : effectiveResponseAttr app ≠ .Y) :
    ∃ row, received now (some envelope) = some row ∧
      Offers (responseIntentsForMessage row) app.elements ∧
      ((Offers (sharedResponseIntents row) app.elements ∧
          Offers (a320ResponseIntents row) app.elements ∧
          Offers (responseIntentsForMessage row) app.elements) ↔
        ∃ element ∈ app.elements, (findDefinition element.id).isSome = true) := by
  obtain ⟨row, accepted, stored⟩ := received_stored now envelope app content
  refine ⟨row, accepted, atc_intents stored, ?_⟩
  rw [shared_intents stored noData, a320_intents stored noData, effective_offers_iff,
    and_iff_left (atc_intents stored), and_self, known_iff]

/-! An uplink of a newer catalog. -/

def uplinkOf (id : String) : CpdlcApplicationMessage := ⟨1, none, [⟨id, []⟩], 0⟩

def envelopeOf (id : String) : OpenLinkEnvelope where
  id := "0d1f7b9a-54c2-4a4e-9d2f-0c8f6f1b2a10"
  timestamp := 0
  correlationId := none
  routing := ⟨.server "icao", .address "icao" "CID1"⟩
  payload := .acars ⟨⟨"AFR123", "39A1B2"⟩, .cpdlc ⟨"LFPG", "AFR123", .application (uplinkOf id)⟩⟩
  token := ""

theorem climb_offered :
    ∃ row, received 0 (some (envelopeOf "UM20")) = some row ∧
      Offers (responseIntentsForMessage row) (uplinkOf "UM20").elements ∧
      ((Offers (sharedResponseIntents row) (uplinkOf "UM20").elements ∧
          Offers (a320ResponseIntents row) (uplinkOf "UM20").elements ∧
          Offers (responseIntentsForMessage row) (uplinkOf "UM20").elements) ↔
        ∃ element ∈ (uplinkOf "UM20").elements, (findDefinition element.id).isSome = true) :=
  offered_iff 0 (envelopeOf "UM20") (uplinkOf "UM20") rfl (by decide +kernel)

/-- No button is offered where the SDK, and the controller's view, offer three. -/
theorem unknown_uplink_unanswerable :
    effectiveResponseAttr (uplinkOf "UM999") ≠ .Y ∧
      (received 0 (some (envelopeOf "UM999"))).map sharedResponseIntents = some [] ∧
      (received 0 (some (envelopeOf "UM999"))).map a320ResponseIntents = some [] ∧
      (received 0 (some (envelopeOf "UM999"))).map responseIntentsForMessage =
        some [.wilco, .unable, .standby] ∧
      chooseShortResponseIntents (uplinkOf "UM999").elements = [.wilco, .unable, .standby] ∧
      ¬ Offers [] (uplinkOf "UM999").elements := by
  refine ⟨by decide +kernel, by decide +kernel, by decide +kernel, by decide +kernel,
    by decide +kernel, ?_⟩
  intro offers
  have chosen : CpdlcResponseIntent.wilco ∈
      chooseShortResponseIntents (uplinkOf "UM999").elements := by decide +kernel
  cases (offers .wilco).mpr chosen

end OpenLink.OfferedIntents
