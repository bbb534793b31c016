import OpenLink.HoppieClient
import OpenLink.Rendering
import OpenLink.Selection

/-!
The translator between the message text of Hoppie and the message elements of the
network. Decoding tries the template of every definition of the direction. The
clock is the argument `now`.
-/
namespace OpenLink.Translator
open Cpdlc HoppieClient MessageRegistry Rendering Selection Texts

/-- The loop of `split_template`; each pass takes at least one bracket off. -/
def splitRemaining : Nat → Text → List Text
  | 0, _ => []
  | fuel + 1, remaining =>
      match splitOnce ['['] remaining with
      | some (before, inside) =>
          match splitOnce [']'] ('[' :: inside) with
          | some (_, after) => before :: splitRemaining fuel after
          | none => [before]
      | none => [remaining]

def splitTemplate (template : Text) : List Text := splitRemaining (template.length + 1) template

/-- The loop of `extract_values_between_segments` behind its first segment. -/
def extractRemaining : List Text → Text → List Text
  | [], _ => []
  | segment :: rest, remaining =>
      if segment = [] then trim remaining :: extractRemaining rest []
      else
        match splitOnce (trim segment) remaining with
        | some (before, after) => trim before :: extractRemaining rest (trimStart after)
        -- a missing literal ends the loop with all that is left
        | none => [trim remaining]

def extractValuesBetweenSegments (body : Text) : List Text → List Text
  | [] => []
  | lead :: rest =>
      if lead = [] then extractRemaining rest body
      else
        match (trimEnd lead).isPrefixOf? body with
        | some after => extractRemaining rest (trimStart after)
        | none => []

def textToArgument (value : Text) (argType : ArgType) : CpdlcArgument :=
  let text := String.ofList value
  match argType with
  | .level =>
      match parseLevel value with
      | some level => .level level
      | none => .freeText text
  | .speed => .speed text
  | .time => .time text
  | .position => .position text
  | .direction => .direction text
  | .degrees =>
      match parseDecimal 65535 value with
      | some degrees => .degrees (UInt16.ofNat degrees)
      | none => .degrees 0
  | .distance => .distance text
  | .routeClearance => .routeClearance text
  | .procedureName => .procedureName text
  | .unitName => .unitName text
  | .facilityDesignation => .facilityDesignation text
  | .frequency => .frequency text
  | .code => .code text
  | .atisCode => .atisCode text
  | .errorInfo => .errorInfo text
  | .freeText => .freeText text
  | .verticalRate => .verticalRate text
  | .altimeter => .altimeter text
  | .legType => .legType text
  | .positionReport => .positionReport text
  | .remainingFuel => .remainingFuel text
  | .personsOnBoard => .personsOnBoard text
  | .speedType => .speedType text
  | .departureClearance => .departureClearance text

def eqIgnoreAsciiCase (left right : Text) : Bool :=
  left.map Char.toLower == right.map Char.toLower

def byteLength (text : Text) : Nat := text.foldl (fun length char => length + char.utf8Size) 0

def templateSpecificity (template : Text) : Nat :=
  (splitTemplate template).foldl (fun total segment => total + byteLength (trim segment)) 0

def tryMatchTemplate (body : Text) (definition : MessageDefinition) :
    Option (List CpdlcArgument) :=
  if definition.args = [] then
    if eqIgnoreAsciiCase body definition.template.toList then some [] else none
  else
    let values := extractValuesBetweenSegments body (splitTemplate definition.template.toList)
    if values.length ≠ definition.args.length then none
    else if [] ∈ values then none
    else some ((values.zip definition.args).map fun item => textToArgument item.1 item.2)

/-- The definitions of a list that match the body, in its order, with their arguments. -/
def matching (body : Text) (direction : MessageDirection) (definitions : List MessageDefinition) :
    List (MessageDefinition × List CpdlcArgument) :=
  (definitions.filter fun definition => definition.direction = direction).filterMap
    fun definition => (tryMatchTemplate body definition).map fun args => (definition, args)

def specificity (definition : MessageDefinition) : Nat :=
  templateSpecificity definition.template.toList

def fallbackId : MessageDirection → String
  | .downlink => "DM67"
  | .uplink => "UM169"

def matchBodyToElement (body : Text) (direction : MessageDirection) :
    String × List CpdlcArgument :=
  let body := trim body
  match choose (fun found => specificity found.1) (matching body direction messageRegistry) with
  | some (definition, args) => (definition.id, args)
  | none => (fallbackId direction, [.freeText (String.ofList body)])

def hoppieToOpenlink (now : DateTime) (fromCallsign toCallsign : String) (packetStr : Text)
    (min : UInt8) (direction : MessageDirection) : Except String CpdlcEnvelope :=
  match parseCpdlcPacket packetStr with
  | none => .error "failed to parse Hoppie CPDLC packet"
  | some packet =>
      let (msgId, args) := matchBodyToElement packet.body direction
      let mrn := (packet.mrn.bind (parseDecimal 255)).map UInt8.ofNat
      .ok ⟨fromCallsign, toCallsign, .application ⟨min, mrn, [⟨msgId, args⟩], now⟩⟩

def responseAttrToHoppie : ResponseAttribute → Text
  | .WU => "WU".toList
  | .AN => "AN".toList
  | .R => "R".toList
  | .Y => "Y".toList
  | .N => "N".toList
  | .NE => "NE".toList

def packetOf (message : CpdlcApplicationMessage) : Text :=
  formatCpdlcPacket (decimal message.min.toNat) (message.mrn.map fun mrn => decimal mrn.toNat)
    (responseAttrToHoppie (effectiveResponseAttr message)) (renderMessage message)

structure HoppiePacketOut where
  peer : String
  sender : String
  packet : Text
  min : UInt8
  deriving DecidableEq

/-- A message of the session management has no text. -/
def openlinkToHoppie (envelope : CpdlcEnvelope) : Option HoppiePacketOut :=
  match envelope.message with
  | .metaMessage _ => none
  | .application message =>
      some {
        peer := envelope.destination
        sender := envelope.source
        packet := packetOf message
        min := message.min }

def isLogonBody (toUppercase : String → String) (body : Text) : Bool :=
  let body := toUppercase (String.ofList (trim body))
  body == "REQUEST LOGON" || body == "LOGON"

theorem response_attr_plain (attr : ResponseAttribute) : '/' ∉ responseAttrToHoppie attr := by
  cases attr <;> decide

/-- The packet of a message reads back as its MIN, its MRN and its text. -/
theorem parse_packet_of (message : CpdlcApplicationMessage) :
    parseCpdlcPacket (packetOf message) = some ⟨decimal message.min.toNat,
      message.mrn.map fun mrn => decimal mrn.toNat,
      responseAttrToHoppie (effectiveResponseAttr message), trimEnd (renderMessage message)⟩ := by
  apply parse_formatted
  · exact decimal_absent _ (by decide)
  · intro text written
    obtain ⟨mrn, _, rfl⟩ := Option.map_eq_some_iff.mp written
    exact ⟨decimal_absent _ (by decide), decimal_nonempty _⟩
  · exact response_attr_plain _

/-- Without white space behind its body a packet reads back as what it was made of, and
every message but those of the session management has one, which says what it says. -/
theorem hoppie_packet_codec :
    (∀ (min : Text) (mrn : Option Text) (responseAttr body : Text), '/' ∉ min →
      (∀ text ∈ mrn, '/' ∉ text ∧ text ≠ []) → '/' ∉ responseAttr → trimEnd body = body →
      parseCpdlcPacket (formatCpdlcPacket min mrn responseAttr body) =
        some ⟨min, mrn, responseAttr, body⟩) ∧
    ∀ envelope : CpdlcEnvelope,
      (openlinkToHoppie envelope = none ↔ ∃ message, envelope.message = .metaMessage message) ∧
      ∀ message, envelope.message = .application message →
        ∃ out, openlinkToHoppie envelope = some out ∧
          ∃ body, parseCpdlcPacket out.packet = some ⟨decimal message.min.toNat,
              message.mrn.map fun mrn => decimal mrn.toNat,
              responseAttrToHoppie (effectiveResponseAttr message), body⟩ ∧
            (trimEnd (renderMessage message) = renderMessage message →
              body = renderMessage message) := by
  constructor
  · intro min mrn responseAttr body plainMin plainMrn plainAttr closed
    rw [parse_formatted body plainMin plainMrn plainAttr, closed]
  · intro envelope
    constructor
    · cases content : envelope.message with
      | application message => simp [openlinkToHoppie, content]
      | metaMessage message => simp [openlinkToHoppie, content]
    · intro message content
      have written : openlinkToHoppie envelope =
          some ⟨envelope.destination, envelope.source, packetOf message, message.min⟩ := by
        simp only [openlinkToHoppie, content]
      exact ⟨_, written, _, parse_packet_of message, id⟩

/-- A body with slashes of its own, and a message of two elements. -/
theorem hoppie_packet_codec_slashes :
    parseCpdlcPacket (formatCpdlcPacket "5".toList none "WU".toList "ROGER / WILCO".toList) =
      some ⟨"5".toList, none, "WU".toList, "ROGER / WILCO".toList⟩ ∧
    ∃ out, openlinkToHoppie ⟨"AFR123", "LFPG",
        .application ⟨6, some 5, [⟨"DM3", []⟩, ⟨"DM0", []⟩], 0⟩⟩ = some out :=
  ⟨hoppie_packet_codec.1 _ none _ _ (by decide +kernel) (by simp) (by decide +kernel)
      (by decide +kernel),
    ((hoppie_packet_codec.2 _).2 _ rfl).imp fun _ found => found.1⟩

end OpenLink.Translator
