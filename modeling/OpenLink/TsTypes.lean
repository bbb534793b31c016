import OpenLink.Envelope

/-!
The messages as the TypeScript clients hold them, which is as the wire carries
them: every number is a plain number, and an argument is the name of its type with
a value. A type that is the same on both sides is the one of the Rust model; `wire`
is the form in which a Rust message arrives.
-/
namespace OpenLink.TsTypes
open Cpdlc Envelope

inductive TsValue where
  | text (value : String)
  | number (value : Nat)
  deriving DecidableEq

structure TsArgument where
  argType : String
  value : TsValue
  deriving DecidableEq

structure TsElement where
  id : String
  args : List TsArgument
  deriving DecidableEq

structure TsApplicationMessage where
  min : Nat
  mrn : Option Nat
  elements : List TsElement
  timestamp : DateTime
  deriving DecidableEq

inductive TsCpdlcMessage where
  | application (message : TsApplicationMessage)
  | metaMessage (message : CpdlcMetaMessage)
  deriving DecidableEq

structure TsCpdlcEnvelope where
  source : String
  destination : String
  message : TsCpdlcMessage
  deriving DecidableEq

inductive TsMessage where
  | acars (aircraft : AcarsRoutingEndpoint) (cpdlc : TsCpdlcEnvelope)
  | metaMessage (message : MetaMessage)
  deriving DecidableEq

def wireArgument : CpdlcArgument → TsArgument
  | .level level => ⟨"Level", .number level.value.toNat⟩
  | .speed text => ⟨"Speed", .text text⟩
  | .time text => ⟨"Time", .text text⟩
  | .position text => ⟨"Position", .text text⟩
  | .direction text => ⟨"Direction", .text text⟩
  | .degrees degrees => ⟨"Degrees", .number degrees.toNat⟩
  | .distance text => ⟨"Distance", .text text⟩
  | .routeClearance text => ⟨"RouteClearance", .text text⟩
  | .procedureName text => ⟨"ProcedureName", .text text⟩
  | .unitName text => ⟨"UnitName", .text text⟩
  | .facilityDesignation text => ⟨"FacilityDesignation", .text text⟩
  | .frequency text => ⟨"Frequency", .text text⟩
  | .code text => ⟨"Code", .text text⟩
  | .atisCode text => ⟨"AtisCode", .text text⟩
  | .errorInfo text => ⟨"ErrorInfo", .text text⟩
  | .freeText text => ⟨"FreeText", .text text⟩
  | .verticalRate text => ⟨"VerticalRate", .text text⟩
  | .altimeter text => ⟨"Altimeter", .text text⟩
  | .legType text => ⟨"LegType", .text text⟩
  | .positionReport text => ⟨"PositionReport", .text text⟩
  | .remainingFuel text => ⟨"RemainingFuel", .text text⟩
  | .personsOnBoard text => ⟨"PersonsOnBoard", .text text⟩
  | .speedType text => ⟨"SpeedType", .text text⟩
  | .departureClearance text => ⟨"DepartureClearance", .text text⟩

def wireElement (element : MessageElement) : TsElement :=
  ⟨element.id, element.args.map wireArgument⟩

def wireApplication (message : CpdlcApplicationMessage) : TsApplicationMessage where
  min := message.min.toNat
  mrn := message.mrn.map UInt8.toNat
  elements := message.elements.map wireElement
  timestamp := message.timestamp

def wireCpdlc : CpdlcMessageType → TsCpdlcMessage
  | .application message => .application (wireApplication message)
  | .metaMessage message => .metaMessage message

def wire : OpenLinkMessage → TsMessage
  | .acars ⟨⟨aircraft⟩, .cpdlc ⟨source, destination, message⟩⟩ =>
      .acars aircraft ⟨source, destination, wireCpdlc message⟩
  | .metaMessage message => .metaMessage message

/-! How a Rust client reads a message from the wire: numbers have to fit their types, and an
argument has to have the value of its type. -/
section Read

def textArgument : String → Option (String → CpdlcArgument)
  | "Speed" => some .speed
  | "Time" => some .time
  | "Position" => some .position
  | "Direction" => some .direction
  | "Distance" => some .distance
  | "RouteClearance" => some .routeClearance
  | "ProcedureName" => some .procedureName
  | "UnitName" => some .unitName
  | "FacilityDesignation" => some .facilityDesignation
  | "Frequency" => some .frequency
  | "Code" => some .code
  | "AtisCode" => some .atisCode
  | "ErrorInfo" => some .errorInfo
  | "FreeText" => some .freeText
  | "VerticalRate" => some .verticalRate
  | "Altimeter" => some .altimeter
  | "LegType" => some .legType
  | "PositionReport" => some .positionReport
  | "RemainingFuel" => some .remainingFuel
  | "PersonsOnBoard" => some .personsOnBoard
  | "SpeedType" => some .speedType
  | "DepartureClearance" => some .departureClearance
  | _ => none

def numberArgument : String → Option (UInt16 → CpdlcArgument)
  | "Level" => some fun level => .level ⟨level⟩
  | "Degrees" => some .degrees
  | _ => none

def readByte (number : Nat) : Option UInt8 :=
  if number < UInt8.size then some (UInt8.ofNat number) else none

def readArgument (argument : TsArgument) : Option CpdlcArgument :=
  match argument.value with
  | .text text => (textArgument argument.argType).map fun build => build text
  | .number number =>
      if number < UInt16.size then
        (numberArgument argument.argType).map fun build => build (UInt16.ofNat number)
      else none

def readElement (element : TsElement) : Option MessageElement :=
  (element.args.mapM readArgument).map fun args => ⟨element.id, args⟩

def readApplication (message : TsApplicationMessage) : Option CpdlcApplicationMessage := do
  let min ← readByte message.min
  let mrn ← match message.mrn with
    | none => some none
    | some number => (readByte number).map some
  let elements ← message.elements.mapM readElement
  some ⟨min, mrn, elements, message.timestamp⟩

def readCpdlc : TsCpdlcMessage → Option CpdlcMessageType
  | .application message => (readApplication message).map .application
  | .metaMessage message => some (.metaMessage message)

def read : TsMessage → Option OpenLinkMessage
  | .acars aircraft ⟨source, destination, message⟩ =>
      (readCpdlc message).map fun message => .acars ⟨⟨aircraft⟩, .cpdlc ⟨source, destination, message⟩⟩
  | .metaMessage message => some (.metaMessage message)

theorem read_byte_wire (byte : UInt8) : readByte byte.toNat = some byte := by
  rw [readByte, if_pos byte.toNat_lt, UInt8.ofNat_toNat]

theorem read_argument_wire (argument : CpdlcArgument) :
    readArgument (wireArgument argument) = some argument := by
  cases argument with
  | level level =>
      simp only [wireArgument, readArgument, if_pos level.value.toNat_lt, UInt16.ofNat_toNat]
      rfl
  | degrees degrees =>
      simp only [wireArgument, readArgument, if_pos degrees.toNat_lt, UInt16.ofNat_toNat]
      rfl
  | _ => rfl

theorem read_all_wire {Value Wire : Type} (encode : Value → Wire) (decode : Wire → Option Value)
    (inverse : ∀ value, decode (encode value) = some value) (values : List Value) :
    (values.map encode).mapM decode = some values := by
  induction values with
  | nil => rfl
  | cons value rest ih => simp [inverse, ih]

theorem read_element_wire (element : MessageElement) :
    readElement (wireElement element) = some element := by
  rw [readElement, wireElement, read_all_wire _ _ read_argument_wire]
  rfl

theorem read_application_wire (message : CpdlcApplicationMessage) :
    readApplication (wireApplication message) = some message := by
  obtain ⟨min, mrn, elements, timestamp⟩ := message
  cases mrn <;>
    simp [readApplication, wireApplication, read_byte_wire,
      read_all_wire _ _ read_element_wire]

/-- A Rust client reads the message that another one has sent. -/
theorem read_wire (message : OpenLinkMessage) : read (wire message) = some message := by
  obtain ⟨⟨aircraft⟩, source, destination, application | other⟩ | other := message
  · simp [wire, wireCpdlc, read, readCpdlc, read_application_wire]
  · rfl
  · rfl

end Read

end OpenLink.TsTypes
