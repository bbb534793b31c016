import OpenLink.MessageBuilder
import OpenLink.Rendering
import OpenLink.Session

/-!
The command line client: one command is one message to the server. What it prints is
left out, except for what is wrong with an argument.
-/
namespace OpenLink.CliCommands
open Cpdlc Envelope MessageBuilder MessageRegistry Rendering Session Texts

inductive CpdlcMessageCommand where
  | logonRequest (station origin destination : String)
  | logonResponse (accepted : Bool)
  | connectionRequest
  | connectionResponse (accepted : Bool) (station : Option AcarsEndpointCallsign)
  | contactRequest (station : AcarsEndpointCallsign)
  | contactResponse (accepted : Bool) (station : Option AcarsEndpointCallsign)
  | contactComplete (station : AcarsEndpointCallsign)
  | logonForward (flight origin destination newStation : String)
  | nextDataAuthority (ndaCallsign ndaAddress : String)
  | endService
  | climbTo (level : String)
  | requestLevelChange (level : String) (station : AcarsEndpointCallsign)
  | umDm (id : String) (args : List String) (mrn : Option UInt8)
      (destination : Option AcarsEndpointCallsign)

structure CpdlcArgs where
  callsign : AcarsEndpointCallsign
  aircraftCallsign : AcarsEndpointCallsign
  aircraftAddress : AcarsEndpointAddress
  pilot : Bool
  atc : Bool

def parseCpdlcArgument (argType : ArgType) (raw : String) : Except String CpdlcArgument :=
  match argType with
  | .level =>
      match parseLevel raw.toList with
      | some level => .ok (.level level)
      | none => .error (s!"invalid level '{raw}': invalid flight level \"{raw}\": " ++
          "must be a number between 0 and 999")
  | .degrees =>
      match parseDecimal 65535 raw.toList with
      | some degrees => .ok (.degrees (UInt16.ofNat degrees))
      | none => .error s!"invalid degrees '{raw}': expected unsigned integer"
  | .speed => .ok (.speed raw)
  | .time => .ok (.time raw)
  | .position => .ok (.position raw)
  | .direction => .ok (.direction raw)
  | .distance => .ok (.distance raw)
  | .routeClearance => .ok (.routeClearance raw)
  | .procedureName => .ok (.procedureName raw)
  | .unitName => .ok (.unitName raw)
  | .facilityDesignation => .ok (.facilityDesignation raw)
  | .frequency => .ok (.frequency raw)
  | .code => .ok (.code raw)
  | .atisCode => .ok (.atisCode raw)
  | .errorInfo => .ok (.errorInfo raw)
  | .freeText => .ok (.freeText raw)
  | .verticalRate => .ok (.verticalRate raw)
  | .altimeter => .ok (.altimeter raw)
  | .legType => .ok (.legType raw)
  | .positionReport => .ok (.positionReport raw)
  | .remainingFuel => .ok (.remainingFuel raw)
  | .personsOnBoard => .ok (.personsOnBoard raw)
  | .speedType => .ok (.speedType raw)
  | .departureClearance => .ok (.departureClearance raw)

section Send
variable (now : DateTime) (cli : CpdlcArgs)

def cpdlcMessage (destination : AcarsEndpointCallsign) (message : CpdlcMessageType) :
    OpenLinkMessage :=
  cpdlc cli.aircraftCallsign cli.aircraftAddress cli.callsign destination message

/-- An application message as the commands write it out, without a MIN of its own. -/
def application (id : String) (args : List CpdlcArgument) : CpdlcMessageType :=
  .application ⟨0, none, [⟨id, args⟩], now⟩

/-- The destination of a generic message; a pilot has to name one. -/
def destinationOf (destination : Option AcarsEndpointCallsign) : Option AcarsEndpointCallsign :=
  match destination with
  | some station => some station
  | none => if cli.atc then some cli.aircraftCallsign else none

def sendUmDm (id : String) (args : List String) (mrn : Option UInt8)
    (destination : Option AcarsEndpointCallsign) : Option OpenLinkMessage := do
  let idUpper := asciiUppercase (String.ofList (trim id.toList))
  let definition ← findDefinition idUpper
  guard (args.length = definition.args.length)
  let parsedArgs ←
    ((definition.args.zip args).mapM fun pair => parseCpdlcArgument pair.1 pair.2).toOption
  let destination ← destinationOf cli destination
  return cpdlcMessage cli destination (applicationMessageWithMrn now [⟨idUpper, parsedArgs⟩] mrn)

/-- What a command sends to the server, if its arguments fit and its role may send it. -/
def send (message : CpdlcMessageCommand) : Option OpenLinkMessage :=
  match cli.pilot, cli.atc, message with
  | true, false, .logonRequest station origin destination =>
      some (cpdlcMessage cli station (logonRequest station origin destination))
  | false, true, .logonResponse accepted =>
      some (cpdlcMessage cli cli.aircraftCallsign (logonResponse accepted))
  | false, true, .connectionRequest =>
      some (cpdlcMessage cli cli.aircraftCallsign connectionRequest)
  | true, false, .connectionResponse accepted station =>
      station.map fun station => cpdlcMessage cli station (connectionResponse accepted)
  | false, true, .contactRequest station =>
      some (cpdlcMessage cli cli.aircraftCallsign
        (application now "UM117" [.unitName station, .frequency "UNKNOWN"]))
  | true, false, .contactResponse accepted station =>
      station.map fun station =>
        cpdlcMessage cli station (application now (if accepted then "DM0" else "DM1") [])
  | _, _, .contactComplete station =>
      some (cpdlcMessage cli station
        (application now "DM89" [.unitName station, .frequency "UNKNOWN"]))
  | false, true, .logonForward flight origin destination newStation =>
      some (cpdlcMessage cli newStation (logonForward flight origin destination newStation))
  -- the address of the next data authority is not used
  | false, true, .nextDataAuthority ndaCallsign _ =>
      some (cpdlcMessage cli cli.aircraftCallsign
        (application now "UM160" [.facilityDesignation ndaCallsign]))
  | false, true, .endService =>
      some (cpdlcMessage cli cli.aircraftCallsign (application now "UM161" []))
  | false, true, .climbTo level =>
      (parseLevel level.toList).map fun level =>
        cpdlcMessage cli cli.aircraftCallsign (MessageBuilder.climbTo now level)
  | true, false, .requestLevelChange level station =>
      (parseLevel level.toList).map fun level =>
        cpdlcMessage cli station (requestLevel now level)
  | _, _, .umDm id args mrn destination => sendUmDm now cli id args mrn destination
  | _, _, _ => none

end Send

end OpenLink.CliCommands
