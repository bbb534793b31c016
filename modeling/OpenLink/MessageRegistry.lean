import OpenLink.Cpdlc
import OpenLink.Slots

/-!
The message registry: one definition for each message element, looked up by
identifier. The FANS and ATN flags of a definition are read by no modelled
function and are left out.
-/
namespace OpenLink.MessageRegistry
open Cpdlc

structure MessageDefinition where
  id : String
  direction : MessageDirection
  template : String
  args : List ArgType
  responseAttr : ResponseAttribute
  deriving DecidableEq

def messageRegistry : List MessageDefinition := [
  -- Uplink: Responses, Ack, Connection
  ⟨"UM0", .uplink, "UNABLE", [], .N⟩,
  ⟨"UM1", .uplink, "STANDBY", [], .N⟩,
  ⟨"UM2", .uplink, "REQUEST DEFERRED", [], .N⟩,
  ⟨"UM3", .uplink, "ROGER", [], .N⟩,
  ⟨"UM4", .uplink, "AFFIRM", [], .N⟩,
  ⟨"UM5", .uplink, "NEGATIVE", [], .N⟩,
  ⟨"UM159", .uplink, "ERROR [error information]", [.errorInfo], .N⟩,
  ⟨"UM160", .uplink, "NEXT DATA AUTHORITY [facility designation]", [.facilityDesignation], .N⟩,
  ⟨"UM161", .uplink, "END SERVICE", [], .N⟩,
  ⟨"UM162", .uplink, "MESSAGE NOT SUPPORTED BY THIS ATS UNIT", [], .N⟩,
  ⟨"UM163", .uplink, "[facility designation]", [.facilityDesignation], .N⟩,
  ⟨"UM211", .uplink, "REQUEST FORWARDED", [], .N⟩,
  ⟨"UM227", .uplink, "LOGICAL ACKNOWLEDGEMENT", [], .N⟩,
  -- Uplink: Vertical Clearances
  ⟨"UM19", .uplink, "MAINTAIN [level]", [.level], .WU⟩,
  ⟨"UM20", .uplink, "CLIMB TO [level]", [.level], .WU⟩,
  ⟨"UM21", .uplink, "AT [time] CLIMB TO [level]", [.time, .level], .WU⟩,
  ⟨"UM22", .uplink, "AT [position] CLIMB TO [level]", [.position, .level], .WU⟩,
  ⟨"UM23", .uplink, "DESCEND TO [level]", [.level], .WU⟩,
  ⟨"UM24", .uplink, "AT [time] DESCEND TO [level]", [.time, .level], .WU⟩,
  ⟨"UM25", .uplink, "AT [position] DESCEND TO [level]", [.position, .level], .WU⟩,
  ⟨"UM26", .uplink, "CLIMB TO REACH [level] BY [time]", [.level, .time], .WU⟩,
  ⟨"UM27", .uplink, "CLIMB TO REACH [level] BY [position]", [.level, .position], .WU⟩,
  ⟨"UM28", .uplink, "DESCEND TO REACH [level] BY [time]", [.level, .time], .WU⟩,
  ⟨"UM29", .uplink, "DESCEND TO REACH [level] BY [position]", [.level, .position], .WU⟩,
  ⟨"UM30", .uplink, "MAINTAIN BLOCK [level] TO [level]", [.level, .level], .WU⟩,
  ⟨"UM31", .uplink, "CLIMB TO AND MAINTAIN BLOCK [level] TO [level]", [.level, .level], .WU⟩,
  ⟨"UM32", .uplink, "DESCEND TO AND MAINTAIN BLOCK [level] TO [level]", [.level, .level], .WU⟩,
  ⟨"UM34", .uplink, "CRUISE CLIMB TO [level]", [.level], .WU⟩,
  ⟨"UM36", .uplink, "EXPEDITE CLIMB TO [level]", [.level], .WU⟩,
  ⟨"UM37", .uplink, "EXPEDITE DESCENT TO [level]", [.level], .WU⟩,
  ⟨"UM38", .uplink, "IMMEDIATELY CLIMB TO [level]", [.level], .WU⟩,
  ⟨"UM39", .uplink, "IMMEDIATELY DESCEND TO [level]", [.level], .WU⟩,
  -- Uplink: Crossing constraints & Route
  ⟨"UM46", .uplink, "CROSS [position] AT [level]", [.position, .level], .WU⟩,
  ⟨"UM47", .uplink, "CROSS [position] AT OR ABOVE [level]", [.position, .level], .WU⟩,
  ⟨"UM48", .uplink, "CROSS [position] AT OR BELOW [level]", [.position, .level], .WU⟩,
  ⟨"UM49", .uplink, "CROSS [position] AT AND MAINTAIN [level]", [.position, .level], .WU⟩,
  ⟨"UM50", .uplink, "CROSS [position] BETWEEN [level] AND [level]", [.position, .level, .level], .WU⟩,
  ⟨"UM51", .uplink, "CROSS [position] AT [time]", [.position, .time], .WU⟩,
  ⟨"UM52", .uplink, "CROSS [position] AT OR BEFORE [time]", [.position, .time], .WU⟩,
  ⟨"UM53", .uplink, "CROSS [position] AT OR AFTER [time]", [.position, .time], .WU⟩,
  ⟨"UM54", .uplink, "CROSS [position] BETWEEN [time] AND [time]", [.position, .time, .time], .WU⟩,
  ⟨"UM55", .uplink, "CROSS [position] AT [speed]", [.position, .speed], .WU⟩,
  ⟨"UM61", .uplink, "CROSS [position] AT AND MAINTAIN [level] AT [speed]", [.position, .level, .speed], .WU⟩,
  ⟨"UM74", .uplink, "PROCEED DIRECT TO [position]", [.position], .WU⟩,
  ⟨"UM79", .uplink, "CLEARED TO [position] VIA [route clearance]", [.position, .routeClearance], .WU⟩,
  ⟨"UM80", .uplink, "CLEARED [route clearance]", [.routeClearance], .WU⟩,
  ⟨"UM81", .uplink, "CLEARED [procedure name]", [.procedureName], .WU⟩,
  ⟨"UM82", .uplink, "CLEARED TO DEVIATE UP TO [distance] [direction] OF ROUTE", [.distance, .direction], .WU⟩,
  ⟨"UM92", .uplink, "HOLD AT [position] AS PUBLISHED MAINTAIN [level]", [.position, .level], .WU⟩,
  -- Uplink: Heading, Speed, Offset
  ⟨"UM64", .uplink, "OFFSET [distance] [direction] OF ROUTE", [.distance, .direction], .WU⟩,
  ⟨"UM67", .uplink, "PROCEED BACK ON ROUTE", [], .WU⟩,
  ⟨"UM94", .uplink, "TURN [direction] HEADING [degrees]", [.direction, .degrees], .WU⟩,
  ⟨"UM96", .uplink, "CONTINUE PRESENT HEADING", [], .WU⟩,
  ⟨"UM190", .uplink, "FLY HEADING [degrees]", [.degrees], .WU⟩,
  ⟨"UM215", .uplink, "TURN [direction] [degrees] DEGREES", [.direction, .degrees], .WU⟩,
  ⟨"UM106", .uplink, "MAINTAIN [speed]", [.speed], .WU⟩,
  ⟨"UM107", .uplink, "MAINTAIN PRESENT SPEED", [], .WU⟩,
  ⟨"UM108", .uplink, "MAINTAIN [speed] OR GREATER", [.speed], .WU⟩,
  ⟨"UM109", .uplink, "MAINTAIN [speed] OR LESS", [.speed], .WU⟩,
  ⟨"UM116", .uplink, "RESUME NORMAL SPEED", [], .WU⟩,
  -- Uplink: Contact, Surveillance
  ⟨"UM117", .uplink, "CONTACT [unit name] [frequency]", [.unitName, .frequency], .WU⟩,
  ⟨"UM120", .uplink, "MONITOR [unit name] [frequency]", [.unitName, .frequency], .WU⟩,
  ⟨"UM123", .uplink, "SQUAWK [code]", [.code], .WU⟩,
  ⟨"UM179", .uplink, "SQUAWK IDENT", [], .WU⟩,
  ⟨"UM129", .uplink, "REPORT MAINTAINING [level]", [.level], .R⟩,
  ⟨"UM128", .uplink, "REPORT LEAVING [level]", [.level], .R⟩,
  ⟨"UM130", .uplink, "REPORT PASSING [position]", [.position], .R⟩,
  ⟨"UM132", .uplink, "REPORT POSITION", [], .Y⟩,
  ⟨"UM133", .uplink, "REPORT PRESENT LEVEL", [], .Y⟩,
  ⟨"UM135", .uplink, "CONFIRM ASSIGNED LEVEL", [], .Y⟩,
  ⟨"UM148", .uplink, "WHEN CAN YOU ACCEPT [level]", [.level], .Y⟩,
  ⟨"UM149", .uplink, "CAN YOU ACCEPT [level] AT [position]", [.level, .position], .AN⟩,
  -- Uplink: Information
  ⟨"UM153", .uplink, "ALTIMETER [altimeter]", [.altimeter], .R⟩,
  ⟨"UM158", .uplink, "ATIS [atis code]", [.atisCode], .R⟩,
  ⟨"UM168", .uplink, "DISREGARD", [], .R⟩,
  ⟨"UM169", .uplink, "[free text]", [.freeText], .R⟩,
  ⟨"UM183", .uplink, "[free text]", [.freeText], .WU⟩,
  ⟨"UM222", .uplink, "NO SPEED RESTRICTION", [], .R⟩,
  ⟨"UM176", .uplink, "MAINTAIN OWN SEPARATION AND VMC", [], .WU⟩,
  -- Downlink: Responses
  ⟨"DM0", .downlink, "WILCO", [], .N⟩,
  ⟨"DM1", .downlink, "UNABLE", [], .N⟩,
  ⟨"DM2", .downlink, "STANDBY", [], .N⟩,
  ⟨"DM3", .downlink, "ROGER", [], .N⟩,
  ⟨"DM4", .downlink, "AFFIRM", [], .N⟩,
  ⟨"DM5", .downlink, "NEGATIVE", [], .N⟩,
  ⟨"DM62", .downlink, "ERROR [error information]", [.errorInfo], .N⟩,
  ⟨"DM63", .downlink, "NOT CURRENT DATA AUTHORITY", [], .N⟩,
  ⟨"DM100", .downlink, "LOGICAL ACKNOWLEDGEMENT", [], .N⟩,
  -- Downlink: Pilot Requests
  ⟨"DM6", .downlink, "REQUEST [level]", [.level], .Y⟩,
  ⟨"DM7", .downlink, "REQUEST BLOCK [level] TO [level]", [.level, .level], .Y⟩,
  ⟨"DM9", .downlink, "REQUEST CLIMB TO [level]", [.level], .Y⟩,
  ⟨"DM10", .downlink, "REQUEST DESCENT TO [level]", [.level], .Y⟩,
  ⟨"DM18", .downlink, "REQUEST [speed]", [.speed], .Y⟩,
  ⟨"DM22", .downlink, "REQUEST DIRECT TO [position]", [.position], .Y⟩,
  ⟨"DM25", .downlink, "REQUEST CLEARANCE", [], .Y⟩,
  ⟨"DM27", .downlink, "REQUEST WEATHER DEVIATION UP TO [distance] [direction] OF ROUTE", [.distance, .direction], .Y⟩,
  ⟨"DM70", .downlink, "REQUEST HEADING [degrees]", [.degrees], .Y⟩,
  ⟨"DM15", .downlink, "REQUEST OFFSET [distance] [direction] OF ROUTE", [.distance, .direction], .Y⟩,
  ⟨"DM20", .downlink, "REQUEST VOICE CONTACT", [], .Y⟩,
  -- Downlink: Reports
  ⟨"DM28", .downlink, "LEAVING [level]", [.level], .N⟩,
  ⟨"DM29", .downlink, "CLIMBING TO [level]", [.level], .N⟩,
  ⟨"DM30", .downlink, "DESCENDING TO [level]", [.level], .N⟩,
  ⟨"DM31", .downlink, "PASSING [position]", [.position], .N⟩,
  ⟨"DM32", .downlink, "PRESENT LEVEL [level]", [.level], .N⟩,
  ⟨"DM33", .downlink, "PRESENT POSITION [position]", [.position], .N⟩,
  ⟨"DM34", .downlink, "PRESENT SPEED [speed]", [.speed], .N⟩,
  ⟨"DM37", .downlink, "MAINTAINING [level]", [.level], .N⟩,
  ⟨"DM38", .downlink, "ASSIGNED LEVEL [level]", [.level], .N⟩,
  ⟨"DM41", .downlink, "BACK ON ROUTE", [], .N⟩,
  ⟨"DM48", .downlink, "POSITION REPORT [position report]", [.positionReport], .N⟩,
  ⟨"DM65", .downlink, "DUE TO WEATHER", [], .N⟩,
  ⟨"DM66", .downlink, "DUE TO AIRCRAFT PERFORMANCE", [], .N⟩,
  ⟨"DM89", .downlink, "MONITORING [unit name] [frequency]", [.unitName, .frequency], .N⟩,
  -- Downlink: Emergencies
  ⟨"DM55", .downlink, "PAN PAN PAN", [], .Y⟩,
  ⟨"DM56", .downlink, "MAYDAY MAYDAY MAYDAY", [], .Y⟩,
  ⟨"DM58", .downlink, "CANCEL EMERGENCY", [], .Y⟩,
  ⟨"DM67", .downlink, "[free text]", [.freeText], .R⟩]

def findDefinition (id : String) : Option MessageDefinition :=
  messageRegistry.find? fun definition => definition.id = id

theorem registry_ids_nodup : (messageRegistry.map MessageDefinition.id).Nodup := by
  decide +kernel

theorem find_definition_of_mem (definition : MessageDefinition)
    (member : definition ∈ messageRegistry) :
    findDefinition definition.id = some definition :=
  Slots.find_of_mem MessageDefinition.id messageRegistry registry_ids_nodup definition member

end OpenLink.MessageRegistry
