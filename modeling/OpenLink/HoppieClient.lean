import OpenLink.Texts

/-!
The messages of the Hoppie network and the packet format of its CPDLC messages.
Polling and sending over HTTP are left out.
-/
namespace OpenLink.HoppieClient
open Texts

inductive HoppieMessageType where
  | cpdlc
  | telex
  | other (name : String)
  deriving DecidableEq

def HoppieMessageType.fromStr (toLowercase : String → String) (text : String) :
    HoppieMessageType :=
  let lowered := toLowercase text
  if lowered = "cpdlc" then .cpdlc
  else if lowered = "telex" then .telex
  else .other lowered

structure HoppieMessage where
  sender : String
  msgType : HoppieMessageType
  packet : Text
  deriving DecidableEq

structure HoppieCpdlcPacket where
  min : Text
  mrn : Option Text
  responseAttr : Text
  body : Text
  deriving DecidableEq

def packetPrefix : Text := "/data2/".toList

def parseCpdlcPacket (packet : Text) : Option HoppieCpdlcPacket :=
  match packetPrefix.isPrefixOf? (trim packet) with
  | none => none
  | some data =>
      match splitN '/' 4 data with
      | min :: mrn :: responseAttr :: body =>
          some ⟨min, if mrn = [] then none else some mrn, responseAttr, body.headD []⟩
      | _ => none

def formatCpdlcPacket (min : Text) (mrn : Option Text) (responseAttr body : Text) : Text :=
  packetPrefix ++ (min ++ '/' :: (mrn.getD [] ++ '/' :: (responseAttr ++ '/' :: body)))

/-- White space at the end of a packet is white space at the end of its body. -/
theorem format_trimmed (min : Text) (mrn : Option Text) (responseAttr body : Text) :
    trim (formatCpdlcPacket min mrn responseAttr body) =
      formatCpdlcPacket min mrn responseAttr (trimEnd body) := by
  have start : trimStart (formatCpdlcPacket min mrn responseAttr body) =
      formatCpdlcPacket min mrn responseAttr body := by
    have opening : trimStart packetPrefix = packetPrefix := by decide
    rw [formatCpdlcPacket]
    exact trim_start_append (by decide) opening _
  have whole : ∀ text, formatCpdlcPacket min mrn responseAttr text =
      (packetPrefix ++ (min ++ '/' :: (mrn.getD [] ++ '/' :: responseAttr))) ++ '/' :: text := by
    intro text
    simp [formatCpdlcPacket]
  rw [trim, start, whole body, trim_end_separator '/' (by decide), ← whole]

theorem parse_formatted {min : Text} {mrn : Option Text} {responseAttr : Text} (body : Text)
    (plainMin : '/' ∉ min) (plainMrn : ∀ text ∈ mrn, '/' ∉ text ∧ text ≠ [])
    (plainAttr : '/' ∉ responseAttr) :
    parseCpdlcPacket (formatCpdlcPacket min mrn responseAttr body) =
      some ⟨min, mrn, responseAttr, trimEnd body⟩ := by
  have data : packetPrefix.isPrefixOf? (formatCpdlcPacket min mrn responseAttr (trimEnd body)) =
      some (min ++ '/' :: (mrn.getD [] ++ '/' :: (responseAttr ++ '/' :: trimEnd body))) :=
    List.isPrefixOf?_eq_some_iff_append_eq.mpr rfl
  have plainField : '/' ∉ mrn.getD [] := by
    cases mrn with
    | none => simp
    | some text => exact (plainMrn text rfl).1
  have parts :
      splitN '/' 4 (min ++ '/' :: (mrn.getD [] ++ '/' :: (responseAttr ++ '/' :: trimEnd body))) =
        [min, mrn.getD [], responseAttr, trimEnd body] := by
    simp [splitN, split_once_char plainMin, split_once_char plainField,
      split_once_char plainAttr]
  have field : (if mrn.getD [] = [] then none else some (mrn.getD [])) = mrn := by
    cases mrn with
    | none => rfl
    | some text => simp [(plainMrn text rfl).2]
  simp only [parseCpdlcPacket, format_trimmed, data, parts, field, List.headD_cons]

end OpenLink.HoppieClient
