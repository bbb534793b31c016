import OpenLink.GuiMessages
import OpenLink.SdkClient

/-!
The response buttons of the aircraft's message list: where a response goes, and which
message it marks as responded.
-/
namespace OpenLink.DcduResponses
open Cpdlc CpdlcRuntime Envelope GuiMessages SdkClient

structure DcduTab where
  callsign : String
  acarsAddress : String
  session : Option CpdlcSessionView
  messages : List ReceivedMessage

/-- A request for data may be refused or deferred; the attribute comes before the elements. -/
def sharedResponseIntents (message : ReceivedMessage) : List CpdlcResponseIntent :=
  if message.responseAttr = some .Y then [.unable, .standby]
  else match message.responseAttr with
    | some attr => CpdlcResponseIntent.forAttribute attr
    | none => (message.application.map fun app =>
        chooseShortResponseIntents app.elements).getD []

def canRespond (message : ReceivedMessage) : Bool :=
  !message.isOutgoing && !message.responded && message.min.isSome &&
    !(sharedResponseIntents message).isEmpty

def stationCallsign (tab : DcduTab) : Option String :=
  tab.session.bind fun session =>
    (session.activeConnection.map CpdlcConnectionView.peer).or
      (session.inactiveConnection.map CpdlcConnectionView.peer)

/-- The first incoming message that goes by this MIN is marked. -/
def markResponded (min : UInt8) : List ReceivedMessage → List ReceivedMessage
  | [] => []
  | message :: rest =>
      if message.min = some min ∧ message.isOutgoing = false then
        { message with responded := true } :: rest
      else message :: markResponded min rest

def outgoingMessage (now : DateTime) (displayText : String) (toCallsign : Option String)
    (min mrn : Option UInt8) : ReceivedMessage where
  timestamp := now
  envelope := none
  fromCallsign := none
  toCallsign := toCallsign
  displayText := some displayText
  isOutgoing := true
  min := min
  mrn := mrn
  responseAttr := none
  responded := false

variable (client : OpenLinkClient) (now : DateTime)

def onRespond (tab : DcduTab) (min : UInt8) (intent : CpdlcResponseIntent) :
    Option OpenLinkMessage × DcduTab :=
  match stationCallsign tab with
  | none => (none, tab)
  | some station =>
      let closesDialogue := intent != .standby
      let message := (client.cpdlcAircraftApplication now tab.callsign tab.acarsAddress station
        [⟨intent.downlinkId, []⟩] (some min)).1
      let pushed := tab.messages ++ [outgoingMessage now intent.label none none (some min)]
      (some message,
        { tab with messages := if closesDialogue then markResponded min pushed else pushed })

/-! What a press does. -/
section Press

/-- Nothing before the first such message is touched, and nothing behind it. -/
theorem mark_first {min : UInt8} {before after : List ReceivedMessage} {message : ReceivedMessage}
    (earlier : ∀ other ∈ before, ¬ (other.min = some min ∧ other.isOutgoing = false))
    (numbered : message.min = some min) (incoming : message.isOutgoing = false) :
    markResponded min (before ++ message :: after) =
      before ++ { message with responded := true } :: after := by
  induction before with
  | nil => simp [markResponded, numbered, incoming]
  | cons first rest ih =>
      rw [List.cons_append, markResponded, if_neg (earlier first List.mem_cons_self),
        ih fun other member => earlier other (List.mem_cons_of_mem _ member)]
      rfl

theorem mark_earlier {min : UInt8} {before : List ReceivedMessage} (after : List ReceivedMessage)
    (earlier : ∃ other ∈ before, other.min = some min ∧ other.isOutgoing = false) :
    ∃ marked, marked.length = before.length ∧
      markResponded min (before ++ after) = marked ++ after := by
  induction before with
  | nil => simp at earlier
  | cons first rest ih =>
      rw [List.cons_append, markResponded]
      by_cases here : first.min = some min ∧ first.isOutgoing = false
      · exact ⟨{ first with responded := true } :: rest, rfl, by rw [if_pos here]; rfl⟩
      · obtain ⟨other, member, named⟩ := earlier
        rcases List.mem_cons.mp member with rfl | later
        · exact absurd named here
        · obtain ⟨marked, length, same⟩ := ih ⟨other, later, named⟩
          refine ⟨first :: marked, by simp [length], ?_⟩
          rw [if_neg here, same]
          rfl

structure HasButton (min : UInt8) (intent : CpdlcResponseIntent) (message : ReceivedMessage) :
    Prop where
  shown : canRespond message = true
  numbered : message.min = some min
  offered : intent ∈ sharedResponseIntents message

/-- The response goes to the sender of the message and refers to it; if it closes the dialogue, the
message is marked and no other, and otherwise none is. -/
def Answered (tab : DcduTab) (before after : List ReceivedMessage) (message : ReceivedMessage)
    (min : UInt8) (intent : CpdlcResponseIntent) : Prop :=
  let pressed := onRespond client now tab min intent
  (∃ sent station, pressed.1 = some sent ∧ message.fromCallsign = some station ∧
      addressee sent = some (station, some min)) ∧
    ∃ response : ReceivedMessage, response.isOutgoing = true ∧
      pressed.2.messages =
        before ++ (if intent = .standby then message else { message with responded := true }) ::
          after ++ [response]

theorem press_sent (tab : DcduTab) (min : UInt8) (intent : CpdlcResponseIntent)
    (station : String) (party : stationCallsign tab = some station) :
    ∃ sent row, (onRespond client now tab min intent).1 = some sent ∧
      addressee sent = some (station, some min) ∧ row.isOutgoing = true ∧
      (onRespond client now tab min intent).2.messages =
        if intent = .standby then tab.messages ++ [row]
        else markResponded min (tab.messages ++ [row]) := by
  refine ⟨_, outgoingMessage now intent.label none none (some min), by rw [onRespond, party], rfl,
    rfl, ?_⟩
  rw [onRespond, party]
  by_cases standby : intent = .standby <;> simp [standby]

/-- A closing response marks its message exactly when it is the first of its MIN. -/
theorem marks_message {min : UInt8} {before after : List ReceivedMessage}
    {message : ReceivedMessage} (numbered : message.min = some min)
    (incoming : message.isOutgoing = false) (unanswered : message.responded = false)
    (row : ReceivedMessage) :
    (∃ response : ReceivedMessage, response.isOutgoing = true ∧
        markResponded min (before ++ message :: after ++ [row]) =
          before ++ { message with responded := true } :: after ++ [response]) ↔
      row.isOutgoing = true ∧ ∀ other ∈ before,
        ¬ (other.min = some min ∧ other.isOutgoing = false) := by
  have shape : before ++ message :: after ++ [row] = before ++ message :: (after ++ [row]) := by
    simp
  rw [shape]
  by_cases earlier : ∃ other ∈ before, other.min = some min ∧ other.isOutgoing = false
  · refine iff_of_false ?_ ?_
    · rintro ⟨response, _, same⟩
      obtain ⟨marked, length, result⟩ := mark_earlier (message :: (after ++ [row])) earlier
      rw [result, List.append_assoc, List.cons_append] at same
      -- the message itself has kept its mark
      have kept := (List.cons.inj (List.append_inj same length).2).1
      have answered := congrArg ReceivedMessage.responded kept
      rw [unanswered] at answered
      cases answered
    · rintro ⟨_, first⟩
      obtain ⟨other, member, named⟩ := earlier
      exact first other member named
  · have first : ∀ other ∈ before, ¬ (other.min = some min ∧ other.isOutgoing = false) :=
      fun other member named => earlier ⟨other, member, named⟩
    rw [mark_first first numbered incoming]
    constructor
    · rintro ⟨response, outgoing, same⟩
      have last : [row] = [response] := by
        simpa using same
      rw [(List.cons.inj last).1]
      exact ⟨outgoing, first⟩
    · rintro ⟨outgoing, _⟩
      exact ⟨row, outgoing, by simp⟩

end Press

/-- A press answers its message exactly when the message comes from the station that the session
names first, and, unless it is a standby, no earlier incoming message goes by the same MIN. -/
theorem press_answers_iff (tab : DcduTab) (before after : List ReceivedMessage)
    (message : ReceivedMessage) (min : UInt8) (intent : CpdlcResponseIntent)
    (displayed : tab.messages = before ++ message :: after)
    (button : HasButton min intent message) :
    Answered client now tab before after message min intent ↔
      (∃ station, stationCallsign tab = some station ∧ message.fromCallsign = some station) ∧
        (intent ≠ .standby → ∀ other ∈ before,
          ¬ (other.min = some min ∧ other.isOutgoing = false)) := by
  have shown := button.shown
  simp only [canRespond, Bool.and_eq_true, Bool.not_eq_true'] at shown
  obtain ⟨⟨⟨incoming, unanswered⟩, _⟩, _⟩ := shown
  unfold Answered
  cases party : stationCallsign tab with
  | none => simp [onRespond, party]
  | some station =>
      obtain ⟨sent, row, published, addressed, outgoing, messages⟩ :=
        press_sent client now tab min intent station party
      rw [displayed] at messages
      simp only [published, messages]
      apply and_congr
      · constructor
        · rintro ⟨other, sender, same, named, reached⟩
          obtain rfl := Option.some.inj same
          rw [addressed] at reached
          exact ⟨station, rfl, named.trans (congrArg (Option.map Prod.fst) reached.symm)⟩
        · rintro ⟨other, same, named⟩
          obtain rfl := Option.some.inj same
          exact ⟨sent, station, rfl, named, addressed⟩
      · by_cases standby : intent = .standby
        · simp only [standby, if_true, ne_eq, not_true, false_imp_iff, iff_true]
          exact ⟨row, outgoing, rfl⟩
        · simp only [standby, if_false, ne_eq, not_false_iff, true_imp_iff]
          rw [marks_message button.numbered incoming unanswered, and_iff_right outgoing]

/-! A handover: both stations number their uplinks from one. -/

def uplinkFrom (station : String) : ReceivedMessage :=
  ⟨0, none, some station, none, some "CLIMB TO FL350", false, some 1, none, some .WU, false⟩

def handover : DcduTab where
  callsign := "AFR123"
  acarsAddress := "39A1B2"
  session := some ⟨some "AFR123", some "39A1B2", some ⟨"LFPG", .connected⟩,
    some ⟨"LFFF", .connected⟩, some "LFFF"⟩
  messages := [uplinkFrom "LFPG", uplinkFrom "LFFF"]

def aircraftClient : OpenLinkClient := ⟨"net", "AFR123", fun _ => none⟩

theorem uplink_button (station : String) : HasButton 1 .wilco (uplinkFrom station) :=
  ⟨rfl, rfl, by simp [sharedResponseIntents, uplinkFrom, CpdlcResponseIntent.forAttribute]⟩

theorem press_answers_first :
    Answered aircraftClient 0 handover [] [uplinkFrom "LFFF"] (uplinkFrom "LFPG") 1 .wilco ↔
      (∃ station, stationCallsign handover = some station ∧
          (uplinkFrom "LFPG").fromCallsign = some station) ∧
        (CpdlcResponseIntent.wilco ≠ .standby → ∀ other ∈ ([] : List ReceivedMessage),
          ¬ (other.min = some 1 ∧ other.isOutgoing = false)) :=
  press_answers_iff aircraftClient 0 handover [] [uplinkFrom "LFFF"] (uplinkFrom "LFPG") 1 .wilco rfl
    (uplink_button "LFPG")

/-- The answer to the one station goes to the other, and marks the message of the other. -/
theorem other_station_answered :
    let pressed := onRespond aircraftClient 0 handover 1 .wilco
    pressed.1.bind addressee = some ("LFPG", some 1) ∧
      pressed.2.messages.map (fun message => (message.fromCallsign, message.responded)) =
        [(some "LFPG", true), (some "LFFF", false), (none, false)] ∧
      ¬ Answered aircraftClient 0 handover [uplinkFrom "LFPG"] [] (uplinkFrom "LFFF") 1 .wilco := by
  intro pressed
  refine ⟨by decide, by decide, ?_⟩
  rintro ⟨⟨sent, station, same, named, reached⟩, _⟩
  obtain rfl := Option.some.inj same
  obtain rfl := Option.some.inj named
  exact absurd reached (by decide)

end OpenLink.DcduResponses
