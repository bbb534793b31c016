import OpenLink.CommandElements
import OpenLink.GuiMessages
import OpenLink.ReplyTargets

/-!
The composer of the controller's console, with all that he may do to it. What is shown only, such as
the filter of the list of commands, is left out; so are the rows that a tab keeps of its own
messages. The composer is not on the screen unless its flight is connected.
-/
namespace OpenLink.UplinkComposer
open AtcConsole CommandElements Cpdlc CpdlcRuntime Envelope GuiClient GuiMessages ReplyTargets Runs
  SdkClient Texts

structure Composer where
  console : Console
  client : OpenLinkClient
  cmdSearchQuery : String
  cmdArgInputs : List String
  /-- the composed messages that were sent, and the other ones -/
  uplinks : List OpenLinkMessage
  replies : List OpenLinkMessage

inductive Gesture where
  | chooseDomain (key : String)
  | chooseCommand (key : String)
  | typed (idx : Nat) (value : String)
  | cancel
  | addToMessage
  | sendNow (now : DateTime)
  | clear
  | sendUplink (now : DateTime)

inductive ComposerEvent where
  | sessionUpdate (session : CpdlcSessionView)
  | clickRow (idx : Nat)
  | logonResponse (flight : AtcLinkedFlight) (accept : Bool)
  | quickResponse (now : DateTime) (aircraft : String) (mrn : UInt8) (intent : CpdlcResponseIntent)
  | injectResponse (intent : CpdlcResponseIntent) (mrn : UInt8) (aircraft : String)
  | openResponse (mrn : UInt8) (aircraft : String)
  | composing (gesture : Gesture)

section Model
variable (upper : Char → Text) (callsign : String)

/-- The position is that among all callsigns, whether or not they have an address. -/
def selectFlightByCallsign (aircraft : String) (tab : TabState) : TabState :=
  let callsigns := (tab.atcSessions.entries.map Sigma.snd).filterMap CpdlcSessionView.aircraft
  let sortedCallsigns :=
    (callsigns.mergeSort fun first second => decide (first ≤ second)).eraseReps
  match sortedCallsigns.idxOf? aircraft with
  | some idx => { tab with selectedFlightIdx := some idx }
  | none => tab

def findLinkedFlight (tab : TabState) (aircraft : String) : Option AtcLinkedFlight :=
  (tab.atcSessions.entries.map Sigma.snd).findSome? fun session =>
    (linkedFlight session).filter fun flight => flight.aircraftCallsign = aircraft

def pendingLogons (tab : TabState) : List AtcLinkedFlight :=
  (linkedFlights tab).filter fun flight => flight.phase = .logonPending

/-- A logon that is accepted is followed by a connection request. -/
def handleLogonResponse (flight : AtcLinkedFlight) (accept : Bool) (composer : Composer) :
    Composer :=
  let (response, client) := composer.client.cpdlcLogonResponse callsign flight.aircraftCallsign
    flight.aircraftAddress accept
  if accept then
    let (request, client) := client.cpdlcConnectionRequest callsign flight.aircraftCallsign
      flight.aircraftAddress
    { composer with client := client, replies := composer.replies ++ [response, request] }
  else { composer with client := client, replies := composer.replies ++ [response] }

/-- A quick response goes to a flight of any phase. -/
def handleQuickResponse (now : DateTime) (aircraft : String) (min : UInt8)
    (intent : CpdlcResponseIntent) (composer : Composer) : Composer :=
  match findLinkedFlight composer.console.tab aircraft with
  | none => composer
  | some flight =>
      let (message, client) := composer.client.cpdlcStationApplication now callsign
        flight.aircraftCallsign flight.aircraftAddress [⟨intent.uplinkId, []⟩] (some min)
      { composer with client := client, replies := composer.replies ++ [message] }

def openResponseComposer (mrn : UInt8) (aircraft : String) (composer : Composer) : Composer :=
  { composer with
    console :=
      { composer.console with
        tab := selectFlightByCallsign aircraft composer.console.tab
        composeMrn := some mrn
        composeTargetCallsign := some aircraft } }

def injectResponseInComposer (intent : CpdlcResponseIntent) (mrn : UInt8) (aircraft : String)
    (composer : Composer) : Composer :=
  let composer := openResponseComposer mrn aircraft composer
  { composer with
    console :=
      { composer.console with
        composeElements := composer.console.composeElements ++ [⟨intent.uplinkId, []⟩] } }

/-- The inputs stay as they are: the next command sets them. -/
def sendComposedMessage (now : DateTime) (flight : AtcLinkedFlight) (elements : List MessageElement)
    (mrn : Option UInt8) (composer : Composer) : Composer :=
  match AtcConsole.sendComposedMessage composer.client now callsign flight elements mrn
      composer.console with
  | (none, _) => composer
  | (some message, console) =>
      { composer with
        console := console
        client := (composer.client.cpdlcStationApplication now callsign flight.aircraftCallsign
          flight.aircraftAddress elements mrn).2
        cmdSearchQuery := ""
        uplinks := composer.uplinks ++ [message] }

def addCommandElement (command : String) (composer : Composer) : Composer :=
  match commandElement upper command composer.cmdArgInputs with
  | none => composer
  | some element =>
      { composer with
        console :=
          { composer.console with
            composeElements := composer.console.composeElements ++ [element] }
        cmdArgInputs := [] }

def typeInput (idx : Nat) (value : String) (inputs : List String) : List String :=
  (inputs ++ List.replicate (idx + 1 - inputs.length) "").set idx value

def gestureStep (flight : AtcLinkedFlight) (composer : Composer) : Gesture → Composer
  | .chooseDomain key =>
      -- the domains are not shown while a command is being edited
      if selectedCommand composer.cmdSearchQuery = none ∧ key ∈ ["vertical", "lateral", "other"] then
        { composer with cmdSearchQuery := "grp:" ++ key, cmdArgInputs := [] }
      else composer
  | .chooseCommand key =>
      if selectedCommand composer.cmdSearchQuery = none ∧
          ((selectedGroup composer.cmdSearchQuery).any fun domain =>
            (offeredCommands domain).contains key) = true then
        { composer with
          cmdSearchQuery := "cmd:" ++ key
          cmdArgInputs := List.replicate (commandParams key) "" }
      else composer
  | .typed idx value =>
      match selectedCommand composer.cmdSearchQuery with
      | none => composer
      | some command =>
          if idx < commandParams command then
            { composer with cmdArgInputs := typeInput idx value composer.cmdArgInputs }
          else composer
  | .cancel =>
      if (selectedCommand composer.cmdSearchQuery).isSome then
        { composer with cmdSearchQuery := "", cmdArgInputs := [] }
      else composer
  | .addToMessage =>
      match selectedCommand composer.cmdSearchQuery with
      | none => composer
      | some command => addCommandElement upper command composer
  | .sendNow now =>
      match selectedCommand composer.cmdSearchQuery with
      | none => composer
      | some command =>
          sendComposedMessage callsign now flight (composer.console.composeElements ++
              (buildCommandElement upper command composer.cmdArgInputs).toList)
            composer.console.composeMrn composer
  | .clear =>
      { composer with
        console :=
          { composer.console with
            composeElements := []
            composeMrn := none
            composeTargetCallsign := none }
        cmdSearchQuery := ""
        cmdArgInputs := [] }
  | .sendUplink now =>
      sendComposedMessage callsign now flight composer.console.composeElements
        composer.console.composeMrn composer

def composerStep (composer : Composer) : ComposerEvent → Composer
  | .sessionUpdate session =>
      { composer with
        console := consoleStep composer.console (.sessionUpdate session) }
  | .clickRow idx =>
      { composer with console := consoleStep composer.console (.clickRow idx) }
  | .logonResponse flight accept =>
      if flight ∈ pendingLogons composer.console.tab then
        handleLogonResponse callsign flight accept composer
      else composer
  | .quickResponse now aircraft mrn intent =>
      handleQuickResponse callsign now aircraft mrn intent composer
  | .injectResponse intent mrn aircraft => injectResponseInComposer intent mrn aircraft composer
  | .openResponse mrn aircraft => openResponseComposer mrn aircraft composer
  | .composing gesture =>
      match canCompose composer.console with
      | none => composer
      | some flight => gestureStep upper callsign flight composer gesture

end Model

/-! What the composer is for: a draft grows, and is sent or thrown away as a whole. -/
section Desk

structure Desk where
  sent : List (List MessageElement × Option UInt8)
  draft : List MessageElement
  reply : Option UInt8

inductive DeskEvent where
  | answer (mrn : UInt8)
  | add (element : MessageElement)
  | discard
  | dispatch

def Desk.empty : Desk := ⟨[], [], none⟩

def deskStep (desk : Desk) : DeskEvent → Desk
  | .answer mrn => { desk with reply := some mrn }
  | .add element => { desk with draft := desk.draft ++ [element] }
  | .discard => { desk with draft := [], reply := none }
  | .dispatch =>
      if desk.draft.isEmpty then desk else ⟨desk.sent ++ [(desk.draft, desk.reply)], [], none⟩

/-- All elements that are sent or in the draft, in the order of the messages. -/
def Desk.written (desk : Desk) : List MessageElement := desk.sent.flatMap Prod.fst ++ desk.draft

def additions (events : List DeskEvent) : List MessageElement :=
  events.filterMap fun event =>
    match event with
    | .add element => some element
    | _ => none

/-- Nothing is written twice, made up or put in another order. -/
theorem written_sublist (desk : Desk) (events : List DeskEvent) :
    (exec deskStep desk events).written.Sublist (desk.written ++ additions events) := by
  induction events generalizing desk with
  | nil => simp [additions]
  | cons event rest ih =>
      refine (ih (deskStep desk event)).trans ?_
      cases event with
      | answer mrn => exact List.Sublist.refl _
      | add element => simp [deskStep, Desk.written, additions]
      | discard =>
          refine List.Sublist.append ?_ (List.Sublist.refl _)
          simp [deskStep, Desk.written]
      | dispatch =>
          simp only [deskStep]
          split
          · exact List.Sublist.refl _
          · simp [Desk.written, additions]

theorem written_added {desk : Desk} {events : List DeskEvent} {element : MessageElement}
    (written : element ∈ (exec deskStep desk events).written) :
    element ∈ desk.written ∨ .add element ∈ events := by
  have listed := (written_sublist desk events).subset written
  rcases List.mem_append.mp listed with old | added
  · exact .inl old
  · obtain ⟨event, member, same⟩ := List.mem_filterMap.mp added
    cases event <;> cases same
    exact .inr member

/-- What is under way to answer this message, or does. -/
def Desk.Answers (desk : Desk) (mrn : UInt8) : Prop :=
  desk.reply = some mrn ∨ ∃ message ∈ desk.sent, message.2 = some mrn

theorem step_answers {desk : Desk} {event : DeskEvent} {mrn : UInt8}
    (answers : (deskStep desk event).Answers mrn) : desk.Answers mrn ∨ event = .answer mrn := by
  cases event with
  | answer other =>
      rcases answers with now | sent
      · exact .inr (congrArg DeskEvent.answer (Option.some.inj now))
      · exact .inl (.inr sent)
  | add element => exact .inl answers
  | discard =>
      rcases answers with now | sent
      · cases now
      · exact .inl (.inr sent)
  | dispatch =>
      refine .inl ?_
      simp only [deskStep] at answers
      split at answers
      · exact answers
      · obtain now | ⟨message, member, answered⟩ := answers
        · cases now
        · rcases List.mem_append.mp member with old | new
          · exact .inr ⟨message, old, answered⟩
          · obtain rfl := List.mem_singleton.mp new
            exact .inl answered

theorem run_answers {desk : Desk} {events : List DeskEvent} {mrn : UInt8}
    (answers : (exec deskStep desk events).Answers mrn) :
    desk.Answers mrn ∨ .answer mrn ∈ events := by
  induction events generalizing desk with
  | nil => exact .inl answers
  | cons event rest ih =>
      rcases ih answers with first | later
      · exact (step_answers first).imp_right fun same => by simp [same]
      · exact .inr (List.mem_cons_of_mem _ later)

theorem sent_nonempty (desk : Desk) (start : ∀ message ∈ desk.sent, message.1 ≠ [])
    (events : List DeskEvent) : ∀ message ∈ (exec deskStep desk events).sent, message.1 ≠ [] := by
  apply run_invariant deskStep fun desk => ∀ message ∈ desk.sent, message.1 ≠ []
  · intro state event nonempty message member
    cases event with
    | dispatch =>
        simp only [deskStep] at member
        split at member
        · exact nonempty message member
        · next composed =>
            rcases List.mem_append.mp member with old | new
            · exact nonempty message old
            · rw [List.mem_singleton.mp new]
              simpa using composed
    | answer mrn => exact nonempty message member
    | add element => exact nonempty message member
    | discard => exact nonempty message member
  · exact start

end Desk

/-! The composer works like that. -/
section Refinement
variable (upper : Char → Text) (callsign : String)

def contents (message : OpenLinkMessage) : List MessageElement × Option UInt8 :=
  ((applicationOf message).elim [] CpdlcApplicationMessage.elements,
    (applicationOf message).bind CpdlcApplicationMessage.mrn)

def desk (composer : Composer) : Desk where
  sent := composer.uplinks.map contents
  draft := composer.console.composeElements
  reply := composer.console.composeMrn

def gestureMoves (composer : Composer) : Gesture → List DeskEvent
  | .addToMessage =>
      ((selectedCommand composer.cmdSearchQuery).bind fun command =>
        commandElement upper command composer.cmdArgInputs).toList.map .add
  | .sendNow _ =>
      match selectedCommand composer.cmdSearchQuery with
      | none => []
      | some command =>
          (buildCommandElement upper command composer.cmdArgInputs).toList.map .add ++ [.dispatch]
  | .clear => [.discard]
  | .sendUplink _ => [.dispatch]
  | _ => []

def moves (composer : Composer) : ComposerEvent → List DeskEvent
  | .injectResponse intent mrn _ => [.answer mrn, .add ⟨intent.uplinkId, []⟩]
  | .openResponse mrn _ => [.answer mrn]
  | .composing gesture =>
      if (canCompose composer.console).isSome then gestureMoves upper composer gesture else []
  | _ => []

theorem sent_desk (now : DateTime) (flight : AtcLinkedFlight) (added : List MessageElement)
    (composer : Composer) :
    desk (sendComposedMessage callsign now flight (composer.console.composeElements ++ added)
        composer.console.composeMrn composer) =
      exec deskStep (desk composer) (added.map .add ++ [.dispatch]) := by
  have grown : exec deskStep (desk composer) (added.map .add) =
      { desk composer with draft := composer.console.composeElements ++ added } := by
    induction added using List.reverseRecOn with
    | nil => simp [desk]
    | append_singleton earlier element ih => simp [exec_append, ih, deskStep]
  rw [exec_snoc, grown, deskStep, sendComposedMessage, AtcConsole.sendComposedMessage]
  cases nothing : (composer.console.composeElements ++ added).isEmpty with
  | true =>
      obtain ⟨unwritten, rfl⟩ := List.append_eq_nil_iff.mp (List.isEmpty_iff.mp nothing)
      simp [desk, unwritten]
  | false => simp [desk]; rfl

theorem gesture_desk (flight : AtcLinkedFlight) (composer : Composer) (gesture : Gesture) :
    desk (gestureStep upper callsign flight composer gesture) =
      exec deskStep (desk composer) (gestureMoves upper composer gesture) := by
  cases gesture with
  | chooseDomain key => simp only [gestureStep, gestureMoves]; split <;> rfl
  | chooseCommand key => simp only [gestureStep, gestureMoves]; split <;> rfl
  | typed idx value =>
      simp only [gestureStep, gestureMoves]
      split
      · rfl
      · split <;> rfl
  | cancel => simp only [gestureStep, gestureMoves]; split <;> rfl
  | addToMessage =>
      simp only [gestureStep, gestureMoves]
      cases selectedCommand composer.cmdSearchQuery with
      | none => rfl
      | some command =>
          simp only [addCommandElement, Option.bind_some]
          cases commandElement upper command composer.cmdArgInputs <;> rfl
  | sendNow now =>
      simp only [gestureStep, gestureMoves]
      cases selectedCommand composer.cmdSearchQuery with
      | none => rfl
      | some command => exact sent_desk callsign now flight _ composer
  | clear => rfl
  | sendUplink now =>
      have sent := sent_desk callsign now flight [] composer
      rw [List.append_nil] at sent
      exact sent

theorem step_desk (composer : Composer) (event : ComposerEvent) :
    desk (composerStep upper callsign composer event) =
      exec deskStep (desk composer) (moves upper composer event) := by
  cases event with
  | logonResponse flight accept =>
      simp only [composerStep, moves]
      split
      · cases accept <;> rfl
      · rfl
  | quickResponse now aircraft mrn intent =>
      simp only [composerStep, moves, handleQuickResponse]
      split <;> rfl
  | composing gesture =>
      simp only [composerStep, moves]
      cases canCompose composer.console with
      | none => rfl
      | some flight => exact gesture_desk upper callsign flight composer gesture
  | _ => rfl

theorem moves_valid (composer : Composer) (event : ComposerEvent) :
    ∀ move ∈ moves upper composer event, ∀ element, move = .add element → ValidUplink element := by
  rintro move member element rfl
  cases event with
  | injectResponse intent mrn aircraft =>
      simp only [moves, List.mem_cons, List.not_mem_nil, or_false, DeskEvent.add.injEq, reduceCtorEq,
        false_or] at member
      subst member
      cases intent <;> exact ⟨_, rfl, rfl, rfl⟩
  | composing gesture =>
      simp only [moves] at member
      split at member
      · cases gesture with
        | addToMessage =>
            simp only [gestureMoves, List.mem_map, Option.mem_toList, DeskEvent.add.injEq,
              exists_eq_right, Option.bind_eq_some_iff] at member
            obtain ⟨command, _, built⟩ := member
            exact build_valid built
        | sendNow now =>
            simp only [gestureMoves] at member
            split at member
            · simp at member
            · next command _ =>
                simp only [List.mem_append, List.mem_map, Option.mem_toList, DeskEvent.add.injEq,
                  exists_eq_right, List.mem_singleton, reduceCtorEq, or_false] at member
                exact build_valid member
        | _ => simp [gestureMoves] at member
      · simp at member
  | _ => simp [moves] at member

/-- A message is sent only from the composer, to its flight. -/
theorem step_uplinks (composer : Composer) (event : ComposerEvent) :
    (composerStep upper callsign composer event).uplinks = composer.uplinks ∨
      ∃ message, (∃ flight, canCompose composer.console = some flight ∧
          (addressee message).map Prod.fst = some flight.aircraftCallsign) ∧
        (composerStep upper callsign composer event).uplinks = composer.uplinks ++ [message] := by
  cases event with
  | logonResponse flight accept =>
      refine .inl ?_
      simp only [composerStep]
      split
      · cases accept <;> rfl
      · rfl
  | quickResponse now aircraft mrn intent =>
      refine .inl ?_
      simp only [composerStep, handleQuickResponse]
      split <;> rfl
  | composing gesture =>
      simp only [composerStep]
      cases canCompose composer.console with
      | none => exact .inl rfl
      | some flight =>
          have sent (now : DateTime) (elements : List MessageElement) (mrn : Option UInt8) :
              (sendComposedMessage callsign now flight elements mrn composer).uplinks =
                  composer.uplinks ∨
                ∃ message, (addressee message).map Prod.fst = some flight.aircraftCallsign ∧
                  (sendComposedMessage callsign now flight elements mrn composer).uplinks =
                    composer.uplinks ++ [message] := by
            rw [sendComposedMessage, AtcConsole.sendComposedMessage]
            cases elements.isEmpty with
            | true => exact .inl rfl
            | false => exact .inr ⟨_, rfl, rfl⟩
          suffices reached : (gestureStep upper callsign flight composer gesture).uplinks =
                composer.uplinks ∨
              ∃ message, (addressee message).map Prod.fst = some flight.aircraftCallsign ∧
                (gestureStep upper callsign flight composer gesture).uplinks =
                  composer.uplinks ++ [message] by
            rcases reached with same | ⟨message, addressed, grown⟩
            · exact .inl same
            · exact .inr ⟨message, ⟨flight, rfl, addressed⟩, grown⟩
          -- only the two send keys reach the log
          cases gesture with
          | chooseDomain key => simp only [gestureStep]; split <;> exact .inl rfl
          | chooseCommand key => simp only [gestureStep]; split <;> exact .inl rfl
          | typed idx value =>
              simp only [gestureStep]
              split
              · exact .inl rfl
              · split <;> exact .inl rfl
          | cancel => simp only [gestureStep]; split <;> exact .inl rfl
          | addToMessage =>
              simp only [gestureStep]
              split
              · exact .inl rfl
              · simp only [addCommandElement]
                split <;> exact .inl rfl
          | sendNow now =>
              simp only [gestureStep]
              split
              · exact .inl rfl
              · exact sent _ _ _
          | clear => exact .inl rfl
          | sendUplink now => exact sent _ _ _
  | _ => exact .inl rfl

def Composer.new (setup : SetupFields) (client : OpenLinkClient) : Composer where
  console := ⟨TabState.new setup, [], none, none⟩
  client := client
  cmdSearchQuery := ""
  cmdArgInputs := []
  uplinks := []
  replies := []

theorem uplinks_accounted (setup : SetupFields) (client : OpenLinkClient)
    (events : List ComposerEvent) :
    let start := Composer.new setup client
    let after := exec (composerStep upper callsign) start events
    let added := collected (composerStep upper callsign) (moves upper) start events
    desk after = exec deskStep .empty added ∧
      (desk after).written.Sublist (additions added) ∧
      ∀ earlier message, earlier ++ [message] <+: after.uplinks → (contents message).1 ≠ [] ∧
        (∀ element ∈ (contents message).1, ValidUplink element) ∧
        Seen (composerStep upper callsign) (fun composer event =>
          (∃ flight, canCompose composer.console = some flight ∧
            (addressee message).map Prod.fst = some flight.aircraftCallsign) ∧
          composer.uplinks = earlier ∧
          (composerStep upper callsign composer event).uplinks = earlier ++ [message])
          start events := by
  intro start after added
  have followed : desk after = exec deskStep .empty added :=
    exec_translated (composerStep upper callsign) deskStep desk (moves upper)
      (step_desk upper callsign) start events
  refine ⟨followed, ?_, ?_⟩
  · rw [followed]
    exact written_sublist .empty added
  · intro earlier message part
    have listed : contents message ∈ (exec deskStep .empty added).sent := by
      rw [← followed]
      exact List.mem_map_of_mem (part.subset (by simp))
    refine ⟨sent_nonempty .empty (by simp [Desk.empty]) added _ listed, ?_, ?_⟩
    · intro element inside
      have written : element ∈ (exec deskStep .empty added).written :=
        List.mem_append_left _ (List.mem_flatMap.mpr ⟨_, listed, inside⟩)
      rcases written_added written with old | move
      · simp [Desk.written, Desk.empty] at old
      · exact collected_all (composerStep upper callsign) _
          (fun move => ∀ element, move = .add element → ValidUplink element) (moves_valid upper)
          start events _ move element rfl
    · exact appended_there (composerStep upper callsign) Composer.uplinks
        (fun message composer _ => ∃ flight, canCompose composer.console = some flight ∧
          (addressee message).map Prod.fst = some flight.aircraftCallsign)
        (step_uplinks upper callsign) start rfl events part

end Refinement

/-! Values typed one after the other into the fields of a form. -/
section Typing
variable {State Event : Type} {step : State → Event → State}

def typings (type : Nat → String → Event) (idx : Nat) : List String → List Event
  | [] => []
  | value :: rest => type idx value :: typings type (idx + 1) rest

theorem typed_next (value : String) (before : List String) (fields : Nat) :
    typeInput before.length value (before ++ List.replicate (fields + 1) "") =
      before ++ [value] ++ List.replicate fields "" := by
  have room : before.length + 1 - (before.length + (fields + 1)) = 0 := by omega
  simp [typeInput, room, List.replicate_succ]

theorem typed_form (type : Nat → String → Event) (form : List String → State) (fields : Nat)
    (types : ∀ idx value inputs, idx < fields →
      step (form inputs) (type idx value) = form (typeInput idx value inputs))
    (before after : List String) (count : before.length + after.length = fields) :
    exec step (form (before ++ List.replicate after.length "")) (typings type before.length after) =
      form (before ++ after) := by
  induction after generalizing before with
  | nil => rfl
  | cons value rest ih =>
      have inside : before.length < fields := by
        rw [← count, List.length_cons]
        omega
      have later := ih (before ++ [value]) (by rw [← count]; simp; omega)
      rw [List.length_append, List.length_singleton] at later
      rw [List.length_cons, typings, exec_cons, types _ _ _ inside, typed_next, later,
        List.append_assoc]
      rfl

end Typing

/-! Whatever the console offers can be sent. -/
section Composing
variable {upper : Char → Text} {callsign : String}

/-- The domain offers the uplink, and its arguments can be typed. -/
structure Offered (upper : Char → Text) (domain : String) (element : MessageElement) : Prop where
  listed : domain ∈ ["vertical", "lateral", "other"]
  offered : element.id ∈ offeredCommands domain
  valid : ValidUplink element
  typable : ∀ arg ∈ element.args, Typable upper arg

def typedGestures : Nat → List String → List ComposerEvent :=
  typings fun idx value => .composing (.typed idx value)

def addGestures (domain : String) (element : MessageElement) : List ComposerEvent :=
  [.composing .cancel, .composing (.chooseDomain domain), .composing (.chooseCommand element.id)] ++
    typedGestures 0 (shownInputs element.args) ++ [.composing .addToMessage]

def editing (composer : Composer) (query : String) (inputs : List String) : Composer :=
  { composer with cmdSearchQuery := query, cmdArgInputs := inputs }

def withElement (composer : Composer) (element : MessageElement) : Composer :=
  { composer with
    console :=
      { composer.console with
        composeElements := composer.console.composeElements ++ [element] } }

variable {composer : Composer} {flight : AtcLinkedFlight}

theorem shown_step (shown : canCompose composer.console = some flight) (gesture : Gesture) :
    composerStep upper callsign composer (.composing gesture) =
      gestureStep upper callsign flight composer gesture := by
  rw [composerStep, shown]

theorem editing_step (shown : canCompose composer.console = some flight) (query : String)
    (inputs : List String) (gesture : Gesture) :
    composerStep upper callsign (editing composer query inputs) (.composing gesture) =
      gestureStep upper callsign flight (editing composer query inputs) gesture := by
  have still : canCompose (editing composer query inputs).console = some flight := shown
  exact shown_step still gesture

theorem command_selected (key : String) : selectedCommand ("cmd:" ++ key) = some key :=
  strip_prefix_append "cmd:" key

theorem group_only (domain : String) : selectedCommand ("grp:" ++ domain) = none := by
  rw [selectedCommand, stripPrefix, Option.map_eq_none_iff, String.toList_append]
  rfl

theorem group_selected (domain : String) : selectedGroup ("grp:" ++ domain) = some domain := by
  rw [selectedGroup, strip_prefix_append, Option.some_or]

variable (upper callsign)

theorem typed_values (shown : canCompose composer.console = some flight) (key : String)
    (values : List String) (fields : commandParams key = values.length) :
    exec (composerStep upper callsign)
        (editing composer ("cmd:" ++ key) (List.replicate values.length ""))
        (typedGestures 0 values) =
      editing composer ("cmd:" ++ key) values := by
  refine typed_form _ (editing composer ("cmd:" ++ key)) values.length ?_ [] values (Nat.zero_add _)
  intro idx value inputs inside
  rw [editing_step shown]
  simp only [gestureStep, editing, command_selected]
  rw [if_pos (fields ▸ inside)]

theorem element_added (plain : PlainCase upper) (shown : canCompose composer.console = some flight)
    {domain : String} {element : MessageElement} (offered : Offered upper domain element) :
    exec (composerStep upper callsign) composer (addGestures domain element) =
      editing (withElement composer element) ("cmd:" ++ element.id) [] := by
  -- whatever is selected at first, a cancel leads to an editor without a command
  have cancelled : ∃ query inputs, selectedCommand query = none ∧
      composerStep upper callsign composer (.composing .cancel) = editing composer query inputs := by
    rw [shown_step shown, gestureStep]
    cases selected : selectedCommand composer.cmdSearchQuery with
    | none => exact ⟨_, _, selected, rfl⟩
    | some command => exact ⟨"", [], by decide, rfl⟩
  obtain ⟨query, inputs, unselected, idle⟩ := cancelled
  have domained : composerStep upper callsign (editing composer query inputs)
      (.composing (.chooseDomain domain)) = editing composer ("grp:" ++ domain) [] := by
    rw [editing_step shown, gestureStep,
      if_pos ⟨unselected, offered.listed⟩]
    rfl
  have commanded : composerStep upper callsign (editing composer ("grp:" ++ domain) [])
      (.composing (.chooseCommand element.id)) =
      editing composer ("cmd:" ++ element.id) (List.replicate element.args.length "") := by
    have inside : ((selectedGroup ("grp:" ++ domain)).any fun domain =>
        (offeredCommands domain).contains element.id) = true := by
      rw [group_selected, Option.any_some]
      exact List.contains_iff_mem.mpr offered.offered
    rw [editing_step shown, gestureStep,
      if_pos ⟨group_only domain, inside⟩, command_params offered.valid]
    rfl
  have filled := typed_values upper callsign shown element.id (shownInputs element.args)
    (by rw [command_params offered.valid, shownInputs, List.length_map])
  have typed : exec (composerStep upper callsign)
      (editing composer ("cmd:" ++ element.id) (List.replicate element.args.length ""))
      (typedGestures 0 (shownInputs element.args)) =
      editing composer ("cmd:" ++ element.id) (shownInputs element.args) := by
    rw [shownInputs, List.length_map] at filled
    exact filled
  have added : composerStep upper callsign
      (editing composer ("cmd:" ++ element.id) (shownInputs element.args))
      (.composing .addToMessage) =
      editing (withElement composer element) ("cmd:" ++ element.id) [] := by
    rw [editing_step shown, gestureStep]
    simp only [editing, command_selected, addCommandElement,
      command_display plain offered.valid offered.typable]
    rfl
  simp only [addGestures, exec_append, exec_cons, exec_nil, idle, domained, commanded, typed, added]

theorem elements_added (plain : PlainCase upper) (shown : canCompose composer.console = some flight)
    (wanted : List (String × MessageElement))
    (offered : ∀ each ∈ wanted, Offered upper each.1 each.2) :
    let after := exec (composerStep upper callsign) composer
      (wanted.flatMap fun each => addGestures each.1 each.2)
    canCompose after.console = some flight ∧ after.uplinks = composer.uplinks ∧
      after.client = composer.client ∧ after.console.composeMrn = composer.console.composeMrn ∧
      after.console.composeElements =
        composer.console.composeElements ++ wanted.map Prod.snd := by
  intro after
  induction wanted generalizing composer with
  | nil => exact ⟨shown, rfl, rfl, rfl, (List.append_nil _).symm⟩
  | cons first rest ih =>
      obtain ⟨domain, element⟩ := first
      have added := element_added upper callsign plain shown (offered _ List.mem_cons_self)
      have still : canCompose (editing (withElement composer element) ("cmd:" ++ element.id)
          []).console = some flight := shown
      have later := ih still (fun each member => offered each (List.mem_cons_of_mem _ member))
      have whole : after = exec (composerStep upper callsign)
          (editing (withElement composer element) ("cmd:" ++ element.id) [])
          (rest.flatMap fun each => addGestures each.1 each.2) := by
        rw [← added, ← exec_append]
        rfl
      rw [whole]
      obtain ⟨shownAfter, unsent, sameClient, sameMrn, composed⟩ := later
      refine ⟨shownAfter, unsent, sameClient, sameMrn, composed.trans ?_⟩
      rw [List.map_cons]
      exact List.append_assoc _ _ _

theorem offers_sent (plain : PlainCase upper) (composer : Composer) (flight : AtcLinkedFlight)
    (shown : canCompose composer.console = some flight) (wanted : List (String × MessageElement))
    (some_wanted : wanted ≠ []) (offered : ∀ each ∈ wanted, Offered upper each.1 each.2)
    (now : DateTime) :
    let after := exec (composerStep upper callsign) composer
      ((wanted.flatMap fun each => addGestures each.1 each.2) ++ [.composing (.sendUplink now)])
    after.console.composeElements = [] ∧
      after.uplinks = composer.uplinks ++ [(composer.client.cpdlcStationApplication now callsign
        flight.aircraftCallsign flight.aircraftAddress
        (composer.console.composeElements ++ wanted.map Prod.snd) composer.console.composeMrn).1] := by
  intro after
  obtain ⟨still, unsent, sameClient, sameMrn, composed⟩ :=
    elements_added upper callsign plain shown wanted offered
  have written : (composer.console.composeElements ++ wanted.map Prod.snd).isEmpty = false := by
    rw [List.isEmpty_eq_false_iff, Ne, List.append_eq_nil_iff, List.map_eq_nil_iff]
    exact fun nothing => some_wanted nothing.2
  have last : after = composerStep upper callsign _ (.composing (.sendUplink now)) :=
    exec_snoc _ _ _ _
  rw [last, shown_step still, gestureStep, sendComposedMessage, AtcConsole.sendComposedMessage,
    composed, written, unsent, sameClient, sameMrn]
  exact ⟨rfl, rfl⟩

end Composing

/-! A controller who refuses a request goes on to offer a level. -/
section Refusal

def refusal : Composer where
  console := { refusing with
    tab := { refusing.tab with atcSessions := AList.singleton "AFR123" (connectedFlight "AFR123") } }
  client := freshClient
  cmdSearchQuery := ""
  cmdArgInputs := []
  uplinks := []
  replies := []

def refused : AtcLinkedFlight := ⟨"AFR123", "AFR123", "AFR123", .connected⟩

def offeredLevel : MessageElement :=
  ⟨"UM50", [.position "LFPG", .level ⟨310⟩, .level ⟨12000⟩]⟩

theorem refusal_sent :
    let after := exec (composerStep asciiCase "LFPG") refusal
      (([("vertical", offeredLevel)].flatMap fun each => addGestures each.1 each.2) ++
        [.composing (.sendUplink 7)])
    after.console.composeElements = [] ∧
      after.uplinks = [] ++ [(freshClient.cpdlcStationApplication 7 "LFPG" "AFR123" "AFR123"
        ([⟨"UM0", []⟩] ++ [offeredLevel]) (some 5)).1] := by
  have shown : canCompose refusal.console = some refused := by decide +kernel
  refine offers_sent asciiCase "LFPG" plain_ascii refusal refused shown [("vertical", offeredLevel)]
    (by simp) ?_ 7
  intro each member
  obtain rfl := List.mem_singleton.mp member
  refine ⟨by decide, by decide, ⟨_, rfl, rfl, rfl⟩, ?_⟩
  intro arg member
  simp only [offeredLevel, List.mem_cons, List.not_mem_nil, or_false] at member
  rcases member with rfl | rfl | rfl <;> exact ⟨by decide, by decide, by decide⟩

end Refusal

end OpenLink.UplinkComposer
