import OpenLink.PilotDisplay

/-!
The downlinks that the panel of the pilot sends. Beneath its forms and menus it works like the
composer of the controller: a draft grows, and is sent or thrown away as a whole.
-/
namespace OpenLink.DownlinkComposer
open Cpdlc CpdlcRuntime DcduResponses Envelope GuiMessages MessageRegistry PilotDisplay Runs
  SdkClient Texts UplinkComposer

/-! The panel works like the composer of the controller. -/
section Refinement
variable (upper : Char → Text)

def desk (dcdu : Dcdu) : Desk where
  sent := dcdu.downlinks.map contents
  draft := dcdu.composition.elements
  reply := dcdu.composition.mrn

def submitMoves (command : DownlinkCommand) (args : List CpdlcArgument) (dcdu : Dcdu) :
    List DeskEvent :=
  .add ⟨command.val, args⟩ ::
    if dcdu.composition.mode ∧ ¬ dcdu.composeSendAfterParam then [] else [.dispatch]

def panelMoves (dcdu : Dcdu) : PanelGesture → List DeskEvent
  | .clear => if dcdu.composition.hasQueue then [.discard] else []
  | .sendAll _ => [.dispatch]
  | .submit _ =>
      match pendingDefinition dcdu with
      | none => []
      | some (command, definition) =>
          match parseArgs dcdu.cmdArgInputs 0 definition.args with
          | none => []
          | some args => submitMoves command args dcdu
  | .choose _ command =>
      match listedDefinition upper dcdu command with
      | none => []
      | some definition =>
          if definition.args = [] then [.add ⟨command.val, []⟩, .dispatch] else []
  | .plus command =>
      match listedDefinition upper dcdu command with
      | none => []
      | some definition => if definition.args = [] then [.add ⟨command.val, []⟩] else []
  | _ => []

def moves (dcdu : Dcdu) : DcduEvent → List DeskEvent
  | .respondCompose min intent =>
      if hasCompose dcdu.tab.messages min intent then
        [.answer min, .add ⟨intent.downlinkId, []⟩]
      else []
  | .togglePanel =>
      match connectionState dcdu.tab with
      | .connected _ => if dcdu.pilotDownlinkOpen then [.discard] else []
      | _ => []
  | .composing gesture =>
      match connectedStation dcdu.tab with
      | some _ => if dcdu.pilotDownlinkOpen then panelMoves upper dcdu gesture else []
      | none => []
  | _ => []

variable (now : DateTime) (station : String)

theorem transmit_desk (elements : List MessageElement) (mrn : Option UInt8) (text : String)
    (dcdu : Dcdu) :
    desk (transmit now station elements mrn text dcdu) =
      { desk dcdu with sent := (desk dcdu).sent ++ [(elements, mrn)] } := by
  simp only [desk, transmit, pushRow, List.map_append, List.map_cons, List.map_nil]
  rfl

theorem composition_desk (composition : Composition) (dcdu : Dcdu) :
    desk (sendComposition now station composition dcdu) =
      ⟨(desk dcdu).sent ++ [(composition.elements, composition.mrn)], [], none⟩ := by
  have sent := congrArg Desk.sent (transmit_desk now station composition.elements composition.mrn
    (elementsText composition.elements) dcdu)
  simp only [desk] at sent
  simp only [desk, sendComposition, closePanel, sent, Composition.empty]

theorem added_dispatched (desk : Desk) (element : MessageElement) :
    exec deskStep desk [.add element, .dispatch] =
      ⟨desk.sent ++ [(desk.draft ++ [element], desk.reply)], [], none⟩ := by
  simp [deskStep]

theorem alone_desk {dcdu : Dcdu} (nothing : dcdu.composition.elements = [])
    (unanswered : dcdu.composition.mrn = none) (element : MessageElement) (text : String) :
    desk (transmit now station [element] none text dcdu) =
      exec deskStep (desk dcdu) [.add element, .dispatch] := by
  rw [transmit_desk, added_dispatched]
  simp only [desk, nothing, unanswered, List.nil_append]

theorem submit_desk (command : DownlinkCommand) (args : List CpdlcArgument) (dcdu : Dcdu) :
    desk (submitCommand now station command args dcdu) =
      exec deskStep (desk dcdu) (submitMoves command args dcdu) := by
  unfold submitCommand submitMoves
  cases composing : dcdu.composition.mode with
  | false =>
      obtain ⟨nothing, unanswered⟩ := dcdu.composition.idle composing
      simp only [Bool.false_eq_true, false_and, if_false]
      exact alone_desk now station nothing unanswered ⟨command.val, args⟩
        (renderElement ⟨command.val, args⟩)
  | true =>
      cases sends : dcdu.composeSendAfterParam with
      | false => rfl
      | true =>
          exact (composition_desk now station _ dcdu).trans (added_dispatched (desk dcdu) _).symm

theorem choose_desk (command : DownlinkCommand) (definition : MessageDefinition) (dcdu : Dcdu) :
    desk (chooseCommand now station command definition dcdu) =
      exec deskStep (desk dcdu)
        (if definition.args = [] then [.add ⟨command.val, []⟩, .dispatch] else []) := by
  unfold chooseCommand
  by_cases plain : definition.args = []
  · rw [if_pos plain]
    cases queue : dcdu.composition.hasQueue with
    | true =>
        rw [if_pos ⟨rfl, plain⟩]
        exact (composition_desk now station _ dcdu).trans (added_dispatched (desk dcdu) _).symm
    | false =>
        obtain ⟨nothing, unanswered⟩ := Composition.unqueued queue
        rw [if_neg (by simp), if_pos plain]
        exact alone_desk now station nothing unanswered ⟨command.val, []⟩ definition.template
  · rw [if_neg (fun both => plain both.2), if_neg plain, if_neg plain]
    rfl

theorem panel_desk (dcdu : Dcdu) (gesture : PanelGesture) :
    desk (panelStep upper station dcdu gesture) =
      exec deskStep (desk dcdu) (panelMoves upper dcdu gesture) := by
  cases gesture with
  | clear => simp only [panelStep, panelMoves]; split <;> rfl
  | sendAll now =>
      simp only [panelStep, panelMoves]
      split
      · next ready =>
          rw [composition_desk]
          simp [deskStep, desk, ready.2]
      -- where nothing is composed the desk has nothing to send either
      · next unready =>
          have nothing : dcdu.composition.elements = [] := by
            by_contra composed
            cases queue : dcdu.composition.hasQueue with
            | true => exact unready ⟨queue, composed⟩
            | false => exact composed (Composition.unqueued queue).1
          simp [deskStep, desk, nothing]
  | cancel => simp only [panelStep, panelMoves]; split <;> rfl
  | typed idx value =>
      simp only [panelStep, panelMoves]
      split
      · rfl
      · split <;> rfl
  | submit now =>
      simp only [panelStep, panelMoves]
      cases pendingDefinition dcdu with
      | none => rfl
      | some pending =>
          obtain ⟨command, definition⟩ := pending
          dsimp only
          cases parseArgs dcdu.cmdArgInputs 0 definition.args with
          | none => rfl
          | some args => exact submit_desk now station command args dcdu
  | search value => simp only [panelStep, panelMoves]; split <;> rfl
  | choose now command =>
      simp only [panelStep, panelMoves]
      cases listedDefinition upper dcdu command with
      | none => rfl
      | some definition => exact choose_desk now station command definition dcdu
  | plus command =>
      simp only [panelStep, panelMoves]
      cases listedDefinition upper dcdu command with
      | none => rfl
      | some definition =>
          simp only [addCommand]
          split <;> rfl

theorem step_desk (dcdu : Dcdu) (event : DcduEvent) :
    desk (dcduStep upper dcdu event) = exec deskStep (desk dcdu) (moves upper dcdu event) := by
  cases event with
  | received now envelope => simp only [dcduStep, moves]; split <;> rfl
  | automatic client row => cases row <;> rfl
  | respond now min intent =>
      simp only [dcduStep, moves]
      split
      · split <;> rfl
      · rfl
  | respondCompose min intent => simp only [dcduStep, moves]; split <;> rfl
  | typeLogon value =>
      simp only [dcduStep, moves]
      split
      · split <;> rfl
      · rfl
  | logon now =>
      simp only [dcduStep, moves]
      split
      · split <;> rfl
      · rfl
  | cancelLogon => simp only [dcduStep, moves]; split <;> rfl
  | togglePanel =>
      simp only [dcduStep, moves]
      cases connectionState dcdu.tab with
      | connected station => dsimp only; split <;> rfl
      | _ => rfl
  | composing gesture =>
      simp only [dcduStep, moves]
      cases connectedStation dcdu.tab with
      | none => rfl
      | some station =>
          dsimp only
          split
          · exact panel_desk upper station dcdu gesture
          · rfl
  | sessionUpdate session => rfl

end Refinement

/-! What the messages of the panel say, and whom they go to. -/
section Downlinks
variable (upper : Char → Text)

theorem pending_valid {dcdu : Dcdu} {command : DownlinkCommand} {definition : MessageDefinition}
    {args : List CpdlcArgument} (pending : pendingDefinition dcdu = some (command, definition))
    (parsed : parseArgs dcdu.cmdArgInputs 0 definition.args = some args) :
    ValidDownlink ⟨command.val, args⟩ := by
  obtain ⟨other, _, same⟩ := Option.bind_eq_some_iff.mp pending
  obtain ⟨found, known, built⟩ := Option.map_eq_some_iff.mp same
  cases built
  obtain ⟨declared, first, direction⟩ := command.property
  obtain rfl := Option.some.inj (first.symm.trans known)
  exact ⟨_, known, direction, parsed_types parsed⟩

theorem listed_valid {dcdu : Dcdu} {command : DownlinkCommand} {definition : MessageDefinition}
    (listed : listedDefinition upper dcdu command = some definition)
    (plain : definition.args = []) : ValidDownlink ⟨command.val, []⟩ := by
  unfold listedDefinition at listed
  split at listed
  · cases listed
  · obtain ⟨known, _⟩ := Option.filter_eq_some_iff.mp listed
    obtain ⟨declared, first, direction⟩ := command.property
    obtain rfl := Option.some.inj (first.symm.trans known)
    exact ⟨_, known, direction, plain.symm⟩

/-- Valid downlinks are added, and only a button of the message list makes them an answer. -/
inductive Allowed (dcdu : Dcdu) (event : DcduEvent) : DeskEvent → Prop where
  | answer {mrn : UInt8} {intent : CpdlcResponseIntent}
      (pressed : event = .respondCompose mrn intent)
      (shown : hasCompose dcdu.tab.messages mrn intent = true) : Allowed dcdu event (.answer mrn)
  | add {element : MessageElement} (valid : ValidDownlink element) :
      Allowed dcdu event (.add element)
  | discard : Allowed dcdu event .discard
  | dispatch : Allowed dcdu event .dispatch

theorem added_allowed {dcdu : Dcdu} {event : DcduEvent} {element : MessageElement}
    {rest : List DeskEvent} (valid : ValidDownlink element)
    (sends : ∀ move ∈ rest, move = .dispatch) :
    ∀ move ∈ DeskEvent.add element :: rest, Allowed dcdu event move := by
  intro move member
  rcases List.mem_cons.mp member with rfl | later
  · exact .add valid
  · exact sends move later ▸ .dispatch

theorem panel_allowed (dcdu : Dcdu) (event : DcduEvent) (gesture : PanelGesture) :
    ∀ move ∈ panelMoves upper dcdu gesture, Allowed dcdu event move := by
  intro move member
  cases gesture with
  | clear =>
      simp only [panelMoves] at member
      split at member
      · exact List.mem_singleton.mp member ▸ .discard
      · cases member
  | sendAll now => exact List.mem_singleton.mp member ▸ .dispatch
  | submit now =>
      simp only [panelMoves] at member
      split at member
      · cases member
      · next pending =>
          split at member
          · cases member
          · next parsed =>
              refine added_allowed (pending_valid pending parsed) (fun move later => ?_) move member
              split at later
              · cases later
              · exact List.mem_singleton.mp later
  | choose now command =>
      simp only [panelMoves] at member
      split at member
      · cases member
      · next listed =>
          split at member
          · next plain =>
              exact added_allowed (listed_valid upper listed plain) (by simp) move member
          · cases member
  | plus command =>
      simp only [panelMoves] at member
      split at member
      · cases member
      · next listed =>
          split at member
          · next plain =>
              exact added_allowed (listed_valid upper listed plain) (by simp) move member
          · cases member
  | _ => cases member

theorem moves_allowed (dcdu : Dcdu) (event : DcduEvent) :
    ∀ move ∈ moves upper dcdu event, Allowed dcdu event move := by
  intro move member
  cases event with
  | respondCompose min intent =>
      simp only [moves] at member
      split at member
      · next shown =>
          rcases List.mem_cons.mp member with rfl | later
          · exact .answer rfl shown
          · exact List.mem_singleton.mp later ▸ .add (response_valid intent)
      · cases member
  | togglePanel =>
      simp only [moves] at member
      split at member
      · split at member
        · exact List.mem_singleton.mp member ▸ .discard
        · cases member
      · cases member
  | composing gesture =>
      simp only [moves] at member
      split at member
      · split at member
        · exact panel_allowed upper dcdu _ gesture move member
        · cases member
      · cases member
  | _ => cases member

def Sends (station : String) (before after : Dcdu) : Prop :=
  after.downlinks = before.downlinks ∨ ∃ message,
    (addressee message).map Prod.fst = some station ∧
      after.downlinks = before.downlinks ++ [message]

theorem submit_sends (now : DateTime) (station : String) (command : DownlinkCommand)
    (args : List CpdlcArgument) (dcdu : Dcdu) :
    Sends station dcdu (submitCommand now station command args dcdu) := by
  unfold submitCommand
  split
  · split
    · exact .inr ⟨_, rfl, rfl⟩
    · exact .inl rfl
  · exact .inr ⟨_, rfl, rfl⟩

theorem choose_sends (now : DateTime) (station : String) (command : DownlinkCommand)
    (definition : MessageDefinition) (dcdu : Dcdu) :
    Sends station dcdu (chooseCommand now station command definition dcdu) := by
  unfold chooseCommand
  split
  · exact .inr ⟨_, rfl, rfl⟩
  · split
    · exact .inr ⟨_, rfl, rfl⟩
    · exact .inl rfl

theorem panel_sends (station : String) (dcdu : Dcdu) (gesture : PanelGesture) :
    Sends station dcdu (panelStep upper station dcdu gesture) := by
  cases gesture with
  | sendAll now =>
      simp only [panelStep]
      split
      · exact .inr ⟨_, rfl, rfl⟩
      · exact .inl rfl
  | submit now =>
      simp only [panelStep]
      split
      · exact .inl rfl
      · split
        · exact .inl rfl
        · exact submit_sends now station _ _ dcdu
  | choose now command =>
      simp only [panelStep]
      split
      · exact .inl rfl
      · exact choose_sends now station command _ dcdu
  | typed idx value =>
      simp only [panelStep]
      split
      · exact .inl rfl
      · split <;> exact .inl rfl
  | plus command =>
      simp only [panelStep, addCommand]
      split
      · exact .inl rfl
      · split <;> exact .inl rfl
  | clear => simp only [panelStep]; split <;> exact .inl rfl
  | cancel => simp only [panelStep]; split <;> exact .inl rfl
  | search value => simp only [panelStep]; split <;> exact .inl rfl

def ToConnected (message : OpenLinkMessage) (dcdu : Dcdu) (_ : DcduEvent) : Prop :=
  ∃ station, connectionState dcdu.tab = .connected station ∧
    (addressee message).map Prod.fst = some station

theorem connected_party {tab : DcduTab} {station : String}
    (party : connectedStation tab = some station) :
    connectionState tab = .connected station := by
  unfold connectedStation at party
  split at party
  · next other connected =>
      rw [connected]
      unfold connectionState at connected
      unfold stationCallsign at party
      cases session : tab.session with
      | none => simp [session] at party
      | some view =>
          cases active : view.activeConnection <;> cases inactive : view.inactiveConnection <;>
            simp [session, active, inactive] at party connected <;> grind
  · cases party

theorem step_downlinks (dcdu : Dcdu) (event : DcduEvent) :
    (dcduStep upper dcdu event).downlinks = dcdu.downlinks ∨
      ∃ message, ToConnected message dcdu event ∧
        (dcduStep upper dcdu event).downlinks = dcdu.downlinks ++ [message] := by
  cases event with
  | composing gesture =>
      simp only [dcduStep]
      split
      · exact .inl rfl
      · next station party =>
          split
          · rcases panel_sends upper station dcdu gesture with same | ⟨message, addressed, grown⟩
            · exact .inl same
            · exact .inr ⟨message, ⟨station, connected_party party, addressed⟩, grown⟩
          · exact .inl rfl
  | received now envelope => simp only [dcduStep]; split <;> exact .inl rfl
  | automatic client row => cases row <;> exact .inl rfl
  | respond now min intent =>
      simp only [dcduStep]
      split
      · split <;> exact .inl rfl
      · exact .inl rfl
  | respondCompose min intent => simp only [dcduStep]; split <;> exact .inl rfl
  | typeLogon value =>
      simp only [dcduStep]
      split
      · split <;> exact .inl rfl
      · exact .inl rfl
  | logon now =>
      simp only [dcduStep]
      split
      · split <;> exact .inl rfl
      · exact .inl rfl
  | cancelLogon => simp only [dcduStep]; split <;> exact .inl rfl
  | togglePanel =>
      simp only [dcduStep]
      split
      · split <;> exact .inl rfl
      · exact .inl rfl
  | sessionUpdate session => exact .inl rfl

theorem downlinks_accounted (upper : Char → Text) (callsign acarsAddress : String)
    (client : OpenLinkClient) (events : List DcduEvent) :
    let start := Dcdu.new callsign acarsAddress client
    let after := exec (dcduStep upper) start events
    let added := collected (dcduStep upper) (moves upper) start events
    desk after = exec deskStep .empty added ∧
      (desk after).written.Sublist (additions added) ∧
      ∀ earlier message, earlier ++ [message] <+: after.downlinks → (contents message).1 ≠ [] ∧
        (∀ element ∈ (contents message).1, ValidDownlink element) ∧
        Seen (dcduStep upper) (fun dcdu event => ToConnected message dcdu event ∧
          dcdu.downlinks = earlier ∧
          (dcduStep upper dcdu event).downlinks = earlier ++ [message]) start events ∧
        ∀ mrn, (contents message).2 = some mrn → Seen (dcduStep upper) (fun dcdu event =>
          ∃ intent, event = .respondCompose mrn intent ∧
            hasCompose dcdu.tab.messages mrn intent = true) start events := by
  intro start after added
  have followed : desk after = exec deskStep .empty added :=
    exec_translated (dcduStep upper) deskStep desk (moves upper) (step_desk upper) start events
  -- whatever the desk is told, some step of the run had the right to tell it
  have allowed {move : DeskEvent} (member : move ∈ added) :
      Seen (dcduStep upper) (fun dcdu event => Allowed dcdu event move) start events := by
    obtain ⟨before, event, early, unit, yielded⟩ := collected_seen (dcduStep upper) member
    exact ⟨before, event, early, unit, moves_allowed upper _ event move yielded⟩
  refine ⟨followed, ?_, ?_⟩
  · rw [followed]
    exact written_sublist .empty added
  · intro earlier message part
    have listed : contents message ∈ (exec deskStep .empty added).sent := by
      rw [← followed]
      exact List.mem_map_of_mem (part.subset (by simp))
    refine ⟨sent_nonempty .empty (by simp [Desk.empty]) added _ listed, ?_, ?_, ?_⟩
    · intro element inside
      have written : element ∈ (exec deskStep .empty added).written :=
        List.mem_append_left _ (List.mem_flatMap.mpr ⟨_, listed, inside⟩)
      rcases written_added written with old | move
      · simp [Desk.written, Desk.empty] at old
      · obtain ⟨_, _, _, _, valid⟩ := allowed move
        cases valid with
        | add valid => exact valid
    · exact appended_there (dcduStep upper) Dcdu.downlinks ToConnected (step_downlinks upper) start
        rfl events part
    · intro mrn answers
      rcases run_answers (.inr ⟨_, listed, answers⟩) with old | move
      · simp [Desk.Answers, Desk.empty] at old
      · obtain ⟨before, event, early, unit, answered⟩ := allowed move
        refine ⟨before, event, early, unit, ?_⟩
        cases answered with
        | answer pressed shown => exact ⟨_, pressed, shown⟩

end Downlinks

/-! Every downlink can be sent. -/
section Composing
variable {upper : Char → Text}

def enteredText : CpdlcArgument → Text
  | .level level => decimal level.value.toNat
  | arg => Rendering.displayArgument arg

structure Enterable (arg : CpdlcArgument) : Prop where
  nonempty : enteredText arg ≠ []
  trimmed : trim (enteredText arg) = enteredText arg

theorem parse_entered {arg : CpdlcArgument} (enterable : Enterable arg) :
    parseArg arg.argType (enteredText arg) = some arg := by
  obtain ⟨nonempty, trimmed⟩ := enterable
  simp only [parseArg, parseArgWith, trimmed, if_neg nonempty, id]
  cases arg with
  | level level =>
      have parsed : parseDecimal 65535 (decimal level.value.toNat) = some level.value.toNat :=
        parse_decimal (Nat.le_of_lt_succ level.value.toNat_lt)
      simp only [CpdlcArgument.argType, enteredText, parsed, Option.map_some, UInt16.ofNat_toNat]
  | degrees degrees =>
      have parsed : parseDecimal 65535 (decimal degrees.toNat) = some degrees.toNat :=
        parse_decimal (Nat.le_of_lt_succ degrees.toNat_lt)
      simp only [CpdlcArgument.argType, enteredText, Rendering.displayArgument, parsed,
        Option.map_some, UInt16.ofNat_toNat]
  | _ text =>
      simp only [CpdlcArgument.argType, enteredText, Rendering.displayArgument,
        String.ofList_toList]

def enteredInputs (args : List CpdlcArgument) : List String :=
  args.map fun arg => String.ofList (enteredText arg)

theorem parse_inputs (before args : List CpdlcArgument) (enterable : ∀ arg ∈ args, Enterable arg) :
    parseArgs (enteredInputs (before ++ args)) before.length (args.map CpdlcArgument.argType) =
      some args := by
  induction args generalizing before with
  | nil => rfl
  | cons arg rest ih =>
      have later := ih (before ++ [arg]) fun other member =>
        enterable other (List.mem_cons_of_mem _ member)
      rw [List.append_assoc, List.singleton_append, List.length_append, List.length_singleton]
        at later
      have value : (enteredInputs (before ++ arg :: rest))[before.length]? =
          some (String.ofList (enteredText arg)) := by
        simp [enteredInputs]
      rw [List.map_cons, parseArgs, value]
      simp only [Option.bind_eq_bind, Option.bind_some, String.toList_ofList,
        parse_entered (enterable arg List.mem_cons_self), later]
      rfl

structure Downlink where
  element : MessageElement
  valid : ValidDownlink element
  enterable : ∀ arg ∈ element.args, Enterable arg

def Downlink.command (downlink : Downlink) : DownlinkCommand :=
  ⟨downlink.element.id, downlink.valid.imp fun _ known => ⟨known.1, known.2.1⟩⟩

def typedEvents : Nat → List String → List DcduEvent :=
  typings fun idx value => .composing (.typed idx value)

def addEvents (now : DateTime) (downlink : Downlink) : List DcduEvent :=
  [.composing .cancel, .composing (.search ""), .composing (.plus downlink.command)] ++
    typedEvents 0 (enteredInputs downlink.element.args) ++ [.composing (.submit now)]

def editing (dcdu : Dcdu) (pending : Option DownlinkCommand) (inputs : List String)
    (composition : Composition) : Dcdu :=
  { dcdu with
    pendingDownlinkCmd := pending
    cmdArgInputs := inputs
    cmdSearchQuery := ""
    composition := composition
    composeSendAfterParam := false }

structure Shown (station : String) (dcdu : Dcdu) : Prop where
  party : connectedStation dcdu.tab = some station
  panel : dcdu.pilotDownlinkOpen = true

variable {dcdu : Dcdu} {station : String}

theorem shown_step (shown : Shown station dcdu) (gesture : PanelGesture) :
    dcduStep upper dcdu (.composing gesture) = panelStep upper station dcdu gesture := by
  rw [dcduStep, shown.party]
  exact if_pos shown.panel

theorem editing_step (shown : Shown station dcdu) (pending : Option DownlinkCommand)
    (inputs : List String) (composition : Composition) (gesture : PanelGesture) :
    dcduStep upper (editing dcdu pending inputs composition) (.composing gesture) =
      panelStep upper station (editing dcdu pending inputs composition) gesture :=
  shown_step (⟨shown.party, shown.panel⟩ : Shown station (editing dcdu pending inputs composition))
    gesture

theorem pending_definition (dcdu : Dcdu) (downlink : Downlink) (inputs : List String)
    (composition : Composition) {definition : MessageDefinition}
    (known : findDefinition downlink.element.id = some definition) :
    pendingDefinition (editing dcdu (some downlink.command) inputs composition) =
      some (downlink.command, definition) := by
  simp only [pendingDefinition, editing, Option.bind_some, Downlink.command, known, Option.map_some]

variable (upper)

theorem typed_fields (shown : Shown station dcdu) (downlink : Downlink) (composition : Composition)
    (values : List String) (fields : downlink.element.args.length = values.length) :
    exec (dcduStep upper)
        (editing dcdu (some downlink.command) (List.replicate values.length "") composition)
        (typedEvents 0 values) =
      editing dcdu (some downlink.command) values composition := by
  obtain ⟨definition, known, _, types⟩ := downlink.valid
  have count : definition.args.length = values.length := by rw [← fields, ← types, List.length_map]
  refine typed_form _ (fun inputs => editing dcdu (some downlink.command) inputs composition)
    values.length ?_ [] values (Nat.zero_add _)
  intro idx value inputs inside
  rw [editing_step shown]
  simp only [panelStep, pending_definition dcdu downlink _ composition known]
  rw [if_pos (count ▸ inside)]
  rfl

/-- Whatever form is on the screen, the list of commands can be had in full. -/
theorem list_shown (shown : Shown station dcdu) : ∃ inputs,
    exec (dcduStep upper) dcdu [.composing .cancel, .composing (.search "")] =
      { dcdu with pendingDownlinkCmd := none, cmdArgInputs := inputs, cmdSearchQuery := "" } := by
  cases pending : dcdu.pendingDownlinkCmd with
  | none =>
      have idle : dcduStep upper dcdu (.composing .cancel) = dcdu := by
        rw [shown_step shown]
        simp [panelStep, pendingDefinition, pending]
      refine ⟨dcdu.cmdArgInputs, ?_⟩
      rw [exec_cons, idle, exec_cons, exec_nil, shown_step shown, ← pending]
      simp only [panelStep, pending, Option.isSome_none, Bool.false_eq_true, if_false]
      rfl
  | some command =>
      obtain ⟨definition, known, _⟩ := command.property
      have cancelled : dcduStep upper dcdu (.composing .cancel) =
          { dcdu with pendingDownlinkCmd := none, cmdArgInputs := [] } := by
        rw [shown_step shown]
        simp [panelStep, pendingDefinition, pending, known]
      refine ⟨[], ?_⟩
      rw [exec_cons, cancelled, exec_cons, exec_nil,
        shown_step (⟨shown.party, shown.panel⟩ :
          Shown station { dcdu with pendingDownlinkCmd := none, cmdArgInputs := [] })]
      simp only [panelStep, Option.isSome_none, Bool.false_eq_true, if_false]
      rfl

theorem command_added (shown : Shown station dcdu) (downlink : Downlink)
    {definition : MessageDefinition}
    (known : findDefinition downlink.element.id = some definition) (inputs : List String) :
    dcduStep upper { dcdu with
        pendingDownlinkCmd := none, cmdArgInputs := inputs, cmdSearchQuery := "" }
        (.composing (.plus downlink.command)) =
      if definition.args = [] then
        editing dcdu none inputs (dcdu.composition.pushed ⟨downlink.element.id, []⟩)
      else
        editing dcdu (some downlink.command) (List.replicate definition.args.length "")
          dcdu.composition.started := by
  rw [shown_step (⟨shown.party, shown.panel⟩ : Shown station { dcdu with
    pendingDownlinkCmd := none, cmdArgInputs := inputs, cmdSearchQuery := "" })]
  simp only [panelStep, listedDefinition, Downlink.command, known, Option.isSome_none,
    Bool.false_eq_true, if_false, Option.filter_some, true_or, decide_true, if_true, addCommand]
  rfl

theorem downlink_added (shown : Shown station dcdu) (now : DateTime) (downlink : Downlink) :
    ∃ inputs, exec (dcduStep upper) dcdu (addEvents now downlink) =
      editing dcdu none inputs (dcdu.composition.pushed downlink.element) := by
  obtain ⟨inputs, listed⟩ := list_shown upper shown
  obtain ⟨definition, known, _, types⟩ := downlink.valid
  have added := command_added upper shown downlink known inputs
  have events : addEvents now downlink = [.composing .cancel, .composing (.search "")] ++
      ([.composing (.plus downlink.command)] ++
        (typedEvents 0 (enteredInputs downlink.element.args) ++ [.composing (.submit now)])) := by
    simp [addEvents]
  rw [events, exec_append, listed, exec_append, exec_cons, exec_nil, added, exec_append]
  by_cases plain : definition.args = []
  · have bare : downlink.element.args = [] := List.map_eq_nil_iff.mp (types.trans plain)
    have whole : (⟨downlink.element.id, []⟩ : MessageElement) = downlink.element := by
      rw [← bare]
    refine ⟨inputs, ?_⟩
    rw [if_pos plain, bare, whole]
    exact editing_step shown none inputs _ (.submit now)
  · have typed := typed_fields upper shown downlink dcdu.composition.started
      (enteredInputs downlink.element.args) (by simp [enteredInputs])
    have count : definition.args.length = (enteredInputs downlink.element.args).length := by
      rw [← types, List.length_map, enteredInputs, List.length_map]
    have parsed := parse_inputs [] downlink.element.args downlink.enterable
    rw [List.nil_append, List.length_nil, types] at parsed
    refine ⟨[], ?_⟩
    rw [if_neg plain, count]
    rw [typed, exec_cons, exec_nil, editing_step shown]
    simp only [panelStep, pending_definition dcdu downlink _ _ known]
    simp only [editing, parsed, submitCommand, Composition.started, if_true, Bool.false_eq_true,
      if_false]
    rfl

theorem downlinks_added (shown : Shown station dcdu) (now : DateTime) (wanted : List Downlink) :
    let after := exec (dcduStep upper) dcdu (wanted.flatMap (addEvents now))
    Shown station after ∧ after.tab = dcdu.tab ∧ after.client = dcdu.client ∧
      after.downlinks = dcdu.downlinks ∧ after.composition.mrn = dcdu.composition.mrn ∧
      after.composition.elements = dcdu.composition.elements ++ wanted.map Downlink.element := by
  intro after
  induction wanted generalizing dcdu with
  | nil => exact ⟨shown, rfl, rfl, rfl, rfl, (List.append_nil _).symm⟩
  | cons first rest ih =>
      obtain ⟨inputs, added⟩ := downlink_added upper shown now first
      have later := ih (⟨shown.party, shown.panel⟩ :
        Shown station (editing dcdu none inputs (dcdu.composition.pushed first.element)))
      have whole : after = exec (dcduStep upper)
          (editing dcdu none inputs (dcdu.composition.pushed first.element))
          (rest.flatMap (addEvents now)) := by
        rw [← added, ← exec_append]
        rfl
      rw [whole]
      obtain ⟨shownAfter, sameTab, sameClient, unsent, sameMrn, composed⟩ := later
      refine ⟨shownAfter, sameTab, sameClient, unsent, sameMrn, composed.trans ?_⟩
      rw [List.map_cons]
      exact List.append_assoc _ _ _

theorem composition_sent (upper : Char → Text) (dcdu : Dcdu) (station : String)
    (shown : Shown station dcdu) (wanted : List Downlink) (some_wanted : wanted ≠ [])
    (now : DateTime) :
    let after := exec (dcduStep upper) dcdu
      (wanted.flatMap (addEvents now) ++ [.composing (.sendAll now)])
    after.composition.elements = [] ∧
      after.downlinks = dcdu.downlinks ++ [(dcdu.client.cpdlcAircraftApplication now
        dcdu.tab.callsign dcdu.tab.acarsAddress station
        (dcdu.composition.elements ++ wanted.map Downlink.element) dcdu.composition.mrn).1] := by
  intro after
  obtain ⟨still, sameTab, sameClient, unsent, sameMrn, composed⟩ :=
    downlinks_added upper shown now wanted
  have last : after = dcduStep upper _ (.composing (.sendAll now)) := exec_snoc _ _ _ _
  generalize exec (dcduStep upper) dcdu (wanted.flatMap (addEvents now)) = before at *
  have written : before.composition.elements ≠ [] := by
    rw [composed, Ne, List.append_eq_nil_iff, List.map_eq_nil_iff]
    exact fun nothing => some_wanted nothing.2
  have queue : before.composition.hasQueue = true := by
    by_contra nothing
    exact written (Composition.unqueued (by simpa using nothing)).1
  rw [last, shown_step still, panelStep, if_pos ⟨queue, written⟩]
  refine ⟨rfl, ?_⟩
  rw [← composed, ← sameMrn, ← sameTab, ← sameClient, ← unsent]
  rfl

end Composing

/-! A pilot who is unable to descend asks for another level because of the weather. -/
section Sample

def unable : Dcdu :=
  { Dcdu.new "AFR123" "39A1B2" aircraftClient with
    tab := handover
    pilotDownlinkOpen := true
    composition := (Composition.empty.answering 1).pushed ⟨"DM1", []⟩ }

def climbRequest : Downlink where
  element := ⟨"DM9", [.level ⟨370⟩]⟩
  valid := ⟨_, rfl, rfl, rfl⟩
  enterable := by
    intro arg member
    obtain rfl := List.mem_singleton.mp member
    exact ⟨by decide, by decide⟩

def dueWeather : Downlink where
  element := ⟨"DM65", []⟩
  valid := ⟨_, rfl, rfl, rfl⟩
  enterable := by simp

theorem weather_sent :
    let after := exec (dcduStep CommandElements.asciiCase) unable
      ([climbRequest, dueWeather].flatMap (addEvents 7) ++ [.composing (.sendAll 7)])
    after.composition.elements = [] ∧
      after.downlinks = [] ++ [(aircraftClient.cpdlcAircraftApplication 7 "AFR123" "39A1B2" "LFPG"
        ([⟨"DM1", []⟩] ++ [⟨"DM9", [.level ⟨370⟩]⟩, ⟨"DM65", []⟩]) (some 1)).1] :=
  composition_sent CommandElements.asciiCase unable "LFPG" ⟨by decide, rfl⟩
    [climbRequest, dueWeather] (by simp) 7

end Sample

end OpenLink.DownlinkComposer
