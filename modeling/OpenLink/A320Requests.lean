import OpenLink.A320View

/-!
Runs of the Airbus view of the GUI. The display never leaves the latest message, so that a message
is answered while it is the latest one or not at all; what is requested has been entered on the
pages of the unit, and is valid but for one entry, which lacks an argument.
-/
namespace OpenLink.A320Requests
open A320View Cpdlc CpdlcRuntime DcduResponses DialogueLinks Envelope GuiMessages MessageRegistry
  OfferedIntents PilotDisplay ResponseMarks Runs SdkClient Texts UplinkComposer

/-! The display never turns. -/
section Display
variable {view : A320State}

/-- No key gets the display off the latest message, and none names a center to log on to. -/
structure Resting (view : A320State) : Prop where
  latest : view.viewIndex = -1
  still : view.turning = []
  nameless : view.atcCenter = ""
  silent : view.logons = []

theorem current_last (resting : Resting view) :
    current view = (rootVisibleMessages view.tab.messages).getLast? := by
  simp only [current, effectiveIdx, resting.latest]
  cases visible : rootVisibleMessages view.tab.messages with
  | nil => rfl
  | cons first rest =>
      simp [List.getLast?_eq_getElem?]

def Offered (view : A320State) (min : UInt8) : Prop :=
  ∃ row, (rootVisibleMessages view.tab.messages).getLast? = some row ∧ row.isOutgoing = false ∧
    row.responded = false ∧ row.min = some min

theorem open_offered (resting : Resting view) {min : UInt8}
    (found : currentOpenMin view = some min) : Offered view min := by
  obtain ⟨row, shown, numbered⟩ := Option.bind_eq_some_iff.mp found
  split at numbered
  · next unanswered =>
      simp only [Bool.and_eq_true, Bool.not_eq_true'] at unanswered
      exact ⟨row, current_last resting ▸ shown, unanswered.1, unanswered.2, numbered⟩
  · cases numbered

theorem response_offered (resting : Resting view) {min : UInt8} (shown : showResponses view = true)
    (found : currentMin view = some min) : Offered view min := by
  obtain ⟨row, drawn, numbered⟩ := Option.bind_eq_some_iff.mp found
  simp only [showResponses, drawn, Option.any_some, Bool.and_eq_true, Bool.not_eq_true'] at shown
  exact ⟨row, current_last resting ▸ drawn, shown.1.1.1, shown.1.1.2, numbered⟩

end Display

/-! What an event does to the messages and requests. -/
section Effects

structure Core where
  rows : List ReceivedMessage
  pending : List MessageElement
  draft : List MessageElement
  mrn : Option UInt8
  responses : List OpenLinkMessage
  requests : List OpenLinkMessage

def core (view : A320State) : Core :=
  ⟨view.tab.messages, view.pendingElements, view.draftElements, view.draftMrn, view.responses,
    view.requests⟩

def entered (upper : Char → Text) (view : A320State) : A320Event → List MessageElement
  | .press _ (.entry idx) => (entryElement upper view idx).toList
  | _ => []

inductive Effect (upper : Char → Text) (view : A320State) (event : A320Event) : Core → Prop where
  | idle : Effect upper view event (core view)
  | row {row : ReceivedMessage} (fresh : row.responded = false) :
      Effect upper view event { core view with rows := (core view).rows ++ [row] }
  | response (now : DateTime) {intent : CpdlcResponseIntent} {min : UInt8}
      {message : OpenLinkMessage} (offered : Offered view min)
      (told : contents message = ([⟨intent.downlinkId, []⟩], some min)) :
      Effect upper view event
        { core view with
          rows :=
            let pushed := (core view).rows ++
              [outgoingMessage now intent.label none none (some min)]
            if intent != .standby then markResponded min pushed else pushed
          responses := (core view).responses ++ [message] }
  | request (row : ReceivedMessage) {message : OpenLinkMessage} (fresh : row.responded = false)
      (drafted : (core view).draft ≠ [])
      (told : contents message = ((core view).draft, (core view).mrn)) :
      Effect upper view event
        { core view with
          rows := markDialogueResponded (core view).mrn (core view).draft
            ((core view).rows ++ [row])
          draft := []
          mrn := none
          requests := (core view).requests ++ [message] }
  | transfer :
      Effect upper view event
        { core view with pending := [], draft := (core view).pending, mrn := currentOpenMin view }
  | add {element : MessageElement} {kept : List MessageElement}
      (made : entered upper view event = [element]) (sublist : kept.Sublist (core view).pending) :
      Effect upper view event { core view with pending := kept ++ [element] }
  | erase : Effect upper view event { core view with pending := [] }

variable {upper : Char → Text} {view : A320State}

theorem respond_effect (resting : Resting view) (now : DateTime) (event : A320Event)
    (intent : Option CpdlcResponseIntent) (shown : intent.isSome → showResponses view = true) :
    Resting (respond now view intent) ∧
      Effect upper view event (core (respond now view intent)) := by
  unfold respond
  split
  · next response station min party numbered =>
      exact ⟨⟨resting.latest, resting.still, resting.nameless, resting.silent⟩,
        .response now (response_offered resting (shown rfl) numbered) rfl⟩
  · exact ⟨resting, .idle⟩

theorem grid_shown (place : ResponseGrid → Option CpdlcResponseIntent)
    (nowhere : place ⟨none, none, none, none⟩ = none)
    (placed : (place (responseGrid view)).isSome) : showResponses view = true := by
  unfold responseGrid at placed
  split at placed
  · next shown => exact shown
  · rw [nowhere] at placed
    cases placed

theorem draft_effect (resting : Resting view) (drafted : view.draftElements ≠ []) (now : DateTime)
    (event : A320Event) :
    Resting (sendDraft now view) ∧ Effect upper view event (core (sendDraft now view)) := by
  unfold sendDraft
  split
  · exact ⟨resting, .idle⟩
  · next station party =>
      exact ⟨⟨resting.latest, resting.still, resting.nameless, resting.silent⟩,
        .request (outgoingMessage now (elementsText view.draftElements) none none view.draftMrn)
          rfl drafted rfl⟩

theorem kept_pending (view : A320State) (element : MessageElement) :
    (if element.id = "DM67" ∨ element.args = [] then view.pendingElements
      else view.pendingElements.filter (·.id != element.id)).Sublist view.pendingElements := by
  split
  · exact List.Sublist.refl _
  · exact List.filter_sublist

theorem press_effect (resting : Resting view) (now : DateTime) (key : A320Key) :
    Resting (pressKey upper now view key) ∧
      Effect upper view (.press now key) (core (pressKey upper now view key)) := by
  have dark : ¬ 0 < view.viewIndex := by rw [resting.latest]; decide
  cases key with
  | topLeft =>
      exact respond_effect resting now _ _ (grid_shown ResponseGrid.topLeft rfl)
  | topRight =>
      exact respond_effect resting now _ _ (grid_shown ResponseGrid.topRight rfl)
  | botLeft =>
      exact respond_effect resting now _ _ (grid_shown ResponseGrid.botLeft rfl)
  | botRight =>
      simp only [pressKey]
      split
      · exact respond_effect resting now _ _ (grid_shown ResponseGrid.botRight rfl)
      · next drafted => exact draft_effect resting (by simpa using drafted) now _
  | msgPrev =>
      simp only [pressKey, dark, and_false, if_false]
      exact ⟨resting, .idle⟩
  | msgNext =>
      -- beyond the latest message there is nothing to turn to
      have beyond : ¬ effectiveIdx view <
          ((rootVisibleMessages view.tab.messages).length : Int) - 1 := by
        simp only [effectiveIdx, resting.latest]
        cases rootVisibleMessages view.tab.messages with
        | nil => simp
        | cons first rest => simp
      simp only [pressKey, beyond, false_and, if_false]
      exact ⟨resting, .idle⟩
  | menu page =>
      simp only [pressKey]
      split
      · exact ⟨⟨resting.latest, resting.still, resting.nameless, resting.silent⟩, .idle⟩
      · exact ⟨resting, .idle⟩
  | back => exact ⟨⟨resting.latest, resting.still, resting.nameless, resting.silent⟩, .idle⟩
  | notify =>
      have unnamed : notify now view = view := by
        rw [notify, resting.nameless]
        exact if_pos (by decide)
      simp only [pressKey, unnamed, ite_self]
      exact ⟨resting, .idle⟩
  | entry idx =>
      simp only [pressKey]
      split
      · exact ⟨resting, .idle⟩
      · next element made =>
          exact ⟨⟨resting.latest, resting.still, resting.nameless, resting.silent⟩,
            .add (by simp [entered, made]) (kept_pending view element)⟩
  | erase =>
      simp only [pressKey]
      split
      · exact ⟨resting, .idle⟩
      · exact ⟨⟨resting.latest, resting.still, resting.nameless, resting.silent⟩, .erase⟩
  | transfer =>
      simp only [pressKey, transfer]
      split
      · exact ⟨resting, .idle⟩
      · exact ⟨⟨resting.latest, resting.still, resting.nameless, resting.silent⟩, .transfer⟩

variable (upper) in
theorem step_effect (resting : Resting view) (event : A320Event) :
    Resting (a320Step upper view event) ∧
      Effect upper view event (core (a320Step upper view event)) := by
  cases event with
  | press now key => exact press_effect resting now key
  | turned idx =>
      simp only [a320Step, resting.still, List.getElem?_nil]
      exact ⟨resting, .idle⟩
  | received now envelope =>
      simp only [a320Step]
      split
      · exact ⟨resting, .idle⟩
      · next arrived =>
          exact ⟨⟨resting.latest, resting.still, resting.nameless, resting.silent⟩,
            .row (received_fresh arrived)⟩
  | automatic client row =>
      cases row with
      | none => exact ⟨⟨resting.latest, resting.still, resting.nameless, resting.silent⟩, .idle⟩
      | some row =>
          exact ⟨⟨resting.latest, resting.still, resting.nameless, resting.silent⟩, .row rfl⟩
  | typed value => exact ⟨⟨resting.latest, resting.still, resting.nameless, resting.silent⟩, .idle⟩
  | sessionUpdate session =>
      exact ⟨⟨resting.latest, resting.still, resting.nameless, resting.silent⟩, .idle⟩

theorem new_resting (tab : DcduTab) (client : OpenLinkClient) : Resting (.new tab client) :=
  ⟨rfl, rfl, rfl, rfl⟩

theorem run_resting (upper : Char → Text) (tab : DcduTab) (client : OpenLinkClient)
    (events : List A320Event) :
    Resting (exec (a320Step upper) (.new tab client) events) :=
  run_invariant (a320Step upper) Resting (fun _ event resting => (step_effect _ resting event).1) _
    (new_resting tab client) events

end Effects

/-! Answers to the latest message only. -/
section Answers

theorem effect_mrn {upper : Char → Text} {view : A320State} {event : A320Event} {after : Core}
    (resting : Resting view) (effect : Effect upper view event after) {min : UInt8}
    (drafted : after.mrn = some min) : view.draftMrn = some min ∨ Offered view min := by
  cases effect with
  | transfer => exact .inr (open_offered resting drafted)
  | request _ _ _ _ => cases drafted
  | _ => exact .inl drafted

variable (upper : Char → Text) (tab : DcduTab) (client : OpenLinkClient)

/-- A draft answers a message that was the latest one when it was transferred. -/
theorem draft_offered {min : UInt8} (events : List A320Event)
    (drafted : (exec (a320Step upper) (.new tab client) events).draftMrn = some min) :
    Seen (a320Step upper) (fun view _ => Offered view min) (.new tab client) events := by
  induction events using List.reverseRecOn with
  | nil => cases drafted
  | append_singleton before event ih =>
      rw [exec_snoc] at drafted
      have resting := run_resting upper tab client before
      rcases effect_mrn resting (step_effect _ resting event).2 drafted with earlier | now
      · exact seen_extend [event] (ih earlier)
      · exact seen_last now

theorem effect_answers {upper : Char → Text} {view : A320State} {event : A320Event} {after : Core}
    (effect : Effect upper view event after) {message : OpenLinkMessage}
    (sent : message ∈ after.responses ++ after.requests) {min : UInt8}
    (answers : (contents message).2 = some min) :
    message ∈ view.responses ++ view.requests ∨ Offered view min ∨ view.draftMrn = some min := by
  cases effect with
  | response _ offered told =>
      rcases List.mem_append.mp sent with response | request
      · rcases List.mem_append.mp response with old | new
        · exact .inl (List.mem_append_left _ old)
        · obtain rfl := List.mem_singleton.mp new
          obtain rfl := Option.some.inj ((congrArg Prod.snd told).symm.trans answers)
          exact .inr (.inl offered)
      · exact .inl (List.mem_append_right _ request)
  | request _ _ _ told =>
      rcases List.mem_append.mp sent with response | request
      · exact .inl (List.mem_append_left _ response)
      · rcases List.mem_append.mp request with old | new
        · exact .inl (List.mem_append_right _ old)
        · obtain rfl := List.mem_singleton.mp new
          exact .inr (.inr ((congrArg Prod.snd told).symm.trans answers))
  | _ => exact .inl sent

theorem answer_offered {message : OpenLinkMessage} (events : List A320Event)
    (sent : message ∈ (exec (a320Step upper) (.new tab client) events).responses ++
      (exec (a320Step upper) (.new tab client) events).requests) {min : UInt8}
    (answers : (contents message).2 = some min) :
    Seen (a320Step upper) (fun view _ => Offered view min) (.new tab client) events := by
  induction events using List.reverseRecOn with
  | nil => simp [A320State.new] at sent
  | append_singleton before event ih =>
      rw [exec_snoc] at sent
      have resting := run_resting upper tab client before
      rcases effect_answers (step_effect _ resting event).2 sent answers with old | now | drafted
      · exact seen_extend [event] (ih old)
      · exact seen_last now
      · exact seen_extend [event] (draft_offered upper tab client before drafted)

theorem latest_answered (upper : Char → Text) (tab : DcduTab) (client : OpenLinkClient)
    (events : List A320Event) :
    let start := A320State.new tab client
    let after := exec (a320Step upper) start events
    current after = (rootVisibleMessages after.tab.messages).getLast? ∧ after.logons = [] ∧
      ∀ message ∈ after.responses ++ after.requests, ∀ min, (contents message).2 = some min →
        Seen (a320Step upper) (fun view _ => Offered view min) start events := by
  intro start after
  have resting : Resting after := run_resting upper tab client events
  exact ⟨current_last resting, resting.silent, fun message sent min answers =>
    answer_offered upper tab client events sent answers⟩

end Answers

/-! A message that another one has followed. -/
section Displaced

def unmarked (row : ReceivedMessage) : ReceivedMessage := { row with responded := false }

theorem mark_unmarked (min : UInt8) (rows : List ReceivedMessage) :
    (markResponded min rows).map unmarked = rows.map unmarked := by
  induction rows with
  | nil => rfl
  | cons row rest ih =>
      rw [markResponded]
      split
      · rfl
      · rw [List.map_cons, List.map_cons, ih]

theorem dialogue_unmarked (mrn : Option UInt8) (elements : List MessageElement)
    (rows : List ReceivedMessage) :
    (markDialogueResponded mrn elements rows).map unmarked = rows.map unmarked := by
  unfold markDialogueResponded
  split
  · rfl
  · split
    · exact mark_unmarked _ rows
    · rfl

theorem effect_rows {upper : Char → Text} {view : A320State} {event : A320Event} {after : Core}
    (effect : Effect upper view event after) :
    view.tab.messages.map unmarked <+: after.rows.map unmarked := by
  have added (row : ReceivedMessage) :
      view.tab.messages.map unmarked <+: (view.tab.messages ++ [row]).map unmarked := by
    rw [List.map_append]
    exact List.prefix_append _ _
  cases effect with
  | row fresh => exact added _
  | response _ offered told =>
      dsimp only [core]
      split
      · rw [mark_unmarked]
        exact added _
      · exact added _
  | request _ fresh drafted told =>
      dsimp only [core]
      rw [dialogue_unmarked]
      exact added _
  | _ => exact List.prefix_refl _

theorem run_rows (upper : Char → Text) {view : A320State} (resting : Resting view)
    (events : List A320Event) : view.tab.messages.map unmarked <+:
      (exec (a320Step upper) view events).tab.messages.map unmarked := by
  induction events generalizing view with
  | nil => exact List.prefix_refl _
  | cons event rest ih =>
      obtain ⟨still, effect⟩ := step_effect upper resting event
      exact (effect_rows effect).trans (ih still)

/-- A row that answers nothing is shown unless a later one is. -/
theorem latest_behind {rows : List ReceivedMessage} {idx : Nat} {row : ReceivedMessage}
    (here : rows[idx]? = some row) (unreferring : row.mrn = none) :
    ∃ shown ∈ rows.drop idx, (rootVisibleMessages rows).getLast? = some shown := by
  obtain ⟨visible, whole, apparent⟩ : ∃ visible : ReceivedMessage → Bool,
      rootVisibleMessages rows = rows.filter visible ∧ visible row = true :=
    ⟨_, rfl, by simp [unreferring]⟩
  have inside : row ∈ (rows.drop idx).filter visible := by
    refine List.mem_filter.mpr ⟨?_, apparent⟩
    exact List.mem_of_getElem? (i := 0) (by rw [List.getElem?_drop, Nat.add_zero, here])
  have split : rootVisibleMessages rows =
      (rows.take idx).filter visible ++ (rows.drop idx).filter visible := by
    rw [whole, ← List.filter_append, List.take_append_drop]
  cases last : ((rows.drop idx).filter visible).getLast? with
  | none => simp [List.getLast?_eq_none_iff.mp last] at inside
  | some shown =>
      refine ⟨shown, (List.mem_filter.mp (List.mem_of_getLast? last)).1, ?_⟩
      rw [split, List.getLast?_append, last, Option.some_or]

theorem displaced_hidden (upper : Char → Text) (tab : DcduTab) (client : OpenLinkClient)
    (before after : List A320Event) (idx : Nat) (row : ReceivedMessage)
    (here : (exec (a320Step upper) (.new tab client) before).tab.messages[idx]? = some row)
    (unreferring : row.mrn = none) :
    let later := exec (a320Step upper) (A320State.new tab client) (before ++ after)
    ∃ shown ∈ later.tab.messages.drop idx, current later = some shown := by
  intro later
  have resting : Resting later := run_resting upper tab client (before ++ after)
  have kept : (exec (a320Step upper) (.new tab client) before).tab.messages.map unmarked <+:
      later.tab.messages.map unmarked := by
    have grown := run_rows upper (run_resting upper tab client before) after
    rwa [← exec_append] at grown
  have marked : (later.tab.messages.map unmarked)[idx]? = some (unmarked row) := by
    obtain ⟨rest, same⟩ := kept
    have within : idx < ((exec (a320Step upper) (.new tab client) before).tab.messages.map
        unmarked).length := by
      rw [List.length_map]
      exact (List.getElem?_eq_some_iff.mp here).1
    rw [← same, List.getElem?_append_left within, List.getElem?_map, here, Option.map_some]
  rw [List.getElem?_map, Option.map_eq_some_iff] at marked
  obtain ⟨still, found, same⟩ := marked
  have refers : still.mrn = none := (congrArg ReceivedMessage.mrn same).trans unreferring
  obtain ⟨shown, behind, last⟩ := latest_behind found refers
  exact ⟨shown, behind, (current_last resting).trans last⟩

theorem second_shown :
    let later := exec (a320Step CommandElements.asciiCase) (A320State.new handover aircraftClient)
      ([] ++ [.press 1 .topRight, .press 2 .msgPrev, .press 3 .botRight])
    ∃ shown ∈ later.tab.messages.drop 1, current later = some shown :=
  displaced_hidden CommandElements.asciiCase handover aircraftClient []
    [.press 1 .topRight, .press 2 .msgPrev, .press 3 .botRight] 1 (uplinkFrom "LFFF") rfl rfl

end Displaced

/-! What is requested. -/
section Requests

/-- Every entry names a downlink, with the argument declared but for the weather deviation, which
has no field for its direction. -/
theorem entries_declared : ∀ page, ∀ entry ∈ entries page,
    ∃ definition, findDefinition entry.1 = some definition ∧ definition.direction = .downlink ∧
      (definition.args = entry.2.toList ↔ entry.1 ≠ "DM27") := by
  intro page entry member
  cases page <;> simp only [entries, List.mem_cons, List.not_mem_nil, or_false] at member
  all_goals
    rcases member with rfl | rfl | rfl | rfl | rfl | rfl <;>
      exact ⟨_, rfl, rfl, by decide⟩

theorem valid_types {element : MessageElement} {definition : MessageDefinition}
    (known : findDefinition element.id = some definition)
    (down : definition.direction = .downlink) :
    ValidDownlink element ↔ element.args.map CpdlcArgument.argType = definition.args := by
  constructor
  · rintro ⟨other, found, _, types⟩
    rwa [Option.some.inj (known.symm.trans found)]
  · exact fun types => ⟨definition, known, down, types⟩

theorem entered_valid {upper : Char → Text} {view : A320State} {event : A320Event}
    {element : MessageElement} (made : element ∈ entered upper view event) :
    ValidDownlink element ↔ element.id ≠ "DM27" := by
  unfold entered at made
  split at made
  · obtain ⟨entry, listed, built⟩ := Option.bind_eq_some_iff.mp (Option.mem_toList.mp made)
    obtain ⟨definition, known, down, fits⟩ :=
      entries_declared view.page entry (List.mem_of_getElem? listed)
    have typed : element.id = entry.1 ∧
        element.args.map CpdlcArgument.argType = entry.2.toList := by
      split at built
      · next argType wanted =>
          obtain ⟨parsed, read, rfl⟩ := Option.map_eq_some_iff.mp built
          rw [wanted]
          exact ⟨rfl, congrArg (fun other => [other]) (parsed_type read)⟩
      · next wanted =>
          cases built
          rw [wanted]
          exact ⟨rfl, rfl⟩
    rw [valid_types (typed.1 ▸ known) down, typed.1, typed.2, ← fits]
    exact eq_comm
  · cases made

def written (core : Core) : List MessageElement :=
  core.requests.flatMap (fun message => (contents message).1) ++ (core.draft ++ core.pending)

theorem effect_written {upper : Char → Text} {view : A320State} {event : A320Event} {after : Core}
    (effect : Effect upper view event after) :
    (written after).Sublist (written (core view) ++ entered upper view event) := by
  cases effect with
  | transfer =>
      refine List.Sublist.trans ?_ (List.sublist_append_left _ _)
      exact List.Sublist.append (List.Sublist.refl _) (by simp [core])
  | request _ _ _ told =>
      refine List.Sublist.trans ?_ (List.sublist_append_left _ _)
      simp [written, told, core]
  | add made sublist =>
      simp only [made, written, ← List.append_assoc]
      exact ((List.Sublist.refl _).append sublist).append (List.Sublist.refl _)
  | erase =>
      refine List.Sublist.trans ?_ (List.sublist_append_left _ _)
      simp [written]
  | _ => exact List.sublist_append_left _ _

theorem effect_requests {upper : Char → Text} {view : A320State} {event : A320Event} {after : Core}
    (effect : Effect upper view event after)
    (nonempty : ∀ message ∈ view.requests, (contents message).1 ≠ []) :
    ∀ message ∈ after.requests, (contents message).1 ≠ [] := by
  cases effect with
  | request _ fresh drafted told =>
      intro message member
      rcases List.mem_append.mp member with old | new
      · exact nonempty message old
      · rw [List.mem_singleton.mp new, told]
        exact drafted
  | _ => exact nonempty

theorem requests_entered (upper : Char → Text) (tab : DcduTab) (client : OpenLinkClient)
    (events : List A320Event) :
    let start := A320State.new tab client
    let after := exec (a320Step upper) start events
    (written (core after)).Sublist (collected (a320Step upper) (entered upper) start events) ∧
      ∀ message ∈ after.requests, (contents message).1 ≠ [] ∧
        ∀ element ∈ (contents message).1, (ValidDownlink element ↔ element.id ≠ "DM27") := by
  intro start after
  have listed : (written (core after)).Sublist
      (collected (a320Step upper) (entered upper) start events) :=
    collected_sublist (a320Step upper) (entered upper) (fun view => written (core view)) Resting
      (fun _ event resting => (step_effect _ resting event).1)
      (fun _ event resting => effect_written (step_effect _ resting event).2) start
      (new_resting tab client) events
  have nonempty := (run_invariant (a320Step upper) (fun view => Resting view ∧
      ∀ message ∈ view.requests, (contents message).1 ≠ [])
    (fun _ event holds => ⟨(step_effect _ holds.1 event).1,
      effect_requests (step_effect upper holds.1 event).2 holds.2⟩) start
    ⟨new_resting tab client, by simp [start, A320State.new]⟩ events).2
  refine ⟨listed, fun message sent => ⟨nonempty message sent, fun element inside => ?_⟩⟩
  have member := listed.subset
    (List.mem_append_left _ (List.mem_flatMap.mpr ⟨message, sent, inside⟩))
  obtain ⟨_, _, _, _, made⟩ := collected_seen (a320Step upper) member
  exact entered_valid made

end Requests

/-! The marks of this view. -/
section Marks

def RowsTrue (core : Core) : Prop := Truthful (core.responses ++ core.requests) core.rows

theorem effect_true {upper : Char → Text} {view : A320State} {event : A320Event} {after : Core}
    (effect : Effect upper view event after) (rowsTrue : RowsTrue (core view)) :
    RowsTrue after := by
  cases effect with
  | row fresh => exact truthful_row rowsTrue fresh
  | response _ offered told =>
      refine response_truthful rowsTrue ?_ (by simp) told _
      exact List.append_subset.mpr ⟨by simp, by simp⟩
  | @request row message fresh drafted told =>
      have grown : Truthful ((core view).responses ++ ((core view).requests ++ [message]))
          ((core view).rows ++ [row]) := by
        refine truthful_row (truthful_sent rowsTrue ?_) fresh
        rw [← List.append_assoc]
        exact List.subset_append_left _ _
      have marked := truthful_dialogue grown (by simp : message ∈ _) rfl
      rw [told] at marked
      exact marked
  | _ => exact rowsTrue

theorem view_marks (upper : Char → Text) (tab : DcduTab) (client : OpenLinkClient)
    (fresh : ∀ row ∈ tab.messages, row.responded = false) (events : List A320Event) :
    let after := exec (a320Step upper) (A320State.new tab client) events
    Truthful (after.responses ++ after.requests) after.tab.messages := by
  have start : RowsTrue (core (A320State.new tab client)) := by
    intro row member marked
    rw [fresh row member] at marked
    cases marked
  exact (run_invariant (a320Step upper) (fun view => Resting view ∧ RowsTrue (core view))
    (fun _ event holds => ⟨(step_effect _ holds.1 event).1,
      effect_true (step_effect upper holds.1 event).2 holds.2⟩) _
    ⟨new_resting tab client, start⟩ events).2

theorem handover_marks :
    let after := exec (a320Step CommandElements.asciiCase) (A320State.new handover aircraftClient)
      [.press 1 .topRight, .press 2 .botRight]
    Truthful (after.responses ++ after.requests) after.tab.messages :=
  view_marks CommandElements.asciiCase handover aircraftClient
    (by simp [handover, uplinkFrom]) [.press 1 .topRight, .press 2 .botRight]

end Marks

end OpenLink.A320Requests
