import OpenLink.DialogueHistory

/-!
What the queue of pending requests shows of a history: when the request that has just
come in is listed, and when the buttons of a card answer what the card displays.
-/
namespace OpenLink.RequestCards
open Cpdlc CpdlcRuntime DialogueHistory GuiMessages PendingDialogues

/-! What the latest message of a dialogue says about it. -/
section Latest

theorem numbered_cases {message : ReceivedMessage} {key : DialogueKey}
    (numbered : numberedAs message = some key) :
    message.min = some key.2 ∧ dialogueCallsign message = some key.1 := by
  unfold numberedAs at numbered
  split at numbered
  · split at numbered
    · next min callsign hasMin hasCallsign =>
        obtain rfl := Option.some.inj numbered
        exact ⟨hasMin, hasCallsign⟩
    · cases numbered
  · cases numbered

theorem latest_callsign {key : DialogueKey} {past : List ReceivedMessage}
    {latest : ReceivedMessage} (found : latestIn key past = some latest) :
    dialogueCallsign latest = some key.1 ∧ ∃ min, latest.min = some min := by
  induction past with
  | nil => cases found
  | cons message older ih =>
      unfold latestIn at found
      split at found
      · next here =>
          obtain rfl := Option.some.inj found
          obtain ⟨own, numbered, rfl⟩ := Option.map_eq_some_iff.mp here
          obtain ⟨hasMin, hasCallsign⟩ := numbered_cases numbered
          exact ⟨hasCallsign, own.2, hasMin⟩
      · exact ih found

theorem found_by_min {messages : List ReceivedMessage} {min : UInt8} {callsign : String}
    {source : ReceivedMessage}
    (found : findDialogueMessageByMin messages min callsign = some source) :
    source ∈ messages ∧ source.min = some min ∧ dialogueCallsign source = some callsign := by
  have named := List.find?_some found
  simp only [Bool.and_eq_true, beq_iff_eq] at named
  exact ⟨List.mem_of_find?_eq_some found, named.1.1.1, named.2⟩

theorem standby_not_closing {message : ReceivedMessage} (standby : isStandbyMessage message = true) :
    isClosingResponseMessage message = false := by
  unfold isStandbyMessage at standby
  unfold isClosingResponseMessage
  cases own : message.envelope with
  | none =>
      rw [own] at standby
      obtain ⟨text, shown, same⟩ := (Option.any_eq_true _ _).mp standby
      simp [localShortResponseIntent, shown, beq_iff_eq.mp same]
  | some envelope =>
      rw [own] at standby
      obtain ⟨app, content, deferring⟩ := (Option.any_eq_true _ _).mp standby
      simp only [content, Option.any_some, closesDialogueResponseElements, deferring]
      simp

theorem standby_not_recent {message : ReceivedMessage} (now : DateTime)
    (standby : isStandbyMessage message = true) : isRecentClosureMessage now message = false := by
  simp [isRecentClosureMessage, standby_not_closing standby]

end Latest

/-! The request that has just come in. -/
section Listing
variable (now : DateTime)

structure IsRequest (callsign : String) (min : UInt8) (message : ReceivedMessage) : Prop where
  incoming : message.isOutgoing = false
  sender : message.fromCallsign = some callsign
  numbered : message.min = some min
  begins : message.mrn = none
  noAck : isLogicalAck message = false
  noLogon : isLogonLine message = false
  noClosing : isClosingResponseMessage message = false
  noStandby : isStandbyMessage message = false

def shownText (message : ReceivedMessage) : String := message.displayText.getD "Unknown request"

def Listed (messages : List ReceivedMessage) (callsign : String) (min : UInt8) (text : String) :
    Prop :=
  ∃ card ∈ buildPendingDialogues now messages,
    card.aircraftCallsign = callsign ∧ card.actionMin = some min ∧ card.displayText = text

/-- The latest message of a dialogue is a request with this MIN and text, or it defers or
closes one, which its MRN finds. -/
def ShowsRequest (messages : List ReceivedMessage) (callsign : String) (min : UInt8)
    (text : String) (latest : ReceivedMessage) : Prop :=
  if isStandbyMessage latest || isRecentClosureMessage now latest then
    latest.mrn = some min ∧ ∃ source, findDialogueMessageByMin messages min callsign = some source ∧
      source.displayText.getD (shownText latest) = text
  else latest.isOutgoing = false ∧ latest.min = some min ∧ shownText latest = text

theorem card_shows (messages : List ReceivedMessage) (callsign other : String) (min : UInt8)
    (text : String) (latest : ReceivedMessage) (party : dialogueCallsign latest = some other) :
    let card := dialogueCard now messages latest
    (card.aircraftCallsign = callsign ∧ card.actionMin = some min ∧ card.displayText = text) ↔
      other = callsign ∧ ShowsRequest now messages callsign min text latest := by
  intro card
  have fromSource : (!latest.isOutgoing && isStandbyMessage latest ||
      latest.isOutgoing && isStandbyMessage latest || isRecentClosureMessage now latest) =
      (isStandbyMessage latest || isRecentClosureMessage now latest) := by
    cases latest.isOutgoing <;> simp
  simp only [card, dialogueCard, party, Option.getD_some, fromSource, actionSource, ShowsRequest]
  by_cases deferred : (isStandbyMessage latest || isRecentClosureMessage now latest) = true
  -- the card shows the message that a standby or a recent closure refers to, and not the latest one
  · simp only [deferred, if_true]
    cases referred : latest.mrn with
    | none => simp
    | some mrn =>
        simp only [Option.bind_some]
        cases found : findDialogueMessageByMin messages mrn other with
        | none =>
            simp only [Option.bind_none, reduceCtorEq, false_and, and_false, false_iff]
            rintro ⟨rfl, same, source, other, _⟩
            rw [Option.some.inj same, other] at found
            cases found
        | some source =>
            obtain ⟨_, numbered, aircraft⟩ := found_by_min found
            simp only [Option.bind_some, aircraft, numbered, Option.getD_some, Option.some.injEq]
            constructor
            · rintro ⟨rfl, rfl, shown⟩
              exact ⟨rfl, rfl, source, found, shown⟩
            · rintro ⟨rfl, rfl, again, same, shown⟩
              rw [found] at same
              obtain rfl := Option.some.inj same
              exact ⟨rfl, rfl, shown⟩
  -- the card shows the latest message itself
  · simp only [deferred, Bool.false_eq_true, if_false]
    cases latest.isOutgoing <;> simp [shownText]

theorem request_numbered {callsign : String} {min : UInt8} {message : ReceivedMessage}
    (request : IsRequest callsign min message) (older : List ReceivedMessage) :
    dialogueOf older message = some (callsign, min) := by
  have numbered : numberedAs message = some (callsign, min) := by
    simp [numberedAs, isDialogueCandidate, dialogueCallsign, request.incoming, request.sender,
      request.numbered, request.noAck, request.noLogon]
  simp [dialogueOf, numbered, rootMin, request.begins]

theorem request_shown {callsign : String} {min : UInt8} {message : ReceivedMessage}
    (request : IsRequest callsign min message) (messages : List ReceivedMessage) :
    ShowsRequest now messages callsign min (shownText message) message := by
  simp [ShowsRequest, request.noStandby, isRecentClosureMessage, request.noClosing,
    request.incoming, request.numbered]

/-- The request is listed unless an earlier message has closed the dialogue of its MIN; then only
another dialogue of the aircraft may happen to show the same MIN and text. -/
theorem request_listed_iff (past : List ReceivedMessage) (callsign : String) (min : UInt8)
    (message : ReceivedMessage) (request : IsRequest callsign min message) :
    Listed now (past ++ [message]) callsign min (shownText message) ↔
      closedIn (callsign, min) past.reverse = false ∨
      ∃ root latest, root ≠ min ∧ latestIn (callsign, root) past.reverse = some latest ∧
        (closedIn (callsign, root) past.reverse = false ∨
          isRecentClosureMessage now latest = true) ∧
        ShowsRequest now (past ++ [message]) callsign min (shownText message) latest := by
  have newest : (past ++ [message]).reverse = message :: past.reverse := by simp
  have own := request_numbered request past.reverse
  have unclosing := request.noClosing
  have closed : ∀ key, closedIn key (message :: past.reverse) = closedIn key past.reverse := by
    intro key
    simp [closedIn, unclosing]
  constructor
  · rintro ⟨card, member, shows⟩
    obtain ⟨⟨aircraft, root⟩, latest, found, kept, rfl⟩ := (pending_card now _ card).mp member
    rw [newest] at found kept
    rw [closed] at kept
    obtain ⟨party, _⟩ := latest_callsign found
    obtain ⟨rfl, shown⟩ := (card_shows now _ _ _ _ _ _ party).mp shows
    -- the card is that of the request itself, or that of an older dialogue which it answers
    by_cases same : root = min
    · subst same
      rw [latestIn, if_pos own] at found
      obtain rfl := Option.some.inj found
      exact Or.inl (kept.resolve_right (by simp [isRecentClosureMessage, unclosing]))
    · refine Or.inr ⟨root, latest, same, ?_, kept, shown⟩
      rwa [latestIn, own, if_neg (by simpa using Ne.symm same)] at found
  · rintro (unclosed | ⟨root, latest, apart, found, kept, shown⟩)
    · refine ⟨_, (pending_card now _ _).mpr ⟨(callsign, min), message, ?_, Or.inl ?_, rfl⟩, ?_⟩
      · rw [newest, latestIn, if_pos own]
      · rwa [newest, closed]
      · apply (card_shows now _ callsign callsign min _ message ?_).mpr
        · exact ⟨rfl, request_shown now request _⟩
        · simp [dialogueCallsign, request.incoming, request.sender]
    · refine ⟨_, (pending_card now _ _).mpr ⟨(callsign, root), latest, ?_, ?_, rfl⟩, ?_⟩
      · rw [newest, latestIn, own, if_neg (by simpa using Ne.symm apart), found]
      · rwa [newest, closed]
      · exact (card_shows now _ callsign callsign min _ latest (latest_callsign found).1).mpr
          ⟨rfl, shown⟩

/-! An aircraft that has used all its MINs and starts again. -/

def downlink (min : UInt8) (text : String) : ReceivedMessage :=
  ⟨0, none, some "AFR123", none, some text, false, some min, none, some .Y, false⟩

def uplink (min : UInt8) (mrn : Option UInt8) (text : String) : ReceivedMessage :=
  ⟨0, none, none, some "AFR123", some text, true, some min, mrn, none, false⟩

theorem downlink_request : IsRequest "AFR123" 1 (downlink 1 "REQUEST FL350") :=
  ⟨rfl, rfl, rfl, rfl, by decide +kernel, by decide +kernel, by decide +kernel, by decide +kernel⟩

def earlierRequests : List ReceivedMessage :=
  [downlink 2 "REQUEST DIRECT TO ABC", uplink 1 (some 2) "UNABLE", downlink 3 "REQUEST FL370",
    uplink 2 (some 3) "STANDBY", uplink 3 none "SQUAWK IDENT"]

theorem request_listed_later :
    Listed 0 (earlierRequests ++ [downlink 1 "REQUEST FL350"]) "AFR123" 1
        (shownText (downlink 1 "REQUEST FL350")) ↔
      closedIn ("AFR123", 1) earlierRequests.reverse = false ∨
      ∃ root latest, root ≠ 1 ∧ latestIn ("AFR123", root) earlierRequests.reverse = some latest ∧
        (closedIn ("AFR123", root) earlierRequests.reverse = false ∨
          isRecentClosureMessage 0 latest = true) ∧
        ShowsRequest 0 (earlierRequests ++ [downlink 1 "REQUEST FL350"]) "AFR123" 1
          (shownText (downlink 1 "REQUEST FL350")) latest :=
  request_listed_iff 0 earlierRequests "AFR123" 1 (downlink 1 "REQUEST FL350") downlink_request

/-- The request that reuses the MIN of one that was refused is not listed. -/
theorem reused_min_hidden :
    let past := [downlink 1 "REQUEST DIRECT TO ABC", uplink 1 (some 1) "UNABLE"]
    IsRequest "AFR123" 1 (downlink 1 "REQUEST FL350") ∧
      ¬ Listed 0 (past ++ [downlink 1 "REQUEST FL350"]) "AFR123" 1 "REQUEST FL350" := by
  intro past
  have nothing : buildPendingDialogues 0 (past ++ [downlink 1 "REQUEST FL350"]) = [] := by
    decide +kernel
  refine ⟨downlink_request, ?_⟩
  rintro ⟨card, member, _⟩
  rw [nothing] at member
  cases member

end Listing

/-! The buttons. -/
section Buttons

theorem attribute_definite (attr : ResponseAttribute) (intent : CpdlcResponseIntent)
    (offered : intent ∈ CpdlcResponseIntent.forAttribute attr) :
    ∃ definite ∈ CpdlcResponseIntent.forAttribute attr, definite ≠ .standby := by
  cases attr with
  | WU => exact ⟨.wilco, by decide, by decide⟩
  | AN => exact ⟨.affirm, by decide, by decide⟩
  | R => exact ⟨.roger, by decide, by decide⟩
  | Y | N | NE => cases offered

theorem message_definite (message : ReceivedMessage) (intent : CpdlcResponseIntent)
    (offered : intent ∈ responseIntentsForMessage message) :
    ∃ definite ∈ responseIntentsForMessage message, definite ≠ .standby := by
  unfold responseIntentsForMessage at offered ⊢
  cases content : message.application with
  | none =>
      rw [content] at offered
      cases attr : message.responseAttr with
      | none => simp [attr] at offered
      | some attr' =>
          simp only [attr, Option.map_some, Option.getD_some] at offered ⊢
          exact attribute_definite attr' intent offered
  | some app =>
      rw [content] at offered
      cases attr : message.responseAttr with
      | none =>
          simp only [attr] at offered ⊢
          exact attribute_definite _ intent offered
      | some attr' =>
          simp only [attr, mem_enriched] at offered ⊢
          rcases offered with chosen | added
          · obtain ⟨definite, member, other⟩ := attribute_definite _ intent chosen
            exact ⟨definite, Or.inl member, other⟩
          · obtain ⟨definite, member, other⟩ := attribute_definite attr' intent added
            exact ⟨definite, Or.inr member, other⟩

theorem source_definite (source : ReceivedMessage) :
    ∃ definite ∈ sourceIntents source, definite ≠ .standby := by
  unfold sourceIntents
  split
  · exact ⟨.unable, by decide, by decide⟩
  · split
    · exact ⟨.wilco, by decide, by decide⟩
    · next offering =>
        obtain ⟨intent, offered⟩ := List.exists_mem_of_ne_nil _ (by simpa using offering)
        exact message_definite source intent offered

/-- A card with a source has intents, even when it is deferred already. -/
theorem card_intents_nonempty (source : ReceivedMessage) (deferred : Bool) :
    cardIntents (some source) deferred ≠ [] := by
  obtain ⟨definite, offered, other⟩ := source_definite source
  apply List.ne_nil_of_mem
  unfold cardIntents
  split
  · exact List.mem_filter.mpr ⟨offered, by simpa using other⟩
  · exact offered

variable (now : DateTime) (messages : List ReceivedMessage)

structure Answers (card : PendingDialogue) (source : ReceivedMessage) (deferred : Bool) : Prop where
  listed : source ∈ messages
  incoming : source.isOutgoing = false
  sender : source.fromCallsign = some card.aircraftCallsign
  numbered : card.actionMin = source.min
  text : card.displayText = shownText source
  intents : card.responseIntents = cardIntents (some source) deferred

def ButtonsAnswer : Prop :=
  ∀ card ∈ buildPendingDialogues now messages, card.responseIntents ≠ [] →
    ∀ key latest, Makes now messages key latest card →
      ∃ source, actionSource now messages key.1 latest = some source ∧
        Answers messages card source (latest.isOutgoing && isStandbyMessage latest)

/-- In every open dialogue that a standby has deferred, the first message with the MIN that the
standby refers to is incoming, and has the text of the card. -/
def StandbysFindRequests : Prop :=
  ∀ key latest mrn source, latestIn key messages.reverse = some latest →
    closedIn key messages.reverse = false → isStandbyMessage latest = true →
    latest.mrn = some mrn → findDialogueMessageByMin messages mrn key.1 = some source →
    source.isOutgoing = false ∧
      (source.displayText = none → shownText latest = "Unknown request")

theorem text_from_source (source : ReceivedMessage) (other : String) :
    source.displayText.getD other = shownText source ↔
      (source.displayText = none → other = "Unknown request") := by
  unfold shownText
  cases source.displayText <;> simp

/-- Without a source, or once its dialogue is closed, a card has no buttons. -/
theorem card_sourced {key : DialogueKey} {latest : ReceivedMessage}
    (party : dialogueCallsign latest = some key.1)
    (buttons : (dialogueCard now messages latest).responseIntents ≠ []) :
    isRecentClosureMessage now latest = false ∧
      ∃ source, actionSource now messages key.1 latest = some source := by
  simp only [dialogueCard, party, Option.getD_some] at buttons
  split at buttons
  · next needs =>
      simp only [Bool.and_eq_true, Bool.not_eq_true'] at needs
      obtain ⟨min, numbered⟩ := Option.isSome_iff_exists.mp needs.1.2
      obtain ⟨source, sourced, _⟩ := Option.bind_eq_some_iff.mp numbered
      exact ⟨needs.1.1, source, sourced⟩
  · contradiction

/-- What a card with a source looks like while its dialogue is open. -/
theorem open_card {key : DialogueKey} {latest source : ReceivedMessage} {min : UInt8}
    (party : dialogueCallsign latest = some key.1)
    (unclosed : isRecentClosureMessage now latest = false)
    (sourced : actionSource now messages key.1 latest = some source)
    (aircraft : dialogueCallsign source = some key.1) (numbered : source.min = some min) :
    let card := dialogueCard now messages latest
    card.aircraftCallsign = key.1 ∧ card.actionMin = source.min ∧
      card.responseIntents =
        cardIntents (some source) (latest.isOutgoing && isStandbyMessage latest) ∧
      card.displayText =
        if isStandbyMessage latest then source.displayText.getD (shownText latest)
        else shownText latest := by
  cases outgoing : latest.isOutgoing <;> cases standby : isStandbyMessage latest <;>
    simp [dialogueCard, party, sourced, unclosed, aircraft, numbered, outgoing, standby,
      shownText]

theorem buttons_answered {messages : List ReceivedMessage}
    (right : StandbysFindRequests messages) : ButtonsAnswer now messages := by
  rintro card _ buttons key latest ⟨found, kept, rfl⟩
  obtain ⟨party, min, numbered⟩ := latest_callsign found
  obtain ⟨unclosed, source, sourced⟩ := card_sourced now messages party buttons
  have opened := kept.resolve_right (by simp [unclosed])
  refine ⟨source, sourced, ?_⟩
  cases standby : isStandbyMessage latest with
  | true =>
      -- the standby refers to the message
      have named := sourced
      simp only [actionSource, standby, Bool.true_or, if_true] at named
      obtain ⟨mrn, referred, bearer⟩ := Option.bind_eq_some_iff.mp named
      obtain ⟨listed, hasMin, aircraft⟩ := found_by_min bearer
      obtain ⟨incoming, unknown⟩ := right key latest mrn source found opened standby referred bearer
      obtain ⟨callsign, action, intents, text⟩ :=
        open_card now messages party unclosed sourced aircraft hasMin
      refine ⟨listed, incoming, ?_, action, ?_, standby ▸ intents⟩
      · rw [callsign]
        simpa [dialogueCallsign, incoming] using aircraft
      · rw [text, if_pos standby]
        exact (text_from_source source _).mpr unknown
  | false =>
      have itself := sourced
      simp only [actionSource, standby, unclosed, Bool.or_false, Bool.false_eq_true, if_false] at itself
      split at itself
      · cases itself
      · next incoming =>
          obtain rfl := Option.some.inj itself
          obtain ⟨callsign, action, intents, text⟩ :=
            open_card now messages party unclosed sourced party numbered
          have received : latest.isOutgoing = false := by simpa using incoming
          refine ⟨?_, received, ?_, action, ?_, standby ▸ intents⟩
          · exact List.mem_reverse.mp (latest_mem found)
          · rw [callsign]
            simpa [dialogueCallsign, received] using party
          · rw [text, if_neg (by simp [standby])]

theorem standbys_found {messages : List ReceivedMessage}
    (right : ButtonsAnswer now messages) : StandbysFindRequests messages := by
  intro key latest mrn source found opened standby referred bearer
  obtain ⟨party, _⟩ := latest_callsign found
  obtain ⟨_, hasMin, aircraft⟩ := found_by_min bearer
  have unclosed := standby_not_recent now standby
  have sourced : actionSource now messages key.1 latest = some source := by
    simp [actionSource, standby, referred, bearer]
  obtain ⟨_, _, intents, text⟩ := open_card now messages party unclosed sourced aircraft hasMin
  have makes : Makes now messages key latest (dialogueCard now messages latest) :=
    ⟨found, Or.inl opened, rfl⟩
  obtain ⟨answered, same, answers⟩ := right _ ((pending_card now messages _).mpr ⟨key, latest, makes⟩)
    (by rw [intents]; exact card_intents_nonempty source _) key latest makes
  obtain rfl : source = answered := Option.some.inj (sourced.symm.trans same)
  have shown := answers.text
  rw [text, if_pos standby] at shown
  exact ⟨answers.incoming, (text_from_source source _).mp shown⟩

/-- The buttons answer what the cards display, exactly when every standby that keeps a dialogue
waiting finds the request that it defers. -/
theorem buttons_answer_iff : ButtonsAnswer now messages ↔ StandbysFindRequests messages :=
  ⟨standbys_found now, buttons_answered now⟩

/-- The first messages of both directions have the same MIN, and the standby of the controller
finds his own. -/
theorem own_uplink_offered :
    let history := [uplink 1 none "CLIMB TO FL350", downlink 1 "REQUEST DIRECT TO ABC",
      uplink 2 (some 1) "STANDBY"]
    (∃ card ∈ buildPendingDialogues 0 history, card.displayText = "CLIMB TO FL350" ∧
        card.actionMin = some 1 ∧ card.responseIntents = [.wilco, .unable]) ∧
      ¬ ButtonsAnswer 0 history := by
  intro history
  refine ⟨by decide +kernel, ?_⟩
  intro right
  have incoming := (standbys_found 0 right ("AFR123", 1) (uplink 2 (some 1) "STANDBY") 1
    (uplink 1 none "CLIMB TO FL350") (by decide +kernel) (by decide +kernel) (by decide +kernel)
    rfl (by decide +kernel)).1
  cases incoming

end Buttons

end OpenLink.RequestCards
