import OpenLink.PilotDisplay

/-!
What the message list of a pilot shows as answered.
-/
namespace OpenLink.ResponseMarks
open Cpdlc CpdlcRuntime DcduResponses Envelope GuiMessages OfferedIntents PilotDisplay Runs
  SdkClient Texts UplinkComposer

/-! A message is marked as responded only when it was. -/
section Truth

/-- What was sent closes the dialogue of this MIN. -/
def Closes (message : OpenLinkMessage) (min : UInt8) : Prop :=
  (contents message).2 = some min ∧ closesDialogueResponseElements (contents message).1 = true

/-- Every row that is marked is incoming, and its dialogue was closed by a message sent. -/
def Truthful (sent : List OpenLinkMessage) (rows : List ReceivedMessage) : Prop :=
  ∀ row ∈ rows, row.responded = true → row.isOutgoing = false ∧
    ∃ min, row.min = some min ∧ ∃ message ∈ sent, Closes message min

variable {sent : List OpenLinkMessage} {rows : List ReceivedMessage}

theorem truthful_sent {more : List OpenLinkMessage} (truthful : Truthful sent rows)
    (kept : sent ⊆ more) : Truthful more rows := by
  intro row member marked
  obtain ⟨incoming, min, numbered, message, was, closes⟩ := truthful row member marked
  exact ⟨incoming, min, numbered, message, kept was, closes⟩

theorem truthful_row {row : ReceivedMessage} (truthful : Truthful sent rows)
    (fresh : row.responded = false) : Truthful sent (rows ++ [row]) := by
  intro other member marked
  rcases List.mem_append.mp member with old | new
  · exact truthful other old marked
  · rw [List.mem_singleton.mp new, fresh] at marked
    cases marked

theorem truthful_mark {min : UInt8} {message : OpenLinkMessage} (truthful : Truthful sent rows)
    (was : message ∈ sent) (closes : Closes message min) :
    Truthful sent (markResponded min rows) := by
  induction rows with
  | nil => exact truthful
  | cons first rest ih =>
      have later : Truthful sent rest :=
        fun row member => truthful row (List.mem_cons_of_mem _ member)
      intro row member marked
      rw [markResponded] at member
      split at member
      · next here =>
          rcases List.mem_cons.mp member with rfl | old
          · exact ⟨here.2, min, here.1, message, was, closes⟩
          · exact later row old marked
      · rcases List.mem_cons.mp member with rfl | old
        · exact truthful row List.mem_cons_self marked
        · exact ih later row old marked

theorem truthful_dialogue {mrn : Option UInt8} {message : OpenLinkMessage}
    (truthful : Truthful sent rows) (was : message ∈ sent)
    (answers : (contents message).2 = mrn) :
    Truthful sent (markDialogueResponded mrn (contents message).1 rows) := by
  unfold markDialogueResponded
  cases mrn with
  | none => exact truthful
  | some min =>
      dsimp only
      split
      · next closing => exact truthful_mark truthful was ⟨answers, closing⟩
      · exact truthful

/-- All responses but a standby close the dialogue. -/
theorem response_closes {intent : CpdlcResponseIntent} (definite : intent ≠ .standby) :
    closesDialogueResponseElements [⟨intent.downlinkId, []⟩] = true := by
  cases intent <;> first | rfl | exact absurd rfl definite

theorem received_fresh {now : DateTime} {envelope : Option OpenLinkEnvelope} {row : ReceivedMessage}
    (arrived : received now envelope = some row) : row.responded = false := by
  unfold received at arrived
  simp only at arrived
  split at arrived
  · cases arrived
  · cases arrived
    rfl

theorem response_truthful {more : List OpenLinkMessage} {message : OpenLinkMessage}
    {intent : CpdlcResponseIntent} {min : UInt8} (truthful : Truthful sent rows)
    (kept : sent ⊆ more) (was : message ∈ more)
    (told : contents message = ([⟨intent.downlinkId, []⟩], some min)) (now : DateTime) :
    let pushed := rows ++ [outgoingMessage now intent.label none none (some min)]
    Truthful more (if intent != .standby then markResponded min pushed else pushed) := by
  intro pushed
  have unmarked : Truthful more pushed := truthful_row (truthful_sent truthful kept) rfl
  split
  · next definite =>
      refine truthful_mark unmarked was ⟨congrArg Prod.snd told, ?_⟩
      rw [congrArg Prod.fst told]
      exact response_closes (by simpa using definite)
  · exact unmarked

def RowsTrue (dcdu : Dcdu) : Prop := Truthful (dcdu.downlinks ++ dcdu.responses) dcdu.tab.messages

variable {dcdu : Dcdu}

theorem pushed_true {row : ReceivedMessage} (rowsTrue : RowsTrue dcdu)
    (fresh : row.responded = false) : RowsTrue (pushRow row dcdu) :=
  truthful_row rowsTrue fresh

theorem transmit_true (now : DateTime) (station : String) (elements : List MessageElement)
    (mrn : Option UInt8) (text : String) (rowsTrue : RowsTrue dcdu) :
    RowsTrue (transmit now station elements mrn text dcdu) := by
  refine pushed_true (truthful_sent rowsTrue ?_) rfl
  exact List.append_subset.mpr ⟨by simp, by simp⟩

theorem composition_true (now : DateTime) (station : String) (composition : Composition)
    (rowsTrue : RowsTrue dcdu) : RowsTrue (sendComposition now station composition dcdu) := by
  have sent := transmit_true now station composition.elements composition.mrn
    (elementsText composition.elements) rowsTrue
  have was : (dcdu.client.cpdlcAircraftApplication now dcdu.tab.callsign dcdu.tab.acarsAddress
      station composition.elements composition.mrn).1 ∈
        (sendComposition now station composition dcdu).downlinks ++
          (sendComposition now station composition dcdu).responses := by
    simp [sendComposition, closePanel, transmit, pushRow]
  exact truthful_dialogue sent was rfl

theorem panel_true (upper : Char → Text) (station : String) (rowsTrue : RowsTrue dcdu)
    (gesture : PanelGesture) : RowsTrue (panelStep upper station dcdu gesture) := by
  cases gesture with
  | sendAll now =>
      simp only [panelStep]
      split
      · exact composition_true now station _ rowsTrue
      · exact rowsTrue
  | submit now =>
      simp only [panelStep, submitCommand]
      split
      · exact rowsTrue
      · split
        · exact rowsTrue
        · split
          · split
            · exact composition_true now station _ rowsTrue
            · exact rowsTrue
          · exact transmit_true now station _ _ _ rowsTrue
  | choose now command =>
      simp only [panelStep, chooseCommand]
      split
      · exact rowsTrue
      · split
        · exact composition_true now station _ rowsTrue
        · split
          · exact transmit_true now station _ _ _ rowsTrue
          · exact rowsTrue
  | typed idx value =>
      simp only [panelStep]
      split
      · exact rowsTrue
      · split <;> exact rowsTrue
  | plus command =>
      simp only [panelStep, addCommand]
      split
      · exact rowsTrue
      · split <;> exact rowsTrue
  | clear => simp only [panelStep]; split <;> exact rowsTrue
  | cancel => simp only [panelStep]; split <;> exact rowsTrue
  | search value => simp only [panelStep]; split <;> exact rowsTrue

theorem respond_true (upper : Char → Text) (rowsTrue : RowsTrue dcdu) (now : DateTime) (min : UInt8)
    (intent : CpdlcResponseIntent) : RowsTrue (dcduStep upper dcdu (.respond now min intent)) := by
  simp only [dcduStep]
  split
  · cases party : stationCallsign dcdu.tab with
    | none => exact rowsTrue
    | some station =>
        simp only [onRespond, party]
        refine response_truthful rowsTrue ?_ (List.mem_append_right _ (List.mem_append_right _
          List.mem_cons_self)) rfl now
        rw [← List.append_assoc]
        exact List.subset_append_left _ _
  · exact rowsTrue

theorem step_true (upper : Char → Text) (rowsTrue : RowsTrue dcdu) (event : DcduEvent) :
    RowsTrue (dcduStep upper dcdu event) := by
  cases event with
  | received now envelope =>
      simp only [dcduStep]
      split
      · exact rowsTrue
      · next arrived => exact pushed_true rowsTrue (received_fresh arrived)
  | automatic client row =>
      cases row with
      | none => exact rowsTrue
      | some row =>
          exact pushed_true (rowsTrue : RowsTrue { dcdu with client := client }) rfl
  | respond now min intent => exact respond_true upper rowsTrue now min intent
  | respondCompose min intent => simp only [dcduStep]; split <;> exact rowsTrue
  | typeLogon value =>
      simp only [dcduStep]
      split
      · split <;> exact rowsTrue
      · exact rowsTrue
  | logon now =>
      simp only [dcduStep]
      split
      · split
        · exact truthful_row rowsTrue rfl
        · exact rowsTrue
      · exact rowsTrue
  | cancelLogon => simp only [dcduStep]; split <;> exact rowsTrue
  | togglePanel =>
      simp only [dcduStep]
      split
      · split <;> exact rowsTrue
      · exact rowsTrue
  | composing gesture =>
      simp only [dcduStep]
      split
      · exact rowsTrue
      · split
        · exact panel_true upper _ rowsTrue gesture
        · exact rowsTrue
  | sessionUpdate session => exact rowsTrue

theorem marked_answered (upper : Char → Text) (callsign acarsAddress : String)
    (client : OpenLinkClient) (events : List DcduEvent) :
    let after := exec (dcduStep upper) (Dcdu.new callsign acarsAddress client) events
    Truthful (after.downlinks ++ after.responses) after.tab.messages :=
  run_invariant (dcduStep upper) RowsTrue (fun _ event rowsTrue => step_true upper rowsTrue event)
    (.new callsign acarsAddress client) (by simp [RowsTrue, Dcdu.new, Truthful]) events

end Truth

end OpenLink.ResponseMarks
