import OpenLink.DialogueLinks

/-!
The DCDU of the A320 demonstrator: which message it shows, and what the keys beside its screen do
with that message. What it only displays is left out.
-/
namespace OpenLink.DcduScreen
open Cpdlc DcduMessages DialogueLinks TsRuntime

/-! The places of the responses. -/
section Grid
variable (toUpperCase : String → String)

structure ResponseGrid where
  topLeft : Option ResponseIntent
  topRight : Option ResponseIntent
  botLeft : Option ResponseIntent
  botRight : Option ResponseIntent

def ResponseGrid.empty : ResponseGrid := ⟨none, none, none, none⟩

def findIntent (label : String) (intents : List ResponseIntent) : Option ResponseIntent :=
  intents.find? fun intent => toUpperCase intent.label == label

def arrangeResponses (intents : List ResponseIntent) : ResponseGrid :=
  let standby := findIntent toUpperCase "STANDBY" intents
  match findIntent toUpperCase "WILCO" intents with
  | some wilco => ⟨findIntent toUpperCase "UNABLE" intents, standby, none, some wilco⟩
  | none =>
      match findIntent toUpperCase "AFFIRM" intents with
      | some affirm => ⟨findIntent toUpperCase "NEGATIVE" intents, standby, none, some affirm⟩
      | none =>
          match findIntent toUpperCase "ROGER" intents with
          | some roger => ⟨none, standby, none, some roger⟩
          | none => ⟨intents[2]?, intents[1]?, intents[3]?, intents[0]?⟩

end Grid

/-! What is shown. -/
section View
variable (messages : List DcduMessage) (viewIndex : Option Nat)

/-- Without a valid position of its own the screen shows the latest message. -/
def effectiveIndex : Nat :=
  let last := (visibleMessages messages).length - 1
  match viewIndex with
  | some index => if index < (visibleMessages messages).length then index else last
  | none => last

def currentMessage : Option DcduMessage :=
  (visibleMessages messages)[effectiveIndex messages viewIndex]?

def goNext : Option Nat :=
  let index := effectiveIndex messages viewIndex
  if index + 1 < (visibleMessages messages).length then some (index + 1) else viewIndex

def goPrev : Option Nat :=
  let index := effectiveIndex messages viewIndex
  if 0 < index then some (index - 1) else viewIndex

theorem current_mem {message : DcduMessage}
    (shown : currentMessage messages viewIndex = some message) : message ∈ messages :=
  ((visible_messages messages message).mp (List.mem_of_getElem? shown)).1

def linkedDraft (current : DcduMessage) : Option DcduMessage :=
  if !current.isOutgoing && current.min.isSome then
    messages.find? fun message => message.isOutgoing && message.mrn == current.min &&
      (message.status == .draft || message.status == .sending)
  else none

variable (toUpperCase : String → String)

/-- A standby is not offered once more. -/
def effectiveIntents (current : DcduMessage) : List ResponseIntent :=
  if current.status = .sent then
    current.responseIntents.filter fun intent => toUpperCase intent.label != "STANDBY"
  else current.responseIntents

def showResponses (current : DcduMessage) : Bool :=
  !current.isOutgoing && (linkedDraft messages current).isNone &&
    !(effectiveIntents toUpperCase current).isEmpty &&
    (current.status == .opened || current.status == .new || current.status == .responding ||
      current.status == .sent)

def responseGrid (current : DcduMessage) : ResponseGrid :=
  if showResponses messages toUpperCase current then
    arrangeResponses toUpperCase (effectiveIntents toUpperCase current)
  else .empty

end View

/-! The keys. -/
section Keys

inductive DcduKey where
  | msgPrev
  | msgNext
  | topLeft
  | topRight
  | botLeft
  | botRight
  deriving DecidableEq

variable (now : DateTime) (messages : List DcduMessage) (toUpperCase : String → String)

/-- A key with a response, which sends nothing while another response is under way. -/
def pressResponse (current : DcduMessage) (intent : Option ResponseIntent) : List HookEvent :=
  match intent with
  | none => []
  | some intent =>
      if current.status = .responding then []
      else [.sendResponse now current.id intent.label intent.downlinkId]

/-- What a key beside the screen asks of the hook. The last one sends the draft that is shown, or
the one that is linked to the message, even while that is being sent. -/
def pressMessage (current : DcduMessage) : DcduKey → List HookEvent
  | .msgPrev | .msgNext => []
  | .topLeft => pressResponse now current (responseGrid messages toUpperCase current).topLeft
  | .botLeft => pressResponse now current (responseGrid messages toUpperCase current).botLeft
  | .topRight =>
      if current.status = .draft ∨ (linkedDraft messages current).isSome then []
      else pressResponse now current (responseGrid messages toUpperCase current).topRight
  | .botRight =>
      if current.status = .draft then [.sendDraft now current.id]
      else
        match linkedDraft messages current with
        | some draft => [.sendDraft now draft.id]
        | none => pressResponse now current (responseGrid messages toUpperCase current).botRight

def pressKey (viewIndex : Option Nat) (key : DcduKey) : List HookEvent :=
  match currentMessage messages viewIndex with
  | none => []
  | some current => pressMessage now messages toUpperCase current key

def turnView (viewIndex : Option Nat) : DcduKey → Option Nat
  | .msgPrev => goPrev messages viewIndex
  | .msgNext => goNext messages viewIndex
  | _ => viewIndex

end Keys

/-! What a key may ask for. -/
section Pressed
variable {messages : List DcduMessage}

def Answerable (messages : List DcduMessage) (messageId : Nat) : Prop :=
  ∃ message ∈ messages, message.id = messageId ∧ message.isOutgoing = false ∧
    message.status ≠ .responding ∧ message.status ≠ .responded

variable (sendable : DcduMessageStatus → Prop)

/-- What may be asked of the hook, where drafts of these statuses may be sent. -/
def Requested (messages : List DcduMessage) : HookEvent → Prop
  | .sendResponse _ messageId _ _ => Answerable messages messageId
  | .sendDraft _ messageId =>
      ∃ draft ∈ messages, draft.id = messageId ∧ sendable draft.status
  | _ => True

/-- One key asks for one thing at most. -/
inductive Asks (messages : List DcduMessage) : List HookEvent → Prop where
  | nothing : Asks messages []
  | one (event : HookEvent) (requested : Requested sendable messages event) :
      Asks messages [event]

variable {toUpperCase : String → String} {current : DcduMessage}

theorem grid_shows {place : ResponseGrid → Option ResponseIntent} (empty : place .empty = none)
    {intent : ResponseIntent}
    (placed : place (responseGrid messages toUpperCase current) = some intent) :
    showResponses messages toUpperCase current = true := by
  unfold responseGrid at placed
  split at placed
  · next shows => exact shows
  · rw [empty] at placed
    cases placed

variable {sendable}

theorem pressed_response (now : DateTime) (member : current ∈ messages)
    (place : ResponseGrid → Option ResponseIntent) (empty : place .empty = none) :
    Asks sendable messages
      (pressResponse now current (place (responseGrid messages toUpperCase current))) := by
  cases placed : place (responseGrid messages toUpperCase current) with
  | none => exact .nothing
  | some intent =>
      simp only [pressResponse]
      split
      · exact .nothing
      · next idle =>
          have shows := grid_shows empty placed
          simp only [showResponses, Bool.and_eq_true, Bool.not_eq_true', Bool.or_eq_true,
            beq_iff_eq] at shows
          refine .one _ ⟨current, member, rfl, shows.1.1.1, idle, ?_⟩
          intro responded
          simp [responded] at shows

theorem linked_draft {draft : DcduMessage} (linked : linkedDraft messages current = some draft) :
    draft ∈ messages ∧ (draft.status = .draft ∨ draft.status = .sending) := by
  unfold linkedDraft at linked
  split at linked
  · have matching := List.find?_some linked
    simp only [Bool.and_eq_true, Bool.or_eq_true, beq_iff_eq] at matching
    exact ⟨List.mem_of_find?_eq_some linked, matching.2⟩
  · cases linked

structure SendsLinked (messages : List DcduMessage) (viewIndex : Option Nat) (key : DcduKey)
    (draft : DcduMessage) : Prop where
  key : key = .botRight
  linked : ∃ current, currentMessage messages viewIndex = some current ∧
    current.status ≠ .draft ∧ linkedDraft messages current = some draft

theorem pressed_key (now : DateTime) (viewIndex : Option Nat) (key : DcduKey)
    (own : sendable .draft)
    (linked : ∀ draft, SendsLinked messages viewIndex key draft → sendable draft.status) :
    Asks sendable messages (pressKey now messages toUpperCase viewIndex key) := by
  unfold pressKey
  cases shown : currentMessage messages viewIndex with
  | none => exact .nothing
  | some current =>
      have member := current_mem messages viewIndex shown
      cases key with
      | msgPrev => exact .nothing
      | msgNext => exact .nothing
      | topLeft => exact pressed_response now member ResponseGrid.topLeft rfl
      | botLeft => exact pressed_response now member ResponseGrid.botLeft rfl
      | topRight =>
          simp only [pressMessage]
          split
          · exact .nothing
          · exact pressed_response now member ResponseGrid.topRight rfl
      | botRight =>
          simp only [pressMessage]
          split
          · next composed => exact .one _ ⟨current, member, rfl, composed ▸ own⟩
          · next other =>
              cases found : linkedDraft messages current with
              | none => exact pressed_response now member ResponseGrid.botRight rfl
              | some draft =>
                  exact .one _ ⟨draft, (linked_draft found).1, rfl,
                    linked draft ⟨rfl, current, shown, other, found⟩⟩

theorem pressed_linked (now : DateTime) {viewIndex : Option Nat} {key : DcduKey}
    {draft : DcduMessage} (sends : SendsLinked messages viewIndex key draft) :
    pressKey now messages toUpperCase viewIndex key = [.sendDraft now draft.id] := by
  obtain ⟨rfl, current, shown, other, linked⟩ := sends
  simp only [pressKey, shown, pressMessage, other, if_false, linked]

end Pressed

end OpenLink.DcduScreen
