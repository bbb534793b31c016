import OpenLink.HookAcknowledgements
import OpenLink.ResponseIntents

/-!
What an incoming message closes on the DCDU. A message that answers an answer to an uplink is
linked to that uplink and closes it, whatever it says, and is closed itself.
-/
namespace OpenLink.DialogueClosure
open Cpdlc DcduMessages HookAcknowledgements MessageRegistry ResponseIntents Runs TsRuntime TsTypes

def effectiveResponseAttr (elements : List TsElement) : ResponseAttribute :=
  .effective (elements.filterMap fun element =>
    (findDefinition element.id).map MessageDefinition.responseAttr)

def Answerable (elements : List TsElement) : Prop :=
  effectiveResponseAttr elements ∈ [ResponseAttribute.WU, .AN, .R]

def openUplink (message : DcduMessage) : Bool :=
  !message.isOutgoing && message.min.isSome &&
    (message.status == .opened || message.status == .new || message.status == .sent)

section Closing
variable (responseIntentsOf : List TsElement → List ResponseIntent)

/-- The message stays open if it has to be answered, and it closes an uplink only if it is one of
the responses that close. -/
def ClosesOnly (app : TsApplicationMessage) (before after : List DcduMessage) : Prop :=
  ∃ earlier row, after = earlier ++ [row] ∧
    (Answerable app.elements →
      row.responseIntents = responseIntentsOf app.elements ∧ row.status = .opened) ∧
    List.Forall₂ (fun uplink later => openUplink uplink = true → later.status = .responded →
      closesDialogueResponseElements app.elements = true) before earlier

/-- The first outgoing message of this MIN refers to the uplinks of that MIN. -/
def LinkedTo (mrn : Option Nat) (messages : List DcduMessage) (root : Nat) : Prop :=
  ∃ min before target after, mrn = some min ∧ messages = before ++ target :: after ∧
    (target.isOutgoing = true ∧ target.min = some min) ∧
    (∀ other ∈ before, ¬ (other.isOutgoing = true ∧ other.min = some min)) ∧
    target.mrn = some root

/-- If the message answers an answer to an uplink, it does not have to be answered itself, and it
is a closing response or the uplink is not open. -/
def Meets (app : TsApplicationMessage) (messages : List DcduMessage) : Prop :=
  ∀ root, LinkedTo app.mrn messages root → ¬ Answerable app.elements ∧
    ((∃ uplink ∈ messages, openUplink uplink = true ∧ uplink.min = some root) →
      closesDialogueResponseElements app.elements = true)

theorem root_uplink_iff (mrn : Option Nat) (messages : List DcduMessage) (root : Nat) :
    rootUplinkMin mrn messages = some root ↔ LinkedTo mrn messages root := by
  unfold rootUplinkMin LinkedTo
  cases mrn with
  | none => simp
  | some min =>
      simp only [Option.bind_eq_bind, Option.bind_some, Option.bind_eq_some_iff,
        List.find?_eq_some_iff_append, Bool.and_eq_true, beq_iff_eq, Bool.not_eq_true',
        ← Bool.not_eq_true]
      constructor
      · rintro ⟨target, ⟨⟨outgoing, numbered⟩, before, after, same, earlier⟩, referred⟩
        exact ⟨min, before, target, after, rfl, same, ⟨outgoing, numbered⟩, earlier, referred⟩
      · rintro ⟨_, before, target, after, ⟨⟩, same, taken, earlier, referred⟩
        exact ⟨target, ⟨taken, before, after, same, earlier⟩, referred⟩

theorem open_unanswered {message : DcduMessage} (waiting : openUplink message = true) :
    message.isOutgoing = false ∧ message.status ≠ .responded := by
  simp only [openUplink, Bool.and_eq_true, Bool.not_eq_true', Bool.or_eq_true, beq_iff_eq] at waiting
  refine ⟨waiting.1.1, ?_⟩
  rcases waiting.2 with (same | same) | same <;> simp [same]

variable {responseIntentsOf}

theorem unlinked_closes (app : TsApplicationMessage) (messages : List DcduMessage)
    (row : DcduMessage) (intents : row.responseIntents = responseIntentsOf app.elements)
    (waiting : row.status = .opened) :
    ClosesOnly responseIntentsOf app messages (messages ++ [row]) := by
  refine ⟨messages, row, rfl, fun _ => ⟨intents, waiting⟩, List.forall₂_same.mpr ?_⟩
  intro uplink _ unanswered answered
  exact absurd answered (open_unanswered unanswered).2

/-- The uplinks of a MIN, as a message that is linked to them leaves them. -/
theorem linked_closes_iff (app : TsApplicationMessage) (messages : List DcduMessage) (root : Nat)
    (text : String) (row : DcduMessage) (closed : row.status = .responded) :
    ClosesOnly responseIntentsOf app messages
        ((messages.map fun uplink =>
          if !uplink.isOutgoing && uplink.min == some root then
            { uplink with status := .responded, respondedWith := some text }
          else uplink) ++ [row]) ↔
      ¬ Answerable app.elements ∧
        ((∃ uplink ∈ messages, openUplink uplink = true ∧ uplink.min = some root) →
          closesDialogueResponseElements app.elements = true) := by
  constructor
  · rintro ⟨earlier, last, same, kept, rows⟩
    obtain ⟨rfl, rows_end⟩ := List.append_inj' same rfl
    obtain rfl := (List.cons.inj rows_end).1
    constructor
    · intro answerable
      have waiting := (kept answerable).2
      rw [closed] at waiting
      cases waiting
    · rintro ⟨uplink, member, unanswered, named⟩
      have each := List.forall₂_same.mp (List.forall₂_map_right_iff.mp rows) uplink member unanswered
      apply each
      rw [(open_unanswered unanswered).1, named]
      simp
  · rintro ⟨unanswerable, closes⟩
    refine ⟨_, row, rfl, fun answerable => absurd answerable unanswerable, ?_⟩
    rw [List.forall₂_map_right_iff, List.forall₂_same]
    intro uplink member unanswered answered
    split at answered
    · next linked =>
      rw [Bool.and_eq_true, beq_iff_eq] at linked
      exact closes ⟨uplink, member, unanswered, linked.2⟩
    · exact absurd answered (open_unanswered unanswered).2

theorem add_incoming_iff (textOf : List TsElement → String) (source : String) (id : Nat)
    (app : TsApplicationMessage) (messages : List DcduMessage) :
    ClosesOnly responseIntentsOf app messages
        (addIncoming (incomingRow textOf responseIntentsOf source app id) messages) ↔
      Meets app messages := by
  unfold addIncoming Meets
  simp only [← root_uplink_iff]
  cases linked : rootUplinkMin app.mrn messages with
  | none =>
      have unlinked : rootUplinkMin (incomingRow textOf responseIntentsOf source app id).mrn messages =
          none := linked
      rw [unlinked]
      exact iff_of_true (unlinked_closes app messages _ rfl rfl) (by simp)
  | some root =>
      have same : rootUplinkMin (incomingRow textOf responseIntentsOf source app id).mrn messages =
          some root := linked
      rw [same]
      simp only [Option.some.injEq, forall_eq']
      exact linked_closes_iff app messages root _ _ rfl

theorem receive_closes_iff (textOf : List TsElement → String) (toUpperCase : String → String)
    (hook : HookState) (now : DateTime) (aircraft : AcarsRoutingEndpoint)
    (source destination : String) (app : TsApplicationMessage)
    (noAck : messageContainsLogicalAck app.elements = false) :
    ClosesOnly responseIntentsOf app hook.dcduMessages
        (hookStep textOf responseIntentsOf toUpperCase hook
          (.receive now (.acars aircraft ⟨source, destination, .application app⟩))).dcduMessages ↔
      Meets app hook.dcduMessages := by
  have kept := (reply_messages hook now
    (.acars aircraft ⟨source, destination, .application app⟩)).1
  simp only [hookStep, display, noAck, Bool.false_eq_true, if_false, kept, add_incoming_iff]

end Closing

/-- After any history, an incoming message closes only what it may close exactly when it meets the
condition. -/
theorem incoming_closes_iff (textOf : List TsElement → String)
    (responseIntentsOf : List TsElement → List ResponseIntent) (toUpperCase : String → String)
    (history : List HookEvent) (now : DateTime) (aircraft : AcarsRoutingEndpoint)
    (source destination : String) (app : TsApplicationMessage)
    (noAck : messageContainsLogicalAck app.elements = false) :
    let hook := exec (hookStep textOf responseIntentsOf toUpperCase) .initial history
    let received := hookStep textOf responseIntentsOf toUpperCase hook
      (.receive now (.acars aircraft ⟨source, destination, .application app⟩))
    ClosesOnly responseIntentsOf app hook.dcduMessages received.dcduMessages ↔
      Meets app hook.dcduMessages :=
  receive_closes_iff textOf toUpperCase _ now aircraft source destination app noAck

/-! A draft that was linked to an open uplink on its own, and what the station says to it. -/

def catalogEntry (id : String) : Option CatalogEntryForRuntime :=
  (findDefinition id).map fun definition => ⟨id, attrName definition.responseAttr, []⟩

def catalogIntents : List TsElement → List ResponseIntent := chooseShortResponseIntents catalogEntry

def catalogText (elements : List TsElement) : String :=
  ((elements.head?.bind fun element => findDefinition element.id).map
    MessageDefinition.template).getD ""

def squawkIdent : TsApplicationMessage := ⟨1, none, [⟨"UM179", []⟩], 0⟩

def fromStation (app : TsApplicationMessage) : HookEvent :=
  .receive 0 (.acars ⟨"AFR123", "39A1B2"⟩ ⟨"LFPG", "AFR123", .application app⟩)

def connectedView : CpdlcSessionView :=
  ⟨some "AFR123", some "39A1B2", some ⟨"LFPG", .connected⟩, none, none⟩

def requested : List HookEvent :=
  [.connect ⟨"AFR123", "39A1B2"⟩,
    .receive 0 (.acars ⟨"AFR123", "39A1B2"⟩
      ⟨"SERVER", "AFR123", .metaMessage (.sessionUpdate connectedView)⟩),
    fromStation squawkIdent, .transferToDcdu [⟨"DM25", []⟩] none, .sendDraft 0 1, .settled 0 true]

def reaction (id : String) (mrn : Option Nat) : TsApplicationMessage := ⟨2, mrn, [⟨id, []⟩], 0⟩

def afterRequest : HookState :=
  exec (hookStep catalogText catalogIntents fun text => text) .initial requested

def afterReaction (id : String) : List DcduMessage :=
  (hookStep catalogText catalogIntents (fun text => text) afterRequest
    (fromStation (reaction id (some 2)))).dcduMessages

theorem unable_closes_iff :
    let hook := exec (hookStep catalogText catalogIntents fun text => text) .initial requested
    let received := hookStep catalogText catalogIntents (fun text => text) hook
      (fromStation (reaction "UM0" (some 2)))
    ClosesOnly catalogIntents (reaction "UM0" (some 2)) hook.dcduMessages received.dcduMessages ↔
      Meets (reaction "UM0" (some 2)) hook.dcduMessages :=
  incoming_closes_iff catalogText catalogIntents (fun text => text) requested 0 ⟨"AFR123", "39A1B2"⟩
    "LFPG" "AFR123" (reaction "UM0" (some 2)) (by decide)

/-- A standby closes the instruction that was open, and a further instruction comes without
buttons. -/
theorem standby_closes :
    afterRequest.dcduMessages.map openUplink = [true, false] ∧
      closesDialogueResponseElements (reaction "UM1" (some 2)).elements = false ∧
      (afterReaction "UM1").map DcduMessage.status = [.responded, .sent, .responded] ∧
      effectiveResponseAttr (reaction "UM116" (some 2)).elements = .WU ∧
      (catalogIntents (reaction "UM116" (some 2)).elements).map ResponseIntent.downlinkId =
        ["DM0", "DM1", "DM2"] ∧
      (afterReaction "UM116").map (fun row => (row.status, row.responseIntents.length)) =
        [(.responded, 3), (.sent, 0), (.responded, 0)] ∧
      ∀ id ∈ ["UM1", "UM116"], ¬ ClosesOnly catalogIntents (reaction id (some 2))
        afterRequest.dcduMessages (afterReaction id) := by
  have linked : LinkedTo (some 2) afterRequest.dcduMessages 1 :=
    (root_uplink_iff _ _ _).mp (by decide +kernel)
  have waiting : ∃ uplink ∈ afterRequest.dcduMessages,
      openUplink uplink = true ∧ uplink.min = some 1 := by decide +kernel
  refine ⟨by decide +kernel, by decide +kernel, by decide +kernel, by decide +kernel,
    by decide +kernel, by decide +kernel, ?_⟩
  intro id member closes
  simp only [List.mem_cons, List.not_mem_nil, or_false] at member
  rcases member with rfl | rfl
  · have closing := ((receive_closes_iff _ _ _ _ _ _ _ _ (by decide)).mp closes 1 linked).2 waiting
    exact absurd closing (by decide)
  · have closing := ((receive_closes_iff _ _ _ _ _ _ _ _ (by decide)).mp closes 1 linked).2 waiting
    exact absurd closing (by decide)

end OpenLink.DialogueClosure
