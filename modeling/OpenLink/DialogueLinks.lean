import OpenLink.DcduMessages
import OpenLink.GuiMessages

/-!
Which messages a DCDU displays. A message that answers an uplink is taken out of the
list and shown below that uplink, which has to be in the list itself.
-/
namespace OpenLink.DialogueLinks
open DcduMessages GuiMessages

/-! Messages that answer each other. -/
section Answers
variable {Message Ident Number : Type} (ident : Message → Ident) (isOutgoing : Message → Bool)
  (min mrn : Message → Option Number)

structure Answers (message uplink : Message) : Prop where
  incoming : isOutgoing uplink = false
  other : ident uplink ≠ ident message
  referred : ∃ number, mrn message = some number ∧ min uplink = some number

theorem answers_referred {message uplink : Message} {number : Number}
    (referred : mrn message = some number) :
    Answers ident isOutgoing min mrn message uplink ↔
      isOutgoing uplink = false ∧ ident uplink ≠ ident message ∧ min uplink = some number := by
  constructor
  · rintro ⟨incoming, other, named, same, numbered⟩
    obtain rfl := Option.some.inj (referred.symm.trans same)
    exact ⟨incoming, other, numbered⟩
  · rintro ⟨incoming, other, numbered⟩
    exact ⟨incoming, other, number, referred, numbered⟩

theorem answers_nothing {message uplink : Message} (alone : mrn message = none) :
    ¬ Answers ident isOutgoing min mrn message uplink := by
  rintro ⟨_, _, number, referred, _⟩
  rw [alone] at referred
  cases referred

/-- A message that answers uplinks, all of which are answers to uplinks themselves. -/
def Buried (messages : List Message) (message : Message) : Prop :=
  (∃ uplink ∈ messages, Answers ident isOutgoing min mrn message uplink) ∧
    ∀ uplink ∈ messages, Answers ident isOutgoing min mrn message uplink →
      ∃ earlier ∈ messages, Answers ident isOutgoing min mrn uplink earlier

/-- In the list, or below an uplink of the list. -/
def Reachable (visible : List Message) (linked : Message → List Message) (message : Message) :
    Prop :=
  message ∈ visible ∨ ∃ root ∈ visible, isOutgoing root = false ∧ message ∈ linked root

/-- A display that hides the answers to uplinks, and shows them below these, shows all but the
buried messages. -/
theorem reachable_unburied {messages visible : List Message} {linked : Message → List Message}
    (hides : ∀ message, message ∈ visible ↔ message ∈ messages ∧
      ∀ uplink ∈ messages, ¬ Answers ident isOutgoing min mrn message uplink)
    (links : ∀ root ∈ visible, ∀ message ∈ messages, message ∉ visible →
      isOutgoing root = false →
      (message ∈ linked root ↔ Answers ident isOutgoing min mrn message root))
    (message : Message) (member : message ∈ messages) :
    Reachable isOutgoing visible linked message ↔
      ¬ Buried ident isOutgoing min mrn messages message := by
  by_cases shown : message ∈ visible
  · refine iff_of_true (Or.inl shown) ?_
    rintro ⟨⟨uplink, among, answers⟩, _⟩
    exact ((hides message).mp shown).2 uplink among answers
  · have hidden : ∃ uplink ∈ messages, Answers ident isOutgoing min mrn message uplink := by
      by_contra none
      push Not at none
      exact shown ((hides message).mpr ⟨member, none⟩)
    constructor
    · rintro (visible | ⟨root, displayed, incoming, below⟩) ⟨_, deeper⟩
      · exact shown visible
      · obtain ⟨among, top⟩ := (hides root).mp displayed
        obtain ⟨earlier, present, answers⟩ := deeper root among
          ((links root displayed message member shown incoming).mp below)
        exact top earlier present answers
    · intro unburied
      have rooted : ∃ root ∈ messages, Answers ident isOutgoing min mrn message root ∧
          ∀ earlier ∈ messages, ¬ Answers ident isOutgoing min mrn root earlier := by
        by_contra none
        push Not at none
        exact unburied ⟨hidden, none⟩
      obtain ⟨root, among, answers, top⟩ := rooted
      have displayed := (hides root).mpr ⟨among, top⟩
      exact Or.inr ⟨root, displayed, answers.incoming,
        (links root displayed message member shown answers.incoming).mpr answers⟩

end Answers

/-! The DCDU of the A320 demonstrator. -/
section Hook

def visibleMessages (messages : List DcduMessage) : List DcduMessage :=
  messages.filter fun message =>
    match message.mrn with
    | none => true
    | some mrn => !messages.any fun uplink =>
        decide (uplink.id ≠ message.id) && !uplink.isOutgoing && uplink.min == some mrn

def linkedResponses (messages : List DcduMessage) (current : DcduMessage) : List DcduMessage :=
  if !current.isOutgoing && current.min.isSome then
    messages.filter fun message => decide (message.id ≠ current.id) && message.mrn == current.min
  else []

abbrev DcduAnswers := Answers DcduMessage.id DcduMessage.isOutgoing DcduMessage.min DcduMessage.mrn

theorem visible_messages (messages : List DcduMessage) (message : DcduMessage) :
    message ∈ visibleMessages messages ↔
      message ∈ messages ∧ ∀ uplink ∈ messages, ¬ DcduAnswers message uplink := by
  rw [visibleMessages, List.mem_filter]
  refine and_congr_right fun _ => ?_
  cases referred : message.mrn with
  | none => exact iff_of_true rfl fun uplink _ => answers_nothing _ _ _ _ referred
  | some mrn =>
      simp only [answers_referred _ _ _ _ referred, Bool.not_eq_true', List.any_eq_false,
        Bool.and_eq_true, decide_eq_true_eq, beq_iff_eq]
      refine forall₂_congr fun uplink _ => not_congr ?_
      rw [and_assoc, and_left_comm]

theorem linked_responses (messages : List DcduMessage) (root message : DcduMessage)
    (member : message ∈ messages) (incoming : root.isOutgoing = false) :
    message ∈ linkedResponses messages root ↔ DcduAnswers message root := by
  unfold linkedResponses
  cases numbered : root.min with
  | none =>
      simp only [incoming, Option.isSome_none, Bool.and_false, Bool.false_eq_true, if_false,
        List.not_mem_nil, false_iff]
      rintro ⟨_, _, number, _, named⟩
      rw [numbered] at named
      cases named
  | some min =>
      simp only [incoming, Option.isSome_some, Bool.not_false, Bool.and_true, if_true,
        List.mem_filter, member, true_and, Bool.and_eq_true, decide_eq_true_eq, beq_iff_eq]
      constructor
      · rintro ⟨other, same⟩
        exact ⟨incoming, other.symm, min, same, numbered⟩
      · rintro ⟨_, other, number, same, named⟩
        obtain rfl := Option.some.inj (numbered.symm.trans named)
        exact ⟨other.symm, same⟩

end Hook

/-! The A320 view of the GUI, which tells messages apart by their time. -/
section Gui

def rootVisibleMessages (messages : List ReceivedMessage) : List ReceivedMessage :=
  messages.filter fun message =>
    if message.mrn.isNone then true
    else !messages.any fun uplink => !uplink.isOutgoing && uplink.min.isSome &&
      uplink.min == message.mrn && decide (uplink.timestamp ≠ message.timestamp)

def linked (messages : List ReceivedMessage) (current : ReceivedMessage) : List ReceivedMessage :=
  if !current.isOutgoing then
    messages.filter fun message => message.mrn.isSome && message.mrn == current.min
  else []

abbrev GuiAnswers :=
  Answers ReceivedMessage.timestamp ReceivedMessage.isOutgoing ReceivedMessage.min
    ReceivedMessage.mrn

theorem root_visible_messages (messages : List ReceivedMessage) (message : ReceivedMessage) :
    message ∈ rootVisibleMessages messages ↔
      message ∈ messages ∧ ∀ uplink ∈ messages, ¬ GuiAnswers message uplink := by
  rw [rootVisibleMessages, List.mem_filter]
  refine and_congr_right fun _ => ?_
  cases referred : message.mrn with
  | none => exact iff_of_true rfl fun uplink _ => answers_nothing _ _ _ _ referred
  | some mrn =>
      simp only [answers_referred _ _ _ _ referred, Option.isNone_some, Bool.false_eq_true,
        if_false, Bool.not_eq_true', List.any_eq_false, Bool.and_eq_true, decide_eq_true_eq,
        beq_iff_eq]
      refine forall₂_congr fun uplink _ => not_congr ?_
      constructor
      · rintro ⟨⟨⟨incoming, _⟩, named⟩, other⟩
        exact ⟨incoming, other, named⟩
      · rintro ⟨incoming, other, named⟩
        exact ⟨⟨⟨incoming, by rw [named]; rfl⟩, named⟩, other⟩

/-- Two messages of one time are one message, so a hidden one is not its own root. -/
theorem linked_answers (messages : List ReceivedMessage)
    (distinct : (messages.map ReceivedMessage.timestamp).Nodup) (root message : ReceivedMessage)
    (displayed : root ∈ messages) (member : message ∈ messages) (apart : message ≠ root)
    (incoming : root.isOutgoing = false) :
    message ∈ linked messages root ↔ GuiAnswers message root := by
  have other : root.timestamp ≠ message.timestamp := by
    intro same
    exact apart (List.inj_on_of_nodup_map distinct member displayed same.symm)
  simp only [linked, incoming, Bool.not_false, if_true, List.mem_filter, member, true_and,
    Bool.and_eq_true, beq_iff_eq]
  constructor
  · rintro ⟨refers, same⟩
    obtain ⟨number, referred⟩ := Option.isSome_iff_exists.mp refers
    exact ⟨incoming, other, number, referred, same ▸ referred⟩
  · rintro ⟨_, _, number, referred, named⟩
    exact ⟨by rw [referred]; rfl, referred.trans named.symm⟩

end Gui

/-- On both displays a message is in the list or below an uplink of it, unless it is buried. -/
theorem messages_reachable_iff (dcduMessages : List DcduMessage)
    (guiMessages : List ReceivedMessage)
    (distinct : (guiMessages.map ReceivedMessage.timestamp).Nodup) :
    (∀ message ∈ dcduMessages,
      (Reachable DcduMessage.isOutgoing (visibleMessages dcduMessages)
          (linkedResponses dcduMessages) message ↔
        ¬ Buried DcduMessage.id DcduMessage.isOutgoing DcduMessage.min DcduMessage.mrn dcduMessages
          message)) ∧
    ∀ message ∈ guiMessages,
      (Reachable ReceivedMessage.isOutgoing (rootVisibleMessages guiMessages) (linked guiMessages)
          message ↔
        ¬ Buried ReceivedMessage.timestamp ReceivedMessage.isOutgoing ReceivedMessage.min
          ReceivedMessage.mrn guiMessages message) := by
  constructor
  · intro message member
    apply reachable_unburied _ _ _ _ (visible_messages dcduMessages) _ message member
    intro root _ other present _ incoming
    exact linked_responses dcduMessages root other present incoming
  · intro message member
    apply reachable_unburied _ _ _ _ (root_visible_messages guiMessages) _ message member
    intro root displayed other present hidden incoming
    apply linked_answers guiMessages distinct root other _ present _ incoming
    · exact ((root_visible_messages guiMessages root).mp displayed).1
    · rintro rfl
      exact hidden displayed

/-! A clearance that answers an answer. -/

def dcduUplink (id : Nat) (min : Nat) (mrn : Option Nat) : DcduMessage :=
  ⟨id, "LFPG", "CLIMB TO FL350", false, .opened, [], none, false, mrn, some min, none⟩

def guiUplink (timestamp : Cpdlc.DateTime) (min : UInt8) (mrn : Option UInt8) : ReceivedMessage :=
  ⟨timestamp, none, some "LFPG", none, some "CLIMB TO FL350", false, some min, mrn, none, false⟩

def dcduChain : List DcduMessage :=
  [dcduUplink 0 1 none, dcduUplink 1 2 (some 1), dcduUplink 2 3 (some 2), dcduUplink 3 4 (some 1)]

def guiChain : List ReceivedMessage :=
  [guiUplink 0 1 none, guiUplink 1 2 (some 1), guiUplink 2 3 (some 2), guiUplink 3 4 (some 1)]

theorem messages_reachable_chain :
    (∀ message ∈ dcduChain,
      (Reachable DcduMessage.isOutgoing (visibleMessages dcduChain) (linkedResponses dcduChain)
          message ↔
        ¬ Buried DcduMessage.id DcduMessage.isOutgoing DcduMessage.min DcduMessage.mrn dcduChain
          message)) ∧
    ∀ message ∈ guiChain,
      (Reachable ReceivedMessage.isOutgoing (rootVisibleMessages guiChain) (linked guiChain)
          message ↔
        ¬ Buried ReceivedMessage.timestamp ReceivedMessage.isOutgoing ReceivedMessage.min
          ReceivedMessage.mrn guiChain message) :=
  messages_reachable_iff dcduChain guiChain (by decide)

/-- The third message is in neither list and below nothing that is. -/
theorem third_message_unreachable :
    ¬ Reachable DcduMessage.isOutgoing (visibleMessages dcduChain) (linkedResponses dcduChain)
      (dcduUplink 2 3 (some 2)) ∧
    ¬ Reachable ReceivedMessage.isOutgoing (rootVisibleMessages guiChain) (linked guiChain)
      (guiUplink 2 3 (some 2)) := by
  constructor
  · have roots : visibleMessages dcduChain = [dcduUplink 0 1 none] := by decide
    rw [Reachable, roots]
    decide
  · have roots : rootVisibleMessages guiChain = [guiUplink 0 1 none] := by decide
    rw [Reachable, roots]
    decide

end OpenLink.DialogueLinks
