import OpenLink.DcduScreen
import OpenLink.HookAcknowledgements
import OpenLink.McduScreen
import OpenLink.Tickets

/-!
The cockpit of the A320 demonstrator: the hook with the two units that the pilot works with, which
are on the screen only while it is connected. A key takes effect before the next event, and a
publish at some time after it, successfully or not.
-/
namespace OpenLink.CockpitUnits
open Cpdlc DcduMessages DcduScreen McduScreen Runs Tickets TsEnvelope TsRuntime TsTypes UseOpenLink

structure Cockpit where
  mcdu : McduState
  viewIndex : Option Nat
  hook : HookState

def Cockpit.initial : Cockpit := ⟨.initial, none, .initial⟩

inductive CockpitEvent where
  | connect (settings : ConnectionSettings)
  | disconnect
  | receive (now : DateTime) (message : TsMessage)
  | settled (index : Nat) (success : Bool)
  | mcdu (event : McduEvent)
  | dcdu (now : DateTime) (key : DcduKey)

section Machine
variable (textOf : List TsElement → String)
  (responseIntentsOf : List TsElement → List ResponseIntent) (toUpperCase : String → String)

def asked (cockpit : Cockpit) : CockpitEvent → List HookEvent
  | .connect settings => [.connect settings]
  | .disconnect => [.disconnect]
  | .receive now message => [.receive now message]
  | .settled index success => [.settled index success]
  | .mcdu event => if cockpit.hook.settings.isSome then (respond cockpit.mcdu event).1 else []
  | .dcdu now key =>
      if cockpit.hook.settings.isSome then
        pressKey now cockpit.hook.dcduMessages toUpperCase cockpit.viewIndex key
      else []

def cockpitStep (cockpit : Cockpit) (event : CockpitEvent) : Cockpit :=
  let hook := exec (hookStep textOf responseIntentsOf toUpperCase) cockpit.hook
    (asked toUpperCase cockpit event)
  match event with
  | .disconnect => ⟨.initial, none, hook⟩
  | .mcdu event =>
      { cockpit with
        mcdu := if cockpit.hook.settings.isSome then McduScreen.step cockpit.mcdu event
          else cockpit.mcdu
        hook := hook }
  | .dcdu _ key =>
      { cockpit with
        viewIndex := if cockpit.hook.settings.isSome then
            turnView cockpit.hook.dcduMessages cockpit.viewIndex key
          else cockpit.viewIndex
        hook := hook }
  | _ => { cockpit with hook := hook }

end Machine

/-! The publications under way, and those that have succeeded. -/
section Journal

def responseOf : Publication → Option Nat
  | .response messageId _ _ => some messageId
  | _ => none

def draftOf : Publication → Option Nat
  | .draft messageId _ _ => some messageId
  | _ => none

def responses (hook : HookState) : List Nat := hook.publishing.filterMap responseOf

def drafts (hook : HookState) : List Nat := hook.publishing.filterMap draftOf

/-- The responses that were published, with their messages, and the drafts that were. -/
structure Journal where
  answers : List (Nat × String)
  sent : List (Nat × Unit)

def note (hook : HookState) (journal : Journal) : HookEvent → Journal
  | .settled index true =>
      match hook.publishing[index]? with
      | some (.response messageId _ downlinkId) =>
          { journal with answers := journal.answers ++ [(messageId, downlinkId)] }
      | some (.draft messageId _ _) => { journal with sent := journal.sent ++ [(messageId, ())] }
      | _ => journal
  | _ => journal

/-- A standby leaves the dialogue open. -/
def definite (downlinkId : String) : Bool := downlinkId != "DM2"

end Journal

/-! What a step of the hook makes of the messages. -/
section Stems

structure Added (before after : HookState) (message : DcduMessage) : Prop where
  since : before.nextId ≤ message.id
  below : message.id < after.nextId
  idle : message.status ≠ .sending
  composed : message.status = .draft → message.isOutgoing = true ∧ message.elements.isSome = true

structure Kept (status : DcduMessage → DcduMessageStatus → Prop) (earlier message : DcduMessage) :
    Prop where
  id : message.id = earlier.id
  isOutgoing : message.isOutgoing = earlier.isOutgoing
  elements : message.elements = earlier.elements
  status : status earlier message.status

/-- Every message is new, or one of the earlier messages. -/
structure Stems (status : DcduMessage → DcduMessageStatus → Prop) (before after : HookState) :
    Prop where
  rows : ∀ message ∈ after.dcduMessages, Added before after message ∨
    ∃ earlier ∈ before.dcduMessages, Kept status earlier message
  ids : ∃ old, old.Sublist (before.dcduMessages.map DcduMessage.id) ∧
    (after.dcduMessages.map DcduMessage.id = old ∧ after.nextId = before.nextId ∨
      after.dcduMessages.map DcduMessage.id = old ++ [before.nextId] ∧
        after.nextId = before.nextId + 1)

def Onward (earlier : DcduMessage) (status : DcduMessageStatus) : Prop :=
  status = earlier.status ∨ earlier.isOutgoing = false ∧ status = .responded

def Turned (messageId : Nat) (own : DcduMessageStatus) (earlier : DcduMessage)
    (status : DcduMessageStatus) : Prop :=
  status = if earlier.id = messageId then own else earlier.status

variable {status : DcduMessage → DcduMessageStatus → Prop} {before after : HookState}

theorem stems_next (stems : Stems status before after) : before.nextId ≤ after.nextId := by
  obtain ⟨_, _, ⟨_, same⟩ | ⟨_, next⟩⟩ := stems.ids
  · exact same.ge
  · omega

theorem stems_from {middle : HookState} (stems : Stems status middle after)
    (same : middle.dcduMessages = before.dcduMessages) (next : middle.nextId = before.nextId) :
    Stems status before after where
  rows := by
    intro message member
    rcases stems.rows message member with added | ⟨earlier, was, kept⟩
    · exact .inl ⟨next ▸ added.since, added.below, added.idle, added.composed⟩
    · exact .inr ⟨earlier, same ▸ was, kept⟩
  ids := by
    rw [← same, ← next]
    exact stems.ids

theorem stems_map (change : DcduMessage → DcduMessage)
    (mapped : after.dcduMessages = before.dcduMessages.map change)
    (next : after.nextId = before.nextId)
    (kept : ∀ message ∈ before.dcduMessages, Kept status message (change message)) :
    Stems status before after where
  rows := by
    intro message member
    rw [mapped] at member
    obtain ⟨earlier, was, rfl⟩ := List.mem_map.mp member
    exact .inr ⟨earlier, was, kept earlier was⟩
  ids := by
    refine ⟨_, List.Sublist.refl _, .inl ⟨?_, next⟩⟩
    rw [mapped, List.map_map]
    exact List.map_congr_left fun message member => (kept message member).id

theorem stems_same (same : after.dcduMessages = before.dcduMessages)
    (next : after.nextId = before.nextId) : Stems Onward before after :=
  stems_map id (by rw [same, List.map_id]) next fun _ _ => ⟨rfl, rfl, rfl, .inl rfl⟩

theorem stems_turned (messageId : Nat) (own : DcduMessageStatus)
    (change : DcduMessage → DcduMessage)
    (mapped : after.dcduMessages = withMessage messageId change before.dcduMessages)
    (next : after.nextId = before.nextId)
    (kept : ∀ message, Kept (fun _ status => status = own) message (change message)) :
    Stems (Turned messageId own) before after := by
  refine stems_map _ mapped next fun message _ => ?_
  by_cases here : message.id = messageId
  · rw [if_pos here]
    obtain ⟨named, direction, same, turned⟩ := kept message
    exact ⟨named, direction, same, turned.trans (if_pos here).symm⟩
  · rw [if_neg here]
    exact ⟨rfl, rfl, rfl, (if_neg here).symm⟩

theorem stems_added (change : DcduMessage → DcduMessage) (added : DcduMessage)
    (mapped : after.dcduMessages = before.dcduMessages.map change ++ [added])
    (next : after.nextId = before.nextId + 1) (named : added.id = before.nextId)
    (idle : added.status ≠ .sending)
    (composed : added.status = .draft → added.isOutgoing = true ∧ added.elements.isSome = true)
    (kept : ∀ message ∈ before.dcduMessages, Kept status message (change message)) :
    Stems status before after where
  rows := by
    intro message member
    rw [mapped] at member
    rcases List.mem_append.mp member with old | new
    · obtain ⟨earlier, was, rfl⟩ := List.mem_map.mp old
      exact .inr ⟨earlier, was, kept earlier was⟩
    · obtain rfl := List.mem_singleton.mp new
      exact .inl ⟨named.ge, by omega, idle, composed⟩
  ids := by
    refine ⟨_, List.Sublist.refl _, .inr ⟨?_, next⟩⟩
    rw [mapped, List.map_append, List.map_map, List.map_singleton, named]
    exact congrArg (· ++ _) (List.map_congr_left fun message member => (kept message member).id)

theorem stems_push (state : HookState) (message : Nat → DcduMessage)
    (named : (message state.nextId).id = state.nextId)
    (idle : (message state.nextId).status ≠ .sending)
    (composed : (message state.nextId).status = .draft →
      (message state.nextId).isOutgoing = true ∧
        (message state.nextId).elements.isSome = true) :
    Stems Onward state (state.push message) :=
  stems_added id (message state.nextId) (by simp [HookState.push]) rfl named idle composed
    fun _ _ => ⟨rfl, rfl, rfl, .inl rfl⟩

end Stems

/-! What the hook shows of its messages. -/
section Display
variable (textOf : List TsElement → String)
  (responseIntentsOf : List TsElement → List ResponseIntent)

theorem incoming_stems {before after : HookState} {message : DcduMessage}
    (mapped : after.dcduMessages = addIncoming message before.dcduMessages)
    (next : after.nextId = before.nextId + 1) (named : message.id = before.nextId)
    (opened : message.status = .opened) : Stems Onward before after := by
  unfold addIncoming at mapped
  cases root : rootUplinkMin message.mrn before.dcduMessages with
  | none =>
      rw [root] at mapped
      exact stems_added id message (by rw [mapped, List.map_id]) next named (by simp [opened])
        (by simp [opened]) fun _ _ => ⟨rfl, rfl, rfl, .inl rfl⟩
  | some min =>
      rw [root] at mapped
      refine stems_added _ _ mapped next named (by simp) (by simp) fun uplink _ => ?_
      split
      · next closes =>
          have incoming : uplink.isOutgoing = false := by
            simpa using (Bool.and_eq_true_iff.mp closes).1
          exact ⟨rfl, rfl, rfl, .inr ⟨incoming, rfl⟩⟩
      · exact ⟨rfl, rfl, rfl, .inl rfl⟩

theorem display_publishing (state : HookState) (message : TsMessage) :
    (display textOf responseIntentsOf state message).publishing = state.publishing := by
  unfold display
  split
  all_goals first | rfl | (split <;> rfl)

theorem display_stems (state : HookState) (message : TsMessage) :
    Stems Onward state (display textOf responseIntentsOf state message) := by
  cases message with
  | metaMessage _ => exact stems_same rfl rfl
  | acars aircraft envelope =>
      obtain ⟨source, destination, content⟩ := envelope
      cases content with
      | metaMessage content =>
          cases content with
          | logonResponse accepted =>
              exact stems_push state _ rfl (by simp [logonResponseRow]) (by simp [logonResponseRow])
          | _ => exact stems_same rfl rfl
      | application app =>
          by_cases acks : messageContainsLogicalAck app.elements = true
          · simp only [display, acks, if_true]
            cases referred : app.mrn with
            | none => exact stems_same rfl rfl
            | some mrn =>
                refine stems_map _ rfl rfl fun message _ => ?_
                split <;> exact ⟨rfl, rfl, rfl, .inl rfl⟩
          · simp only [display, acks, if_false, Bool.false_eq_true]
            exact incoming_stems rfl rfl rfl rfl

end Display

/-! Everything that a step of the hook does with responses and drafts. -/
section Effects

variable (sendable : DcduMessageStatus → Prop)

inductive Effect (before : HookState) (journal : Journal) : HookState → Journal → Prop where
  | quiet {after : HookState} (stems : Stems Onward before after)
      (answering : (responses after).Perm (responses before))
      (sending : (drafts after).Perm (drafts before)) : Effect before journal after journal
  | response {after : HookState} (messageId : Nat)
      (answerable : Answerable before.dcduMessages messageId)
      (stems : Stems (Turned messageId .responding) before after)
      (answering : responses after = responses before ++ [messageId])
      (sending : drafts after = drafts before) : Effect before journal after journal
  | draft {after : HookState} (draft : DcduMessage) (among : draft ∈ before.dcduMessages)
      (unsent : sendable draft.status)
      (stems : Stems (Turned draft.id .sending) before after)
      (answering : responses after = responses before)
      (sending : drafts after = drafts before ++ [draft.id]) : Effect before journal after journal
  | answered {after : HookState} (messageId : Nat) (downlinkId : String)
      (stems : Stems (Turned messageId (if downlinkId = "DM2" then .sent else .responded))
        before after)
      (answering : (responses before).Perm (messageId :: responses after))
      (sending : (drafts before).Perm (drafts after)) :
      Effect before journal after
        { journal with answers := journal.answers ++ [(messageId, downlinkId)] }
  | refused {after : HookState} (messageId : Nat)
      (stems : Stems (Turned messageId .opened) before after)
      (answering : (responses before).Perm (messageId :: responses after))
      (sending : (drafts before).Perm (drafts after)) : Effect before journal after journal
  | delivered {after : HookState} (messageId : Nat)
      (stems : Stems (Turned messageId .sent) before after)
      (answering : (responses before).Perm (responses after))
      (sending : (drafts before).Perm (messageId :: drafts after)) :
      Effect before journal after { journal with sent := journal.sent ++ [(messageId, ())] }
  | returned {after : HookState} (messageId : Nat)
      (stems : Stems (Turned messageId .draft) before after)
      (answering : (responses before).Perm (responses after))
      (sending : (drafts before).Perm (messageId :: drafts after)) :
      Effect before journal after journal

variable {sendable}

theorem quiet_same {before after : HookState} (journal : Journal)
    (stems : Stems Onward before after) (same : after.publishing = before.publishing) :
    Effect sendable before journal after journal :=
  .quiet stems (by rw [responses, same, responses]) (by rw [drafts, same, drafts])

variable (textOf : List TsElement → String)
  (responseIntentsOf : List TsElement → List ResponseIntent) (toUpperCase : String → String)

theorem effect_settled (state : HookState) (journal : Journal) (index : Nat) (success : Bool) :
    Effect sendable state journal
      (hookStep textOf responseIntentsOf toUpperCase state (.settled index success))
      (note state journal (.settled index success)) := by
  cases found : state.publishing[index]? with
  | none =>
      have silent : note state journal (.settled index success) = journal := by
        cases success <;> simp [note, found]
      rw [silent]
      simp only [hookStep, found]
      exact quiet_same journal (stems_same rfl rfl) rfl
  | some publication =>
      have answering := filter_map_erase responseOf found
      have sending := filter_map_erase draftOf found
      simp only [hookStep, found]
      -- a settled publication leaves the list, whether it succeeded or not
      cases publication with
      | logon callsign station =>
          cases success with
          | true =>
              simp only [note, found, settle, if_true]
              refine .quiet ?_ answering.symm sending.symm
              have pushed := stems_push { state with publishing := state.publishing.eraseIdx index }
                (logonRequestRow callsign station) rfl (by simp [logonRequestRow])
                (by simp [logonRequestRow])
              exact stems_from pushed rfl rfl
          | false => exact .quiet (stems_same rfl rfl) answering.symm sending.symm
      | response messageId label downlinkId =>
          cases success with
          | true =>
              simp only [note, found]
              exact .answered messageId downlinkId
                (stems_turned messageId _ _ rfl rfl fun _ => ⟨rfl, rfl, rfl, rfl⟩) answering sending
          | false =>
              exact .refused messageId
                (stems_turned messageId _ _ rfl rfl fun _ => ⟨rfl, rfl, rfl, rfl⟩) answering sending
      | draft messageId peer min =>
          cases success with
          | true =>
              simp only [note, found]
              exact .delivered messageId
                (stems_turned messageId _ _ rfl rfl fun _ => ⟨rfl, rfl, rfl, rfl⟩) answering sending
          | false =>
              exact .returned messageId
                (stems_turned messageId _ _ rfl rfl fun _ => ⟨rfl, rfl, rfl, rfl⟩) answering sending

theorem effect_requested (state : HookState) (journal : Journal) (event : HookEvent)
    (requested : Requested sendable state.dcduMessages event) :
    Effect sendable state journal (hookStep textOf responseIntentsOf toUpperCase state event)
      (note state journal event) := by
  cases event with
  | connect settings => exact quiet_same journal (stems_same rfl rfl) rfl
  | disconnect =>
      refine quiet_same journal ⟨?_, ?_⟩ rfl
      · intro message member
        cases member
      · exact ⟨[], List.nil_sublist _, .inl ⟨rfl, rfl⟩⟩
  | receive now message =>
      obtain ⟨same, next⟩ := HookAcknowledgements.reply_messages state now message
      refine quiet_same journal (stems_from (display_stems _ _ _ message) same next) ?_
      simp only [hookStep, display_publishing]
      unfold reply
      split <;> rfl
  | sendLogonRequest station =>
      simp only [hookStep, sendLogonRequest]
      cases state.settings with
      | none => exact quiet_same journal (stems_same rfl rfl) rfl
      | some settings =>
          exact .quiet (stems_same rfl rfl)
            (by simp [responses, responseOf, List.filterMap_cons])
            (by simp [drafts, draftOf, List.filterMap_cons])
  -- the row of the uplink turns to sending before the publication is under way
  | sendResponse now messageId label downlinkId =>
      simp only [hookStep, sendResponse]
      cases state.settings with
      | none => exact quiet_same journal (stems_same rfl rfl) rfl
      | some settings =>
          exact .response messageId requested
            (stems_turned messageId _ _ rfl rfl fun _ => ⟨rfl, rfl, rfl, rfl⟩)
            (by simp [responses, responseOf]) (by simp [drafts, draftOf])
  | transferToDcdu elements mrn =>
      exact quiet_same journal (stems_push state _ rfl (by simp [draftRow]) fun _ => ⟨rfl, rfl⟩) rfl
  | sendDraft now messageId =>
      -- the key is only there for a draft that is not under way
      obtain ⟨draft, among, rfl, unsent⟩ := requested
      simp only [hookStep, sendDraft]
      split
      · next settings row connected found =>
          cases row.elements with
          | none => exact quiet_same journal (stems_same rfl rfl) rfl
          | some elements =>
              exact .draft draft among unsent
                (stems_turned draft.id _ _ rfl rfl fun _ => ⟨rfl, rfl, rfl, rfl⟩)
                (by simp [responses, responseOf]) (by simp [drafts, draftOf])
      · exact quiet_same journal (stems_same rfl rfl) rfl
  | settled index success => exact effect_settled _ _ _ state journal index success

end Effects

end OpenLink.CockpitUnits
