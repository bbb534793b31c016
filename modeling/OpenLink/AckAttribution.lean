import OpenLink.GuiMessages
import OpenLink.HookAcknowledgements

/-!
Which acknowledgement a client shows a message as acknowledged by. Acknowledgements name
a MIN, and MINs are reused, so the sender and the order decide whether it is the right one.
-/
namespace OpenLink.AckAttribution
open Cpdlc CpdlcRuntime DcduMessages GuiMessages HookAcknowledgements Runs TsTypes
open TsRuntime (ResponseIntent)

/-! The messages of a tab, oldest first. -/
section Console

def acks (min : UInt8) (ack : ReceivedMessage) : Bool :=
  !ack.isOutgoing &&
    ack.application.any fun app => logicalAckMatchesOutgoing min app.elements app.mrn

def hasLackForOutgoing (message : ReceivedMessage) (messages : List ReceivedMessage) : Bool :=
  message.isOutgoing && message.min.any fun min => messages.any (acks min)

structure SentTo (peer : String) (min : UInt8) (message : ReceivedMessage) : Prop where
  outgoing : message.isOutgoing = true
  addressee : message.toCallsign = some peer
  numbered : message.min = some min

/-- A message that is shown as acknowledged was acknowledged by its addressee after it was
sent. -/
def Attributed (messages : List ReceivedMessage) : Prop :=
  ∀ before message after peer min, messages = before ++ message :: after →
    SentTo peer min message → hasLackForOutgoing message messages = true →
    ∃ ack ∈ after, acks min ack = true ∧ ack.fromCallsign = some peer

def arrive (messages : List ReceivedMessage) (message : ReceivedMessage) : List ReceivedMessage :=
  messages ++ [message]

/-- A message is sent under a MIN that no acknowledgement has named, and the first
acknowledgement to name it comes from the addressee. -/
def Unmistakable (messages : List ReceivedMessage) (message : ReceivedMessage) : Prop :=
  (∀ peer min, SentTo peer min message → ∀ ack ∈ messages, acks min ack = false) ∧
  ∀ before sent after peer min, messages = before ++ sent :: after → SentTo peer min sent →
    (∀ ack ∈ after, acks min ack = false) → acks min message = true →
    message.fromCallsign = some peer

theorem exec_arrive (messages later : List ReceivedMessage) :
    exec arrive messages later = messages ++ later := by
  induction later generalizing messages with
  | nil => simp
  | cons message rest ih => rw [exec_cons, ih, arrive, List.append_assoc, List.singleton_append]

theorem has_lack_sent {message : ReceivedMessage} {peer : String} {min : UInt8}
    (sent : SentTo peer min message) (messages : List ReceivedMessage) :
    hasLackForOutgoing message messages = true ↔ ∃ ack ∈ messages, acks min ack = true := by
  simp [hasLackForOutgoing, sent.outgoing, sent.numbered]

theorem sent_no_ack {message : ReceivedMessage} {peer : String} {min other : UInt8}
    (sent : SentTo peer min message) : acks other message = false := by
  simp [acks, sent.outgoing]

/-- The last item of a list, or an earlier one with the last behind it. -/
theorem split_snoc {Item : Type} {items before after : List Item} {last item : Item}
    (split : items ++ [last] = before ++ item :: after) :
    (before = items ∧ item = last ∧ after = []) ∨
      ∃ between, after = between ++ [last] ∧ items = before ++ item :: between := by
  rcases List.eq_nil_or_concat after with rfl | ⟨between, final, rfl⟩
  · obtain ⟨same, tail⟩ := List.append_inj' split rfl
    exact Or.inl ⟨same.symm, (List.cons.inj tail).1.symm, rfl⟩
  · obtain ⟨same, tail⟩ := List.append_inj'
      (split.trans (by simp : _ = (before ++ item :: between) ++ [final])) rfl
    exact Or.inr ⟨between, by rw [(List.cons.inj tail).1, List.concat_eq_append], same⟩

theorem attributed_kept (messages : List ReceivedMessage) (message : ReceivedMessage)
    (attributed : Attributed messages) (unmistakable : Unmistakable messages message) :
    Attributed (arrive messages message) := by
  intro before sent after peer min split isSent shown
  obtain ⟨ack, member, named⟩ := (has_lack_sent isSent _).mp shown
  rcases split_snoc split with ⟨rfl, rfl, rfl⟩ | ⟨between, rfl, earlier⟩
  · -- the message itself has just been sent
    rcases List.mem_append.mp member with old | new
    · rw [unmistakable.1 peer min isSent ack old] at named
      cases named
    · rw [List.mem_singleton.mp new, sent_no_ack isSent] at named
      cases named
  · by_cases already : hasLackForOutgoing sent messages = true
    · obtain ⟨right, later, exact⟩ := attributed before sent between peer min earlier isSent already
      exact ⟨right, List.mem_append_left _ later, exact⟩
    · -- the first acknowledgement that names the message has just come
      have unnamed : ∀ ack ∈ messages, acks min ack = false := by
        simpa [has_lack_sent isSent] using already
      rcases List.mem_append.mp member with old | new
      · rw [unnamed ack old] at named
        cases named
      · obtain rfl := List.mem_singleton.mp new
        refine ⟨ack, by simp, named,
          unmistakable.2 before sent between peer min earlier isSent ?_ named⟩
        intro other among
        exact unnamed other (by simp [earlier, among])

theorem attributed_broken (messages : List ReceivedMessage) (message : ReceivedMessage)
    (mistakable : ¬ Unmistakable messages message) : ¬ Attributed (arrive messages message) := by
  intro attributed
  apply mistakable
  constructor
  · intro peer min isSent ack member
    by_contra named
    obtain ⟨right, later, _⟩ := attributed messages message [] peer min rfl isSent
      ((has_lack_sent isSent _).mpr ⟨ack, List.mem_append_left _ member, by simpa using named⟩)
    cases later
  · intro before sent after peer min earlier isSent unnamed named
    have split : arrive messages message = before ++ sent :: (after ++ [message]) := by
      rw [arrive, earlier, List.append_assoc, List.cons_append]
    obtain ⟨right, later, acked, addressee⟩ := attributed before sent (after ++ [message]) peer min
      split isSent ((has_lack_sent isSent _).mpr ⟨message, by simp [arrive], named⟩)
    rcases List.mem_append.mp later with old | new
    · rw [unnamed right old] at acked
      cases acked
    · rwa [List.mem_singleton.mp new] at addressee

theorem console_attributed_iff (messages : List ReceivedMessage) :
    Guarded arrive Unmistakable [] messages ↔ ∀ part, part <+: messages → Attributed part := by
  have start : Attributed [] := by
    intro before message after peer min split
    simp at split
  rw [guarded_exact arrive Unmistakable Attributed attributed_kept
    (fun messages message _ => attributed_broken messages message) [] start messages]
  simp only [exec_arrive, List.nil_append]

end Console

/-- In both clients a message is shown as acknowledged only by its addressee and in time, through
every history in which each message is sent under a MIN that is free of acknowledgements and the
first acknowledgement to name it comes from its addressee, and through no other. -/
theorem acknowledgements_attributed_iff (messages : List ReceivedMessage)
    (textOf : List TsElement → String) (responseIntentsOf : List TsElement → List ResponseIntent)
    (toUpperCase : String → String) (events : List HookEvent) :
    (Guarded arrive Unmistakable [] messages ↔ ∀ part, part <+: messages → Attributed part) ∧
    (Guarded (watch textOf responseIntentsOf toUpperCase) HookClear .initial events ↔
      ∀ before, before <+: events →
        HookAttributed (exec (watch textOf responseIntentsOf toUpperCase) .initial before)) :=
  ⟨console_attributed_iff messages,
    hook_attributed_iff textOf responseIntentsOf toUpperCase events⟩

/-! A controller who talks to two aircraft, and an aircraft with two stations. -/

def uplinkTo (callsign : String) (min : UInt8) : ReceivedMessage :=
  ⟨0, none, none, some callsign, some "CLIMB TO FL350", true, some min, none, none, false⟩

def lackOf (callsign : String) (mrn : UInt8) : ReceivedMessage :=
  let app : CpdlcApplicationMessage := ⟨1, some mrn, [⟨"DM100", []⟩], 0⟩
  ⟨0, some ⟨"", 0, none, ⟨.server "net", .server "net"⟩,
      .acars ⟨⟨⟨callsign, callsign⟩⟩, .cpdlc ⟨callsign, "LFPG", .application app⟩⟩, ""⟩,
    some callsign, none, none, false, some 1, some mrn, none, false⟩

/-- The acknowledgement of the one aircraft acknowledges the message to the other. -/
theorem foreign_acknowledgement_shown :
    let history := [uplinkTo "AFR123" 1, uplinkTo "BAW45" 1, lackOf "BAW45" 1]
    (∀ message ∈ history.take 2, hasLackForOutgoing message history = true) ∧
      ¬ Attributed history := by
  intro history
  refine ⟨by decide +kernel, ?_⟩
  intro attributed
  obtain ⟨ack, member, _, addressee⟩ := attributed [] (uplinkTo "AFR123" 1)
    [uplinkTo "BAW45" 1, lackOf "BAW45" 1] "AFR123" 1 rfl ⟨rfl, rfl, rfl⟩ (by decide +kernel)
  revert addressee
  revert ack
  decide

end OpenLink.AckAttribution
