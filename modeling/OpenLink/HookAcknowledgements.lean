import OpenLink.AckJournal
import OpenLink.DcduMessages
import OpenLink.Runs

/-!
The hook with a journal of the drafts it has sent and the acknowledgements it has
received. What it shows as acknowledged is what the journal marks.
-/
namespace OpenLink.HookAcknowledgements
open AckJournal Cpdlc DcduMessages Runs TsRuntime TsTypes UseOpenLink

variable (textOf : List TsElement → String)
  (responseIntentsOf : List TsElement → List ResponseIntent) (toUpperCase : String → String)

structure Watched where
  hook : HookState
  journal : List (Entry String (Option Nat))

def Watched.initial : Watched := ⟨.initial, []⟩

def published (messages : List DcduMessage) : Publication → Option (Entry String (Option Nat))
  | .draft messageId peer outgoingMin =>
      if messages.any fun message => message.id == messageId && message.isOutgoing then
        some (.sent messageId peer outgoingMin)
      else none
  | _ => none

def acknowledgement : TsMessage → Option (Entry String (Option Nat))
  | .acars _ ⟨source, _, .application app⟩ =>
      if messageContainsLogicalAck app.elements then
        app.mrn.map fun mrn => .ack source (some mrn)
      else none
  | _ => none

def observed (state : HookState) : HookEvent → Option (Entry String (Option Nat))
  | .receive _ message => acknowledgement message
  | .settled index true => (state.publishing[index]?).bind (published state.dcduMessages)
  | .disconnect => some .cleared
  | _ => none

def watch (watched : Watched) (event : HookEvent) : Watched where
  hook := hookStep textOf responseIntentsOf toUpperCase watched.hook event
  journal := (observed watched.hook event).toList ++ watched.journal

def HookAttributed (watched : Watched) : Prop :=
  ∀ message ∈ watched.hook.dcduMessages, message.isOutgoing = true →
    message.acknowledgedByAtc = true → ∀ peer min,
    sentAs message.id watched.journal = some (peer, min) →
    ackedSince message.id peer min watched.journal

def HookClear (watched : Watched) (event : HookEvent) : Prop :=
  ∀ entry ∈ observed watched.hook event, Clear watched.journal entry

structure Row where
  id : Nat
  min : Option Nat
  acknowledgedByAtc : Bool

def outgoingRow (message : DcduMessage) : Option Row :=
  if message.isOutgoing then some ⟨message.id, message.min, message.acknowledgedByAtc⟩ else none

def rowsOf (messages : List DcduMessage) : List Row := messages.filterMap outgoingRow

/-- The hook shows what the journal says. -/
structure Follows (rows : List Row) (nextId : Nat)
    (journal : List (Entry String (Option Nat))) : Prop where
  below : ∀ row ∈ rows, row.id < nextId
  told : ∀ row ∈ rows, row.min = (sentAs row.id journal).bind Prod.snd ∧
    (row.acknowledgedByAtc = true ↔ marked row.id journal)
  present : ∀ id peer min, sentAs id journal = some (peer, min) → ∃ row ∈ rows, row.id = id

structure Quiet (before after : HookState) : Prop where
  rows : ∃ added, rowsOf after.dcduMessages = rowsOf before.dcduMessages ++ added ∧
    ∀ row ∈ added, before.nextId ≤ row.id ∧ row.id < after.nextId ∧ row.min = none ∧
      row.acknowledgedByAtc = false
  grows : before.nextId ≤ after.nextId

theorem row_of {messages : List DcduMessage} {row : Row} :
    row ∈ rowsOf messages ↔ ∃ message ∈ messages, message.isOutgoing = true ∧
      row = ⟨message.id, message.min, message.acknowledgedByAtc⟩ := by
  simp only [rowsOf, List.mem_filterMap, outgoingRow]
  constructor
  · rintro ⟨message, member, found⟩
    split at found
    · next outgoing => exact ⟨message, member, outgoing, (Option.some.inj found).symm⟩
    · cases found
  · rintro ⟨message, member, outgoing, rfl⟩
    exact ⟨message, member, if_pos outgoing⟩

theorem unsent_id {rows : List Row} {nextId id : Nat} {journal : List (Entry String (Option Nat))}
    (follows : Follows rows nextId journal) (fresh : nextId ≤ id) : sentAs id journal = none := by
  cases sent : sentAs id journal with
  | none => rfl
  | some found =>
      obtain ⟨row, member, rfl⟩ := follows.present id found.1 found.2 sent
      exact absurd (follows.below row member) (Nat.not_lt_of_le fresh)

theorem quiet_follows {before after : HookState} {journal : List (Entry String (Option Nat))}
    (quiet : Quiet before after)
    (follows : Follows (rowsOf before.dcduMessages) before.nextId journal) :
    Follows (rowsOf after.dcduMessages) after.nextId journal := by
  obtain ⟨added, same, fresh⟩ := quiet.rows
  rw [same]
  constructor
  · intro row member
    rcases List.mem_append.mp member with old | new
    · exact Nat.lt_of_lt_of_le (follows.below row old) quiet.grows
    · exact (fresh row new).2.1
  · intro row member
    rcases List.mem_append.mp member with old | new
    · exact follows.told row old
    · obtain ⟨later, _, unnumbered, unmarked⟩ := fresh row new
      have unsent := unsent_id follows later
      have never : ¬ marked row.id journal := by
        intro isMarked
        obtain ⟨peer, number, sent⟩ := marked_sent isMarked
        rw [unsent] at sent
        cases sent
      simp [unsent, unnumbered, unmarked, never]
  · intro id peer min sent
    obtain ⟨row, member, named⟩ := follows.present id peer min sent
    exact ⟨row, List.mem_append_left _ member, named⟩

/-! What each operation of the hook adds and changes. -/

theorem quiet_change {before after : HookState}
    (same : rowsOf after.dcduMessages = rowsOf before.dcduMessages)
    (next : after.nextId = before.nextId) : Quiet before after :=
  ⟨⟨[], by rw [same, List.append_nil], by simp⟩, Nat.le_of_eq next.symm⟩

/-- One message is added, and if it is an outgoing one it has no MIN. -/
theorem quiet_added {before after : HookState} (message : DcduMessage)
    (rows : rowsOf after.dcduMessages =
      rowsOf before.dcduMessages ++ (outgoingRow message).toList)
    (next : after.nextId = before.nextId + 1) (named : message.id = before.nextId)
    (blank : message.isOutgoing = true → message.min = none ∧ message.acknowledgedByAtc = false) :
    Quiet before after := by
  refine ⟨⟨_, rows, ?_⟩, by omega⟩
  intro row member
  unfold outgoingRow at member
  split at member
  · next outgoing =>
      obtain rfl := List.mem_singleton.mp member
      exact ⟨Nat.le_of_eq named.symm, by simp only [named]; omega, blank outgoing⟩
  · cases member

theorem quiet_push (state : HookState) (message : Nat → DcduMessage)
    (named : (message state.nextId).id = state.nextId)
    (blank : (message state.nextId).isOutgoing = true →
      (message state.nextId).min = none ∧ (message state.nextId).acknowledgedByAtc = false) :
    Quiet state (state.push message) := by
  apply quiet_added (message state.nextId) _ rfl named blank
  simp [rowsOf, HookState.push, List.filterMap_append, List.filterMap_cons]
  cases outgoingRow (message state.nextId) <;> rfl

theorem rows_append (earlier later : List DcduMessage) :
    rowsOf (earlier ++ later) = rowsOf earlier ++ rowsOf later :=
  List.filterMap_append

theorem rows_map (change : DcduMessage → DcduMessage) (messages : List DcduMessage)
    (same : ∀ message ∈ messages, outgoingRow (change message) = outgoingRow message) :
    rowsOf (messages.map change) = rowsOf messages := by
  rw [rowsOf, List.filterMap_map]
  exact List.filterMap_congr same

theorem rows_with_message (messageId : Nat) (change : DcduMessage → DcduMessage)
    (messages : List DcduMessage)
    (same : ∀ message ∈ messages, message.id = messageId →
      outgoingRow (change message) = outgoingRow message) :
    rowsOf (withMessage messageId change messages) = rowsOf messages := by
  apply rows_map
  intro message member
  split
  · next named => exact same message member named
  · rfl

theorem quiet_with_message {before after : HookState} (messageId : Nat)
    (change : DcduMessage → DcduMessage)
    (changed : after.dcduMessages = withMessage messageId change before.dcduMessages)
    (next : after.nextId = before.nextId)
    (same : ∀ message, outgoingRow (change message) = outgoingRow message) :
    Quiet before after := by
  apply quiet_change _ next
  rw [changed]
  exact rows_with_message messageId change _ fun message _ _ => same message

theorem rows_incoming (message : DcduMessage) (incoming : message.isOutgoing = false)
    (messages : List DcduMessage) : rowsOf (addIncoming message messages) = rowsOf messages := by
  unfold addIncoming
  split
  · simp [rowsOf, outgoingRow, incoming]
  · rw [rows_append, rows_map]
    · simp [rowsOf, outgoingRow, incoming]
    · intro uplink _
      split <;> rfl

theorem quiet_display (state : HookState) (message : TsMessage)
    (silent : acknowledgement message = none) :
    Quiet state (display textOf responseIntentsOf state message) := by
  unfold display
  split
  · exact quiet_change rfl rfl
  · exact quiet_change rfl rfl
  · exact quiet_push state _ rfl fun outgoing => by cases outgoing
  · exact quiet_change rfl rfl
  · next source _ app =>
      split
      · next contains =>
          have unreferred : app.mrn = none := by
            simpa [acknowledgement, contains] using silent
          simp only [unreferred, acknowledge]
          exact quiet_change rfl rfl
      · refine ⟨⟨[], ?_, by simp⟩, Nat.le_succ _⟩
        rw [List.append_nil]
        exact rows_incoming _ rfl _

theorem reply_messages (state : HookState) (now : DateTime) (message : TsMessage) :
    (reply state now message).dcduMessages = state.dcduMessages ∧
      (reply state now message).nextId = state.nextId := by
  unfold reply
  split <;> exact ⟨rfl, rfl⟩

theorem quiet_settle (state : HookState) (success : Bool) (publication : Publication)
    (silent : success = true → published state.dcduMessages publication = none) :
    Quiet state (settle state success publication) := by
  cases publication with
  | logon callsign station =>
      simp only [settle]
      split
      · exact quiet_push state _ rfl fun _ => ⟨rfl, rfl⟩
      · exact quiet_change rfl rfl
  | response messageId responseLabel downlinkId =>
      refine quiet_with_message messageId _ rfl rfl ?_
      intro message
      split <;> rfl
  | draft messageId peer outgoingMin =>
      cases success with
      | false => exact quiet_with_message messageId _ rfl rfl fun _ => rfl
      | true =>
          have absent : ∀ message ∈ state.dcduMessages, message.id = messageId →
              message.isOutgoing = false := by
            simpa [published] using silent rfl
          refine quiet_change (rows_with_message messageId _ _ ?_) rfl
          intro message member named
          simp [outgoingRow, absent message member named]

theorem quiet_event (state : HookState) (event : HookEvent)
    (silent : observed state event = none) :
    Quiet state (hookStep textOf responseIntentsOf toUpperCase state event) := by
  cases event with
  | connect settings => exact quiet_change rfl rfl
  | disconnect => cases silent
  | receive now message =>
      obtain ⟨same, next⟩ := reply_messages state now message
      obtain ⟨⟨added, rows, fresh⟩, grows⟩ := quiet_display textOf responseIntentsOf
        (reply state now message) message silent
      rw [same, next] at *
      exact ⟨⟨added, rows, fresh⟩, grows⟩
  | sendLogonRequest station =>
      simp only [hookStep, sendLogonRequest]
      split <;> exact quiet_change rfl rfl
  | sendResponse now messageId responseLabel downlinkId =>
      simp only [hookStep, sendResponse]
      split
      · exact quiet_change rfl rfl
      · exact quiet_with_message messageId _ rfl rfl fun _ => rfl
  | transferToDcdu elements mrn => exact quiet_push state _ rfl fun _ => ⟨rfl, rfl⟩
  | sendDraft now messageId =>
      simp only [hookStep, sendDraft]
      split
      · split
        · exact quiet_change rfl rfl
        · exact quiet_with_message messageId _ rfl rfl fun _ => rfl
      · exact quiet_change rfl rfl
  | settled index success =>
      simp only [hookStep]
      split
      · exact quiet_change rfl rfl
      -- the rows change, but no publication that is observed was under way
      · next publication underWay =>
          obtain ⟨rows, grows⟩ := quiet_settle
            { state with publishing := state.publishing.eraseIdx index } success publication (by
              rintro rfl
              simpa [observed, underWay] using silent)
          exact ⟨rows, grows⟩

/-! An acknowledgement, and a draft that has been sent. -/

def Row.marked (mrn : Nat) (row : Row) : Row :=
  if row.min = some mrn then { row with acknowledgedByAtc := true } else row

def Row.sent (messageId : Nat) (min : Option Nat) (row : Row) : Row :=
  if row.id = messageId then { row with min := min } else row

theorem rows_mapped (change : DcduMessage → DcduMessage) (effect : Row → Row)
    (messages : List DcduMessage)
    (same : ∀ message, outgoingRow (change message) = (outgoingRow message).map effect) :
    rowsOf (messages.map change) = (rowsOf messages).map effect := by
  rw [rowsOf, rowsOf, List.filterMap_map, List.map_filterMap]
  exact List.filterMap_congr fun message _ => same message

theorem rows_acknowledged (mrn : Nat) (messages : List DcduMessage) :
    rowsOf (acknowledge (some mrn) messages) = (rowsOf messages).map (Row.marked mrn) := by
  apply rows_mapped
  intro message
  by_cases outgoing : message.isOutgoing = true <;> by_cases named : message.min = some mrn <;>
    simp [outgoingRow, Row.marked, outgoing, named]

theorem rows_sent (messageId : Nat) (status : DcduMessageStatus) (min : Option Nat)
    (messages : List DcduMessage) :
    rowsOf (withMessage messageId
        (fun message => { message with status := status, min := min }) messages) =
      (rowsOf messages).map (Row.sent messageId min) := by
  apply rows_mapped
  intro message
  by_cases outgoing : message.isOutgoing = true <;> by_cases named : message.id = messageId <;>
    simp [outgoingRow, Row.sent, outgoing, named]

section Told
variable {rows : List Row} {nextId : Nat} {journal : List (Entry String (Option Nat))}

theorem follows_ack (follows : Follows rows nextId journal) (source : String) (mrn : Nat) :
    Follows (rows.map (Row.marked mrn)) nextId (.ack source (some mrn) :: journal) := by
  have kept : ∀ row : Row, (row.marked mrn).id = row.id := by
    intro row
    unfold Row.marked
    split <;> rfl
  constructor
  · rw [List.forall_mem_map]
    intro row member
    rw [kept]
    exact follows.below row member
  · rw [List.forall_mem_map]
    intro row member
    obtain ⟨numbered, told⟩ := follows.told row member
    have referred : row.min = some mrn ↔
        (sentAs row.id journal).map Prod.snd = some (some mrn) := by
      rw [numbered]
      cases sentAs row.id journal <;> simp
    rw [kept]
    by_cases named : row.min = some mrn
    · have now := referred.mp named
      rw [Row.marked, if_pos named]
      exact ⟨numbered, fun _ => Or.inr now, fun _ => rfl⟩
    · have other := fun now => named (referred.mpr now)
      rw [Row.marked, if_neg named]
      exact ⟨numbered, told.trans ⟨Or.inl, fun later => later.resolve_right other⟩⟩
  · intro id peer min sent
    obtain ⟨row, member, named⟩ := follows.present id peer min sent
    exact ⟨row.marked mrn, List.mem_map_of_mem member, (kept row).trans named⟩

theorem follows_sent (follows : Follows rows nextId journal) (messageId : Nat) (peer : String)
    (min : Option Nat) (displayed : ∃ row ∈ rows, row.id = messageId) :
    Follows (rows.map (Row.sent messageId min)) nextId (.sent messageId peer min :: journal) := by
  have kept : ∀ row : Row, (row.sent messageId min).id = row.id := by
    intro row
    unfold Row.sent
    split <;> rfl
  constructor
  · rw [List.forall_mem_map]
    intro row member
    rw [kept]
    exact follows.below row member
  · rw [List.forall_mem_map]
    intro row member
    obtain ⟨numbered, told⟩ := follows.told row member
    rw [kept]
    by_cases named : row.id = messageId
    · rw [Row.sent, if_pos named]
      exact ⟨by simp [sentAs, named], told⟩
    · have other : ¬ messageId = row.id := fun same => named same.symm
      simp [Row.sent, named, sentAs, marked, other, numbered, told]
  · intro id addressee number sent
    by_cases named : messageId = id
    · obtain ⟨row, member, same⟩ := displayed
      exact ⟨row.sent messageId min, List.mem_map_of_mem member,
        (kept row).trans (same.trans named)⟩
    · rw [sentAs, if_neg named] at sent
      obtain ⟨row, member, same⟩ := follows.present id addressee number sent
      exact ⟨row.sent messageId min, List.mem_map_of_mem member, (kept row).trans same⟩

theorem follows_cleared (nextId : Nat) (journal : List (Entry String (Option Nat))) :
    Follows [] nextId (.cleared :: journal) :=
  ⟨by simp, by simp, by simp [sentAs]⟩

end Told

theorem acknowledgement_cases {message : TsMessage} {entry : Entry String (Option Nat)}
    (found : acknowledgement message = some entry) :
    ∃ aircraft source destination app mrn,
      message = .acars aircraft ⟨source, destination, .application app⟩ ∧
      messageContainsLogicalAck app.elements = true ∧ app.mrn = some mrn ∧
      entry = .ack source (some mrn) := by
  unfold acknowledgement at found
  split at found
  · next aircraft source destination app =>
      split at found
      · next contains =>
          obtain ⟨mrn, referred, rfl⟩ := Option.map_eq_some_iff.mp found
          exact ⟨aircraft, source, destination, app, mrn, rfl, contains, referred, rfl⟩
      · cases found
  · cases found

theorem published_cases {messages : List DcduMessage} {publication : Publication}
    {entry : Entry String (Option Nat)} (found : published messages publication = some entry) :
    ∃ messageId peer min, publication = .draft messageId peer min ∧
      entry = .sent messageId peer min ∧ ∃ row ∈ rowsOf messages, row.id = messageId := by
  unfold published at found
  split at found
  · next messageId peer min =>
      split at found
      · next displayed =>
          obtain ⟨message, member, named⟩ := List.any_eq_true.mp displayed
          obtain ⟨same, outgoing⟩ := Bool.and_eq_true_iff.mp named
          exact ⟨messageId, peer, min, rfl, (Option.some.inj found).symm, _,
            row_of.mpr ⟨message, member, outgoing, rfl⟩, by simpa using same⟩
      · cases found
  · cases found

theorem follows_received (state : HookState) (now : DateTime) {message : TsMessage}
    {entry : Entry String (Option Nat)} (found : acknowledgement message = some entry)
    {journal : List (Entry String (Option Nat))}
    (follows : Follows (rowsOf state.dcduMessages) state.nextId journal) :
    let after := hookStep textOf responseIntentsOf toUpperCase state (.receive now message)
    Follows (rowsOf after.dcduMessages) after.nextId (entry :: journal) := by
  intro after
  obtain ⟨aircraft, source, destination, app, mrn, rfl, contains, referred, rfl⟩ :=
    acknowledgement_cases found
  obtain ⟨same, next⟩ := reply_messages state now
    (.acars aircraft ⟨source, destination, .application app⟩)
  have rows : rowsOf after.dcduMessages = (rowsOf state.dcduMessages).map (Row.marked mrn) := by
    simp only [after, hookStep, display, contains, if_true, referred, same]
    exact rows_acknowledged mrn _
  have numbered : after.nextId = state.nextId := by
    simp only [after, hookStep, display, contains, if_true, next]
  rw [rows, numbered]
  exact follows_ack follows source mrn

theorem follows_published (state : HookState) (index : Nat)
    {entry : Entry String (Option Nat)}
    (found : (state.publishing[index]?).bind (published state.dcduMessages) = some entry)
    {journal : List (Entry String (Option Nat))}
    (follows : Follows (rowsOf state.dcduMessages) state.nextId journal) :
    let after := hookStep textOf responseIntentsOf toUpperCase state (.settled index true)
    Follows (rowsOf after.dcduMessages) after.nextId (entry :: journal) := by
  intro after
  obtain ⟨publication, underWay, sent⟩ := Option.bind_eq_some_iff.mp found
  obtain ⟨messageId, peer, min, rfl, rfl, displayed⟩ := published_cases sent
  have rows : rowsOf after.dcduMessages =
      (rowsOf state.dcduMessages).map (Row.sent messageId min) := by
    simp only [after, hookStep, underWay, settle, if_true]
    exact rows_sent messageId .sent min _
  have numbered : after.nextId = state.nextId := by
    simp only [after, hookStep, underWay, settle]
  rw [rows, numbered]
  exact follows_sent follows messageId peer min displayed

theorem follows_watch (watched : Watched)
    (follows : Follows (rowsOf watched.hook.dcduMessages) watched.hook.nextId watched.journal)
    (event : HookEvent) :
    let after := watch textOf responseIntentsOf toUpperCase watched event
    Follows (rowsOf after.hook.dcduMessages) after.hook.nextId after.journal := by
  intro after
  cases seen : observed watched.hook event with
  | none =>
      have quiet := quiet_event textOf responseIntentsOf toUpperCase watched.hook event seen
      have same : after.journal = watched.journal := by
        simp [after, watch, seen]
      rw [same]
      exact quiet_follows quiet follows
  | some entry =>
      have journal : after.journal = entry :: watched.journal := by
        simp [after, watch, seen]
      rw [journal]
      -- only what the journal records is left
      cases event with
      | disconnect =>
          obtain rfl := Option.some.inj seen
          exact follows_cleared _ _
      | receive now message =>
          exact follows_received textOf responseIntentsOf toUpperCase watched.hook now seen follows
      | settled index success =>
          cases success with
          | false => cases seen
          | true =>
              exact follows_published textOf responseIntentsOf toUpperCase watched.hook index seen
                follows
      | connect settings => cases seen
      | sendLogonRequest station => cases seen
      | sendResponse now messageId responseLabel downlinkId => cases seen
      | transferToDcdu elements mrn => cases seen
      | sendDraft now messageId => cases seen

theorem follows_initial :
    Follows (rowsOf Watched.initial.hook.dcduMessages) Watched.initial.hook.nextId
      Watched.initial.journal :=
  ⟨by simp [Watched.initial, HookState.initial, rowsOf],
    by simp [Watched.initial, HookState.initial, rowsOf],
    by simp [Watched.initial, sentAs]⟩

/-- What the hook shows is right exactly when its journal is. -/
theorem attributed_journal (watched : Watched)
    (follows : Follows (rowsOf watched.hook.dcduMessages) watched.hook.nextId watched.journal) :
    HookAttributed watched ↔ JournalAttributed watched.journal := by
  constructor
  · intro attributed id peer min sent isMarked
    obtain ⟨row, member, rfl⟩ := follows.present id peer min sent
    obtain ⟨message, displayed, outgoing, rfl⟩ := row_of.mp member
    exact attributed message displayed outgoing ((follows.told _ member).2.mpr isMarked) peer min
      sent
  · intro attributed message member outgoing acknowledged peer min sent
    have row : (⟨message.id, message.min, message.acknowledgedByAtc⟩ : Row) ∈
        rowsOf watched.hook.dcduMessages := row_of.mpr ⟨message, member, outgoing, rfl⟩
    exact attributed message.id peer min sent ((follows.told _ row).2.mp acknowledged)

theorem hook_kept (watched : Watched)
    (follows : Follows (rowsOf watched.hook.dcduMessages) watched.hook.nextId watched.journal)
    (event : HookEvent) :
    HookAttributed (watch textOf responseIntentsOf toUpperCase watched event) ↔
      JournalAttributed ((observed watched.hook event).toList ++ watched.journal) :=
  attributed_journal _ (follows_watch textOf responseIntentsOf toUpperCase watched follows event)

theorem hook_attributed_iff (events : List HookEvent) :
    Guarded (watch textOf responseIntentsOf toUpperCase) HookClear .initial events ↔
      ∀ before, before <+: events →
        HookAttributed (exec (watch textOf responseIntentsOf toUpperCase) .initial before) := by
  let told (watched : Watched) : Prop :=
    Follows (rowsOf watched.hook.dcduMessages) watched.hook.nextId watched.journal
  have kept : ∀ watched event, told watched →
      told (watch textOf responseIntentsOf toUpperCase watched event) :=
    fun watched event follows =>
      follows_watch textOf responseIntentsOf toUpperCase watched follows event
  have invariant : ∀ before, told (exec (watch textOf responseIntentsOf toUpperCase) .initial
      before) :=
    run_invariant _ told kept .initial follows_initial
  have start : HookAttributed .initial := by
    intro message member
    cases member
  rw [guarded_exact _ HookClear (fun watched => told watched ∧ HookAttributed watched) ?_ ?_
    .initial ⟨follows_initial, start⟩ events]
  · exact ⟨fun both before part => (both before part).2,
      fun right before part => ⟨invariant before, right before part⟩⟩
  · rintro watched event ⟨follows, attributed⟩ clear
    refine ⟨kept watched event follows, (hook_kept _ _ _ watched follows event).mpr ?_⟩
    have before := (attributed_journal watched follows).mp attributed
    cases seen : observed watched.hook event with
    | none => exact before
    | some entry => exact journal_kept _ entry before (clear entry seen)
  · rintro watched event ⟨follows, attributed⟩ unclear ⟨_, after⟩
    have later := (hook_kept _ _ _ watched follows event).mp after
    apply unclear
    intro entry seen
    have observation : observed watched.hook event = some entry := seen
    rw [observation] at later
    by_contra mistaken
    exact journal_broken _ entry mistaken later

end OpenLink.HookAcknowledgements
