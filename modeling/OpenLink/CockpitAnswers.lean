import OpenLink.CockpitUnits

/-!
What comes of the pilot's keys, whenever the publications succeed or fail and whatever arrives in
between: no uplink gets a second definite response, and a draft is sent twice only where its key is
pressed while it is being sent.
-/
namespace OpenLink.CockpitAnswers
open CockpitUnits Cpdlc DcduMessages DcduScreen Runs Tickets TsRuntime TsTypes

/-! The messages of a hook. -/
section Rows

def Row (hook : HookState) (messageId : Nat) (holds : DcduMessage → Prop) : Prop :=
  messageId < hook.nextId ∧ ∀ message ∈ hook.dcduMessages, message.id = messageId → holds message

def Underway (message : DcduMessage) : Prop :=
  message.isOutgoing = false ∧ (message.status = .responding ∨ message.status = .responded)

def Closed (message : DcduMessage) : Prop :=
  message.isOutgoing = false ∧ message.status = .responded

def Gone (message : DcduMessage) : Prop :=
  message.isOutgoing = true ∧ message.status = .sent

def Composed (message : DcduMessage) : Prop :=
  message.isOutgoing = true ∧ message.elements.isSome = true

structure Named (hook : HookState) : Prop where
  distinct : (hook.dcduMessages.map DcduMessage.id).Nodup
  known : ∀ message ∈ hook.dcduMessages, message.id < hook.nextId
  composed : ∀ message ∈ hook.dcduMessages,
    message.status = .draft ∨ message.status = .sending → Composed message

variable {status : DcduMessage → DcduMessageStatus → Prop} {before after : HookState}
  {messageId : Nat} {was holds : DcduMessage → Prop}

theorem row_after (stems : Stems status before after) (row : Row before messageId was)
    (kept : ∀ earlier ∈ before.dcduMessages, earlier.id = messageId → was earlier →
      ∀ message, Kept status earlier message → holds message) : Row after messageId holds := by
  refine ⟨row.1.trans_le (stems_next stems), fun message member same => ?_⟩
  rcases stems.rows message member with added | ⟨earlier, present, keeps⟩
  · have since := added.since
    rw [same] at since
    exact absurd row.1 since.not_gt
  · have named : earlier.id = messageId := keeps.id.symm.trans same
    exact kept earlier present named (row.2 earlier present named) message keeps

theorem named_after (stems : Stems status before after) (named : Named before)
    (turns : ∀ earlier ∈ before.dcduMessages, ∀ own, status earlier own →
      own = .draft ∨ own = .sending → Composed earlier) : Named after where
  distinct := by
    obtain ⟨old, part, ⟨same, _⟩ | ⟨longer, _⟩⟩ := stems.ids
    · rw [same]
      exact part.nodup named.distinct
    · rw [longer, ← List.concat_eq_append]
      refine (part.nodup named.distinct).concat fun among => ?_
      obtain ⟨message, member, same⟩ := List.mem_map.mp (part.subset among)
      exact absurd (named.known message member) (by omega)
  known := by
    intro message member
    rcases stems.rows message member with added | ⟨earlier, present, keeps⟩
    · exact added.below
    · rw [keeps.id]
      exact (named.known earlier present).trans_le (stems_next stems)
  composed := by
    intro message member unsent
    rcases stems.rows message member with added | ⟨earlier, present, keeps⟩
    · exact added.composed (unsent.resolve_right added.idle)
    · rw [Composed, keeps.isOutgoing, keeps.elements]
      exact turns earlier present _ keeps.status unsent

theorem onward_named (stems : Stems Onward before after) (named : Named before) : Named after := by
  refine named_after stems named fun earlier present own onward unsent => ?_
  rcases onward with same | ⟨_, closed⟩
  · exact named.composed earlier present (same ▸ unsent)
  · subst closed
    simp at unsent

theorem turned_named {own : DcduMessageStatus} (stems : Stems (Turned messageId own) before after)
    (named : Named before)
    (turns : own = .draft ∨ own = .sending → ∀ message ∈ before.dcduMessages,
      message.id = messageId → Composed message) : Named after := by
  refine named_after stems named fun earlier present other turned unsent => ?_
  unfold Turned at turned
  split at turned
  · next here => exact turns (turned ▸ unsent) earlier present here
  · exact named.composed earlier present (turned ▸ unsent)

def Lasting (holds : DcduMessage → Prop) : Prop :=
  ∀ earlier message, Kept (fun earlier status => status = earlier.status) earlier message →
    holds earlier → holds message

theorem underway_lasting : Lasting Underway := by
  intro earlier message kept underway
  rwa [Underway, kept.isOutgoing, kept.status]

theorem closed_lasting : Lasting Closed := by
  intro earlier message kept closed
  rwa [Closed, kept.isOutgoing, kept.status]

theorem gone_lasting : Lasting Gone := by
  intro earlier message kept gone
  rwa [Gone, kept.isOutgoing, kept.status]

/-- Whatever a step does, what the pilot has composed stays so. -/
theorem composed_row (stems : Stems status before after) (row : Row before messageId Composed) :
    Row after messageId Composed := by
  refine row_after stems row fun earlier _ _ composed message kept => ?_
  rwa [Composed, kept.isOutgoing, kept.elements]

theorem onward_row (stems : Stems Onward before after) (lasting : Lasting holds)
    (row : Row before messageId holds)
    (closes : ∀ earlier message, holds earlier → earlier.isOutgoing = false →
      Kept (fun _ status => status = .responded) earlier message → holds message) :
    Row after messageId holds := by
  refine row_after stems row fun earlier _ _ held message kept => ?_
  rcases kept.status with same | ⟨incoming, closed⟩
  · exact lasting earlier message { kept with status := same } held
  · exact closes earlier message held incoming { kept with status := closed }

theorem turned_row {own : DcduMessageStatus} {other : Nat}
    (stems : Stems (Turned messageId own) before after) (lasting : Lasting holds)
    (row : Row before other holds)
    (apart : ∀ earlier ∈ before.dcduMessages, earlier.id = other → holds earlier →
      other ≠ messageId) : Row after other holds := by
  refine row_after stems row fun earlier present named held message kept => ?_
  have elsewhere : earlier.id ≠ messageId := named ▸ apart earlier present named held
  exact lasting earlier message { kept with status := kept.status.trans (if_neg elsewhere) } held

theorem turned_own {own : DcduMessageStatus} (stems : Stems (Turned messageId own) before after)
    (row : Row before messageId was)
    (kept : ∀ earlier message, was earlier → Kept (fun _ status => status = own) earlier message →
      holds message) : Row after messageId holds := by
  refine row_after stems row fun earlier _ named held message keeps => ?_
  exact kept earlier message held { keeps with status := keeps.status.trans (if_pos named) }

theorem named_row (named : Named before) {message : DcduMessage}
    (member : message ∈ before.dcduMessages) :
    Row before message.id fun other => other = message :=
  ⟨named.known message member, fun _ present same =>
    List.inj_on_of_nodup_map named.distinct present member same⟩

theorem find_named (named : Named before) {message : DcduMessage}
    (member : message ∈ before.dcduMessages) :
    before.dcduMessages.find? (fun other => decide (other.id = message.id)) = some message := by
  cases found : before.dcduMessages.find? fun other => decide (other.id = message.id) with
  | none => simpa using List.find?_eq_none.mp found message member
  | some other =>
      have same : other.id = message.id := by simpa using List.find?_some found
      rw [(named_row named member).2 other (List.mem_of_find?_eq_some found) same]

end Rows

/-! The responses. -/
section Responses

/-- An uplink is marked while a response to it is under way, and closed by a definite one. -/
structure Tidy (hook : HookState) (journal : Journal) : Prop where
  named : Named hook
  underway : ∀ messageId ∈ responses hook, Row hook messageId Underway
  closed : ∀ messageId, Settled definite journal.answers messageId → Row hook messageId Closed
  composed : ∀ messageId ∈ drafts hook, Row hook messageId Composed
  orderly : Orderly definite (responses hook) journal.answers

variable {sendable : DcduMessageStatus → Prop} {before after : HookState}
  {journal noted : Journal}

theorem tidy_quiet (tidy : Tidy before journal) (stems : Stems Onward before after)
    (answering : (responses after).Perm (responses before))
    (sending : (drafts after).Perm (drafts before)) : Tidy after journal where
  named := onward_named stems tidy.named
  underway := by
    intro messageId waits
    refine onward_row stems underway_lasting
      (tidy.underway messageId (answering.mem_iff.mp waits)) ?_
    intro earlier message _ incoming kept
    exact ⟨kept.isOutgoing.trans incoming, .inr kept.status⟩
  closed := by
    intro messageId settled
    refine onward_row stems closed_lasting (tidy.closed messageId settled) ?_
    intro earlier message _ incoming kept
    exact ⟨kept.isOutgoing.trans incoming, kept.status⟩
  composed := fun messageId waits =>
    composed_row stems (tidy.composed messageId (sending.mem_iff.mp waits))
  orderly := orderly_perm tidy.orderly answering

theorem tidy_response (tidy : Tidy before journal) (messageId : Nat)
    (answerable : Answerable before.dcduMessages messageId)
    (stems : Stems (Turned messageId .responding) before after)
    (answering : responses after = responses before ++ [messageId])
    (sending : drafts after = drafts before) : Tidy after journal := by
  obtain ⟨uplink, member, rfl, incoming, idle, unanswered⟩ := answerable
  have alone := named_row tidy.named member
  have unasked : uplink.id ∉ responses before := by
    intro waits
    rcases ((tidy.underway _ waits).2 uplink member rfl).2 with responding | responded
    · exact idle responding
    · exact unanswered responded
  have unsettled : ¬ Settled definite journal.answers uplink.id := fun settled =>
    unanswered ((tidy.closed _ settled).2 uplink member rfl).2
  constructor
  · exact turned_named stems tidy.named (by simp)
  · intro other waits
    rw [answering] at waits
    rcases List.mem_append.mp waits with old | new
    · exact turned_row stems underway_lasting (tidy.underway other old) fun _ _ _ _ same =>
        unasked (same ▸ old)
    · obtain rfl := List.mem_singleton.mp new
      refine turned_own stems alone fun earlier message same kept => ?_
      subst same
      exact ⟨kept.isOutgoing.trans incoming, .inl kept.status⟩
  · intro other settled
    exact turned_row stems closed_lasting (tidy.closed other settled) fun _ _ _ _ same =>
      unsettled (same ▸ settled)
  · intro other waits
    exact composed_row stems (tidy.composed other (sending ▸ waits))
  · rw [answering]
    exact orderly_issue tidy.orderly unasked unsettled

theorem tidy_draft (tidy : Tidy before journal) (draft : DcduMessage)
    (among : draft ∈ before.dcduMessages) (unsent : draft.status = .draft ∨ draft.status = .sending)
    (stems : Stems (Turned draft.id .sending) before after)
    (answering : responses after = responses before)
    (sending : drafts after = drafts before ++ [draft.id]) : Tidy after journal := by
  have alone := named_row tidy.named among
  have own := tidy.named.composed draft among unsent
  have outgoing (other : Nat) (earlier : DcduMessage) (present : earlier ∈ before.dcduMessages)
      (named : earlier.id = other) (incoming : earlier.isOutgoing = false) : other ≠ draft.id := by
    rintro rfl
    rw [alone.2 earlier present named, own.1] at incoming
    cases incoming
  constructor
  · refine turned_named stems tidy.named fun _ message member same => ?_
    exact alone.2 message member same ▸ own
  · intro other waits
    rw [answering] at waits
    exact turned_row stems underway_lasting (tidy.underway other waits)
      fun earlier present named held => outgoing other earlier present named held.1
  · intro other settled
    exact turned_row stems closed_lasting (tidy.closed other settled)
      fun earlier present named held => outgoing other earlier present named held.1
  · intro other waits
    rw [sending] at waits
    rcases List.mem_append.mp waits with old | new
    · exact composed_row stems (tidy.composed other old)
    · obtain rfl := List.mem_singleton.mp new
      exact composed_row stems ⟨alone.1, fun message member same =>
        alone.2 message member same ▸ own⟩
  · rw [answering]
    exact tidy.orderly

/-- The outcome of a response leaves the other responses as they are. -/
theorem tidy_outcome (tidy : Tidy before journal) (messageId : Nat) {own : DcduMessageStatus}
    (stems : Stems (Turned messageId own) before after)
    (settles : own ≠ .draft ∧ own ≠ .sending)
    (answering : (responses before).Perm (messageId :: responses after))
    (sending : (drafts before).Perm (drafts after))
    (closed : ∀ other, Settled definite noted.answers other →
      Settled definite journal.answers other ∨ other = messageId ∧ own = .responded)
    (orderly : Orderly definite (responses after) noted.answers) : Tidy after noted := by
  have waited : messageId ∈ responses before := answering.mem_iff.mpr List.mem_cons_self
  have gone : messageId ∉ responses after :=
    (List.nodup_cons.mp (answering.nodup_iff.mp tidy.orderly.single)).1
  constructor
  · refine turned_named stems tidy.named fun unsent => ?_
    rcases unsent with draft | sending
    · exact absurd draft settles.1
    · exact absurd sending settles.2
  · intro other waits
    have earlier : other ∈ responses before := answering.mem_iff.mpr (List.mem_cons_of_mem _ waits)
    exact turned_row stems underway_lasting (tidy.underway other earlier) fun _ _ _ _ same =>
      gone (same ▸ waits)
  · intro other settled
    rcases closed other settled with old | ⟨rfl, responded⟩
    · refine turned_row stems closed_lasting (tidy.closed other old) fun _ _ _ _ same => ?_
      exact tidy.orderly.closed other old (same ▸ waited)
    · refine turned_own stems (tidy.underway other waited) fun earlier message held kept => ?_
      exact ⟨kept.isOutgoing.trans held.1, kept.status.trans responded⟩
  · intro other waits
    exact composed_row stems (tidy.composed other (sending.mem_iff.mpr waits))
  · exact orderly

theorem tidy_sent (tidy : Tidy before journal) (messageId : Nat) {own : DcduMessageStatus}
    (stems : Stems (Turned messageId own) before after)
    (answering : (responses before).Perm (responses after))
    (sending : (drafts before).Perm (messageId :: drafts after))
    (same : noted.answers = journal.answers) : Tidy after noted := by
  have row := tidy.composed messageId (sending.mem_iff.mpr List.mem_cons_self)
  have outgoing (other : Nat) (earlier : DcduMessage) (present : earlier ∈ before.dcduMessages)
      (named : earlier.id = other) (incoming : earlier.isOutgoing = false) : other ≠ messageId := by
    rintro rfl
    rw [(row.2 earlier present named).1] at incoming
    cases incoming
  constructor
  · exact turned_named stems tidy.named fun _ message member named => row.2 message member named
  · intro other waits
    exact turned_row stems underway_lasting (tidy.underway other (answering.mem_iff.mpr waits))
      fun earlier present named held => outgoing other earlier present named held.1
  · intro other settled
    rw [same] at settled
    exact turned_row stems closed_lasting (tidy.closed other settled)
      fun earlier present named held => outgoing other earlier present named held.1
  · intro other waits
    exact composed_row stems
      (tidy.composed other (sending.mem_iff.mpr (List.mem_cons_of_mem _ waits)))
  · rw [same]
    exact orderly_perm tidy.orderly answering.symm

theorem tidy_effect (sends : ∀ status, sendable status → status = .draft ∨ status = .sending)
    (tidy : Tidy before journal) (effect : Effect sendable before journal after noted) :
    Tidy after noted := by
  cases effect with
  | quiet stems answering sending => exact tidy_quiet tidy stems answering sending
  | response messageId answerable stems answering sending =>
      exact tidy_response tidy messageId answerable stems answering sending
  | draft draft among unsent stems answering sending =>
      exact tidy_draft tidy draft among (sends _ unsent) stems answering sending
  | answered messageId downlinkId stems answering sending =>
      refine tidy_outcome tidy messageId stems (by split <;> simp) answering sending ?_
        (orderly_succeed tidy.orderly answering downlinkId)
      rintro other ⟨result, member, isDefinite⟩
      rcases List.mem_append.mp member with old | new
      · exact .inl ⟨result, old, isDefinite⟩
      · obtain ⟨rfl, rfl⟩ := Prod.mk.inj (List.mem_singleton.mp new)
        exact .inr ⟨rfl, if_neg (by simpa [definite] using isDefinite)⟩
  | refused messageId stems answering sending =>
      exact tidy_outcome tidy messageId stems (by simp) answering sending
        (fun _ settled => .inl settled) (orderly_fail tidy.orderly answering)
  | delivered messageId stems answering sending =>
      exact tidy_sent tidy messageId stems answering sending rfl
  | returned messageId stems answering sending =>
      exact tidy_sent tidy messageId stems answering sending rfl

end Responses

/-! The drafts. -/
section Drafts

def always : Unit → Bool := fun _ => true

structure Sole (hook : HookState) (journal : Journal) : Prop where
  busy : ∀ message ∈ hook.dcduMessages, message.status = .sending ↔ message.id ∈ drafts hook
  gone : ∀ messageId, Settled always journal.sent messageId → Row hook messageId Gone
  orderly : Orderly always (drafts hook) journal.sent

variable {status : DcduMessage → DcduMessageStatus → Prop} {before after : HookState}
  {journal noted : Journal}

theorem busy_after (stems : Stems status before after)
    (known : ∀ messageId ∈ drafts after, messageId < before.nextId)
    (kept : ∀ earlier ∈ before.dcduMessages, ∀ own, status earlier own →
      (own = .sending ↔ earlier.id ∈ drafts after)) :
    ∀ message ∈ after.dcduMessages, message.status = .sending ↔ message.id ∈ drafts after := by
  intro message member
  rcases stems.rows message member with added | ⟨earlier, present, keeps⟩
  · refine iff_of_false added.idle fun waits => ?_
    exact absurd (known _ waits) added.since.not_gt
  · rw [keeps.id]
    exact kept earlier present _ keeps.status

theorem sole_quiet (tidy : Tidy before journal) (sole : Sole before journal)
    (stems : Stems Onward before after) (sending : (drafts after).Perm (drafts before)) :
    Sole after journal where
  busy := by
    refine busy_after stems (fun messageId waits =>
      (tidy.composed messageId (sending.mem_iff.mp waits)).1) fun earlier present own onward => ?_
    rw [sending.mem_iff]
    rcases onward with same | ⟨incoming, closed⟩
    · rw [same]
      exact sole.busy earlier present
    · subst closed
      refine iff_of_false (by simp) fun waits => ?_
      have outgoing := ((tidy.composed _ waits).2 earlier present rfl).1
      rw [incoming] at outgoing
      cases outgoing
  gone := by
    intro messageId settled
    refine onward_row stems gone_lasting (sole.gone messageId settled) ?_
    intro earlier message gone incoming _
    rw [gone.1] at incoming
    cases incoming
  orderly := orderly_perm sole.orderly sending

theorem sole_uplink (tidy : Tidy before journal) (sole : Sole before journal) (messageId : Nat)
    {own : DcduMessageStatus} (stems : Stems (Turned messageId own) before after)
    (incoming : ∀ message ∈ before.dcduMessages, message.id = messageId →
      message.isOutgoing = false)
    (settles : own ≠ .sending) (sending : (drafts after).Perm (drafts before))
    (same : noted.sent = journal.sent) : Sole after noted where
  busy := by
    refine busy_after stems (fun other waits =>
      (tidy.composed other (sending.mem_iff.mp waits)).1) fun earlier present own turned => ?_
    rw [sending.mem_iff]
    unfold Turned at turned
    split at turned
    · next here =>
        refine iff_of_false (turned ▸ settles) fun waits => ?_
        have outgoing := ((tidy.composed _ waits).2 earlier present rfl).1
        rw [incoming earlier present here] at outgoing
        cases outgoing
    · rw [turned]
      exact sole.busy earlier present
  gone := by
    intro other settled
    rw [same] at settled
    refine turned_row stems gone_lasting (sole.gone other settled) ?_
    rintro earlier present named gone rfl
    have outgoing := gone.1
    rw [incoming earlier present named] at outgoing
    cases outgoing
  orderly := by
    rw [same]
    exact orderly_perm sole.orderly sending

theorem sole_draft (tidy : Tidy before journal) (sole : Sole before journal) (draft : DcduMessage)
    (among : draft ∈ before.dcduMessages) (unsent : draft.status = .draft)
    (stems : Stems (Turned draft.id .sending) before after)
    (sending : drafts after = drafts before ++ [draft.id]) : Sole after journal := by
  have idle : draft.id ∉ drafts before := by
    intro waits
    have busy := (sole.busy draft among).mpr waits
    rw [unsent] at busy
    cases busy
  have unsettled : ¬ Settled always journal.sent draft.id := by
    intro settled
    have gone := ((sole.gone _ settled).2 draft among rfl).2
    rw [unsent] at gone
    cases gone
  constructor
  · refine busy_after stems ?_ fun earlier present own turned => ?_
    · intro other waits
      rw [sending] at waits
      rcases List.mem_append.mp waits with old | new
      · exact (tidy.composed other old).1
      · obtain rfl := List.mem_singleton.mp new
        exact tidy.named.known draft among
    · rw [sending, List.mem_append, List.mem_singleton]
      unfold Turned at turned
      split at turned
      · next here => exact iff_of_true turned (.inr here)
      · next elsewhere =>
          rw [turned, sole.busy earlier present]
          exact (or_iff_left elsewhere).symm
  · intro other settled
    exact turned_row stems gone_lasting (sole.gone other settled) fun _ _ _ _ same =>
      unsettled (same ▸ settled)
  · rw [sending]
    exact orderly_issue sole.orderly idle unsettled

theorem sole_outcome (tidy : Tidy before journal) (sole : Sole before journal) (messageId : Nat)
    {own : DcduMessageStatus} (stems : Stems (Turned messageId own) before after)
    (settles : own ≠ .sending) (sending : (drafts before).Perm (messageId :: drafts after))
    (gone : ∀ other, Settled always noted.sent other →
      Settled always journal.sent other ∨ other = messageId ∧ own = .sent)
    (orderly : Orderly always (drafts after) noted.sent) : Sole after noted := by
  have waited : messageId ∈ drafts before := sending.mem_iff.mpr List.mem_cons_self
  have left : messageId ∉ drafts after :=
    (List.nodup_cons.mp (sending.nodup_iff.mp sole.orderly.single)).1
  constructor
  · refine busy_after stems (fun other waits =>
      (tidy.composed other (sending.mem_iff.mpr (List.mem_cons_of_mem _ waits))).1)
      fun earlier present own turned => ?_
    unfold Turned at turned
    split at turned
    · next here =>
        rw [here]
        exact iff_of_false (turned ▸ settles) left
    · next elsewhere =>
        rw [turned, sole.busy earlier present, sending.mem_iff, List.mem_cons]
        exact or_iff_right elsewhere
  · intro other settled
    rcases gone other settled with old | ⟨rfl, sent⟩
    · refine turned_row stems gone_lasting (sole.gone other old) fun _ _ _ _ same => ?_
      exact sole.orderly.closed other old (same ▸ waited)
    · refine turned_own stems (tidy.composed other waited) fun earlier message held kept => ?_
      exact ⟨kept.isOutgoing.trans held.1, kept.status.trans sent⟩
  · exact orderly

theorem sole_effect (tidy : Tidy before journal) (sole : Sole before journal)
    (effect : Effect (fun status => status = .draft) before journal after noted) :
    Sole after noted := by
  have incoming (messageId : Nat) (waits : messageId ∈ responses before) :
      ∀ message ∈ before.dcduMessages, message.id = messageId → message.isOutgoing = false :=
    fun message present same => ((tidy.underway messageId waits).2 message present same).1
  cases effect with
  | quiet stems _ sending => exact sole_quiet tidy sole stems sending
  | response messageId answerable stems _ sending =>
      obtain ⟨uplink, member, rfl, direction, _⟩ := answerable
      refine sole_uplink tidy sole uplink.id stems ?_ (by simp) (by rw [sending]) rfl
      intro message present same
      rw [(named_row tidy.named member).2 message present same]
      exact direction
  | draft draft among unsent stems _ sending =>
      exact sole_draft tidy sole draft among unsent stems sending
  | answered messageId downlinkId stems answering sending =>
      exact sole_uplink tidy sole messageId stems
        (incoming messageId (answering.mem_iff.mpr List.mem_cons_self)) (by split <;> simp)
        sending.symm rfl
  | refused messageId stems answering sending =>
      exact sole_uplink tidy sole messageId stems
        (incoming messageId (answering.mem_iff.mpr List.mem_cons_self)) (by simp) sending.symm rfl
  | delivered messageId stems _ sending =>
      refine sole_outcome tidy sole messageId stems (by simp) sending ?_
        (orderly_succeed sole.orderly sending ())
      rintro other ⟨result, member, isFinal⟩
      rcases List.mem_append.mp member with old | new
      · exact .inl ⟨result, old, isFinal⟩
      · exact .inr ⟨(Prod.mk.inj (List.mem_singleton.mp new)).1, rfl⟩
  | returned messageId stems _ sending =>
      exact sole_outcome tidy sole messageId stems (by simp) sending (fun _ settled => .inl settled)
        (orderly_fail sole.orderly sending)

end Drafts

/-! The runs of the cockpit. -/
section Recorded
variable (textOf : List TsElement → String)
  (responseIntentsOf : List TsElement → List ResponseIntent) (toUpperCase : String → String)

structure Recorded where
  cockpit : Cockpit
  journal : Journal

def Recorded.initial : Recorded := ⟨.initial, [], []⟩

def record (recorded : Recorded) (event : CockpitEvent) : Recorded where
  cockpit := cockpitStep textOf responseIntentsOf toUpperCase recorded.cockpit event
  journal := (asked toUpperCase recorded.cockpit event).foldl (note recorded.cockpit.hook)
    recorded.journal

/-- The key by which a draft is sent while it is being sent already. -/
def SendsAgain (cockpit : Cockpit) : CockpitEvent → Prop
  | .dcdu _ key => cockpit.hook.settings.isSome = true ∧ ∃ draft,
      SendsLinked cockpit.hook.dcduMessages cockpit.viewIndex key draft ∧ draft.status = .sending
  | _ => False

variable {sendable : DcduMessageStatus → Prop} {toUpperCase}

theorem responded_asks (messages : List DcduMessage) (state : McduScreen.McduState)
    (event : McduScreen.McduEvent) :
    Asks sendable messages (McduScreen.respond state event).1 := by
  cases event with
  | key key => exact .nothing
  | lsk row side =>
      simp only [McduScreen.respond]
      split
      · next action _ =>
          cases action with
          | doTransferToDcdu =>
              simp only [McduScreen.perform]
              split
              · exact .nothing
              · exact .one (.transferToDcdu _ _) trivial
          | transferScratchpad =>
              simp only [McduScreen.perform]
              split <;> exact .nothing
          | logonRequest => exact .one (.sendLogonRequest _) trivial
          | _ => exact .nothing
      · exact .nothing

theorem asked_asks (cockpit : Cockpit) (event : CockpitEvent) (own : sendable .draft)
    (again : SendsAgain cockpit event → sendable .sending) :
    Asks sendable cockpit.hook.dcduMessages (asked toUpperCase cockpit event) := by
  cases event with
  | connect settings => exact .one _ trivial
  | disconnect => exact .one _ trivial
  | receive now message => exact .one _ trivial
  | settled index success => exact .one _ trivial
  | mcdu event =>
      simp only [asked]
      split
      · exact responded_asks _ _ event
      · exact .nothing
  | dcdu now key =>
      simp only [asked]
      split
      · next connected =>
          refine pressed_key now _ key own fun draft sends => ?_
          obtain ⟨current, _, _, linked⟩ := sends.linked
          rcases (linked_draft linked).2 with unsent | sending
          · exact unsent ▸ own
          · exact sending ▸ again ⟨connected, draft, sends, sending⟩
      · exact .nothing

theorem record_effect (recorded : Recorded) (event : CockpitEvent) (own : sendable .draft)
    (again : SendsAgain recorded.cockpit event → sendable .sending) :
    let after := record textOf responseIntentsOf toUpperCase recorded event
    Effect sendable recorded.cockpit.hook recorded.journal after.cockpit.hook after.journal := by
  have hook : (record textOf responseIntentsOf toUpperCase recorded event).cockpit.hook =
      exec (hookStep textOf responseIntentsOf toUpperCase) recorded.cockpit.hook
        (asked toUpperCase recorded.cockpit event) := by
    cases event <;> rfl
  have asks : Asks sendable recorded.cockpit.hook.dcduMessages
      (asked toUpperCase recorded.cockpit event) := asked_asks _ event own again
  intro after
  rw [hook]
  simp only [after, record]
  generalize asked toUpperCase recorded.cockpit event = events at asks ⊢
  cases asks with
  | nothing => exact quiet_same _ (stems_same rfl rfl) rfl
  | one event requested => exact effect_requested _ _ _ _ _ event requested

theorem initial_tidy : Tidy HookState.initial ⟨[], []⟩ where
  named :=
    { distinct := List.nodup_nil
      known := fun _ member => absurd member List.not_mem_nil
      composed := fun _ member => absurd member List.not_mem_nil }
  underway := fun _ waits => absurd waits List.not_mem_nil
  closed := fun _ ⟨_, member, _⟩ => absurd member List.not_mem_nil
  composed := fun _ waits => absurd waits List.not_mem_nil
  orderly := orderly_nil definite

theorem initial_sole : Sole HookState.initial ⟨[], []⟩ where
  busy := fun _ member => absurd member List.not_mem_nil
  gone := fun _ ⟨_, member, _⟩ => absurd member List.not_mem_nil
  orderly := orderly_nil always

def Recorded.Tidy (recorded : Recorded) : Prop :=
  CockpitAnswers.Tidy recorded.cockpit.hook recorded.journal

def Recorded.Sole (recorded : Recorded) : Prop :=
  CockpitAnswers.Sole recorded.cockpit.hook recorded.journal

theorem tidy_record (recorded : Recorded) (event : CockpitEvent) (tidy : recorded.Tidy) :
    (record textOf responseIntentsOf toUpperCase recorded event).Tidy :=
  tidy_effect (fun _ sends => sends) tidy
    (record_effect textOf responseIntentsOf recorded event (.inl rfl) fun _ => .inr rfl)

theorem sole_record (recorded : Recorded) (event : CockpitEvent) (tidy : recorded.Tidy)
    (sole : recorded.Sole) (once : ¬ SendsAgain recorded.cockpit event) :
    (record textOf responseIntentsOf toUpperCase recorded event).Sole :=
  sole_effect tidy sole
    (record_effect textOf responseIntentsOf recorded event rfl fun again => absurd again once)

/-- A draft that is sent while it is being sent is under way twice. -/
theorem drafts_doubled (recorded : Recorded) (event : CockpitEvent) (tidy : recorded.Tidy)
    (sole : recorded.Sole) (again : SendsAgain recorded.cockpit event) :
    ¬ (drafts (record textOf responseIntentsOf toUpperCase recorded event).cockpit.hook).Nodup := by
  cases event with
  | dcdu now key =>
      obtain ⟨connected, draft, sends, sending⟩ := again
      obtain ⟨settings, known⟩ := Option.isSome_iff_exists.mp connected
      obtain ⟨current, _, _, linked⟩ := sends.linked
      have among := (linked_draft linked).1
      obtain ⟨elements, written⟩ := Option.isSome_iff_exists.mp
        (tidy.named.composed draft among (.inr sending)).2
      have found := find_named tidy.named among
      have pressed : pressKey now _ toUpperCase recorded.cockpit.viewIndex key = _ :=
        pressed_linked now sends
      have longer : drafts (record textOf responseIntentsOf toUpperCase recorded
          (.dcdu now key)).cockpit.hook = drafts recorded.cockpit.hook ++ [draft.id] := by
        simp [record, cockpitStep, asked, pressed, hookStep, sendDraft, known, found,
          written, drafts, draftOf]
      rw [longer]
      exact doubled ((sole.busy draft among).mp sending)
  | _ => exact again.elim

end Recorded

theorem answered_once (textOf : List TsElement → String)
    (responseIntentsOf : List TsElement → List ResponseIntent) (toUpperCase : String → String)
    (events : List CockpitEvent) :
    let recorded := exec (record textOf responseIntentsOf toUpperCase) .initial events
    Orderly definite (responses recorded.cockpit.hook) recorded.journal.answers :=
  (run_invariant (record textOf responseIntentsOf toUpperCase) Recorded.Tidy
    (tidy_record textOf responseIntentsOf) .initial initial_tidy events).orderly

theorem sent_once_iff (textOf : List TsElement → String)
    (responseIntentsOf : List TsElement → List ResponseIntent) (toUpperCase : String → String)
    (events : List CockpitEvent) :
    Guarded (record textOf responseIntentsOf toUpperCase)
        (fun recorded event => ¬ SendsAgain recorded.cockpit event) .initial events ↔
      ∀ before, before <+: events →
        let recorded := exec (record textOf responseIntentsOf toUpperCase) .initial before
        Orderly always (drafts recorded.cockpit.hook) recorded.journal.sent := by
  refine guarded_shown (record textOf responseIntentsOf toUpperCase)
    (fun recorded event => ¬ SendsAgain recorded.cockpit event)
    (fun recorded => recorded.Tidy ∧ recorded.Sole)
    (fun recorded => Orderly always (drafts recorded.cockpit.hook) recorded.journal.sent)
    ?_ ?_ ?_ .initial ⟨initial_tidy, initial_sole⟩ events
  · exact fun _ held => held.2.orderly
  · intro recorded event held once
    exact ⟨tidy_record textOf responseIntentsOf recorded event held.1,
      sole_record textOf responseIntentsOf recorded event held.1 held.2 once⟩
  · intro recorded event held refused orderly
    exact drafts_doubled textOf responseIntentsOf recorded event held.1 held.2 (not_not.mp refused)
      orderly.single

end OpenLink.CockpitAnswers
