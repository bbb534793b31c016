import OpenLink.PendingDialogues

/-!
The dialogues of a history of messages, newest message first, and why the pass over the
messages finds just these.
-/
namespace OpenLink.DialogueHistory
open Cpdlc GuiMessages HoppieSession PendingDialogues

def numberedAs (message : ReceivedMessage) : Option DialogueKey :=
  if isDialogueCandidate message then
    match message.min, dialogueCallsign message with
    | some min, some callsign => some (callsign, min)
    | _, _ => none
  else none

/-- The MIN that began the dialogue in which a MIN was used last. -/
def rootOf : List ReceivedMessage → HashMap DialogueKey UInt8
  | [], _ => none
  | message :: older, key =>
      if numberedAs message = some key then
        some (rootMin (rootOf older) key.1 key.2 message.mrn)
      else rootOf older key

def dialogueOf (older : List ReceivedMessage) (message : ReceivedMessage) : Option DialogueKey :=
  (numberedAs message).map fun key => (key.1, rootMin (rootOf older) key.1 key.2 message.mrn)

def latestIn (key : DialogueKey) : List ReceivedMessage → Option ReceivedMessage
  | [] => none
  | message :: older =>
      if dialogueOf older message = some key then some message else latestIn key older

def closedIn (key : DialogueKey) : List ReceivedMessage → Bool
  | [] => false
  | message :: older =>
      (dialogueOf older message == some key && isClosingResponseMessage message) ||
        closedIn key older

/-! One message more. -/
section Step

theorem track_numbered (tracking : Tracking) (message : ReceivedMessage) (index : Nat)
    (key : DialogueKey) (numbered : numberedAs message = some key) :
    let root := rootMin tracking.minToRoot key.1 key.2 message.mrn
    trackMessage tracking (message, index) =
      { minToRoot := Function.update tracking.minToRoot key (some root)
        dialogues := tracking.dialogues.insert (key.1, root)
          ⟨index, (tracking.dialogues.lookup (key.1, root)).any DialogueTrack.closed ||
            isClosingResponseMessage message⟩ } := by
  unfold numberedAs at numbered
  split at numbered
  · next candidate =>
      split at numbered
      · next min callsign hasMin hasCallsign =>
          obtain rfl := Option.some.inj numbered
          simp [trackMessage, candidate, hasMin, hasCallsign]
      · cases numbered
  · cases numbered

theorem track_other (tracking : Tracking) (message : ReceivedMessage) (index : Nat)
    (other : numberedAs message = none) : trackMessage tracking (message, index) = tracking := by
  unfold numberedAs at other
  split at other
  · next candidate =>
      simp only [trackMessage, candidate, if_true]
      split
      · next min callsign hasMin hasCallsign => simp [hasMin, hasCallsign] at other
      · rfl
  · next excluded => simp [trackMessage, excluded]

end Step

structure Tracks (messages : List ReceivedMessage) (tracking : Tracking) : Prop where
  roots : tracking.minToRoot = rootOf messages.reverse
  dialogues : ∀ key, (tracking.dialogues.lookup key).map
      (fun track => (messages[track.lastIndex]?, track.closed)) =
    (latestIn key messages.reverse).map fun latest => (some latest, closedIn key messages.reverse)

theorem closed_latest {key : DialogueKey} {past : List ReceivedMessage}
    (closed : closedIn key past = true) : ∃ latest, latestIn key past = some latest := by
  induction past with
  | nil => cases closed
  | cons message older ih =>
      by_cases here : dialogueOf older message = some key
      · exact ⟨message, if_pos here⟩
      · obtain ⟨latest, found⟩ := ih (by simpa [closedIn, here] using closed)
        exact ⟨latest, (if_neg here).trans found⟩

theorem latest_mem {key : DialogueKey} {past : List ReceivedMessage} {latest : ReceivedMessage}
    (found : latestIn key past = some latest) : latest ∈ past := by
  induction past with
  | nil => cases found
  | cons message older ih =>
      unfold latestIn at found
      split at found
      · exact Option.some.inj found ▸ List.mem_cons_self
      · exact List.mem_cons_of_mem _ (ih found)

section Pass
variable {messages : List ReceivedMessage} {tracking : Tracking}

/-- Whatever a dialogue says about its latest message, it still says when more have come. -/
theorem tracks_longer (tracks : Tracks messages tracking) (last : ReceivedMessage)
    (key : DialogueKey) :
    (tracking.dialogues.lookup key).map
        (fun track => ((messages ++ [last])[track.lastIndex]?, track.closed)) =
      (latestIn key messages.reverse).map
        fun latest => (some latest, closedIn key messages.reverse) := by
  rw [← tracks.dialogues key]
  have known := tracks.dialogues key
  cases found : tracking.dialogues.lookup key with
  | none => rfl
  | some track =>
      rw [found, Option.map_some] at known
      obtain ⟨latest, _, same⟩ := Option.map_eq_some_iff.mp known.symm
      have stored : messages[track.lastIndex]? = some latest := (congrArg Prod.fst same).symm
      obtain ⟨inside, _⟩ := List.getElem?_eq_some_iff.mp stored
      rw [Option.map_some, Option.map_some, List.getElem?_append_left inside]

/-- A dialogue is marked closed when one of its messages has closed it. -/
theorem tracks_closed (tracks : Tracks messages tracking) (key : DialogueKey) :
    (tracking.dialogues.lookup key).any DialogueTrack.closed = closedIn key messages.reverse := by
  have known := tracks.dialogues key
  cases found : tracking.dialogues.lookup key with
  | none =>
      rw [found, Option.map_none] at known
      have unseen := Option.map_eq_none_iff.mp known.symm
      cases closed : closedIn key messages.reverse with
      | false => rfl
      | true =>
          obtain ⟨latest, seen⟩ := closed_latest closed
          rw [unseen] at seen
          cases seen
  | some track =>
      rw [found, Option.map_some] at known
      obtain ⟨latest, _, same⟩ := Option.map_eq_some_iff.mp known.symm
      exact (congrArg Prod.snd same).symm

theorem tracks_step (tracks : Tracks messages tracking) (last : ReceivedMessage) :
    Tracks (messages ++ [last]) (trackMessage tracking (last, messages.length)) := by
  have past : (messages ++ [last]).reverse = last :: messages.reverse := by simp
  cases numbered : numberedAs last with
  | none =>
      have apart : dialogueOf messages.reverse last = none := by simp [dialogueOf, numbered]
      rw [track_other tracking last messages.length numbered]
      constructor
      · rw [tracks.roots, past]
        funext key
        simp [rootOf, numbered]
      · intro key
        rw [tracks_longer tracks last key, past]
        simp [latestIn, closedIn, apart]
  | some own =>
      have joined : dialogueOf messages.reverse last =
          some (own.1, rootMin tracking.minToRoot own.1 own.2 last.mrn) := by
        simp [dialogueOf, numbered, tracks.roots]
      rw [track_numbered tracking last messages.length own numbered]
      constructor
      · rw [past]
        funext key
        by_cases same : own = key
        · subst same
          simp [rootOf, numbered, tracks.roots]
        · simp [rootOf, numbered, same, Function.update_of_ne (Ne.symm same), tracks.roots]
      · intro key
        rw [past]
        by_cases same : (own.1, rootMin tracking.minToRoot own.1 own.2 last.mrn) = key
        · rw [← same]
          simp [latestIn, closedIn, joined, tracks_closed tracks, Bool.or_comm]
        · have apart := beq_eq_false_iff_ne.mpr same
          rw [AList.lookup_insert_ne (Ne.symm same), tracks_longer tracks last key]
          simp [latestIn, closedIn, joined, same, apart]

end Pass

theorem track_dialogues (messages : List ReceivedMessage) :
    Tracks messages (trackDialogues messages) := by
  induction messages using List.reverseRecOn with
  | nil => exact ⟨rfl, fun key => by simp [trackDialogues, Tracking.empty, latestIn]⟩
  | append_singleton messages last ih =>
      have longer : trackDialogues (messages ++ [last]) =
          trackMessage (trackDialogues messages) (last, messages.length) := by
        simp [trackDialogues, List.zipIdx_append, List.foldl_append]
      rw [longer]
      exact tracks_step ih last

structure Makes (now : DateTime) (messages : List ReceivedMessage) (key : DialogueKey)
    (latest : ReceivedMessage) (card : PendingDialogue) : Prop where
  found : latestIn key messages.reverse = some latest
  kept : closedIn key messages.reverse = false ∨ isRecentClosureMessage now latest = true
  made : dialogueCard now messages latest = card

theorem pending_card (now : DateTime) (messages : List ReceivedMessage) (card : PendingDialogue) :
    card ∈ buildPendingDialogues now messages ↔ ∃ key latest, Makes now messages key latest card := by
  have tracks := (track_dialogues messages).dialogues
  simp only [buildPendingDialogues, List.mem_mergeSort, List.mem_filterMap, List.mem_map]
  constructor
  · rintro ⟨track, ⟨⟨key, _⟩, member, rfl⟩, shown⟩
    have known := tracks key
    rw [AList.mem_lookup_iff.mpr member, Option.map_some] at known
    obtain ⟨request, latest, same⟩ := Option.map_eq_some_iff.mp known.symm
    obtain ⟨stored, closed⟩ := Prod.mk.inj same
    rw [trackCard, ← stored, Option.bind_some, ← closed] at shown
    split at shown
    · cases shown
    · next kept =>
        exact ⟨key, request, latest, by simpa [Classical.or_iff_not_imp_left] using kept,
          Option.some.inj shown⟩
  · rintro ⟨key, request, latest, kept, rfl⟩
    have known := tracks key
    rw [latest, Option.map_some] at known
    obtain ⟨track, found, same⟩ := Option.map_eq_some_iff.mp known
    obtain ⟨stored, closed⟩ := Prod.mk.inj same
    refine ⟨track, ⟨⟨key, track⟩, AList.mem_lookup_iff.mp found, rfl⟩, ?_⟩
    rw [trackCard, stored, Option.bind_some, closed]
    rw [if_neg]
    simpa [Classical.or_iff_not_imp_left] using kept

end OpenLink.DialogueHistory
