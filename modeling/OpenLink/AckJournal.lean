import Mathlib.Data.Option.Basic
import Mathlib.Tactic.Common

/-!
A journal of what was sent and acknowledged, newest entry first. Numbers are reused, so
an acknowledgement may name a message that it was not meant for. A message that is sent
once more counts from its last sending.
-/
namespace OpenLink.AckJournal

variable {Peer Number : Type}

inductive Entry (Peer Number : Type) where
  | sent (id : Nat) (peer : Peer) (number : Number)
  | ack (sender : Peer) (number : Number)
  | cleared

def sentAs (id : Nat) : List (Entry Peer Number) → Option (Peer × Number)
  | [] => none
  | .sent other peer number :: older => if other = id then some (peer, number) else sentAs id older
  | .ack _ _ :: older => sentAs id older
  | .cleared :: _ => none

def ackedSince (id : Nat) (sender : Peer) (number : Number) : List (Entry Peer Number) → Prop
  | [] => False
  | .sent other _ _ :: older => other ≠ id ∧ ackedSince id sender number older
  | .ack other named :: older =>
      (other = sender ∧ named = number) ∨ ackedSince id sender number older
  | .cleared :: _ => False

/-- Some acknowledgement has named the message by the number it had then. -/
def marked (id : Nat) : List (Entry Peer Number) → Prop
  | [] => False
  | .sent _ _ _ :: older => marked id older
  | .ack _ named :: older => marked id older ∨ (sentAs id older).map Prod.snd = some named
  | .cleared :: _ => False

def JournalAttributed (journal : List (Entry Peer Number)) : Prop :=
  ∀ id peer number, sentAs id journal = some (peer, number) → marked id journal →
    ackedSince id peer number journal

/-- A message is not sent once more when it has been acknowledged, and the first acknowledgement
to name a message comes from its addressee. -/
def Clear (journal : List (Entry Peer Number)) : Entry Peer Number → Prop
  | .sent id _ _ => ∀ peer number, sentAs id journal = some (peer, number) →
      ∀ sender, ¬ ackedSince id sender number journal
  | .ack sender number => ∀ id peer, sentAs id journal = some (peer, number) →
      (∀ other, ¬ ackedSince id other number journal) → sender = peer
  | .cleared => True

theorem marked_sent {id : Nat} {journal : List (Entry Peer Number)} (isMarked : marked id journal) :
    ∃ peer number, sentAs id journal = some (peer, number) := by
  induction journal with
  | nil => exact isMarked.elim
  | cons entry older ih =>
      cases entry with
      | sent other peer number =>
          by_cases same : other = id
          · exact ⟨peer, number, if_pos same⟩
          · obtain ⟨earlier, found⟩ := ih isMarked
            exact ⟨earlier, by simpa [sentAs, same] using found⟩
      | ack sender number =>
          rcases isMarked with old | now
          · exact ih old
          · obtain ⟨⟨peer, named⟩, found, _⟩ := Option.map_eq_some_iff.mp now
            exact ⟨peer, named, found⟩
      | cleared => exact isMarked.elim

theorem acked_marked {id : Nat} {peer sender : Peer} {number : Number}
    {journal : List (Entry Peer Number)} (sent : sentAs id journal = some (peer, number))
    (acked : ackedSince id sender number journal) : marked id journal := by
  induction journal with
  | nil => exact acked.elim
  | cons entry older ih =>
      cases entry with
      | sent other addressee named =>
          obtain ⟨further, acked⟩ := acked
          exact ih (by simpa [sentAs, further] using sent) acked
      | ack other named =>
          rcases acked with ⟨_, rfl⟩ | acked
          · exact Or.inr (by simpa [sentAs] using congrArg (Option.map Prod.snd) sent)
          · exact Or.inl (ih sent acked)
      | cleared => exact acked.elim

theorem journal_kept (journal : List (Entry Peer Number)) (entry : Entry Peer Number)
    (attributed : JournalAttributed journal) (clear : Clear journal entry) :
    JournalAttributed (entry :: journal) := by
  intro id peer number sent isMarked
  cases entry with
  | sent other addressee named =>
      by_cases same : other = id
      · -- a message sent once more was not acknowledged before
        subst same
        have before : marked other journal := isMarked
        obtain ⟨first, earlier, found⟩ := marked_sent before
        exact absurd (attributed other first earlier found before) (clear first earlier found _)
      · rw [sentAs, if_neg same] at sent
        exact ⟨same, attributed id peer number sent isMarked⟩
  | ack sender named =>
      by_cases already : marked id journal
      · exact Or.inr (attributed id peer number sent already)
      · have here : (sentAs id journal).map Prod.snd = some named := isMarked.resolve_left already
        have current : sentAs id journal = some (peer, number) := sent
        obtain rfl : number = named := by simpa [current] using here
        have first := clear id peer current fun other acked => already (acked_marked current acked)
        exact Or.inl ⟨first, rfl⟩
  | cleared => exact isMarked.elim

theorem journal_broken (journal : List (Entry Peer Number)) (entry : Entry Peer Number)
    (unclear : ¬ Clear journal entry) : ¬ JournalAttributed (entry :: journal) := by
  intro attributed
  apply unclear
  cases entry with
  | sent id peer number =>
      intro before earlier found sender acked
      have isMarked : marked id journal := acked_marked found acked
      exact (attributed id peer number (if_pos rfl) isMarked).1 rfl
  | ack sender number =>
      intro id peer found unnamed
      have isMarked : marked id (.ack sender number :: journal) := Or.inr (by simp [found])
      rcases attributed id peer number found isMarked with ⟨same, _⟩ | acked
      · exact same
      · exact absurd acked (unnamed peer)
  | cleared => trivial

end OpenLink.AckJournal
