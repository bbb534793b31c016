import OpenLink.Envelope
import OpenLink.SubjectPatterns
import OpenLink.Texts

/-!
The subject names of a network and how the message broker compares them. A
subject is cut into tokens at each dot, whatever part of it the dot came with;
an allowed subject is read as a pattern.
-/
namespace OpenLink.NatsSubjects
open Envelope SubjectPatterns Texts

def version : String := "v1"

def outbox (network : NetworkId) (address : NetworkAddress) : String :=
  "openlink." ++ version ++ "." ++ network ++ ".outbox." ++ address

def inbox (network : NetworkId) (address : NetworkAddress) : String :=
  "openlink." ++ version ++ "." ++ network ++ ".inbox." ++ address

def outboxWildcard (network : NetworkId) : String :=
  "openlink." ++ version ++ "." ++ network ++ ".outbox.>"

def inboxWildcard (network : NetworkId) : String :=
  "openlink." ++ version ++ "." ++ network ++ ".inbox.>"

def kvCpdlcSessions (network : NetworkId) : String :=
  "openlink-" ++ version ++ "-" ++ network ++ "-cpdlc-sessions"

def kvStationRegistry (network : NetworkId) : String :=
  "openlink-" ++ version ++ "-" ++ network ++ "-station-registry"

def kvStationCallsignIndex (network : NetworkId) : String :=
  "openlink-" ++ version ++ "-" ++ network ++ "-station-callsign-index"

/-- The address behind the fourth dot of a subject of one kind; the version and the
network are not compared. -/
def parseAddress (kind : Text) (subject : String) : Option String :=
  match splitN '.' 5 subject.toList with
  | [head, _, _, found, address] =>
      if head = "openlink".toList ∧ found = kind then some (String.ofList address) else none
  | _ => none

def parseOutboxSender (subject : String) : Option String :=
  parseAddress "outbox".toList subject

def parseInboxRecipient (subject : String) : Option String :=
  parseAddress "inbox".toList subject

def tokens (subject : String) : List Text := subject.toList.splitOn '.'

/-- The broker's rule: `*` is one token, a final `>` one token or more. -/
def allows (pattern subject : String) : Bool :=
  covers ['*'] ['>'] (tokens pattern) (tokens subject)

section Tokens

theorem tokens_nonempty (subject : String) : tokens subject ≠ [] :=
  List.splitOn_ne_nil '.' subject.toList

theorem tokens_injective {left right : String} (same : tokens left = tokens right) :
    left = right := by
  have joined := congrArg (List.intercalate ['.']) same
  rw [tokens, tokens, List.intercalate_splitOn, List.intercalate_splitOn] at joined
  exact String.toList_inj.mp joined

def subjectStart (kind : Text) (network : NetworkId) : List Text :=
  ["openlink".toList, version.toList] ++ tokens network ++ [kind]

def subjectText (kind : Text) (network : NetworkId) (address : NetworkAddress) : Text :=
  "openlink".toList ++ '.' :: (version.toList ++ '.' :: (network.toList ++ '.' ::
    (kind ++ '.' :: address.toList)))

theorem outbox_text (network : NetworkId) (address : NetworkAddress) :
    (outbox network address).toList = subjectText "outbox".toList network address := by
  unfold outbox subjectText
  simp only [String.toList_append, List.append_assoc]
  simp [version]

theorem inbox_text (network : NetworkId) (address : NetworkAddress) :
    (inbox network address).toList = subjectText "inbox".toList network address := by
  unfold inbox subjectText
  simp only [String.toList_append, List.append_assoc]
  simp [version]

theorem head_undotted : '.' ∉ "openlink".toList := by simp

theorem version_undotted : '.' ∉ version.toList := by simp [version]

theorem tokens_subject (kind : Text) (plain : '.' ∉ kind) (network : NetworkId)
    (address : NetworkAddress) :
    (subjectText kind network address).splitOn '.' =
      subjectStart kind network ++ tokens address := by
  unfold subjectText
  rw [List.splitOn_append_cons_self_of_not_mem head_undotted,
    List.splitOn_append_cons_self_of_not_mem version_undotted, List.splitOn_append_cons_self,
    List.splitOn_append_cons_self_of_not_mem plain]
  simp only [subjectStart, tokens, List.cons_append, List.nil_append, List.append_assoc]

theorem tokens_outbox (network : NetworkId) (address : NetworkAddress) :
    tokens (outbox network address) = subjectStart "outbox".toList network ++ tokens address := by
  rw [tokens, outbox_text, tokens_subject _ (by simp)]

theorem tokens_inbox (network : NetworkId) (address : NetworkAddress) :
    tokens (inbox network address) = subjectStart "inbox".toList network ++ tokens address := by
  rw [tokens, inbox_text, tokens_subject _ (by simp)]

theorem outbox_injective {network : NetworkId} {left right : NetworkAddress}
    (same : outbox network left = outbox network right) : left = right := by
  have cut := congrArg tokens same
  rw [tokens_outbox, tokens_outbox] at cut
  exact tokens_injective (List.append_cancel_left cut)

theorem inbox_injective {network : NetworkId} {left right : NetworkAddress}
    (same : inbox network left = inbox network right) : left = right := by
  have cut := congrArg tokens same
  rw [tokens_inbox, tokens_inbox] at cut
  exact tokens_injective (List.append_cancel_left cut)

theorem tokens_undotted {address : NetworkAddress} (plain : '.' ∉ address.toList) :
    tokens address = [address.toList] :=
  List.splitOn_eq_singleton plain

end Tokens

section Matching
variable (network : NetworkId) (own other : NetworkAddress)

/-- Two subjects of one kind are compared by their addresses, the first as a pattern. -/
theorem outbox_allows_outbox :
    allows (outbox network own) (outbox network other) =
      covers ['*'] ['>'] (tokens own) (tokens other) := by
  rw [allows, tokens_outbox, tokens_outbox, covers_common _ _ _ _ _ (tokens_nonempty own)]

theorem inbox_allows_inbox :
    allows (inbox network own) (inbox network other) =
      covers ['*'] ['>'] (tokens own) (tokens other) := by
  rw [allows, tokens_inbox, tokens_inbox, covers_common _ _ _ _ _ (tokens_nonempty own)]

/-- Whatever the addresses contain, an outbox is no inbox. -/
theorem kinds_apart (kind found : Text) (plain : kind ≠ ['*']) (apart : kind ≠ found) :
    covers ['*'] ['>'] (subjectStart kind network ++ tokens own)
      (subjectStart found network ++ tokens other) = false := by
  simp only [subjectStart, List.append_assoc, List.singleton_append]
  simp only [← List.append_assoc]
  exact covers_apart ['*'] ['>'] _ (tokens own) (tokens other) kind found plain apart
    (tokens_nonempty own)

theorem outbox_allows_inbox : allows (outbox network own) (inbox network other) = false := by
  rw [allows, tokens_outbox, tokens_inbox]
  exact kinds_apart network own other _ _ (by simp) (by simp)

theorem inbox_allows_outbox : allows (inbox network own) (outbox network other) = false := by
  rw [allows, tokens_outbox, tokens_inbox]
  exact kinds_apart network own other _ _ (by simp) (by simp)

theorem outbox_wildcard_eq : outboxWildcard network = outbox network ">" := by
  apply String.toList_inj.mp
  simp [outboxWildcard, outbox]

theorem inbox_wildcard_eq : inboxWildcard network = inbox network ">" := by
  apply String.toList_inj.mp
  simp [inboxWildcard, inbox]

theorem outbox_wildcard_allows : allows (outboxWildcard network) (outbox network other) = true := by
  rw [outbox_wildcard_eq, outbox_allows_outbox, covers_iff]
  exact .inr ⟨[], [], tokens other, rfl, rfl, tokens_nonempty other, .nil⟩

theorem inbox_wildcard_allows : allows (inboxWildcard network) (inbox network other) = true := by
  rw [inbox_wildcard_eq, inbox_allows_inbox, covers_iff]
  exact .inr ⟨[], [], tokens other, rfl, rfl, tokens_nonempty other, .nil⟩

end Matching

/-- On a network without a dot in its name, a subject tells its address to the parser
of its own kind. -/
theorem parse_address (kind found : Text) (network : NetworkId) (address : NetworkAddress)
    (plainKind : '.' ∉ found) (plain : '.' ∉ network.toList) (subject : String)
    (spelled : subject.toList = subjectText found network address) :
    parseAddress kind subject = if found = kind then some address else none := by
  have cut : splitN '.' 5 subject.toList =
      ["openlink".toList, version.toList, network.toList, found, address.toList] := by
    rw [spelled]
    unfold subjectText
    simp only [splitN, split_once_char head_undotted, split_once_char version_undotted,
      split_once_char plain, split_once_char plainKind]
  simp only [parseAddress, cut, true_and, String.ofList_toList]

theorem parse_outbox (network : NetworkId) (address : NetworkAddress)
    (plain : '.' ∉ network.toList) :
    parseOutboxSender (outbox network address) = some address := by
  rw [parseOutboxSender, parse_address _ _ network address (by simp) plain _
    (outbox_text network address), if_pos rfl]

theorem parse_inbox (network : NetworkId) (address : NetworkAddress)
    (plain : '.' ∉ network.toList) :
    parseInboxRecipient (inbox network address) = some address := by
  rw [parseInboxRecipient, parse_address _ _ network address (by simp) plain _
    (inbox_text network address), if_pos rfl]

theorem parse_other_kind (network : NetworkId) (address : NetworkAddress)
    (plain : '.' ∉ network.toList) :
    parseOutboxSender (inbox network address) = none ∧
      parseInboxRecipient (outbox network address) = none := by
  rw [parseOutboxSender, parseInboxRecipient,
    parse_address _ _ network address (by simp) plain _ (inbox_text network address),
    parse_address _ _ network address (by simp) plain _ (outbox_text network address),
    if_neg (by simp), if_neg (by simp)]
  exact ⟨rfl, rfl⟩

/-! Networks whose names are one token, and no wildcard. -/
section Networks

structure PlainNetwork (network : NetworkId) : Prop where
  undotted : '.' ∉ network.toList
  single : '*' ∉ network.toList
  final : '>' ∉ network.toList

instance (network : NetworkId) : Decidable (PlainNetwork network) :=
  decidable_of_iff ('.' ∉ network.toList ∧ '*' ∉ network.toList ∧ '>' ∉ network.toList)
    ⟨fun plain => ⟨plain.1, plain.2.1, plain.2.2⟩,
      fun plain => ⟨plain.undotted, plain.single, plain.final⟩⟩

theorem subject_start_plain (kind : Text) {network : NetworkId} (plain : PlainNetwork network)
    (rest : List Text) :
    subjectStart kind network ++ rest =
      ["openlink".toList, version.toList] ++ network.toList :: kind :: rest := by
  rw [subjectStart, tokens_undotted plain.undotted]
  simp only [List.cons_append, List.nil_append]

/-- The tokens of a subject tell its network, its kind and its address. -/
theorem subject_tokens_injective {left right : NetworkId} (plainLeft : PlainNetwork left)
    (plainRight : PlainNetwork right) {kind found : Text} {own other : NetworkAddress}
    (same : subjectStart kind left ++ tokens own = subjectStart found right ++ tokens other) :
    left = right ∧ kind = found ∧ own = other := by
  rw [subject_start_plain kind plainLeft, subject_start_plain found plainRight] at same
  obtain ⟨network, rest⟩ := List.cons.inj (List.append_cancel_left same)
  obtain ⟨sameKind, address⟩ := List.cons.inj rest
  exact ⟨String.toList_inj.mp network, sameKind, tokens_injective address⟩

/-- What is allowed on one network matches nothing on another one. -/
theorem networks_apart {left right : NetworkId} (plainLeft : PlainNetwork left)
    (plainRight : PlainNetwork right) (different : left ≠ right) (kind found : Text)
    (own other : NetworkAddress) :
    covers ['*'] ['>'] (subjectStart kind left ++ tokens own)
      (subjectStart found right ++ tokens other) = false := by
  rw [subject_start_plain kind plainLeft, subject_start_plain found plainRight]
  refine covers_apart ['*'] ['>'] _ _ _ left.toList right.toList ?_ ?_ (List.cons_ne_nil _ _)
  · intro wildcard
    exact plainLeft.single (by simp [wildcard])
  · exact fun same => different (String.toList_inj.mp same)

end Networks

/-! The names of the buckets. -/
section Buckets

inductive Bucket where
  | cpdlcSessions
  | stationRegistry
  | stationCallsignIndex
  deriving DecidableEq

def bucketName : Bucket → NetworkId → String
  | .cpdlcSessions => kvCpdlcSessions
  | .stationRegistry => kvStationRegistry
  | .stationCallsignIndex => kvStationCallsignIndex

def ending : Bucket → Text
  | .cpdlcSessions => "-cpdlc-sessions".toList
  | .stationRegistry => "-station-registry".toList
  | .stationCallsignIndex => "-station-callsign-index".toList

theorem bucket_text (bucket : Bucket) (network : NetworkId) :
    (bucketName bucket network).toList =
      ("openlink-".toList ++ version.toList ++ "-".toList) ++ network.toList ++ ending bucket := by
  cases bucket with
  | cpdlcSessions =>
      unfold bucketName kvCpdlcSessions ending
      simp only [String.toList_append]
  | stationRegistry =>
      unfold bucketName kvStationRegistry ending
      simp only [String.toList_append]
  | stationCallsignIndex =>
      unfold bucketName kvStationCallsignIndex ending
      simp only [String.toList_append]

theorem ending_injective {left right : Bucket}
    (same : (ending left).getLast? = (ending right).getLast?) : left = right := by
  have last : ∀ bucket, (ending bucket).getLast? = some (
      match bucket with
      | .cpdlcSessions => 's'
      | .stationRegistry => 'y'
      | .stationCallsignIndex => 'x') := by
    intro bucket
    cases bucket <;> decide +kernel
  rw [last, last] at same
  cases left <;> cases right <;> first | rfl | contradiction

theorem bucket_name_injective {left right : Bucket} {own other : NetworkId}
    (same : bucketName left own = bucketName right other) : left = right ∧ own = other := by
  have texts := congrArg String.toList same
  rw [bucket_text, bucket_text] at texts
  have nonempty : ∀ bucket, ending bucket ≠ [] := by
    intro bucket
    cases bucket <;> decide +kernel
  have kinds : left = right := by
    apply ending_injective
    have last := congrArg List.getLast? texts
    rwa [List.getLast?_append_of_ne_nil _ (nonempty left),
      List.getLast?_append_of_ne_nil _ (nonempty right)] at last
  subst kinds
  rw [List.append_left_inj, List.append_right_inj] at texts
  exact ⟨rfl, String.toList_inj.mp texts⟩

end Buckets

/-- Subjects and buckets are named so that a name tells what it is the name of, and no
network hears another one. -/
theorem naming_faithful (left right : NetworkId) (plainLeft : PlainNetwork left)
    (plainRight : PlainNetwork right) (own other : NetworkAddress) :
    (parseOutboxSender (outbox left own) = some own ∧
      parseInboxRecipient (inbox left own) = some own ∧
      parseOutboxSender (inbox left own) = none ∧ parseInboxRecipient (outbox left own) = none) ∧
    ((outbox left own = outbox right other → left = right ∧ own = other) ∧
      (inbox left own = inbox right other → left = right ∧ own = other) ∧
      outbox left own ≠ inbox right other) ∧
    (left ≠ right →
      allows (outboxWildcard left) (outbox right other) = false ∧
      allows (outboxWildcard left) (inbox right other) = false ∧
      allows (inboxWildcard left) (outbox right other) = false ∧
      allows (inboxWildcard left) (inbox right other) = false) ∧
    ∀ (first second : Bucket) (here there : NetworkId),
      bucketName first here = bucketName second there → first = second ∧ here = there := by
  refine ⟨⟨parse_outbox left own plainLeft.undotted, parse_inbox left own plainLeft.undotted,
    parse_other_kind left own plainLeft.undotted⟩, ⟨?_, ?_, ?_⟩, ?_,
    fun _ _ _ _ => bucket_name_injective⟩
  · intro same
    -- equal subjects have equal tokens, and no name has a dot of its own
    have cut := congrArg tokens same
    rw [tokens_outbox, tokens_outbox] at cut
    obtain ⟨network, _, address⟩ := subject_tokens_injective plainLeft plainRight cut
    exact ⟨network, address⟩
  · intro same
    have cut := congrArg tokens same
    rw [tokens_inbox, tokens_inbox] at cut
    obtain ⟨network, _, address⟩ := subject_tokens_injective plainLeft plainRight cut
    exact ⟨network, address⟩
  · intro same
    have cut := congrArg tokens same
    rw [tokens_outbox, tokens_inbox] at cut
    obtain ⟨_, kind, _⟩ := subject_tokens_injective plainLeft plainRight cut
    simp at kind
  · intro different
    rw [outbox_wildcard_eq, inbox_wildcard_eq, allows, allows, allows, allows]
    simp only [tokens_outbox, tokens_inbox]
    exact ⟨networks_apart plainLeft plainRight different _ _ _ _,
      networks_apart plainLeft plainRight different _ _ _ _,
      networks_apart plainLeft plainRight different _ _ _ _,
      networks_apart plainLeft plainRight different _ _ _ _⟩

theorem naming_faithful_networks :
    parseOutboxSender (outbox "demonetwork" "LF.PG") = some "LF.PG" ∧
      outbox "demonetwork" "LF.PG" ≠ inbox "icao" "AFR123" ∧
      allows (outboxWildcard "demonetwork") (outbox "icao" "AFR123") = false := by
  have named := naming_faithful "demonetwork" "icao" (by decide +kernel) (by decide +kernel)
    "LF.PG" "AFR123"
  exact ⟨named.1.1, named.2.1.2.2, (named.2.2.1 (by simp)).1⟩

end OpenLink.NatsSubjects
