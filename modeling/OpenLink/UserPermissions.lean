import OpenLink.AuthTokens

/-!
The claims of the tokens that the auth service signs for the message broker, and
what the subjects they allow are worth: which subjects of another client a user
reaches, and which identities share a CID. The signature itself is left out.
-/
namespace OpenLink.UserPermissions
open AuthTokens Envelope NatsSubjects SubjectPatterns Texts

structure NatsPermissionList where
  allow : List String
  deriving DecidableEq

structure NatsPermissions where
  publish : NatsPermissionList
  subscribe : NatsPermissionList
  deriving DecidableEq

structure NatsClaims where
  permissions : NatsPermissions
  claimType : String
  version : Int

structure NatsUserClaims where
  jti : Uuid
  iat : Nat
  exp : Nat
  iss : String
  name : String
  sub : String
  nats : NatsClaims

section Signing
variable (jti : Uuid) (now : Nat) (accountPublicKey userNkeyPublic : String)

def signUserJwt (cid : String) (network : NetworkId) (ttlSecs : Nat) : NatsUserClaims where
  jti := jti
  iat := now
  exp := now + ttlSecs
  iss := accountPublicKey
  name := cid
  sub := userNkeyPublic
  nats := {
    claimType := "user"
    version := 2
    permissions := {
      publish := ⟨[outbox network cid]⟩
      subscribe := ⟨[inbox network cid]⟩ } }

def signServerJwt (network : NetworkId) (ttlSecs : Nat) : NatsUserClaims where
  jti := jti
  iat := now
  exp := now + ttlSecs
  iss := accountPublicKey
  name := "openlink-server-" ++ network
  sub := userNkeyPublic
  nats := {
    claimType := "user"
    version := 2
    permissions := {
      publish := ⟨[inboxWildcard network, "$JS.API.>", "_INBOX.>"]⟩
      subscribe := ⟨[outboxWildcard network, "$JS.API.>", "_INBOX.>"]⟩ } }

end Signing

def NatsPermissionList.permits (list : NatsPermissionList) (subject : String) : Bool :=
  list.allow.any fun pattern => allows pattern subject

/-- Neither permission of the claims reaches a subject of the other client. -/
def Isolated (claims : NatsUserClaims) (network : NetworkId) (other : NetworkAddress) : Prop :=
  ∀ subject ∈ [outbox network other, inbox network other],
    claims.nats.permissions.publish.permits subject = false ∧
      claims.nats.permissions.subscribe.permits subject = false

section Isolation
variable (jti : Uuid) (now : Nat) (accountPublicKey userNkeyPublic : String) (network : NetworkId)
  (ttlSecs : Nat)

/-- Of the four comparisons, the two across the kinds of subjects never succeed and the
other two come to the same. -/
theorem isolated_iff (cid other : String) :
    Isolated (signUserJwt jti now accountPublicKey userNkeyPublic cid network ttlSecs) network
        other ↔
      ¬ Covers ['*'] ['>'] (tokens cid) (tokens other) := by
  rw [← covers_iff]
  simp [Isolated, signUserJwt, NatsPermissionList.permits, outbox_allows_outbox,
    outbox_allows_inbox, inbox_allows_outbox, inbox_allows_inbox]

/-- The server may write to every client and hear every client. -/
theorem server_permitted (cid : NetworkAddress) :
    let claims := signServerJwt jti now accountPublicKey userNkeyPublic network ttlSecs
    claims.nats.permissions.publish.permits (inbox network cid) = true ∧
      claims.nats.permissions.subscribe.permits (outbox network cid) = true := by
  simp [signServerJwt, NatsPermissionList.permits, inbox_wildcard_allows, outbox_wildcard_allows]

theorem mem_intercalate (separator : Char) (pieces : List Text) (char : Char)
    (member : char ∈ [separator].intercalate pieces) :
    char = separator ∨ ∃ piece ∈ pieces, char ∈ piece := by
  induction pieces with
  | nil => simp at member
  | cons piece rest ih =>
      cases rest with
      | nil => exact .inr ⟨piece, by simp, by simpa using member⟩
      | cons next others =>
          rw [List.intercalate_cons_cons, List.append_assoc, List.mem_append] at member
          rcases member with here | later
          · exact .inr ⟨piece, by simp, here⟩
          · rcases List.mem_cons.mp later with same | behind
            · exact .inl same
            · rcases ih behind with same | ⟨found, listed, inside⟩
              · exact .inl same
              · exact .inr ⟨found, List.mem_cons_of_mem _ listed, inside⟩

/-- The name with these tokens can be a CID, when none of them has a dot or an underscore. -/
theorem returnable_joined (pieces : List Text) (nonempty : pieces ≠ []) (further : pieces ≠ [[]])
    (plain : ∀ piece ∈ pieces, '.' ∉ piece ∧ '_' ∉ piece) :
    let cid := String.ofList (['.'].intercalate pieces)
    tokens cid = pieces ∧ Returnable cid := by
  have cut : tokens (String.ofList (['.'].intercalate pieces)) = pieces := by
    rw [tokens, String.toList_ofList,
      List.splitOn_intercalate '.' (fun piece member => (plain piece member).1) nonempty]
  refine ⟨cut, (returnable_iff _).mpr ⟨?_, ?_⟩⟩
  · intro empty
    rw [empty] at cut
    exact further (by rw [← cut]; rfl)
  · rw [String.toList_ofList]
    intro member
    rcases mem_intercalate '.' pieces '_' member with same | ⟨piece, listed, inside⟩
    · exact absurd same (by decide)
    · exact (plain piece listed).2 inside

/-- A CID with a wildcard among its tokens reaches another CID. -/
theorem wildcard_reaches (cid : String) (returnable : Returnable cid)
    (wild : ¬ Literal ['*'] ['>'] (tokens cid)) :
    ∃ other, Returnable other ∧ other ≠ cid ∧ Covers ['*'] ['>'] (tokens cid) (tokens other) := by
  obtain ⟨covered, differs⟩ := replaced_covered ['*'] ['>'] ['x'] (tokens cid) (by decide)
    (by decide) wild
  have new : ['x'] ∈ replaced ['*'] ['x'] (tokens cid) := replaced_fresh _ _ _
  have plain : ∀ piece ∈ replaced ['*'] ['x'] (tokens cid), '.' ∉ piece ∧ '_' ∉ piece := by
    intro piece member
    rcases replaced_member _ _ _ piece member with rfl | listed
    · decide
    · obtain ⟨undotted, within⟩ := split_on_pieces '.' cid.toList piece listed
      exact ⟨undotted, fun inside => ((returnable_iff cid).mp returnable).2 (within inside)⟩
  obtain ⟨cut, reached⟩ := returnable_joined _ (List.ne_nil_of_mem new)
    (fun single => by rw [single] at new; simp at new) plain
  refine ⟨_, reached, ?_, ?_⟩
  · intro same
    rw [same] at cut
    exact differs cut.symm
  · rw [cut]
    exact (covers_iff _ _ _ _).mp covered

/-- A user is kept apart from another one unless its CID, read as a pattern, covers the
other; it is kept apart from all others exactly when no token of it is a wildcard. -/
theorem user_isolation (cid : String) (returnable : Returnable cid) :
    (∀ other, Returnable other → other ≠ cid →
      (Isolated (signUserJwt jti now accountPublicKey userNkeyPublic cid network ttlSecs) network
          other ↔
        ¬ Covers ['*'] ['>'] (tokens cid) (tokens other))) ∧
    ((∀ other, Returnable other → other ≠ cid →
      Isolated (signUserJwt jti now accountPublicKey userNkeyPublic cid network ttlSecs) network
        other) ↔
      Literal ['*'] ['>'] (tokens cid)) := by
  refine ⟨fun other _ _ => isolated_iff jti now accountPublicKey userNkeyPublic network ttlSecs cid
    other, ?_⟩
  constructor
  · intro isolated
    by_contra wild
    obtain ⟨other, reached, differs, covered⟩ := wildcard_reaches cid returnable wild
    exact (isolated_iff jti now accountPublicKey userNkeyPublic network ttlSecs cid other).mp
      (isolated other reached differs) covered
  · intro literal other _ differs
    rw [isolated_iff, ← covers_iff, literal_covers _ _ _ _ literal]
    exact fun same => differs (tokens_injective same.symm)

/-- Two users with plain CIDs do not reach each other. -/
theorem user_isolation_plain :
    Isolated (signUserJwt "b4d8" 1700000000 "ACCOUNT" "UPILOT" "100000" "demonetwork" 3600)
      "demonetwork" "888888" := by
  have plain : tokens "100000" = ["100000".toList] := tokens_undotted (by simp)
  exact (user_isolation "b4d8" 1700000000 "ACCOUNT" "UPILOT" "demonetwork" 3600 "100000"
    ((returnable_iff _).mpr (by simp))).2.mpr (by simp [Literal, plain]) "888888"
    ((returnable_iff _).mpr (by simp)) (by simp)

/-- A user whose CID is an asterisk may publish and listen as the user with CID `42`. -/
theorem asterisk_not_isolated :
    ¬ ∀ cid other : String, Returnable cid → Returnable other → other ≠ cid →
      Isolated (signUserJwt "b4d8" 1700000000 "ACCOUNT" "UPILOT" cid "demonetwork" 3600)
        "demonetwork" other := by
  intro isolated
  have starred : tokens "*" = [['*']] := tokens_undotted (by simp)
  have numbered : tokens "42" = [['4', '2']] := tokens_undotted (by simp)
  have apart := isolated "*" "42" ((returnable_iff _).mpr (by simp))
    ((returnable_iff _).mpr (by simp)) (by simp)
  rw [isolated_iff, ← covers_iff, starred, numbered] at apart
  exact apart (by decide)

end Isolation

section Identities
variable (jti : Uuid) (now : Nat) (accountPublicKey userNkeyPublic : String) (network : NetworkId)
  (ttlSecs : Nat)

/-- What a user gets out of the exchange: the CID, the permissions and the inbox. -/
def granted (cid : String) : String × NatsPermissions × String :=
  (cid, (signUserJwt jti now accountPublicKey userNkeyPublic cid network ttlSecs).nats.permissions,
    inbox network cid)

theorem granted_apart (left right : String) (apart : left ≠ right) :
    let own := granted jti now accountPublicKey userNkeyPublic network ttlSecs left
    let other := granted jti now accountPublicKey userNkeyPublic network ttlSecs right
    own.1 ≠ other.1 ∧ own.2.1 ≠ other.2.1 ∧ own.2.2 ≠ other.2.2 := by
  refine ⟨apart, ?_, fun same => apart (inbox_injective same)⟩
  intro same
  have listed := congrArg (fun permissions => permissions.publish.allow) same
  simp only [granted, signUserJwt, List.cons.injEq, and_true] at listed
  exact apart (outbox_injective listed)

/-- The exchange keeps an identity exactly when it has no underscore, and then shares
nothing of what it grants with another such identity. -/
theorem identity_kept (identity : String) (nonempty : identity ≠ "") :
    (exchangeCode (.body (some (accessToken identity))) = .ok identity ↔
      '_' ∉ identity.toList) ∧
    ('_' ∉ identity.toList → ∀ other, other ≠ "" → '_' ∉ other.toList → other ≠ identity →
      ∀ cid otherCid, exchangeCode (.body (some (accessToken identity))) = .ok cid →
        exchangeCode (.body (some (accessToken other))) = .ok otherCid →
        let own := granted jti now accountPublicKey userNkeyPublic network ttlSecs cid
        let others := granted jti now accountPublicKey userNkeyPublic network ttlSecs otherCid
        own.1 ≠ others.1 ∧ own.2.1 ≠ others.2.1 ∧ own.2.2 ≠ others.2.2) := by
  constructor
  · constructor
    · exact fun kept => (extract_sound (accessToken identity) identity kept).2
    · exact extract_access_token identity nonempty
  · intro plain other present plainOther differs cid otherCid first second
    have own := extract_access_token identity nonempty plain
    have others := extract_access_token other present plainOther
    simp only [exchangeCode] at first second
    rw [first, Except.ok.injEq] at own
    rw [second, Except.ok.injEq] at others
    subst own others
    exact granted_apart jti now accountPublicKey userNkeyPublic network ttlSecs _ _
      (Ne.symm differs)

theorem identity_kept_number :
    exchangeCode (.body (some (accessToken "123456"))) = .ok "123456" :=
  (identity_kept "b4d8" 1700000000 "ACCOUNT" "UPILOT" "demonetwork" 3600 "123456"
    (by simp)).1.mpr (by simp)

/-- The bridge's own identity loses its first word, and so would any other bridge's. -/
theorem identity_lost :
    exchangeCode (.body (some (accessToken "HOPPIE_BRIDGE"))) = .ok "BRIDGE" ∧
      exchangeCode (.body (some (accessToken "OTHER_BRIDGE"))) = .ok "BRIDGE" ∧
      ¬ ∀ identity : String, identity ≠ "" →
        exchangeCode (.body (some (accessToken identity))) = .ok identity := by
  have first : exchangeCode (.body (some (accessToken "HOPPIE_BRIDGE"))) = .ok "BRIDGE" :=
    extract_piece "demonetwork_HOPPIE".toList "BRIDGE" (accessToken "HOPPIE_BRIDGE") (by simp)
      (by simp) (by simp [accessToken])
  have second : exchangeCode (.body (some (accessToken "OTHER_BRIDGE"))) = .ok "BRIDGE" :=
    extract_piece "demonetwork_OTHER".toList "BRIDGE" (accessToken "OTHER_BRIDGE") (by simp)
      (by simp) (by simp [accessToken])
  refine ⟨first, second, fun kept => ?_⟩
  have claimed := kept "HOPPIE_BRIDGE" (by simp)
  rw [first] at claimed
  simp at claimed

end Identities

end OpenLink.UserPermissions
