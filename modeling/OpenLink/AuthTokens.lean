import OpenLink.NatsSubjects

/-!
How an identity becomes a CID. The token endpoint of the identity provider
splices the identity into an access token, from which the auth service takes the
CID: what stands behind the last underscore. The id token, which nobody reads,
stays unsigned here.
-/
namespace OpenLink.AuthTokens
open Cpdlc Envelope NatsSubjects Texts

structure IdTokenClaims where
  iss : String
  sub : String
  aud : String
  exp : DateTime
  iat : DateTime
  name : String
  email : String
  demonetworkCid : String

structure TokenResponse where
  accessToken : String
  idToken : IdTokenClaims
  tokenType : String
  expiresIn : Nat

inductive AuthError where
  | oidcExchangeFailed (message : String)
  deriving DecidableEq

/-- The subject, the name and the mail address behind an authorization code; an
unknown code is its own subject. -/
def identityOf (toLowercase : String → String) : String → String × String × String
  | "PILOT" => ("100000", "Captain Smith", "pilot@demonetwork.net")
  | "ATC" => ("888888", "Generic ATC", "atc@demonetwork.net")
  | "ATC_EGLL" => ("777777", "Generic ATC", "atc@demonetwork.net")
  | other => (other, "User " ++ other, toLowercase other ++ "@demonetwork.net")

def accessToken (sub : String) : String := "demonetwork_" ++ sub

def token (toLowercase : String → String) (now : DateTime) (code : String) : TokenResponse :=
  let (sub, name, email) := identityOf toLowercase code
  { accessToken := accessToken sub
    idToken := {
      iss := "http://localhost:4000"
      sub := sub
      aud := "openlink-auth"
      exp := now + 3600
      iat := now
      name := name
      email := email
      demonetworkCid := sub }
    tokenType := "Bearer"
    expiresIn := 3600 }

def extractCidFromToken (token : String) : Except AuthError String :=
  match (token.toList.splitOn '_').getLast? with
  | some (first :: rest) => .ok (String.ofList (first :: rest))
  | _ => .error (.oidcExchangeFailed ("unexpected access_token format: " ++ token))

/-- What the provider answers: a refusal with its text, or a body that may lack the token. -/
inductive ProviderAnswer where
  | refused (text : String)
  | body (accessToken : Option String)

def exchangeCode : ProviderAnswer → Except AuthError String
  | .refused text => .error (.oidcExchangeFailed ("provider returned error: " ++ text))
  | .body none => .error (.oidcExchangeFailed "missing access_token")
  | .body (some accessToken) => extractCidFromToken accessToken

section Pieces
variable {Item : Type} [DecidableEq Item]

theorem split_on_pieces (separator : Item) (items : List Item) :
    ∀ piece ∈ items.splitOn separator, separator ∉ piece ∧ piece ⊆ items := by
  induction items with
  | nil => simp
  | cons item rest ih =>
      rw [List.splitOn_cons_eq_if_modifyHead]
      split
      · rw [List.forall_mem_cons]
        exact ⟨by simp, fun piece member =>
          ⟨(ih piece member).1, List.subset_cons_of_subset item (ih piece member).2⟩⟩
      · next differs =>
          -- the first piece grows by an item that is no separator
          cases pieces : rest.splitOn separator with
          | nil => exact absurd pieces (List.splitOn_ne_nil separator rest)
          | cons piece others =>
              rw [pieces, List.forall_mem_cons] at ih
              rw [List.modifyHead_cons, List.forall_mem_cons]
              refine ⟨⟨?_, List.cons_subset_cons item ih.1.2⟩, fun later member =>
                ⟨(ih.2 later member).1, List.subset_cons_of_subset item (ih.2 later member).2⟩⟩
              rw [List.mem_cons, not_or]
              exact ⟨fun same => differs (by simp [same]), ih.1.1⟩

theorem split_on_last (separator : Item) (before piece : List Item) (plain : separator ∉ piece) :
    ((before ++ separator :: piece).splitOn separator).getLast? = some piece := by
  rw [List.splitOn_append_cons_self, List.splitOn_eq_singleton plain, List.getLast?_concat]

end Pieces

section Extraction

theorem extract_piece (before : Text) (cid token : String) (nonempty : cid ≠ "")
    (plain : '_' ∉ cid.toList) (spelled : token.toList = before ++ '_' :: cid.toList) :
    extractCidFromToken token = .ok cid := by
  rw [extractCidFromToken, spelled, split_on_last '_' before cid.toList plain]
  cases piece : cid.toList with
  | nil => exact absurd (String.toList_eq_nil_iff.mp piece) nonempty
  | cons first rest =>
      change Except.ok (String.ofList (first :: rest)) = _
      rw [← piece, String.ofList_toList]

theorem extract_sound (token cid : String) (extracted : extractCidFromToken token = .ok cid) :
    cid ≠ "" ∧ '_' ∉ cid.toList := by
  unfold extractCidFromToken at extracted
  split at extracted
  next first rest last =>
    cases extracted
    have plain := (split_on_pieces '_' token.toList _ (List.mem_of_getLast? last)).1
    exact ⟨by simp, by simpa using plain⟩
  next => contradiction

theorem access_token_text (sub : String) :
    (accessToken sub).toList = "demonetwork".toList ++ '_' :: sub.toList := by
  simp [accessToken]

theorem extract_access_token (sub : String) (nonempty : sub ≠ "") (plain : '_' ∉ sub.toList) :
    extractCidFromToken (accessToken sub) = .ok sub :=
  extract_piece "demonetwork".toList sub _ nonempty plain (access_token_text sub)

/-- The CIDs that some access token leads to. -/
def Returnable (cid : String) : Prop := ∃ token, extractCidFromToken token = .ok cid

theorem returnable_iff (cid : String) : Returnable cid ↔ cid ≠ "" ∧ '_' ∉ cid.toList := by
  constructor
  · rintro ⟨token, extracted⟩
    exact extract_sound token cid extracted
  · rintro ⟨nonempty, plain⟩
    exact ⟨accessToken cid, extract_access_token cid nonempty plain⟩

end Extraction

end OpenLink.AuthTokens
