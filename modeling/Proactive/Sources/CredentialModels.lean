import Mathlib.Data.PNat.Basic

/-! Google credentials, the texts they are stored as, and what the adapters read in a text. -/
namespace Proactive.Sources

def googleReadonlyScopes : List String :=
  ["https://www.googleapis.com/auth/gmail.readonly","https://www.googleapis.com/auth/calendar.readonly"]

/-- `secrets.token_hex(32)`. -/
abbrev Revision := BitVec 256

/-- An epoch, from 1 on, and the revision of one save. -/
abbrev CredentialVersion := PNat × Revision

structure AuthorizedUserWire where
  clientId : String
  clientSecret : String
  refreshToken : String
  token : Option String
  scopes : List String
deriving DecidableEq, Repr

/-- An authorized user; a stored one always names the endpoint of the authorization server. -/
structure GoogleCredential where
  clientId : String
  clientSecret : String
  refreshToken : Option String
  token : Option String
  scopes : Option (List String)
deriving DecidableEq, Repr

inductive CredentialBackend | keyring | file | deleted
deriving DecidableEq, Repr

structure CredentialState where
  epoch : PNat
  revision : Revision
  backend : CredentialBackend
  tombstone : Bool
deriving DecidableEq, Repr

/-- A text by what the adapters make of it: an authorized user, an envelope around another
text, a backend marker, or none of them. -/
inductive StoredText
  | user (wire : AuthorizedUserWire)
  | envelope (epoch : PNat) (revision : Revision) (credential : StoredText)
  | state (state : CredentialState)
  | other (text : String)
deriving DecidableEq, Repr

inductive CredentialError | missingRefreshToken | scope | storage
deriving DecidableEq, Repr

namespace GoogleCredential

/-- Without a refresh token or scopes the text does not validate as an authorized user. -/
def toJson (credential : GoogleCredential) : StoredText :=
  match credential.refreshToken,credential.scopes with
  | some refreshToken,some scopes =>
    .user ⟨credential.clientId,credential.clientSecret,refreshToken,credential.token,scopes⟩
  | _,_ => .other "authorized user without a refresh token or scopes"

def rejection (credential : GoogleCredential) : Option CredentialError :=
  if credential.refreshToken = none ∨ credential.refreshToken = some "" then some .missingRefreshToken
  else if credential.scopes.getD [] ≠ googleReadonlyScopes then some .scope
  else none

end GoogleCredential

def parseCredentials : StoredText → Option GoogleCredential
  | .user wire =>
    let credential : GoogleCredential :=
      ⟨wire.clientId,wire.clientSecret,some wire.refreshToken,wire.token,some googleReadonlyScopes⟩
    if wire.scopes ≠ googleReadonlyScopes then none
    else if credential.rejection.isSome then none else some credential
  | _ => none

def parseEnvelope : StoredText → Option (CredentialVersion × StoredText)
  | .envelope epoch revision credential => some ((epoch,revision),credential)
  | _ => none

def parseEnvelopedCredentials (serialized : StoredText) (expected : CredentialVersion) : Option GoogleCredential :=
  match parseEnvelope serialized with
  | some (version,credential) => if version ≠ expected then none else parseCredentials credential
  | none => none

/-- The credential in a record that has no marker yet. -/
def adoptable (serialized : StoredText) : Option GoogleCredential :=
  match parseEnvelope serialized with
  | some (_,credential) => parseCredentials credential
  | none => parseCredentials serialized

def CredentialState.version (state : CredentialState) : CredentialVersion := (state.epoch,state.revision)

def CredentialState.live (state : CredentialState) : Bool := !state.tombstone && state.backend != .deleted

theorem CredentialState.live_eq (state : CredentialState) :
    state.live = !(state.tombstone || state.backend == .deleted) := by
  unfold CredentialState.live
  rw [Bool.not_or]
  rfl

theorem parse_toJson {credential : GoogleCredential} (accepted : credential.rejection = none) :
    parseCredentials credential.toJson = some credential := by
  obtain ⟨clientId,clientSecret,refreshToken,token,scopes⟩ := credential
  unfold GoogleCredential.rejection at accepted
  split at accepted
  · cases accepted
  split at accepted
  · cases accepted
  rename_i refreshable readonly
  cases refreshToken with
  | none => exact absurd (Or.inl rfl) refreshable
  | some refreshToken =>
    cases scopes with
    | none =>
      have distinct : ([] : List String) ≠ googleReadonlyScopes := by decide
      exact absurd distinct readonly
    | some scopes =>
      obtain rfl : scopes = googleReadonlyScopes := by simpa using readonly
      have nonempty : refreshToken ≠ "" := by
        intro empty
        exact refreshable (Or.inr (congrArg some empty))
      simp [GoogleCredential.toJson,parseCredentials,GoogleCredential.rejection,nonempty]

theorem parse_accepted {serialized : StoredText} {credentials : GoogleCredential}
    (parsed : parseCredentials serialized = some credentials) : credentials.rejection = none := by
  unfold parseCredentials at parsed
  split at parsed
  · dsimp only at parsed
    split at parsed
    · cases parsed
    split at parsed
    · cases parsed
    · rename_i accepted
      cases parsed
      exact Option.not_isSome_iff_eq_none.mp accepted
  · cases parsed

theorem parse_own (version : CredentialVersion) (credential : StoredText) :
    parseEnvelopedCredentials (.envelope version.1 version.2 credential) version =
      parseCredentials credential := by
  simp [parseEnvelopedCredentials,parseEnvelope]

theorem parse_foreign {version expected : CredentialVersion} (credential : StoredText)
    (different : version ≠ expected) :
    parseEnvelopedCredentials (.envelope version.1 version.2 credential) expected = none := by
  simp [parseEnvelopedCredentials,parseEnvelope,different]

def readonlyCredential : GoogleCredential := ⟨"id","secret",some "refresh",none,some googleReadonlyScopes⟩

end Proactive.Sources
