import Fiddlesticks.Provider.Model

/-!
# Credentials

`SecureCredentialManager`: the credentials of the providers, with expiry, usage metadata and an
observer of every access. Each operation takes the readings of the clock that it makes.
-/

namespace Fiddlesticks.Provider

/-! ## Credentials and events -/

/-- `CredentialKind`. -/
inductive CredentialKind where
  | apiKey
  | browserSession
  deriving DecidableEq, Repr

/-- `CredentialAccessAction`. -/
inductive CredentialAccessAction where
  | set
  | rotated
  | accessGranted
  | accessDenied
  | cleared
  deriving DecidableEq, Repr

/-- `CredentialAccessEvent`. -/
structure CredentialAccessEvent where
  provider : ProviderId
  kind : Option CredentialKind
  action : CredentialAccessAction
  deriving DecidableEq, Repr

/-- `CredentialMetadata`. -/
structure CredentialMetadata where
  createdAt : SystemTime
  expiresAt : Option SystemTime
  lastUsedAt : Option SystemTime
  lastRotatedAt : Option SystemTime
  accessCount : UInt64
  deriving DecidableEq, Repr

namespace CredentialMetadata

/-- `CredentialMetadata::new`. -/
def new (createdAt : SystemTime) (expiresAt : Option SystemTime) : CredentialMetadata :=
  { createdAt, expiresAt, lastUsedAt := none, lastRotatedAt := none, accessCount := 0 }

/-- `CredentialMetadata::with_rotation`. -/
def withRotation (now : SystemTime) (expiresAt : Option SystemTime) : CredentialMetadata :=
  { createdAt := now, expiresAt, lastUsedAt := none, lastRotatedAt := some now, accessCount := 0 }

/-- `u64::saturating_add(1)`. -/
def saturatingSucc (count : UInt64) : UInt64 :=
  if count = -1 then count else count + 1

/-- `CredentialMetadata::mark_used`. -/
def markUsed (metadata : CredentialMetadata) (now : SystemTime) : CredentialMetadata :=
  { metadata with lastUsedAt := some now, accessCount := saturatingSucc metadata.accessCount }

/-- `CredentialMetadata::is_expired`. -/
def isExpired (metadata : CredentialMetadata) (now : SystemTime) : Bool :=
  match metadata.expiresAt with
  | some expiresAt => expiresAt ≤ now
  | none => false

end CredentialMetadata

/-- `BrowserLoginSession`. -/
structure BrowserLoginSession where
  sessionToken : String
  expiresAt : Option SystemTime
  deriving DecidableEq, Repr

/-- `ProviderCredential`. -/
inductive ProviderCredential where
  | apiKey (secret : String)
  | browserSession (session : BrowserLoginSession)
  deriving DecidableEq, Repr

/-- `ProviderCredential::kind`. -/
def ProviderCredential.kind : ProviderCredential → CredentialKind
  | .apiKey _ => .apiKey
  | .browserSession _ => .browserSession

/-- `CredentialEntry`. -/
structure CredentialEntry where
  credential : ProviderCredential
  metadata : CredentialMetadata
  deriving DecidableEq, Repr

/-! ## The manager -/

/-- `SecureCredentialManager`, with the events that its observer has received. -/
structure SecureCredentialManager where
  credentials : ProviderId → Option CredentialEntry
  poisoned : Bool
  observed : List CredentialAccessEvent

/-- A fallible operation of the manager. -/
abbrev CredentialM := ExceptT ProviderError (StateM SecureCredentialManager)

namespace SecureCredentialManager

/-- `SecureCredentialManager::with_observer`. -/
def new : SecureCredentialManager :=
  { credentials := fun _ => none, poisoned := false, observed := [] }

/-- `credentials_mut`. -/
def credentialsMut : CredentialM Unit := do
  if (← get).poisoned then
    throw (.other "credential manager lock poisoned")

/-- `HashMap::get`. -/
def entry (provider : ProviderId) : CredentialM (Option CredentialEntry) :=
  return (← get).credentials provider

/-- `HashMap::insert` and `HashMap::remove`. -/
def setEntry (provider : ProviderId) (entry : Option CredentialEntry) : CredentialM Unit :=
  modify fun manager =>
    { manager with credentials := Function.update manager.credentials provider entry }

/-- `emit`. -/
def emit (event : CredentialAccessEvent) : CredentialM Unit :=
  modify fun manager => { manager with observed := manager.observed ++ [event] }

/-- `remove_if_expired`. -/
def removeIfExpired (provider : ProviderId) (now : SystemTime) : CredentialM Bool := do
  let expired := ((← entry provider).map (·.metadata.isExpired now)).getD false
  if expired then
    setEntry provider none
    return true
  return false

/-- `insert_credential`. -/
def insertCredential (provider : ProviderId) (credential : ProviderCredential)
    (expiresAt : Option SystemTime) (now : SystemTime) : CredentialM CredentialAccessAction := do
  credentialsMut
  if (← entry provider).isSome then
    setEntry provider (some ⟨credential, .withRotation now expiresAt⟩)
    return .rotated
  else
    setEntry provider (some ⟨credential, .new now expiresAt⟩)
    return .set

/-! ## Setters -/

/-- `set_api_key_with_expiry`. -/
def setApiKeyWithExpiry (provider : ProviderId) (apiKey : String) (expiresAt : Option SystemTime)
    (now : SystemTime) : CredentialM Unit := do
  if apiKey.isEmpty then
    throw (.authentication "api key must not be empty")
  let action ← insertCredential provider (.apiKey apiKey) expiresAt now
  emit ⟨provider, some .apiKey, action⟩

/-- `set_api_key`. -/
def setApiKey (provider : ProviderId) (apiKey : String) (now : SystemTime) : CredentialM Unit :=
  setApiKeyWithExpiry provider apiKey none now

/-- `set_api_key_with_ttl`, which reads the clock once for the expiry and once more to insert. -/
def setApiKeyWithTtl (provider : ProviderId) (apiKey : String) (ttl : Nat)
    (now insertedAt : SystemTime) : CredentialM Unit := do
  if ttl = 0 then
    throw (.authentication "api key ttl must be greater than zero")
  match now.checkedAdd ttl with
  | none => throw (.authentication "api key ttl is out of supported range")
  | some expiresAt => setApiKeyWithExpiry provider apiKey (some expiresAt) insertedAt

/-- `rotate_api_key`. -/
def rotateApiKey (provider : ProviderId) (apiKey : String) (ttl : Option Nat)
    (now insertedAt : SystemTime) : CredentialM Unit :=
  match ttl with
  | some ttl => setApiKeyWithTtl provider apiKey ttl now insertedAt
  | none => setApiKey provider apiKey now

/-- `set_browser_session`. -/
def setBrowserSession (provider : ProviderId) (sessionToken : String)
    (expiresAt : Option SystemTime) (now : SystemTime) : CredentialM Unit := do
  if sessionToken.isEmpty then
    throw (.authentication "browser session token must not be empty")
  let action ← insertCredential provider (.browserSession ⟨sessionToken, expiresAt⟩) expiresAt now
  emit ⟨provider, some .browserSession, action⟩

/-- `set_openai_api_key`. -/
def setOpenAiApiKey (apiKey : String) (now : SystemTime) : CredentialM Unit := do
  if !apiKey.startsWith "sk-" then
    throw (.authentication "OpenAI API key must start with 'sk-'")
  setApiKey .openAi apiKey now

/-- `set_anthropic_api_key`. -/
def setAnthropicApiKey (apiKey : String) (now : SystemTime) : CredentialM Unit := do
  if !apiKey.startsWith "sk-ant-" then
    throw (.authentication "Anthropic API key must start with 'sk-ant-'")
  setApiKey .anthropic apiKey now

/-- `set_opencode_zen_api_key`. -/
def setOpenCodeZenApiKey (apiKey : String) (now : SystemTime) : CredentialM Unit :=
  setApiKey .openCodeZen apiKey now

/-! ## Readers -/

/-- `has_credentials`. -/
def hasCredentials (provider : ProviderId) (now : SystemTime) : CredentialM Bool := do
  credentialsMut
  if ← removeIfExpired provider now then
    return false
  return (← entry provider).isSome

/-- `credential_kind`. -/
def credentialKind (provider : ProviderId) (now : SystemTime) :
    CredentialM (Option CredentialKind) := do
  credentialsMut
  if ← removeIfExpired provider now then
    return none
  return (← entry provider).map (·.credential.kind)

/-- `credential_metadata`. -/
def credentialMetadata (provider : ProviderId) (now : SystemTime) :
    CredentialM (Option CredentialMetadata) := do
  credentialsMut
  if ← removeIfExpired provider now then
    return none
  return (← entry provider).map (·.metadata)

/-- An access to a credential of a kind: `select` is the value that the closure is called with. -/
def withCredential {R : Type} (kind : CredentialKind) (select : ProviderCredential → Option R)
    (provider : ProviderId) (now : SystemTime) : CredentialM (Option R) := do
  credentialsMut
  if ← removeIfExpired provider now then
    emit ⟨provider, some kind, .accessDenied⟩
    return none
  match ← entry provider with
  | some found =>
      match select found.credential with
      | some value =>
          setEntry provider (some { found with metadata := found.metadata.markUsed now })
          emit ⟨provider, some kind, .accessGranted⟩
          return some value
      | none =>
          emit ⟨provider, some kind, .accessDenied⟩
          return none
  | none =>
      emit ⟨provider, some kind, .accessDenied⟩
      return none

/-- `with_api_key`. -/
def withApiKey {R : Type} (provider : ProviderId) (f : String → R) (now : SystemTime) :
    CredentialM (Option R) :=
  withCredential .apiKey (fun
    | .apiKey secret => some (f secret)
    | .browserSession _ => none) provider now

/-- `with_browser_session`. -/
def withBrowserSession {R : Type} (provider : ProviderId) (f : BrowserLoginSession → R)
    (now : SystemTime) : CredentialM (Option R) :=
  withCredential .browserSession (fun
    | .apiKey _ => none
    | .browserSession session => some (f session)) provider now

/-- `api_key`. -/
def apiKey (provider : ProviderId) (now : SystemTime) : CredentialM (Option String) :=
  withApiKey provider id now

/-- `browser_session`. -/
def browserSession (provider : ProviderId) (now : SystemTime) :
    CredentialM (Option BrowserLoginSession) :=
  withBrowserSession provider id now

/-- `revoke`. -/
def revoke (provider : ProviderId) : CredentialM Bool := do
  credentialsMut
  match ← entry provider with
  | some removed =>
      setEntry provider none
      emit ⟨provider, some removed.credential.kind, .cleared⟩
      return true
  | none => return false

/-- `clear`. -/
def clear (provider : ProviderId) : CredentialM Bool :=
  revoke provider

end SecureCredentialManager

end Fiddlesticks.Provider
