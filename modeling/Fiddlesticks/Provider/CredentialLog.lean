import Fiddlesticks.Provider.Credentials

/-!
# What the credential operations do

Every operation of `SecureCredentialManager` as one of a few changes of the stored credentials,
and the log of a sequence of operations executed one at a time.
-/

namespace Fiddlesticks.Provider

/-! ## Running an operation -/

namespace CredentialM

variable {α β : Type} {manager : SecureCredentialManager}

/-- Run an operation on a manager. -/
def exec (operation : CredentialM α) (manager : SecureCredentialManager) :
    Except ProviderError α × SecureCredentialManager :=
  operation manager

/-- A sequence runs its second part where the first has left the manager, unless the first fails. -/
@[simp] theorem exec_bind (first : CredentialM α) (next : α → CredentialM β) :
    (first >>= next).exec manager =
      match first.exec manager with
      | (.ok value, after) => (next value).exec after
      | (.error error, after) => (.error error, after) := by
  show (ExceptT.bindCont next (first manager).1) (first manager).2 = _
  rcases hfirst : first manager with ⟨value | value, after⟩ <;> simp [exec, hfirst] <;> rfl

/-- A pure function of the value leaves the manager to the operation. -/
@[simp] theorem exec_map (f : α → β) (first : CredentialM α) :
    (f <$> first).exec manager =
      (f <$> (first.exec manager).1, (first.exec manager).2) := by
  rw [← bind_pure_comp, exec_bind]
  rcases first.exec manager with ⟨error | value, after⟩ <;> rfl

/-- Returning a value changes nothing. -/
@[simp] theorem exec_pure (value : α) :
    (pure value : CredentialM α).exec manager = (.ok value, manager) := rfl

/-- Failing changes nothing. -/
@[simp] theorem exec_throw (error : ProviderError) :
    (throw error : CredentialM α).exec manager = (.error error, manager) := rfl

/-- Reading the manager changes nothing. -/
@[simp] theorem exec_get :
    (get : CredentialM SecureCredentialManager).exec manager = (.ok manager, manager) := rfl

/-- A change of the manager always succeeds. -/
@[simp] theorem exec_modify (f : SecureCredentialManager → SecureCredentialManager) :
    (modify f : CredentialM Unit).exec manager = (.ok (), f manager) := rfl

end CredentialM

/-! ## Changes of a manager -/

/-- The secret of an API key. -/
def ProviderCredential.toApiKey : ProviderCredential → Option String
  | .apiKey secret => some secret
  | .browserSession _ => none

/-- The session of a browser login. -/
def ProviderCredential.toBrowserSession : ProviderCredential → Option BrowserLoginSession
  | .apiKey _ => none
  | .browserSession session => some session

/-- Only an API key has a secret. -/
theorem ProviderCredential.toApiKey_eq_some (credential : ProviderCredential) (secret : String) :
    credential.toApiKey = some secret ↔ credential = .apiKey secret := by
  cases credential <;> simp [toApiKey]

/-- A credential has a secret when its kind is that of API keys. -/
theorem ProviderCredential.isSome_toApiKey (credential : ProviderCredential) :
    credential.toApiKey.isSome ↔ credential.kind = .apiKey := by
  cases credential <;> simp [toApiKey, kind]

/-- Only a browser login has a session. -/
theorem ProviderCredential.toBrowserSession_eq_some (credential : ProviderCredential)
    (session : BrowserLoginSession) :
    credential.toBrowserSession = some session ↔ credential = .browserSession session := by
  cases credential <;> simp [toBrowserSession]

/-- A credential has a session when its kind is that of browser logins. -/
theorem ProviderCredential.isSome_toBrowserSession (credential : ProviderCredential) :
    credential.toBrowserSession.isSome ↔ credential.kind = .browserSession := by
  cases credential <;> simp [toBrowserSession, kind]

/-- A credential to store, with its expiry and the time at which it is stored. -/
structure Insertion where
  provider : ProviderId
  credential : ProviderCredential
  expiresAt : Option SystemTime
  now : SystemTime
  deriving DecidableEq, Repr

/-- The entry that an insertion stores in the place of another one. -/
def Insertion.entry (insertion : Insertion) (replaced : Option CredentialEntry) : CredentialEntry :=
  { credential := insertion.credential
    metadata :=
      if replaced.isSome then .withRotation insertion.now insertion.expiresAt
      else .new insertion.now insertion.expiresAt }

namespace SecureCredentialManager

/-- The manager with another entry for a provider. -/
def put (manager : SecureCredentialManager) (provider : ProviderId)
    (entry : Option CredentialEntry) : SecureCredentialManager :=
  { manager with credentials := Function.update manager.credentials provider entry }

/-- The manager after an event. -/
def report (manager : SecureCredentialManager) (event : CredentialAccessEvent) :
    SecureCredentialManager :=
  { manager with observed := manager.observed ++ [event] }

/-- The entry of a provider that has not expired. -/
def live (manager : SecureCredentialManager) (provider : ProviderId) (now : SystemTime) :
    Option CredentialEntry :=
  (manager.credentials provider).filter (fun entry => !entry.metadata.isExpired now)

/-- The manager without the entry of a provider if that has expired. -/
def purge (manager : SecureCredentialManager) (provider : ProviderId) (now : SystemTime) :
    SecureCredentialManager :=
  manager.put provider (manager.live provider now)

/-- The manager after an insertion. -/
def store (manager : SecureCredentialManager) (insertion : Insertion) : SecureCredentialManager :=
  let replaced := manager.credentials insertion.provider
  (manager.put insertion.provider (some (insertion.entry replaced))).report
    ⟨insertion.provider, some insertion.credential.kind,
      if replaced.isSome then .rotated else .set⟩

variable {manager : SecureCredentialManager} {provider other : ProviderId} {now : SystemTime}

/-- An entry that was put is there. -/
@[simp] theorem credentials_put_self (entry : Option CredentialEntry) :
    (manager.put provider entry).credentials provider = entry := by
  simp [put]

/-- Putting an entry leaves other providers alone. -/
@[simp] theorem credentials_put_other (h : other ≠ provider) (entry : Option CredentialEntry) :
    (manager.put provider entry).credentials other = manager.credentials other := by
  simp [put, h]

/-- Putting an entry leaves the lock as it is. -/
@[simp] theorem poisoned_put (entry : Option CredentialEntry) :
    (manager.put provider entry).poisoned = manager.poisoned := rfl

/-- Putting an entry reports nothing. -/
@[simp] theorem observed_put (entry : Option CredentialEntry) :
    (manager.put provider entry).observed = manager.observed := rfl

/-- The last of two entries stays. -/
@[simp] theorem put_put (first second : Option CredentialEntry) :
    (manager.put provider first).put provider second = manager.put provider second := by
  simp [put]

/-- Putting what is there changes nothing. -/
theorem put_eq_self {entry : Option CredentialEntry} (h : manager.credentials provider = entry) :
    manager.put provider entry = manager := by
  simp [put, ← h]

/-- What a purge leaves of a provider has not expired. -/
@[simp] theorem credentials_purge_self :
    (manager.purge provider now).credentials provider = manager.live provider now := by
  simp [purge]

/-- A purge leaves other providers alone. -/
@[simp] theorem credentials_purge_other (h : other ≠ provider) :
    (manager.purge provider now).credentials other = manager.credentials other := by
  simp [purge, h]

/-- A purge leaves the lock as it is. -/
@[simp] theorem poisoned_purge : (manager.purge provider now).poisoned = manager.poisoned := rfl

/-- A purge reports nothing. -/
@[simp] theorem observed_purge : (manager.purge provider now).observed = manager.observed := rfl

/-- A report leaves the credentials alone. -/
@[simp] theorem credentials_report (event : CredentialAccessEvent) :
    (manager.report event).credentials = manager.credentials := rfl

/-- A report leaves the lock as it is. -/
@[simp] theorem poisoned_report (event : CredentialAccessEvent) :
    (manager.report event).poisoned = manager.poisoned := rfl

/-- A report comes after those before it. -/
@[simp] theorem observed_report (event : CredentialAccessEvent) :
    (manager.report event).observed = manager.observed ++ [event] := rfl

/-- A stored entry is live unless it has expired. -/
theorem live_eq_some {entry : CredentialEntry} :
    manager.live provider now = some entry ↔
      manager.credentials provider = some entry ∧ entry.metadata.isExpired now = false := by
  simp [live, Option.filter_eq_some_iff]

/-- Nothing is live when there is no entry or it has expired. -/
theorem live_eq_none :
    manager.live provider now = none ↔
      ∀ entry, manager.credentials provider = some entry → entry.metadata.isExpired now = true := by
  simp [live, Option.filter_eq_none_iff]

/-- A purge changes nothing when the entry is live. -/
theorem purge_eq_self {entry : CredentialEntry} (h : manager.live provider now = some entry) :
    manager.purge provider now = manager := by
  unfold purge
  exact put_eq_self (by rw [h, (live_eq_some.1 h).1])

/-! ## The internal steps -/

/-- The lock is taken when it is not poisoned. -/
@[simp] theorem exec_credentialsMut (h : manager.poisoned = false) :
    credentialsMut.exec manager = (.ok (), manager) := by
  simp [credentialsMut, h]

/-- Looking an entry up returns what is stored. -/
@[simp] theorem exec_entry :
    (entry provider).exec manager = (.ok (manager.credentials provider), manager) := by
  simp [entry]

/-- Storing an entry puts it there. -/
@[simp] theorem exec_setEntry (value : Option CredentialEntry) :
    (setEntry provider value).exec manager = (.ok (), manager.put provider value) := rfl

/-- Emitting an event reports it. -/
@[simp] theorem exec_emit (event : CredentialAccessEvent) :
    (emit event).exec manager = (.ok (), manager.report event) := rfl

/-- Removing an expired entry is a purge, and its answer is whether the entry had expired. -/
@[simp] theorem exec_removeIfExpired :
    (removeIfExpired provider now).exec manager =
      (.ok ((manager.credentials provider).isSome && (manager.live provider now).isNone),
        manager.purge provider now) := by
  unfold removeIfExpired purge live
  cases hentry : manager.credentials provider with
  | none => simp [hentry, put_eq_self]
  | some entry =>
      cases hexpired : entry.metadata.isExpired now with
      | true => simp [hentry, hexpired, Option.filter]
      | false => simp [hentry, hexpired, Option.filter, put_eq_self]

/-- An insertion stores its entry and reports whether it is a rotation. -/
theorem exec_insertCredential (h : manager.poisoned = false) (insertion : Insertion) :
    (do
      let action ← insertCredential insertion.provider insertion.credential insertion.expiresAt
        insertion.now
      emit ⟨insertion.provider, some insertion.credential.kind, action⟩ : CredentialM Unit).exec
        manager = (.ok (), manager.store insertion) := by
  unfold insertCredential store Insertion.entry
  cases hentry : manager.credentials insertion.provider with
  | none => simp [h, hentry]
  | some entry => simp [h, hentry]

/-! ## The readers -/

/-- `has_credentials` answers whether a credential is live and purges. -/
theorem exec_hasCredentials (h : manager.poisoned = false) :
    (hasCredentials provider now).exec manager =
      (.ok (manager.live provider now).isSome, manager.purge provider now) := by
  unfold hasCredentials
  cases hlive : manager.live provider now with
  | none => cases hentry : manager.credentials provider <;> simp [h, hentry, hlive, purge]
  | some entry => simp [h, hlive, purge]

/-- `credential_kind` answers with the kind of the live credential and purges. -/
theorem exec_credentialKind (h : manager.poisoned = false) :
    (credentialKind provider now).exec manager =
      (.ok ((manager.live provider now).map (·.credential.kind)), manager.purge provider now) := by
  unfold credentialKind
  cases hlive : manager.live provider now with
  | none => cases hentry : manager.credentials provider <;> simp [h, hentry, hlive, purge]
  | some entry => simp [h, hlive, purge]

/-- `credential_metadata` answers with the metadata of the live credential and purges. -/
theorem exec_credentialMetadata (h : manager.poisoned = false) :
    (credentialMetadata provider now).exec manager =
      (.ok ((manager.live provider now).map (·.metadata)), manager.purge provider now) := by
  unfold credentialMetadata
  cases hlive : manager.live provider now with
  | none => cases hentry : manager.credentials provider <;> simp [h, hentry, hlive, purge]
  | some entry => simp [h, hlive, purge]

/-- The manager after a granted access. -/
def grant (manager : SecureCredentialManager) (provider : ProviderId) (now : SystemTime)
    (entry : CredentialEntry) : SecureCredentialManager :=
  (manager.put provider (some { entry with metadata := entry.metadata.markUsed now })).report
    ⟨provider, some entry.credential.kind, .accessGranted⟩

/-- The manager after a denied access to a kind of credential. -/
def deny (manager : SecureCredentialManager) (provider : ProviderId) (now : SystemTime)
    (kind : CredentialKind) : SecureCredentialManager :=
  (manager.purge provider now).report ⟨provider, some kind, .accessDenied⟩

/-- The entry that an access to a kind of credential finds. -/
def accessible (manager : SecureCredentialManager) (provider : ProviderId) (now : SystemTime)
    (kind : CredentialKind) : Option CredentialEntry :=
  (manager.live provider now).filter (·.credential.kind = kind)

/-- The outcome of an access that hands the credential to `select`. -/
def access {R : Type} (manager : SecureCredentialManager) (provider : ProviderId)
    (now : SystemTime) (kind : CredentialKind) (select : ProviderCredential → Option R) :
    Except ProviderError (Option R) × SecureCredentialManager :=
  match manager.accessible provider now kind with
  | some entry => (.ok (select entry.credential), manager.grant provider now entry)
  | none => (.ok none, manager.deny provider now kind)

/-- An access with a selector that fits its kind of credential. -/
theorem exec_withCredential {R : Type} {kind : CredentialKind}
    {select : ProviderCredential → Option R} (h : manager.poisoned = false)
    (hselect : ∀ credential, (select credential).isSome ↔ credential.kind = kind) :
    (withCredential kind select provider now).exec manager =
      manager.access provider now kind select := by
  unfold withCredential access accessible deny grant
  cases hlive : manager.live provider now with
  | none => cases hentry : manager.credentials provider <;> simp [h, hentry, hlive, purge]
  | some entry =>
      have hkind := hselect entry.credential
      cases hvalue : select entry.credential with
      | none =>
          have hother : entry.credential.kind ≠ kind := by simpa [hvalue] using hkind
          simp [h, hlive, purge, hvalue, Option.filter, hother]
      | some value =>
          have hsame : entry.credential.kind = kind := by simpa [hvalue] using hkind
          simp [h, hlive, purge, hvalue, Option.filter, hsame]

/-- `with_api_key` is an access to an API key. -/
theorem exec_withApiKey {R : Type} (f : String → R) (h : manager.poisoned = false) :
    (withApiKey provider f now).exec manager =
      manager.access provider now .apiKey (fun credential => credential.toApiKey.map f) := by
  unfold withApiKey
  rw [exec_withCredential h (by rintro (secret | session) <;> simp [ProviderCredential.kind])]
  congr 1
  funext credential
  cases credential <;> rfl

/-- `with_browser_session` is an access to a browser login. -/
theorem exec_withBrowserSession {R : Type} (f : BrowserLoginSession → R)
    (h : manager.poisoned = false) :
    (withBrowserSession provider f now).exec manager =
      manager.access provider now .browserSession
        (fun credential => credential.toBrowserSession.map f) := by
  unfold withBrowserSession
  rw [exec_withCredential h (by rintro (secret | session) <;> simp [ProviderCredential.kind])]
  congr 1
  funext credential
  cases credential <;> rfl

/-- The outcome of a revocation. -/
def revoked (manager : SecureCredentialManager) (provider : ProviderId) :
    Bool × SecureCredentialManager :=
  match manager.credentials provider with
  | some entry =>
      (true, (manager.put provider none).report ⟨provider, some entry.credential.kind, .cleared⟩)
  | none => (false, manager)

/-- `revoke` takes the entry away, whether it has expired or not. -/
theorem exec_revoke (h : manager.poisoned = false) :
    (revoke provider).exec manager =
      (.ok (manager.revoked provider).1, (manager.revoked provider).2) := by
  unfold revoke revoked
  cases hentry : manager.credentials provider <;> simp [h, hentry]

end SecureCredentialManager

/-! ## Operations -/

/-- The operations that store a credential, with the readings of the clock that they make. -/
inductive Setter where
  | setApiKey (provider : ProviderId) (apiKey : String) (now : SystemTime)
  | setApiKeyWithTtl (provider : ProviderId) (apiKey : String) (ttl : Nat)
      (now insertedAt : SystemTime)
  | rotateApiKey (provider : ProviderId) (apiKey : String) (ttl : Option Nat)
      (now insertedAt : SystemTime)
  | setBrowserSession (provider : ProviderId) (sessionToken : String)
      (expiresAt : Option SystemTime) (now : SystemTime)
  | setOpenAiApiKey (apiKey : String) (now : SystemTime)
  | setAnthropicApiKey (apiKey : String) (now : SystemTime)
  | setOpenCodeZenApiKey (apiKey : String) (now : SystemTime)
  deriving DecidableEq, Repr

namespace Setter

open SecureCredentialManager

/-- The call of a setter. -/
def perform : Setter → CredentialM Unit
  | setApiKey provider apiKey now => SecureCredentialManager.setApiKey provider apiKey now
  | setApiKeyWithTtl provider apiKey ttl now insertedAt =>
      SecureCredentialManager.setApiKeyWithTtl provider apiKey ttl now insertedAt
  | rotateApiKey provider apiKey ttl now insertedAt =>
      SecureCredentialManager.rotateApiKey provider apiKey ttl now insertedAt
  | setBrowserSession provider sessionToken expiresAt now =>
      SecureCredentialManager.setBrowserSession provider sessionToken expiresAt now
  | setOpenAiApiKey apiKey now => SecureCredentialManager.setOpenAiApiKey apiKey now
  | setAnthropicApiKey apiKey now => SecureCredentialManager.setAnthropicApiKey apiKey now
  | setOpenCodeZenApiKey apiKey now => SecureCredentialManager.setOpenCodeZenApiKey apiKey now

/-- The readings of the clock, in order. -/
def readings : Setter → List SystemTime
  | setApiKeyWithTtl _ _ _ now insertedAt | rotateApiKey _ _ _ now insertedAt => [now, insertedAt]
  | setApiKey _ _ now | setBrowserSession _ _ _ now | setOpenAiApiKey _ now
  | setAnthropicApiKey _ now | setOpenCodeZenApiKey _ now => [now]

/-- What a setter stores unless it is rejected. -/
def insertion : Setter → Insertion
  | setApiKey provider apiKey now => ⟨provider, .apiKey apiKey, none, now⟩
  | setApiKeyWithTtl provider apiKey ttl now insertedAt
  | rotateApiKey provider apiKey (some ttl) now insertedAt =>
      ⟨provider, .apiKey apiKey, now.checkedAdd ttl, insertedAt⟩
  | rotateApiKey provider apiKey none now _ => ⟨provider, .apiKey apiKey, none, now⟩
  | setBrowserSession provider sessionToken expiresAt now =>
      ⟨provider, .browserSession ⟨sessionToken, expiresAt⟩, expiresAt, now⟩
  | setOpenAiApiKey apiKey now => ⟨.openAi, .apiKey apiKey, none, now⟩
  | setAnthropicApiKey apiKey now => ⟨.anthropic, .apiKey apiKey, none, now⟩
  | setOpenCodeZenApiKey apiKey now => ⟨.openCodeZen, .apiKey apiKey, none, now⟩

/-- The arguments of a setter pass its checks. -/
def accepted : Setter → Bool
  | setApiKey _ apiKey _ | setOpenCodeZenApiKey apiKey _ | rotateApiKey _ apiKey none _ _ =>
      !apiKey.isEmpty
  | setApiKeyWithTtl _ apiKey ttl now _ | rotateApiKey _ apiKey (some ttl) now _ =>
      ttl ≠ 0 && (now.checkedAdd ttl).isSome && !apiKey.isEmpty
  | setBrowserSession _ sessionToken _ _ => !sessionToken.isEmpty
  | setOpenAiApiKey apiKey _ => apiKey.startsWith "sk-" && !apiKey.isEmpty
  | setAnthropicApiKey apiKey _ => apiKey.startsWith "sk-ant-" && !apiKey.isEmpty

variable {manager : SecureCredentialManager}

/-- A key that is not empty is stored with its expiry. -/
theorem exec_setApiKeyWithExpiry {provider : ProviderId} {apiKey : String}
    {expiresAt : Option SystemTime} {now : SystemTime} (h : manager.poisoned = false)
    (hkey : apiKey.isEmpty = false) :
    (setApiKeyWithExpiry provider apiKey expiresAt now).exec manager =
      (.ok (), manager.store ⟨provider, .apiKey apiKey, expiresAt, now⟩) := by
  simpa [setApiKeyWithExpiry, hkey, ProviderCredential.kind] using
    exec_insertCredential h ⟨provider, .apiKey apiKey, expiresAt, now⟩

/-- A key that is not empty is stored with the expiry that its time to live comes to. -/
theorem exec_setApiKeyWithTtl {provider : ProviderId} {apiKey : String} {ttl : Nat}
    {now insertedAt : SystemTime} (h : manager.poisoned = false) (httl : ttl ≠ 0)
    (htime : (now.checkedAdd ttl).isSome) (hkey : apiKey.isEmpty = false) :
    (SecureCredentialManager.setApiKeyWithTtl provider apiKey ttl now insertedAt).exec manager =
      (.ok (), manager.store ⟨provider, .apiKey apiKey, now.checkedAdd ttl, insertedAt⟩) := by
  obtain ⟨expiresAt, hexpires⟩ := Option.isSome_iff_exists.1 htime
  simpa [SecureCredentialManager.setApiKeyWithTtl, httl, hexpires] using
    exec_setApiKeyWithExpiry h hkey

/-- A setter with good arguments stores its credential. -/
theorem exec_perform_accepted {setter : Setter} (h : manager.poisoned = false)
    (haccepted : setter.accepted) :
    setter.perform.exec manager = (.ok (), manager.store setter.insertion) := by
  cases setter with
  | setApiKey provider apiKey now =>
      exact exec_setApiKeyWithExpiry h (by simpa [accepted] using haccepted)
  | setApiKeyWithTtl provider apiKey ttl now insertedAt =>
      obtain ⟨⟨httl, htime⟩, hkey⟩ : (ttl ≠ 0 ∧ (now.checkedAdd ttl).isSome) ∧
          apiKey.isEmpty = false := by simpa [accepted] using haccepted
      exact exec_setApiKeyWithTtl h httl htime hkey
  | rotateApiKey provider apiKey ttl now insertedAt =>
      cases ttl with
      | none => exact exec_setApiKeyWithExpiry h (by simpa [accepted] using haccepted)
      | some ttl =>
          obtain ⟨⟨httl, htime⟩, hkey⟩ : (ttl ≠ 0 ∧ (now.checkedAdd ttl).isSome) ∧
              apiKey.isEmpty = false := by simpa [accepted] using haccepted
          exact exec_setApiKeyWithTtl h httl htime hkey
  | setBrowserSession provider sessionToken expiresAt now =>
      have hkey : sessionToken.isEmpty = false := by simpa [accepted] using haccepted
      simpa [perform, SecureCredentialManager.setBrowserSession, hkey, insertion,
        ProviderCredential.kind] using
        exec_insertCredential h
          ⟨provider, .browserSession ⟨sessionToken, expiresAt⟩, expiresAt, now⟩
  | setOpenAiApiKey apiKey now =>
      obtain ⟨hstarts, hkey⟩ : apiKey.startsWith "sk-" ∧ apiKey.isEmpty = false := by
        simpa [accepted] using haccepted
      simpa [perform, SecureCredentialManager.setOpenAiApiKey, hstarts, insertion,
        SecureCredentialManager.setApiKey] using exec_setApiKeyWithExpiry h hkey
  | setAnthropicApiKey apiKey now =>
      obtain ⟨hstarts, hkey⟩ : apiKey.startsWith "sk-ant-" ∧ apiKey.isEmpty = false := by
        simpa [accepted] using haccepted
      simpa [perform, SecureCredentialManager.setAnthropicApiKey, hstarts, insertion,
        SecureCredentialManager.setApiKey] using exec_setApiKeyWithExpiry h hkey
  | setOpenCodeZenApiKey apiKey now =>
      exact exec_setApiKeyWithExpiry h (by simpa [accepted] using haccepted)

/-- An empty key is refused and nothing is stored. -/
theorem exec_setApiKeyWithExpiry_empty {provider : ProviderId} {apiKey : String}
    {expiresAt : Option SystemTime} {now : SystemTime} (hkey : apiKey.isEmpty = true) :
    (setApiKeyWithExpiry provider apiKey expiresAt now).exec manager =
      (.error (.authentication "api key must not be empty"), manager) := by
  simp [setApiKeyWithExpiry, hkey]

/-- A time to live that is zero or too long, and an empty key, are refused and nothing is stored. -/
theorem exec_setApiKeyWithTtl_rejected {provider : ProviderId} {apiKey : String} {ttl : Nat}
    {now insertedAt : SystemTime}
    (h : ttl = 0 ∨ now.checkedAdd ttl = none ∨ apiKey.isEmpty = true) :
    ∃ error, ∀ manager,
      (SecureCredentialManager.setApiKeyWithTtl provider apiKey ttl now insertedAt).exec manager =
        (.error error, manager) := by
  unfold SecureCredentialManager.setApiKeyWithTtl
  by_cases httl : ttl = 0
  · exact ⟨_, fun manager => by simp [httl]; rfl⟩
  · cases htime : now.checkedAdd ttl with
    | none => exact ⟨_, fun manager => by simp [httl]; rfl⟩
    | some expiresAt =>
        have hkey : apiKey.isEmpty = true := by simpa [httl, htime] using h
        exact ⟨_, fun manager => by simp [httl, exec_setApiKeyWithExpiry_empty hkey]; rfl⟩

/-- A setter with bad arguments fails in the same way on every manager and changes nothing. -/
theorem exec_perform_rejected {setter : Setter} (hrejected : setter.accepted = false) :
    ∃ error, ∀ manager, setter.perform.exec manager = (.error error, manager) := by
  cases setter with
  | setApiKey provider apiKey now =>
      exact ⟨_, fun _ => exec_setApiKeyWithExpiry_empty (by simpa [accepted] using hrejected)⟩
  | setApiKeyWithTtl provider apiKey ttl now insertedAt =>
      apply exec_setApiKeyWithTtl_rejected
      simpa [accepted, or_iff_not_imp_left, Option.isSome_iff_ne_none] using hrejected
  | rotateApiKey provider apiKey ttl now insertedAt =>
      cases ttl with
      | none =>
          exact ⟨_, fun _ => exec_setApiKeyWithExpiry_empty (by simpa [accepted] using hrejected)⟩
      | some ttl =>
          apply exec_setApiKeyWithTtl_rejected
          simpa [accepted, or_iff_not_imp_left, Option.isSome_iff_ne_none] using hrejected
  | setBrowserSession provider sessionToken expiresAt now =>
      have hkey : sessionToken.isEmpty = true := by simpa [accepted] using hrejected
      exact ⟨_, fun _ => by simp [perform, SecureCredentialManager.setBrowserSession, hkey]; rfl⟩
  | setOpenAiApiKey apiKey now =>
      unfold perform SecureCredentialManager.setOpenAiApiKey
      cases hstarts : apiKey.startsWith "sk-" with
      | false => exact ⟨_, fun _ => by simp [hstarts]; rfl⟩
      | true =>
          have hkey : apiKey.isEmpty = true := by simpa [accepted, hstarts] using hrejected
          exact ⟨_, fun _ => by
            simp [hstarts, SecureCredentialManager.setApiKey, exec_setApiKeyWithExpiry_empty hkey]
            rfl⟩
  | setAnthropicApiKey apiKey now =>
      unfold perform SecureCredentialManager.setAnthropicApiKey
      cases hstarts : apiKey.startsWith "sk-ant-" with
      | false => exact ⟨_, fun _ => by simp [hstarts]; rfl⟩
      | true =>
          have hkey : apiKey.isEmpty = true := by simpa [accepted, hstarts] using hrejected
          exact ⟨_, fun _ => by
            simp [hstarts, SecureCredentialManager.setApiKey, exec_setApiKeyWithExpiry_empty hkey]
            rfl⟩
  | setOpenCodeZenApiKey apiKey now =>
      exact ⟨_, fun _ => exec_setApiKeyWithExpiry_empty (by simpa [accepted] using hrejected)⟩

end Setter

end Fiddlesticks.Provider
