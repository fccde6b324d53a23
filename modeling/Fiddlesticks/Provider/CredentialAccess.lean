import Fiddlesticks.Provider.CredentialLog

/-!
# Access to the last live credential

A sequence of operations of the manager and the log it leaves. At any time the stored credential of
a provider is the one that the log stored last, unless it was revoked or has expired, and its
metadata counts the accesses granted since.
-/

namespace Fiddlesticks.Provider

open SecureCredentialManager CredentialM

/-! ## Sequences of operations -/

/-- The questions about a credential. -/
inductive Query where
  | hasCredentials
  | credentialKind
  | credentialMetadata
  deriving DecidableEq, Repr

/-- An operation of the manager, with the readings of the clock that it makes. An access gives
its closure the credential itself. -/
inductive CredentialOp where
  | setter (call : Setter)
  | revoke (provider : ProviderId)
  | clear (provider : ProviderId)
  | query (query : Query) (provider : ProviderId) (now : SystemTime)
  | withApiKey (provider : ProviderId) (now : SystemTime)
  | withBrowserSession (provider : ProviderId) (now : SystemTime)
  deriving DecidableEq, Repr

/-- What an operation returns. -/
inductive CredentialAnswer where
  | done
  | removed (hadValue : Bool)
  | present (present : Bool)
  | kind (kind : Option CredentialKind)
  | metadata (metadata : Option CredentialMetadata)
  | apiKey (secret : Option String)
  | browserSession (session : Option BrowserLoginSession)
  deriving DecidableEq, Repr

namespace CredentialOp

/-- The call of an operation. -/
def perform : CredentialOp → CredentialM CredentialAnswer
  | .setter call => (fun _ => .done) <$> call.perform
  | revoke provider => .removed <$> SecureCredentialManager.revoke provider
  | clear provider => .removed <$> SecureCredentialManager.clear provider
  | query .hasCredentials provider now => .present <$> hasCredentials provider now
  | query .credentialKind provider now => .kind <$> credentialKind provider now
  | query .credentialMetadata provider now => .metadata <$> credentialMetadata provider now
  | withApiKey provider now => .apiKey <$> SecureCredentialManager.withApiKey provider id now
  | withBrowserSession provider now =>
      .browserSession <$> SecureCredentialManager.withBrowserSession provider id now

/-- The readings of the clock, in order. -/
def readings : CredentialOp → List SystemTime
  | .setter call => call.readings
  | query _ _ now | withApiKey _ now | withBrowserSession _ now => [now]
  | revoke _ | clear _ => []

/-- The provider whose credential an operation is about. -/
def provider : CredentialOp → ProviderId
  | .setter call => call.insertion.provider
  | revoke provider | clear provider | query _ provider _ | withApiKey provider _
  | withBrowserSession provider _ => provider

end CredentialOp

/-- A call with what it returned. -/
abbrev CredentialCall := CredentialOp × Except ProviderError CredentialAnswer

/-- The calls of a sequence of operations. -/
abbrev CredentialLog := List CredentialCall

/-- The log of operations executed one at a time. -/
def logOf : List CredentialOp → SecureCredentialManager → CredentialLog
  | [], _ => []
  | op :: ops, manager =>
      (op, (op.perform.exec manager).1) :: logOf ops (op.perform.exec manager).2

/-- The manager after operations. -/
def managerAfter (ops : List CredentialOp) (manager : SecureCredentialManager) :
    SecureCredentialManager :=
  ops.foldl (fun manager op => (op.perform.exec manager).2) manager

/-- The log of a sequence is the log of its first part and that of the rest from there. -/
@[simp] theorem logOf_append (first rest : List CredentialOp) (manager : SecureCredentialManager) :
    logOf (first ++ rest) manager =
      logOf first manager ++ logOf rest (managerAfter first manager) := by
  induction first generalizing manager with
  | nil => rfl
  | cons op first ih => simp [logOf, managerAfter, ih]

/-- A sequence leaves the manager as its second part leaves it after the first. -/
@[simp] theorem managerAfter_append (first rest : List CredentialOp)
    (manager : SecureCredentialManager) :
    managerAfter (first ++ rest) manager = managerAfter rest (managerAfter first manager) := by
  simp [managerAfter]

/-- The last operation acts on what those before it have left. -/
theorem managerAfter_snoc (ops : List CredentialOp) (op : CredentialOp)
    (manager : SecureCredentialManager) :
    managerAfter (ops ++ [op]) manager = (op.perform.exec (managerAfter ops manager)).2 := by
  rw [managerAfter_append]
  rfl

/-- The last operation adds its entry to the log. -/
theorem logOf_snoc (ops : List CredentialOp) (op : CredentialOp)
    (manager : SecureCredentialManager) :
    logOf (ops ++ [op]) manager =
      logOf ops manager ++ [(op, (op.perform.exec (managerAfter ops manager)).1)] := by
  rw [logOf_append]
  rfl

/-! ## One operation -/

/-- The answer to a question about the live entry of a provider. -/
def Query.answer : Query → Option CredentialEntry → CredentialAnswer
  | .hasCredentials, entry => .present entry.isSome
  | .credentialKind, entry => .kind (entry.map (·.credential.kind))
  | .credentialMetadata, entry => .metadata (entry.map (·.metadata))

/-- The answer to an access to a kind of credential. -/
def accessAnswer (entry : Option CredentialEntry) : CredentialKind → CredentialAnswer
  | .apiKey => .apiKey (entry.bind (·.credential.toApiKey))
  | .browserSession => .browserSession (entry.bind (·.credential.toBrowserSession))

/-- An access to a kind of credential. -/
def CredentialOp.access (provider : ProviderId) (now : SystemTime) : CredentialKind → CredentialOp
  | .apiKey => .withApiKey provider now
  | .browserSession => .withBrowserSession provider now

/-- What one operation answers and how it changes the manager. -/
inductive Performs : CredentialOp → SecureCredentialManager →
    Except ProviderError CredentialAnswer → SecureCredentialManager → Prop where
  | stored {call manager} (haccepted : call.accepted) :
      Performs (.setter call) manager (.ok .done) (manager.store call.insertion)
  | rejected {call manager error} (hrejected : call.accepted = false) :
      Performs (.setter call) manager (.error error) manager
  | revoked {op provider manager} (hop : op = .revoke provider ∨ op = .clear provider) :
      Performs op manager (.ok (.removed (manager.revoked provider).1))
        (manager.revoked provider).2
  | queried {query provider now manager} :
      Performs (.query query provider now) manager
        (.ok (query.answer (manager.live provider now))) (manager.purge provider now)
  | granted {provider now kind manager entry}
      (hentry : manager.accessible provider now kind = some entry) :
      Performs (.access provider now kind) manager (.ok (accessAnswer (some entry) kind))
        (manager.grant provider now entry)
  | denied {provider now kind manager} (hentry : manager.accessible provider now kind = none) :
      Performs (.access provider now kind) manager (.ok (accessAnswer none kind))
        (manager.deny provider now kind)

/-- A query is answered from the live entry and purges. -/
theorem exec_query {manager : SecureCredentialManager} {provider : ProviderId} {now : SystemTime}
    (h : manager.poisoned = false) (query : Query) :
    (CredentialOp.query query provider now).perform.exec manager =
      (.ok (query.answer (manager.live provider now)), manager.purge provider now) := by
  cases query with
  | hasCredentials => simp [CredentialOp.perform, exec_hasCredentials h, Query.answer]
  | credentialKind => simp [CredentialOp.perform, exec_credentialKind h, Query.answer]
  | credentialMetadata => simp [CredentialOp.perform, exec_credentialMetadata h, Query.answer]

/-- An access by either method is the access of the log. -/
theorem performs_access {manager : SecureCredentialManager} {provider : ProviderId}
    {now : SystemTime} (kind : CredentialKind) {R : Type}
    {select : ProviderCredential → Option R} {wrap : Option R → CredentialAnswer}
    (hwrap : ∀ entry : Option CredentialEntry,
      wrap (entry.bind (select ·.credential)) = accessAnswer entry kind) :
    Performs (.access provider now kind) manager
      (wrap <$> (manager.access provider now kind select).1)
      (manager.access provider now kind select).2 := by
  unfold SecureCredentialManager.access
  cases hentry : manager.accessible provider now kind with
  | none =>
      show Performs _ _ (.ok (wrap none)) _
      rw [show wrap none = _ from hwrap none]
      exact .denied hentry
  | some entry =>
      show Performs _ _ (.ok (wrap (select entry.credential))) _
      rw [show wrap (select entry.credential) = _ from hwrap (some entry)]
      exact .granted hentry

/-- Every operation does one of these. -/
theorem performs_perform (op : CredentialOp) {manager : SecureCredentialManager}
    (h : manager.poisoned = false) :
    Performs op manager (op.perform.exec manager).1 (op.perform.exec manager).2 := by
  cases op with
  | setter call =>
      cases haccepted : call.accepted with
      | true => simpa [CredentialOp.perform, Setter.exec_perform_accepted h haccepted] using
          Performs.stored haccepted
      | false =>
          obtain ⟨error, herror⟩ := Setter.exec_perform_rejected haccepted
          simpa [CredentialOp.perform, herror] using Performs.rejected haccepted
  | revoke provider => simpa [CredentialOp.perform, exec_revoke h] using .revoked (.inl rfl)
  | clear provider =>
      simpa [CredentialOp.perform, SecureCredentialManager.clear, exec_revoke h] using
        .revoked (.inr rfl)
  | query query provider now =>
      rw [exec_query h]
      exact .queried
  | withApiKey provider now =>
      simp only [CredentialOp.perform, exec_map, exec_withApiKey id h, Option.map_id]
      exact performs_access .apiKey fun _ => rfl
  | withBrowserSession provider now =>
      simp only [CredentialOp.perform, exec_map, exec_withBrowserSession id h, Option.map_id]
      exact performs_access .browserSession fun _ => rfl

/-! ## The last insertion of a provider -/

/-- The call puts a credential of the provider in place or takes it away. -/
def Replaces (provider : ProviderId) : CredentialCall → Prop
  | (.setter call, .ok _) => call.insertion.provider = provider
  | (.revoke revoked, _) | (.clear revoked, _) => revoked = provider
  | _ => False

/-- The last successful insertion for a provider, which no revocation follows, and the calls after
it. -/
def LastInsertion (log : CredentialLog) (provider : ProviderId) (insertion : Insertion)
    (later : CredentialLog) : Prop :=
  ∃ earlier call, log = earlier ++ (.setter call, .ok .done) :: later ∧
    call.insertion = insertion ∧ insertion.provider = provider ∧
    ∀ entry ∈ later, ¬ Replaces provider entry

/-- The time of a granted access to the credential of a provider. -/
def grantTime (provider : ProviderId) : CredentialCall → Option SystemTime
  | (.withApiKey accessed now, .ok (.apiKey (some _)))
  | (.withBrowserSession accessed now, .ok (.browserSession (some _))) =>
      if accessed = provider then some now else none
  | _ => none

/-- The times of the granted accesses to the credential of a provider. -/
def grants (provider : ProviderId) (log : CredentialLog) : List SystemTime :=
  log.filterMap (grantTime provider)

/-- The expiry of an insertion has come. -/
def Insertion.Expired (insertion : Insertion) (now : SystemTime) : Prop :=
  ∃ expiresAt, insertion.expiresAt = some expiresAt ∧ expiresAt ≤ now

/-- The last insertion for a provider, if its expiry is later than `now`. -/
def Live (log : CredentialLog) (provider : ProviderId) (now : SystemTime) (insertion : Insertion)
    (later : CredentialLog) : Prop :=
  LastInsertion log provider insertion later ∧ ¬ insertion.Expired now

section

variable {log : CredentialLog} {provider : ProviderId} {insertion : Insertion}
  {later : CredentialLog} {entry : CredentialCall}

/-- An entry that does not replace the credential is one of those since the last insertion. -/
theorem lastInsertion_snoc (hentry : ¬ Replaces provider entry) :
    LastInsertion (log ++ [entry]) provider insertion later ↔
      ∃ init, later = init ++ [entry] ∧ LastInsertion log provider insertion init := by
  constructor
  · intro h
    obtain ⟨earlier, call, hlog, rfl, hprovider, hlater⟩ := h
    rcases snoc_eq_append_cons.1 hlog with ⟨rfl, rfl, rfl⟩ | ⟨init, rfl, rfl⟩
    · exact absurd hprovider hentry
    · exact ⟨init, rfl, earlier, call, rfl, rfl, hprovider,
        fun e he => hlater e (List.mem_append_left _ he)⟩
  · intro h
    obtain ⟨init, rfl, earlier, call, rfl, rfl, hprovider, hinit⟩ := h
    refine ⟨earlier, call, by simp, rfl, hprovider, ?_⟩
    simpa [or_imp, forall_and, hentry] using hinit

/-- After an entry that replaces the credential, the last insertion is its own. -/
theorem lastInsertion_replaced (hentry : Replaces provider entry)
    (h : LastInsertion (log ++ [entry]) provider insertion later) :
    later = [] ∧ ∃ call, entry = (.setter call, .ok .done) ∧ call.insertion = insertion := by
  obtain ⟨earlier, call, hlog, rfl, hprovider, hlater⟩ := h
  rcases snoc_eq_append_cons.1 hlog with ⟨rfl, rfl, rfl⟩ | ⟨init, rfl, rfl⟩
  · exact ⟨rfl, call, rfl, rfl⟩
  · exact absurd hentry (hlater entry (by simp))

/-- A setter that has succeeded is the last insertion. -/
theorem lastInsertion_stored (call : Setter) :
    LastInsertion (log ++ [(.setter call, .ok .done)]) call.insertion.provider call.insertion [] :=
  ⟨log, call, rfl, rfl, rfl, by simp⟩

/-- Nothing has been granted yet. -/
@[simp] theorem grants_nil : grants provider [] = [] := rfl

/-- An entry adds the time of the access that it grants. -/
@[simp] theorem grants_snoc :
    grants provider (log ++ [entry]) =
      grants provider log ++ (grantTime provider entry).toList := by
  unfold grants
  rw [List.filterMap_append]
  cases hentry : grantTime provider entry <;> simp [hentry]

/-- There is at most one last insertion. -/
theorem LastInsertion.unique {other : Insertion} {after : CredentialLog}
    (h : LastInsertion log provider insertion later)
    (h' : LastInsertion log provider other after) : insertion = other ∧ later = after := by
  induction log using List.reverseRecOn generalizing later after with
  | nil =>
      obtain ⟨earlier, call, hlog, -⟩ := h
      simp at hlog
  | append_singleton log entry ih =>
      by_cases hentry : Replaces provider entry
      · obtain ⟨rfl, call, rfl, rfl⟩ := lastInsertion_replaced hentry h
        obtain ⟨rfl, call', hcall, rfl⟩ := lastInsertion_replaced hentry h'
        simp_all
      · obtain ⟨init, rfl, hinit⟩ := (lastInsertion_snoc hentry).1 h
        obtain ⟨init', rfl, hinit'⟩ := (lastInsertion_snoc hentry).1 h'
        obtain ⟨rfl, rfl⟩ := ih hinit hinit'
        exact ⟨rfl, rfl⟩

end

/-! ## The stored entry and the log -/

/-- The use count stops at its largest value. -/
theorem CredentialMetadata.toNat_saturatingSucc (count : UInt64) :
    (saturatingSucc count).toNat = min (count.toNat + 1) (2 ^ 64 - 1) := by
  unfold saturatingSucc
  have hlt := count.toNat_lt
  split
  · next h => subst h; rfl
  · next h =>
      have hne : count.toNat ≠ 2 ^ 64 - 1 := fun hcount => h (UInt64.toNat_inj.1 hcount)
      rw [UInt64.toNat_add]
      simp only [UInt64.toNat_one]
      omega

/-- An entry holds an insertion and the accesses granted since. -/
structure CredentialEntry.Reflects (entry : CredentialEntry) (insertion : Insertion)
    (granted : List SystemTime) : Prop where
  credential : entry.credential = insertion.credential
  created : entry.metadata.createdAt = insertion.now
  expires : entry.metadata.expiresAt = insertion.expiresAt
  lastUsed : entry.metadata.lastUsedAt = granted.getLast?
  count : entry.metadata.accessCount.toNat = min granted.length (2 ^ 64 - 1)

/-- A stored entry has not been used. -/
theorem Insertion.reflects_entry (insertion : Insertion) (replaced : Option CredentialEntry) :
    (insertion.entry replaced).Reflects insertion [] := by
  unfold entry
  split <;> exact ⟨rfl, rfl, rfl, rfl, rfl⟩

/-- A use adds one grant to what the metadata reflects. -/
theorem CredentialEntry.Reflects.markUsed {entry : CredentialEntry} {insertion : Insertion}
    {granted : List SystemTime} (h : entry.Reflects insertion granted) (now : SystemTime) :
    ({ entry with metadata := entry.metadata.markUsed now } : CredentialEntry).Reflects insertion
      (granted ++ [now]) where
  credential := h.credential
  created := h.created
  expires := h.expires
  lastUsed := by simp [CredentialMetadata.markUsed]
  count := by
    show (CredentialMetadata.saturatingSucc _).toNat = _
    rw [CredentialMetadata.toNat_saturatingSucc, h.count, List.length_append,
      List.length_singleton]
    omega

/-- An entry expires when its insertion does. -/
theorem CredentialEntry.Reflects.isExpired {entry : CredentialEntry} {insertion : Insertion}
    {granted : List SystemTime} (h : entry.Reflects insertion granted) (now : SystemTime) :
    entry.metadata.isExpired now = true ↔ insertion.Expired now := by
  unfold CredentialMetadata.isExpired Insertion.Expired
  rw [h.expires]
  cases insertion.expiresAt <;> simp

/-- What is stored for a provider is its last insertion, or nothing once that has expired. -/
def Tracks (provider : ProviderId) (readings : List SystemTime) (log : CredentialLog) :
    Option CredentialEntry → Prop
  | some entry => ∃ insertion later,
      LastInsertion log provider insertion later ∧ entry.Reflects insertion (grants provider later)
  | none => ∀ insertion later,
      LastInsertion log provider insertion later → ∃ now ∈ readings, insertion.Expired now

section

variable {provider : ProviderId} {readings : List SystemTime} {log : CredentialLog}
  {manager after : SecureCredentialManager} {now : SystemTime}

/-- A call that neither replaces nor uses the credential of the provider. -/
theorem Tracks.frame {stored : Option CredentialEntry} {call : CredentialCall}
    (h : Tracks provider readings log stored) (hcall : ¬ Replaces provider call)
    (hgrant : grantTime provider call = none) (more : List SystemTime) :
    Tracks provider (readings ++ more) (log ++ [call]) stored := by
  cases stored with
  | some entry =>
      obtain ⟨insertion, later, hlast, hreflects⟩ := h
      exact ⟨insertion, later ++ [call], (lastInsertion_snoc hcall).2 ⟨later, rfl, hlast⟩,
        by simpa [hgrant] using hreflects⟩
  | none =>
      intro insertion later hlast
      obtain ⟨init, rfl, hinit⟩ := (lastInsertion_snoc hcall).1 hlast
      obtain ⟨now, hnow, hexpired⟩ := h insertion init hinit
      exact ⟨now, List.mem_append_left _ hnow, hexpired⟩

/-- Dropping an expired entry. -/
theorem Tracks.live_entry (h : Tracks provider readings log (manager.credentials provider)) :
    Tracks provider (readings ++ [now]) log (manager.live provider now) := by
  cases hlive : manager.live provider now with
  | some entry =>
      rw [(live_eq_some.1 hlive).1] at h
      exact h
  | none =>
      intro insertion later hlast
      cases hentry : manager.credentials provider with
      | none =>
          rw [hentry] at h
          obtain ⟨before, hbefore, hexpired⟩ := h insertion later hlast
          exact ⟨before, List.mem_append_left _ hbefore, hexpired⟩
      | some entry =>
          rw [hentry] at h
          obtain ⟨stored, since, hstored, hreflects⟩ := h
          obtain ⟨rfl, rfl⟩ := hlast.unique hstored
          exact ⟨now, by simp, (hreflects.isExpired now).1 (live_eq_none.1 hlive entry hentry)⟩

/-- A credential is accessible when it is live and of the kind asked for. -/
theorem accessible_eq_some {kind : CredentialKind} {entry : CredentialEntry} :
    manager.accessible provider now kind = some entry ↔
      manager.live provider now = some entry ∧ entry.credential.kind = kind := by
  simp [accessible, Option.filter_eq_some_iff]

/-- A revoked credential is gone. -/
theorem credentials_revoked_self : (manager.revoked provider).2.credentials provider = none := by
  unfold revoked
  cases hentry : manager.credentials provider <;> simp [hentry]

/-- Revoking leaves other providers alone. -/
theorem credentials_revoked_other {other : ProviderId} (h : other ≠ provider) :
    (manager.revoked provider).2.credentials other = manager.credentials other := by
  unfold revoked
  cases hentry : manager.credentials provider <;> simp [h]

/-- An access replaces no credential. -/
theorem not_replaces_access {accessed : ProviderId} {kind : CredentialKind}
    {answer : Except ProviderError CredentialAnswer} :
    ¬ Replaces provider (.access accessed now kind, answer) := by
  cases kind <;> exact id

/-- An access reads the clock once. -/
theorem readings_access {accessed : ProviderId} {kind : CredentialKind} :
    (CredentialOp.access accessed now kind).readings = [now] := by
  cases kind <;> rfl

/-- A denied access grants nothing. -/
theorem grantTime_denied {accessed : ProviderId} {kind : CredentialKind} :
    grantTime provider (.access accessed now kind, .ok (accessAnswer none kind)) = none := by
  cases kind <;> rfl

/-- A granted access grants at the time at which it reads the clock. -/
theorem grantTime_granted {accessed : ProviderId} {entry : CredentialEntry} :
    grantTime provider (.access accessed now entry.credential.kind,
      .ok (accessAnswer (some entry) entry.credential.kind)) =
        if accessed = provider then some now else none := by
  cases hentry : entry.credential <;>
    simp [ProviderCredential.kind, CredentialOp.access, accessAnswer, grantTime, hentry,
      ProviderCredential.toApiKey, ProviderCredential.toBrowserSession]

/-- One operation keeps the store and the log in step. -/
theorem Tracks.step {op : CredentialOp} {answer : Except ProviderError CredentialAnswer}
    (h : Tracks provider readings log (manager.credentials provider))
    (hop : Performs op manager answer after) :
    Tracks provider (readings ++ op.readings) (log ++ [(op, answer)])
      (after.credentials provider) := by
  cases hop with
  | @stored call _ haccepted =>
      by_cases hprovider : call.insertion.provider = provider
      · subst hprovider
        simp only [store, credentials_report, credentials_put_self]
        exact ⟨call.insertion, [], lastInsertion_stored call, call.insertion.reflects_entry _⟩
      · simp only [store, credentials_report, credentials_put_other (Ne.symm hprovider)]
        refine h.frame ?_ rfl _
        exact hprovider
  | rejected hrejected => exact h.frame id rfl _
  | @revoked _ revoked _ hop =>
      by_cases hprovider : revoked = provider
      · subst hprovider
        rw [credentials_revoked_self]
        intro insertion later hlast
        have hreplaces : Replaces revoked (op, .ok (.removed (manager.revoked revoked).1)) := by
          rcases hop with rfl | rfl <;> rfl
        obtain ⟨-, call, hcall, -⟩ := lastInsertion_replaced hreplaces hlast
        rcases hop with rfl | rfl <;> simp at hcall
      · rw [credentials_revoked_other (Ne.symm hprovider)]
        apply h.frame
        · rcases hop with rfl | rfl <;> exact hprovider
        · rcases hop with rfl | rfl <;> rfl
  | @queried _ queried now _ =>
      -- A question drops an entry that has expired and keeps a live one.
      by_cases hprovider : queried = provider
      · subst hprovider
        rw [credentials_purge_self]
        simpa [CredentialOp.readings] using h.live_entry.frame (by exact id) rfl []
      · rw [credentials_purge_other (Ne.symm hprovider)]
        exact h.frame id rfl _
  | @granted accessed now kind _ entry hentry =>
      obtain ⟨hlive, rfl⟩ := accessible_eq_some.1 hentry
      by_cases hprovider : accessed = provider
      · subst hprovider
        have hstored := h
        rw [(live_eq_some.1 hlive).1] at hstored
        obtain ⟨insertion, later, hlast, hreflects⟩ := hstored
        simp only [grant, credentials_report, credentials_put_self]
        refine ⟨insertion, _, (lastInsertion_snoc not_replaces_access).2 ⟨later, rfl, hlast⟩, ?_⟩
        simpa [grantTime_granted] using hreflects.markUsed now
      · simp only [grant, credentials_report, credentials_put_other (Ne.symm hprovider)]
        exact h.frame not_replaces_access (by simp [grantTime_granted, hprovider]) _
  | @denied accessed now kind _ hentry =>
      by_cases hprovider : accessed = provider
      · subst hprovider
        simp only [deny, credentials_report, credentials_purge_self, readings_access]
        simpa using h.live_entry.frame not_replaces_access grantTime_denied []
      · simp only [deny, credentials_report, credentials_purge_other (Ne.symm hprovider)]
        exact h.frame not_replaces_access grantTime_denied _

/-- No operation poisons the lock. -/
theorem Performs.poisoned {op : CredentialOp} {answer : Except ProviderError CredentialAnswer}
    (hop : Performs op manager answer after) : after.poisoned = manager.poisoned := by
  cases hop with
  | @revoked _ revoked _ hop =>
      unfold SecureCredentialManager.revoked
      cases manager.credentials revoked <;> rfl
  | _ => rfl

end

/-- A new manager is never poisoned. -/
theorem poisoned_managerAfter (ops : List CredentialOp) :
    (managerAfter ops .new).poisoned = false := by
  induction ops using List.reverseRecOn with
  | nil => rfl
  | append_singleton ops op ih =>
      rw [managerAfter_snoc]
      exact (performs_perform op ih).poisoned.trans ih

/-- After any operations the store is in step with the log. -/
theorem tracks_managerAfter (ops : List CredentialOp) (provider : ProviderId) :
    Tracks provider (ops.flatMap (·.readings)) (logOf ops .new)
      ((managerAfter ops .new).credentials provider) := by
  induction ops using List.reverseRecOn with
  | nil =>
      intro insertion later h
      obtain ⟨earlier, call, hlog, -⟩ := h
      simp [logOf] at hlog
  | append_singleton ops op ih =>
      rw [managerAfter_snoc, logOf_snoc, List.flatMap_append, List.flatMap_singleton]
      exact ih.step (performs_perform op (poisoned_managerAfter ops))

/-! ## Access events -/

/-- The event of an access. -/
def CredentialAccessEvent.isAccess (event : CredentialAccessEvent) : Bool :=
  event.action = .accessGranted || event.action = .accessDenied

/-- The event that reports an access: granted exactly when the closure was called. -/
def accessEvent : CredentialCall → Option CredentialAccessEvent
  | (.withApiKey provider _, .ok (.apiKey secret)) =>
      some ⟨provider, some .apiKey, if secret.isSome then .accessGranted else .accessDenied⟩
  | (.withBrowserSession provider _, .ok (.browserSession session)) =>
      some ⟨provider, some .browserSession,
        if session.isSome then .accessGranted else .accessDenied⟩
  | _ => none

/-- An operation reports the access that its answer shows and no other. -/
theorem Performs.accesses {op : CredentialOp} {answer : Except ProviderError CredentialAnswer}
    {manager after : SecureCredentialManager} (hop : Performs op manager answer after) :
    after.observed.filter (·.isAccess) =
      manager.observed.filter (·.isAccess) ++ (accessEvent (op, answer)).toList := by
  cases hop with
  | stored haccepted =>
      have hevent : ∀ replaced : Option CredentialEntry, ∀ provider kind,
          CredentialAccessEvent.isAccess
            ⟨provider, kind, if replaced.isSome then .rotated else .set⟩ = false := by
        rintro (- | replaced) provider kind <;> rfl
      simp [store, List.filter_append, hevent, accessEvent]
  | rejected hrejected => simp [accessEvent]
  | @revoked _ revoked _ hop =>
      have hnone : ∀ hadValue, accessEvent (op, .ok (.removed hadValue)) = none := by
        rcases hop with rfl | rfl <;> intro hadValue <;> rfl
      unfold SecureCredentialManager.revoked
      cases manager.credentials revoked <;>
        simp [hnone, List.filter_append, CredentialAccessEvent.isAccess]
  | queried => simp [accessEvent]
  | @granted accessed now kind _ entry hentry =>
      obtain ⟨-, rfl⟩ := accessible_eq_some.1 hentry
      cases hcredential : entry.credential <;>
        simp [grant, List.filter_append, CredentialAccessEvent.isAccess, hcredential,
          ProviderCredential.kind, CredentialOp.access, accessAnswer, accessEvent,
          ProviderCredential.toApiKey, ProviderCredential.toBrowserSession]
  | @denied accessed now kind _ hentry =>
      cases kind <;>
        simp [deny, List.filter_append, CredentialAccessEvent.isAccess, CredentialOp.access,
          accessAnswer, accessEvent]

/-- The observer hears of every access, and of nothing else as an access. -/
theorem accesses_observed (ops : List CredentialOp) :
    (managerAfter ops .new).observed.filter (·.isAccess) =
      (logOf ops .new).filterMap accessEvent := by
  induction ops using List.reverseRecOn with
  | nil => rfl
  | append_singleton ops op ih =>
      have hop := (performs_perform op (poisoned_managerAfter ops)).accesses
      rw [managerAfter_snoc, logOf_snoc, List.filterMap_append, ← ih, hop]
      cases hevent : accessEvent (op, (op.perform.exec (managerAfter ops .new)).1) <;>
        simp [hevent]

/-! ## Every access of a sequence -/

section

variable {ops : List CredentialOp} (provider : ProviderId) {now : SystemTime}

/-- At a reading of the clock after the operations, the live entry is the live last insertion. -/
theorem live_managerAfter (hclock : (ops.flatMap (·.readings) ++ [now]).Pairwise (· ≤ ·)) :
    match (managerAfter ops .new).live provider now with
    | some entry => ∃ insertion later, Live (logOf ops .new) provider now insertion later ∧
        entry.Reflects insertion (grants provider later)
    | none => ∀ insertion later, ¬ Live (logOf ops .new) provider now insertion later := by
  have htracks := tracks_managerAfter ops provider
  have hpast : ∀ time ∈ ops.flatMap (·.readings), time ≤ now := fun time htime =>
    (List.pairwise_append.1 hclock).2.2 time htime now (by simp)
  cases hlive : (managerAfter ops .new).live provider now with
  | some entry =>
      obtain ⟨hstored, hfresh⟩ := live_eq_some.1 hlive
      rw [hstored] at htracks
      obtain ⟨insertion, later, hlast, hreflects⟩ := htracks
      refine ⟨insertion, later, ⟨hlast, fun hexpired => ?_⟩, hreflects⟩
      simp [(hreflects.isExpired now).2 hexpired] at hfresh
  | none =>
      intro insertion later h
      obtain ⟨hlast, hfresh⟩ := h
      apply hfresh
      cases hstored : (managerAfter ops .new).credentials provider with
      | some entry =>
          rw [hstored] at htracks
          obtain ⟨stored, since, hsame, hreflects⟩ := htracks
          obtain ⟨rfl, rfl⟩ := hlast.unique hsame
          exact (hreflects.isExpired now).1 (live_eq_none.1 hlive entry hstored)
      | none =>
          rw [hstored] at htracks
          obtain ⟨time, htime, expiresAt, hexpires, hle⟩ := htracks insertion later hlast
          exact ⟨expiresAt, hexpires, SystemTime.le_trans hle (hpast time htime)⟩

/-- The credential that the log leaves live for a provider. -/
def LiveCredential (log : CredentialLog) (provider : ProviderId) (now : SystemTime)
    (credential : ProviderCredential) : Prop :=
  ∃ insertion later, Live log provider now insertion later ∧ insertion.credential = credential

/-- The live entry holds the credential that the log leaves live. -/
theorem live_credential (hclock : (ops.flatMap (·.readings) ++ [now]).Pairwise (· ≤ ·))
    (credential : ProviderCredential) :
    ((managerAfter ops .new).live provider now).map (·.credential) = some credential ↔
      LiveCredential (logOf ops .new) provider now credential := by
  have hlive := live_managerAfter provider hclock
  cases hentry : (managerAfter ops .new).live provider now with
  | none =>
      rw [hentry] at hlive
      constructor
      · intro h
        cases h
      · rintro ⟨insertion, later, hinsertion, -⟩
        exact absurd hinsertion (hlive insertion later)
  | some entry =>
      rw [hentry] at hlive
      obtain ⟨insertion, later, hinsertion, hreflects⟩ := hlive
      rw [Option.map_some, Option.some_inj, hreflects.credential]
      constructor
      · rintro rfl
        exact ⟨insertion, later, hinsertion, rfl⟩
      · rintro ⟨other, since, hother, rfl⟩
        rw [(hinsertion.1.unique hother.1).1]

/-- Something is live exactly when the log leaves a credential live. -/
theorem live_isSome (hclock : (ops.flatMap (·.readings) ++ [now]).Pairwise (· ≤ ·)) :
    ((managerAfter ops .new).live provider now).isSome ↔
      ∃ credential, LiveCredential (logOf ops .new) provider now credential := by
  simp only [← live_credential provider hclock]
  cases (managerAfter ops .new).live provider now <;> simp

/-- An access finds the live credential if that is of the kind that `toValue` selects. -/
theorem accessible_bind {manager : SecureCredentialManager} {kind : CredentialKind} {V : Type}
    {toValue : ProviderCredential → Option V}
    (hkind : ∀ credential, (toValue credential).isSome ↔ credential.kind = kind) :
    (manager.accessible provider now kind).bind (toValue ·.credential) =
      ((manager.live provider now).map (·.credential)).bind toValue := by
  unfold accessible
  cases manager.live provider now with
  | none => rfl
  | some entry =>
      by_cases hentry : entry.credential.kind = kind
      · simp [Option.filter, hentry]
      · have hnone : toValue entry.credential = none := by
          simpa [hentry] using hkind entry.credential
        simp [Option.filter, hentry, hnone]

/-- What an access answers and reports. -/
theorem access_eq {manager : SecureCredentialManager} {kind : CredentialKind} {R : Type}
    {select : ProviderCredential → Option R}
    (hselect : ∀ credential, (select credential).isSome ↔ credential.kind = kind) :
    let found := ((manager.live provider now).map (·.credential)).bind select
    (manager.access provider now kind select).1 = .ok found ∧
      (manager.access provider now kind select).2.observed = manager.observed ++
        [⟨provider, some kind, if found.isSome then .accessGranted else .accessDenied⟩] := by
  rw [← accessible_bind provider hselect]
  unfold SecureCredentialManager.access
  cases hentry : manager.accessible provider now kind with
  | none => exact ⟨rfl, rfl⟩
  | some entry =>
      obtain ⟨-, rfl⟩ := accessible_eq_some.1 hentry
      have hvalue := (hselect entry.credential).2 rfl
      refine ⟨rfl, ?_⟩
      simp [grant, hvalue]

/-- An access to credentials of one kind, whose values are wrapped by `make`. -/
theorem access_managerAfter (hclock : (ops.flatMap (·.readings) ++ [now]).Pairwise (· ≤ ·))
    {kind : CredentialKind} {V : Type} {toValue : ProviderCredential → Option V}
    {make : V → ProviderCredential}
    (hmake : ∀ credential value, toValue credential = some value ↔ credential = make value)
    (hkind : ∀ credential, (toValue credential).isSome ↔ credential.kind = kind) :
    ∃ found : Option V,
      (∀ value, found = some value ↔
        LiveCredential (logOf ops .new) provider now (make value)) ∧
      ∀ (R : Type) (f : V → R),
        let outcome := (managerAfter ops .new).access provider now kind
          (fun credential => (toValue credential).map f)
        outcome.1 = .ok (found.map f) ∧
        outcome.2.observed = (managerAfter ops .new).observed ++
          [⟨provider, some kind, if found.isSome then .accessGranted else .accessDenied⟩] := by
  refine ⟨(((managerAfter ops .new).live provider now).map (·.credential)).bind toValue, ?_, ?_⟩
  · intro value
    rw [← live_credential provider hclock, Option.bind_eq_some_iff]
    simp [hmake]
  · intro R f
    have hselect : ∀ credential, ((toValue credential).map f).isSome ↔ credential.kind = kind := by
      simpa using hkind
    obtain ⟨hanswer, hobserved⟩ := access_eq provider hselect
    refine ⟨hanswer.trans (congrArg _ ?_), hobserved.trans (congrArg _ ?_)⟩
    · cases (managerAfter ops .new).live provider now <;> rfl
    · cases (managerAfter ops .new).live provider now <;> simp

end

/-- After any operations under a clock that does not run backwards, an access calls its closure
exactly on the credential stored last for the provider, if that was not revoked, has not expired
and is of the right kind. The questions about credentials agree with that, the metadata counts the
accesses since that insertion, the observer hears of each access, and a rejected setter changes
nothing. -/
theorem credential_access_exact (ops : List CredentialOp) (provider : ProviderId)
    (now : SystemTime) (hclock : (ops.flatMap (·.readings) ++ [now]).Pairwise (· ≤ ·)) :
    let manager := managerAfter ops .new
    let log := logOf ops .new
    (∃ key : Option String,
      (∀ value, key = some value ↔ LiveCredential log provider now (.apiKey value)) ∧
      ∀ (R : Type) (f : String → R),
        ((withApiKey provider f now).exec manager).1 = .ok (key.map f) ∧
        ((withApiKey provider f now).exec manager).2.observed = manager.observed ++
          [⟨provider, some .apiKey, if key.isSome then .accessGranted else .accessDenied⟩]) ∧
    (∃ session : Option BrowserLoginSession,
      (∀ value, session = some value ↔
        LiveCredential log provider now (.browserSession value)) ∧
      ∀ (R : Type) (f : BrowserLoginSession → R),
        ((withBrowserSession provider f now).exec manager).1 = .ok (session.map f) ∧
        ((withBrowserSession provider f now).exec manager).2.observed = manager.observed ++
          [⟨provider, some .browserSession,
            if session.isSome then .accessGranted else .accessDenied⟩]) ∧
    (∃ present, ((hasCredentials provider now).exec manager).1 = .ok present ∧
      (present = true ↔ ∃ credential, LiveCredential log provider now credential)) ∧
    (∃ kind, ((credentialKind provider now).exec manager).1 = .ok kind ∧
      ∀ value, kind = some value ↔
        ∃ credential, LiveCredential log provider now credential ∧ credential.kind = value) ∧
    (∃ metadata, ((credentialMetadata provider now).exec manager).1 = .ok metadata ∧
      (metadata.isSome ↔ ∃ credential, LiveCredential log provider now credential) ∧
      ∀ value, metadata = some value → ∃ insertion later,
        Live log provider now insertion later ∧
        value.createdAt = insertion.now ∧ value.expiresAt = insertion.expiresAt ∧
        value.lastUsedAt = (grants provider later).getLast? ∧
        value.accessCount.toNat = min (grants provider later).length (2 ^ 64 - 1)) ∧
    manager.observed.filter (·.isAccess) = log.filterMap accessEvent ∧
    ∀ (setter : Setter) (error : ProviderError),
      (setter.perform.exec manager).1 = .error error →
        (setter.perform.exec manager).2 = manager := by
  intro manager log
  -- No operation poisons the lock, and the entry of the provider is what the log of the operations
  -- says it is.
  have hmanager : manager.poisoned = false := poisoned_managerAfter ops
  have hlive := live_managerAfter provider hclock
  refine ⟨?_, ?_, ?_, ?_, ?_, accesses_observed ops, ?_⟩
  · obtain ⟨key, hkey, haccess⟩ := access_managerAfter provider hclock
      ProviderCredential.toApiKey_eq_some ProviderCredential.isSome_toApiKey
    refine ⟨key, hkey, fun R f => ?_⟩
    rw [exec_withApiKey f hmanager]
    exact haccess R f
  · obtain ⟨session, hsession, haccess⟩ := access_managerAfter provider hclock
      ProviderCredential.toBrowserSession_eq_some ProviderCredential.isSome_toBrowserSession
    refine ⟨session, hsession, fun R f => ?_⟩
    rw [exec_withBrowserSession f hmanager]
    exact haccess R f
  · refine ⟨_, by rw [exec_hasCredentials hmanager], live_isSome provider hclock⟩
  · refine ⟨_, by rw [exec_credentialKind hmanager], fun value => ?_⟩
    simp only [log, manager, ← live_credential provider hclock]
    cases (managerAfter ops .new).live provider now <;> simp
  · refine ⟨_, by rw [exec_credentialMetadata hmanager], ?_, ?_⟩
    · rw [Option.isSome_map]
      exact live_isSome provider hclock
    · intro value hvalue
      obtain ⟨entry, hentry, rfl⟩ := Option.map_eq_some_iff.1 hvalue
      rw [hentry] at hlive
      obtain ⟨insertion, later, hinsertion, hreflects⟩ := hlive
      exact ⟨insertion, later, hinsertion, hreflects.created, hreflects.expires,
        hreflects.lastUsed, hreflects.count⟩
  · intro setter error herror
    cases haccepted : setter.accepted with
    | true => simp [Setter.exec_perform_accepted hmanager haccepted] at herror
    | false =>
        obtain ⟨reason, hreason⟩ := Setter.exec_perform_rejected haccepted
        rw [hreason manager]

/-- A key that is stored for one second. -/
def storedForASecond : List CredentialOp :=
  [.setter (.setApiKeyWithTtl .openAi "sk-key" 1000000000 ⟨0, 0⟩ ⟨0, 0⟩)]

/-- The key is handed out before it expires, and is gone at the very reading at which it does. -/
theorem credential_access_exact_at_expiry :
    (LiveCredential (logOf storedForASecond .new) .openAi ⟨0, 999999999⟩ (.apiKey "sk-key") ∧
      ((withApiKey .openAi String.length ⟨0, 999999999⟩).exec
        (managerAfter storedForASecond .new)).1 = .ok (some 6)) ∧
    ¬ LiveCredential (logOf storedForASecond .new) .openAi ⟨1, 0⟩ (.apiKey "sk-key") := by
  constructor
  · obtain ⟨⟨key, hkey, haccess⟩, -⟩ :=
      credential_access_exact storedForASecond .openAi ⟨0, 999999999⟩ (by decide)
    have hgranted : Except.ok (some "sk-key") = Except.ok (key.map id) :=
      .trans (by decide) (haccess String id).1
    have hsome : key = some "sk-key" := by simpa using (Except.ok.inj hgranted).symm
    refine ⟨(hkey _).mp hsome, (haccess Nat String.length).1.trans ?_⟩
    rw [hsome]
    decide
  · obtain ⟨⟨key, hkey, haccess⟩, -⟩ :=
      credential_access_exact storedForASecond .openAi ⟨1, 0⟩ (by decide)
    have hnone : Except.ok none = Except.ok (key.map id) :=
      .trans (by decide) (haccess String id).1
    rw [← hkey, show key = none by simpa using (Except.ok.inj hnone).symm]
    exact Option.some_ne_none _ ∘ Eq.symm

end Fiddlesticks.Provider
