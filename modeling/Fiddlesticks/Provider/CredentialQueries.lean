import Fiddlesticks.Provider.CredentialAccess

/-!
# Questions about credentials

A question drops the entry of its provider if that has expired, while insertions and revocations
do not look at the expiry. Two runs, with and without a question, agree on everything else exactly
when no expired entry is dropped or the next operation on it is an access or another question.
-/

namespace Fiddlesticks.Provider

open SecureCredentialManager CredentialM

/-! ## Operations on other providers -/

namespace SecureCredentialManager

variable {manager : SecureCredentialManager} {provider other : ProviderId} {now : SystemTime}
  {stored : Option CredentialEntry}

/-- Entries of two providers may be put in either order. -/
theorem put_comm (h : other ≠ provider) (entry : Option CredentialEntry) :
    (manager.put provider stored).put other entry =
      (manager.put other entry).put provider stored := by
  simp [put, Function.update_comm h]

/-- A report may come before or after an entry is put. -/
theorem put_report (event : CredentialAccessEvent) :
    (manager.put provider stored).report event = (manager.report event).put provider stored := rfl

/-- What is live for another provider does not depend on the entry. -/
theorem live_put_other (h : other ≠ provider) :
    (manager.put provider stored).live other now = manager.live other now := by
  simp [live, h]

/-- Purging another provider commutes with putting the entry. -/
theorem purge_put_other (h : other ≠ provider) :
    (manager.put provider stored).purge other now =
      (manager.purge other now).put provider stored := by
  rw [purge, live_put_other h, put_comm h]
  rfl

/-- Storing for another provider commutes with putting the entry. -/
theorem store_put_other {insertion : Insertion} (h : insertion.provider ≠ provider) :
    (manager.put provider stored).store insertion =
      (manager.store insertion).put provider stored := by
  simp only [store, credentials_put_other h, put_comm h, put_report]

/-- Revoking another provider commutes with putting the entry. -/
theorem revoked_put_other (h : other ≠ provider) :
    (manager.put provider stored).revoked other =
      ((manager.revoked other).1, (manager.revoked other).2.put provider stored) := by
  unfold revoked
  rw [credentials_put_other h]
  cases manager.credentials other with
  | none => rfl
  | some entry => simp only [put_comm h, put_report]

/-- An access to another provider commutes with putting the entry. -/
theorem access_put_other {R : Type} {kind : CredentialKind} {select : ProviderCredential → Option R}
    (h : other ≠ provider) :
    (manager.put provider stored).access other now kind select =
      ((manager.access other now kind select).1,
        (manager.access other now kind select).2.put provider stored) := by
  unfold access accessible
  rw [live_put_other h]
  cases (manager.live other now).filter (·.credential.kind = kind) with
  | none => simp only [deny, purge_put_other h, put_report]
  | some entry => simp only [grant, put_comm h, put_report]

end SecureCredentialManager

/-- An operation neither sees nor changes the entries of other providers. -/
theorem perform_put_other {op : CredentialOp} {manager : SecureCredentialManager}
    {provider : ProviderId} {stored : Option CredentialEntry} (h : manager.poisoned = false)
    (hop : op.provider ≠ provider) :
    op.perform.exec (manager.put provider stored) =
      ((op.perform.exec manager).1, (op.perform.exec manager).2.put provider stored) := by
  have hput : (manager.put provider stored).poisoned = false := h
  cases op with
  | setter call =>
      cases haccepted : call.accepted with
      | true =>
          simp only [CredentialOp.perform, exec_map, Setter.exec_perform_accepted hput haccepted,
            Setter.exec_perform_accepted h haccepted]
          rw [store_put_other hop]
      | false =>
          obtain ⟨error, herror⟩ := Setter.exec_perform_rejected haccepted
          simp only [CredentialOp.perform, exec_map, herror]
  | revoke revoked | clear revoked =>
      replace hop : revoked ≠ provider := hop
      simp only [CredentialOp.perform, SecureCredentialManager.clear, exec_map, exec_revoke hput,
        exec_revoke h, revoked_put_other hop]
  | query query queried now =>
      replace hop : queried ≠ provider := hop
      rw [exec_query hput, exec_query h, live_put_other hop, purge_put_other hop]
  | withApiKey accessed now =>
      replace hop : accessed ≠ provider := hop
      simp only [CredentialOp.perform, exec_map, exec_withApiKey id hput, exec_withApiKey id h,
        access_put_other hop]
  | withBrowserSession accessed now =>
      replace hop : accessed ≠ provider := hop
      simp only [CredentialOp.perform, exec_map, exec_withBrowserSession id hput,
        exec_withBrowserSession id h, access_put_other hop]

/-! ## What a question may change -/

/-- The first later operation on the provider that is not a rejected setter, if there is one, looks
at the expiry of the stored entry. -/
def LooksFirst (provider : ProviderId) : List CredentialOp → Prop
  | [] => True
  | op :: ops =>
      if op.provider = provider then
        match op with
        | .setter call => call.accepted = false ∧ LooksFirst provider ops
        | .revoke _ | .clear _ => False
        | .query _ _ _ | .withApiKey _ _ | .withBrowserSession _ _ => True
      else LooksFirst provider ops

/-- Events are only added. -/
theorem Performs.observed {op : CredentialOp} {answer : Except ProviderError CredentialAnswer}
    {manager after : SecureCredentialManager} (hop : Performs op manager answer after) :
    manager.observed <+: after.observed := by
  cases hop with
  | rejected | queried => exact List.prefix_rfl
  | @revoked _ revoked _ hop =>
      unfold SecureCredentialManager.revoked
      cases manager.credentials revoked with
      | none => exact List.prefix_rfl
      | some entry => exact List.prefix_append _ _
  | stored | granted | denied => exact List.prefix_append _ _

/-- Reports are never taken back. -/
theorem observed_managerAfter (ops : List CredentialOp) {manager : SecureCredentialManager}
    (h : manager.poisoned = false) :
    manager.observed <+: (managerAfter ops manager).observed := by
  induction ops generalizing manager with
  | nil => exact List.prefix_rfl
  | cons op ops ih =>
      have hop := performs_perform op h
      exact hop.observed.trans (ih (hop.poisoned.trans h))

/-- What has expired stays so. -/
theorem CredentialMetadata.isExpired_mono {metadata : CredentialMetadata} {now later : SystemTime}
    (h : metadata.isExpired now = true) (hle : now ≤ later) : metadata.isExpired later = true := by
  unfold isExpired at h ⊢
  cases hexpires : metadata.expiresAt with
  | none => simp [hexpires] at h
  | some expiresAt =>
      rw [hexpires] at h
      exact decide_eq_true (SystemTime.le_trans (of_decide_eq_true h) hle)

/-- What operations return and report. -/
def outcome (ops : List CredentialOp) (manager : SecureCredentialManager) :
    CredentialLog × List CredentialAccessEvent :=
  (logOf ops manager, (managerAfter ops manager).observed)

/-- The outcome of a sequence begins with that of its first operation. -/
theorem outcome_cons (op : CredentialOp) (ops : List CredentialOp)
    (manager : SecureCredentialManager) :
    outcome (op :: ops) manager =
      ((op, (op.perform.exec manager).1) :: (outcome ops (op.perform.exec manager).2).1,
        (outcome ops (op.perform.exec manager).2).2) := rfl

/-- Calls that return the same leave the comparison to the operations after them. -/
theorem outcome_cons_eq {op : CredentialOp} {ops : List CredentialOp}
    {manager other : SecureCredentialManager}
    (h : (op.perform.exec other).1 = (op.perform.exec manager).1) :
    outcome (op :: ops) other = outcome (op :: ops) manager ↔
      outcome ops (op.perform.exec other).2 = outcome ops (op.perform.exec manager).2 := by
  simp [outcome_cons, h, Prod.ext_iff]

section stale

variable {provider : ProviderId} {now : SystemTime} {entry : CredentialEntry}
  {manager : SecureCredentialManager}

/-- An insertion reports whether an entry was stored before it. -/
theorem store_observed_ne {insertion : Insertion} {ops : List CredentialOp}
    (h : manager.poisoned = false)
    (hentry : manager.credentials insertion.provider = some entry) :
    (managerAfter ops ((manager.put insertion.provider none).store insertion)).observed ≠
      (managerAfter ops (manager.store insertion)).observed := by
  intro hsame
  have hset := observed_managerAfter ops
    (show ((manager.put insertion.provider none).store insertion).poisoned = false from h)
  have hrotated := observed_managerAfter ops
    (show (manager.store insertion).poisoned = false from h)
  rw [hsame] at hset
  have heq := (List.prefix_of_prefix_length_le hset hrotated (by simp [store])).eq_of_length
    (by simp [store])
  simp [store, hentry] at heq

/-- An expired entry is not live. -/
theorem live_expired (hentry : manager.credentials provider = some entry)
    (hexpired : entry.metadata.isExpired now = true) : manager.live provider now = none := by
  rw [live_eq_none]
  intro stored hstored
  obtain rfl : entry = stored := Option.some.inj (hentry.symm.trans hstored)
  exact hexpired

/-- An operation on other providers keeps the entry. -/
theorem credentials_perform_other {op : CredentialOp} (h : manager.poisoned = false)
    (hop : op.provider ≠ provider) :
    (op.perform.exec manager).2.credentials provider = manager.credentials provider := by
  have hput : op.perform.exec (manager.put provider (manager.credentials provider)) = _ :=
    perform_put_other h hop
  rw [put_eq_self rfl] at hput
  rw [hput]
  exact credentials_put_self _

/-- Without an entry nothing is live. -/
@[simp] theorem live_put_none : (manager.put provider none).live provider now = none := by
  simp [live]

/-- Where nothing is live, a purge leaves no entry. -/
theorem purge_of_live_none (h : manager.live provider now = none) :
    manager.purge provider now = manager.put provider none := by
  rw [purge, h]

/-- Where nothing is live, an access is denied, reported and purges. -/
theorem access_of_live_none {R : Type} {kind : CredentialKind}
    {select : ProviderCredential → Option R} (h : manager.live provider now = none) :
    manager.access provider now kind select =
      (.ok none, (manager.put provider none).report ⟨provider, some kind, .accessDenied⟩) := by
  simp only [access, accessible, h, Option.filter_none, deny, purge_of_live_none h]

/-- Revoking what is not there changes nothing. -/
theorem revoked_of_none (h : manager.credentials provider = none) :
    manager.revoked provider = (false, manager) := by
  simp only [revoked, h]

/-- Revoking an entry succeeds. -/
theorem revoked_of_some (h : manager.credentials provider = some entry) :
    (manager.revoked provider).1 = true := by
  simp only [revoked, h]

/-- An operation that looks at the expiry does not tell an expired entry from a missing one. -/
theorem query_put_none (h : manager.poisoned = false) (hgone : manager.live provider now = none)
    (query : Query) :
    (CredentialOp.query query provider now).perform.exec (manager.put provider none) =
      (CredentialOp.query query provider now).perform.exec manager := by
  rw [exec_query (show (manager.put provider none).poisoned = false from h), exec_query h, hgone,
    purge_of_live_none hgone, live_put_none, purge_of_live_none live_put_none, put_put]

/-- Where nothing is live, `with_api_key` acts as if there were no entry. -/
theorem withApiKey_put_none (h : manager.poisoned = false)
    (hgone : manager.live provider now = none) :
    (CredentialOp.withApiKey provider now).perform.exec (manager.put provider none) =
      (CredentialOp.withApiKey provider now).perform.exec manager := by
  simp only [CredentialOp.perform, exec_map, exec_withApiKey id h,
    exec_withApiKey id (show (manager.put provider none).poisoned = false from h),
    access_of_live_none hgone, access_of_live_none live_put_none, put_put]

/-- Where nothing is live, `with_browser_session` acts as if there were no entry. -/
theorem withBrowserSession_put_none (h : manager.poisoned = false)
    (hgone : manager.live provider now = none) :
    (CredentialOp.withBrowserSession provider now).perform.exec (manager.put provider none) =
      (CredentialOp.withBrowserSession provider now).perform.exec manager := by
  simp only [CredentialOp.perform, exec_map, exec_withBrowserSession id h,
    exec_withBrowserSession id (show (manager.put provider none).poisoned = false from h),
    access_of_live_none hgone, access_of_live_none live_put_none, put_put]

/-- Two runs, one of which has lost an expired entry. -/
theorem outcome_put_none {ops : List CredentialOp} (h : manager.poisoned = false)
    (hentry : manager.credentials provider = some entry)
    (hexpired : entry.metadata.isExpired now = true)
    (hclock : ∀ time ∈ ops.flatMap (·.readings), now ≤ time) :
    outcome ops (manager.put provider none) = outcome ops manager ↔ LooksFirst provider ops := by
  induction ops generalizing manager with
  | nil => simp [outcome, logOf, managerAfter, LooksFirst]
  | cons op ops ih =>
      have hput : (manager.put provider none).poisoned = false := h
      have hlater : ∀ time ∈ ops.flatMap (·.readings), now ≤ time := fun time htime =>
        hclock time (by simpa using .inr (by simpa using htime))
      have hgone : ∀ later, now ≤ later → manager.live provider later = none := fun later hle =>
        live_expired hentry (CredentialMetadata.isExpired_mono hexpired hle)
      -- The first operation on the provider decides, rejected setters aside: an accepted setter or
      -- a removal tells the runs apart, and after a question or an access they are equal.
      by_cases hop : op.provider = provider
      · cases op with
        | setter call =>
            obtain rfl : call.insertion.provider = provider := hop
            cases haccepted : call.accepted with
            | true =>
                refine iff_of_false (fun hsame => ?_) (by
                  simp [LooksFirst, haccepted, CredentialOp.provider])
                rw [outcome_cons_eq (by
                  simp [CredentialOp.perform, Setter.exec_perform_accepted, h, haccepted])] at hsame
                simp only [CredentialOp.perform, exec_map, Setter.exec_perform_accepted h haccepted,
                  Setter.exec_perform_accepted hput haccepted] at hsame
                exact store_observed_ne h hentry (congrArg Prod.snd hsame)
            | false =>
                obtain ⟨error, herror⟩ := Setter.exec_perform_rejected haccepted
                rw [outcome_cons_eq (by simp [CredentialOp.perform, herror])]
                simp only [CredentialOp.perform, exec_map, herror]
                rw [ih h hentry hlater]
                simp [LooksFirst, haccepted, CredentialOp.provider]
        | revoke revoked | clear revoked =>
            obtain rfl : revoked = provider := hop
            refine iff_of_false (fun hsame => ?_) (by simp [LooksFirst, CredentialOp.provider])
            have hanswer := congrArg (·.1.head?) hsame
            simp [outcome_cons, CredentialOp.perform, SecureCredentialManager.clear, exec_revoke h,
              exec_revoke hput, revoked_of_none, revoked_of_some hentry] at hanswer
        | query query queried later =>
            obtain rfl : queried = provider := hop
            have hnow := hclock later (by simp [CredentialOp.readings])
            refine iff_of_true ?_ (by simp [LooksFirst, CredentialOp.provider])
            rw [outcome_cons, outcome_cons, query_put_none h (hgone later hnow) query]
        | withApiKey accessed later =>
            obtain rfl : accessed = provider := hop
            have hnow := hclock later (by simp [CredentialOp.readings])
            refine iff_of_true ?_ (by simp [LooksFirst, CredentialOp.provider])
            rw [outcome_cons, outcome_cons, withApiKey_put_none h (hgone later hnow)]
        | withBrowserSession accessed later =>
            obtain rfl : accessed = provider := hop
            have hnow := hclock later (by simp [CredentialOp.readings])
            refine iff_of_true ?_ (by simp [LooksFirst, CredentialOp.provider])
            rw [outcome_cons, outcome_cons, withBrowserSession_put_none h (hgone later hnow)]
      · rw [outcome_cons_eq (by rw [perform_put_other h hop]), perform_put_other h hop]
        simp only [LooksFirst, hop, if_false]
        exact ih ((performs_perform op h).poisoned.trans h)
          ((credentials_perform_other h hop).trans hentry) hlater

end stale

/-! ## Deleting a question -/

/-- The readings of the clock never decrease. -/
def Chronological (ops : List CredentialOp) : Prop :=
  (ops.flatMap (·.readings)).Pairwise (· ≤ ·)

instance (ops : List CredentialOp) : Decidable (Chronological ops) :=
  inferInstanceAs (Decidable (List.Pairwise _ _))

/-- Deleting an operation between others changes neither what those return nor the events that the
observer hears. -/
def Unobserved (before : List CredentialOp) (op : CredentialOp) (after : List CredentialOp) :
    Prop :=
  (logOf (before ++ op :: after) .new).eraseIdx before.length = logOf (before ++ after) .new ∧
    (managerAfter (before ++ op :: after) .new).observed =
        (managerAfter (before ++ after) .new).observed

instance (before : List CredentialOp) (op : CredentialOp) (after : List CredentialOp) :
    Decidable (Unobserved before op after) :=
  inferInstanceAs (Decidable (_ ∧ _))

/-- The log has an entry for each operation. -/
theorem length_logOf (ops : List CredentialOp) (manager : SecureCredentialManager) :
    (logOf ops manager).length = ops.length := by
  induction ops generalizing manager with
  | nil => rfl
  | cons op ops ih => exact congrArg Nat.succ (ih _)

/-- Only the operations after the deleted one matter. -/
theorem unobserved_iff_outcome (before : List CredentialOp) (op : CredentialOp)
    (after : List CredentialOp) :
    Unobserved before op after ↔
      outcome after (op.perform.exec (managerAfter before .new)).2 =
        outcome after (managerAfter before .new) := by
  have hlength := (length_logOf before .new).le
  have hmanager : managerAfter (op :: after) (managerAfter before .new) =
      managerAfter after (op.perform.exec (managerAfter before .new)).2 := rfl
  simp only [Unobserved, logOf_append, managerAfter_append, logOf, hmanager]
  rw [List.eraseIdx_append_of_length_le hlength, length_logOf, Nat.sub_self,
    List.eraseIdx_cons_zero,
    List.append_cancel_left_eq, outcome, outcome, Prod.ext_iff]

/-- Under a clock that does not run backwards, a question about a provider can be deleted exactly
when no expired entry of that provider is stored, or the first later operation on the provider,
rejected setters apart, is an access or a question. -/
theorem query_unobserved_iff (before after : List CredentialOp) (query : Query)
    (provider : ProviderId) (now : SystemTime)
    (hclock : Chronological (before ++ .query query provider now :: after)) :
    Unobserved before (.query query provider now) after ↔
      (∀ entry, (managerAfter before .new).credentials provider = some entry →
        entry.metadata.isExpired now = false) ∨ LooksFirst provider after := by
  have hmanager := poisoned_managerAfter before
  rw [unobserved_iff_outcome, exec_query hmanager]
  cases hentry : (managerAfter before .new).credentials provider with
  | none =>
      have hsame : (managerAfter before .new).purge provider now = managerAfter before .new :=
        put_eq_self (by simp [live, hentry])
      simp [hsame]
  | some entry =>
      cases hexpired : entry.metadata.isExpired now with
      | false =>
          simp [purge_eq_self (live_eq_some.2 ⟨hentry, hexpired⟩), hexpired]
      | true =>
          have hafter : ∀ time ∈ after.flatMap (·.readings), now ≤ time := by
            rw [Chronological, List.flatMap_append, List.flatMap_cons] at hclock
            have hlater := (List.pairwise_append.1 hclock).2.1
            exact (List.pairwise_cons.1 hlater).1
          rw [purge_of_live_none (live_expired hentry hexpired),
            outcome_put_none hmanager hentry hexpired hafter]
          simp [hexpired]

/-- A question between two accesses goes unnoticed although the key has expired. -/
theorem query_unobserved_between_accesses :
    Unobserved [.setter (.setApiKeyWithTtl .openAi "sk-key" 1000000000 ⟨0, 0⟩ ⟨0, 0⟩)]
      (.query .hasCredentials .openAi ⟨2, 0⟩) [.withApiKey .openAi ⟨2, 0⟩, .revoke .openAi] :=
  (query_unobserved_iff _ _ .hasCredentials .openAi ⟨2, 0⟩ (by decide)).2 (.inr trivial)

/-- Whether an expired key can be revoked depends on a question asked before. -/
theorem revoke_observes_query :
    Chronological [.setter (.setApiKeyWithTtl .openAi "sk-key" 1000000000 ⟨0, 0⟩ ⟨0, 0⟩),
      .query .hasCredentials .openAi ⟨2, 0⟩, .revoke .openAi] ∧
    ¬ Unobserved [.setter (.setApiKeyWithTtl .openAi "sk-key" 1000000000 ⟨0, 0⟩ ⟨0, 0⟩)]
      (.query .hasCredentials .openAi ⟨2, 0⟩) [.revoke .openAi] := by
  decide

end Fiddlesticks.Provider
