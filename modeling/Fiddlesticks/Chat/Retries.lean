import Fiddlesticks.Chat.Service
import Fiddlesticks.Provider.RetrySteps

/-!
# The two retry loops

`execute_with_retry`, which `complete_with_retry` calls, and the loop that `stream_turn` writes out
to acquire its stream. Both go through the steps of the policy, exactly where it has a delay after
each attempt that is retried (`retry_loops_agree_iff`).
-/

namespace Fiddlesticks.Chat

open Effect Provider

/-! ## The attempts of a turn -/

/-- The environment in which the requests of a turn have the given outcomes, in order. -/
def answerRequests (responses : Nat → Except ProviderError ModelResponse)
    (streams : Nat → Except ProviderError ProviderStream) :
    (op : ChatOp) → Nat → Option (op.Answer × Nat)
  | .complete _, attempts => some (responses (attempts + 1), attempts + 1)
  | .stream _, attempts => some (streams (attempts + 1), attempts + 1)
  | .hook _, attempts => some ((), attempts)
  | .sleep _, attempts => some ((), attempts)
  | _, _ => none

/-- The call of a retry loop in a turn that waits for whole responses. -/
def completeEvent (request : ModelRequest) : Event (RetrySig ModelResponse) → Event ChatSig
  | ⟨.hook event, _⟩ => ⟨.hook event, ()⟩
  | ⟨.attempt _, outcome⟩ => ⟨.complete request, outcome⟩
  | ⟨.sleep delay, _⟩ => ⟨.sleep delay, ()⟩
  | ⟨.panic, answer⟩ => answer.elim

/-- The call of a retry loop in a turn that streams. -/
def streamEvent (request : ModelRequest) : Event (RetrySig ProviderStream) → Event ChatSig
  | ⟨.hook event, _⟩ => ⟨.hook event, ()⟩
  | ⟨.attempt _, outcome⟩ => ⟨.stream request, outcome⟩
  | ⟨.sleep delay, _⟩ => ⟨.sleep delay, ()⟩
  | ⟨.panic, answer⟩ => answer.elim

section

variable (responses : Nat → Except ProviderError ModelResponse)
  (streams : Nat → Except ProviderError ProviderStream) (request : ModelRequest)

/-- `run_turn` carries out the retries of its request. -/
theorem complete_carriesOut :
    CarriesOut (answerRequests responses streams) (fun event => ask (.hook event))
      (fun delay => ask (.sleep delay)) (fun _ => ask (.complete request)) responses id
      (completeEvent request) where
  hook _ _ := rfl
  sleep _ _ := rfl
  execute _ := rfl

/-- `stream_turn` carries out the retries of its request. -/
theorem stream_carriesOut :
    CarriesOut (answerRequests responses streams) (fun event => ask (.hook event))
      (fun delay => ask (.sleep delay)) (fun _ => ask (.stream request)) streams id
      (streamEvent request) where
  hook _ _ := rfl
  sleep _ _ := rfl
  execute _ := rfl

end

/-- Converting an error adds no step. -/
theorem orElseRaise_execute {ε α σ : Type} (handle : (op : ChatOp) → σ → Option (op.Answer × σ))
    (convert : ε → ChatError) (program : Prog ChatSig (Except ε α)) (s : σ) :
    (orElseRaise convert program).run.execute handle s =
      (program.execute handle s).map fun ended =>
        (ended.1, ended.2.1.mapError convert, ended.2.2) := by
  refine (Prog.execute_bind handle program _ s).trans ?_
  cases program.execute handle s with
  | none => rfl
  | some ended =>
      obtain ⟨history, outcome, t⟩ := ended
      cases outcome with
      | ok value => exact congrArg (fun events => some (events, _, t)) (List.append_nil history)
      | error error => exact congrArg (fun events => some (events, _, t)) (List.append_nil history)

/-! ## One policy -/

/-- The error of a turn whose request failed. -/
def requestError (error : ProviderError) : ChatError :=
  (ChatError.ofProvider error).withPhase .provider

section

variable {service : ChatService} {provider : ProviderId} {request : ModelRequest}
  {responses : Nat → Except ProviderError ModelResponse}
  {streams : Nat → Except ProviderError ProviderStream} {n : Nat}

/-- The requests of `complete_with_retry` go through the steps of its policy, if there are any. -/
theorem completeWithRetry_executes
    (hlast : service.policy.providerRetryPolicy.LastAttempt responses n) :
    (service.completeWithRetry provider request).run.execute (answerRequests responses streams) 0 =
      (retrySteps provider "complete" service.policy.providerRetryPolicy responses n).map
        fun steps =>
          (steps.map (completeEvent request), (responses n).mapError requestError, n) := by
  refine (orElseRaise_execute _ _ _ _).trans ((congrArg (Option.map _)
    (executeWithRetry_executes (complete_carriesOut responses streams request) hlast)).trans ?_)
  rw [Option.map_map]
  rfl

/-- So do the requests of the loop in `stream_turn`. -/
theorem acquireStream_executes
    (hlast : service.policy.providerRetryPolicy.LastAttempt streams n) :
    (service.acquireStream provider request).run.execute (answerRequests responses streams) 0 =
      (retrySteps provider "stream" service.policy.providerRetryPolicy streams n).map
        fun steps =>
          (steps.map (streamEvent request), (streams n).mapError requestError, n) := by
  rw [service.acquireStream_eq]
  refine (orElseRaise_execute _ _ _ _).trans ((congrArg (Option.map _)
    (executeWithRetry_executes (stream_carriesOut responses streams request) hlast)).trans ?_)
  rw [Option.map_map]
  rfl

end

/-- A loop that goes through its steps, if there are any, does so where there are delays. -/
theorem goes_through_iff {T α : Type} {provider : ProviderId} {operation : String}
    {policy : RetryPolicy} {outcomes : Nat → Except ProviderError T} {n : Nat}
    (hlast : policy.LastAttempt outcomes n) {executed : Option α}
    {ending : History (RetrySig T) → α}
    (h : executed = (retrySteps provider operation policy outcomes n).map ending) :
    (∃ steps, retrySteps provider operation policy outcomes n = some steps ∧
        executed = some (ending steps)) ↔ policy.HasDelays n := by
  rw [← retry_steps_isSome_iff provider operation policy outcomes hlast.pos,
    Option.isSome_iff_exists]
  refine exists_congr fun steps => and_iff_left_of_imp fun hsteps => ?_
  rw [h, hsteps]
  rfl

/-- For all outcomes of the attempts there is one last attempt, counted in a `u32`.
`execute_with_retry` goes through the steps up to it and returns its outcome, and so do the requests
of a turn with either loop, with the error converted, exactly where the policy has a delay after
every attempt before it. -/
theorem retry_loops_agree_iff {T : Type} (provider : ProviderId) (operation : String)
    (policy : RetryPolicy) (outcomes : Nat → Except ProviderError T) (service : ChatService)
    (request : ModelRequest) (responses : Nat → Except ProviderError ModelResponse)
    (streams : Nat → Except ProviderError ProviderStream) :
    ((∃! n, policy.LastAttempt outcomes n) ∧ ∃ n, policy.LastAttempt outcomes n ∧ n < 2 ^ 32 ∧
      ((∃ steps, retrySteps provider operation policy outcomes n = some steps ∧
          (retryCalls T provider operation policy).execute (answerOutcomes outcomes) () =
            some (steps, outcomes n, ())) ↔ policy.HasDelays n)) ∧
    (∃ n, service.policy.providerRetryPolicy.LastAttempt responses n ∧ n < 2 ^ 32 ∧
      ((∃ steps, retrySteps provider "complete" service.policy.providerRetryPolicy responses n =
            some steps ∧
          (service.completeWithRetry provider request).run.execute
              (answerRequests responses streams) 0 =
            some (steps.map (completeEvent request), (responses n).mapError requestError, n)) ↔
        service.policy.providerRetryPolicy.HasDelays n)) ∧
    ∃ n, service.policy.providerRetryPolicy.LastAttempt streams n ∧ n < 2 ^ 32 ∧
      ((∃ steps, retrySteps provider "stream" service.policy.providerRetryPolicy streams n =
            some steps ∧
          (service.acquireStream provider request).run.execute
              (answerRequests responses streams) 0 =
            some (steps.map (streamEvent request), (streams n).mapError requestError, n)) ↔
        service.policy.providerRetryPolicy.HasDelays n) := by
  refine ⟨?_, ?_, ?_⟩
  · have hunique := policy.existsUnique_lastAttempt outcomes
    obtain ⟨n, hlast, -⟩ := id hunique
    exact ⟨hunique, n, hlast, hlast.lt, goes_through_iff hlast (retryCalls_executes hlast)⟩
  · obtain ⟨n, hlast, -⟩ :=
      service.policy.providerRetryPolicy.existsUnique_lastAttempt responses
    exact ⟨n, hlast, hlast.lt, goes_through_iff hlast (completeWithRetry_executes hlast)⟩
  · obtain ⟨n, hlast, -⟩ := service.policy.providerRetryPolicy.existsUnique_lastAttempt streams
    exact ⟨n, hlast, hlast.lt, goes_through_iff hlast (acquireStream_executes hlast)⟩

/-- The default policy with a multiplier of minus one. -/
def alternatingPolicy : RetryPolicy :=
  { RetryPolicy.default with backoffMultiplier := .finite true 1 }

/-- A provider that is never available. -/
def unavailable : Nat → Except ProviderError Unit :=
  fun _ => .error ⟨.unavailable, "unavailable", true⟩

/-- Three attempts are allowed, and the loop does not come to the end of the third: the delay after
the second one would be negative. -/
theorem retry_loop_panics : alternatingPolicy.LastAttempt unavailable 3 ∧
    ∀ steps outcome, (retryCalls Unit .openAi "complete" alternatingPolicy).execute
      (answerOutcomes unavailable) () ≠ some (steps, outcome, ()) := by
  have hlast : alternatingPolicy.LastAttempt unavailable 3 := by
    refine ⟨⟨by decide, .inr (.inr rfl)⟩, ?_⟩
    rintro attempt ⟨-, ⟨value, hvalue⟩ | ⟨error, herror, hretryable⟩ | hlimit⟩
    · cases hvalue
    · cases herror
      cases hretryable
    · exact hlimit.ge
  have hdelay : alternatingPolicy.backoffForAttempt 2 = none := by decide +kernel
  refine ⟨hlast, fun steps outcome hexecuted => ?_⟩
  rw [retryCalls_executes hlast] at hexecuted
  obtain ⟨steps, hsteps, -⟩ := Option.map_eq_some_iff.mp hexecuted
  have hdelays := (retry_steps_isSome_iff _ _ _ _ hlast.pos).mp (Option.isSome_of_mem hsteps)
  have hsecond := hdelays 2 (by decide) (by decide)
  rw [hdelay] at hsecond
  cases hsecond

end Fiddlesticks.Chat
