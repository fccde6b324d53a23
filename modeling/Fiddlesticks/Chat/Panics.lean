import Fiddlesticks.Chat.TurnLog

/-!
# Where a turn panics

A turn panics only where its policy has no delay before the next attempt, so right after a request
that has failed. From every other point its run can come to an end.
-/

namespace Fiddlesticks.Chat

open Effect Prog Provider Tooling

/-- The answer of a provider that fails. -/
def isFailure : Event ChatSig → Bool
  | ⟨.complete _, .error _⟩ | ⟨.stream _, .error _⟩ => true
  | _ => false

/-- A panic follows a request that has failed. -/
def PanicsAfterFailure (h : History ChatSig) (op : ChatOp) : Prop :=
  op = .panic → ∃ e, h.getLast? = some e ∧ isFailure e

/-- The program panics only after a request that has failed. -/
abbrev Careful {α : Type} (p : Prog ChatSig α) : Prop :=
  ∀ h, Correct Recorded PanicsAfterFailure (fun _ _ => True) p h

/-- A program without panics. -/
theorem careful_of_uses {α : Type} {p : Prog ChatSig α} (hp : Uses (S := ChatSig) (· ≠ .panic) p) :
    Careful p := by
  intro h
  exact hp.correct (I := fun _ => True) (fun _ _ hop _ hpanic => absurd hpanic hop)
    (fun _ _ _ _ _ _ => trivial) trivial

/-- An operation other than a panic does not panic. -/
theorem careful_ask (op : ChatOp) (hop : op ≠ .panic) : Careful (ask op) :=
  careful_of_uses (uses_request hop)

/-- A sequence is careful when both parts are. -/
theorem careful_bind {α β : Type} {p : Prog ChatSig α} {f : α → Prog ChatSig β} (hp : Careful p)
    (hf : ∀ value, Careful (f value)) : Careful (p >>= f) := fun h =>
  (correct_bind p f).mpr ((hp h).mono fun value h' _ => hf value h')

/-- So is a sequence of fallible parts. -/
theorem careful_except_bind {α β : Type} {p : Turn α} {f : α → Turn β} (hp : Careful p.run)
    (hf : ∀ value, Careful (f value).run) : Careful (p >>= f).run := by
  refine careful_bind hp fun result => ?_
  cases result with
  | ok value => exact hf value
  | error error => exact careful_of_uses (uses_pure _)

/-- A pure function of the value does not panic. -/
theorem careful_map {α β : Type} {p : Turn α} (f : α → β) (hp : Careful p.run) :
    Careful (f <$> p).run :=
  careful_bind hp fun result => by
    cases result <;> exact careful_of_uses (uses_pure _)

/-- Converting an error does not panic. -/
theorem careful_orElseRaise {ε α : Type} {convert : ε → ChatError}
    {program : Prog ChatSig (Except ε α)} (hp : Careful program) :
    Careful (orElseRaise convert program).run :=
  careful_bind hp fun result => by
    cases result <;> exact careful_of_uses (uses_pure _)

/-- A request and its retries. -/
theorem careful_retries {α : Type} {convert : ProviderError → ChatError} {provider : ProviderId}
    {operation : String} {policy : RetryPolicy} {attempt : Prog ChatSig (Except ProviderError α)}
    (hattempt : ∀ h, Correct Recorded PanicsAfterFailure
      (fun result h' => ∀ error, result = .error error → PanicsAfterFailure h' .panic) attempt h) :
    Careful (orElseRaise convert (executeWithRetry (fun event => ask (.hook event))
      (fun delay => ask (.sleep delay)) provider operation policy (fun _ => attempt))).run :=
  careful_orElseRaise fun h => executeWithRetry_correct
    (fun event h => careful_ask (.hook event) (by simp) h)
    (fun delay h => careful_ask (.sleep delay) (by simp) h)
    (fun _ h => hattempt h) h

/-! ## The parts of a turn -/

/-- A request for a stream is retried with care. -/
theorem acquireStream_careful (service : ChatService) (provider : ProviderId)
    (request : ModelRequest) : Careful (service.acquireStream provider request).run := by
  rw [service.acquireStream_eq]
  refine careful_retries fun h => (correct_call _ _).mpr ⟨by simp [PanicsAfterFailure], ?_⟩
  rintro answer h' rfl
  refine (correct_pure _).mpr ?_
  rintro error rfl -
  exact ⟨_, List.getLast?_concat, rfl⟩

/-- Yielding an event does not panic. -/
theorem yieldEvent_careful (event : ChatEvent) : Careful (yieldEvent event).run :=
  careful_of_uses (uses_map _ (uses_request (by simp)))

/-- Handing a call to the tools does not panic. -/
theorem execute_careful (call : ToolCall) (context : ToolExecutionContext) :
    Careful (execute call context).run :=
  careful_orElseRaise (careful_ask _ (by simp))

/-- Appending messages does not panic. -/
theorem appendMessages_careful (sessionId : SessionId) (messages : List Message) :
    Careful (appendMessages sessionId messages).run :=
  careful_orElseRaise (careful_ask _ (by simp))

/-- So they are while events are streamed. -/
theorem streamTools_careful (sessionId : SessionId) (calls : List ToolCall) :
    Careful (ChatService.streamTools sessionId calls).run := by
  induction calls with
  | nil => exact careful_of_uses (uses_pure _)
  | cons call calls ih =>
      refine careful_except_bind (yieldEvent_careful _) fun _ => ?_
      refine careful_except_bind (execute_careful _ _) fun _ => ?_
      refine careful_except_bind (yieldEvent_careful _) fun _ => ?_
      exact careful_except_bind ih fun _ => careful_of_uses (uses_pure _)

/-- Consuming a stream does not panic. -/
theorem consumeEvents_careful (round : StreamRound) (stream : ProviderStream) :
    Careful (consumeEvents round stream).run := by
  induction stream generalizing round with
  | nil => exact careful_of_uses (uses_pure _)
  | cons item stream ih =>
      cases item with
      | error error => exact careful_of_uses (uses_pure _)
      | ok event =>
          rw [consumeEvents]
          cases chatEvent event with
          | none => exact ih _
          | some yielded => exact careful_except_bind (yieldEvent_careful _) fun _ => ih _

/-! ## Whole turns -/

/-- Every part of a mode panics only after a request that has failed. -/
structure TurnMode.Careful {α : Type} (mode : TurnMode α) : Prop where
  askModel : ∀ provider request, Chat.Careful (mode.askModel provider request).run
  executeTools : ∀ sessionId calls, Chat.Careful (mode.executeTools sessionId calls).run
  limitReached : ∀ maxRoundTrips pendingToolCalls,
    Chat.Careful (mode.limitReached maxRoundTrips pendingToolCalls).run
  deliver : ∀ result, Chat.Careful (mode.deliver result).run

/-- The parts of `stream_turn` are careful. -/
theorem streamMode_careful (service : ChatService) : service.streamMode.Careful where
  askModel provider request :=
    careful_except_bind (acquireStream_careful service provider request) fun _ =>
      careful_map _ (consumeEvents_careful _ _)
  executeTools := streamTools_careful
  limitReached _ _ := yieldEvent_careful _
  deliver _ := yieldEvent_careful _

variable {α : Type} {mode : TurnMode α} (service : ChatService)

/-- The end of a turn is careful. -/
theorem finishTurn_careful (hmode : mode.Careful) (sessionId : SessionId)
    (persisted : List Message) (result : ChatTurnResult) :
    Careful (finishTurn mode sessionId persisted result).run :=
  careful_except_bind (appendMessages_careful _ _) fun _ => hmode.deliver _

/-- The loop of a turn panics only after a request that has failed. -/
theorem turnLoop_careful (hmode : mode.Careful) (context : TurnContext) (remaining : Nat)
    (conversation persisted : List Message) (toolResults : List ToolResult) :
    Careful (turnLoop mode service context remaining conversation persisted toolResults).run := by
  induction remaining generalizing conversation persisted toolResults with
  | zero =>
      rw [turnLoop]
      refine careful_except_bind (careful_of_uses (uses_pure _)) fun request => ?_
      refine careful_except_bind (hmode.askModel _ _) fun round => ?_
      split
      · exact careful_except_bind (hmode.limitReached _ _) fun _ => finishTurn_careful hmode _ _ _
      · exact finishTurn_careful hmode _ _ _
  | succ remaining ih =>
      rw [turnLoop]
      refine careful_except_bind (careful_of_uses (uses_pure _)) fun request => ?_
      refine careful_except_bind (hmode.askModel _ _) fun round => ?_
      split
      · exact careful_except_bind (hmode.executeTools _ _) fun _ => ih _ _ _
      · exact finishTurn_careful hmode _ _ _

/-- The event stream of a turn panics only after a request that has failed. -/
theorem streamTurnLoop_careful (context : TurnContext) (remaining : Nat)
    (conversation persisted : List Message) (toolResults : List ToolResult) :
    Careful (service.streamTurnLoop context remaining conversation persisted toolResults).run := by
  rw [service.streamTurnLoop_eq]
  exact turnLoop_careful service (streamMode_careful service) _ _ _ _ _

/-! ## Runs of careful programs -/

/-- Every operation but a panic has an answer that is no failure. -/
theorem exists_answer {op : ChatOp} (hop : op ≠ .panic) :
    ∃ answer : op.Answer, ¬ isFailure ⟨op, answer⟩ := by
  cases op with
  | panic => exact absurd rfl hop
  | complete request => exact ⟨.ok ⟨.openAi, "", [], .endTurn, {}⟩, Bool.false_ne_true⟩
  | stream request => exact ⟨.ok [], Bool.false_ne_true⟩
  | loadMessages | appendMessages => exact ⟨.error (.store ""), Bool.false_ne_true⟩
  | execute => exact ⟨.error ⟨.other, "", false, none, none⟩, Bool.false_ne_true⟩
  | _ => exact ⟨(), Bool.false_ne_true⟩

/-- A run of a careful program stands at a panic, after a failure, or goes on to an end. -/
theorem Careful.panics_or_ends {p rest : Prog ChatSig α} {events : History ChatSig}
    (hp : Careful p) (hpath : Path p events rest) :
    (∃ next e, rest = .call .panic next ∧ events.getLast? = some e ∧ isFailure e) ∨
      ∃ later value, Path rest later (.pure value) := by
  have hrest : Correct Recorded PanicsAfterFailure (fun _ _ => True) rest events := by
    simpa using (hp []).path hpath
  cases rest with
  | pure value => exact .inr ⟨[], value, .nil _⟩
  | call op next =>
      obtain ⟨hguard, hnext⟩ := (correct_call op next).mp hrest
      by_cases hop : op = .panic
      · subst hop
        obtain ⟨e, hlast, hfailure⟩ := hguard rfl
        exact .inl ⟨next, e, rfl, hlast, hfailure⟩
      · -- From here on no request fails, so that there is no panic.
        have hanswered : ∀ (h : History ChatSig) op,
            (∀ e, h.getLast? = some e → ¬ isFailure e) → PanicsAfterFailure h op →
            ∃ (answer : op.Answer) (h' : History ChatSig), Recorded h ⟨op, answer⟩ h' ∧
              ∀ e, h'.getLast? = some e → ¬ isFailure e := by
          intro h op hlast hguard
          have hop : op ≠ .panic := fun hpanic =>
            (hguard hpanic).elim fun e he => hlast e he.1 he.2
          obtain ⟨answer, hanswer⟩ := exists_answer hop
          exact ⟨answer, _, rfl, by simpa using hanswer⟩
        obtain ⟨answer, hanswer⟩ := exists_answer hop
        obtain ⟨value, after, hsteps⟩ :=
          (hnext answer _ rfl).to_end_keeping (by simpa using hanswer) hanswered
        obtain ⟨later, hlater⟩ := hsteps.path
        exact .inr ⟨_, value, .cons hlater⟩

end Fiddlesticks.Chat
