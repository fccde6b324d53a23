import Fiddlesticks.Chat.TurnLog

/-!
# The calls that a streamed round executes

`RoundLog` is what the history of a streamed turn has amounted to: the streams it has acquired and
the calls executed since the last of them. A round executes the calls of its stream in order, and
the turn goes on only when all of them have been executed (`streamTurn_rounds`).
-/

namespace Fiddlesticks.Chat

open Effect Prog Provider Tooling

/-! ## The log of the rounds -/

/-- The streams that a turn has acquired, and the calls executed since the last of them. -/
structure RoundLog where
  streams : List ProviderStream := []
  executed : List ToolCall := []

/-- The tool calls that a round is left with when its stream has ended. -/
def roundCalls (events : ProviderStream) : List ToolCall :=
  (consumed {} events).calls

namespace RoundLog

/-- What an event adds to the log. -/
def record (log : RoundLog) : Event ChatSig → RoundLog
  | ⟨.stream _, .ok events⟩ => { streams := log.streams ++ [events], executed := [] }
  | ⟨.execute toolCall _, _⟩ => { log with executed := log.executed ++ [toolCall] }
  | _ => log

/-- The round has executed all calls of its stream, unless it is past the limit of tool rounds. -/
def Complete (limit : Nat) (log : RoundLog) : Prop :=
  ∀ events, log.streams.getLast? = some events → log.streams.length ≤ limit →
    log.executed = roundCalls events

/-- The operations that a turn may issue at this point of its rounds: the next call of the round,
and when all calls are executed another round or the commit. -/
def Allows (limit : Nat) (log : RoundLog) : ChatOp → Prop
  | .execute toolCall _ => ∀ events, log.streams.getLast? = some events →
      log.executed ++ [toolCall] <+: roundCalls events
  | .stream _ | .appendMessages _ _ => log.Complete limit
  | _ => True

end RoundLog

/-- The operations that come after a round: the next request to the model and the commit. -/
def ChatOp.endsRound : ChatOp → Bool
  | .stream _ | .appendMessages _ _ => true
  | _ => false

/-- The rounds of a history. -/
def roundLog (h : History ChatSig) : RoundLog :=
  h.foldl RoundLog.record {}

/-- Nothing is logged at first. -/
@[simp] theorem round_log_nil : roundLog [] = {} := rfl

/-- The log records event by event. -/
@[simp] theorem round_log_snoc (h : History ChatSig) (e : Event ChatSig) :
    roundLog (h ++ [e]) = (roundLog h).record e := by
  simp [roundLog]

/-- The guard on the rounds of a streamed turn. -/
abbrev InRounds (limit : Nat) (h : History ChatSig) (e : Event ChatSig) : Prop :=
  (roundLog h).Allows limit e.op

/-! ## The parts of a round -/

section

variable {limit : Nat} {h : History ChatSig}

/-- Yielding an event logs nothing. -/
theorem yieldEvent_in_rounds (event : ChatEvent) :
    Obeys (InRounds limit) (fun h' result => roundLog h' = roundLog h ∧ result = .ok ()) h
      (yieldEvent event).run :=
  yieldEvent_obeys_iff.mpr ⟨trivial, round_log_snoc _ _, rfl⟩

/-- Consuming a stream executes nothing and ends in the round of the stream. -/
theorem consumeEvents_in_rounds (round : StreamRound) (events : ProviderStream) :
    Obeys (InRounds limit) (fun h' result => roundLog h' = roundLog h ∧
        ∀ final, result = .ok final → final = consumed round events) h
      (consumeEvents round events).run :=
  consumeEvents_keep (fun _ _ yielded _ _ => yieldEvent_in_rounds yielded) round events

/-- A turn acquires a stream when its round is complete, and begins a round with it. -/
theorem acquireStream_in_rounds (service : ChatService) (provider : ProviderId)
    (modelRequest : ModelRequest) (hcomplete : (roundLog h).Complete limit) :
    Obeys (InRounds limit) (fun h' result => ∀ events, result = .ok events →
        roundLog h' = ⟨(roundLog h).streams ++ [events], []⟩) h
      (service.acquireStream provider modelRequest).run := by
  rw [service.acquireStream_eq]
  refine orElseRaise_obeys (Q := Retried (fun h' => roundLog h' = roundLog h)
    (fun h' events => roundLog h' = ⟨(roundLog h).streams ++ [events], []⟩)) ?_ ?_ ?_
  · refine retries_keep (fun _ _ _ _ => ⟨trivial, round_log_snoc _ _⟩)
      (fun _ _ _ _ => ⟨trivial, round_log_snoc _ _⟩) fun h' hlog => ?_
    refine ask_obeys (.stream modelRequest) fun answer => ⟨?_, ?_⟩
    · show (roundLog h').Complete limit
      rwa [hlog]
    · cases answer <;> simp [Retried, RoundLog.record, hlog]
  · rintro h' value hlog events ⟨⟩
    exact hlog
  · rintro h' error hlog events ⟨⟩

/-- An execution logs its call, which is the next one of its round. -/
theorem execute_in_rounds {call : ToolCall} {context : ToolExecutionContext}
    (hnext : ∀ events, (roundLog h).streams.getLast? = some events →
      (roundLog h).executed ++ [call] <+: roundCalls events) :
    Obeys (InRounds limit) (fun h' _ => roundLog h' =
        { roundLog h with executed := (roundLog h).executed ++ [call] }) h
      (execute call context).run := by
  refine orElseRaise_obeys (Q := fun h' _ => roundLog h' =
    { roundLog h with executed := (roundLog h).executed ++ [call] }) ?_
    (fun _ _ hlog => hlog) (fun _ _ hlog => hlog)
  exact ask_obeys (.execute call context) fun answer => ⟨hnext, round_log_snoc _ _⟩

/-- The tool loop executes the rest of the calls of the round. -/
theorem streamTools_in_rounds (sessionId : SessionId) {calls : List ToolCall}
    (hcalls : ∀ events, (roundLog h).streams.getLast? = some events →
      (roundLog h).executed ++ calls = roundCalls events) :
    Obeys (InRounds limit) (fun h' result => ∀ results, result = .ok results →
        roundLog h' = { roundLog h with executed := (roundLog h).executed ++ calls }) h
      (ChatService.streamTools sessionId calls).run := by
  induction calls generalizing h with
  | nil => simp [ChatService.streamTools]
  | cons call calls ih =>
      rw [ChatService.streamTools]
      refine obeys_except_seq (yieldEvent_in_rounds _) (fun h' _ hstarted => ?_) (by simp)
      refine obeys_except_seq (execute_in_rounds ?_) (fun h'' result hlog => ?_) (by simp)
      · intro events hevents
        rw [hstarted.1] at hevents ⊢
        exact ⟨calls, by simpa using hcalls events hevents⟩
      · refine obeys_except_seq (yieldEvent_in_rounds _) (fun h₃ _ hfinished => ?_) (by simp)
        have hlog₃ : roundLog h₃ =
            { roundLog h with executed := (roundLog h).executed ++ [call] } := by
          rw [hfinished.1, hlog, hstarted.1]
        refine obeys_except_seq (ih ?_) (fun h₄ results hran => ?_) (by simp)
        · intro events hevents
          rw [hlog₃] at hevents ⊢
          simpa using hcalls events hevents
        · refine (obeys_except_pure _).mpr fun final _ => ?_
          simpa [hlog₃] using hran results rfl

/-! ## The loop -/

/-- The commit of a turn whose round is complete. -/
theorem finishTurn_in_rounds (service : ChatService) (sessionId : SessionId)
    (persisted : List Message) (result : ChatTurnResult)
    (hcomplete : (roundLog h).Complete limit) :
    Obeys (InRounds limit) (fun _ _ => True) h
      (finishTurn service.streamMode sessionId persisted result).run := by
  rw [finishTurn]
  have hcommit : Obeys (InRounds limit) (fun _ _ => True) h
      (appendMessages sessionId persisted).run := by
    refine orElseRaise_obeys (Q := fun _ _ => True) ?_ (fun _ _ _ => trivial)
      (fun _ _ _ => trivial)
    exact ask_obeys (.appendMessages sessionId persisted) fun _ => ⟨hcomplete, trivial⟩
  refine obeys_except_seq hcommit (fun h' _ _ => ?_) (fun _ _ _ => trivial)
  exact (yieldEvent_in_rounds _).mono (fun _ _ hg => hg) fun _ _ _ => trivial

/-- One round of a streamed turn keeps to its rounds if the rounds after it do. -/
theorem streamTurn_round (service : ChatService) (hruntime : service.hasToolRuntime = true)
    (context : TurnContext) {remaining : Nat} (conversation persisted : List Message)
    (toolResults : List ToolResult) (hcomplete : (roundLog h).Complete limit)
    (hcount : (roundLog h).streams.length + remaining = limit)
    (hnext : ∀ left, remaining = left + 1 → ∀ h conversation persisted toolResults,
      (roundLog h).Complete limit → (roundLog h).streams.length + left = limit →
      Obeys (InRounds limit) (fun _ _ => True) h
        (turnLoop service.streamMode service context left conversation persisted
          toolResults).run) :
    Obeys (InRounds limit) (fun _ _ => True) h
      (turnLoop service.streamMode service context remaining conversation persisted
        toolResults).run := by
  rw [turnLoop.eq_def, obeys_except_bind, obeys_except_lift]
  split
  · rename_i modelRequest hrequest
    have hask : Obeys (InRounds limit) (fun h' result => ∀ round, result = .ok round →
        ∃ events, roundLog h' = ⟨(roundLog h).streams ++ [events], []⟩ ∧
          round.toolCalls = roundCalls events) h
        (service.streamMode.askModel context.session.provider modelRequest).run := by
      refine obeys_except_seq (acquireStream_in_rounds service _ _ hcomplete) ?_ (by simp)
      intro h' events hacquired
      refine obeys_except_seq (consumeEvents_in_rounds _ _) ?_ (by simp)
      rintro h'' final ⟨hlog, hfinal⟩
      refine (obeys_except_pure _).mpr ?_
      rintro round ⟨⟩
      exact ⟨events, hlog.trans (hacquired events rfl), by rw [hfinal final rfl]; rfl⟩
    refine obeys_except_seq hask (fun h' round hround => ?_) (fun _ _ _ => trivial)
    obtain ⟨events, hlog, hcalls⟩ := hround round rfl
    by_cases htools : (service.hasToolRuntime && !round.toolCalls.isEmpty) = true
    · simp only [htools, if_true]
      cases remaining with
      | zero =>
          refine obeys_except_seq (yieldEvent_in_rounds _) (fun h'' _ hlimit => ?_)
            (fun _ _ _ => trivial)
          refine finishTurn_in_rounds service _ _ _ ?_
          -- the round that finds the budget used up is past the limit
          intro last hlast hlength
          rw [hlimit.1, hlog] at hlength
          simp only [List.length_append, List.length_singleton] at hlength
          omega
      | succ left =>
          refine obeys_except_seq (streamTools_in_rounds _ ?_) (fun h'' results hran => ?_)
            (fun _ _ _ => trivial)
          · intro last hlast
            rw [hlog, List.getLast?_concat, Option.some.injEq] at hlast
            rw [hlog, hcalls, hlast, List.nil_append]
          · have hlog'' : roundLog h'' = ⟨(roundLog h).streams ++ [events], round.toolCalls⟩ := by
              simpa [hlog] using hran results rfl
            refine hnext left rfl h'' _ _ _ ?_ ?_
            · intro last hlast hlength
              rw [hlog'', List.getLast?_concat, Option.some.injEq] at hlast
              rw [hlog'', ← hlast, hcalls]
            · rw [hlog'', List.length_append, List.length_singleton]
              omega
    · simp only [htools, Bool.false_eq_true, if_false]
      refine finishTurn_in_rounds service _ _ _ ?_
      have hnone : round.toolCalls = [] := by simpa [hruntime] using htools
      intro last hlast hlength
      rw [hlog, List.getLast?_concat, Option.some.injEq] at hlast
      rw [hlog, ← hlast, ← hcalls, hnone]
  · trivial

/-- A streamed turn with a tool runtime keeps to its rounds. -/
theorem streamTurn_rounds (service : ChatService) (hruntime : service.hasToolRuntime = true)
    (request : ChatTurnRequest) :
    Obeys (InRounds service.policy.maxToolRoundTrips) (fun _ _ => True) []
      (service.streamTurnToEnd request).run := by
  rw [service.streamTurnToEnd_eq]
  have hprepare : Obeys (InRounds service.policy.maxToolRoundTrips)
      (fun h' _ => roundLog h' = {}) [] (service.prepareTurn request).run := by
    rw [ChatService.prepareTurn]
    split
    · simp
    · have hload : Obeys (InRounds service.policy.maxToolRoundTrips)
          (fun h' _ => roundLog h' = {}) [] (loadMessages request.session.id).run := by
        refine orElseRaise_obeys (Q := fun h' _ => roundLog h' = {}) ?_ (fun _ _ hlog => hlog)
          (fun _ _ hlog => hlog)
        exact ask_obeys (.loadMessages _) fun _ => ⟨trivial, rfl⟩
      exact obeys_except_seq hload (fun h' _ hlog => (obeys_except_pure _).mpr hlog)
        (fun _ _ hlog => hlog)
  refine obeys_except_seq hprepare ?_ (fun _ _ _ => trivial)
  · intro h' context hlog
    have hloop : ∀ left h conversation persisted toolResults,
        (roundLog h).Complete service.policy.maxToolRoundTrips →
        (roundLog h).streams.length + left = service.policy.maxToolRoundTrips →
        Obeys (InRounds service.policy.maxToolRoundTrips) (fun _ _ => True) h
          (turnLoop service.streamMode service context left conversation persisted
            toolResults).run := by
      intro left
      induction left with
      | zero =>
          intro h conversation persisted toolResults hcomplete hcount
          exact streamTurn_round service hruntime context _ _ _ hcomplete hcount (by simp)
      | succ left ih =>
          intro h conversation persisted toolResults hcomplete hcount
          refine streamTurn_round service hruntime context _ _ _ hcomplete hcount ?_
          rintro left' hleft
          cases hleft
          exact ih
    refine hloop _ h' _ _ _ ?_ ?_
    · intro events hevents
      simp [hlog] at hevents
    · simp [hlog]

/-- The calls executed in the last round of a path are the first ones of its stream. -/
theorem executed_prefix_roundCalls {events : History ChatSig}
    (hguard : ∀ before e after, events = before ++ e :: after → InRounds limit before e) :
    ∀ stream, (roundLog events).streams.getLast? = some stream →
      (roundLog events).executed <+: roundCalls stream := by
  induction events using List.reverseRecOn with
  | nil => simp
  | append_singleton events e ih =>
      have hrest := ih fun before e' after hsplit =>
        hguard before e' (after ++ [e]) (by simp [hsplit])
      have hlast := hguard events e [] rfl
      intro stream hstream
      rw [round_log_snoc] at hstream ⊢
      obtain ⟨op, answer⟩ := e
      cases op with
      | execute call context => exact hlast stream hstream
      | stream modelRequest =>
          cases answer with
          | error error => exact hrest stream hstream
          | ok acquired => exact List.nil_prefix
      | _ => exact hrest stream hstream

end

end Fiddlesticks.Chat
