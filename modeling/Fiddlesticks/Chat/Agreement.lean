import Fiddlesticks.Chat.CallOrder
import Fiddlesticks.Chat.Environment

/-!
# Streamed and whole turns agree

The same turn is run by `run_turn` and by `stream_turn` against a provider whose streams deliver
its responses. The two agree exactly when the tool calls of every response they consult come in
the order of their ids, as far as they are executed, and no message of a stream adds text to a
response without any: the streamed turn keeps the calls of a round in a map, the other one in a
list, and it takes the text of a message where the response has none.
-/

namespace Fiddlesticks.Chat

open Effect Provider Tooling

/-! ## Self-consistent providers -/

/-- The assistant text of a response. -/
def responseText (response : ModelResponse) : String :=
  (collectOutput response.output).1

/-- The tool calls of a response, in output order. -/
def responseCalls (response : ModelResponse) : List ToolCall :=
  (collectOutput response.output).2

/-- The text of a text delta. -/
def deltaText : StreamEvent → Option String
  | .textDelta delta => some delta
  | _ => none

/-- The snapshot of a tool call delta. -/
def deltaCall : StreamEvent → Option ToolCall
  | .toolCallDelta call => some call
  | _ => none

/-- The text of an assistant message. -/
def messageText : StreamEvent → Option String
  | .messageComplete message => if message.role = .assistant then some message.content else none
  | _ => none

/-- A stream that delivers a response: text and tool call deltas in any order, then the message if
it comes at all, then the response. The text deltas make up the text of the response, and the last
snapshot of each call is a call of the response. -/
structure StreamsResponse (response : ModelResponse) (events : List StreamEvent) : Prop where
  shape : ∃ (deltas : List StreamEvent) (message : Option Message),
    events = deltas ++ (message.toList.map .messageComplete ++ [.responseComplete response]) ∧
    (∀ e ∈ deltas, (deltaText e).isSome ∨ (deltaCall e).isSome) ∧
    (deltas.filterMap deltaText).foldr (· ++ ·) "" = responseText response ∧
    (∀ before call after, deltas.filterMap deltaCall = before ++ call :: after →
      (∃ answered ∈ responseCalls response, answered.id = call.id) ∧
        ((∀ later ∈ after, later.id ≠ call.id) → call ∈ responseCalls response))

/-- For every request, the stream delivers the response that `complete` returns. -/
def TurnEnvironment.SelfConsistent (env : TurnEnvironment) : Prop :=
  ∀ request, StreamsResponse (env.complete request) (env.stream request)

/-- Deltas append their text and insert their snapshots. -/
theorem foldl_update_deltas (round : StreamRound) {deltas : List StreamEvent}
    (hdeltas : ∀ e ∈ deltas, (deltaText e).isSome ∨ (deltaCall e).isSome) :
    deltas.foldl StreamRound.update round =
      { round with
        assistantText := round.assistantText ++ (deltas.filterMap deltaText).foldr (· ++ ·) ""
        toolCalls := insertCalls round.toolCalls (deltas.filterMap deltaCall) } := by
  induction deltas generalizing round with
  | nil => simp [insertCalls]
  | cons e deltas ih =>
      have hrest := ih (round.update e) fun e he => hdeltas e (List.mem_cons_of_mem _ he)
      rw [List.foldl_cons, hrest]
      cases e with
      | textDelta delta =>
          simp [StreamRound.update, deltaText, deltaCall, List.filterMap_cons, String.append_assoc]
      | toolCallDelta call =>
          simp [StreamRound.update, deltaText, deltaCall, List.filterMap_cons, insertCalls]
      | messageComplete message =>
          simpa [deltaText, deltaCall] using hdeltas _ List.mem_cons_self
      | responseComplete response =>
          simpa [deltaText, deltaCall] using hdeltas _ List.mem_cons_self

/-- The text that a stream leaves: that of its message where the response has none. -/
def streamedText (response : ModelResponse) (events : List StreamEvent) : String :=
  if responseText response = "" then (events.filterMap messageText).foldr (· ++ ·) ""
  else responseText response

/-- Deltas have no message. -/
theorem filterMap_messageText_deltas {deltas : List StreamEvent}
    (hdeltas : ∀ e ∈ deltas, (deltaText e).isSome ∨ (deltaCall e).isSome) :
    deltas.filterMap messageText = [] := by
  refine List.filterMap_eq_nil_iff.mpr fun e he => ?_
  cases e with
  | messageComplete message => simpa [deltaText, deltaCall] using hdeltas _ he
  | _ => rfl

/-- A message leaves the calls of a round. -/
theorem toolCalls_update_message (round : StreamRound) (message : Message) :
    (round.update (.messageComplete message)).toolCalls = round.toolCalls := by
  rw [StreamRound.update]
  split <;> rfl

/-- A message gives its text to a round without any. -/
theorem assistantText_update_message {round : StreamRound} (hempty : round.assistantText = "")
    (message : Message) : (round.update (.messageComplete message)).assistantText =
      ([StreamEvent.messageComplete message].filterMap messageText).foldr (· ++ ·) "" := by
  by_cases hrole : message.role = .assistant <;>
    simp [StreamRound.update, messageText, hempty, hrole]

/-- The response overwrites what a round has, but for a text where it has none. -/
theorem update_responseComplete {round : StreamRound} {response : ModelResponse}
    {snapshots : List ToolCall} (hcalls : round.toolCalls = insertCalls ∅ snapshots)
    (hsubset : ∀ id ∈ insertCalls ∅ snapshots, ∃ call ∈ responseCalls response, call.id = id) :
    let final := round.update (.responseComplete response)
    final.assistantText =
        (if responseText response = "" then round.assistantText else responseText response) ∧
      final.calls = inOrder (responseCalls response) ∧
      final.stopReason = response.stopReason ∧ final.usage = response.usage := by
  refine ⟨rfl, ?_, rfl, rfl⟩
  show (insertCalls round.toolCalls (responseCalls response)).toList.map Prod.snd = _
  rw [hcalls, insertCalls_of_subset hsubset, inOrder]

/-- A stream that delivers a response ends in the round of that response, with its calls in
order and the text that it leaves. -/
theorem StreamsResponse.consumed {response : ModelResponse} {events : List StreamEvent}
    (h : StreamsResponse response events) :
    let round := events.foldl StreamRound.update {}
    round.assistantText = streamedText response events ∧
      round.calls = inOrder (responseCalls response) ∧
      round.stopReason = response.stopReason ∧ round.usage = response.usage := by
  obtain ⟨deltas, message, rfl, hdeltas, htext, hcalls⟩ := h.shape
  have hsubset : ∀ id ∈ insertCalls ∅ (deltas.filterMap deltaCall),
      ∃ call ∈ responseCalls response, call.id = id := by
    intro id hid
    obtain ⟨call, hcall, rfl⟩ := exists_of_mem_insertCalls hid
    obtain ⟨before, after, hsplit⟩ := List.append_of_mem hcall
    exact (hcalls before call after hsplit).1
  have hmessages : (deltas ++ (message.toList.map StreamEvent.messageComplete ++
      [StreamEvent.responseComplete response])).filterMap messageText =
        (message.toList.map StreamEvent.messageComplete).filterMap messageText := by
    simp [List.filterMap_append, filterMap_messageText_deltas hdeltas, messageText]
  rw [List.foldl_append, List.foldl_append, foldl_update_deltas _ hdeltas, htext, streamedText,
    hmessages]
  generalize hround : ({ ({} : StreamRound) with
    assistantText := ({} : StreamRound).assistantText ++ responseText response
    toolCalls := insertCalls ({} : StreamRound).toolCalls (deltas.filterMap deltaCall) } :
      StreamRound) = round
  have hroundText : round.assistantText = responseText response := by
    rw [← hround]
    simp
  have hroundCalls : round.toolCalls = insertCalls ∅ (deltas.filterMap deltaCall) := by
    rw [← hround]
  cases message with
  | none =>
      obtain ⟨htext', hrest⟩ := update_responseComplete hroundCalls hsubset
      refine ⟨htext'.trans ?_, hrest⟩
      split
      · rename_i hempty
        rw [hroundText, hempty]
        rfl
      · rfl
  | some message =>
      obtain ⟨htext', hrest⟩ := update_responseComplete
        ((toolCalls_update_message round message).trans hroundCalls) hsubset
      refine ⟨htext'.trans ?_, hrest⟩
      split
      · rename_i hempty
        exact assistantText_update_message (hroundText.trans hempty) message
      · rfl

/-! ## The environment on the parts of a turn -/

section

variable (env : TurnEnvironment)

/-- What an observer sees only grows. -/
structure Observed.Extends (seen later : Observed) : Prop where
  executed : seen.executed <+: later.executed
  sent : seen.sent <+: later.sent

/-- The calls of a round that are executed: all up to the first that fails, and that one. -/
def TurnEnvironment.attempted (env : TurnEnvironment) (sessionId : SessionId) :
    (executed calls : List ToolCall) → List ToolCall
  | _, [] => []
  | executed, call :: calls => call :: match env.execute executed call (.new sessionId) with
    | .ok _ => env.attempted sessionId (executed ++ [call]) calls
    | .error _ => []

/-- The results of the calls of a round, or the error of the first that fails. -/
def TurnEnvironment.results (env : TurnEnvironment) (sessionId : SessionId) :
    (executed calls : List ToolCall) → Except ChatError (List ToolResult)
  | _, [] => .ok []
  | executed, call :: calls => match env.execute executed call (.new sessionId) with
    | .ok result => (env.results sessionId (executed ++ [call]) calls).map
        (⟨result.toolCallId, result.output⟩ :: ·)
    | .error error => .error ((ChatError.ofTool error).withPhase .tooling)

/-- No call is attempted when there is none. -/
theorem attempted_eq_nil_iff {env : TurnEnvironment} {sessionId : SessionId}
    {executed calls : List ToolCall} :
    env.attempted sessionId executed calls = [] ↔ calls = [] := by
  cases calls <;> simp [TurnEnvironment.attempted]

/-- Running the tools of a round. -/
def TurnEnvironment.afterTools (env : TurnEnvironment) (sessionId : SessionId)
    (calls : List ToolCall) (seen : Observed) : Except ChatError (List ToolResult) × Observed :=
  (env.results sessionId seen.executed calls,
    { seen with executed := seen.executed ++ env.attempted sessionId seen.executed calls })

/-- What the rest of a tool loop adds to an executed call. -/
theorem afterTools_cons (sessionId : SessionId) (call : ToolCall) (calls : List ToolCall)
    (seen : Observed) : env.afterTools sessionId (call :: calls) seen =
      match env.execute seen.executed call (.new sessionId) with
      | .ok result =>
          match env.afterTools sessionId calls
              { seen with executed := seen.executed ++ [call] } with
          | (.ok results, after) => (.ok (⟨result.toolCallId, result.output⟩ :: results), after)
          | (.error error, after) => (.error error, after)
      | .error error => (.error ((ChatError.ofTool error).withPhase .tooling),
          { seen with executed := seen.executed ++ [call] }) := by
  rw [TurnEnvironment.afterTools, TurnEnvironment.results, TurnEnvironment.attempted]
  cases env.execute seen.executed call (.new sessionId) with
  | error error => rfl
  | ok result =>
      simp only [TurnEnvironment.afterTools, List.append_assoc, List.singleton_append]
      cases env.results sessionId (seen.executed ++ [call]) calls <;> rfl

/-- What a program comes to in the environment. -/
abbrev TurnEnvironment.finish {α : Type} (env : TurnEnvironment) (turn : Turn α)
    (seen : Observed) : Option (Except ChatError α × Observed) :=
  turn.run.finish env.handle seen

/-- An outcome with its error converted. -/
theorem finish_orElseRaise {ε α : Type} {convert : ε → ChatError}
    {program : Prog ChatSig (Except ε α)} {seen after : Observed} (outcome : Except ε α)
    (h : program.finish env.handle seen = some (outcome, after)) :
    env.finish (orElseRaise convert program) seen = some (outcome.mapError convert, after) := by
  refine (Prog.finish_bind env.handle program _ seen).trans ?_
  rw [h]
  cases outcome <;> rfl

/-- An execution. -/
theorem finish_execute (call : ToolCall) (context : ToolExecutionContext) (seen : Observed) :
    env.finish (execute call context) seen =
      some ((env.execute seen.executed call context).mapError
        fun error => (ChatError.ofTool error).withPhase .tooling,
        { seen with executed := seen.executed ++ [call] }) :=
  finish_orElseRaise env _ rfl

/-- An event of the stream that does not end it. -/
theorem finish_yieldEvent (event : ChatEvent) (hevent : ∀ result, event ≠ .turnComplete result)
    (seen : Observed) : env.finish (yieldEvent event) seen = some (.ok (), seen) := by
  cases event with
  | turnComplete result => exact absurd rfl (hevent result)
  | _ => rfl

/-- The tools of a round of `run_turn`. -/
theorem finish_executeTools (sessionId : SessionId) (calls : List ToolCall) (seen : Observed) :
    env.finish (ChatService.executeTools sessionId calls) seen =
      some (env.afterTools sessionId calls seen) := by
  induction calls generalizing seen with
  | nil => simp [ChatService.executeTools, TurnEnvironment.afterTools, TurnEnvironment.attempted,
      TurnEnvironment.results, TurnEnvironment.finish, Prog.finish]
  | cons call calls ih =>
      have hcall := finish_execute env call (.new sessionId) seen
      rw [ChatService.executeTools, afterTools_cons]
      cases hexecute : env.execute seen.executed call (.new sessionId) with
      | error error =>
          rw [hexecute] at hcall
          exact Prog.finish_except_error _ hcall
      | ok result =>
          rw [hexecute] at hcall
          refine (Prog.finish_except_ok _ hcall).trans ?_
          have hrest := ih { seen with executed := seen.executed ++ [call] }
          rcases hafter : env.afterTools sessionId calls
            { seen with executed := seen.executed ++ [call] } with ⟨error | results, after⟩
          · rw [hafter] at hrest
            exact Prog.finish_except_error _ hrest
          · rw [hafter] at hrest
            exact Prog.finish_except_ok _ hrest

/-- The tools of a round of `stream_turn`. -/
theorem finish_streamTools (sessionId : SessionId) (calls : List ToolCall) (seen : Observed) :
    env.finish (ChatService.streamTools sessionId calls) seen =
      some (env.afterTools sessionId calls seen) := by
  induction calls generalizing seen with
  | nil => simp [ChatService.streamTools, TurnEnvironment.afterTools, TurnEnvironment.attempted,
      TurnEnvironment.results, TurnEnvironment.finish, Prog.finish]
  | cons call calls ih =>
      have hcall := finish_execute env call (.new sessionId) seen
      rw [ChatService.streamTools, afterTools_cons]
      refine (Prog.finish_except_ok _ (finish_yieldEvent env _ (by simp) seen)).trans ?_
      cases hexecute : env.execute seen.executed call (.new sessionId) with
      | error error =>
          rw [hexecute] at hcall
          exact Prog.finish_except_error _ hcall
      | ok result =>
          rw [hexecute] at hcall
          refine (Prog.finish_except_ok _ hcall).trans ?_
          refine (Prog.finish_except_ok _ (finish_yieldEvent env (.toolExecutionFinished call)
            (by simp) _)).trans ?_
          have hrest := ih { seen with executed := seen.executed ++ [call] }
          rcases hafter : env.afterTools sessionId calls
            { seen with executed := seen.executed ++ [call] } with ⟨error | results, after⟩
          · rw [hafter] at hrest
            exact Prog.finish_except_error _ hrest
          · rw [hafter] at hrest
            exact Prog.finish_except_ok _ hrest

/-- The tools that run are those attempted, and their results do not depend on the others. -/
theorem results_attempted (sessionId : SessionId) (executed calls : List ToolCall) :
    env.results sessionId executed (env.attempted sessionId executed calls) =
      env.results sessionId executed calls := by
  induction calls generalizing executed with
  | nil => rfl
  | cons call calls ih =>
      rw [TurnEnvironment.attempted, TurnEnvironment.results, TurnEnvironment.results]
      cases env.execute executed call (.new sessionId) with
      | error error => rfl
      | ok result => simp only [ih]

/-- When all calls succeed, all are attempted and each has a result. -/
theorem attempted_of_ok {sessionId : SessionId} {executed calls : List ToolCall}
    {results : List ToolResult} (h : env.results sessionId executed calls = .ok results) :
    env.attempted sessionId executed calls = calls ∧ results.length = calls.length := by
  induction calls generalizing executed results with
  | nil =>
      cases h
      exact ⟨rfl, rfl⟩
  | cons call calls ih =>
      rw [TurnEnvironment.results] at h
      rw [TurnEnvironment.attempted]
      cases hexecute : env.execute executed call (.new sessionId) with
      | error error => simp [hexecute] at h
      | ok result =>
          rw [hexecute] at h
          cases hrest : env.results sessionId (executed ++ [call]) calls with
          | error error => simp [hrest, Except.map] at h
          | ok rest =>
              simp only [hrest, Except.map, Except.ok.injEq] at h
              obtain ⟨hall, hlength⟩ := ih hrest
              subst h
              exact ⟨by simp [hall], by simp [hlength]⟩

/-! ## Rounds -/

/-- The observation after a request with tool results was sent. -/
def Observed.asked (seen : Observed) (toolResults : List ToolResult) : Observed :=
  { seen with sent := seen.sent ++ [toolResults] }

/-- The observation after a commit. -/
def Observed.committed (seen : Observed) (sessionId : SessionId) (messages : List Message) :
    Observed :=
  { seen with appended := seen.appended ++ [(sessionId, messages)] }

/-! ## Modes -/

/-- What a mode makes of a turn in an environment: the round that a request leads to, and how a
result is delivered. -/
structure ModeRun (α : Type) where
  round : ModelRequest → Round
  deliver : ChatTurnResult → Observed → Except ChatError α × Observed

/-- How a mode runs its parts in an environment. -/
structure TurnMode.Runs {α : Type} (mode : TurnMode α) (run : ModeRun α) : Prop where
  askModel : ∀ provider request seen, env.finish (mode.askModel provider request) seen =
    some (.ok (run.round (plain request)), seen.asked request.toolResults)
  executeTools : ∀ sessionId calls seen, env.finish (mode.executeTools sessionId calls) seen =
    some (env.afterTools sessionId calls seen)
  limitReached : ∀ maxRoundTrips pendingToolCalls seen,
    env.finish (mode.limitReached maxRoundTrips pendingToolCalls) seen = some (.ok (), seen)
  deliver : ∀ result seen, env.finish (mode.deliver result) seen = some (run.deliver result seen)

/-- The requests of `run_turn` are answered at once. -/
theorem finish_completeWithRetry (service : ChatService) (provider : ProviderId)
    (request : ModelRequest) (seen : Observed) :
    env.finish (service.completeWithRetry provider request) seen =
      some (.ok (env.complete (plain request)), seen.asked request.toolResults) := by
  refine finish_orElseRaise env (.ok _) ?_
  rw [executeWithRetry, executeWithRetryLoop.eq_def]
  rfl

/-- The requests of `stream_turn` are answered at once. -/
theorem finish_acquireStream (service : ChatService) (provider : ProviderId)
    (request : ModelRequest) (seen : Observed) :
    env.finish (service.acquireStream provider request) seen =
      some (.ok ((env.stream (plain request)).map .ok), seen.asked request.toolResults) := by
  rw [service.acquireStream_eq]
  refine finish_orElseRaise env (.ok _) ?_
  rw [executeWithRetry, executeWithRetryLoop.eq_def]
  rfl

/-- A stream without errors is consumed. -/
theorem finish_consumeEvents (round : StreamRound) (events : List StreamEvent) (seen : Observed) :
    env.finish (consumeEvents round (events.map .ok)) seen =
      some (.ok (events.foldl StreamRound.update round), seen) := by
  induction events generalizing round with
  | nil => rfl
  | cons event events ih =>
      rw [List.map_cons, consumeEvents]
      cases hevent : chatEvent event with
      | none => exact ih _
      | some yielded =>
          exact (Prog.finish_except_ok _ (finish_yieldEvent env _
            (chatEvent_ne_turnComplete hevent) seen)).trans (ih _)

/-- What `run_turn` makes of a turn. -/
def wholeRun : ModeRun ChatTurnResult :=
  { round := fun request => ChatService.roundOfResponse (env.complete request)
    deliver := fun result seen => (.ok result, seen) }

/-- `run_turn` runs the rounds of the responses. -/
theorem runMode_runs (service : ChatService) :
    TurnMode.Runs env service.runMode (wholeRun env) where
  askModel provider request seen := by
    refine (Prog.finish_bind env.handle (service.completeWithRetry provider request).run _
      seen).trans ?_
    rw [show (service.completeWithRetry provider request).run.finish env.handle seen = _ from
      finish_completeWithRetry env service provider request seen]
    rfl
  executeTools sessionId calls seen := finish_executeTools env sessionId calls seen
  limitReached _ _ _ := rfl
  deliver _ _ := rfl

/-- The round of a streamed response: its calls in order, and the text that the stream leaves. -/
def streamedRound (response : ModelResponse) (events : List StreamEvent) : Round :=
  { ChatService.roundOfResponse response with
    assistantMessage := streamedText response events
    toolCalls := inOrder (responseCalls response) }

/-- What `stream_turn` makes of a turn. -/
def streamedRun : ModeRun Unit :=
  { round := fun request => streamedRound (env.complete request) (env.stream request)
    deliver := fun result seen => (.ok (), { seen with delivered := some result }) }

/-- `stream_turn` runs the streamed rounds of the responses. -/
theorem streamMode_runs (service : ChatService) (henv : env.SelfConsistent) :
    TurnMode.Runs env service.streamMode (streamedRun env) where
  askModel provider request seen := by
    refine (Prog.finish_except_ok _ (finish_acquireStream env service provider request
      seen)).trans ?_
    refine (Prog.finish_bind env.handle (consumeEvents {} _).run _ _).trans ?_
    rw [show (consumeEvents {} ((env.stream (plain request)).map .ok)).run.finish env.handle _ = _
      from finish_consumeEvents env {} _ _]
    obtain ⟨htext, hcalls, hstop, husage⟩ := (henv (plain request)).consumed
    refine congrArg (fun round => some (Except.ok round, seen.asked request.toolResults)) ?_
    show ChatService.StreamRound.toRound _ = _
    rw [ChatService.StreamRound.toRound, htext, hcalls, hstop, husage]
    rfl
  executeTools sessionId calls seen := finish_streamTools env sessionId calls seen
  limitReached _ _ seen := finish_yieldEvent env _ (by simp) seen
  deliver _ _ := rfl

/-! ## The loop -/

/-- Validation looks at the messages only for their absence, and neither at the stream flag nor at
the tool results. -/
theorem validate_turnRequest {model : String} {messages messages' : List Message}
    {temperature : Option F32} {maxTokens : Option UInt32} {stream : Bool} (stream' : Bool)
    {toolResults : List ToolResult} (toolResults' : List ToolResult)
    (hmessages : messages = [] ↔ messages' = []) :
    (turnRequest model messages temperature maxTokens stream toolResults).validate =
      (turnRequest model messages' temperature maxTokens stream' toolResults').validate := by
  simp only [ModelRequest.validate, turnRequest, hmessages]
  rfl

/-- A valid request has a message. -/
theorem messages_ne_nil_of_validate {request : ModelRequest} (hvalid : request.validate = .ok ()) :
    request.messages ≠ [] := by
  intro hnil
  rw [ModelRequest.validate] at hvalid
  split at hvalid
  · cases hvalid
  · simp at hvalid

/-- Go on with the tool results, or end with the error. -/
def continueWith {α : Type} (ran : Except ChatError (List ToolResult) × Observed)
    (next : List ToolResult → Observed → Except ChatError α × Observed) :
    Except ChatError α × Observed :=
  match ran with
  | (.ok results, after) => next results after
  | (.error error, after) => (.error error, after)

/-- The request of a round, with the stream flag ignored. -/
def roundRequest (context : TurnContext) (conversation : List Message)
    (toolResults : List ToolResult) : ModelRequest :=
  turnRequest context.session.model conversation context.temperature context.maxTokens false
    toolResults

/-- What the loop of a turn comes to. -/
def ModeRun.loop {α : Type} (run : ModeRun α) (service : ChatService) (context : TurnContext) :
    (remaining : Nat) → (conversation persisted : List Message) → List ToolResult → Observed →
      Except ChatError α × Observed
  | remaining, conversation, persisted, toolResults, seen =>
      match (roundRequest context conversation toolResults).validate with
      | .error error =>
          (.error ((ChatError.ofProvider error).withPhase .requestValidation), seen)
      | .ok _ =>
          let round := run.round (roundRequest context conversation toolResults)
          let asked := seen.asked toolResults
          let commit := asked.committed context.session.id (persisted ++ [round.assistant])
          if service.hasToolRuntime && !round.toolCalls.isEmpty then
            match remaining with
            | remaining + 1 =>
                continueWith (env.afterTools context.session.id round.toolCalls asked)
                  fun results => run.loop service context remaining
                    (conversation ++ [round.assistant]) (persisted ++ [round.assistant]) results
            | 0 => run.deliver (round.result context.session.id true) commit
          else run.deliver (round.result context.session.id false) commit

variable {env} {α : Type} {mode : TurnMode α} {run : ModeRun α} {service : ChatService}
  {context : TurnContext} {remaining : Nat} {conversation persisted : List Message}
  {toolResults : List ToolResult} {seen : Observed}

/-- The end of a turn commits and delivers. -/
theorem finish_finishTurn (hmode : TurnMode.Runs env mode run) (sessionId : SessionId)
    (messages : List Message) (result : ChatTurnResult) (seen : Observed) :
    env.finish (finishTurn mode sessionId messages result) seen =
      some (run.deliver result (seen.committed sessionId messages)) := by
  have happend : env.finish (appendMessages sessionId messages) seen =
      some (.ok (), seen.committed sessionId messages) :=
    finish_orElseRaise env (.ok ()) rfl
  exact (Prog.finish_except_ok _ happend).trans (hmode.deliver _ _)

variable (env) in
/-- A request is built or refused as its validation says. -/
theorem finish_buildRequest (context : TurnContext) (streaming : Bool)
    (conversation : List Message) (toolResults : List ToolResult) (seen : Observed) :
    env.finish (liftM (buildRequest context.session.model conversation context.temperature
      context.maxTokens streaming toolResults)) seen =
      some (match (roundRequest context conversation toolResults).validate with
        | .ok _ => .ok (turnRequest context.session.model conversation context.temperature
            context.maxTokens streaming toolResults)
        | .error error => .error ((ChatError.ofProvider error).withPhase .requestValidation),
        seen) := by
  rw [buildRequest_eq, validate_turnRequest false toolResults Iff.rfl]
  rfl

/-- A round of a turn in the environment, if the rounds after it are what they come to. -/
theorem finish_turnLoop_round (hmode : TurnMode.Runs env mode run)
    (hnext : ∀ left, remaining = left + 1 → ∀ conversation persisted toolResults seen,
      env.finish (turnLoop mode service context left conversation persisted toolResults) seen =
        some (run.loop env service context left conversation persisted toolResults seen)) :
    env.finish (turnLoop mode service context remaining conversation persisted toolResults) seen =
      some (run.loop env service context remaining conversation persisted toolResults seen) := by
  have hbuild := finish_buildRequest env context mode.streaming conversation toolResults seen
  rw [turnLoop.eq_def, ModeRun.loop.eq_def]
  dsimp only
  cases hvalid : (roundRequest context conversation toolResults).validate with
  | error error =>
      rw [hvalid] at hbuild
      exact Prog.finish_except_error _ hbuild
  | ok _ =>
      rw [hvalid] at hbuild
      refine (Prog.finish_except_ok _ hbuild).trans ?_
      refine (Prog.finish_except_ok _ (hmode.askModel _ _ _)).trans ?_
      -- The two modes send the same request up to the flag for streaming, which the environment
      -- does not look at.
      rw [show plain (turnRequest context.session.model conversation context.temperature
        context.maxTokens mode.streaming toolResults) =
          roundRequest context conversation toolResults from rfl]
      dsimp only
      split
      · cases remaining with
        | zero =>
            exact (Prog.finish_except_ok _ (hmode.limitReached _ _ _)).trans
              (finish_finishTurn hmode _ _ _ _)
        | succ remaining =>
            have htools := hmode.executeTools context.session.id
              (run.round (roundRequest context conversation toolResults)).toolCalls
              (seen.asked toolResults)
            rcases hran : env.afterTools context.session.id
              (run.round (roundRequest context conversation toolResults)).toolCalls
              (seen.asked toolResults) with ⟨error | results, after⟩
            · rw [hran] at htools
              exact Prog.finish_except_error _ htools
            · rw [hran] at htools
              exact (Prog.finish_except_ok _ htools).trans (hnext remaining rfl _ _ _ _)
      · exact finish_finishTurn hmode _ _ _ _

/-- A turn in the environment comes to an end, unless its requests are not answered. -/
theorem finish_turnLoop (hmode : TurnMode.Runs env mode run) :
    env.finish (turnLoop mode service context remaining conversation persisted toolResults) seen =
      some (run.loop env service context remaining conversation persisted toolResults seen) := by
  induction remaining generalizing conversation persisted toolResults seen with
  | zero => exact finish_turnLoop_round hmode (by simp)
  | succ remaining ih =>
      refine finish_turnLoop_round hmode ?_
      rintro left hleft conversation persisted toolResults seen
      cases hleft
      exact ih

/-- What an observer sees only grows. -/
theorem handle_extends {op : ChatOp} {seen later : Observed} {answer : op.Answer}
    (h : env.handle op seen = some (answer, later)) : seen.Extends later := by
  cases op with
  | panic => cases h
  | yield event =>
      cases event with
      | turnComplete result =>
          cases h
          exact ⟨List.prefix_rfl, List.prefix_rfl⟩
      | _ =>
          cases h
          exact ⟨List.prefix_rfl, List.prefix_rfl⟩
  | _ =>
      cases h
      constructor <;> simp

/-- To extend an observation is transitive. -/
theorem Observed.Extends.trans {middle later : Observed} (h : seen.Extends middle)
    (h' : middle.Extends later) : seen.Extends later :=
  ⟨h.executed.trans h'.executed, h.sent.trans h'.sent⟩

/-- A turn only adds to what is observed. -/
theorem finish_extends {β : Type} {turn : Turn β} {ended : Except ChatError β × Observed}
    (h : env.finish turn seen = some ended) : seen.Extends ended.2 := by
  obtain ⟨outcome, later⟩ := ended
  exact Prog.finish_rel (S := ChatSig) env.handle (r := Observed.Extends)
    (fun _ => ⟨List.prefix_rfl, List.prefix_rfl⟩) Observed.Extends.trans
    (fun _ _ _ _ => handle_extends) h

/-- What is done after tools is seen with them. -/
theorem Observed.Extends.continueWith {ran : Except ChatError (List ToolResult) × Observed}
    {next : List ToolResult → Observed → Except ChatError α × Observed} (h : seen.Extends ran.2)
    (hnext : ∀ results (after : Observed), after.Extends (next results after).2) :
    seen.Extends (Chat.continueWith ran next).2 := by
  rcases ran with ⟨error | results, after⟩
  · exact h
  · exact h.trans (hnext results after)

/-- The rounds of a turn only add to what is observed. -/
theorem loop_extends (hmode : TurnMode.Runs env mode run) : seen.Extends
    (run.loop env service context remaining conversation persisted toolResults seen).2 :=
  finish_extends (finish_turnLoop hmode)

/-- A turn that asks the model sends its tool results. -/
theorem loop_sends (hmode : TurnMode.Runs env mode run)
    (hvalid : (roundRequest context conversation toolResults).validate = .ok ()) :
    (seen.asked toolResults).Extends
      (run.loop env service context remaining conversation persisted toolResults seen).2 := by
  have hcommit : ∀ messages result, (seen.asked toolResults).Extends
      (run.deliver result ((seen.asked toolResults).committed context.session.id messages)).2 :=
    fun messages result => finish_extends (finish_finishTurn hmode _ messages result _)
  rw [ModeRun.loop.eq_def]
  simp only [hvalid]
  split
  · cases remaining with
    | zero => exact hcommit _ _
    | succ remaining =>
        exact Observed.Extends.continueWith (finish_extends (hmode.executeTools _ _ _))
          fun results after => loop_extends hmode
  · exact hcommit _ _

end

/-! ## Agreement -/

/-- The whole turn and the streamed turn look the same: the same calls are executed in the same
order, the same tool results sent, the same messages appended, and the outcome is the same result
or the same error. -/
structure Agree (whole : Except ChatError ChatTurnResult × Observed)
    (streamed : Except ChatError Unit × Observed) : Prop where
  executed : whole.2.executed = streamed.2.executed
  sent : whole.2.sent = streamed.2.sent
  appended : whole.2.appended = streamed.2.appended
  outcome : match whole.1 with
    | .ok result => streamed.1 = .ok () ∧ streamed.2.delivered = some result
    | .error error => streamed.1 = .error error

/-- From this point of a turn on, the calls of every response consulted come in the order of their
ids: those that are executed, up to the first that fails, and all calls of a response that ends
the turn. A response that ends the turn finds the same conversation in both turns, and its stream
leaves its text. -/
def RoundsMatch (env : TurnEnvironment) (service : ChatService) (context : TurnContext) :
    (remaining : Nat) → (conversation streamed : List Message) → List ToolResult →
      (executed : List ToolCall) → Prop
  | remaining, conversation, streamed, toolResults, executed =>
      match (roundRequest context conversation toolResults).validate with
      | .error _ => True
      | .ok _ =>
          let response := env.complete (roundRequest context conversation toolResults)
          let other := env.complete (roundRequest context streamed toolResults)
          let calls := responseCalls response
          let text := responseText response
          let left := streamedText other (env.stream (roundRequest context streamed toolResults))
          let last := conversation = streamed ∧ left = text ∧ IdsIncrease calls
          if service.hasToolRuntime && !calls.isEmpty then
            match remaining with
            | remaining + 1 =>
                env.attempted context.session.id executed (inOrder (responseCalls other)) =
                  env.attempted context.session.id executed calls ∧
                match env.results context.session.id executed calls with
                | .ok results => RoundsMatch env service context remaining
                    (conversation ++ [⟨.assistant, text⟩]) (streamed ++ [⟨.assistant, left⟩])
                    results (executed ++ calls)
                | .error _ => True
            | 0 => last
          else last

section

variable {env : TurnEnvironment} {sessionId : SessionId} {seen : Observed}
  {calls other : List ToolCall}
  {whole : List ToolResult → Observed → Except ChatError ChatTurnResult × Observed}
  {streamed : List ToolResult → Observed → Except ChatError Unit × Observed}

/-- Two turns that deliver the results of a round agree when they commit the same messages and the
rounds are the same. -/
theorem agree_deliver_iff {round round' : Round} {limitReached limitReached' : Bool}
    {messages messages' : List Message} :
    Agree
      ((wholeRun env).deliver (round.result sessionId limitReached)
        (seen.committed sessionId messages))
      ((streamedRun env).deliver (round'.result sessionId limitReached')
        (seen.committed sessionId messages')) ↔
      messages = messages' ∧ round = round' ∧ limitReached = limitReached' := by
  constructor
  · intro h
    have hmessages : messages = messages' := by
      simpa [wholeRun, streamedRun, Observed.committed] using h.appended
    have hresult := Option.some.inj h.outcome.2
    simp only [Round.result, ChatTurnResult.mk.injEq, true_and] at hresult
    obtain ⟨htext, hcalls, hstop, husage, hlimit⟩ := hresult
    refine ⟨hmessages, ?_, hlimit.symm⟩
    cases round
    cases round'
    simp_all
  · rintro ⟨rfl, rfl, rfl⟩
    exact ⟨rfl, rfl, rfl, rfl, rfl⟩

/-- Two prefixes of one list that are equally long are equal. -/
theorem prefix_eq_of_length {α : Type} {first second all : List α} (hfirst : first <+: all)
    (hsecond : second <+: all) (hlength : first.length = second.length) : first = second :=
  (List.prefix_of_prefix_length_le hfirst hsecond hlength.le).eq_of_length hlength

/-- A later request is seen. -/
theorem Observed.Extends.sent_ne {later : Observed} {results : List ToolResult}
    (h : (seen.asked results).Extends later) : later.sent ≠ seen.sent := by
  intro hsent
  have hlength := h.sent.length_le
  rw [hsent] at hlength
  simp [Observed.asked] at hlength

/-- A turn that ends does not agree with one that runs tools. -/
theorem not_agree_deliver_tools {result : ChatTurnResult} {messages : List Message}
    (hstreamed : ∀ results (seen : Observed),
      (seen.asked results).Extends (streamed results seen).2) :
    ¬ Agree ((wholeRun env).deliver result (seen.committed sessionId messages))
      (continueWith (env.afterTools sessionId other seen) streamed) := by
  intro h
  have hsent := h.sent
  have houtcome := h.outcome.1
  rw [TurnEnvironment.afterTools] at hsent houtcome
  cases hother : env.results sessionId seen.executed other with
  | error error =>
      rw [hother] at houtcome
      cases houtcome
  | ok results =>
      rw [hother] at hsent
      exact (hstreamed results _).sent_ne hsent.symm

/-- A turn that runs tools does not agree with one that ends. -/
theorem not_agree_tools_deliver {result : ChatTurnResult} {messages : List Message}
    (hwhole : ∀ results (seen : Observed), (seen.asked results).Extends (whole results seen).2) :
    ¬ Agree (continueWith (env.afterTools sessionId calls seen) whole)
      ((streamedRun env).deliver result (seen.committed sessionId messages)) := by
  intro h
  have hsent := h.sent
  have houtcome := h.outcome
  rw [TurnEnvironment.afterTools] at hsent houtcome
  cases hcalls : env.results sessionId seen.executed calls with
  | error error =>
      rw [hcalls] at houtcome
      cases houtcome
  | ok results =>
      rw [hcalls] at hsent
      exact (hwhole results _).sent_ne hsent

/-- Two tool rounds agree exactly when they attempt the same calls and agree afterwards. -/
theorem agree_tools_iff
    (hwhole : ∀ results (seen : Observed), (seen.asked results).Extends (whole results seen).2)
    (hstreamed : ∀ results (seen : Observed),
      (seen.asked results).Extends (streamed results seen).2) :
    Agree (continueWith (env.afterTools sessionId calls seen) whole)
      (continueWith (env.afterTools sessionId other seen) streamed) ↔
      env.attempted sessionId seen.executed other =
        env.attempted sessionId seen.executed calls ∧
      match env.results sessionId seen.executed calls with
      | .ok results => Agree
          (whole results { seen with executed := seen.executed ++ calls })
          (streamed results { seen with executed := seen.executed ++ calls })
      | .error _ => True := by
  by_cases hattempted : env.attempted sessionId seen.executed other =
      env.attempted sessionId seen.executed calls
  · have hresults : env.results sessionId seen.executed other =
        env.results sessionId seen.executed calls := by
      rw [← results_attempted, hattempted, results_attempted]
    simp only [TurnEnvironment.afterTools, hattempted, hresults, true_and]
    cases hcalls : env.results sessionId seen.executed calls with
    | error error => exact iff_of_true ⟨rfl, rfl, rfl, rfl⟩ trivial
    | ok results => simp only [continueWith, (attempted_of_ok env hcalls).1]
  · refine iff_of_false (fun h => hattempted ?_) (fun h => hattempted h.1)
    have hexecuted := h.executed
    have hsent := h.sent
    simp only [TurnEnvironment.afterTools] at hexecuted hsent
    cases hcalls : env.results sessionId seen.executed calls with
    | error error =>
        cases hother : env.results sessionId seen.executed other with
        | error error' => simpa [continueWith, hcalls, hother, eq_comm] using hexecuted
        | ok results' =>
            rw [hcalls, hother] at hsent
            exact absurd hsent.symm (hstreamed results' _).sent_ne
    | ok results =>
        cases hother : env.results sessionId seen.executed other with
        | error error' =>
            rw [hcalls, hother] at hsent
            exact absurd hsent (hwhole results _).sent_ne
        | ok results' =>
            have hall := attempted_of_ok env hcalls
            have hallOther := attempted_of_ok env hother
            simp only [continueWith, hcalls, hother, hall.1, hallOther.1] at hexecuted hsent
            have hextends := hwhole results { seen with executed := seen.executed ++ calls }
            have hextendsOther := hstreamed results' { seen with
              executed := seen.executed ++ other }
            -- The requests after the round carry equally many results, so the two lists of
            -- executed calls are equally long.
            have hsame : results = results' := by
              have := prefix_eq_of_length hextends.sent (hsent ▸ hextendsOther.sent)
                (by simp [Observed.asked])
              simpa [Observed.asked] using this
            have hlength : calls.length = other.length := by
              rw [← hall.2, ← hallOther.2, hsame]
            have := prefix_eq_of_length hextends.executed (hexecuted ▸ hextendsOther.executed)
              (by simp [Observed.asked, hlength])
            rw [hall.1, hallOther.1]
            simpa [Observed.asked, eq_comm] using this

end

/-! ## The two loops -/

section

variable {env : TurnEnvironment} {service : ChatService} {context : TurnContext} {remaining : Nat}
  {conversation streamed persisted persisted' : List Message} {toolResults : List ToolResult}
  {seen : Observed}

/-- Ordering the calls keeps whether there are any. -/
theorem inOrder_isEmpty (calls : List ToolCall) : (inOrder calls).isEmpty = calls.isEmpty := by
  rw [Bool.eq_iff_iff, List.isEmpty_iff, List.isEmpty_iff, inOrder_eq_nil_iff]

/-- The streamed round of a response is the whole one when its stream leaves its text and its calls
are in order. -/
theorem streamedRound_eq_iff (response : ModelResponse) (events : List StreamEvent) :
    ChatService.roundOfResponse response = streamedRound response events ↔
      streamedText response events = responseText response ∧
        IdsIncrease (responseCalls response) := by
  rw [← inOrder_eq_self_iff]
  constructor
  · intro h
    exact ⟨(congrArg Round.assistantMessage h).symm, (congrArg Round.toolCalls h).symm⟩
  · rintro ⟨htext, hcalls⟩
    rw [streamedRound, htext, hcalls]
    rfl

variable (env context toolResults) in
/-- What ends a turn is the same in both when they have had the same conversation and its last
round is the same. -/
theorem last_round_iff (hlink : persisted = persisted' ↔ conversation = streamed) :
    let round := (wholeRun env).round (roundRequest context conversation toolResults)
    let round' := (streamedRun env).round (roundRequest context streamed toolResults)
    (persisted ++ [round.assistant] = persisted' ++ [round'.assistant] ∧ round = round') ↔
      conversation = streamed ∧
        streamedText (env.complete (roundRequest context streamed toolResults))
            (env.stream (roundRequest context streamed toolResults)) =
          responseText (env.complete (roundRequest context conversation toolResults)) ∧
        IdsIncrease
          (responseCalls (env.complete (roundRequest context conversation toolResults))) := by
  intro round round'
  constructor
  · rintro ⟨hmessages, hround⟩
    obtain rfl := hlink.mp (List.append_inj' hmessages rfl).1
    exact ⟨rfl, (streamedRound_eq_iff _ _).mp hround⟩
  · rintro ⟨rfl, hrest⟩
    have hround : round = round' := (streamedRound_eq_iff _ _).mpr hrest
    exact ⟨by rw [hlink.mpr rfl, hround], hround⟩

/-- One round of the two loops, if the rounds after it agree exactly when they match. -/
theorem agree_loop_round_iff (henv : env.SelfConsistent)
    (hlink : persisted = persisted' ↔ conversation = streamed)
    (hempty : conversation = [] ↔ streamed = [])
    (hnext : ∀ left, remaining = left + 1 → ∀ conversation streamed persisted persisted'
      toolResults seen, (persisted = persisted' ↔ conversation = streamed) →
      (conversation = [] ↔ streamed = []) →
      (Agree ((wholeRun env).loop env service context left conversation persisted toolResults seen)
        ((streamedRun env).loop env service context left streamed persisted' toolResults seen) ↔
        RoundsMatch env service context left conversation streamed toolResults seen.executed)) :
    Agree
      ((wholeRun env).loop env service context remaining conversation persisted toolResults seen)
      ((streamedRun env).loop env service context remaining streamed persisted' toolResults seen) ↔
      RoundsMatch env service context remaining conversation streamed toolResults
        seen.executed := by
  have hlast := last_round_iff env context toolResults hlink
  rw [ModeRun.loop.eq_def, ModeRun.loop.eq_def, RoundsMatch.eq_def]
  have hsame : (roundRequest context streamed toolResults).validate =
      (roundRequest context conversation toolResults).validate :=
    validate_turnRequest _ _ hempty.symm
  dsimp only at hlast ⊢
  rw [hsame]
  cases hvalid : (roundRequest context conversation toolResults).validate with
  | error error => exact iff_of_true ⟨rfl, rfl, rfl, rfl⟩ trivial
  | ok _ =>
      have hcalls : ((wholeRun env).round (roundRequest context conversation
          toolResults)).toolCalls =
            responseCalls (env.complete (roundRequest context conversation toolResults)) := rfl
      have hcalls' : ((streamedRun env).round (roundRequest context streamed
          toolResults)).toolCalls =
            inOrder (responseCalls (env.complete (roundRequest context streamed toolResults))) :=
        rfl
      -- The requests after this one are valid as well, so they send the results of the calls.
      have hlater : ∀ messages results, messages ≠ [] →
          (roundRequest context messages results).validate = .ok () := by
        intro messages results hmessages
        rw [← hvalid]
        have hconversation : conversation ≠ [] := messages_ne_nil_of_validate hvalid
        exact validate_turnRequest _ _ (by simp [hmessages, hconversation])
      have hopen : conversation = streamed →
          (inOrder (responseCalls (env.complete
            (roundRequest context streamed toolResults)))).isEmpty =
          (responseCalls (env.complete
            (roundRequest context conversation toolResults))).isEmpty := by
        rintro rfl
        exact inOrder_isEmpty _
      simp only [hcalls, hcalls']
      by_cases hwhole : (service.hasToolRuntime && !(responseCalls (env.complete
        (roundRequest context conversation toolResults))).isEmpty) = true
      · by_cases hstreamed : (service.hasToolRuntime && !(inOrder (responseCalls (env.complete
          (roundRequest context streamed toolResults)))).isEmpty) = true
        · rw [if_pos hwhole, if_pos hstreamed, if_pos hwhole]
          cases remaining with
          | zero =>
              refine agree_deliver_iff.trans (Iff.trans ?_ hlast)
              simp only [and_true]
          | succ remaining =>
              refine (agree_tools_iff
                (fun _ _ => loop_sends (runMode_runs env service) (hlater _ _ (by simp)))
                (fun _ _ => loop_sends (streamMode_runs env service henv)
                  (hlater _ _ (by simp)))).trans ?_
              refine and_congr Iff.rfl ?_
              show (match env.results context.session.id seen.executed _ with
                | .ok results => _
                | .error _ => _) ↔ _
              cases env.results context.session.id seen.executed (responseCalls (env.complete
                (roundRequest context conversation toolResults))) with
              | error error => exact Iff.rfl
              | ok results =>
                  refine hnext remaining rfl _ _ _ _ _ _ ?_ (by simp)
                  simp only [List.append_singleton_inj, hlink]
        · rw [if_pos hwhole, if_neg hstreamed, if_pos hwhole]
          cases remaining with
          | zero =>
              refine iff_of_false (fun h => ?_) (fun h => hstreamed ?_)
              · exact absurd (agree_deliver_iff.mp h).2.2 (by decide)
              · rw [hopen h.1]
                exact hwhole
          | succ remaining =>
              refine iff_of_false (not_agree_tools_deliver
                (fun _ _ => loop_sends (runMode_runs env service) (hlater _ _ (by simp))))
                (fun h => ?_)
              -- A round that runs tools attempts a call.
              obtain ⟨hruntime, hcalls⟩ := Bool.and_eq_true_iff.mp hwhole
              rw [hruntime, Bool.true_and, Bool.not_eq_true', Bool.not_eq_false,
                List.isEmpty_iff] at hstreamed
              have hattempted := h.1
              rw [hstreamed, eq_comm] at hattempted
              rw [attempted_eq_nil_iff.mp hattempted] at hcalls
              cases hcalls
      · by_cases hstreamed : (service.hasToolRuntime && !(inOrder (responseCalls (env.complete
          (roundRequest context streamed toolResults)))).isEmpty) = true
        · rw [if_neg hwhole, if_pos hstreamed, if_neg hwhole]
          refine iff_of_false ?_ (fun h => hwhole (hopen h.1 ▸ hstreamed))
          cases remaining with
          | zero => exact fun h => absurd (agree_deliver_iff.mp h).2.2 (by decide)
          | succ remaining =>
              exact not_agree_deliver_tools (fun _ _ =>
                loop_sends (streamMode_runs env service henv) (hlater _ _ (by simp)))
        · rw [if_neg hwhole, if_neg hstreamed, if_neg hwhole]
          refine agree_deliver_iff.trans (Iff.trans ?_ hlast)
          simp only [and_true]

/-- The loops of the two modes agree exactly when the rounds match. -/
theorem agree_loop_iff (henv : env.SelfConsistent)
    (hlink : persisted = persisted' ↔ conversation = streamed)
    (hempty : conversation = [] ↔ streamed = []) :
    Agree
      ((wholeRun env).loop env service context remaining conversation persisted toolResults seen)
      ((streamedRun env).loop env service context remaining streamed persisted' toolResults seen) ↔
      RoundsMatch env service context remaining conversation streamed toolResults
        seen.executed := by
  induction remaining generalizing conversation streamed persisted persisted' toolResults seen with
  | zero => exact agree_loop_round_iff henv hlink hempty (by simp)
  | succ remaining ih =>
      refine agree_loop_round_iff henv hlink hempty ?_
      intro left hleft conversation streamed persisted persisted' toolResults seen hlink hempty
      cases hleft
      exact ih hlink hempty

end

/-- Every response of the provider lists its calls in the order of their ids, and its stream
leaves its text. -/
def TurnEnvironment.Ordered (env : TurnEnvironment) : Prop :=
  ∀ request, IdsIncrease (responseCalls (env.complete request)) ∧
    streamedText (env.complete request) (env.stream request) = responseText (env.complete request)

/-- The rounds of such a provider match, whatever is asked of it. -/
theorem TurnEnvironment.Ordered.roundsMatch (h : env.Ordered) {executed : List ToolCall} :
    RoundsMatch env service context remaining conversation conversation toolResults executed := by
  induction remaining generalizing conversation toolResults executed with
  | zero =>
      obtain ⟨hordered, htext⟩ := h (roundRequest context conversation toolResults)
      rw [RoundsMatch.eq_def]
      dsimp only
      split
      · trivial
      · split <;> exact ⟨rfl, htext, hordered⟩
  | succ remaining ih =>
      obtain ⟨hordered, htext⟩ := h (roundRequest context conversation toolResults)
      rw [RoundsMatch.eq_def]
      dsimp only
      split
      · trivial
      · split
        · refine ⟨by rw [(inOrder_eq_self_iff _).mpr hordered], ?_⟩
          split
          · rw [htext]
            exact ih
          · trivial
        · exact ⟨rfl, htext, hordered⟩

/-! ## Whole turns -/

/-- The context that `prepare_turn` makes in the environment. -/
def turnContext (env : TurnEnvironment) (service : ChatService) (request : ChatTurnRequest) :
    TurnContext :=
  let systemMessages : List Message := match request.session.systemPrompt with
    | some systemPrompt => [⟨.system, systemPrompt⟩]
    | none => []
  { session := request.session, userMessage := ⟨.user, request.userInput⟩
    conversationMessages := systemMessages ++ env.prior request.session.id ++
      [⟨.user, request.userInput⟩]
    temperature := request.options.temperature.or service.policy.defaultTemperature
    maxTokens := request.options.maxTokens.or service.policy.defaultMaxTokens }

/-- The preparation of a turn. -/
theorem finish_prepareTurn (env : TurnEnvironment) (service : ChatService)
    (request : ChatTurnRequest) (seen : Observed) :
    env.finish (service.prepareTurn request) seen =
      some (if trim request.userInput = "" then
        .error (.invalidRequest "user_input must not be empty")
      else .ok (turnContext env service request), seen) := by
  rw [ChatService.prepareTurn]
  split
  · rfl
  · have hload : env.finish (loadMessages request.session.id) seen =
        some (.ok (env.prior request.session.id), seen) :=
      finish_orElseRaise env (.ok _) rfl
    exact Prog.finish_except_ok _ hload

/-- `run_turn` of a turn, with its observation. -/
def wholeTurn (env : TurnEnvironment) (service : ChatService) (request : ChatTurnRequest) :
    Option (Except ChatError ChatTurnResult × Observed) :=
  env.finish (service.runTurn { request with options.stream := false }) {}

/-- `stream_turn` of the same turn, with its observation. -/
def streamedTurn (env : TurnEnvironment) (service : ChatService) (request : ChatTurnRequest) :
    Option (Except ChatError Unit × Observed) :=
  env.finish (service.streamTurnToEnd { request with options.stream := true }) {}

/-- The responses that the turn consults, whole and streamed, match as far as it looks at them. -/
def TurnMatches (env : TurnEnvironment) (service : ChatService) (request : ChatTurnRequest) :
    Prop :=
  let context := turnContext env service request
  trim request.userInput ≠ "" →
    RoundsMatch env service context service.policy.maxToolRoundTrips
      context.conversationMessages context.conversationMessages [] []

/-- Against a self-consistent provider both turns come to an end, and they agree exactly when the
responses match. -/
theorem turns_agree_iff {env : TurnEnvironment} (henv : env.SelfConsistent)
    (service : ChatService) (request : ChatTurnRequest) :
    ∃ whole streamed, wholeTurn env service request = some whole ∧
      streamedTurn env service request = some streamed ∧
      (Agree whole streamed ↔ TurnMatches env service request) := by
  have hprepare := fun stream => finish_prepareTurn env service
    { request with options.stream := stream } {}
  rw [wholeTurn, streamedTurn, ChatService.runTurn_eq, ChatService.streamTurnToEnd_eq,
    if_neg Bool.false_ne_true]
  by_cases hinput : trim request.userInput = ""
  · simp only [hinput, if_true] at hprepare
    refine ⟨_, _, Prog.finish_except_error _ (hprepare false),
      Prog.finish_except_error _ (hprepare true), ?_⟩
    exact iff_of_true ⟨rfl, rfl, rfl, rfl⟩ fun h => absurd hinput h
  · simp only [hinput, if_false] at hprepare
    refine ⟨_, _, (Prog.finish_except_ok _ (hprepare false)).trans
        (finish_turnLoop (runMode_runs env service)),
      (Prog.finish_except_ok _ (hprepare true)).trans
        (finish_turnLoop (streamMode_runs env service henv)), ?_⟩
    refine (agree_loop_iff henv (iff_of_true rfl rfl) Iff.rfl).trans ?_
    exact ⟨fun h _ => h, fun h => h hinput⟩

/-! ## Responses whose calls are out of order, and streams with another text -/

/-- A stream may deliver a response as one text delta and the response. -/
theorem streamsResponse_text (response : ModelResponse) :
    StreamsResponse response
      [.textDelta (responseText response), .responseComplete response] where
  shape := ⟨[.textDelta (responseText response)], none, rfl, by simp [deltaText], by
    simp [deltaText], by simp [deltaCall, List.filterMap_cons]⟩

/-- A stream with one delta has its text. -/
theorem streamedText_text (response : ModelResponse) :
    streamedText response [.textDelta (responseText response), .responseComplete response] =
      responseText response := by
  rw [streamedText]
  split
  · rename_i hempty
    rw [hempty]
    rfl
  · rfl

/-- A model that asks for the given tool calls after the user message and then answers. -/
def answerAfter (calls : List ToolCall) (request : ModelRequest) : ModelResponse :=
  { provider := .openAi, model := request.model
    output := if request.messages.length = 1 then calls.map .toolCall
      else [.message ⟨.assistant, "done"⟩]
    stopReason := .endTurn, usage := {} }

/-- The environment of that model, whose tools echo the id of the call. -/
def answeringEnvironment (calls : List ToolCall) : TurnEnvironment :=
  { complete := answerAfter calls
    stream := fun request => [.textDelta (responseText (answerAfter calls request)),
      .responseComplete (answerAfter calls request)]
    execute := fun _ call _ => .ok ⟨call.id, "result of " ++ call.id⟩
    prior := fun _ => [] }

/-- The environment of the demo streams what it completes. -/
theorem answeringEnvironment_selfConsistent (calls : List ToolCall) :
    (answeringEnvironment calls).SelfConsistent :=
  fun _ => streamsResponse_text _

-- A message of the stream puts its text where the response has none.
example :
    let ghost : TurnEnvironment := { answeringEnvironment [] with
      stream := fun request => [.messageComplete ⟨.assistant, "ghost"⟩,
        .responseComplete (answerAfter [] request)] }
    (wholeTurn ghost ⟨.default, true⟩ helloTurn).map (·.2.appended) =
        some [(⟨"session"⟩, [⟨.user, "hello"⟩, ⟨.assistant, ""⟩])] ∧
      (streamedTurn ghost ⟨.default, true⟩ helloTurn).map (·.2.appended) =
        some [(⟨"session"⟩, [⟨.user, "hello"⟩, ⟨.assistant, "ghost"⟩])] := by
  decide +kernel

/-- Two calls in the order of their ids: both turns execute them and agree. -/
theorem turns_agree_iff_ordered_calls :
    let calls : List ToolCall := [⟨"call_1", "lookup", "{}"⟩, ⟨"call_2", "lookup", "{}"⟩]
    ∃ whole streamed,
      wholeTurn (answeringEnvironment calls) ⟨.default, true⟩ helloTurn = some whole ∧
      streamedTurn (answeringEnvironment calls) ⟨.default, true⟩ helloTurn = some streamed ∧
      whole.2.executed = calls ∧ Agree whole streamed := by
  intro calls
  have hordered : (answeringEnvironment calls).Ordered := by
    intro request
    refine ⟨?_, streamedText_text _⟩
    show IdsIncrease (collectOutput (ite _ _ _)).2
    split
    · show IdsIncrease calls
      exact (inOrder_eq_self_iff calls).mp (by decide +kernel)
    · exact .nil
  obtain ⟨whole, streamed, hwhole, hstreamed, hagree⟩ :=
    turns_agree_iff (answeringEnvironment_selfConsistent calls) ⟨.default, true⟩ helloTurn
  have hexecuted : (wholeTurn (answeringEnvironment calls) ⟨.default, true⟩ helloTurn).map
      (·.2.executed) = some calls := by decide +kernel
  rw [hwhole] at hexecuted
  exact ⟨whole, streamed, hwhole, hstreamed, Option.some.inj hexecuted,
    hagree.mpr fun _ => hordered.roundsMatch⟩

/-- Calls that a response lists against the order of their ids are executed in different orders by
the two turns. -/
theorem turns_disagree_on_reversed_calls :
    let calls : List ToolCall := [⟨"call_2", "lookup", "{}"⟩, ⟨"call_1", "lookup", "{}"⟩]
    (answeringEnvironment calls).SelfConsistent ∧
      ∀ whole streamed,
        wholeTurn (answeringEnvironment calls) ⟨.default, true⟩ helloTurn = some whole →
        streamedTurn (answeringEnvironment calls) ⟨.default, true⟩ helloTurn = some streamed →
        ¬ Agree whole streamed := by
  intro calls
  refine ⟨answeringEnvironment_selfConsistent _, fun whole streamed hwhole hstreamed h => ?_⟩
  have hdiffer : (wholeTurn (answeringEnvironment calls) ⟨.default, true⟩ helloTurn).map
        (·.2.executed) ≠
      (streamedTurn (answeringEnvironment calls) ⟨.default, true⟩ helloTurn).map
        (·.2.executed) := by decide +kernel
  rw [hwhole, hstreamed] at hdiffer
  exact hdiffer (congrArg some h.executed)

end Fiddlesticks.Chat
