import Fiddlesticks.Chat.TurnLoop

/-!
# What a turn does, event by event

`TurnLog` is what the history of a turn has amounted to so far: the text of each model round, the
results of the tool rounds and the commits. `TurnLog.Allows` says which operations a turn may issue
at that point. Both modes of the turn loop keep to it (`runTurn_obeys`, `streamTurn_obeys`).
-/

namespace Fiddlesticks.Chat

open Effect Prog Provider Tooling

/-! ## The log of a turn -/

/-- What the events of a turn have amounted to. A tool round lasts from a model answer to the
next one; `lastResults` are the results of the current round. -/
structure TurnLog where
  roundTexts : List String := []
  toolRounds : Nat := 0
  earlierResults : List ToolResult := []
  lastResults : List ToolResult := []
  commits : List (SessionId × List Message) := []

/-- The round a provider stream stands for when it ends without an error. -/
def consumed (round : StreamRound) (events : ProviderStream) : StreamRound :=
  events.foldl (fun round event => match event with
    | .ok event => round.update event
    | .error _ => round) round

namespace TurnLog

/-- The model has answered with a text; the tool round before it, if any, is over. -/
def answered (log : TurnLog) (text : String) : TurnLog :=
  { log with
    roundTexts := log.roundTexts ++ [text]
    toolRounds := if log.lastResults = [] then log.toolRounds else log.toolRounds + 1
    earlierResults := log.earlierResults ++ log.lastResults
    lastResults := [] }

/-- What an event adds to the log. -/
def record (log : TurnLog) : Event ChatSig → TurnLog
  | ⟨.complete _, .ok response⟩ => log.answered (collectOutput response.output).1
  | ⟨.stream _, .ok events⟩ => log.answered (consumed {} events).assistantText
  | ⟨.execute _ _, .ok result⟩ =>
      { log with lastResults := log.lastResults ++ [⟨result.toolCallId, result.output⟩] }
  | ⟨.appendMessages sessionId messages, .ok ()⟩ =>
      { log with commits := log.commits ++ [(sessionId, messages)] }
  | _ => log

/-- The block a turn commits: the user message and one assistant message for each model round. -/
def block (request : ChatTurnRequest) (log : TurnLog) : List Message :=
  ⟨.user, request.userInput⟩ :: log.roundTexts.map (⟨.assistant, ·⟩)

/-- The operations that a turn may issue at this point of its log. Model requests carry the
results of the last tool round, the only commit is the block of all rounds, and `TurnComplete`
comes after it. -/
def Allows (request : ChatTurnRequest) (log : TurnLog) : ChatOp → Prop
  | .complete modelRequest => modelRequest.toolResults = log.lastResults
  | .stream modelRequest => modelRequest.toolResults = log.lastResults
  | .appendMessages sessionId messages =>
      sessionId = request.session.id ∧ messages = log.block request ∧ log.commits = [] ∧
        log.roundTexts.length = log.toolRounds + 1
  | .yield (.turnComplete _) => log.commits ≠ []
  | _ => True

end TurnLog

/-- The log of a history. -/
def turnLog (h : History ChatSig) : TurnLog :=
  h.foldl TurnLog.record {}

/-- Nothing is logged at first. -/
@[simp] theorem turn_log_nil : turnLog [] = {} := rfl

/-- The log records event by event. -/
@[simp] theorem turn_log_snoc (h : History ChatSig) (e : Event ChatSig) :
    turnLog (h ++ [e]) = (turnLog h).record e := by
  simp [turnLog]

/-- The guard on the events of a turn. -/
abbrev Lawful (request : ChatTurnRequest) (h : History ChatSig) (e : Event ChatSig) : Prop :=
  (turnLog h).Allows request e.op

/-- A turn that returns has committed once, and one that fails has not. -/
def Committed {α : Type} (h : History ChatSig) : Except ChatError α → Prop
  | .ok _ => (turnLog h).commits.length = 1
  | .error _ => (turnLog h).commits = []

/-! ## Single operations -/

section

variable {request : ChatTurnRequest} {h : History ChatSig}

/-- An operation of the turn obeys when it is allowed and every answer is as stated. -/
theorem ask_obeys (op : ChatOp) {G : History ChatSig → Event ChatSig → Prop}
    {Q : History ChatSig → op.Answer → Prop}
    (hanswer : ∀ answer, G h ⟨op, answer⟩ ∧ Q (h ++ [⟨op, answer⟩]) answer) :
    Obeys G Q h (ask op) :=
  (obeys_call _ _).mpr fun answer => ⟨(hanswer answer).1, (obeys_pure _).mpr (hanswer answer).2⟩

/-- Go on from an outcome with its error converted. -/
theorem orElseRaise_obeys {ε α : Type} {convert : ε → ChatError}
    {program : Prog ChatSig (Except ε α)} {G : History ChatSig → Event ChatSig → Prop}
    {Q : History ChatSig → Except ε α → Prop} {R : History ChatSig → Except ChatError α → Prop}
    (hprogram : Obeys G Q h program) (hok : ∀ h' value, Q h' (.ok value) → R h' (.ok value))
    (herror : ∀ h' error, Q h' (.error error) → R h' (.error (convert error))) :
    Obeys G R h (orElseRaise convert program).run := by
  refine obeys_seq hprogram fun h' result hresult => ?_
  cases result with
  | ok value => exact (obeys_pure _).mpr (hok h' value hresult)
  | error error => exact (obeys_pure _).mpr (herror h' error hresult)

/-- Yielding an event obeys when it is allowed here. -/
theorem yieldEvent_obeys_iff {event : ChatEvent} {G : History ChatSig → Event ChatSig → Prop}
    {Q : History ChatSig → Except ChatError Unit → Prop} :
    Obeys G Q h (yieldEvent event).run ↔
      G h ⟨.yield event, ()⟩ ∧ Q (h ++ [⟨.yield event, ()⟩]) (.ok ()) := by
  change Obeys G Q h (.call (.yield event) fun answer => .pure (.ok answer)) ↔ _
  rw [obeys_call]
  exact ⟨fun h => by simpa using h (), fun h _ => by simpa using h⟩

/-- Events other than `TurnComplete` may be yielded at any point. -/
theorem yieldEvent_obeys {event : ChatEvent} (hevent : ∀ result, event ≠ .turnComplete result) :
    Obeys (Lawful request) (fun h' result => turnLog h' = turnLog h ∧ result = .ok ()) h
      (yieldEvent event).run := by
  rw [yieldEvent_obeys_iff]
  refine ⟨?_, by simp [TurnLog.record], rfl⟩
  cases event with
  | turnComplete result => exact absurd rfl (hevent result)
  | _ => trivial

/-- A tool call adds its result. -/
theorem execute_obeys {call : ToolCall} {context : ToolExecutionContext} :
    Obeys (Lawful request) (fun h' result => match result with
      | .ok result => turnLog h' = { turnLog h with
          lastResults := (turnLog h).lastResults ++ [⟨result.toolCallId, result.output⟩] }
      | .error _ => turnLog h' = turnLog h) h (execute call context).run := by
  refine orElseRaise_obeys (Q := fun h' result => turnLog h' = (turnLog h).record
    ⟨.execute call context, result⟩) ?_ (fun _ _ hlog => hlog) (fun _ _ hlog => hlog)
  exact ask_obeys (.execute call context) fun answer => ⟨trivial, turn_log_snoc _ _⟩

/-- The postcondition of asking the model: its answer is in the log, and failures add nothing. -/
abbrev Asked {α : Type} (log : TurnLog) (text : α → String) :
    History ChatSig → Except ProviderError α → Prop :=
  Retried (fun h => turnLog h = log) (fun h value => turnLog h = log.answered (text value))

/-- The operations of the retry loop itself: hooks and delays. -/
def ChatOp.isRetry : ChatOp → Bool
  | .hook _ | .sleep _ => true
  | _ => false

/-- Retries with the hooks and delays of a turn. An invariant that these and failing attempts keep
holds when the retries end in an error, and a successful attempt decides what holds otherwise. -/
theorem retries_obey {α : Type} {provider : ProviderId} {operation : String} {policy : RetryPolicy}
    {execute : Prog ChatSig (Except ProviderError α)} {G : History ChatSig → Event ChatSig → Prop}
    {I : History ChatSig → Prop} {R : History ChatSig → α → Prop}
    (hI : ∀ h e, e.op.isRetry → I h → G h e ∧ I (h ++ [e]))
    (hR : ∀ h e value, e.op.isRetry → R h value → G h e ∧ R (h ++ [e]) value)
    (hexecute : ∀ h', I h' → Obeys G (Retried I R) h' execute) (hinit : I h) :
    Obeys G (Retried I R) h
      (executeWithRetry (fun event => ask (.hook event)) (fun delay => ask (.sleep delay))
        provider operation policy (fun _ => execute)) := by
  refine executeWithRetry_obeys ?_ ?_ ?_ (fun h' _ => hexecute h') hinit
  · exact fun h' event hinv => ask_obeys (.hook event) fun answer => hI h' _ rfl hinv
  · exact fun h' attempts value hinv => ask_obeys (.hook _) fun answer => hR h' _ value rfl hinv
  · exact fun h' delay hinv => ask_obeys (.sleep delay) fun answer => hI h' _ rfl hinv

/-- Retries over a log that hooks, delays and failing attempts leave as it is. -/
theorem retries_keep {L α : Type} {log : History ChatSig → L} {after : α → L}
    {provider : ProviderId} {operation : String} {policy : RetryPolicy}
    {attempt : Prog ChatSig (Except ProviderError α)} {G : History ChatSig → Event ChatSig → Prop}
    (hhook : ∀ h' event answer, (log h' = log h ∨ ∃ value, log h' = after value) →
      G h' ⟨.hook event, answer⟩ ∧ log (h' ++ [⟨.hook event, answer⟩]) = log h')
    (hsleep : ∀ h' delay answer, (log h' = log h ∨ ∃ value, log h' = after value) →
      G h' ⟨.sleep delay, answer⟩ ∧ log (h' ++ [⟨.sleep delay, answer⟩]) = log h')
    (hattempt : ∀ h', log h' = log h → Obeys G
      (Retried (fun h'' => log h'' = log h) fun h'' value => log h'' = after value) h' attempt) :
    Obeys G (Retried (fun h' => log h' = log h) fun h' value => log h' = after value) h
      (executeWithRetry (fun event => ask (.hook event)) (fun delay => ask (.sleep delay))
        provider operation policy (fun _ => attempt)) := by
  have hsilent : ∀ h' (e : Event ChatSig), e.op.isRetry →
      (log h' = log h ∨ ∃ value, log h' = after value) → G h' e ∧ log (h' ++ [e]) = log h' := by
    rintro h' ⟨op, answer⟩ hop hlog
    cases op with
    | hook event => exact hhook h' event answer hlog
    | sleep delay => exact hsleep h' delay answer hlog
    | _ => cases hop
  refine retries_obey (fun h' e hop hlog => ?_) (fun h' e value hop hlog => ?_) hattempt rfl
  · obtain ⟨hallowed, hsame⟩ := hsilent h' e hop (.inl hlog)
    exact ⟨hallowed, hsame.trans hlog⟩
  · obtain ⟨hallowed, hsame⟩ := hsilent h' e hop (.inr ⟨value, hlog⟩)
    exact ⟨hallowed, hsame.trans hlog⟩

/-- Asking the model with retries adds what the successful attempt adds. -/
theorem retry_obeys {α : Type} {provider : ProviderId} {operation : String} {policy : RetryPolicy}
    {execute : Prog ChatSig (Except ProviderError α)} {text : α → String}
    (hexecute : ∀ h', turnLog h' = turnLog h →
      Obeys (Lawful request) (Asked (turnLog h) text) h' execute) :
    Obeys (Lawful request) (Asked (turnLog h) text) h
      (executeWithRetry (fun event => ask (.hook event)) (fun delay => ask (.sleep delay))
        provider operation policy (fun _ => execute)) :=
  retries_keep (fun _ _ _ _ => ⟨trivial, turn_log_snoc _ _⟩)
    (fun _ _ _ _ => ⟨trivial, turn_log_snoc _ _⟩) hexecute

/-! ## Tools and streams -/

/-- The postcondition of running tools: every call adds its result. -/
def ToolsRun (log : TurnLog) (calls : List ToolCall) (h : History ChatSig) :
    Except ChatError (List ToolResult) → Prop
  | .ok results => results.length = calls.length ∧
      turnLog h = { log with lastResults := log.lastResults ++ results }
  | .error _ => (turnLog h).commits = log.commits

/-- One more result in front of those of the later calls. -/
theorem ToolsRun.cons {log : TurnLog} {call : ToolCall} {calls : List ToolCall}
    {result : ToolResult} {results : List ToolResult}
    (hrest : ToolsRun { log with lastResults := log.lastResults ++ [result] } calls h
      (.ok results)) : ToolsRun log (call :: calls) h (.ok (result :: results)) := by
  obtain ⟨hlength, hlog⟩ := hrest
  exact ⟨by simp [hlength], by simp [hlog]⟩

/-- `run_turn` runs the tools of a round lawfully. -/
theorem executeTools_obeys (sessionId : SessionId) (calls : List ToolCall) :
    Obeys (Lawful request) (ToolsRun (turnLog h) calls) h
      (ChatService.executeTools sessionId calls).run := by
  induction calls generalizing h with
  | nil => simp [ChatService.executeTools, ToolsRun]
  | cons call calls ih =>
      rw [ChatService.executeTools]
      refine obeys_except_seq execute_obeys ?_ (fun h' error hlog => congrArg _ hlog)
      intro h' result hlog
      refine obeys_except_seq ih ?_ ?_
      · intro h'' results hresults
        rw [hlog] at hresults
        exact (obeys_except_pure _).mpr hresults.cons
      · intro h'' error herror
        simpa [ToolsRun, hlog] using herror

/-- So does `stream_turn`. -/
theorem streamTools_obeys (sessionId : SessionId) (calls : List ToolCall) :
    Obeys (Lawful request) (ToolsRun (turnLog h) calls) h
      (ChatService.streamTools sessionId calls).run := by
  induction calls generalizing h with
  | nil => simp [ChatService.streamTools, ToolsRun]
  | cons call calls ih =>
      rw [ChatService.streamTools]
      refine obeys_except_seq (yieldEvent_obeys (by simp)) ?_ (by simp)
      intro h' _ hstarted
      refine obeys_except_seq execute_obeys ?_ ?_
      · intro h'' result hlog
        refine obeys_except_seq (yieldEvent_obeys (by simp)) ?_ (by simp)
        intro h'' _ hfinished
        refine obeys_except_seq ih ?_ ?_
        · intro h'' results hresults
          rw [hfinished.1, hlog, hstarted.1] at hresults
          exact (obeys_except_pure _).mpr hresults.cons
        · intro h'' error herror
          simpa [ToolsRun, hfinished.1, hlog, hstarted.1] using herror
      · intro h'' error hlog
        simpa [ToolsRun, hstarted.1] using congrArg TurnLog.commits hlog

/-- No provider event is passed on as `TurnComplete`. -/
theorem chatEvent_ne_turnComplete {event : StreamEvent} {yielded : ChatEvent}
    (h : chatEvent event = some yielded) (result : ChatTurnResult) :
    yielded ≠ .turnComplete result := by
  rintro rfl
  cases event with
  | messageComplete message =>
      rw [chatEvent] at h
      split at h <;> cases h
  | _ => cases h

/-- Consuming a stream over a log that its events leave as it is ends in the round that the stream
stands for. -/
theorem consumeEvents_keep {L : Type} {log : History ChatSig → L}
    {G : History ChatSig → Event ChatSig → Prop}
    (hyield : ∀ h' event yielded, chatEvent event = some yielded → log h' = log h →
      Obeys G (fun h'' result => log h'' = log h' ∧ result = .ok ()) h' (yieldEvent yielded).run)
    (round : StreamRound) (events : ProviderStream) :
    Obeys G (fun h' result => log h' = log h ∧
        ∀ final, result = .ok final → final = consumed round events) h
      (consumeEvents round events).run := by
  suffices hfrom : ∀ h', log h' = log h → Obeys G (fun h'' result => log h'' = log h ∧
      ∀ final, result = .ok final → final = consumed round events) h'
      (consumeEvents round events).run from hfrom h rfl
  induction events generalizing round with
  | nil => simp [consumeEvents, consumed, eq_comm]
  | cons event events ih =>
      intro h' hlog
      cases event with
      | error error => simp [consumeEvents, hlog]
      | ok event =>
          rw [consumeEvents]
          cases hevent : chatEvent event with
          | none => exact ih (round.update event) h' hlog
          | some yielded =>
              exact obeys_except_seq (hyield h' event yielded hevent hlog)
                (fun h'' _ hsame => ih (round.update event) h'' (hsame.1.trans hlog)) (by simp)

/-- Consuming a stream adds nothing to the log, and ends in the round the stream stands for. -/
theorem consumeEvents_obeys (request : ChatTurnRequest) (round : StreamRound)
    (events : ProviderStream) :
    Obeys (Lawful request) (fun h' result => turnLog h' = turnLog h ∧
        ∀ final, result = .ok final → final = consumed round events) h
      (consumeEvents round events).run :=
  consumeEvents_keep
    (fun _ _ _ hevent _ => yieldEvent_obeys (chatEvent_ne_turnComplete hevent)) round events

/-! ## The loop -/

/-- What the parts of a mode may do to the log. -/
structure TurnMode.Keeps {α : Type} (mode : TurnMode α) (request : ChatTurnRequest) : Prop where
  askModel : ∀ h provider modelRequest,
    modelRequest.toolResults = (turnLog h).lastResults →
    Obeys (Lawful request) (fun h' result => match result with
      | .ok round => turnLog h' = (turnLog h).answered round.assistantMessage
      | .error _ => (turnLog h').commits = (turnLog h).commits) h
      (mode.askModel provider modelRequest).run
  executeTools : ∀ h sessionId calls,
    Obeys (Lawful request) (ToolsRun (turnLog h) calls) h (mode.executeTools sessionId calls).run
  limitReached : ∀ h maxRoundTrips pendingToolCalls,
    Obeys (Lawful request) (fun h' result => turnLog h' = turnLog h ∧ result = .ok ()) h
      (mode.limitReached maxRoundTrips pendingToolCalls).run
  deliver : ∀ h result, (turnLog h).commits.length = 1 →
    Obeys (Lawful request) Committed h (mode.deliver result).run

/-- The log of a turn that is about to ask the model. -/
structure TurnLog.Asking (request : ChatTurnRequest) (log : TurnLog) (persisted : List Message)
    (toolResults : List ToolResult) : Prop where
  persisted : persisted = log.block request
  toolResults : toolResults = log.lastResults
  commits : log.commits = []
  rounds : log.roundTexts.length =
    if log.lastResults = [] then log.toolRounds else log.toolRounds + 1

/-- After a round that runs tools the turn is about to ask again. -/
theorem TurnLog.Asking.next {log : TurnLog} {persisted : List Message}
    {toolResults results : List ToolResult} (hlog : log.Asking request persisted toolResults)
    (hresults : results ≠ []) (text : String) :
    { log.answered text with lastResults := results }.Asking request
      (persisted ++ [(⟨.assistant, text⟩ : Message)]) results where
  persisted := by simp [hlog.persisted, TurnLog.block, TurnLog.answered]
  toolResults := rfl
  commits := hlog.commits
  rounds := by
    have := hlog.rounds
    simp only [TurnLog.answered, List.length_append, List.length_singleton, hresults, if_false]
    omega

/-- The commit of a turn is allowed and brings the turn to its end. -/
theorem finish_obeys {α : Type} {mode : TurnMode α} (hmode : mode.Keeps request) {log : TurnLog}
    {persisted : List Message} {toolResults : List ToolResult}
    (hlog : log.Asking request persisted toolResults) (text : String)
    (hturn : turnLog h = log.answered text) (result : ChatTurnResult) :
    Obeys (Lawful request) Committed h (do
      appendMessages request.session.id (persisted ++ [⟨.assistant, text⟩])
      mode.deliver result : Turn α).run := by
  have hallowed : (turnLog h).Allows request
      (.appendMessages request.session.id (persisted ++ [⟨.assistant, text⟩])) := by
    have hrounds := hlog.rounds
    simp only [TurnLog.Allows, hturn, TurnLog.answered, TurnLog.block, hlog.persisted,
      hlog.commits, List.length_append, List.length_singleton, List.map_append, List.cons_append,
      List.map_cons, List.map_nil]
    exact ⟨trivial, trivial, trivial, by omega⟩
  have hcommit : Obeys (Lawful request) (fun h' result => match result with
      | .ok _ => (turnLog h').commits.length = 1
      | .error _ => (turnLog h').commits = []) h
      (appendMessages request.session.id (persisted ++ [⟨.assistant, text⟩])).run := by
    refine orElseRaise_obeys (Q := fun h' result => turnLog h' = (turnLog h).record
      ⟨.appendMessages request.session.id (persisted ++ [⟨.assistant, text⟩]), result⟩) ?_ ?_ ?_
    · exact ask_obeys (.appendMessages _ _) fun answer => ⟨hallowed, turn_log_snoc _ _⟩
    · intro h' value hlog'
      simp [hlog', TurnLog.record, hturn, TurnLog.answered, hlog.commits]
    · intro h' error hlog'
      simp [hlog', TurnLog.record, hturn, TurnLog.answered, hlog.commits]
  exact obeys_except_seq hcommit (fun h' _ hdone => hmode.deliver h' result hdone)
    (fun h' _ hfailed => hfailed)

/-- A request that `build_request` accepts carries the given tool results. -/
theorem buildRequest_toolResults {model : String} {messages : List Message}
    {temperature : Option F32} {maxTokens : Option UInt32} {stream : Bool}
    {toolResults : List ToolResult} {modelRequest : ModelRequest}
    (h : buildRequest model messages temperature maxTokens stream toolResults =
      .ok modelRequest) : modelRequest.toolResults = toolResults := by
  rw [buildRequest_eq] at h
  split at h <;> cases h
  rfl

/-- A request that is not built fails in its validation. -/
theorem buildRequest_phase {model : String} {messages : List Message}
    {temperature : Option F32} {maxTokens : Option UInt32} {stream : Bool}
    {toolResults : List ToolResult} {error : ChatError}
    (h : buildRequest model messages temperature maxTokens stream toolResults = .error error) :
    error.phase = some .requestValidation := by
  rw [buildRequest_eq] at h
  split at h <;> cases h
  rfl

/-- One round of the turn loop keeps to its log if the rounds after it do. -/
theorem turnLoop_round_obeys {α : Type} {mode : TurnMode α} (hmode : mode.Keeps request)
    {service : ChatService} {context : TurnContext} (hsession : context.session = request.session)
    {remaining : Nat} {conversation persisted : List Message} {toolResults : List ToolResult}
    (hlog : (turnLog h).Asking request persisted toolResults)
    (hnext : ∀ left, remaining = left + 1 → ∀ h conversation persisted toolResults,
      (turnLog h).Asking request persisted toolResults → Obeys (Lawful request) Committed h
        (turnLoop mode service context left conversation persisted toolResults).run) :
    Obeys (Lawful request) Committed h
      (turnLoop mode service context remaining conversation persisted toolResults).run := by
  rw [turnLoop.eq_def, obeys_except_bind, obeys_except_lift]
  split
  · rename_i modelRequest hrequest
    have hresults := buildRequest_toolResults hrequest
    refine obeys_except_seq (hmode.askModel _ _ _ (hresults.trans hlog.toolResults)) ?_
      (fun h' error hcommits => hcommits.trans hlog.commits)
    intro h' round hround
    rw [hsession]
    split
    · rename_i htools
      cases remaining with
      | zero =>
          refine obeys_except_seq (hmode.limitReached _ _ _) ?_ (by simp)
          intro h'' _ hlimit
          exact finish_obeys hmode hlog _ (hlimit.1.trans hround) _
      | succ left =>
          refine obeys_except_seq (hmode.executeTools _ _ _) ?_ ?_
          · intro h'' results hran
            have hnonempty : results ≠ [] := by
              rintro rfl
              have hempty := List.eq_nil_of_length_eq_zero hran.1.symm
              simp [hempty] at htools
            have hlog' : turnLog h'' =
                { (turnLog h).answered round.assistantMessage with lastResults := results } := by
              simpa [hround, TurnLog.answered] using hran.2
            refine hnext left rfl h'' _ _ _ ?_
            rw [hlog']
            exact hlog.next hnonempty _
          · intro h'' error herror
            exact (herror.trans (congrArg TurnLog.commits hround)).trans hlog.commits
    · exact finish_obeys hmode hlog _ hround _
  · exact hlog.commits

/-- The turn loop keeps to its log, whatever its mode. -/
theorem turnLoop_obeys {α : Type} {mode : TurnMode α} (hmode : mode.Keeps request)
    {service : ChatService} {context : TurnContext} (hsession : context.session = request.session)
    (remaining : Nat) {conversation persisted : List Message} {toolResults : List ToolResult}
    (hlog : (turnLog h).Asking request persisted toolResults) :
    Obeys (Lawful request) Committed h
      (turnLoop mode service context remaining conversation persisted toolResults).run := by
  induction remaining generalizing h conversation persisted toolResults with
  | zero => exact turnLoop_round_obeys hmode hsession hlog (by simp)
  | succ remaining ih =>
      refine turnLoop_round_obeys hmode hsession hlog ?_
      rintro left hleft h conversation persisted toolResults hlog
      cases hleft
      exact ih hlog

/-! ## The two modes -/

/-- `run_turn` asks for whole responses. -/
theorem runMode_keeps (service : ChatService) : service.runMode.Keeps request where
  askModel h provider modelRequest hresults := by
    have hask : Obeys (Lawful request)
        (Asked (turnLog h) fun response => (collectOutput response.output).1) h
        (executeWithRetry (fun event => ask (.hook event)) (fun delay => ask (.sleep delay))
          provider "complete" service.policy.providerRetryPolicy
          (fun _ => ask (.complete modelRequest))) := by
      refine retry_obeys fun h' hlog => ask_obeys (.complete modelRequest) fun answer => ?_
      refine ⟨hresults.trans (congrArg TurnLog.lastResults hlog.symm), ?_⟩
      cases answer <;> simp [Retried, TurnLog.record, hlog]
    refine obeys_except_seq (orElseRaise_obeys hask (R := fun h' result => match result with
      | .ok response => turnLog h' = (turnLog h).answered (collectOutput response.output).1
      | .error _ => turnLog h' = turnLog h) (fun _ _ hlog => hlog) (fun _ _ hlog => hlog)) ?_ ?_
    · exact fun h' response hlog => (obeys_except_pure _).mpr hlog
    · exact fun h' error hlog => congrArg TurnLog.commits hlog
  executeTools h sessionId calls := executeTools_obeys sessionId calls
  limitReached h _ _ := (obeys_except_pure _).mpr ⟨rfl, rfl⟩
  deliver h result hcommits := (obeys_except_pure _).mpr hcommits

/-- `stream_turn` asks for streams and consumes them. -/
theorem streamMode_keeps (service : ChatService) : service.streamMode.Keeps request where
  askModel h provider modelRequest hresults := by
    have hask : Obeys (Lawful request)
        (Asked (turnLog h) fun events => (consumed {} events).assistantText) h
        (executeWithRetry (fun event => ask (.hook event)) (fun delay => ask (.sleep delay))
          provider "stream" service.policy.providerRetryPolicy
          (fun _ => ask (.stream modelRequest))) := by
      refine retry_obeys fun h' hlog => ask_obeys (.stream modelRequest) fun answer => ?_
      refine ⟨hresults.trans (congrArg TurnLog.lastResults hlog.symm), ?_⟩
      cases answer <;> simp [Retried, TurnLog.record, hlog]
    rw [service.streamMode_askModel]
    refine obeys_except_seq (orElseRaise_obeys hask (R := fun h' result => match result with
      | .ok events => turnLog h' = (turnLog h).answered (consumed {} events).assistantText
      | .error _ => turnLog h' = turnLog h) (fun _ _ hlog => hlog) (fun _ _ hlog => hlog)) ?_ ?_
    · intro h' events hlog
      refine obeys_except_seq (consumeEvents_obeys request {} events) ?_ ?_
      · intro h'' round hround
        rw [hround.2 round rfl]
        exact (obeys_except_pure _).mpr (hround.1.trans hlog)
      · intro h'' error hround
        exact (congrArg TurnLog.commits (hround.1.trans hlog)).trans rfl
    · exact fun h' error hlog => congrArg TurnLog.commits hlog
  executeTools h sessionId calls := streamTools_obeys sessionId calls
  limitReached h _ _ := yieldEvent_obeys (by simp)
  deliver h result hcommits := by
    refine yieldEvent_obeys_iff.mpr ⟨?_, ?_⟩
    · change (turnLog h).commits ≠ []
      exact List.ne_nil_of_length_eq_add_one hcommits
    · change (turnLog (h ++ _)).commits.length = 1
      simpa [TurnLog.record] using hcommits

/-- Preparing a turn adds nothing to its log. -/
theorem prepareTurn_obeys (service : ChatService) :
    Obeys (Lawful request) (fun h' result => turnLog h' = turnLog h ∧ ∀ context,
        result = .ok context → context.session = request.session ∧
          context.userMessage = ⟨.user, request.userInput⟩) h
      (service.prepareTurn request).run := by
  rw [ChatService.prepareTurn]
  split
  · simp
  · have hload : Obeys (Lawful request) (fun h' _ => turnLog h' = turnLog h) h
        (loadMessages request.session.id).run := by
      refine orElseRaise_obeys (Q := fun h' _ => turnLog h' = turnLog h) ?_ (fun _ _ hlog => hlog)
        (fun _ _ hlog => hlog)
      exact ask_obeys (.loadMessages _) fun answer => ⟨trivial, turn_log_snoc _ _⟩
    refine obeys_except_seq hload ?_ (fun h' error hlog => ⟨hlog, by simp⟩)
    exact fun h' prior hlog => (obeys_except_pure _).mpr ⟨hlog, by simp⟩

/-- The turn loop of a fresh turn keeps to its log. -/
theorem turn_obeys {α : Type} {mode : TurnMode α} (hmode : mode.Keeps request)
    (service : ChatService) :
    Obeys (Lawful request) Committed [] (service.prepareTurn request >>= fun context =>
      turnLoop mode service context service.policy.maxToolRoundTrips
        context.conversationMessages [context.userMessage] []).run := by
  refine obeys_except_seq (prepareTurn_obeys service) ?_ ?_
  · intro h context hprepared
    obtain ⟨hsession, huser⟩ := hprepared.2 context rfl
    refine turnLoop_obeys hmode hsession _ ?_
    rw [hprepared.1]
    exact ⟨by simp [huser, TurnLog.block], rfl, rfl, rfl⟩
  · intro h error hprepared
    simp [Committed, hprepared.1]

/-- Every event of `run_turn` is allowed by the log of the events before it. -/
theorem runTurn_obeys (service : ChatService) (request : ChatTurnRequest) :
    Obeys (Lawful request) Committed [] (service.runTurn request).run := by
  rw [ChatService.runTurn_eq]
  split
  · exact (obeys_except_throw _).mpr rfl
  · exact turn_obeys (runMode_keeps service) service

/-- Every event of `stream_turn` and its stream is allowed by the log of the events before it. -/
theorem streamTurn_obeys (service : ChatService) (request : ChatTurnRequest) :
    Obeys (Lawful request) Committed [] (service.streamTurnToEnd request).run := by
  rw [ChatService.streamTurnToEnd_eq]
  exact turn_obeys (streamMode_keeps service) service

end

/-! ## Turns of either mode -/

/-- A call of one of the two entry points. -/
inductive TurnCall where
  | run (request : ChatTurnRequest)
  | stream (request : ChatTurnRequest)
  deriving DecidableEq

namespace TurnCall

/-- The turn that is asked for. -/
def request : TurnCall → ChatTurnRequest
  | .run request => request
  | .stream request => request

/-- The program of a call. A streamed turn delivers its result in the `TurnComplete` event. -/
def program (service : ChatService) : TurnCall → Turn (Option ChatTurnResult)
  | .run request => do return some (← service.runTurn request)
  | .stream request => do
      service.streamTurnToEnd request
      return none

/-- Every event of a turn is allowed by the log of the events before it. -/
theorem program_obeys (service : ChatService) (call : TurnCall) :
    Obeys (Lawful call.request) Committed [] (call.program service).run := by
  cases call with
  | run request =>
      rw [program, obeys_except_bind]
      refine (runTurn_obeys service request).mono (fun _ _ hg => hg) ?_
      rintro h (error | result) hdone
      · exact hdone
      · exact (obeys_except_pure _).mpr hdone
  | stream request =>
      rw [program, obeys_except_bind]
      refine (streamTurn_obeys service request).mono (fun _ _ hg => hg) ?_
      rintro h (error | _) hdone
      · exact hdone
      · exact (obeys_except_pure _).mpr hdone

end TurnCall

end Fiddlesticks.Chat
