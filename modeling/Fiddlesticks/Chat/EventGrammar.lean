import Fiddlesticks.Chat.Environment
import Fiddlesticks.Chat.Panics

/-!
# The grammar of the event stream

The items of a streamed turn form a sentence: rounds of provider events and tool executions, one
after the other, and at the end either `TurnComplete` or an error. `Sentence` is that grammar, over
the provider streams and the executed calls of the turn, and `stream_turn_grammar` says that a
turn polled to its end has spoken one.
-/

namespace Fiddlesticks.Chat

open Effect Prog Provider Tooling

/-! ## The grammar -/

/-- An item of the event stream. -/
abbrev Item := Except ChatError ChatEvent

/-- The first error of a provider stream. -/
def firstError : ProviderStream → Option ProviderError
  | [] => none
  | .error error :: _ => some error
  | .ok _ :: events => firstError events

/-- What a provider stream is passed on as, up to its first error. -/
def passedOn : ProviderStream → List ChatEvent
  | .ok event :: events => (chatEvent event).toList ++ passedOn events
  | _ => []

/-- The event is a `TextDelta`, a `ToolCallDelta` or an `AssistantMessageComplete`. -/
def ChatEvent.isDelta : ChatEvent → Bool
  | .textDelta _ | .toolCallDelta _ | .assistantMessageComplete _ => true
  | _ => false

/-- Every stream event that is handed on is a delta. -/
theorem chatEvent_isDelta {event : StreamEvent} {yielded : ChatEvent}
    (h : chatEvent event = some yielded) : yielded.isDelta := by
  cases event with
  | messageComplete message =>
      rw [chatEvent] at h
      split at h
      · cases h
        rfl
      · cases h
  | responseComplete response => cases h
  | _ =>
      cases h
      rfl

/-- A provider stream is passed on as deltas and completed messages. -/
theorem passedOn_isDelta {stream : ProviderStream} : ∀ event ∈ passedOn stream, event.isDelta := by
  induction stream with
  | nil => simp [passedOn]
  | cons item stream ih =>
      cases item with
      | error error => simp [passedOn]
      | ok event =>
          intro yielded hmem
          rcases List.mem_append.mp hmem with hfirst | hlater
          · exact chatEvent_isDelta (Option.mem_toList.mp hfirst)
          · exact ih yielded hlater

/-- The events of executed calls. -/
def executions (calls : List ToolCall) : List ChatEvent :=
  calls.flatMap fun toolCall =>
    [ChatEvent.toolExecutionStarted toolCall, .toolExecutionFinished toolCall]

/-- The event of the limit, if it is signalled. -/
def limitEvents (limit : Option (Nat × Nat)) : List ChatEvent :=
  limit.toList.map fun (maxRoundTrips, pendingToolCalls) =>
    .toolRoundLimitReached maxRoundTrips pendingToolCalls

/-- The sentences of the event stream, each with its rounds: the provider stream and the executed
calls of each. -/
inductive Sentence : List (ProviderStream × List ToolCall) → List Item → Prop where
  /-- No provider stream is acquired. -/
  | refused (error : ChatError) : Sentence [] [.error error]
  /-- The provider stream ends with an error. -/
  | interrupted {stream : ProviderStream} {error : ProviderError} :
      firstError stream = some error →
      Sentence [(stream, [])] ((passedOn stream).map .ok ++
        [.error ((ChatError.ofProvider error).withPhase .streaming)])
  /-- The last of the executed calls fails. -/
  | failed {stream : ProviderStream} (calls : List ToolCall) (toolCall : ToolCall)
      (error : ChatError) : firstError stream = none →
      Sentence [(stream, calls ++ [toolCall])] ((passedOn stream ++ executions calls ++
        [ChatEvent.toolExecutionStarted toolCall]).map .ok ++ [.error error])
  /-- The commit fails. -/
  | uncommitted {stream : ProviderStream} (limit : Option (Nat × Nat)) (error : ChatError) :
      firstError stream = none →
      Sentence [(stream, [])] ((passedOn stream ++ limitEvents limit).map .ok ++ [.error error])
  | completed {stream : ProviderStream} (limit : Option (Nat × Nat)) (result : ChatTurnResult) :
      firstError stream = none →
      Sentence [(stream, [])] ((passedOn stream ++ limitEvents limit).map .ok ++
        [.ok (.turnComplete result)])
  /-- The calls of a round are executed, and another round follows. -/
  | round {stream : ProviderStream} {calls : List ToolCall}
      {rounds : List (ProviderStream × List ToolCall)} {items : List Item} :
      firstError stream = none → calls ≠ [] → Sentence rounds items →
      Sentence ((stream, calls) :: rounds) ((passedOn stream ++ executions calls).map .ok ++ items)

/-- The item ends the stream: an error or `TurnComplete`. -/
def endsStream : Item → Bool
  | .error _ | .ok (.turnComplete _) => true
  | _ => false

/-- A delta is not the end of a turn. -/
theorem turnComplete_not_mem_passedOn (stream : ProviderStream) (result : ChatTurnResult) :
    .turnComplete result ∉ passedOn stream := by
  intro hmem
  cases passedOn_isDelta _ hmem

/-- The events of executions do not complete the turn. -/
theorem turnComplete_not_mem_executions (calls : List ToolCall) (result : ChatTurnResult) :
    .turnComplete result ∉ executions calls := by
  simp [executions]

/-- Reaching the round limit does not complete the turn. -/
theorem turnComplete_not_mem_limitEvents (limit : Option (Nat × Nat)) (result : ChatTurnResult) :
    .turnComplete result ∉ limitEvents limit := by
  simp [limitEvents]

/-- The last item of a sentence ends the stream, and no other item does. -/
theorem Sentence.last {rounds : List (ProviderStream × List ToolCall)} {items : List Item}
    (h : Sentence rounds items) : ∃ (body : List ChatEvent) (last : Item),
      items = body.map .ok ++ [last] ∧ (∀ result, .turnComplete result ∉ body) ∧
      endsStream last := by
  induction h with
  | refused error => exact ⟨[], _, rfl, by simp, rfl⟩
  | interrupted _ => exact ⟨_, _, rfl, turnComplete_not_mem_passedOn _, rfl⟩
  | failed calls toolCall error _ =>
      refine ⟨_, _, rfl, fun result => ?_, rfl⟩
      simp [turnComplete_not_mem_passedOn, turnComplete_not_mem_executions]
  | uncommitted limit error _ =>
      refine ⟨_, _, rfl, fun result => ?_, rfl⟩
      simp [turnComplete_not_mem_passedOn, turnComplete_not_mem_limitEvents]
  | completed limit result _ =>
      refine ⟨_, _, rfl, fun result => ?_, rfl⟩
      simp [turnComplete_not_mem_passedOn, turnComplete_not_mem_limitEvents]
  | @round stream calls _ _ _ _ _ ih =>
      obtain ⟨body, last, rfl, hbody, hlast⟩ := ih
      refine ⟨passedOn stream ++ executions calls ++ body, last, by simp, fun result => ?_, hlast⟩
      simp [turnComplete_not_mem_passedOn, turnComplete_not_mem_executions, hbody]

/-- Nothing follows an item that ends the stream. -/
theorem Sentence.after_end {rounds : List (ProviderStream × List ToolCall)} {items : List Item}
    (h : Sentence rounds items) {before after : List Item} {item : Item}
    (hitems : items = before ++ item :: after) (hend : endsStream item) : after = [] := by
  obtain ⟨body, last, rfl, hbody, -⟩ := h.last
  cases after using List.reverseRecOn with
  | nil => rfl
  | append_singleton after final =>
      rw [← List.cons_append, ← List.append_assoc] at hitems
      have hmem : item ∈ body.map Except.ok := by
        rw [(List.append_inj' hitems rfl).1]
        exact List.mem_append_right _ List.mem_cons_self
      obtain ⟨event, hevent, rfl⟩ := List.mem_map.mp hmem
      cases event with
      | turnComplete result => exact absurd hevent (hbody result)
      | _ => cases hend

/-! ## The log of the items -/

/-- The items of a history and its rounds, the last one apart. -/
structure EventLog where
  earlier : List (ProviderStream × List ToolCall) := []
  current : Option (ProviderStream × List ToolCall) := none
  items : List ChatEvent := []

namespace EventLog

/-- The rounds: the provider stream and the executed calls of each. -/
def rounds (log : EventLog) : List (ProviderStream × List ToolCall) :=
  log.earlier ++ log.current.toList

/-- A provider stream has been acquired. -/
def began (log : EventLog) (stream : ProviderStream) : EventLog :=
  { log with earlier := log.rounds, current := some (stream, []) }

/-- Calls have been executed. -/
def executed (log : EventLog) (calls : List ToolCall) : EventLog :=
  { log with current := log.current.map fun (stream, earlier) => (stream, earlier ++ calls) }

/-- Events have been yielded. -/
def yielded (log : EventLog) (events : List ChatEvent) : EventLog :=
  { log with items := log.items ++ events }

/-- What an event adds to the log. -/
def record (log : EventLog) : Event ChatSig → EventLog
  | ⟨.stream _, .ok stream⟩ => log.began stream
  | ⟨.execute toolCall _, _⟩ => log.executed [toolCall]
  | ⟨.yield event, _⟩ => log.yielded [event]
  | _ => log

/-- Yielding nothing changes nothing. -/
@[simp] theorem yielded_nil (log : EventLog) : log.yielded [] = log := by
  simp [yielded]

/-- Events yielded one after the other are yielded together. -/
@[simp] theorem yielded_yielded (log : EventLog) (first later : List ChatEvent) :
    (log.yielded first).yielded later = log.yielded (first ++ later) := by
  simp [yielded]

/-- Events and executions are logged apart. -/
@[simp] theorem executed_yielded (log : EventLog) (events : List ChatEvent)
    (calls : List ToolCall) :
    (log.yielded events).executed calls = (log.executed calls).yielded events := rfl

/-- Executing nothing changes nothing. -/
@[simp] theorem executed_nil (log : EventLog) : log.executed [] = log := by
  cases log with
  | mk earlier current items => cases current <;> simp [executed]

/-- Calls executed one after the other are executed together. -/
@[simp] theorem executed_executed (log : EventLog) (first later : List ToolCall) :
    (log.executed first).executed later = log.executed (first ++ later) := by
  cases log with
  | mk earlier current items => cases current <;> simp [executed]

end EventLog

/-- The items and the rounds of a history. -/
def eventLog (h : History ChatSig) : EventLog :=
  h.foldl EventLog.record {}

/-- Nothing is logged at first. -/
@[simp] theorem event_log_nil : eventLog [] = {} := rfl

/-- The log records event by event. -/
@[simp] theorem event_log_snoc (h : History ChatSig) (e : Event ChatSig) :
    eventLog (h ++ [e]) = (eventLog h).record e := by
  simp [eventLog]

/-- The error item of a stream that has ended. -/
def errorItem : Except ChatError Unit → List Item
  | .ok _ => []
  | .error error => [.error error]

/-- The items of a stream so far. -/
def streamItems (events : History ChatSig) (rest : Prog ChatSig (Except ChatError Unit)) :
    List Item :=
  (eventLog events).items.map .ok ++ match rest with
    | .pure result => errorItem result
    | .call _ _ => []

/-- `TurnComplete` is yielded after a successful append. -/
abbrev AppendsFirst (h : History ChatSig) (e : Event ChatSig) : Prop :=
  ∀ result, e.op = .yield (.turnComplete result) →
    ∃ sessionId messages, ⟨.appendMessages sessionId messages, .ok ()⟩ ∈ h

/-- From the log on, the rounds and the items of the turn form a sentence. -/
def EventLog.Speaks (log : EventLog) (h : History ChatSig) (result : Except ChatError Unit) :
    Prop :=
  ∃ rounds items, (eventLog h).rounds = log.rounds ++ rounds ∧
    (eventLog h).items.map .ok ++ errorItem result = log.items.map .ok ++ items ∧
    Sentence rounds items

/-! ## The parts of a round -/

section

variable {h : History ChatSig}

/-- Only yielding an event asks for an append before it. -/
theorem appends_first_of_ne {e : Event ChatSig} (he : ∀ event, e.op ≠ .yield event) :
    AppendsFirst h e :=
  fun result hop => absurd hop (he (.turnComplete result))

/-- Yielding an event logs it. -/
theorem yieldEvent_items {event : ChatEvent} (hevent : ∀ result, event ≠ .turnComplete result) :
    Obeys AppendsFirst (fun h' result => eventLog h' = (eventLog h).yielded [event] ∧
        result = .ok ()) h (yieldEvent event).run := by
  refine yieldEvent_obeys_iff.mpr ⟨?_, event_log_snoc _ _, rfl⟩
  intro result hop
  injection hop with hcomplete
  exact absurd hcomplete (hevent result)

/-- Consuming a provider stream passes it on up to its first error. -/
theorem consumeEvents_items (round : StreamRound) (stream : ProviderStream) :
    Obeys AppendsFirst (fun h' result => eventLog h' = (eventLog h).yielded (passedOn stream) ∧
        match result with
        | .ok _ => firstError stream = none
        | .error error => ∃ streamError, firstError stream = some streamError ∧
            error = (ChatError.ofProvider streamError).withPhase .streaming) h
      (consumeEvents round stream).run := by
  induction stream generalizing h round with
  | nil => simp [consumeEvents, passedOn, firstError]
  | cons item stream ih =>
      cases item with
      | error error => simp [consumeEvents, passedOn, firstError]
      | ok event =>
          rw [consumeEvents]
          cases hevent : chatEvent event with
          | none =>
              simp only [passedOn, hevent, Option.toList_none, List.nil_append]
              exact ih (round.update event)
          | some yielded =>
              refine obeys_except_seq (yieldEvent_items (chatEvent_ne_turnComplete hevent)) ?_
                (by simp)
              rintro h' _ ⟨hlog, -⟩
              refine (ih (h := h') (round.update event)).mono (fun _ _ hg => hg) ?_
              rintro h'' result ⟨hlater, hresult⟩
              refine ⟨?_, hresult⟩
              rw [hlater, hlog, EventLog.yielded_yielded, passedOn, hevent]
              rfl

/-- Acquiring a provider stream begins a round. -/
theorem acquireStream_items (service : ChatService) (provider : ProviderId)
    (modelRequest : ModelRequest) :
    Obeys AppendsFirst (fun h' result => match result with
      | .ok stream => eventLog h' = (eventLog h).began stream
      | .error _ => eventLog h' = eventLog h) h
      (service.acquireStream provider modelRequest).run := by
  rw [service.acquireStream_eq]
  refine orElseRaise_obeys (Q := Retried (fun h' => eventLog h' = eventLog h)
    (fun h' stream => eventLog h' = (eventLog h).began stream)) ?_ (fun _ _ hlog => hlog)
    (fun _ _ hlog => hlog)
  refine retries_keep (fun _ _ _ _ => ⟨appends_first_of_ne (by simp), event_log_snoc _ _⟩)
    (fun _ _ _ _ => ⟨appends_first_of_ne (by simp), event_log_snoc _ _⟩) fun h' hlog => ?_
  refine ask_obeys (.stream modelRequest) fun answer => ⟨appends_first_of_ne (by simp), ?_⟩
  cases answer <;> simp [Retried, EventLog.record, hlog]

/-- An execution logs its call. -/
theorem execute_items (toolCall : ToolCall) (context : ToolExecutionContext) :
    Obeys AppendsFirst (fun h' _ => eventLog h' = (eventLog h).executed [toolCall]) h
      (execute toolCall context).run := by
  refine orElseRaise_obeys (Q := fun h' _ => eventLog h' = (eventLog h).executed [toolCall]) ?_
    (fun _ _ hlog => hlog) (fun _ _ hlog => hlog)
  exact ask_obeys (.execute toolCall context) fun answer =>
    ⟨appends_first_of_ne (by simp), event_log_snoc _ _⟩

/-- The items of the executed calls, and of the one that fails. -/
def EventLog.Executes (log : EventLog) (calls : List ToolCall) (h : History ChatSig) :
    Except ChatError (List ToolResult) → Prop
  | .ok _ => eventLog h = (log.executed calls).yielded (executions calls)
  | .error _ => ∃ finished toolCall, eventLog h = (log.executed (finished ++ [toolCall])).yielded
      (executions finished ++ [.toolExecutionStarted toolCall])

/-- The calls of a round are executed in their order. -/
theorem streamTools_items (sessionId : SessionId) (calls : List ToolCall) :
    Obeys AppendsFirst ((eventLog h).Executes calls) h
      (ChatService.streamTools sessionId calls).run := by
  induction calls generalizing h with
  | nil =>
      refine (obeys_except_pure _).mpr ?_
      show eventLog h = _
      simp [executions]
  | cons toolCall calls ih =>
      rw [ChatService.streamTools]
      refine obeys_except_seq (yieldEvent_items (by simp)) ?_ (by simp)
      rintro h₁ _ ⟨hstarted, -⟩
      refine obeys_except_seq (execute_items _ _) ?_ ?_
      · intro h₂ result hexecuted
        refine obeys_except_seq (yieldEvent_items (by simp)) ?_ (by simp)
        rintro h₃ _ ⟨hfinished, -⟩
        rw [hexecuted, hstarted] at hfinished
        refine obeys_except_seq ih ?_ ?_
        · intro h₄ results hrest
          refine (obeys_except_pure _).mpr ?_
          show eventLog h₄ = _
          rw [show eventLog h₄ = _ from hrest, hfinished]
          simp [executions]
        · rintro h₄ error ⟨finished, failing, hrest⟩
          refine ⟨toolCall :: finished, failing, ?_⟩
          rw [hrest, hfinished]
          simp [executions]
      · intro h₂ error hexecuted
        refine ⟨[], toolCall, ?_⟩
        rw [hexecuted, hstarted]
        simp [executions]

/-! ## The loop -/

/-- The commit and the `TurnComplete` of a round whose calls are not executed. -/
theorem finishTurn_items (service : ChatService) (sessionId : SessionId)
    (persisted : List Message) (result : ChatTurnResult) {log : EventLog}
    {stream : ProviderStream} (limit : Option (Nat × Nat)) (hstream : firstError stream = none)
    (hlog : eventLog h = (log.began stream).yielded (passedOn stream ++ limitEvents limit)) :
    Obeys AppendsFirst log.Speaks h
      (finishTurn service.streamMode sessionId persisted result).run := by
  have hcommit : Obeys AppendsFirst (fun h' result => eventLog h' = eventLog h ∧
      ∀ value, result = .ok value → ⟨.appendMessages sessionId persisted, .ok ()⟩ ∈ h') h
      (appendMessages sessionId persisted).run := by
    refine orElseRaise_obeys (Q := fun h' result => eventLog h' = eventLog h ∧
      ∀ value, result = .ok value → ⟨.appendMessages sessionId persisted, .ok ()⟩ ∈ h') ?_
      (fun _ _ happended => happended) (fun _ _ happended => ⟨happended.1, by simp⟩)
    refine ask_obeys (.appendMessages sessionId persisted) fun answer =>
      ⟨appends_first_of_ne (by simp), event_log_snoc _ _, ?_⟩
    rintro value rfl
    exact List.mem_append_right _ (List.mem_singleton.mpr rfl)
  rw [finishTurn]
  refine obeys_except_seq hcommit ?_ ?_
  · rintro h' value ⟨hlog', happended⟩
    refine yieldEvent_obeys_iff.mpr ⟨fun _ _ => ⟨_, _, happended value rfl⟩, ?_⟩
    refine ⟨_, _, ?_, ?_, .completed limit result hstream⟩
    · rw [event_log_snoc, hlog', hlog]
      rfl
    · rw [event_log_snoc, hlog', hlog]
      simp [EventLog.record, EventLog.yielded, EventLog.began, errorItem]
  · rintro h' error ⟨hlog', -⟩
    refine ⟨_, _, ?_, ?_, .uncommitted limit error hstream⟩
    · rw [hlog', hlog]
      rfl
    · rw [hlog', hlog]
      simp [EventLog.yielded, EventLog.began, errorItem]

/-- A turn that cannot acquire a provider stream ends with an error. -/
theorem EventLog.Speaks.refused {log : EventLog} {error : ChatError} (hlog : eventLog h = log) :
    log.Speaks h (.error error) := by
  refine ⟨[], _, ?_, ?_, .refused error⟩
  · rw [hlog, List.append_nil]
  · rw [hlog]
    rfl

/-- The model is asked and its events are passed on, or the stream ends on their first error. -/
theorem streamMode_askModel_items (service : ChatService) (provider : ProviderId)
    (modelRequest : ModelRequest) :
    Obeys AppendsFirst (fun h' result => match result with
      | .ok _ => ∃ stream, firstError stream = none ∧
          eventLog h' = ((eventLog h).began stream).yielded (passedOn stream)
      | .error error => (eventLog h).Speaks h' (.error error)) h
      (service.streamMode.askModel provider modelRequest).run := by
  refine obeys_except_seq (acquireStream_items service _ _) ?_ ?_
  · intro h' stream hacquired
    refine obeys_except_seq (consumeEvents_items _ _) ?_ ?_
    · rintro h'' round ⟨hlog, hstream⟩
      refine (obeys_except_pure _).mpr ⟨stream, hstream, ?_⟩
      rw [hlog, show eventLog h' = _ from hacquired]
    · rintro h'' error ⟨hlog, streamError, hstream, rfl⟩
      rw [show eventLog h' = _ from hacquired] at hlog
      refine ⟨_, _, ?_, ?_, .interrupted hstream⟩
      · rw [hlog]
        rfl
      · rw [hlog]
        simp [EventLog.yielded, EventLog.began, errorItem]
  · exact fun h' error hlog => .refused hlog

/-- One round of the loop speaks a sentence if the rounds after it do. -/
theorem streamTurn_round_items (service : ChatService) (context : TurnContext) {remaining : Nat}
    (conversation persisted : List Message) (toolResults : List ToolResult)
    (hnext : ∀ left, remaining = left + 1 → ∀ h conversation persisted toolResults,
      Obeys AppendsFirst (eventLog h).Speaks h
        (turnLoop service.streamMode service context left conversation persisted
          toolResults).run) :
    Obeys AppendsFirst (eventLog h).Speaks h
      (turnLoop service.streamMode service context remaining conversation persisted
        toolResults).run := by
  rw [turnLoop.eq_def, obeys_except_bind, obeys_except_lift]
  split
  · rename_i modelRequest hrequest
    refine obeys_except_seq (streamMode_askModel_items service _ modelRequest) ?_
      (fun h' error hspeaks => hspeaks)
    rintro h' round ⟨stream, hstream, hlog⟩
    split
    · rename_i htools
      have hcalls : round.toolCalls ≠ [] := by
        rintro hnone
        simp [hnone] at htools
      cases remaining with
      | zero =>
          -- The budget is used up: the limit is reported and the turn is finished with the calls
          -- pending.
          refine obeys_except_seq (yieldEvent_items (by simp)) ?_ (by simp)
          rintro h'' _ ⟨hlimit, -⟩
          refine finishTurn_items service _ _ _
            (some (service.policy.maxToolRoundTrips, round.toolCalls.length)) hstream
            (hlimit.trans ?_)
          rw [hlog, EventLog.yielded_yielded]
          rfl
      | succ left =>
          -- The calls are executed, and the rounds after them speak the rest of the sentence.
          refine obeys_except_seq (streamTools_items _ _) ?_ ?_
          · intro h'' results hran
            have hlog'' : eventLog h'' = (((eventLog h).began stream).executed
                round.toolCalls).yielded (passedOn stream ++ executions round.toolCalls) := by
              rw [show eventLog h'' = _ from hran, hlog]
              simp
            refine (hnext left rfl h'' _ _ _).mono (fun _ _ hg => hg) ?_
            rintro h₃ result ⟨rounds, items, hrounds, hitems, hsentence⟩
            refine ⟨_, _, ?_, ?_, .round hstream hcalls hsentence⟩
            · rw [hrounds, hlog'']
              simp [EventLog.rounds, EventLog.yielded, EventLog.began, EventLog.executed]
            · rw [hitems, hlog'']
              simp [EventLog.yielded, EventLog.began, EventLog.executed]
          · rintro h'' error ⟨finished, failing, hfailed⟩
            have hlog'' : eventLog h'' = (((eventLog h).began stream).executed
                (finished ++ [failing])).yielded (passedOn stream ++ executions finished ++
                  [.toolExecutionStarted failing]) := by
              rw [hfailed, hlog]
              simp
            refine ⟨_, _, ?_, ?_, .failed finished failing error hstream⟩
            · rw [hlog'']
              rfl
            · rw [hlog'']
              simp [EventLog.yielded, EventLog.began, EventLog.executed, errorItem]
    · refine finishTurn_items service _ _ _ none hstream (hlog.trans ?_)
      rw [limitEvents, Option.toList_none, List.map_nil, List.append_nil]
  · exact .refused rfl

/-- The loop speaks a sentence. -/
theorem streamTurnLoop_items (service : ChatService) (context : TurnContext) (remaining : Nat)
    (conversation persisted : List Message) (toolResults : List ToolResult) :
    Obeys AppendsFirst (eventLog h).Speaks h
      (service.streamTurnLoop context remaining conversation persisted toolResults).run := by
  rw [service.streamTurnLoop_eq]
  induction remaining generalizing h conversation persisted toolResults with
  | zero => exact streamTurn_round_items service context _ _ _ (by simp)
  | succ remaining ih =>
      refine streamTurn_round_items service context _ _ _ ?_
      rintro left hleft h conversation persisted toolResults
      cases hleft
      exact ih conversation persisted toolResults

end

/-! ## The event stream -/

/-- What `stream_turn` returns is the loop of a prepared turn. -/
theorem streamTurn_returns {service : ChatService} {request : ChatTurnRequest}
    {prepared : History ChatSig} {stream : Turn Unit}
    (hstream : Path (service.streamTurn request).run prepared (.pure (.ok stream))) :
    ∃ context, stream = service.streamTurnLoop context service.policy.maxToolRoundTrips
      context.conversationMessages [context.userMessage] [] := by
  have hreturns : Obeys (Lawful request) (fun _ result => ∀ stream, result = .ok stream →
      ∃ context, stream = service.streamTurnLoop context service.policy.maxToolRoundTrips
        context.conversationMessages [context.userMessage] []) []
      (service.streamTurn request).run := by
    rw [ChatService.streamTurn]
    refine obeys_except_seq (prepareTurn_obeys service) ?_ (by simp)
    intro h context _
    refine (obeys_except_pure _).mpr ?_
    rintro _ ⟨⟩
    exact ⟨context, rfl⟩
  exact hreturns.returns hstream stream rfl

/-- The items of a finished stream form a sentence. -/
theorem finished_sentence {service : ChatService} {context : TurnContext}
    {events : History ChatSig} {result : Except ChatError Unit}
    (hpath : Path (service.streamTurnLoop context service.policy.maxToolRoundTrips
      context.conversationMessages [context.userMessage] []).run events (.pure result)) :
    Sentence (eventLog events).rounds (streamItems events (.pure result)) := by
  obtain ⟨rounds, items, hrounds, hitems, hsentence⟩ :=
    (streamTurnLoop_items service context _ _ _ _).returns hpath
  rw [List.nil_append] at hrounds hitems
  rw [streamItems, hitems, hrounds]
  exact hsentence

/-- The items of a stream stay when it is polled on. -/
theorem streamItems_prefix (events : History ChatSig) {later : History ChatSig}
    {rest : Prog ChatSig (Except ChatError Unit)} {result : Except ChatError Unit}
    (hpath : Path rest later (.pure result)) :
    streamItems events rest <+: streamItems (events ++ later) (.pure result) := by
  have hitems : ∀ later : History ChatSig,
      (eventLog events).items <+: (eventLog (events ++ later)).items := by
    intro later
    induction later using List.reverseRecOn with
    | nil => rw [List.append_nil]
    | append_singleton later e ih =>
        rw [← List.append_assoc, event_log_snoc]
        refine ih.trans ?_
        obtain ⟨op, answer⟩ := e
        cases op with
        | yield event => exact List.prefix_append _ _
        | stream modelRequest => cases answer <;> exact List.prefix_rfl
        | _ => exact List.prefix_rfl
  cases hpath with
  | nil =>
      rw [List.append_nil]
  | cons hlater =>
      show (eventLog events).items.map _ ++ [] <+: _
      rw [List.append_nil]
      exact ((hitems _).map _).trans (List.prefix_append _ _)

/-- A request that has failed is no item. -/
theorem streamItems_failure {events : History ChatSig} {e : Event ChatSig} (he : isFailure e)
    {op op' : ChatOp} {next : op.Answer → Prog ChatSig (Except ChatError Unit)}
    (next' : op'.Answer → Prog ChatSig (Except ChatError Unit)) :
    streamItems (events ++ [e]) (.call op next) = streamItems events (.call op' next') := by
  have hlog : eventLog (events ++ [e]) = eventLog events := by
    rw [event_log_snoc]
    obtain ⟨op, answer⟩ := e
    cases op with
    | stream request =>
        cases answer with
        | error error => rfl
        | ok stream => cases he
    | complete request => rfl
    | _ => cases he
  rw [streamItems, hlog, streamItems]

/-- A stream that does not panic goes on to an end. -/
theorem unfinished_sentence {service : ChatService} {context : TurnContext}
    {events : History ChatSig} {rest : Prog ChatSig (Except ChatError Unit)}
    (hpath : Path (service.streamTurnLoop context service.policy.maxToolRoundTrips
      context.conversationMessages [context.userMessage] []).run events rest)
    (hrest : ∀ next, rest ≠ .call .panic next) :
    ∃ later result, Path rest later (.pure result) ∧
      Sentence (eventLog (events ++ later)).rounds (streamItems (events ++ later) (.pure result)) ∧
      streamItems events rest <+: streamItems (events ++ later) (.pure result) := by
  have hcareful := streamTurnLoop_careful service context
    service.policy.maxToolRoundTrips context.conversationMessages [context.userMessage] []
  rcases hcareful.panics_or_ends hpath with ⟨next, -, hpanic, -⟩ | ⟨later, result, hlater⟩
  · exact absurd hpanic (hrest next)
  · exact ⟨later, result, hlater, finished_sentence (hpath.trans hlater),
      streamItems_prefix events hlater⟩

/-- A stream that panics does so after a request that has failed. Had it not failed, the stream
would have gone on. -/
theorem panicked_sentence {service : ChatService} {context : TurnContext}
    {events : History ChatSig} {next : Empty → Prog ChatSig (Except ChatError Unit)}
    (hpath : Path (service.streamTurnLoop context service.policy.maxToolRoundTrips
      context.conversationMessages [context.userMessage] []).run events (.call .panic next)) :
    ∃ before e later result, events = before ++ [e] ∧ isFailure e ∧
      Path (service.streamTurnLoop context service.policy.maxToolRoundTrips
        context.conversationMessages [context.userMessage] []).run (before ++ later)
        (.pure result) ∧
      Sentence (eventLog (before ++ later)).rounds (streamItems (before ++ later) (.pure result)) ∧
      streamItems events (.call .panic next) <+:
        streamItems (before ++ later) (.pure result) := by
  have hcareful := streamTurnLoop_careful service context
    service.policy.maxToolRoundTrips context.conversationMessages [context.userMessage] []
  rcases hcareful.panics_or_ends hpath with ⟨_, e, -, hlast, he⟩ | ⟨later, result, hlater⟩
  · obtain ⟨before, rfl⟩ := List.getLast?_eq_some_iff.mp hlast
    obtain ⟨middle, hbefore, hfailed⟩ := hpath.split
    cases hfailed with
    | @cons op next' answer _ _ hnext =>
        rcases hcareful.panics_or_ends hbefore with ⟨_, _, hpanic, -⟩ | ⟨later, result, hlater⟩
        · cases hpanic
          exact answer.elim
        · refine ⟨before, _, later, result, rfl, he, hbefore.trans hlater,
            finished_sentence (hbefore.trans hlater), ?_⟩
          rw [streamItems_failure he next']
          exact streamItems_prefix before hlater
  · cases hlater with
    | @cons _ _ answer _ _ _ => exact answer.elim

/-- The items of `stream_turn`, at any point of any run, are those of a prefix of a sentence: a
finished stream has spoken one, and a run that has not finished is the beginning of one that has.
A run that panics has spoken what it would have, had its last request not failed. An item that ends
the stream is the last one, a finished stream has one, and `TurnComplete` comes after a successful
append. -/
theorem stream_turn_grammar (service : ChatService) (request : ChatTurnRequest)
    {prepared : History ChatSig} {stream : Turn Unit}
    (hstream : Path (service.streamTurn request).run prepared (.pure (.ok stream)))
    {events : History ChatSig} {rest : Prog ChatSig (Except ChatError Unit)}
    (hpath : Path stream.run events rest) :
    (∀ result, rest = .pure result →
      Sentence (eventLog events).rounds (streamItems events rest) ∧
      ∃ body last, streamItems events rest = body ++ [last] ∧ endsStream last) ∧
    ((∀ next, rest ≠ .call .panic next) → ∃ later result, Path rest later (.pure result) ∧
      Sentence (eventLog (events ++ later)).rounds (streamItems (events ++ later) (.pure result)) ∧
      streamItems events rest <+: streamItems (events ++ later) (.pure result)) ∧
    (∀ next, rest = .call .panic next → ∃ before e later result, events = before ++ [e] ∧
      isFailure e ∧ Path stream.run (before ++ later) (.pure result) ∧
      Sentence (eventLog (before ++ later)).rounds (streamItems (before ++ later) (.pure result)) ∧
      streamItems events rest <+: streamItems (before ++ later) (.pure result)) ∧
    (∀ before item after, streamItems events rest = before ++ item :: after → endsStream item →
      after = []) ∧
    ∀ before result after, events = before ++ ⟨.yield (.turnComplete result), ()⟩ :: after →
      ∃ sessionId messages, ⟨.appendMessages sessionId messages, .ok ()⟩ ∈ before := by
  obtain ⟨context, rfl⟩ := streamTurn_returns hstream
  refine ⟨?_, unfinished_sentence hpath, ?_, ?_, ?_⟩
  · rintro result rfl
    have hfinished := finished_sentence hpath
    obtain ⟨body, last, hitems, -, hlast⟩ := hfinished.last
    exact ⟨hfinished, body.map .ok, last, hitems, hlast⟩
  · rintro next rfl
    exact panicked_sentence hpath
  · intro before item after hitems hlast
    obtain ⟨run, result, hsentence, more, hmore⟩ : ∃ run result,
        Sentence (eventLog run).rounds (streamItems run (.pure result)) ∧
          streamItems events rest <+: streamItems run (.pure result) := by
      by_cases hrest : ∀ next, rest ≠ .call .panic next
      · obtain ⟨later, result, -, hlater⟩ := unfinished_sentence hpath hrest
        exact ⟨_, result, hlater⟩
      · push Not at hrest
        obtain ⟨next, rfl⟩ := hrest
        obtain ⟨_, _, _, result, -, -, -, hlater⟩ := panicked_sentence hpath
        exact ⟨_, result, hlater⟩
    rw [hitems, List.append_assoc, List.cons_append] at hmore
    exact (List.append_eq_nil_iff.mp (hsentence.after_end hmore.symm hlast)).1
  · intro before result after hevents
    exact ((streamTurnLoop_items (h := []) service context _ _ _ _).path hpath).1 before _ after
      hevents result rfl

/-- A model that streams one tool call and, after its execution, an answer. -/
def lookupModel : TurnEnvironment :=
  { complete := fun request => ⟨.openAi, request.model, [], .endTurn, {}⟩
    stream := fun request => match request.messages.length with
      | 1 => [.toolCallDelta ⟨"call", "lookup", "\x7b\x7d"⟩]
      | _ => [.textDelta "found"]
    execute := fun _ call _ => .ok ⟨call.id, "result"⟩
    prior := fun _ => [] }

/-- The event stream of a turn with that model. -/
def lookupStream : Turn Unit :=
  ChatService.streamTurnLoop ⟨.default, true⟩
    { session := helloTurn.session, userMessage := ⟨.user, "hello"⟩
      conversationMessages := [⟨.user, "hello"⟩], temperature := none, maxTokens := none }
    4 [⟨.user, "hello"⟩] [⟨.user, "hello"⟩] []

/-- The items of a turn of two rounds that executes one call. -/
theorem stream_turn_grammar_lookup : ∃ rounds items, Sentence rounds items ∧
    rounds.map Prod.snd = [[⟨"call", "lookup", "\x7b\x7d"⟩], []] ∧ items.length = 5 := by
  have hprepared : Path (ChatService.streamTurn ⟨.default, true⟩ helloTurn).run
      [⟨.loadMessages ⟨"session"⟩, .ok []⟩] (.pure (.ok lookupStream)) := by
    have hinput : trim helloTurn.userInput ≠ "" := by decide +kernel
    rw [ChatService.streamTurn, ChatService.prepareTurn, if_neg hinput]
    exact .cons (.nil _)
  have hends : (lookupStream.run.finish lookupModel.handle {}).map Prod.fst = some (.ok ()) := by
    decide +kernel
  obtain ⟨⟨_, seen⟩, hfinish, rfl⟩ := Option.map_eq_some_iff.mp hends
  obtain ⟨hfinished, -⟩ := stream_turn_grammar _ _ hprepared (path_of_finish hfinish)
  exact ⟨_, _, (hfinished _ rfl).1, by decide +kernel, by decide +kernel⟩

end Fiddlesticks.Chat
