import Fiddlesticks.Chat.ConversationLog
import Fiddlesticks.Chat.RoundLimit

/-!
# Tool results between the rounds of a turn

The tool results of a turn travel outside its conversation: a provider request carries those of
the last tool round and no others. So a request carries the results of every tool that the turn
has run exactly when the last round repeats those of the earlier ones.
-/

namespace Fiddlesticks.Chat

open Effect Prog Provider Tooling

/-- The result of an executed tool call. -/
def executedResult : Event ChatSig → Option ToolResult
  | ⟨.execute _ _, .ok result⟩ => some ⟨result.toolCallId, result.output⟩
  | _ => none

/-- Every provider request carries the result of every tool call executed before it. -/
def CarriesToolResults (events : History ChatSig) : Prop :=
  ∀ before e after, events = before ++ e :: after → ∀ request, e.op.sentRequest = some request →
    ∀ result ∈ before.filterMap executedResult, result ∈ request.toolResults

/-- Whenever a provider request is sent, the last tool round has repeated the results of all
earlier rounds. -/
def LastRoundRepeats (events : History ChatSig) : Prop :=
  ∀ before e after, events = before ++ e :: after → e.op.sentRequest ≠ none →
    ∀ result ∈ (turnLog before).earlierResults, result ∈ (turnLog before).lastResults

/-- The executed calls are those of the earlier rounds and those of the last one. -/
theorem executed_results_eq (h : History ChatSig) :
    h.filterMap executedResult = (turnLog h).earlierResults ++ (turnLog h).lastResults := by
  induction h using List.reverseRecOn with
  | nil => rfl
  | append_singleton h e ih =>
      obtain ⟨op, answer⟩ := e
      rw [List.filterMap_append, ih, turn_log_snoc]
      cases op with
      | yield event => simp [executedResult, TurnLog.record]
      | hook event => simp [executedResult, TurnLog.record]
      | sleep delay => simp [executedResult, TurnLog.record]
      | _ => cases answer <;> simp [executedResult, TurnLog.record, TurnLog.answered]

/-- A provider request of a turn carries exactly the results of the last tool round. -/
theorem sent_request_tool_results {request : ChatTurnRequest} {h : History ChatSig}
    {e : Event ChatSig} (he : Lawful request h e) {modelRequest : ModelRequest}
    (hsent : e.op.sentRequest = some modelRequest) :
    modelRequest.toolResults = (turnLog h).lastResults := by
  obtain ⟨op, answer⟩ := e
  cases op with
  | complete sent =>
      cases hsent
      exact he
  | stream sent =>
      cases hsent
      exact he
  | _ => cases hsent

/-- In every run of a turn, the provider requests carry the results of all tool calls executed
before them exactly when the last tool round always repeats those of the earlier rounds. -/
theorem carries_tool_results_iff (service : ChatService) (call : TurnCall)
    {events : History ChatSig} {rest : Prog ChatSig (Except ChatError (Option ChatTurnResult))}
    (hpath : Path (call.program service).run events rest) :
    CarriesToolResults events ↔ LastRoundRepeats events := by
  have hlawful := ((TurnCall.program_obeys service call).path hpath).1
  constructor
  · intro hcarries before e after hevents hsent result hresult
    obtain ⟨modelRequest, hrequest⟩ := Option.ne_none_iff_exists'.mp hsent
    have hcarried := hcarries before e after hevents modelRequest hrequest result (by
      rw [executed_results_eq]
      exact List.mem_append_left _ hresult)
    rwa [sent_request_tool_results (hlawful before e after hevents) hrequest] at hcarried
  · intro hrepeats before e after hevents modelRequest hrequest result hresult
    rw [sent_request_tool_results (hlawful before e after hevents) hrequest]
    rw [executed_results_eq] at hresult
    rcases List.mem_append.mp hresult with hearlier | hlast
    · exact hrepeats before e after hevents (by simp [hrequest]) result hearlier
    · exact hlast

/-! ## Turns of one tool round -/

/-- A history leaves no results of earlier tool rounds up to the second answer, and none at all
before the first. -/
structure EarlyResults (loop : LoopLog) (log : TurnLog) : Prop where
  earlier : loop.answers.length ≤ 1 → log.earlierResults = []
  last : loop.answers = [] → log.lastResults = []

/-- An answer of the model begins a round. -/
theorem EarlyResults.answered {loop : LoopLog} {log : TurnLog} (h : EarlyResults loop log)
    (calls : List ToolCall) (text : String) :
    EarlyResults (loop.answered calls) (log.answered text) where
  earlier hanswers := by
    have hnone : loop.answers = [] := by
      rw [LoopLog.answered, List.length_append, List.length_singleton] at hanswers
      exact List.eq_nil_of_length_eq_zero (by omega)
    rw [TurnLog.answered, h.last hnone, h.earlier (by simp [hnone])]
    rfl
  last hanswers := absurd hanswers (by simp [LoopLog.answered])

/-- The events of a turn keep it so. -/
theorem early_results {service : ChatService} {request : ChatTurnRequest}
    {events : History ChatSig}
    (hguard : ∀ before e after, events = before ++ e :: after → Loops service request before e) :
    EarlyResults (loopLog events) (turnLog events) := by
  induction events using List.reverseRecOn with
  | nil => exact ⟨fun _ => rfl, fun _ => rfl⟩
  | append_singleton events e ih =>
      have hbefore : EarlyResults (loopLog events) (turnLog events) := by
        refine ih fun before e' after hsplit => hguard before e' (after ++ [e]) ?_
        rw [hsplit, List.append_assoc]
        rfl
      have hlast := hguard events e [] rfl
      rw [loop_log_snoc, turn_log_snoc]
      obtain ⟨op, answer⟩ := e
      cases op with
      | complete modelRequest =>
          cases answer with
          | ok response => exact hbefore.answered _ _
          | error error => exact hbefore
      | stream modelRequest =>
          cases answer with
          | ok stream => exact hbefore.answered _ _
          | error error => exact hbefore
      | execute toolCall context =>
          -- A call is executed only after an answer that asks for it.
          have hanswered : (loopLog events).answers ≠ [] := by
            intro hnone
            have hnext := hlast.2.next
            rw [LoopLog.lastCalls, hnone] at hnext
            simp at hnext
          cases answer with
          | ok result => exact ⟨hbefore.earlier, fun hnone => absurd hnone hanswered⟩
          | error error => exact ⟨hbefore.earlier, fun hnone => absurd hnone hanswered⟩
      | appendMessages sessionId messages =>
          cases answer with
          | ok value => exact ⟨hbefore.earlier, hbefore.last⟩
          | error error => exact hbefore
      | yield event =>
          cases event with
          | toolRoundLimitReached | turnComplete => exact ⟨hbefore.earlier, hbefore.last⟩
          | _ => exact hbefore
      | _ => exact hbefore

/-- Tool rounds are only added. -/
theorem tool_rounds_le (before after : History ChatSig) :
    (loopLog before).toolRounds ≤ (loopLog (before ++ after)).toolRounds := by
  induction after using List.reverseRecOn with
  | nil => rw [List.append_nil]
  | append_singleton after e ih =>
      rw [← List.append_assoc, loop_log_snoc]
      refine ih.trans ?_
      obtain ⟨op, answer⟩ := e
      cases op with
      | complete | stream => cases answer <;> exact le_rfl
      | execute =>
          rw [LoopLog.record, LoopLog.execute]
          dsimp only
          split
          · exact Nat.le_succ _
          · exact le_rfl
      | yield event => cases event <;> exact le_rfl
      | _ => exact le_rfl

/-- The model is asked where the loop may ask it. -/
theorem asks_of_sent {service : ChatService} {request : ChatTurnRequest} {h : History ChatSig}
    {e : Event ChatSig} (he : Loops service request h e) {modelRequest : ModelRequest}
    (hsent : e.op.sentRequest = some modelRequest) :
    (loopLog h).Asks service modelRequest.toolResults := by
  obtain ⟨op, answer⟩ := e
  cases op with
  | complete sent =>
      cases hsent
      exact he.2
  | stream sent =>
      cases hsent
      exact he.2
  | _ => cases hsent

/-- As long as a turn goes through one tool round at most, its requests carry all results. -/
theorem carries_tool_results_of_one_round {service : ChatService} {call : TurnCall}
    {events : History ChatSig} {rest : Prog ChatSig (Except ChatError (Option ChatTurnResult))}
    (hpath : Path (call.program service).run events rest)
    (hrounds : (loopLog events).toolRounds ≤ 1) : CarriesToolResults events := by
  have hlawful := ((TurnCall.program_obeys service call).path hpath).1
  have hloops := ((TurnCall.program_loops service call).path hpath).1
  intro before e after hevents modelRequest hrequest result hresult
  -- Before the request there is one answer for each tool round.
  have hasks : (loopLog before).Asks service modelRequest.toolResults :=
    asks_of_sent (hloops before e after hevents) hrequest
  have hanswers : (loopLog before).answers.length ≤ 1 := by
    have hbefore := tool_rounds_le before (e :: after)
    rw [← hevents, hasks.rounds_eq] at hbefore
    exact hbefore.trans hrounds
  have hearly : EarlyResults (loopLog before) (turnLog before) := by
    refine early_results fun before' e' after' hsplit =>
      hloops before' e' (after' ++ e :: after) ?_
    rw [hevents, hsplit, List.append_assoc]
    rfl
  rw [executed_results_eq, hearly.earlier hanswers, List.nil_append] at hresult
  rw [sent_request_tool_results (hlawful before e after hevents) hrequest]
  exact hresult

/-! ## A turn of two tool rounds -/

/-- A model that asks for one tool call after the user message, for another one after the first
round, and answers after the second. -/
def twoToolRounds : TurnEnvironment :=
  { complete := fun request =>
      { provider := .openAi, model := request.model
        output := match request.messages.length with
          | 1 => [.toolCall ⟨"call_1", "lookup", "{}"⟩]
          | 2 => [.toolCall ⟨"call_2", "lookup", "{}"⟩]
          | _ => [.message ⟨.assistant, "done"⟩]
        stopReason := .endTurn, usage := {} }
    stream := fun _ => []
    execute := fun _ call _ => .ok ⟨call.id, "result of " ++ call.id⟩
    prior := fun _ => [] }

/-- The events of that turn. -/
def twoToolRoundsEvents : History ChatSig :=
  trace twoToolRounds.handle (TurnCall.program ⟨.default, true⟩ (.run helloTurn)).run {}

/-- In a turn with two tool rounds the results are carried exactly if the last round has those of
both. -/
theorem carries_tool_results_iff_two_rounds :
    CarriesToolResults twoToolRoundsEvents ↔ LastRoundRepeats twoToolRoundsEvents :=
  carries_tool_results_iff ⟨.default, true⟩ (.run helloTurn) (path_trace _ _ _)

/-- The last request of the turn lacks the result of the first tool call. -/
theorem tool_result_lost :
    (∃ rest, Path (TurnCall.program ⟨.default, true⟩ (.run helloTurn)).run
      twoToolRoundsEvents rest) ∧ ¬ CarriesToolResults twoToolRoundsEvents := by
  refine ⟨⟨_, path_trace _ _ _⟩, fun hcarries => ?_⟩
  have hexecuted : (⟨"call_1", "result of call_1"⟩ : ToolResult) ∈
      (twoToolRoundsEvents.take 10).filterMap executedResult := by decide +kernel
  have hsent : (twoToolRoundsEvents[10]?.bind fun e =>
      e.op.sentRequest.map ModelRequest.toolResults) =
        some [⟨"call_2", "result of call_2"⟩] := by decide +kernel
  obtain ⟨e, he, hsent⟩ := Option.bind_eq_some_iff.mp hsent
  obtain ⟨modelRequest, hrequest, hresults⟩ := Option.map_eq_some_iff.mp hsent
  obtain ⟨hlength, rfl⟩ := List.getElem?_eq_some_iff.mp he
  have hsplit := List.take_append_drop 10 twoToolRoundsEvents
  rw [List.drop_eq_getElem_cons hlength] at hsplit
  have hcarried := hcarries _ _ _ hsplit.symm modelRequest hrequest _ hexecuted
  rw [hresults] at hcarried
  exact absurd hcarried (by decide)

end Fiddlesticks.Chat
