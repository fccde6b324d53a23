import Fiddlesticks.Chat.Commits
import Fiddlesticks.Chat.ConversationLog

/-!
# What is sent is what is stored

Any number of turns run over one atomic store. The requests of a turn carry the system prompt, the
transcript loaded at its start, the user message and the assistant messages of the rounds so far.
A turn that nobody disturbs commits exactly the part that the store does not have, so that the next
turn of the session resumes from the same conversation.
-/

namespace Fiddlesticks.Chat

open Effect Prog Provider

variable {σ ι : Type}

/-! ## Logs along a history -/

/-- Rounds are only ever added, and a loaded transcript stays. -/
theorem conversationLog_append (h rest : History ChatSig) :
    (conversationLog h).texts <+: (conversationLog (h ++ rest)).texts ∧
      ∀ prior, (conversationLog h).loaded = some prior →
        (conversationLog (h ++ rest)).loaded = some prior := by
  induction rest using List.reverseRecOn with
  | nil => simp
  | append_singleton rest e ih =>
      obtain ⟨htexts, hloaded⟩ := ih
      rw [← List.append_assoc, conversation_log_snoc]
      obtain ⟨op, answer⟩ := e
      cases op with
      | loadMessages sessionId =>
          cases answer with
          | error error => exact ⟨htexts, hloaded⟩
          | ok messages =>
              refine ⟨htexts, fun prior hprior => ?_⟩
              simp [ConversationLog.record, hloaded prior hprior]
      | complete sent =>
          cases answer with
          | error error => exact ⟨htexts, hloaded⟩
          | ok response => exact ⟨htexts.trans (List.prefix_append _ _), hloaded⟩
      | stream sent =>
          cases answer with
          | error error => exact ⟨htexts, hloaded⟩
          | ok events => exact ⟨htexts.trans (List.prefix_append _ _), hloaded⟩
      | appendMessages sessionId messages => exact ⟨htexts, hloaded⟩
      | execute toolCall context => exact ⟨htexts, hloaded⟩
      | yield event => exact ⟨htexts, hloaded⟩
      | hook event => exact ⟨htexts, hloaded⟩
      | sleep delay => exact ⟨htexts, hloaded⟩
      | panic => exact answer.elim

/-- Requests of the same round carry the same conversation. -/
theorem ConversationLog.Carries.same_round {service : ChatService} {request : ChatTurnRequest}
    {h rest : History ChatSig} {sent again : ModelRequest}
    (hsent : (conversationLog h).Carries service request sent)
    (hagain : (conversationLog (h ++ rest)).Carries service request again)
    (hround : (conversationLog (h ++ rest)).texts.length = (conversationLog h).texts.length) :
    again.messages = sent.messages ∧ again.options.temperature = sent.options.temperature ∧
      again.options.maxTokens = sent.options.maxTokens := by
  obtain ⟨hmessages, htemperature, hmaxTokens⟩ := hsent
  obtain ⟨hmessages', htemperature', hmaxTokens'⟩ := hagain
  obtain ⟨htexts, hloaded⟩ := conversationLog_append h rest
  have hsame : (conversationLog (h ++ rest)).texts = (conversationLog h).texts :=
    (htexts.eq_of_length hround.symm).symm
  obtain ⟨prior, hprior, hconversation⟩ := Option.map_eq_some_iff.mp hmessages
  rw [ConversationLog.conversation, hloaded prior hprior, ConversationLog.block, hsame,
    Option.map_some, Option.some.injEq] at hmessages'
  refine ⟨?_, htemperature'.trans htemperature.symm, hmaxTokens'.trans hmaxTokens.symm⟩
  rw [← hmessages', ← hconversation, ConversationLog.block]

/-! ## Turns over one store -/

section

variable [DecidableEq ι]

/-- No other turn commits to the session in this part of a trace. -/
def Undisturbed (i : ι) (sessionId : SessionId) (trace : Trace ChatSig ι) : Prop :=
  ∀ entry ∈ trace, entry.1 ≠ i → ∀ commit, commitOf entry = some commit →
    commit.sessionId ≠ sessionId

/-- What holds of the conversations of a run of turns. -/
structure SentIsStored (store : AtomicStore σ) (services : ι → ChatService) (calls : ι → TurnCall)
    (trace : Trace ChatSig ι)
    (final : Pool ChatSig ι σ (Except ChatError (Option ChatTurnResult))) : Prop where
  /-- A request carries the system prompt, the loaded transcript, the user message and the
  assistant messages of the rounds before it, with the options of the turn. -/
  sent : ∀ before i e after request, trace = before ++ (i, e) :: after →
    e.op.sentRequest = some request →
    (conversationLog (localHistory i before)).Carries (services i) (calls i).request request
  /-- The requests of one round carry the same messages and options. -/
  retried : ∀ before i e during e' after request again,
    trace = before ++ (i, e) :: during ++ (i, e') :: after →
    e.op.sentRequest = some request → e'.op.sentRequest = some again →
    (conversationLog (localHistory i (before ++ (i, e) :: during))).texts.length =
      (conversationLog (localHistory i before)).texts.length →
    again.messages = request.messages ∧
      again.options.temperature = request.options.temperature ∧
      again.options.maxTokens = request.options.maxTokens
  /-- After the commit of a turn that was not disturbed since it loaded the transcript, the last
  request and the final assistant message are the system prompt and the stored transcript, and so
  is what the next turn loads. -/
  stored : ∀ before i loadedId prior during sessionId messages,
    trace = before ++ (i, ⟨.loadMessages loadedId, .ok prior⟩) :: during ++
      [(i, ⟨.appendMessages sessionId messages, .ok ()⟩)] →
    Undisturbed i sessionId during →
    ∃ request text,
      (conversationLog (localHistory i trace)).lastSent = some request ∧
      (conversationLog (localHistory i trace)).texts.getLast? = some text ∧
      request.messages ++ [(⟨.assistant, text⟩ : Message)] =
        systemMessages (calls i).request.session ++ store.transcript final.shared sessionId ∧
      ∀ resumed, store.loadMessages final.shared (calls i).request.session.id = .ok resumed →
        systemMessages (calls i).request.session ++ resumed =
          request.messages ++ [(⟨.assistant, text⟩ : Message)]

/-- The transcript after an undisturbed turn is what it loaded and what it committed. -/
theorem transcript_undisturbed {store : AtomicStore σ} {services : ι → ChatService}
    {calls : ι → TurnCall} {initial : σ} {before during : Trace ChatSig ι} {i : ι}
    {sessionId : SessionId} {prior messages : List Message}
    {final : Pool ChatSig ι σ (Except ChatError (Option ChatTurnResult))}
    (hrun : Pool.Run store.Act (turnPool services calls initial)
      (before ++ (i, ⟨.loadMessages sessionId, .ok prior⟩) :: during ++
        [(i, ⟨.appendMessages sessionId messages, .ok ()⟩)]) final)
    (hundisturbed : Undisturbed i sessionId during) :
    store.transcript final.shared sessionId = prior ++ messages := by
  have hstored := run_transcript hrun sessionId
  have honce := run_commits_once hrun
  rw [List.append_assoc] at hrun
  obtain ⟨P, hbefore, hrest⟩ := hrun.split
  obtain ⟨shared, hload, -⟩ := hrest.head
  -- the turn commits once, so its commit is not among those since it loaded
  have hnone : (commits during).filter (·.sessionId = sessionId) = [] := by
    rw [List.filter_eq_nil_iff]
    intro commit hcommit
    obtain ⟨entry, hentry, hcommitOf⟩ := List.mem_filterMap.mp hcommit
    by_cases hturn : entry.1 = i
    · rw [commits_snoc, List.map_append, List.nodup_append] at honce
      refine absurd rfl (honce.2.2 i ?_ i (by simp [commitOf]))
      rw [← hturn, ← commitOf_turn hcommitOf]
      refine List.mem_map_of_mem (List.mem_filterMap.mpr ⟨entry, ?_, hcommitOf⟩)
      simp [hentry]
    · simpa using hundisturbed entry hentry hturn commit hcommitOf
  have hduring : blocks sessionId (commits during) = [] := by
    rw [blocks, hnone, List.flatMap_nil]
  have hcommit : blocks sessionId [(⟨i, sessionId, messages⟩ : Commit ι)] = messages := by
    simp [blocks]
  have hcommits : commits (before ++ (i, ⟨.loadMessages sessionId, .ok prior⟩) :: during ++
      [(i, ⟨.appendMessages sessionId messages, .ok ()⟩)]) =
      commits before ++ commits during ++ [⟨i, sessionId, messages⟩] := by
    rw [commits_snoc, commits_append]
    rfl
  rw [hstored, hcommits, blocks_append, blocks_append, hduring, hcommit,
    List.append_nil, ← List.append_assoc, store.load_ok hload.symm, run_transcript hbefore]

/-- The conversations of any number of turns over one store, in any interleaving and with any
answers of the provider and the tools. -/
theorem sent_is_stored (store : AtomicStore σ) (services : ι → ChatService)
    (calls : ι → TurnCall) (initial : σ) {trace : Trace ChatSig ι}
    {final : Pool ChatSig ι σ (Except ChatError (Option ChatTurnResult))}
    (hrun : Pool.Run store.Act (turnPool services calls initial) trace final) :
    SentIsStored store services calls trace final := by
  have hguard := hrun.guard (P := turnPool services calls initial)
    fun i => TurnCall.converses (services i) (calls i)
  have hsent : ∀ before i e after request, trace = before ++ (i, e) :: after →
      e.op.sentRequest = some request →
      (conversationLog (localHistory i before)).Carries (services i) (calls i).request request := by
    intro before i e after request htrace hrequest
    have hallowed := hguard before (i, e) after htrace
    obtain ⟨op, answer⟩ := e
    cases op with
    | complete sent =>
        cases hrequest
        exact hallowed
    | stream sent =>
        cases hrequest
        exact hallowed
    | _ => cases hrequest
  refine ⟨hsent, ?_, ?_⟩
  · intro before i e during e' after request again htrace hrequest hagain hround
    have hfirst := hsent before i e (during ++ (i, e') :: after) request (by simp [htrace]) hrequest
    have hlater := hsent (before ++ (i, e) :: during) i e' after again htrace hagain
    rw [local_history_append] at hlater hround
    exact hfirst.same_round hlater hround
  · rintro before i loadedId prior during sessionId messages rfl hundisturbed
    obtain ⟨hloadedId, hempty⟩ := hguard before (i, ⟨.loadMessages loadedId, .ok prior⟩)
      (during ++ [(i, ⟨.appendMessages sessionId messages, .ok ()⟩)]) (by simp)
    obtain ⟨hsession, hmessages, request, text, hlast, htext, hconversation⟩ := hguard
      (before ++ (i, ⟨.loadMessages loadedId, .ok prior⟩) :: during)
      (i, ⟨.appendMessages sessionId messages, .ok ()⟩) [] rfl
    dsimp only at hloadedId hempty hsession hmessages hlast htext hconversation
    subst hloadedId hsession
    -- No other turn has committed since this one loaded, so the transcript is still what it loaded.
    have hstored := transcript_undisturbed hrun hundisturbed
    have hloaded : (conversationLog (localHistory i (before ++
        (i, ⟨.loadMessages (calls i).request.session.id, .ok prior⟩) :: during))).loaded =
          some prior := by
      rw [List.append_cons, local_history_append, local_history_append, local_history_same]
      refine (conversationLog_append _ _).2 prior ?_
      rw [conversation_log_snoc, hempty]
      rfl
    rw [ConversationLog.conversation, hloaded, Option.map_some, Option.some.injEq, ← hmessages,
      List.append_assoc, ← hstored] at hconversation
    have hsame : conversationLog (localHistory i (before ++
        (i, ⟨.loadMessages (calls i).request.session.id, .ok prior⟩) :: during ++
          [(i, ⟨.appendMessages (calls i).request.session.id messages, .ok ()⟩)])) =
        conversationLog (localHistory i (before ++
          (i, ⟨.loadMessages (calls i).request.session.id, .ok prior⟩) :: during)) := by
      rw [local_history_append, local_history_same, conversation_log_snoc]
      rfl
    rw [hsame]
    refine ⟨request, text, hlast, htext, hconversation.symm, fun resumed hresumed => ?_⟩
    rw [store.load_ok hresumed, hconversation]

end

/-- Two turns on one session, the second of which resumes from the first, over either store. -/
theorem sent_is_stored_hi :
    (∃ trace final, (commits trace).length = 2 ∧
      SentIsStored InMemoryConversationStore.atomicStore (fun _ => ⟨.default, false⟩) hiCalls trace
        final) ∧
    ∃ trace final, (commits trace).length = 2 ∧
      SentIsStored Memory.MemoryConversationStore.atomicStore (fun _ => ⟨.default, false⟩) hiCalls
        trace final := by
  refine ⟨?_, ?_⟩
  · obtain ⟨trace, final, hlength, hrun⟩ := hiPool_run _ hiCommits_conversations
    exact ⟨trace, final, hlength, sent_is_stored _ _ _ _ hrun⟩
  · obtain ⟨trace, final, hlength, hrun⟩ := hiPool_run _ hiCommits_memory
    exact ⟨trace, final, hlength, sent_is_stored _ _ _ _ hrun⟩

end Fiddlesticks.Chat
