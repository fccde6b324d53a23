import Fiddlesticks.Chat.Store
import Fiddlesticks.Memory.Backend

/-!
# Memory as a conversation store

`MemoryConversationStore` of the `fmemory` crate: a conversation store that keeps its transcripts
in a memory backend.
-/

namespace Fiddlesticks.Memory

open Effect Provider Chat

/-- `memory_error_to_chat_error`. -/
def memoryErrorToChatError (error : MemoryError) : ChatError :=
  (ChatError.store error.message).withPhase .storage

namespace MemoryConversationStore

/-- `MemoryConversationStore::load_messages` over the in-memory backend. -/
def loadMessages (backend : InMemoryMemoryBackend) (sessionId : SessionId) :
    Except ChatError (List Message) :=
  (backend.handle (.loadTranscriptMessages sessionId)).1.mapError memoryErrorToChatError

/-- `MemoryConversationStore::append_messages` over the in-memory backend. -/
def appendMessages (backend : InMemoryMemoryBackend) (sessionId : SessionId)
    (messages : List Message) : Except ChatError Unit × InMemoryMemoryBackend :=
  let (answer, backend) := backend.handle (.appendTranscriptMessages sessionId messages)
  (answer.mapError memoryErrorToChatError, backend)

/-- The store over the in-memory backend is atomic. -/
def atomicStore : AtomicStore InMemoryMemoryBackend where
  loadMessages := loadMessages
  appendMessages := appendMessages
  transcript backend sessionId := (backend.session sessionId).transcript
  load_ok {backend sessionId messages} h := by
    rw [loadMessages, InMemoryMemoryBackend.handle] at h
    split at h <;> cases h
    rfl
  append_ok {backend sessionId messages backend'} h := by
    have hsession := backend.handle_session (.appendTranscriptMessages sessionId messages)
    obtain rfl : _ = backend' := congrArg Prod.snd h
    cases hpoisoned : backend.poisoned with
    | true => simp [appendMessages, InMemoryMemoryBackend.handle, hpoisoned, Except.mapError] at h
    | false =>
        funext other
        dsimp only [appendMessages]
        rw [hsession, hpoisoned]
        by_cases hother : other = sessionId
        · subst hother
          simp [SessionState.apply, MemoryOp.sessionId]
        · simp [MemoryOp.sessionId, hother]
  append_error {backend sessionId messages error backend'} h := by
    cases hpoisoned : backend.poisoned with
    | true =>
        simp only [appendMessages, InMemoryMemoryBackend.handle, hpoisoned, if_true,
          Prod.mk.injEq] at h
        rw [← h.2]
    | false =>
        simp [appendMessages, InMemoryMemoryBackend.handle, hpoisoned, SessionState.apply,
          Except.mapError] at h

end MemoryConversationStore

end Fiddlesticks.Memory
