import Fiddlesticks.Chat.Types

/-!
# Conversation stores

`ConversationStore` of the `fchat` crate as a state with two atomic operations, and its in-memory
implementation.
-/

namespace Fiddlesticks.Chat

open Provider

/-- A conversation store whose operations are atomic: a load returns the stored transcript, a
successful append extends it, and a failing append changes no transcript. -/
structure AtomicStore (σ : Type) where
  loadMessages : σ → SessionId → Except ChatError (List Message)
  appendMessages : σ → SessionId → List Message → Except ChatError Unit × σ
  transcript : σ → SessionId → List Message
  load_ok : ∀ {store sessionId messages}, loadMessages store sessionId = .ok messages →
    messages = transcript store sessionId
  append_ok : ∀ {store sessionId messages store'},
    appendMessages store sessionId messages = (.ok (), store') →
    transcript store' = Function.update (transcript store) sessionId
      (transcript store sessionId ++ messages)
  append_error : ∀ {store sessionId messages error store'},
    appendMessages store sessionId messages = (.error error, store') →
    transcript store' = transcript store

/-! ## The in-memory store -/

/-- `InMemoryConversationStore`: a mutex around a map from sessions to messages. -/
structure InMemoryConversationStore where
  sessions : SessionId → Option (List Message)
  poisoned : Bool

namespace InMemoryConversationStore

/-- `InMemoryConversationStore::new`. -/
def new : InMemoryConversationStore :=
  { sessions := fun _ => none, poisoned := false }

/-- `InMemoryConversationStore::load_messages`. -/
def loadMessages (store : InMemoryConversationStore) (sessionId : SessionId) :
    Except ChatError (List Message) :=
  if store.poisoned then .error (.store "conversation store lock poisoned")
  else .ok ((store.sessions sessionId).getD [])

/-- `InMemoryConversationStore::append_messages`. -/
def appendMessages (store : InMemoryConversationStore) (sessionId : SessionId)
    (messages : List Message) : Except ChatError Unit × InMemoryConversationStore :=
  if store.poisoned then (.error (.store "conversation store lock poisoned"), store)
  else
    (.ok (), { store with
      sessions := Function.update store.sessions sessionId
        (some ((store.sessions sessionId).getD [] ++ messages)) })

/-- The in-memory store is atomic. -/
def atomicStore : AtomicStore InMemoryConversationStore where
  loadMessages := loadMessages
  appendMessages := appendMessages
  transcript store sessionId := (store.sessions sessionId).getD []
  load_ok {store sessionId messages} h := by
    rw [loadMessages] at h
    split at h <;> cases h
    rfl
  append_ok {store sessionId messages store'} h := by
    rw [appendMessages] at h
    split at h <;> cases h
    funext other
    by_cases hother : other = sessionId
    · subst hother
      simp
    · simp [hother]
  append_error {store sessionId messages error store'} h := by
    rw [appendMessages] at h
    split at h <;> cases h
    rfl

end InMemoryConversationStore

end Fiddlesticks.Chat
