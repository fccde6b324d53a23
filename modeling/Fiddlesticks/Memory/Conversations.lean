import Fiddlesticks.Chat.Commits
import Fiddlesticks.Memory.Adapter
import Fiddlesticks.Memory.Imitation

/-!
# Turns over a memory

Any number of turns run over a `MemoryConversationStore`. Whatever backend it is given, they can do
exactly what they can over an `InMemoryConversationStore`.
-/

namespace Fiddlesticks.Memory.MemoryConversationStore

open Effect Prog Provider Chat

variable {ι σ : Type}

/-- The store over a backend answers its own operations; all other answers are arbitrary and leave
it alone. -/
def Act (serves : ι → σ → Event MemorySig → σ → Prop) (i : ι) (backend : σ) :
    Event ChatSig → σ → Prop
  | ⟨.loadMessages sessionId, answer⟩, backend' =>
      ∃ loaded, serves i backend ⟨.loadTranscriptMessages sessionId, loaded⟩ backend' ∧
        answer = Except.mapError memoryErrorToChatError loaded
  | ⟨.appendMessages sessionId messages, answer⟩, backend' =>
      ∃ appended,
        serves i backend ⟨.appendTranscriptMessages sessionId messages, appended⟩ backend' ∧
          answer = Except.mapError memoryErrorToChatError appended
  | _, backend' => backend' = backend

/-- What turns can do in an environment: the events that they can run through, and what is left of
each of them then. -/
def TurnsPossible [DecidableEq ι] (act : ι → σ → Event ChatSig → σ → Prop) (store : σ)
    (services : ι → ChatService) (calls : ι → TurnCall) (trace : Trace ChatSig ι)
    (procs' : ι → Prog ChatSig (Except ChatError (Option ChatTurnResult))) : Prop :=
  ∃ store', Pool.Run act (turnPool services calls store) trace ⟨store', procs'⟩

/-! ## Stores that hold the transcripts of a memory -/

/-- A store holds the transcripts of a memory. -/
structure Holds (memory : InMemoryMemoryBackend) (store : InMemoryConversationStore) : Prop where
  memoryNotPoisoned : memory.poisoned = false
  notPoisoned : store.poisoned = false
  transcript : ∀ sessionId,
    (memory.session sessionId).transcript = (store.sessions sessionId).getD []

/-- New stores hold the same transcripts, none. -/
theorem holds_new : Holds .new .new :=
  ⟨rfl, rfl, fun _ => rfl⟩

variable {memory : InMemoryMemoryBackend} {store : InMemoryConversationStore}

/-- Loading a transcript from either gives the same. -/
theorem Holds.load (h : Holds memory store) (sessionId : SessionId) :
    InMemoryMemoryBackend.handle (.loadTranscriptMessages sessionId) memory =
        (.ok (memory.session sessionId).transcript, memory) ∧
      store.loadMessages sessionId = .ok (memory.session sessionId).transcript := by
  constructor
  · rw [InMemoryMemoryBackend.handle, if_neg (by simp [h.memoryNotPoisoned])]
    rfl
  · rw [InMemoryConversationStore.loadMessages, if_neg (by simp [h.notPoisoned]), h.transcript]

/-- Appending to a transcript of both keeps them alike. -/
theorem Holds.append (h : Holds memory store) (sessionId : SessionId) (messages : List Message) :
    ∃ memory' store',
      InMemoryMemoryBackend.handle (.appendTranscriptMessages sessionId messages) memory =
          (.ok (), memory') ∧
        store.appendMessages sessionId messages = (.ok (), store') ∧ Holds memory' store' := by
  have hsession :=
    InMemoryMemoryBackend.handle_session (.appendTranscriptMessages sessionId messages) memory
  obtain ⟨hanswer, hpoisoned⟩ := InMemoryMemoryBackend.handle_of_not_poisoned
    (.appendTranscriptMessages sessionId messages) h.memoryNotPoisoned
  rw [if_neg (by simp [h.memoryNotPoisoned])] at hsession
  have happend : store.appendMessages sessionId messages = (.ok (), { store with
      sessions := Function.update store.sessions sessionId
        (some ((store.sessions sessionId).getD [] ++ messages)) }) := by
    rw [InMemoryConversationStore.appendMessages, if_neg (by simp [h.notPoisoned])]
  refine ⟨_, _, Prod.ext hanswer rfl, happend, hpoisoned, h.notPoisoned, fun other => ?_⟩
  rw [hsession]
  by_cases hother : other = sessionId
  · subst hother
    simp [MemoryOp.sessionId, SessionState.apply, h.transcript]
  · simp [MemoryOp.sessionId, hother, h.transcript]

/-! ## Both stores answer alike -/

variable {R : σ → InMemoryMemoryBackend → Prop} {serves : ι → σ → Event MemorySig → σ → Prop}

/-- Both stores hold the transcripts of one memory. -/
def SameTranscripts (R : σ → InMemoryMemoryBackend → Prop) (backend : σ)
    (store : InMemoryConversationStore) : Prop :=
  ∃ memory, R backend memory ∧ Holds memory store

/-- What the store over a backend answers, the in-memory store can answer. -/
theorem act_forth (himitates : Imitates MemoryOp.IsTranscript R serves
      (Performs InMemoryMemoryBackend.handle)) {i : ι} {backend backend' : σ}
    {store : InMemoryConversationStore} {e : Event ChatSig}
    (hsame : SameTranscripts R backend store) (hact : Act serves i backend e backend') :
    ∃ store', InMemoryConversationStore.atomicStore.Act i store e store' ∧
      SameTranscripts R backend' store' := by
  obtain ⟨memory, hR, hholds⟩ := hsame
  obtain ⟨op, answer⟩ := e
  cases op with
  | loadMessages sessionId =>
      obtain ⟨loaded, hserves, rfl⟩ := hact
      obtain ⟨memory', hperforms, hR'⟩ :=
        himitates i _ _ (.loadTranscriptMessages sessionId) _ _ hR trivial hserves
      obtain ⟨hmemory, hstore⟩ := hholds.load sessionId
      obtain ⟨rfl, rfl⟩ := Prod.mk.inj (hmemory.symm.trans hperforms)
      exact ⟨store, ⟨hstore.symm, rfl⟩, memory, hR', hholds⟩
  | appendMessages sessionId messages =>
      obtain ⟨appended, hserves, rfl⟩ := hact
      obtain ⟨memory', hperforms, hR'⟩ :=
        himitates i _ _ (.appendTranscriptMessages sessionId messages) _ _ hR trivial hserves
      obtain ⟨_, store', hmemory, hstore, hholds'⟩ := hholds.append sessionId messages
      obtain ⟨rfl, rfl⟩ := Prod.mk.inj (hmemory.symm.trans hperforms)
      exact ⟨store', hstore, _, hR', hholds'⟩
  | _ =>
      obtain rfl := hact
      exact ⟨store, rfl, memory, hR, hholds⟩

/-- What the in-memory store answers, the store over a backend can answer. -/
theorem act_back (himitates : Imitates MemoryOp.IsTranscript
      (fun memory backend => R backend memory) (Performs InMemoryMemoryBackend.handle) serves)
    {i : ι} {backend : σ} {store store' : InMemoryConversationStore} {e : Event ChatSig}
    (hsame : SameTranscripts R backend store)
    (hact : InMemoryConversationStore.atomicStore.Act i store e store') :
    ∃ backend', Act serves i backend e backend' ∧ SameTranscripts R backend' store' := by
  obtain ⟨memory, hR, hholds⟩ := hsame
  obtain ⟨op, answer⟩ := e
  cases op with
  | loadMessages sessionId =>
      obtain ⟨rfl, rfl⟩ := hact
      obtain ⟨hmemory, hstore⟩ := hholds.load sessionId
      obtain ⟨backend', hserves, hR'⟩ :=
        himitates i _ _ (.loadTranscriptMessages sessionId) _ _ hR trivial hmemory
      exact ⟨backend', ⟨_, hserves, hstore⟩, memory, hR', hholds⟩
  | appendMessages sessionId messages =>
      obtain ⟨memory', next, hmemory, hstore, hholds'⟩ := hholds.append sessionId messages
      obtain ⟨rfl, rfl⟩ := Prod.mk.inj (hstore.symm.trans hact)
      obtain ⟨backend', hserves, hR'⟩ :=
        himitates i _ _ (.appendTranscriptMessages sessionId messages) _ _ hR trivial hmemory
      exact ⟨backend', ⟨_, hserves, rfl⟩, memory', hR', hholds'⟩
  | _ =>
      obtain rfl := hact
      exact ⟨backend, rfl, memory, hR, hholds⟩

section

variable [DecidableEq ι] {services : ι → ChatService} {calls : ι → TurnCall}
  {trace : Trace ChatSig ι} {procs' : ι → Prog ChatSig (Except ChatError (Option ChatTurnResult))}

/-- Turns over a backend that is like the in-memory one can do what they can over an in-memory
store. -/
theorem turnsPossible_iff (halike : Alike MemoryOp.IsTranscript R serves
      (Performs InMemoryMemoryBackend.handle)) {backend : σ}
    (hsame : SameTranscripts R backend store) :
    TurnsPossible (Act serves) backend services calls trace procs' ↔
      TurnsPossible InMemoryConversationStore.atomicStore.Act store services calls trace
        procs' := by
  have hforth : ∀ {i backend store} {e : Event ChatSig} {backend'},
      SameTranscripts R backend store → True → True → Act serves i backend e backend' →
        ∃ store', InMemoryConversationStore.atomicStore.Act i store e store' ∧
          SameTranscripts R backend' store' :=
    fun hsame _ _ hact => act_forth halike.forth hsame hact
  have hback : ∀ {i store backend} {e : Event ChatSig} {store'},
      SameTranscripts R backend store → True → True →
        InMemoryConversationStore.atomicStore.Act i store e store' →
        ∃ backend', Act serves i backend e backend' ∧ SameTranscripts R backend' store' :=
    fun hsame _ _ hact => act_back halike.back hsame hact
  constructor
  · rintro ⟨_, hrun⟩
    obtain ⟨store', hrun', -⟩ :=
      hrun.simulate hforth (fun _ => relies_true _) (fun _ _ => trivial) hsame
    exact ⟨store', hrun'⟩
  · rintro ⟨_, hrun⟩
    obtain ⟨backend', hrun', -⟩ :=
      hrun.simulate (R := fun store backend => SameTranscripts R backend store) hback
        (fun _ => relies_true _) (fun _ _ => trivial) hsame
    exact ⟨backend', hrun'⟩

/-- Turns over a `MemoryConversationStore` can do, in any interleaving and with any answers of the
provider and the tools, exactly what they can over an `InMemoryConversationStore` that holds the
same transcripts. So it is with each of the four backends. -/
theorem turns_possible_iff {J : Type} (json : StateJson J) (hwrites : Filesystem.WritesAll json)
    (lib : Sqlite.Libraries) (memory : InMemoryMemoryBackend)
    (files : Filesystem.FilesystemMemoryBackend J) (tables : Sqlite.SqliteMemoryBackend)
    (db : Postgres.Database ι J) (hfiles : Filesystem.Simulates json files memory)
    (htables : Sqlite.Simulates lib tables memory) (hdb : Postgres.Simulates json db memory)
    (store : InMemoryConversationStore) (hholds : Holds memory store)
    (services : ι → ChatService) (calls : ι → TurnCall) (trace : Trace ChatSig ι)
    (procs' : ι → Prog ChatSig (Except ChatError (Option ChatTurnResult))) :
    (TurnsPossible (Act (Performs InMemoryMemoryBackend.handle)) memory services calls trace
        procs' ↔
      TurnsPossible InMemoryConversationStore.atomicStore.Act store services calls trace procs') ∧
    (TurnsPossible (Act (Performs (Filesystem.FilesystemMemoryBackend.perform json))) files services
        calls trace procs' ↔
      TurnsPossible InMemoryConversationStore.atomicStore.Act store services calls trace procs') ∧
    (TurnsPossible (Act (Performs (Sqlite.SqliteMemoryBackend.perform lib))) tables services calls
        trace procs' ↔
      TurnsPossible InMemoryConversationStore.atomicStore.Act store services calls trace procs') ∧
    (TurnsPossible (Act (PerformsOnPostgres json False)) db services calls trace procs' ↔
      TurnsPossible InMemoryConversationStore.atomicStore.Act store services calls trace
        procs') := by
  have hself : Alike MemoryOp.IsTranscript Eq (Performs InMemoryMemoryBackend.handle : ι → _)
      (Performs InMemoryMemoryBackend.handle) :=
    alike_of_performs fun hsame _ => hsame ▸ ⟨rfl, rfl⟩
  have hfilesystem := (filesystem_alike (ι := ι) hwrites).mono
    fun _ => MemoryOp.IsTranscript.admissible
  have hpostgres := (postgres_alike (ι := ι) hwrites).mono
    fun _ => MemoryOp.IsTranscript.admissible
  exact ⟨turnsPossible_iff hself ⟨memory, rfl, hholds⟩,
    turnsPossible_iff hfilesystem ⟨memory, hfiles, hholds⟩,
    turnsPossible_iff (sqlite_alike_transcript lib) ⟨memory, htables, hholds⟩,
    turnsPossible_iff hpostgres ⟨memory, hdb, hholds⟩⟩

end

/-- Two turns on one session over a filesystem, over SQLite and over Postgres. -/
theorem turns_possible_hi : ∃ trace procs', (commits trace).length = 2 ∧
    TurnsPossible (Act (Performs (Filesystem.FilesystemMemoryBackend.perform .plain)))
      (.new ["data"]) (fun _ => ⟨.default, false⟩) hiCalls trace procs' ∧
    TurnsPossible (Act (Performs (Sqlite.SqliteMemoryBackend.perform .compact))) .new
      (fun _ => ⟨.default, false⟩) hiCalls trace procs' ∧
    TurnsPossible (Act (PerformsOnPostgres .plain False)) (fun _ => {})
      (fun _ => ⟨.default, false⟩) hiCalls trace procs' := by
  obtain ⟨trace, ⟨shared, procs'⟩, hlength, hrun⟩ :=
    hiPool_run _ hiCommits_conversations
  obtain ⟨-, hfiles, htables, hdb⟩ := turns_possible_iff .plain (fun document => ⟨document, rfl⟩)
    .compact .new (.new ["data"]) .new (fun _ => {} : Postgres.Database Bool _)
    (Filesystem.simulates_new .plain ["data"]) (Sqlite.simulates_new .compact)
    (Postgres.simulates_empty .plain) .new holds_new _ _ trace procs'
  exact ⟨trace, procs', hlength, hfiles.mpr ⟨shared, hrun⟩, htables.mpr ⟨shared, hrun⟩,
    hdb.mpr ⟨shared, hrun⟩⟩

end Fiddlesticks.Memory.MemoryConversationStore
