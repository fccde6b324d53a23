import Fiddlesticks.Chat.Environment
import Fiddlesticks.Effect.Pool
import Fiddlesticks.Memory.Adapter

/-!
# Transcripts are made of whole turns

Any number of turns run over one atomic store, in any interleaving and with any answers of the
provider and the tools. Every transcript is its initial messages followed by the blocks of the
turns that have committed, in the order of the commits.
-/

namespace Fiddlesticks.Chat

open Effect Prog Provider

variable {σ ι : Type}

/-- The store answers its own operations; all other answers are arbitrary and leave it alone. -/
def AtomicStore.Act (store : AtomicStore σ) (_ : ι) (s : σ) : Event ChatSig → σ → Prop
  | ⟨.loadMessages sessionId, answer⟩, s' => answer = store.loadMessages s sessionId ∧ s' = s
  | ⟨.appendMessages sessionId messages, answer⟩, s' =>
      store.appendMessages s sessionId messages = (answer, s')
  | _, s' => s' = s

/-- A successful append of a turn. -/
structure Commit (ι : Type) where
  turn : ι
  sessionId : SessionId
  messages : List Message

/-- The commit that an event makes. -/
def commitOf : ι × Event ChatSig → Option (Commit ι)
  | (i, ⟨.appendMessages sessionId messages, .ok ()⟩) => some ⟨i, sessionId, messages⟩
  | _ => none

/-- The commits of a run, in order. -/
def commits (trace : Trace ChatSig ι) : List (Commit ι) :=
  trace.filterMap commitOf

/-- The blocks of a session, in commit order. -/
def blocks (sessionId : SessionId) (commits : List (Commit ι)) : List Message :=
  (commits.filter (·.sessionId = sessionId)).flatMap (·.messages)

/-- The pool that runs a family of turns over one store. -/
def turnPool (services : ι → ChatService) (calls : ι → TurnCall) (initial : σ) :
    Pool ChatSig ι σ (Except ChatError (Option ChatTurnResult)) :=
  ⟨initial, fun i => ((calls i).program (services i)).run⟩

/-- What holds of the transcripts after a run of turns. -/
structure WholeTurns [DecidableEq ι] (store : AtomicStore σ) (calls : ι → TurnCall) (initial : σ)
    (trace : Trace ChatSig ι)
    (final : Pool ChatSig ι σ (Except ChatError (Option ChatTurnResult))) : Prop where
  /-- A transcript is its initial messages and the committed blocks. -/
  transcript : ∀ sessionId, store.transcript final.shared sessionId =
    store.transcript initial sessionId ++ blocks sessionId (commits trace)
  /-- A turn commits at most once. -/
  once : ((commits trace).map Commit.turn).Nodup
  /-- A commit is the block of all model rounds of the turn, in the turn's session. -/
  block : ∀ before i e after commit, trace = before ++ (i, e) :: after →
    commitOf (i, e) = some commit → commit.turn = i ∧
      commit.sessionId = (calls i).request.session.id ∧
      commit.messages = (turnLog (localHistory i before)).block (calls i).request ∧
      (turnLog (localHistory i before)).roundTexts.length =
        (turnLog (localHistory i before)).toolRounds + 1
  /-- A turn that returns has committed. -/
  returned : ∀ i result, final.procs i = .pure (.ok result) →
    i ∈ (commits trace).map Commit.turn
  /-- A turn that fails has not. -/
  failed : ∀ i error, final.procs i = .pure (.error error) →
    i ∉ (commits trace).map Commit.turn
  /-- The commit of a turn comes before its `TurnComplete`. -/
  complete : ∀ before i result after,
    trace = before ++ (i, ⟨.yield (.turnComplete result), ()⟩) :: after →
    i ∈ (commits before).map Commit.turn

/-- An event adds its commit to the log of its turn. -/
theorem record_commits (log : TurnLog) (i : ι) (e : Event ChatSig) :
    (log.record e).commits = log.commits ++ (commitOf (i, e)).toList.map fun commit =>
      (commit.sessionId, commit.messages) := by
  obtain ⟨op, answer⟩ := e
  cases op with
  | yield event => simp [TurnLog.record, commitOf]
  | hook event => simp [TurnLog.record, commitOf]
  | sleep delay => simp [TurnLog.record, commitOf]
  | _ => cases answer <;> simp [TurnLog.record, TurnLog.answered, commitOf]

/-- A commit is made by the turn whose event it is. -/
theorem commitOf_turn {entry : ι × Event ChatSig} {commit : Commit ι}
    (h : commitOf entry = some commit) : commit.turn = entry.1 := by
  unfold commitOf at h
  split at h <;> cases h
  rfl

/-- The last entry adds its commit. -/
@[simp] theorem commits_snoc (trace : Trace ChatSig ι) (entry : ι × Event ChatSig) :
    commits (trace ++ [entry]) = commits trace ++ (commitOf entry).toList := by
  rw [commits, List.filterMap_append]
  cases h : commitOf entry <;> simp [commits, h]

/-- The commits of a trace are those of each part. -/
theorem commits_append (first rest : Trace ChatSig ι) :
    commits (first ++ rest) = commits first ++ commits rest :=
  List.filterMap_append

/-- The blocks of commits are those of each part. -/
theorem blocks_append (sessionId : SessionId) (first rest : List (Commit ι)) :
    blocks sessionId (first ++ rest) = blocks sessionId first ++ blocks sessionId rest := by
  simp [blocks]

/-- A step changes the transcripts by its commit. -/
theorem AtomicStore.Act.transcript {store : AtomicStore σ} {i : ι} {s s' : σ} {e : Event ChatSig}
    (hact : store.Act i s e s') (sessionId : SessionId) :
    store.transcript s' sessionId =
      store.transcript s sessionId ++ blocks sessionId (commitOf (i, e)).toList := by
  obtain ⟨op, answer⟩ := e
  cases op with
  | appendMessages sid messages =>
      cases answer with
      | ok value =>
          rw [store.append_ok hact]
          by_cases hsid : sessionId = sid
          · subst hsid
            simp [commitOf, blocks]
          · simp [commitOf, blocks, hsid, Ne.symm hsid]
      | error error => simp [commitOf, blocks, store.append_error hact]
  | loadMessages sid =>
      obtain ⟨_, rfl⟩ := hact
      simp [commitOf, blocks]
  | _ =>
      obtain rfl := hact
      simp [commitOf, blocks]

/-- A lawful commit is the block of the turn's rounds, and the turn's first. -/
theorem Lawful.commit {request : ChatTurnRequest} {h : History ChatSig} {i : ι}
    {e : Event ChatSig} {commit : Commit ι} (he : Lawful request h e)
    (hcommit : commitOf (i, e) = some commit) :
    commit.sessionId = request.session.id ∧ commit.messages = (turnLog h).block request ∧
      (turnLog h).commits = [] ∧ (turnLog h).roundTexts.length = (turnLog h).toolRounds + 1 := by
  unfold commitOf at hcommit
  split at hcommit <;> cases hcommit
  rename_i sessionId messages hentry
  cases hentry
  exact he

section

variable [DecidableEq ι]

/-- The commits of a turn's own log are its commits in the trace. -/
theorem turn_log_commits (i : ι) (trace : Trace ChatSig ι) :
    (turnLog (localHistory i trace)).commits =
      ((commits trace).filter (·.turn = i)).map fun commit =>
        (commit.sessionId, commit.messages) := by
  induction trace using List.reverseRecOn with
  | nil => rfl
  | append_singleton trace entry ih =>
      obtain ⟨j, e⟩ := entry
      rw [commits_snoc, List.filter_append, List.map_append, ← ih, local_history_append]
      by_cases hij : j = i
      · subst hij
        rw [local_history_same, turn_log_snoc, record_commits _ j e]
        cases hcommit : commitOf (j, e) with
        | none => simp
        | some commit => simp [commitOf_turn hcommit]
      · rw [local_history_other hij, List.append_nil]
        cases hcommit : commitOf (j, e) with
        | none => simp
        | some commit => simp [commitOf_turn hcommit, hij]

/-- A turn has committed when its own log has a commit. -/
theorem mem_commits_iff (i : ι) (trace : Trace ChatSig ι) :
    i ∈ (commits trace).map Commit.turn ↔ (turnLog (localHistory i trace)).commits ≠ [] := by
  rw [turn_log_commits]
  simp [List.filter_eq_nil_iff]

section

variable {store : AtomicStore σ} {services : ι → ChatService} {calls : ι → TurnCall} {initial : σ}
  {trace : Trace ChatSig ι} {final : Pool ChatSig ι σ (Except ChatError (Option ChatTurnResult))}

/-- A step appends its commit to the transcript, so a run appends all of its commits. -/
theorem run_transcript (hrun : Pool.Run store.Act (turnPool services calls initial) trace final)
    (sessionId : SessionId) : store.transcript final.shared sessionId =
      store.transcript initial sessionId ++ blocks sessionId (commits trace) := by
  refine hrun.invariant (fun i => TurnCall.program_obeys (services i) (calls i))
    (fun s trace => store.transcript s sessionId =
      store.transcript initial sessionId ++ blocks sessionId (commits trace))
    (by simp [turnPool, blocks, commits]) ?_
  intro s trace i e s' hs _ hact
  rw [hact.transcript sessionId, hs, commits_snoc]
  simp [blocks]

/-- No turn of a run commits twice. -/
theorem run_commits_once
    (hrun : Pool.Run store.Act (turnPool services calls initial) trace final) :
    ((commits trace).map Commit.turn).Nodup := by
  refine hrun.invariant (fun i => TurnCall.program_obeys (services i) (calls i))
    (fun _ trace => ((commits trace).map Commit.turn).Nodup) (by simp [commits]) ?_
  intro s trace i e s' hnodup he _
  rw [commits_snoc]
  cases hcommit : commitOf (i, e) with
  | none => simpa using hnodup
  | some commit =>
      -- A turn that has committed may not commit again.
      have hfirst : i ∉ (commits trace).map Commit.turn := by
        rw [mem_commits_iff]
        exact not_not_intro (he.commit hcommit).2.2.1
      rw [Option.toList_some, List.map_append, List.nodup_append]
      refine ⟨hnodup, by simp, ?_⟩
      rintro turn hturn _ hlast rfl
      simp only [List.map_cons, List.map_nil, List.mem_singleton, commitOf_turn hcommit] at hlast
      exact hfirst (hlast ▸ hturn)

end

/-- Each session's transcript is its initial one followed by the blocks of the turns that have
committed, in commit order, and turns commit whole. -/
theorem transcripts_are_whole_turns (store : AtomicStore σ) (services : ι → ChatService)
    (calls : ι → TurnCall) (initial : σ) {trace : Trace ChatSig ι}
    {final : Pool ChatSig ι σ (Except ChatError (Option ChatTurnResult))}
    (hrun : Pool.Run store.Act (turnPool services calls initial) trace final) :
    WholeTurns store calls initial trace final := by
  have hobeys : ∀ i, Obeys (Lawful (calls i).request) Committed []
      ((turnPool services calls initial).procs i) :=
    fun i => TurnCall.program_obeys (services i) (calls i)
  have hguard := hrun.guard hobeys
  refine ⟨run_transcript hrun, run_commits_once hrun, ?_, ?_, ?_, ?_⟩
  · intro before i e after commit htrace hcommit
    obtain ⟨hsession, hmessages, _, hrounds⟩ := (hguard before (i, e) after htrace).commit hcommit
    exact ⟨commitOf_turn hcommit, hsession, hmessages, hrounds⟩
  · intro i result hdone
    have hcommitted := hrun.returns hobeys hdone
    rw [mem_commits_iff]
    exact List.ne_nil_of_length_eq_add_one hcommitted
  · intro i error hdone
    have hcommitted := hrun.returns hobeys hdone
    rw [mem_commits_iff]
    exact not_not_intro hcommitted
  · intro before i result after htrace
    rw [mem_commits_iff]
    exact hguard before (i, _) after htrace

end

/-- An environment over an atomic store whose model always says hi and that has no tools. -/
def hiEnvironment (store : AtomicStore σ) : (op : ChatOp) → σ → Option (op.Answer × σ)
  | .loadMessages sessionId, s => some (store.loadMessages s sessionId, s)
  | .appendMessages sessionId messages, s => some (store.appendMessages s sessionId messages)
  | .complete request, s =>
      some (.ok ⟨.openAi, request.model, [.message ⟨.assistant, "hi"⟩], .endTurn, {}⟩, s)
  | .stream _, s => some (.ok [.ok (.textDelta "hi")], s)
  | .execute _ _, _ | .panic, _ => none
  | .yield _, s => some ((), s)
  | .hook _, s => some ((), s)
  | .sleep _, s => some ((), s)

/-- Two turns on one session, one of which streams. -/
def hiCalls (whole : Bool) : TurnCall :=
  if whole then .run helloTurn else .stream helloTurn

/-- The pool of the two turns. -/
def hiPool (initial : σ) : Pool ChatSig Bool σ (Except ChatError (Option ChatTurnResult)) :=
  turnPool (fun _ => ⟨.default, false⟩) hiCalls initial

/-- How often the two turns commit when one is run to its end before the other. -/
def hiCommits (store : AtomicStore σ) (initial : σ) : Option Nat := do
  let first ← ((hiPool initial).procs true).execute (hiEnvironment store) initial
  let second ← ((hiPool initial).procs false).execute (hiEnvironment store) first.2.2
  return (commits (first.1.map (true, ·) ++ second.1.map (false, ·))).length

/-- The answers of the environment are what turns may get of the store. -/
theorem act_of_hiEnvironment {store : AtomicStore σ} (i : ι) {op : ChatSig.Op} {s s' : σ}
    {answer : ChatSig.Ans op} (h : hiEnvironment store op s = some (answer, s')) :
    store.Act i s ⟨op, answer⟩ s' := by
  cases op with
  | loadMessages sessionId =>
      cases h
      exact ⟨rfl, rfl⟩
  | execute call context => cases h
  | panic => cases h
  | appendMessages sessionId messages => exact Option.some.inj h
  | _ =>
      cases h
      rfl

/-- The first turn runs to its end before the second. -/
theorem hiPool_run (store : AtomicStore σ) {initial : σ} {count : Nat}
    (hcommits : hiCommits store initial = some count) :
    ∃ trace final, (commits trace).length = count ∧
      Pool.Run store.Act (hiPool initial) trace final := by
  simp only [hiCommits, Option.bind_eq_bind, Option.bind_eq_some_iff] at hcommits
  obtain ⟨⟨events, value, s⟩, hfirst, ⟨events', value', s'⟩, hsecond, hlength⟩ := hcommits
  have hrun := (Pool.Run.alone (act_of_hiEnvironment true) hfirst (hiPool initial).procs rfl).trans
    (Pool.Run.alone (act_of_hiEnvironment false) hsecond _ rfl)
  exact ⟨_, _, Option.some.inj hlength, hrun⟩

/-- Both turns commit to the store of conversations. -/
theorem hiCommits_conversations :
    hiCommits InMemoryConversationStore.atomicStore .new = some 2 := by
  decide +kernel

/-- Both turns commit to the store over the memory. -/
theorem hiCommits_memory :
    hiCommits Memory.MemoryConversationStore.atomicStore .new = some 2 := by
  decide +kernel

/-- Two turns on one session, the first run to its end before the second, which streams, over either
store. -/
theorem transcripts_are_whole_turns_hi :
    (∃ trace final, (commits trace).length = 2 ∧
      WholeTurns InMemoryConversationStore.atomicStore hiCalls .new trace final) ∧
    ∃ trace final, (commits trace).length = 2 ∧
      WholeTurns Memory.MemoryConversationStore.atomicStore hiCalls .new trace final := by
  refine ⟨?_, ?_⟩
  · obtain ⟨trace, final, hlength, hrun⟩ := hiPool_run _ hiCommits_conversations
    exact ⟨trace, final, hlength, transcripts_are_whole_turns _ _ _ _ hrun⟩
  · obtain ⟨trace, final, hlength, hrun⟩ := hiPool_run _ hiCommits_memory
    exact ⟨trace, final, hlength, transcripts_are_whole_turns _ _ _ _ hrun⟩

end Fiddlesticks.Chat
