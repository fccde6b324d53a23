import Fiddlesticks.Effect.Correct
import Fiddlesticks.Harness.Conduct

/-!
# Terminal handoffs

A task iteration that starts leaves a terminal handoff whatever happens in between: its session
gets the started checkpoint of the run, a completed one and a progress entry with its note, and the
caller gets the outcome of the iteration itself.
-/

namespace Fiddlesticks.Harness

open Effect Prog Chat Memory

/-! ## The memory of a run -/

/-- The states of the sessions in a memory. -/
abbrev Sessions := SessionId → SessionState

/-- The operation writes a record of a run. -/
def isRecord : MemoryOp → Bool
  | .recordRunCheckpoint _ _ | .appendProgressEntry _ _ => true
  | _ => false

/-- Two states of a session have the same records of runs. -/
structure SameRecords (state state' : SessionState) : Prop where
  checkpoints : state'.checkpoints = state.checkpoints
  progress : state'.progress = state.progress

/-- A session has its own records. -/
theorem SameRecords.refl (state : SessionState) : SameRecords state state := ⟨rfl, rfl⟩

/-- To have the same records is transitive. -/
theorem SameRecords.trans {first second third : SessionState} (h : SameRecords first second)
    (h' : SameRecords second third) : SameRecords first third :=
  ⟨h'.checkpoints.trans h.checkpoints, h'.progress.trans h.progress⟩

/-- A memory that nobody else writes to and whose writes of records succeed. Any other operation
may also fail, with any error, and what it leaves then has the same records. All other answers are
arbitrary. -/
def RecordsAct (sessions : Sessions) : Event HarnessSig → Sessions → Prop
  | ⟨.memory op, answer⟩, sessions' =>
      (answer = ((sessions op.sessionId).apply op).1 ∧
        sessions' = Function.update sessions op.sessionId ((sessions op.sessionId).apply op).2) ∨
      (isRecord op = false ∧ (∃ error, answer = .error error) ∧
        ∀ sessionId, SameRecords (sessions sessionId) (sessions' sessionId))
  | _, sessions' => sessions' = sessions

/-- A started run has left its handoff: the started checkpoint, a completed one of the same run and
a progress entry with its note. -/
structure TerminalHandoff (runId : String) (before after : SessionState)
    (outcome : Except HarnessError TaskIterationResult) (started finished : RunCheckpoint)
    (entry : ProgressEntry) : Prop where
  checkpoints : after.checkpoints = before.checkpoints ++ [started, finished]
  progress : after.progress = before.progress ++ [entry]
  begun : started.runId = runId ∧ started.status = .inProgress ∧ started.completedAt = none
  completed : finished.runId = runId ∧ finished.status ≠ .inProgress ∧
    finished.completedAt.isSome
  noted : entry.runId = runId ∧ finished.note = some entry.summary
  status : finished.status = .succeeded ↔ ∃ result, outcome = .ok result ∧ result.validated

/-! ## What lies between the records -/

/-- The operation is about a memory but leaves the records of runs alone. -/
def LeavesRecords : HarnessOp → Prop
  | .memory (.loadBootstrapState _) => True
  | .memory (.updateFeaturePass _ _ _) => True
  | .memory (.loadTranscriptMessages _) => True
  | .memory (.appendTranscriptMessages _ _) => True
  | .memory _ => False
  | _ => True

/-- A turn leaves the records of its session. -/
theorem InTurn.leavesRecords {op : HarnessOp} (hop : InTurn op) : LeavesRecords op := by
  cases op with
  | memory op => cases op <;> first | exact hop.elim | trivial
  | _ => trivial

/-- An operation that leaves the records leaves them in every session. -/
theorem LeavesRecords.act {sessions sessions' : Sessions} {e : Event HarnessSig}
    (he : LeavesRecords e.op) (hact : RecordsAct sessions e sessions') (sessionId : SessionId) :
    SameRecords (sessions sessionId) (sessions' sessionId) := by
  obtain ⟨op, answer⟩ := e
  cases op with
  | memory op =>
      rcases hact with ⟨-, rfl⟩ | ⟨-, -, hsame⟩
      · by_cases hsession : sessionId = op.sessionId
        · subst hsession
          rw [Function.update_self]
          cases op with
          | loadBootstrapState id => exact .refl _
          | updateFeaturePass id featureId passes =>
              rw [SessionState.apply]
              split
              · exact ⟨rfl, rfl⟩
              · exact .refl _
          | loadTranscriptMessages id => exact .refl _
          | appendTranscriptMessages id messages => exact ⟨rfl, rfl⟩
          | _ => exact he.elim
        · rw [Function.update_of_ne hsession]
          exact .refl _
      · exact hsame sessionId
  | _ =>
      obtain rfl := hact
      exact .refl _

/-- The execution keeps the records of the session as they were and returns only values that satisfy
the postcondition. -/
abbrev Keeps {α : Type} (sessionId : SessionId) (before : SessionState) (Q : α → Prop)
    (execution : Execution α) (sessions : Sessions) : Prop :=
  Correct RecordsAct (fun _ _ => True) (fun result sessions' =>
    SameRecords before (sessions' sessionId) ∧ ∀ value, result = .ok value → Q value)
    execution.run sessions

section

variable {α β : Type} {sessionId : SessionId} {before : SessionState} {Q : α → Prop}
  {R : β → Prop} {sessions : Sessions}

/-- A part that returns here keeps the records. -/
theorem keeps_pure (hsessions : SameRecords before (sessions sessionId)) {value : α}
    (hvalue : Q value) : Keeps sessionId before Q (pure value) sessions := by
  refine (correct_pure _).mpr ⟨hsessions, ?_⟩
  rintro _ ⟨⟩
  exact hvalue

/-- So does one that fails here. -/
theorem keeps_throw (hsessions : SameRecords before (sessions sessionId)) (error : HarnessError) :
    Keeps sessionId before Q (throw error) sessions := by
  refine (correct_pure _).mpr ⟨hsessions, ?_⟩
  rintro _ ⟨⟩

/-- The sequencing rule. -/
theorem keeps_seq {p : Execution α} {f : α → Execution β}
    (hp : Keeps sessionId before Q p sessions)
    (hf : ∀ value sessions', SameRecords before (sessions' sessionId) → Q value →
      Keeps sessionId before R (f value) sessions') :
    Keeps sessionId before R (p >>= f) sessions := by
  refine correct_except_seq hp (fun value sessions' h => ?_) (fun error sessions' h => ?_)
  · exact hf value sessions' h.1 (h.2 value rfl)
  · refine ⟨h.1, ?_⟩
    rintro _ ⟨⟩

/-- Go on after a program that leaves the records alone. -/
theorem keeps_uses_seq {p : Execution α} {f : α → Execution β} (hp : Uses LeavesRecords p.run)
    (hsessions : SameRecords before (sessions sessionId))
    (hf : ∀ value sessions', SameRecords before (sessions' sessionId) →
      Keeps sessionId before R (f value) sessions') :
    Keeps sessionId before R (p >>= f) sessions := by
  have hkeeps : Keeps sessionId before (fun _ => True) p sessions :=
    (hp.correct (I := fun sessions' => SameRecords before (sessions' sessionId))
      (fun _ _ _ _ => trivial)
      (fun _ _ _ hop hact h => h.trans (hop.act hact sessionId)) hsessions).mono
        fun _ _ h => ⟨h, fun _ _ => trivial⟩
  exact keeps_seq hkeeps fun value sessions' h _ => hf value sessions' h

/-- A call on the memory hands it its operation only. -/
theorem callMemory_uses {op : MemoryOp} (hop : LeavesRecords (.memory op)) :
    Uses LeavesRecords (callMemory op).run :=
  uses_map _ (uses_request hop)

variable (harness : Harness)

/-- The turns for a feature. -/
theorem runTurns_keeps (chat : HarnessChat) (request : TaskIterationRequest) (observed : Bool)
    (manifest : SessionManifest) (feature : FeatureRecord) (turnsLeft retriesRemaining : Nat)
    (done : Iteration) (hsessions : SameRecords before (sessions sessionId)) :
    Keeps sessionId before
      (fun ending => ∀ result, ending = .returned result → result.noPendingFeatures = false)
      (harness.runTurns chat request observed manifest feature turnsLeft retriesRemaining done)
      sessions := by
  induction turnsLeft generalizing sessions retriesRemaining done with
  | zero => exact keeps_pure hsessions (by simp)
  | succ turnsLeft ih =>
      rw [runTurns]
      have hturn : Uses LeavesRecords
          (attempt (executeTurn chat (turnRequest request manifest feature) observed)).run :=
        uses_map _ ((executeTurn_uses chat _ observed).mono fun _ => InTurn.leavesRecords)
      refine keeps_uses_seq hturn hsessions fun turn sessions' hsessions => ?_
      cases turn with
      | error error =>
          dsimp only
          split
          · exact keeps_throw hsessions error
          · exact ih _ _ hsessions
      | ok turnResult =>
          refine keeps_uses_seq (uses_request trivial) hsessions
            fun validated sessions' hsessions => ?_
          split
          · refine keeps_uses_seq (callMemory_uses trivial) hsessions
              fun _ sessions' hsessions => ?_
            exact keeps_pure hsessions (by simp)
          · split
            · refine keeps_pure hsessions ?_
              rintro result ⟨⟩
              rfl
            · exact ih _ _ hsessions

/-- The loop over the features. -/
theorem runFeatures_keeps (chat : HarnessChat) (request : TaskIterationRequest) (observed : Bool)
    (manifest : SessionManifest) (remaining : Nat) (done : Iteration)
    (hsessions : SameRecords before (sessions sessionId)) :
    Keeps sessionId before (fun result => result.noPendingFeatures → result.validated)
      (harness.runFeatures chat request observed manifest remaining done) sessions := by
  induction remaining generalizing sessions done with
  | zero =>
      rw [runFeatures]
      split
      · exact keeps_uses_seq (uses_map _ (uses_request trivial)) hsessions
          fun answer => Empty.elim answer
      · refine keeps_uses_seq (callMemory_uses trivial) hsessions
          fun bootstrap sessions' hsessions => ?_
        exact keeps_pure hsessions fun _ => rfl
  | succ remaining ih =>
      rw [runFeatures]
      refine keeps_uses_seq (callMemory_uses trivial) hsessions
        fun bootstrap sessions' hsessions => ?_
      split
      · exact keeps_pure hsessions fun _ => rfl
      · refine keeps_uses_seq (uses_map _ (uses_request trivial)) hsessions
          fun selected sessions' hsessions => ?_
        cases selected with
        | none => exact keeps_throw hsessions _
        | some feature =>
            refine keeps_seq (harness.runTurns_keeps chat request observed manifest feature _ _ _
              hsessions) fun ending sessions' hsessions hending => ?_
            cases ending with
            | returned result =>
                refine keeps_pure hsessions fun hpending => ?_
                rw [hending result rfl] at hpending
                cases hpending
            | next done => exact ih done hsessions

/-- An iteration leaves the records alone and has validated its work if no feature is pending. -/
theorem runTaskIterationInner_keeps (sessionId : SessionId) (fuel : Nat) (chat : HarnessChat)
    (request : TaskIterationRequest) (observed : Bool)
    (hsessions : SameRecords before (sessions sessionId)) :
    Keeps sessionId before (fun result => result.noPendingFeatures → result.validated)
      (harness.runTaskIterationInner fuel chat request observed) sessions := by
  rw [runTaskIterationInner]
  refine keeps_uses_seq (callMemory_uses trivial) hsessions fun bootstrap sessions' hsessions => ?_
  cases hmanifest : BootstrapState.manifest bootstrap with
  | none => exact keeps_throw hsessions _
  | some manifest =>
      refine keeps_uses_seq (uses_map _ (uses_request trivial)) hsessions
        fun healthy sessions' hsessions => ?_
      have hrest : ∀ sessions', SameRecords before (sessions' sessionId) →
          Keeps sessionId before (fun result => result.noPendingFeatures → result.validated)
            (if allRequiredFeaturesPassed (BootstrapState.featureList bootstrap) then
              pure (Iteration.result {} request true true none)
            else harness.runFeatures chat request observed manifest
              (harness.runPolicy.maxFeaturesPerRunLimit.getD fuel) {}) sessions' := by
        intro sessions' hsessions
        split
        · exact keeps_pure hsessions fun _ => rfl
        · exact harness.runFeatures_keeps chat request observed _ _ _ hsessions
      cases healthy with
      | error error =>
          dsimp only
          split
          · exact keeps_throw hsessions error
          · exact hrest _ hsessions
      | ok value => exact hrest _ hsessions

end

/-! ## Whole runs -/

section

variable {sessions final : Sessions}

/-- Reading the clock changes no session. -/
theorem steps_now {time : Except HarnessError SystemTime}
    (h : Steps RecordsAct now.run sessions (.pure time) final) :
    (∃ value, time = .ok value) ∧ final = sessions := by
  obtain ⟨value, hask, rfl⟩ := Steps.of_map h
  obtain ⟨answer, sessions', hact, hpure⟩ := hask.of_call
  obtain ⟨hvalue, rfl⟩ := hpure.of_pure
  exact ⟨⟨_, rfl⟩, hact⟩

/-- A write of a record succeeds. -/
theorem steps_callMemory {op : MemoryOp} {result : Except HarnessError op.Value}
    (hrecord : isRecord op = true)
    (h : Steps RecordsAct (callMemory op).run sessions (.pure result) final) :
    result = (((sessions op.sessionId).apply op).1).mapError HarnessError.ofMemory ∧
      final = Function.update sessions op.sessionId ((sessions op.sessionId).apply op).2 := by
  obtain ⟨answer, hask, rfl⟩ := Steps.of_map h
  obtain ⟨answer', sessions', hact, hpure⟩ := hask.of_call
  obtain ⟨hvalue, rfl⟩ := hpure.of_pure
  injection hvalue with hvalue
  subst hvalue
  rcases hact with ⟨rfl, rfl⟩ | ⟨hno, -⟩
  · exact ⟨rfl, rfl⟩
  · rw [hrecord] at hno
    cases hno

/-- Recording a checkpoint appends it to its session. -/
theorem steps_recordRunCheckpoint {sessionId : SessionId} {checkpoint : RunCheckpoint}
    {result : Except HarnessError Unit}
    (h : Steps RecordsAct (callMemory (.recordRunCheckpoint sessionId checkpoint)).run sessions
      (.pure result) final) :
    result = .ok () ∧ final = Function.update sessions sessionId
      { sessions sessionId with
        checkpoints := (sessions sessionId).checkpoints ++ [checkpoint] } :=
  steps_callMemory rfl h

/-- An attempt succeeds with the outcome of what is attempted. -/
theorem steps_attempt {α : Type} {execution : Execution α}
    {result : Except HarnessError (Except HarnessError α)}
    (h : Steps RecordsAct (attempt execution).run sessions (.pure result) final) :
    ∃ outcome, result = .ok outcome ∧
      Steps RecordsAct execution.run sessions (.pure outcome) final := by
  obtain ⟨outcome, hrun, rfl⟩ := Steps.of_map h
  exact ⟨outcome, rfl, hrun⟩

/-- Making a progress entry changes no session. -/
theorem steps_newProgressEntry {runId summary : String} {result : Except HarnessError ProgressEntry}
    (h : Steps RecordsAct (newProgressEntry runId summary).run sessions (.pure result) final) :
    (∃ createdAt, result = .ok { runId, summary, createdAt }) ∧ final = sessions := by
  rcases h.of_except_bind with ⟨time, sessions', hnow, hpure⟩ | ⟨error, hnow, -⟩
  · obtain ⟨-, rfl⟩ := steps_now hnow
    obtain ⟨hresult, rfl⟩ := hpure.of_pure
    injection hresult with hresult
    exact ⟨⟨time, hresult⟩, rfl⟩
  · obtain ⟨⟨time, htime⟩, -⟩ := steps_now hnow
    cases htime

/-- Making a checkpoint changes no session. -/
theorem steps_startedCheckpoint {runId : String} {result : Except HarnessError RunCheckpoint}
    (h : Steps RecordsAct (startedCheckpoint runId).run sessions (.pure result) final) :
    (∃ startedAt, result = .ok ⟨runId, startedAt, none, .inProgress, none⟩) ∧
      final = sessions := by
  rcases h.of_except_bind with ⟨time, sessions', hnow, hpure⟩ | ⟨error, hnow, -⟩
  · obtain ⟨-, rfl⟩ := steps_now hnow
    obtain ⟨hresult, rfl⟩ := hpure.of_pure
    injection hresult with hresult
    exact ⟨⟨time, hresult⟩, rfl⟩
  · obtain ⟨⟨time, htime⟩, -⟩ := steps_now hnow
    cases htime

/-- The hooks around a phase change neither its outcome nor the memory. -/
theorem steps_withHooks {α : Type} {phase : HarnessPhase} {sessionId : SessionId} {runId : String}
    {execution : Execution α} {outcome : Except HarnessError α}
    (h : Steps RecordsAct (withHooks phase sessionId runId execution).run sessions
      (.pure outcome) final) :
    Steps RecordsAct execution.run sessions (.pure outcome) final := by
  obtain ⟨answer, sessions', hstart, hrest⟩ := Steps.of_call h
  obtain rfl := hstart
  rcases Steps.of_except_bind (p := attempt execution) hrest with
    ⟨result, sessions', hattempt, hend⟩ | ⟨error, hattempt, -⟩
  · obtain ⟨inner, hresult, hrun⟩ := steps_attempt hattempt
    cases hresult
    have hhook : ∀ event, Steps RecordsAct
        (ExceptT.lift (ask (.hook event)) >>= fun _ => (liftM result : Execution α)).run sessions'
          (.pure outcome) final → outcome = result ∧ final = sessions' := by
      intro event h
      obtain ⟨answer, sessions'', hhook, hpure⟩ := Steps.of_call h
      obtain rfl := hhook
      obtain ⟨houtcome, rfl⟩ := Steps.of_pure hpure
      injection houtcome with houtcome
      exact ⟨houtcome, rfl⟩
    cases result with
    | ok value =>
        obtain ⟨rfl, rfl⟩ := hhook _ hend
        exact hrun
    | error error =>
        obtain ⟨rfl, rfl⟩ := hhook _ hend
        exact hrun
  · obtain ⟨inner, hresult, -⟩ := steps_attempt hattempt
    cases hresult

/-- The final handoff adds its checkpoint and then its progress entry. -/
theorem steps_recordFinalHandoff {request : TaskIterationRequest} {startedAt : SystemTime}
    {status : RunStatus} {note : String} {result : Except HarnessError Unit}
    (h : Steps RecordsAct (recordFinalHandoff request startedAt status note).run sessions
      (.pure result) final) :
    ∃ completedAt createdAt, result = .ok () ∧
      final = Function.update sessions request.session.id
        { sessions request.session.id with
          checkpoints := (sessions request.session.id).checkpoints ++
            [⟨request.runId, startedAt, some completedAt, status, some note⟩]
          progress := (sessions request.session.id).progress ++
            [⟨request.runId, note, createdAt⟩] } := by
  rcases h.of_except_bind with ⟨completedAt, _, hnow, hrest⟩ | ⟨error, hnow, -⟩
  · obtain ⟨-, rfl⟩ := steps_now hnow
    rcases hrest.of_except_bind with ⟨_, _, hrecord, hprogress⟩ | ⟨error, hrecord, -⟩
    · obtain ⟨-, rfl⟩ := steps_recordRunCheckpoint hrecord
      rcases hprogress.of_except_bind with ⟨entry, _, hentry, happend⟩ | ⟨error, hentry, -⟩
      · obtain ⟨⟨createdAt, hcreated⟩, rfl⟩ := steps_newProgressEntry hentry
        cases hcreated
        obtain ⟨hresult, rfl⟩ := steps_callMemory rfl happend
        refine ⟨completedAt, createdAt, hresult, ?_⟩
        simp [MemoryOp.sessionId, SessionState.apply]
      · obtain ⟨⟨createdAt, hcreated⟩, -⟩ := steps_newProgressEntry hentry
        cases hcreated
    · obtain ⟨herror, -⟩ := steps_recordRunCheckpoint hrecord
      cases herror
  · obtain ⟨⟨time, htime⟩, -⟩ := steps_now hnow
    cases htime

/-- The status that a handoff gives a validated outcome is that of a success. -/
theorem handoffNote_status {outcome : Except HarnessError TaskIterationResult}
    (hvalidated : ∀ result, outcome = .ok result → result.noPendingFeatures → result.validated) :
    (handoffNote outcome).1 ≠ .inProgress ∧ ((handoffNote outcome).1 = .succeeded ↔
      ∃ result, outcome = .ok result ∧ result.validated) := by
  cases outcome with
  | error error => simp [handoffNote]
  | ok result =>
      have hresult := hvalidated result rfl
      rw [handoffNote]
      cases hpending : result.noPendingFeatures with
      | true => simp [hresult hpending]
      | false => cases hvalue : result.validated <;> simp [hvalue]

/-- Every task iteration with a chat service that returns, over a memory that nobody else writes
to and whose writes of records succeed, leaves a terminal handoff. Between its records is a run of
the iteration itself, whose outcome the caller gets. -/
theorem terminal_handoff (harness : Harness) {chat : HarnessChat} (hchat : harness.chat = some chat)
    (fuel : Nat) (request : TaskIterationRequest) (observed : Bool) {sessions final : Sessions}
    {outcome : Except HarnessError TaskIterationResult}
    (hrun : Steps RecordsAct (harness.runTaskIteration fuel request observed).run sessions
      (.pure outcome) final) :
    ∃ started finished entry middle,
      TerminalHandoff request.runId (sessions request.session.id) (final request.session.id)
        outcome started finished entry ∧
      Steps RecordsAct (harness.runTaskIterationInner fuel chat request observed).run
        (Function.update sessions request.session.id
          { sessions request.session.id with
            checkpoints := (sessions request.session.id).checkpoints ++ [started] })
        (.pure outcome) middle ∧
      final = Function.update middle request.session.id
        { middle request.session.id with
          checkpoints := (middle request.session.id).checkpoints ++ [finished]
          progress := (middle request.session.id).progress ++ [entry] } := by
  -- The steps are peeled off one operation at a time; over this memory neither the clock nor a
  -- record fails, so each error branch is ruled out by what the operation did.
  have hphase := steps_withHooks hrun
  rw [runTaskIterationWithObserverInner, hchat] at hphase
  rcases hphase.of_except_bind with ⟨startedAt, _, hnow, hstart⟩ | ⟨error, hnow, -⟩
  · obtain ⟨-, rfl⟩ := steps_now hnow
    rcases hstart.of_except_bind with ⟨started, _, hstarted, hbegin⟩ | ⟨error, hstarted, -⟩
    · obtain ⟨⟨time, htime⟩, rfl⟩ := steps_startedCheckpoint hstarted
      cases htime
      rcases hbegin.of_except_bind with ⟨_, _, hrecord, hbetween⟩ | ⟨error, hrecord, -⟩
      · obtain ⟨-, rfl⟩ := steps_recordRunCheckpoint hrecord
        rcases hbetween.of_except_bind with
          ⟨result, middle, hattempt, hhandoff⟩ | ⟨error, hattempt, -⟩
        · obtain ⟨_, hresult, hbody⟩ := steps_attempt hattempt
          cases hresult
          rcases hhandoff.of_except_bind with ⟨_, _, hfinal, hreturn⟩ | ⟨error, hfinal, -⟩
          · obtain ⟨completedAt, createdAt, -, rfl⟩ := steps_recordFinalHandoff hfinal
            obtain ⟨houtcome, rfl⟩ := Steps.of_pure hreturn
            injection houtcome with houtcome
            subst houtcome
            obtain ⟨hsame, hvalidated⟩ := (harness.runTaskIterationInner_keeps
              request.session.id fuel chat request observed (.refl _)).returns hbody
            obtain ⟨hstatus, hsucceeded⟩ := handoffNote_status hvalidated
            refine ⟨_, _, _, middle, ?_, hbody, rfl⟩
            rw [Function.update_self] at hsame ⊢
            refine ⟨?_, ?_, ⟨rfl, rfl, rfl⟩, ⟨rfl, hstatus, rfl⟩, ⟨rfl, rfl⟩, hsucceeded⟩
            · simp [hsame.checkpoints]
            · simp [hsame.progress]
          · obtain ⟨completedAt, createdAt, hok, -⟩ := steps_recordFinalHandoff hfinal
            cases hok
        · obtain ⟨result, hresult, -⟩ := steps_attempt hattempt
          cases hresult
      · obtain ⟨herror, -⟩ := steps_recordRunCheckpoint hrecord
        cases herror
    · obtain ⟨⟨time, htime⟩, -⟩ := steps_startedCheckpoint hstarted
      cases htime
  · obtain ⟨⟨time, htime⟩, -⟩ := steps_now hnow
    cases htime

end

/-! ## A run of one feature -/

/-- An environment in which every step of a run succeeds. -/
def willingEnvironment : (op : HarnessOp) → Sessions → Option (op.Answer × Sessions)
  | .memory op, sessions =>
      let (answer, state) := (sessions op.sessionId).apply op
      some (answer, Function.update sessions op.sessionId state)
  | .chat (.complete request), sessions =>
      some (.ok ⟨.openAi, request.model, [.message ⟨.assistant, "done"⟩], .endTurn, {}⟩, sessions)
  | .chat (.hook _), sessions => some ((), sessions)
  | .healthCheck _ _, sessions => some (.ok (), sessions)
  | .select featureList, sessions => some (featureList.head?, sessions)
  | .validate _ _, sessions => some (.ok true, sessions)
  | .now, sessions => some (⟨0, 0⟩, sessions)
  | .hook _, sessions => some ((), sessions)
  | _, _ => none

/-- What that environment answers is what a memory whose writes succeed may answer. -/
theorem willingEnvironment_acts {op : HarnessSig.Op} {sessions sessions' : Sessions}
    {answer : HarnessSig.Ans op} (h : willingEnvironment op sessions = some (answer, sessions')) :
    RecordsAct sessions ⟨op, answer⟩ sessions' := by
  cases op with
  | memory op =>
      cases h
      exact .inl ⟨rfl, rfl⟩
  | chat op =>
      cases op <;> cases h <;> rfl
  | observe | exhausted => cases h
  | _ =>
      cases h
      rfl

/-- A session with one pending feature. -/
def pendingSession : SessionState :=
  { manifest := some (.new ⟨"session"⟩ "main" "ship")
    featureList := [⟨"login", "core", "sign in", ["open"], false⟩] }

/-- A run that works on the feature leaves its messages and a handoff that says so. -/
theorem terminal_handoff_one_feature :
    ∃ (final : Sessions) (result : TaskIterationResult) (started finished : RunCheckpoint)
      (entry : ProgressEntry),
      TerminalHandoff "run-1" pendingSession (final ⟨"session"⟩) (.ok result) started finished
        entry ∧
      result.validatedFeatureIds = ["login"] ∧ finished.status = .succeeded ∧
      (final ⟨"session"⟩).transcript.map Provider.Message.role = [.user, .assistant] := by
  let harness : Harness := { Harness.new with chat := some ⟨⟨.default, false⟩, true⟩ }
  let request : TaskIterationRequest :=
    { session := ⟨⟨"session"⟩, .openAi, "model", none⟩, runId := "run-1" }
  have houtcome : ((harness.runTaskIteration 0 request false).run.execute willingEnvironment
      fun _ => pendingSession).map (fun ended =>
        (ended.2.1.toOption.map fun result => (result.validated, result.validatedFeatureIds),
          (ended.2.2 ⟨"session"⟩).transcript.map Provider.Message.role)) =
        some (some (true, ["login"]), [.user, .assistant]) := by
    decide +kernel
  obtain ⟨⟨events, outcome, final⟩, hrun, hvalue⟩ := Option.map_eq_some_iff.mp houtcome
  obtain ⟨hresult, htranscript⟩ := Prod.mk.inj hvalue
  obtain ⟨result, hok, hvalidated⟩ := Option.map_eq_some_iff.mp hresult
  obtain ⟨started, finished, entry, -, hhandoff, -⟩ :=
    terminal_handoff harness rfl 0 request false (Steps.of_execute willingEnvironment_acts hrun)
  cases outcome with
  | error error => cases hok
  | ok value =>
      cases hok
      obtain ⟨hvalidated, hids⟩ := Prod.mk.inj hvalidated
      exact ⟨final, result, started, finished, entry, hhandoff, hids,
        hhandoff.status.mpr ⟨result, rfl, hvalidated⟩, htranscript⟩

end Fiddlesticks.Harness
