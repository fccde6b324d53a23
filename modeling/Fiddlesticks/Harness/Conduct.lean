import Fiddlesticks.Harness.Phases
import Fiddlesticks.Memory.Growth

/-!
# How executions conduct themselves

What every execution of the harness does to the memory, whatever its environment answers: it
never overwrites a manifest or a feature list, installs only features that do not pass yet, and
sets the pass of a feature only after the validator has accepted it. What it reports at its end
it has read from the memory.
-/

namespace Fiddlesticks.Harness

open Effect Prog Chat Memory

/-! ## Guards and reports -/

/-- The validator has accepted a feature with this id. -/
def Validated (h : History HarnessSig) (featureId : String) : Prop :=
  ∃ feature result, feature.id = featureId ∧
    (⟨.validate feature result, .ok true⟩ : Event HarnessSig) ∈ h

/-- The memory operations an execution may issue after the events `h`. -/
def Permitted (h : History HarnessSig) : MemoryOp → Prop
  | .saveManifest _ _ => False
  | .replaceFeatureList _ _ => False
  | .initializeSessionIfMissing _ _ featureList _ _ =>
      ∀ feature ∈ featureList, feature.passes = false
  | .updateFeaturePass _ featureId passes => passes = true ∧ Validated h featureId
  | _ => True

/-- The guard of an execution's events. -/
def Conducted (h : History HarnessSig) (e : Event HarnessSig) : Prop :=
  match e.op with
  | .memory op => Permitted h op
  | _ => True

/-- The event creates the session. -/
def Creates (sessionId : SessionId) : Event HarnessSig → Prop
  | ⟨.memory (.initializeSessionIfMissing id _ _ _ _), .ok true⟩ => id = sessionId
  | _ => False

/-- The event finds that all features of the session pass. -/
def FindsComplete (sessionId : SessionId) : Event HarnessSig → Prop
  | ⟨.memory (.loadBootstrapState id), .ok bootstrap⟩ =>
      id = sessionId ∧ allRequiredFeaturesPassed bootstrap.featureList
  | _ => False

/-- An initializer that reports `created` has created its session. -/
def ReportsCreation (sessionId : SessionId) (h : History HarnessSig)
    (result : InitializerResult) : Prop :=
  result.created → ∃ e ∈ h, Creates sessionId e

/-- A task iteration that reports no pending features has found its session complete. -/
def ReportsCompletion (sessionId : SessionId) (h : History HarnessSig)
    (result : TaskIterationResult) : Prop :=
  result.noPendingFeatures → ∃ e ∈ h, FindsComplete sessionId e

/-- A report stays true when more happens. -/
theorem ReportsCreation.mono {sessionId : SessionId} {h : History HarnessSig}
    {result : InitializerResult} (hresult : ReportsCreation sessionId h result)
    (events : History HarnessSig) : ReportsCreation sessionId (h ++ events) result := by
  intro hcreated
  obtain ⟨e, he, hcreates⟩ := hresult hcreated
  exact ⟨e, List.mem_append_left _ he, hcreates⟩

/-- A report stays true when more happens. -/
theorem ReportsCompletion.mono {sessionId : SessionId} {h : History HarnessSig}
    {result : TaskIterationResult} (hresult : ReportsCompletion sessionId h result)
    (events : History HarnessSig) : ReportsCompletion sessionId (h ++ events) result := by
  intro hcomplete
  obtain ⟨e, he, hfinds⟩ := hresult hcomplete
  exact ⟨e, List.mem_append_left _ he, hfinds⟩

/-! ## Rules for the operations -/

section

variable {α β : Type} {h : History HarnessSig} {R : History HarnessSig → β → Prop}

/-- Go on after a memory operation that has succeeded. -/
theorem callMemory_seq {op : MemoryOp} {f : op.Value → Execution β} (hop : Permitted h op)
    (hf : ∀ value : op.Value, Ensures Conducted R (h ++ [⟨.memory op, .ok value⟩]) (f value)) :
    Ensures Conducted R h (callMemory op >>= f) := by
  refine (obeys_except_bind _ _).mpr ((obeys_map _ _).mpr ?_)
  rw [ask, obeys_call]
  refine fun answer => ⟨hop, (obeys_pure _).mpr ?_⟩
  rcases (answer : op.Answer) with error | value
  · exact fun _ heq => nomatch heq
  · exact hf value

/-- The validator's acceptance is on record. -/
theorem validate_ensures (feature : FeatureRecord) (result : ChatTurnResult) :
    Ensures Conducted (fun h' validated => validated = true → Validated h' feature.id) h
      (ExceptT.mk (ask (.validate feature result))) := by
  refine (obeys_call (S := HarnessSig) _ _).mpr fun answer => ⟨trivial, (obeys_pure _).mpr ?_⟩
  rintro validated hanswer rfl
  refine ⟨feature, result, rfl, ?_⟩
  rw [← hanswer]
  exact List.mem_append_right _ (List.mem_singleton_self _)

/-- Go on after an attempt, whatever its outcome. -/
theorem attempt_seq {Q : History HarnessSig → α → Prop} {execution : Execution α}
    {f : Except HarnessError α → Execution β} (hexecution : Ensures Conducted Q h execution)
    (hf : ∀ h' result, (∀ value, result = .ok value → Q h' value) →
      Ensures Conducted R h' (f result)) :
    Ensures Conducted R h (attempt execution >>= f) :=
  (obeys_except_bind _ _).mpr <| (obeys_lift _).mpr <|
    Obeys.mono hexecution (fun _ _ hg => hg) hf

end

/-! ## Operations that leave the features alone -/

/-- The operation has no part in the manifest, the features or the passes. -/
def Uninvolved : HarnessOp → Prop
  | .memory (.isInitialized _) => True
  | .memory (.appendProgressEntry _ _) => True
  | .memory (.recordRunCheckpoint _ _) => True
  | .memory (.loadTranscriptMessages _) => True
  | .memory (.appendTranscriptMessages _ _) => True
  | .memory _ => False
  | _ => True

/-- An operation that is not involved may come at any point. -/
theorem Uninvolved.conducted {h : History HarnessSig} {e : Event HarnessSig}
    (he : Uninvolved e.op) : Conducted h e := by
  obtain ⟨op, answer⟩ := e
  cases op with
  | memory op => cases op <;> first | exact he.elim | trivial
  | _ => trivial

/-- Go on after a program of uninvolved operations, which only extends the history. -/
theorem uninvolved_seq {α β : Type} {h : History HarnessSig} {R : History HarnessSig → β → Prop}
    {p : Execution α} (hp : Uses Uninvolved p.run) {f : α → Execution β}
    (hf : ∀ events value, Ensures Conducted R (h ++ events) (f value)) :
    Ensures Conducted R h (p >>= f) := by
  refine ensures_seq (Q := fun h' _ => ∃ events, h' = h ++ events) ?_ ?_
  · refine (hp.obeys fun _ _ he => he.conducted).mono (fun _ _ hg => hg) ?_
    rintro _ _ ⟨events, rfl, _⟩ _ _
    exact ⟨events, rfl⟩
  · rintro _ value ⟨events, rfl⟩
    exact hf events value

/-- An operation issues itself. -/
theorem uses_ask {op : HarnessOp} (hop : Uninvolved op) : Uses Uninvolved (ask op) :=
  uses_request hop

/-- The operation keeps the records of runs. -/
def Recording : HarnessOp → Prop
  | .memory (.appendProgressEntry _ _) => True
  | .memory (.recordRunCheckpoint _ _) => True
  | .now => True
  | _ => False

/-- What the harness records is not involved. -/
theorem Recording.uninvolved {op : HarnessOp} (hop : Recording op) : Uninvolved op := by
  cases op with
  | memory op => cases op <;> first | exact hop.elim | trivial
  | _ => trivial

/-- Reading the clock only records. -/
theorem now_uses : Uses Recording now.run :=
  uses_map _ (uses_request (S := HarnessSig) trivial)

/-- Making a progress entry only records. -/
theorem newProgressEntry_uses (runId summary : String) :
    Uses Recording (newProgressEntry runId summary).run :=
  uses_except_bind now_uses fun _ => uses_pure _

/-- Making a checkpoint only records. -/
theorem startedCheckpoint_uses (runId : String) :
    Uses Recording (startedCheckpoint runId).run :=
  uses_except_bind now_uses fun _ => uses_pure _

/-- Leaving the final handoff only extends the records. -/
theorem recordFinalHandoff_uses (request : TaskIterationRequest) (startedAt : SystemTime)
    (status : RunStatus) (note : String) :
    Uses Recording (recordFinalHandoff request startedAt status note).run := by
  refine uses_except_bind now_uses fun _ => ?_
  refine uses_except_bind (uses_map _ (uses_request trivial)) fun _ => ?_
  exact uses_except_bind (newProgressEntry_uses _ _) fun _ => uses_map _ (uses_request trivial)

/-- Go on after keeping a record. -/
theorem recording_seq {α β : Type} {h : History HarnessSig} {R : History HarnessSig → β → Prop}
    {p : Execution α} (hp : Uses Recording p.run) {f : α → Execution β}
    (hf : ∀ events value, Ensures Conducted R (h ++ events) (f value)) :
    Ensures Conducted R h (p >>= f) :=
  uninvolved_seq (hp.mono fun _ => Recording.uninvolved) hf

/-- The operation is one of a chat turn: it is for the turn's own environment, for its observer or
about the transcripts. -/
def InTurn : HarnessOp → Prop
  | .memory (.loadTranscriptMessages _) => True
  | .memory (.appendTranscriptMessages _ _) => True
  | .chat _ => True
  | .observe _ => True
  | _ => False

/-- What a turn does is not involved. -/
theorem InTurn.uninvolved {op : HarnessOp} (hop : InTurn op) : Uninvolved op := by
  cases op with
  | memory op => cases op <;> first | exact hop.elim | trivial
  | _ => trivial

/-- An operation of the chat service is one of a turn. -/
theorem chatOp_uses (storesInMemory : Bool) (op : ChatOp) :
    Uses InTurn (chatOp storesInMemory op) := by
  cases op with
  | loadMessages sessionId =>
      rw [chatOp]
      split
      · exact uses_map _ (uses_request trivial)
      · exact uses_request trivial
  | appendMessages sessionId messages =>
      rw [chatOp]
      split
      · exact uses_map _ (uses_request trivial)
      · exact uses_request trivial
  | _ => exact uses_request trivial

/-- A turn of the chat service is one of the harness. -/
theorem chatTurn_uses {α : Type} (chat : HarnessChat) (turn : Turn α) :
    Uses InTurn (chatTurn chat turn).run :=
  uses_map _ (uses_translate (chatOp_uses chat.storesInMemory) turn.run)

/-- Following a stream is part of the turn. -/
theorem followStream_uses (chat : HarnessChat) (observed : Bool)
    (stream : Prog ChatSig (Except ChatError Unit)) (finalResult : Option ChatTurnResult) :
    Uses InTurn (followStream chat observed finalResult stream) := by
  induction stream generalizing finalResult with
  | pure result =>
      cases result <;> cases finalResult <;> exact uses_pure _
  | call op next ih =>
      cases op with
      | yield event =>
          rw [followStream, observe]
          refine uses_bind ?_ fun _ => ih () _
          split
          · exact uses_request trivial
          · exact uses_pure ()
      | _ =>
          rw [followStream]
          · exact uses_bind (chatOp_uses _ _) fun answer => ih answer finalResult
          · simp

/-- A chat turn issues only the operations of turns. -/
theorem executeTurn_uses (chat : HarnessChat) (turnRequest : ChatTurnRequest) (observed : Bool) :
    Uses InTurn (executeTurn chat turnRequest observed).run := by
  rw [executeTurn]
  split
  · exact uses_except_bind (chatTurn_uses chat _) fun stream =>
      followStream_uses chat observed stream.run none
  · exact chatTurn_uses chat _

/-! ## The phases -/

section

variable {h : History HarnessSig}

/-- The hooks around a phase do not change what it reports. -/
theorem withHooks_ensures {α : Type} {Q : History HarnessSig → α → Prop} (phase : HarnessPhase)
    (sessionId : SessionId) (runId : String) {execution : Execution α}
    (hmono : ∀ h value events, Q h value → Q (h ++ events) value)
    (hexecution : ∀ h, Ensures Conducted Q h execution) :
    Ensures Conducted Q h (withHooks phase sessionId runId execution) := by
  refine ensures_request_seq (fun _ => trivial) fun _ => ?_
  refine attempt_seq (hexecution _) fun h' result hresult => ?_
  have hreturn : ∀ events, Ensures Conducted Q (h' ++ events) (liftM result : Execution α) :=
    fun events => (obeys_except_lift _).mpr fun value heq => hmono _ _ _ (hresult value heq)
  cases result with
  | ok value => exact ensures_request_seq (fun _ => trivial) fun _ => hreturn _
  | error error => exact ensures_request_seq (fun _ => trivial) fun _ => hreturn _

/-- A list that the validation accepts has no passing feature. -/
theorem validateFeatures_passes {features : List FeatureRecord} {ids : List String}
    (hvalid : validateFeatures ids features = .ok ()) :
    ∀ feature ∈ features, feature.passes = false := by
  induction features generalizing ids with
  | nil => simp
  | cons feature features ih =>
      rw [validateFeatures] at hvalid
      split_ifs at hvalid with _ _ _ _ hpasses
      exact List.forall_mem_cons.mpr ⟨by simpa using hpasses, ih hvalid⟩

/-- A validated feature list has no passing feature. -/
theorem validateFeatureList_passes {features : List FeatureRecord}
    (hvalid : validateFeatureList features = .ok ()) :
    ∀ feature ∈ features, feature.passes = false := by
  rw [validateFeatureList] at hvalid
  split at hvalid
  · cases hvalid
  · exact validateFeatures_passes hvalid

variable (harness : Harness)

/-- An initializer installs a validated feature list and reports what the memory answered. -/
theorem runInitializerInner_ensures (request : InitializerRequest) :
    Ensures Conducted (ReportsCreation request.sessionId) h
      (harness.runInitializerInner request) := by
  rw [runInitializerInner]
  by_cases hobjective : trim request.currentObjective = ""
  · simp only [hobjective, if_true]
    exact ensures_throw _
  simp only [hobjective, if_false]
  refine ensures_check_seq fun _ hvalid => ?_
  refine recording_seq (newProgressEntry_uses _ _) fun events entry => ?_
  refine recording_seq (startedCheckpoint_uses _) fun events' checkpoint => ?_
  refine callMemory_seq (validateFeatureList_passes hvalid) fun created => ?_
  refine callMemory_seq trivial fun bootstrap => ?_
  cases hmanifest : BootstrapState.manifest bootstrap with
  | none =>
      exact ensures_throw _
  | some manifest =>
      refine ensures_pure fun hcreated => ?_
      obtain rfl : created = true := hcreated
      exact ⟨_, List.mem_append_left _ (List.mem_append_right _ (List.mem_singleton_self _)), rfl⟩

/-- The turns for a feature never end the iteration as complete. -/
theorem runTurns_ensures (chat : HarnessChat) (request : TaskIterationRequest) (observed : Bool)
    (manifest : SessionManifest) (feature : FeatureRecord) (turnsLeft retriesRemaining : Nat)
    (done : Iteration) :
    Ensures Conducted
      (fun _ ending => ∀ result, ending = .returned result → result.noPendingFeatures = false) h
      (harness.runTurns chat request observed manifest feature turnsLeft retriesRemaining
        done) := by
  induction turnsLeft generalizing h retriesRemaining done with
  | zero => exact ensures_pure fun _ heq => nomatch heq
  | succ turnsLeft ih =>
      rw [runTurns]
      have hturn : Uses Uninvolved
          (attempt (executeTurn chat (turnRequest request manifest feature) observed)).run :=
        uses_map _ ((executeTurn_uses chat _ observed).mono fun _ => InTurn.uninvolved)
      refine uninvolved_seq hturn fun events turn => ?_
      cases turn with
      | error error =>
          dsimp only
          split
          · exact ensures_throw error
          · exact ih _ _
      | ok turnResult =>
          refine ensures_seq (validate_ensures feature turnResult) fun h' validated hvalidated => ?_
          cases validated with
          | true =>
              refine callMemory_seq ⟨rfl, hvalidated rfl⟩ fun _ => ?_
              exact ensures_pure fun _ heq => nomatch heq
          | false =>
              simp only [Bool.false_eq_true, if_false]
              split
              · refine ensures_pure fun result heq => ?_
                cases heq
                rfl
              · exact ih _ _

/-- A load that finds all features passing is on record. -/
theorem finds_complete {sessionId : SessionId} {bootstrap : BootstrapState}
    (hall : allRequiredFeaturesPassed bootstrap.featureList = true) :
    ∃ e ∈ h ++ [(⟨.memory (.loadBootstrapState sessionId), .ok bootstrap⟩ : Event HarnessSig)],
      FindsComplete sessionId e :=
  ⟨_, List.mem_append_right _ (List.mem_singleton_self _), rfl, hall⟩

/-- The loop over the features reports completion when it has found it. -/
theorem runFeatures_ensures (chat : HarnessChat) (request : TaskIterationRequest)
    (observed : Bool) (manifest : SessionManifest) (remaining : Nat) (done : Iteration) :
    Ensures Conducted (ReportsCompletion request.session.id) h
      (harness.runFeatures chat request observed manifest remaining done) := by
  induction remaining generalizing h done with
  | zero =>
      rw [runFeatures]
      split
      · exact ensures_request_seq (fun _ => trivial) fun answer => nomatch answer
      · exact callMemory_seq trivial fun bootstrap => ensures_pure finds_complete
  | succ remaining ih =>
      rw [runFeatures]
      refine callMemory_seq trivial fun bootstrap => ?_
      split
      · exact ensures_pure fun _ => finds_complete ‹_›
      · refine ensures_request_seq (fun _ => trivial) fun selected => ?_
        cases (selected : Option FeatureRecord) with
        | none => exact ensures_throw _
        | some feature =>
            refine ensures_seq (harness.runTurns_ensures chat request observed manifest feature
              _ _ _) fun h' ending hending => ?_
            cases ending with
            | returned result =>
                refine ensures_pure fun hcomplete => ?_
                rw [hending result rfl] at hcomplete
                cases hcomplete
            | next done => exact ih done

/-- A task iteration reports completion when it has found it. -/
theorem runTaskIterationInner_ensures (fuel : Nat) (chat : HarnessChat)
    (request : TaskIterationRequest) (observed : Bool) :
    Ensures Conducted (ReportsCompletion request.session.id) h
      (harness.runTaskIterationInner fuel chat request observed) := by
  rw [runTaskIterationInner]
  refine callMemory_seq trivial fun bootstrap => ?_
  cases hmanifest : BootstrapState.manifest bootstrap with
  | none => exact ensures_throw _
  | some manifest =>
      refine ensures_request_seq (fun _ => trivial) fun healthy => ?_
      have hrest : ∀ events, Ensures Conducted (ReportsCompletion request.session.id)
          (h ++ [⟨.memory (.loadBootstrapState request.session.id), .ok bootstrap⟩] ++ events)
          (if allRequiredFeaturesPassed (BootstrapState.featureList bootstrap) then
            pure (Iteration.result {} request true true none)
          else harness.runFeatures chat request observed manifest
            (harness.runPolicy.maxFeaturesPerRunLimit.getD fuel) {}) := by
        intro events
        split
        · refine ensures_pure (ReportsCompletion.mono (fun _ => finds_complete ‹_›) events)
        · exact harness.runFeatures_ensures chat request observed manifest _ _
      rcases (healthy : Except HarnessError Unit) with error | _
      · dsimp only
        split
        · exact ensures_throw error
        · exact hrest _
      · exact hrest _

/-- Recording a run around its execution does not change what it reports. -/
theorem runTaskIterationWithObserverInner_ensures (fuel : Nat) (request : TaskIterationRequest)
    (observed : Bool) :
    Ensures Conducted (ReportsCompletion request.session.id) h
      (harness.runTaskIterationWithObserverInner fuel request observed) := by
  rw [runTaskIterationWithObserverInner]
  split
  · exact ensures_throw _
  · rename_i chat _
    refine recording_seq now_uses fun _ startedAt => ?_
    refine recording_seq (startedCheckpoint_uses _) fun _ checkpoint => ?_
    refine callMemory_seq trivial fun _ => ?_
    refine attempt_seq (harness.runTaskIterationInner_ensures fuel chat request observed)
      fun h' result hresult => ?_
    refine recording_seq (recordFinalHandoff_uses _ _ _ _) fun events _ => ?_
    exact (obeys_except_lift _).mpr fun value heq => (hresult value heq).mono events

/-- An initializer that reports `created` has created its session. -/
theorem runInitializer_ensures (request : InitializerRequest) :
    Ensures Conducted (ReportsCreation request.sessionId) h (harness.runInitializer request) :=
  withHooks_ensures _ _ _ (fun _ _ events hvalue => hvalue.mono events)
    fun _ => harness.runInitializerInner_ensures request

/-- A task iteration that reports no pending features has found its session complete. -/
theorem runTaskIteration_ensures (fuel : Nat) (request : TaskIterationRequest)
    (observed : Bool) :
    Ensures Conducted (ReportsCompletion request.session.id) h
      (harness.runTaskIteration fuel request observed) :=
  withHooks_ensures _ _ _ (fun _ _ events hvalue => hvalue.mono events)
    fun _ => harness.runTaskIterationWithObserverInner_ensures fuel request observed

end

/-! ## Calls -/

/-- The report of either phase has been read from the memory. -/
def Reports (sessionId : SessionId) (h : History HarnessSig) : RuntimeRunOutcome → Prop
  | .initializer result => ReportsCreation sessionId h result
  | .taskIteration result => ReportsCompletion sessionId h result

/-- Every call conducts itself and reports what it has read. -/
theorem HarnessCall.program_ensures (harness : Harness) (call : HarnessCall)
    (h : History HarnessSig) :
    Ensures Conducted (Reports call.sessionId) h (call.program harness) := by
  cases call with
  | runInitializer request =>
      exact ensures_seq (harness.runInitializer_ensures request) fun _ _ hresult =>
        ensures_pure hresult
  | runTaskIteration fuel request observed =>
      exact ensures_seq (harness.runTaskIteration_ensures fuel request observed)
        fun _ _ hresult => ensures_pure hresult
  | run fuel request observed =>
      rw [program, runWithObserver]
      have hselect : Uses Uninvolved (selectPhase request.session.id).run :=
        uses_except_bind (uses_map _ (uses_ask trivial)) fun _ => uses_pure _
      refine uninvolved_seq hselect fun _ phase => ?_
      cases phase with
      | initializer =>
          exact ensures_seq (harness.runInitializer_ensures _) fun _ _ hresult =>
            ensures_pure hresult
      | taskIteration =>
          exact ensures_seq (harness.runTaskIteration_ensures fuel _ observed)
            fun _ _ hresult => ensures_pure hresult

end Fiddlesticks.Harness
