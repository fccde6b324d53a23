import Fiddlesticks.Harness.Handoff

/-!
# What the initializer installs

`run_initializer` validates its feature list before it turns to the memory. The validation accepts
exactly the well-formed lists, among them the starter list of every objective. A request that is
accepted installs its session or finds it installed, and reports what is stored then
(`runInitializer_installs`).
-/

namespace Fiddlesticks.Harness

open Effect Prog Chat Memory

/-! ## Well-formed feature lists -/

/-- What the initializer demands of a feature list. -/
structure WellFormedFeatures (features : List FeatureRecord) : Prop where
  nonempty : features ≠ []
  ids : (features.map (·.id)).Nodup
  named : ∀ feature ∈ features, trim feature.id ≠ ""
  described : ∀ feature ∈ features, trim feature.description ≠ ""
  stepped : ∀ feature ∈ features, feature.steps ≠ []
  pending : ∀ feature ∈ features, feature.passes = false

/-- A text that starts with a character other than white space is not blank. -/
theorem trim_ne_empty {text : String} {c : Char} {rest : List Char} (h : text.toList = c :: rest)
    (hc : isWhitespace c = false) : trim text ≠ "" := by
  intro hblank
  have hchars : trimChars text.toList = [] := by
    have htoList := congrArg String.toList hblank
    rwa [trim, String.toList_ofList] at htoList
  rw [trimChars, h, List.dropWhile_cons_of_neg (by simp [hc]),
    List.rdropWhile_eq_nil_iff] at hchars
  have hwhite := hchars c List.mem_cons_self
  rw [hc] at hwhite
  cases hwhite

/-- One feature that the loop of the validation lets pass. -/
def Passable (ids : List String) (feature : FeatureRecord) : Prop :=
  trim feature.id ≠ "" ∧ feature.id ∉ ids ∧ trim feature.description ≠ "" ∧
    feature.steps ≠ [] ∧ feature.passes = false

/-- What the loop of the validation does with a feature: it ends with the error of the first check
that fails, or goes on to the next feature. -/
theorem validateFeatures_cons (ids : List String) (feature : FeatureRecord)
    (features : List FeatureRecord) :
    (¬ Passable ids feature ∧
      ∃ message, validateFeatures ids (feature :: features) = .error (.invalidRequest message)) ∨
    (Passable ids feature ∧ validateFeatures ids (feature :: features) =
      validateFeatures (feature.id :: ids) features) := by
  rw [validateFeatures]
  by_cases hid : trim feature.id = ""
  · exact .inl ⟨fun h => h.1 hid, _, if_pos hid⟩
  rw [if_neg hid]
  by_cases hseen : feature.id ∈ ids
  · exact .inl ⟨fun h => h.2.1 hseen, _, if_pos hseen⟩
  rw [if_neg hseen]
  by_cases hdescription : trim feature.description = ""
  · exact .inl ⟨fun h => h.2.2.1 hdescription, _, if_pos hdescription⟩
  rw [if_neg hdescription]
  by_cases hsteps : feature.steps = []
  · exact .inl ⟨fun h => h.2.2.2.1 hsteps, _, if_pos (List.isEmpty_iff.mpr hsteps)⟩
  rw [if_neg (List.isEmpty_iff.not.mpr hsteps)]
  by_cases hpasses : feature.passes
  · exact .inl ⟨fun h => by simp [h.2.2.2.2] at hpasses, _, if_pos hpasses⟩
  · exact .inr ⟨⟨hid, hseen, hdescription, hsteps, by simpa using hpasses⟩, if_neg hpasses⟩

/-- A list of features is valid when its first feature may pass and the rest is valid after it. -/
theorem validateFeatures_cons_iff {ids : List String} {feature : FeatureRecord}
    {features : List FeatureRecord} :
    validateFeatures ids (feature :: features) = .ok () ↔
      Passable ids feature ∧ validateFeatures (feature.id :: ids) features = .ok () := by
  rcases validateFeatures_cons ids feature features with
    ⟨hnot, message, herror⟩ | ⟨hpassable, hrest⟩
  · rw [herror]
    exact iff_of_false (fun h => nomatch h) fun h => hnot h.1
  · rw [hrest, and_iff_right hpassable]

/-- A feature may pass after another one when their ids differ. -/
theorem passable_cons_iff {ids : List String} {id : String} {feature : FeatureRecord} :
    Passable (id :: ids) feature ↔ feature.id ≠ id ∧ Passable ids feature := by
  rw [Passable, Passable, List.mem_cons, not_or]
  constructor
  · intro h
    obtain ⟨hid, ⟨hne, hseen⟩, hrest⟩ := h
    exact ⟨hne, hid, hseen, hrest⟩
  · intro h
    obtain ⟨hne, hid, hseen, hrest⟩ := h
    exact ⟨hid, ⟨hne, hseen⟩, hrest⟩

/-- The loop of the validation accepts the lists of new features with different ids. -/
theorem validateFeatures_ok_iff {ids : List String} {features : List FeatureRecord} :
    validateFeatures ids features = .ok () ↔
      (features.map (·.id)).Nodup ∧ ∀ feature ∈ features, Passable ids feature := by
  induction features generalizing ids with
  | nil => simp [validateFeatures]
  | cons feature features ih =>
      rw [validateFeatures_cons_iff, ih, List.map_cons, List.nodup_cons, List.forall_mem_cons]
      constructor
      · intro h
        obtain ⟨hfirst, hnodup, hrest⟩ := h
        refine ⟨⟨?_, hnodup⟩, hfirst,
          fun other hother => (passable_cons_iff.mp (hrest other hother)).2⟩
        intro hmem
        obtain ⟨other, hother, hid⟩ := List.mem_map.mp hmem
        exact (passable_cons_iff.mp (hrest other hother)).1 hid
      · intro h
        obtain ⟨⟨hnew, hnodup⟩, hfirst, hrest⟩ := h
        refine ⟨hfirst, hnodup, fun other hother => passable_cons_iff.mpr ⟨?_, hrest other hother⟩⟩
        intro hid
        exact hnew (List.mem_map.mpr ⟨other, hother, hid⟩)

/-- `validate_feature_list` accepts exactly the well-formed lists. -/
theorem validateFeatureList_ok_iff {features : List FeatureRecord} :
    validateFeatureList features = .ok () ↔ WellFormedFeatures features := by
  rw [validateFeatureList]
  by_cases hempty : features = []
  · subst hempty
    exact iff_of_false (by simp) fun h => h.nonempty rfl
  · rw [if_neg (by simpa using hempty), validateFeatures_ok_iff]
    constructor
    · intro h
      obtain ⟨hids, hall⟩ := h
      exact ⟨hempty, hids, fun f hf => (hall f hf).1, fun f hf => (hall f hf).2.2.1,
        fun f hf => (hall f hf).2.2.2.1, fun f hf => (hall f hf).2.2.2.2⟩
    · intro h
      exact ⟨h.ids, fun f hf => ⟨h.named f hf, List.not_mem_nil, h.described f hf, h.stepped f hf,
        h.pending f hf⟩⟩

/-- What it says of other lists is that the request is invalid. -/
theorem validateFeatures_error {ids : List String} {features : List FeatureRecord}
    {error : HarnessError} (h : validateFeatures ids features = .error error) :
    error.kind = .invalidRequest := by
  induction features generalizing ids with
  | nil => cases h
  | cons feature features ih =>
      rcases validateFeatures_cons ids feature features with
        ⟨-, message, hmessage⟩ | ⟨-, hrest⟩
      · rw [hmessage] at h
        cases h
        rfl
      · exact ih (hrest ▸ h)

/-- A feature list is refused as an invalid request. -/
theorem validateFeatureList_error {features : List FeatureRecord} {error : HarnessError}
    (h : validateFeatureList features = .error error) : error.kind = .invalidRequest := by
  rw [validateFeatureList] at h
  split at h
  · cases h
    rfl
  · exact validateFeatures_error h

/-- The starter list of every objective is well formed. -/
theorem starterFeatureList_wellFormed (objective : String) :
    WellFormedFeatures (starterFeatureList objective) where
  nonempty := List.cons_ne_nil _ _
  ids := by
    show ["initializer.artifacts", "harness.baseline", "chat.turn", "chat.streaming", "tool.loop",
      "quality.regression"].Nodup
    decide
  named := by
    simp only [starterFeatureList, feature, List.forall_mem_cons]
    refine ⟨?_, ?_, ?_, ?_, ?_, ?_, List.forall_mem_nil _⟩ <;> decide
  described := by
    have hstart : (s!"Initializer artifacts exist for objective: {objective}").toList =
        'I' :: ("nitializer artifacts exist for objective: ".toList ++ objective.toList) := by
      rw [← List.cons_append]
      exact String.toList_append
    have hobjective := trim_ne_empty hstart (by decide)
    simp only [starterFeatureList, feature, List.forall_mem_cons]
    refine ⟨hobjective, ?_, ?_, ?_, ?_, ?_, List.forall_mem_nil _⟩ <;> decide
  stepped := by
    simp [starterFeatureList, feature]
  pending := by
    simp [starterFeatureList, feature]

/-! ## Requests -/

/-- The feature list that a request is about: the starter list if it has none. -/
def InitializerRequest.features (request : InitializerRequest) : List FeatureRecord :=
  if request.featureList.isEmpty then starterFeatureList request.currentObjective
  else request.featureList

/-- What a request needs to be accepted. -/
def InitializerRequest.Accepted (request : InitializerRequest) : Prop :=
  trim request.currentObjective ≠ "" ∧
    (request.featureList = [] ∨ WellFormedFeatures request.featureList)

/-- A request is accepted when it has an objective and its features are well formed. -/
theorem InitializerRequest.accepted_iff {request : InitializerRequest} :
    request.Accepted ↔
      trim request.currentObjective ≠ "" ∧ WellFormedFeatures request.features := by
  rw [Accepted, features]
  refine and_congr_right fun _ => ?_
  cases hfeatures : request.featureList with
  | nil => exact iff_of_true (.inl rfl) (starterFeatureList_wellFormed _)
  | cons feature features => simp

/-! ## The installed session -/

/-- A session that was created for a request. -/
structure Installed (request : InitializerRequest) (before after : SessionState) : Prop where
  manifest : ∃ manifest, after.manifest = some manifest ∧
    manifest.currentObjective = request.currentObjective ∧
    manifest.activeBranch = request.activeBranch
  features : WellFormedFeatures after.featureList
  progress : ∃ entry, after.progress = before.progress ++ [entry] ∧ entry.runId = request.runId
  checkpoints : ∃ checkpoint, after.checkpoints = before.checkpoints ++ [checkpoint] ∧
    checkpoint.runId = request.runId ∧ checkpoint.status = .inProgress
  transcript : after.transcript = before.transcript

/-- A result describes the state of its session. -/
structure Describes (result : InitializerResult) (state : SessionState) : Prop where
  manifest : ∃ manifest, state.manifest = some manifest ∧
    result.sessionId = manifest.sessionId ∧ result.schemaVersion = manifest.schemaVersion ∧
    result.harnessVersion = manifest.harnessVersion
  featureCount : result.featureCount = state.featureList.length

/-- What an initializer that is not rejected does to its session. -/
structure Initialized (request : InitializerRequest) (before after : SessionState)
    (result : InitializerResult) : Prop where
  created_iff : result.created = true ↔ before.manifest = none
  installed : result.created = true → Installed request before after
  kept : result.created = false → after = before
  describes : Describes result after

/-! ## Rejected requests -/

section

variable {α β : Type} {h : History HarnessSig}

/-- The program fails for other reasons than an invalid request, if it fails. -/
abbrev NeverRejects (h : History HarnessSig) (execution : Execution α) : Prop :=
  Obeys (fun _ _ => True) (fun _ result => ∀ error, result = .error error →
    error.kind ≠ .invalidRequest) h execution.run

/-- A sequence rejects nothing when its parts do not. -/
theorem neverRejects_seq {p : Execution α} {f : α → Execution β} (hp : NeverRejects h p)
    (hf : ∀ h' value, NeverRejects h' (f value)) : NeverRejects h (p >>= f) := by
  refine obeys_except_seq hp (fun h' value _ => hf h' value) fun h' error hkind => ?_
  rintro _ ⟨⟩
  exact hkind error rfl

/-- The memory does not say that a request is invalid. -/
theorem callMemory_neverRejects (op : MemoryOp) : NeverRejects h (callMemory op) := by
  refine (obeys_map _ _).mpr ?_
  rw [ask, obeys_call]
  refine fun answer => ⟨trivial, (obeys_pure _).mpr fun error herror => ?_⟩
  rcases (answer : op.Answer) with memoryError | value
  · cases herror
    show HarnessErrorKind.memory ≠ .invalidRequest
    decide
  · cases herror

/-- Reading the clock rejects nothing. -/
theorem now_neverRejects : NeverRejects h now := by
  refine (obeys_map _ _).mpr ?_
  rw [ask, obeys_call]
  refine fun time => ⟨trivial, (obeys_pure _).mpr fun error herror => ?_⟩
  cases herror

/-- Returning a value rejects nothing. -/
theorem neverRejects_pure (value : α) : NeverRejects h (pure value) := by
  refine (obeys_except_pure value).mpr fun error herror => ?_
  cases herror

/-- Making a progress entry rejects nothing. -/
theorem newProgressEntry_neverRejects (runId summary : String) :
    NeverRejects h (newProgressEntry runId summary) :=
  neverRejects_seq now_neverRejects fun _ _ => neverRejects_pure _

/-- Making a checkpoint rejects nothing. -/
theorem startedCheckpoint_neverRejects (runId : String) :
    NeverRejects h (startedCheckpoint runId) :=
  neverRejects_seq now_neverRejects fun _ _ => neverRejects_pure _

variable (harness : Harness) (request : InitializerRequest)

/-- The result of an initializer: a request that is not accepted is rejected before anything else
happens, and no other is rejected. -/
def Answers (request : InitializerRequest) (h h' : History HarnessSig)
    (result : Except HarnessError InitializerResult) : Prop :=
  (¬ request.Accepted → h' = h ∧ ∃ error, result = .error error ∧ error.kind = .invalidRequest) ∧
    (request.Accepted → ∀ error, result = .error error → error.kind ≠ .invalidRequest)

/-- A request that is not accepted fails at once as an invalid one. -/
theorem runInitializerInner_of_rejected (hrejected : ¬ request.Accepted) :
    ∃ error, error.kind = .invalidRequest ∧ harness.runInitializerInner request = throw error := by
  rw [runInitializerInner]
  by_cases hobjective : trim request.currentObjective = ""
  · rw [if_pos hobjective]
    exact ⟨_, rfl, rfl⟩
  rw [if_neg hobjective]
  have hvalid : validateFeatureList request.features ≠ .ok () := fun hvalid => hrejected
    (InitializerRequest.accepted_iff.mpr ⟨hobjective, validateFeatureList_ok_iff.mp hvalid⟩)
  cases herror : validateFeatureList request.features with
  | ok _ => exact absurd herror hvalid
  | error error =>
      refine ⟨error, validateFeatureList_error herror, ?_⟩
      show (liftM (validateFeatureList request.features) : Execution Unit) >>= _ = _
      rw [herror]
      rfl

/-- The initializer returns what its request and the answers to it say. -/
theorem runInitializerInner_answers :
    Obeys (fun _ _ => True) (Answers request h) h (harness.runInitializerInner request).run := by
  by_cases haccepted : request.Accepted
  · obtain ⟨hobjective, hfeatures⟩ := InitializerRequest.accepted_iff.mp haccepted
    have hanswers (h' : History HarnessSig) (result : Except HarnessError InitializerResult)
        (hkind : ∀ error, result = .error error → error.kind ≠ .invalidRequest) :
        Answers request h h' result :=
      ⟨fun hrejected => absurd haccepted hrejected, fun _ => hkind⟩
    have hcheck : NeverRejects h (liftM (validateFeatureList request.features)) := by
      rw [validateFeatureList_ok_iff.mpr hfeatures]
      exact neverRejects_pure ()
    rw [runInitializerInner, if_neg hobjective]
    refine Obeys.mono ?_ (fun _ _ h => h) hanswers
    refine neverRejects_seq hcheck fun _ _ => ?_
    refine neverRejects_seq (newProgressEntry_neverRejects _ _) fun _ entry => ?_
    refine neverRejects_seq (startedCheckpoint_neverRejects _) fun _ checkpoint => ?_
    refine neverRejects_seq (callMemory_neverRejects _) fun _ created => ?_
    refine neverRejects_seq (callMemory_neverRejects _) fun _ bootstrap => ?_
    cases hmanifest : BootstrapState.manifest bootstrap with
    | none =>
        refine (obeys_except_throw _).mpr fun error herror => ?_
        cases herror
        show HarnessErrorKind.memory ≠ .invalidRequest
        decide
    | some manifest => exact neverRejects_pure _
  · obtain ⟨error, hkind, hthrow⟩ := harness.runInitializerInner_of_rejected request haccepted
    rw [hthrow]
    exact (obeys_except_throw error).mpr
      ⟨fun _ => ⟨rfl, error, rfl, hkind⟩, fun h => absurd h haccepted⟩

/-- The hooks around a phase do not change its outcome. -/
theorem withHooks_obeys {phase : HarnessPhase} {sessionId : SessionId} {runId : String}
    {execution : Execution α} {Q Q' : History HarnessSig → Except HarnessError α → Prop}
    (hexecution : Obeys (fun _ _ => True) Q
      (h ++ [⟨.hook (.phaseStart phase sessionId runId), ()⟩]) execution.run)
    (hend : ∀ h' event result, Q h' result → Q' (h' ++ [⟨.hook event, ()⟩]) result) :
    Obeys (fun _ _ => True) Q' h (withHooks phase sessionId runId execution).run := by
  have hhook {h' : History HarnessSig} {event : PhaseEvent} {f : Unit → Execution α}
      (hf : Obeys (fun _ _ => True) Q' (h' ++ [⟨.hook event, ()⟩]) (f ()).run) :
      Obeys (fun _ _ => True) Q' h' (ExceptT.lift (ask (.hook event)) >>= f).run := by
    refine (obeys_except_bind _ _).mpr ((obeys_lift _).mpr ?_)
    rw [ask, obeys_call]
    exact fun _ => ⟨trivial, (obeys_pure _).mpr hf⟩
  rw [withHooks]
  refine hhook ((obeys_except_bind _ _).mpr ((obeys_lift _).mpr ?_))
  refine hexecution.mono (fun _ _ h => h) fun h' result hresult => ?_
  cases result with
  | ok value => exact hhook ((obeys_except_lift _).mpr (hend h' _ _ hresult))
  | error error => exact hhook ((obeys_except_lift _).mpr (hend h' _ _ hresult))

/-- No operation of the memory was performed. -/
def MemoryUntouched (history : History HarnessSig) : Prop :=
  ∀ e ∈ history, ∀ op, e.op ≠ HarnessOp.memory op

/-- A rejected request does nothing to the memory, and no accepted one is rejected. -/
theorem runInitializer_answers {history : History HarnessSig}
    {result : Except HarnessError InitializerResult}
    (hpath : Path (harness.runInitializer request).run history (.pure result)) :
    (¬ request.Accepted → MemoryUntouched history ∧
        ∃ error, result = .error error ∧ error.kind = .invalidRequest) ∧
      (request.Accepted → ∀ error, result = .error error → error.kind ≠ .invalidRequest) := by
  have hobeys : Obeys (fun _ _ => True) (fun history result =>
      (¬ request.Accepted → MemoryUntouched history ∧
        ∃ error, result = .error error ∧ error.kind = .invalidRequest) ∧
      (request.Accepted → ∀ error, result = .error error → error.kind ≠ .invalidRequest)) []
      (harness.runInitializer request).run := by
    refine withHooks_obeys (runInitializerInner_answers harness request) ?_
    intro h' event result hanswers
    obtain ⟨hrejected, haccepted⟩ := hanswers
    refine ⟨fun hnot => ?_, haccepted⟩
    obtain ⟨rfl, herror⟩ := hrejected hnot
    refine ⟨fun e he op => ?_, herror⟩
    rcases List.mem_pair.mp he with rfl | rfl
    · simp
    · simp
  exact hobeys.returns hpath

end

/-! ## Accepted requests -/

/-- A memory that nobody else writes to and that does not fail. All other answers are arbitrary. -/
def ReliableAct (sessions : Sessions) : Event HarnessSig → Sessions → Prop
  | ⟨.memory op, answer⟩, sessions' => answer = ((sessions op.sessionId).apply op).1 ∧
      sessions' = Function.update sessions op.sessionId ((sessions op.sessionId).apply op).2
  | _, sessions' => sessions' = sessions

section

variable {α β : Type} {sessions : Sessions} {R : Except HarnessError β → Sessions → Prop}

/-- Go on after an operation of the memory that succeeds. -/
theorem callMemory_correct_seq {op : MemoryOp} {value : op.Value} {after : SessionState}
    {f : op.Value → Execution β} (happly : (sessions op.sessionId).apply op = (.ok value, after))
    (hf : Correct ReliableAct (fun _ _ => True) R (f value).run
      (Function.update sessions op.sessionId after)) :
    Correct ReliableAct (fun _ _ => True) R (callMemory op >>= f).run sessions := by
  refine correct_except_seq (Q := fun result s => result = .ok value ∧
    s = Function.update sessions op.sessionId after) ?_ ?_ ?_
  · refine (correct_map _ _).mpr ((correct_call _ _).mpr ⟨trivial, fun answer s hact => ?_⟩)
    obtain ⟨rfl, rfl⟩ := hact
    rw [happly]
    exact (correct_pure _).mpr ⟨rfl, rfl⟩
  · rintro value s ⟨⟨⟩, rfl⟩
    exact hf
  · rintro error s ⟨⟨⟩, -⟩

/-- Go on after an operation that leaves the memory alone, whatever its answer. -/
theorem ask_correct_seq {op : HarnessOp} {f : op.Answer → Execution β}
    (hkeeps : ∀ answer s, ReliableAct sessions ⟨op, answer⟩ s → s = sessions)
    (hf : ∀ answer, Correct ReliableAct (fun _ _ => True) R (f answer).run sessions) :
    Correct ReliableAct (fun _ _ => True) R (ExceptT.lift (ask op) >>= f).run sessions := by
  refine correct_lift_seq (Q := fun _ s => s = sessions) ?_ ?_
  · refine (correct_call _ _).mpr ⟨trivial, fun answer s hact => ?_⟩
    exact (correct_pure _).mpr (hkeeps answer s hact)
  · intro answer s hs
    subst hs
    exact hf answer

/-- Go on after reading the clock. -/
theorem now_correct_seq {f : SystemTime → Execution β}
    (hf : ∀ time, Correct ReliableAct (fun _ _ => True) R (f time).run sessions) :
    Correct ReliableAct (fun _ _ => True) R (now >>= f).run sessions :=
  ask_correct_seq (fun _ _ hact => hact) hf

/-- Go on with a progress entry of the run. -/
theorem newProgressEntry_correct_seq {runId summary : String} {f : ProgressEntry → Execution β}
    (hf : ∀ entry, entry.runId = runId →
      Correct ReliableAct (fun _ _ => True) R (f entry).run sessions) :
    Correct ReliableAct (fun _ _ => True) R (newProgressEntry runId summary >>= f).run
      sessions := by
  rw [newProgressEntry, LawfulMonad.bind_assoc]
  exact now_correct_seq fun time => hf _ rfl

/-- Go on with a started checkpoint of the run. -/
theorem startedCheckpoint_correct_seq {runId : String} {f : RunCheckpoint → Execution β}
    (hf : ∀ checkpoint, checkpoint.runId = runId → checkpoint.status = .inProgress →
      Correct ReliableAct (fun _ _ => True) R (f checkpoint).run sessions) :
    Correct ReliableAct (fun _ _ => True) R (startedCheckpoint runId >>= f).run sessions := by
  rw [startedCheckpoint, LawfulMonad.bind_assoc]
  exact now_correct_seq fun time => hf _ rfl rfl

/-- The hooks around a phase change neither its outcome nor the memory. -/
theorem withHooks_correct {phase : HarnessPhase} {sessionId : SessionId} {runId : String}
    {execution : Execution α} {Q : Except HarnessError α → Sessions → Prop}
    (hexecution : Correct ReliableAct (fun _ _ => True) Q execution.run sessions) :
    Correct ReliableAct (fun _ _ => True) Q (withHooks phase sessionId runId execution).run
      sessions := by
  have hhook {sessions' : Sessions} {event : PhaseEvent} {f : Unit → Execution α}
      (hf : Correct ReliableAct (fun _ _ => True) Q (f ()).run sessions') :
      Correct ReliableAct (fun _ _ => True) Q (ExceptT.lift (ask (.hook event)) >>= f).run
        sessions' :=
    ask_correct_seq (fun _ _ hact => hact) fun _ => hf
  rw [withHooks]
  refine hhook (correct_lift_seq hexecution fun result sessions' hresult => ?_)
  cases result with
  | ok value => exact hhook ((correct_pure _).mpr hresult)
  | error error => exact hhook ((correct_pure _).mpr hresult)

variable (harness : Harness) (request : InitializerRequest)

/-- The states of the sessions after an initializer. -/
def Initializes (request : InitializerRequest) (before : Sessions)
    (result : Except HarnessError InitializerResult) (after : Sessions) : Prop :=
  ∃ value, result = .ok value ∧
    Initialized request (before request.sessionId) (after request.sessionId) value ∧
    ∀ other, other ≠ request.sessionId → after other = before other

/-- The conditional write of the memory, and the result that is read back after it. -/
theorem initialized_of_apply (manifest : SessionManifest) (before : SessionState)
    {features : List FeatureRecord} {entry : ProgressEntry} {checkpoint : RunCheckpoint}
    (hfeatures : WellFormedFeatures features)
    (hobjective : manifest.currentObjective = request.currentObjective)
    (hbranch : manifest.activeBranch = request.activeBranch)
    (hentry : entry.runId = request.runId) (hcheckpoint : checkpoint.runId = request.runId)
    (hstatus : checkpoint.status = .inProgress) :
    ∃ created after stored,
      before.apply (.initializeSessionIfMissing request.sessionId manifest features (some entry)
        (some checkpoint)) = (.ok created, after) ∧ after.manifest = some stored ∧
      Initialized request before after
        { sessionId := stored.sessionId, created, schemaVersion := stored.schemaVersion,
          harnessVersion := stored.harnessVersion, featureCount := after.featureList.length } := by
  cases hmanifest : before.manifest with
  | none =>
      refine ⟨true, _, manifest, by rw [SessionState.apply, hmanifest]; rfl, rfl, ?_⟩
      exact
        { created_iff := iff_of_true rfl hmanifest
          installed := fun _ => ⟨⟨manifest, rfl, hobjective, hbranch⟩, hfeatures,
            ⟨entry, rfl, hentry⟩, ⟨checkpoint, rfl, hcheckpoint, hstatus⟩, rfl⟩
          kept := fun hcreated => nomatch hcreated
          describes := ⟨⟨manifest, rfl, rfl, rfl, rfl⟩, rfl⟩ }
  | some stored =>
      refine ⟨false, before, stored, by rw [SessionState.apply, hmanifest]; rfl, hmanifest, ?_⟩
      exact
        { created_iff := iff_of_false (by simp) (by simp [hmanifest])
          installed := fun hcreated => nomatch hcreated
          kept := fun _ => rfl
          describes := ⟨⟨stored, hmanifest, rfl, rfl, rfl⟩, rfl⟩ }

/-- An accepted request initializes its session. -/
theorem runInitializerInner_correct (haccepted : request.Accepted) :
    Correct ReliableAct (fun _ _ => True) (Initializes request sessions)
      (harness.runInitializerInner request).run sessions := by
  obtain ⟨hobjective, hfeatures⟩ := InitializerRequest.accepted_iff.mp haccepted
  rw [runInitializerInner, if_neg hobjective]
  show Correct _ _ _ ((liftM (validateFeatureList request.features) : Execution Unit) >>= _).run _
  rw [validateFeatureList_ok_iff.mpr hfeatures]
  refine newProgressEntry_correct_seq fun entry hentry => ?_
  refine startedCheckpoint_correct_seq fun checkpoint hcheckpoint hstatus => ?_
  obtain ⟨created, after, stored, happly, hstored, hinitialized⟩ :=
    initialized_of_apply request (harness.initialManifest request) (sessions request.sessionId)
      hfeatures rfl rfl hentry hcheckpoint hstatus
  refine callMemory_correct_seq happly ?_
  have hloaded : (Function.update sessions request.sessionId after request.sessionId).apply
      (.loadBootstrapState request.sessionId) = (.ok after.bootstrap, after) := by
    rw [Function.update_self, SessionState.apply]
  refine callMemory_correct_seq hloaded ?_
  have hmanifest : after.bootstrap.manifest = some stored := hstored
  rw [hmanifest]
  dsimp only [MemoryOp.sessionId]
  rw [Function.update_idem]
  refine (correct_pure _).mpr ⟨_, rfl, ?_, fun other hother => ?_⟩
  · rw [Function.update_self]
    exact hinitialized
  · exact Function.update_of_ne hother _ _

/-- A rejected request changes nothing. -/
theorem runInitializerInner_rejects (hrejected : ¬ request.Accepted) :
    Correct ReliableAct (fun _ _ => True) (fun result after => after = sessions ∧
      ∃ error, result = .error error ∧ error.kind = .invalidRequest)
      (harness.runInitializerInner request).run sessions := by
  obtain ⟨error, hkind, hthrow⟩ := harness.runInitializerInner_of_rejected request hrejected
  rw [hthrow]
  exact (correct_pure _).mpr ⟨rfl, error, rfl, hkind⟩

/-- The operations of an initializer. -/
def Initializing : HarnessOp → Prop
  | .memory _ | .now | .hook _ => True
  | _ => False

/-- What the initializer issues under its hooks. -/
theorem runInitializerInner_uses :
    Uses Initializing (harness.runInitializerInner request).run := by
  have hmemory (op : MemoryOp) : Uses Initializing (callMemory op).run :=
    uses_map _ (uses_request (S := HarnessSig) trivial)
  have hnow : Uses Initializing now.run := uses_map _ (uses_request (S := HarnessSig) trivial)
  by_cases haccepted : request.Accepted
  · obtain ⟨hobjective, hfeatures⟩ := InitializerRequest.accepted_iff.mp haccepted
    have hcheck : Uses Initializing
        (liftM (validateFeatureList request.features) : Execution Unit).run := by
      rw [validateFeatureList_ok_iff.mpr hfeatures]
      exact uses_pure _
    rw [runInitializerInner, if_neg hobjective]
    refine uses_except_bind hcheck fun _ => ?_
    refine uses_except_bind (uses_except_bind hnow fun _ => uses_pure _) fun entry => ?_
    refine uses_except_bind (uses_except_bind hnow fun _ => uses_pure _) fun checkpoint => ?_
    refine uses_except_bind (hmemory _) fun created => ?_
    refine uses_except_bind (hmemory _) fun bootstrap => ?_
    cases hmanifest : BootstrapState.manifest bootstrap with
    | none => exact uses_pure _
    | some manifest => exact uses_pure _
  · obtain ⟨error, -, hthrow⟩ := harness.runInitializerInner_of_rejected request haccepted
    rw [hthrow]
    exact uses_pure _

/-- What the initializer issues. -/
theorem runInitializer_uses : Uses Initializing (harness.runInitializer request).run := by
  have hhook {event : PhaseEvent} : Uses Initializing
      (ExceptT.lift (ask (.hook event)) : Execution Unit).run :=
    uses_map _ (uses_request (S := HarnessSig) trivial)
  refine uses_except_bind hhook fun _ => ?_
  refine uses_except_bind (uses_map _ (harness.runInitializerInner_uses request)) fun result => ?_
  cases result with
  | ok value => exact uses_except_bind hhook fun _ => uses_pure _
  | error error => exact uses_except_bind hhook fun _ => uses_pure _

/-- Every operation of an initializer is answered. -/
theorem Initializing.answered (sessions : Sessions) (op : HarnessOp) (hop : Initializing op) :
    ∃ answer sessions', ReliableAct sessions ⟨op, answer⟩ sessions' := by
  cases op with
  | memory op => exact ⟨_, _, rfl, rfl⟩
  | now => exact ⟨⟨0, 0⟩, sessions, rfl⟩
  | hook event => exact ⟨(), sessions, rfl⟩
  | _ => exact hop.elim

/-- The initializer validates before it writes, whatever the memory answers, and rejects exactly the
requests that are not accepted. In a memory that does not fail every run can be finished, and a
request is rejected without a change or installs its session. Accepted are also the requests without
features, for the starter list of every objective is valid. -/
theorem runInitializer_installs :
    (∀ history result,
      Path (harness.runInitializer request).run history (.pure result) →
      ((∃ error, result = .error error ∧ error.kind = .invalidRequest) ↔ ¬ request.Accepted) ∧
      (¬ request.Accepted → MemoryUntouched history)) ∧
    (∀ sessions : Sessions,
      (∀ rest reached,
        Steps ReliableAct (harness.runInitializer request).run sessions rest reached →
        ∃ result after, Steps ReliableAct rest reached (.pure result) after) ∧
      ∀ result after,
        Steps ReliableAct (harness.runInitializer request).run sessions (.pure result) after →
        (¬ request.Accepted ∧ after = sessions ∧
          ∃ error, result = .error error ∧ error.kind = .invalidRequest) ∨
        (request.Accepted ∧ Initializes request sessions result after)) ∧
    ∀ objective, validateFeatureList (starterFeatureList objective) = .ok () := by
  refine ⟨fun history result hpath => ?_, fun sessions => ⟨fun rest reached hsteps => ?_,
    fun result after hsteps => ?_⟩, fun objective => ?_⟩
  · obtain ⟨hrejected, haccepted⟩ := harness.runInitializer_answers request hpath
    refine ⟨⟨?_, fun hnot => (hrejected hnot).2⟩, fun hnot => (hrejected hnot).1⟩
    intro hfailed h
    obtain ⟨error, herror, hkind⟩ := hfailed
    exact haccepted h error herror hkind
  · exact ((harness.runInitializer_uses request).steps hsteps).to_end Initializing.answered reached
  · by_cases haccepted : request.Accepted
    · exact .inr ⟨haccepted, Correct.returns
        (withHooks_correct (harness.runInitializerInner_correct request haccepted)) hsteps⟩
    · have hrejects : Correct ReliableAct (fun _ _ => True) (fun result after => after = sessions ∧
          ∃ error, result = .error error ∧ error.kind = .invalidRequest)
          (harness.runInitializer request).run sessions :=
        withHooks_correct (harness.runInitializerInner_rejects request haccepted)
      exact .inl ⟨haccepted, hrejects.returns hsteps⟩
  · exact validateFeatureList_ok_iff.mpr (starterFeatureList_wellFormed objective)

end

end Fiddlesticks.Harness
