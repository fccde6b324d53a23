import Fiddlesticks.Memory.Backend
import Fiddlesticks.Memory.Codec

/-!
# Session documents

The `Persisted*` types that the Postgres and filesystem backends store a session as, one document
for each. A document represents a session state when loading it gives that state, and the changes
that the backends make to a loaded document are those of the in-memory backend.
-/

namespace Fiddlesticks.Memory

open Provider

/-! ## Records -/

/-- `PersistedFeatureRecord`. -/
structure PersistedFeatureRecord where
  id : String
  category : String
  description : String
  steps : List String
  passes : Bool
  deriving DecidableEq

namespace PersistedFeatureRecord

/-- `PersistedFeatureRecord::from_feature_record`. -/
def fromFeatureRecord (feature : FeatureRecord) : PersistedFeatureRecord :=
  { id := feature.id, category := feature.category, description := feature.description,
    steps := feature.steps, passes := feature.passes }

/-- `PersistedFeatureRecord::into_feature_record`. -/
def intoFeatureRecord (feature : PersistedFeatureRecord) : FeatureRecord :=
  { id := feature.id, category := feature.category, description := feature.description,
    steps := feature.steps, passes := feature.passes }

/-- Reading what was written gives it back. -/
@[simp] theorem into_from (feature : FeatureRecord) :
    (fromFeatureRecord feature).intoFeatureRecord = feature := rfl

end PersistedFeatureRecord

/-- `PersistedInitStep`. -/
inductive PersistedInitStep where
  | command (program : String) (args : List String)
  | shell (shell script : String)
  deriving DecidableEq

namespace PersistedInitStep

/-- `PersistedInitStep::from_init_step`. -/
def fromInitStep : InitStep → Except MemoryError PersistedInitStep
  | .command program args => .ok (.command program args)
  | .shell name script => .ok (.shell (initShellToStr name) script)

/-- `PersistedInitStep::into_init_step`. -/
def intoInitStep : PersistedInitStep → Except MemoryError InitStep
  | .command program args => .ok (.command program args)
  | .shell name script => do
      let value ← initShellFromStr name
      return .shell value script

/-- A step that is written is read back. -/
theorem into_from (step : InitStep) :
    ∃ persisted, fromInitStep step = .ok persisted ∧ persisted.intoInitStep = .ok step := by
  cases step with
  | command program args => exact ⟨.command program args, rfl, rfl⟩
  | shell value script => exact ⟨.shell (initShellToStr value) script, rfl, by cases value <;> rfl⟩

end PersistedInitStep

/-- What is written for each item of a list is read back for the whole list. -/
theorem mapM_into_from {A P : Type} {encode : A → Except MemoryError P}
    {decode : P → Except MemoryError A}
    (h : ∀ item, ∃ persisted, encode item = .ok persisted ∧ decode persisted = .ok item)
    (items : List A) :
    ∃ persisted, items.mapM encode = .ok persisted ∧ persisted.mapM decode = .ok items := by
  induction items with
  | nil => exact ⟨[], rfl, rfl⟩
  | cons item items ih =>
      obtain ⟨first, hencode, hdecode⟩ := h item
      obtain ⟨rest, hrest, hrest'⟩ := ih
      refine ⟨first :: rest, ?_, ?_⟩
      · rw [List.mapM_cons, hencode, hrest]
        rfl
      · rw [List.mapM_cons, hdecode, hrest']
        rfl

/-- `PersistedInitPlan`. -/
structure PersistedInitPlan where
  steps : List PersistedInitStep
  deriving DecidableEq

namespace PersistedInitPlan

/-- `PersistedInitPlan::from_init_plan`. -/
def fromInitPlan (plan : InitPlan) : Except MemoryError PersistedInitPlan := do
  return { steps := ← plan.steps.mapM PersistedInitStep.fromInitStep }

/-- `PersistedInitPlan::into_init_plan`. -/
def intoInitPlan (plan : PersistedInitPlan) : Except MemoryError InitPlan := do
  return { steps := ← plan.steps.mapM PersistedInitStep.intoInitStep }

/-- A plan that is written is read back, also one without steps. -/
theorem into_from (plan : InitPlan) :
    ∃ persisted, fromInitPlan plan = .ok persisted ∧ persisted.intoInitPlan = .ok plan := by
  obtain ⟨steps, hsteps, hsteps'⟩ := mapM_into_from PersistedInitStep.into_from plan.steps
  refine ⟨⟨steps⟩, ?_, ?_⟩
  · rw [fromInitPlan, hsteps]
    rfl
  · rw [intoInitPlan, hsteps']
    rfl

end PersistedInitPlan

/-- `PersistedManifest`. -/
structure PersistedManifest where
  schemaVersion : UInt32
  harnessVersion : String
  activeBranch : String
  currentObjective : String
  lastKnownGoodCommit : Option String
  initPlan : Option PersistedInitPlan
  metadata : MetadataMap
  deriving DecidableEq

namespace PersistedManifest

/-- `PersistedManifest::from_manifest`. -/
def fromManifest (manifest : SessionManifest) : Except MemoryError PersistedManifest := do
  return { schemaVersion := manifest.schemaVersion, harnessVersion := manifest.harnessVersion,
           activeBranch := manifest.activeBranch, currentObjective := manifest.currentObjective,
           lastKnownGoodCommit := manifest.lastKnownGoodCommit,
           initPlan := ← manifest.initPlan.mapM PersistedInitPlan.fromInitPlan,
           metadata := manifest.metadata }

/-- `PersistedManifest::into_manifest`. -/
def intoManifest (sessionId : SessionId) (manifest : PersistedManifest) :
    Except MemoryError SessionManifest := do
  return { sessionId, schemaVersion := manifest.schemaVersion,
           harnessVersion := manifest.harnessVersion, activeBranch := manifest.activeBranch,
           currentObjective := manifest.currentObjective,
           lastKnownGoodCommit := manifest.lastKnownGoodCommit,
           initPlan := ← manifest.initPlan.mapM PersistedInitPlan.intoInitPlan,
           metadata := manifest.metadata }

/-- A manifest that is written is read back under the session it is read for. -/
theorem into_from (sessionId : SessionId) (manifest : SessionManifest) :
    ∃ persisted, fromManifest manifest = .ok persisted ∧
      persisted.intoManifest sessionId = .ok { manifest with sessionId } := by
  obtain ⟨_, schemaVersion, harness, branch, objective, commit, plan, metadata⟩ := manifest
  cases plan with
  | none => exact ⟨_, rfl, rfl⟩
  | some plan =>
      obtain ⟨persisted, hplan, hplan'⟩ := PersistedInitPlan.into_from plan
      refine ⟨⟨schemaVersion, harness, branch, objective, commit, some persisted, metadata⟩,
        ?_, ?_⟩
      · simp only [fromManifest, Option.mapM_some, hplan]
        rfl
      · simp only [intoManifest, Option.mapM_some, hplan']
        rfl

end PersistedManifest

/-- `PersistedProgressEntry`. -/
structure PersistedProgressEntry where
  runId : String
  summary : String
  createdAtSecs : Int64
  createdAtNanos : Int64
  deriving DecidableEq

namespace PersistedProgressEntry

/-- `PersistedProgressEntry::from_entry`. -/
def fromEntry (entry : ProgressEntry) : Except MemoryError PersistedProgressEntry := do
  let (secs, nanos) ← encodeSystemTime entry.createdAt
  return { runId := entry.runId, summary := entry.summary, createdAtSecs := secs,
           createdAtNanos := nanos }

/-- `PersistedProgressEntry::into_entry`. -/
def intoEntry (entry : PersistedProgressEntry) : Except MemoryError ProgressEntry := do
  return { runId := entry.runId, summary := entry.summary,
           createdAt := ← decodeSystemTime entry.createdAtSecs entry.createdAtNanos }

/-- An entry that is written is read back. -/
theorem into_from {entry : ProgressEntry} {persisted : PersistedProgressEntry}
    (h : fromEntry entry = .ok persisted) : persisted.intoEntry = .ok entry := by
  rw [fromEntry] at h
  cases htime : encodeSystemTime entry.createdAt with
  | error error =>
      rw [htime] at h
      cases h
  | ok columns =>
      rw [htime] at h
      cases h
      rw [intoEntry, decodeSystemTime_of_encode htime]
      rfl

end PersistedProgressEntry

/-- `PersistedRunCheckpoint`. -/
structure PersistedRunCheckpoint where
  runId : String
  startedAtSecs : Int64
  startedAtNanos : Int64
  completedAtSecs : Option Int64
  completedAtNanos : Option Int64
  status : String
  note : Option String
  deriving DecidableEq

namespace PersistedRunCheckpoint

/-- `PersistedRunCheckpoint::from_checkpoint`. -/
def fromCheckpoint (checkpoint : RunCheckpoint) : Except MemoryError PersistedRunCheckpoint := do
  let (startedSecs, startedNanos) ← encodeSystemTime checkpoint.startedAt
  let (completedSecs, completedNanos) ← match checkpoint.completedAt with
    | some completedAt => do
        let (secs, nanos) ← encodeSystemTime completedAt
        pure (some secs, some nanos)
    | none => pure (none, none)
  return { runId := checkpoint.runId, startedAtSecs := startedSecs,
           startedAtNanos := startedNanos, completedAtSecs := completedSecs,
           completedAtNanos := completedNanos, status := runStatusToStr checkpoint.status,
           note := checkpoint.note }

/-- `PersistedRunCheckpoint::into_checkpoint`. -/
def intoCheckpoint (checkpoint : PersistedRunCheckpoint) : Except MemoryError RunCheckpoint := do
  let completedAt ← match checkpoint.completedAtSecs, checkpoint.completedAtNanos with
    | some secs, some nanos => do pure (some (← decodeSystemTime secs nanos))
    | none, none => pure none
    | _, _ => throw (.storage
        "checkpoint completed timestamp must include both seconds and nanos")
  let startedAt ← decodeSystemTime checkpoint.startedAtSecs checkpoint.startedAtNanos
  let status ← runStatusFromStr checkpoint.status
  return { runId := checkpoint.runId, startedAt, completedAt, status, note := checkpoint.note }

/-- A checkpoint that is written is read back. -/
theorem into_from {checkpoint : RunCheckpoint} {persisted : PersistedRunCheckpoint}
    (h : fromCheckpoint checkpoint = .ok persisted) :
    persisted.intoCheckpoint = .ok checkpoint := by
  obtain ⟨runId, startedAt, completedAt, status, note⟩ := checkpoint
  rw [fromCheckpoint] at h
  cases hstarted : encodeSystemTime startedAt with
  | error error =>
      simp only [hstarted] at h
      cases h
  | ok started =>
      simp only [hstarted] at h
      cases completedAt with
      | none =>
          cases h
          show Except.bind (decodeSystemTime started.1 started.2) _ = _
          rw [decodeSystemTime_of_encode hstarted]
          cases status <;> rfl
      | some completedAt =>
          cases hcompleted : encodeSystemTime completedAt with
          | error error =>
              simp only [hcompleted] at h
              cases h
          | ok completed =>
              simp only [hcompleted] at h
              cases h
              simp only [intoCheckpoint, decodeSystemTime_of_encode hcompleted]
              show Except.bind (decodeSystemTime started.1 started.2) _ = _
              rw [decodeSystemTime_of_encode hstarted]
              cases status <;> rfl

end PersistedRunCheckpoint

/-- `PersistedMessage`. -/
structure PersistedMessage where
  role : String
  content : String
  deriving DecidableEq

namespace PersistedMessage

/-- `PersistedMessage::from_message`. -/
def fromMessage (message : Message) : PersistedMessage :=
  { role := roleToStr message.role, content := message.content }

/-- `PersistedMessage::into_message`. -/
def intoMessage (message : PersistedMessage) : Except MemoryError Message := do
  return { role := ← roleFromStr message.role, content := message.content }

/-- Reading what was written gives it back. -/
@[simp] theorem into_from (message : Message) :
    (fromMessage message).intoMessage = .ok message := by
  obtain ⟨role, content⟩ := message
  cases role <;> rfl

end PersistedMessage

/-! ## Documents -/

/-- `PersistedState`. -/
structure PersistedState where
  manifest : Option PersistedManifest := none
  featureList : List PersistedFeatureRecord := []
  recentProgress : List PersistedProgressEntry := []
  checkpoints : List PersistedRunCheckpoint := []
  transcript : List PersistedMessage := []
  deriving DecidableEq

namespace PersistedState

/-- `PersistedState::into_bootstrap_state`. -/
def intoBootstrapState (state : PersistedState) (sessionId : SessionId) :
    Except MemoryError BootstrapState := do
  let manifest ← state.manifest.mapM (·.intoManifest sessionId)
  let recentProgress ← state.recentProgress.mapM (·.intoEntry)
  let checkpoints ← state.checkpoints.mapM (·.intoCheckpoint)
  return { manifest, featureList := state.featureList.map (·.intoFeatureRecord),
           recentProgress, checkpoints }

/-- The transcript that `load_transcript_messages` reads from a document. -/
def intoTranscript (state : PersistedState) : Except MemoryError (List Message) :=
  state.transcript.mapM (·.intoMessage)

/-- Loading the document gives the state. -/
structure Represents (document : PersistedState) (sessionId : SessionId) (state : SessionState) :
    Prop where
  bootstrap : document.intoBootstrapState sessionId = .ok state.bootstrap
  transcript : document.intoTranscript = .ok state.transcript

/-! ## Changes -/

/-- Set `passes` of the first feature with an id, if there is one. -/
def setPasses (featureId : String) (passes : Bool) :
    List PersistedFeatureRecord → Option (List PersistedFeatureRecord)
  | [] => none
  | feature :: features =>
      if feature.id = featureId then some ({ feature with passes } :: features)
      else (setPasses featureId passes features).map (feature :: ·)

/-- What `save_manifest` changes. -/
def saveManifest (manifest : SessionManifest) (state : PersistedState) :
    Except MemoryError PersistedState := do
  let manifest ← PersistedManifest.fromManifest manifest
  return { state with manifest := some manifest }

/-- What `append_progress_entry` changes. -/
def appendProgressEntry (entry : ProgressEntry) (state : PersistedState) :
    Except MemoryError PersistedState := do
  let entry ← PersistedProgressEntry.fromEntry entry
  return { state with recentProgress := state.recentProgress ++ [entry] }

/-- What `replace_feature_list` changes. -/
def replaceFeatureList (features : List FeatureRecord) (state : PersistedState) :
    Except MemoryError PersistedState :=
  .ok { state with featureList := features.map .fromFeatureRecord }

/-- What `update_feature_pass` changes. -/
def updateFeaturePass (featureId : String) (passes : Bool) (state : PersistedState) :
    Except MemoryError PersistedState :=
  match setPasses featureId passes state.featureList with
  | some featureList => .ok { state with featureList }
  | none => .error (.notFound s!"feature '{featureId}' not found")

/-- What `record_run_checkpoint` changes. -/
def recordRunCheckpoint (checkpoint : RunCheckpoint) (state : PersistedState) :
    Except MemoryError PersistedState := do
  let checkpoint ← PersistedRunCheckpoint.fromCheckpoint checkpoint
  return { state with checkpoints := state.checkpoints ++ [checkpoint] }

/-- What `append_transcript_messages` changes. -/
def appendTranscriptMessages (messages : List Message) (state : PersistedState) :
    Except MemoryError PersistedState :=
  .ok { state with transcript := state.transcript ++ messages.map .fromMessage }

/-- What `initialize_session_if_missing` changes in a document without a manifest. -/
def initializeSession (manifest : SessionManifest) (featureList : List FeatureRecord)
    (initialProgressEntry : Option ProgressEntry) (initialCheckpoint : Option RunCheckpoint)
    (state : PersistedState) : Except MemoryError PersistedState := do
  let manifest ← PersistedManifest.fromManifest manifest
  let entry ← initialProgressEntry.mapM PersistedProgressEntry.fromEntry
  let checkpoint ← initialCheckpoint.mapM PersistedRunCheckpoint.fromCheckpoint
  return { state with
    manifest := some manifest
    featureList := featureList.map .fromFeatureRecord
    recentProgress := state.recentProgress ++ entry.toList
    checkpoints := state.checkpoints ++ checkpoint.toList }

/-! ## Changes follow the state -/

variable {document changed : PersistedState} {sessionId : SessionId} {state : SessionState}

/-- What loading a document gives, part by part. -/
theorem represents_iff : document.Represents sessionId state ↔
    document.manifest.mapM (·.intoManifest sessionId) = .ok state.manifest ∧
    document.featureList.map (·.intoFeatureRecord) = state.featureList ∧
    document.recentProgress.mapM (·.intoEntry) = .ok state.progress ∧
    document.checkpoints.mapM (·.intoCheckpoint) = .ok state.checkpoints ∧
    document.transcript.mapM (·.intoMessage) = .ok state.transcript := by
  obtain ⟨manifest, featureList, progress, checkpoints, transcript⟩ := state
  constructor
  · intro h
    obtain ⟨hbootstrap, htranscript⟩ := h
    rw [intoBootstrapState] at hbootstrap
    cases hmanifest : document.manifest.mapM (·.intoManifest sessionId) with
    | error =>
        rw [hmanifest] at hbootstrap
        cases hbootstrap
    | ok =>
        cases hprogress : document.recentProgress.mapM (·.intoEntry) with
        | error =>
            rw [hmanifest, hprogress] at hbootstrap
            cases hbootstrap
        | ok =>
            cases hcheckpoints : document.checkpoints.mapM (·.intoCheckpoint) with
            | error =>
                rw [hmanifest, hprogress, hcheckpoints] at hbootstrap
                cases hbootstrap
            | ok =>
                rw [hmanifest, hprogress, hcheckpoints] at hbootstrap
                cases hbootstrap
                exact ⟨rfl, rfl, rfl, rfl, htranscript⟩
  · intro h
    obtain ⟨hmanifest, hfeatures, hprogress, hcheckpoints, htranscript⟩ := h
    refine ⟨?_, htranscript⟩
    rw [intoBootstrapState, hmanifest, hprogress, hcheckpoints, hfeatures]
    rfl

/-- The document of a session without a row represents the empty session. -/
theorem represents_default (sessionId : SessionId) : Represents {} sessionId {} :=
  ⟨rfl, rfl⟩

/-- The manifest of a document is missing exactly when that of the state is. -/
theorem Represents.manifest_isSome (h : document.Represents sessionId state) :
    document.manifest.isSome = state.manifest.isSome := by
  obtain ⟨hmanifest, -⟩ := represents_iff.mp h
  cases hdocument : document.manifest with
  | none =>
      rw [hdocument] at hmanifest
      rw [← Except.ok.inj hmanifest]
      rfl
  | some manifest =>
      rw [hdocument, Option.mapM_some] at hmanifest
      cases hinto : manifest.intoManifest sessionId with
      | error error =>
          rw [hinto] at hmanifest
          cases hmanifest
      | ok into =>
          rw [hinto] at hmanifest
          rw [← Except.ok.inj hmanifest]
          rfl

/-- One more item is read back after those already there. -/
theorem mapM_append_singleton {A P : Type} {decode : P → Except MemoryError A} {items : List P}
    {values : List A} {item : P} {value : A} (hitems : items.mapM decode = .ok values)
    (hitem : decode item = .ok value) :
    (items ++ [item]).mapM decode = .ok (values ++ [value]) := by
  rw [List.mapM_append, hitems, List.mapM_cons, hitem]
  rfl

/-- Saving a manifest in the document saves it in the session. -/
theorem Represents.saveManifest (h : document.Represents sessionId state)
    {manifest : SessionManifest} (hchange : saveManifest manifest document = .ok changed)
    (hkey : manifest.sessionId = sessionId) :
    changed.Represents sessionId { state with manifest := some manifest } := by
  subst hkey
  obtain ⟨persisted, hfrom, hinto⟩ := PersistedManifest.into_from manifest.sessionId manifest
  rw [PersistedState.saveManifest, hfrom] at hchange
  cases hchange
  rw [represents_iff] at h ⊢
  refine ⟨?_, h.2⟩
  rw [Option.mapM_some, hinto]
  rfl

/-- An entry appended in the document is appended in the session. -/
theorem Represents.appendProgressEntry (h : document.Represents sessionId state)
    {entry : ProgressEntry} (hchange : appendProgressEntry entry document = .ok changed) :
    changed.Represents sessionId { state with progress := state.progress ++ [entry] } := by
  rw [PersistedState.appendProgressEntry] at hchange
  cases hfrom : PersistedProgressEntry.fromEntry entry with
  | error error =>
      rw [hfrom] at hchange
      cases hchange
  | ok persisted =>
      rw [hfrom] at hchange
      cases hchange
      rw [represents_iff] at h ⊢
      exact ⟨h.1, h.2.1,
        mapM_append_singleton h.2.2.1 (PersistedProgressEntry.into_from hfrom), h.2.2.2⟩

/-- Features replaced in the document are replaced in the session. -/
theorem Represents.replaceFeatureList (h : document.Represents sessionId state)
    {features : List FeatureRecord} (hchange : replaceFeatureList features document = .ok changed) :
    changed.Represents sessionId { state with featureList := features } := by
  cases hchange
  rw [represents_iff] at h ⊢
  refine ⟨h.1, ?_, h.2.2⟩
  rw [List.map_map]
  exact List.map_id _

/-- A checkpoint recorded in the document is recorded in the session. -/
theorem Represents.recordRunCheckpoint (h : document.Represents sessionId state)
    {checkpoint : RunCheckpoint} (hchange : recordRunCheckpoint checkpoint document = .ok changed) :
    changed.Represents sessionId
      { state with checkpoints := state.checkpoints ++ [checkpoint] } := by
  rw [PersistedState.recordRunCheckpoint] at hchange
  cases hfrom : PersistedRunCheckpoint.fromCheckpoint checkpoint with
  | error error =>
      rw [hfrom] at hchange
      cases hchange
  | ok persisted =>
      rw [hfrom] at hchange
      cases hchange
      rw [represents_iff] at h ⊢
      exact ⟨h.1, h.2.1, h.2.2.1,
        mapM_append_singleton h.2.2.2.1 (PersistedRunCheckpoint.into_from hfrom), h.2.2.2.2⟩

/-- Messages appended in the document are appended in the session. -/
theorem Represents.appendTranscriptMessages (h : document.Represents sessionId state)
    {messages : List Message}
    (hchange : appendTranscriptMessages messages document = .ok changed) :
    changed.Represents sessionId { state with transcript := state.transcript ++ messages } := by
  cases hchange
  rw [represents_iff] at h ⊢
  refine ⟨h.1, h.2.1, h.2.2.1, h.2.2.2.1, ?_⟩
  have hmessages : (messages.map PersistedMessage.fromMessage).mapM (·.intoMessage) =
      (.ok messages : Except MemoryError _) := by
    induction messages with
    | nil => rfl
    | cons message messages ih =>
        rw [List.map_cons, List.mapM_cons, PersistedMessage.into_from, ih]
        rfl
  rw [List.mapM_append, h.2.2.2.2, hmessages]
  rfl

/-- Setting a pass in a document sets it in the state. -/
theorem map_setPasses (featureId : String) (passes : Bool)
    (features : List PersistedFeatureRecord) :
    (setPasses featureId passes features).map (·.map (·.intoFeatureRecord)) =
      setFeaturePass featureId passes (features.map (·.intoFeatureRecord)) := by
  induction features with
  | nil => rfl
  | cons feature features ih =>
      rw [setPasses, List.map_cons, setFeaturePass]
      have hsame : feature.intoFeatureRecord.id = feature.id := rfl
      rw [hsame]
      by_cases hid : feature.id = featureId
      · rw [if_pos hid, if_pos hid]
        rfl
      · rw [if_neg hid, if_neg hid, ← ih, Option.map_map, Option.map_map]
        rfl

/-- A feature found in the document is found and set in the session. -/
theorem Represents.updateFeaturePass (h : document.Represents sessionId state)
    {featureId : String} {passes : Bool}
    (hchange : updateFeaturePass featureId passes document = .ok changed) :
    ∃ featureList, setFeaturePass featureId passes state.featureList = some featureList ∧
      changed.Represents sessionId { state with featureList } := by
  rw [PersistedState.updateFeaturePass] at hchange
  rw [represents_iff] at h
  cases hset : setPasses featureId passes document.featureList with
  | none =>
      rw [hset] at hchange
      cases hchange
  | some features =>
      rw [hset] at hchange
      cases hchange
      have hmap := map_setPasses featureId passes document.featureList
      rw [hset, h.2.1] at hmap
      exact ⟨_, hmap.symm, represents_iff.mpr ⟨h.1, rfl, h.2.2⟩⟩

/-- What is optional is read back when it is written. -/
theorem mapM_append_option {A P : Type} {encode : A → Except MemoryError P}
    {decode : P → Except MemoryError A}
    (h : ∀ {value item}, encode value = .ok item → decode item = .ok value) {items : List P}
    {values : List A} {value : Option A} {item : Option P} (hitems : items.mapM decode = .ok values)
    (hitem : value.mapM encode = .ok item) :
    (items ++ item.toList).mapM decode = .ok (values ++ value.toList) := by
  cases value with
  | none =>
      cases hitem
      simpa using hitems
  | some value =>
      rw [Option.mapM_some] at hitem
      cases hencode : encode value with
      | error error =>
          rw [hencode] at hitem
          cases hitem
      | ok persisted =>
          rw [hencode] at hitem
          cases hitem
          exact mapM_append_singleton hitems (h hencode)

/-- A document that is initialized represents the session that is. -/
theorem Represents.initializeSession (h : document.Represents sessionId state)
    {manifest : SessionManifest} {featureList : List FeatureRecord}
    {entry : Option ProgressEntry} {checkpoint : Option RunCheckpoint}
    (hchange : initializeSession manifest featureList entry checkpoint document = .ok changed) :
    changed.Represents sessionId { state with
      manifest := some { manifest with sessionId }
      featureList
      progress := state.progress ++ entry.toList
      checkpoints := state.checkpoints ++ checkpoint.toList } := by
  obtain ⟨persisted, hfrom, hinto⟩ := PersistedManifest.into_from sessionId manifest
  rw [PersistedState.initializeSession, hfrom] at hchange
  cases hentry : entry.mapM PersistedProgressEntry.fromEntry with
  | error error =>
      rw [hentry] at hchange
      cases hchange
  | ok entries =>
      cases hcheckpoint : checkpoint.mapM PersistedRunCheckpoint.fromCheckpoint with
      | error error =>
          rw [hentry, hcheckpoint] at hchange
          cases hchange
      | ok checkpoints =>
          rw [hentry, hcheckpoint] at hchange
          cases hchange
          rw [represents_iff] at h ⊢
          refine ⟨?_, ?_, mapM_append_option PersistedProgressEntry.into_from h.2.2.1 hentry,
            mapM_append_option PersistedRunCheckpoint.into_from h.2.2.2.1 hcheckpoint, h.2.2.2.2⟩
          · rw [Option.mapM_some, hinto]
            rfl
          · rw [List.map_map]
            exact List.map_id _

/-- An initialized document has a manifest. -/
theorem manifest_initializeSession {manifest : SessionManifest} {featureList : List FeatureRecord}
    {entry : Option ProgressEntry} {checkpoint : Option RunCheckpoint}
    (hchange : initializeSession manifest featureList entry checkpoint document = .ok changed) :
    changed.manifest.isSome := by
  obtain ⟨persisted, hfrom, -⟩ := PersistedManifest.into_from manifest.sessionId manifest
  rw [PersistedState.initializeSession, hfrom] at hchange
  cases hentry : entry.mapM PersistedProgressEntry.fromEntry with
  | error error =>
      rw [hentry] at hchange
      cases hchange
  | ok entries =>
      cases hcheckpoint : checkpoint.mapM PersistedRunCheckpoint.fromCheckpoint with
      | error error =>
          rw [hentry, hcheckpoint] at hchange
          cases hchange
      | ok checkpoints =>
          rw [hentry, hcheckpoint] at hchange
          cases hchange
          rfl

end PersistedState

/-! ## Libraries -/

/-- Convert the error of a library. -/
def convert {α : Type} (context : String) (result : Except String α) : Except MemoryError α :=
  result.mapError fun error => .storage s!"{context}: {error}"

/-- The JSON of documents: a value that a document is written as is read as that document. -/
structure StateJson (J : Type) where
  toValue : PersistedState → Except String J
  fromValue : J → Except String PersistedState
  fromValue_toValue : ∀ {state value}, toValue state = .ok value → fromValue value = .ok state

/-- Documents kept as they are. -/
def StateJson.plain : StateJson PersistedState where
  toValue := .ok
  fromValue := .ok
  fromValue_toValue h := h.symm

end Fiddlesticks.Memory
