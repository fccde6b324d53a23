import Fiddlesticks.Memory.Documents
import Fiddlesticks.Memory.Filesystem.Backend

/-!
# The filesystem backend refines the in-memory backend

Without failures each session file holds a document that represents the state of the session in
memory, so the two backends give the same answers.
-/

namespace Fiddlesticks.Memory.Filesystem

open Effect Provider

variable {J : Type}

/-- Every document can be written. -/
def WritesAll (json : StateJson J) : Prop :=
  ∀ document, ∃ bytes, json.toValue document = .ok bytes

variable {json : StateJson J} {backend : FilesystemMemoryBackend J} {sessionId : SessionId}
variable {document : PersistedState} {α β : Type}

namespace FilesystemMemoryBackend

/-- What the session files hold. -/
def stored (backend : FilesystemMemoryBackend J) (sessionId : SessionId) : Option J :=
  backend.files (sessionPath backend.root sessionId)

/-- A run of a program. -/
abbrev exec (p : FilesystemM J α) (backend : FilesystemMemoryBackend J) :
    Except MemoryError α × FilesystemMemoryBackend J :=
  Prog.run handle p.run backend

/-- A program goes on after a part that succeeds. -/
theorem exec_bind {p : FilesystemM J α} {f : α → FilesystemM J β} {value : α}
    {backend' : FilesystemMemoryBackend J} (h : exec p backend = (.ok value, backend')) :
    exec (p >>= f) backend = exec (f value) backend' := by
  refine (Prog.run_except_bind handle p f backend).trans ?_
  rw [show Prog.run handle p.run backend = _ from h]

/-- A program ends with a part that fails. -/
theorem exec_bind_error {p : FilesystemM J α} {f : α → FilesystemM J β} {error : MemoryError}
    {backend' : FilesystemMemoryBackend J} (h : exec p backend = (.error error, backend')) :
    exec (p >>= f) backend = (.error error, backend') := by
  refine (Prog.run_except_bind handle p f backend).trans ?_
  rw [show Prog.run handle p.run backend = _ from h]

/-- An operation is handled. -/
@[simp] theorem exec_ask (op : FilesystemOp J) :
    exec (ask op) backend = (.ok (handle op backend).1, (handle op backend).2) := rfl

/-- A call on files is run and its error converted. -/
@[simp] theorem exec_execute (context : String) (call : FileCall J) :
    exec (execute context call) backend =
      (convert context (call.run backend.files).1,
        { backend with files := (call.run backend.files).2 }) := rfl

end FilesystemMemoryBackend

open FilesystemMemoryBackend

/-! ## Loading and storing -/

/-- The lock is taken when it is not poisoned. -/
theorem exec_lock (h : backend.poisoned = false) : exec lock backend = (.ok (), backend) := by
  rw [lock, exec_bind (exec_ask .lock)]
  simp only [handle, h]
  rfl

/-- Loading returns the stored document. -/
theorem exec_loadState (h : storedDocument json (backend.stored sessionId) = .ok document) :
    ∃ found : Option PersistedState, found.getD {} = document ∧
      exec (loadState json backend.root sessionId) backend = (.ok found, backend) := by
  rw [loadState, exec_bind (exec_ask _)]
  cases hfile : backend.files (sessionPath backend.root sessionId) with
  | none =>
      rw [stored, hfile] at h
      cases h
      refine ⟨none, rfl, ?_⟩
      simp only [handle, hfile]
      rfl
  | some bytes =>
      rw [stored, hfile] at h
      refine ⟨some document, rfl, ?_⟩
      simp only [handle, hfile]
      show exec (execute _ (.read _) >>= _) backend = _
      have hread : exec (execute "failed to read session state file"
          (.read (sessionPath backend.root sessionId))) backend = (.ok bytes, backend) := by
        rw [exec_execute, FileCall.run.eq_def]
        simp only [hfile]
        rfl
      rw [exec_bind hread]
      have hdocument : json.fromValue bytes = .ok document := h
      rw [hdocument]
      rfl

/-- `write_atomic` replaces a file and leaves no other one changed but the temporary one. -/
theorem exec_writeAtomic (backend : FilesystemMemoryBackend J) {path : Path} (hpath : path ≠ [])
    (htmp : temporaryPath path ≠ path)
    (bytes : J) :
    ∃ files, exec (writeAtomic path bytes) backend = (.ok (), { backend with files }) ∧
      files path = some bytes ∧
      ∀ other, other ≠ path → other ≠ temporaryPath path → files other = backend.files other := by
  rw [writeAtomic, if_neg hpath, exec_bind (exec_execute _ (.createDirAll _)),
    exec_bind (exec_execute _ (.write _ bytes)), exec_bind (exec_ask _)]
  dsimp only [handle, FileCall.run]
  generalize temporaryPath path = tmp at htmp
  have hrename {files : Files J} (hfiles : files tmp = some bytes) :
      exec (execute "failed to finalize state file" (.rename tmp path)) { backend with files } =
        (.ok (), { backend with files :=
          (Function.update (Function.update files tmp none) path (some bytes)) }) := by
    rw [exec_execute, FileCall.run.eq_def]
    simp only [hfiles]
    rfl
  cases hfile : backend.files path with
  | none =>
      simp only [Function.update_of_ne htmp.symm, hfile, Option.isSome_none, Bool.false_eq_true,
        if_false]
      refine ⟨_, hrename (Function.update_self _ _ _), Function.update_self _ _ _, ?_⟩
      intro other hother hother'
      simp only [Function.update_of_ne hother, Function.update_of_ne hother']
  | some old =>
      simp only [Function.update_of_ne htmp.symm, hfile, Option.isSome_some, if_true]
      have hremove : exec (execute "failed to replace existing state file" (.removeFile path))
          { backend with files := (Function.update backend.files tmp (some bytes)) } =
          (.ok (), { backend with files :=
            (Function.update (Function.update backend.files tmp (some bytes)) path none) }) := by
        rw [exec_execute, FileCall.run.eq_def]
        simp only [Function.update_of_ne htmp.symm, hfile]
        rfl
      rw [exec_bind hremove]
      refine ⟨_, hrename ?_, Function.update_self _ _ _, ?_⟩
      · rw [Function.update_of_ne htmp, Function.update_self]
      · intro other hother hother'
        simp only [Function.update_of_ne hother, Function.update_of_ne hother']

/-- Saving a document stores it for its session and for no other one. -/
theorem exec_saveState (backend : FilesystemMemoryBackend J) (sessionId : SessionId) {bytes : J}
    (h : json.toValue document = .ok bytes) :
    ∃ backend', exec (saveState json backend.root sessionId document) backend =
        (.ok (), backend') ∧ backend'.poisoned = backend.poisoned ∧
      backend'.root = backend.root ∧
      backend'.stored = Function.update backend.stored sessionId (some bytes) := by
  have htmp := temporaryPath_ne_sessionPath backend.root sessionId
  obtain ⟨files, hexec, hself, hothers⟩ := exec_writeAtomic backend
    (show sessionPath backend.root sessionId ≠ [] by simp [sessionPath]) (htmp sessionId) bytes
  refine ⟨{ backend with files }, ?_, rfl, rfl, funext fun other => ?_⟩
  · rw [saveState, h]
    exact hexec
  · by_cases hother : other = sessionId
    · subst hother
      rw [Function.update_self]
      exact hself
    · rw [Function.update_of_ne hother]
      exact hothers _ (fun heq => hother (sessionPath_injective _ heq)) (htmp other).symm

/-! ## One operation -/

variable {state : SessionState}

/-- An operation answers and goes on from the stored state like the in-memory backend. -/
structure Follows (json : StateJson J) (backend : FilesystemMemoryBackend J) (op : MemoryOp)
    (state : SessionState) : Prop where
  answer : (backend.perform json op).1 = (state.apply op).1
  notPoisoned : (backend.perform json op).2.poisoned = false
  root : (backend.perform json op).2.root = backend.root
  stored : ∃ row, (backend.perform json op).2.stored =
      Function.update backend.stored op.sessionId row ∧
    Stores json op.sessionId row (state.apply op).2

/-- An operation follows the session when its answer and what it stores do. -/
theorem Follows.of_exec {op : MemoryOp} {backend' : FilesystemMemoryBackend J}
    (h : exec (operation json backend.root op) backend = ((state.apply op).1, backend'))
    (hpoisoned : backend'.poisoned = false) (hroot : backend'.root = backend.root)
    (hstored : ∃ row, backend'.stored = Function.update backend.stored op.sessionId row ∧
      Stores json op.sessionId row (state.apply op).2) : Follows json backend op state := by
  have hperform : backend.perform json op = ((state.apply op).1, backend') := h
  constructor <;> rw [hperform]
  · exact hpoisoned
  · exact hroot
  · exact hstored

/-- An operation that only reads, or fails, leaves the files. -/
theorem Follows.of_same {op : MemoryOp}
    (h : exec (operation json backend.root op) backend = ((state.apply op).1, backend))
    (hpoisoned : backend.poisoned = false) (hsame : (state.apply op).2 = state)
    (hstored : Stores json op.sessionId (backend.stored op.sessionId) state) :
    Follows json backend op state := by
  refine .of_exec h hpoisoned rfl ⟨_, (Function.update_eq_self _ _).symm, ?_⟩
  rw [hsame]
  exact hstored

/-- An update whose change fails. -/
theorem exec_updateState_error {change : PersistedState → Except MemoryError PersistedState}
    {error : MemoryError} (hpoisoned : backend.poisoned = false)
    (hstored : storedDocument json (backend.stored sessionId) = .ok document)
    (hchange : change document = .error error) :
    exec (updateState json backend.root sessionId change) backend = (.error error, backend) := by
  obtain ⟨found, rfl, hload⟩ := exec_loadState hstored
  rw [updateState, exec_bind (exec_lock hpoisoned), exec_bind hload]
  exact exec_bind_error (by rw [hchange]; rfl)

/-- An update whose change succeeds. -/
theorem exec_updateState {change : PersistedState → Except MemoryError PersistedState}
    {changed : PersistedState} (hwrites : WritesAll json) (hpoisoned : backend.poisoned = false)
    (hstored : storedDocument json (backend.stored sessionId) = .ok document)
    (hchange : change document = .ok changed) :
    ∃ backend', exec (updateState json backend.root sessionId change) backend =
        (.ok (), backend') ∧ backend'.poisoned = false ∧ backend'.root = backend.root ∧
      ∃ row, backend'.stored = Function.update backend.stored sessionId row ∧
        storedDocument json row = .ok changed := by
  obtain ⟨found, rfl, hload⟩ := exec_loadState hstored
  obtain ⟨bytes, hbytes⟩ := hwrites changed
  obtain ⟨backend', hsave, hpoisoned', hroot, hstored'⟩ := exec_saveState backend sessionId hbytes
  refine ⟨backend', ?_, hpoisoned'.trans hpoisoned, hroot, some bytes, hstored',
    json.fromValue_toValue hbytes⟩
  rw [updateState, exec_bind (exec_lock hpoisoned), exec_bind hload]
  dsimp only
  rw [hchange]
  exact hsave

/-- The updates follow the in-memory backend when their change succeeds. -/
theorem exec_update (update : Update) {changed : PersistedState} (hwrites : WritesAll json)
    (hpoisoned : backend.poisoned = false)
    (hstored : storedDocument json (backend.stored sessionId) = .ok document)
    (hrepresents : document.Represents sessionId state)
    (hkeys : ∀ manifest ∈ (update.op sessionId).manifests, manifest.sessionId = sessionId)
    (hchange : update.change document = .ok changed) :
    ∃ backend', exec (updateState json backend.root sessionId update.change) backend =
        (.ok (), backend') ∧ backend'.poisoned = false ∧ backend'.root = backend.root ∧
      ∃ row, backend'.stored = Function.update backend.stored sessionId row ∧
        Stores json sessionId row (state.apply (update.op sessionId)).2 := by
  obtain ⟨backend', hexec, hpoisoned', hroot, row, hrow, hchanged⟩ :=
    exec_updateState hwrites hpoisoned hstored hchange
  exact ⟨backend', hexec, hpoisoned', hroot, row, hrow, changed, hchanged,
    Update.represents_change hrepresents hchange hkeys⟩

section readers

variable (hpoisoned : backend.poisoned = false)
variable (hstored : storedDocument json (backend.stored sessionId) = .ok document)
variable (hrepresents : document.Represents sessionId state)

include hpoisoned hstored hrepresents

/-- `is_initialized` answers for the session. -/
theorem exec_isInitialized : exec (isInitialized json backend.root sessionId) backend =
    (.ok state.manifest.isSome, backend) := by
  obtain ⟨found, rfl, hload⟩ := exec_loadState hstored
  rw [isInitialized, exec_bind (exec_lock hpoisoned), exec_bind hload,
    ← hrepresents.manifest_isSome]
  cases found <;> rfl

/-- `load_bootstrap_state` loads the session. -/
theorem exec_loadBootstrapState : exec (loadBootstrapState json backend.root sessionId) backend =
    (.ok state.bootstrap, backend) := by
  obtain ⟨found, rfl, hload⟩ := exec_loadState hstored
  rw [loadBootstrapState, exec_bind (exec_lock hpoisoned), exec_bind hload,
    ← hrepresents.bootstrap]
  cases found <;> rfl

/-- `load_transcript_messages` loads the transcript of the session. -/
theorem exec_loadTranscriptMessages :
    exec (loadTranscriptMessages json backend.root sessionId) backend =
      (.ok state.transcript, backend) := by
  obtain ⟨found, rfl, hload⟩ := exec_loadState hstored
  rw [loadTranscriptMessages, exec_bind (exec_lock hpoisoned), exec_bind hload,
    ← hrepresents.transcript]
  cases found <;> rfl

end readers

/-- An initialization follows the in-memory backend. -/
theorem initialize_follows (hwrites : WritesAll json) (hpoisoned : backend.poisoned = false)
    (hstored : Stores json sessionId (backend.stored sessionId) state)
    {manifest : SessionManifest} (hkey : manifest.sessionId = sessionId)
    (featureList : List FeatureRecord) {entry : Option ProgressEntry}
    {checkpoint : Option RunCheckpoint}
    (htimes : ∀ time ∈ entry.toList.flatMap ProgressEntry.timestamps ++
      checkpoint.toList.flatMap RunCheckpoint.timestamps, time.AfterEpoch) :
    Follows json backend
      (.initializeSessionIfMissing sessionId manifest featureList entry checkpoint) state := by
  obtain ⟨document, hdocument, hrepresents⟩ := hstored
  obtain ⟨found, rfl, hload⟩ := exec_loadState hdocument
  have hsome := hrepresents.manifest_isSome
  by_cases hmanifest : (found.getD {}).manifest.isSome = true
  · have happly : state.apply (.initializeSessionIfMissing sessionId manifest featureList entry
        checkpoint) = (.ok false, state) := if_pos (hsome ▸ hmanifest)
    refine .of_same ?_ hpoisoned (by rw [happly]) ⟨_, hdocument, hrepresents⟩
    rw [happly, operation, initializeSessionIfMissing, exec_bind (exec_lock hpoisoned),
      exec_bind hload]
    dsimp only
    rw [if_pos hmanifest]
    rfl
  · have happly : state.apply (.initializeSessionIfMissing sessionId manifest featureList entry
        checkpoint) = (.ok true, { state with
          manifest := some manifest
          featureList
          progress := state.progress ++ entry.toList
          checkpoints := state.checkpoints ++ checkpoint.toList }) := if_neg (hsome ▸ hmanifest)
    obtain ⟨changed, hchanged⟩ :=
      (found.getD {}).initializeSession_ok manifest featureList htimes
    obtain ⟨bytes, hbytes⟩ := hwrites changed
    obtain ⟨backend', hsave, hpoisoned', hroot, hstored'⟩ := exec_saveState backend sessionId hbytes
    refine .of_exec ?_ (hpoisoned'.trans hpoisoned) hroot ⟨some bytes, hstored', changed,
      json.fromValue_toValue hbytes, ?_⟩
    · rw [happly, operation, initializeSessionIfMissing, exec_bind (exec_lock hpoisoned),
        exec_bind hload]
      dsimp only
      rw [if_neg hmanifest, hchanged]
      exact exec_bind hsave
    · rw [happly]
      subst hkey
      exact hrepresents.initializeSession hchanged

/-- Every operation follows the in-memory backend. -/
theorem operation_follows (hwrites : WritesAll json) (hpoisoned : backend.poisoned = false)
    {op : MemoryOp} (hop : op.Admissible)
    (hstored : Stores json op.sessionId (backend.stored op.sessionId) state) :
    Follows json backend op state := by
  obtain ⟨document, hdocument, hrepresents⟩ := hstored
  cases op with
  | isInitialized sessionId =>
      exact .of_same (exec_isInitialized hpoisoned hdocument hrepresents) hpoisoned rfl
        ⟨_, hdocument, hrepresents⟩
  | initializeSessionIfMissing sessionId manifest featureList entry checkpoint =>
      exact initialize_follows hwrites hpoisoned ⟨document, hdocument, hrepresents⟩
        (hop.keys manifest (List.mem_singleton_self _)) featureList hop.times
  | loadBootstrapState sessionId =>
      exact .of_same (exec_loadBootstrapState hpoisoned hdocument hrepresents) hpoisoned rfl
        ⟨_, hdocument, hrepresents⟩
  | saveManifest sessionId manifest =>
      obtain ⟨persisted, hpersisted⟩ := PersistedManifest.fromManifest_ok manifest
      obtain ⟨backend', hexec, hpoisoned', hroot, hrow⟩ := exec_update
        (.saveManifest manifest) hwrites hpoisoned hdocument hrepresents hop.keys
        (by rw [Update.change, PersistedState.saveManifest, hpersisted]; rfl)
      exact .of_exec hexec hpoisoned' hroot hrow
  | appendProgressEntry sessionId entry =>
      obtain ⟨persisted, hpersisted⟩ := PersistedProgressEntry.fromEntry_ok hop.times
      obtain ⟨backend', hexec, hpoisoned', hroot, hrow⟩ := exec_update
        (.appendProgressEntry entry) hwrites hpoisoned hdocument hrepresents hop.keys
        (by rw [Update.change, PersistedState.appendProgressEntry, hpersisted]; rfl)
      exact .of_exec hexec hpoisoned' hroot hrow
  | replaceFeatureList sessionId features =>
      obtain ⟨backend', hexec, hpoisoned', hroot, hrow⟩ := exec_update
        (.replaceFeatureList features) hwrites hpoisoned hdocument hrepresents hop.keys
        rfl
      exact .of_exec hexec hpoisoned' hroot hrow
  | updateFeaturePass sessionId featureId passes =>
      -- Only this operation can fail on a session that is stored: the feature may be missing from
      -- the document, exactly when it is missing from the state.
      have hset := PersistedState.map_setPasses featureId passes document.featureList
      rw [(PersistedState.represents_iff.mp hrepresents).2.1] at hset
      cases hfound : PersistedState.setPasses featureId passes document.featureList with
      | none =>
          rw [hfound] at hset
          have happly : state.apply (.updateFeaturePass sessionId featureId passes) =
              (.error (.notFound s!"feature '{featureId}' not found"), state) := by
            rw [SessionState.apply, ← hset]
            rfl
          refine .of_same ?_ hpoisoned (by rw [happly]) ⟨_, hdocument, hrepresents⟩
          rw [happly]
          exact exec_updateState_error hpoisoned hdocument
            (by rw [PersistedState.updateFeaturePass, hfound])
      | some features =>
          rw [hfound] at hset
          obtain ⟨backend', hexec, hpoisoned', hroot, hrow⟩ := exec_update
            (.updateFeaturePass featureId passes) hwrites hpoisoned hdocument
            hrepresents hop.keys
            (by rw [Update.change, PersistedState.updateFeaturePass, hfound])
          refine .of_exec ?_ hpoisoned' hroot hrow
          rw [SessionState.apply, ← hset]
          exact hexec
  | recordRunCheckpoint sessionId checkpoint =>
      obtain ⟨persisted, hpersisted⟩ := PersistedRunCheckpoint.fromCheckpoint_ok hop.times
      obtain ⟨backend', hexec, hpoisoned', hroot, hrow⟩ := exec_update
        (.recordRunCheckpoint checkpoint) hwrites hpoisoned hdocument hrepresents
        hop.keys (by rw [Update.change, PersistedState.recordRunCheckpoint, hpersisted]; rfl)
      exact .of_exec hexec hpoisoned' hroot hrow
  | loadTranscriptMessages sessionId =>
      exact .of_same (exec_loadTranscriptMessages hpoisoned hdocument hrepresents) hpoisoned rfl
        ⟨_, hdocument, hrepresents⟩
  | appendTranscriptMessages sessionId messages =>
      obtain ⟨backend', hexec, hpoisoned', hroot, hrow⟩ := exec_update
        (.appendTranscriptMessages messages) hwrites hpoisoned hdocument hrepresents
        hop.keys rfl
      exact .of_exec hexec hpoisoned' hroot hrow

/-! ## All operations -/

/-- Every session file holds a document of the state in memory. -/
structure Simulates (json : StateJson J) (backend : FilesystemMemoryBackend J)
    (memory : InMemoryMemoryBackend) : Prop where
  notPoisoned : backend.poisoned = false
  memoryNotPoisoned : memory.poisoned = false
  stored : ∀ sessionId, Stores json sessionId (backend.stored sessionId) (memory.session sessionId)

variable {memory : InMemoryMemoryBackend}

/-- New backends hold nothing. -/
theorem simulates_new (json : StateJson J) (root : Path) : Simulates json (.new root) .new :=
  ⟨rfl, rfl, fun sessionId => ⟨{}, rfl, PersistedState.represents_default sessionId⟩⟩

/-- An operation gives the same answer on both backends and keeps the simulation. -/
theorem Simulates.step (h : Simulates json backend memory) (hwrites : WritesAll json)
    {op : MemoryOp} (hop : op.Admissible) :
    Simulates json (backend.perform json op).2 (InMemoryMemoryBackend.handle op memory).2 ∧
      (backend.perform json op).1 = (InMemoryMemoryBackend.handle op memory).1 := by
  have hfollows := operation_follows hwrites h.notPoisoned hop (h.stored op.sessionId)
  obtain ⟨hanswer, hpoisoned⟩ :=
    InMemoryMemoryBackend.handle_of_not_poisoned op h.memoryNotPoisoned
  have hsession := InMemoryMemoryBackend.handle_session op memory
  rw [if_neg (by simp [h.memoryNotPoisoned])] at hsession
  refine ⟨⟨hfollows.notPoisoned, hpoisoned, fun sessionId => ?_⟩,
    hfollows.answer.trans hanswer.symm⟩
  obtain ⟨row, hrow, hstores⟩ := hfollows.stored
  rw [hrow, hsession]
  by_cases hsame : sessionId = op.sessionId
  · subst hsame
    rw [Function.update_self, Function.update_self]
    exact hstores
  · rw [Function.update_of_ne hsame, Function.update_of_ne hsame]
    exact h.stored sessionId

/-- From related backends all answers agree. -/
theorem Simulates.answers_eq (h : Simulates json backend memory) (hwrites : WritesAll json)
    {ops : List MemoryOp} (hops : ∀ op ∈ ops, op.Admissible) :
    answers (FilesystemMemoryBackend.perform json) ops backend =
      answers InMemoryMemoryBackend.handle ops memory := by
  induction ops generalizing backend memory with
  | nil => rfl
  | cons op ops ih =>
      obtain ⟨hnext, hanswer⟩ := h.step hwrites (hops op List.mem_cons_self)
      rw [answers, answers, hanswer, ih hnext fun other hother => hops other (.tail _ hother)]

/-- The decoders read exactly what the encoders write, every state with encodable timestamps is
written, and the filesystem backend gives the answers of the in-memory backend to every sequence of
operations. -/
theorem filesystem_refines_memory (json : StateJson J) (root : Path)
    (hwrites : WritesAll json) :
    DecodersInvertEncoders ∧
    (∀ state : SessionState, (∀ time ∈ state.timestamps, time.AfterEpoch) →
      ∃ document, state.encode = .ok document) ∧
    ∀ ops : List MemoryOp, (∀ op ∈ ops, op.Admissible) →
      answers (FilesystemMemoryBackend.perform json) ops (.new root) =
        answers InMemoryMemoryBackend.handle ops .new :=
  ⟨decoders_invert_encoders, fun _ => SessionState.encode_ok,
    fun _ => (simulates_new json root).answers_eq hwrites⟩

/-- The documents may be the values themselves. -/
theorem filesystem_refines_memory_plain :
    DecodersInvertEncoders ∧
    (∀ state : SessionState, (∀ time ∈ state.timestamps, time.AfterEpoch) →
      ∃ document, state.encode = .ok document) ∧
    ∀ ops : List MemoryOp, (∀ op ∈ ops, op.Admissible) →
      answers (FilesystemMemoryBackend.perform .plain) ops (.new ["data"]) =
        answers InMemoryMemoryBackend.handle ops .new :=
  filesystem_refines_memory .plain ["data"] fun document => ⟨document, rfl⟩

end Fiddlesticks.Memory.Filesystem
