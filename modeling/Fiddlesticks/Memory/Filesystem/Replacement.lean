import Fiddlesticks.Memory.Filesystem.Failures
import Fiddlesticks.Memory.Filesystem.Refinement

/-!
# Replacing a session file

`write_atomic` writes a temporary file, removes the session file and renames the temporary file.
Between the removal and the renaming there is no session file. So replacing is atomic exactly when
there was none before (`write_atomic_iff`), and in all runs that do not get to the removal.
-/

namespace Fiddlesticks.Memory.Filesystem

open Effect

variable {J : Type} {act : Files J → Event (FilesystemSig J) → Files J → Prop}

/-! ## Atomic replacement -/

/-- What `load_state` returns from the files. -/
def loaded (json : StateJson J) (root : Path) (files : Files J) (sessionId : SessionId) :
    Except MemoryError (Option PersistedState) :=
  (FilesystemMemoryBackend.exec (loadState json root sessionId) ⟨root, files, false⟩).1

/-- A session is reported missing exactly when it has no file. -/
theorem loaded_none_iff {json : StateJson J} {root : Path} {files : Files J}
    {sessionId : SessionId} :
    loaded json root files sessionId = .ok none ↔ files (sessionPath root sessionId) = none := by
  rw [loaded, loadState, FilesystemMemoryBackend.exec_bind (FilesystemMemoryBackend.exec_ask _)]
  cases hfile : files (sessionPath root sessionId) with
  | none =>
      simp only [FilesystemMemoryBackend.handle, hfile]
      exact iff_of_true rfl trivial
  | some bytes =>
      simp only [FilesystemMemoryBackend.handle, hfile]
      refine iff_of_false ?_ (by simp)
      have hread : FilesystemMemoryBackend.exec
          (execute "failed to read session state file" (.read (sessionPath root sessionId)))
          ⟨root, files, false⟩ = (.ok bytes, ⟨root, files, false⟩) := by
        rw [FilesystemMemoryBackend.exec_execute, FileCall.run.eq_def]
        simp only [hfile]
        rfl
      show (FilesystemMemoryBackend.exec (execute _ (.read _) >>= _) _).1 ≠ _
      rw [FilesystemMemoryBackend.exec_bind hread]
      cases hdocument : json.fromValue bytes with
      | ok document =>
          show Except.ok (some document) ≠ Except.ok none
          simp
      | error error =>
          show Except.error _ ≠ Except.ok none
          simp

/-- Replacing the session file is atomic: at every point of every run the session path holds what it
held before or the new bytes, after an error what it held before, and a session that had a file
is found. -/
structure AtomicReplacement (act : Files J → Event (FilesystemSig J) → Files J → Prop)
    (root : Path) (sessionId : SessionId) (files : Files J) (bytes : J) : Prop where
  point : ∀ rest files',
    Prog.Steps act (writeAtomic (sessionPath root sessionId) bytes).run files rest files' →
    files' (sessionPath root sessionId) = files (sessionPath root sessionId) ∨
      files' (sessionPath root sessionId) = some bytes
  error : ∀ error files',
    Prog.Steps act (writeAtomic (sessionPath root sessionId) bytes).run files
      (.pure (.error error)) files' →
    files' (sessionPath root sessionId) = files (sessionPath root sessionId)
  found : ∀ (json : StateJson J) rest files',
    Prog.Steps act (writeAtomic (sessionPath root sessionId) bytes).run files rest files' →
    files (sessionPath root sessionId) ≠ none → loaded json root files' sessionId ≠ .ok none

/-- The answers of a file system that does not remove the file at a path. -/
def Unremoved (path : Path) (act : Files J → Event (FilesystemSig J) → Files J → Prop)
    (files : Files J) (e : Event (FilesystemSig J)) (files' : Files J) : Prop :=
  act files e files' ∧ e ≠ ⟨.run (.removeFile path), .ok ()⟩

/-! ## Runs that remove nothing -/

section

variable {path : Path} {bytes : J} {old : Option J} {s : Files J}

/-- The files after a replacement: the new bytes are at the path, or the call failed. -/
def Replaced (path : Path) (bytes : J) (old : Option J) (result : Except MemoryError Unit)
    (files : Files J) : Prop :=
  match result with
  | .ok _ => files path = some bytes
  | .error _ => files path = old

/-- Where the file at the path is not removed, it stays until it is replaced. -/
theorem writeAtomic_correct (bytes : J) (hact : ∀ s e s', act s e s' → FileAct id s e s')
    (hkept : ∀ s s', s path = old → ¬ act s ⟨.run (.removeFile path), .ok ()⟩ s')
    (hpath : path ≠ []) (htmp : temporaryPath path ≠ path) {files : Files J}
    (hfiles : files path = old) :
    Prog.Correct act (fun s _ => s path = old) (Replaced path bytes old)
      (writeAtomic path bytes).run files := by
  rw [writeAtomic, if_neg hpath]
  refine correct_execute_seq hact hfiles (fun _ created _ hcreated => ?_) fun _ => hfiles
  obtain rfl : files = created := congrArg Prod.snd hcreated
  refine correct_execute_seq hact hfiles (fun _ written _ hwritten => ?_) fun _ => hfiles
  obtain rfl : Function.update files (temporaryPath path) (some bytes) = written :=
    congrArg Prod.snd hwritten
  have hsame : Function.update files (temporaryPath path) (some bytes) path = old := by
    rw [Function.update_of_ne htmp.symm, hfiles]
  have hrename : Prog.Correct act (fun s _ => s path = old) (Replaced path bytes old)
      (execute "failed to finalize state file" (.rename (temporaryPath path) path)).run
      (Function.update files (temporaryPath path) (some bytes)) := by
    refine correct_execute (.rename (temporaryPath path) path) hact hsame ?_ ?_
    · intro _ renamed _ hrenamed
      simp only [FileCall.runAt, FileCall.run, id_eq, Function.update_self] at hrenamed
      obtain rfl := congrArg Prod.snd hrenamed
      exact Function.update_self path _ _
    · intro error
      exact hsame
  refine correct_pathExists_seq hact hsame (fun _ => ?_) hrename
  refine correct_execute_seq hact hsame (fun _ removed hremoved _ => ?_) fun _ => hsame
  exact absurd hremoved (hkept _ _ hsame)

/-- At every point of a run the path holds what it held or the new bytes. -/
theorem writeAtomic_point (hcorrect : Prog.Correct act (fun s _ => s path = old)
      (Replaced path bytes old) (writeAtomic path bytes).run s) {rest files'}
    (hsteps : Prog.Steps act (writeAtomic path bytes).run s rest files') :
    files' path = old ∨ files' path = some bytes := by
  have hrest := hcorrect.steps hsteps
  cases rest with
  | call op next => exact .inl ((Prog.correct_call op next).mp hrest).1
  | pure result =>
      have hreplaced : Replaced path bytes old result files' := (Prog.correct_pure result).mp hrest
      cases result with
      | ok value => exact .inr hreplaced
      | error error => exact .inl hreplaced

end

section

variable (root : Path) (sessionId : SessionId) (files : Files J) (bytes : J)

/-- The path of a session is not empty. -/
theorem sessionPath_ne_nil : sessionPath root sessionId ≠ [] := by
  simp [sessionPath]

/-- Without a removal, replacing a session file is atomic. -/
theorem atomic_of_unremoved (hact : ∀ s e s', act s e s' → FileAct id s e s')
    (hkept : ∀ s s', s (sessionPath root sessionId) = files (sessionPath root sessionId) →
      ¬ act s ⟨.run (.removeFile (sessionPath root sessionId)), .ok ()⟩ s') :
    AtomicReplacement act root sessionId files bytes := by
  have hcorrect := writeAtomic_correct bytes hact hkept
    (sessionPath_ne_nil root sessionId) (temporaryPath_ne_sessionPath root sessionId sessionId) rfl
  refine ⟨fun rest files' => writeAtomic_point hcorrect, fun error files' hsteps => ?_,
    fun json rest files' hsteps hfound hmissing => ?_⟩
  · have hreplaced := (Prog.correct_pure (Except.error error)).mp (hcorrect.steps hsteps)
    exact hreplaced
  · rw [loaded_none_iff] at hmissing
    rcases writeAtomic_point hcorrect hsteps with hold | hnew
    · exact hfound (hold ▸ hmissing)
    · rw [hmissing] at hnew
      cases hnew

end

/-! ## Runs that remove the file -/

/-- A file that exists is removed, and if the renaming fails it is gone. -/
theorem removed_run {path : Path} (bytes : J) (hpath : path ≠ [])
    (htmp : temporaryPath path ≠ path) {files : Files J} (hfound : files path ≠ none)
    (error : String) :
    ∃ failure files', Prog.Steps (FileAct id) (writeAtomic path bytes).run files
      (.pure (.error failure)) files' ∧ files' path = none := by
  have hsome : (Function.update files (temporaryPath path) (some bytes) path).isSome := by
    rw [Function.update_of_ne htmp.symm]
    exact Option.isSome_iff_ne_none.mpr hfound
  obtain ⟨old, hold⟩ := Option.isSome_iff_exists.mp hsome
  have htested : FileAct id (Function.update files (temporaryPath path) (some bytes))
      ⟨.pathExists path, true⟩ (Function.update files (temporaryPath path) (some bytes)) := by
    rw [← hsome]
    exact .tested _ path
  have hremoved : FileAct id (Function.update files (temporaryPath path) (some bytes))
      ⟨.run (.removeFile path), .ok ()⟩
      (Function.update (Function.update files (temporaryPath path) (some bytes)) path none) := by
    refine .done ?_
    simp only [FileCall.runAt, FileCall.run, id_eq, hold]
  rw [writeAtomic, if_neg hpath]
  refine ⟨_, _, .call (.done rfl) (.call (.done rfl) (.call htested (.call hremoved
    (.call (.failed _ _ error) (.refl _ _))))), ?_⟩
  exact Function.update_self ..

/-- Replacing a session file is atomic exactly when there is none yet. If there is one, the runs
that do not remove it are atomic. -/
theorem write_atomic_iff (root : Path) (sessionId : SessionId) (files : Files J) (bytes : J) :
    (AtomicReplacement (FileAct id) root sessionId files bytes ↔
      files (sessionPath root sessionId) = none) ∧
    AtomicReplacement (Unremoved (sessionPath root sessionId) (FileAct id)) root sessionId files
      bytes := by
  refine ⟨⟨fun hatomic => ?_, fun hmissing => ?_⟩, ?_⟩
  · by_contra hfound
    obtain ⟨failure, files', hsteps, hgone⟩ := removed_run bytes
      (sessionPath_ne_nil root sessionId) (temporaryPath_ne_sessionPath root sessionId sessionId)
      hfound "Permission denied (os error 13)"
    exact hfound ((hatomic.error _ _ hsteps).symm.trans hgone)
  · refine atomic_of_unremoved root sessionId files bytes (fun _ _ _ h => h)
      fun s s' hs hremoved => ?_
    -- A file that does not exist cannot be removed.
    cases hremoved with
    | done hrun =>
        rw [hmissing] at hs
        simp [FileCall.runAt, FileCall.run, hs] at hrun
  · exact atomic_of_unremoved root sessionId files bytes (fun _ _ _ h => h.1)
      fun s s' _ hremoved => hremoved.2 rfl

/-- The files of a root with one session. -/
def oneSession (sessionId : SessionId) (bytes : String) : Files String := fun path =>
  if path = sessionPath ["data"] sessionId then some bytes else none

/-- Where the renaming fails after the removal, an existing session is reported missing. -/
theorem write_atomic_loses_session :
    ¬ AtomicReplacement (FileAct id) ["data"] ⟨"s"⟩ (oneSession ⟨"s"⟩ "old") "new" ∧
    ∃ failure files', Prog.Steps (FileAct id)
        (writeAtomic (sessionPath ["data"] ⟨"s"⟩) "new").run (oneSession ⟨"s"⟩ "old")
        (.pure (.error failure)) files' ∧
      ∀ json, loaded json ["data"] files' ⟨"s"⟩ = .ok none := by
  have hfound : oneSession ⟨"s"⟩ "old" (sessionPath ["data"] ⟨"s"⟩) ≠ none := by
    simp [oneSession]
  obtain ⟨failure, files', hsteps, hgone⟩ := removed_run "new"
    (sessionPath_ne_nil ["data"] ⟨"s"⟩) (temporaryPath_ne_sessionPath ["data"] ⟨"s"⟩ ⟨"s"⟩)
    hfound "Permission denied (os error 13)"
  refine ⟨fun hatomic => ?_, failure, files', hsteps, fun json => loaded_none_iff.mpr hgone⟩
  exact hfound ((hatomic.error _ _ hsteps).symm.trans hgone)

end Fiddlesticks.Memory.Filesystem
