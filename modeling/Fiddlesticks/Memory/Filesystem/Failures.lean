import Fiddlesticks.Effect.Correct
import Fiddlesticks.Memory.Filesystem.Backend

/-!
# Files whose calls may fail

The answers of a file system to the programs of the backend. Every call may fail and then changes
nothing, and a file that exists may be reported missing. A file system may store several paths in
one place, as one that ignores case does: `locate` gives the place of a path.
-/

namespace Fiddlesticks.Memory.Filesystem

open Effect

variable {J : Type}

/-- The effect of a call on the places of its paths. -/
def FileCall.runAt (locate : Path → Path) (files : Files J) :
    (call : FileCall J) → Except String call.Result × Files J
  | .createDirAll path => FileCall.run files (.createDirAll (locate path))
  | .read path => FileCall.run files (.read (locate path))
  | .write path bytes => FileCall.run files (.write (locate path) bytes)
  | .removeFile path => FileCall.run files (.removeFile (locate path))
  | .rename source target => FileCall.run files (.rename (locate source) (locate target))

/-- What a file system may answer, and the files after it. -/
inductive FileAct (locate : Path → Path) : Files J → Event (FilesystemSig J) → Files J → Prop where
  | lock (files : Files J) (poisoned : Bool) : FileAct locate files ⟨.lock, poisoned⟩ files
  | tested (files : Files J) (path : Path) :
      FileAct locate files ⟨.pathExists path, (files (locate path)).isSome⟩ files
  | untested (files : Files J) (path : Path) : FileAct locate files ⟨.pathExists path, false⟩ files
  | done {files files' : Files J} {call : FileCall J} {result : call.Result}
      (h : call.runAt locate files = (.ok result, files')) :
      FileAct locate files ⟨.run call, .ok result⟩ files'
  | failed (files : Files J) (call : FileCall J) (error : String) :
      FileAct locate files ⟨.run call, .error error⟩ files

/-- The answers of a file system without failures. -/
def answerAt (locate : Path → Path) : (op : FilesystemOp J) → Files J → op.Answer × Files J
  | .lock, files => (false, files)
  | .pathExists path, files => ((files (locate path)).isSome, files)
  | .run call, files => call.runAt locate files

/-- A call that fails changes nothing. -/
theorem FileCall.runAt_error {locate : Path → Path} {files : Files J} {call : FileCall J}
    {error : String} (h : (call.runAt locate files).1 = .error error) :
    (call.runAt locate files).2 = files := by
  cases call with
  | createDirAll path => rfl
  | write path bytes => cases h
  | read path =>
      rw [runAt, run.eq_def] at h ⊢
      dsimp only at h ⊢
      split
      · rfl
      · rfl
  | removeFile path =>
      rw [runAt, run.eq_def] at h ⊢
      dsimp only at h ⊢
      split at h
      · cases h
      · rfl
  | rename source target =>
      rw [runAt, run.eq_def] at h ⊢
      dsimp only at h ⊢
      split at h
      · cases h
      · rfl

/-- The answers without failures are among those that a file system may give. -/
theorem answerAt_act (locate : Path → Path) (op : FilesystemOp J) (files : Files J) :
    FileAct locate files ⟨op, (answerAt locate op files).1⟩ (answerAt locate op files).2 := by
  cases op with
  | lock => exact .lock files false
  | pathExists path => exact .tested files path
  | run call =>
      dsimp only [answerAt]
      cases hanswer : (call.runAt locate files).1 with
      | ok result => exact .done (Prod.ext hanswer rfl)
      | error error =>
          rw [FileCall.runAt_error hanswer]
          exact .failed files call error

/-! ## Single operations -/

section

variable {act : Files J → Event (FilesystemSig J) → Files J → Prop}
  {G : Files J → FilesystemOp J → Prop} {locate : Path → Path} {files : Files J} {β : Type}

/-- A call has its effect, or fails and changes nothing. -/
theorem correct_execute (call : FileCall J)
    {Q : Except MemoryError call.Result → Files J → Prop} {context : String}
    (hact : ∀ s e s', act s e s' → FileAct locate s e s') (hG : G files (.run call))
    (hok : ∀ result files', act files ⟨.run call, .ok result⟩ files' →
      call.runAt locate files = (.ok result, files') → Q (.ok result) files')
    (herror : ∀ error, Q (.error error) files) :
    Prog.Correct act G Q (execute context call).run files := by
  refine (Prog.correct_map _ _).mpr ((Prog.correct_call _ _).mpr ⟨hG, fun answer files' h => ?_⟩)
  refine (Prog.correct_pure _).mpr ?_
  cases hact _ _ _ h with
  | done hrun => exact hok _ _ h hrun
  | failed error => exact herror _

/-- A program goes on after a call that succeeds and ends with one that fails. -/
theorem correct_execute_seq {R : Except MemoryError β → Files J → Prop} {context : String}
    {call : FileCall J} {f : call.Result → FilesystemM J β}
    (hact : ∀ s e s', act s e s' → FileAct locate s e s') (hG : G files (.run call))
    (hok : ∀ result files', act files ⟨.run call, .ok result⟩ files' →
      call.runAt locate files = (.ok result, files') → Prog.Correct act G R (f result).run files')
    (herror : ∀ error, R (.error error) files) :
    Prog.Correct act G R (execute context call >>= f).run files := by
  refine Prog.correct_except_seq (Q := fun result files' => match result with
    | .ok result => Prog.Correct act G R (f result).run files'
    | .error error => R (.error error) files') ?_ (fun _ _ h => h) (fun _ _ h => h)
  exact correct_execute call hact hG hok herror

/-- A program goes on after it has asked whether a file exists. -/
theorem correct_pathExists_seq {R : Except MemoryError β → Files J → Prop} {path : Path}
    {f : Bool → FilesystemM J β} (hact : ∀ s e s', act s e s' → FileAct locate s e s')
    (hG : G files (.pathExists path))
    (hfound : (files (locate path)).isSome → Prog.Correct act G R (f true).run files)
    (hmissing : Prog.Correct act G R (f false).run files) :
    Prog.Correct act G R (ask (.pathExists path) >>= f).run files := by
  refine Prog.correct_lift_seq (Q := fun found files' =>
    Prog.Correct act G R (f found).run files') ?_ (fun _ _ h => h)
  refine (Prog.correct_call _ _).mpr ⟨hG, fun found files' h => (Prog.correct_pure _).mpr ?_⟩
  cases hact _ _ _ h with
  | tested =>
      cases hisSome : (files (locate path)).isSome with
      | true => exact hfound hisSome
      | false => exact hmissing
  | untested => exact hmissing

end

end Fiddlesticks.Memory.Filesystem
