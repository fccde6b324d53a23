import Fiddlesticks.Effect.Simulation
import Fiddlesticks.Memory.Filesystem.Failures
import Fiddlesticks.Memory.Filesystem.Isolation
import Fiddlesticks.Memory.Filesystem.Replacement

/-!
# Sessions that survive failures

What is left of the sessions when any call on their files may fail, a write may leave anything in
its file, and the process may stop at any point and be started again. A session is stored as a whole
document, or its file is gone; then the temporary file holds the whole document that was about to be
stored, until a later write to the session takes its place. An operation that is answered was served
from the session as it is stored, or as if the session were empty.
-/

namespace Fiddlesticks.Memory

open Effect Prog

/-! ## What becomes of a session -/

/-- Whether the operation stores the session, from its state. -/
def MemoryOp.saves (state : SessionState) : MemoryOp → Bool
  | .isInitialized _ | .loadBootstrapState _ | .loadTranscriptMessages _ => false
  | .initializeSessionIfMissing _ _ _ _ _ => !state.manifest.isSome
  | .updateFeaturePass _ featureId passes =>
      (setFeaturePass featureId passes state.featureList).isSome
  | _ => true

namespace Filesystem

/-- What the files of a session hold: its state, or no session file and perhaps a draft. -/
inductive Slot where
  | stored (state : SessionState)
  | missing (draft : Option SessionState)

namespace Slot

/-- The state that is loaded. -/
def current : Slot → SessionState
  | stored state => state
  | missing _ => {}

/-- The slot after the temporary file was overwritten. -/
def tear : Slot → Slot
  | stored state => stored state
  | missing _ => missing none

/-- The state that an operation may see: the current one, or an empty one where a file that exists
may be reported missing. -/
def Shows (accurate : Prop) (slot : Slot) (seen : SessionState) : Prop :=
  seen = slot.current ∨ ¬ accurate ∧ seen = {}

end Slot

/-- The answer to an operation and the slot after it. -/
inductive Fate (accurate : Prop) (op : MemoryOp) (slot : Slot) : op.Answer → Slot → Prop where
  | served {seen} (hseen : slot.Shows accurate seen) : Fate accurate op slot (seen.apply op).1
      (if op.saves seen then .stored (seen.apply op).2 else slot)
  | failed (error : MemoryError) : Fate accurate op slot (.error error) slot
  | torn (error : MemoryError) : Fate accurate op slot (.error error) slot.tear
  | lost {seen} (hseen : slot.Shows accurate seen) (hsaves : op.saves seen) (error : MemoryError) :
      Fate accurate op slot (.error error) (.missing (some (seen.apply op).2))

/-- The slots of all sessions and an operation on one of them. -/
inductive Fallible (accurate : Prop) (slots : SessionId → Slot) :
    Event MemorySig → (SessionId → Slot) → Prop where
  | operation {op answer slot} (h : Fate accurate op (slots op.sessionId) answer slot) :
      Fallible accurate slots ⟨op, answer⟩ (Function.update slots op.sessionId slot)

variable {J : Type}

/-! ## Failing files -/

/-- What a file system may answer whose failing writes leave anything in their files, and which may
be known to report no file missing that exists. -/
inductive TornAct (locate : Path → Path) (accurate : Prop) :
    Files J → Event (FilesystemSig J) → Files J → Prop where
  | whole {files e files'} (h : FileAct locate files e files')
      (htested : ∀ path, e = ⟨.pathExists path, false⟩ → files (locate path) = none ∨ ¬ accurate) :
      TornAct locate accurate files e files'
  | torn (files : Files J) (path : Path) (bytes : J) (left : Option J) (error : String) :
      TornAct locate accurate files ⟨.run (.write path bytes), .error error⟩
        (Function.update files (locate path) left)

section Rules

variable {locate : Path → Path} {accurate : Prop} {files : Files J} {β : Type}
  {G : Files J → FilesystemOp J → Prop}

/-- A call has its effect or fails. If it fails it changes nothing, unless it is a write. -/
theorem torn_execute (call : FileCall J) {Q : Except MemoryError call.Result → Files J → Prop}
    {context : String} (hG : G files (.run call))
    (hok : ∀ result files', call.runAt locate files = (.ok result, files') →
      Q (.ok result) files')
    (herror : ∀ error, Q (.error error) files)
    (htorn : ∀ path bytes left error, call = .write path bytes →
      Q (.error error) (Function.update files (locate path) left)) :
    Correct (TornAct locate accurate) G Q (execute context call).run files := by
  refine (correct_map _ _).mpr ((correct_call _ _).mpr ⟨hG, fun answer files' h => ?_⟩)
  refine (correct_pure _).mpr ?_
  cases h with
  | torn _ _ left error => exact htorn _ _ left _ rfl
  | whole h _ =>
      cases h with
      | done hrun => exact hok _ _ hrun
      | failed error => exact herror _

/-- A program goes on after a call that succeeds and ends with one that fails. -/
theorem torn_execute_seq {R : Except MemoryError β → Files J → Prop} {context : String}
    {call : FileCall J} {f : call.Result → FilesystemM J β} (hG : G files (.run call))
    (hok : ∀ result files', call.runAt locate files = (.ok result, files') →
      Correct (TornAct locate accurate) G R (f result).run files')
    (herror : ∀ error, R (.error error) files)
    (htorn : ∀ path bytes left error, call = .write path bytes →
      R (.error error) (Function.update files (locate path) left)) :
    Correct (TornAct locate accurate) G R (execute context call >>= f).run files := by
  refine correct_except_seq (Q := fun result files' => match result with
    | .ok result => Correct (TornAct locate accurate) G R (f result).run files'
    | .error error => R (.error error) files') ?_ (fun _ _ h => h) (fun _ _ h => h)
  exact torn_execute call hG hok herror htorn

/-- A program goes on after it has asked whether a file exists. -/
theorem torn_pathExists_seq {R : Except MemoryError β → Files J → Prop} {path : Path}
    {f : Bool → FilesystemM J β} (hG : G files (.pathExists path))
    (hfound : (files (locate path)).isSome →
      Correct (TornAct locate accurate) G R (f true).run files)
    (hmissing : files (locate path) = none ∨ ¬ accurate →
      Correct (TornAct locate accurate) G R (f false).run files) :
    Correct (TornAct locate accurate) G R (ask (.pathExists path) >>= f).run files := by
  refine correct_lift_seq (Q := fun found files' =>
    Correct (TornAct locate accurate) G R (f found).run files') ?_ (fun _ _ h => h)
  refine (correct_call _ _).mpr ⟨hG, fun found files' h => (correct_pure _).mpr ?_⟩
  cases h with
  | whole h htested =>
      cases h with
      | untested => exact hmissing (htested path rfl)
      | tested =>
          cases hisSome : (files (locate path)).isSome with
          | true => exact hfound hisSome
          | false => exact hmissing (.inl (by simpa using hisSome))

/-- A program goes on with the lock, or fails. -/
theorem torn_lock_seq {R : Except MemoryError β → Files J → Prop} {f : Unit → FilesystemM J β}
    (hG : G files .lock) (hlocked : Correct (TornAct locate accurate) G R (f ()).run files)
    (herror : ∀ error, R (.error error) files) :
    Correct (TornAct locate accurate) G R (lock >>= f).run files := by
  refine correct_except_seq (Q := fun result files' => files' = files) ?_ ?_ ?_
  · refine correct_lift_seq (Q := fun _ files' => files' = files) ?_ ?_
    · refine (correct_call _ _).mpr ⟨hG, fun poisoned files' h => (correct_pure _).mpr ?_⟩
      cases h with
      | whole h _ =>
          cases h with
          | lock => rfl
    · rintro poisoned _ rfl
      cases poisoned <;> exact (correct_pure _).mpr rfl
  · rintro _ _ rfl
    exact hlocked
  · rintro error _ rfl
    exact herror error

/-! ## Replacing a file -/

/-- The two files of a session while new bytes take the place of the old ones. -/
inductive Replacing (path tmp : Path) (bytes : J) (files files' : Files J) : Prop where
  | kept (hpath : files' path = files path) (htmp : files' tmp = files tmp)
  | torn (hpath : files' path = files path)
  | drafted (hpath : files' path = files path) (htmp : files' tmp = some bytes)
  | removed (hpath : files' path = none) (htmp : files' tmp = some bytes)

/-- The two files after that: the new bytes are in their place, or they never were. -/
def Swapped (path tmp : Path) (bytes : J) (files : Files J) (result : Except MemoryError Unit)
    (files' : Files J) : Prop :=
  match result with
  | .ok _ => files' path = some bytes
  | .error _ => Replacing path tmp bytes files files'

/-- At every point of `write_atomic` the session file is as it was or missing, and while it is
missing the temporary file holds the new bytes. -/
theorem writeAtomic_replaces {path : Path} (bytes : J) (files : Files J) (hpath : path ≠ [])
    (hne : locate path ≠ locate (temporaryPath path)) :
    Correct (TornAct locate accurate)
      (fun files' _ => Replacing (locate path) (locate (temporaryPath path)) bytes files files')
      (Swapped (locate path) (locate (temporaryPath path)) bytes files)
      (writeAtomic path bytes).run files := by
  have hstart : Replacing (locate path) (locate (temporaryPath path)) bytes files files :=
    .kept rfl rfl
  rw [writeAtomic, if_neg hpath]
  refine torn_execute_seq hstart (fun _ created hcreated => ?_) (fun _ => hstart) ?_
  swap
  · intro _ _ left error hcall
    cases hcall
  obtain rfl : files = created := congrArg Prod.snd hcreated
  refine torn_execute_seq hstart (fun _ written hwritten => ?_) (fun _ => hstart) ?_
  swap
  · intro _ _ left error hcall
    cases hcall
    exact .torn (Function.update_of_ne hne _ _)
  obtain rfl : Function.update files (locate (temporaryPath path)) (some bytes) = written :=
    congrArg Prod.snd hwritten
  have hdrafted : Replacing (locate path) (locate (temporaryPath path)) bytes files
      (Function.update files (locate (temporaryPath path)) (some bytes)) :=
    .drafted (Function.update_of_ne hne _ _) (Function.update_self _ _ _)
  have hrename {drafted : Files J} (htmp : drafted (locate (temporaryPath path)) = some bytes)
      (hdrafted : Replacing (locate path) (locate (temporaryPath path)) bytes files drafted) :
      Correct (TornAct locate accurate)
        (fun files' _ => Replacing (locate path) (locate (temporaryPath path)) bytes files files')
        (Swapped (locate path) (locate (temporaryPath path)) bytes files)
        (execute "failed to finalize state file" (.rename (temporaryPath path) path)).run
        drafted := by
    refine torn_execute (.rename (temporaryPath path) path) hdrafted ?_ ?_ ?_
    · intro _ renamed hrenamed
      simp only [FileCall.runAt, FileCall.run, htmp] at hrenamed
      obtain rfl := congrArg Prod.snd hrenamed
      exact Function.update_self _ _ _
    · intro error
      exact hdrafted
    · intro _ _ left error hcall
      cases hcall
  refine torn_pathExists_seq hdrafted (fun hfound => ?_)
    fun _ => hrename (Function.update_self _ _ _) hdrafted
  refine torn_execute_seq hdrafted (fun _ removed hremoved => ?_) (fun _ => hdrafted) ?_
  swap
  · intro _ _ left error hcall
    cases hcall
  obtain ⟨old, hold⟩ := Option.isSome_iff_exists.mp hfound
  simp only [FileCall.runAt, FileCall.run, hold] at hremoved
  obtain rfl := congrArg Prod.snd hremoved
  have htmp : Function.update (Function.update files (locate (temporaryPath path)) (some bytes))
      (locate path) none (locate (temporaryPath path)) = some bytes := by
    rw [Function.update_of_ne hne.symm, Function.update_self]
  exact hrename htmp (.removed (Function.update_self _ _ _) htmp)

end Rules

/-! ## Operations -/

section Operations

variable {json : StateJson J} {locate : Path → Path} {accurate : Prop} {root : Path}
  {sessionId : SessionId} {slot : Slot} {files : Files J} {β : Type}

/-- The files hold the slot of a session. -/
def Slot.Holds (json : StateJson J) (locate : Path → Path) (root : Path) (sessionId : SessionId)
    (files : Files J) : Slot → Prop
  | .stored state => Stores json sessionId (files (locate (sessionPath root sessionId))) state
  | .missing draft => files (locate (sessionPath root sessionId)) = none ∧
      ∀ state ∈ draft, ∃ bytes,
        files (locate (temporaryPath (sessionPath root sessionId))) = some bytes ∧
          Stores json sessionId (some bytes) state

/-- The files hold what an operation may leave. -/
def Leaves (json : StateJson J) (locate : Path → Path) (accurate : Prop) (root : Path)
    (op : MemoryOp) (slot : Slot) (answer : op.Answer) (files : Files J) : Prop :=
  ∃ slot', Fate accurate op slot answer slot' ∧ slot'.Holds json locate root op.sessionId files

/-- The operation may stop with these files. -/
def MayStop (json : StateJson J) (locate : Path → Path) (accurate : Prop) (root : Path)
    (op : MemoryOp) (slot : Slot) (files : Files J) (_ : FilesystemOp J) : Prop :=
  ∃ answer, Leaves json locate accurate root op slot answer files

/-- Run an operation to one of its fates, or stop in one. -/
abbrev Fares (json : StateJson J) (locate : Path → Path) (accurate : Prop) (root : Path)
    (op : MemoryOp) (slot : Slot) (p : FilesystemM J op.Value) (files : Files J) : Prop :=
  Correct (TornAct locate accurate) (MayStop json locate accurate root op slot)
    (Leaves json locate accurate root op slot) p.run files

/-- A program goes on with the document that represents what the slot shows. -/
theorem loadState_seq {G : Files J → FilesystemOp J → Prop}
    {R : Except MemoryError β → Files J → Prop} {f : Option PersistedState → FilesystemM J β}
    (hholds : slot.Holds json locate root sessionId files) (hG : ∀ op, G files op)
    (hseen : ∀ found seen, slot.Shows accurate seen → (found.getD {}).Represents sessionId seen →
      Correct (TornAct locate accurate) G R (f found).run files)
    (herror : ∀ error, R (.error error) files) :
    Correct (TornAct locate accurate) G R (loadState json root sessionId >>= f).run files := by
  rw [loadState]
  simp only [LawfulMonad.bind_assoc]
  refine torn_pathExists_seq (hG _) (fun hfound => ?_) fun hmissing => ?_
  · cases slot with
    | missing draft => simp [hholds.1] at hfound
    | stored state =>
        obtain ⟨bytes, hbytes⟩ := Option.isSome_iff_exists.mp hfound
        obtain ⟨document, hdocument, hrepresents⟩ := hholds
        rw [hbytes] at hdocument
        have hdocument : json.fromValue bytes = .ok document := hdocument
        have hrun : (FileCall.read (sessionPath root sessionId)).runAt locate files =
            (.ok bytes, files) := by
          simp only [FileCall.runAt, FileCall.run, hbytes]
        simp only [Bool.not_true, Bool.false_eq_true, if_false, LawfulMonad.bind_assoc]
        refine torn_execute_seq (hG _) (fun result files' hread => ?_) herror ?_
        · rw [hrun] at hread
          cases hread
          rw [hdocument]
          exact hseen (some document) state (.inl rfl) hrepresents
        · rintro _ _ left error ⟨⟩
  · rcases hmissing with hnone | hinaccurate
    · refine hseen none slot.current (.inl rfl) ?_
      cases slot with
      | missing draft => exact PersistedState.represents_default sessionId
      | stored state =>
          obtain ⟨document, hdocument, hrepresents⟩ := hholds
          rw [hnone] at hdocument
          cases hdocument
          exact hrepresents
    · exact hseen none {} (.inr ⟨hinaccurate, rfl⟩) (PersistedState.represents_default sessionId)

/-- An operation that fails at its start leaves the slot. -/
theorem leaves_failed {op : MemoryOp} (hholds : slot.Holds json locate root op.sessionId files)
    (error : MemoryError) : Leaves json locate accurate root op slot (.error error) files :=
  ⟨slot, .failed error, hholds⟩

/-- An operation may stop before it has done anything. -/
theorem mayStop_start {op : MemoryOp} (hholds : slot.Holds json locate root op.sessionId files)
    (call : FilesystemOp J) : MayStop json locate accurate root op slot files call :=
  ⟨.error (.storage ""), leaves_failed hholds _⟩

/-- Where the session file and its temporary file are replaced, the operation has failed. -/
theorem Replacing.leaves {op : MemoryOp} {seen : SessionState} {bytes : J} {files' : Files J}
    (h : Replacing (locate (sessionPath root op.sessionId))
      (locate (temporaryPath (sessionPath root op.sessionId))) bytes files files')
    (hholds : slot.Holds json locate root op.sessionId files) (hseen : slot.Shows accurate seen)
    (hsaves : op.saves seen) (hbytes : Stores json op.sessionId (some bytes) (seen.apply op).2)
    (error : MemoryError) : Leaves json locate accurate root op slot (.error error) files' := by
  have hlost (hpath : files' (locate (sessionPath root op.sessionId)) = none)
      (htmp : files' (locate (temporaryPath (sessionPath root op.sessionId))) = some bytes) :
      Leaves json locate accurate root op slot (.error error) files' := by
    refine ⟨_, .lost hseen hsaves error, hpath, ?_⟩
    intro state hstate
    obtain rfl := Option.mem_some_iff.mp hstate
    exact ⟨bytes, htmp, hbytes⟩
  cases slot with
  | stored state =>
      have hstays (hpath : files' (locate (sessionPath root op.sessionId)) =
          files (locate (sessionPath root op.sessionId))) :
          Leaves json locate accurate root op (.stored state) (.error error) files' := by
        refine ⟨_, .failed error, ?_⟩
        rw [Slot.Holds, hpath]
        exact hholds
      cases h with
      | kept hpath | torn hpath | drafted hpath => exact hstays hpath
      | removed hpath htmp => exact hlost hpath htmp
  | missing draft =>
      obtain ⟨hgone, hdraft⟩ := hholds
      cases h with
      | kept hpath htmp =>
          refine ⟨_, .failed error, hpath.trans hgone, ?_⟩
          rw [htmp]
          exact hdraft
      | torn hpath =>
          refine ⟨_, .torn error, hpath.trans hgone, ?_⟩
          rintro _ ⟨⟩
      | drafted hpath htmp => exact hlost (hpath.trans hgone) htmp
      | removed hpath htmp => exact hlost hpath htmp

/-- What `save_state` leaves: the new state, or what the failed operation may leave. -/
def Saved (json : StateJson J) (locate : Path → Path) (accurate : Prop) (root : Path)
    (op : MemoryOp) (slot : Slot) (state : SessionState) (result : Except MemoryError Unit)
    (files : Files J) : Prop :=
  match result with
  | .ok _ => (Slot.stored state).Holds json locate root op.sessionId files
  | .error error => Leaves json locate accurate root op slot (.error error) files

/-- The two files of a session have different places. -/
def Separate (locate : Path → Path) (root : Path) : Prop :=
  ∀ sessionId, locate (sessionPath root sessionId) ≠
    locate (temporaryPath (sessionPath root sessionId))

/-- Saving a document stores it, or leaves what a failed operation may leave. -/
theorem saveState_saves (op : MemoryOp) {seen : SessionState} {document : PersistedState}
    (hseparate : Separate locate root) (hholds : slot.Holds json locate root op.sessionId files)
    (hseen : slot.Shows accurate seen) (hsaves : op.saves seen)
    (hrepresents : document.Represents op.sessionId (seen.apply op).2) :
    Correct (TornAct locate accurate) (MayStop json locate accurate root op slot)
      (Saved json locate accurate root op slot (seen.apply op).2)
      (saveState json root op.sessionId document).run files := by
  rw [saveState]
  cases hjson : json.toValue document with
  | error error =>
      refine (correct_pure _).mpr ?_
      exact leaves_failed hholds _
  | ok bytes =>
      have hbytes : Stores json op.sessionId (some bytes) (seen.apply op).2 :=
        ⟨document, json.fromValue_toValue hjson, hrepresents⟩
      have hreplaces := @writeAtomic_replaces J locate accurate _ bytes files
        (sessionPath_ne_nil root op.sessionId) (hseparate op.sessionId)
      refine (hreplaces.guard_mono fun files' call h => ?_).mono fun result files' h => ?_
      · exact ⟨.error (.storage ""), h.leaves hholds hseen hsaves hbytes _⟩
      · cases result with
        | ok _ =>
            have hpath : files' (locate (sessionPath root op.sessionId)) = some bytes := h
            show Stores json op.sessionId (files' (locate (sessionPath root op.sessionId))) _
            rw [hpath]
            exact hbytes
        | error error =>
            have hreplacing : Replacing _ _ bytes files files' := h
            exact hreplacing.leaves hholds hseen hsaves hbytes error

/-- An update whose change succeeds stores the session. -/
theorem saves_of_change {update : Update} {document changed : PersistedState}
    {seen : SessionState} (h : document.Represents sessionId seen)
    (hchange : update.change document = .ok changed) : (update.op sessionId).saves seen := by
  cases update with
  | updateFeaturePass featureId passes =>
      obtain ⟨featureList, hset, -⟩ := h.updateFeaturePass hchange
      show (setFeaturePass featureId passes seen.featureList).isSome
      rw [hset]
      rfl
  | _ => rfl

/-- An update stores the state that it makes of what it has seen, or fails. -/
theorem updateState_fares (update : Update) {Q : Except MemoryError Unit → Files J → Prop}
    (hseparate : Separate locate root) (hholds : slot.Holds json locate root sessionId files)
    (hkeys : ∀ manifest ∈ (update.op sessionId).manifests, manifest.sessionId = sessionId)
    (hok : ∀ seen files', slot.Shows accurate seen → (update.op sessionId).saves seen →
      (Slot.stored (seen.apply (update.op sessionId)).2).Holds json locate root sessionId files' →
      Q (.ok ()) files')
    (herror : ∀ error files',
      Leaves json locate accurate root (update.op sessionId) slot (.error error) files' →
      Q (.error error) files') :
    Correct (TornAct locate accurate)
      (MayStop json locate accurate root (update.op sessionId) slot) Q
      (updateState json root sessionId update.change).run files := by
  have hop : (update.op sessionId).sessionId = sessionId := Update.op_sessionId update
  have hholds' : slot.Holds json locate root (update.op sessionId).sessionId files := by
    rw [hop]
    exact hholds
  have hfailed (error : MemoryError) : Q (.error error) files :=
    herror error files (leaves_failed hholds' error)
  rw [updateState]
  refine torn_lock_seq (mayStop_start hholds' _) ?_ hfailed
  refine loadState_seq hholds (mayStop_start hholds') (fun found seen hseen hrepresents => ?_)
    hfailed
  dsimp only
  cases hchange : update.change (found.getD {}) with
  | error error =>
      refine (correct_pure _).mpr ?_
      exact hfailed error
  | ok changed =>
      have hsaves := saves_of_change hrepresents hchange
      have hchanged := Update.represents_change hrepresents hchange hkeys
      have hsaved := saveState_saves (update.op sessionId) hseparate hholds' hseen hsaves
        (by rw [hop]; exact hchanged)
      rw [hop] at hsaved
      refine hsaved.mono fun result files' h => ?_
      cases result with
      | ok _ =>
          have hstored : (Slot.stored (seen.apply (update.op sessionId)).2).Holds json locate root
              (update.op sessionId).sessionId files' := h
          rw [hop] at hstored
          exact hok seen files' hseen hsaves hstored
      | error error => exact herror error files' h

/-- An operation that stored the state that it made of what it had seen was served. -/
theorem leaves_served (op : MemoryOp) {seen : SessionState} {answer : op.Answer}
    (hseen : slot.Shows accurate seen) (hsaves : op.saves seen)
    (happly : (seen.apply op).1 = answer)
    (hstored : (Slot.stored (seen.apply op).2).Holds json locate root op.sessionId files) :
    Leaves json locate accurate root op slot answer files := by
  subst happly
  refine ⟨_, .served hseen, ?_⟩
  rw [if_pos hsaves]
  exact hstored

/-- An operation that only loaded was served. -/
theorem leaves_loaded {op : MemoryOp} {seen : SessionState} {answer : op.Answer}
    (hseen : slot.Shows accurate seen) (hsaves : op.saves seen = false)
    (happly : (seen.apply op).1 = answer)
    (hholds : slot.Holds json locate root op.sessionId files) :
    Leaves json locate accurate root op slot answer files := by
  subst happly
  refine ⟨_, .served hseen, ?_⟩
  rw [hsaves]
  exact hholds

/-- An initialization stores the session, finds it, or fails. -/
theorem initializeSessionIfMissing_fares (hseparate : Separate locate root)
    (hholds : slot.Holds json locate root sessionId files) {manifest : SessionManifest}
    (hkey : manifest.sessionId = sessionId) (featureList : List FeatureRecord)
    (entry : Option ProgressEntry) (checkpoint : Option RunCheckpoint) :
    Fares json locate accurate root
      (.initializeSessionIfMissing sessionId manifest featureList entry checkpoint) slot
      (initializeSessionIfMissing json root sessionId manifest featureList entry checkpoint)
      files := by
  have hfailed : ∀ error, Leaves json locate accurate root
      (.initializeSessionIfMissing sessionId manifest featureList entry checkpoint) slot
      (.error error) files := leaves_failed hholds
  have hstart : ∀ call, MayStop json locate accurate root
      (.initializeSessionIfMissing sessionId manifest featureList entry checkpoint) slot files
      call := mayStop_start hholds
  rw [initializeSessionIfMissing]
  refine torn_lock_seq (hstart _) ?_ hfailed
  refine loadState_seq hholds hstart (fun found seen hseen hrepresents => ?_) hfailed
  have hsome := hrepresents.manifest_isSome
  dsimp only
  by_cases hmanifest : (found.getD {}).manifest.isSome = true
  · rw [if_pos hmanifest]
    refine (correct_pure _).mpr ?_
    rw [hsome] at hmanifest
    refine leaves_loaded hseen ?_ ?_ hholds
    · simp [MemoryOp.saves, hmanifest]
    · rw [SessionState.apply, if_pos hmanifest]
  · rw [if_neg hmanifest]
    rw [hsome] at hmanifest
    cases hchange : (found.getD {}).initializeSession manifest featureList entry checkpoint with
    | error error => exact (correct_pure _).mpr (hfailed error)
    | ok changed =>
        have hsaves : (MemoryOp.initializeSessionIfMissing sessionId manifest featureList entry
            checkpoint).saves seen := by
          simp [MemoryOp.saves, hmanifest]
        have hchanged : changed.Represents sessionId (seen.apply
            (.initializeSessionIfMissing sessionId manifest featureList entry checkpoint)).2 := by
          rw [SessionState.apply, if_neg hmanifest]
          subst hkey
          exact hrepresents.initializeSession hchange
        show Correct _ _ _ (saveState json root sessionId changed >>= fun _ => pure true).run files
        refine correct_except_seq (saveState_saves (.initializeSessionIfMissing sessionId
          manifest featureList entry checkpoint) hseparate hholds hseen hsaves hchanged) ?_ ?_
        · intro _ files' hstored
          refine (correct_pure _).mpr (leaves_served _ hseen hsaves ?_ hstored)
          rw [SessionState.apply, if_neg hmanifest]
        · intro error files' h
          exact h

/-- A load answers from the state that it has seen, or fails. -/
theorem load_fares {op : MemoryOp} {f : Option PersistedState → FilesystemM J op.Value}
    (hholds : slot.Holds json locate root op.sessionId files)
    (hsaves : ∀ seen, op.saves seen = false)
    (hloads : ∀ found seen, (found.getD {}).Represents op.sessionId seen →
      (f found).run = Prog.pure (seen.apply op).1) :
    Fares json locate accurate root op slot
      (lock >>= fun _ => loadState json root op.sessionId >>= f) files := by
  have hfailed : ∀ error, Leaves json locate accurate root op slot (.error error) files :=
    leaves_failed hholds
  refine torn_lock_seq (mayStop_start hholds _) ?_ hfailed
  refine loadState_seq hholds (mayStop_start hholds) (fun found seen hseen hrepresents => ?_)
    hfailed
  rw [hloads found seen hrepresents]
  exact (correct_pure _).mpr (leaves_loaded hseen (hsaves seen) rfl hholds)

/-- Every operation ends in one of its fates, or stops in one. -/
theorem operation_fares (op : MemoryOp) (hseparate : Separate locate root) (hkeys : KeepsKeys op)
    (hholds : slot.Holds json locate root op.sessionId files) :
    Fares json locate accurate root op slot (operation json root op) files := by
  have herror : ∀ error files', Leaves json locate accurate root op slot (.error error) files' →
      Leaves json locate accurate root op slot (.error error) files' := fun _ _ h => h
  cases op with
  | isInitialized sessionId =>
      refine load_fares hholds (fun _ => rfl) fun found seen hrepresents => ?_
      rw [SessionState.apply, ← hrepresents.manifest_isSome]
      cases found <;> rfl
  | initializeSessionIfMissing sessionId manifest featureList entry checkpoint =>
      exact initializeSessionIfMissing_fares hseparate hholds
        (hkeys manifest (List.mem_singleton_self _)) featureList entry checkpoint
  | loadBootstrapState sessionId =>
      refine load_fares hholds (fun _ => rfl) fun found seen hrepresents => ?_
      rw [SessionState.apply, ← hrepresents.bootstrap]
      cases found <;> rfl
  | loadTranscriptMessages sessionId =>
      refine load_fares hholds (fun _ => rfl) fun found seen hrepresents => ?_
      rw [SessionState.apply, ← hrepresents.transcript]
      cases found <;> rfl
  | saveManifest sessionId manifest =>
      exact updateState_fares (.saveManifest manifest) hseparate hholds hkeys
        (fun _ _ hseen hsaves =>
          leaves_served (.saveManifest sessionId manifest) hseen hsaves rfl) herror
  | appendProgressEntry sessionId entry =>
      exact updateState_fares (.appendProgressEntry entry) hseparate hholds hkeys
        (fun _ _ hseen hsaves =>
          leaves_served (.appendProgressEntry sessionId entry) hseen hsaves rfl) herror
  | replaceFeatureList sessionId features =>
      exact updateState_fares (.replaceFeatureList features) hseparate hholds hkeys
        (fun _ _ hseen hsaves =>
          leaves_served (.replaceFeatureList sessionId features) hseen hsaves rfl) herror
  | updateFeaturePass sessionId featureId passes =>
      refine updateState_fares (.updateFeaturePass featureId passes) hseparate hholds hkeys
        (fun seen _ hseen hsaves =>
          leaves_served (.updateFeaturePass sessionId featureId passes) hseen hsaves ?_) herror
      -- The session is stored only if it has the feature.
      obtain ⟨features, hset⟩ := Option.isSome_iff_exists.mp hsaves
      rw [SessionState.apply, hset]
  | recordRunCheckpoint sessionId checkpoint =>
      exact updateState_fares (.recordRunCheckpoint checkpoint) hseparate hholds hkeys
        (fun _ _ hseen hsaves =>
          leaves_served (.recordRunCheckpoint sessionId checkpoint) hseen hsaves rfl) herror
  | appendTranscriptMessages sessionId messages =>
      exact updateState_fares (.appendTranscriptMessages messages) hseparate hholds hkeys
        (fun _ _ hseen hsaves =>
          leaves_served (.appendTranscriptMessages sessionId messages) hseen hsaves rfl) herror

end Operations

/-! ## Clients -/

section Clients

variable {json : StateJson J} {locate : Path → Path} {accurate : Prop} {root : Path}
  {sessionId first second : SessionId} {files files' : Files J}

/-- The file system does not change the files of one session for an operation on another. -/
theorem TornAct.sameAt (hapart : Apart locate root first second) {e : Event (FilesystemSig J)}
    (hop : Within root first e.op) (hact : TornAct locate accurate files e files') :
    SameAt locate (sessionPaths root second) files files' := by
  cases hact with
  | whole h _ => exact h.sameAt hapart hop
  | torn path bytes left error =>
      intro other hother
      exact (Function.update_of_ne (hapart path hop other hother).symm _ _).symm

/-- Slots look at the files of their session. -/
theorem Slot.Holds.congr {slot : Slot} (hholds : slot.Holds json locate root sessionId files)
    (hsame : SameAt locate (sessionPaths root sessionId) files files') :
    slot.Holds json locate root sessionId files' := by
  have hpath := hsame _ List.mem_cons_self
  have htmp := hsame _ (List.mem_cons_of_mem _ List.mem_cons_self)
  cases slot with
  | stored state =>
      rw [Slot.Holds, ← hpath]
      exact hholds
  | missing draft =>
      rw [Slot.Holds, ← hpath, ← htmp]
      exact hholds

/-- The files hold the slots of all sessions. -/
def Recoverable (json : StateJson J) (locate : Path → Path) (root : Path) (files : Files J)
    (slots : SessionId → Slot) : Prop :=
  ∀ sessionId, (slots sessionId).Holds json locate root sessionId files

/-- No session has files yet. -/
theorem recoverable_new (json : StateJson J) (locate : Path → Path) (root : Path) :
    Recoverable json locate root (fun _ => none) (fun _ => .missing none) := by
  refine fun sessionId => ⟨rfl, ?_⟩
  rintro _ ⟨⟩

/-- The places of a session file and its temporary file are different on every file system. -/
theorem NameFolding.separate (folding : NameFolding) (root : Path) :
    Separate folding.locate root := by
  intro sessionId hplace
  rw [temporaryPath_sessionPath] at hplace
  have hfold : folding.fold (sessionName sessionId) = folding.fold (temporaryName sessionId) := by
    simpa [NameFolding.locate, sessionPath, temporaryName] using hplace
  exact temporaryName_ne_sessionName sessionId sessionId (folding.fold_inj
    (sessionName_lower sessionId) (temporaryName_lower sessionId) hfold).symm

/-- Wherever an operation stops, the slots of all sessions are those of one of its fates. -/
theorem Recoverable.operation {folding : NameFolding} {slots : SessionId → Slot} {op : MemoryOp}
    (h : Recoverable json folding.locate root files slots) (hkeys : KeepsKeys op) :
    Correct (TornAct folding.locate accurate)
      (fun files' _ => ∃ answer slots', Fallible accurate slots ⟨op, answer⟩ slots' ∧
        Recoverable json folding.locate root files' slots')
      (fun answer files' => ∃ slots', Fallible accurate slots ⟨op, answer⟩ slots' ∧
        Recoverable json folding.locate root files' slots')
      (Filesystem.operation json root op).run files := by
  have hframe : Correct (TornAct folding.locate accurate)
      (fun files' _ => ∀ other, op.sessionId ≠ other →
        SameAt folding.locate (sessionPaths root other) files files')
      (fun _ files' => ∀ other, op.sessionId ≠ other →
        SameAt folding.locate (sessionPaths root other) files files')
      (Filesystem.operation json root op).run files := by
    refine (operation_uses op).correct (fun _ _ _ h => h) ?_ fun _ _ _ _ => rfl
    intro _ _ _ hwithin hact hsame other hother
    exact (hsame other hother).trans (hact.sameAt (fun path hpath other' hother' =>
      sessionPaths_apart folding root hother hpath hother') hwithin)
  have hrecoverable {answer : op.Answer} {files' : Files J}
      (hleaves : Leaves json folding.locate accurate root op (slots op.sessionId) answer files')
      (hsame : ∀ other, op.sessionId ≠ other →
        SameAt folding.locate (sessionPaths root other) files files') :
      ∃ slots', Fallible accurate slots ⟨op, answer⟩ slots' ∧
        Recoverable json folding.locate root files' slots' := by
    obtain ⟨slot, hfate, hholds⟩ := hleaves
    refine ⟨_, .operation hfate, fun sessionId => ?_⟩
    by_cases hsession : sessionId = op.sessionId
    · subst hsession
      rw [Function.update_self]
      exact hholds
    · rw [Function.update_of_ne hsession]
      exact (h sessionId).congr (hsame sessionId (Ne.symm hsession))
  have hfares : Fares json folding.locate accurate root op (slots op.sessionId)
      (Filesystem.operation json root op) files :=
    operation_fares op (folding.separate root) hkeys (h op.sessionId)
  refine ((hfares.and hframe).guard_mono fun files' call hstop => ?_).mono
    fun answer files' hend => hrecoverable hend.1 hend.2
  obtain ⟨⟨answer, hleaves⟩, hsame⟩ := hstop
  exact ⟨answer, hrecoverable hleaves hsame⟩

/-- A client of the backend, call by call. -/
abbrev onFilesystem {α : Type} (json : StateJson J) (root : Path) (client : Prog MemorySig α) :
    Prog (FilesystemSig J) α :=
  client.translate fun op => (Filesystem.operation json root op).run

end Clients

/-- Sessions survive failures. However clients of the backend are stopped and others started after
them, and whatever calls on files fail, each client is answered as if every operation had come to
one of its fates, and the files hold what is left of every session: its whole state, or no session
file but, unless it was overwritten, the whole state that an operation was about to store. Where no
file that exists is reported missing, operations are served from the current state only. -/
theorem sessions_survive (folding : NameFolding) {J α : Type} (json : StateJson J) (root : Path)
    (accurate : Prop) {files files' : Files J} {slots : SessionId → Slot}
    (hslots : Recoverable json folding.locate root files slots)
    {clients : List (Prog MemorySig α)} (hclients : ∀ client ∈ clients, client.Uses KeepsKeys)
    {outcomes : List (Option α)}
    (hlives : Lives (TornAct folding.locate accurate) (clients.map (onFilesystem json root)) files
      outcomes files') :
    ∃ slots', Lives (Fallible accurate) clients slots outcomes slots' ∧
      Recoverable json folding.locate root files' slots' :=
  Lives.refine (R := Recoverable json folding.locate root)
    (fun hslots hkeys => hslots.operation hkeys) hclients hslots hlives

/-- A file system that answers all calls without failures until a file is renamed. -/
def untilRename (locate : Path → Path) (op : FilesystemOp J) (files : Files J) :
    Option (op.Answer × Files J) :=
  match op with
  | .run (.rename _ _) => none
  | op => some (answerAt locate op files)

/-- What the files answer they may answer. -/
theorem answerAt_torn (locate : Path → Path) (op : FilesystemOp J) (files : Files J) :
    TornAct locate True files ⟨op, (answerAt locate op files).1⟩ (answerAt locate op files).2 := by
  refine .whole (answerAt_act locate op files) fun path h => .inl ?_
  cases op with
  | pathExists other =>
      injection h with hop hanswer
      injection hop with hpath
      subst hpath
      simpa [answerAt] using hanswer
  | lock | run => injection h with hop; cases hop

/-- The environment of the demo answers as files may. -/
theorem untilRename_torn {locate : Path → Path} {op : FilesystemOp J} {files files' : Files J}
    {answer : op.Answer} (h : untilRename locate op files = some (answer, files')) :
    TornAct locate True files ⟨op, answer⟩ files' := by
  have hanswer : answerAt locate op files = (answer, files') := by
    rw [untilRename.eq_def] at h
    split at h
    · cases h
    · exact Option.some.inj h
  have hact := answerAt_torn locate op files
  rw [hanswer] at hact
  exact hact

/-- A client that looks for a session. -/
def checkingClient : Prog MemorySig (Except MemoryError Bool) :=
  Prog.request (S := MemorySig) (.isInitialized ⟨"demo"⟩)

/-- A client that saves a manifest first. -/
def savingClient : Prog MemorySig (Except MemoryError Bool) := do
  let _ ← Prog.request (S := MemorySig) (.saveManifest ⟨"demo"⟩ (.new ⟨"demo"⟩ "main" "ship"))
  checkingClient

/-- The clients of the demo save manifests under the session they name. -/
theorem clients_keepKeys : ∀ client ∈ [savingClient, checkingClient], client.Uses KeepsKeys := by
  have hchecking : checkingClient.Uses KeepsKeys := by
    refine uses_request ?_
    intro manifest hmanifest
    exact absurd hmanifest List.not_mem_nil
  refine List.forall_mem_cons.mpr ⟨?_, List.forall_mem_singleton.mpr hchecking⟩
  refine (uses_call _ _).mpr ⟨?_, fun _ => hchecking⟩
  intro manifest hmanifest
  rw [List.mem_singleton.mp hmanifest]
  rfl

/-- The first process is stopped before the session file is in its place, and the second one looks
for the session. -/
theorem sessions_survive_demo : ∃ (value : Except MemoryError Bool)
    (files : Files PersistedState) (slots : SessionId → Slot),
    Lives (Fallible True) [savingClient, checkingClient] (fun _ => .missing none)
      [none, some value] slots ∧
    Recoverable .plain NameFolding.caseSensitive.locate ["data"] files slots := by
  have hfirst : Steps (TornAct NameFolding.caseSensitive.locate True)
      (onFilesystem .plain ["data"] savingClient) (fun _ => none) _ _ :=
    Steps.of_advance untilRename_torn _ _
  have hsecond (files : Files PersistedState) :
      Steps (TornAct NameFolding.caseSensitive.locate True)
        (onFilesystem .plain ["data"] checkingClient) files _ _ :=
    Steps.of_run (answerAt_torn NameFolding.caseSensitive.locate) _ _
  obtain ⟨slots, hlives, hslots⟩ := sessions_survive .caseSensitive .plain ["data"] True
    (recoverable_new .plain _ ["data"])
    clients_keepKeys (.stopped hfirst (.ended (hsecond _) (.nil _)))
  exact ⟨_, _, slots, hlives, hslots⟩

end Filesystem

end Fiddlesticks.Memory
