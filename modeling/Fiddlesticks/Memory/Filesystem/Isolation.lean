import Fiddlesticks.Memory.Filesystem.Failures

/-!
# Sessions do not share files

The names that the backend gives to the two files of a session consist of lower case letters, digits
and dots, and no two sessions share one, whatever their ids are. A file system that takes names for
equal that differ in case keeps such names apart. So an operation on one session changes nothing
that a load of another reads (`sessions_isolated`).
-/

namespace Fiddlesticks.Memory.Filesystem

open Effect

/-! ## File systems and names -/

/-- The characters of the names that the backend chooses. -/
def LowerName (name : String) : Prop :=
  ∀ c ∈ name.toList, c.isLower ∨ c.isDigit ∨ c = '.'

instance (name : String) : Decidable (LowerName name) :=
  List.decidableBAll _ name.toList

/-- How a file system identifies names: by a spelling that it folds them to. Names without capitals
stay apart. -/
structure NameFolding where
  fold : String → String
  fold_inj : ∀ {first second}, LowerName first → LowerName second →
    fold first = fold second → first = second

namespace NameFolding

/-- A file system that distinguishes all names. -/
def caseSensitive : NameFolding where
  fold := id
  fold_inj _ _ h := h

/-- Lower case letters, digits and dots have no other case. -/
theorem toLower_of_lower {c : Char} (h : c.isLower ∨ c.isDigit ∨ c = '.') : c.toLower = c := by
  refine dif_neg ?_
  intro h'
  obtain ⟨hfrom, hto⟩ := h'
  rw [ge_iff_le, UInt32.le_iff_toNat_le] at hfrom
  rw [UInt32.le_iff_toNat_le] at hto
  have hcapital : 65 ≤ c.toNat ∧ c.toNat ≤ 90 := ⟨hfrom, hto⟩
  rcases h with hlower | hdigit | rfl
  · have hrange : 97 ≤ c.toNat ∧ c.toNat ≤ 122 := by
      obtain ⟨hfrom, hto⟩ := Bool.and_eq_true_iff.mp hlower
      exact ⟨UInt32.le_iff_toNat_le.mp (of_decide_eq_true hfrom),
        UInt32.le_iff_toNat_le.mp (of_decide_eq_true hto)⟩
    omega
  · have hrange : 48 ≤ c.toNat ∧ c.toNat ≤ 57 := by
      simpa [Char.isDigit, UInt32.le_iff_toNat_le] using hdigit
    omega
  · exact absurd hcapital (by decide)

/-- A name in lower case is its own lower case. -/
theorem toLower_of_lowerName {name : String} (h : LowerName name) : name.toLower = name := by
  rw [← String.toList_inj, show name.toLower = name.map Char.toLower from rfl, String.toList_map]
  exact (List.map_congr_left fun c hc => toLower_of_lower (h c hc)).trans (List.map_id _)

/-- A file system that ignores the case of names. -/
def caseInsensitive : NameFolding where
  fold := String.toLower
  fold_inj hfirst hsecond h := by
    rwa [toLower_of_lowerName hfirst, toLower_of_lowerName hsecond] at h

/-- The place of a path. -/
def locate (folding : NameFolding) (path : Path) : Path :=
  path.map folding.fold

end NameFolding

/-! ## The names of a session -/

/-- A hexadecimal digit. -/
theorem nibbleToHex_lower (nibble : UInt8) :
    (nibbleToHex nibble).isLower ∨ (nibbleToHex nibble).isDigit := by
  rw [nibbleToHex]
  split
  · rename_i hdigit
    have hall : ∀ n ≤ 9, (Char.ofNat ('0'.toNat + n)).isDigit := by decide
    exact .inr (hall _ hdigit)
  · split
    · rename_i hnot hletter
      have hall : ∀ n < 6, (Char.ofNat ('a'.toNat + n)).isLower := by decide
      exact .inl (hall _ (by omega))
    · exact .inr (by decide)

/-- The digits of the name of a session file. -/
def sessionDigits (sessionId : SessionId) : List Char :=
  sessionId.value.toUTF8.data.toList.flatMap hexByte

/-- The hexadecimal digits of a session are in lower case. -/
theorem sessionDigits_lower {sessionId : SessionId} {c : Char}
    (h : c ∈ sessionDigits sessionId) : c.isLower ∨ c.isDigit := by
  obtain ⟨byte, -, hc⟩ := List.mem_flatMap.mp h
  rcases List.mem_pair.mp hc with rfl | rfl
  · exact nibbleToHex_lower _
  · exact nibbleToHex_lower _

/-- A digit is not the dot before an extension. -/
theorem sessionDigits_ne_dot {sessionId : SessionId} {c : Char}
    (h : c ∈ sessionDigits sessionId) : c ≠ '.' := by
  intro hdot
  subst hdot
  exact absurd (sessionDigits_lower h) (by decide)

/-- The characters of a session's file name. -/
theorem sessionName_toList (sessionId : SessionId) :
    (sessionName sessionId).toList = sessionDigits sessionId ++ ['.', 'j', 's', 'o', 'n'] := by
  simp [sessionName, hexEncode, sessionDigits]

/-- Different sessions have different digits. -/
theorem sessionDigits_injective : Function.Injective sessionDigits := by
  intro first second h
  refine sessionName_injective (String.toList_inj.mp ?_)
  rw [sessionName_toList, sessionName_toList, h]

/-- What `file_stem` keeps of the name of a session file. The empty id has no digits, and its name
no stem before the extension. -/
theorem fileStem_sessionName (sessionId : SessionId) :
    (fileStem (sessionName sessionId)).toList =
      if sessionDigits sessionId = [] then ['.', 'j', 's', 'o', 'n']
      else sessionDigits sessionId := by
  have hreverse : (sessionName sessionId).toList.reverse =
      ['n', 'o', 's', 'j', '.'] ++ (sessionDigits sessionId).reverse := by
    rw [sessionName_toList, List.reverse_append]
    rfl
  have hspan : ∀ before : List Char, (['n', 'o', 's', 'j', '.'] ++ before).span (· ≠ '.') =
      (['n', 'o', 's', 'j'], '.' :: before) := fun _ => rfl
  rw [fileStem, hreverse, hspan]
  cases hdigits : (sessionDigits sessionId).reverse with
  | nil =>
      rw [List.reverse_eq_nil_iff] at hdigits
      rw [if_pos hdigits, sessionName_toList, hdigits]
      rfl
  | cons digit before =>
      have hne : sessionDigits sessionId ≠ [] := by
        intro hnil
        rw [hnil] at hdigits
        cases hdigits
      rw [if_neg hne, String.toList_ofList, ← hdigits, List.reverse_reverse]

/-- The name of the temporary file of a session. -/
def temporaryName (sessionId : SessionId) : String :=
  fileStem (sessionName sessionId) ++ ".json.tmp"

/-- The characters of a session's temporary name. -/
theorem temporaryName_toList (sessionId : SessionId) :
    (temporaryName sessionId).toList = (fileStem (sessionName sessionId)).toList ++
      ['.', 'j', 's', 'o', 'n', '.', 't', 'm', 'p'] := by
  simp [temporaryName]

/-- Different sessions have different temporary files. -/
theorem temporaryName_injective : Function.Injective temporaryName := by
  intro first second h
  have hstem : (fileStem (sessionName first)).toList = (fileStem (sessionName second)).toList := by
    have hnames := congrArg String.toList h
    rw [temporaryName_toList, temporaryName_toList] at hnames
    exact List.append_cancel_right hnames
  have hdot : ∀ sessionId, ['.', 'j', 's', 'o', 'n'] ≠ sessionDigits sessionId := by
    intro sessionId hdigits
    have hmem : '.' ∈ sessionDigits sessionId := hdigits ▸ List.mem_cons_self
    exact sessionDigits_ne_dot hmem rfl
  apply sessionDigits_injective
  rw [fileStem_sessionName, fileStem_sessionName] at hstem
  split at hstem <;> split at hstem
  · simp [*]
  · exact absurd hstem (hdot second)
  · exact absurd hstem.symm (hdot first)
  · exact hstem

/-- A temporary file is not a session file. -/
theorem temporaryName_ne_sessionName (first second : SessionId) :
    temporaryName first ≠ sessionName second := by
  intro h
  have hlast := congrArg (fun name : String => name.toList.getLast?) h
  simp [temporaryName, sessionName] at hlast

/-! ## File names -/

/-- A name that is one component of a path: it has no separators and does not stand for a
directory. -/
def IsFileName (name : String) : Prop :=
  name ≠ "" ∧ name ≠ "." ∧ name ≠ ".." ∧ ∀ c ∈ name.toList, c ≠ '/' ∧ c ≠ '\\' ∧ c ≠ '\x00'

/-- The files of a session. -/
def sessionNames (sessionId : SessionId) : List String :=
  [sessionName sessionId, temporaryName sessionId]

/-- Names in lower case are joined to one in lower case. -/
theorem LowerName.append {first second : String} (h : LowerName first) (h' : LowerName second) :
    LowerName (first ++ second) := by
  intro c hc
  rw [String.toList_append, List.mem_append] at hc
  exact hc.elim (h c) (h' c)

/-- The name of a session's file is in lower case. -/
theorem sessionName_lower (sessionId : SessionId) : LowerName (sessionName sessionId) := by
  intro c hc
  rw [sessionName_toList, List.mem_append] at hc
  rcases hc with hdigit | hextension
  · exact (sessionDigits_lower hdigit).imp_right .inl
  · have hlower : LowerName ".json" := by decide
    exact hlower c hextension

/-- So is its temporary name. -/
theorem temporaryName_lower (sessionId : SessionId) : LowerName (temporaryName sessionId) := by
  refine LowerName.append ?_ (by decide)
  intro c hc
  rw [fileStem_sessionName] at hc
  split at hc
  · have hextension : LowerName ".json" := by decide
    exact hextension c hc
  · exact (sessionDigits_lower hc).imp_right .inl

/-- A long name without separators is the name of a file. -/
theorem LowerName.isFileName {name : String} (h : LowerName name) (hlong : 2 < name.length) :
    IsFileName name := by
  have hname {other : String} (hother : other.length ≤ 2) : name ≠ other := by
    intro heq
    subst heq
    omega
  have hchar {c other : Char} (hc : c ∈ name.toList)
      (hother : ¬ (other.isLower ∨ other.isDigit ∨ other = '.')) : c ≠ other := by
    intro heq
    subst heq
    exact hother (h c hc)
  refine ⟨hname (by decide), hname (by decide), hname (by decide), fun c hc => ?_⟩
  exact ⟨hchar hc (by decide), hchar hc (by decide), hchar hc (by decide)⟩

/-- All names of a session are in lower case. -/
theorem sessionNames_lower {sessionId : SessionId} {name : String}
    (h : name ∈ sessionNames sessionId) : LowerName name := by
  rcases List.mem_pair.mp h with rfl | rfl
  · exact sessionName_lower sessionId
  · exact temporaryName_lower sessionId

/-- Both files of a session lie in the directory they are put in. -/
theorem sessionNames_isFileName {sessionId : SessionId} {name : String}
    (h : name ∈ sessionNames sessionId) : IsFileName name := by
  refine (sessionNames_lower h).isFileName ?_
  rcases List.mem_pair.mp h with rfl | rfl
  · rw [← String.length_toList, sessionName_toList, List.length_append]
    exact Nat.lt_of_lt_of_le (by decide) (Nat.le_add_left 5 _)
  · rw [← String.length_toList, temporaryName_toList, List.length_append]
    exact Nat.lt_of_lt_of_le (by decide) (Nat.le_add_left 9 _)

/-- No name of one session is a name of another. -/
theorem sessionNames_disjoint {first second : SessionId} (hne : first ≠ second) {name : String}
    (h : name ∈ sessionNames first) : name ∉ sessionNames second := by
  intro h'
  rcases List.mem_pair.mp h with rfl | rfl
  · rcases List.mem_pair.mp h' with hname | hname
    · exact hne (sessionName_injective hname)
    · exact temporaryName_ne_sessionName second first hname.symm
  · rcases List.mem_pair.mp h' with hname | hname
    · exact temporaryName_ne_sessionName first second hname
    · exact hne (temporaryName_injective hname)

/-! ## Paths -/

/-- The paths of the two files of a session. -/
def sessionPaths (root : Path) (sessionId : SessionId) : List Path :=
  [sessionPath root sessionId, temporaryPath (sessionPath root sessionId)]

/-- The paths of a session are its names in the directory of sessions. -/
theorem sessionPaths_eq (root : Path) (sessionId : SessionId) :
    sessionPaths root sessionId =
      (sessionNames sessionId).map fun name => root ++ ["sessions"] ++ [name] := by
  rw [sessionPaths, temporaryPath_sessionPath]
  rfl

/-- No file system stores files of two sessions in one place. -/
theorem sessionPaths_apart (folding : NameFolding) (root : Path) {first second : SessionId}
    (hne : first ≠ second) {path other : Path} (h : path ∈ sessionPaths root first)
    (h' : other ∈ sessionPaths root second) : folding.locate path ≠ folding.locate other := by
  rw [sessionPaths_eq] at h h'
  obtain ⟨name, hname, rfl⟩ := List.mem_map.mp h
  obtain ⟨name', hname', rfl⟩ := List.mem_map.mp h'
  intro hplace
  have hfold : folding.fold name = folding.fold name' := by
    simpa [NameFolding.locate] using hplace
  have hsame := folding.fold_inj (sessionNames_lower hname) (sessionNames_lower hname') hfold
  exact sessionNames_disjoint hne hname (hsame ▸ hname')

/-! ## What an operation touches -/

section

variable {J : Type}

/-- The calls on the files of a session, and on the directory they are in. -/
def Within (root : Path) (sessionId : SessionId) : FilesystemOp J → Prop
  | .lock => True
  | .pathExists path => path ∈ sessionPaths root sessionId
  | .run (.createDirAll path) => path = root ++ ["sessions"]
  | .run (.read path) => path ∈ sessionPaths root sessionId
  | .run (.write path _) => path ∈ sessionPaths root sessionId
  | .run (.removeFile path) => path ∈ sessionPaths root sessionId
  | .run (.rename source target) =>
      source ∈ sessionPaths root sessionId ∧ target ∈ sessionPaths root sessionId

/-- The calls that look at the files of a session. -/
def Reads (root : Path) (sessionId : SessionId) : FilesystemOp J → Prop
  | .lock => True
  | .pathExists path => path ∈ sessionPaths root sessionId
  | .run (.read path) => path ∈ sessionPaths root sessionId
  | .run _ => False

/-- Reading a session is an operation within it. -/
theorem Reads.within {root : Path} {sessionId : SessionId} {op : FilesystemOp J}
    (h : Reads root sessionId op) : Within root sessionId op := by
  cases op with
  | lock => trivial
  | pathExists path => exact h
  | run call =>
      cases call with
      | read path => exact h
      | createDirAll | write | removeFile | rename => exact h.elim

variable {allowed : FilesystemOp J → Prop}

/-- An operation issues itself. -/
theorem uses_ask {op : FilesystemOp J} (h : allowed op) :
    Prog.Uses allowed (ask op : FilesystemM J _).run :=
  Prog.uses_map _ (Prog.uses_request h)

/-- A call on files issues itself. -/
theorem uses_execute {context : String} {call : FileCall J} (h : allowed (.run call)) :
    Prog.Uses allowed (execute context call).run :=
  Prog.uses_map _ (Prog.uses_request h)

/-- Taking the lock issues nothing else. -/
theorem uses_lock (h : allowed .lock) : Prog.Uses allowed (lock : FilesystemM J Unit).run := by
  refine Prog.uses_except_bind (uses_ask h) fun poisoned => ?_
  cases poisoned with
  | true => exact Prog.uses_pure _
  | false => exact Prog.uses_pure _

/-- A pure check issues nothing. -/
theorem uses_check {α : Type} (result : Except MemoryError α) :
    Prog.Uses allowed (liftM result : FilesystemM J α).run := by
  cases result with
  | ok value => exact Prog.uses_pure _
  | error error => exact Prog.uses_pure _

variable {json : StateJson J} {root : Path} {sessionId : SessionId}

/-- Loading a session looks at its session file. -/
theorem loadState_uses : Prog.Uses (Reads root sessionId) (loadState json root sessionId).run := by
  have hpath : sessionPath root sessionId ∈ sessionPaths root sessionId := List.mem_cons_self
  refine Prog.uses_except_bind (uses_ask hpath) fun found => ?_
  cases found with
  | false => exact Prog.uses_pure _
  | true =>
      refine Prog.uses_except_bind (uses_execute hpath) fun bytes => ?_
      exact Prog.uses_except_bind (uses_check _) fun state => Prog.uses_pure _

/-- Saving a session touches its two files. -/
theorem saveState_uses {state : PersistedState} :
    Prog.Uses (Within root sessionId) (saveState json root sessionId state).run := by
  have hpath : sessionPath root sessionId ∈ sessionPaths root sessionId := List.mem_cons_self
  have htmp : temporaryPath (sessionPath root sessionId) ∈ sessionPaths root sessionId :=
    List.mem_cons_of_mem _ List.mem_cons_self
  have hparent : (sessionPath root sessionId).dropLast = root ++ ["sessions"] := by
    simp [sessionPath]
  have hne : sessionPath root sessionId ≠ [] := by simp [sessionPath]
  refine Prog.uses_except_bind (uses_check _) fun bytes => ?_
  rw [writeAtomic, if_neg hne]
  refine Prog.uses_except_bind (uses_execute hparent) fun _ => ?_
  refine Prog.uses_except_bind (uses_execute htmp) fun _ => ?_
  refine Prog.uses_except_bind (uses_ask hpath) fun found => ?_
  cases found with
  | false => exact uses_execute ⟨htmp, hpath⟩
  | true =>
      exact Prog.uses_except_bind (uses_execute hpath) fun _ => uses_execute ⟨htmp, hpath⟩

/-- An update stays within its session. -/
theorem updateState_uses {change : PersistedState → Except MemoryError PersistedState} :
    Prog.Uses (Within root sessionId) (updateState json root sessionId change).run := by
  refine Prog.uses_except_bind (uses_lock trivial) fun _ => ?_
  refine Prog.uses_except_bind (loadState_uses.mono fun _ => Reads.within) fun found => ?_
  exact Prog.uses_except_bind (uses_check _) fun state => saveState_uses

/-- So does an initialization. -/
theorem initializeSession_uses {manifest : SessionManifest} {features : List FeatureRecord}
    {entry : Option ProgressEntry} {checkpoint : Option RunCheckpoint} :
    Prog.Uses (Within root sessionId)
      (initializeSessionIfMissing json root sessionId manifest features entry checkpoint).run := by
  refine Prog.uses_except_bind (uses_lock trivial) fun _ => ?_
  refine Prog.uses_except_bind (loadState_uses.mono fun _ => Reads.within) fun found => ?_
  dsimp only
  split
  · exact Prog.uses_pure _
  · refine Prog.uses_except_bind (uses_check _) fun state => ?_
    exact Prog.uses_except_bind saveState_uses fun _ => Prog.uses_pure _

/-- The operations that only load. -/
def IsLoad : MemoryOp → Prop
  | .isInitialized _ | .loadBootstrapState _ | .loadTranscriptMessages _ => True
  | _ => False

/-- A load looks at the files of its session. -/
theorem load_uses {op : MemoryOp} (h : IsLoad op) :
    Prog.Uses (Reads root op.sessionId) (operation json root op).run := by
  have hloads {α : Type} {f : Option PersistedState → FilesystemM J α}
      (hf : ∀ found, Prog.Uses (Reads root op.sessionId) (f found).run) :
      Prog.Uses (Reads root op.sessionId)
        (lock >>= fun _ => loadState json root op.sessionId >>= f).run :=
    Prog.uses_except_bind (uses_lock trivial) fun _ => Prog.uses_except_bind loadState_uses hf
  cases op with
  | isInitialized sessionId => exact hloads fun _ => Prog.uses_pure _
  | loadBootstrapState sessionId =>
      refine hloads fun found => ?_
      cases found with
      | none => exact Prog.uses_pure _
      | some state => exact uses_check _
  | loadTranscriptMessages sessionId =>
      refine hloads fun found => ?_
      cases found with
      | none => exact Prog.uses_pure _
      | some state => exact uses_check _
  | _ => exact h.elim

/-- An operation touches the files of its session. -/
theorem operation_uses (op : MemoryOp) :
    Prog.Uses (Within root op.sessionId) (operation json root op).run := by
  have hload (hop : IsLoad op) :
      Prog.Uses (Within root op.sessionId) (operation json root op).run :=
    (load_uses hop).mono fun _ => Reads.within
  cases op with
  | isInitialized | loadBootstrapState | loadTranscriptMessages => exact hload trivial
  | initializeSessionIfMissing => exact initializeSession_uses
  | saveManifest | appendProgressEntry | replaceFeatureList | updateFeaturePass
  | recordRunCheckpoint | appendTranscriptMessages => exact updateState_uses

end

/-! ## Isolation -/

section

variable {J : Type} {locate : Path → Path} {root : Path} {first second : SessionId}

/-- Two states of the files hold the same at the places of some paths. -/
def SameAt (locate : Path → Path) (paths : List Path) (files files' : Files J) : Prop :=
  ∀ path ∈ paths, files (locate path) = files' (locate path)

/-- The places of the files of two sessions are different. -/
def Apart (locate : Path → Path) (root : Path) (first second : SessionId) : Prop :=
  ∀ path ∈ sessionPaths root first, ∀ other ∈ sessionPaths root second,
    locate path ≠ locate other

/-- A call on the files of one session changes none of another. -/
theorem runAt_sameAt (hapart : Apart locate root first second) (files : Files J)
    {call : FileCall J} (hcall : Within root first (.run call)) :
    SameAt locate (sessionPaths root second) files (call.runAt locate files).2 := by
  intro other hother
  have hupdate {path : Path} (hpath : path ∈ sessionPaths root first) (files : Files J)
      (content : Option J) :
      Function.update files (locate path) content (locate other) = files (locate other) :=
    Function.update_of_ne (hapart path hpath other hother).symm _ _
  cases call with
  | createDirAll path => rfl
  | read path =>
      rw [FileCall.runAt, FileCall.run.eq_def]
      dsimp only
      split
      · rfl
      · rfl
  | write path bytes => exact (hupdate hcall files _).symm
  | removeFile path =>
      rw [FileCall.runAt, FileCall.run.eq_def]
      dsimp only
      split
      · exact (hupdate hcall files _).symm
      · rfl
  | rename source target =>
      rw [FileCall.runAt, FileCall.run.eq_def]
      dsimp only
      split
      · exact ((hupdate hcall.2 _ _).trans (hupdate hcall.1 _ _)).symm
      · rfl

/-- The file system does not change the files of one session for an operation on another. -/
theorem FileAct.sameAt (hapart : Apart locate root first second) {files files' : Files J}
    {e : Event (FilesystemSig J)} (hop : Within root first e.op)
    (hact : FileAct locate files e files') :
    SameAt locate (sessionPaths root second) files files' := by
  cases hact with
  | lock | tested | untested | failed => exact fun _ _ => rfl
  | done h =>
      have hsame := runAt_sameAt hapart files hop
      rw [h] at hsame
      exact hsame

/-- To have the same files at some paths is transitive. -/
theorem SameAt.trans {paths : List Path} {files files' files'' : Files J}
    (h : SameAt locate paths files files') (h' : SameAt locate paths files' files'') :
    SameAt locate paths files files'' :=
  fun path hpath => (h path hpath).trans (h' path hpath)

/-- No run of an operation on one session changes the files of another. -/
theorem operation_sameAt (hapart : Apart locate root first second) {json : StateJson J}
    {op : MemoryOp} (hop : op.sessionId = first) {files files' : Files J} {rest}
    (hsteps : Prog.Steps (FileAct locate) (operation json root op).run files rest files') :
    SameAt locate (sessionPaths root second) files files' := by
  subst hop
  refine (operation_uses op).invariant (I := fun files' =>
    SameAt locate (sessionPaths root second) files files') ?_ hsteps (fun _ _ => rfl)
  exact fun _ _ _ hallowed hact hsame => hsame.trans (hact.sameAt hapart hallowed)

/-- Looking at files that are the same gives the same answers. -/
theorem answerAt_reads {op : FilesystemOp J} {files other : Files J} (hop : Reads root second op)
    (hsame : SameAt locate (sessionPaths root second) files other) :
    (answerAt locate op files).1 = (answerAt locate op other).1 ∧
      SameAt locate (sessionPaths root second) (answerAt locate op files).2
        (answerAt locate op other).2 := by
  cases op with
  | lock => exact ⟨rfl, hsame⟩
  | pathExists path =>
      have hplace := hsame path hop
      exact ⟨congrArg Option.isSome hplace, hsame⟩
  | run call =>
      cases call with
      | read path =>
          have hplace := hsame path hop
          rw [answerAt, answerAt, FileCall.runAt, FileCall.runAt, FileCall.run.eq_def,
            FileCall.run.eq_def]
          dsimp only
          rw [← hplace]
          split
          · exact ⟨rfl, hsame⟩
          · exact ⟨rfl, hsame⟩
      | createDirAll | write | removeFile | rename => exact hop.elim

/-- What a read of a session may answer depends only on the files of that session. -/
theorem FileAct.reads {files other files' : Files J} {e : Event (FilesystemSig J)}
    (hop : Reads root second e.op) (hsame : SameAt locate (sessionPaths root second) files other)
    (hact : FileAct locate files e files') :
    ∃ other', FileAct locate other e other' ∧
      SameAt locate (sessionPaths root second) files' other' := by
  cases hact with
  | lock poisoned => exact ⟨other, .lock other poisoned, hsame⟩
  | tested path =>
      refine ⟨other, ?_, hsame⟩
      rw [hsame path hop]
      exact .tested other path
  | untested path => exact ⟨other, .untested other path, hsame⟩
  | failed call error => exact ⟨other, .failed other call error, hsame⟩
  | @done _ call result h =>
      obtain ⟨hanswer, hafter⟩ := answerAt_reads hop hsame
      dsimp only [answerAt] at hanswer hafter
      rw [h] at hanswer hafter
      exact ⟨(call.runAt locate other).2, .done (Prod.ext hanswer.symm rfl), hafter⟩

/-- To have the same files at some paths is symmetric. -/
theorem SameAt.symm {paths : List Path} {files files' : Files J}
    (h : SameAt locate paths files files') : SameAt locate paths files' files :=
  fun path hpath => (h path hpath).symm

/-- A load returns the same from two states of the files: whatever fails, it can return the same
results, and it returns the same if nothing fails. -/
def SameLoads (locate : Path → Path) (json : StateJson J) (root : Path) (load : MemoryOp)
    (files files' : Files J) : Prop :=
  (∀ result,
    (∃ after, Prog.Steps (FileAct locate) (operation json root load).run files
      (.pure result) after) ↔
    ∃ after, Prog.Steps (FileAct locate) (operation json root load).run files'
      (.pure result) after) ∧
  (Prog.run (answerAt locate) (operation json root load).run files).1 =
    (Prog.run (answerAt locate) (operation json root load).run files').1

/-- A load depends on the files of its session only. -/
theorem SameAt.sameLoads {json : StateJson J} {load : MemoryOp} (hload : IsLoad load)
    {files files' : Files J}
    (h : SameAt locate (sessionPaths root load.sessionId) files files') :
    SameLoads locate json root load files files' := by
  have hreturns {files files' : Files J} {result : Except MemoryError load.Value}
      (h : SameAt locate (sessionPaths root load.sessionId) files files') :
      (∃ after, Prog.Steps (FileAct locate) (operation json root load).run files
        (.pure result) after) →
      ∃ after, Prog.Steps (FileAct locate) (operation json root load).run files'
        (.pure result) after := by
    intro hreturned
    obtain ⟨after, hsteps⟩ := hreturned
    obtain ⟨after', hsteps', -⟩ := (load_uses hload).simulates
      (fun hop hsame hact => hact.reads hop hsame) hsteps h
    exact ⟨after', hsteps'⟩
  exact ⟨fun result => ⟨hreturns h, hreturns h.symm⟩,
    (load_uses hload).run_eq (fun hop hsame => answerAt_reads hop hsame) h⟩

end

/-- Sessions are isolated. The paths of a session are those of files in the directory of the
sessions, on no file system is one of them a path of another session, and at no point of an
operation on one session does a load of another return anything else. -/
theorem sessions_isolated (folding : NameFolding) (root : Path) {first second : SessionId}
    (hne : first ≠ second) :
    (∀ sessionId, ∀ path ∈ sessionPaths root sessionId,
      ∃ name, IsFileName name ∧ path = root ++ ["sessions"] ++ [name]) ∧
    Apart folding.locate root first second ∧
    ∀ (J : Type) (json : StateJson J) (op load : MemoryOp), op.sessionId = first →
      load.sessionId = second → IsLoad load →
      Prog.Uses (Within root first) (operation json root op).run ∧
      ∀ (files files' : Files J) rest,
        Prog.Steps (FileAct folding.locate) (operation json root op).run files rest files' →
        SameLoads folding.locate json root load files files' := by
  have hapart : Apart folding.locate root first second :=
    fun path hpath other hother => sessionPaths_apart folding root hne hpath hother
  refine ⟨fun sessionId path hpath => ?_, hapart, fun J json op load hop hload hloads => ?_⟩
  · rw [sessionPaths_eq] at hpath
    obtain ⟨name, hname, rfl⟩ := List.mem_map.mp hpath
    exact ⟨name, sessionNames_isFileName hname, rfl⟩
  · refine ⟨hop ▸ operation_uses op, fun files files' rest hsteps => ?_⟩
    have hsame := operation_sameAt hapart hop hsteps
    subst hload
    exact hsame.sameLoads hloads

/-- Saving a manifest of the session with the empty id, where case is ignored. -/
theorem sessions_isolated_empty_id :
    SameLoads NameFolding.caseInsensitive.locate StateJson.plain ["data"]
      (.loadBootstrapState ⟨"../E\u0301"⟩) (fun _ => none)
      (Prog.run (answerAt NameFolding.caseInsensitive.locate)
        (operation StateJson.plain ["data"] (.saveManifest ⟨""⟩
          (.new ⟨""⟩ "main" "objective"))).run fun _ => none).2 :=
  ((sessions_isolated NameFolding.caseInsensitive ["data"] (by decide)).2.2 PersistedState
    StateJson.plain (.saveManifest ⟨""⟩ (.new ⟨""⟩ "main" "objective"))
    (.loadBootstrapState ⟨"../E\u0301"⟩) rfl rfl trivial).2 _ _ _
    (Prog.Steps.of_run (answerAt_act _) _ _)

end Fiddlesticks.Memory.Filesystem
