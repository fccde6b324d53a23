import Fiddlesticks.Memory.Operations
import Fiddlesticks.Memory.Persisted

/-!
# Documents of session states

The document that a session state is written as, record by record. The decoders read back what the
encoders write and accept nothing else, so a document represents a state exactly when the state is
written as that document.
-/

namespace Fiddlesticks.Memory

open Provider

/-! ## Codecs -/

/-- A timestamp that is read was written like that. -/
theorem encodeSystemTime_of_decode {value : SystemTime} {seconds nanos : Int64}
    (h : decodeSystemTime seconds nanos = .ok value) :
    encodeSystemTime value = .ok (seconds, nanos) := by
  rw [decodeSystemTime] at h
  split at h
  · cases h
  · rename_i hsecs
    split at h
    · rename_i hnanos
      cases h
      rw [encodeSystemTime, if_neg hsecs]
      have hsame : Int64.ofNat nanos.toInt.toNat = nanos := by
        rw [← Int64.toInt_inj, Int64.toInt_ofNat_of_lt (by omega), Int.toNat_of_nonneg hnanos.1]
      rw [hsame]
    · cases h

/-- A run status is read from its own text only. -/
theorem runStatusFromStr_eq_ok {value : String} {status : RunStatus} :
    runStatusFromStr value = .ok status ↔ runStatusToStr status = value := by
  constructor
  · intro h
    unfold runStatusFromStr at h
    split at h <;> cases h <;> rfl
  · rintro rfl
    exact runStatusFromStr_toStr status

/-- A shell is read from its own text only. -/
theorem initShellFromStr_eq_ok {value : String} {name : InitShell} :
    initShellFromStr value = .ok name ↔ initShellToStr name = value := by
  constructor
  · intro h
    unfold initShellFromStr at h
    split at h <;> cases h <;> rfl
  · rintro rfl
    exact initShellFromStr_toStr name

/-- A role is read from its own text only. -/
theorem roleFromStr_eq_ok {value : String} {role : Role} :
    roleFromStr value = .ok role ↔ roleToStr role = value := by
  constructor
  · intro h
    unfold roleFromStr at h
    split at h <;> cases h <;> rfl
  · rintro rfl
    exact roleFromStr_toStr role

/-! ## Records -/

/-- A composition succeeds when both of its parts do. -/
theorem bind_eq_ok {ε A B : Type} {first : Except ε A} {rest : A → Except ε B} {result : B} :
    (first >>= rest) = .ok result ↔ ∃ value, first = .ok value ∧ rest value = .ok result := by
  cases first with
  | error error => exact iff_of_false nofun fun ⟨value, hvalue, _⟩ => nomatch hvalue
  | ok value => exact ⟨fun h => ⟨value, rfl, h⟩, fun ⟨_, hvalue, h⟩ => Except.ok.inj hvalue ▸ h⟩

/-- A list is read as the values of its items. -/
theorem mapM_eq_ok {A P : Type} {decode : P → Except MemoryError A}
    {encode : A → Except MemoryError P}
    (h : ∀ item value, decode item = .ok value → encode value = .ok item) {items : List P}
    {values : List A} (hitems : items.mapM decode = .ok values) :
    values.mapM encode = .ok items := by
  induction items generalizing values with
  | nil =>
      cases hitems
      rfl
  | cons item items ih =>
      rw [List.mapM_cons, bind_eq_ok] at hitems
      obtain ⟨value, hvalue, hitems⟩ := hitems
      obtain ⟨rest, hrest, hvalues⟩ := bind_eq_ok.mp hitems
      cases hvalues
      rw [List.mapM_cons, h item value hvalue, ih hrest]
      rfl

/-- An optional value is read as the value it was written from. -/
theorem mapM_option_eq_ok {A P : Type} {decode : P → Except MemoryError A}
    {encode : A → Except MemoryError P}
    (h : ∀ item value, decode item = .ok value → encode value = .ok item) {item : Option P}
    {value : Option A} (hitem : item.mapM decode = .ok value) : value.mapM encode = .ok item := by
  cases item with
  | none =>
      cases hitem
      rfl
  | some item =>
      rw [Option.mapM_some, map_eq_pure_bind, bind_eq_ok] at hitem
      obtain ⟨decoded, hdecoded, hvalue⟩ := hitem
      cases hvalue
      rw [Option.mapM_some, h item decoded hdecoded]
      rfl

/-- A step that was read is written as it was. -/
theorem PersistedInitStep.from_into {persisted : PersistedInitStep} {step : InitStep}
    (h : persisted.intoInitStep = .ok step) : fromInitStep step = .ok persisted := by
  cases persisted with
  | command program args =>
      cases h
      rfl
  | shell name script =>
      obtain ⟨value, hvalue, hstep⟩ := bind_eq_ok.mp h
      cases hstep
      rw [fromInitStep, initShellFromStr_eq_ok.mp hvalue]

/-- A plan that was read is written as it was. -/
theorem PersistedInitPlan.from_into {persisted : PersistedInitPlan} {plan : InitPlan}
    (h : persisted.intoInitPlan = .ok plan) : fromInitPlan plan = .ok persisted := by
  obtain ⟨steps, hsteps, hplan⟩ := bind_eq_ok.mp h
  cases hplan
  rw [fromInitPlan, mapM_eq_ok (fun _ _ => PersistedInitStep.from_into) hsteps]
  rfl

/-- A manifest that was read is written as it was and is that of its session. -/
theorem PersistedManifest.from_into {persisted : PersistedManifest} {sessionId : SessionId}
    {manifest : SessionManifest} (h : persisted.intoManifest sessionId = .ok manifest) :
    fromManifest manifest = .ok persisted ∧ manifest.sessionId = sessionId := by
  obtain ⟨plan, hplan, hmanifest⟩ := bind_eq_ok.mp h
  cases hmanifest
  refine ⟨?_, rfl⟩
  rw [fromManifest, mapM_option_eq_ok (fun _ _ => PersistedInitPlan.from_into) hplan]
  rfl

/-- A progress entry that was read is written as it was. -/
theorem PersistedProgressEntry.from_into {persisted : PersistedProgressEntry}
    {entry : ProgressEntry} (h : persisted.intoEntry = .ok entry) :
    fromEntry entry = .ok persisted := by
  obtain ⟨time, htime, hentry⟩ := bind_eq_ok.mp h
  cases hentry
  rw [fromEntry, encodeSystemTime_of_decode htime]
  rfl

/-- A checkpoint that was read is written as it was. -/
theorem PersistedRunCheckpoint.from_into {persisted : PersistedRunCheckpoint}
    {checkpoint : RunCheckpoint} (h : persisted.intoCheckpoint = .ok checkpoint) :
    fromCheckpoint checkpoint = .ok persisted := by
  obtain ⟨runId, startedSecs, startedNanos, completedSecs, completedNanos, status, note⟩ :=
    persisted
  -- Whatever the completion is read as, the rest of the record is read in the same way.
  have hrest {completedAt : Option SystemTime} (h : (do
      let startedAt ← decodeSystemTime startedSecs startedNanos
      let value ← runStatusFromStr status
      return (⟨runId, startedAt, completedAt, value, note⟩ : RunCheckpoint)) = .ok checkpoint) :
      ∃ startedAt value, checkpoint = ⟨runId, startedAt, completedAt, value, note⟩ ∧
        encodeSystemTime startedAt = .ok (startedSecs, startedNanos) ∧
        runStatusToStr value = status := by
    obtain ⟨startedAt, hstarted, h⟩ := bind_eq_ok.mp h
    obtain ⟨value, hvalue, h⟩ := bind_eq_ok.mp h
    cases h
    exact ⟨startedAt, value, rfl, encodeSystemTime_of_decode hstarted,
      runStatusFromStr_eq_ok.mp hvalue⟩
  rw [intoCheckpoint] at h
  cases completedSecs with
  | none =>
      cases completedNanos with
      | none =>
          obtain ⟨startedAt, value, rfl, hstarted, rfl⟩ := hrest h
          simp only [fromCheckpoint, hstarted]
          rfl
      | some nanos => cases h
  | some secs =>
      cases completedNanos with
      | none => cases h
      | some nanos =>
          obtain ⟨completedAt, hcompleted, h⟩ := bind_eq_ok.mp h
          obtain ⟨startedAt, value, rfl, hstarted, rfl⟩ := hrest h
          simp only [fromCheckpoint, hstarted, encodeSystemTime_of_decode hcompleted]
          rfl

/-- A message that was read is written as it was. -/
theorem PersistedMessage.from_into {persisted : PersistedMessage} {message : Message}
    (h : persisted.intoMessage = .ok message) : fromMessage message = persisted := by
  obtain ⟨role, hrole, hmessage⟩ := bind_eq_ok.mp h
  cases hmessage
  rw [fromMessage, roleFromStr_eq_ok.mp hrole]

/-! ## What can be written -/

/-- A list is written when all of its items are. -/
theorem mapM_ok {A P : Type} {encode : A → Except MemoryError P} {values : List A}
    (h : ∀ value ∈ values, ∃ item, encode value = .ok item) :
    ∃ items, values.mapM encode = .ok items := by
  induction values with
  | nil => exact ⟨[], rfl⟩
  | cons value values ih =>
      obtain ⟨item, hitem⟩ := h value List.mem_cons_self
      obtain ⟨items, hitems⟩ := ih fun other hother => h other (.tail _ hother)
      refine ⟨item :: items, ?_⟩
      rw [List.mapM_cons, hitem, hitems]
      rfl

/-- An optional value is written when it can be. -/
theorem mapM_option_ok {A P : Type} {encode : A → Except MemoryError P} {value : Option A}
    (h : ∀ inner ∈ value, ∃ item, encode inner = .ok item) :
    ∃ item, value.mapM encode = .ok item := by
  cases value with
  | none => exact ⟨none, rfl⟩
  | some inner =>
      obtain ⟨item, hitem⟩ := h inner rfl
      rw [Option.mapM_some, hitem]
      exact ⟨_, rfl⟩

/-- Every manifest can be written. -/
theorem PersistedManifest.fromManifest_ok (manifest : SessionManifest) :
    ∃ persisted, fromManifest manifest = .ok persisted := by
  obtain ⟨persisted, hfrom, -⟩ := into_from manifest.sessionId manifest
  exact ⟨persisted, hfrom⟩

/-- A progress entry can be written unless its time is before the epoch. -/
theorem PersistedProgressEntry.fromEntry_ok {entry : ProgressEntry}
    (h : ∀ time ∈ entry.timestamps, time.AfterEpoch) :
    ∃ persisted, fromEntry entry = .ok persisted := by
  rw [fromEntry, encodeSystemTime_eq (h entry.createdAt (List.mem_singleton_self _))]
  exact ⟨_, rfl⟩

/-- A checkpoint can be written unless a time of it is before the epoch. -/
theorem PersistedRunCheckpoint.fromCheckpoint_ok {checkpoint : RunCheckpoint}
    (h : ∀ time ∈ checkpoint.timestamps, time.AfterEpoch) :
    ∃ persisted, fromCheckpoint checkpoint = .ok persisted := by
  have hstarted := encodeSystemTime_eq (h checkpoint.startedAt List.mem_cons_self)
  cases hcompleted : checkpoint.completedAt with
  | none =>
      rw [fromCheckpoint, hstarted, hcompleted]
      exact ⟨_, rfl⟩
  | some completedAt =>
      have htime := encodeSystemTime_eq
        (h completedAt (List.mem_cons_of_mem _ (by simp [hcompleted])))
      simp only [fromCheckpoint, hstarted, hcompleted, htime]
      exact ⟨_, rfl⟩

/-- A session with encodable timestamps can be initialized. -/
theorem PersistedState.initializeSession_ok (document : PersistedState)
    (manifest : SessionManifest) (featureList : List FeatureRecord) {entry : Option ProgressEntry}
    {checkpoint : Option RunCheckpoint}
    (h : ∀ time ∈ entry.toList.flatMap ProgressEntry.timestamps ++
      checkpoint.toList.flatMap RunCheckpoint.timestamps, time.AfterEpoch) :
    ∃ changed, initializeSession manifest featureList entry checkpoint document = .ok changed := by
  obtain ⟨persisted, hfrom⟩ := PersistedManifest.fromManifest_ok manifest
  obtain ⟨entries, hentry⟩ := mapM_option_ok fun value hvalue =>
    PersistedProgressEntry.fromEntry_ok fun time (htime : time ∈ value.timestamps) => h time
      (List.mem_append_left _ (List.mem_flatMap.mpr ⟨value, Option.mem_toList.mpr hvalue, htime⟩))
  obtain ⟨checkpoints, hcheckpoint⟩ := mapM_option_ok fun value hvalue =>
    PersistedRunCheckpoint.fromCheckpoint_ok fun time (htime : time ∈ value.timestamps) => h time
      (List.mem_append_right _ (List.mem_flatMap.mpr ⟨value, Option.mem_toList.mpr hvalue, htime⟩))
  rw [initializeSession, hfrom, hentry, hcheckpoint]
  exact ⟨_, rfl⟩

/-! ## States -/

/-- The document that a session state is written as. -/
def SessionState.encode (state : SessionState) : Except MemoryError PersistedState := do
  let manifest ← state.manifest.mapM PersistedManifest.fromManifest
  let recentProgress ← state.progress.mapM PersistedProgressEntry.fromEntry
  let checkpoints ← state.checkpoints.mapM PersistedRunCheckpoint.fromCheckpoint
  return { manifest, featureList := state.featureList.map .fromFeatureRecord, recentProgress,
           checkpoints, transcript := state.transcript.map .fromMessage }

/-- The timestamps of a session state. -/
def SessionState.timestamps (state : SessionState) : List SystemTime :=
  state.progress.flatMap ProgressEntry.timestamps ++
    state.checkpoints.flatMap RunCheckpoint.timestamps

variable {document : PersistedState} {sessionId : SessionId} {state : SessionState}

/-- Messages are written as what they were read from. -/
theorem map_fromMessage_eq {persisted : List PersistedMessage} {messages : List Message}
    (h : persisted.mapM (·.intoMessage) = .ok messages) :
    messages.map .fromMessage = persisted := by
  have hwritten : messages.mapM (fun message => (.ok (.fromMessage message) :
      Except MemoryError PersistedMessage)) = .ok persisted :=
    mapM_eq_ok (fun _ _ h => congrArg Except.ok (PersistedMessage.from_into h)) h
  exact Except.ok.inj (List.mapM_pure.symm.trans hwritten)

/-- A state is written as the document that it was read from. -/
theorem PersistedState.Represents.encode (h : document.Represents sessionId state) :
    state.encode = .ok document ∧ ∀ manifest ∈ state.manifest, manifest.sessionId = sessionId := by
  obtain ⟨hmanifest, hfeatures, hprogress, hcheckpoints, htranscript⟩ := represents_iff.mp h
  refine ⟨?_, fun manifest hmem => ?_⟩
  · have hsame : state.featureList.map .fromFeatureRecord = document.featureList := by
      rw [← hfeatures, List.map_map]
      exact List.map_id _
    rw [SessionState.encode, mapM_option_eq_ok (fun _ _ h => (PersistedManifest.from_into h).1)
      hmanifest, mapM_eq_ok (fun _ _ => PersistedProgressEntry.from_into) hprogress,
      mapM_eq_ok (fun _ _ => PersistedRunCheckpoint.from_into) hcheckpoints, hsame,
      map_fromMessage_eq htranscript]
    rfl
  · cases hdocument : document.manifest with
    | none =>
        rw [hdocument] at hmanifest
        rw [← Except.ok.inj hmanifest] at hmem
        cases hmem
    | some persisted =>
        rw [hdocument, Option.mapM_some, map_eq_pure_bind] at hmanifest
        obtain ⟨decoded, hdecoded, hstate⟩ := bind_eq_ok.mp hmanifest
        rw [← Except.ok.inj hstate] at hmem
        cases hmem
        exact (PersistedManifest.from_into hdecoded).2

/-- A state is read from the document that it is written as. -/
theorem PersistedState.represents_of_encode (h : state.encode = .ok document)
    (hkey : ∀ manifest ∈ state.manifest, manifest.sessionId = sessionId) :
    document.Represents sessionId state := by
  obtain ⟨manifest, hmanifest, h⟩ := bind_eq_ok.mp h
  obtain ⟨progress, hprogress, h⟩ := bind_eq_ok.mp h
  obtain ⟨checkpoints, hcheckpoints, h⟩ := bind_eq_ok.mp h
  cases h
  refine represents_iff.mpr ⟨?_, ?_, mapM_eq_ok (fun _ _ => PersistedProgressEntry.into_from)
    hprogress, mapM_eq_ok (fun _ _ => PersistedRunCheckpoint.into_from) hcheckpoints, ?_⟩
  · cases hstate : state.manifest with
    | none =>
        rw [hstate] at hmanifest
        cases hmanifest
        rfl
    | some original =>
        obtain rfl := hkey original hstate
        obtain ⟨persisted, hfrom, hinto⟩ := PersistedManifest.into_from original.sessionId original
        rw [hstate, Option.mapM_some, hfrom] at hmanifest
        cases hmanifest
        rw [Option.mapM_some, hinto]
        rfl
  · rw [List.map_map]
    exact List.map_id _
  · refine mapM_eq_ok (fun message persisted h => ?_)
      (List.mapM_pure (f := PersistedMessage.fromMessage))
    cases h
    exact PersistedMessage.into_from message

/-- A document represents exactly the states that are written as it. -/
theorem PersistedState.represents_iff_encode : document.Represents sessionId state ↔
    state.encode = .ok document ∧
      ∀ manifest ∈ state.manifest, manifest.sessionId = sessionId :=
  ⟨Represents.encode, fun h => represents_of_encode h.1 h.2⟩

/-- A state whose timestamps are not before the epoch can be written. -/
theorem SessionState.encode_ok (h : ∀ time ∈ state.timestamps, time.AfterEpoch) :
    ∃ document, state.encode = .ok document := by
  obtain ⟨manifest, hmanifest⟩ := mapM_option_ok fun manifest (_ : manifest ∈ state.manifest) =>
    PersistedManifest.fromManifest_ok manifest
  obtain ⟨progress, hprogress⟩ := mapM_ok fun entry hentry =>
    PersistedProgressEntry.fromEntry_ok fun time htime => h time
      (List.mem_append_left _ (List.mem_flatMap.mpr ⟨entry, hentry, htime⟩))
  obtain ⟨checkpoints, hcheckpoints⟩ := mapM_ok fun checkpoint hcheckpoint =>
    PersistedRunCheckpoint.fromCheckpoint_ok fun time htime => h time
      (List.mem_append_right _ (List.mem_flatMap.mpr ⟨checkpoint, hcheckpoint, htime⟩))
  rw [encode, hmanifest, hprogress, hcheckpoints]
  exact ⟨_, rfl⟩

/-- The decoders of statuses, shells, roles and timestamps accept exactly what the encoders write,
and so does loading a document. -/
structure DecodersInvertEncoders : Prop where
  status : ∀ value status, runStatusFromStr value = .ok status ↔ runStatusToStr status = value
  initShell : ∀ value name, initShellFromStr value = .ok name ↔ initShellToStr name = value
  role : ∀ value role, roleFromStr value = .ok role ↔ roleToStr role = value
  systemTime : ∀ seconds nanos value, decodeSystemTime seconds nanos = .ok value ↔
    encodeSystemTime value = .ok (seconds, nanos)
  document : ∀ (document : PersistedState) sessionId state, document.Represents sessionId state ↔
    state.encode = .ok document ∧ ∀ manifest ∈ state.manifest, manifest.sessionId = sessionId

/-- Each decoder inverts its encoder. -/
theorem decoders_invert_encoders : DecodersInvertEncoders where
  status _ _ := runStatusFromStr_eq_ok
  initShell _ _ := initShellFromStr_eq_ok
  role _ _ := roleFromStr_eq_ok
  systemTime _ _ _ := ⟨encodeSystemTime_of_decode, decodeSystemTime_of_encode⟩
  document _ _ _ := PersistedState.represents_iff_encode

end Fiddlesticks.Memory
