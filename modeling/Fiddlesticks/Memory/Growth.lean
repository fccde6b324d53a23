import Mathlib.Data.List.Forall2
import Fiddlesticks.Memory.Backend

/-!
# Sessions that only advance

What a session may become when nobody overwrites its manifest or its feature list and passes are
only ever set: the installed manifest and the features stay, passing features keep passing, and
progress and checkpoints grow at their ends. `SessionState.Advances` is that preorder, and every
monotone operation of a backend respects it.
-/

namespace Fiddlesticks.Memory

/-! ## Features -/

namespace FeatureRecord

/-- What never changes about a feature: all of it but whether it passes. -/
def content (feature : FeatureRecord) : FeatureRecord :=
  { feature with passes := false }

/-- The same feature, which still passes if it passed. -/
def Advances (feature feature' : FeatureRecord) : Prop :=
  feature'.content = feature.content ∧ (feature.passes → feature'.passes)

/-- A feature advances to itself. -/
theorem Advances.refl (feature : FeatureRecord) : feature.Advances feature :=
  ⟨rfl, fun hpasses => hpasses⟩

/-- Growth is transitive. -/
theorem Advances.trans {first second third : FeatureRecord} (h : first.Advances second)
    (h' : second.Advances third) : first.Advances third :=
  ⟨h'.1.trans h.1, fun hpasses => h'.2 (h.2 hpasses)⟩

end FeatureRecord

/-- Every feature of a list advances. -/
abbrev FeaturesAdvance : List FeatureRecord → List FeatureRecord → Prop :=
  List.Forall₂ FeatureRecord.Advances

/-- Features advance to themselves. -/
theorem features_advance_refl (features : List FeatureRecord) :
    FeaturesAdvance features features :=
  List.forall₂_same.mpr fun feature _ => .refl feature

/-- Features advance step by step. -/
theorem features_advance_trans {first second third : List FeatureRecord}
    (h : FeaturesAdvance first second) (h' : FeaturesAdvance second third) :
    FeaturesAdvance first third := by
  induction h generalizing third with
  | nil => exact h'
  | cons hhead _ ih =>
      cases h' with
      | cons hhead' htail' => exact .cons (hhead.trans hhead') (ih htail')

/-- The contents of an advancing list are fixed. -/
theorem features_advance_content {features features' : List FeatureRecord}
    (h : FeaturesAdvance features features') :
    features'.map FeatureRecord.content = features.map FeatureRecord.content := by
  induction h with
  | nil => rfl
  | cons hhead _ ih => rw [List.map_cons, List.map_cons, hhead.1, ih]

/-- The feature at a position of an advancing list has advanced. -/
theorem features_advance_at {features features' : List FeatureRecord}
    (h : FeaturesAdvance features features') {k : Nat} {feature : FeatureRecord}
    (hk : features[k]? = some feature) :
    ∃ feature', features'[k]? = some feature' ∧ feature.Advances feature' := by
  induction h generalizing k with
  | nil => cases hk
  | cons hhead _ ih =>
      cases k with
      | zero =>
          cases hk
          exact ⟨_, rfl, hhead⟩
      | succ k => exact ih hk

/-- Once all features pass, all features pass. -/
theorem features_advance_all {features features' : List FeatureRecord}
    (h : FeaturesAdvance features features') (hne : features ≠ [])
    (hall : ∀ feature ∈ features, feature.passes) :
    features' ≠ [] ∧ ∀ feature ∈ features', feature.passes := by
  refine ⟨fun hnil => hne (List.forall₂_nil_right_iff.mp (hnil ▸ h)), ?_⟩
  clear hne
  induction h with
  | nil => simp
  | cons hhead _ ih =>
      obtain ⟨hfirst, hrest⟩ := List.forall_mem_cons.mp hall
      exact List.forall_mem_cons.mpr ⟨hhead.2 hfirst, ih hrest⟩

/-- `setFeaturePass` changes at most one feature, one with the given id. -/
theorem setFeaturePass_forall₂ {featureId : String} {passes : Bool}
    {features features' : List FeatureRecord}
    (h : setFeaturePass featureId passes features = some features') :
    List.Forall₂ (fun feature feature' => feature' = feature ∨
      (feature.id = featureId ∧ feature' = { feature with passes })) features features' := by
  induction features generalizing features' with
  | nil => cases h
  | cons feature features ih =>
      rw [setFeaturePass] at h
      split at h
      · cases h
        refine .cons (.inr ⟨‹_›, rfl⟩) (List.forall₂_same.mpr fun _ _ => .inl rfl)
      · obtain ⟨rest, hrest, rfl⟩ := Option.map_eq_some_iff.mp h
        exact .cons (.inl rfl) (ih hrest)

/-- Setting a pass advances the list. -/
theorem setFeaturePass_advance {featureId : String} {features features' : List FeatureRecord}
    (h : setFeaturePass featureId true features = some features') :
    FeaturesAdvance features features' := by
  refine (setFeaturePass_forall₂ h).imp ?_
  rintro feature feature' (rfl | ⟨_, rfl⟩)
  · exact .refl _
  · exact ⟨rfl, fun _ => rfl⟩

/-- A feature that passes after setting a pass has passed before or has the given id. -/
theorem setFeaturePass_at {featureId : String} {passes : Bool}
    {features features' : List FeatureRecord}
    (h : setFeaturePass featureId passes features = some features') {k : Nat}
    {feature' : FeatureRecord} (hk : features'[k]? = some feature') :
    features[k]? = some feature' ∨ feature'.id = featureId := by
  have hpointwise := setFeaturePass_forall₂ h
  clear h
  induction hpointwise generalizing k with
  | nil => cases hk
  | cons hhead _ ih =>
      cases k with
      | zero =>
          cases hk
          rcases hhead with rfl | ⟨hid, rfl⟩
          · exact .inl rfl
          · exact .inr hid
      | succ k => exact ih hk

/-! ## Sessions -/

/-- The session was installed as it is, has all its passes and entries, and may have more. -/
structure SessionState.Advances (state state' : SessionState) : Prop where
  manifest : ∀ {manifest}, state.manifest = some manifest → state'.manifest = some manifest
  features : ∀ {manifest}, state.manifest = some manifest →
    FeaturesAdvance state.featureList state'.featureList
  progress : state.progress <+: state'.progress
  checkpoints : state.checkpoints <+: state'.checkpoints

namespace SessionState

/-- A session advances to itself. -/
theorem Advances.refl (state : SessionState) : state.Advances state :=
  ⟨id, fun _ => features_advance_refl _, List.prefix_rfl, List.prefix_rfl⟩

/-- Growth is transitive. -/
theorem Advances.trans {first second third : SessionState} (h : first.Advances second)
    (h' : second.Advances third) : first.Advances third :=
  ⟨fun hmanifest => h'.manifest (h.manifest hmanifest),
    fun hmanifest => features_advance_trans (h.features hmanifest)
      (h'.features (h.manifest hmanifest)),
    h.progress.trans h'.progress, h.checkpoints.trans h'.checkpoints⟩

end SessionState

/-- The operation overwrites neither manifest nor features and withdraws no pass. -/
def MemoryOp.Monotone : MemoryOp → Prop
  | .saveManifest _ _ => False
  | .replaceFeatureList _ _ => False
  | .updateFeaturePass _ _ passes => passes = true
  | _ => True

namespace SessionState

/-- A monotone operation advances its session. -/
theorem apply_advances {op : MemoryOp} (hop : op.Monotone) (state : SessionState) :
    state.Advances (state.apply op).2 := by
  cases op with
  | saveManifest sessionId manifest => exact hop.elim
  | replaceFeatureList sessionId features => exact hop.elim
  | updateFeaturePass sessionId featureId passes =>
      obtain rfl : passes = true := hop
      rw [apply]
      split
      · exact ⟨id, fun _ => setFeaturePass_advance ‹_›, List.prefix_rfl, List.prefix_rfl⟩
      · exact .refl state
  | initializeSessionIfMissing sessionId manifest featureList entry checkpoint =>
      rw [apply]
      split
      · exact .refl state
      · rename_i hmissing
        have hnone : state.manifest = none := by simpa using hmissing
        exact ⟨by simp [hnone], by simp [hnone], List.prefix_append _ _, List.prefix_append _ _⟩
  | appendProgressEntry sessionId entry =>
      exact ⟨id, fun _ => features_advance_refl _, List.prefix_append _ _, List.prefix_rfl⟩
  | recordRunCheckpoint sessionId checkpoint =>
      exact ⟨id, fun _ => features_advance_refl _, List.prefix_rfl, List.prefix_append _ _⟩
  | appendTranscriptMessages sessionId messages =>
      exact ⟨id, fun _ => features_advance_refl _, List.prefix_rfl, List.prefix_rfl⟩
  | isInitialized sessionId => exact .refl state
  | loadBootstrapState sessionId => exact .refl state
  | loadTranscriptMessages sessionId => exact .refl state

/-- A session without a manifest gets no features but together with one. -/
theorem apply_uninitialized {op : MemoryOp} (hop : op.Monotone) {state : SessionState}
    (hstate : state.manifest = none → state.featureList = []) :
    (state.apply op).2.manifest = none → (state.apply op).2.featureList = [] := by
  cases op with
  | saveManifest sessionId manifest => exact hop.elim
  | replaceFeatureList sessionId features => exact hop.elim
  | updateFeaturePass sessionId featureId passes =>
      intro hnone
      rw [apply] at hnone ⊢
      cases hset : setFeaturePass featureId passes state.featureList with
      | none =>
          simp only [hset] at hnone ⊢
          exact hstate hnone
      | some featureList =>
          simp only [hset] at hnone
          rw [hstate hnone] at hset
          cases hset
  | initializeSessionIfMissing sessionId manifest featureList entry checkpoint =>
      by_cases hmissing : state.manifest.isSome
      · rw [apply, if_pos hmissing]
        exact hstate
      · rw [apply, if_neg hmissing]
        intro hnone
        cases hnone
  | _ => exact hstate

/-- The operation turns the feature's pass on. -/
def TurnsOn (feature : FeatureRecord) : MemoryOp → Prop
  | .updateFeaturePass _ featureId _ => feature.id = featureId
  | .initializeSessionIfMissing _ _ featureList _ _ => feature ∈ featureList
  | .replaceFeatureList _ features => feature ∈ features
  | _ => False

/-- A feature of the session after an operation was there before, or the operation turned its
pass on and succeeded. -/
theorem apply_feature_at (state : SessionState) (op : MemoryOp) {k : Nat}
    {feature : FeatureRecord} (hk : (state.apply op).2.featureList[k]? = some feature) :
    state.featureList[k]? = some feature ∨
      (TurnsOn feature op ∧ ∃ value, (state.apply op).1 = .ok value) := by
  cases op with
  | updateFeaturePass sessionId featureId passes =>
      rw [apply] at hk ⊢
      split at hk
      · exact (setFeaturePass_at ‹_› hk).imp id fun hid => ⟨hid, (), rfl⟩
      · exact .inl hk
  | initializeSessionIfMissing sessionId manifest featureList entry checkpoint =>
      by_cases hmissing : state.manifest.isSome
      · rw [apply, if_pos hmissing] at hk
        exact .inl hk
      · rw [apply, if_neg hmissing] at hk ⊢
        exact .inr ⟨List.mem_of_getElem? hk, true, rfl⟩
  | replaceFeatureList sessionId features => exact .inr ⟨List.mem_of_getElem? hk, (), rfl⟩
  | _ => exact .inl hk

end SessionState

end Fiddlesticks.Memory
