import Fiddlesticks.Memory.Postgres.Backend

/-!
# Concurrent initializations on Postgres

An initialization locks the row that it finds until it commits, but it locks nothing while the row
is missing. So at most one of any number of concurrent calls initializes the session, as long as no
two calls that found no row are in their transactions at once.
-/

namespace Fiddlesticks.Memory.Postgres

open Effect

variable {ι J : Type}

/-! ## The phases of a call -/

/-- How far a call has come: what its `SELECT … FOR UPDATE` found and what it wrote. -/
inductive Phase (J : Type) where
  | outside
  | read (found : Option J)
  | wrote (found : Option J) (value : J)
  | committed (found : Option J) (value : J)
  | ended

namespace Phase

/-- The phase after an event. -/
def next (phase : Phase J) (e : Event (PostgresSig J)) : Phase J :=
  match phase, e with
  | .outside, ⟨.selectForUpdate _, .ok found⟩ => .read found
  | .read found, ⟨.upsertInTransaction _ value, .ok _⟩ => .wrote found value
  | .wrote found value, ⟨.commit, .ok _⟩ => .committed found value
  | _, ⟨.commit, .error _⟩ => .ended
  | _, ⟨.rollback, _⟩ => .ended
  | _, ⟨.dropTransaction, _⟩ => .ended
  | phase, _ => phase

/-- The call is in its transaction and found no row. -/
def FoundMissing (phase : Phase J) : Prop :=
  phase = .read none ∨ ∃ value, phase = .wrote none value

end Phase

/-- The phase after a history. -/
def phase (h : History (PostgresSig J)) : Phase J :=
  h.foldl Phase.next .outside

/-- A call begins outside its transaction. -/
@[simp] theorem phase_nil : phase ([] : History (PostgresSig J)) = .outside := rfl

/-- The phase goes on from event to event. -/
@[simp] theorem phase_append (h events : History (PostgresSig J)) :
    phase (h ++ events) = events.foldl Phase.next (phase h) := by
  simp [phase]

/-! ## What a call does -/

variable {json : StateJson J} {sessionId : SessionId} {call : Initialization}

/-- The call makes the value of the document it found, which has no manifest. -/
def Initialization.Makes (json : StateJson J) (call : Initialization) (found : Option J)
    (value : J) : Prop :=
  ∃ state, existingState json found = .ok state ∧ state.manifest = none ∧
    call.document json state = .ok value

/-- What an initialization makes has a manifest, so no initialization makes anything of it. -/
theorem Initialization.Makes.not_makes {call' : Initialization} {found : Option J}
    {value value' : J}
    (h : call.Makes json found value) : ¬ call'.Makes json (some value) value' := by
  rintro ⟨state', hstate', hmissing, -⟩
  obtain ⟨state, -, -, hdocument⟩ := h
  rw [Initialization.document] at hdocument
  cases hchange : state.initializeSession call.manifest call.featureList call.entry
      call.checkpoint with
  | error error =>
      rw [hchange] at hdocument
      cases hdocument
  | ok changed =>
      rw [hchange] at hdocument
      have hmanifest := PersistedState.manifest_initializeSession hchange
      cases hvalue : json.toValue changed with
      | error error =>
          change convert _ (json.toValue changed) = _ at hdocument
          rw [hvalue] at hdocument
          cases hdocument
      | ok written =>
          change convert _ (json.toValue changed) = _ at hdocument
          rw [hvalue] at hdocument
          cases hdocument
          rw [existingState, convert, json.fromValue_toValue hvalue] at hstate'
          cases hstate'
          rw [hmissing] at hmanifest
          cases hmanifest

/-- What a call may do in each phase. -/
inductive InitGuard (json : StateJson J) (sessionId : SessionId) (call : Initialization)
    (h : History (PostgresSig J)) : Event (PostgresSig J) → Prop where
  | connect (answer) : InitGuard json sessionId call h ⟨.connect, answer⟩
  | createTable (answer) : InitGuard json sessionId call h ⟨.createTable, answer⟩
  | begin (answer) : InitGuard json sessionId call h ⟨.begin, answer⟩
  | lock (answer) : phase h = .outside →
      InitGuard json sessionId call h ⟨.selectForUpdate sessionId.value, answer⟩
  | write {found value} (answer : Except String Unit) : phase h = .read found →
      call.Makes json found value →
      InitGuard json sessionId call h ⟨.upsertInTransaction sessionId.value value, answer⟩
  | commit (found value answer) : phase h = .wrote found value →
      InitGuard json sessionId call h ⟨.commit, answer⟩
  | rollback (answer) {found} : phase h = .read found →
      InitGuard json sessionId call h ⟨.rollback, answer⟩
  | drop (answer) : (phase h = .outside ∨ ∃ found, phase h = .read found) →
      InitGuard json sessionId call h ⟨.dropTransaction, answer⟩

/-- A call that initialized the session has committed, and only such a call. -/
def InitResult (h : History (PostgresSig J)) (result : Except MemoryError Bool) : Prop :=
  result = .ok true ↔ ∃ found value, phase h = .committed found value

variable {G : History (PostgresSig J) → Event (PostgresSig J) → Prop}
variable {h : History (PostgresSig J)} {α : Type}

/-- A part of a transaction: its failure drops the transaction. -/
theorem obeys_orDrop {Q : History (PostgresSig J) → Except MemoryError α → Prop}
    (p : PostgresM J α) :
    Prog.Obeys G Q h (orDrop p).run ↔ Prog.Obeys G (fun h' result => match result with
      | .ok value => Q h' (.ok value)
      | .error error => ∀ answer, G h' ⟨.dropTransaction, answer⟩ ∧
          Q (h' ++ [⟨.dropTransaction, answer⟩]) (.error error)) h p.run := by
  change Prog.Obeys G Q h (Prog.bind p.run _) ↔ _
  refine (Prog.obeys_bind p.run _).trans (Iff.of_eq ?_)
  congr 1
  funext h' result
  cases result with
  | ok value => exact propext (Prog.obeys_pure _)
  | error error =>
      change Prog.Obeys G Q h' (ExceptT.lift (Prog.request (S := PostgresSig J) .dropTransaction)
        >>= fun _ => (throw error : PostgresM J α)).run = _
      simp only [Prog.obeys_except_bind, Prog.obeys_lift, Prog.obeys_except_throw]
      exact propext Prog.obeys_request

/-- A call that has not committed reports no success. -/
theorem initResult_of_not_committed {result : Except MemoryError Bool} (hresult : result ≠ .ok true)
    (hphase : ∀ found value, phase h ≠ .committed found value) : InitResult h result :=
  ⟨fun heq => absurd heq hresult, fun ⟨found, value, heq⟩ => absurd heq (hphase found value)⟩

/-- The end of a transaction that has read a row. -/
theorem obeys_write {found : Option J} {state : PersistedState} (hh : phase h = .read found)
    (hfound : existingState json found = .ok state) (hmissing : state.manifest = none) :
    Prog.Obeys (InitGuard json sessionId call) InitResult h (ExceptT.run (do
      let value ← orDrop (liftM (call.document json state))
      orDrop <| execute "failed to write initialized session state"
        (.upsertInTransaction sessionId.value value)
      execute "failed to commit tx" .commit
      return true : PostgresM J Bool)) := by
  rw [Prog.obeys_except_bind, obeys_orDrop, Prog.obeys_except_lift]
  cases hvalue : call.document json state with
  | error error =>
      intro answer
      refine ⟨.drop answer (.inr ⟨found, hh⟩), initResult_of_not_committed nofun ?_⟩
      simp [hh, Phase.next]
  | ok value =>
      show Prog.Obeys _ _ _ (orDrop _ >>= _ : PostgresM J Bool).run
      rw [Prog.obeys_except_bind, obeys_orDrop]
      refine (obeys_execute _ (.upsertInTransaction sessionId.value value)).mpr fun written =>
        ⟨.write written hh ⟨state, hfound, hmissing, hvalue⟩, ?_⟩
      cases written with
      | error error =>
          intro answer
          refine ⟨.drop answer (.inr ⟨found, ?_⟩), initResult_of_not_committed nofun ?_⟩ <;>
            simp [hh, Phase.next]
      | ok =>
          show Prog.Obeys _ _ _ (execute _ _ >>= _ : PostgresM J Bool).run
          rw [Prog.obeys_except_bind]
          refine (obeys_execute _ .commit).mpr fun committed =>
            ⟨.commit found value committed ?_, ?_⟩
          · simp [hh, Phase.next]
          · cases committed with
            | error error =>
                refine initResult_of_not_committed nofun ?_
                simp [hh, Phase.next]
            | ok =>
                refine (Prog.obeys_except_pure _).mpr ⟨fun _ => ⟨found, value, ?_⟩, fun _ => rfl⟩
                simp [hh, Phase.next]

/-- A call from its `SELECT … FOR UPDATE` on. -/
theorem obeys_transaction (hh : phase h = .outside) :
    Prog.Obeys (InitGuard json sessionId call) InitResult h (ExceptT.run (do
      let existing ← orDrop <|
        execute "failed to lock session state row" (.selectForUpdate sessionId.value)
      let state ← orDrop (liftM (existingState json existing))
      if state.manifest.isSome then
        execute "failed to rollback tx" .rollback
        return false
      let value ← orDrop (liftM (call.document json state))
      orDrop <| execute "failed to write initialized session state"
        (.upsertInTransaction sessionId.value value)
      execute "failed to commit tx" .commit
      return true : PostgresM J Bool)) := by
  rw [Prog.obeys_except_bind, obeys_orDrop]
  refine (obeys_execute _ (.selectForUpdate sessionId.value)).mpr fun locked =>
    ⟨.lock locked hh, ?_⟩
  cases locked with
  | error error =>
      intro answer
      refine ⟨.drop answer (.inl ?_), initResult_of_not_committed nofun ?_⟩ <;>
        simp [hh, Phase.next]
  | ok found =>
      have hread : phase (h ++ [⟨.selectForUpdate sessionId.value, .ok found⟩]) = .read found := by
        simp [hh, Phase.next]
      show Prog.Obeys _ _ _ (orDrop _ >>= _ : PostgresM J Bool).run
      rw [Prog.obeys_except_bind, obeys_orDrop, Prog.obeys_except_lift]
      cases hstate : existingState json found with
      | error error =>
          intro answer
          refine ⟨.drop answer (.inr ⟨found, hread⟩), initResult_of_not_committed nofun ?_⟩
          simp [hh, Phase.next]
      | ok state =>
          cases hmanifest : state.manifest with
          -- The session is there already: the transaction is rolled back and nothing was written.
          | some manifest =>
              simp only [hmanifest, Option.isSome_some, if_true]
              rw [Prog.obeys_except_bind]
              refine (obeys_execute _ .rollback).mpr fun rolledBack =>
                ⟨.rollback rolledBack hread, ?_⟩
              cases rolledBack with
              | error error =>
                  exact initResult_of_not_committed nofun (by simp [hh, Phase.next])
              | ok =>
                  refine (Prog.obeys_except_pure _).mpr (initResult_of_not_committed ?_ ?_) <;>
                    simp [hh, Phase.next]
          | none =>
              simp only [hmanifest, Option.isSome_none, Bool.false_eq_true, if_false]
              exact obeys_write hread hstate hmanifest

/-- Calls meet their guards. -/
theorem obeys_initializeSessionIfMissing :
    Prog.Obeys (InitGuard json sessionId call) InitResult []
      (initializeSessionIfMissing json sessionId call).run := by
  rw [initializeSessionIfMissing, connectClient, Prog.obeys_except_bind, Prog.obeys_except_bind]
  refine (obeys_execute _ .connect).mpr fun connected => ⟨.connect connected, ?_⟩
  cases connected with
  | error error => exact initResult_of_not_committed nofun (by simp [phase, Phase.next])
  | ok =>
      refine (obeys_execute _ .createTable).mpr fun created => ⟨.createTable created, ?_⟩
      cases created with
      | error error => exact initResult_of_not_committed nofun (by simp [phase, Phase.next])
      | ok =>
          show Prog.Obeys _ _ _ (execute _ _ >>= _ : PostgresM J Bool).run
          rw [Prog.obeys_except_bind]
          refine (obeys_execute _ .begin).mpr fun begun => ⟨.begin begun, ?_⟩
          cases begun with
          | error error => exact initResult_of_not_committed nofun (by simp [phase, Phase.next])
          | ok =>
              show Prog.Obeys _ _ _ (orDrop _ >>= _ : PostgresM J Bool).run
              exact obeys_transaction (by simp [phase, Phase.next])

/-! ## The row and the phases of all calls -/

/-- How the row goes with the phase of one call: a call that has found a row or written one holds
its lock, and what it found is still committed. -/
def Phase.Matches (json : StateJson J) (call : Initialization) (row : Row ι J) (i : ι) :
    Phase J → Prop
  | .outside => ∀ written, row.writer ≠ some (i, written)
  | .read none => row.committed = none
  | .read (some value) => row.committed = some value ∧ row.writer = some (i, none)
  | .wrote found value =>
      call.Makes json found value ∧ row.committed = found ∧ row.writer = some (i, some value)
  | .committed _ _ => True
  | .ended => True

section Matches

variable {i : ι} {row row' : Row ι J} {phase : Phase J} {found : Option J} {value : J}

/-- A call in its transaction finds what is committed. -/
theorem Phase.Matches.committed (h : (Phase.read found).Matches json call row i) :
    row.committed = found := by
  cases found with
  | none => exact h
  | some value => exact h.1

/-- What other calls do to the lock is nothing to this call. -/
theorem Phase.Matches.transfer (h : phase.Matches json call row i)
    (hcommitted : row'.committed = row.committed)
    (hwriter : ∀ written, row'.writer = some (i, written) ↔ row.writer = some (i, written)) :
    phase.Matches json call row' i := by
  cases phase with
  | outside => exact fun written => (hwriter written).not.mpr (h written)
  | read found =>
      cases found with
      | none => exact hcommitted.trans h
      | some value => exact ⟨hcommitted.trans h.1, (hwriter none).mpr h.2⟩
  | wrote found value =>
      exact ⟨h.1, hcommitted.trans h.2.1, (hwriter (some value)).mpr h.2.2⟩
  | committed => trivial
  | ended => trivial

end Matches

/-- How the row goes with the phases of all calls, from the row at the start: only one call at a
time goes on from a missing row, and a call that has committed is the only one and has left the row
as it wrote it. -/
structure Consistent (json : StateJson J) (calls : ι → Initialization) (initial : Option J)
    (row : Row ι J) (phases : ι → Phase J) : Prop where
  each : ∀ i, (phases i).Matches json (calls i) row i
  alone : ∀ i j, (phases i).FoundMissing → (phases j).FoundMissing → i = j
  outcome : (row.committed = initial ∧ ∀ i found value, phases i ≠ .committed found value) ∨
    ∃ i value, phases i = .committed initial value ∧ (calls i).Makes json initial value ∧
      row.committed = some value ∧ ∀ j found' value', phases j = .committed found' value' → j = i

namespace Consistent

variable {calls : ι → Initialization} {initial : Option J} {row row' : Row ι J}
variable {phases : ι → Phase J} {i : ι}

/-- At the start no call holds the lock. -/
theorem start (hfree : row.writer = none) :
    Consistent json calls row.committed row fun _ => .outside where
  each i written := by simp [hfree]
  alone i j hi := by rcases hi with hi | ⟨value, hi⟩ <;> cases hi
  outcome := .inl ⟨rfl, fun i found value hphase => by cases hphase⟩

variable [DecidableEq ι]

/-- One call goes on to a new phase and leaves the committed row. -/
theorem advance (h : Consistent json calls initial row phases) {new : Phase J}
    (hcommitted : row'.committed = row.committed)
    (hold : ∀ found value, phases i ≠ .committed found value)
    (hnew : ∀ found value, new ≠ .committed found value)
    (hi : new.Matches json (calls i) row' i)
    (hothers : ∀ j, j ≠ i → ∀ written,
      row'.writer = some (j, written) ↔ row.writer = some (j, written))
    (halone : new.FoundMissing → ∀ j, j ≠ i → ¬ (phases j).FoundMissing) :
    Consistent json calls initial row' (Function.update phases i new) := by
  have hkept {j : ι} {found value} :
      Function.update phases i new j = .committed found value ↔
        phases j = .committed found value := by
    by_cases hne : j = i
    · subst hne
      rw [Function.update_self]
      exact iff_of_false (hnew found value) (hold found value)
    · rw [Function.update_of_ne hne]
  refine ⟨fun j => ?_, fun j k hj hk => ?_, ?_⟩
  · by_cases hne : j = i
    · subst hne
      rwa [Function.update_self]
    · rw [Function.update_of_ne hne]
      exact (h.each j).transfer hcommitted (hothers j hne)
  · by_cases hji : j = i
    · subst hji
      rw [Function.update_self] at hj
      by_contra hne
      rw [Function.update_of_ne (Ne.symm hne)] at hk
      exact halone hj k (Ne.symm hne) hk
    · rw [Function.update_of_ne hji] at hj
      by_cases hki : k = i
      · subst hki
        rw [Function.update_self] at hk
        exact absurd hj (halone hk j hji)
      · rw [Function.update_of_ne hki] at hk
        exact h.alone j k hj hk
  · simp only [hkept, ne_eq, hcommitted]
    exact h.outcome

/-- A call finds no row, and nothing is locked. -/
theorem find_missing (h : Consistent json calls initial row phases) (hi : phases i = .outside)
    (hvisible : row.visible i = none) (hothers : ∀ j, ¬ (phases j).FoundMissing) :
    Consistent json calls initial row (Function.update phases i (.read none)) := by
  have houtside := h.each i
  rw [hi] at houtside
  refine h.advance rfl (by simp [hi]) nofun ?_ (fun j _ written => Iff.rfl)
    fun _ j _ => hothers j
  exact (Row.visible_eq_committed houtside).symm.trans hvisible

/-- A call finds the row and locks it. -/
theorem find_row (h : Consistent json calls initial row phases) (hi : phases i = .outside)
    {value : J} (hvisible : row.visible i = some value) (hfree : row.free i = true) :
    Consistent json calls initial (row.lock i)
      (Function.update phases i (.read (some value))) := by
  have houtside := h.each i
  rw [hi] at houtside
  have hlock := Row.lock_writer houtside
  refine h.advance rfl (by simp [hi]) nofun ⟨?_, hlock⟩ (fun j hne written => ?_)
    fun hmissing => ?_
  · exact (Row.visible_eq_committed houtside).symm.trans hvisible
  · refine iff_of_false (fun hj => ?_) fun hj => hne ((Row.free_iff i row).mp hfree j written hj)
    rw [hlock] at hj
    cases hj
    exact hne rfl
  · rcases hmissing with hmissing | ⟨value, hmissing⟩ <;> cases hmissing

/-- A call writes what it makes of what it found. -/
theorem write_row (h : Consistent json calls initial row phases) {found : Option J} {value : J}
    (hi : phases i = .read found) (hmakes : (calls i).Makes json found value)
    (hfree : row.free i = true) :
    Consistent json calls initial (row.write i value)
      (Function.update phases i (.wrote found value)) := by
  have hread := h.each i
  rw [hi] at hread
  refine h.advance rfl (by simp [hi]) nofun ⟨hmakes, hread.committed, rfl⟩
    (fun j hne written => ?_) fun hmissing j hne hj => ?_
  · refine iff_of_false (fun hj => ?_) fun hj => hne ((Row.free_iff i row).mp hfree j written hj)
    cases hj
    exact hne rfl
  · refine hne (h.alone j i hj (.inl ?_))
    rcases hmissing with hmissing | ⟨value, hmissing⟩ <;> cases hmissing
    exact hi

/-- A call commits what it wrote. -/
theorem commit_row (h : Consistent json calls initial row phases) {found : Option J} {value : J}
    (hi : phases i = .wrote found value) :
    Consistent json calls initial (row.publish i)
      (Function.update phases i (.committed found value)) := by
  have hwrote := h.each i
  rw [hi] at hwrote
  obtain ⟨hmakes, hfound, hwriter⟩ := hwrote
  have hpublished : (row.publish i).committed = some value := Row.visible_of_written hwriter
  have hreleased : (row.publish i).writer = none := Row.release_writer_self hwriter
  -- No other call holds the lock, and none is left that went on from a missing row.
  have hothers (j : ι) (hne : j ≠ i) :
      (phases j).Matches json (calls j) (row.publish i) j := by
    have hj := h.each j
    cases hphase : phases j with
    | outside =>
        intro written hholds
        rw [hreleased] at hholds
        cases hholds
    | read found' =>
        rw [hphase] at hj
        cases found' with
        | none =>
            refine absurd (h.alone j i (.inl hphase) (.inr ⟨value, ?_⟩)) hne
            rw [hi, ← hfound, hj.committed]
        | some value' =>
            have hsame := hj.2.symm.trans hwriter
            simp [hne] at hsame
    | wrote found' value' =>
        rw [hphase] at hj
        have hsame := hj.2.2.symm.trans hwriter
        simp [hne] at hsame
    | committed => trivial
    | ended => trivial
  have hmissing {j : ι} (hj : (Function.update phases i (.committed found value) j).FoundMissing) :
      j ≠ i ∧ (phases j).FoundMissing := by
    by_cases hne : j = i
    · subst hne
      rcases hj with hj | ⟨value, hj⟩ <;> simp at hj
    · rw [Function.update_of_ne hne] at hj
      exact ⟨hne, hj⟩
  refine ⟨fun j => ?_, fun j k hj hk => h.alone j k (hmissing hj).2 (hmissing hk).2, .inr ?_⟩
  · by_cases hne : j = i
    · subst hne
      rw [Function.update_self]
      trivial
    · rw [Function.update_of_ne hne]
      exact hothers j hne
  · rcases h.outcome with ⟨hinitial, hnone⟩ | ⟨k, value', -, hmakes', hcommitted, -⟩
    · obtain rfl : found = initial := hfound.symm.trans hinitial
      refine ⟨i, value, Function.update_self _ _ _, hmakes, hpublished,
        fun j found' value' hj => ?_⟩
      by_contra hne
      rw [Function.update_of_ne hne] at hj
      exact hnone j found' value' hj
    · obtain rfl : found = some value' := hfound.symm.trans hcommitted
      exact absurd hmakes hmakes'.not_makes

/-- A call ends its transaction without committing. -/
theorem release_row (h : Consistent json calls initial row phases)
    (hi : ∀ found value, phases i ≠ .committed found value) :
    Consistent json calls initial (row.release i) (Function.update phases i .ended) := by
  refine h.advance rfl hi nofun trivial (fun j hne written => ?_) fun hmissing => ?_
  · rw [Row.release_writer_eq_some]
    exact and_iff_left hne
  · rcases hmissing with hmissing | ⟨value, hmissing⟩ <;> cases hmissing

end Consistent

/-! ## All runs -/

variable [DecidableEq ι]

/-- A call finds no row only while no other call that found no row is in its transaction. -/
def Exclusive (sessionId : SessionId) : Trace (PostgresSig J) ι → Prop :=
  Throughout fun before entry => entry.2 = ⟨.selectForUpdate sessionId.value, .ok none⟩ →
    ∀ j, ¬ (phase (localHistory j before)).FoundMissing

/-- The phases of all calls after a trace. -/
def phases (trace : Trace (PostgresSig J) ι) (i : ι) : Phase J :=
  phase (localHistory i trace)

/-- A step moves the phase of its own call. -/
theorem phases_snoc (trace : Trace (PostgresSig J) ι) (i : ι) (e : Event (PostgresSig J)) :
    phases (trace ++ [(i, e)]) = Function.update (phases trace) i ((phases trace i).next e) := by
  funext j
  by_cases hne : j = i
  · subst hne
    simp [phases]
  · simp [phases, hne, local_history_other (Ne.symm hne)]

/-- One event keeps the row and the phases consistent. -/
theorem Consistent.step {calls : ι → Initialization} {initial : Option J} {db db' : Database ι J}
    {trace : Trace (PostgresSig J) ι} {i : ι} {e : Event (PostgresSig J)}
    (h : Consistent json calls initial (db sessionId.value) (phases trace))
    (hguard : InitGuard json sessionId (calls i) (localHistory i trace) e)
    (hact : Acts i db e db')
    (hexclusive : e = ⟨.selectForUpdate sessionId.value, .ok none⟩ →
      ∀ j, ¬ (phases trace j).FoundMissing) :
    Consistent json calls initial (db' sessionId.value) (phases (trace ++ [(i, e)])) := by
  rw [phases_snoc]
  -- Statements outside the transaction, and statements that fail, change neither row nor phase.
  have hsame (hrow : db' sessionId.value = db sessionId.value)
      (hnext : (phases trace i).next e = phases trace i) :
      Consistent json calls initial (db' sessionId.value)
        (Function.update (phases trace) i ((phases trace i).next e)) := by
    rw [hrow, hnext, Function.update_eq_self]
    exact h
  cases hguard with
  | connect | createTable | begin =>
      refine hsame ?_ (by cases phases trace i <;> rfl)
      cases hact with
      | failed => rfl
      | served hserve =>
          cases hserve
          rfl
  -- `SELECT ... FOR UPDATE` finds no row and locks nothing, or finds the row and locks it.
  | lock answer hi =>
      change phases trace i = _ at hi
      cases hact with
      | failed _ error => exact hsame rfl (by rw [hi]; rfl)
      | served hserve =>
          rename_i found
          have hnext : (phases trace i).next ⟨.selectForUpdate sessionId.value, .ok found⟩ =
              .read found := by
            rw [hi]
            rfl
          rw [hnext]
          obtain ⟨hvisible, ⟨rfl, rfl⟩ | ⟨hfree, hsome, rfl⟩⟩ :=
            PostgresOp.serve_selectForUpdate hserve
          · exact h.find_missing hi hvisible (hexclusive rfl)
          · obtain ⟨value, rfl⟩ := Option.isSome_iff_exists.mp hsome
            rw [Function.update_self]
            exact h.find_row hi hvisible hfree
  | @write found value answer hi hmakes =>
      change phases trace i = _ at hi
      cases hact with
      | failed _ error => exact hsame rfl (by rw [hi]; rfl)
      | served hserve =>
          have hnext : (phases trace i).next
              ⟨.upsertInTransaction sessionId.value value, .ok ()⟩ = .wrote found value := by
            rw [hi]
            rfl
          rw [hnext]
          obtain ⟨hfree, rfl⟩ := PostgresOp.serve_upsertInTransaction hserve
          rw [Function.update_self]
          exact h.write_row hi hmakes hfree
  -- A commit that fails ends the transaction as a rollback does.
  | commit found value answer hi =>
      change phases trace i = _ at hi
      cases hact with
      | failed _ error =>
          have hnext : (phases trace i).next ⟨.commit, .error error⟩ = .ended := by
            rw [hi]
            rfl
          rw [hnext]
          exact h.release_row fun _ _ heq => nomatch hi.symm.trans heq
      | served hserve =>
          have hnext : (phases trace i).next ⟨.commit, .ok ()⟩ = .committed found value := by
            rw [hi]
            rfl
          cases hserve
          rw [hnext]
          exact h.commit_row hi
  | rollback answer hi =>
      change phases trace i = _ at hi
      have hnext : (phases trace i).next ⟨.rollback, answer⟩ = .ended := by
        rw [hi]
        rfl
      rw [hnext]
      have hrelease := h.release_row fun _ _ heq => nomatch hi.symm.trans heq
      cases hact with
      | failed => exact hrelease
      | served hserve =>
          cases hserve
          exact hrelease
  | drop answer hi =>
      change phases trace i = _ ∨ (∃ found, phases trace i = _) at hi
      have hnext : (phases trace i).next ⟨.dropTransaction, answer⟩ = .ended := by
        rcases hi with hi | ⟨found, hi⟩ <;> rw [hi] <;> rfl
      rw [hnext]
      have hrelease := h.release_row (i := i) fun _ _ heq => by
        rcases hi with hi | ⟨found, hi⟩ <;> exact nomatch hi.symm.trans heq
      cases hact with
      | failed => exact hrelease
      | served hserve =>
          cases hserve
          exact hrelease

/-- In every run of concurrent initializations in which no two calls that found no row are in
their transactions at once, at most one call reports success, and from then on the row is what that
call wrote over the row at the start. -/
theorem initialized_once (json : StateJson J) (sessionId : SessionId)
    (calls : ι → Initialization) {db db' : Database ι J}
    {procs : ι → Prog (PostgresSig J) (Except MemoryError Bool)}
    {trace : Trace (PostgresSig J) ι} (hfree : (db sessionId.value).writer = none)
    (hrun : Pool.Run Acts ⟨db, fun i => (initializeSessionIfMissing json sessionId (calls i)).run⟩
      trace ⟨db', procs⟩)
    (hexclusive : Exclusive sessionId trace) :
    (∀ i j, procs i = .pure (.ok true) → procs j = .pure (.ok true) → i = j) ∧
      ∀ i, procs i = .pure (.ok true) → ∃ value,
        (calls i).Makes json (db sessionId.value).committed value ∧
          (db' sessionId.value).committed = some value := by
  have hobeys (i : ι) : Prog.Obeys (InitGuard json sessionId (calls i)) InitResult []
      (initializeSessionIfMissing json sessionId (calls i)).run := obeys_initializeSessionIfMissing
  have hconsistent := hrun.invariant hobeys (fun db' trace => Exclusive sessionId trace →
      Consistent json calls (db sessionId.value).committed (db' sessionId.value) (phases trace))
    (fun _ => .start hfree) (fun s trace i e s' hinv hguard hact hexclusive => by
      obtain ⟨hbefore, hlast⟩ := throughout_snoc.mp hexclusive
      exact (hinv hbefore).step hguard hact hlast) hexclusive
  have hcommitted {i : ι} (hi : procs i = .pure (.ok true)) :
      ∃ found value, phases trace i = .committed found value :=
    (hrun.returns hobeys hi).mp rfl
  rcases hconsistent.outcome with ⟨-, hnone⟩ | ⟨k, value, -, hmakes, hvalue, honly⟩
  · refine ⟨fun i _ hi => ?_, fun i hi => ?_⟩ <;>
      obtain ⟨found, value, hphase⟩ := hcommitted hi <;>
      exact absurd hphase (hnone i found value)
  · have hall {i : ι} (hi : procs i = .pure (.ok true)) : i = k := by
      obtain ⟨found, value, hphase⟩ := hcommitted hi
      exact honly i found value hphase
    refine ⟨fun i j hi hj => (hall hi).trans (hall hj).symm, fun i hi => ⟨value, ?_, hvalue⟩⟩
    rw [hall hi]
    exact hmakes

/-! ## Two calls -/

/-- Two calls with manifests for different branches. -/
def initializations : Bool → Initialization
  | false => ⟨.new ⟨"demo"⟩ "main" "first", [], none, none⟩
  | true => ⟨.new ⟨"demo"⟩ "main" "second", [], none, none⟩

/-- The two calls on a session without a row. -/
def initializationPool : Pool (PostgresSig PersistedState) Bool (Database Bool PersistedState)
    (Except MemoryError Bool) :=
  ⟨fun _ => {}, fun i => (initializeSessionIfMissing .plain ⟨"demo"⟩ (initializations i)).run⟩

/-- The document that the first call writes. -/
def firstDocument : PersistedState :=
  { manifest := some ⟨1, "v0", "main", "first", none, none, ∅⟩ }

/-- One call after the other. -/
def serialInitializations : Option (Trace (PostgresSig PersistedState) Bool ×
    Pool (PostgresSig PersistedState) Bool (Database Bool PersistedState)
      (Except MemoryError Bool)) :=
  initializationPool.play respond
    [false, false, false, false, false, false, true, true, true, true, true]

/-- One call after the other, the first one initializes the session. -/
theorem initialized_once_serial : ∃ trace after procs,
    serialInitializations = some (trace, ⟨after, procs⟩) ∧
    (∀ i j, procs i = .pure (.ok true) → procs j = .pure (.ok true) → i = j) ∧
      ∀ i, procs i = .pure (.ok true) → ∃ value,
        (initializations i).Makes .plain none value ∧ (after "demo").committed = some value := by
  obtain ⟨trace, after, procs, hplay⟩ :
      ∃ trace after procs, serialInitializations = some (trace, ⟨after, procs⟩) := ⟨_, _, _, rfl⟩
  refine ⟨trace, after, procs, hplay, ?_⟩
  refine initialized_once .plain ⟨"demo"⟩ initializations rfl
    (Pool.Run.play acts_of_respond hplay) ?_
  have htrace : serialInitializations.map (·.1) = some ([] ++
      [(false, ⟨.connect, .ok ()⟩)] ++ [(false, ⟨.createTable, .ok ()⟩)] ++
      [(false, ⟨.begin, .ok ()⟩)] ++ [(false, ⟨.selectForUpdate "demo", .ok none⟩)] ++
      [(false, ⟨.upsertInTransaction "demo" firstDocument, .ok ()⟩)] ++
      [(false, ⟨.commit, .ok ()⟩)] ++ [(true, ⟨.connect, .ok ()⟩)] ++
      [(true, ⟨.createTable, .ok ()⟩)] ++ [(true, ⟨.begin, .ok ()⟩)] ++
      [(true, ⟨.selectForUpdate "demo", .ok (some firstDocument)⟩)] ++
      [(true, ⟨.rollback, .ok ()⟩)]) := rfl
  rw [hplay] at htrace
  rw [show trace = _ from Option.some.inj htrace]
  simp only [Exclusive, throughout_snoc]
  simp [throughout_nil, localHistory, phase, Phase.next, Phase.FoundMissing]

/-- Both calls look for the row before either writes it. -/
def overlappingInitializations : Option (Trace (PostgresSig PersistedState) Bool ×
    Pool (PostgresSig PersistedState) Bool (Database Bool PersistedState)
      (Except MemoryError Bool)) :=
  initializationPool.play respond
    [false, false, false, false, true, true, true, true, false, false, true, true]

/-- Both calls report that they initialized the session. -/
theorem overlapping_initializations_succeed : ∃ trace db' procs,
    Pool.Run Acts initializationPool trace ⟨db', procs⟩ ∧
      procs false = .pure (.ok true) ∧ procs true = .pure (.ok true) := by
  obtain ⟨trace, db', procs, hplay⟩ :
      ∃ trace db' procs, overlappingInitializations = some (trace, ⟨db', procs⟩) := ⟨_, _, _, rfl⟩
  have hdone : overlappingInitializations.map (fun end_ => (end_.2.procs false,
      end_.2.procs true)) = some (.pure (.ok true), .pure (.ok true)) := rfl
  rw [hplay] at hdone
  simp only [Option.map_some, Option.some.injEq, Prod.mk.injEq] at hdone
  exact ⟨trace, db', procs, Pool.Run.play acts_of_respond hplay, hdone⟩

end Fiddlesticks.Memory.Postgres
