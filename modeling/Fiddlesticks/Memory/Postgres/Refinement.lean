import Fiddlesticks.Effect.Simulation
import Fiddlesticks.Memory.Filesystem.Refinement
import Fiddlesticks.Memory.Postgres.Backend

/-!
# The Postgres backend refines the in-memory backend

One operation at a time, with statements that may fail at any point. An operation either fails and
leaves the table as it was, or answers and goes on like the in-memory backend; where no statement
fails it does the latter. A statement that fails changes no row: a commit that the server carries
out although the client gets an error is outside of the model. So a client that is alone on its
connection sees what a client of an in-memory backend sees whose operations may fail without an
effect (`postgres_refines_memory`).
-/

namespace Fiddlesticks.Memory.Postgres

open Effect Prog Provider
open Filesystem (WritesAll)

variable {ι J : Type}

/-! ## A table without open transactions -/

/-- No transaction is open. -/
def Idle (db : Database ι J) : Prop :=
  ∀ key, (db key).writer = none

/-- A document without a lock. -/
def Row.stored (committed : Option J) : Row ι J :=
  { committed }

/-- Store a document outside of a transaction. -/
def Database.store (db : Database ι J) (key : String) (document : Option J) : Database ι J :=
  Function.update db key (Row.stored document)

section Idle

variable {db : Database ι J} {key : String}

/-- The rows of an idle table have no writers. -/
theorem Idle.row (h : Idle db) (key : String) : db key = Row.stored (db key).committed :=
  congrArg (Row.mk _) (h key)

/-- Storing what is stored changes nothing. -/
theorem Idle.store_self (h : Idle db) (key : String) : db.store key (db key).committed = db := by
  rw [Database.store, ← h.row key, Function.update_eq_self]

/-- Storing a document leaves the table idle. -/
theorem Idle.store (h : Idle db) (key : String) (document : Option J) :
    Idle (db.store key document) := by
  intro other
  by_cases hother : other = key
  · subst hother
    rw [Database.store, Function.update_self]
    rfl
  · rw [Database.store, Function.update_of_ne hother]
    exact h other

variable [DecidableEq ι] {i : ι}

/-- An idle table has no locks to release. -/
theorem Idle.release (h : Idle db) (key : String) : (db key).release i = db key := by
  rw [h.row key]
  rfl

/-- An idle table has nothing to publish. -/
theorem Idle.publish (h : Idle db) (key : String) : (db key).publish i = db key := by
  rw [h.row key]
  rfl

/-- What is visible of an idle table is committed. -/
theorem Idle.visible (h : Idle db) (key : String) : (db key).visible i = (db key).committed := by
  rw [h.row key]
  rfl

/-- The rows of an idle table are free. -/
theorem Idle.free (h : Idle db) (key : String) : (db key).free i = true := by
  rw [h.row key]
  rfl

/-- The row of a session in a transaction that has written nothing or `written`. -/
def Row.held (i : ι) (row : Row ι J) (written : Option J) : Row ι J :=
  { row with writer := some (i, written) }

/-- Rolling the transaction back restores the table. -/
theorem Idle.release_held (h : Idle db) (written : Option J) :
    (fun other => (Function.update db key ((db key).held i written) other).release i) = db := by
  funext other
  by_cases hother : other = key
  · subst hother
    rw [Function.update_self, Row.release, Row.held, Option.filter_some]
    simp only [ne_eq, not_true_eq_false, decide_false, Bool.false_eq_true, if_false]
    exact (h.row other).symm
  · rw [Function.update_of_ne hother, h.release]

/-- Committing it stores what it has written. -/
theorem Idle.publish_held (h : Idle db) (document : J) :
    (fun other => (Function.update db key ((db key).held i (some document)) other).publish i) =
      db.store key (some document) := by
  funext other
  rw [Database.store]
  by_cases hother : other = key
  · subst hother
    rw [Function.update_self, Function.update_self, Row.publish, Row.release, Row.held]
    simp [Row.visible, Row.pending, Row.stored]
  · rw [Function.update_of_ne hother, Function.update_of_ne hother, h.publish]

/-- The table in a transaction that has at most locked a row. -/
structure Locked (i : ι) (key : String) (db locked : Database ι J) : Prop where
  release : (fun other => (locked other).release i) = db
  free : (locked key).free i = true
  write : ∀ document, Function.update locked key ((locked key).write i document) =
    Function.update db key ((db key).held i (some document))

/-- `SELECT … FOR UPDATE` finds the stored document and locks at most its row. -/
theorem Idle.serve_selectForUpdate (h : Idle db) (i : ι) (key : String) : ∃ locked,
    (PostgresOp.selectForUpdate key).serve i db = some ((db key).committed, locked) ∧
      Locked i key db locked := by
  cases hrow : (db key).committed with
  | none =>
      refine ⟨db, ?_, funext fun _ => h.release _, h.free key, fun _ => rfl⟩
      rw [PostgresOp.serve, h.visible, hrow]
  | some document =>
      have hlock : (db key).lock i = (db key).held i none := by
        rw [h.row key]
        rfl
      refine ⟨Function.update db key ((db key).lock i), ?_, ?_, ?_, fun written => ?_⟩
      · rw [PostgresOp.serve, h.visible, hrow]
        exact if_pos (h.free key)
      · rw [hlock]
        exact h.release_held none
      · rw [Function.update_self, hlock, Row.free, Row.held, Option.all_some, decide_eq_true rfl]
      · rw [Function.update_idem, Function.update_self]
        rfl

end Idle

/-! ## Rules for statements -/

section Rules

variable [DecidableEq ι] {i : ι} {fails : Prop} {db : Database ι J}

/-- What may happen to an operation of connection `i` when statements fail only if `fails`. -/
def ActsIf (fails : Prop) (i : ι) (db : Database ι J) (e : Event (PostgresSig J))
    (db' : Database ι J) : Prop :=
  Acts i db e db' ∧ ∀ error, e.ans = .error error → fails

/-- The operation of connection `i` need not wait. -/
def Ready (i : ι) (db : Database ι J) (op : PostgresOp J) : Prop :=
  ∃ result db', op.serve i db = some (result, db')

/-- A part of the backend never waits and ends as stated. -/
abbrev Ends {α : Type} (fails : Prop) (i : ι) (Q : Except MemoryError α → Database ι J → Prop)
    (p : PostgresM J α) (db : Database ι J) : Prop :=
  Correct (ActsIf fails i) (Ready i) Q p.run db

variable {α β : Type} {Q : Except MemoryError α → Database ι J → Prop}
  {R : Except MemoryError β → Database ι J → Prop}

/-- A part that returns here ends as stated. -/
theorem ends_pure {value : α} (h : Q (.ok value) db) : Ends fails i Q (pure value) db :=
  (correct_pure _).mpr h

/-- So does one that fails here. -/
theorem ends_throw {error : MemoryError} (h : Q (.error error) db) :
    Ends fails i Q (throw error) db :=
  (correct_pure _).mpr h

/-- So does a pure check. -/
theorem ends_lift {result : Except MemoryError α} (h : Q result db) :
    Ends fails i Q (liftM result) db :=
  (correct_pure _).mpr h

/-- An operation is served or fails. -/
theorem ends_execute {context : String} {op : PostgresOp J} {db' : Database ι J}
    {result : op.Result} {Q : Except MemoryError op.Result → Database ι J → Prop}
    (hserve : op.serve i db = some (result, db')) (hserved : Q (.ok result) db')
    (hfailed : fails → ∀ error, Q (.error error) (op.abandon i db)) :
    Ends fails i Q (execute context op) db := by
  refine (correct_map _ _).mpr
    ((correct_call _ _).mpr ⟨⟨_, _, hserve⟩, fun answer after hact => ?_⟩)
  refine (correct_pure _).mpr ?_
  obtain ⟨hact, hfails⟩ := hact
  cases hact with
  | served hserve' =>
      rw [hserve] at hserve'
      cases hserve'
      exact hserved
  | failed _ error => exact hfailed (hfails error rfl) _

/-- Go on after an operation. -/
theorem execute_ends {context : String} {op : PostgresOp J} {f : op.Result → PostgresM J β}
    {db' : Database ι J} {result : op.Result} (hserve : op.serve i db = some (result, db'))
    (hserved : Ends fails i R (f result) db')
    (hfailed : fails → ∀ error, R (.error error) (op.abandon i db)) :
    Ends fails i R (execute context op >>= f) db := by
  have hexecute : Ends fails i (fun result db' =>
      (∀ value, result = .ok value → Ends fails i R (f value) db') ∧
        ∀ error, result = .error error → R (.error error) db') (execute context op) db := by
    refine ends_execute hserve ⟨?_, by simp⟩ fun hfails error => ⟨by simp, ?_⟩
    · rintro _ ⟨⟩
      exact hserved
    · rintro _ ⟨⟩
      exact hfailed hfails error
  exact correct_except_seq hexecute (fun value db' h => h.1 value rfl)
    fun error db' h => h.2 error rfl

/-- Go on after a part of a transaction, which is dropped when the part fails. -/
theorem orDrop_ends {p : PostgresM J α} {f : α → PostgresM J β} (hp : Ends fails i
      (fun result db' => (∀ value, result = .ok value → Ends fails i R (f value) db') ∧
        ∀ error, result = .error error → R (.error error) (fun key => (db' key).release i)) p db) :
    Ends fails i R (orDrop p >>= f) db := by
  refine (correct_bind (orDrop p).run _).mpr ?_
  refine (correct_bind p.run _).mpr (Correct.mono hp fun result db' hresult => ?_)
  cases result with
  | ok value => exact (correct_pure _).mpr (hresult.1 value rfl)
  | error error =>
      have hdropped := hresult.2 error rfl
      refine (correct_call (S := PostgresSig J) .dropTransaction _).mpr
        ⟨⟨_, _, rfl⟩, fun answer db'' hact => ?_⟩
      obtain ⟨hact, -⟩ := hact
      cases hact with
      | served hserve =>
          cases hserve
          exact (correct_pure _).mpr ((correct_pure _).mpr hdropped)
      | failed => exact (correct_pure _).mpr ((correct_pure _).mpr hdropped)

/-- Connecting changes nothing. -/
theorem connectClient_ends {f : Unit → PostgresM J β} (hf : Ends fails i R (f ()) db)
    (hfailed : fails → ∀ error, R (.error error) db) :
    Ends fails i R (connectClient >>= f) db := by
  rw [connectClient, LawfulMonad.bind_assoc]
  exact execute_ends rfl (execute_ends rfl hf hfailed) hfailed

/-- Loading returns the stored document. -/
theorem loadState_ends {json : StateJson J} {sessionId : SessionId} {document : PersistedState}
    {f : Option PersistedState → PostgresM J β}
    (hstored : storedDocument json (db sessionId.value).committed = .ok document)
    (hf : ∀ found : Option PersistedState, found.getD {} = document → Ends fails i R (f found) db)
    (hfailed : fails → ∀ error, R (.error error) db) :
    Ends fails i R (loadState json sessionId >>= f) db := by
  rw [loadState, LawfulMonad.bind_assoc]
  refine execute_ends rfl ?_ hfailed
  cases hrow : (db sessionId.value).committed with
  | none =>
      rw [hrow] at hstored
      cases hstored
      exact hf none rfl
  | some value =>
      rw [hrow] at hstored
      have hvalue : json.fromValue value = .ok document := hstored
      show Ends fails i R (liftM (convert _ (json.fromValue value)) >>= _ >>= f) db
      rw [hvalue]
      exact hf (some document) rfl

/-- Saving stores the document. -/
theorem saveState_ends {json : StateJson J} {sessionId : SessionId} {document : PersistedState}
    {Q : Except MemoryError Unit → Database ι J → Prop} (hidle : Idle db)
    (hserved : ∀ value, json.toValue document = .ok value →
      Q (.ok ()) (db.store sessionId.value (some value)))
    (hfailed : fails ∨ ¬ WritesAll json → ∀ error, Q (.error error) db) :
    Ends fails i Q (saveState json sessionId document) db := by
  rw [saveState]
  cases hvalue : json.toValue document with
  | error error =>
      refine ends_throw (hfailed (.inr fun hwrites => ?_) _)
      obtain ⟨value, hwritten⟩ := hwrites document
      rw [hvalue] at hwritten
      cases hwritten
  | ok value =>
      have hserve : (PostgresOp.upsert sessionId.value value).serve i db =
          some ((), db.store sessionId.value (some value)) := by
        rw [PostgresOp.serve, hidle, Option.isNone_none, if_pos rfl]
        rfl
      exact ends_execute hserve (hserved value hvalue) fun hfails => hfailed (.inl hfails)

end Rules

/-! ## One operation -/

section Operations

variable {fails : Prop} {db : Database ι J} {json : StateJson J}

/-- An operation is excused from its work: a statement has failed, or a record or document is one
that cannot be stored. -/
def Excused (fails : Prop) (json : StateJson J) (op : MemoryOp) : Prop :=
  fails ∨ ¬ op.Admissible ∨ ¬ WritesAll json

/-- An operation answers and goes on like the in-memory backend, or it is excused and fails with the
table as it was. -/
inductive Outcome (fails : Prop) (json : StateJson J) (db : Database ι J) (op : MemoryOp)
    (state : SessionState) : op.Answer → Database ι J → Prop where
  | done (row : Option J) : Stores json op.sessionId row (state.apply op).2 →
      Outcome fails json db op state (state.apply op).1 (db.store op.sessionId.value row)
  | failed (error : MemoryError) : Excused fails json op →
      Outcome fails json db op state (.error error) db

/-- An operation that stores what it comes to has an outcome of the session. -/
theorem Outcome.of_apply {op : MemoryOp} {state state' : SessionState} {answer : op.Answer}
    (happly : state.apply op = (answer, state')) {row : Option J}
    (hrow : Stores json op.sessionId row state') :
    Outcome fails json db op state answer (db.store op.sessionId.value row) := by
  have hdone : Outcome fails json db op state (state.apply op).1
      (db.store op.sessionId.value row) := .done row (by rw [happly]; exact hrow)
  rwa [happly] at hdone

/-- An operation that only reads, or finds nothing to change. -/
theorem Outcome.of_same {op : MemoryOp} {state : SessionState} {answer : op.Answer}
    (hidle : Idle db)
    (hstored : Stores json op.sessionId (db op.sessionId.value).committed state)
    (happly : state.apply op = (answer, state)) : Outcome fails json db op state answer db := by
  have hdone : Outcome fails json db op state answer _ := .of_apply happly hstored
  rwa [hidle.store_self] at hdone

variable [DecidableEq ι] {i : ι}
variable {sessionId : SessionId} {document : PersistedState} {state : SessionState}

/-- An update whose change succeeds stores the changed document, and one whose change fails does
nothing. -/
theorem updateState_ends {change : PersistedState → Except MemoryError PersistedState}
    {Q : Except MemoryError Unit → Database ι J → Prop} (hidle : Idle db)
    (hstored : storedDocument json (db sessionId.value).committed = .ok document)
    (hchanged : ∀ changed value, change document = .ok changed →
      json.fromValue value = .ok changed → Q (.ok ()) (db.store sessionId.value (some value)))
    (hunchanged : ∀ error, change document = .error error → Q (.error error) db)
    (hfailed : fails ∨ ¬ WritesAll json → ∀ error, Q (.error error) db) :
    Ends fails i Q (updateState json sessionId change) db := by
  have hfails : fails → ∀ error, Q (.error error) db := fun h => hfailed (.inl h)
  rw [updateState]
  refine connectClient_ends (loadState_ends hstored (fun found hfound => ?_) hfails) hfails
  subst hfound
  cases hchange : change (found.getD {}) with
  | error error => exact ends_throw (hunchanged error hchange)
  | ok changed =>
      refine saveState_ends hidle (fun value hvalue => ?_) hfailed
      exact hchanged changed value hchange (json.fromValue_toValue hvalue)

/-- The updates follow the in-memory backend when their change succeeds, and fail only if they are
excused otherwise. -/
theorem update_ends (update : Update) {Q : Except MemoryError Unit → Database ι J → Prop}
    (hidle : Idle db)
    (hstored : storedDocument json (db sessionId.value).committed = .ok document)
    (hrepresents : document.Represents sessionId state)
    (hkeys : ∀ manifest ∈ (update.op sessionId).manifests, manifest.sessionId = sessionId)
    (hdone : ∀ changed row, update.change document = .ok changed →
      Stores json sessionId row (state.apply (update.op sessionId)).2 →
      Q (.ok ()) (db.store sessionId.value row))
    (hunchanged : ∀ error, update.change document = .error error → Q (.error error) db)
    (hfailed : fails ∨ ¬ WritesAll json → ∀ error, Q (.error error) db) :
    Ends fails i Q (updateState json sessionId update.change) db :=
  updateState_ends hidle hstored
    (fun changed value hchange hvalue => hdone changed (some value) hchange
      ⟨changed, hvalue, Update.represents_change hrepresents hchange hkeys⟩)
    hunchanged hfailed

/-- The rest of an initialization that has found the document of its session. -/
theorem transaction_ends {locked : Database ι J} (hidle : Idle db)
    (hlocked : Locked i sessionId.value db locked)
    (hstored : Stores json sessionId (db sessionId.value).committed state)
    (hrepresents : document.Represents sessionId state) {manifest : SessionManifest}
    (hkey : manifest.sessionId = sessionId) (featureList : List FeatureRecord)
    (entry : Option ProgressEntry) (checkpoint : Option RunCheckpoint) :
    Ends fails i (Outcome fails json db
        (.initializeSessionIfMissing sessionId manifest featureList entry checkpoint) state)
      (do
        if document.manifest.isSome then
          execute "failed to rollback tx" .rollback
          return false
        let value ← orDrop (liftM (Initialization.document json
          ⟨manifest, featureList, entry, checkpoint⟩ document))
        orDrop <| execute "failed to write initialized session state"
          (.upsertInTransaction sessionId.value value)
        execute "failed to commit tx" .commit
        return true) locked := by
  have hsome := hrepresents.manifest_isSome
  have hdropped : ∀ error, Excused fails json
      (.initializeSessionIfMissing sessionId manifest featureList entry checkpoint) →
      Outcome fails json db
        (.initializeSessionIfMissing sessionId manifest featureList entry checkpoint) state
        (.error error) (fun key => (locked key).release i) := by
    intro error hexcused
    rw [hlocked.release]
    exact .failed error hexcused
  by_cases hmanifest : document.manifest.isSome = true
  · -- The session is initialized: the rollback releases its row.
    rw [if_pos hmanifest]
    have happly : state.apply (.initializeSessionIfMissing sessionId manifest featureList entry
        checkpoint) = (.ok false, state) := if_pos (hsome ▸ hmanifest)
    refine execute_ends rfl (ends_pure ?_) fun hfails error => hdropped _ (.inl hfails)
    rw [hlocked.release]
    exact .of_same hidle hstored happly
  · rw [if_neg hmanifest]
    have happly : state.apply (.initializeSessionIfMissing sessionId manifest featureList entry
        checkpoint) = (.ok true, { state with
          manifest := some manifest
          featureList
          progress := state.progress ++ entry.toList
          checkpoints := state.checkpoints ++ checkpoint.toList }) := if_neg (hsome ▸ hmanifest)
    refine orDrop_ends (ends_lift ⟨fun value hvalue => ?_, fun error herror => ?_⟩)
    · obtain ⟨changed, hchanged, hwritten⟩ := bind_eq_ok.mp hvalue
      have hserve : (PostgresOp.upsertInTransaction sessionId.value value).serve i locked =
          some ((), Function.update db sessionId.value
            ((db sessionId.value).held i (some value))) := by
        rw [PostgresOp.serve, if_pos hlocked.free, hlocked.write]
      refine orDrop_ends (ends_execute hserve ⟨?_, by simp⟩ fun hfails error => ⟨by simp, ?_⟩)
      · rintro _ -
        refine execute_ends rfl (ends_pure ?_) fun hfails error => ?_
        · rw [hidle.publish_held]
          refine .of_apply happly ⟨changed, ?_, ?_⟩
          · cases htoValue : json.toValue changed with
            | error error =>
                rw [htoValue] at hwritten
                cases hwritten
            | ok written =>
                rw [htoValue] at hwritten
                cases hwritten
                exact json.fromValue_toValue htoValue
          · subst hkey
            exact hrepresents.initializeSession hchanged
        · rw [PostgresOp.abandon, hidle.release_held]
          exact .failed _ (.inl hfails)
      · rintro _ ⟨⟩
        exact hdropped error (.inl hfails)
    · refine hdropped error (.inr (not_and_or.mp ?_))
      rintro ⟨hop, hwrites⟩
      obtain ⟨changed, hchanged⟩ := document.initializeSession_ok manifest featureList hop.times
      obtain ⟨value, hvalue⟩ := hwrites changed
      rw [Initialization.document, hchanged] at herror
      change convert _ (json.toValue changed) = _ at herror
      rw [hvalue] at herror
      cases herror

/-- An initialization follows the in-memory backend. -/
theorem initializeSessionIfMissing_ends (hidle : Idle db)
    (hstored : Stores json sessionId (db sessionId.value).committed state)
    {manifest : SessionManifest} (hkey : manifest.sessionId = sessionId)
    (featureList : List FeatureRecord) (entry : Option ProgressEntry)
    (checkpoint : Option RunCheckpoint) :
    Ends fails i (Outcome fails json db
        (.initializeSessionIfMissing sessionId manifest featureList entry checkpoint) state)
      (initializeSessionIfMissing json sessionId ⟨manifest, featureList, entry, checkpoint⟩)
      db := by
  have hfailed : fails → ∀ error, Outcome fails json db
      (.initializeSessionIfMissing sessionId manifest featureList entry checkpoint) state
      (.error error) db := fun hfails error => .failed error (.inl hfails)
  obtain ⟨document, hdocument, hrepresents⟩ := hstored
  rw [initializeSessionIfMissing]
  refine connectClient_ends ?_ hfailed
  refine execute_ends rfl ?_ hfailed
  obtain ⟨locked, hserve, hlocked⟩ := hidle.serve_selectForUpdate i sessionId.value
  refine orDrop_ends (ends_execute hserve ⟨?_, by simp⟩ fun hfails error => ⟨by simp, ?_⟩)
  · rintro _ ⟨⟩
    have hexisting : existingState json (db sessionId.value).committed = .ok document := by
      cases hrow : (db sessionId.value).committed with
      | none =>
          rw [hrow] at hdocument
          cases hdocument
          rfl
      | some value =>
          rw [hrow] at hdocument
          rw [existingState, show json.fromValue value = _ from hdocument]
          rfl
    rw [hexisting]
    refine orDrop_ends (ends_lift ⟨?_, by simp⟩)
    rintro _ ⟨⟩
    exact transaction_ends hidle hlocked ⟨document, hdocument, hrepresents⟩ hrepresents hkey
      featureList entry checkpoint
  · rintro _ ⟨⟩
    rw [show (fun key => (PostgresOp.abandon i db _ key).release i) = db from
      funext fun key => hidle.release key]
    exact hfailed hfails error

/-- Every operation follows the in-memory backend unless it is excused. -/
theorem operation_ends {op : MemoryOp} (hidle : Idle db)
    (hstored : Stores json op.sessionId (db op.sessionId.value).committed state)
    (hkeys : ∀ manifest ∈ op.manifests, manifest.sessionId = op.sessionId) :
    Ends fails i (Outcome fails json db op state) (operation json op) db := by
  have hfailed : fails → ∀ error, Outcome fails json db op state (.error error) db :=
    fun hfails error => .failed error (.inl hfails)
  have hunwritten : fails ∨ ¬ WritesAll json → ∀ error,
      Outcome fails json db op state (.error error) db :=
    fun h error => .failed error (h.imp_right .inr)
  obtain ⟨document, hdocument, hrepresents⟩ := id hstored
  cases op with
  | isInitialized sessionId =>
      refine connectClient_ends (loadState_ends hdocument (fun found hfound => ?_) hfailed) hfailed
      subst hfound
      refine ends_pure (.of_same hidle hstored ?_)
      rw [SessionState.apply, ← hrepresents.manifest_isSome]
      cases found <;> rfl
  | initializeSessionIfMissing sessionId manifest featureList entry checkpoint =>
      exact initializeSessionIfMissing_ends hidle hstored
        (hkeys manifest (List.mem_singleton_self _)) featureList entry checkpoint
  | loadBootstrapState sessionId =>
      refine connectClient_ends (loadState_ends hdocument (fun found hfound => ?_) hfailed) hfailed
      subst hfound
      have hbootstrap := hrepresents.bootstrap
      cases found with
      | none =>
          have hstate : ({} : BootstrapState) = state.bootstrap := Except.ok.inj hbootstrap
          refine ends_pure (.of_same hidle hstored ?_)
          rw [SessionState.apply, hstate]
      | some found =>
          refine ends_lift (.of_same hidle hstored ?_)
          rw [SessionState.apply, ← hbootstrap]
          rfl
  | saveManifest sessionId manifest =>
      refine update_ends (.saveManifest manifest) hidle hdocument hrepresents hkeys
        (fun changed row _ hrow => .done row hrow) (fun error hchange => ?_) hunwritten
      obtain ⟨persisted, hpersisted⟩ := PersistedManifest.fromManifest_ok manifest
      rw [Update.change, PersistedState.saveManifest, hpersisted] at hchange
      cases hchange
  | appendProgressEntry sessionId entry =>
      refine update_ends (.appendProgressEntry entry) hidle hdocument hrepresents hkeys
        (fun changed row _ hrow => .done row hrow) (fun error hchange => ?_) hunwritten
      refine .failed error (.inr (.inl fun hop => ?_))
      obtain ⟨persisted, hpersisted⟩ := PersistedProgressEntry.fromEntry_ok hop.times
      rw [Update.change, PersistedState.appendProgressEntry, hpersisted] at hchange
      cases hchange
  | replaceFeatureList sessionId features =>
      exact update_ends (.replaceFeatureList features) hidle hdocument hrepresents hkeys
        (fun changed row _ hrow => .done row hrow) (fun error hchange => by cases hchange)
        hunwritten
  | updateFeaturePass sessionId featureId passes =>
      -- The feature may be missing from the document, exactly when it is missing from the state.
      have hset := PersistedState.map_setPasses featureId passes document.featureList
      rw [(PersistedState.represents_iff.mp hrepresents).2.1] at hset
      have hoperation : operation json (.updateFeaturePass sessionId featureId passes) =
          updateState json sessionId (Update.updateFeaturePass featureId passes).change := rfl
      rw [hoperation]
      cases hfound : PersistedState.setPasses featureId passes document.featureList with
      | none =>
          rw [hfound] at hset
          have happly : state.apply (.updateFeaturePass sessionId featureId passes) =
              (.error (.notFound s!"feature '{featureId}' not found"), state) := by
            rw [SessionState.apply, ← hset]
            rfl
          have hchange : (Update.updateFeaturePass featureId passes).change document =
              .error (.notFound s!"feature '{featureId}' not found") := by
            rw [Update.change, PersistedState.updateFeaturePass, hfound]
          refine update_ends _ hidle hdocument hrepresents hkeys (fun changed row h => ?_)
            (fun error h => ?_) hunwritten
          · rw [hchange] at h
            cases h
          · rw [hchange] at h
            cases h
            exact .of_same hidle hstored happly
      | some features =>
          rw [hfound] at hset
          have happly : state.apply (.updateFeaturePass sessionId featureId passes) =
              (.ok (), (state.apply (.updateFeaturePass sessionId featureId passes)).2) := by
            rw [SessionState.apply, ← hset]
            rfl
          have hchange : (Update.updateFeaturePass featureId passes).change document =
              .ok { document with featureList := features } := by
            rw [Update.change, PersistedState.updateFeaturePass, hfound]
          refine update_ends _ hidle hdocument hrepresents hkeys
            (fun changed row _ hrow => .of_apply happly hrow) (fun error h => ?_) hunwritten
          rw [hchange] at h
          cases h
  | recordRunCheckpoint sessionId checkpoint =>
      refine update_ends (.recordRunCheckpoint checkpoint) hidle hdocument hrepresents hkeys
        (fun changed row _ hrow => .done row hrow) (fun error hchange => ?_) hunwritten
      refine .failed error (.inr (.inl fun hop => ?_))
      obtain ⟨persisted, hpersisted⟩ := PersistedRunCheckpoint.fromCheckpoint_ok hop.times
      rw [Update.change, PersistedState.recordRunCheckpoint, hpersisted] at hchange
      cases hchange
  | loadTranscriptMessages sessionId =>
      refine connectClient_ends (loadState_ends hdocument (fun found hfound => ?_) hfailed) hfailed
      subst hfound
      have htranscript := hrepresents.transcript
      cases found with
      | none =>
          have hstate : ([] : List Message) = state.transcript := Except.ok.inj htranscript
          refine ends_pure (.of_same hidle hstored ?_)
          rw [SessionState.apply, hstate]
      | some found =>
          refine ends_lift (.of_same hidle hstored ?_)
          rw [SessionState.apply, ← htranscript]
          rfl
  | appendTranscriptMessages sessionId messages =>
      exact update_ends (.appendTranscriptMessages messages) hidle hdocument hrepresents hkeys
        (fun changed row _ hrow => .done row hrow) (fun error hchange => by cases hchange)
        hunwritten

end Operations

/-! ## Clients -/

section Clients

/-- No transaction is open, and the table holds a document of every session in memory. -/
structure Simulates (json : StateJson J) (db : Database ι J) (memory : InMemoryMemoryBackend) :
    Prop where
  idle : Idle db
  memoryNotPoisoned : memory.poisoned = false
  stored : ∀ sessionId : SessionId,
    Stores json sessionId (db sessionId.value).committed (memory.session sessionId)

/-- An empty table is an empty memory. -/
theorem simulates_empty (json : StateJson J) :
    Simulates json (fun _ => {} : Database ι J) .new :=
  ⟨fun _ => rfl, rfl, fun sessionId => ⟨{}, rfl, PersistedState.represents_default sessionId⟩⟩

variable {fails : Prop} {json : StateJson J} {db : Database ι J} {memory : InMemoryMemoryBackend}

/-- An outcome of an operation is one of the in-memory backend, which may be excused. -/
theorem Simulates.outcome (h : Simulates json db memory) {op : MemoryOp} {answer : op.Answer}
    {db' : Database ι J}
    (houtcome : Outcome fails json db op (memory.session op.sessionId) answer db') :
    ∃ memory', Flaky (Excused fails json) memory ⟨op, answer⟩ memory' ∧
      Simulates json db' memory' := by
  cases houtcome with
  | failed error hexcused => exact ⟨memory, .failed op error hexcused, h⟩
  | done row hrow =>
      obtain ⟨hanswer, hpoisoned⟩ :=
        InMemoryMemoryBackend.handle_of_not_poisoned op h.memoryNotPoisoned
      have hsession := InMemoryMemoryBackend.handle_session op memory
      rw [if_neg (by simp [h.memoryNotPoisoned])] at hsession
      refine ⟨(InMemoryMemoryBackend.handle op memory).2, hanswer ▸ .served op,
        h.idle.store _ _, hpoisoned, fun sessionId => ?_⟩
      rw [hsession, Database.store]
      by_cases hsame : sessionId = op.sessionId
      · subst hsame
        rw [Function.update_self, Function.update_self]
        exact hrow
      · have hkey : sessionId.value ≠ op.sessionId.value := fun heq =>
          hsame (congrArg SessionId.mk heq)
        rw [Function.update_of_ne hkey, Function.update_of_ne hsame]
        exact h.stored sessionId

/-- A client of the backend, statement by statement. -/
abbrev onPostgres {α : Type} (json : StateJson J) (client : Prog MemorySig α) :
    Prog (PostgresSig J) α :=
  client.translate fun op => (operation json op).run

end Clients

/-- A client of the Postgres backend never waits when it is alone, whatever statements fail, and it
sees what it could see of an in-memory backend whose excused operations may fail without an effect.
Where no statement fails and everything can be stored, it sees exactly the in-memory backend. -/
theorem postgres_refines_memory [DecidableEq ι] {α : Type} (json : StateJson J) (i : ι)
    (fails : Prop) (db : Database ι J) (memory : InMemoryMemoryBackend)
    (hsimulates : Simulates json db memory) (client : Prog MemorySig α)
    (hclient : client.Uses KeepsKeys) :
    (∃ value db', Steps (ActsIf fails i) (onPostgres json client) db (.pure value) db') ∧
    ∀ value db', Steps (ActsIf fails i) (onPostgres json client) db (.pure value) db' →
      ∃ memory', Steps (Flaky (Excused fails json)) client memory (.pure value) memory' ∧
        Simulates json db' memory' ∧
        (¬ fails → WritesAll json → client.Uses MemoryOp.Admissible →
          Prog.run InMemoryMemoryBackend.handle client memory = (value, memory')) := by
  have himplements : ∀ {op : MemoryOp} {db : Database ι J} {memory : InMemoryMemoryBackend},
      Simulates json db memory → KeepsKeys op →
      Correct (ActsIf fails i) (Ready i) (fun answer db' => ∃ memory',
        Flaky (Excused fails json) memory ⟨op, answer⟩ memory' ∧ Simulates json db' memory')
        (operation json op).run db := fun hsimulates hop =>
    Correct.mono (operation_ends hsimulates.idle (hsimulates.stored _) hop)
      fun answer db' houtcome => hsimulates.outcome houtcome
  have hcorrect : Correct (Flaky (Excused fails json)) (fun _ => KeepsKeys) (fun _ _ => True)
      client memory :=
    (hclient.correct (I := fun _ => True) (fun _ _ hop _ => hop) (fun _ _ _ _ _ _ => trivial)
      trivial)
  refine ⟨?_, fun value db' hrun => ?_⟩
  · refine (hcorrect.translate himplements hsimulates).to_end fun {db op} hready => ?_
    obtain ⟨result, db', hserve⟩ := hready
    exact ⟨.ok result, db', .served hserve, by simp⟩
  · obtain ⟨memory', hsteps, hsimulates'⟩ := Steps.refine (R := Simulates json)
      (fun hsimulates hop hsteps => (himplements hsimulates hop).returns hsteps) hcorrect
      hsimulates hrun
    refine ⟨memory', hsteps, hsimulates', fun hfails hwrites hadmissible => ?_⟩
    refine Flaky.run_eq (hadmissible.mono fun op hop => ?_) hsteps
    rintro (hfailed | hnot | hunwritten)
    · exact hfails hfailed
    · exact hnot hop
    · exact hunwritten hwrites

/-- A client that initializes a session, passes its feature and loads it. -/
def demoClient : Prog MemorySig (Except MemoryError BootstrapState) := do
  let _ ← Prog.request (S := MemorySig) (.initializeSessionIfMissing ⟨"demo"⟩
    (SessionManifest.new ⟨"demo"⟩ "main" "ship") [⟨"login", "core", "sign in", ["open"], false⟩]
    (some ⟨"run", "started", ⟨5, 0⟩⟩) none)
  let _ ← Prog.request (S := MemorySig) (.updateFeaturePass ⟨"demo"⟩ "login" true)
  Prog.request (S := MemorySig) (.loadBootstrapState ⟨"demo"⟩)

/-- The client of the demo issues operations that backends can store. -/
theorem demoClient_admissible : demoClient.Uses MemoryOp.Admissible := by
  refine (uses_call _ _).mpr ⟨⟨by decide, by simp [MemoryOp.manifests, MemoryOp.sessionId,
    SessionManifest.new]⟩, fun _ => ?_⟩
  refine (uses_call _ _).mpr ⟨⟨by decide, by simp [MemoryOp.manifests]⟩, fun _ => ?_⟩
  exact uses_request ⟨by decide, by simp [MemoryOp.manifests]⟩

/-- A server that loses the connection at every query. -/
def losingConnections (op : PostgresOp PersistedState) (db : Database Unit PersistedState) :
    Option (Except String op.Result × Database Unit PersistedState) :=
  match op with
  | .select _ => some (.error "connection closed", db)
  | op => respond () op db

/-- The server answers as the backend may be answered. -/
theorem actsIf_of_losing {op : PostgresOp PersistedState} {db db' : Database Unit PersistedState}
    {answer : Except String op.Result} (h : losingConnections op db = some (answer, db')) :
    ActsIf True () db ⟨op, answer⟩ db' := by
  refine ⟨?_, fun _ _ => trivial⟩
  cases op with
  | select sessionId =>
      cases h
      exact .failed db (.select sessionId) "connection closed"
  | _ => exact acts_of_respond h

/-- The error that the client sees when the server loses the connection. -/
def connectionLost : MemoryError :=
  .storage "failed to query session state: connection closed"

/-- Without failures the client sees what it sees in memory. Where the server loses the connection
it sees what it sees of a memory that fails. -/
theorem postgres_refines_memory_demo :
    (∃ value db' memory',
      Steps (ActsIf False ()) (onPostgres .plain demoClient) (fun _ => {}) (.pure value) db' ∧
        Prog.run InMemoryMemoryBackend.handle demoClient .new = (value, memory') ∧
        Simulates .plain db' memory') ∧
    ∃ db' memory', Steps (ActsIf True ()) (onPostgres .plain demoClient) (fun _ => {})
        (.pure (.error connectionLost)) db' ∧
      Steps (Flaky (Excused True StateJson.plain)) demoClient .new (.pure (.error connectionLost))
        memory' ∧
      Simulates .plain db' memory' := by
  have hrefines (fails : Prop) := postgres_refines_memory .plain () fails _ _
    (simulates_empty .plain) demoClient (demoClient_admissible.mono fun _ hop => hop.keys)
  refine ⟨?_, ?_⟩
  · obtain ⟨⟨value, db', hrun⟩, hruns⟩ := hrefines False
    obtain ⟨memory', -, hsimulates, hexact⟩ := hruns value db' hrun
    exact ⟨value, db', memory', hrun,
      hexact id (fun document => ⟨document, rfl⟩) demoClient_admissible, hsimulates⟩
  · obtain ⟨events, db', hexecute⟩ : ∃ events db', (onPostgres .plain demoClient).execute
        losingConnections (fun _ => {}) = some (events, .error connectionLost, db') :=
      ⟨_, _, rfl⟩
    have hrun := execute_steps actsIf_of_losing hexecute
    obtain ⟨memory', hsteps, hsimulates, -⟩ := (hrefines True).2 _ _ hrun
    exact ⟨db', memory', hrun, hsteps, hsimulates⟩

end Fiddlesticks.Memory.Postgres
