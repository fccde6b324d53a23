import Fiddlesticks.Memory.Sqlite.Scripts

/-!
# Trails

The trail of a program from a database is the list of records that one session has after each of
its statements. A program leaves all other sessions alone, and a failure of any statement ends it
with an error. So a trail says what a run without failures does and where a failing one can stop.
-/

namespace Fiddlesticks.Memory.Sqlite

open Effect Provider

variable {α β : Type} {lib : Libraries} {sessionId : SessionId} {db : Database}
variable {stored : StoredSession} {records rest : List StoredSession}

/-- Without failures, the program takes the session through the records of the trail and ends with
the result. A failure at any point ends the program with an error. -/
inductive Trail (lib : Libraries) (sessionId : SessionId) :
    Prog SqliteSig (Except MemoryError α) → Database → List StoredSession →
      Except MemoryError α → Prop where
  | done (result : Except MemoryError α) (db : Database) :
      Trail lib sessionId (.pure result) db [] result
  | run {statement : Statement}
      {next : Except SqlError statement.Result → Prog SqliteSig (Except MemoryError α)}
      {db value db' stored records result} :
      statement.run db = (.ok value, db') →
      Holds lib db' sessionId stored → OthersHeld lib sessionId db db' →
      (∀ error, ∃ error', next (.error error) = .pure (.error error')) →
      Trail lib sessionId (next (.ok value)) db' records result →
      Trail lib sessionId (.call (.run statement) next) db (stored :: records) result

namespace Trail

/-! ## Rules -/

/-- The sequencing rule: the second program goes on from where the first one stopped. -/
theorem bind {p : SqliteM α} {f : α → SqliteM β} {value : α} {result : Except MemoryError β}
    (hp : Trail lib sessionId p.run db records (.ok value)) (hdb : Holds lib db sessionId stored)
    (hf : ∀ db', Holds lib db' sessionId (records.getLastD stored) →
      Trail lib sessionId (f value).run db' rest result) :
    Trail lib sessionId (p >>= f).run db (records ++ rest) result := by
  change Trail lib sessionId (Prog.bind p.run (ExceptT.bindCont f)) db (records ++ rest) result
  generalize hok : Except.ok value = outcome at hp
  generalize p.run = program at hp
  induction hp generalizing stored with
  | done outcome db =>
      subst hok
      exact hf db hdb
  | run hrun hholds hothers hfailed _ ih =>
      refine .run hrun hholds hothers (fun error => ?_) (ih hholds ?_ hok)
      · obtain ⟨error', herror'⟩ := hfailed error
        exact ⟨error', by rw [herror']; rfl⟩
      · intro db' hdb'
        exact hf db' (by rwa [List.getLastD_cons])

/-- An error ends the whole program. -/
theorem bind_error {p : SqliteM α} {f : α → SqliteM β} {error : MemoryError}
    (hp : Trail lib sessionId p.run db records (.error error)) :
    Trail lib sessionId (p >>= f).run db records (.error error) := by
  change Trail lib sessionId (Prog.bind p.run (ExceptT.bindCont f)) db records (.error error)
  generalize hresult : Except.error error = outcome at hp
  generalize p.run = program at hp
  induction hp with
  | done outcome db =>
      subst hresult
      exact .done _ db
  | run hrun hholds hothers hfailed _ ih =>
      refine .run hrun hholds hothers (fun failure => ?_) (ih hresult)
      obtain ⟨error', herror'⟩ := hfailed failure
      exact ⟨error', by rw [herror']; rfl⟩

/-- Going on after a check that issues no statement. -/
theorem check {check : Except MemoryError α} {value : α} {f : α → SqliteM β}
    {result : Except MemoryError β} (hcheck : check = .ok value)
    (hf : Trail lib sessionId (f value).run db records result) :
    Trail lib sessionId (liftM check >>= f).run db records result := by
  subst hcheck
  exact hf

/-- A check that fails ends the program. -/
theorem check_error {check : Except MemoryError α} {error : MemoryError} {f : α → SqliteM β}
    (hcheck : check = .error error) :
    Trail lib sessionId (liftM check >>= f).run db [] (.error error) := by
  subst hcheck
  exact .done _ db

/-- Going on after a statement that only reads. -/
theorem read {statement : Statement} {convert : SqlError → MemoryError}
    {f : statement.Result → SqliteM β} {value : statement.Result} {result : Except MemoryError β}
    (hdb : Holds lib db sessionId stored) (hrun : statement.run db = (.ok value, db))
    (hf : Trail lib sessionId (f value).run db records result) :
    Trail lib sessionId (sql statement convert >>= f).run db (stored :: records) result :=
  .run hrun hdb (.refl lib sessionId db) (fun _ => ⟨_, rfl⟩) hf

/-- Ending with a statement. -/
theorem last {statement : Statement} {convert : SqlError → MemoryError} {db' : Database}
    {value : statement.Result} (hrun : statement.run db = (.ok value, db'))
    (hholds : Holds lib db' sessionId stored) (hothers : OthersHeld lib sessionId db db') :
    Trail lib sessionId (sql statement convert).run db [stored] (.ok value) :=
  .run hrun hholds hothers (fun _ => ⟨_, rfl⟩) (.done _ _)

/-- Without failures, the program ends with the result and the last record of the trail. -/
theorem run_handle {p : Prog SqliteSig (Except MemoryError α)} {result : Except MemoryError α}
    (hp : Trail lib sessionId p db records result) (hdb : Holds lib db sessionId stored) :
    ∃ db', Prog.run SqliteMemoryBackend.handle p ⟨db, false⟩ = (result, ⟨db', false⟩) ∧
      Holds lib db' sessionId (records.getLastD stored) ∧ OthersHeld lib sessionId db db' := by
  induction hp generalizing stored with
  | done result db => exact ⟨db, rfl, hdb, .refl lib sessionId db⟩
  | run hrun hholds hothers _ _ ih =>
      obtain ⟨db', hrest, hlast, hothers'⟩ := ih hholds
      refine ⟨db', ?_, by rwa [List.getLastD_cons], hothers.trans hothers'⟩
      simp only [Prog.run_call, SqliteMemoryBackend.handle, hrun]
      exact hrest

end Trail

/-- The trail of an operation, which first locks the connection. -/
inductive OperationTrail (lib : Libraries) (sessionId : SessionId) :
    SqliteM α → Database → List StoredSession → Except MemoryError α → Prop where
  | connection {f : Unit → SqliteM α} {db records result} :
      Trail lib sessionId (f ()).run db records result →
      OperationTrail lib sessionId (connection >>= f) db records result

/-- Without failures, an operation ends with the result and the last record of the trail. -/
theorem OperationTrail.run_handle {p : SqliteM α} {result : Except MemoryError α}
    (hp : OperationTrail lib sessionId p db records result) (hdb : Holds lib db sessionId stored) :
    ∃ db', Prog.run SqliteMemoryBackend.handle p.run ⟨db, false⟩ = (result, ⟨db', false⟩) ∧
      Holds lib db' sessionId (records.getLastD stored) ∧ OthersHeld lib sessionId db db' := by
  cases hp with
  | connection htrail => exact htrail.run_handle hdb

/-! ## Trails of changes -/

/-- The records after each of the changes. -/
def Change.trail : StoredSession → List Change → List StoredSession
  | _, [] => []
  | stored, change :: changes => change.apply stored :: trail (change.apply stored) changes

/-- A trail goes on from where its first part ends. -/
theorem Change.trail_append (first rest : List Change) (stored : StoredSession) :
    trail stored (first ++ rest) = trail stored first ++ trail (applyAll stored first) rest := by
  induction first generalizing stored with
  | nil => rfl
  | cons change first ih => exact congrArg _ (ih (change.apply stored))

/-- A trail ends with all of its changes applied. -/
@[simp] theorem Change.getLastD_trail (changes : List Change) (stored : StoredSession) :
    (trail stored changes).getLastD stored = applyAll stored changes := by
  induction changes generalizing stored with
  | nil => rfl
  | cons change changes ih =>
      rw [trail, List.getLastD_cons]
      exact ih (change.apply stored)

/-- A program that runs the writes of changes goes through their trail. -/
theorem Scripted.trail {p : SqliteM Unit} {changes : List Change}
    (hp : Scripted p (Change.writes lib sessionId stored changes))
    (hdb : Holds lib db sessionId stored) (hfits : Change.FitAll sessionId stored changes) :
    Trail lib sessionId p.run db (Change.trail stored changes) (.ok ()) := by
  induction changes generalizing p db stored with
  | nil =>
      cases hp
      exact .done _ db
  | cons change changes ih =>
      obtain ⟨db', hwrite, hholds, hothers⟩ := hdb.change change hfits.1
      rw [Change.writes] at hp
      cases hp with
      | write context _ hrest =>
          have hrun : (Statement.write (change.write lib sessionId stored)).run db =
              (.ok (), db') := by
            simp only [Statement.run, hwrite]
          exact .run hrun hholds hothers (fun _ => ⟨_, rfl⟩) (ih hrest hholds hfits.2)

/-- A single write that makes a change goes through one record. -/
theorem Holds.execute_trail (hdb : Holds lib db sessionId stored) (change : Change)
    (hfits : change.Fits sessionId stored) (context : String) :
    Trail lib sessionId (execute context (.write (change.write lib sessionId stored))).run db
      (Change.trail stored [change]) (.ok ()) :=
  (Scripted.execute context _).trail hdb ⟨hfits, trivial⟩

end Fiddlesticks.Memory.Sqlite
