import Fiddlesticks.Effect.Pool

/-!
# The Postgres table

`fmemory_session_state` under READ COMMITTED, shared by any number of connections. A row keeps its
committed document and the transaction that holds its lock. Statements are atomic: one that fails
changes nothing, one that finds its row locked waits, and readers outside see what is committed.
-/

namespace Fiddlesticks.Memory.Postgres

open Effect

variable {ι J : Type}

/-! ## Rows -/

/-- A row of `fmemory_session_state`, present once it has a `state_json`. The writer is the
transaction that holds the lock of the row, with the document that it wrote. -/
structure Row (ι J : Type) where
  committed : Option J := none
  writer : Option (ι × Option J) := none

/-- The rows by their primary key `session_id`. -/
abbrev Database (ι J : Type) := String → Row ι J

namespace Row

variable (i : ι) (row : Row ι J)

/-- Write a document, which takes the lock. -/
def write (document : J) : Row ι J :=
  { row with writer := some (i, some document) }

/-- A write leaves what is committed. -/
@[simp] theorem write_committed (document : J) :
    (row.write i document).committed = row.committed := rfl

/-- A written row belongs to its connection. -/
@[simp] theorem write_writer (document : J) :
    (row.write i document).writer = some (i, some document) := rfl

variable [DecidableEq ι]

/-- No other transaction holds the lock. -/
def free : Bool :=
  row.writer.all (·.1 = i)

/-- What a transaction has written and not yet committed. -/
def pending : Option J :=
  row.writer.bind fun writer => if writer.1 = i then writer.2 else none

/-- What a transaction sees of the row. -/
def visible : Option J :=
  (row.pending i).or row.committed

/-- Take the lock. -/
def lock : Row ι J :=
  { row with writer := some (i, row.pending i) }

/-- Release the lock and forget what was written. -/
def release : Row ι J :=
  { row with writer := row.writer.filter (·.1 ≠ i) }

/-- Release the lock and keep what was written. -/
def publish : Row ι J :=
  { row.release i with committed := row.visible i }

/-- A row is free for its writer and when it has none. -/
theorem free_iff : row.free i = true ↔ ∀ j written, row.writer = some (j, written) → j = i := by
  rw [free]
  cases hwriter : row.writer with
  | none => simp
  | some writer =>
      simp only [Option.all_some, decide_eq_true_eq, Option.some.injEq]
      constructor
      · rintro rfl j written rfl
        rfl
      · exact fun h => h _ _ rfl

/-- A lock leaves what is committed. -/
@[simp] theorem lock_committed : (row.lock i).committed = row.committed := rfl

/-- A release leaves what is committed. -/
@[simp] theorem release_committed : (row.release i).committed = row.committed := rfl

/-- A published row is released. -/
@[simp] theorem publish_writer : (row.publish i).writer = (row.release i).writer := rfl

variable {i row}

/-- A transaction locks a row that it does not hold yet. -/
theorem lock_writer (h : ∀ written, row.writer ≠ some (i, written)) :
    (row.lock i).writer = some (i, none) := by
  rw [lock, pending]
  cases hwriter : row.writer with
  | none => rfl
  | some writer =>
      obtain ⟨j, written⟩ := writer
      have hne : j ≠ i := fun heq => h written (heq ▸ hwriter)
      simp [hne]

/-- A transaction that holds no lock sees what is committed. -/
theorem visible_eq_committed (h : ∀ written, row.writer ≠ some (i, written)) :
    row.visible i = row.committed := by
  rw [visible, pending]
  cases hwriter : row.writer with
  | none => rfl
  | some writer =>
      obtain ⟨j, written⟩ := writer
      have hne : j ≠ i := fun heq => h written (heq ▸ hwriter)
      simp [hne]

/-- A transaction sees its own write. -/
theorem visible_of_written {document : J} (h : row.writer = some (i, some document)) :
    row.visible i = some document := by
  simp [visible, pending, h]

/-- Releasing a row frees it from its holder. -/
theorem release_writer_self {written : Option J} (h : row.writer = some (i, written)) :
    (row.release i).writer = none := by
  simp [release, h]

/-- Releasing a row leaves it to another holder. -/
theorem release_writer_eq_some {j : ι} {written : Option J} :
    (row.release i).writer = some (j, written) ↔
      row.writer = some (j, written) ∧ j ≠ i := by
  simp [release, Option.filter_eq_some_iff]

end Row

/-! ## Statements -/

/-- What the backend asks of its database client. The middle four are the statements of a
transaction; `dropTransaction` is the rollback of a transaction that goes out of scope. -/
inductive PostgresOp (J : Type) where
  | connect
  | createTable
  | select (sessionId : String)
  | upsert (sessionId : String) (document : J)
  | begin
  | selectForUpdate (sessionId : String)
  | upsertInTransaction (sessionId : String) (document : J)
  | rollback
  | commit
  | dropTransaction

namespace PostgresOp

/-- The result of an operation that succeeds. -/
abbrev Result : PostgresOp J → Type
  | .select _ => Option J
  | .selectForUpdate _ => Option J
  | _ => Unit

/-- The effect of an operation that fails: the ends of a transaction release its locks. -/
def abandon [DecidableEq ι] (i : ι) (db : Database ι J) : PostgresOp J → Database ι J
  | .rollback => fun sessionId => (db sessionId).release i
  | .commit => fun sessionId => (db sessionId).release i
  | .dropTransaction => fun sessionId => (db sessionId).release i
  | _ => db

/-- The effect of an operation that succeeds, or nothing while it waits for a lock. -/
def serve [DecidableEq ι] (i : ι) (db : Database ι J) :
    (op : PostgresOp J) → Option (op.Result × Database ι J)
  | .connect => some ((), db)
  | .createTable => some ((), db)
  | .select sessionId => some ((db sessionId).committed, db)
  | .upsert sessionId document =>
      if (db sessionId).writer.isNone then
        some ((), Function.update db sessionId { committed := some document })
      else none
  | .begin => some ((), db)
  | .selectForUpdate sessionId =>
      match (db sessionId).visible i with
      | none => some (none, db)
      | some document =>
          if (db sessionId).free i then
            some (some document, Function.update db sessionId ((db sessionId).lock i))
          else none
  | .upsertInTransaction sessionId document =>
      if (db sessionId).free i then
        some ((), Function.update db sessionId ((db sessionId).write i document))
      else none
  | .rollback => some ((), fun sessionId => (db sessionId).release i)
  | .commit => some ((), fun sessionId => (db sessionId).publish i)
  | .dropTransaction => some ((), fun sessionId => (db sessionId).release i)

section serve

variable [DecidableEq ι] {i : ι} {db db' : Database ι J} {sessionId : String}

/-- A `SELECT … FOR UPDATE` that is served locks the row that it finds. -/
theorem serve_selectForUpdate {found : Option J}
    (h : (selectForUpdate sessionId).serve i db = some (found, db')) :
    (db sessionId).visible i = found ∧ (found = none ∧ db' = db ∨
      (db sessionId).free i = true ∧ found.isSome ∧
        db' = Function.update db sessionId ((db sessionId).lock i)) := by
  rw [serve.eq_def] at h
  cases hvisible : (db sessionId).visible i with
  | none =>
      simp only [hvisible] at h
      cases h
      exact ⟨rfl, .inl ⟨rfl, rfl⟩⟩
  | some document =>
      simp only [hvisible] at h
      by_cases hfree : (db sessionId).free i = true
      · rw [if_pos hfree] at h
        cases h
        exact ⟨rfl, .inr ⟨hfree, rfl, rfl⟩⟩
      · rw [if_neg hfree] at h
        cases h

/-- An upsert of a transaction that is served finds the row free. -/
theorem serve_upsertInTransaction {document : J} {result : Unit}
    (h : (upsertInTransaction sessionId document).serve i db = some (result, db')) :
    (db sessionId).free i = true ∧
      db' = Function.update db sessionId ((db sessionId).write i document) := by
  rw [serve.eq_def] at h
  by_cases hfree : (db sessionId).free i = true
  · simp only [hfree, if_pos] at h
    cases h
    exact ⟨hfree, rfl⟩
  · simp [hfree] at h

end serve

end PostgresOp

/-- The signature of the backend. -/
abbrev PostgresSig (J : Type) : Sig := ⟨PostgresOp J, fun op => Except String op.Result⟩

/-- What may happen to an operation of connection `i`. -/
inductive Acts [DecidableEq ι] (i : ι) :
    Database ι J → Event (PostgresSig J) → Database ι J → Prop where
  | served {db : Database ι J} {op : PostgresOp J} {result db'} :
      op.serve i db = some (result, db') → Acts i db ⟨op, .ok result⟩ db'
  | failed (db : Database ι J) (op : PostgresOp J) (error : String) :
      Acts i db ⟨op, .error error⟩ (op.abandon i db)

/-- Answer an operation that need not wait. -/
def respond [DecidableEq ι] (i : ι) (op : PostgresOp J) (db : Database ι J) :
    Option ((PostgresSig J).Ans op × Database ι J) :=
  (op.serve i db).map fun (result, db') => (.ok result, db')

/-- Answers without failures are what may happen. -/
theorem acts_of_respond [DecidableEq ι] {i : ι} {op : (PostgresSig J).Op} {db db' : Database ι J}
    {answer : (PostgresSig J).Ans op} (h : respond i op db = some (answer, db')) :
    Acts i db ⟨op, answer⟩ db' := by
  obtain ⟨⟨result, db'⟩, hserve, heq⟩ := Option.map_eq_some_iff.mp h
  cases heq
  exact .served hserve

end Fiddlesticks.Memory.Postgres
