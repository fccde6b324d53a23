import Fiddlesticks.Memory.Postgres.Backend
import Fiddlesticks.Memory.Updates

/-!
# Concurrent updates on Postgres

An update stores the whole document that it loaded, with its change applied. So concurrent updates
behave like the in-memory backend, one after the other in the order in which they store, as long as
each stores over the document that it loaded.
-/

namespace Fiddlesticks.Memory.Postgres

open Effect Provider

variable {ι J : Type}

/-! ## Updates -/

/-- The call of an update on the Postgres backend. -/
def program (json : StateJson J) (sessionId : SessionId) : Update → PostgresM J Unit
  | .saveManifest manifest => Postgres.saveManifest json sessionId manifest
  | .appendProgressEntry entry => Postgres.appendProgressEntry json sessionId entry
  | .replaceFeatureList features => Postgres.replaceFeatureList json sessionId features
  | .updateFeaturePass featureId passes =>
      Postgres.updateFeaturePass json sessionId featureId passes
  | .recordRunCheckpoint checkpoint => Postgres.recordRunCheckpoint json sessionId checkpoint
  | .appendTranscriptMessages messages =>
      Postgres.appendTranscriptMessages json sessionId messages

/-- Every update loads the document, changes it and stores it. -/
theorem program_eq (json : StateJson J) (sessionId : SessionId) (update : Update) :
    program json sessionId update = updateState json sessionId update.change := by
  cases update <;> rfl

/-! ## What the table stores -/

variable (json : StateJson J) (sessionId : SessionId)

/-- The document that an event outside of a transaction stores. -/
def stores : Event (PostgresSig J) → Option J
  | ⟨.upsert key value, .ok _⟩ => if key = sessionId.value then some value else none
  | _ => none

/-- The row after the events of a trace. -/
def storedAfter (row : Option J) (trace : Trace (PostgresSig J) ι) : Option J :=
  trace.foldl (fun row entry => (stores sessionId entry.2).or row) row

/-- The last step leaves what it stores. -/
@[simp] theorem stored_after_snoc (row : Option J) (trace : Trace (PostgresSig J) ι)
    (entry : ι × Event (PostgresSig J)) :
    storedAfter sessionId row (trace ++ [entry]) =
      (stores sessionId entry.2).or (storedAfter sessionId row trace) := by
  simp [storedAfter]

/-! ## What an update does -/

/-- The operations of an update. -/
inductive UpdateOp : PostgresOp J → Prop where
  | connect : UpdateOp .connect
  | createTable : UpdateOp .createTable
  | select : UpdateOp (.select sessionId.value)
  | upsert (value : J) : UpdateOp (.upsert sessionId.value value)

variable {json sessionId}

/-- A statement of an update changes the row exactly when it stores a document. -/
theorem committed_of_acts [DecidableEq ι] {i : ι} {db db' : Database ι J}
    {e : Event (PostgresSig J)} (hact : Acts i db e db') (hop : UpdateOp sessionId e.op) :
    (db' sessionId.value).committed =
      (stores sessionId e).or (db sessionId.value).committed := by
  cases hact with
  | failed op error => cases hop <;> rfl
  | served hserve =>
      cases hop with
      | connect | createTable | select =>
          cases hserve
          rfl
      | upsert value =>
          by_cases hfree : (db sessionId.value).writer.isNone
          · rw [PostgresOp.serve.eq_def] at hserve
            simp only [hfree, if_pos] at hserve
            cases hserve
            simp [stores]
          · rw [PostgresOp.serve.eq_def] at hserve
            simp [hfree] at hserve

/-- What an update owes at each event: it stores nothing before, and what it stores is the changed
document that it loaded. -/
structure UpdateGuard (json : StateJson J) (sessionId : SessionId)
    (change : PersistedState → Except MemoryError PersistedState)
    (h : History (PostgresSig J)) (e : Event (PostgresSig J)) : Prop where
  op : UpdateOp sessionId e.op
  last : ∀ e' ∈ h, stores sessionId e' = none
  stored : ∀ value, stores sessionId e = some value → ∀ row,
    ⟨.select sessionId.value, .ok row⟩ ∈ h → ∃ document changed,
      storedDocument json row = .ok document ∧ change document = .ok changed ∧
        json.toValue changed = .ok value

/-- An update succeeds when it has stored a document, and only then. -/
def UpdateResult (sessionId : SessionId) (h : History (PostgresSig J))
    (result : Except MemoryError Unit) : Prop :=
  result = .ok () ↔ ∃ e ∈ h, (stores sessionId e).isSome

variable {change : PersistedState → Except MemoryError PersistedState}
variable {h : History (PostgresSig J)} {e : Event (PostgresSig J)}

/-- Nothing has been stored so far. -/
def Unstored (sessionId : SessionId) (h : History (PostgresSig J)) : Prop :=
  ∀ e ∈ h, stores sessionId e = none

/-- Every load so far has returned the document. -/
def Loaded (json : StateJson J) (sessionId : SessionId) (document : PersistedState)
    (h : History (PostgresSig J)) : Prop :=
  ∀ row, ⟨.select sessionId.value, .ok row⟩ ∈ h → storedDocument json row = .ok document

/-- Nothing is stored as long as no step stores. -/
theorem Unstored.snoc (hh : Unstored sessionId h) (he : stores sessionId e = none) :
    Unstored sessionId (h ++ [e]) := by
  intro e' he'
  rcases List.mem_append.mp he' with he' | he'
  · exact hh e' he'
  · rwa [List.mem_singleton.mp he']

/-- An update that has stored nothing fails. -/
theorem Unstored.failed (hh : Unstored sessionId h) (error : MemoryError) :
    UpdateResult sessionId h (.error error) := by
  constructor
  · intro herror
    cases herror
  · rintro ⟨e, he, hstores⟩
    rw [hh e he] at hstores
    cases hstores

/-- An operation that stores nothing meets the guard. -/
theorem Unstored.guard (hh : Unstored sessionId h) (hop : UpdateOp sessionId e.op)
    (he : stores sessionId e = none) : UpdateGuard json sessionId change h e where
  op := hop
  last := hh
  stored value hvalue := by
    rw [he] at hvalue
    cases hvalue

/-- Connecting loads and stores nothing. -/
theorem obeys_connectClient :
    Prog.Obeys (UpdateGuard json sessionId change)
      (fun h _ => Unstored sessionId h ∧ ∀ row, ⟨.select sessionId.value, .ok row⟩ ∉ h) []
      (connectClient : PostgresM J Unit).run := by
  have hnil : Unstored sessionId ([] : History (PostgresSig J)) := by simp [Unstored]
  rw [connectClient, Prog.obeys_except_bind]
  refine (obeys_execute _ .connect).mpr fun connected => ⟨hnil.guard .connect rfl, ?_⟩
  have hconnect := hnil.snoc (e := ⟨.connect, connected⟩) rfl
  cases connected with
  | error error => exact ⟨hconnect, by simp⟩
  | ok =>
      exact (obeys_execute _ .createTable).mpr fun created =>
        ⟨hconnect.guard .createTable rfl, hconnect.snoc rfl, by simp⟩

/-- Loading returns what the table stores. -/
theorem obeys_loadState (hh : Unstored sessionId h)
    (hfirst : ∀ row, ⟨.select sessionId.value, .ok row⟩ ∉ h) :
    Prog.Obeys (UpdateGuard json sessionId change) (fun h' result => match result with
        | .ok state => Unstored sessionId h' ∧ Loaded json sessionId (state.getD {}) h'
        | .error error => UpdateResult sessionId h' (.error error)) h
      (loadState json sessionId).run := by
  rw [loadState, Prog.obeys_except_bind]
  refine (obeys_execute _ (.select sessionId.value)).mpr fun answer =>
    ⟨hh.guard .select rfl, ?_⟩
  have hselect := hh.snoc (e := ⟨.select sessionId.value, answer⟩) rfl
  cases answer with
  | error error => exact hselect.failed _
  | ok row =>
      -- Nothing was loaded before, so this row is all that was loaded.
      have hloaded (state : PersistedState) (hstate : storedDocument json row = .ok state) :
          Loaded json sessionId state (h ++ [⟨.select sessionId.value, .ok row⟩]) := by
        intro row' hrow'
        rcases List.mem_append.mp hrow' with hrow' | hrow'
        · exact absurd hrow' (hfirst row')
        · cases List.mem_singleton.mp hrow'
          exact hstate
      cases row with
      | none => exact (Prog.obeys_pure _).mpr ⟨hselect, hloaded {} rfl⟩
      | some value =>
          show Prog.Obeys _ _ _ (liftM (convert _ (json.fromValue value)) >>= _ :
            PostgresM J (Option PersistedState)).run
          rw [Prog.obeys_except_bind, Prog.obeys_except_lift, convert]
          cases hvalue : json.fromValue value with
          | error error => exact hselect.failed _
          | ok state => exact (Prog.obeys_pure _).mpr ⟨hselect, hloaded state hvalue⟩

/-- Storing the changed document ends an update. -/
theorem obeys_saveState {document changed : PersistedState} (hh : Unstored sessionId h)
    (hloaded : Loaded json sessionId document h) (hchange : change document = .ok changed) :
    Prog.Obeys (UpdateGuard json sessionId change) (UpdateResult sessionId) h
      (saveState json sessionId changed).run := by
  rw [saveState, Prog.obeys_except_bind, Prog.obeys_except_lift, convert]
  cases hvalue : json.toValue changed with
  | error error => exact hh.failed _
  | ok value =>
      refine (obeys_execute _ (.upsert sessionId.value value)).mpr fun answer =>
        ⟨⟨.upsert value, hh, fun value' hvalue' row hrow => ?_⟩, ?_⟩
      · refine ⟨document, changed, hloaded row hrow, hchange, ?_⟩
        cases answer with
        | error error => cases hvalue'
        | ok =>
            have hsame : value = value' := by simpa [stores] using hvalue'
            exact hsame ▸ hvalue
      · cases answer with
        | error error => exact (hh.snoc rfl).failed _
        | ok =>
            refine ⟨fun _ => ⟨_, List.mem_append_right _ (List.mem_singleton_self _), ?_⟩,
              fun _ => rfl⟩
            simp [stores]

/-- Updates meet their guards. -/
theorem obeys_updateState :
    Prog.Obeys (UpdateGuard json sessionId change) (UpdateResult sessionId) []
      (updateState json sessionId change).run := by
  rw [updateState]
  refine Prog.obeys_except_seq obeys_connectClient (fun h' _ hconnect => ?_)
    fun h' error hconnect => hconnect.1.failed error
  refine Prog.obeys_except_seq (obeys_loadState hconnect.1 hconnect.2) (fun h' state hload => ?_)
    fun h' error hload => hload
  rw [Prog.obeys_except_bind, Prog.obeys_except_lift]
  cases hchange : change (state.getD {}) with
  | error error => exact hload.1.failed error
  | ok changed => exact obeys_saveState hload.1 hload.2 hchange

/-! ## All runs -/

/-- Whenever a call stores its document, the row is still what the call loaded. -/
def Fresh (sessionId : SessionId) (row : Option J) : Trace (PostgresSig J) ι → Prop :=
  Throughout fun before entry => (stores sessionId entry.2).isSome →
    (entry.1, ⟨.select sessionId.value, .ok (storedAfter sessionId row before)⟩) ∈ before

variable [DecidableEq ι]

/-- The calls that have stored their document are the calls of an order in which the in-memory
backend reaches the stored state. -/
structure Ordered (json : StateJson J) (sessionId : SessionId) (updates : ι → Update)
    (memory : InMemoryMemoryBackend) (row : Option J) (trace : Trace (PostgresSig J) ι)
    (order : List ι) : Prop where
  nodup : order.Nodup
  mem : ∀ i, i ∈ order ↔ ∃ e ∈ localHistory i trace, (stores sessionId e).isSome
  stored : Stores json sessionId row
    ((stateAfter InMemoryMemoryBackend.handle (order.map fun i => (updates i).op sessionId)
      memory).session sessionId)
  notPoisoned : (stateAfter InMemoryMemoryBackend.handle
    (order.map fun i => (updates i).op sessionId) memory).poisoned = false

section Ordered

variable {updates : ι → Update} {memory : InMemoryMemoryBackend} {row : Option J}
variable {trace : Trace (PostgresSig J) ι} {order : List ι}

/-- An event that stores nothing keeps the order. -/
theorem Ordered.keep (h : Ordered json sessionId updates memory row trace order) {i : ι}
    (he : stores sessionId e = none) :
    Ordered json sessionId updates memory row (trace ++ [(i, e)]) order where
  nodup := h.nodup
  mem j := by
    rw [h.mem, local_history_append]
    by_cases hij : i = j
    · subst hij
      simp [he]
    · simp [local_history_other hij]
  stored := h.stored
  notPoisoned := h.notPoisoned

/-- A call that stores over the document it loaded comes last in the order. -/
theorem Ordered.store (h : Ordered json sessionId updates memory row trace order) {i : ι}
    {value : J} (hguard : UpdateGuard json sessionId (updates i).change (localHistory i trace) e)
    (he : stores sessionId e = some value)
    (hkeys : ∀ manifest ∈ ((updates i).op sessionId).manifests, manifest.sessionId = sessionId)
    (hload : (i, ⟨.select sessionId.value, .ok row⟩) ∈ trace) :
    Ordered json sessionId updates memory (some value) (trace ++ [(i, e)]) (order ++ [i]) := by
  have hnew : i ∉ order := by
    rw [h.mem]
    rintro ⟨e', he', hstores⟩
    rw [hguard.last e' he'] at hstores
    cases hstores
  obtain ⟨document, hdocument, hrepresents⟩ := h.stored
  obtain ⟨document', changed, hdocument', hchange, hvalue⟩ :=
    hguard.stored value he row (mem_local_history.mpr hload)
  obtain rfl : document = document' := Except.ok.inj (hdocument.symm.trans hdocument')
  refine ⟨?_, fun j => ?_, ?_, ?_⟩
  · rw [List.nodup_append]
    refine ⟨h.nodup, List.nodup_singleton i, ?_⟩
    rintro j hj _ hi rfl
    exact hnew (List.mem_singleton.mp hi ▸ hj)
  · rw [List.mem_append, List.mem_singleton, h.mem, local_history_append]
    by_cases hij : i = j
    · subst hij
      simp [he]
    · simp [local_history_other hij, Ne.symm hij]
  · refine ⟨changed, json.fromValue_toValue hvalue, ?_⟩
    rw [List.map_append, stateAfter, List.foldl_append]
    show changed.Represents sessionId ((InMemoryMemoryBackend.handle ((updates i).op sessionId)
      (stateAfter _ _ memory)).2.session sessionId)
    rw [InMemoryMemoryBackend.handle_session, if_neg (by simp [h.notPoisoned])]
    simp only [Update.op_sessionId, Function.update_self]
    exact Update.represents_change hrepresents hchange hkeys
  · rw [List.map_append, stateAfter, List.foldl_append]
    exact (InMemoryMemoryBackend.handle_of_not_poisoned _ h.notPoisoned).2

end Ordered

/-- In every run of concurrent updates in which each call stores over the document that it loaded,
the stored state is what the in-memory backend reaches by running the successful calls one after
another in some order. -/
theorem updates_follow_order (json : StateJson J) (sessionId : SessionId) (updates : ι → Update)
    (memory : InMemoryMemoryBackend) {db db' : Database ι J}
    {procs : ι → Prog (PostgresSig J) (Except MemoryError Unit)}
    {trace : Trace (PostgresSig J) ι} (hmemory : memory.poisoned = false)
    (hkeys : ∀ i, ∀ manifest ∈ ((updates i).op sessionId).manifests,
      manifest.sessionId = sessionId)
    (hstored : Stores json sessionId (db sessionId.value).committed (memory.session sessionId))
    (hrun : Pool.Run Acts ⟨db, fun i => (program json sessionId (updates i)).run⟩ trace
      ⟨db', procs⟩)
    (hfresh : Fresh sessionId (db sessionId.value).committed trace) :
    ∃ order : List ι, order.Nodup ∧ (∀ i, i ∈ order ↔ procs i = .pure (.ok ())) ∧
      Stores json sessionId (db' sessionId.value).committed
        ((stateAfter InMemoryMemoryBackend.handle (order.map fun i => (updates i).op sessionId)
          memory).session sessionId) := by
  have hobeys (i : ι) : Prog.Obeys (UpdateGuard json sessionId (updates i).change)
      (UpdateResult sessionId) [] (program json sessionId (updates i)).run := by
    rw [program_eq]
    exact obeys_updateState
  have hinvariant := hrun.invariant hobeys (fun db' trace =>
      (db' sessionId.value).committed =
        storedAfter sessionId (db sessionId.value).committed trace ∧
      (Fresh sessionId (db sessionId.value).committed trace → ∃ order,
        Ordered json sessionId updates memory (db' sessionId.value).committed trace order))
    ⟨rfl, fun _ => ⟨[], List.nodup_nil, by simp, hstored, hmemory⟩⟩ ?_
  · obtain ⟨order, horder⟩ := hinvariant.2 hfresh
    refine ⟨order, horder.nodup, fun i => ?_, horder.stored⟩
    rw [horder.mem]
    have hi := hrun.obeys hobeys i
    simp only at hi
    cases hproc : procs i with
    | pure result =>
        rw [hproc, Prog.obeys_pure, UpdateResult] at hi
        rw [← hi, Prog.pure.injEq]
    | call op next =>
        rw [hproc, Prog.obeys_call] at hi
        -- A call that still issues operations has stored nothing.
        have hlast := (hi (.error "connection closed")).1.last
        simp only [reduceCtorEq, iff_false, not_exists, not_and]
        intro e he
        rw [hlast e he]
        simp
  · rintro s trace i e s' ⟨hcommitted, hordered⟩ hguard hact
    have hcommitted' := committed_of_acts hact hguard.op
    refine ⟨by rw [stored_after_snoc, hcommitted', hcommitted], fun hfresh => ?_⟩
    obtain ⟨hbefore, hlast⟩ := throughout_snoc.mp hfresh
    obtain ⟨order, horder⟩ := hordered hbefore
    rw [hcommitted']
    cases he : stores sessionId e with
    | none => exact ⟨order, horder.keep he⟩
    | some value =>
        have hload := hlast (by simp [he])
        rw [← hcommitted] at hload
        exact ⟨order ++ [i], horder.store hguard he (hkeys i) hload⟩

/-! ## Two appends -/

/-- Two calls that append a progress entry. -/
def appends : Bool → Update
  | false => .appendProgressEntry ⟨"run", "first", ⟨0, 0⟩⟩
  | true => .appendProgressEntry ⟨"run", "second", ⟨0, 0⟩⟩

/-- The two calls on a session without a row. -/
def appendPool : Pool (PostgresSig PersistedState) Bool (Database Bool PersistedState)
    (Except MemoryError Unit) :=
  ⟨fun _ => {}, fun i => (program .plain ⟨"demo"⟩ (appends i)).run⟩

/-- One call after the other. -/
def serialAppends : Option (Trace (PostgresSig PersistedState) Bool ×
    Pool (PostgresSig PersistedState) Bool (Database Bool PersistedState)
      (Except MemoryError Unit)) :=
  appendPool.play respond [false, false, false, false, true, true, true, true]

/-- Two updates one after the other are applied in that order. -/
theorem updates_follow_order_serial : ∃ trace after procs,
    serialAppends = some (trace, ⟨after, procs⟩) ∧
    ∃ order : List Bool, order.Nodup ∧ (∀ i, i ∈ order ↔ procs i = .pure (.ok ())) ∧
      Stores .plain ⟨"demo"⟩ (after "demo").committed
        ((stateAfter InMemoryMemoryBackend.handle (order.map fun i => (appends i).op ⟨"demo"⟩)
          .new).session ⟨"demo"⟩) := by
  obtain ⟨trace, after, procs, hplay⟩ :
      ∃ trace after procs, serialAppends = some (trace, ⟨after, procs⟩) := ⟨_, _, _, rfl⟩
  refine ⟨trace, after, procs, hplay, ?_⟩
  refine updates_follow_order .plain ⟨"demo"⟩ appends .new rfl ?_
    ⟨{}, rfl, PersistedState.represents_default _⟩ (Pool.Run.play acts_of_respond hplay) ?_
  · intro i
    cases i <;> simp [appends, Update.op, MemoryOp.manifests]
  · have htrace : serialAppends.map (·.1) = some ([] ++
        [(false, ⟨.connect, .ok ()⟩)] ++ [(false, ⟨.createTable, .ok ()⟩)] ++
        [(false, ⟨.select "demo", .ok none⟩)] ++
        [(false, ⟨.upsert "demo" { recentProgress := [⟨"run", "first", 0, 0⟩] }, .ok ()⟩)] ++
        [(true, ⟨.connect, .ok ()⟩)] ++ [(true, ⟨.createTable, .ok ()⟩)] ++
        [(true, ⟨.select "demo", .ok (some { recentProgress := [⟨"run", "first", 0, 0⟩] })⟩)] ++
        [(true, ⟨.upsert "demo" { recentProgress := [⟨"run", "first", 0, 0⟩,
          ⟨"run", "second", 0, 0⟩] }, .ok ()⟩)]) := rfl
    rw [hplay] at htrace
    rw [show trace = _ from Option.some.inj htrace]
    simp only [Fresh, throughout_snoc]
    simp [throughout_nil, stores, storedAfter]

/-- Both calls load the document before either stores it. -/
def overlappingAppends : Option (Trace (PostgresSig PersistedState) Bool ×
    Pool (PostgresSig PersistedState) Bool (Database Bool PersistedState)
      (Except MemoryError Unit)) :=
  appendPool.play respond [false, false, false, true, true, true, false, true]

/-- Both calls succeed and the first entry is lost, in whichever order the calls are taken. -/
theorem overlapping_append_lost : ∃ trace after procs,
    Pool.Run Acts appendPool trace ⟨after, procs⟩ ∧ (∀ i, procs i = .pure (.ok ())) ∧
    ∀ order : List Bool, order.Nodup → (∀ i, i ∈ order) →
      ¬ Stores .plain ⟨"demo"⟩ (after "demo").committed
        ((stateAfter InMemoryMemoryBackend.handle (order.map fun i => (appends i).op ⟨"demo"⟩)
          .new).session ⟨"demo"⟩) := by
  obtain ⟨trace, after, procs, hplay⟩ :
      ∃ trace after procs, overlappingAppends = some (trace, ⟨after, procs⟩) := ⟨_, _, _, rfl⟩
  have hdone : overlappingAppends.map (fun end_ => (end_.2.procs false, end_.2.procs true,
      (end_.2.shared "demo").committed)) = some (.pure (.ok ()), .pure (.ok ()),
        some { recentProgress := [⟨"run", "second", 0, 0⟩] }) := rfl
  rw [hplay] at hdone
  simp only [Option.map_some, Option.some.injEq, Prod.mk.injEq] at hdone
  obtain ⟨hfirst, hsecond, hcommitted⟩ := hdone
  refine ⟨trace, after, procs, Pool.Run.play acts_of_respond hplay, ?_, ?_⟩
  · intro i
    cases i
    · exact hfirst
    · exact hsecond
  · rintro order hnodup hall ⟨document, hdocument, hrepresents⟩
    rw [hcommitted] at hdocument
    cases hdocument
    have hlength := congrArg (Except.map (·.recentProgress.length)) hrepresents.bootstrap
    rcases order with - | ⟨a, - | ⟨b, - | ⟨c, rest⟩⟩⟩
    · simpa using hall true
    · cases a
      · simpa using hall true
      · simpa using hall false
    · cases a <;> cases b <;> first | (simp at hnodup; done) | cases hlength
    · cases a <;> cases b <;> cases c <;> simp at hnodup

end Fiddlesticks.Memory.Postgres
