import Fiddlesticks.Effect.Correct
import Fiddlesticks.Provider.OpenAi.ResponsesWs

/-!
# The connections of the websocket transport

What a call does to the connection that it shares with the other calls, wherever it ends or is
dropped. `Performs` lists the possibilities, and the invariants of the connection follow by cases
on it: every request goes out on a connection that was opened with the credential of its call and
is not too old.
-/

namespace Fiddlesticks.Provider.OpenAi

open Effect Prog

/-! ## The world of the calls -/

/-- An opened connection: the header it was opened with, and when. -/
structure Opening where
  header : WsHeader
  time : Instant
  deriving DecidableEq

/-- A `response.create` frame: the credential of the call that sent it, the socket, when the call
has checked the connection, and whether a failure had been observed on the socket. -/
structure CreateFrame where
  auth : OpenAiAuth
  socket : SocketId
  checkedAt : Instant
  onBroken : Bool
  deriving DecidableEq

/-- The connection state and what has happened around it: the clock, the connections opened so far,
whether the last attempt to connect has failed, the sockets on which a failure was observed, those
on which a call has observed one that it does not handle, and the requests. -/
structure WsWorld where
  connection : WsConnectionState := {}
  clock : Instant := 0
  checkedAt : Instant := 0
  opened : List Opening := []
  connectFailed : Bool := false
  broken : List SocketId := []
  unhandled : List SocketId := []
  creates : List CreateFrame := []

namespace WsWorld

/-- The world after a reading of the clock. -/
def read (w : WsWorld) (time : Instant) : WsWorld :=
  { w with clock := time, checkedAt := time }

/-- The world after a `response.create` frame. -/
def sent (w : WsWorld) (auth : OpenAiAuth) (socket : SocketId) : WsWorld :=
  { w with creates := w.creates ++ [⟨auth, socket, w.checkedAt, decide (socket ∈ w.broken)⟩] }

/-- The world after a failure. -/
def fail (w : WsWorld) (socket : SocketId) (handled : Bool) : WsWorld :=
  { w with
    broken := w.broken ++ [socket]
    unhandled := if handled then w.unhandled else w.unhandled ++ [socket] }

/-- The world after the socket is cleared. -/
def clear (w : WsWorld) : WsWorld :=
  { w with connection := { w.connection with socket := none } }

end WsWorld

/-- The socket on which the event is a failure: a failed send, the end of the messages, a read error
or a close message. -/
def failedSocket : Event WsSig → Option SocketId
  | ⟨.startSend socket _, .error _⟩ => some socket
  | ⟨.flush socket _, .error _⟩ => some socket
  | ⟨.next socket, none⟩ => some socket
  | ⟨.next socket, some (.error _)⟩ => some socket
  | ⟨.next socket, some (.ok .close)⟩ => some socket
  | _ => none

/-- Whether the call clears the socket when the operation fails: a `stream` call never does, and a
`complete` call does not when the operation sends a pong. -/
def WsCall.handles : WsCall → WsOp → Bool
  | .stream _ _ _, _ => false
  | .complete _ _ _, .startSend _ (.pong _) => false
  | .complete _ _ _, .flush _ (.pong _) => false
  | .complete _ _ _, _ => true

/-- The world of a call: sockets and connections may fail in any way, messages may be any, and the
clock does not go back. -/
def WsAct (call : WsCall) (w : WsWorld) : Event WsSig → WsWorld → Prop
  | ⟨.lock, state⟩, w' => state = w.connection ∧ w' = w
  | ⟨.assign state, _⟩, w' => w' = { w with connection := state }
  | ⟨.now, time⟩, w' => w.clock ≤ time ∧ w' = w.read time
  | ⟨.connect _ header, .ok socket⟩, w' =>
      socket = w.opened.length ∧ ∃ time, w.clock ≤ time ∧
        w' = { w with
          clock := time, opened := w.opened ++ [⟨header, time⟩], connectFailed := false }
  | ⟨.connect _ _, .error _⟩, w' => w' = { w with connectFailed := true }
  | ⟨.startSend socket (.create _), .ok ()⟩, w' => w' = w.sent call.auth socket
  | e, w' => w' = match failedSocket e with
      | some socket => w.fail socket (call.handles e.op)
      | none => w

/-! ## What a call does -/

/-- A connection that is reused has a socket, is not too old and was opened for the same key. -/
theorem WsConnectionState.reuse_iff {state : WsConnectionState} {now : Instant} {key : String} :
    state.shouldReconnect now key = false ↔
      (∀ connectedAt, state.connectedAt = some connectedAt →
        now - connectedAt < connectionMaxAge) ∧
      (∃ socket, state.socket = some socket) ∧ state.authCacheKey = some key := by
  rw [shouldReconnect, Bool.or_eq_false_iff, Bool.or_eq_false_iff, and_assoc]
  refine and_congr ?_ (and_congr ?_ ?_)
  · cases state.connectedAt <;> simp
  · cases state.socket <;> simp
  · simp

/-- The connection check has left the connection on the socket, an old one or a new one. -/
inductive Connected (auth : OpenAiAuth) (w : WsWorld) : WsWorld → SocketId → Prop where
  | reused {socket time} (hsocket : w.connection.socket = some socket)
      (hclock : w.clock ≤ time)
      (hreuse : w.connection.shouldReconnect time (authCacheKey auth) = false) :
      Connected auth w (w.read time) socket
  | opened {time openTime} (hclock : w.clock ≤ time) (hopen : time ≤ openTime) :
      Connected auth w
        { w.read time with
          connection := ⟨some w.opened.length, some time, some (authCacheKey auth)⟩
          clock := openTime
          opened := w.opened ++ [⟨connectHeader auth, openTime⟩]
          connectFailed := false }
        w.opened.length

/-- How a call stops that has got a connection: with the connection as it is, with the socket
cleared after a failure or without one, or after a failure that it does not handle. -/
inductive Stops (socket : SocketId) (w : WsWorld) : WsWorld → Prop where
  | quiet : Stops socket w w
  | cleared : Stops socket w w.clear
  | handled : Stops socket w (w.fail socket true).clear
  | unhandled : Stops socket w (w.fail socket false)

/-- What a call has done when it stops: it waits for the lock, it waits for a connection or gets
none, or it has one and has sent its request on it or not. -/
inductive Performs (call : WsCall) (w : WsWorld) : WsWorld → Prop where
  | waiting : Performs call w w
  | connecting {time} : Performs call w { w.read time with connection := {} }
  | refused {time} :
      Performs call w { w.read time with connection := {}, connectFailed := true }
  | unsent {w₁ w' : WsWorld} {socket} (hconnected : Connected call.auth w w₁ socket)
      (hstops : Stops socket w₁ w') : Performs call w w'
  | sent {w₁ w' : WsWorld} {socket} (hconnected : Connected call.auth w w₁ socket)
      (hstops : Stops socket (w₁.sent call.auth socket) w') : Performs call w w'

/-! ## The parts of a call -/

section

variable {call : WsCall} {w₀ w : WsWorld}

/-- The execution stops only in worlds that the call has got to from `w₀`. -/
abbrev CallCorrect {α : Type} (call : WsCall) (w₀ : WsWorld) (Q : α → WsWorld → Prop)
    (execution : WsExecution α) (w : WsWorld) : Prop :=
  Correct (WsAct call) (fun w' op => op.awaits = true → Performs call w₀ w')
    (fun result w' => match result with
      | .ok value => Q value w'
      | .error _ => Performs call w₀ w') execution.run w

/-- A sequence is correct when its second part is wherever the first ends. -/
theorem callCorrect_seq {α β : Type} {Q : α → WsWorld → Prop} {R : β → WsWorld → Prop}
    {p : WsExecution α} {f : α → WsExecution β} (hp : CallCorrect call w₀ Q p w)
    (hf : ∀ value w', Q value w' → CallCorrect call w₀ R (f value) w') :
    CallCorrect call w₀ R (p >>= f) w :=
  correct_except_seq hp hf fun _ _ h => h

/-- Go on after an operation, before which the call performs if it awaits. -/
theorem callCorrect_request {α : Type} {op : WsOp} {Q : α → WsWorld → Prop}
    {f : op.Answer → WsExecution α} (hop : op.awaits = true → Performs call w₀ w)
    (hf : ∀ answer w', WsAct call w ⟨op, answer⟩ w' → CallCorrect call w₀ Q (f answer) w') :
    CallCorrect call w₀ Q (ExceptT.lift (ask op) >>= f) w :=
  (correct_call (S := WsSig) _ _).mpr ⟨hop, hf⟩

/-- A call that fails here has performed. -/
theorem callCorrect_throw {α : Type} {Q : α → WsWorld → Prop} (h : Performs call w₀ w)
    (error : ProviderError) : CallCorrect call w₀ Q (throw error) w :=
  (correct_pure _).mpr h

/-- A part that returns here has what it needs. -/
theorem callCorrect_pure {α : Type} {Q : α → WsWorld → Prop} {value : α} (h : Q value w) :
    CallCorrect call w₀ Q (pure value) w :=
  (correct_pure _).mpr h

/-- Go on with a value or stop with an error. -/
theorem callCorrect_check_seq {α β : Type} {Q : β → WsWorld → Prop}
    {result : Except ProviderError α} {f : α → WsExecution β} (h : Performs call w₀ w)
    (hf : ∀ value, result = .ok value → CallCorrect call w₀ Q (f value) w) :
    CallCorrect call w₀ Q (liftM result >>= f) w := by
  cases result with
  | error error => exact callCorrect_throw h error
  | ok value => exact hf value rfl

/-- The world after a frame was handed to the sink. -/
def WsWorld.started (w : WsWorld) (auth : OpenAiAuth) (socket : SocketId) : WsFrame → WsWorld
  | .create _ => w.sent auth socket
  | .pong _ => w

/-- Sending fails before or after the frame was handed to the sink. -/
theorem send_correct {socket : SocketId} {frame : WsFrame}
    (hw : ∀ w', w' = w ∨ w' = w.started call.auth socket frame → Performs call w₀ w')
    {handled : Bool} (hhandled : call.handles (.startSend socket frame) = handled) :
    Correct (WsAct call) (fun w' op => op.awaits = true → Performs call w₀ w')
      (fun result w' => match result with
        | .ok () => w' = w.started call.auth socket frame
        | .error _ => w' = w.fail socket handled ∨
            w' = (w.started call.auth socket frame).fail socket handled)
      (send socket frame) w := by
  have hflush : call.handles (.flush socket frame) = handled := by
    rw [← hhandled]
    cases call <;> cases frame <;> rfl
  refine (correct_call (S := WsSig) _ _).mpr ⟨fun _ => hw _ (.inl rfl), fun answer w' hact => ?_⟩
  cases answer with
  | error error =>
      refine (correct_pure _).mpr (.inl ?_)
      rw [← hhandled]
      cases frame <;> exact hact
  | ok value =>
      have hstarted : w' = w.started call.auth socket frame := by
        cases frame <;> exact hact
      subst hstarted
      refine (correct_call (S := WsSig) _ _).mpr
        ⟨fun _ => hw _ (.inr rfl), fun answer w' hact => (correct_pure _).mpr ?_⟩
      cases answer with
      | error error =>
          rw [← hflush]
          exact .inr hact
      | ok value => exact hact

/-- A pong leaves the world as it is or fails. -/
theorem pong_correct {socket : SocketId} {payload : List UInt8}
    (hw : ∀ w', Stops socket w w' → Performs call w₀ w') :
    CallCorrect call w₀ (fun _ w' => w' = w) (orTransportError (send socket (.pong payload)))
      w := by
  have hhandled : call.handles (.startSend socket (.pong payload)) = false := by
    cases call <;> rfl
  refine (correct_map _ _).mpr ((send_correct ?_ hhandled).mono ?_)
  · rintro w' (rfl | rfl) <;> exact hw _ .quiet
  · intro result w' h
    cases result with
    | ok value => exact h
    | error error =>
        obtain rfl | rfl := h <;> exact hw _ .unhandled

/-- Clearing the socket and failing. -/
theorem dropSocket_correct {α : Type} {Q : α → WsWorld → Prop} (h : Performs call w₀ w.clear)
    (error : ProviderError) :
    CallCorrect call w₀ Q (dropSocket w.connection error) w := by
  refine callCorrect_request (fun hawaits => nomatch hawaits) fun _ w' hact => ?_
  obtain rfl := hact
  exact callCorrect_throw h error

variable (fromStr : String → Except String JsonValue)

/-- The loop of `complete` clears the socket after every failure but that of a pong. -/
theorem completeLoop_correct {socket : SocketId} (hhandles : call.handles (.next socket) = true)
    (hw : ∀ w', Stops socket w w' → Performs call w₀ w') (fuel : Nat)
    (accumulator : ResponsesEventAccumulator) :
    CallCorrect call w₀ (fun _ => Performs call w₀)
      (completeLoop fromStr w.connection socket fuel accumulator) w := by
  have hfailed : ∀ {α : Type} {Q : α → WsWorld → Prop} {w' : WsWorld} (error : ProviderError),
      w' = w.fail socket (call.handles (.next socket)) →
        CallCorrect call w₀ Q (dropSocket w.connection error) w' := by
    rintro α Q w' error rfl
    rw [hhandles]
    exact dropSocket_correct (hw _ .handled) error
  induction fuel generalizing accumulator with
  | zero => exact callCorrect_request (fun _ => hw _ .quiet) fun answer => nomatch answer
  | succ fuel ih =>
      rw [completeLoop]
      refine callCorrect_request (fun _ => hw _ .quiet) fun answer w' hact => ?_
      cases answer with
      | none => exact hfailed _ hact
      | some message =>
          cases message with
          | error error => exact hfailed _ hact
          | ok message =>
              cases message with
              | text text =>
                  obtain rfl := hact
                  refine callCorrect_check_seq (hw _ .quiet) fun parsed _ => ?_
                  obtain ⟨chunks, accumulator⟩ := parsed
                  dsimp only
                  split
                  · exact callCorrect_pure (hw _ .quiet)
                  · exact ih accumulator
              | ping payload =>
                  obtain rfl := hact
                  refine callCorrect_seq (pong_correct hw) ?_
                  rintro _ _ rfl
                  exact ih accumulator
              | close => exact hfailed _ hact
              | other =>
                  obtain rfl := hact
                  exact ih accumulator

/-- Handing out chunks leaves the world as it is. -/
theorem yieldChunks_correct (hw : Performs call w₀ w) (chunks : List OpenAiStreamChunk) :
    CallCorrect call w₀ (fun _ w' => w' = w) (yieldChunks chunks) w := by
  induction chunks with
  | nil => exact callCorrect_pure rfl
  | cons chunk chunks ih =>
      refine callCorrect_request (fun _ => hw) fun _ w' hact => ?_
      obtain rfl := hact
      exact ih

/-- The loop of `stream` keeps the socket after every failure. -/
theorem streamLoop_correct {socket : SocketId} (hhandles : call.handles (.next socket) = false)
    (hw : ∀ w', Stops socket w w' → Performs call w₀ w') (fuel : Nat)
    (accumulator : ResponsesEventAccumulator) :
    CallCorrect call w₀ (fun _ => Performs call w₀) (streamLoop fromStr socket fuel accumulator)
      w := by
  have hfailed : ∀ {α : Type} {Q : α → WsWorld → Prop} {w' : WsWorld} (error : ProviderError),
      w' = w.fail socket (call.handles (.next socket)) →
        CallCorrect call w₀ Q (throw error) w' := by
    rintro α Q w' error rfl
    rw [hhandles]
    exact callCorrect_throw (hw _ .unhandled) error
  induction fuel generalizing accumulator with
  | zero => exact callCorrect_request (fun _ => hw _ .quiet) fun answer => nomatch answer
  | succ fuel ih =>
      rw [streamLoop]
      refine callCorrect_request (fun _ => hw _ .quiet) fun answer w' hact => ?_
      cases answer with
      | none => exact hfailed _ hact
      | some message =>
          cases message with
          | error error => exact hfailed _ hact
          | ok message =>
              cases message with
              | text text =>
                  obtain rfl := hact
                  refine callCorrect_check_seq (hw _ .quiet) fun parsed _ => ?_
                  obtain ⟨chunks, accumulator⟩ := parsed
                  refine callCorrect_seq (yieldChunks_correct (hw _ .quiet) chunks) ?_
                  rintro _ _ rfl
                  split
                  · exact callCorrect_pure (hw _ .quiet)
                  · exact ih accumulator
              | ping payload =>
                  obtain rfl := hact
                  refine callCorrect_seq (pong_correct hw) ?_
                  rintro _ _ rfl
                  exact ih accumulator
              | close => exact hfailed _ hact
              | other =>
                  obtain rfl := hact
                  exact ih accumulator

/-- The connection check leaves a connection or none. -/
theorem ensureConnection_correct (url : String) (w : WsWorld) :
    CallCorrect call w
      (fun state w' => state = w'.connection ∧
        ∃ socket, state.socket = some socket ∧ Connected call.auth w w' socket)
      (ensureConnection url w.connection call.auth) w := by
  rw [ensureConnection]
  refine callCorrect_request (fun hawaits => nomatch hawaits) ?_
  intro time _ h
  obtain ⟨hclock, rfl⟩ := h
  dsimp only
  split
  · rename_i hreconnect
    refine callCorrect_request (fun hawaits => nomatch hawaits) ?_
    rintro _ _ rfl
    refine callCorrect_seq (Q := fun socket w' => ∃ openTime, time ≤ openTime ∧
      socket = w.opened.length ∧ w' = { w.read time with
        connection := {}
        clock := openTime
        opened := w.opened ++ [⟨connectHeader call.auth, openTime⟩]
        connectFailed := false }) ?_ ?_
    · refine (correct_map _ _).mpr ((correct_call (S := WsSig) _ _).mpr ⟨fun _ => .connecting, ?_⟩)
      intro answer w' hact
      refine (correct_pure _).mpr ?_
      cases answer with
      | error error =>
          obtain rfl := hact
          exact .refused
      | ok socket =>
          obtain ⟨hsocket, openTime, hopen, rfl⟩ := hact
          exact ⟨openTime, hopen, hsocket, rfl⟩
    · intro socket _ h
      obtain ⟨openTime, hopen, rfl, rfl⟩ := h
      refine callCorrect_request (fun hawaits => nomatch hawaits) ?_
      rintro _ _ rfl
      exact callCorrect_pure ⟨rfl, _, rfl, .opened hclock hopen⟩
  · rename_i hreuse
    rw [Bool.not_eq_true] at hreuse
    obtain ⟨socket, hsocket⟩ := (WsConnectionState.reuse_iff.mp hreuse).2.1
    exact callCorrect_pure ⟨rfl, socket, hsocket, .reused hsocket hclock hreuse⟩

/-- Sending the request fails before there is a frame, before the frame was handed to the sink or
after that. -/
theorem sendCreateRequest_correct {socket : SocketId} {handled : Bool} (request : OpenAiRequest)
    (hhandled : ∀ payload, call.handles (.startSend socket (.create payload)) = handled)
    (hw : Performs call w₀ w) (hsent : Performs call w₀ (w.sent call.auth socket)) :
    Correct (WsAct call) (fun w' op => op.awaits = true → Performs call w₀ w')
      (fun result w' => match result with
        | .ok () => w' = w.sent call.auth socket
        | .error _ => w' = w ∨ w' = w.fail socket handled ∨
            w' = (w.sent call.auth socket).fail socket handled)
      (sendCreateRequest fromStr socket request).run w := by
  rw [sendCreateRequest]
  cases buildResponseCreatePayload (fun text => (fromStr text).toOption) request with
  | error error => exact (correct_pure _).mpr (.inl rfl)
  | ok payload =>
      refine (correct_map _ _).mpr ((send_correct ?_ (hhandled payload)).mono ?_)
      · rintro w' (rfl | rfl)
        · exact hw
        · exact hsent
      · intro result w' h
        cases result with
        | ok value => exact h
        | error error => exact .inr h

/-- What every call does. -/
theorem program_correct (url : String) (call : WsCall) (w : WsWorld) :
    CallCorrect call w (fun _ => Performs call w) (call.program fromStr url) w := by
  cases call with
  | complete fuel request auth =>
      refine callCorrect_seq (Q := fun _ => Performs (.complete fuel request auth) w) ?_
        fun _ _ h => callCorrect_pure h
      refine callCorrect_request (fun _ => .waiting) ?_
      rintro _ w ⟨rfl, rfl⟩
      refine callCorrect_seq (ensureConnection_correct url w) ?_
      rintro _ w₁ ⟨rfl, socket, hsocket, hconnected⟩
      rw [hsocket]
      refine correct_lift_seq (sendCreateRequest_correct fromStr request (fun _ => rfl)
        (.unsent hconnected .quiet) (.sent hconnected .quiet)) ?_
      intro result w' h
      cases result with
      | ok value =>
          obtain rfl := h
          exact completeLoop_correct fromStr rfl (fun _ => .sent hconnected) fuel _
      | error error =>
          -- Sending failed before there was a frame, in handing it to the sink, or in flushing it:
          -- `complete` drops the socket in each case.
          obtain rfl | rfl | rfl := h
          · exact dropSocket_correct (.unsent hconnected .cleared) error
          · exact dropSocket_correct (.unsent hconnected .handled) error
          · exact dropSocket_correct (.sent hconnected .handled) error
  | stream fuel request auth =>
      refine callCorrect_seq (Q := fun _ => Performs (.stream fuel request auth) w) ?_
        fun _ _ h => callCorrect_pure h
      refine callCorrect_request (fun _ => .waiting) ?_
      rintro _ w ⟨rfl, rfl⟩
      refine callCorrect_seq (ensureConnection_correct url w) ?_
      rintro _ w₁ ⟨rfl, socket, hsocket, hconnected⟩
      rw [hsocket]
      refine callCorrect_seq (Q := fun _ w' => w' = w₁.sent auth socket)
        ((sendCreateRequest_correct fromStr request (fun _ => rfl) (.unsent hconnected .quiet)
          (.sent hconnected .quiet)).mono ?_) ?_
      · intro result w' h
        cases result with
        | ok value => exact h
        | error error =>
            -- `stream` fails with the socket still in the connection.
            obtain rfl | rfl | rfl := h
            · exact .unsent hconnected .quiet
            · exact .unsent hconnected .unhandled
            · exact .sent hconnected .unhandled
      · rintro _ _ rfl
        exact streamLoop_correct fromStr rfl (fun _ => .sent hconnected) fuel _

end

/-! ## Sequences of calls -/

section

variable (fromStr : String → Except String JsonValue) (url : String)

/-- One call, run to its end or dropped where it waits. -/
def WsStep (w w' : WsWorld) : Prop :=
  ∃ (call : WsCall) (rest : Prog WsSig (Except ProviderError (Option OpenAiResponse))),
    CanStop rest ∧ Steps (WsAct call) (call.program fromStr url).run w rest w'

variable {fromStr url} {w w' : WsWorld}

/-- A step of the transport is a call that performs. -/
theorem WsStep.performs (h : WsStep fromStr url w w') : ∃ call, Performs call w w' := by
  obtain ⟨call, rest, hstop, hsteps⟩ := h
  have hcorrect := (program_correct fromStr url call w).steps hsteps
  refine ⟨call, ?_⟩
  cases rest with
  | pure result =>
      have hresult := (correct_pure _).mp hcorrect
      cases result with
      | ok value => exact hresult
      | error error => exact hresult
  | call op next => exact ((correct_call _ _).mp hcorrect).1 hstop

/-! ## The connection of a request -/

/-- The header of a connection determines the credential. -/
theorem connectHeader_injective : Function.Injective connectHeader := by
  intro auth auth' h
  cases auth <;> cases auth' <;> simp_all [connectHeader]

/-- The cache keys of the two kinds of credentials differ. -/
theorem authCacheKey_ne (key session : String) :
    authCacheKey (.apiKey key) ≠ authCacheKey (.browserSession session) := by
  intro h
  have hlist := congrArg String.toList h
  simp [authCacheKey] at hlist

/-- The cache key of a connection determines the credential. -/
theorem authCacheKey_injective : Function.Injective authCacheKey := by
  intro auth auth' h
  cases auth with
  | apiKey key =>
      cases auth' with
      | apiKey key' => simpa [authCacheKey] using h
      | browserSession session => exact absurd h (authCacheKey_ne key session)
  | browserSession session =>
      cases auth' with
      | apiKey key => exact absurd h.symm (authCacheKey_ne key session)
      | browserSession session' => simpa [authCacheKey] using h

/-- Every request was sent on a connection that had been opened with the credential of its call and
was not too old when the call checked it, and a failed attempt to connect has left no connection. -/
structure Matched (w : WsWorld) : Prop where
  creates : ∀ create ∈ w.creates, ∃ opening, w.opened[create.socket]? = some opening ∧
    (∀ auth, opening.header = connectHeader auth ↔ auth = create.auth) ∧
    create.checkedAt - opening.time < connectionMaxAge
  refused : w.connectFailed = true → w.connection = {}

/-- The open connection is recorded with a credential that it was opened with and a time before
that. -/
structure Recorded (w : WsWorld) : Prop extends Matched w where
  connection : ∀ socket, w.connection.socket = some socket → ∃ opening connectedAt auth,
    w.opened[socket]? = some opening ∧ opening.header = connectHeader auth ∧
    w.connection.authCacheKey = some (authCacheKey auth) ∧
    w.connection.connectedAt = some connectedAt ∧ connectedAt ≤ opening.time

/-- A request can be sent on the socket. -/
structure Ready (auth : OpenAiAuth) (socket : SocketId) (w : WsWorld) : Prop extends
    Recorded w where
  opening : ∃ opening, w.opened[socket]? = some opening ∧ opening.header = connectHeader auth ∧
    w.checkedAt - opening.time < connectionMaxAge
  connected : w.connectFailed = false

/-- A connected call is ready to send. -/
theorem Connected.ready {auth : OpenAiAuth} {socket : SocketId}
    (h : Connected auth w w' socket) (hw : Recorded w) : Ready auth socket w' := by
  cases h with
  | @reused socket time hsocket hclock hreuse =>
      obtain ⟨hage, -, hkey⟩ := WsConnectionState.reuse_iff.mp hreuse
      obtain ⟨opening, connectedAt, auth', hopening, hheader, hkey', hconnectedAt, hle⟩ :=
        hw.connection socket hsocket
      obtain rfl : auth = auth' :=
        authCacheKey_injective (Option.some.inj (hkey.symm.trans hkey'))
      refine ⟨⟨⟨hw.creates, hw.refused⟩, hw.connection⟩, ⟨opening, hopening, hheader, ?_⟩, ?_⟩
      · show time - opening.time < connectionMaxAge
        exact (Nat.sub_le_sub_left hle time).trans_lt (hage connectedAt hconnectedAt)
      · refine Bool.eq_false_iff.mpr fun hrefused => ?_
        rw [hw.refused hrefused] at hsocket
        cases hsocket
  | @opened time openTime hclock hopen =>
      have hopening : (w.opened ++ [⟨connectHeader auth, openTime⟩])[w.opened.length]? =
          some ⟨connectHeader auth, openTime⟩ := List.getElem?_concat_length
      refine ⟨⟨⟨fun create hcreate => ?_, fun hrefused => nomatch hrefused⟩, ?_⟩, ?_, rfl⟩
      · obtain ⟨opening, hopened, hheader⟩ := hw.creates create hcreate
        exact ⟨opening, (List.getElem?_append_left
          (List.getElem?_eq_some_iff.mp hopened).1).trans hopened, hheader⟩
      · rintro socket ⟨⟩
        exact ⟨_, time, auth, hopening, rfl, rfl, rfl, hopen⟩
      · refine ⟨_, hopening, rfl, ?_⟩
        show time - openTime < connectionMaxAge
        rw [Nat.sub_eq_zero_of_le hopen]
        decide

/-- Sending a request keeps the connection ready. -/
theorem Ready.sent {auth : OpenAiAuth} {socket : SocketId} (h : Ready auth socket w) :
    Ready auth socket (w.sent auth socket) := by
  refine ⟨⟨⟨fun create hcreate => ?_, h.refused⟩, h.connection⟩, h.opening, h.connected⟩
  rcases List.mem_append.mp hcreate with hcreate | hcreate
  · exact h.creates create hcreate
  · obtain rfl := List.mem_singleton.mp hcreate
    obtain ⟨opening, hopening, hheader, hage⟩ := h.opening
    refine ⟨opening, hopening, fun auth' => ?_, hage⟩
    rw [hheader]
    exact connectHeader_injective.eq_iff.trans eq_comm

/-- However a call stops, the connection stays recorded. -/
theorem Stops.recorded {auth : OpenAiAuth} {socket : SocketId} (h : Stops socket w w')
    (hw : Ready auth socket w) : Recorded w' := by
  have hrefused : ∀ {p : Prop}, w.connectFailed = true → p :=
    fun hrefused => absurd (hw.connected.symm.trans hrefused) Bool.false_ne_true
  cases h with
  | quiet => exact hw.toRecorded
  | cleared => exact ⟨⟨hw.creates, hrefused⟩, fun _ hsocket => nomatch hsocket⟩
  | handled => exact ⟨⟨hw.creates, hrefused⟩, fun _ hsocket => nomatch hsocket⟩
  | unhandled => exact ⟨⟨hw.creates, hrefused⟩, hw.connection⟩

/-- A call keeps the connection recorded. -/
theorem Performs.recorded {call : WsCall} (h : Performs call w w') (hw : Recorded w) :
    Recorded w' := by
  cases h with
  | waiting => exact hw
  | connecting => exact ⟨⟨hw.creates, fun _ => rfl⟩, fun _ hsocket => nomatch hsocket⟩
  | refused => exact ⟨⟨hw.creates, fun _ => rfl⟩, fun _ hsocket => nomatch hsocket⟩
  | unsent hconnected hstops => exact hstops.recorded (hconnected.ready hw)
  | sent hconnected hstops => exact hstops.recorded (hconnected.ready hw).sent

/-- Whatever calls come one after another, each run to its end or dropped, and however the sockets
and the clock behave, the requests match their connections. -/
theorem requests_matched (fromStr : String → Except String JsonValue) (url : String)
    {states : List WsWorld} {w : WsWorld}
    (hrun : Sequence (fun _ => WsStep fromStr url) {} states w) : Matched w := by
  have hstart : Recorded {} :=
    ⟨⟨fun _ hcreate => (nomatch hcreate), fun hrefused => nomatch hrefused⟩,
      fun _ hsocket => nomatch hsocket⟩
  refine (hrun.invariant (I := fun _ => Recorded) hstart ?_).toMatched
  intro _ s s' hstep hs
  obtain ⟨call, hperforms⟩ := hstep.performs
  exact hperforms.recorded hs

end

/-! ## Two calls with equal secrets of different kinds -/

/-- An environment whose connections open at once and whose sockets give the same answer to every
read. -/
def steadyEnvironment (call : WsCall) (message : Option (Except String WsMessage)) :
    (op : WsOp) → WsWorld → Option (op.Answer × WsWorld)
  | .lock, w => some (w.connection, w)
  | .assign state, w => some ((), { w with connection := state })
  | .now, w => some (w.clock, w.read w.clock)
  | .connect _ header, w =>
      some (.ok w.opened.length,
        { w with opened := w.opened ++ [⟨header, w.clock⟩], connectFailed := false })
  | .startSend socket (.create _), w => some (.ok (), w.sent call.auth socket)
  | .startSend _ (.pong _), w => some (.ok (), w)
  | .flush _ _, w => some (.ok (), w)
  | .next socket, w =>
      some (message, match failedSocket ⟨.next socket, message⟩ with
        | some socket => w.fail socket (call.handles (.next socket))
        | none => w)
  | .yield _, w => some ((), w)
  | .exhausted, _ => none

/-- The environment of the demo answers as the network does. -/
theorem steadyEnvironment_act {call : WsCall} {message : Option (Except String WsMessage)}
    {op : WsSig.Op} {w w' : WsWorld} {answer : WsSig.Ans op}
    (h : steadyEnvironment call message op w = some (answer, w')) :
    WsAct call w ⟨op, answer⟩ w' := by
  cases op with
  | lock =>
      cases h
      exact ⟨rfl, rfl⟩
  | now =>
      cases h
      exact ⟨Nat.le_refl _, rfl⟩
  | connect url header =>
      cases h
      exact ⟨rfl, w.clock, Nat.le_refl _, rfl⟩
  | startSend socket frame => cases frame <;> cases h <;> rfl
  | next socket =>
      cases h
      rcases message with _ | _ | (_ | _ | _ | _) <;> rfl
  | exhausted => cases h
  | _ =>
      cases h
      rfl

/-- The text of a terminal event. -/
def completedText : String :=
  "\x7b\"type\":\"response.completed\"\x7d"

/-- A parser that knows this text. -/
def parseCompletedText (text : String) : Except String JsonValue :=
  if text = completedText then .ok (.object [("type", .string "response.completed")])
  else .error "expected value at line 1 column 1"

/-- A request with one message. -/
def helloRequest : OpenAiRequest :=
  { model := "model", messages := [⟨.user, "hello", none⟩], tools := [], temperature := none,
    maxTokens := none, stream := false }

/-- Two calls in this environment, and what is seen of the worlds that they leave. -/
def viewTwo {β : Type} (first second : WsCall) (message : Option (Except String WsMessage))
    (view : WsWorld → WsWorld → β) : Option β :=
  let program (call : WsCall) := (call.program parseCompletedText "wss://localhost").run
  ((program first).execute (steadyEnvironment first message) {}).bind fun one =>
    ((program second).execute (steadyEnvironment second message) one.2.2).map fun two =>
      view one.2.2 two.2.2

/-- Two calls that are viewed make a sequence. -/
theorem sequence_of_viewTwo {β : Type} {first second : WsCall}
    {message : Option (Except String WsMessage)} {view : WsWorld → WsWorld → β} {value : β}
    (h : viewTwo first second message view = some value) :
    ∃ w₁ w₂, Sequence (fun _ => WsStep parseCompletedText "wss://localhost") {} [{}, w₁] w₂ ∧
      view w₁ w₂ = value := by
  obtain ⟨⟨_, result, w₁⟩, hfirst, hrest⟩ := Option.bind_eq_some_iff.mp h
  obtain ⟨⟨_, result', w₂⟩, hsecond, hview⟩ := Option.map_eq_some_iff.mp hrest
  refine ⟨w₁, w₂, .snoc (.snoc .nil ?_) ?_, hview⟩
  · exact ⟨first, .pure result, trivial, Steps.of_execute steadyEnvironment_act hfirst⟩
  · exact ⟨second, .pure result', trivial, Steps.of_execute steadyEnvironment_act hsecond⟩

/-- The call with an API key and the one with a session of the same text use different
connections. -/
theorem requests_matched_two : ∃ w : WsWorld, Matched w ∧
    w.creates = [⟨.apiKey "secret", 0, 0, false⟩, ⟨.browserSession "secret", 1, 0, false⟩] := by
  have hview : viewTwo (.complete 1 helloRequest (.apiKey "secret"))
      (.stream 1 helloRequest (.browserSession "secret"))
      (some (.ok (.text completedText))) (fun _ w => w.creates) =
        some [⟨.apiKey "secret", 0, 0, false⟩, ⟨.browserSession "secret", 1, 0, false⟩] := by
    decide +kernel
  obtain ⟨_, w, hrun, hcreates⟩ := sequence_of_viewTwo hview
  exact ⟨w, requests_matched parseCompletedText "wss://localhost" hrun, hcreates⟩

end Fiddlesticks.Provider.OpenAi
