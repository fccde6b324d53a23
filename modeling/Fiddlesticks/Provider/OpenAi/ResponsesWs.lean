import Fiddlesticks.Effect.Prog
import Fiddlesticks.Provider.OpenAi.Encoders
import Fiddlesticks.Provider.OpenAi.ResponsesEvents

/-!
# The websocket transport

`OpenAiResponsesWebSocketTransport` keeps one socket between calls. A call is a program over the
guarded connection state, the clock and the sockets; it holds the lock of the state from its first
operation to its end, so that calls run one after another. The caller can drop a call wherever it
waits.
-/

namespace Fiddlesticks.Provider.OpenAi

open Effect

/-! ## The environment of a call -/

/-- A socket, numbered in the order of opening. -/
abbrev SocketId := Nat

/-- `Instant`: the nanoseconds of a clock that does not go back. -/
abbrev Instant := Nat

/-- `CONNECTION_MAX_AGE`. -/
def connectionMaxAge : Nat := 55 * 60 * 1000000000

/-- `WsConnectionState`. -/
structure WsConnectionState where
  socket : Option SocketId := none
  connectedAt : Option Instant := none
  authCacheKey : Option String := none
  deriving DecidableEq, Repr

/-- `WsMessage`, with the messages that the transport ignores in one case. -/
inductive WsMessage where
  | text (text : String)
  | ping (payload : List UInt8)
  | close
  | other
  deriving DecidableEq, Repr

/-- What the transport sends: a `response.create` payload or a pong. -/
inductive WsFrame where
  | create (payload : JsonValue)
  | pong (payload : List UInt8)

/-- The header that carries the credential. -/
structure WsHeader where
  name : String
  value : String
  deriving DecidableEq, Repr

/-- What a call asks of its environment. The connection is opened by `into_client_request`,
`HeaderValue::from_str` and `connect_async`, whose errors are treated alike, and a frame is sent by
handing it to the sink and flushing that. -/
inductive WsOp where
  | lock
  | assign (state : WsConnectionState)
  | now
  | connect (url : String) (header : WsHeader)
  | startSend (socket : SocketId) (frame : WsFrame)
  | flush (socket : SocketId) (frame : WsFrame)
  | next (socket : SocketId)
  | yield (chunk : OpenAiStreamChunk)
  /-- The fuel of a call has run out: the call goes no further. -/
  | exhausted

/-- The answers to each operation. -/
abbrev WsOp.Answer : WsOp → Type
  | .lock => WsConnectionState
  | .assign _ => Unit
  | .now => Instant
  | .connect _ _ => Except String SocketId
  | .startSend _ _ => Except String Unit
  | .flush _ _ => Except String Unit
  | .next _ => Option (Except String WsMessage)
  | .yield _ => Unit
  | .exhausted => Empty

/-- Whether a call waits at the operation. -/
def WsOp.awaits : WsOp → Bool
  | .assign _ | .now => false
  | _ => true

/-- The signature of a call. -/
abbrev WsSig : Sig := ⟨WsOp, WsOp.Answer⟩

/-- A fallible program of the transport. -/
abbrev WsExecution := ExceptT ProviderError (Prog WsSig)

/-- Await the answer to an operation. -/
def ask (op : WsOp) : Prog WsSig op.Answer :=
  .call op .pure

/-- `future.await.map_err(|err| ProviderError::transport(err.to_string()))?`. -/
def orTransportError {α : Type} (program : Prog WsSig (Except String α)) : WsExecution α :=
  ExceptT.mk ((·.mapError ProviderError.transport) <$> program)

/-! ## The connection -/

/-- `auth_cache_key`. -/
def authCacheKey : OpenAiAuth → String
  | .apiKey key => "api:" ++ key
  | .browserSession session => "cookie:" ++ session

/-- The header that `ensure_connection` inserts. -/
def connectHeader : OpenAiAuth → WsHeader
  | .apiKey key => { name := "authorization", value := "Bearer " ++ key }
  | .browserSession session =>
      { name := "cookie", value := "__Secure-next-auth.session-token=" ++ session }

/-- `should_reconnect`. The duration since a later instant is zero. -/
def WsConnectionState.shouldReconnect (state : WsConnectionState) (now : Instant) (key : String) :
    Bool :=
  (state.connectedAt.map fun connectedAt => decide (connectionMaxAge ≤ now - connectedAt)).getD
      false ||
    state.socket.isNone || state.authCacheKey != some key

/-- `ensure_connection`: the state that it leaves. -/
def ensureConnection (url : String) (state : WsConnectionState) (auth : OpenAiAuth) :
    WsExecution WsConnectionState := do
  let now ← ExceptT.lift (ask .now)
  let key := authCacheKey auth
  if state.shouldReconnect now key then
    ExceptT.lift (ask (.assign {}))
    let socket ← orTransportError (ask (.connect url (connectHeader auth)))
    let state : WsConnectionState :=
      { socket := some socket, connectedAt := some now, authCacheKey := some key }
    ExceptT.lift (ask (.assign state))
    return state
  else return state

/-- `SinkExt::send`. -/
def send (socket : SocketId) (frame : WsFrame) : Prog WsSig (Except String Unit) := do
  match ← ask (.startSend socket frame) with
  | .error error => return .error error
  | .ok () => ask (.flush socket frame)

/-- `OpenAiStreamChunk::ResponseComplete`. -/
def OpenAiStreamChunk.response : OpenAiStreamChunk → Option OpenAiResponse
  | .responseComplete response => some response
  | _ => none

section

-- `serde_json::from_str::<Value>`
variable (fromStr : String → Except String JsonValue)

/-- `send_create_request`. -/
def sendCreateRequest (socket : SocketId) (request : OpenAiRequest) : WsExecution Unit := do
  let payload ← liftM (buildResponseCreatePayload (fun text => (fromStr text).toOption) request)
  orTransportError (send socket (.create payload))

/-- What the loops do with a text message. -/
def handleText (accumulator : ResponsesEventAccumulator) (text : String) :
    Except ProviderError (List OpenAiStreamChunk × ResponsesEventAccumulator) := do
  let event ← (fromStr text).mapError ProviderError.transport
  accumulator.handleEvent event

/-- The error of both loops when the connection ends. -/
def closedError : ProviderError :=
  .transport "OpenAI websocket closed before response completed"

/-! ## `complete` -/

/-- Clear the socket and fail. -/
def dropSocket {α : Type} (state : WsConnectionState) (error : ProviderError) :
    WsExecution α := do
  ExceptT.lift (ask (.assign { state with socket := none }))
  throw error

/-- The loop of `complete`. -/
def completeLoop (state : WsConnectionState) (socket : SocketId) :
    Nat → ResponsesEventAccumulator → WsExecution OpenAiResponse
  | 0, _ => do nomatch ← ExceptT.lift (ask .exhausted)
  | fuel + 1, accumulator => do
      match ← ExceptT.lift (ask (.next socket)) with
      | none => dropSocket state closedError
      | some (.ok (.text text)) => do
          let (chunks, accumulator) ← handleText fromStr accumulator text
          match chunks.findSome? OpenAiStreamChunk.response with
          | some response => return response
          | none => completeLoop state socket fuel accumulator
      | some (.ok (.ping payload)) => do
          orTransportError (send socket (.pong payload))
          completeLoop state socket fuel accumulator
      | some (.ok .close) => dropSocket state closedError
      | some (.ok .other) => completeLoop state socket fuel accumulator
      | some (.error error) => dropSocket state (.transport error)

/-- `OpenAiResponsesWebSocketTransport::complete`. -/
def complete (url : String) (fuel : Nat) (request : OpenAiRequest) (auth : OpenAiAuth) :
    WsExecution OpenAiResponse := do
  let state ← ExceptT.lift (ask .lock)
  let state ← ensureConnection url state auth
  match state.socket with
  | none => throw (.transport "OpenAI websocket not connected")
  | some socket => do
      match ← ExceptT.lift (sendCreateRequest fromStr socket request).run with
      | .error error => dropSocket state error
      | .ok () => completeLoop fromStr state socket fuel (.new request.model)

/-! ## `stream` -/

/-- Hand out the chunks of an event. -/
def yieldChunks : List OpenAiStreamChunk → WsExecution Unit
  | [] => return ()
  | chunk :: chunks => do
      ExceptT.lift (ask (.yield chunk))
      yieldChunks chunks

/-- The loop of `stream`. -/
def streamLoop (socket : SocketId) :
    Nat → ResponsesEventAccumulator → WsExecution Unit
  | 0, _ => do nomatch ← ExceptT.lift (ask .exhausted)
  | fuel + 1, accumulator => do
      match ← ExceptT.lift (ask (.next socket)) with
      | none => throw closedError
      | some (.ok (.text text)) => do
          let (chunks, accumulator) ← handleText fromStr accumulator text
          yieldChunks chunks
          if chunks.any (·.response.isSome) then return ()
          else streamLoop socket fuel accumulator
      | some (.ok (.ping payload)) => do
          orTransportError (send socket (.pong payload))
          streamLoop socket fuel accumulator
      | some (.ok .close) => throw closedError
      | some (.ok .other) => streamLoop socket fuel accumulator
      | some (.error error) => throw (.transport error)

/-- `OpenAiResponsesWebSocketTransport::stream`: the stream that it returns, polled to its end. -/
def stream (url : String) (fuel : Nat) (request : OpenAiRequest) (auth : OpenAiAuth) :
    WsExecution Unit := do
  let state ← ExceptT.lift (ask .lock)
  let state ← ensureConnection url state auth
  match state.socket with
  | none => throw (.transport "OpenAI websocket not connected")
  | some socket => do
      sendCreateRequest fromStr socket request
      streamLoop fromStr socket fuel (.new request.model)

/-! ## Calls -/

/-- A call of the transport. -/
inductive WsCall where
  | complete (fuel : Nat) (request : OpenAiRequest) (auth : OpenAiAuth)
  | stream (fuel : Nat) (request : OpenAiRequest) (auth : OpenAiAuth)

namespace WsCall

/-- The request of a call. -/
def request : WsCall → OpenAiRequest
  | .complete _ request _ => request
  | .stream _ request _ => request

/-- The credential of a call. -/
def auth : WsCall → OpenAiAuth
  | .complete _ _ auth => auth
  | .stream _ _ auth => auth

/-- The program of a call. A `complete` call returns its response. -/
def program (url : String) : WsCall → WsExecution (Option OpenAiResponse)
  | .complete fuel request auth => do
      return some (← OpenAi.complete fromStr url fuel request auth)
  | .stream fuel request auth => do
      OpenAi.stream fromStr url fuel request auth
      return none

end WsCall

end

/-- The caller can stop polling here: the call has ended or it waits. -/
def CanStop {α : Type} : Prog WsSig α → Prop
  | .pure _ => True
  | .call op _ => op.awaits

instance {α : Type} (program : Prog WsSig α) : Decidable (CanStop program) :=
  match program with
  | .pure _ => inferInstanceAs (Decidable True)
  | .call op _ => inferInstanceAs (Decidable (op.awaits = true))

end Fiddlesticks.Provider.OpenAi
