import Fiddlesticks.Provider.OpenAi.WsConnections

/-!
# Isolation of the calls of the websocket transport

The server answers every request with a list of text messages, and a socket delivers the answers
to the requests that it carried one after another. A call reads from the front of what its socket
delivers, and that is its own answer as long as nothing of an earlier one has been left unread.
-/

namespace Fiddlesticks.Provider.OpenAi

open Effect Prog

/-! ## The server -/

/-- The text messages that every socket has yet to deliver, each with the number of the call that it
answers, and what the current call has to do with them: how many sockets there were before it, the
messages it has read and the chunks it has handed out. -/
structure Mailbox where
  unread : SocketId → List (Nat × String) := fun _ => []
  before : Nat := 0
  taken : List (Nat × String) := []
  handed : List OpenAiStreamChunk := []

/-- The mailbox when a call begins. -/
def Mailbox.begin (mail : Mailbox) (w : WsWorld) : Mailbox :=
  { mail with before := w.opened.length, taken := [], handed := [] }

/-- The mailbox after the request of call `n`. -/
def Mailbox.post (mail : Mailbox) (n : Nat) (answer : List String) (socket : SocketId) : Mailbox :=
  { mail with unread :=
      Function.update mail.unread socket (mail.unread socket ++ answer.map ((n, ·))) }

/-- The mailbox after the first message of a socket. -/
def Mailbox.take (mail : Mailbox) (socket : SocketId) (message : Nat × String)
    (rest : List (Nat × String)) : Mailbox :=
  { mail with
    unread := Function.update mail.unread socket rest
    taken := mail.taken ++ [message] }

/-- Posting an answer appends its messages to what is unread on the socket. -/
@[simp] theorem Mailbox.post_unread (mail : Mailbox) (n : Nat) (answer : List String)
    (socket : SocketId) : (mail.post n answer socket).unread =
      Function.update mail.unread socket (mail.unread socket ++ answer.map ((n, ·))) := rfl

/-- Taking a message leaves the rest. -/
@[simp] theorem Mailbox.take_unread (mail : Mailbox) (socket : SocketId) (message : Nat × String)
    (rest : List (Nat × String)) :
    (mail.take socket message rest).unread = Function.update mail.unread socket rest := rfl

/-- The mailbox when call `n` is served: its request puts the answer to it behind what its socket
has yet to deliver, and the next message is the first of these. -/
def MailAct (answer : List String) (n : Nat) (mail : Mailbox) : Event WsSig → Mailbox → Prop
  | ⟨.startSend socket (.create _), .ok ()⟩, mail' => mail' = mail.post n answer socket
  | ⟨.next socket, some (.ok (.text text))⟩, mail' => ∃ origin rest,
      mail.unread socket = (origin, text) :: rest ∧ mail' = mail.take socket (origin, text) rest
  | ⟨.yield chunk, _⟩, mail' => mail' = { mail with handed := mail.handed ++ [chunk] }
  | _, mail' => mail' = mail

/-- The connections and the mailbox. -/
abbrev Served := WsWorld × Mailbox

/-- The world of call `n` with the server. -/
def ServedAct (answer : List String) (n : Nat) (call : WsCall) (x : Served) (e : Event WsSig)
    (x' : Served) : Prop :=
  WsAct call x.1 e x'.1 ∧ MailAct answer n x.2 e x'.2

/-- No request is sent on a connection that an earlier call has opened while messages are unread
on it. -/
def SendsClean (x : Served) : Event WsSig → Prop
  | ⟨.startSend socket (.create _), _⟩ => socket < x.2.before → x.2.unread socket = []
  | _ => True

/-- The world of a call with the server that sends only on clean connections. -/
def CleanAct (answer : List String) (n : Nat) (call : WsCall) (x : Served) (e : Event WsSig)
    (x' : Served) : Prop :=
  ServedAct answer n call x e x' ∧ SendsClean x e

section

-- `serde_json::from_str::<Value>`
variable (fromStr : String → Except String JsonValue)

/-- The chunks that an accumulator gives for the text messages of a response. -/
def replay : ResponsesEventAccumulator → List String → List OpenAiStreamChunk
  | _, [] => []
  | accumulator, text :: texts =>
      match handleText fromStr accumulator text with
      | .error _ => []
      | .ok (chunks, accumulator) => chunks ++ replay accumulator texts

/-- The chunks that the answer to a call gives. -/
def ownChunks (call : WsCall) (answer : List String) : List OpenAiStreamChunk :=
  replay fromStr (.new call.request.model) answer

/-- What a call has read and handed out comes from the answer to its own request. -/
structure Isolated (call : WsCall) (answer : List String) (n : Nat) (mail : Mailbox) : Prop where
  taken : mail.taken <+: answer.map ((n, ·))
  handed : mail.handed <+: ownChunks fromStr call answer

/-- The response that a call returns is that of its own answer. -/
def ReturnsOwn (call : WsCall) (answer : List String) :
    Prog WsSig (Except ProviderError (Option OpenAiResponse)) → Prop
  | .pure (.ok (some response)) =>
      (ownChunks fromStr call answer).findSome? OpenAiStreamChunk.response = some response
  | _ => True

/-- One call, run to its end or dropped where it waits. -/
def ServedStep (url : String)
    (act : List String → Nat → WsCall → Served → Event WsSig → Served → Prop)
    (answers : Nat → List String) (n : Nat) (x x' : Served) : Prop :=
  ∃ (call : WsCall) (rest : Prog WsSig (Except ProviderError (Option OpenAiResponse))),
    CanStop rest ∧ Steps (act (answers n) n call) (call.program fromStr url).run
      (x.1, x.2.begin x.1) rest x'

end

/-! ## Unread messages -/

/-- Unread messages are on sockets that have carried requests. -/
def Filed (x : Served) : Prop :=
  ∀ socket, x.2.unread socket ≠ [] → ∃ create ∈ x.1.creates, create.socket = socket

/-- Watching an event for a failure takes no request off the record. -/
theorem WsWorld.creates_observed {call : WsCall} {w w' : WsWorld} {e : Event WsSig}
    {create : CreateFrame} (hcreate : create ∈ w.creates)
    (h : w' = match failedSocket e with
      | some socket => w.fail socket (call.handles e.op)
      | none => w) : create ∈ w'.creates := by
  subst h
  split
  · exact hcreate
  · exact hcreate

/-- Requests stay on record. -/
theorem WsAct.creates {call : WsCall} {w w' : WsWorld} {e : Event WsSig} (h : WsAct call w e w')
    {create : CreateFrame} (hcreate : create ∈ w.creates) : create ∈ w'.creates := by
  have hobserve := @WsWorld.creates_observed call w w' e create hcreate
  obtain ⟨op, answer⟩ := e
  cases op with
  | lock =>
      obtain ⟨-, rfl⟩ := h
      exact hcreate
  | assign state =>
      obtain rfl := h
      exact hcreate
  | now =>
      obtain ⟨-, rfl⟩ := h
      exact hcreate
  | connect url header =>
      cases answer with
      | error error =>
          obtain rfl := h
          exact hcreate
      | ok socket =>
          obtain ⟨-, time, -, rfl⟩ := h
          exact hcreate
  | startSend socket frame =>
      cases answer with
      | error error => exact hobserve (by cases frame <;> exact h)
      | ok value =>
          cases frame with
          | create payload =>
              obtain rfl := h
              exact List.mem_append_left _ hcreate
          | pong payload => exact hobserve h
  | flush socket frame => exact hobserve h
  | next socket => exact hobserve h
  | yield chunk => exact hobserve h
  | exhausted => cases answer

/-- The operation has nothing to do with the mailbox. -/
def Quiet : WsOp → Prop
  | .startSend _ (.create _) => False
  | .next _ => False
  | .yield _ => False
  | _ => True

/-- A quiet operation leaves the mail as it is. -/
theorem Quiet.mail {answer : List String} {n : Nat} {mail mail' : Mailbox} {e : Event WsSig}
    (he : Quiet e.op) (h : MailAct answer n mail e mail') : mail' = mail := by
  obtain ⟨op, result⟩ := e
  cases op with
  | startSend socket frame =>
      cases frame with
      | create payload => exact he.elim
      | pong payload => exact h
  | next socket => exact he.elim
  | yield chunk => exact he.elim
  | exhausted => cases result
  | _ => exact h

/-- Every event keeps the unread messages filed. -/
theorem ServedAct.filed {answer : List String} {n : Nat} {call : WsCall} {x x' : Served}
    {e : Event WsSig} (h : ServedAct answer n call x e x') (hx : Filed x) : Filed x' := by
  obtain ⟨hworld, hmail⟩ := h
  -- An event that files nothing new keeps what was filed.
  have hsame : (∀ socket, x'.2.unread socket ≠ [] → x.2.unread socket ≠ []) → Filed x' := by
    intro hunread socket hsocket
    obtain ⟨create, hcreate, hfiled⟩ := hx socket (hunread socket hsocket)
    exact ⟨create, hworld.creates hcreate, hfiled⟩
  have hquiet : Quiet e.op → Filed x' := by
    intro he
    refine hsame fun socket => ?_
    rw [he.mail hmail]
    exact id
  obtain ⟨op, result⟩ := e
  cases op with
  | startSend socket frame =>
      cases frame with
      | pong payload => exact hquiet trivial
      | create payload =>
          cases result with
          | error error =>
              refine hsame fun other => ?_
              rw [show x'.2 = x.2 from hmail]
              exact id
          | ok value =>
              intro other hother
              obtain hworld : x'.1 = x.1.sent call.auth socket := hworld
              obtain hmail : x'.2 = x.2.post n answer socket := hmail
              rw [hworld]
              -- The answer is posted to the socket that the request was sent on, and the request is
              -- on record.
              by_cases hsocket : other = socket
              · subst hsocket
                exact ⟨_, List.mem_append_right _ (List.mem_singleton_self _), rfl⟩
              · rw [hmail, Mailbox.post_unread, Function.update_of_ne hsocket] at hother
                obtain ⟨create, hcreate, hfiled⟩ := hx other hother
                exact ⟨create, List.mem_append_left _ hcreate, hfiled⟩
  | next socket =>
      refine hsame fun other hother hnone => hother ?_
      rcases result with _ | error | message
      · rw [show x'.2 = x.2 from hmail, hnone]
      · rw [show x'.2 = x.2 from hmail, hnone]
      · cases message with
        | text text =>
            obtain ⟨origin, rest, hunread, hmail⟩ := hmail
            rw [hmail, Mailbox.take_unread]
            by_cases hsocket : other = socket
            · subst hsocket
              rw [hunread] at hnone
              cases hnone
            · rw [Function.update_of_ne hsocket, hnone]
        | ping payload => rw [show x'.2 = x.2 from hmail, hnone]
        | close => rw [show x'.2 = x.2 from hmail, hnone]
        | other => rw [show x'.2 = x.2 from hmail, hnone]
  | yield chunk =>
      refine hsame fun other => ?_
      rw [show x'.2 = { x.2 with handed := x.2.handed ++ [chunk] } from hmail]
      exact id
  | exhausted => cases result
  | lock => exact hquiet trivial
  | assign state => exact hquiet trivial
  | now => exact hquiet trivial
  | connect url header => exact hquiet trivial
  | flush socket frame => exact hquiet trivial

/-! ## One call -/

section

variable {fromStr : String → Except String JsonValue} {call : WsCall} {answer : List String}
  {n : Nat} {x : Served} {α β : Type} {Q : α → Mailbox → Prop} {R : β → Mailbox → Prop}

/-- The execution keeps the call isolated and returns only values that satisfy the postcondition. -/
abbrev Isolates (fromStr : String → Except String JsonValue) (call : WsCall) (answer : List String)
    (n : Nat) (Q : α → Mailbox → Prop) (execution : WsExecution α) (x : Served) : Prop :=
  Correct (CleanAct answer n call) (fun x' _ => Isolated fromStr call answer n x'.2)
    (fun result x' => Isolated fromStr call answer n x'.2 ∧
      ∀ value, result = .ok value → Q value x'.2) execution.run x

/-- A call that ends here is isolated. -/
theorem isolates_pure {value : α} (h : Isolated fromStr call answer n x.2) (hvalue : Q value x.2) :
    Isolates fromStr call answer n Q (pure value) x := by
  refine (correct_pure _).mpr ⟨h, ?_⟩
  rintro _ ⟨⟩
  exact hvalue

/-- So is one that fails here. -/
theorem isolates_throw (h : Isolated fromStr call answer n x.2) (error : ProviderError) :
    Isolates fromStr call answer n Q (throw error) x := by
  refine (correct_pure _).mpr ⟨h, ?_⟩
  rintro _ ⟨⟩

/-- The sequencing rule. -/
theorem isolates_seq {p : WsExecution α} {f : α → WsExecution β}
    (hp : Isolates fromStr call answer n Q p x)
    (hf : ∀ value x', Isolated fromStr call answer n x'.2 → Q value x'.2 →
      Isolates fromStr call answer n R (f value) x') :
    Isolates fromStr call answer n R (p >>= f) x := by
  refine correct_except_seq hp (fun value x' h => hf value x' h.1 (h.2 value rfl))
    (fun error x' h => ⟨h.1, ?_⟩)
  rintro _ ⟨⟩

/-- Go on after an operation. -/
theorem isolates_request {op : WsOp} {f : op.Answer → WsExecution α}
    (h : Isolated fromStr call answer n x.2)
    (hf : ∀ result x', CleanAct answer n call x ⟨op, result⟩ x' →
      Isolates fromStr call answer n Q (f result) x') :
    Isolates fromStr call answer n Q (ExceptT.lift (ask op) >>= f) x :=
  (correct_call (S := WsSig) _ _).mpr ⟨h, hf⟩

/-- Go on with a value or stop with an error. -/
theorem isolates_check_seq {result : Except ProviderError α} {f : α → WsExecution β}
    (h : Isolated fromStr call answer n x.2)
    (hf : ∀ value, result = .ok value → Isolates fromStr call answer n R (f value) x) :
    Isolates fromStr call answer n R (liftM result >>= f) x := by
  cases result with
  | error error => exact isolates_throw h error
  | ok value => exact hf value rfl

/-- Quiet operations leave the mailbox as it is. -/
theorem quiet_correct {p : Prog WsSig α} (hp : Uses Quiet p)
    (h : Isolated fromStr call answer n x.2) :
    Correct (CleanAct answer n call) (fun x' _ => Isolated fromStr call answer n x'.2)
      (fun _ x' => x'.2 = x.2) p x :=
  hp.correct (I := fun x' : Served => x'.2 = x.2) (fun _ _ _ h' => h' ▸ h)
    (fun _ _ _ he (hact : CleanAct answer n call _ _ _) h' => (he.mail hact.1.2).trans h') rfl

/-- Go on after a program of quiet operations. -/
theorem isolates_quiet_seq {p : WsExecution α} {f : α → WsExecution β} (hp : Uses Quiet p.run)
    (h : Isolated fromStr call answer n x.2)
    (hf : ∀ value x', x'.2 = x.2 → Isolates fromStr call answer n R (f value) x') :
    Isolates fromStr call answer n R (p >>= f) x := by
  refine correct_except_seq (quiet_correct hp h) hf fun error x' h' => ⟨h' ▸ h, ?_⟩
  rintro _ ⟨⟩

/-- A pong is quiet. -/
theorem pong_uses (socket : SocketId) (payload : List UInt8) :
    Uses Quiet (orTransportError (send socket (.pong payload))).run := by
  refine uses_map _ (uses_bind (uses_request trivial) fun result => ?_)
  cases result with
  | error error => exact uses_pure _
  | ok value => exact uses_request trivial

/-- A call that drops its socket is isolated and returns nothing. -/
theorem isolates_dropSocket (h : Isolated fromStr call answer n x.2) (state : WsConnectionState)
    (error : ProviderError) : Isolates fromStr call answer n Q (dropSocket state error) x :=
  isolates_quiet_seq (uses_map _ (uses_request trivial)) h fun _ _ h' =>
    isolates_throw (h' ▸ h) error

/-! ## The loops -/

/-- The call has read the answer up to the texts `rest`, which its socket will deliver next. -/
structure Receiving (answer : List String) (n : Nat) (socket : SocketId) (rest : List String)
    (mail : Mailbox) : Prop where
  unread : mail.unread socket = rest.map ((n, ·))
  taken : mail.taken ++ rest.map ((n, ·)) = answer.map ((n, ·))

/-- The next message is the next one of the answer. -/
theorem Receiving.take {socket : SocketId} {rest : List String} {mail : Mailbox} {origin : Nat}
    {text : String} {tail : List (Nat × String)} (h : Receiving answer n socket rest mail)
    (hunread : mail.unread socket = (origin, text) :: tail) :
    ∃ rest', rest = text :: rest' ∧
      Receiving answer n socket rest' (mail.take socket (origin, text) tail) := by
  have hrest := h.unread.symm.trans hunread
  cases rest with
  | nil => cases hrest
  | cons first rest' =>
      rw [List.map_cons, List.cons.injEq, Prod.mk.injEq] at hrest
      obtain ⟨⟨rfl, rfl⟩, rfl⟩ := hrest
      refine ⟨rest', rfl, ?_, ?_⟩
      · rw [Mailbox.take_unread, Function.update_self]
      · rw [← h.taken, Mailbox.take, List.map_cons, List.append_assoc, List.singleton_append]

/-- While a call receives, what it has handed out is its own. -/
theorem Receiving.isolated {socket : SocketId} {rest : List String} {mail : Mailbox}
    (h : Receiving answer n socket rest mail)
    (hhanded : mail.handed <+: ownChunks fromStr call answer) :
    Isolated fromStr call answer n mail :=
  ⟨⟨_, h.taken⟩, hhanded⟩

/-- Messages are handled one after the other. -/
theorem replay_cons {accumulator accumulator' : ResponsesEventAccumulator} {text : String}
    {chunks : List OpenAiStreamChunk} (texts : List String)
    (h : handleText fromStr accumulator text = .ok (chunks, accumulator')) :
    replay fromStr accumulator (text :: texts) = chunks ++ replay fromStr accumulator' texts := by
  rw [replay, h]

/-- The response is that of the call's own answer. -/
def OwnResponse (fromStr : String → Except String JsonValue) (call : WsCall) (answer : List String)
    (response : OpenAiResponse) (_ : Mailbox) : Prop :=
  (ownChunks fromStr call answer).findSome? OpenAiStreamChunk.response = some response

/-- `complete` returns the response of the call's own answer. -/
theorem completeLoop_isolates (state : WsConnectionState) {socket : SocketId} (fuel : Nat)
    (accumulator : ResponsesEventAccumulator) {rest : List String}
    {given : List OpenAiStreamChunk} (h : Receiving answer n socket rest x.2)
    (hhanded : x.2.handed = [])
    (hreplay : ownChunks fromStr call answer = given ++ replay fromStr accumulator rest)
    (hgiven : given.findSome? OpenAiStreamChunk.response = none) :
    Isolates fromStr call answer n (OwnResponse fromStr call answer)
      (completeLoop fromStr state socket fuel accumulator) x := by
  induction fuel generalizing x accumulator rest given with
  | zero =>
      exact isolates_request (h.isolated (hhanded ▸ List.nil_prefix)) fun result => nomatch result
  | succ fuel ih =>
      have hisolated : Isolated fromStr call answer n x.2 :=
        h.isolated (hhanded ▸ List.nil_prefix)
      rw [completeLoop]
      refine isolates_request hisolated fun result x' hact => ?_
      have hmail := hact.1.2
      rcases result with _ | error | message
      · obtain hmail : x'.2 = x.2 := hmail
        exact isolates_dropSocket (hmail ▸ hisolated) state _
      · obtain hmail : x'.2 = x.2 := hmail
        exact isolates_dropSocket (hmail ▸ hisolated) state _
      · cases message with
        | text text =>
            -- The message is the next one of the own answer, so the replay of the answer goes one
            -- step on.
            obtain ⟨origin, tail, hunread, hmail⟩ := hmail
            obtain ⟨rest', rfl, htake⟩ := h.take hunread
            rw [← hmail] at htake
            have hhanded' : x'.2.handed = [] := by
              rw [hmail]
              exact hhanded
            have hisolated' : Isolated fromStr call answer n x'.2 :=
              htake.isolated (hhanded' ▸ List.nil_prefix)
            refine isolates_check_seq hisolated' fun parsed hparsed => ?_
            obtain ⟨chunks, accumulator'⟩ := parsed
            rw [replay_cons rest' hparsed] at hreplay
            dsimp only
            cases hresponse : chunks.findSome? OpenAiStreamChunk.response with
            | some response =>
                refine isolates_pure hisolated' ?_
                rw [OwnResponse, hreplay, List.findSome?_append, hgiven,
                  List.findSome?_append, hresponse]
                rfl
            -- No response yet: the chunks join those that are given, none of which has one.
            | none =>
                rw [← List.append_assoc] at hreplay
                refine ih accumulator' htake hhanded' hreplay ?_
                rw [List.findSome?_append, hgiven, hresponse]
                rfl
        | ping payload =>
            obtain hmail : x'.2 = x.2 := hmail
            refine isolates_quiet_seq (pong_uses socket payload) (hmail ▸ hisolated)
              fun _ x'' hmail' => ?_
            rw [hmail] at hmail'
            exact ih accumulator (hmail' ▸ h) (hmail' ▸ hhanded) hreplay hgiven
        | close =>
            obtain hmail : x'.2 = x.2 := hmail
            exact isolates_dropSocket (hmail ▸ hisolated) state _
        | other =>
            obtain hmail : x'.2 = x.2 := hmail
            exact ih accumulator (hmail ▸ h) (hmail ▸ hhanded) hreplay hgiven

/-- Handing out the chunks of an event. -/
theorem yieldChunks_isolates {socket : SocketId} {rest : List String}
    (chunks : List OpenAiStreamChunk) (h : Receiving answer n socket rest x.2)
    (hown : x.2.handed ++ chunks <+: ownChunks fromStr call answer) :
    Isolates fromStr call answer n
      (fun _ mail => Receiving answer n socket rest mail ∧ mail.handed = x.2.handed ++ chunks)
      (yieldChunks chunks) x := by
  induction chunks generalizing x with
  | nil =>
      rw [List.append_nil] at hown
      exact isolates_pure (h.isolated hown) ⟨h, (List.append_nil _).symm⟩
  | cons chunk chunks ih =>
      have hisolated : Isolated fromStr call answer n x.2 :=
        h.isolated ((List.prefix_append _ _).trans hown)
      refine isolates_request hisolated fun _ x' hact => ?_
      obtain hmail : x'.2 = { x.2 with handed := x.2.handed ++ [chunk] } := hact.1.2
      have hhanded : x'.2.handed ++ chunks = x.2.handed ++ chunk :: chunks := by
        rw [hmail, List.append_assoc, List.singleton_append]
      have hreceiving : Receiving answer n socket rest x'.2 := by
        rw [hmail]
        exact ⟨h.unread, h.taken⟩
      have hrest := ih hreceiving (hhanded ▸ hown)
      rw [hhanded] at hrest
      exact hrest

/-- The chunks of `stream` are those of the call's own answer. -/
theorem streamLoop_isolates {socket : SocketId} (fuel : Nat)
    (accumulator : ResponsesEventAccumulator) {rest : List String}
    (h : Receiving answer n socket rest x.2)
    (hreplay : ownChunks fromStr call answer = x.2.handed ++ replay fromStr accumulator rest) :
    Isolates fromStr call answer n (fun _ _ => True)
      (streamLoop fromStr socket fuel accumulator) x := by
  induction fuel generalizing x accumulator rest with
  | zero =>
      exact isolates_request (h.isolated (hreplay ▸ List.prefix_append _ _))
        fun result => nomatch result
  | succ fuel ih =>
      have hisolated : Isolated fromStr call answer n x.2 :=
        h.isolated (hreplay ▸ List.prefix_append _ _)
      rw [streamLoop]
      refine isolates_request hisolated fun result x' hact => ?_
      have hmail := hact.1.2
      rcases result with _ | error | message
      · obtain hmail : x'.2 = x.2 := hmail
        exact isolates_throw (hmail ▸ hisolated) _
      · obtain hmail : x'.2 = x.2 := hmail
        exact isolates_throw (hmail ▸ hisolated) _
      · cases message with
        | text text =>
            -- The chunks of the message join those that were handed out, as the replay of the
            -- answer has them.
            obtain ⟨origin, tail, hunread, hmail⟩ := hmail
            obtain ⟨rest', rfl, htake⟩ := h.take hunread
            rw [← hmail] at htake
            have hhanded : x'.2.handed = x.2.handed := by
              rw [hmail]
              rfl
            have hisolated' : Isolated fromStr call answer n x'.2 :=
              htake.isolated (hhanded ▸ hisolated.handed)
            refine isolates_check_seq hisolated' fun parsed hparsed => ?_
            obtain ⟨chunks, accumulator'⟩ := parsed
            rw [replay_cons rest' hparsed, ← List.append_assoc, ← hhanded] at hreplay
            refine isolates_seq (yieldChunks_isolates chunks htake
              (hreplay ▸ List.prefix_append _ _)) fun _ x'' hisolated'' hyielded => ?_
            obtain ⟨hreceiving, hhanded'⟩ := hyielded
            split
            · exact isolates_pure hisolated'' trivial
            · exact ih accumulator' hreceiving (hhanded' ▸ hreplay)
        | ping payload =>
            obtain hmail : x'.2 = x.2 := hmail
            refine isolates_quiet_seq (pong_uses socket payload) (hmail ▸ hisolated)
              fun _ x'' hmail' => ?_
            rw [hmail] at hmail'
            exact ih accumulator (hmail' ▸ h) (hmail' ▸ hreplay)
        | close =>
            obtain hmail : x'.2 = x.2 := hmail
            exact isolates_throw (hmail ▸ hisolated) _
        | other =>
            obtain hmail : x'.2 = x.2 := hmail
            exact ih accumulator (hmail ▸ h) (hmail ▸ hreplay)

/-! ## Whole calls -/

/-- Seeing to the connection is quiet. -/
theorem ensureConnection_uses (url : String) (state : WsConnectionState) (auth : OpenAiAuth) :
    Uses Quiet (ensureConnection url state auth).run := by
  refine uses_except_bind (uses_map _ (uses_request trivial)) fun now => ?_
  dsimp only
  split
  · refine uses_except_bind (uses_map _ (uses_request trivial)) fun _ => ?_
    refine uses_except_bind (uses_map _ (uses_request trivial)) fun _ => ?_
    exact uses_except_bind (uses_map _ (uses_request trivial)) fun _ => uses_pure _
  · exact uses_pure _

/-- The call has not read anything and knows which sockets there are. -/
structure Begun (w : WsWorld) (mail : Mailbox) : Prop where
  before : mail.before = w.opened.length
  taken : mail.taken = []
  handed : mail.handed = []
  fresh : ∀ socket, w.opened.length ≤ socket → mail.unread socket = []

/-- A call that has just begun has handed out nothing. -/
theorem Begun.isolated {w : WsWorld} {mail : Mailbox} (h : Begun w mail) :
    Isolated fromStr call answer n mail :=
  ⟨h.taken ▸ List.nil_prefix, h.handed ▸ List.nil_prefix⟩

/-- What is unread on the socket of a call that has not sent its request on it is what the condition
speaks about. -/
theorem Begun.unread {auth : OpenAiAuth} {w w' : WsWorld} {socket : SocketId} {mail : Mailbox}
    (h : Begun w mail) (hconnected : Connected auth w w' socket)
    (hclean : socket < mail.before → mail.unread socket = []) : mail.unread socket = [] := by
  cases hconnected with
  | reused hsocket hclock hreuse =>
      rcases Nat.lt_or_ge socket w.opened.length with hlt | hle
      · exact hclean (h.before ▸ hlt)
      · exact h.fresh socket hle
  | opened hclock hopen => exact h.fresh _ (Nat.le_refl _)

/-- Go on after the connection check. -/
theorem isolates_ensure_seq {url : String} {w : WsWorld} {mail : Mailbox}
    {f : WsConnectionState → WsExecution β} (h : Begun w mail)
    (hf : ∀ state socket w', state.socket = some socket → Connected call.auth w w' socket →
      Isolates fromStr call answer n R (f state) (w', mail)) :
    Isolates fromStr call answer n R (ensureConnection url w.connection call.auth >>= f)
      (w, mail) := by
  have hview : ∀ (x : Served) e x', CleanAct answer n call x e x' → WsAct call x.1 e x'.1 :=
    fun _ _ _ hact => hact.1.1
  have hworld := Correct.lift hview (show CallCorrect call (w, mail).1 _ _ (w, mail).1 from
    ensureConnection_correct url w)
  have hmail : Correct (CleanAct answer n call)
      (fun x' _ => Isolated fromStr call answer n x'.2) (fun _ x' => x'.2 = mail)
      (ensureConnection url w.connection call.auth).run (w, mail) :=
    quiet_correct (x := (w, mail)) (ensureConnection_uses url w.connection call.auth) h.isolated
  refine correct_except_seq ((hworld.and hmail).guard_mono fun _ _ hguard => hguard.2) ?_ ?_
  · rintro state ⟨w', _⟩ ⟨⟨-, socket, hsocket, hconnected⟩, rfl⟩
    exact hf state socket w' hsocket hconnected
  · rintro error ⟨w', _⟩ ⟨-, rfl⟩
    exact ⟨h.isolated, fun _ hvalue => nomatch hvalue⟩

/-- The world after a request was sent or has failed, as far as the mailbox is concerned. -/
theorem sendCreateRequest_isolates {w w' : WsWorld} {mail : Mailbox} {socket : SocketId}
    (h : Begun w mail) (hconnected : Connected call.auth w w' socket) (request : OpenAiRequest) :
    Correct (CleanAct answer n call) (fun x' _ => Isolated fromStr call answer n x'.2)
      (fun result x' => Isolated fromStr call answer n x'.2 ∧ x'.2.handed = [] ∧
        ∀ value, result = .ok value → Receiving answer n socket answer x'.2)
      (sendCreateRequest fromStr socket request).run (w', mail) := by
  rw [sendCreateRequest]
  cases buildResponseCreatePayload (fun text => (fromStr text).toOption) request with
  | error error =>
      refine (correct_pure _).mpr ⟨h.isolated, h.handed, ?_⟩
      rintro _ ⟨⟩
  | ok payload =>
      refine (correct_map _ _).mpr ((correct_call (S := WsSig) _ _).mpr ⟨h.isolated, ?_⟩)
      rintro result ⟨w₁, mail₁⟩ ⟨⟨-, hmail⟩, hclean⟩
      cases result with
      | error error =>
          obtain rfl : mail₁ = mail := hmail
          refine (correct_pure _).mpr ⟨h.isolated, h.handed, ?_⟩
          rintro _ ⟨⟩
      | ok value =>
          obtain rfl : mail₁ = mail.post n answer socket := hmail
          have hunread : mail.unread socket = [] := h.unread hconnected hclean
          have hreceiving : Receiving answer n socket answer (mail.post n answer socket) := by
            constructor
            · rw [Mailbox.post_unread, Function.update_self, hunread, List.nil_append]
            · rw [Mailbox.post, h.taken, List.nil_append]
          have hisolated : Isolated fromStr call answer n (mail.post n answer socket) :=
            hreceiving.isolated (h.handed ▸ List.nil_prefix)
          refine (correct_call (S := WsSig) _ _).mpr ⟨hisolated, ?_⟩
          rintro result ⟨w₂, mail₂⟩ ⟨⟨-, hmail⟩, -⟩
          obtain rfl : mail₂ = mail.post n answer socket := hmail
          exact (correct_pure _).mpr ⟨hisolated, h.handed, fun _ _ => hreceiving⟩

/-- A call that begins is isolated, wherever it stops, and returns its own response. -/
theorem program_isolates (fromStr : String → Except String JsonValue) (url : String)
    (call : WsCall) {w : WsWorld} {mail : Mailbox}
    (h : Begun w mail) :
    Isolates fromStr call answer n
      (fun value _ => ∀ response, value = some response →
        (ownChunks fromStr call answer).findSome? OpenAiStreamChunk.response = some response)
      (call.program fromStr url) (w, mail) := by
  cases call with
  | complete fuel request auth =>
      refine isolates_seq (Q := OwnResponse fromStr (.complete fuel request auth) answer) ?_ ?_
      · refine isolates_request h.isolated ?_
        rintro state ⟨w', _⟩ ⟨⟨⟨rfl, rfl⟩, rfl⟩, -⟩
        refine isolates_ensure_seq h fun state socket w' hsocket hconnected => ?_
        rw [hsocket]
        refine correct_lift_seq (sendCreateRequest_isolates h hconnected request) ?_
        rintro result x' ⟨hisolated, hhanded, hreceiving⟩
        cases result with
        | error error =>
            exact isolates_dropSocket
              (Q := OwnResponse fromStr (.complete fuel request auth) answer)
              hisolated state error
        | ok value =>
            have hreplay : ownChunks fromStr (.complete fuel request auth) answer =
                [] ++ replay fromStr (.new request.model) answer := rfl
            exact completeLoop_isolates state fuel _ (hreceiving () rfl) hhanded hreplay rfl
      · rintro response x' hisolated hresponse
        refine isolates_pure hisolated ?_
        rintro _ ⟨⟩
        exact hresponse
  | stream fuel request auth =>
      refine isolates_seq (Q := fun _ _ => True) ?_ ?_
      · refine isolates_request h.isolated ?_
        rintro state ⟨w', _⟩ ⟨⟨⟨rfl, rfl⟩, rfl⟩, -⟩
        refine isolates_ensure_seq h fun state socket w' hsocket hconnected => ?_
        rw [hsocket]
        refine isolates_seq (Q := fun _ mail => Receiving answer n socket answer mail ∧
          mail.handed = []) ((sendCreateRequest_isolates h hconnected request).mono ?_) ?_
        · rintro result x' ⟨hisolated, hhanded, hreceiving⟩
          exact ⟨hisolated, fun value hvalue => ⟨hreceiving value hvalue, hhanded⟩⟩
        · rintro _ x' hisolated ⟨hreceiving, hhanded⟩
          refine streamLoop_isolates fuel _ hreceiving ?_
          rw [hhanded]
          rfl
      · rintro _ x' hisolated -
        refine isolates_pure hisolated ?_
        rintro _ ⟨⟩

end

/-! ## Sequences of calls -/

section

variable (fromStr : String → Except String JsonValue) (url : String) (answers : Nat → List String)

/-- Nothing is unread on a socket that was not opened. -/
theorem unread_fresh {states : List Served} {x : Served}
    (hrun : Sequence (ServedStep fromStr url CleanAct answers) ({}, {}) states x)
    {socket : SocketId}
    (hsocket : x.1.opened.length ≤ socket) : x.2.unread socket = [] := by
  have hfiled : Filed x := by
    refine hrun.invariant (I := fun _ => Filed) (fun _ hunread => absurd rfl hunread) ?_
    rintro n x x' ⟨call, rest, -, hsteps⟩ hx
    exact hsteps.invariant (fun _ _ _ hact hx => hact.1.filed hx) hx
  have hmatched : Matched x.1 := by
    refine requests_matched fromStr url (hrun.map Prod.fst ?_)
    intro n x x' h
    obtain ⟨call, rest, hstop, hsteps⟩ := h
    exact ⟨call, rest, hstop, hsteps.view (v := Prod.fst) fun _ _ _ hact => hact.1.1⟩
  by_contra hunread
  obtain ⟨create, hcreate, rfl⟩ := hfiled socket hunread
  obtain ⟨opening, hopening, -⟩ := hmatched.creates create hcreate
  exact absurd (List.getElem?_eq_some_iff.mp hopening).1 (Nat.not_lt.mpr hsocket)

/-- In a run in which no request is sent on an old connection with unread messages, every call gets
only what the server has sent in answer to its own request, wherever it stops. -/
theorem calls_isolated {states : List Served} {x x' : Served}
    (hrun : Sequence (ServedStep fromStr url CleanAct answers) ({}, {}) states x) (call : WsCall)
    {rest : Prog WsSig (Except ProviderError (Option OpenAiResponse))}
    (hcall : Steps (CleanAct (answers states.length) states.length call)
      (call.program fromStr url).run (x.1, x.2.begin x.1) rest x') :
    Isolated fromStr call (answers states.length) states.length x'.2 ∧
      ReturnsOwn fromStr call (answers states.length) rest := by
  have hbegun : Begun x.1 (x.2.begin x.1) :=
    ⟨rfl, rfl, rfl, fun socket hsocket => unread_fresh fromStr url answers hrun hsocket⟩
  have hisolates := Correct.steps (program_isolates fromStr url call hbegun) hcall
  cases rest with
  | pure result =>
      obtain ⟨hisolated, hresponse⟩ := (correct_pure _).mp hisolates
      refine ⟨hisolated, ?_⟩
      rcases result with error | value
      · trivial
      · cases value with
        | none => trivial
        | some response => exact hresponse _ rfl response rfl
  | call op next =>
      exact ⟨((correct_call _ _).mp hisolates).1, trivial⟩

end

/-! ## Two calls on one connection -/

/-- An environment whose sockets deliver what the server has sent until the call has read so many
messages. A request is sent when the check allows it. -/
def servedEnvironment (answer : List String) (n : Nat) (call : WsCall) (limit : Nat)
    (check : Served → SocketId → Bool) : (op : WsOp) → Served → Option (op.Answer × Served)
  | .startSend socket (.create _), x =>
      if check x socket then
        some (.ok (), (x.1.sent call.auth socket, x.2.post n answer socket))
      else none
  | .next socket, x =>
      match x.2.unread socket with
      | [] => none
      | (origin, text) :: rest =>
          if x.2.taken.length < limit then
            some (some (.ok (.text text)), (x.1, x.2.take socket (origin, text) rest))
          else none
  | .yield chunk, x => some ((), (x.1, { x.2 with handed := x.2.handed ++ [chunk] }))
  | op, x => (steadyEnvironment call none op x.1).map fun (result, w) => (result, (w, x.2))

/-- The environment of the demo answers as the server does. -/
theorem servedEnvironment_act {answer : List String} {n : Nat} {call : WsCall} {limit : Nat}
    {check : Served → SocketId → Bool} {op : WsSig.Op} {x x' : Served} {result : WsSig.Ans op}
    (h : servedEnvironment answer n call limit check op x = some (result, x')) :
    ServedAct answer n call x ⟨op, result⟩ x' ∧
      ∀ socket payload, op = .startSend socket (.create payload) → check x socket := by
  have hsteady : Quiet op → (steadyEnvironment call none op x.1).map
      (fun (result, w) => (result, (w, x.2))) = some (result, x') →
        ServedAct answer n call x ⟨op, result⟩ x' := by
    intro hquiet h
    obtain ⟨⟨_, w⟩, hw, hx'⟩ := Option.map_eq_some_iff.mp h
    cases hx'
    refine ⟨steadyEnvironment_act hw, ?_⟩
    cases op with
    | startSend socket frame =>
        cases frame with
        | create payload => exact hquiet.elim
        | pong payload => rfl
    | next socket => exact hquiet.elim
    | yield chunk => exact hquiet.elim
    | exhausted => cases result
    | _ => rfl
  cases op with
  | startSend socket frame =>
      cases frame with
      | create payload =>
          rw [servedEnvironment] at h
          split at h
          · rename_i hcheck
            cases h
            refine ⟨⟨rfl, rfl⟩, ?_⟩
            rintro _ _ ⟨⟩
            exact hcheck
          · cases h
      | pong payload => exact ⟨hsteady trivial h, by rintro _ _ ⟨⟩⟩
  | next socket =>
      refine ⟨?_, by rintro _ _ ⟨⟩⟩
      rw [servedEnvironment] at h
      split at h
      · cases h
      · rename_i origin text rest hunread
        split at h
        · cases h
          exact ⟨rfl, origin, rest, hunread, rfl⟩
        · cases h
  | yield chunk =>
      cases h
      exact ⟨⟨rfl, rfl⟩, by rintro _ _ ⟨⟩⟩
  | _ => exact ⟨hsteady trivial h, by rintro _ _ ⟨⟩⟩

/-- The text of a text delta. -/
def deltaText : String :=
  "\x7b\"type\":\"response.output_text.delta\",\"delta\":\"hello\"\x7d"

/-- The text of a terminal event with a model. -/
def completedBy (model : String) : String :=
  "\x7b\"type\":\"response.completed\",\"response\":\x7b\"model\":\"" ++ model ++ "\"\x7d\x7d"

/-- A parser that knows the texts of two answers. -/
def parseAnswers (text : String) : Except String JsonValue :=
  let completed (model : String) : JsonValue :=
    .object [("type", .string "response.completed"),
      ("response", .object [("model", .string model)])]
  if text = deltaText then
    .ok (.object [("type", .string "response.output_text.delta"), ("delta", .string "hello")])
  else if text = completedBy "first" then .ok (completed "first")
  else if text = completedBy "second" then .ok (completed "second")
  else .error "expected value at line 1 column 1"

/-- The server answers the first request with a delta and a terminal event, and all others with a
terminal event. -/
def twoAnswers : Nat → List String
  | 0 => [deltaText, completedBy "first"]
  | _ => [completedBy "second"]

/-- A call with the same credential as all others. -/
def streamHello : WsCall := .stream 3 helloRequest (.apiKey "secret")

/-- A call with the same credential as all others. -/
def completeHello : WsCall := .complete 3 helloRequest (.apiKey "secret")

/-- The first call reads so many messages, the second one as many as it likes. -/
def afterFirst (limit : Nat) (check : Served → SocketId → Bool) :
    Prog WsSig (Except ProviderError (Option OpenAiResponse)) × Served :=
  (streamHello.program parseAnswers "wss://localhost").run.advance
    (servedEnvironment (twoAnswers 0) 0 streamHello limit check) ({}, Mailbox.begin {} {})

/-- The state after the second call, and what is left of it. -/
def afterSecond (limit : Nat) (check : Served → SocketId → Bool) :
    Prog WsSig (Except ProviderError (Option OpenAiResponse)) × Served :=
  let x := (afterFirst limit check).2
  (completeHello.program parseAnswers "wss://localhost").run.advance
    (servedEnvironment (twoAnswers 1) 1 completeHello 3 check) (x.1, x.2.begin x.1)

/-- The model of the response that a call has returned. -/
def returnedModel : Prog WsSig (Except ProviderError (Option OpenAiResponse)) → Option String
  | .pure (.ok (some response)) => some response.model
  | _ => none

/-- The first call as a step of a sequence. -/
theorem afterFirst_step
    {act : List String → Nat → WsCall → Served → Event WsSig → Served → Prop} {limit : Nat}
    {check : Served → SocketId → Bool}
    (hact : ∀ {op x result x'},
      servedEnvironment (twoAnswers 0) 0 streamHello limit check op x = some (result, x') →
        act (twoAnswers 0) 0 streamHello x ⟨op, result⟩ x')
    (hstop : CanStop (afterFirst limit check).1) :
    Sequence (ServedStep parseAnswers "wss://localhost" act twoAnswers) ({}, {}) [({}, {})]
      (afterFirst limit check).2 :=
  .snoc .nil ⟨streamHello, _, hstop, Steps.of_advance hact _ _⟩

/-- Two calls, the first of which reads its whole answer: each gets its own. -/
theorem calls_isolated_two : ∃ (x : Served)
    (rest : Prog WsSig (Except ProviderError (Option OpenAiResponse))),
      Isolated parseAnswers completeHello (twoAnswers 1) 1 x.2 ∧
      ReturnsOwn parseAnswers completeHello (twoAnswers 1) rest ∧
      returnedModel rest = some "second" := by
  let check : Served → SocketId → Bool := fun x socket => decide (x.2.unread socket = [])
  have hact : ∀ {n call limit op x result x'},
      servedEnvironment (twoAnswers n) n call limit check op x = some (result, x') →
        CleanAct (twoAnswers n) n call x ⟨op, result⟩ x' := by
    intro n call limit op x result x' h
    obtain ⟨hserved, hcheck⟩ := servedEnvironment_act h
    refine ⟨hserved, ?_⟩
    cases op with
    | startSend socket frame =>
        cases frame with
        | create payload => exact fun _ => of_decide_eq_true (hcheck socket payload rfl)
        | pong payload => trivial
    | _ => trivial
  have hstop : CanStop (afterFirst 2 check).1 := by decide +kernel
  have hmodel : returnedModel (afterSecond 2 check).1 = some "second" := by decide +kernel
  obtain ⟨hisolated, hreturns⟩ := calls_isolated parseAnswers "wss://localhost" twoAnswers
    (afterFirst_step hact hstop) completeHello (Steps.of_advance hact _ _)
  exact ⟨_, _, hisolated, hreturns, hmodel⟩

/-- When the first call is dropped after its first chunk, the second one returns the response to
the first. -/
theorem earlier_answer_handed_out : ∃ (x₁ x₂ : Served)
    (rest : Prog WsSig (Except ProviderError (Option OpenAiResponse))),
      Sequence (ServedStep parseAnswers "wss://localhost" ServedAct twoAnswers) ({}, {})
        [({}, {})] x₁ ∧
      x₁.2.handed = [.textDelta "hello"] ∧
      Steps (ServedAct (twoAnswers 1) 1 completeHello)
        (completeHello.program parseAnswers "wss://localhost").run (x₁.1, x₁.2.begin x₁.1)
        rest x₂ ∧
      returnedModel rest = some "first" ∧
      ¬ ReturnsOwn parseAnswers completeHello (twoAnswers 1) rest := by
  let check : Served → SocketId → Bool := fun _ _ => true
  have hact : ∀ {n call limit op x result x'},
      servedEnvironment (twoAnswers n) n call limit check op x = some (result, x') →
        ServedAct (twoAnswers n) n call x ⟨op, result⟩ x' :=
    fun h => (servedEnvironment_act h).1
  have hstop : CanStop (afterFirst 1 check).1 := by decide +kernel
  have hhanded : (afterFirst 1 check).2.2.handed = [.textDelta "hello"] := by decide +kernel
  have hmodel : returnedModel (afterSecond 1 check).1 = some "first" := by decide +kernel
  have hown : ((ownChunks parseAnswers completeHello (twoAnswers 1)).findSome?
      OpenAiStreamChunk.response).map (·.model) = some "second" := by
    decide +kernel
  refine ⟨_, _, _, afterFirst_step hact hstop, hhanded, Steps.of_advance hact _ _, hmodel,
    fun hreturns => ?_⟩
  change returnedModel (afterSecond 1 check).1 = some "first" at hmodel
  change ReturnsOwn parseAnswers completeHello (twoAnswers 1) (afterSecond 1 check).1 at hreturns
  generalize (afterSecond 1 check).1 = rest at hmodel hreturns
  unfold returnedModel at hmodel
  split at hmodel
  · rename_i response
    rw [ReturnsOwn] at hreturns
    rw [hreturns] at hown
    exact absurd (hmodel.symm.trans hown) (by decide)
  · cases hmodel

end Fiddlesticks.Provider.OpenAi
