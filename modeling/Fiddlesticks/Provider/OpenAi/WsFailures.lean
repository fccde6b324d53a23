import Fiddlesticks.Provider.OpenAi.WsConnections

/-!
# Broken connections of the websocket transport

A `complete` call that observes a failure clears the socket, unless it fails to send a pong, and a
`stream` call never does. A broken socket stays in the connection, and is used again, exactly in the
runs with a failure of the second sort.
-/

namespace Fiddlesticks.Provider.OpenAi

open Effect Prog

/-- The open socket is not a broken one, and no request was sent on one. -/
structure NotReused (w : WsWorld) : Prop where
  socket : ∀ socket, w.connection.socket = some socket → socket ∉ w.broken
  creates : ∀ create ∈ w.creates, create.onBroken = false

/-- The open socket and the broken ones have been opened, and a broken socket is open or used again
only after a failure that was not handled. -/
structure Failures (w : WsWorld) : Prop where
  socket_lt : ∀ socket, w.connection.socket = some socket → socket < w.opened.length
  broken_lt : ∀ socket ∈ w.broken, socket < w.opened.length
  socket : ∀ socket, w.connection.socket = some socket → socket ∈ w.broken → socket ∈ w.unhandled
  creates : ∀ create ∈ w.creates, create.onBroken = true → w.unhandled ≠ []

/-- Without an unhandled failure no broken socket is used again. -/
theorem Failures.notReused {w : WsWorld} (h : Failures w) (hunhandled : w.unhandled = []) :
    NotReused w := by
  constructor
  · intro socket hsocket hbroken
    have hmem := h.socket socket hsocket hbroken
    rw [hunhandled] at hmem
    cases hmem
  · intro create hcreate
    refine Bool.eq_false_iff.mpr fun hbroken => h.creates create hcreate hbroken hunhandled

variable {w w' : WsWorld} {auth : OpenAiAuth} {socket : SocketId}

/-- The connection check leaves an old socket or a new one. -/
theorem Connected.failures (h : Connected auth w w' socket) (hw : Failures w) :
    Failures w' ∧ w'.connection.socket = some socket ∧ w'.unhandled = w.unhandled := by
  cases h with
  | reused hsocket hclock hreuse =>
      exact ⟨⟨hw.socket_lt, hw.broken_lt, hw.socket, hw.creates⟩, hsocket, rfl⟩
  | @opened time openTime hclock hopen =>
      have hlength : (w.opened ++ [Opening.mk (connectHeader auth) openTime]).length =
          w.opened.length + 1 := List.length_append
      refine ⟨⟨?_, fun socket hbroken => ?_, ?_, hw.creates⟩, rfl, rfl⟩
      · rintro _ ⟨⟩
        show w.opened.length < _
        rw [hlength]
        exact Nat.lt_succ_self _
      · show socket < (w.opened ++ [Opening.mk (connectHeader auth) openTime]).length
        rw [hlength]
        exact (hw.broken_lt socket hbroken).trans (Nat.lt_succ_self _)
      · rintro _ ⟨⟩ hbroken
        exact absurd (hw.broken_lt _ hbroken) (lt_irrefl _)

/-- A request is sent on a broken socket only after an unhandled failure. -/
theorem Failures.sent (h : Failures w) (hsocket : w.connection.socket = some socket) :
    Failures (w.sent auth socket) := by
  refine ⟨h.socket_lt, h.broken_lt, h.socket, fun create hcreate hbroken => ?_⟩
  rcases List.mem_append.mp hcreate with hcreate | hcreate
  · exact h.creates create hcreate hbroken
  · obtain rfl := List.mem_singleton.mp hcreate
    exact List.ne_nil_of_mem (h.socket socket hsocket (of_decide_eq_true hbroken))

/-- A call that stops handles a failure or leaves the broken socket in the connection. -/
theorem Stops.failures (h : Stops socket w w') (hw : Failures w)
    (hsocket : w.connection.socket = some socket) :
    Failures w' ∧ (w'.unhandled = w.unhandled ∨ ∃ socket, w'.unhandled = w.unhandled ++ [socket] ∧
      w'.connection.socket = some socket ∧ socket ∈ w'.broken) := by
  have hbroken : ∀ other ∈ w.broken ++ [socket], other < w.opened.length := by
    intro other hother
    rcases List.mem_append.mp hother with hother | hother
    · exact hw.broken_lt other hother
    · obtain rfl := List.mem_singleton.mp hother
      exact hw.socket_lt other hsocket
  cases h with
  | quiet => exact ⟨hw, .inl rfl⟩
  | cleared =>
      exact ⟨⟨fun _ h => (nomatch h), hw.broken_lt, fun _ h => (nomatch h), hw.creates⟩, .inl rfl⟩
  | handled =>
      exact ⟨⟨fun _ h => (nomatch h), hbroken, fun _ h => (nomatch h), hw.creates⟩, .inl rfl⟩
  | unhandled =>
      have hmem : ∀ {list : List SocketId}, socket ∈ list ++ [socket] :=
        List.mem_append_right _ (List.mem_singleton_self _)
      refine ⟨⟨hw.socket_lt, hbroken, fun other hother _ => ?_, fun _ _ _ => ?_⟩,
        .inr ⟨socket, rfl, hsocket, hmem⟩⟩
      · obtain rfl : socket = other := Option.some.inj (hsocket.symm.trans hother)
        exact hmem
      · exact List.ne_nil_of_mem hmem

/-- What a call does about failures. -/
theorem Performs.failures {call : WsCall} (h : Performs call w w') (hw : Failures w) :
    Failures w' ∧ (w'.unhandled = w.unhandled ∨ ∃ socket, w'.unhandled = w.unhandled ++ [socket] ∧
      w'.connection.socket = some socket ∧ socket ∈ w'.broken) := by
  have hnone : ∀ {time : Instant} {refused : Bool}, Failures { w.read time with
      connection := {}, connectFailed := refused } :=
    ⟨fun _ h => (nomatch h), hw.broken_lt, fun _ h => (nomatch h), hw.creates⟩
  cases h with
  | waiting => exact ⟨hw, .inl rfl⟩
  | connecting => exact ⟨hnone, .inl rfl⟩
  | refused => exact ⟨hnone, .inl rfl⟩
  | unsent hconnected hstops =>
      obtain ⟨hw₁, hsocket, hunhandled⟩ := hconnected.failures hw
      rw [← hunhandled]
      exact hstops.failures hw₁ hsocket
  | sent hconnected hstops =>
      obtain ⟨hw₁, hsocket, hunhandled⟩ := hconnected.failures hw
      rw [← hunhandled]
      exact hstops.failures (hw₁.sent hsocket) hsocket

section

variable (fromStr : String → Except String JsonValue) (url : String)

/-- Nothing has failed yet. -/
theorem failures_start : Failures {} :=
  ⟨fun _ h => (nomatch h), fun _ h => (nomatch h), fun _ h => (nomatch h), fun _ h => nomatch h⟩

/-- Every run keeps what is known of its failures. -/
theorem failures_of_run {states : List WsWorld}
    (hrun : Sequence (fun _ => WsStep fromStr url) {} states w) : Failures w := by
  refine hrun.invariant (I := fun _ => Failures) failures_start ?_
  intro _ s s' hstep hs
  obtain ⟨call, hperforms⟩ := hstep.performs
  exact (hperforms.failures hs).1

/-- In a run of calls no broken socket is ever kept or used again exactly when no call observes a
failure that it does not handle. -/
theorem broken_socket_not_reused_iff {states : List WsWorld} {w : WsWorld}
    (hrun : Sequence (fun _ => WsStep fromStr url) {} states w) :
    (∀ s ∈ states ++ [w], NotReused s) ↔ w.unhandled = [] := by
  induction hrun with
  | nil => simpa using failures_start.notReused rfl
  | @snoc states s s' hbefore hstep ih =>
      have hlast := failures_of_run fromStr url (hbefore.snoc hstep)
      obtain ⟨call, hperforms⟩ := hstep.performs
      obtain ⟨-, hunhandled⟩ := hperforms.failures (failures_of_run fromStr url hbefore)
      constructor
      · intro h
        have hs : s.unhandled = [] :=
          ih.mp fun other hother => h other (List.mem_append_left _ hother)
        have hs' : NotReused s' := h s' (List.mem_append_right _ (List.mem_singleton_self _))
        rcases hunhandled with hsame | ⟨socket, -, hsocket, hbroken⟩
        · rw [hsame, hs]
        · exact absurd hbroken (hs'.socket socket hsocket)
      · intro h other hother
        have hs : s.unhandled = [] := by
          rcases hunhandled with hsame | ⟨socket, hgrown, -⟩
          · rw [← hsame, h]
          · rw [h] at hgrown
            exact (List.append_eq_nil_iff.mp hgrown.symm).1
        rcases List.mem_append.mp hother with hother | hother
        · exact ih.mpr hs other hother
        · obtain rfl := List.mem_singleton.mp hother
          exact hlast.notReused h

end

/-- Two `complete` calls whose connections are closed use two sockets. -/
theorem broken_socket_not_reused_complete :
    ∃ w₁ w₂ : WsWorld, (∀ s ∈ [{}, w₁] ++ [w₂], NotReused s) ∧ w₂.broken = [0, 1] := by
  have hview : viewTwo (.complete 1 helloRequest (.apiKey "secret"))
      (.complete 1 helloRequest (.apiKey "secret")) (some (.ok .close))
      (fun _ w => (w.broken, w.unhandled)) = some ([0, 1], []) := by
    decide +kernel
  obtain ⟨w₁, w₂, hrun, hvalues⟩ := sequence_of_viewTwo hview
  obtain ⟨hbroken, hunhandled⟩ := Prod.mk.inj hvalues
  exact ⟨w₁, w₂, (broken_socket_not_reused_iff parseCompletedText "wss://localhost" hrun).mpr
    hunhandled, hbroken⟩

/-- After a `stream` call whose connection is closed the broken socket stays open, and the next
call sends its request on it. -/
theorem broken_socket_reused :
    ∃ w₁ w₂ : WsWorld,
      Sequence (fun _ => WsStep parseCompletedText "wss://localhost") {} [{}, w₁] w₂ ∧
      w₁.connection.socket = some 0 ∧ w₁.broken = [0] ∧
      w₂.creates = [⟨.apiKey "secret", 0, 0, false⟩, ⟨.apiKey "secret", 0, 0, true⟩] ∧
      ¬ NotReused w₁ ∧ ¬ NotReused w₂ := by
  have hview : viewTwo (.stream 1 helloRequest (.apiKey "secret"))
      (.complete 1 helloRequest (.apiKey "secret")) (some (.ok .close))
      (fun w₁ w₂ => (w₁.connection.socket, w₁.broken, w₂.creates)) =
        some (some 0, [0], [⟨.apiKey "secret", 0, 0, false⟩, ⟨.apiKey "secret", 0, 0, true⟩]) := by
    decide +kernel
  obtain ⟨w₁, w₂, hrun, hvalues⟩ := sequence_of_viewTwo hview
  obtain ⟨hsocket, hrest⟩ := Prod.mk.inj hvalues
  obtain ⟨hbroken, hcreates⟩ := Prod.mk.inj hrest
  refine ⟨w₁, w₂, hrun, hsocket, hbroken, hcreates, fun h => ?_, fun h => ?_⟩
  · exact h.socket 0 hsocket (by simp [hbroken])
  · have hcreate := h.creates ⟨.apiKey "secret", 0, 0, true⟩ (by simp [hcreates])
    cases hcreate

end Fiddlesticks.Provider.OpenAi
