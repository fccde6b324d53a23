import Fiddlesticks.Effect.Prog

/-!
# Reasoning about the histories of a program

The history of a program is the list of operations it has issued, each with the answer it got.
`Obeys G Q h p` says that from history `h`, whatever the environment answers, every event of `p`
satisfies the guard `G` of the history before it and every return value satisfies `Q` of the
whole history. It is a weakest precondition with the history as ghost state: `obeys_bind` is the
sequencing rule, `Obeys.mono` the rule of consequence, and `Obeys.path` its meaning on paths.
-/

namespace Effect

/-- An operation together with the answer it got. -/
structure Event (S : Sig) where
  op : S.Op
  ans : S.Ans op

/-- The events of a program so far, oldest first. -/
abbrev History (S : Sig) := List (Event S)

namespace Prog

variable {S T : Sig} {α β ε : Type}

/-- `Path p events q` says that `p` becomes `q` after `events`. The environment may give any
answers. -/
inductive Path : Prog S α → History S → Prog S α → Prop where
  | nil (p) : Path p [] p
  | cons {op next answer events q} :
      Path (next answer) events q → Path (.call op next) (⟨op, answer⟩ :: events) q

/-- Every event satisfies the guard `G` of the history before it, and every return value
satisfies `Q` of the whole history. -/
def Obeys (G : History S → Event S → Prop) (Q : History S → α → Prop) :
    History S → Prog S α → Prop
  | h, .pure value => Q h value
  | h, .call op next => ∀ answer, G h ⟨op, answer⟩ ∧ Obeys G Q (h ++ [⟨op, answer⟩]) (next answer)

variable {G G' : History S → Event S → Prop} {Q Q' : History S → α → Prop} {h : History S}

/-- A value obeys when it is as stated. -/
@[simp] theorem obeys_pure (value : α) : Obeys G Q h (.pure value) ↔ Q h value := Iff.rfl

/-- An operation obeys when it is allowed here and what follows obeys after every answer. -/
@[simp] theorem obeys_call (op : S.Op) (next : S.Ans op → Prog S α) :
    Obeys G Q h (.call op next) ↔
      ∀ answer, G h ⟨op, answer⟩ ∧ Obeys G Q (h ++ [⟨op, answer⟩]) (next answer) := Iff.rfl

/-- A single operation obeys when it is allowed here and every answer is as stated. -/
theorem obeys_request {op : S.Op} {Q : History S → S.Ans op → Prop} :
    Obeys G Q h (request op) ↔
      ∀ answer, G h ⟨op, answer⟩ ∧ Q (h ++ [⟨op, answer⟩]) answer := Iff.rfl

/-- A panic is no event. -/
theorem obeys_panicked [Panics S] : Obeys G Q h (panicked : Prog S α) :=
  fun answer => (Panics.unanswered answer).elim

/-- The sequencing rule. -/
theorem obeys_bind {R : History S → β → Prop} (p : Prog S α) (f : α → Prog S β) :
    Obeys G R h (p >>= f) ↔ Obeys G (fun h' value => Obeys G R h' (f value)) h p := by
  induction p generalizing h with
  | pure value => rfl
  | call op next ih =>
      simp only [call_bind, obeys_call]
      exact forall_congr' fun answer => and_congr_right fun _ => ih answer

/-- The rule of consequence. -/
theorem Obeys.mono {p : Prog S α} (hp : Obeys G Q h p) (hG : ∀ h e, G h e → G' h e)
    (hQ : ∀ h value, Q h value → Q' h value) : Obeys G' Q' h p := by
  induction p generalizing h with
  | pure value => exact hQ _ _ hp
  | call op next ih => exact fun answer => ⟨hG _ _ (hp answer).1, ih answer (hp answer).2⟩

/-- Two specifications of one program hold together. -/
theorem Obeys.and {p : Prog S α} (hp : Obeys G Q h p) (hp' : Obeys G' Q' h p) :
    Obeys (fun h e => G h e ∧ G' h e) (fun h value => Q h value ∧ Q' h value) h p := by
  induction p generalizing h with
  | pure value => exact ⟨hp, hp'⟩
  | call op next ih =>
      exact fun answer => ⟨⟨(hp answer).1, (hp' answer).1⟩, ih answer (hp answer).2 (hp' answer).2⟩

/-- The sequencing rule with a stated intermediate assertion. -/
theorem obeys_seq {R : History S → β → Prop} {p : Prog S α} {f : α → Prog S β}
    (hp : Obeys G Q h p) (hf : ∀ h' value, Q h' value → Obeys G R h' (f value)) :
    Obeys G R h (p >>= f) :=
  (obeys_bind p f).mpr (hp.mono (fun _ _ hg => hg) hf)

/-- Along a path every event satisfies its guard, and the rest of the program still obeys. -/
theorem Obeys.path {p q : Prog S α} {events : History S} (hp : Obeys G Q h p)
    (hpath : Path p events q) :
    (∀ before e after, events = before ++ e :: after → G (h ++ before) e) ∧
      Obeys G Q (h ++ events) q := by
  induction hpath generalizing h with
  | nil p => exact ⟨by simp, by simpa using hp⟩
  | @cons op next answer events q _ ih =>
      obtain ⟨hguard, hrest⟩ := hp answer
      obtain ⟨hevents, hq⟩ := ih hrest
      refine ⟨?_, by simpa using hq⟩
      intro before e after heq
      cases before with
      | nil =>
          obtain ⟨rfl, _⟩ := List.cons.inj heq
          simpa using hguard
      | cons first before =>
          obtain ⟨rfl, htail⟩ := List.cons.inj heq
          simpa using hevents before e after htail

/-- A value returned at the end of a path satisfies the postcondition. -/
theorem Obeys.returns {p : Prog S α} {events : History S} {value : α} (hp : Obeys G Q h p)
    (hpath : Path p events (.pure value)) : Q (h ++ events) value :=
  (hp.path hpath).2

/-- Paths compose. -/
theorem Path.trans {p q r : Prog S α} {first rest : History S} (hpq : Path p first q)
    (hqr : Path q rest r) : Path p (first ++ rest) r := by
  induction hpq with
  | nil p => exact hqr
  | cons _ ih => exact .cons (ih hqr)

/-- A path goes through a program after any first part of its events. -/
theorem Path.split {p r : Prog S α} {first rest : History S} (h : Path p (first ++ rest) r) :
    ∃ q, Path p first q ∧ Path q rest r := by
  induction first generalizing p with
  | nil => exact ⟨p, .nil p, h⟩
  | cons e first ih =>
      cases h with
      | cons h =>
          obtain ⟨q, hfirst, hrest⟩ := ih h
          exact ⟨q, .cons hfirst, hrest⟩

/-- Every path can be followed to an end if every operation has an answer. -/
theorem Path.to_end (hanswer : ∀ op, Nonempty (S.Ans op)) (p : Prog S α) :
    ∃ events value, Path p events (.pure value) := by
  induction p with
  | pure value => exact ⟨[], value, .nil _⟩
  | call op next ih =>
      obtain ⟨answer⟩ := hanswer op
      obtain ⟨events, value, hpath⟩ := ih answer
      exact ⟨⟨op, answer⟩ :: events, value, .cons hpath⟩

/-- A program is endless if it can go through infinitely many events. -/
def Endless (p : Prog S α) : Prop :=
  ∃ events : Nat → Event S, ∀ n, ∃ q, Path p ((List.range n).map events) q

/-- No program goes on forever, whatever it is answered. -/
theorem not_endless (p : Prog S α) : ¬ Endless p := by
  induction p with
  | pure value =>
      rintro ⟨events, hpath⟩
      obtain ⟨q, hfirst⟩ := hpath 1
      rw [List.range_one, List.map_singleton] at hfirst
      cases hfirst
  | call op next ih =>
      rintro ⟨events, hpath⟩
      obtain ⟨q, hfirst⟩ := hpath 1
      obtain ⟨answer, hanswer⟩ : ∃ answer, events 0 = ⟨op, answer⟩ := by
        rw [List.range_one, List.map_singleton] at hfirst
        generalize events 0 = e at hfirst
        cases hfirst
        exact ⟨_, rfl⟩
      refine ih answer ⟨fun n => events (n + 1), fun n => ?_⟩
      obtain ⟨q, hlater⟩ := hpath (n + 1)
      rw [List.range_succ_eq_map, List.map_cons, List.map_map, hanswer] at hlater
      cases hlater with
      | cons hlater => exact ⟨q, hlater⟩

/-- Where a program has got in an environment, up to an operation that is not answered. -/
def advance {σ : Type} (handle : (op : S.Op) → σ → Option (S.Ans op × σ)) :
    Prog S α → σ → Prog S α × σ
  | .pure value, s => (.pure value, s)
  | .call op next, s =>
      match handle op s with
      | some (answer, s') => advance handle (next answer) s'
      | none => (.call op next, s)

/-- The events on the way there. -/
def trace {σ : Type} (handle : (op : S.Op) → σ → Option (S.Ans op × σ)) :
    Prog S α → σ → History S
  | .pure _, _ => []
  | .call op next, s =>
      match handle op s with
      | some (answer, s') => ⟨op, answer⟩ :: trace handle (next answer) s'
      | none => []

/-- A run against a deterministic environment is a path. -/
theorem path_trace {σ : Type} (handle : (op : S.Op) → σ → Option (S.Ans op × σ)) (p : Prog S α)
    (s : σ) : Path p (trace handle p s) (p.advance handle s).1 := by
  induction p generalizing s with
  | pure value => exact .nil _
  | call op next ih =>
      rw [trace, advance]
      cases handle op s with
      | none => exact .nil _
      | some answered => exact .cons (ih _ _)

/-- A program that is executed to its end goes there. -/
theorem advance_of_finish {σ : Type} {handle : (op : S.Op) → σ → Option (S.Ans op × σ)}
    {p : Prog S α} {s t : σ} {value : α} (h : p.finish handle s = some (value, t)) :
    p.advance handle s = (.pure value, t) := by
  induction p generalizing s with
  | pure returned =>
      cases h
      rfl
  | call op next ih =>
      obtain ⟨answered, hanswer, hrest⟩ := Option.bind_eq_some_iff.mp h
      rw [advance, hanswer]
      exact ih _ hrest

/-- An execution to the end is a path there. -/
theorem path_of_finish {σ : Type} {handle : (op : S.Op) → σ → Option (S.Ans op × σ)}
    {p : Prog S α} {s t : σ} {value : α} (h : p.finish handle s = some (value, t)) :
    Path p (trace handle p s) (.pure value) := by
  have hpath := path_trace handle p s
  rwa [advance_of_finish h] at hpath

/-- A pure function of the result moves into the postcondition. -/
@[simp] theorem obeys_map {Q : History S → β → Prop} (f : α → β) (p : Prog S α) :
    Obeys G Q h (f <$> p) ↔ Obeys G (fun h' value => Q h' (f value)) h p := by
  rw [map_eq_pure_bind, obeys_bind]
  rfl

/-- Execute a program against an environment that may leave operations unanswered, keeping the
events. -/
def execute {σ : Type} (handle : (op : S.Op) → σ → Option (S.Ans op × σ)) :
    Prog S α → σ → Option (History S × α × σ)
  | .pure value, state => some ([], value, state)
  | .call op next, state => do
      let (answer, state) ← handle op state
      let (events, value, state) ← execute handle (next answer) state
      return (⟨op, answer⟩ :: events, value, state)

/-- Executing a composition executes its parts one after the other. -/
theorem execute_bind {σ : Type} (handle : (op : S.Op) → σ → Option (S.Ans op × σ)) (p : Prog S α)
    (f : α → Prog S β) (s : σ) :
    execute handle (p >>= f) s = (execute handle p s).bind fun ended =>
      (execute handle (f ended.2.1) ended.2.2).map fun last => (ended.1 ++ last.1, last.2) := by
  induction p generalizing s with
  | pure value => exact Option.map_id'.symm
  | call op next ih =>
      rw [call_bind, execute, execute]
      cases handle op s with
      | none => rfl
      | some answered =>
          obtain ⟨answer, s'⟩ := answered
          simp only [Option.bind_eq_bind, Option.bind_some, ih]
          cases execute handle (next answer) s' with
          | none => rfl
          | some ended =>
              obtain ⟨first, value, t⟩ := ended
              simp only [Option.bind_some, Option.pure_def]
              cases execute handle (f value) t with
              | none => rfl
              | some last => rfl

/-- Executing what follows a program that has come to its end. -/
theorem execute_bind_of {σ : Type} {handle : (op : S.Op) → σ → Option (S.Ans op × σ)}
    {p : Prog S α} {f : α → Prog S β} {s t : σ} {first : History S} {value : α}
    (hp : execute handle p s = some (first, value, t)) :
    execute handle (p >>= f) s =
      (execute handle (f value) t).map fun last => (first ++ last.1, last.2) := by
  rw [execute_bind, hp]
  rfl

/-- A sequence is executed part by part. -/
theorem execute_seq {σ : Type} {handle : (op : S.Op) → σ → Option (S.Ans op × σ)}
    {p : Prog S α} {f : α → Prog S β} {s t u : σ} {first rest : History S} {value : α} {result : β}
    (hp : execute handle p s = some (first, value, t))
    (hf : execute handle (f value) t = some (rest, result, u)) :
    execute handle (p >>= f) s = some (first ++ rest, result, u) := by
  rw [execute_bind_of hp, hf]
  rfl

/-- A panic is not executed to an end. -/
@[simp] theorem execute_panicked [Panics S] {σ : Type}
    (handle : (op : S.Op) → σ → Option (S.Ans op × σ)) (s : σ) :
    execute handle (panicked : Prog S α) s = none := by
  rw [panicked, execute]
  cases hanswer : handle Panics.op s with
  | none => rfl
  | some answered => exact (Panics.unanswered answered.1).elim

/-- Steps of a program in an environment that may answer in several ways: `act s e s'` says that
the event `e` may happen in the state `s` and leaves `s'`. -/
inductive Steps {σ : Type} (act : σ → Event S → σ → Prop) :
    Prog S α → σ → Prog S α → σ → Prop where
  | refl (p s) : Steps act p s p s
  | call {op next answer s s' q t} :
      act s ⟨op, answer⟩ s' → Steps act (next answer) s' q t → Steps act (.call op next) s q t

/-! ## Programs that fail

A fallible program is an `ExceptT ε (Prog S) α`; the sequencing rule splits on the outcome of
its first part. -/

/-- Returning a value obeys when it is as stated. -/
@[simp] theorem obeys_except_pure {Q : History S → Except ε α → Prop} (value : α) :
    Obeys G Q h (Pure.pure value : ExceptT ε (Prog S) α).run ↔ Q h (.ok value) := Iff.rfl

/-- Failing obeys when the error is as stated. -/
@[simp] theorem obeys_except_throw {Q : History S → Except ε α → Prop} (error : ε) :
    Obeys G Q h (throw error : ExceptT ε (Prog S) α).run ↔ Q h (.error error) := Iff.rfl

/-- A pure outcome obeys when it is as stated. -/
@[simp] theorem obeys_except_lift {Q : History S → Except ε α → Prop} (result : Except ε α) :
    Obeys G Q h (liftM result : ExceptT ε (Prog S) α).run ↔ Q h result := Iff.rfl

/-- A program that cannot fail, among those that can. -/
@[simp] theorem obeys_lift {Q : History S → Except ε α → Prop} (p : Prog S α) :
    Obeys G Q h (ExceptT.lift p : ExceptT ε (Prog S) α).run ↔
      Obeys G (fun h' value => Q h' (.ok value)) h p :=
  obeys_map Except.ok p

/-- The sequencing rule for fallible programs: an error ends the program. -/
theorem obeys_except_bind {R : History S → Except ε β → Prop} (p : ExceptT ε (Prog S) α)
    (f : α → ExceptT ε (Prog S) β) :
    Obeys G R h (p >>= f).run ↔
      Obeys G (fun h' result => match result with
        | .ok value => Obeys G R h' (f value).run
        | .error error => R h' (.error error)) h p.run := by
  change Obeys G R h (Prog.bind p.run _) ↔ _
  refine (obeys_bind p.run _).trans (Iff.of_eq ?_)
  congr 1
  funext h' result
  cases result <;> rfl

/-- The sequencing rule with a stated intermediate assertion. -/
theorem obeys_except_seq {Q : History S → Except ε α → Prop} {R : History S → Except ε β → Prop}
    {p : ExceptT ε (Prog S) α} {f : α → ExceptT ε (Prog S) β} (hp : Obeys G Q h p.run)
    (hok : ∀ h' value, Q h' (.ok value) → Obeys G R h' (f value).run)
    (herror : ∀ h' error, Q h' (.error error) → R h' (.error error)) :
    Obeys G R h (p >>= f).run := by
  refine (obeys_except_bind p f).mpr (hp.mono (fun _ _ hg => hg) ?_)
  intro h' result hresult
  cases result with
  | ok value => exact hok h' value hresult
  | error error => exact herror h' error hresult

/-- Go on after an operation, whatever its answer. -/
theorem obeys_request_seq {op : S.Op} {f : S.Ans op → ExceptT ε (Prog S) β}
    {R : History S → Except ε β → Prop} (hG : ∀ answer, G h ⟨op, answer⟩)
    (hf : ∀ answer, Obeys G R (h ++ [⟨op, answer⟩]) (f answer).run) :
    Obeys G R h (ExceptT.lift (request op) >>= f).run :=
  (obeys_except_bind _ _).mpr <| (obeys_lift _).mpr fun answer => ⟨hG answer, hf answer⟩

/-- Go on after a check that does not issue operations. -/
theorem obeys_check_seq {check : Except ε α} {f : α → ExceptT ε (Prog S) β}
    {R : History S → Except ε β → Prop}
    (hok : ∀ value, check = .ok value → Obeys G R h (f value).run)
    (herror : ∀ error, check = .error error → R h (.error error)) :
    Obeys G R h (liftM check >>= f).run := by
  refine (obeys_except_bind _ _).mpr ((obeys_except_lift check).mpr ?_)
  cases check with
  | ok value => exact hok value rfl
  | error error => exact herror error rfl

/-! ## Partial correctness -/

/-- Every event satisfies the guard, and a value, if the program does not fail, satisfies `Q`. -/
def Ensures (G : History S → Event S → Prop) (Q : History S → α → Prop) (h : History S)
    (p : ExceptT ε (Prog S) α) : Prop :=
  Obeys G (fun h' result => ∀ value, result = .ok value → Q h' value) h p.run

section Ensures

variable {Q : History S → α → Prop} {R : History S → β → Prop}

/-- A returned value ensures what holds of it. -/
theorem ensures_pure {value : α} (hvalue : Q h value) :
    Ensures G Q h (Pure.pure value : ExceptT ε (Prog S) α) :=
  (obeys_except_pure value).mpr fun _ heq => (Except.ok.inj heq) ▸ hvalue

/-- A failure ensures everything of values. -/
theorem ensures_throw (error : ε) : Ensures G Q h (throw error : ExceptT ε (Prog S) α) :=
  (obeys_except_throw error).mpr fun _ heq => nomatch heq

/-- The sequencing rule. -/
theorem ensures_seq {p : ExceptT ε (Prog S) α} {f : α → ExceptT ε (Prog S) β}
    (hp : Ensures G Q h p) (hf : ∀ h' value, Q h' value → Ensures G R h' (f value)) :
    Ensures G R h (p >>= f) :=
  obeys_except_seq hp (fun h' value hresult => hf h' value (hresult value rfl))
    fun _ _ _ _ heq => nomatch heq

/-- Go on after an operation, whatever its answer. -/
theorem ensures_request_seq {op : S.Op} {f : S.Ans op → ExceptT ε (Prog S) β}
    (hG : ∀ answer, G h ⟨op, answer⟩)
    (hf : ∀ answer, Ensures G R (h ++ [⟨op, answer⟩]) (f answer)) :
    Ensures G R h (ExceptT.lift (request op) >>= f) :=
  (obeys_except_bind _ _).mpr <| (obeys_lift _).mpr fun answer => ⟨hG answer, hf answer⟩

/-- Go on after a check that does not issue operations. -/
theorem ensures_check_seq {check : Except ε α} {f : α → ExceptT ε (Prog S) β}
    (hf : ∀ value, check = .ok value → Ensures G R h (f value)) :
    Ensures G R h (liftM check >>= f) := by
  refine (obeys_except_bind _ _).mpr ((obeys_except_lift check).mpr ?_)
  cases check with
  | ok value => exact hf value rfl
  | error error => exact fun _ heq => nomatch heq

end Ensures

/-! ## Programs restricted to some operations -/

/-- Every operation the program can issue is allowed. -/
def Uses (allowed : S.Op → Prop) : Prog S α → Prop
  | .pure _ => True
  | .call op next => allowed op ∧ ∀ answer, Uses allowed (next answer)

/-- A value issues nothing. -/
@[simp] theorem uses_pure {allowed : S.Op → Prop} (value : α) :
    Uses allowed (.pure value : Prog S α) := trivial

/-- An operation and what follows it issue what they may. -/
@[simp] theorem uses_call {allowed : S.Op → Prop} (op : S.Op) (next : S.Ans op → Prog S α) :
    Uses allowed (.call op next) ↔ allowed op ∧ ∀ answer, Uses allowed (next answer) := Iff.rfl

/-- More may be allowed. -/
theorem Uses.mono {allowed allowed' : S.Op → Prop} {p : Prog S α} (hp : Uses allowed p)
    (hallowed : ∀ op, allowed op → allowed' op) : Uses allowed' p := by
  induction p with
  | pure value => trivial
  | call op next ih => exact ⟨hallowed _ hp.1, fun answer => ih answer (hp.2 answer)⟩

/-- A single operation issues itself. -/
theorem uses_request {allowed : S.Op → Prop} {op : S.Op} (hop : allowed op) :
    Uses allowed (request op) :=
  ⟨hop, fun _ => trivial⟩

/-- A sequence issues what its parts issue. -/
theorem uses_bind {allowed : S.Op → Prop} {p : Prog S α} {f : α → Prog S β}
    (hp : Uses allowed p) (hf : ∀ value, Uses allowed (f value)) : Uses allowed (p >>= f) := by
  induction p with
  | pure value => exact hf value
  | call op next ih => exact ⟨hp.1, fun answer => ih answer (hp.2 answer)⟩

/-- A pure function of the value issues nothing. -/
theorem uses_map {allowed : S.Op → Prop} {p : Prog S α} (f : α → β) (hp : Uses allowed p) :
    Uses allowed (f <$> p) := by
  rw [map_eq_pure_bind]
  exact uses_bind hp fun _ => trivial

/-- A sequence of fallible parts issues what its parts issue. -/
theorem uses_except_bind {allowed : S.Op → Prop} {p : ExceptT ε (Prog S) α}
    {f : α → ExceptT ε (Prog S) β} (hp : Uses allowed p.run)
    (hf : ∀ value, Uses allowed (f value).run) : Uses allowed (p >>= f).run := by
  refine uses_bind hp fun result => ?_
  cases result with
  | ok value => exact hf value
  | error error => trivial

/-- A translated program uses what the translations of its operations use. -/
theorem uses_translate {allowed : T.Op → Prop} {f : (op : S.Op) → Prog T (S.Ans op)}
    (hf : ∀ op, Uses allowed (f op)) (p : Prog S α) : Uses allowed (translate f p) := by
  induction p with
  | pure value => trivial
  | call op next ih => exact uses_bind (hf op) ih

/-- A translated program uses what the translations of the operations it uses do. -/
theorem Uses.translate {allowed : S.Op → Prop} {allowed' : T.Op → Prop}
    {f : (op : S.Op) → Prog T (S.Ans op)} {p : Prog S α} (hp : Uses allowed p)
    (hf : ∀ op, allowed op → Uses allowed' (f op)) : Uses allowed' (p.translate f) := by
  induction p with
  | pure value => trivial
  | call op next ih => exact uses_bind (hf op hp.1) fun answer => ih answer (hp.2 answer)

/-- A translated program obeys a guard if, wherever the program may issue an operation, the program
that stands for it does. The relation `R` connects the two histories. -/
theorem Obeys.translate {f : (op : S.Op) → Prog T (S.Ans op)} {p : Prog S α}
    {G' : History T → Event T → Prop} {R : History S → History T → Prop} {h' : History T}
    (hp : Obeys G Q h p) (hR : R h h')
    (hf : ∀ h h' op, R h h' → (∀ answer, G h ⟨op, answer⟩) →
      Obeys G' (fun later answer => R (h ++ [⟨op, answer⟩]) later) h' (f op)) :
    Obeys G' (fun later value => ∃ h, R h later ∧ Q h value) h' (p.translate f) := by
  induction p generalizing h h' with
  | pure value => exact ⟨h, hR, hp⟩
  | call op next ih =>
      refine obeys_seq (hf h h' op hR fun answer => (hp answer).1) ?_
      exact fun later answer hlater => ih answer (hp answer).2 hlater

/-- A program whose operations all meet the guard extends the history by allowed operations. -/
theorem Uses.obeys {allowed : S.Op → Prop} {p : Prog S α} (hp : Uses allowed p)
    (hG : ∀ h e, allowed e.op → G h e) :
    Obeys G (fun h' _ => ∃ events, h' = h ++ events ∧ ∀ e ∈ events, allowed e.op) h p := by
  induction p generalizing h with
  | pure value => exact ⟨[], by simp⟩
  | call op next ih =>
      intro answer
      refine ⟨hG _ _ hp.1, (ih answer (hp.2 answer)).mono (fun _ _ hg => hg) ?_⟩
      rintro h' value ⟨events, rfl, hevents⟩
      refine ⟨⟨op, answer⟩ :: events, by simp, ?_⟩
      intro e he
      rcases List.mem_cons.mp he with rfl | he
      · exact hp.1
      · exact hevents e he

-- Later proofs reason with the rules above and never unfold a program.
attribute [irreducible] Obeys Uses

end Prog

end Effect
