import Mathlib.Control.Basic
import Mathlib.Tactic.TypeStar

/-!
# Programs that talk to an environment

A `Prog S α` is a finite tree of requests: it either returns a value or issues an operation of
the signature `S` and continues with the answer. Asynchronous code is written as such a program,
one `call` for each point where it waits for something it does not compute itself. `Prog.run`
executes a program against a deterministic environment, and `Prog.translate` replaces every
operation by a program over another signature.
-/

namespace Effect

/-- A signature: the operations a program may issue and the type of answers to each. -/
structure Sig where
  Op : Type
  Ans : Op → Type

/-- A program over the signature `S` that returns an `α`. -/
inductive Prog (S : Sig) (α : Type) : Type where
  | pure (value : α)
  | call (op : S.Op) (next : S.Ans op → Prog S α)

namespace Prog

variable {S T : Sig} {α β γ ε σ : Type}

/-- Sequential composition: run `p`, then the program chosen by its value. -/
def bind : Prog S α → (α → Prog S β) → Prog S β
  | .pure value, f => f value
  | .call op next, f => .call op (fun answer => (next answer).bind f)

instance : Monad (Prog S) where
  pure := .pure
  bind := .bind

/-- Issue one operation and return its answer. -/
def request (op : S.Op) : Prog S (S.Ans op) :=
  .call op .pure

/-- Returning is the constructor of values. -/
@[simp] theorem pure_eq (value : α) : (Pure.pure value : Prog S α) = .pure value := rfl

/-- A value is passed on. -/
@[simp] theorem pure_bind (value : α) (f : α → Prog S β) :
    (Prog.pure value >>= f) = f value := rfl

/-- What follows an operation follows each of its answers. -/
@[simp] theorem call_bind (op : S.Op) (next : S.Ans op → Prog S α) (f : α → Prog S β) :
    (Prog.call op next >>= f) = .call op (fun answer => next answer >>= f) := rfl

/-- What follows a single operation is its continuation. -/
@[simp] theorem request_bind (op : S.Op) (f : S.Ans op → Prog S β) :
    (request op >>= f) = .call op f := rfl

/-- Two programs that start with the same request and go on in the same way are the same. -/
theorem call_congr {op : S.Op} {next next' : S.Ans op → Prog S α}
    (h : ∀ answer, next answer = next' answer) : call op next = call op next' :=
  congrArg (call op) (funext h)

/-- Sequential composition is associative. -/
theorem bind_assoc (p : Prog S α) (f : α → Prog S β) (g : β → Prog S γ) :
    ((p >>= f) >>= g) = (p >>= fun value => f value >>= g) := by
  induction p with
  | pure value => rfl
  | call op next ih =>
      simp only [call_bind]
      congr 1
      funext answer
      exact ih answer

instance : LawfulMonad (Prog S) :=
  LawfulMonad.mk' (Prog S) (fun p => by
      change p.bind .pure = p
      induction p with
      | pure value => rfl
      | call op next ih => exact congrArg _ (funext ih))
    (fun _ _ => rfl) bind_assoc

/-- A signature with an operation that nothing answers: a panic. -/
class Panics (S : Sig) where
  op : S.Op
  unanswered : S.Ans op → Empty

/-- The program panics, and nothing of it follows. -/
def panicked [Panics S] : Prog S α :=
  .call Panics.op fun answer => (Panics.unanswered answer).elim

/-- Nothing follows a panic. -/
@[simp] theorem panicked_bind [Panics S] (f : α → Prog S β) :
    ((panicked : Prog S α) >>= f) = panicked :=
  call_congr fun answer => (Panics.unanswered answer).elim

/-! ## Deterministic environments -/

/-- Execute a program against an environment that answers every operation from its state. -/
def run (handle : (op : S.Op) → σ → S.Ans op × σ) : Prog S α → σ → α × σ
  | .pure value, state => (value, state)
  | .call op next, state => run handle (next (handle op state).1) (handle op state).2

section run

variable (handle : (op : S.Op) → σ → S.Ans op × σ)

/-- A value runs to itself. -/
@[simp] theorem run_pure (value : α) (state : σ) :
    run handle (.pure value) state = (value, state) := rfl

/-- An operation is handled before what follows it. -/
@[simp] theorem run_call (op : S.Op) (next : S.Ans op → Prog S α) (state : σ) :
    run handle (.call op next) state =
      run handle (next (handle op state).1) (handle op state).2 := rfl

/-- Running a composition runs the first program and then the second from where it stopped. -/
@[simp] theorem run_bind (p : Prog S α) (f : α → Prog S β) (state : σ) :
    run handle (p >>= f) state =
      run handle (f (run handle p state).1) (run handle p state).2 := by
  induction p generalizing state with
  | pure value => rfl
  | call op next ih => exact ih _ _

/-- A returned value runs to a success. -/
@[simp] theorem run_except_pure (value : α) (state : σ) :
    run handle (Pure.pure value : ExceptT ε (Prog S) α).run state = (.ok value, state) := rfl

/-- A failure runs to its error. -/
@[simp] theorem run_except_throw (error : ε) (state : σ) :
    run handle (throw error : ExceptT ε (Prog S) α).run state = (.error error, state) := rfl

/-- A pure outcome runs to itself. -/
@[simp] theorem run_except_lift (result : Except ε α) (state : σ) :
    run handle (liftM result : ExceptT ε (Prog S) α).run state = (result, state) := rfl

/-- Running a composition of fallible programs stops at the first error. -/
theorem run_except_bind (p : ExceptT ε (Prog S) α) (f : α → ExceptT ε (Prog S) β) (state : σ) :
    run handle (p >>= f).run state = match run handle p.run state with
      | (.ok value, state') => run handle (f value).run state'
      | (.error error, state') => (.error error, state') := by
  change run handle (Prog.bind p.run _) state = _
  refine (run_bind handle p.run _ state).trans ?_
  rcases run handle p.run state with ⟨value | error, state'⟩ <;> rfl

end run

/-- Execute a program to its end, if the environment answers every operation that it issues. -/
def finish (handle : (op : S.Op) → σ → Option (S.Ans op × σ)) : Prog S α → σ → Option (α × σ)
  | .pure value, state => some (value, state)
  | .call op next, state =>
      (handle op state).bind fun answered => finish handle (next answered.1) answered.2

section finish

variable (handle : (op : S.Op) → σ → Option (S.Ans op × σ))

/-- A composition is executed one program after the other. -/
theorem finish_bind (p : Prog S α) (f : α → Prog S β) (state : σ) :
    finish handle (p >>= f) state =
      (finish handle p state).bind fun ended => finish handle (f ended.1) ended.2 := by
  induction p generalizing state with
  | pure value => rfl
  | call op next ih =>
      show ((handle op state).bind fun answered =>
          finish handle (next answered.1 >>= f) answered.2) =
        ((handle op state).bind fun answered => finish handle (next answered.1) answered.2).bind _
      rw [Option.bind_assoc]
      exact congrArg _ (funext fun answered => ih _ _)

/-- A composition of fallible programs whose first part ends with a value. -/
theorem finish_except_ok {p : ExceptT ε (Prog S) α} {f : α → ExceptT ε (Prog S) β} {value : α}
    {s t : σ} (h : finish handle p.run s = some (.ok value, t)) :
    finish handle (p >>= f).run s = finish handle (f value).run t := by
  refine (finish_bind handle p.run _ s).trans ?_
  rw [h]
  rfl

/-- A composition of fallible programs whose first part fails. -/
theorem finish_except_error {p : ExceptT ε (Prog S) α} {f : α → ExceptT ε (Prog S) β} {error : ε}
    {s t : σ} (h : finish handle p.run s = some (.error error, t)) :
    finish handle (p >>= f).run s = some (.error error, t) := by
  refine (finish_bind handle p.run _ s).trans ?_
  rw [h]
  rfl

/-- A relation between states that every answer respects holds from the start of an execution to
its end. -/
theorem finish_rel {r : σ → σ → Prop} (hrefl : ∀ s, r s s)
    (htrans : ∀ {s t u}, r s t → r t u → r s u)
    (hhandle : ∀ op s answer t, handle op s = some (answer, t) → r s t) {p : Prog S α} {s t : σ}
    {value : α} (h : finish handle p s = some (value, t)) : r s t := by
  induction p generalizing s with
  | pure returned =>
      cases h
      exact hrefl _
  | call op next ih =>
      obtain ⟨⟨answer, middle⟩, hanswer, hrest⟩ := Option.bind_eq_some_iff.mp h
      exact htrans (hhandle op s answer middle hanswer) (ih answer hrest)

end finish

/-! ## Changing the signature -/

/-- Replace every operation by a program over another signature. -/
def translate (f : (op : S.Op) → Prog T (S.Ans op)) : Prog S α → Prog T α
  | .pure value => .pure value
  | .call op next => f op >>= fun answer => (next answer).translate f

section translate

variable (f : (op : S.Op) → Prog T (S.Ans op))

/-- A value is translated to itself. -/
@[simp] theorem translate_pure (value : α) : translate f (.pure value) = .pure value := rfl

/-- An operation is translated before what follows it. -/
@[simp] theorem translate_call (op : S.Op) (next : S.Ans op → Prog S α) :
    translate f (.call op next) = f op >>= fun answer => (next answer).translate f := rfl

/-- Translation commutes with sequential composition. -/
theorem translate_bind (p : Prog S α) (g : α → Prog S β) :
    translate f (p >>= g) = translate f p >>= fun value => translate f (g value) := by
  induction p with
  | pure value => rfl
  | call op next ih =>
      simp only [call_bind, translate_call, bind_assoc]
      congr 1
      funext answer
      exact ih answer

end translate

end Prog

end Effect
