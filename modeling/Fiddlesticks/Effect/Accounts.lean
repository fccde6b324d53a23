import Fiddlesticks.Effect.Simulation
import Mathlib.Algebra.BigOperators.Group.Finset.Basic
import Mathlib.Algebra.Order.BigOperators.Group.Finset

/-!
# Accounts of what is open

An account is an automaton over operations: which of them a state permits, and the state after one.
A program settles an account if, started where nothing is open, it issues only operations that the
account permits and returns where nothing is open (`Settles`). When every process of a pool does,
what was opened along a run is what was closed and what is open in the processes that have not
returned (`Pool.Run.balance`).
-/

namespace Effect

variable {S T : Sig} {A L α β ε : Type}

/-- The state after an operation, if the account permits it. -/
abbrev Account (S : Sig) (A : Type) := A → S.Op → Option A

namespace Prog

/-- From a state the program issues what the account permits, and returns in states `Q`. -/
abbrev Accords (account : Account S A) (Q : A → Prop) (p : Prog S α) (a : A) : Prop :=
  Correct (fun a e a' => account a e.op = some a') (fun a op => (account a op).isSome)
    (fun _ a' => Q a') p a

/-- The program leaves the account in the state in which it finds it. -/
abbrev Settles (account : Account S A) (idle : A) (p : Prog S α) : Prop :=
  Accords account (· = idle) p idle

section Rules

variable {account : Account S A} {Q : A → Prop} {idle a : A}

/-- A value accords when the account may end here. -/
theorem accords_pure {value : α} : Accords account Q (.pure value) a ↔ Q a :=
  correct_pure value

/-- An operation accords when the account permits it and what follows accords with what it
leaves. -/
theorem accords_call {op : S.Op} {next : S.Ans op → Prog S α} :
    Accords account Q (.call op next) a ↔
      ∃ a', account a op = some a' ∧ ∀ answer, Accords account Q (next answer) a' := by
  refine (correct_call op next).trans ?_
  constructor
  · intro h
    obtain ⟨hsome, hnext⟩ := h
    obtain ⟨a', ha'⟩ := Option.isSome_iff_exists.mp hsome
    exact ⟨a', ha', fun answer => hnext answer a' ha'⟩
  · intro h
    obtain ⟨a', ha', hnext⟩ := h
    refine ⟨Option.isSome_iff_exists.mpr ⟨a', ha'⟩, fun answer a'' ha'' => ?_⟩
    rw [ha', Option.some.injEq] at ha''
    subst ha''
    exact hnext answer

/-- A value leaves an idle account idle. -/
theorem settles_pure (value : α) : Settles account idle (.pure value) :=
  accords_pure.mpr rfl

/-- The sequencing rule, with the state in between. -/
theorem accords_bind {p : Prog S α} {f : α → Prog S β} {a' : A} (hp : Accords account (· = a') p a)
    (hf : ∀ value, Accords account Q (f value) a') : Accords account Q (p >>= f) a := by
  refine (correct_bind p f).mpr (Correct.mono hp fun value a'' ha'' => ?_)
  subst ha''
  exact hf value

/-- Go on after a program that settles the account. -/
theorem settles_bind {p : Prog S α} {f : α → Prog S β} (hp : Settles account idle p)
    (hf : ∀ value, Accords account Q (f value) idle) : Accords account Q (p >>= f) idle :=
  accords_bind hp hf

/-- An operation and the state after it. -/
theorem accords_request {op : S.Op} {a' : A} (h : account a op = some a') :
    Accords account (· = a') (request op) a :=
  accords_call.mpr ⟨a', h, settles_pure⟩

/-- An operation that changes nothing in the account. -/
theorem settles_request {op : S.Op} (h : account idle op = some idle) :
    Settles account idle (request op) :=
  accords_request h

/-- Go on after an operation. -/
theorem accords_request_bind {op : S.Op} {f : S.Ans op → Prog S β} {a' : A}
    (h : account a op = some a') (hf : ∀ answer, Accords account Q (f answer) a') :
    Accords account Q (request op >>= f) a :=
  accords_bind (accords_request h) hf

/-- Fallible parts that settle are settled together. -/
theorem settles_except_bind {p : ExceptT ε (Prog S) α} {f : α → ExceptT ε (Prog S) β}
    (hp : Settles account idle p.run) (hf : ∀ value, Settles account idle (f value).run) :
    Settles account idle (p >>= f).run := by
  refine correct_except_seq hp ?_ fun _ _ h => h
  intro value a' ha'
  subst ha'
  exact hf value

/-- Go on after a program that cannot fail. -/
theorem accords_lift_bind {p : Prog S α} {f : α → ExceptT ε (Prog S) β} {a' : A}
    (hp : Accords account (· = a') p a) (hf : ∀ value, Accords account Q (f value).run a') :
    Accords account Q (ExceptT.lift p >>= f).run a := by
  refine correct_lift_seq hp fun value a'' ha'' => ?_
  subst ha''
  exact hf value

/-- A pure function of the value does not touch the account. -/
theorem settles_map {p : Prog S α} (f : α → β) (hp : Settles account idle p) :
    Settles account idle (f <$> p) :=
  (correct_map f p).mpr hp

/-- A program of operations that change nothing in the account. -/
theorem Uses.settles {allowed : S.Op → Prop} {p : Prog S α} (hp : Uses allowed p)
    (hneutral : ∀ op, allowed op → account idle op = some idle) : Settles account idle p := by
  induction p with
  | pure value => exact settles_pure value
  | call op next ih =>
      obtain ⟨hop, hnext⟩ := (uses_call op next).mp hp
      exact accords_call.mpr ⟨idle, hneutral op hop, fun answer => ih answer (hnext answer)⟩

/-- A translated program keeps an account where each operation does what the program's account says
of it. -/
theorem Accords.translate {account' : Account T A} {f : (op : S.Op) → Prog T (S.Ans op)}
    (hf : ∀ op a a', account a op = some a' → Accords account' (· = a') (f op) a) {p : Prog S α}
    (hp : Accords account Q p a) : Accords account' Q (p.translate f) a := by
  induction p generalizing a with
  | pure value => exact accords_pure.mpr (accords_pure.mp hp)
  | call op next ih =>
      obtain ⟨a', ha', hnext⟩ := accords_call.mp hp
      exact accords_bind (hf op a a' ha') fun answer => ih answer (hnext answer)

/-- A program settles an account if all its operations do. -/
theorem settles_translate {account' : Account T A} {f : (op : S.Op) → Prog T (S.Ans op)}
    (hf : ∀ op, Settles account' idle (f op)) (p : Prog S α) :
    Settles account' idle (p.translate f) := by
  induction p with
  | pure value => exact settles_pure value
  | call op next ih => exact settles_bind (hf op) ih

end Rules

/-- Whether the program has returned. -/
def returned : Prog S α → Bool
  | .pure _ => true
  | .call _ _ => false

end Prog

/-! ## One thing open at a time -/

/-- What an operation does to the things that are open. -/
inductive Mark (L : Type) where
  | opens (label : L)
  | closes (label : L)
  | neutral

/-- The account of marked operations, with one thing open at most. -/
def oneOpen [DecidableEq L] (mark : S.Op → Mark L) : Account S (Option L) := fun opened op =>
  match mark op with
  | .opens label => if opened = none then some (some label) else none
  | .closes label => if opened = some label then some none else none
  | .neutral => some opened

/-- What an operation opens of the things that are counted. -/
def Mark.opened (counts : L → Bool) : Mark L → Nat
  | .opens label => (counts label).toNat
  | _ => 0

/-- What an operation closes of the things that are counted. -/
def Mark.closed (counts : L → Bool) : Mark L → Nat
  | .closes label => (counts label).toNat
  | _ => 0

/-- What is open of the things that are counted. -/
def openCount (counts : L → Bool) : Option L → Nat
  | some label => (counts label).toNat
  | none => 0

/-- At most one thing is open. -/
theorem openCount_le (counts : L → Bool) (opened : Option L) : openCount counts opened ≤ 1 := by
  cases opened with
  | none => exact Nat.zero_le 1
  | some label => exact Bool.toNat_le (counts label)

section oneOpen

variable [DecidableEq L] {mark : S.Op → Mark L} {op : S.Op} {label : L} {opened : Option L}

/-- A neutral operation leaves what is open. -/
theorem oneOpen_neutral (h : mark op = .neutral) : oneOpen mark opened op = some opened := by
  rw [oneOpen, h]

/-- An operation opens what it opens when nothing is open. -/
theorem oneOpen_opens (h : mark op = .opens label) :
    oneOpen mark none op = some (some label) := by
  simp [oneOpen, h]

/-- An operation closes what is open. -/
theorem oneOpen_closes (h : mark op = .closes label) :
    oneOpen mark (some label) op = some none := by
  simp [oneOpen, h]

/-- What is open after an operation is what was open and what it opens less what it closes. -/
theorem oneOpen_count (counts : L → Bool) {opened' : Option L}
    (h : oneOpen mark opened op = some opened') :
    openCount counts opened' + (mark op).closed counts =
      openCount counts opened + (mark op).opened counts := by
  unfold oneOpen at h
  cases hmark : mark op with
  | neutral =>
      simp only [hmark, Option.some.injEq] at h
      subst h
      rfl
  | opens label =>
      simp only [hmark] at h
      split at h
      · rename_i hnone
        cases h
        subst hnone
        simp [openCount, Mark.opened, Mark.closed]
      · cases h
  | closes label =>
      simp only [hmark] at h
      split at h
      · rename_i hsome
        cases h
        subst hsome
        simp [openCount, Mark.opened, Mark.closed]
      · cases h

end oneOpen

/-! ## Pools -/

namespace Pool

open Prog

variable {ι σ : Type}

/-- What the operations of a trace come to. -/
def tally (weight : S.Op → Nat) : Trace S ι → Nat
  | [] => 0
  | entry :: trace => weight entry.2.op + tally weight trace

/-- The last entry adds its weight. -/
theorem tally_snoc (weight : S.Op → Nat) (trace : Trace S ι) (entry : ι × Event S) :
    tally weight (trace ++ [entry]) = tally weight trace + weight entry.2.op := by
  induction trace with
  | nil => simp [tally]
  | cons first trace ih =>
      rw [List.cons_append, tally, ih, tally]
      omega

/-- Weights are added up together or apart. -/
theorem tally_add (weight weight' : S.Op → Nat) (trace : Trace S ι) :
    tally (fun op => weight op + weight' op) trace =
      tally weight trace + tally weight' trace := by
  induction trace with
  | nil => rfl
  | cons first trace ih =>
      simp only [tally, ih]
      omega

variable [DecidableEq ι] {act : ι → σ → Event S → σ → Prop} {P P' : Pool S ι σ α}
  {trace : Trace S ι}

/-- The processes that have issued operations and have not returned, those that have panicked
included. -/
def running (P : Pool S ι σ α) (trace : Trace S ι) : Finset ι :=
  (trace.map Prod.fst).toFinset.filter fun i => ¬ (P.procs i).returned

variable {account : Account S A} {idle : A} {value : A → Nat} {opened closed : S.Op → Nat}

/-- Along a run each process keeps its account, and what was opened is what was closed and what the
processes have open. -/
theorem Run.accords (hvalue : ∀ a op a', account a op = some a' →
      value a' + closed op = value a + opened op) (hidle : value idle = 0)
    (hsettles : ∀ i, Settles account idle (P.procs i)) (hrun : Run act P trace P') :
    ∃ state : ι → A, (∀ i, Accords account (· = idle) (P'.procs i) (state i)) ∧
      ∀ procs : Finset ι, (∀ i ∈ trace.map Prod.fst, i ∈ procs) →
        tally opened trace = tally closed trace + ∑ i ∈ procs, value (state i) := by
  induction hrun with
  | refl => exact ⟨fun _ => idle, hsettles, fun procs _ => by simp [tally, hidle]⟩
  | snoc _ hlast ih =>
      obtain ⟨state, haccords, hsum⟩ := ih
      cases hlast with
      | run i hproc hact =>
          rename_i op next answer shared
          have hcall := haccords i
          rw [hproc] at hcall
          obtain ⟨a', ha', hnext⟩ := accords_call.mp hcall
          refine ⟨Function.update state i a', fun j => ?_, fun procs hprocs => ?_⟩
          · by_cases hij : j = i
            · subst hij
              simpa using hnext answer
            · simpa [hij] using haccords j
          · have hi : i ∈ procs := hprocs i (by simp)
            have hbefore := hsum procs fun j hj =>
              hprocs j (by rw [List.map_append]; exact List.mem_append_left _ hj)
            have hchange := hvalue _ _ _ ha'
            have hrest : ∑ j ∈ procs.erase i, value (Function.update state i a' j) =
                ∑ j ∈ procs.erase i, value (state j) := by
              refine Finset.sum_congr rfl fun j hj => ?_
              rw [Function.update_of_ne (Finset.ne_of_mem_erase hj)]
            rw [tally_snoc, tally_snoc]
            rw [← Finset.add_sum_erase procs _ hi] at hbefore ⊢
            rw [hrest, Function.update_self]
            dsimp only
            omega

/-- What was opened is what was closed and what is open in the processes that run. -/
theorem Run.balance (hvalue : ∀ a op a', account a op = some a' →
      value a' + closed op = value a + opened op) (hidle : value idle = 0)
    (hsettles : ∀ i, Settles account idle (P.procs i)) (hrun : Run act P trace P') :
    ∃ state : ι → A, tally opened trace =
      tally closed trace + ∑ i ∈ running P' trace, value (state i) := by
  obtain ⟨state, haccords, hsum⟩ := hrun.accords hvalue hidle hsettles
  refine ⟨state, ?_⟩
  rw [hsum (trace.map Prod.fst).toFinset (fun i hi => List.mem_toFinset.mpr hi), running]
  congr 1
  refine (Finset.sum_filter_of_ne fun i _ hopen => ?_).symm
  intro hreturned
  have hi := haccords i
  cases hproc : P'.procs i with
  | pure result =>
      rw [hproc] at hi
      have hstate : state i = idle := (accords_pure (Q := (· = idle))).mp hi
      rw [hstate] at hopen
      exact hopen hidle
  | call op next =>
      rw [hproc] at hreturned
      cases hreturned

/-- Where a process has one thing open at most. -/
theorem Run.balance_le (hvalue : ∀ a op a', account a op = some a' →
      value a' + closed op = value a + opened op) (hidle : value idle = 0)
    (hone : ∀ a, value a ≤ 1) (hsettles : ∀ i, Settles account idle (P.procs i))
    (hrun : Run act P trace P') :
    tally closed trace ≤ tally opened trace ∧
      tally opened trace ≤ tally closed trace + (running P' trace).card := by
  obtain ⟨state, hbalance⟩ := hrun.balance hvalue hidle hsettles
  have hcard : ∑ i ∈ running P' trace, value (state i) ≤ (running P' trace).card := by
    simpa using Finset.sum_le_card_nsmul (running P' trace) _ 1 fun i _ => hone (state i)
  omega

/-- Where marked operations open one thing at a time. -/
theorem Run.oneOpen_balance [DecidableEq L] {mark : S.Op → Mark L} (counts : L → Bool)
    (hsettles : ∀ i, Settles (oneOpen mark) none (P.procs i)) (hrun : Run act P trace P') :
    tally (fun op => (mark op).closed counts) trace ≤
        tally (fun op => (mark op).opened counts) trace ∧
      tally (fun op => (mark op).opened counts) trace ≤
        tally (fun op => (mark op).closed counts) trace + (running P' trace).card :=
  hrun.balance_le (fun _ _ _ => oneOpen_count counts) rfl (openCount_le counts) hsettles

end Pool

end Effect
