import Mathlib.Logic.Function.Basic
import Fiddlesticks.Effect.History

/-!
# Programs sharing a state

A pool runs a family of programs over one shared state, any number of them and in any order. The
relation `act i` says which answers process `i` may get in a shared state and what state each
leaves, so an operation that never touches the shared state is one with `act i s e s`. A process
may also stop for good at any point: a run is a finite prefix. `Run.obeys` gives every process
its own history specification, and `Run.invariant` is the induction rule for facts about the
shared state and the events of all processes.
-/

namespace Effect

open Prog

variable {S : Sig} {ι σ α : Type}

/-- A shared state and the rest of each process. -/
structure Pool (S : Sig) (ι σ α : Type) where
  shared : σ
  procs : ι → Prog S α

/-- The events of all processes, oldest first. -/
abbrev Trace (S : Sig) (ι : Type) := List (ι × Event S)

/-- The events of process `i`. -/
def localHistory [DecidableEq ι] (i : ι) (trace : Trace S ι) : History S :=
  trace.filterMap fun entry => if entry.1 = i then some entry.2 else none

section localHistory

variable [DecidableEq ι]

/-- Nothing has happened to a process yet. -/
@[simp] theorem local_history_nil (i : ι) : localHistory i ([] : Trace S ι) = [] := rfl

/-- The history of a process is that of each part. -/
@[simp] theorem local_history_append (i : ι) (first rest : Trace S ι) :
    localHistory i (first ++ rest) = localHistory i first ++ localHistory i rest := by
  simp [localHistory]

/-- An event of a process is in its history. -/
@[simp] theorem local_history_same (i : ι) (e : Event S) : localHistory i [(i, e)] = [e] := by
  simp [localHistory]

/-- An event of another process is not. -/
theorem local_history_other {i j : ι} (hne : j ≠ i) (e : Event S) :
    localHistory i [(j, e)] = [] := by
  simp [localHistory, hne]

/-- An event of a process's own history is an event of the trace. -/
theorem mem_local_history {i : ι} {trace : Trace S ι} {e : Event S} :
    e ∈ localHistory i trace ↔ (i, e) ∈ trace := by
  simp only [localHistory, List.mem_filterMap]
  constructor
  · intro h
    obtain ⟨⟨j, e'⟩, hmem, hif⟩ := h
    by_cases hji : j = i
    · subst hji
      simp only [if_pos] at hif
      exact (Option.some.inj hif) ▸ hmem
    · simp [hji] at hif
  · intro hmem
    exact ⟨(i, e), hmem, by simp⟩

end localHistory

/-- Every entry of the trace meets a condition on the trace before it. -/
def Throughout (condition : Trace S ι → ι × Event S → Prop) (trace : Trace S ι) : Prop :=
  ∀ before entry after, trace = before ++ entry :: after → condition before entry

section Throughout

variable {condition : Trace S ι → ι × Event S → Prop}

/-- A condition holds throughout no steps. -/
theorem throughout_nil : Throughout condition [] := by
  intro before entry after htrace
  simp at htrace

/-- A longer trace meets the condition if it did before and its last entry does. -/
theorem throughout_snoc {trace : Trace S ι} {last : ι × Event S} :
    Throughout condition (trace ++ [last]) ↔
      Throughout condition trace ∧ condition trace last := by
  constructor
  · intro h
    refine ⟨fun before entry after htrace => ?_, h trace last [] rfl⟩
    refine h before entry (after ++ [last]) ?_
    rw [htrace, List.append_assoc, List.cons_append]
  · rintro ⟨htrace, hlast⟩ before entry after hsplit
    rcases List.eq_nil_or_concat after with rfl | ⟨after, final, rfl⟩
    · obtain ⟨rfl, hentry⟩ := List.append_inj' hsplit rfl
      obtain rfl := List.head_eq_of_cons_eq hentry
      exact hlast
    · rw [List.concat_eq_append, ← List.cons_append, ← List.append_assoc] at hsplit
      exact htrace before entry after (List.append_inj' hsplit rfl).1

end Throughout

namespace Pool

variable [DecidableEq ι] (act : ι → σ → Event S → σ → Prop)

/-- Process `i` issues its next operation and the environment answers it. -/
inductive Step : Pool S ι σ α → ι × Event S → Pool S ι σ α → Prop where
  | run {P : Pool S ι σ α} (i) {op next answer shared} :
      P.procs i = .call op next → act i P.shared ⟨op, answer⟩ shared →
      Step P (i, ⟨op, answer⟩) ⟨shared, Function.update P.procs i (next answer)⟩

/-- Finitely many steps of the pool, with the events they issue. -/
inductive Run : Pool S ι σ α → Trace S ι → Pool S ι σ α → Prop where
  | refl (P) : Run P [] P
  | snoc {P P' P'' trace entry} : Run P trace P' → Step act P' entry P'' →
      Run P (trace ++ [entry]) P''

variable {act} {P P' : Pool S ι σ α} {trace : Trace S ι}
variable {G : ι → History S → Event S → Prop} {Q : ι → History S → α → Prop}

/-- What a single step can do to a pool whose processes obey their specifications. -/
theorem Step.obeys {entry : ι × Event S} (hobeys : ∀ i, Obeys (G i) (Q i)
      (localHistory i trace) (P.procs i)) (hstep : Step act P entry P') :
    G entry.1 (localHistory entry.1 trace) entry.2 ∧ act entry.1 P.shared entry.2 P'.shared ∧
      ∀ i, Obeys (G i) (Q i) (localHistory i (trace ++ [entry])) (P'.procs i) := by
  cases hstep with
  | run i hproc hact =>
      rename_i op next answer shared
      have hcall := hobeys i
      rw [hproc, obeys_call] at hcall
      obtain ⟨hguard, hnext⟩ := hcall answer
      refine ⟨hguard, hact, fun j => ?_⟩
      by_cases hij : j = i
      · subst hij
        simpa using hnext
      · simpa [hij, local_history_other (Ne.symm hij)] using hobeys j

/-- Every process goes on obeying its specification, also when the run starts from a past. -/
theorem Run.obeys_from (past : Trace S ι)
    (hobeys : ∀ i, Obeys (G i) (Q i) (localHistory i past) (P.procs i))
    (hrun : Run act P trace P') :
    ∀ i, Obeys (G i) (Q i) (localHistory i (past ++ trace)) (P'.procs i) := by
  induction hrun with
  | refl => simpa using hobeys
  | snoc _ hstep ih =>
      rw [← List.append_assoc]
      exact (Step.obeys ih hstep).2.2

/-- Every process obeys its own specification along every run. -/
theorem Run.obeys (hobeys : ∀ i, Obeys (G i) (Q i) [] (P.procs i)) (hrun : Run act P trace P') :
    ∀ i, Obeys (G i) (Q i) (localHistory i trace) (P'.procs i) :=
  hrun.obeys_from [] hobeys

/-- Every event of a run meets the guard of its process at its own history. -/
theorem Run.guard (hobeys : ∀ i, Obeys (G i) (Q i) [] (P.procs i)) (hrun : Run act P trace P') :
    Throughout (fun before entry => G entry.1 (localHistory entry.1 before) entry.2) trace := by
  induction hrun with
  | refl => exact throughout_nil
  | snoc hrun hlast ih =>
      exact throughout_snoc.mpr ⟨ih, (Step.obeys (hrun.obeys hobeys) hlast).1⟩

/-- A process that has returned satisfies its postcondition of its own history. -/
theorem Run.returns (hobeys : ∀ i, Obeys (G i) (Q i) [] (P.procs i)) (hrun : Run act P trace P')
    {i : ι} {value : α} (hdone : P'.procs i = .pure value) : Q i (localHistory i trace) value := by
  have hi := hrun.obeys hobeys i
  rwa [hdone, obeys_pure] at hi

/-- The induction rule from a past: a fact about the shared state and the trace that every guarded
event preserves holds along every run. -/
theorem Run.invariant_from (past : Trace S ι)
    (hobeys : ∀ i, Obeys (G i) (Q i) (localHistory i past) (P.procs i))
    (I : σ → Trace S ι → Prop) (hinit : I P.shared past)
    (hstep : ∀ s trace i e s', I s trace → G i (localHistory i trace) e → act i s e s' →
      I s' (trace ++ [(i, e)]))
    (hrun : Run act P trace P') : I P'.shared (past ++ trace) := by
  induction hrun with
  | refl => simpa using hinit
  | snoc hrun hlast ih =>
      obtain ⟨hguard, hact, _⟩ := Step.obeys (hrun.obeys_from past hobeys) hlast
      rw [← List.append_assoc]
      exact hstep _ _ _ _ _ ih hguard hact

/-- The induction rule for runs from the start of every process. -/
theorem Run.invariant (hobeys : ∀ i, Obeys (G i) (Q i) [] (P.procs i))
    (I : σ → Trace S ι → Prop) (hinit : I P.shared [])
    (hstep : ∀ s trace i e s', I s trace → G i (localHistory i trace) e → act i s e s' →
      I s' (trace ++ [(i, e)]))
    (hrun : Run act P trace P') : I P'.shared trace :=
  hrun.invariant_from [] hobeys I hinit hstep

/-- A run goes through a pool after any first part of its trace. -/
theorem Run.split {first rest : Trace S ι} (hrun : Run act P (first ++ rest) P') :
    ∃ Q, Run act P first Q ∧ Run act Q rest P' := by
  generalize htrace : first ++ rest = trace at hrun
  induction hrun generalizing rest with
  | refl =>
      obtain ⟨rfl, rfl⟩ := List.append_eq_nil_iff.mp htrace
      exact ⟨_, .refl _, .refl _⟩
  | snoc hrun hlast ih =>
      rcases List.eq_nil_or_concat rest with rfl | ⟨rest, entry, rfl⟩
      · rw [List.append_nil] at htrace
        exact ⟨_, htrace ▸ .snoc hrun hlast, .refl _⟩
      · rw [List.concat_eq_append, ← List.append_assoc] at htrace
        obtain ⟨rfl, hentry⟩ := List.append_inj' htrace rfl
        obtain rfl := List.head_eq_of_cons_eq hentry
        obtain ⟨Q, hfirst, hrest⟩ := ih rfl
        exact ⟨Q, hfirst, List.concat_eq_append ▸ .snoc hrest hlast⟩

/-- A run without steps ends where it begins. -/
theorem Run.eq_of_nil (hrun : Run act P [] P') : P' = P := by
  generalize htrace : ([] : Trace S ι) = trace at hrun
  cases hrun with
  | refl => rfl
  | snoc hrun hlast => simp at htrace

/-- The first entry of a run is answered in its first shared state. -/
theorem Run.head {i : ι} {e : Event S} {rest : Trace S ι}
    (hrun : Run act P ((i, e) :: rest) P') : ∃ shared, act i P.shared e shared := by
  rw [← List.singleton_append] at hrun
  obtain ⟨Q, hfirst, -⟩ := hrun.split
  generalize htrace : [(i, e)] = trace at hfirst
  cases hfirst with
  | refl => cases htrace
  | snoc hrun hlast =>
      obtain ⟨rfl, hentry⟩ := List.append_inj' (show [] ++ _ = _ from htrace) rfl
      obtain rfl := List.head_eq_of_cons_eq hentry
      cases hrun.eq_of_nil
      cases hlast with
      | run i hproc hact => exact ⟨_, hact⟩

/-! ## One process running alone -/

/-- Runs compose. -/
theorem Run.trans {P'' : Pool S ι σ α} {rest : Trace S ι} (hfirst : Run act P trace P')
    (hrest : Run act P' rest P'') : Run act P (trace ++ rest) P'' := by
  induction hrest with
  | refl => simpa using hfirst
  | snoc _ hlast ih =>
      rw [← List.append_assoc]
      exact .snoc ih hlast

/-- A process whose operations an environment answers runs to its value while the others wait. -/
theorem Run.alone {i : ι} {handle : (op : S.Op) → σ → Option (S.Ans op × σ)}
    (hact : ∀ {op s answer s'}, handle op s = some (answer, s') → act i s ⟨op, answer⟩ s')
    {p : Prog S α} {s s' : σ} {events : History S} {value : α}
    (hrun : p.execute handle s = some (events, value, s')) (procs : ι → Prog S α)
    (hproc : procs i = p) :
    Run act ⟨s, procs⟩ (events.map (i, ·)) ⟨s', Function.update procs i (.pure value)⟩ := by
  induction p generalizing s events procs with
  | pure result =>
      cases hrun
      have hsame : Function.update procs i (.pure value) = procs := by
        rw [← hproc, Function.update_eq_self]
      rw [hsame]
      exact Run.refl _
  | call op next ih =>
      simp only [execute, Option.bind_eq_bind, Option.bind_eq_some_iff, Option.pure_def,
        Option.some.injEq] at hrun
      obtain ⟨⟨answer, s₁⟩, hanswer, ⟨events, value, s₂⟩, hnext, heq⟩ := hrun
      cases heq
      have hstep : Step act ⟨s, procs⟩ (i, ⟨op, answer⟩)
          ⟨s₁, Function.update procs i (next answer)⟩ := .run i hproc (hact hanswer)
      have hrest := ih answer hnext (Function.update procs i (next answer))
        (Function.update_self _ _ _)
      rw [Function.update_idem] at hrest
      exact (Run.snoc (.refl _) hstep).trans hrest

/-! ## Schedules -/

/-- Run a pool by a schedule, against an environment that may leave operations unanswered. -/
def play (handle : ι → (op : S.Op) → σ → Option (S.Ans op × σ)) :
    List ι → Pool S ι σ α → Option (Trace S ι × Pool S ι σ α)
  | [], P => some ([], P)
  | i :: schedule, P =>
      match P.procs i with
      | .pure _ => none
      | .call op next => do
          let (answer, shared) ← handle i op P.shared
          let (trace, P') ← play handle schedule
            ⟨shared, Function.update P.procs i (next answer)⟩
          return ((i, ⟨op, answer⟩) :: trace, P')

/-- A played schedule is a run. -/
theorem Run.play {handle : ι → (op : S.Op) → σ → Option (S.Ans op × σ)}
    (hact : ∀ {i op s answer s'}, handle i op s = some (answer, s') → act i s ⟨op, answer⟩ s')
    {schedule : List ι} (hplay : P.play handle schedule = some (trace, P')) :
    Run act P trace P' := by
  induction schedule generalizing P trace with
  | nil =>
      cases hplay
      exact .refl _
  | cons i schedule ih =>
      obtain ⟨shared, procs⟩ := P
      rw [Pool.play] at hplay
      cases hproc : procs i with
      | pure value => simp [hproc] at hplay
      | call op next =>
          simp only [hproc, Option.bind_eq_bind, Option.bind_eq_some_iff, Option.pure_def,
            Option.some.injEq] at hplay
          obtain ⟨⟨answer, shared'⟩, hanswer, ⟨rest, P''⟩, hrest, heq⟩ := hplay
          cases heq
          have hstep : Step act ⟨shared, procs⟩ (i, ⟨op, answer⟩)
              ⟨shared', Function.update procs i (next answer)⟩ := .run i hproc (hact hanswer)
          exact (Run.snoc (.refl _) hstep).trans (ih hrest)

end Pool

end Effect
