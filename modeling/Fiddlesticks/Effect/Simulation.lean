import Fiddlesticks.Effect.Correct
import Fiddlesticks.Effect.Pool

/-!
# Simulation between environments

An environment simulates another along a relation between their states when it can give every
answer of the other and stay related. Programs cannot tell such environments apart: a pool runs
through the same events in both (`Pool.Run.simulate`). Where the operations of a program are
themselves programs over a lower signature, the runs of the translated program are runs of the
program itself (`Steps.refine`).

Only the operations that a program may issue count. `Relies promise allowed Q p` says that `p`
issues allowed operations only and returns values that satisfy `Q`, as long as it is answered as
promised.
-/

namespace Effect

namespace Prog

variable {S T : Sig} {α β ε σ τ : Type}

/-! ## Programs that rely on their environment -/

/-- As long as the answers are as promised, the operations are allowed and the values as stated. -/
abbrev Relies (promise : Event S → Prop) (allowed : S.Op → Prop) (Q : α → Prop) (p : Prog S α) :
    Prop :=
  Correct (fun (_ : Unit) e _ => promise e) (fun _ op => allowed op) (fun value _ => Q value) p ()

section Relies

variable {promise : Event S → Prop} {allowed : S.Op → Prop} {Q : α → Prop}

/-- An operation relies when it is allowed and what follows does so after every promised answer. -/
theorem relies_call {op : S.Op} {next : S.Ans op → Prog S α} :
    Relies promise allowed Q (.call op next) ↔
      allowed op ∧ ∀ answer, promise ⟨op, answer⟩ → Relies promise allowed Q (next answer) := by
  refine (correct_call op next).trans (and_congr_right fun _ => forall_congr' fun answer => ?_)
  exact ⟨fun h => h (), fun h _ => h⟩

/-- A program whose operations are all allowed relies on nothing. -/
theorem Uses.relies {p : Prog S α} (hp : Uses allowed p) :
    Relies promise allowed (fun _ => True) p :=
  (hp.correct (I := fun _ => True) (fun _ _ hop _ => hop) (fun _ _ _ _ _ _ => trivial)
    trivial).mono fun _ _ _ => trivial

/-- Every program relies on nothing if all operations are allowed. -/
theorem relies_true (p : Prog S α) : Relies promise (fun _ => True) (fun _ => True) p := by
  induction p with
  | pure value => exact (correct_pure value).mpr trivial
  | call op next ih => exact relies_call.mpr ⟨trivial, fun answer _ => ih answer⟩

/-- The sequencing rule for fallible programs. -/
theorem relies_seq {R : β → Prop} {p : ExceptT ε (Prog S) α} {f : α → ExceptT ε (Prog S) β}
    (hp : Relies promise allowed (fun result => ∀ value, result = .ok value → Q value) p.run)
    (hf : ∀ value, Q value →
      Relies promise allowed (fun result => ∀ value, result = .ok value → R value) (f value).run) :
    Relies promise allowed (fun result => ∀ value, result = .ok value → R value)
      (p >>= f).run := by
  refine correct_except_seq hp (fun value _ hvalue => hf value (hvalue value rfl)) ?_
  rintro error _ - value ⟨⟩

end Relies

/-! ## Runs to the end -/

/-- The events of an execution are answers of its environment. -/
theorem execute_events {handle : (op : S.Op) → σ → Option (S.Ans op × σ)} {p : Prog S α} {s t : σ}
    {events : History S} {value : α} (h : p.execute handle s = some (events, value, t)) :
    ∀ e ∈ events, ∃ s s', handle e.op s = some (e.ans, s') := by
  induction p generalizing s events with
  | pure returned =>
      cases h
      simp
  | call op next ih =>
      simp only [execute, Option.bind_eq_bind, Option.bind_eq_some_iff, Option.pure_def,
        Option.some.injEq] at h
      obtain ⟨⟨answer, middle⟩, hanswer, ⟨rest, value, final⟩, hrest, heq⟩ := h
      cases heq
      exact List.forall_mem_cons.mpr ⟨⟨s, middle, hanswer⟩, ih answer hrest⟩

/-- A program that an environment executes to its end has a run to that end. -/
theorem execute_steps {act : σ → Event S → σ → Prop}
    {handle : (op : S.Op) → σ → Option (S.Ans op × σ)}
    (hact : ∀ {op s answer s'}, handle op s = some (answer, s') → act s ⟨op, answer⟩ s')
    {p : Prog S α} {s t : σ} {events : History S} {value : α}
    (h : p.execute handle s = some (events, value, t)) : Steps act p s (.pure value) t := by
  induction p generalizing s events with
  | pure returned =>
      cases h
      exact .refl _ _
  | call op next ih =>
      simp only [execute, Option.bind_eq_bind, Option.bind_eq_some_iff, Option.pure_def,
        Option.some.injEq] at h
      obtain ⟨⟨answer, middle⟩, hanswer, ⟨rest, value, final⟩, hrest, heq⟩ := h
      cases heq
      exact .call (hact hanswer) (ih answer hrest)

/-- A program whose operations can all be answered where they are issued has a run to its end. -/
theorem Correct.to_end {act : σ → Event S → σ → Prop} {G : σ → S.Op → Prop} {Q : α → σ → Prop}
    (hanswer : ∀ {s op}, G s op → ∃ answer s', act s ⟨op, answer⟩ s') {p : Prog S α} {s : σ}
    (hp : Correct act G Q p s) : ∃ value s', Steps act p s (.pure value) s' := by
  refine hp.to_end_keeping (I := fun _ => True) trivial fun s op _ hop => ?_
  obtain ⟨answer, s', hact⟩ := hanswer hop
  exact ⟨answer, s', hact, trivial⟩

/-! ## Programs over a lower signature -/

section refine

variable {act : σ → Event T → σ → Prop} {act' : τ → Event S → τ → Prop}
variable {f : (op : S.Op) → Prog T (S.Ans op)} {R : σ → τ → Prop} {G : τ → S.Op → Prop}

/-- When every operation is run below as the environment above may answer it, every run of a
translated program is a run of the program. -/
theorem Steps.refine {Q : α → τ → Prop} (himplements : ∀ {op s t answer s'}, R s t → G t op →
      Steps act (f op) s (.pure answer) s' → ∃ t', act' t ⟨op, answer⟩ t' ∧ R s' t')
    {p : Prog S α} {s s' : σ} {t : τ} {value : α} (hp : Correct act' G Q p t) (hR : R s t)
    (hrun : Steps act (p.translate f) s (.pure value) s') :
    ∃ t', Steps act' p t (.pure value) t' ∧ R s' t' := by
  induction p generalizing s t with
  | pure returned =>
      obtain ⟨hvalue, rfl⟩ := hrun.of_pure
      injection hvalue with hvalue
      subst hvalue
      exact ⟨t, .refl _ _, hR⟩
  | call op next ih =>
      obtain ⟨hop, hnext⟩ := (correct_call op next).mp hp
      obtain ⟨answer, middle, hfirst, hrest⟩ := Steps.of_bind (p := f op) hrun
      obtain ⟨t', hact, hR'⟩ := himplements hR hop hfirst
      obtain ⟨t'', hsteps, hfinal⟩ := ih answer (hnext answer t' hact) hR' hrest
      exact ⟨t'', .call hact hsteps, hfinal⟩

/-- A run of a composition stays in its first part or goes through it. -/
theorem Steps.split_bind {act : σ → Event T → σ → Prop} {p : Prog T α} {k : α → Prog T β}
    {rest : Prog T β} {s s' : σ} (h : Steps act (p >>= k) s rest s') :
    (∃ op next, rest = .call op next >>= k ∧ Steps act p s (.call op next) s') ∨
      ∃ value middle, Steps act p s (.pure value) middle ∧ Steps act (k value) middle rest s' := by
  induction p generalizing s with
  | pure value => exact .inr ⟨value, s, .refl _ _, h⟩
  | call op next ih =>
      cases h with
      | refl => exact .inl ⟨op, next, rfl, .refl _ _⟩
      | call hact hrest =>
          rcases ih _ hrest with ⟨op', next', rfl, hsteps⟩ | ⟨value, middle, hsteps, hrest⟩
          · exact .inl ⟨op', next', rfl, .call hact hsteps⟩
          · exact .inr ⟨value, middle, .call hact hsteps, hrest⟩

/-- When every operation is run below as the environment above may answer it, also as far as it has
got, every run of a translated program that stops anywhere is one of the program. -/
theorem Steps.refine_partial {Q : α → τ → Prop}
    (himplements : ∀ {op s t}, R s t → G t op → Correct act
      (fun s' _ => ∃ answer t', act' t ⟨op, answer⟩ t' ∧ R s' t')
      (fun answer s' => ∃ t', act' t ⟨op, answer⟩ t' ∧ R s' t') (f op) s)
    {p : Prog S α} {rest : Prog T α} {s s' : σ} {t : τ} (hp : Correct act' G Q p t) (hR : R s t)
    (hrun : Steps act (p.translate f) s rest s') :
    ∃ p' t', Steps act' p t p' t' ∧ R s' t' ∧ ∀ value, rest = .pure value → p' = .pure value := by
  induction p generalizing s t with
  | pure returned =>
      obtain ⟨rfl, rfl⟩ := hrun.of_pure
      exact ⟨_, t, .refl _ _, hR, fun value hvalue => by injection hvalue with hvalue; rw [hvalue]⟩
  | call op next ih =>
      obtain ⟨hop, hnext⟩ := (correct_call op next).mp hp
      have hcorrect := himplements hR hop
      rcases Steps.split_bind (p := f op) hrun with ⟨op', next', rfl, hfirst⟩ |
        ⟨answer, middle, hfirst, hrest⟩
      · -- The operation has not come to its end, but it has an end that leaves the same.
        obtain ⟨answer, t', hact, hR'⟩ := ((correct_call op' next').mp (hcorrect.steps hfirst)).1
        exact ⟨_, t', .call hact (.refl _ _), hR', fun value hvalue => by cases hvalue⟩
      · obtain ⟨t', hact, hR'⟩ := hcorrect.returns hfirst
        obtain ⟨p', t'', hsteps, hfinal, hvalue⟩ := ih answer (hnext answer t' hact) hR' hrest
        exact ⟨p', t'', .call hact hsteps, hfinal, hvalue⟩

/-- Programs that run one after the other, each on what those before it have left. Each one runs to
its value or is stopped somewhere. -/
inductive Lives (act : σ → Event T → σ → Prop) :
    List (Prog T α) → σ → List (Option α) → σ → Prop where
  | nil (s : σ) : Lives act [] s [] s
  | ended {p ps s t u value outcomes} (hsteps : Steps act p s (.pure value) t)
      (hrest : Lives act ps t outcomes u) : Lives act (p :: ps) s (some value :: outcomes) u
  | stopped {p ps s t u rest outcomes} (hsteps : Steps act p s rest t)
      (hrest : Lives act ps t outcomes u) : Lives act (p :: ps) s (none :: outcomes) u

/-- So do the lives of translated programs, which end with the same values. -/
theorem Lives.refine {allowed : S.Op → Prop}
    (himplements : ∀ {op s t}, R s t → allowed op → Correct act
      (fun s' _ => ∃ answer t', act' t ⟨op, answer⟩ t' ∧ R s' t')
      (fun answer s' => ∃ t', act' t ⟨op, answer⟩ t' ∧ R s' t') (f op) s)
    {ps : List (Prog S α)} {s s' : σ} {t : τ} {outcomes : List (Option α)}
    (hps : ∀ p ∈ ps, Uses allowed p) (hR : R s t)
    (hlives : Lives act (ps.map (·.translate f)) s outcomes s') :
    ∃ t', Lives act' ps t outcomes t' ∧ R s' t' := by
  induction ps generalizing s t outcomes with
  | nil =>
      cases hlives
      exact ⟨t, .nil t, hR⟩
  | cons p ps ih =>
      obtain ⟨hp, hps⟩ := List.forall_mem_cons.mp hps
      have hcorrect : Correct act' (fun _ => allowed) (fun _ _ => True) p t :=
        hp.correct (I := fun _ => True) (fun _ _ hop _ => hop) (fun _ _ _ _ _ _ => trivial) trivial
      cases hlives with
      | ended hsteps hrest =>
          obtain ⟨p', middle, hsteps', hR', hvalue⟩ :=
            Steps.refine_partial himplements hcorrect hR hsteps
          obtain ⟨t', hlives', hfinal⟩ := ih hps hR' hrest
          rw [hvalue _ rfl] at hsteps'
          exact ⟨t', .ended hsteps' hlives', hfinal⟩
      | stopped hsteps hrest =>
          obtain ⟨p', middle, hsteps', hR', -⟩ :=
            Steps.refine_partial himplements hcorrect hR hsteps
          obtain ⟨t', hlives', hfinal⟩ := ih hps hR' hrest
          exact ⟨t', .stopped hsteps' hlives', hfinal⟩

/-- When every operation is correct below, so is every translated program. -/
theorem Correct.translate {H : σ → T.Op → Prop} {Q : α → τ → Prop}
    (himplements : ∀ {op s t}, R s t → G t op → Correct act H
      (fun answer s' => ∃ t', act' t ⟨op, answer⟩ t' ∧ R s' t') (f op) s)
    {p : Prog S α} {s : σ} {t : τ} (hp : Correct act' G Q p t) (hR : R s t) :
    Correct act H (fun value s' => ∃ t', R s' t' ∧ Q value t') (p.translate f) s := by
  induction p generalizing s t with
  | pure value => exact (correct_pure value).mpr ⟨t, hR, (correct_pure value).mp hp⟩
  | call op next ih =>
      obtain ⟨hop, hnext⟩ := (correct_call op next).mp hp
      refine (correct_bind (f op) _).mpr ((himplements hR hop).mono ?_)
      rintro answer middle ⟨t', hact, hR'⟩
      exact ih answer (hnext answer t' hact) hR'

end refine

end Prog

/-! ## Pools -/

namespace Pool

open Prog

variable {S : Sig} {ι σ τ α : Type} [DecidableEq ι]
variable {act : ι → σ → Event S → σ → Prop} {act' : ι → τ → Event S → τ → Prop}
variable {promise : Event S → Prop} {allowed : S.Op → Prop} {Q : α → Prop}
variable {P P' : Pool S ι σ α} {trace : Trace S ι}

/-- A step of a pool whose processes rely on promises that the event keeps. -/
theorem Step.relies {entry : ι × Event S} (hrelies : ∀ i, Relies promise allowed Q (P.procs i))
    (hpromise : promise entry.2) (hstep : Step act P entry P') :
    allowed entry.2.op ∧ ∀ i, Relies promise allowed Q (P'.procs i) := by
  cases hstep with
  | run i hproc hact =>
      rename_i op next answer shared
      have hcall := hrelies i
      rw [hproc, relies_call] at hcall
      refine ⟨hcall.1, fun j => ?_⟩
      by_cases hij : j = i
      · subst hij
        simpa using hcall.2 answer hpromise
      · simpa [hij] using hrelies j

/-- Along a run that keeps the promises every process goes on relying on them. -/
theorem Run.relies (hrelies : ∀ i, Relies promise allowed Q (P.procs i))
    (hpromise : ∀ entry ∈ trace, promise entry.2) (hrun : Run act P trace P') :
    ∀ i, Relies promise allowed Q (P'.procs i) := by
  induction hrun with
  | refl => exact hrelies
  | snoc _ hlast ih =>
      obtain ⟨hbefore, hentry⟩ := List.forall_mem_append.mp hpromise
      exact (hlast.relies (ih hbefore) (hentry _ (List.mem_singleton_self _))).2

/-- A pool runs through the same events in an environment that simulates its own. -/
theorem Run.simulate {R : σ → τ → Prop}
    (hsimulates : ∀ {i s t e s'}, R s t → allowed e.op → promise e → act i s e s' →
      ∃ t', act' i t e t' ∧ R s' t')
    (hrelies : ∀ i, Relies promise allowed Q (P.procs i))
    (hpromise : ∀ entry ∈ trace, promise entry.2) {t : τ} (hR : R P.shared t)
    (hrun : Run act P trace P') :
    ∃ t', Run act' ⟨t, P.procs⟩ trace ⟨t', P'.procs⟩ ∧ R P'.shared t' := by
  induction hrun with
  | refl => exact ⟨t, .refl _, hR⟩
  | snoc hrun hlast ih =>
      obtain ⟨hbefore, hentry⟩ := List.forall_mem_append.mp hpromise
      have hlastPromise := hentry _ (List.mem_singleton_self _)
      obtain ⟨t', hrun', hR'⟩ := ih hbefore
      have hallowed := (hlast.relies (hrun.relies hrelies hbefore) hlastPromise).1
      cases hlast with
      | run i hproc hact =>
          obtain ⟨t'', hact', hR''⟩ := hsimulates hR' hallowed hlastPromise hact
          exact ⟨t'', .snoc hrun' (.run (P := ⟨t', _⟩) i hproc hact'), hR''⟩

end Pool

end Effect
