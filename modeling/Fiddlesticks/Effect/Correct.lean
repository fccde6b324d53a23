import Fiddlesticks.Effect.History

/-!
# Programs in an environment with a state

`Correct act G Q p s` says that `p`, run from the state `s` in an environment that answers as `act`
permits, issues only operations that meet the guard `G` in the state they are issued in, and
returns only values that satisfy `Q` in the state they are returned in. `correct_bind` is its
sequencing rule and `Correct.steps` its meaning on runs. The second part takes runs of composed
programs apart.
-/

namespace Effect

namespace Prog

variable {S : Sig} {α β ε σ : Type} {act : σ → Event S → σ → Prop}

/-! ## Partial correctness -/

/-- Every operation meets the guard in its state and every return value the postcondition. -/
def Correct (act : σ → Event S → σ → Prop) (G : σ → S.Op → Prop) (Q : α → σ → Prop) :
    Prog S α → σ → Prop
  | .pure value, s => Q value s
  | .call op next, s =>
      G s op ∧ ∀ answer s', act s ⟨op, answer⟩ s' → Correct act G Q (next answer) s'

variable {G : σ → S.Op → Prop} {Q : α → σ → Prop} {R : β → σ → Prop} {s t : σ}

/-- A value is correct when it is as stated. -/
@[simp] theorem correct_pure (value : α) : Correct act G Q (.pure value) s ↔ Q value s := Iff.rfl

/-- An operation is correct when it may be issued here and what follows is correct after every
answer. -/
@[simp] theorem correct_call (op : S.Op) (next : S.Ans op → Prog S α) :
    Correct act G Q (.call op next) s ↔
      G s op ∧ ∀ answer s', act s ⟨op, answer⟩ s' → Correct act G Q (next answer) s' := Iff.rfl

/-- The sequencing rule. -/
theorem correct_bind (p : Prog S α) (f : α → Prog S β) :
    Correct act G R (p >>= f) s ↔
      Correct act G (fun value s' => Correct act G R (f value) s') p s := by
  induction p generalizing s with
  | pure value => rfl
  | call op next ih =>
      simp only [call_bind, correct_call]
      exact and_congr_right fun _ =>
        forall_congr' fun answer => forall_congr' fun s' => imp_congr_right fun _ => ih answer

/-- The rule of consequence. -/
theorem Correct.mono {Q' : α → σ → Prop} {p : Prog S α} (hp : Correct act G Q p s)
    (hQ : ∀ value s', Q value s' → Q' value s') : Correct act G Q' p s := by
  induction p generalizing s with
  | pure value => exact hQ _ _ hp
  | call op next ih => exact ⟨hp.1, fun answer s' hact => ih answer (hp.2 answer s' hact)⟩

/-- Guards can be weakened. -/
theorem Correct.guard_mono {G' : σ → S.Op → Prop} {p : Prog S α} (hp : Correct act G Q p s)
    (hG : ∀ s op, G s op → G' s op) : Correct act G' Q p s := by
  induction p generalizing s with
  | pure value => exact hp
  | call op next ih =>
      exact ⟨hG _ _ hp.1, fun answer s' hact => ih answer (hp.2 answer s' hact)⟩

/-- Two specifications of one program hold together. -/
theorem Correct.and {G' : σ → S.Op → Prop} {Q' : α → σ → Prop} {p : Prog S α}
    (hp : Correct act G Q p s) (hp' : Correct act G' Q' p s) :
    Correct act (fun s op => G s op ∧ G' s op) (fun value s => Q value s ∧ Q' value s) p s := by
  induction p generalizing s with
  | pure value => exact ⟨hp, hp'⟩
  | call op next ih =>
      exact ⟨⟨hp.1, hp'.1⟩, fun answer s' hact =>
        ih answer (hp.2 answer s' hact) (hp'.2 answer s' hact)⟩

/-- A specification for an environment carries over to one with more in its state. -/
theorem Correct.lift {τ : Type} {act' : τ → Event S → τ → Prop} {v : τ → σ}
    (hact : ∀ t e t', act' t e t' → act (v t) e (v t')) {p : Prog S α} {t : τ}
    (hp : Correct act G Q p (v t)) :
    Correct act' (fun t op => G (v t) op) (fun value t => Q value (v t)) p t := by
  induction p generalizing t with
  | pure value => exact hp
  | call op next ih => exact ⟨hp.1, fun answer t' h => ih answer (hp.2 answer _ (hact _ _ _ h))⟩

/-- Along a run the rest of the program stays correct. -/
theorem Correct.steps {p q : Prog S α} (hp : Correct act G Q p s) (hsteps : Steps act p s q t) :
    Correct act G Q q t := by
  induction hsteps with
  | refl => exact hp
  | call hact _ ih => exact ih (hp.2 _ _ hact)

/-- A value returned at the end of a run satisfies the postcondition. -/
theorem Correct.returns {p : Prog S α} {value : α} (hp : Correct act G Q p s)
    (hsteps : Steps act p s (.pure value) t) : Q value t :=
  hp.steps hsteps

/-- A program of operations that keep an invariant keeps it. -/
theorem Uses.correct {allowed : S.Op → Prop} {I : σ → Prop} {p : Prog S α} (hp : Uses allowed p)
    (hG : ∀ s op, allowed op → I s → G s op)
    (hact : ∀ s e s', allowed e.op → act s e s' → I s → I s') (hs : I s) :
    Correct act G (fun _ => I) p s := by
  induction p generalizing s with
  | pure value => exact hs
  | call op next ih =>
      obtain ⟨hop, hnext⟩ := (uses_call op next).mp hp
      exact ⟨hG _ _ hop hs, fun answer s' h => ih answer (hnext answer) (hact _ _ _ hop h hs)⟩

/-- A pure function of the value moves into the postcondition. -/
@[simp] theorem correct_map {Q : β → σ → Prop} (f : α → β) (p : Prog S α) :
    Correct act G Q (f <$> p) s ↔ Correct act G (fun value => Q (f value)) p s := by
  rw [map_eq_pure_bind, correct_bind]
  rfl

/-- The sequencing rule for fallible programs, with a stated intermediate assertion. -/
theorem correct_except_seq {Q : Except ε α → σ → Prop} {R : Except ε β → σ → Prop}
    {p : ExceptT ε (Prog S) α} {f : α → ExceptT ε (Prog S) β} (hp : Correct act G Q p.run s)
    (hok : ∀ value s', Q (.ok value) s' → Correct act G R (f value).run s')
    (herror : ∀ error s', Q (.error error) s' → R (.error error) s') :
    Correct act G R (p >>= f).run s := by
  refine (correct_bind p.run _).mpr (hp.mono ?_)
  intro result s' hresult
  cases result with
  | ok value => exact hok value s' hresult
  | error error => exact herror error s' hresult

/-- The sequencing rule after a program that cannot fail. -/
theorem correct_lift_seq {Q : α → σ → Prop} {R : Except ε β → σ → Prop} {p : Prog S α}
    {f : α → ExceptT ε (Prog S) β} (hp : Correct act G Q p s)
    (hf : ∀ value s', Q value s' → Correct act G R (f value).run s') :
    Correct act G R (ExceptT.lift p >>= f).run s := by
  have hlift : Correct act G (fun result s' => ∃ value, result = .ok value ∧ Q value s')
      (ExceptT.lift p : ExceptT ε (Prog S) α).run s :=
    (correct_map _ _).mpr (hp.mono fun value _ h => ⟨value, rfl, h⟩)
  refine correct_except_seq hlift ?_ ?_
  · rintro value s' ⟨_, ⟨⟩, h⟩
    exact hf value s' h
  · rintro error s' ⟨_, ⟨⟩, -⟩

/-! ## Runs of composed programs -/

/-- Runs compose. -/
theorem Steps.trans {p q r : Prog S α} {u : σ} (h : Steps act p s q t) (h' : Steps act q t r u) :
    Steps act p s r u := by
  induction h with
  | refl => exact h'
  | call hact _ ih => exact .call hact (ih h')

/-- A run of the first program is one of a composition. -/
theorem Steps.bind {p q : Prog S α} (h : Steps act p s q t) (f : α → Prog S β) :
    Steps act (p >>= f) s (q >>= f) t := by
  induction h with
  | refl => exact .refl _ _
  | call hact _ ih => exact .call hact ih

/-- A value has no steps to take. -/
theorem Steps.of_pure {value : α} {q : Prog S α} (h : Steps act (.pure value) s q t) :
    q = .pure value ∧ t = s := by
  cases h
  exact ⟨rfl, rfl⟩

/-- A run to a value goes through the first operation. -/
theorem Steps.of_call {op : S.Op} {next : S.Ans op → Prog S α} {value : α}
    (h : Steps act (.call op next) s (.pure value) t) :
    ∃ answer s', act s ⟨op, answer⟩ s' ∧ Steps act (next answer) s' (.pure value) t := by
  cases h with
  | call hact hnext => exact ⟨_, _, hact, hnext⟩

/-- A run of a composition to a value is one of each part. -/
theorem Steps.of_bind {p : Prog S α} {f : α → Prog S β} {value : β}
    (h : Steps act (p >>= f) s (.pure value) t) :
    ∃ middle s', Steps act p s (.pure middle) s' ∧ Steps act (f middle) s' (.pure value) t := by
  induction p generalizing s with
  | pure middle => exact ⟨middle, s, .refl _ _, h⟩
  | call op next ih =>
      obtain ⟨answer, s', hact, hnext⟩ := Steps.of_call h
      obtain ⟨middle, s'', hp, hf⟩ := ih answer hnext
      exact ⟨middle, s'', .call hact hp, hf⟩

/-- A run of fallible programs ends with an error of the first or runs the second. -/
theorem Steps.of_except_bind {p : ExceptT ε (Prog S) α} {f : α → ExceptT ε (Prog S) β}
    {result : Except ε β} (h : Steps act (p >>= f).run s (.pure result) t) :
    (∃ value s', Steps act p.run s (.pure (.ok value)) s' ∧
        Steps act (f value).run s' (.pure result) t) ∨
      ∃ error, Steps act p.run s (.pure (.error error)) t ∧ result = .error error := by
  obtain ⟨middle, s', hp, hf⟩ := Steps.of_bind (p := p.run) h
  cases middle with
  | ok value => exact .inl ⟨value, s', hp, hf⟩
  | error error =>
      obtain ⟨hresult, rfl⟩ := hf.of_pure
      exact .inr ⟨error, hp, by injection hresult⟩

/-- A run of a mapped program is a run of the program. -/
theorem Steps.of_map {f : α → β} {p : Prog S α} {value : β}
    (h : Steps act (f <$> p) s (.pure value) t) :
    ∃ middle, Steps act p s (.pure middle) t ∧ value = f middle := by
  rw [map_eq_pure_bind] at h
  obtain ⟨middle, s', hp, hf⟩ := h.of_bind
  obtain ⟨hvalue, rfl⟩ := hf.of_pure
  exact ⟨middle, hp, by injection hvalue⟩

/-- A run in an environment with more in its state. -/
theorem Steps.view {τ : Type} {act' : τ → Event S → τ → Prop} {v : τ → σ}
    (hact : ∀ t e t', act' t e t' → act (v t) e (v t')) {p q : Prog S α} {t t' : τ}
    (h : Steps act' p t q t') : Steps act p (v t) q (v t') := by
  induction h with
  | refl => exact .refl _ _
  | call hcall _ ih => exact .call (hact _ _ _ hcall) ih

/-- What every event keeps holds at the end of a run. -/
theorem Steps.invariant {I : σ → Prop} (hact : ∀ s e s', act s e s' → I s → I s')
    {p q : Prog S α} (h : Steps act p s q t) (hs : I s) : I t := by
  induction h with
  | refl => exact hs
  | call hcall _ ih => exact ih (hact _ _ _ hcall hs)

/-- What the operations of a program keep holds at the end of its runs. -/
theorem Uses.invariant {allowed : S.Op → Prop} {I : σ → Prop} {p q : Prog S α}
    (hp : Uses allowed p) (hact : ∀ s e s', allowed e.op → act s e s' → I s → I s')
    (h : Steps act p s q t) (hs : I s) : I t := by
  induction h with
  | refl => exact hs
  | call hcall _ ih =>
      obtain ⟨hop, hnext⟩ := (uses_call _ _).mp hp
      exact ih (hnext _) (hact _ _ _ hop hcall hs)

/-- What is left of a program uses what the program does. -/
theorem Uses.steps {allowed : S.Op → Prop} {p q : Prog S α} (hp : Uses allowed p)
    (h : Steps act p s q t) : Uses allowed q := by
  induction h with
  | refl => exact hp
  | call _ _ ih => exact ih (((uses_call _ _).mp hp).2 _)

/-- A program runs to a value where all its operations are answered. -/
theorem Uses.to_end {allowed : S.Op → Prop} {p : Prog S α} (hp : Uses allowed p)
    (hact : ∀ s op, allowed op → ∃ answer s', act s ⟨op, answer⟩ s') (s : σ) :
    ∃ value t, Steps act p s (.pure value) t := by
  induction p generalizing s with
  | pure value => exact ⟨value, s, .refl _ _⟩
  | call op next ih =>
      obtain ⟨hop, hnext⟩ := (uses_call op next).mp hp
      obtain ⟨answer, s', hanswer⟩ := hact s op hop
      obtain ⟨value, t, hrest⟩ := ih answer (hnext answer) s'
      exact ⟨value, t, .call hanswer hrest⟩

/-- Two states between which the operations of a program see no difference have the same runs. -/
theorem Uses.simulates {allowed : S.Op → Prop} {R : σ → σ → Prop} {p q : Prog S α} {s' : σ}
    (hp : Uses allowed p) (hact : ∀ {s s' e t}, allowed e.op → R s s' → act s e t →
      ∃ t', act s' e t' ∧ R t t')
    (h : Steps act p s q t) (hs : R s s') : ∃ t', Steps act p s' q t' ∧ R t t' := by
  induction h generalizing s' with
  | refl => exact ⟨s', .refl _ _, hs⟩
  | call hcall _ ih =>
      obtain ⟨hop, hnext⟩ := (uses_call _ _).mp hp
      obtain ⟨middle, hcall', hmiddle⟩ := hact hop hs hcall
      obtain ⟨t', hrest, ht⟩ := ih (hnext _) hmiddle
      exact ⟨t', .call hcall' hrest, ht⟩

/-- A deterministic environment answers a program the same from two such states. -/
theorem Uses.run_eq {allowed : S.Op → Prop} {R : σ → σ → Prop}
    {handle : (op : S.Op) → σ → S.Ans op × σ} {p : Prog S α} (hp : Uses allowed p)
    (hhandle : ∀ {op s s'}, allowed op → R s s' →
      (handle op s).1 = (handle op s').1 ∧ R (handle op s).2 (handle op s').2)
    (hs : R s t) : (run handle p s).1 = (run handle p t).1 := by
  induction p generalizing s t with
  | pure value => rfl
  | call op next ih =>
      obtain ⟨hop, hnext⟩ := (uses_call _ _).mp hp
      obtain ⟨hanswer, hrest⟩ := hhandle hop hs
      rw [run_call, run_call, hanswer]
      exact ih _ (hnext _) hrest

/-- A program whose operations an environment answers runs to its value. -/
theorem Steps.of_execute {handle : (op : S.Op) → σ → Option (S.Ans op × σ)}
    (hact : ∀ {op s answer s'}, handle op s = some (answer, s') → act s ⟨op, answer⟩ s')
    {p : Prog S α} {events : History S} {value : α}
    (h : p.execute handle s = some (events, value, t)) : Steps act p s (.pure value) t := by
  induction p generalizing s events with
  | pure result =>
      cases h
      exact .refl _ _
  | call op next ih =>
      simp only [execute, Option.bind_eq_bind, Option.bind_eq_some_iff, Option.pure_def,
        Option.some.injEq] at h
      obtain ⟨⟨answer, s'⟩, hanswer, ⟨rest, result, t'⟩, hrest, heq⟩ := h
      cases heq
      exact .call (hact hanswer) (ih answer hrest)

/-- A program runs to its value in a deterministic environment. -/
theorem Steps.of_run {handle : (op : S.Op) → σ → S.Ans op × σ}
    (hact : ∀ op s, act s ⟨op, (handle op s).1⟩ (handle op s).2) (p : Prog S α) (s : σ) :
    Steps act p s (.pure (p.run handle s).1) (p.run handle s).2 := by
  induction p generalizing s with
  | pure value => exact .refl _ _
  | call op next ih => exact .call (hact op s) (ih _ _)

/-- Advancing a program takes steps of it. -/
theorem Steps.of_advance {handle : (op : S.Op) → σ → Option (S.Ans op × σ)}
    (hact : ∀ {op s answer s'}, handle op s = some (answer, s') → act s ⟨op, answer⟩ s')
    (p : Prog S α) (s : σ) : Steps act p s (p.advance handle s).1 (p.advance handle s).2 := by
  induction p generalizing s with
  | pure value => exact .refl _ _
  | call op next ih =>
      rw [advance]
      cases hanswer : handle op s with
      | none => exact .refl _ _
      | some result => exact .call (hact hanswer) (ih _ _)

/-- A correct program comes to an end where an invariant holds under which the operations that it
may issue are answered. -/
theorem Correct.to_end_keeping {I : σ → Prop} {p : Prog S α} (hp : Correct act G Q p s) (hs : I s)
    (hact : ∀ s op, I s → G s op → ∃ answer s', act s ⟨op, answer⟩ s' ∧ I s') :
    ∃ value t, Steps act p s (.pure value) t := by
  induction p generalizing s with
  | pure value => exact ⟨value, s, .refl _ _⟩
  | call op next ih =>
      obtain ⟨hop, hnext⟩ := (correct_call op next).mp hp
      obtain ⟨answer, s', hanswer, hs'⟩ := hact s op hs hop
      obtain ⟨value, t, hrest⟩ := ih answer (hnext answer s' hanswer) hs'
      exact ⟨value, t, .call hanswer hrest⟩

/-! ## The environment that answers in any way -/

/-- Every answer is possible, and the history is the state. -/
def Recorded (h : History S) (e : Event S) (h' : History S) : Prop :=
  h' = h ++ [e]

/-- A path is a run from any history. -/
theorem Path.steps {p q : Prog S α} {events : History S} (h : Path p events q)
    (before : History S) : Steps Recorded p before q (before ++ events) := by
  induction h generalizing before with
  | nil p =>
      rw [List.append_nil]
      exact .refl _ _
  | @cons op next answer events q _ ih =>
      have hrest := ih (before ++ [⟨op, answer⟩])
      rw [List.append_assoc] at hrest
      exact .call rfl hrest

/-- A run is a path. -/
theorem Steps.path {p q : Prog S α} {before after : History S}
    (h : Steps Recorded p before q after) : ∃ events, Path p events q := by
  induction h with
  | refl p s => exact ⟨[], .nil _⟩
  | call _ _ ih =>
      obtain ⟨events, hpath⟩ := ih
      exact ⟨_, .cons hpath⟩

/-- What is left of a program is correct after the events of a path. -/
theorem Correct.path {G : History S → S.Op → Prop} {Q : α → History S → Prop} {p q : Prog S α}
    {before events : History S} (hp : Correct Recorded G Q p before) (h : Path p events q) :
    Correct Recorded G Q q (before ++ events) :=
  hp.steps (h.steps before)

attribute [irreducible] Correct

end Prog

/-! ## One program after another -/

/-- States reached step by step from the start: those before, oldest first, and the last one. Each
step knows how many there were before it. -/
inductive Sequence {σ : Type} (step : Nat → σ → σ → Prop) (start : σ) : List σ → σ → Prop where
  | nil : Sequence step start [] start
  | snoc {states s s'} (hbefore : Sequence step start states s)
      (hstep : step states.length s s') : Sequence step start (states ++ [s]) s'

/-- A part of the states goes through a sequence of its own. -/
theorem Sequence.map {σ τ : Type} {step : Nat → σ → σ → Prop} {step' : Nat → τ → τ → Prop}
    {start s : σ} {states : List σ} (f : σ → τ)
    (hstep : ∀ n s s', step n s s' → step' n (f s) (f s')) (h : Sequence step start states s) :
    Sequence step' (f start) (states.map f) (f s) := by
  induction h with
  | nil => exact .nil
  | snoc _ hlast ih =>
      rw [List.map_append, List.map_singleton]
      refine ih.snoc ?_
      rw [List.length_map]
      exact hstep _ _ _ hlast

/-- An invariant holds in the last state. -/
theorem Sequence.invariant {σ : Type} {step : Nat → σ → σ → Prop} {start s : σ} {states : List σ}
    {I : Nat → σ → Prop} (h : Sequence step start states s) (hstart : I 0 start)
    (hstep : ∀ n s s', step n s s' → I n s → I (n + 1) s') : I states.length s := by
  induction h with
  | nil => exact hstart
  | snoc _ hlast ih =>
      rw [List.length_append, List.length_singleton]
      exact hstep _ _ _ hlast ih

end Effect
