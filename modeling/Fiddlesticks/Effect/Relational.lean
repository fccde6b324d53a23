import Mathlib.Data.List.Forall2
import Fiddlesticks.Effect.History

/-!
# Two programs along matching histories

`Related` compares two programs whose environments answer them alike: wherever one issues an
operation that counts, the other issues its counterpart, and on matching answers they stay related.
Each may issue hidden operations in between, which are kept for the assertion on the two values.
`Related.path` is its meaning: a path of the first program to a value is matched by a path of the
second one, for any matching history.
-/

namespace Effect

namespace Prog

variable {S T : Sig} {α β γ δ ε : Type}

/-! ## Hidden operations -/

/-- The events of a history whose operations are hidden, or those whose are not. -/
def concealed (hidden : S.Op → Bool) (h : History S) : History S :=
  h.filter fun e => hidden e.op

/-- The events of a history whose operations are not hidden. -/
def visible (hidden : S.Op → Bool) (h : History S) : History S :=
  h.filter fun e => !hidden e.op

/-- Where nothing is hidden everything is visible. -/
@[simp] theorem visible_of_none (h : History S) : visible (fun _ => false) h = h :=
  List.filter_true h

section

variable {hidden : S.Op → Bool} {op : S.Op} {answer : S.Ans op}

/-- A hidden event is concealed. -/
theorem concealed_cons_hidden (h : History S) (hop : hidden op = true) :
    concealed hidden (⟨op, answer⟩ :: h) = ⟨op, answer⟩ :: concealed hidden h := by
  simp [concealed, hop]

/-- A visible event is not. -/
theorem concealed_cons_visible (h : History S) (hop : hidden op = false) :
    concealed hidden (⟨op, answer⟩ :: h) = concealed hidden h := by
  simp [concealed, hop]

/-- A hidden event is not visible. -/
theorem visible_cons_hidden (h : History S) (hop : hidden op = true) :
    visible hidden (⟨op, answer⟩ :: h) = visible hidden h := by
  simp [visible, hop]

/-- A visible event is. -/
theorem visible_cons_visible (h : History S) (hop : hidden op = false) :
    visible hidden (⟨op, answer⟩ :: h) = ⟨op, answer⟩ :: visible hidden h := by
  simp [visible, hop]

end

/-! ## Related programs -/

/-- The events that match one whose operation is `op` have the operation `op'`, and the other way
round. -/
structure Counterpart (M : Event S → Event T → Prop) (op : S.Op) (op' : T.Op) : Prop where
  forth : ∀ answer e', M ⟨op, answer⟩ e' → e'.op = op'
  back : ∀ e answer', M e ⟨op', answer'⟩ → e.op = op

/-- Equal events have equal operations. -/
theorem Counterpart.eq (op : S.Op) : Counterpart (S := S) Eq op op :=
  ⟨fun _ _ h => h ▸ rfl, fun _ _ h => h ▸ rfl⟩

/-- Related programs, with the hidden events of each so far and an assertion on these and the two
values. -/
inductive Related (M : Event S → Event T → Prop) (hidden : S.Op → Bool) (hidden' : T.Op → Bool)
    (Q : History S → History T → α → β → Prop) :
    History S → History T → Prog S α → Prog T β → Prop where
  | pure {seen seen' a b} (h : Q seen seen' a b) :
      Related M hidden hidden' Q seen seen' (.pure a) (.pure b)
  | both {seen seen' op op' next next'} (hop : hidden op = false) (hop' : hidden' op' = false)
      (hmatch : Counterpart M op op')
      (hnext : ∀ answer answer', M ⟨op, answer⟩ ⟨op', answer'⟩ →
        Related M hidden hidden' Q seen seen' (next answer) (next' answer')) :
      Related M hidden hidden' Q seen seen' (.call op next) (.call op' next')
  | left {seen seen' op next q} (hop : hidden op = true)
      (hnext : ∀ answer,
        Related M hidden hidden' Q (seen ++ [⟨op, answer⟩]) seen' (next answer) q) :
      Related M hidden hidden' Q seen seen' (.call op next) q
  | right {seen seen' p op next} (hop : hidden' op = true)
      (hnext : ∀ answer,
        Related M hidden hidden' Q seen (seen' ++ [⟨op, answer⟩]) p (next answer)) :
      Related M hidden hidden' Q seen seen' p (.call op next)

variable {M : Event S → Event T → Prop} {hidden : S.Op → Bool} {hidden' : T.Op → Bool}
  {Q : History S → History T → α → β → Prop} {seen : History S} {seen' : History T}
  {p : Prog S α} {q : Prog T β}

/-- The relation can be read from the other side. -/
theorem Related.symm (h : Related M hidden hidden' Q seen seen' p q) :
    Related (fun e' e => M e e') hidden' hidden (fun seen' seen b a => Q seen seen' a b) seen' seen
      q p := by
  induction h with
  | pure h => exact .pure h
  | both hop hop' hmatch _ ih =>
      exact .both hop' hop ⟨fun answer e h => hmatch.back e answer h,
        fun e' answer h => hmatch.forth answer e' h⟩ fun answer' answer h => ih answer answer' h
  | left hop _ ih => exact .right hop ih
  | right hop _ ih => exact .left hop ih

/-- The sequencing rule. -/
theorem Related.bind {R : History S → History T → γ → δ → Prop} {f : α → Prog S γ}
    {g : β → Prog T δ} (h : Related M hidden hidden' Q seen seen' p q)
    (hfg : ∀ seen seen' a b, Q seen seen' a b →
      Related M hidden hidden' R seen seen' (f a) (g b)) :
    Related M hidden hidden' R seen seen' (p >>= f) (q >>= g) := by
  induction h with
  | pure h => exact hfg _ _ _ _ h
  | both hop hop' hmatch _ ih => exact .both hop hop' hmatch ih
  | left hop _ ih => exact .left hop ih
  | right hop _ ih => exact .right hop ih

/-- The sequencing rule for fallible programs that fail together. -/
theorem Related.except_seq {R : History S → History T → Except ε γ → Except ε δ → Prop}
    {Q : History S → History T → Except ε α → Except ε β → Prop} {p : ExceptT ε (Prog S) α}
    {q : ExceptT ε (Prog T) β} {f : α → ExceptT ε (Prog S) γ} {g : β → ExceptT ε (Prog T) δ}
    (h : Related M hidden hidden' Q seen seen' p.run q.run)
    (hok : ∀ seen seen' a b, Q seen seen' (.ok a) (.ok b) →
      Related M hidden hidden' R seen seen' (f a).run (g b).run)
    (herror : ∀ seen seen' error result, Q seen seen' (.error error) result →
      result = .error error ∧ R seen seen' (.error error) (.error error))
    (herror' : ∀ seen seen' a error, ¬ Q seen seen' (.ok a) (.error error)) :
    Related M hidden hidden' R seen seen' (p >>= f).run (q >>= g).run := by
  refine Related.bind (f := fun result => _) (g := fun result => _) h ?_
  intro seen seen' result result' hresult
  cases result with
  | error error =>
      obtain ⟨rfl, hR⟩ := herror _ _ _ _ hresult
      exact .pure hR
  | ok a =>
      cases result' with
      | ok b => exact hok _ _ _ _ hresult
      | error error => exact absurd hresult (herror' _ _ _ _)

/-- Go on after an operation and its counterpart, on matching answers. -/
theorem Related.request_seq {op : S.Op} {op' : T.Op} {f : S.Ans op → ExceptT ε (Prog S) γ}
    {g : T.Ans op' → ExceptT ε (Prog T) δ}
    {R : History S → History T → Except ε γ → Except ε δ → Prop} (hop : hidden op = false)
    (hop' : hidden' op' = false) (hmatch : Counterpart M op op')
    (hnext : ∀ answer answer', M ⟨op, answer⟩ ⟨op', answer'⟩ →
      Related M hidden hidden' R seen seen' (f answer).run (g answer').run) :
    Related M hidden hidden' R seen seen' (ExceptT.lift (request op) >>= f).run
      (ExceptT.lift (request op') >>= g).run :=
  .both hop hop' hmatch hnext

/-- Go on after a hidden operation of the first program. -/
theorem Related.left_seq {op : S.Op} {f : S.Ans op → ExceptT ε (Prog S) γ}
    {q : ExceptT ε (Prog T) δ} {R : History S → History T → Except ε γ → Except ε δ → Prop}
    (hop : hidden op = true) (hnext : ∀ answer,
      Related M hidden hidden' R (seen ++ [⟨op, answer⟩]) seen' (f answer).run q.run) :
    Related M hidden hidden' R seen seen' (ExceptT.lift (request op) >>= f).run q.run :=
  .left hop hnext

/-- Go on after a hidden operation of the second program. -/
theorem Related.right_seq {op : T.Op} {p : ExceptT ε (Prog S) γ}
    {g : T.Ans op → ExceptT ε (Prog T) δ}
    {R : History S → History T → Except ε γ → Except ε δ → Prop} (hop : hidden' op = true)
    (hnext : ∀ answer,
      Related M hidden hidden' R seen (seen' ++ [⟨op, answer⟩]) p.run (g answer).run) :
    Related M hidden hidden' R seen seen' p.run (ExceptT.lift (request op) >>= g).run :=
  .right hop hnext

/-- Go on after checks that do not issue operations and fail together. -/
theorem Related.check_seq {check : Except ε α} {check' : Except ε β}
    {f : α → ExceptT ε (Prog S) γ} {g : β → ExceptT ε (Prog T) δ}
    {R : History S → History T → Except ε γ → Except ε δ → Prop}
    (hok : ∀ a, check = .ok a → ∃ b, check' = .ok b ∧
      Related M hidden hidden' R seen seen' (f a).run (g b).run)
    (herror : ∀ error, check = .error error →
      check' = .error error ∧ R seen seen' (.error error) (.error error)) :
    Related M hidden hidden' R seen seen' (liftM check >>= f).run (liftM check' >>= g).run := by
  cases check with
  | ok a =>
      obtain ⟨b, rfl, hrelated⟩ := hok a rfl
      exact hrelated
  | error error =>
      obtain ⟨rfl, hR⟩ := herror error rfl
      exact .pure hR

/-- A program is related to itself if it only issues operations whose events match themselves. -/
theorem Related.self {M : Event S → Event S → Prop} {hidden hidden' : S.Op → Bool}
    {seen seen' : History S} {p : Prog S α}
    (hp : Uses (fun op => (hidden op = false ∧ hidden' op = false) ∧ Counterpart M op op ∧
      ∀ answer answer', M ⟨op, answer⟩ ⟨op, answer'⟩ → answer = answer') p) :
    Related M hidden hidden' (fun h h' a b => h = seen ∧ h' = seen' ∧ a = b) seen seen' p p := by
  induction p with
  | pure a => exact .pure ⟨rfl, rfl, rfl⟩
  | call op next ih =>
      obtain ⟨⟨⟨hop, hop'⟩, hmatch, hsame⟩, hnext⟩ := (uses_call op next).mp hp
      refine .both hop hop' hmatch fun answer answer' h => ?_
      obtain rfl := hsame answer answer' h
      exact ih answer (hnext answer)

/-- A path of the first program to a value and a matching history of what is visible give a path of
the second program. -/
theorem Related.path (h : Related M hidden hidden' Q seen seen' p q)
    (hanswer : ∀ op, hidden' op = true → Nonempty (T.Ans op)) {events : History S}
    {matching : History T} {a : α} (hpath : Path p events (.pure a))
    (hmatching : List.Forall₂ M (visible hidden events) matching) :
    ∃ events' b, Path q events' (.pure b) ∧ visible hidden' events' = matching ∧
      Q (seen ++ concealed hidden events) (seen' ++ concealed hidden' events') a b := by
  induction h generalizing events matching with
  | pure h =>
      cases hpath
      cases hmatching
      exact ⟨[], _, .nil _, rfl, by simpa [concealed] using h⟩
  | both hop hop' hmatch _ ih =>
      cases hpath with
      | @cons _ _ answer events _ hrest =>
          rw [visible_cons_visible _ hop] at hmatching
          cases hmatching with
          | @cons _ e' _ matching hevent hmatching =>
              obtain ⟨op, answer'⟩ := e'
              obtain rfl := hmatch.forth _ _ hevent
              obtain ⟨events', b, hpath', hvisible, hQ⟩ := ih answer answer' hevent hrest hmatching
              refine ⟨_, b, .cons hpath', ?_, ?_⟩
              · rw [visible_cons_visible _ hop', hvisible]
              · rwa [concealed_cons_visible _ hop, concealed_cons_visible _ hop']
  | left hop _ ih =>
      cases hpath with
      | @cons _ _ answer events _ hrest =>
          rw [visible_cons_hidden _ hop] at hmatching
          obtain ⟨events', b, hpath', hvisible, hQ⟩ := ih answer hrest hmatching
          refine ⟨events', b, hpath', hvisible, ?_⟩
          rwa [concealed_cons_hidden _ hop, List.append_cons]
  | @right _ _ _ op _ hop _ ih =>
      obtain ⟨answer⟩ := hanswer op hop
      obtain ⟨events', b, hpath', hvisible, hQ⟩ := ih answer hpath hmatching
      refine ⟨_, b, .cons hpath', ?_, ?_⟩
      · rw [visible_cons_hidden _ hop, hvisible]
      · rwa [concealed_cons_hidden _ hop, List.append_cons]

end Prog

end Effect
