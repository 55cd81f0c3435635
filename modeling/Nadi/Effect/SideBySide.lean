import Nadi.Effect.Prog

/-!
# Two runs side by side

`SideBySide h I Q E p q` relates two programs, as a Hoare triple speaks of one:
run from states related by `I`, either both return, with values and states
related by `Q`, or both raise the same exception, in states related by `E`. The
programs may differ, and so may the states; what relates them has to survive
each of their parts.
-/

namespace Effect

variable {C : Type} {R : C → Type} {ε σ α β γ δ : Type}

/-- Outcomes of the same kind: related by `Q`, or one exception and related by `E`. -/
inductive SameEnd (Q : α → β → σ → σ → Prop) (E : σ → σ → Prop) :
    Except ε α × σ → Except ε β × σ → Prop where
  | ok {a : α} {b : β} {s t : σ} (h : Q a b s t) : SameEnd Q E (.ok a, s) (.ok b, t)
  | error (e : ε) {s t : σ} (h : E s t) : SameEnd Q E (.error e, s) (.error e, t)

/-- Less may be said of the ends. -/
theorem SameEnd.mono {Q Q' : α → β → σ → σ → Prop} {E E' : σ → σ → Prop} {x : Except ε α × σ}
    {y : Except ε β × σ} (hend : SameEnd Q E x y) (hok : ∀ a b s t, Q a b s t → Q' a b s t)
    (herror : ∀ s t, E s t → E' s t) : SameEnd Q' E' x y := by
  cases hend with
  | ok hq => exact .ok (hok _ _ _ _ hq)
  | error e he => exact .error e (herror _ _ he)

/-- And of their states what else is known. -/
theorem SameEnd.and {Q : α → β → σ → σ → Prop} {E : σ → σ → Prop} {P : σ → σ → Prop}
    {x : Except ε α × σ} {y : Except ε β × σ} (hend : SameEnd Q E x y) (hP : P x.2 y.2) :
    SameEnd (fun a b s t => Q a b s t ∧ P s t) (fun s t => E s t ∧ P s t) x y := by
  cases hend with
  | ok hq => exact .ok ⟨hq, hP⟩
  | error e he => exact .error e ⟨he, hP⟩

/-- From states related by `I` the programs run to the same kind of end. -/
def SideBySide (h : Handler C R ε σ) (I : σ → σ → Prop) (Q : α → β → σ → σ → Prop)
    (E : σ → σ → Prop) (p : Prog C R ε α) (q : Prog C R ε β) : Prop :=
  ∀ s t, I s t → SameEnd Q E (p.run h s) (q.run h t)

namespace SideBySide

variable {h : Handler C R ε σ} {I J E : σ → σ → Prop} {Q : α → β → σ → σ → Prop}
  {W : γ → δ → σ → σ → Prop}

theorem pure {a : α} {b : β} (hq : ∀ s t, I s t → Q a b s t) :
    SideBySide h I Q E (.pure a : Prog C R ε α) (.pure b) :=
  fun s t hI => .ok (hq s t hI)

theorem throw {e : ε} (he : ∀ s t, I s t → E s t) :
    SideBySide h I Q E (.throw e : Prog C R ε α) (.throw e) :=
  fun s t hI => .error e (he s t hI)

/-- The rule of consequence. -/
theorem weaken {p : Prog C R ε α} {q : Prog C R ε β} {Q' : α → β → σ → σ → Prop}
    (hp : SideBySide h J Q' E p q) (hpre : ∀ s t, I s t → J s t)
    (hpost : ∀ a b s t, Q' a b s t → Q a b s t) : SideBySide h I Q E p q :=
  fun s t hI => (hp s t (hpre s t hI)).mono hpost fun _ _ he => he

theorem weaken_error {p : Prog C R ε α} {q : Prog C R ε β} {E' : σ → σ → Prop}
    (hp : SideBySide h I Q E' p q) (herror : ∀ s t, E' s t → E s t) : SideBySide h I Q E p q :=
  fun s t hI => (hp s t hI).mono (fun _ _ _ _ hq => hq) herror

/-- What holds of either run on its own, where they return. -/
theorem also {p : Prog C R ε α} {q : Prog C R ε β} {A : α → σ → Prop} {B : β → σ → Prop}
    (hp : SideBySide h I Q E p q)
    (hleft : ∀ s t a s', I s t → p.run h s = (.ok a, s') → A a s')
    (hright : ∀ s t b t', I s t → q.run h t = (.ok b, t') → B b t') :
    SideBySide h I (fun a b s t => (A a s ∧ B b t) ∧ Q a b s t) E p q := by
  intro s t hI
  have hend := hp s t hI
  rcases hrun : p.run h s with ⟨r, s'⟩
  rcases hrun' : q.run h t with ⟨r', t'⟩
  rw [hrun, hrun'] at hend
  cases hend with
  | ok hq => exact .ok ⟨⟨hleft s t _ _ hI hrun, hright s t _ _ hI hrun'⟩, hq⟩
  | error e he => exact .error e he

/-- Sequencing: where the first parts raise, both programs end there. -/
theorem bind {p : Prog C R ε α} {q : Prog C R ε β} {f : α → Prog C R ε γ}
    {g : β → Prog C R ε δ} (hp : SideBySide h I Q E p q)
    (hf : ∀ a b, SideBySide h (Q a b) W E (f a) (g b)) :
    SideBySide h I W E (p.bind f) (q.bind g) := by
  intro s t hI
  have hend := hp s t hI
  rw [Prog.run_bind, Prog.run_bind]
  generalize p.run h s = x at hend
  generalize q.run h t = y at hend
  cases hend with
  | ok hq => exact hf _ _ _ _ hq
  | error e he => exact .error e he

/-- One call on each side. -/
theorem perform {c d : C} {Q : R c → R d → σ → σ → Prop}
    (hc : ∀ s t, I s t → SameEnd Q E (h c s) (h d t)) :
    SideBySide h I Q E (Prog.perform c) (Prog.perform d) := by
  intro s t hI
  rw [Prog.run_perform, Prog.run_perform]
  exact hc s t hI

/-- One program on both sides, where each of its calls gives the same. -/
theorem same {ok : C → Prop} {post : α → Prop} {p : Prog C R ε α} (hp : p.Within ok post)
    (hcall : ∀ c s t, ok c → I s t → (h c s).1 = (h c t).1 ∧ I (h c s).2 (h c t).2) :
    SideBySide h I (fun a b s t => a = b ∧ I s t) I p p := by
  induction p with
  | pure a => exact pure fun _ _ hI => ⟨rfl, hI⟩
  | throw e => exact throw fun _ _ hI => hI
  | call c k ih =>
    intro s t hI
    obtain ⟨hresult, hnext⟩ := hcall c s t hp.1 hI
    rw [Prog.run_call, Prog.run_call, ← hresult]
    exact ih _ (hp.2 _) _ _ hnext

/-- The same pure computation on both sides. -/
theorem ofExcept_bind {x : Except ε α} {f : α → Prog C R ε γ} {g : α → Prog C R ε δ}
    (hf : ∀ a, SideBySide h I W E (f a) (g a)) (he : ∀ s t, I s t → E s t) :
    SideBySide h I W E ((Prog.ofExcept x).bind f) ((Prog.ofExcept x).bind g) := by
  cases x with
  | ok a => exact hf a
  | error e => exact throw he

/-- A precondition on the values may be taken out. -/
theorem of_prop {p : Prog C R ε α} {q : Prog C R ε β} {P : Prop}
    (hp : P → SideBySide h I Q E p q) : SideBySide h (fun s t => P ∧ I s t) Q E p q :=
  fun s t hI => hp hI.1 s t hI.2

/-- A precondition for some `x` may be met for that `x`. -/
theorem of_exists {κ : Type} {p : Prog C R ε α} {q : Prog C R ε β} {P : κ → σ → σ → Prop}
    (hp : ∀ x, SideBySide h (P x) Q E p q) :
    SideBySide h (fun s t => ∃ x, P x s t) Q E p q :=
  fun s t ⟨x, hx⟩ => hp x s t hx

end SideBySide

end Effect
