import Mathlib.Logic.Function.Basic

/-!
# Effectful programs as trees of atomic calls

A program over a signature `(C, R)` is a finite tree: it returns, raises, or
performs one *atomic call* `c : C` on a shared state and continues with the
outcome of that call. Everything a program does between two calls is pure, so
the calls are exactly the points at which another program may take a step.

- `Prog.bind`, `Prog.tryCatch`, `Prog.perform`: the usual control structure,
  with a `Monad` instance for `do` notation.
- `Prog.run h`: the sequential meaning under a handler `h`; the interleaved
  meaning of the same trees is in `Effect.Interleave`.
- `Prog.calls h`: the calls a run makes.
- `Prog.Within ok post`: a bound on the calls a program makes and the values it
  returns, read off its text.
- `Triple h P p Q`: partial-correctness triples for `run`, with one rule for
  each way of building a program.

Trees are inductive, hence every program terminates under every handler.
-/

namespace Effect

/-- Programs over calls `C` with results `R`, exceptions `ε` and value `α`. A
call may itself raise, which the continuation sees as `Except.error`. -/
inductive Prog (C : Type) (R : C → Type) (ε α : Type) : Type where
  | pure (a : α)
  | throw (e : ε)
  | call (c : C) (k : Except ε (R c) → Prog C R ε α)

/-- The meaning of each atomic call on a state `σ`. -/
abbrev Handler (C : Type) (R : C → Type) (ε σ : Type) : Type :=
  (c : C) → σ → Except ε (R c) × σ

variable {C : Type} {R : C → Type} {ε σ α β : Type}

namespace Prog

/-- Run the second program on the value of the first. -/
def bind : Prog C R ε α → (α → Prog C R ε β) → Prog C R ε β
  | .pure a, f => f a
  | .throw e, _ => .throw e
  | .call c k, f => .call c fun r => (k r).bind f

/-- `try p except e: handler e`. -/
def tryCatch : Prog C R ε α → (ε → Prog C R ε α) → Prog C R ε α
  | .pure a, _ => .pure a
  | .throw e, g => g e
  | .call c k, g => .call c fun r => (k r).tryCatch g

/-- The program that returns or raises the given outcome. -/
def ofExcept : Except ε α → Prog C R ε α
  | .ok a => .pure a
  | .error e => .throw e

/-- Perform one call, letting its exception propagate. -/
def perform (c : C) : Prog C R ε (R c) := .call c ofExcept

/-- The value of a program that has returned. -/
def value? : Prog C R ε α → Option α
  | .pure a => some a
  | _ => none

theorem eq_pure_of_value? {p : Prog C R ε α} {a : α} (h : p.value? = some a) : p = .pure a := by
  cases p with
  | pure b =>
    cases h
    rfl
  | throw e => cases h
  | call c k => cases h

instance : Monad (Prog C R ε) where
  pure := .pure
  bind := .bind

@[simp] theorem pure_eq (a : α) : (Pure.pure a : Prog C R ε α) = .pure a := rfl

@[simp] theorem bind_eq (p : Prog C R ε α) (f : α → Prog C R ε β) :
    p >>= f = p.bind f := rfl

@[simp] theorem pure_bind (a : α) (f : α → Prog C R ε β) :
    (Prog.pure a : Prog C R ε α).bind f = f a := rfl

@[simp] theorem throw_bind (e : ε) (f : α → Prog C R ε β) :
    (Prog.throw e : Prog C R ε α).bind f = .throw e := rfl

@[simp] theorem call_bind (c : C) (k : Except ε (R c) → Prog C R ε α)
    (f : α → Prog C R ε β) :
    (Prog.call c k).bind f = .call c fun r => (k r).bind f := rfl

theorem bind_assoc {γ : Type} (p : Prog C R ε α) (f : α → Prog C R ε β) (g : β → Prog C R ε γ) :
    (p.bind f).bind g = p.bind fun a => (f a).bind g := by
  induction p with
  | pure a => rfl
  | throw e => rfl
  | call c k ih => exact congrArg (Prog.call c) (funext ih)

theorem bind_pure (p : Prog C R ε α) : p.bind .pure = p := by
  induction p with
  | pure a => rfl
  | throw e => rfl
  | call c k ih => exact congrArg (Prog.call c) (funext ih)

@[simp] theorem pure_tryCatch (a : α) (g : ε → Prog C R ε α) :
    (Prog.pure a : Prog C R ε α).tryCatch g = .pure a := rfl

@[simp] theorem throw_tryCatch (e : ε) (g : ε → Prog C R ε α) :
    (Prog.throw e : Prog C R ε α).tryCatch g = g e := rfl

@[simp] theorem ofExcept_ok (a : α) :
    (ofExcept (.ok a) : Prog C R ε α) = .pure a := rfl

@[simp] theorem ofExcept_error (e : ε) :
    (ofExcept (.error e) : Prog C R ε α) = .throw e := rfl

/-! ## Sequential runs -/

/-- Run a program to its end, with nobody else taking steps. -/
def run (h : Handler C R ε σ) : Prog C R ε α → σ → Except ε α × σ
  | .pure a, s => (.ok a, s)
  | .throw e, s => (.error e, s)
  | .call c k, s => (k (h c s).1).run h (h c s).2

variable (h : Handler C R ε σ)

@[simp] theorem run_pure (a : α) (s : σ) :
    (Prog.pure a : Prog C R ε α).run h s = (.ok a, s) := rfl

@[simp] theorem run_throw (e : ε) (s : σ) :
    (Prog.throw e : Prog C R ε α).run h s = (.error e, s) := rfl

theorem run_call (c : C) (k : Except ε (R c) → Prog C R ε α) (s : σ) :
    (Prog.call c k).run h s = (k (h c s).1).run h (h c s).2 := rfl

@[simp] theorem run_ofExcept (r : Except ε α) (s : σ) :
    (ofExcept r : Prog C R ε α).run h s = (r, s) := by
  cases r <;> rfl

@[simp] theorem run_perform (c : C) (s : σ) : (perform c).run h s = h c s := by
  show (ofExcept (h c s).1 : Prog C R ε (R c)).run h (h c s).2 = h c s
  rw [run_ofExcept]

/-- Sequencing runs the first part, then the second from where it left off. -/
theorem run_bind (p : Prog C R ε α) (f : α → Prog C R ε β) (s : σ) :
    (p.bind f).run h s =
      match p.run h s with
      | (.ok a, s') => (f a).run h s'
      | (.error e, s') => (.error e, s') := by
  induction p generalizing s with
  | pure a => rfl
  | throw e => rfl
  | call c k ih => exact ih _ _

theorem run_bind_ok {p : Prog C R ε α} {f : α → Prog C R ε β} {s s' : σ} {a : α}
    (hp : p.run h s = (.ok a, s')) : (p.bind f).run h s = (f a).run h s' := by
  rw [run_bind, hp]

theorem run_bind_error {p : Prog C R ε α} {f : α → Prog C R ε β} {s s' : σ} {e : ε}
    (hp : p.run h s = (.error e, s')) : (p.bind f).run h s = (.error e, s') := by
  rw [run_bind, hp]

/-- A pure step at the end changes no state. -/
theorem run_bind_pure (p : Prog C R ε α) (f : α → β) (s : σ) :
    ((p.bind fun a => .pure (f a)).run h s).2 = (p.run h s).2 := by
  rw [run_bind]
  rcases p.run h s with ⟨r, s'⟩
  cases r <;> rfl

/-- And is applied to what is returned. -/
theorem fst_run_bind_pure (p : Prog C R ε α) (f : α → β) (s : σ) :
    ((p.bind fun a => .pure (f a)).run h s).1 = (p.run h s).1.map f := by
  rw [run_bind]
  rcases p.run h s with ⟨r, s'⟩
  cases r <;> rfl

/-- A guarded program runs its handler from the state at the exception. -/
theorem run_tryCatch (p : Prog C R ε α) (g : ε → Prog C R ε α) (s : σ) :
    (p.tryCatch g).run h s =
      match p.run h s with
      | (.ok a, s') => (.ok a, s')
      | (.error e, s') => (g e).run h s' := by
  induction p generalizing s with
  | pure a => rfl
  | throw e => rfl
  | call c k ih => exact ih _ _

/-- The program returns, and does not raise. -/
def Returns (p : Prog C R ε α) (s : σ) : Prop := ∃ a s', p.run h s = (.ok a, s')

theorem not_returns_iff {p : Prog C R ε α} {s : σ} :
    ¬ p.Returns h s ↔ ∃ e, (p.run h s).1 = .error e := by
  unfold Returns
  rcases p.run h s with ⟨e | a, s'⟩
  · exact iff_of_true (fun ⟨_, _, hrun⟩ => nomatch hrun) ⟨e, rfl⟩
  · exact iff_of_false (fun hnot => hnot ⟨a, s', rfl⟩) fun ⟨_, hrun⟩ => nomatch hrun

variable {h} in
theorem returns_bind_ok {p : Prog C R ε α} {f : α → Prog C R ε β} {s s' : σ} {a : α}
    (hp : p.run h s = (.ok a, s')) : (p.bind f).Returns h s ↔ (f a).Returns h s' := by
  unfold Returns
  rw [run_bind_ok h hp]

variable {h} in
theorem not_returns_bind_error {p : Prog C R ε α} {f : α → Prog C R ε β} {s s' : σ} {e : ε}
    (hp : p.run h s = (.error e, s')) : ¬ (p.bind f).Returns h s := by
  rintro ⟨b, s'', hrun⟩
  rw [run_bind_error h hp] at hrun
  cases hrun

/-- A pure step at the end does not raise. -/
theorem returns_bind_pure (p : Prog C R ε α) (f : α → β) (s : σ) :
    (p.bind fun a => .pure (f a)).Returns h s ↔ p.Returns h s := by
  rcases hp : p.run h s with ⟨e | a, s'⟩
  · refine iff_of_false (not_returns_bind_error hp) ?_
    rintro ⟨a, s'', hrun⟩
    cases hp.symm.trans hrun
  · exact iff_of_true ((returns_bind_ok hp).mpr ⟨f a, s', rfl⟩) ⟨a, s', hp⟩

/-! ## The calls of a run -/

/-- The calls a run makes, in order. -/
def calls : Prog C R ε α → σ → List C
  | .pure _, _ => []
  | .throw _, _ => []
  | .call c k, s => c :: (k (h c s).1).calls (h c s).2

@[simp] theorem calls_perform (c : C) (s : σ) : (perform c).calls h s = [c] := by
  show c :: (ofExcept (h c s).1 : Prog C R ε (R c)).calls h (h c s).2 = [c]
  cases (h c s).1 <;> rfl

theorem calls_bind_ok {p : Prog C R ε α} {f : α → Prog C R ε β} {s s' : σ} {a : α}
    (hp : p.run h s = (.ok a, s')) :
    (p.bind f).calls h s = p.calls h s ++ (f a).calls h s' := by
  induction p generalizing s with
  | pure b =>
    obtain ⟨hb, rfl⟩ := Prod.mk.inj hp
    cases hb
    rfl
  | throw e => cases (Prod.mk.inj hp).1
  | call c k ih => exact congrArg (c :: ·) (ih _ hp)

/-- The calls of the first part come first. -/
theorem calls_bind (p : Prog C R ε α) (f : α → Prog C R ε β) (s : σ) :
    ∃ later, (p.bind f).calls h s = p.calls h s ++ later := by
  induction p generalizing s with
  | pure a => exact ⟨_, rfl⟩
  | throw e => exact ⟨[], rfl⟩
  | call c k ih =>
    obtain ⟨later, hlater⟩ := ih (h c s).1 (h c s).2
    exact ⟨later, congrArg (c :: ·) hlater⟩

theorem calls_bind_error {p : Prog C R ε α} {f : α → Prog C R ε β} {s s' : σ} {e : ε}
    (hp : p.run h s = (.error e, s')) : (p.bind f).calls h s = p.calls h s := by
  induction p generalizing s with
  | pure b => cases (Prod.mk.inj hp).1
  | throw e => rfl
  | call c k ih => exact congrArg (c :: ·) (ih _ hp)

/-! ## Bounds on calls and values -/

/-- Every call of the program is in `ok`, and every value it returns is in
`post`, whatever its calls give. -/
def Within (ok : C → Prop) (post : α → Prop) : Prog C R ε α → Prop
  | .pure a => post a
  | .throw _ => True
  | .call c k => ok c ∧ ∀ r, (k r).Within ok post

namespace Within

variable {ok ok' : C → Prop} {post post' : α → Prop}

/-- Every program makes some calls and returns some value. -/
theorem any (p : Prog C R ε α) : p.Within (fun _ => True) fun _ => True := by
  induction p with
  | pure a => trivial
  | throw e => trivial
  | call c k ih => exact ⟨trivial, ih⟩

theorem mono {p : Prog C R ε α} (hp : p.Within ok post) (hok : ∀ c, ok c → ok' c)
    (hpost : ∀ a, post a → post' a) : p.Within ok' post' := by
  induction p with
  | pure a => exact hpost a hp
  | throw e => trivial
  | call c k ih => exact ⟨hok c hp.1, fun r => ih r (hp.2 r)⟩

theorem mono_calls {p : Prog C R ε α} (hp : p.Within ok post) (hok : ∀ c, ok c → ok' c) :
    p.Within ok' post := hp.mono hok fun _ h => h

theorem bind {p : Prog C R ε α} {f : α → Prog C R ε β} {post' : β → Prop}
    (hp : p.Within ok post) (hf : ∀ a, post a → (f a).Within ok post') :
    (p.bind f).Within ok post' := by
  induction p with
  | pure a => exact hf a hp
  | throw e => trivial
  | call c k ih => exact ⟨hp.1, fun r => ih r (hp.2 r)⟩

theorem tryCatch {p : Prog C R ε α} {g : ε → Prog C R ε α} (hp : p.Within ok post)
    (hg : ∀ e, (g e).Within ok post) : (p.tryCatch g).Within ok post := by
  induction p with
  | pure a => exact hp
  | throw e => exact hg e
  | call c k ih => exact ⟨hp.1, fun r => ih r (hp.2 r)⟩

theorem ofExcept {r : Except ε α} (h : ∀ a, r = .ok a → post a) :
    (Prog.ofExcept r : Prog C R ε α).Within ok post := by
  cases r with
  | ok a => exact h a rfl
  | error e => trivial

theorem perform {c : C} {post : R c → Prop} (hc : ok c) (h : ∀ a, post a) :
    (Prog.perform c : Prog C R ε (R c)).Within ok post :=
  ⟨hc, fun _ => ofExcept fun a _ => h a⟩

/-- What every call of a kind preserves holds after a program of such calls. -/
theorem preserves {p : Prog C R ε α} (hp : p.Within ok post) {h : Handler C R ε σ} {I : σ → Prop}
    (hcall : ∀ c s, ok c → I s → I (h c s).2) {s : σ} (hI : I s) : I (p.run h s).2 := by
  induction p generalizing s with
  | pure a => exact hI
  | throw e => exact hI
  | call c k ih => exact ih _ (hp.2 _) (hcall c s hp.1 hI)

/-- The calls a run makes are calls of the program. -/
theorem calls {p : Prog C R ε α} (hp : p.Within ok post) {h : Handler C R ε σ} {s : σ} :
    ∀ c ∈ p.calls h s, ok c := by
  induction p generalizing s with
  | pure a => exact fun c hc => nomatch hc
  | throw e => exact fun c hc => nomatch hc
  | call d k ih =>
    intro c hc
    rcases List.mem_cons.mp hc with rfl | hrest
    · exact hp.1
    · exact ih _ (hp.2 _) c hrest

/-- A run returns one of the values of the program. -/
theorem returned {p : Prog C R ε α} (hp : p.Within ok post) {h : Handler C R ε σ} {s : σ} {a : α}
    (hrun : (p.run h s).1 = .ok a) : post a := by
  induction p generalizing s with
  | pure b =>
    cases hrun
    exact hp
  | throw e => cases hrun
  | call c k ih => exact ih _ (hp.2 _) hrun

end Within

end Prog

/-! ## Triples -/

/-- From every state satisfying `P`, the run of `p` ends with an outcome and a
state satisfying `Q`. -/
def Triple (h : Handler C R ε σ) (P : σ → Prop) (p : Prog C R ε α)
    (Q : Except ε α → σ → Prop) : Prop :=
  ∀ s, P s → Q (p.run h s).1 (p.run h s).2

namespace Triple

variable {h : Handler C R ε σ} {P P' : σ → Prop} {Q Q' : Except ε α → σ → Prop}

theorem pure {a : α} (hq : ∀ s, P s → Q (.ok a) s) :
    Triple h P (.pure a : Prog C R ε α) Q := hq

theorem throw {e : ε} (hq : ∀ s, P s → Q (.error e) s) :
    Triple h P (.throw e : Prog C R ε α) Q := hq

theorem weaken {p : Prog C R ε α} (hp : Triple h P' p Q')
    (hpre : ∀ s, P s → P' s) (hpost : ∀ r s, Q' r s → Q r s) : Triple h P p Q :=
  fun s hs => hpost _ _ (hp s (hpre s hs))

/-- A part of the precondition that does not mention the state. -/
theorem of_prop {p : Prog C R ε α} {φ : Prop} (hp : φ → Triple h P p Q) :
    Triple h (fun s => P s ∧ φ) p Q :=
  fun s hs => hp hs.2 s hs.1

/-- One call, then the continuation on what it gave. -/
theorem call {c : C} {k : Except ε (R c) → Prog C R ε α}
    {M : Except ε (R c) → σ → Prop}
    (hc : ∀ s, P s → M (h c s).1 (h c s).2) (hk : ∀ r, Triple h (M r) (k r) Q) :
    Triple h P (.call c k) Q :=
  fun s hs => hk _ _ (hc s hs)

theorem perform {c : C} {Q : Except ε (R c) → σ → Prop}
    (hc : ∀ s, P s → Q (h c s).1 (h c s).2) : Triple h P (Prog.perform c) Q := by
  intro s hs
  rw [Prog.run_perform]
  exact hc s hs

/-- The rule of sequencing: an exception of the first part ends the whole. -/
theorem bind {p : Prog C R ε α} {f : α → Prog C R ε β} {M : Except ε α → σ → Prop}
    {Q : Except ε β → σ → Prop} (hp : Triple h P p M)
    (hf : ∀ a, Triple h (M (.ok a)) (f a) Q)
    (he : ∀ e s, M (.error e) s → Q (.error e) s) : Triple h P (p.bind f) Q := by
  intro s hs
  have hm := hp s hs
  rw [Prog.run_bind]
  rcases hr : p.run h s with ⟨r, s'⟩
  rw [hr] at hm
  cases r with
  | ok a => exact hf a s' hm
  | error e => exact he e s' hm

/-- The rule of `try`/`except`. -/
theorem tryCatch {p : Prog C R ε α} {g : ε → Prog C R ε α} {M : Except ε α → σ → Prop}
    (hp : Triple h P p M) (hok : ∀ a s, M (.ok a) s → Q (.ok a) s)
    (hg : ∀ e, Triple h (M (.error e)) (g e) Q) : Triple h P (p.tryCatch g) Q := by
  intro s hs
  have hm := hp s hs
  rw [Prog.run_tryCatch]
  rcases hr : p.run h s with ⟨r, s'⟩
  rw [hr] at hm
  cases r with
  | ok a => exact hok a s' hm
  | error e => exact hg e s' hm

end Triple

end Effect
