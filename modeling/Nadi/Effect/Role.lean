import Nadi.Effect.Interleave

/-!
# Roles: what a thread may do next, given its own past

A *role* is an automaton over the calls of one thread: a local state, the calls
it permits there, and how it moves on the outcome of a call. A program `Plays`
a role when each of its calls is permitted, whatever the calls return; this is
a property of the program text alone, proved by recursion on it, with no
reference to other threads.

The local state of a thread is a function of the trace, so an invariant of a
whole system may mention it. `roles_invariant` is the rule used everywhere: a
fact about points that every *permitted* call preserves holds along every
interleaving of programs that play their roles. `Plays.returned` and
`Plays.raised` give what the end of a program says about its own past.
-/

namespace Effect

variable {ι C : Type} {R : C → Type} {ε σ α β Q : Type}

/-- The protocol of one thread. -/
structure Role (Q C : Type) (R : C → Type) (ε : Type) : Type where
  init : Q
  may : Q → C → Prop
  next : Q → (c : C) → Except ε (R c) → Q

namespace Role

/-- Every call of `p`, started in local state `q`, is permitted, and `p` ends
in a local state that satisfies `post`. The outcomes range over those the
handler has in any shared state. -/
def Plays (ρ : Role Q C R ε) (h : Handler C R ε σ) (post : Q → Except ε α → Prop) :
    Prog C R ε α → Q → Prop
  | .pure a, q => post q (.ok a)
  | .throw e, q => post q (.error e)
  | .call c k, q => ρ.may q c ∧ ∀ s, Plays ρ h post (k (h c s).1) (ρ.next q c (h c s).1)

namespace Plays

variable {ρ : Role Q C R ε} {h : Handler C R ε σ} {post : Q → Except ε α → Prop} {q : Q}

theorem weaken {p : Prog C R ε α} {post' : Q → Except ε α → Prop}
    (hp : ρ.Plays h post' p q) (hpost : ∀ q r, post' q r → post q r) :
    ρ.Plays h post p q := by
  induction p generalizing q with
  | pure a => exact hpost _ _ hp
  | throw e => exact hpost _ _ hp
  | call c k ih => exact ⟨hp.1, fun s => ih _ (hp.2 s)⟩

/-- A program plays where its calls are permitted in every local state of a
kind that they keep. -/
theorem of_kept {ok : C → Prop} {value : α → Prop} {p : Prog C R ε α} {I : Q → Prop}
    (hp : p.Within ok value) (hq : I q) (hmay : ∀ q c, I q → ok c → ρ.may q c)
    (hnext : ∀ q c r, I q → ok c → I (ρ.next q c r)) :
    ρ.Plays h (fun q' r => I q' ∧ ∀ a, r = .ok a → value a) p q := by
  induction p generalizing q with
  | pure a =>
    refine ⟨hq, fun b hb => ?_⟩
    cases hb
    exact hp
  | throw e => exact ⟨hq, fun b hb => nomatch hb⟩
  | call c k ih => exact ⟨hmay q c hq hp.1, fun s => ih _ (hp.2 _) (hnext q c _ hq hp.1)⟩

/-- A program plays where its calls are always permitted. -/
theorem of_calls {ok : C → Prop} {value : α → Prop} {p : Prog C R ε α}
    (hp : p.Within ok value) (hmay : ∀ q c, ok c → ρ.may q c) (hpost : ∀ q r, post q r) :
    ρ.Plays h post p q :=
  (of_kept (I := fun _ => True) hp trivial (fun q c _ => hmay q c) fun _ _ _ _ _ => trivial).weaken
    fun q r _ => hpost q r

/-- Where every call is permitted, every program plays. -/
theorem of_free (hmay : ∀ q c, ρ.may q c) (hpost : ∀ q r, post q r) (p : Prog C R ε α) :
    ρ.Plays h post p q :=
  of_calls (.any p) (fun q c _ => hmay q c) hpost

/-- A program whose calls do not concern the role leaves the local state alone. -/
theorem of_within {ok : C → Prop} {value : α → Prop} {p : Prog C R ε α}
    (hp : p.Within ok value) (hmay : ∀ c, ok c → ρ.may q c)
    (hnext : ∀ c r, ok c → ρ.next q c r = q) :
    ρ.Plays h (fun q' r => q' = q ∧ ∀ a, r = .ok a → value a) p q := by
  refine of_kept (I := (· = q)) hp rfl ?_ ?_
  · rintro _ c rfl hc
    exact hmay c hc
  · rintro _ c r rfl hc
    exact hnext c r hc

/-- Sequencing: an exception of the first part ends the whole. -/
theorem bind {p : Prog C R ε α} {f : α → Prog C R ε β} {M : Q → Except ε α → Prop}
    {post : Q → Except ε β → Prop} (hp : ρ.Plays h M p q)
    (hok : ∀ q a, M q (.ok a) → ρ.Plays h post (f a) q)
    (herr : ∀ q e, M q (.error e) → post q (.error e)) :
    ρ.Plays h post (p.bind f) q := by
  induction p generalizing q with
  | pure a => exact hok _ _ hp
  | throw e => exact herr _ _ hp
  | call c k ih => exact ⟨hp.1, fun s => ih _ (hp.2 s)⟩

/-- `try`/`except`: the handler takes over where the body raised. -/
theorem tryCatch {p : Prog C R ε α} {g : ε → Prog C R ε α} {M : Q → Except ε α → Prop}
    (hp : ρ.Plays h M p q) (hok : ∀ q a, M q (.ok a) → post q (.ok a))
    (hg : ∀ q e, M q (.error e) → ρ.Plays h post (g e) q) :
    ρ.Plays h post (p.tryCatch g) q := by
  induction p generalizing q with
  | pure a => exact hok _ _ hp
  | throw e => exact hg _ _ hp
  | call c k ih => exact ⟨hp.1, fun s => ih _ (hp.2 s)⟩

/-- One call whose exception propagates. -/
theorem perform {c : C} {post : Q → Except ε (R c) → Prop} (hmay : ρ.may q c)
    (hpost : ∀ s, post (ρ.next q c (h c s).1) (h c s).1) :
    ρ.Plays h post (Prog.perform c) q := by
  refine ⟨hmay, fun s => ?_⟩
  have hs := hpost s
  cases hr : (h c s).1 with
  | ok a =>
    rw [hr] at hs
    exact hs
  | error e =>
    rw [hr] at hs
    exact hs

/-- One call, then the rest on what it returned. -/
theorem perform_bind {c : C} {f : R c → Prog C R ε α} (hmay : ρ.may q c)
    (hok : ∀ s a, (h c s).1 = .ok a → ρ.Plays h post (f a) (ρ.next q c (.ok a)))
    (herr : ∀ s e, (h c s).1 = .error e → post (ρ.next q c (.error e)) (.error e)) :
    ρ.Plays h post ((Prog.perform c).bind f) q := by
  refine ⟨hmay, fun s => ?_⟩
  cases hr : (h c s).1 with
  | ok a => exact hok s a hr
  | error e => exact herr s e hr

/-- A pure computation that may raise, then the rest on its value. -/
theorem ofExcept_bind {r : Except ε α} {f : α → Prog C R ε β} {post : Q → Except ε β → Prop}
    (hok : ∀ a, r = .ok a → ρ.Plays h post (f a) q)
    (herr : ∀ e, r = .error e → post q (.error e)) :
    ρ.Plays h post ((Prog.ofExcept r).bind f) q := by
  cases r with
  | ok a => exact hok a rfl
  | error e => exact herr e rfl

end Plays

/-! ## Local states along a run -/

section Run

variable [DecidableEq ι] (role : ι → Role Q C R ε)

/-- One entry of the trace moves the thread that made it. -/
def track (i : ι) (q : Q) (e : Entry ι C R ε) : Q :=
  if e.thread = i then (role i).next q e.call e.result else q

/-- The local state of thread `i` after a trace. -/
def localAt (tr : List (Entry ι C R ε)) (i : ι) : Q :=
  tr.foldl (track role i) (role i).init

@[simp] theorem localAt_nil (i : ι) : localAt role [] i = (role i).init := rfl

theorem localAt_append (tr : List (Entry ι C R ε)) (e : Entry ι C R ε) :
    localAt role (tr ++ [e]) =
      Function.update (localAt role tr) e.thread
        ((role e.thread).next (localAt role tr e.thread) e.call e.result) := by
  funext i
  show (tr ++ [e]).foldl (track role i) (role i).init = _
  rw [List.foldl_append]
  show track role i (localAt role tr i) e = _
  unfold track
  by_cases hi : e.thread = i
  · subst hi
    rw [if_pos rfl, Function.update_self]
  · rw [if_neg hi, Function.update_of_ne (Ne.symm hi)]

/-- A call moves the local state of its thread only. -/
theorem localAt_after (h : Handler C R ε σ) (w : Point ι C R ε σ) (i : ι) (c : C) :
    localAt role (w.after h i c).trace =
      Function.update (localAt role w.trace) i
        ((role i).next (localAt role w.trace i) c (h c w.state).1) :=
  localAt_append role _ _

variable {role} {S : System ι C R ε σ} {post : ι → Q → Except ε α → Prop}
  {cfg cfg' : Config ι C R ε σ α}

/-- Every thread plays the rest of its role. -/
def AllPlay (role : ι → Role Q C R ε) (h : Handler C R ε σ)
    (post : ι → Q → Except ε α → Prop) (cfg : Config ι C R ε σ α) : Prop :=
  ∀ i, (role i).Plays h (post i) (cfg.threads i) (localAt role cfg.point.trace i)

/-- A step keeps every thread in its role, and was permitted. -/
theorem AllPlay.step (hp : AllPlay role S.handler post cfg) (hs : Step S cfg cfg') :
    AllPlay role S.handler post cfg' := by
  cases hs with
  | @act i c k hi ha =>
    have hplay := hp i
    rw [hi] at hplay
    intro j
    show (role j).Plays S.handler (post j) (Function.update cfg.threads i _ j)
      (localAt role (cfg.point.trace ++ [_]) j)
    rw [localAt_append]
    by_cases hj : j = i
    · subst hj
      rw [Function.update_self, Function.update_self]
      exact hplay.2 _
    · rw [Function.update_of_ne hj, Function.update_of_ne hj]
      exact hp j
  | env he => exact hp

/-- Programs that play their roles keep playing them along every run. -/
theorem AllPlay.reach (hp : AllPlay role S.handler post cfg) (hr : Reach S cfg cfg') :
    AllPlay role S.handler post cfg' :=
  hr.invariant (I := AllPlay role S.handler post) hp fun _ _ ha hs => ha.step hs

/-- **Invariants of roles.** A fact about points that every permitted call and
every step of the environment preserves holds along every run of programs that
play their roles. -/
theorem roles_invariant {P : Point ι C R ε σ → Prop}
    (hp : AllPlay role S.handler post cfg) (hr : Reach S cfg cfg') (h0 : P cfg.point)
    (hcall : ∀ w i c, P w → (role i).may (localAt role w.trace i) c → S.allow w i c →
      P (w.after S.handler i c))
    (henv : ∀ w s', P w → S.env w.state s' → P ⟨w.trace, s'⟩) : P cfg'.point := by
  refine (hr.invariant
    (I := fun c => AllPlay role S.handler post c ∧ P c.point) ⟨hp, h0⟩ ?_).2
  rintro a b ⟨hplay, hpt⟩ hs
  refine ⟨hplay.step hs, ?_⟩
  cases hs with
  | @act i c k hi ha =>
    have hi' := hplay i
    rw [hi] at hi'
    exact hcall _ _ _ hpt hi'.1 ha
  | env he => exact henv _ _ hpt he

/-- What a thread that has returned says about its past. -/
theorem AllPlay.returned (hp : AllPlay role S.handler post cfg) {i : ι} {a : α}
    (hi : cfg.threads i = .pure a) : post i (localAt role cfg.point.trace i) (.ok a) := by
  have hplay := hp i
  rw [hi] at hplay
  exact hplay

/-- What a thread that has raised says about its past. -/
theorem AllPlay.raised (hp : AllPlay role S.handler post cfg) {i : ι} {e : ε}
    (hi : cfg.threads i = .throw e) : post i (localAt role cfg.point.trace i) (.error e) := by
  have hplay := hp i
  rw [hi] at hplay
  exact hplay

end Run

end Role

end Effect
