import Nadi.Effect.Prog
import Mathlib.Logic.Relation

/-!
# Interleaved runs of programs

A *system* runs a family of programs, one for each thread `i : ι`, over one
shared state. A step lets any thread whose program is at a call perform that
call atomically, or lets the environment change the state. The family may be
infinite and a thread that has not yet taken a step has not yet started, so
every number of threads and every moment of arrival is covered.

Runs record a *trace*: which thread performed which call with which outcome.
Statements about what calls returned are statements about the trace.

- `System.allow` restricts the scheduler: a step is taken only where it allows
  it. `Runs` that meet a condition at every step are runs of such a system.
- `Reach.point_invariant`: a fact about trace and state that every call and
  every environment step preserves holds in every reachable configuration,
  whatever the programs are.
- `execute`: a computable scheduler; its results are reachable.
-/

namespace Effect

variable {ι C : Type} {R : C → Type} {ε σ α : Type}

/-- One performed call. -/
structure Entry (ι C : Type) (R : C → Type) (ε : Type) : Type where
  thread : ι
  call : C
  result : Except ε (R call)

/-- What has happened so far and what the shared state is now. -/
structure Point (ι C : Type) (R : C → Type) (ε σ : Type) : Type where
  trace : List (Entry ι C R ε)
  state : σ

/-- The point after thread `i` performs `c`. -/
def Point.after (h : Handler C R ε σ) (w : Point ι C R ε σ) (i : ι) (c : C) :
    Point ι C R ε σ :=
  ⟨w.trace ++ [⟨i, c, (h c w.state).1⟩], (h c w.state).2⟩

@[simp] theorem Point.after_trace (h : Handler C R ε σ) (w : Point ι C R ε σ) (i : ι)
    (c : C) : (w.after h i c).trace = w.trace ++ [⟨i, c, (h c w.state).1⟩] := rfl

@[simp] theorem Point.after_state (h : Handler C R ε σ) (w : Point ι C R ε σ) (i : ι)
    (c : C) : (w.after h i c).state = (h c w.state).2 := rfl

/-- An entry of the trace after a call is an old one or the call's own. -/
theorem Point.mem_after {h : Handler C R ε σ} {w : Point ι C R ε σ} {i j : ι} {c d : C}
    {r : Except ε (R d)} (hmem : (⟨j, d, r⟩ : Entry ι C R ε) ∈ (w.after h i c).trace) :
    (⟨j, d, r⟩ : Entry ι C R ε) ∈ w.trace ∨ (j = i ∧ d = c ∧ r = (h d w.state).1) := by
  rcases List.mem_append.mp hmem with hold | hnew
  · exact .inl hold
  · obtain ⟨rfl, rfl, hr⟩ := Entry.mk.inj (List.mem_singleton.mp hnew)
    exact .inr ⟨rfl, rfl, eq_of_heq hr⟩

/-- A shared state with its calls, its environment and its scheduler. -/
structure System (ι C : Type) (R : C → Type) (ε σ : Type) : Type where
  handler : Handler C R ε σ
  env : σ → σ → Prop
  allow : Point ι C R ε σ → ι → C → Prop := fun _ _ _ => True

/-- The remaining programs of all threads at a point. -/
structure Config (ι C : Type) (R : C → Type) (ε σ α : Type) : Type where
  threads : ι → Prog C R ε α
  point : Point ι C R ε σ

/-- The configuration in which `programs` are about to start from `s`. -/
def Config.start (programs : ι → Prog C R ε α) (s : σ) : Config ι C R ε σ α :=
  ⟨programs, ⟨[], s⟩⟩

variable [DecidableEq ι]

/-- Thread `i` performs `c` and continues with its outcome. -/
def Config.act (h : Handler C R ε σ) (cfg : Config ι C R ε σ α) (i : ι) (c : C)
    (k : Except ε (R c) → Prog C R ε α) : Config ι C R ε σ α :=
  ⟨Function.update cfg.threads i (k (h c cfg.point.state).1), cfg.point.after h i c⟩

/-- One step of a system. -/
inductive Step (S : System ι C R ε σ) :
    Config ι C R ε σ α → Config ι C R ε σ α → Prop where
  | act {cfg : Config ι C R ε σ α} {i : ι} {c : C} {k : Except ε (R c) → Prog C R ε α}
      (hi : cfg.threads i = .call c k) (ha : S.allow cfg.point i c) :
      Step S cfg (cfg.act S.handler i c k)
  | env {cfg : Config ι C R ε σ α} {s' : σ} (he : S.env cfg.point.state s') :
      Step S cfg ⟨cfg.threads, ⟨cfg.point.trace, s'⟩⟩

/-- `cfg'` is reached from `cfg` by some interleaving. -/
def Reach (S : System ι C R ε σ) (cfg cfg' : Config ι C R ε σ α) : Prop :=
  Relation.ReflTransGen (Step S) cfg cfg'

namespace Reach

variable {S : System ι C R ε σ} {cfg cfg' : Config ι C R ε σ α}

/-- An invariant of the steps holds in every configuration reached. -/
theorem invariant {I : Config ι C R ε σ α → Prop} (h : Reach S cfg cfg') (h0 : I cfg)
    (hstep : ∀ a b, I a → Step S a b → I b) : I cfg' := by
  induction h with
  | refl => exact h0
  | tail _ hs ih => exact hstep _ _ ih hs

/-- What comes to hold along a run does so at one of its steps. -/
theorem turn {P : Config ι C R ε σ α → Prop} (h : Reach S cfg cfg') (h0 : ¬ P cfg)
    (h1 : P cfg') : ∃ a b, Reach S cfg a ∧ Step S a b ∧ Reach S b cfg' ∧ ¬ P a ∧ P b := by
  induction h with
  | refl => exact absurd h1 h0
  | @tail b c hb hs ih =>
    by_cases hP : P b
    · obtain ⟨a, d, ha, hd, hrest, hbefore, hafter⟩ := ih hP
      exact ⟨a, d, ha, hd, Relation.ReflTransGen.tail hrest hs, hbefore, hafter⟩
    · exact ⟨b, c, hb, hs, Relation.ReflTransGen.refl, hP, h1⟩

/-- A fact that every call of every thread and every environment step preserves
holds in every configuration reached, whatever the programs are. -/
theorem point_invariant {P : Point ι C R ε σ → Prop} (h : Reach S cfg cfg')
    (h0 : P cfg.point)
    (hcall : ∀ w i c, P w → S.allow w i c → P (w.after S.handler i c))
    (henv : ∀ w s', P w → S.env w.state s' → P ⟨w.trace, s'⟩) : P cfg'.point := by
  refine invariant (I := fun c => P c.point) h h0 ?_
  intro a b ha hs
  cases hs with
  | act hi hal => exact hcall _ _ _ ha hal
  | env he => exact henv _ _ ha he

end Reach

/-- `cfg'` is reached from `cfg` by steps each of which meets a condition. -/
def ReachWhere (S : System ι C R ε σ) (ok : Config ι C R ε σ α → Config ι C R ε σ α → Prop)
    (cfg cfg' : Config ι C R ε σ α) : Prop :=
  Relation.ReflTransGen (fun a b => Step S a b ∧ ok a b) cfg cfg'

theorem ReachWhere.reach {S : System ι C R ε σ}
    {ok : Config ι C R ε σ α → Config ι C R ε σ α → Prop} {cfg cfg' : Config ι C R ε σ α}
    (h : ReachWhere S ok cfg cfg') : Reach S cfg cfg' :=
  h.lift id fun _ _ hs => hs.1

/-! ## One thread to its end -/

/-- How a program ends. -/
def Prog.ended : Except ε α → Prog C R ε α
  | .ok a => .pure a
  | .error e => .throw e

/-- Where the scheduler is unrestricted, a thread can run to its end while the
others wait. -/
theorem reach_run {S : System ι C R ε σ} (hall : ∀ w i c, S.allow w i c)
    (i : ι) (p : Prog C R ε α) (cfg : Config ι C R ε σ α) (hi : cfg.threads i = p) :
    ∃ tr, Reach S cfg ⟨Function.update cfg.threads i
      (Prog.ended (p.run S.handler cfg.point.state).1),
      ⟨tr, (p.run S.handler cfg.point.state).2⟩⟩ := by
  induction p generalizing cfg with
  | pure a =>
    have hsame : Function.update cfg.threads i (.pure a) = cfg.threads := by
      rw [← hi, Function.update_eq_self]
    refine ⟨cfg.point.trace, ?_⟩
    show Reach S cfg ⟨Function.update cfg.threads i (.pure a), cfg.point⟩
    rw [hsame]
    exact Relation.ReflTransGen.refl
  | throw e =>
    have hsame : Function.update cfg.threads i (.throw e) = cfg.threads := by
      rw [← hi, Function.update_eq_self]
    refine ⟨cfg.point.trace, ?_⟩
    show Reach S cfg ⟨Function.update cfg.threads i (.throw e), cfg.point⟩
    rw [hsame]
    exact Relation.ReflTransGen.refl
  | call c k ih =>
    obtain ⟨tr, hrest⟩ := ih _ (cfg.act S.handler i c k) (Function.update_self _ _ _)
    have hidem : Function.update (cfg.act S.handler i c k).threads i =
        Function.update cfg.threads i := by
      funext p
      exact Function.update_idem _ _ _
    rw [hidem] at hrest
    exact ⟨tr, Relation.ReflTransGen.head (Step.act hi (hall _ _ _)) hrest⟩

/-! ## A computable scheduler -/

/-- Let the threads of a schedule step in turn; a finished thread is skipped. -/
def execute (h : Handler C R ε σ) : List ι → Config ι C R ε σ α → Config ι C R ε σ α
  | [], cfg => cfg
  | i :: rest, cfg =>
    match cfg.threads i with
    | .call c k => execute h rest (cfg.act h i c k)
    | _ => execute h rest cfg

/-- A schedule is a run where the scheduler allows whatever meets an invariant
of the calls. -/
theorem reach_execute_of {S : System ι C R ε σ} {I : Point ι C R ε σ → Prop}
    (hall : ∀ w i c, I w → S.allow w i c) (hstep : ∀ w i c, I w → I (w.after S.handler i c)) :
    ∀ (is : List ι) (cfg : Config ι C R ε σ α), I cfg.point →
      Reach S cfg (execute S.handler is cfg)
  | [], cfg, _ => Relation.ReflTransGen.refl
  | i :: rest, cfg, hI => by
    unfold execute
    cases hi : cfg.threads i with
    | pure a => exact reach_execute_of hall hstep rest cfg hI
    | throw e => exact reach_execute_of hall hstep rest cfg hI
    | call c k =>
      exact Relation.ReflTransGen.head (Step.act hi (hall _ _ _ hI))
        (reach_execute_of hall hstep rest _ (hstep _ _ _ hI))

/-- Where the scheduler is unrestricted, every schedule is a run. -/
theorem reach_execute {S : System ι C R ε σ} (hall : ∀ w i c, S.allow w i c)
    (is : List ι) (cfg : Config ι C R ε σ α) : Reach S cfg (execute S.handler is cfg) :=
  reach_execute_of (I := fun _ => True) (fun w i c _ => hall w i c) (fun _ _ _ _ => trivial)
    is cfg trivial

/-- Every call of a schedule passes a test. -/
def permits (h : Handler C R ε σ) (ok : Point ι C R ε σ → ι → C → Bool) :
    List ι → Config ι C R ε σ α → Bool
  | [], _ => true
  | i :: rest, cfg =>
    match cfg.threads i with
    | .call c k => ok cfg.point i c && permits h ok rest (cfg.act h i c k)
    | _ => permits h ok rest cfg

/-- A schedule all of whose calls the scheduler allows is a run. -/
theorem reach_execute_permits {S : System ι C R ε σ} {ok : Point ι C R ε σ → ι → C → Bool}
    (hok : ∀ w i c, ok w i c = true → S.allow w i c) :
    ∀ (is : List ι) (cfg : Config ι C R ε σ α), permits S.handler ok is cfg = true →
      Reach S cfg (execute S.handler is cfg)
  | [], _, _ => Relation.ReflTransGen.refl
  | i :: rest, cfg, h => by
    unfold permits at h
    unfold execute
    cases hi : cfg.threads i with
    | pure a =>
      rw [hi] at h
      exact reach_execute_permits hok rest cfg h
    | throw e =>
      rw [hi] at h
      exact reach_execute_permits hok rest cfg h
    | call c k =>
      rw [hi] at h
      obtain ⟨hcall, hrest⟩ := Bool.and_eq_true_iff.mp h
      exact Relation.ReflTransGen.head (Step.act hi (hok _ _ _ hcall))
        (reach_execute_permits hok rest _ hrest)

/-- Every call of a schedule passes a test of the configuration before it. -/
def passes (h : Handler C R ε σ) (test : Config ι C R ε σ α → ι → C → Bool) :
    List ι → Config ι C R ε σ α → Bool
  | [], _ => true
  | i :: rest, cfg =>
    match cfg.threads i with
    | .call c k => test cfg i c && passes h test rest (cfg.act h i c k)
    | _ => passes h test rest cfg

/-- A schedule all of whose steps meet a condition. -/
theorem reachWhere_execute {S : System ι C R ε σ} (hall : ∀ w i c, S.allow w i c)
    {ok : Config ι C R ε σ α → Config ι C R ε σ α → Prop}
    {test : Config ι C R ε σ α → ι → C → Bool}
    (hok : ∀ cfg i c k, test cfg i c = true → ok cfg (cfg.act S.handler i c k)) :
    ∀ (is : List ι) (cfg : Config ι C R ε σ α), passes S.handler test is cfg = true →
      ReachWhere S ok cfg (execute S.handler is cfg)
  | [], _, _ => Relation.ReflTransGen.refl
  | i :: rest, cfg, h => by
    unfold passes at h
    unfold execute
    cases hi : cfg.threads i with
    | pure a =>
      rw [hi] at h
      exact reachWhere_execute hall hok rest cfg h
    | throw e =>
      rw [hi] at h
      exact reachWhere_execute hall hok rest cfg h
    | call c k =>
      rw [hi] at h
      obtain ⟨hcall, hrest⟩ := Bool.and_eq_true_iff.mp h
      exact Relation.ReflTransGen.head ⟨Step.act hi (hall _ _ _), hok _ _ _ _ hcall⟩
        (reachWhere_execute hall hok rest _ hrest)

end Effect
