import Nadi.Effect.Role
import Mathlib.Algebra.BigOperators.Group.Finset.Basic
import Mathlib.Algebra.Order.BigOperators.Group.Finset

/-!
# What the threads still owe

A measure of a thread's local state says how much it may still do; a thread that
is over owes nothing. `owed` is the sum over the threads that have taken a step.
There may be infinitely many threads, but those that have not yet started are in
their initial state and owe nothing either. A call changes the sum by no more
than what it changes for its own thread (`owed_act`).
-/

namespace Effect

variable {ι C : Type} {R : C → Type} {ε σ α Q : Type}

/-- A program with no call left. -/
def Prog.over : Prog C R ε α → Bool
  | .call .. => false
  | _ => true

variable [DecidableEq ι]

/-- The threads that have taken a step. -/
def actors (tr : List (Entry ι C R ε)) : Finset ι := (tr.map Entry.thread).toFinset

theorem actors_append (tr : List (Entry ι C R ε)) (e : Entry ι C R ε) :
    actors (tr ++ [e]) = insert e.thread (actors tr) := by
  ext i
  simp [actors]

variable (role : ι → Role Q C R ε) (f : Q → ℕ)

namespace Role

/-- A thread that has taken no step is in its initial state. -/
theorem localAt_of_not_mem {tr : List (Entry ι C R ε)} {i : ι} (hi : i ∉ actors tr) :
    localAt role tr i = (role i).init := by
  induction tr using List.reverseRecOn with
  | nil => rfl
  | append_singleton tr e ih =>
    rw [actors_append, Finset.mem_insert, not_or] at hi
    rw [localAt_append, Function.update_of_ne hi.1, ih hi.2]

end Role

/-- What one thread owes. -/
def owes (cfg : Config ι C R ε σ α) (i : ι) : ℕ :=
  if (cfg.threads i).over then 0 else f (Role.localAt role cfg.point.trace i)

/-- What all of them owe. -/
def owed (cfg : Config ι C R ε σ α) : ℕ := ∑ i ∈ actors cfg.point.trace, owes role f cfg i

variable {role f} {h : Handler C R ε σ} {cfg : Config ι C R ε σ α} {i : ι} {c : C}
  {k : Except ε (R c) → Prog C R ε α}

theorem owes_le (j : ι) : owes role f cfg j ≤ f (Role.localAt role cfg.point.trace j) := by
  unfold owes
  split
  · exact Nat.zero_le _
  · exact Nat.le_refl _

/-- A call changes what its own thread owes. -/
theorem owes_act_of_ne {j : ι} (hj : j ≠ i) :
    owes role f (cfg.act h i c k) j = owes role f cfg j := by
  have hlocal : Role.localAt role (cfg.act h i c k).point.trace j =
      Role.localAt role cfg.point.trace j :=
    (congrFun (Role.localAt_append role cfg.point.trace _) j).trans (Function.update_of_ne hj _ _)
  have hthread : (cfg.act h i c k).threads j = cfg.threads j := Function.update_of_ne hj _ _
  unfold owes
  rw [hlocal, hthread]

/-- **A call in the ledger.** -/
theorem owed_act (hinit : ∀ i, f (role i).init = 0) (hi : cfg.threads i = .call c k) :
    owed role f (cfg.act h i c k) + f (Role.localAt role cfg.point.trace i) ≤
      owed role f cfg + f ((role i).next (Role.localAt role cfg.point.trace i) c
        (h c cfg.point.state).1) := by
  have hactors : actors (cfg.act h i c k).point.trace = insert i (actors cfg.point.trace) :=
    actors_append _ _
  have hbefore : owes role f cfg i = f (Role.localAt role cfg.point.trace i) := by
    unfold owes
    rw [hi]
    rfl
  have hafter : owes role f (cfg.act h i c k) i ≤ f ((role i).next
      (Role.localAt role cfg.point.trace i) c (h c cfg.point.state).1) := by
    have hlocal : Role.localAt role (cfg.act h i c k).point.trace i =
        (role i).next (Role.localAt role cfg.point.trace i) c (h c cfg.point.state).1 :=
      (congrFun (Role.localAt_append role cfg.point.trace _) i).trans (Function.update_self _ _ _)
    exact hlocal ▸ owes_le i
  -- before the call the thread may be counted as well, owing nothing if it is new
  have hcount : ∑ j ∈ insert i (actors cfg.point.trace), owes role f cfg j = owed role f cfg := by
    refine Finset.sum_insert_of_eq_zero_if_notMem fun hnew => ?_
    rw [hbefore, Role.localAt_of_not_mem role hnew, hinit]
  have hmem : i ∈ insert i (actors cfg.point.trace) := Finset.mem_insert_self _ _
  have hothers : ∑ j ∈ (insert i (actors cfg.point.trace)).erase i, owes role f (cfg.act h i c k) j =
      ∑ j ∈ (insert i (actors cfg.point.trace)).erase i, owes role f cfg j :=
    Finset.sum_congr rfl fun j hj => owes_act_of_ne (Finset.ne_of_mem_erase hj)
  rw [← Finset.add_sum_erase _ _ hmem, hbefore] at hcount
  unfold owed at hcount ⊢
  rw [hactors, ← Finset.add_sum_erase _ _ hmem, hothers]
  omega

/-- Before anything has happened nothing is owed. -/
theorem owed_start (programs : ι → Prog C R ε α) (s : σ) :
    owed role f (Config.start programs s) = 0 := Finset.sum_empty

end Effect
