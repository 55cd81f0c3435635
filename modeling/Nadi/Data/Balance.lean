import Mathlib.Algebra.BigOperators.Group.Finset.Piecewise
import Mathlib.Algebra.BigOperators.Ring.Finset
import Mathlib.Algebra.Order.BigOperators.Group.Finset
import Mathlib.Algebra.Order.Ring.Int

/-!
# Filling the emptiest first

Counters that only grow, each with a bound. Whoever takes one takes it of a
counter that has room and that no counter with room is below (`Emptiest`). Then
the counters stay within their bounds and level (`Filled.balanced`): one that is
ahead of another by more than one stands beside a full one. And since the
taking goes on for as long as there is room anywhere, they are all full exactly
when as many have been taken as the bounds make up (`Filled.all_full_iff`).
-/

namespace Data.Balance

variable {κ : Type}

/-- A counter is full at its bound. -/
def Full (bound : κ → ℤ) (used : κ → ℕ) (k : κ) : Prop := bound k ≤ used k

/-- Within the bounds, and level up to one: where there is room, nobody is ahead
by more. -/
structure Balanced (bound : κ → ℤ) (used : κ → ℕ) : Prop where
  within : ∀ k, (used k : ℤ) ≤ bound k
  level : ∀ i j, ¬ Full bound used j → used i ≤ used j + 1

/-- A counter with room, and no counter with room is below it. -/
structure Emptiest (bound : κ → ℤ) (used : κ → ℕ) (k : κ) : Prop where
  room : ¬ Full bound used k
  least : ∀ j, ¬ Full bound used j → used k ≤ used j

variable [DecidableEq κ]

/-- Take one of a counter. -/
def take (used : κ → ℕ) (k : κ) : κ → ℕ := fun i => if i = k then used i + 1 else used i

theorem take_self (used : κ → ℕ) (k : κ) : take used k k = used k + 1 := if_pos rfl

theorem take_of_ne (used : κ → ℕ) {k i : κ} (h : i ≠ k) : take used k i = used i := if_neg h

theorem le_take (used : κ → ℕ) (k i : κ) : used i ≤ take used k i := by
  unfold take
  split <;> omega

variable {bound : κ → ℤ} {used : κ → ℕ} {k : κ} {n : ℕ}

omit [DecidableEq κ] in
theorem balanced_zero (h : ∀ k, 0 ≤ bound k) : Balanced bound fun _ => 0 where
  within := h
  level := fun _ _ _ => by omega

/-- A counter that is full stays full. -/
theorem Full.take {i : κ} (h : Full bound used i) : Full bound (take used k) i := by
  have hle := le_take used k i
  unfold Full at h ⊢
  omega

/-- Taking of an emptiest counter keeps the balance. -/
theorem Balanced.take (h : Balanced bound used) (hk : Emptiest bound used k) :
    Balanced bound (take used k) where
  within := by
    intro i
    by_cases hi : i = k
    · subst hi
      have hroom := hk.room
      unfold Full at hroom
      rw [take_self]
      omega
    · rw [take_of_ne used hi]
      exact h.within i
  level := by
    intro i j hj
    have hroom : ¬ Full bound used j := fun hfull => hj hfull.take
    have hgrown := le_take used k j
    by_cases hi : i = k
    · -- the counter taken of was not above `j`
      subst hi
      have hleast := hk.least j hroom
      rw [take_self]
      omega
    · have hlevel := h.level i j hroom
      rw [take_of_ne used hi]
      omega

/-- The counters after `n` takings, each of an emptiest one. -/
inductive Filled (bound : κ → ℤ) : ℕ → (κ → ℕ) → Prop where
  | zero : Filled bound 0 fun _ => 0
  | take {n : ℕ} {used : κ → ℕ} {k : κ} (h : Filled bound n used)
      (hk : Emptiest bound used k) : Filled bound (n + 1) (take used k)

/-- **The balance.** -/
theorem Filled.balanced (h : Filled bound n used) (hbound : ∀ k, 0 ≤ bound k) :
    Balanced bound used := by
  induction h with
  | zero => exact balanced_zero hbound
  | take h hk ih => exact ih.take hk

variable {s : Finset κ}

theorem sum_take (hk : k ∈ s) : ∑ i ∈ s, take used k i = ∑ i ∈ s, used i + 1 := by
  have hpoint : ∀ i ∈ s, take used k i = used i + if i = k then 1 else 0 := by
    intro i _
    unfold take
    split <;> rfl
  rw [Finset.sum_congr rfl hpoint, Finset.sum_add_distrib, Finset.sum_ite_eq', if_pos hk]

/-- Where a counter outside `s` is always full, what has been taken is in `s`. -/
theorem Filled.sum (h : Filled bound n used) (hout : ∀ k, k ∉ s → bound k ≤ 0) :
    ∑ i ∈ s, used i = n := by
  induction h with
  | zero => exact Finset.sum_const_zero
  | @take n used k h hk ih =>
    have hmem : k ∈ s := by
      by_contra hne
      have hzero := hout k hne
      have hroom := hk.room
      unfold Full at hroom
      omega
    rw [sum_take hmem, ih]

/-- **All capacity is used.** -/
theorem Filled.all_full_iff (h : Filled bound n used) (hbound : ∀ k, 0 ≤ bound k)
    (hout : ∀ k, k ∉ s → bound k ≤ 0) :
    (∀ k, Full bound used k) ↔ ∑ i ∈ s, bound i ≤ n := by
  have hwithin := (h.balanced hbound).within
  have hsum : ((n : ℕ) : ℤ) = ∑ i ∈ s, (used i : ℤ) := by
    rw [← h.sum hout]
    exact Nat.cast_sum s used
  rw [hsum]
  constructor
  · exact fun hfull => Finset.sum_le_sum fun i _ => hfull i
  · intro hle k
    by_cases hk : k ∈ s
    · -- sums of terms within their bounds are equal only term by term
      have hsame := (Finset.sum_eq_sum_iff_of_le fun i _ => hwithin i).mp
        (le_antisymm (Finset.sum_le_sum fun i _ => hwithin i) hle)
      exact (hsame k hk).ge
    · have hzero := hout k hk
      unfold Full
      omega

end Data.Balance
