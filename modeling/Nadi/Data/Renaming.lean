import Mathlib.Order.Basic
import Mathlib.Order.Lattice

/-!
# Renamings

Two histories that number the same things from counters of their own agree up to
a renaming: a correspondence of numbers that keeps their order, and so is one to
one. It grows as both counters hand out a new number.
-/

namespace Data

/-- A correspondence of members of two orders that keeps their order. -/
structure Renaming (α β : Type) [LinearOrder α] [LinearOrder β] where
  rel : α → β → Prop
  lt_iff : ∀ {a a' b b'}, rel a b → rel a' b' → (a < a' ↔ b < b')

namespace Renaming

variable {α β : Type} [LinearOrder α] [LinearOrder β] {r r' : Renaming α β} {a a' : α} {b b' : β}

/-- It is one to one. -/
theorem eq_iff (r : Renaming α β) (h : r.rel a b) (h' : r.rel a' b') : a = a' ↔ b = b' := by
  have hlt := r.lt_iff h h'
  have hgt := r.lt_iff h' h
  constructor
  · rintro rfl
    exact le_antisymm (not_lt.mp fun hb => lt_irrefl a (hgt.mpr hb))
      (not_lt.mp fun hb => lt_irrefl a (hlt.mpr hb))
  · rintro rfl
    exact le_antisymm (not_lt.mp fun ha => lt_irrefl b (hgt.mp ha))
      (not_lt.mp fun ha => lt_irrefl b (hlt.mp ha))

/-- `r'` names all that `r` does, and maybe more. -/
instance : Preorder (Renaming α β) where
  le r r' := ∀ a b, r.rel a b → r'.rel a b
  le_refl _ _ _ h := h
  le_trans _ _ _ h h' a b hab := h' a b (h a b hab)

/-- The members below `n`, each by itself. -/
def below (n : α) : Renaming α α where
  rel a b := a < n ∧ a = b
  lt_iff := by
    rintro a a' b b' ⟨-, rfl⟩ ⟨-, rfl⟩
    exact Iff.rfl

/-- What it names is below the two counters. -/
def Bounded (r : Renaming α β) (m : α) (n : β) : Prop :=
  ∀ a b, r.rel a b → a < m ∧ b < n

theorem bounded_below (n : α) : (below n).Bounded n n := by
  rintro a b ⟨ha, rfl⟩
  exact ⟨ha, ha⟩

theorem Bounded.mono {m m' : α} {n n' : β} (h : r.Bounded m n) (hm : m ≤ m') (hn : n ≤ n') :
    r.Bounded m' n' :=
  fun a b hab => ⟨(h a b hab).1.trans_le hm, (h a b hab).2.trans_le hn⟩

/-- Both counters hand out a number, for the same thing. -/
def extend (r : Renaming α β) {m : α} {n : β} (h : r.Bounded m n) : Renaming α β where
  rel a b := r.rel a b ∨ a = m ∧ b = n
  lt_iff := by
    rintro a a' b b' (hab | ⟨rfl, rfl⟩) (hab' | ⟨rfl, rfl⟩)
    · exact r.lt_iff hab hab'
    · exact iff_of_true (h a b hab).1 (h a b hab).2
    · exact iff_of_false (h a' b' hab').1.not_gt (h a' b' hab').2.not_gt
    · exact iff_of_false (lt_irrefl _) (lt_irrefl _)

theorem le_extend {m : α} {n : β} (h : r.Bounded m n) : r ≤ r.extend h := fun _ _ => .inl

theorem extend_rel {m : α} {n : β} (h : r.Bounded m n) : (r.extend h).rel m n := .inr ⟨rfl, rfl⟩

theorem bounded_extend {m m' : α} {n n' : β} (h : r.Bounded m n) (hm : m < m') (hn : n < n') :
    (r.extend h).Bounded m' n' := by
  rintro a b (hab | ⟨rfl, rfl⟩)
  · exact h.mono hm.le hn.le a b hab
  · exact ⟨hm, hn⟩

end Renaming

end Data
