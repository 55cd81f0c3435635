import Mathlib.Data.List.Sort
import Mathlib.Order.Defs.LinearOrder

/-!
# Sorting by keys

- `mergeSort_eq_insertionSort`: both sorts are stable, so they agree for every
  total preorder, also where two elements may be equal in it.
- `head?_insertionSort_lex`: sorting by a minor key and then by a major one puts
  the same element first as sorting by both.
-/

namespace Data.Sorting

variable {α : Type}

/-! ## Two stable sorts -/

section Stable

variable {le : α → α → Bool}

theorem orderedInsert_append {a : α} {l l' : List α} (hl : ∀ b ∈ l, le a b = false)
    (hl' : ∀ b ∈ l', le a b = true) :
    (l ++ l').orderedInsert (fun a b => le a b = true) a = l ++ a :: l' := by
  induction l with
  | nil =>
    cases l' with
    | nil => rfl
    | cons b l' => exact List.orderedInsert_cons_of_le _ _ (hl' b List.mem_cons_self)
  | cons b l ih =>
    have hb : ¬ le a b = true := by simp [hl b List.mem_cons_self]
    have hrest := ih fun c hc => hl c (List.mem_cons_of_mem _ hc)
    rw [List.cons_append, List.orderedInsert_of_not_le (r := fun a b => le a b = true) _ hb, hrest]
    rfl

theorem mergeSort_eq_insertionSort (htrans : ∀ a b c : α, le a b → le b c → le a c)
    (htotal : ∀ a b : α, le a b || le b a) (l : List α) :
    l.mergeSort le = l.insertionSort fun a b => le a b = true := by
  induction l with
  | nil => exact List.mergeSort_nil
  | cons a l ih =>
    obtain ⟨l₁, l₂, hsort, hrest, hbefore⟩ := List.mergeSort_cons htrans htotal a l
    have hsorted := List.pairwise_mergeSort htrans htotal (a :: l)
    rw [hsort, List.pairwise_append, List.pairwise_cons] at hsorted
    rw [List.insertionSort_cons, ← ih, hrest, hsort]
    exact (orderedInsert_append (fun b hb => by simpa using hbefore b hb) hsorted.2.1.1).symm

end Stable

/-- Both sorts by a key. -/
theorem mergeSort_key {κ : Type} [LinearOrder κ] (key : α → κ) (l : List α) :
    (l.mergeSort fun a b => decide (key a ≤ key b)) = l.insertionSort fun a b => key a ≤ key b := by
  rw [mergeSort_eq_insertionSort (fun a b c hab hbc => ?_) fun a b => ?_]
  · simp only [decide_eq_true_eq]
  · exact decide_eq_true ((of_decide_eq_true hab).trans (of_decide_eq_true hbc))
  · rw [Bool.or_eq_true, decide_eq_true_eq, decide_eq_true_eq]
    exact le_total _ _

/-! ## Two keys -/

/-- The first of a list and one more element, in front of it. -/
def earlier (r : α → α → Prop) [DecidableRel r] (a : α) : Option α → α
  | none => a
  | some b => if r a b then a else b

section First

variable (r : α → α → Prop) [DecidableRel r]

theorem head?_orderedInsert (a : α) (l : List α) :
    (l.orderedInsert r a).head? = some (earlier r a l.head?) := by
  cases l with
  | nil => rfl
  | cons b l =>
    rw [List.orderedInsert_cons]
    show _ = some (if r a b then a else b)
    split
    · rfl
    · rfl

theorem head?_insertionSort_cons (a : α) (l : List α) :
    ((a :: l).insertionSort r).head? = some (earlier r a (l.insertionSort r).head?) := by
  rw [List.insertionSort_cons, head?_orderedInsert]

/-- What a sorted list begins with is one of the elements. -/
theorem mem_of_head?_insertionSort {a : α} {l : List α}
    (h : (l.insertionSort r).head? = some a) : a ∈ l :=
  (List.mem_insertionSort r).mp (List.mem_of_head? h)

end First

section Keys

variable {κ μ : Type} [LinearOrder κ] [LinearOrder μ] (major : α → κ) (minor : α → μ)

/-- By the major key first, and by the minor one where that leaves it open. -/
def Lex (a b : α) : Prop := major a < major b ∨ major a = major b ∧ minor a ≤ minor b

instance : DecidableRel (Lex major minor) := fun _ _ => inferInstanceAs (Decidable (_ ∨ _ ∧ _))

variable {major minor} {a b : α}

theorem lex_iff_of_minor_le (h : minor a ≤ minor b) :
    Lex major minor a b ↔ major a ≤ major b := by
  unfold Lex
  rw [le_iff_lt_or_eq (a := major a), and_iff_left h]

theorem lex_iff_of_minor_lt (h : minor b < minor a) :
    Lex major minor a b ↔ major a < major b := by
  unfold Lex
  exact or_iff_left fun hab => absurd h (not_lt.mpr hab.2)

/-- An element that the minor key puts later is compared by the major key, before
or after one that comes earlier is. -/
theorem earlier_comm (h : minor b < minor a) {o : Option α} (ho : ∀ c ∈ o, minor b ≤ minor c) :
    earlier (fun x y => major x ≤ major y) b (some (earlier (Lex major minor) a o)) =
      earlier (Lex major minor) a (some (earlier (fun x y => major x ≤ major y) b o)) := by
  have hab : Lex major minor a b ↔ major a < major b := lex_iff_of_minor_lt h
  cases o with
  | none =>
    show (if major b ≤ major a then b else a) = if Lex major minor a b then a else b
    simp only [hab, ← not_le, ite_not]
  | some c =>
    show (if major b ≤ major (if Lex major minor a c then a else c) then b else
        if Lex major minor a c then a else c) =
      if Lex major minor a (if major b ≤ major c then b else c) then a else
        if major b ≤ major c then b else c
    by_cases hac : Lex major minor a c
    · have hle : major a ≤ major c := hac.elim le_of_lt fun h => h.1.le
      rw [if_pos hac]
      by_cases hba : major b ≤ major a
      · rw [if_pos hba, if_pos (hba.trans hle), if_neg (by rw [hab]; exact not_lt.mpr hba)]
      · have hlex : Lex major minor a (if major b ≤ major c then b else c) := by
          split
          · exact hab.mpr (not_le.mp hba)
          · exact hac
        rw [if_neg hba, if_pos hlex]
    · rw [if_neg hac]
      by_cases hbc : major b ≤ major c
      · have hca : major c ≤ major a := not_lt.mp fun h => hac (.inl h)
        rw [if_pos hbc, if_neg (by rw [hab]; exact not_lt.mpr (hbc.trans hca))]
      · rw [if_neg hbc, if_neg hac]

theorem head?_insertionSort_orderedInsert {a : α} {l : List α}
    (h : l.Pairwise fun x y => minor x ≤ minor y) :
    ((l.orderedInsert (fun x y => minor x ≤ minor y) a).insertionSort
        fun x y => major x ≤ major y).head? =
      some (earlier (Lex major minor) a (l.insertionSort fun x y => major x ≤ major y).head?) := by
  induction l with
  | nil => rfl
  | cons b l ih =>
    obtain ⟨hb, hl⟩ := List.pairwise_cons.mp h
    by_cases hab : minor a ≤ minor b
    · rw [List.orderedInsert_cons_of_le (r := fun x y => minor x ≤ minor y) _ hab,
        head?_insertionSort_cons]
      -- the new element is in front of all others, so only the major key decides
      cases hfirst : ((b :: l).insertionSort fun x y => major x ≤ major y).head? with
      | none => rfl
      | some c =>
        have hc : minor a ≤ minor c := by
          rcases List.mem_cons.mp (mem_of_head?_insertionSort _ hfirst) with rfl | hc
          · exact hab
          · exact hab.trans (hb c hc)
        show some (if major a ≤ major c then a else c) = some (if Lex major minor a c then a else c)
        simp only [lex_iff_of_minor_le hc]
    · rw [List.orderedInsert_of_not_le (r := fun x y => minor x ≤ minor y) _ hab,
        head?_insertionSort_cons, head?_insertionSort_cons, ih hl]
      refine congrArg some (earlier_comm (not_le.mp hab) fun c hc => ?_)
      exact hb c (mem_of_head?_insertionSort _ hc)

/-- **By the minor key, then by the major one**: the first is the first by both. -/
theorem head?_insertionSort_lex (l : List α) :
    ((l.insertionSort fun x y => minor x ≤ minor y).insertionSort
        fun x y => major x ≤ major y).head? = (l.insertionSort (Lex major minor)).head? := by
  induction l with
  | nil => rfl
  | cons a l ih =>
    have hsorted : (l.insertionSort fun x y => minor x ≤ minor y).Pairwise
        fun x y => minor x ≤ minor y := by
      have : Std.Total fun x y : α => minor x ≤ minor y := ⟨fun x y => le_total _ _⟩
      have : IsTrans α fun x y => minor x ≤ minor y := ⟨fun _ _ _ => le_trans⟩
      exact List.pairwise_insertionSort _ l
    rw [List.insertionSort_cons, head?_insertionSort_orderedInsert hsorted, ih,
      ← head?_insertionSort_cons]

end Keys

end Data.Sorting
