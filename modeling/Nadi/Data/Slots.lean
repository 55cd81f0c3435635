import Mathlib.Data.List.Infix
import Mathlib.Data.Int.Order.Basic

/-!
# Look, then take

Clients share counters that only grow, each with a bound. A client first looks
at a counter and then takes one of it, as two steps, so that what it saw may be
out of date when it takes. The counters stay within their bounds exactly if
every client is in time: fewer have been taken since its look than it saw free
(`within_iff`).
-/

namespace Data.Slots

/-- What clients do: client `i` finds `seen` on counter `k`, or takes one of it. -/
inductive Act (ι κ : Type) where
  | look (i : ι) (k : κ) (seen : ℕ)
  | take (i : ι) (k : κ)

/-- The last look of a client, and how many have been taken of the counter since. -/
structure Look (κ : Type) where
  counter : κ
  seen : ℕ
  since : ℕ

variable {ι κ : Type} [DecidableEq κ] {start : κ → ℕ} {bound : κ → ℤ} {acts : List (Act ι κ)}

/-- Whether an act takes one of a counter. -/
def Act.takes (k : κ) : Act ι κ → Bool
  | .look .. => false
  | .take _ k' => k' = k

/-- How many have been taken of a counter. -/
def taken (acts : List (Act ι κ)) (k : κ) : ℕ := acts.countP (Act.takes k)

theorem taken_look (i : ι) (k k' : κ) (n : ℕ) : taken (acts ++ [.look i k n]) k' = taken acts k' := by
  simp [taken, Act.takes]

theorem taken_take (i : ι) (k k' : κ) :
    taken (acts ++ [.take i k]) k' = taken acts k' + if k = k' then 1 else 0 := by
  simp [taken, Act.takes, List.countP_cons]

variable [DecidableEq ι]

/-- An act changes the last look of a client. -/
def watch (i : ι) (last : Option (Look κ)) : Act ι κ → Option (Look κ)
  | .look j k seen => if j = i then some ⟨k, seen, 0⟩ else last
  | .take _ k => last.map fun l => if l.counter = k then { l with since := l.since + 1 } else l

/-- The last look of a client. -/
def lastLook (acts : List (Act ι κ)) (i : ι) : Option (Look κ) := acts.foldl (watch i) none

/-- Clients see what has been taken, and take of the counter they looked at. -/
inductive Honest (start : κ → ℕ) : List (Act ι κ) → Prop where
  | nil : Honest start []
  | look {acts : List (Act ι κ)} (h : Honest start acts) (i : ι) (k : κ) :
      Honest start (acts ++ [.look i k (start k + taken acts k)])
  | take {acts : List (Act ι κ)} (h : Honest start acts) {i : ι} {l : Look κ}
      (hlook : lastLook acts i = some l) : Honest start (acts ++ [.take i l.counter])

/-- Whoever takes has seen more free than have been taken since. -/
def Timely (bound : κ → ℤ) (acts : List (Act ι κ)) : Prop :=
  ∀ before i k, before ++ [.take i k] <+: acts → ∀ l, lastLook before i = some l →
    ((l.seen + l.since : ℕ) : ℤ) < bound k

theorem watch_look (i j : ι) (last : Option (Look κ)) (k : κ) (n : ℕ) :
    watch i last (.look j k n) = if j = i then some ⟨k, n, 0⟩ else last := rfl

theorem lastLook_append (a : Act ι κ) (i : ι) :
    lastLook (acts ++ [a]) i = watch i (lastLook acts i) a := by
  unfold lastLook
  rw [List.foldl_append]
  rfl

theorem timely_nil : Timely bound ([] : List (Act ι κ)) := by
  intro before i k hpre
  have hnil := List.prefix_nil.mp hpre
  cases before <;> cases hnil

/-- A look is always in time. -/
theorem timely_look (i : ι) (k : κ) (n : ℕ) :
    Timely bound (acts ++ [.look i k n]) ↔ Timely bound acts := by
  unfold Timely
  refine forall_congr' fun before => forall_congr' fun j => forall_congr' fun k' => ?_
  rw [List.prefix_concat_iff]
  refine imp_congr ⟨fun h => ?_, .inr⟩ Iff.rfl
  rcases h with heq | hpre
  · have hlast := (List.append_inj' heq rfl).2
    cases hlast
  · exact hpre

/-- A taking is in time if the client has seen enough. -/
theorem timely_take {i : ι} {k : κ} {l : Look κ} (hlook : lastLook acts i = some l) :
    Timely bound (acts ++ [.take i k]) ↔
      Timely bound acts ∧ ((l.seen + l.since : ℕ) : ℤ) < bound k := by
  constructor
  · intro h
    refine ⟨fun before j k' hpre => h before j k' (List.prefix_concat_iff.mpr (.inr hpre)), ?_⟩
    exact h acts i k (List.prefix_refl _) l hlook
  · rintro ⟨hold, hnew⟩ before j k' hpre l' hl'
    rcases List.prefix_concat_iff.mp hpre with heq | hpre
    · obtain ⟨rfl, hlast⟩ := List.append_inj' heq rfl
      cases hlast
      obtain rfl := Option.some.inj (hlook.symm.trans hl')
      exact hnew
    · exact hold before j k' hpre l' hl'

/-- What a client saw and what has been taken since make up the counter. -/
theorem Honest.lastLook (h : Honest start acts) {i : ι} {l : Look κ}
    (hlook : Slots.lastLook acts i = some l) :
    l.seen + l.since = start l.counter + taken acts l.counter := by
  induction h generalizing l with
  | nil => cases hlook
  | look h j k ih =>
    rw [lastLook_append] at hlook
    rw [taken_look]
    by_cases hj : j = i
    · rw [watch_look, if_pos hj] at hlook
      cases hlook
      rfl
    · rw [watch_look, if_neg hj] at hlook
      exact ih hlook
  | @take acts h j l₀ hlook₀ ih =>
    rw [lastLook_append] at hlook
    obtain ⟨l₁, hl₁, rfl⟩ := Option.map_eq_some_iff.mp hlook
    have hcount := ih hl₁
    rw [taken_take]
    by_cases hk : l₁.counter = l₀.counter
    · rw [if_pos hk, if_pos hk.symm]
      dsimp only
      omega
    · rw [if_neg hk, if_neg (Ne.symm hk)]
      omega

/-- **Within bounds exactly if in time.** -/
theorem within_iff (h : Honest start acts) :
    (∀ k, ((start k + taken acts k : ℕ) : ℤ) ≤ bound k) ↔
      (∀ k, (start k : ℤ) ≤ bound k) ∧ Timely bound acts := by
  induction h with
  | nil => exact ⟨fun h => ⟨h, timely_nil⟩, fun h => h.1⟩
  | look h i k ih =>
    rw [timely_look, ← ih]
    exact forall_congr' fun k' => by rw [taken_look]
  | @take acts h i l hlook ih =>
    have hcount := h.lastLook hlook
    rw [timely_take hlook, ← and_assoc, ← ih, hcount]
    -- the taking counts at its own counter only
    constructor
    · intro hwithin
      refine ⟨fun k => ?_, ?_⟩
      · have hk := hwithin k
        rw [taken_take] at hk
        split at hk <;> omega
      · have hl := hwithin l.counter
        rw [taken_take, if_pos rfl] at hl
        omega
    · rintro ⟨hold, hnew⟩ k
      have hk := hold k
      rw [taken_take]
      split
      · rename_i heq
        subst heq
        omega
      · omega

end Data.Slots
