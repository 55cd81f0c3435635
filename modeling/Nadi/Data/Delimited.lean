import Mathlib.Data.Nat.Count
import Mathlib.Data.List.Infix

/-!
# Deleting delimited stretches

A stretch is a part of a list that begins with an opening pair of elements and
goes on up to the first closing element after it. One pass from left to right
that deletes each stretch it meets deletes exactly what lies in some stretch
(`sub_stretch`). What is left and right of a deleted part becomes adjacent, so
the result may have stretches of its own; the lemmas on `Exposed` say when, also
where the results for several lists are put one behind the other.
-/

namespace Data.Delimited

variable {α : Type}

/-! ## Deleting matches -/

/-- Delete the matches met from left to right; `length` is the length of the match
at the start of a list, and `skip` how much of the last match is still to come. -/
def sub (length : List α → Option ℕ) : (skip : ℕ) → List α → List α
  | _, [] => []
  | n + 1, _ :: w => sub length n w
  | 0, a :: w =>
    match length (a :: w) with
    | some (n + 1) => sub length n w
    | _ => a :: sub length 0 w

theorem sub_drop (length : List α → Option ℕ) (n : ℕ) (w : List α) :
    sub length n w = sub length 0 (w.drop n) := by
  induction w generalizing n with
  | nil => simp [sub]
  | cons a w ih =>
    cases n with
    | zero => rfl
    | succ n => exact ih n

/-! ## Keeping positions -/

section Kept

open Classical

/-- The elements at the positions that are kept. -/
noncomputable def kept (keep : ℕ → Prop) : List α → List α
  | [] => []
  | a :: w => if keep 0 then a :: kept (fun i => keep (i + 1)) w else kept (fun i => keep (i + 1)) w

variable {keep keep' : ℕ → Prop} {w : List α}

theorem kept_congr (h : ∀ i < w.length, keep i ↔ keep' i) : kept keep w = kept keep' w := by
  induction w generalizing keep keep' with
  | nil => rfl
  | cons a w ih =>
    have h0 : keep 0 ↔ keep' 0 := h 0 (by simp)
    have hrest : kept (fun i => keep (i + 1)) w = kept (fun i => keep' (i + 1)) w :=
      ih fun i hi => h (i + 1) (by simpa using hi)
    simp only [kept, h0, hrest]

/-- None of the first positions is kept. -/
theorem kept_drop {n : ℕ} (h : ∀ i < n, ¬ keep i) :
    kept keep w = kept (fun i => keep (i + n)) (w.drop n) := by
  induction n generalizing keep w with
  | zero => simp
  | succ n ih =>
    cases w with
    | nil => simp [kept]
    | cons a w =>
      have hrest := ih (w := w) fun i hi => h (i + 1) (by omega)
      simp only [kept, if_neg (h 0 (by omega)), List.drop_succ_cons, hrest]
      exact kept_congr fun i _ => by rw [Nat.add_assoc]

theorem mem_kept {x : α} : x ∈ kept keep w ↔ ∃ i, keep i ∧ w[i]? = some x := by
  induction w generalizing keep with
  | nil => simp [kept]
  | cons a w ih =>
    have hsplit : (∃ i, keep i ∧ (a :: w)[i]? = some x) ↔
        (keep 0 ∧ a = x) ∨ ∃ i, keep (i + 1) ∧ w[i]? = some x := by
      constructor
      · rintro ⟨i, hi, hx⟩
        cases i with
        | zero => exact .inl ⟨hi, by simpa using hx⟩
        | succ i => exact .inr ⟨i, hi, by simpa using hx⟩
      · rintro (⟨hi, rfl⟩ | ⟨i, hi, hx⟩)
        · exact ⟨0, hi, rfl⟩
        · exact ⟨i + 1, hi, by simpa using hx⟩
    rw [hsplit, ← ih]
    by_cases h0 : keep 0
    · simp [kept, h0, eq_comm]
    · simp [kept, h0]

/-- The first element that is kept. -/
theorem head?_kept {x : α} : (kept keep w).head? = some x ↔
    ∃ i, keep i ∧ w[i]? = some x ∧ ∀ m < i, ¬ keep m := by
  induction w generalizing keep with
  | nil => simp [kept]
  | cons a w ih =>
    by_cases h0 : keep 0
    · simp only [kept, if_pos h0, List.head?_cons]
      constructor
      · intro h
        exact ⟨0, h0, by simpa using h, fun m hm => absurd hm (Nat.not_lt_zero m)⟩
      · rintro ⟨i, -, hx, hbefore⟩
        cases i with
        | zero => simpa using hx
        | succ i => exact absurd h0 (hbefore 0 (Nat.succ_pos i))
    · simp only [kept, if_neg h0]
      rw [ih]
      constructor
      · rintro ⟨i, hi, hx, hbefore⟩
        refine ⟨i + 1, hi, by simpa using hx, fun m hm => ?_⟩
        cases m with
        | zero => exact h0
        | succ m => exact hbefore m (by omega)
      · rintro ⟨i, hi, hx, hbefore⟩
        cases i with
        | zero => exact absurd hi h0
        | succ i => exact ⟨i, hi, by simpa using hx, fun m hm => hbefore (m + 1) (by omega)⟩

/-- The position is one of the first `n` that are kept. -/
def Among (n : ℕ) (keep : ℕ → Prop) (i : ℕ) : Prop := keep i ∧ Nat.count keep i < n

theorem take_kept (n : ℕ) : (kept keep w).take n = kept (Among n keep) w := by
  induction w generalizing keep n with
  | nil => simp [kept]
  | cons a w ih =>
    by_cases h0 : keep 0
    · cases n with
      | zero =>
        have hnone : ∀ i, ¬ Among 0 keep i := fun i hi => Nat.not_lt_zero _ hi.2
        exact (List.eq_nil_iff_forall_not_mem.mpr fun x hx => by
          obtain ⟨i, hi, -⟩ := mem_kept.mp hx
          exact hnone i hi).symm
      | succ n =>
        have hfirst : Among (n + 1) keep 0 := ⟨h0, by simp⟩
        have hrest : kept (fun i => Among (n + 1) keep (i + 1)) w =
            kept (Among n fun i => keep (i + 1)) w :=
          kept_congr fun i _ => by simp [Among, Nat.count_succ', h0]
        simp [kept, h0, hfirst, hrest, ih]
    · have hfirst : ¬ Among n keep 0 := fun h => h0 h.1
      have hrest : kept (fun i => Among n keep (i + 1)) w =
          kept (Among n fun i => keep (i + 1)) w :=
        kept_congr fun i _ => by simp [Among, Nat.count_succ', h0]
      simp [kept, h0, hfirst, hrest, ih]

end Kept

/-! ## Stretches -/

variable (opens : α → α → Bool) (closes : α → Bool)

/-- The positions from `j` to `k` are a stretch. -/
def StretchAt (w : List α) (j k : ℕ) : Prop :=
  (∃ a b, w[j]? = some a ∧ w[j + 1]? = some b ∧ opens a b = true) ∧ j + 1 < k ∧
    (∃ c, w[k]? = some c ∧ closes c = true) ∧
    ∀ m, j + 1 < m → m < k → ∀ c, w[m]? = some c → closes c = false

/-- The position lies in a stretch. -/
def Covered (w : List α) (i : ℕ) : Prop := ∃ j k, StretchAt opens closes w j k ∧ j ≤ i ∧ i ≤ k

/-- The length of the stretch at the start. -/
def stretch : List α → Option ℕ
  | a :: b :: w => if opens a b then (w.findIdx? closes).map (· + 3) else none
  | _ => none

variable {opens closes} {w u v : List α} {i j k n : ℕ}

theorem stretchAt_cons {a : α} :
    StretchAt opens closes (a :: w) (j + 1) (k + 1) ↔ StretchAt opens closes w j k := by
  unfold StretchAt
  simp only [List.getElem?_cons_succ, Nat.add_lt_add_iff_right]
  constructor
  · rintro ⟨hopen, hlt, hclose, hrest⟩
    refine ⟨hopen, hlt, hclose, fun m hj hk c hc => ?_⟩
    exact hrest (m + 1) (by omega) (by omega) c (by simpa using hc)
  · rintro ⟨hopen, hlt, hclose, hrest⟩
    refine ⟨hopen, hlt, hclose, fun m hj hk c hc => ?_⟩
    cases m with
    | zero => omega
    | succ m => exact hrest m (by omega) (by omega) c (by simpa using hc)

theorem stretchAt_drop :
    StretchAt opens closes (w.drop n) j k ↔ StretchAt opens closes w (j + n) (k + n) := by
  induction n generalizing w with
  | zero => simp
  | succ n ih =>
    cases w with
    | nil => simp [StretchAt]
    | cons a w =>
      rw [List.drop_succ_cons, ih]
      exact stretchAt_cons.symm

theorem stretch_eq_some : stretch opens closes w = some (k + 1) ↔ StretchAt opens closes w 0 k := by
  match w with
  | [] => simp [stretch, StretchAt]
  | [a] => simp [stretch, StretchAt]
  | a :: b :: w =>
    have hfind : ∀ k, w.findIdx? closes = some k ↔ (∃ c, w[k]? = some c ∧ closes c = true) ∧
        ∀ m < k, ∀ c, w[m]? = some c → closes c = false := by
      intro k
      rw [List.findIdx?_eq_some_iff_getElem]
      constructor
      · rintro ⟨hk, hclose, hbefore⟩
        refine ⟨⟨w[k], List.getElem?_eq_getElem hk, hclose⟩, fun m hm c hc => ?_⟩
        obtain ⟨hlt, rfl⟩ := List.getElem?_eq_some_iff.mp hc
        simpa using hbefore m hm
      · rintro ⟨⟨c, hc, hclose⟩, hbefore⟩
        obtain ⟨hk, rfl⟩ := List.getElem?_eq_some_iff.mp hc
        refine ⟨hk, hclose, fun m hm => ?_⟩
        simpa using hbefore m hm _ (List.getElem?_eq_getElem (by omega))
    by_cases hopen : opens a b = true
    · simp only [stretch, if_pos hopen, Option.map_eq_some_iff, hfind]
      constructor
      · rintro ⟨k', ⟨hclose, hbefore⟩, hk⟩
        obtain rfl : k = k' + 2 := by omega
        refine ⟨⟨a, b, rfl, rfl, hopen⟩, by omega, by simpa using hclose, fun m hj hk c hc => ?_⟩
        obtain ⟨m, rfl⟩ : ∃ m', m = m' + 2 := ⟨m - 2, by omega⟩
        exact hbefore m (by omega) c (by simpa using hc)
      · rintro ⟨-, hlt, hclose, hbefore⟩
        obtain ⟨k, rfl⟩ : ∃ k', k = k' + 2 := ⟨k - 2, by omega⟩
        refine ⟨k, ⟨by simpa using hclose, fun m hm c hc => ?_⟩, rfl⟩
        exact hbefore (m + 2) (by omega) (by omega) c (by simpa using hc)
    · simp [stretch, StretchAt, hopen]

theorem stretch_pos (h : stretch opens closes w = some n) : 0 < n := by
  match w with
  | [] => cases h
  | [a] => cases h
  | a :: b :: w =>
    simp only [stretch] at h
    split at h
    · obtain ⟨k, -, rfl⟩ := Option.map_eq_some_iff.mp h
      omega
    · cases h

/-- **One pass deletes what lies in a stretch**, and nothing else. -/
theorem sub_stretch (hopens : ∀ a b, opens a b = true → closes a = false ∧ closes b = false)
    (w : List α) :
    sub (stretch opens closes) 0 w = kept (fun i => ¬ Covered opens closes w i) w := by
  -- on the length: after a stretch the pass goes on behind it
  induction hlen : w.length using Nat.strong_induction_on generalizing w with
  | _ len ih =>
    match w with
    | [] => simp [sub, kept]
    | a :: w =>
      cases hmatch : stretch opens closes (a :: w) with
      | none =>
        have hnone : ∀ k, ¬ StretchAt opens closes (a :: w) 0 k := fun k hk => by
          cases hmatch.symm.trans (stretch_eq_some.mpr hk)
        have hshift : ∀ i, Covered opens closes (a :: w) (i + 1) ↔ Covered opens closes w i := by
          intro i
          constructor
          · rintro ⟨j, k, hjk, hj, hk⟩
            cases j with
            | zero => exact absurd hjk (hnone k)
            | succ j =>
              obtain ⟨k, rfl⟩ : ∃ k', k = k' + 1 := ⟨k - 1, by have := hjk.2.1; omega⟩
              exact ⟨j, k, stretchAt_cons.mp hjk, by omega, by omega⟩
          · rintro ⟨j, k, hjk, hj, hk⟩
            exact ⟨j + 1, k + 1, stretchAt_cons.mpr hjk, by omega, by omega⟩
        have hfirst : ¬ Covered opens closes (a :: w) 0 := by
          rintro ⟨j, k, hjk, hj, -⟩
          obtain rfl : j = 0 := by omega
          exact hnone k hjk
        simp only [sub, hmatch, kept, if_pos hfirst, hshift]
        rw [ih w.length (by simp [← hlen]) w rfl]
      | some n =>
        obtain ⟨n, rfl⟩ : ∃ n', n = n' + 1 := ⟨n - 1, by have := stretch_pos hmatch; omega⟩
        have hat := stretch_eq_some.mp hmatch
        have hcovered : ∀ i < n + 1, ¬ ¬ Covered opens closes (a :: w) i := fun i hi =>
          not_not.mpr ⟨0, n, hat, Nat.zero_le i, by omega⟩
        -- a stretch that goes beyond this one begins behind it
        have hshift : ∀ i, Covered opens closes (a :: w) (i + (n + 1)) ↔
            Covered opens closes ((a :: w).drop (n + 1)) i := by
          intro i
          constructor
          · rintro ⟨j, k, hjk, hj, hk⟩
            have hbehind : n + 1 ≤ j := by
              by_contra hle
              obtain ⟨c, hc, hclose⟩ := hat.2.2.1
              obtain ⟨⟨x, y, hx, hy, hxy⟩, hlt, -, hbefore⟩ := hjk
              rcases Nat.lt_trichotomy n (j + 1) with hn | rfl | hn
              · obtain rfl : n = j := by omega
                cases hx.symm.trans hc
                exact Bool.false_ne_true ((hopens _ _ hxy).1.symm.trans hclose)
              · cases hy.symm.trans hc
                exact Bool.false_ne_true ((hopens _ _ hxy).2.symm.trans hclose)
              · exact Bool.false_ne_true ((hbefore n hn (by omega) c hc).symm.trans hclose)
            refine ⟨j - (n + 1), k - (n + 1), stretchAt_drop.mpr ?_, by omega, by omega⟩
            rwa [Nat.sub_add_cancel hbehind, Nat.sub_add_cancel (by omega)]
          · rintro ⟨j, k, hjk, hj, hk⟩
            exact ⟨_, _, stretchAt_drop.mp hjk, by omega, by omega⟩
        have hsub : sub (stretch opens closes) 0 (a :: w) =
            sub (stretch opens closes) 0 ((a :: w).drop (n + 1)) := by
          simp only [sub, hmatch]
          exact sub_drop _ n w
        rw [hsub, kept_drop hcovered]
        simp only [hshift]
        have hshorter : ((a :: w).drop (n + 1)).length < len := by
          rw [List.length_drop, ← hlen, List.length_cons]
          omega
        exact ih _ hshorter _ rfl

/-! ## Stretches in what is left -/

variable (opens closes) in
/-- An opening pair with a closing element behind it: in the list, or (`after`) in
what follows the list. -/
def Exposed (after : Prop) : List α → Prop
  | [] => False
  | a :: w => ((∃ b, w.head? = some b ∧ opens a b = true) ∧
      (after ∨ ∃ c ∈ w, closes c = true)) ∨ Exposed after w

variable {after : Prop}

/-- A list has a stretch if it has an opening pair with a closing element behind it. -/
theorem exposed_iff (hopens : ∀ a b, opens a b = true → closes a = false ∧ closes b = false) :
    Exposed opens closes False w ↔ ∃ j k, StretchAt opens closes w j k := by
  induction w with
  | nil => simp [Exposed, StretchAt]
  | cons a w ih =>
    have hsplit : (∃ j k, StretchAt opens closes (a :: w) j k) ↔
        (∃ k, StretchAt opens closes (a :: w) 0 k) ∨ ∃ j k, StretchAt opens closes w j k := by
      constructor
      · rintro ⟨j, k, hjk⟩
        cases j with
        | zero => exact .inl ⟨k, hjk⟩
        | succ j =>
          obtain ⟨k, rfl⟩ : ∃ k', k = k' + 1 := ⟨k - 1, by have := hjk.2.1; omega⟩
          exact .inr ⟨j, k, stretchAt_cons.mp hjk⟩
      · rintro (⟨k, hk⟩ | ⟨j, k, hjk⟩)
        · exact ⟨0, k, hk⟩
        · exact ⟨j + 1, k + 1, stretchAt_cons.mpr hjk⟩
    have hfirst : (∃ k, StretchAt opens closes (a :: w) 0 k) ↔
        (∃ b, w.head? = some b ∧ opens a b = true) ∧ ∃ c ∈ w, closes c = true := by
      have hsome : (∃ k, StretchAt opens closes (a :: w) 0 k) ↔
          ∃ n, stretch opens closes (a :: w) = some n := by
        constructor
        · rintro ⟨k, hk⟩
          exact ⟨k + 1, stretch_eq_some.mpr hk⟩
        · rintro ⟨n, hn⟩
          obtain ⟨n, rfl⟩ : ∃ n', n = n' + 1 := ⟨n - 1, by have := stretch_pos hn; omega⟩
          exact ⟨n, stretch_eq_some.mp hn⟩
      rw [hsome]
      cases w with
      | nil => simp [stretch]
      | cons b w =>
        by_cases hopen : opens a b = true
        · simp [stretch, hopen, (hopens a b hopen).2, ← Option.isSome_iff_exists]
        · simp [stretch, hopen]
    rw [hsplit, hfirst, ← ih]
    simp [Exposed]

/-- What follows the list closes what it opens. -/
theorem exposed_append (h : ∀ b, v.head? = some b → ∀ a, opens a b = false) :
    Exposed opens closes after (u ++ v) ↔
      Exposed opens closes (after ∨ ∃ c ∈ v, closes c = true) u ∨ Exposed opens closes after v := by
  induction u with
  | nil => simp [Exposed]
  | cons a u ih =>
    cases u with
    | nil =>
      have hfirst : ¬ ∃ b, v.head? = some b ∧ opens a b = true := by
        rintro ⟨b, hb, hopen⟩
        exact Bool.false_ne_true ((h b hb a).symm.trans hopen)
      simp [Exposed, hfirst]
    | cons b u =>
      rw [List.cons_append, Exposed, ih, ← or_assoc]
      have hmem : (∃ c ∈ (b :: u) ++ v, closes c = true) ↔
          (∃ c ∈ b :: u, closes c = true) ∨ ∃ c ∈ v, closes c = true := by
        simp only [List.mem_append, or_and_right, exists_or]
      rw [hmem, Exposed]
      refine or_congr (or_congr (and_congr Iff.rfl ?_) Iff.rfl) Iff.rfl
      rw [or_assoc]
      exact or_congr Iff.rfl or_comm

variable (opens closes) in
/-- An element that neither opens, nor is second in an opening pair, nor closes. -/
def Neutral (s : α) : Prop := (∀ a, opens a s = false ∧ opens s a = false) ∧ closes s = false

theorem exposed_neutral {s : List α} (h : ∀ x ∈ s, Neutral opens closes x) :
    Exposed opens closes after (s ++ w) ↔ Exposed opens closes after w := by
  induction s with
  | nil => rfl
  | cons x s ih =>
    have hfirst : ¬ ∃ b, (s ++ w).head? = some b ∧ opens x b = true := by
      rintro ⟨b, -, hopen⟩
      exact Bool.false_ne_true (((h x (by simp)).1 b).2.symm.trans hopen)
    rw [List.cons_append, Exposed]
    simp only [hfirst, false_and, false_or]
    exact ih fun y hy => h y (by simp [hy])

theorem exposed_map {f : α → α} (hopens : ∀ a b, opens (f a) (f b) = opens a b)
    (hcloses : ∀ a, closes (f a) = closes a) :
    Exposed opens closes after (w.map f) ↔ Exposed opens closes after w := by
  induction w with
  | nil => rfl
  | cons a w ih =>
    simp only [List.map_cons, Exposed, List.head?_map, List.mem_map]
    rw [ih]
    simp [hopens, hcloses]

variable (opens closes) in
/-- Of several lists, one has an opening pair that it or a later one closes. -/
def ExposedIn (lists : List (List α)) : Prop :=
  ∃ before w later, lists = before ++ w :: later ∧
    Exposed opens closes (∃ w' ∈ later, ∃ c ∈ w', closes c = true) w

theorem exposedIn_cons {lists : List (List α)} : ExposedIn opens closes (w :: lists) ↔
    Exposed opens closes (∃ w' ∈ lists, ∃ c ∈ w', closes c = true) w ∨
      ExposedIn opens closes lists := by
  constructor
  · rintro ⟨before, w', later, heq, hw'⟩
    cases before with
    | nil =>
      cases heq
      exact .inl hw'
    | cons _ before =>
      cases heq
      exact .inr ⟨before, w', later, rfl, hw'⟩
  · rintro (hw | ⟨before, w', later, rfl, hw'⟩)
    · exact ⟨[], w, lists, rfl, hw⟩
    · exact ⟨w :: before, w', later, rfl, hw'⟩

/-- Lists put one behind the other, each after something neutral. -/
theorem exposed_flatMap {pieces : List (List α × List α)}
    (h : ∀ p ∈ pieces, p.1 ≠ [] ∧ ∀ x ∈ p.1, Neutral opens closes x) :
    Exposed opens closes False (pieces.flatMap fun p => p.1 ++ p.2) ↔
      ExposedIn opens closes (pieces.map Prod.snd) := by
  induction pieces with
  | nil => simp [Exposed, ExposedIn]
  | cons p pieces ih =>
    have hrest : ∀ q ∈ pieces, q.1 ≠ [] ∧ ∀ x ∈ q.1, Neutral opens closes x :=
      fun q hq => h q (by simp [hq])
    have hhead : ∀ b, (pieces.flatMap fun p => p.1 ++ p.2).head? = some b →
        ∀ a, opens a b = false := by
      intro b hb a
      cases pieces with
      | nil => cases hb
      | cons q pieces =>
        obtain ⟨hne, hneutral⟩ := hrest q (by simp)
        obtain ⟨x, s, hs⟩ := List.exists_cons_of_ne_nil hne
        rw [List.flatMap_cons, hs] at hb
        obtain rfl : x = b := by simpa using hb
        exact ((hneutral x (by simp [hs])).1 a).1
    have hcloses : (∃ c ∈ pieces.flatMap fun p => p.1 ++ p.2, closes c = true) ↔
        ∃ w ∈ pieces.map Prod.snd, ∃ c ∈ w, closes c = true := by
      simp only [List.mem_flatMap, List.mem_append, List.mem_map]
      constructor
      · rintro ⟨c, ⟨q, hq, hc | hc⟩, hclose⟩
        · exact absurd hclose (by simp [((hrest q hq).2 c hc).2])
        · exact ⟨q.2, ⟨q, hq, rfl⟩, c, hc, hclose⟩
      · rintro ⟨_, ⟨q, hq, rfl⟩, c, hc, hclose⟩
        exact ⟨c, ⟨q, hq, .inr hc⟩, hclose⟩
    rw [List.flatMap_cons, List.append_assoc, exposed_neutral (h p (by simp)).2,
      exposed_append hhead, ih hrest, false_or, hcloses, List.map_cons, exposedIn_cons]

variable (opens closes) in
/-- The position and the next that is kept are an opening pair with a closing element
behind it: at a position that is kept, or in what follows the list. -/
def ExposedAt (after : Prop) (keep : ℕ → Prop) (w : List α) (i : ℕ) : Prop :=
  keep i ∧ ∃ j a b, i < j ∧ keep j ∧ (∀ m, i < m → m < j → ¬ keep m) ∧
    w[i]? = some a ∧ w[j]? = some b ∧ opens a b = true ∧
    (after ∨ ∃ k c, j < k ∧ keep k ∧ w[k]? = some c ∧ closes c = true)

theorem exposedAt_succ {keep : ℕ → Prop} {x : α} :
    ExposedAt opens closes after keep (x :: w) (i + 1) ↔
      ExposedAt opens closes after (fun i => keep (i + 1)) w i := by
  refine and_congr Iff.rfl ?_
  constructor
  · rintro ⟨j, a, b, hij, hj, hnext, ha, hb, hopen, hafter⟩
    obtain ⟨j, rfl⟩ : ∃ j', j = j' + 1 := ⟨j - 1, by omega⟩
    refine ⟨j, a, b, by omega, hj, fun m him hmj => hnext (m + 1) (by omega) (by omega),
      by simpa using ha, by simpa using hb, hopen, hafter.imp_right ?_⟩
    rintro ⟨k, c, hjk, hk, hc, hclose⟩
    obtain ⟨k, rfl⟩ : ∃ k', k = k' + 1 := ⟨k - 1, by omega⟩
    exact ⟨k, c, by omega, hk, by simpa using hc, hclose⟩
  · rintro ⟨j, a, b, hij, hj, hnext, ha, hb, hopen, hafter⟩
    refine ⟨j + 1, a, b, by omega, hj, fun m him hmj => ?_, by simpa using ha, by simpa using hb,
      hopen, hafter.imp_right ?_⟩
    · obtain ⟨m, rfl⟩ : ∃ m', m = m' + 1 := ⟨m - 1, by omega⟩
      exact hnext m (by omega) (by omega)
    · rintro ⟨k, c, hjk, hk, hc, hclose⟩
      exact ⟨k + 1, c, by omega, hk, by simpa using hc, hclose⟩

theorem exposedAt_zero (hopens : ∀ a b, opens a b = true → closes a = false ∧ closes b = false)
    {keep : ℕ → Prop} {x : α} :
    ExposedAt opens closes after keep (x :: w) 0 ↔ keep 0 ∧
      (∃ b, (kept (fun i => keep (i + 1)) w).head? = some b ∧ opens x b = true) ∧
      (after ∨ ∃ c ∈ kept (fun i => keep (i + 1)) w, closes c = true) := by
  simp only [head?_kept, mem_kept]
  refine and_congr Iff.rfl ?_
  constructor
  · rintro ⟨j, a, b, hij, hj, hnext, ha, hb, hopen, hafter⟩
    obtain ⟨j, rfl⟩ : ∃ j', j = j' + 1 := ⟨j - 1, by omega⟩
    obtain rfl : x = a := by simpa using ha
    refine ⟨⟨b, ⟨j, hj, by simpa using hb, fun m hm => ?_⟩, hopen⟩, hafter.imp_right ?_⟩
    · exact hnext (m + 1) (by omega) (by omega)
    · rintro ⟨k, c, hjk, hk, hc, hclose⟩
      obtain ⟨k, rfl⟩ : ∃ k', k = k' + 1 := ⟨k - 1, by omega⟩
      exact ⟨c, ⟨k, hk, by simpa using hc⟩, hclose⟩
  · rintro ⟨⟨b, ⟨j, hj, hb, hnext⟩, hopen⟩, hafter⟩
    refine ⟨j + 1, x, b, by omega, hj, fun m hm hmj => ?_, rfl, by simpa using hb, hopen,
      hafter.imp_right ?_⟩
    · obtain ⟨m, rfl⟩ : ∃ m', m = m' + 1 := ⟨m - 1, by omega⟩
      exact hnext m (by omega)
    · rintro ⟨c, ⟨k, hk, hc⟩, hclose⟩
      refine ⟨k + 1, c, ?_, hk, by simpa using hc, hclose⟩
      -- the closing element is neither the second of the pair nor before it
      rcases Nat.lt_trichotomy k j with hkj | rfl | hkj
      · exact absurd hk (hnext k hkj)
      · cases hc.symm.trans hb
        exact absurd hclose (by simp [(hopens x b hopen).2])
      · omega

/-- What is kept exposes an opening pair where its positions do. -/
theorem exposed_kept (hopens : ∀ a b, opens a b = true → closes a = false ∧ closes b = false)
    {keep : ℕ → Prop} :
    Exposed opens closes after (kept keep w) ↔ ∃ i, ExposedAt opens closes after keep w i := by
  induction w generalizing keep with
  | nil => simp [kept, Exposed, ExposedAt]
  | cons x w ih =>
    have hsplit : (∃ i, ExposedAt opens closes after keep (x :: w) i) ↔
        ExposedAt opens closes after keep (x :: w) 0 ∨
          ∃ i, ExposedAt opens closes after (fun i => keep (i + 1)) w i := by
      constructor
      · rintro ⟨i, hi⟩
        cases i with
        | zero => exact .inl hi
        | succ i => exact .inr ⟨i, exposedAt_succ.mp hi⟩
      · rintro (hi | ⟨i, hi⟩)
        · exact ⟨0, hi⟩
        · exact ⟨i + 1, exposedAt_succ.mpr hi⟩
    rw [hsplit, exposedAt_zero hopens, ← ih]
    by_cases h0 : keep 0
    · simp [kept, h0, Exposed]
    · simp [kept, h0]

end Data.Delimited
