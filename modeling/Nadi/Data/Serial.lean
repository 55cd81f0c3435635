import Mathlib.Data.List.Nodup

/-!
# Tables with an auto-incremented id

`Serial α id` holds rows in the order of their insertion together with the last
id ever given out. Ids are strictly increasing along the rows and bounded by
the counter, so the order of the list is the order of the ids and a new id
exceeds every id in use. `push` inserts, `update` and `select` are the
statements of a store.
-/

namespace Data

/-- Rows in the order of strictly increasing ids, none above `last`. -/
structure Serial (α : Type) (id : α → Nat) : Type where
  rows : List α
  last : Nat
  ordered : rows.Pairwise fun a b => id a < id b
  bounded : ∀ a ∈ rows, id a ≤ last

namespace Serial

variable {α : Type} {id : α → Nat}

/-- The table without rows, before the first id. -/
def empty : Serial α id := ⟨[], 0, .nil, fun _ h => (nomatch h)⟩

instance : Membership α (Serial α id) := ⟨fun t a => a ∈ t.rows⟩

theorem mem_def {t : Serial α id} {a : α} : a ∈ t ↔ a ∈ t.rows := Iff.rfl

@[simp] theorem not_mem_empty (a : α) : a ∉ (empty : Serial α id) := List.not_mem_nil

theorem id_le_last {t : Serial α id} {a : α} (h : a ∈ t) : id a ≤ t.last := t.bounded a h

/-- Rows with equal ids are equal. -/
theorem eq_of_id {t : Serial α id} {a b : α} (ha : a ∈ t) (hb : b ∈ t) (h : id a = id b) :
    a = b := by
  have hnodup : (t.rows.map id).Nodup :=
    List.pairwise_map.mpr (t.ordered.imp fun hlt => Nat.ne_of_lt hlt)
  exact List.inj_on_of_nodup_map hnodup ha hb h

/-- `INSERT` of a row made from the next id. -/
def push (t : Serial α id) (mk : Nat → α) (hmk : ∀ n, id (mk n) = n) : Serial α id where
  rows := t.rows ++ [mk (t.last + 1)]
  last := t.last + 1
  ordered := by
    rw [List.pairwise_append]
    refine ⟨t.ordered, List.pairwise_singleton _ _, fun a ha b hb => ?_⟩
    rw [List.mem_singleton.mp hb, hmk]
    exact Nat.lt_succ_of_le (t.bounded a ha)
  bounded := by
    intro a ha
    rcases List.mem_append.mp ha with ha | ha
    · exact Nat.le_succ_of_le (t.bounded a ha)
    · have hid : id a = t.last + 1 := List.mem_singleton.mp ha ▸ hmk _
      exact Nat.le_of_eq hid

@[simp] theorem push_rows (t : Serial α id) (mk : Nat → α) (hmk : ∀ n, id (mk n) = n) :
    (t.push mk hmk).rows = t.rows ++ [mk (t.last + 1)] := rfl

@[simp] theorem push_last (t : Serial α id) (mk : Nat → α) (hmk : ∀ n, id (mk n) = n) :
    (t.push mk hmk).last = t.last + 1 := rfl

theorem mem_push {t : Serial α id} {mk : Nat → α} {hmk : ∀ n, id (mk n) = n} {a : α} :
    a ∈ t.push mk hmk ↔ a ∈ t ∨ a = mk (t.last + 1) := by
  simp [mem_def]

/-- `UPDATE … WHERE p`. -/
def update (t : Serial α id) (p : α → Bool) (f : α → α) (hf : ∀ a, id (f a) = id a) :
    Serial α id where
  rows := t.rows.map fun a => if p a then f a else a
  last := t.last
  ordered := by
    have hid : ∀ a, id (if p a then f a else a) = id a := by
      intro a
      split
      · exact hf a
      · rfl
    rw [List.pairwise_map]
    exact t.ordered.imp fun {a b} hlt => by rw [hid, hid]; exact hlt
  bounded := by
    intro b hb
    obtain ⟨a, ha, rfl⟩ := List.mem_map.mp hb
    split
    · rw [hf]; exact t.bounded a ha
    · exact t.bounded a ha

@[simp] theorem update_rows (t : Serial α id) (p : α → Bool) (f : α → α)
    (hf : ∀ a, id (f a) = id a) :
    (t.update p f hf).rows = t.rows.map fun a => if p a then f a else a := rfl

@[simp] theorem update_last (t : Serial α id) (p : α → Bool) (f : α → α)
    (hf : ∀ a, id (f a) = id a) : (t.update p f hf).last = t.last := rfl

/-- The rows satisfying `p`, `ORDER BY id`. -/
def select (t : Serial α id) (p : α → Bool) : List α := t.rows.filter p

theorem mem_select {t : Serial α id} {p : α → Bool} {a : α} :
    a ∈ t.select p ↔ a ∈ t ∧ p a = true := List.mem_filter

/-- The row with the given id. -/
def find? (t : Serial α id) (n : Nat) : Option α := t.rows.find? fun a => id a = n

theorem find?_eq_some {t : Serial α id} {n : Nat} {a : α} :
    t.find? n = some a ↔ a ∈ t ∧ id a = n := by
  constructor
  · intro h
    exact ⟨List.mem_of_find?_eq_some h, by simpa using List.find?_some h⟩
  · rintro ⟨ha, rfl⟩
    cases hf : t.find? (id a) with
    | none => simpa using List.find?_eq_none.mp hf a ha
    | some b =>
      have hb : id b = id a := by simpa using List.find?_some hf
      rw [eq_of_id (List.mem_of_find?_eq_some hf) ha hb]

/-- An update acts on what is found. -/
theorem find?_update (t : Serial α id) (p : α → Bool) (f : α → α) (hf : ∀ a, id (f a) = id a)
    (n : Nat) :
    (t.update p f hf).find? n = (t.find? n).map fun a => if p a then f a else a := by
  have hid : ∀ a, id (if p a then f a else a) = id a := by
    intro a
    split
    · exact hf a
    · rfl
  show (t.rows.map _).find? _ = _
  rw [List.find?_map]
  congr 2
  funext a
  simp [hid]

theorem select_ordered (t : Serial α id) (p : α → Bool) :
    (t.select p).Pairwise fun a b => id a < id b := t.ordered.filter p

/-- Where an update marks exactly the rows it touches, the marked rows are the
touched ones. -/
theorem select_update {t : Serial α id} {p marked : α → Bool} {f : α → α}
    {hf : ∀ a, id (f a) = id a} (hnew : ∀ a, p a = true → marked (f a) = true)
    (hold : ∀ a ∈ t, p a = false → marked a = false) :
    (t.update p f hf).select marked = (t.select p).map f := by
  show List.filter marked (t.rows.map _) = (t.rows.filter p).map f
  have hrows : ∀ a ∈ t.rows, p a = false → marked a = false := hold
  generalize t.rows = rows at hrows
  induction rows with
  | nil => rfl
  | cons a rows ih =>
    have hrest := ih fun b hb => hrows b (List.mem_cons_of_mem _ hb)
    rw [List.map_cons]
    cases hp : p a with
    | true =>
      rw [List.filter_cons_of_pos hp, List.map_cons, if_pos rfl,
        List.filter_cons_of_pos (hnew a hp), hrest]
    | false =>
      have hm : ¬ marked a = true := by simp [hrows a List.mem_cons_self hp]
      rw [if_neg Bool.false_ne_true, List.filter_cons_of_neg hm, hrest,
        List.filter_cons_of_neg (by simp [hp])]

/-- What is selected from a table with one more row. -/
theorem select_push (t : Serial α id) (mk : Nat → α) (hmk : ∀ n, id (mk n) = n) (sel : α → Bool) :
    (t.push mk hmk).select sel =
      t.select sel ++ if sel (mk (t.last + 1)) then [mk (t.last + 1)] else [] := by
  show List.filter sel (t.rows ++ [_]) = _
  rw [List.filter_append]
  cases h : sel (mk (t.last + 1)) with
  | true => rw [List.filter_cons_of_pos h]; rfl
  | false => rw [List.filter_cons_of_neg (by simp [h])]; rfl

/-- An update that keeps rows selected or not acts on the selected rows. -/
theorem select_update_map (t : Serial α id) (p : α → Bool) (f : α → α)
    (hf : ∀ a, id (f a) = id a) {sel : α → Bool} (h : ∀ a, sel (f a) = sel a) :
    (t.update p f hf).select sel = (t.select sel).map fun a => if p a then f a else a := by
  show List.filter sel (t.rows.map _) = _
  rw [List.filter_map]
  refine congrArg _ (List.filter_congr fun a _ => ?_)
  show sel (if p a then f a else a) = sel a
  split
  · exact h a
  · rfl

/-- An update after which no touched row is selected selects no more rows. -/
theorem select_update_length_le (t : Serial α id) (p : α → Bool) (f : α → α)
    (hf : ∀ a, id (f a) = id a) {sel : α → Bool} (h : ∀ a, sel (f a) = false) :
    ((t.update p f hf).select sel).length ≤ (t.select sel).length := by
  show (List.filter sel (t.rows.map _)).length ≤ (List.filter sel t.rows).length
  rw [← List.countP_eq_length_filter, ← List.countP_eq_length_filter, List.countP_map]
  refine List.countP_mono_left fun a _ ha => ?_
  have ha' : sel (if p a = true then f a else a) = true := ha
  split at ha'
  · rw [h a] at ha'
    cases ha'
  · exact ha'

end Serial

end Data
