import Mathlib.Data.List.Nodup

/-!
# Tables with a primary key

`Table α key` is a list of rows in insertion order no two of which share the
key, so a table that violates its key cannot be built. The operations are the
statements a relational store executes, and each carries the key along:

- `insert?`: `INSERT`, refused when the key is taken;
- `replace`: `INSERT OR REPLACE`;
- `update p f`: `UPDATE … WHERE p`, for an `f` that leaves the key alone;
- `delete p`: `DELETE … WHERE p`;
- `find?`, `select`: the two reads.
-/

namespace Data

/-- Rows in insertion order, with pairwise distinct keys. -/
structure Table (α : Type) {κ : Type} (key : α → κ) : Type where
  rows : List α
  nodup : (rows.map key).Nodup

namespace Table

variable {α κ : Type} {key : α → κ}

theorem ext {t t' : Table α key} (h : t.rows = t'.rows) : t = t' := by
  cases t
  cases t'
  cases h
  rfl

/-- The table without rows. -/
def empty : Table α key := ⟨[], List.nodup_nil⟩

instance : Membership α (Table α key) := ⟨fun t a => a ∈ t.rows⟩

theorem mem_def {t : Table α key} {a : α} : a ∈ t ↔ a ∈ t.rows := Iff.rfl

@[simp] theorem not_mem_empty (a : α) : a ∉ (empty : Table α key) := List.not_mem_nil

/-- Rows of one table with equal keys are equal. -/
theorem eq_of_key {t : Table α key} {a b : α} (ha : a ∈ t) (hb : b ∈ t)
    (h : key a = key b) : a = b :=
  List.inj_on_of_nodup_map t.nodup ha hb h

/-- The rows satisfying `p`, in insertion order. -/
def select (t : Table α key) (p : α → Bool) : List α := t.rows.filter p

/-- `UPDATE … WHERE p`. -/
def update (t : Table α key) (p : α → Bool) (f : α → α) (hf : ∀ a, key (f a) = key a) :
    Table α key where
  rows := t.rows.map fun a => if p a then f a else a
  nodup := by
    have hkeys : (t.rows.map fun a => if p a then f a else a).map key = t.rows.map key := by
      rw [List.map_map]
      refine List.map_congr_left fun a _ => ?_
      show key (if p a then f a else a) = key a
      split
      · exact hf a
      · rfl
    rw [hkeys]
    exact t.nodup

/-- `DELETE … WHERE p`. -/
def delete (t : Table α key) (p : α → Bool) : Table α key where
  rows := t.rows.filter fun a => !p a
  nodup := t.nodup.sublist (List.filter_sublist.map key)

theorem mem_update {t : Table α key} {p : α → Bool} {f : α → α}
    {hf : ∀ a, key (f a) = key a} {b : α} :
    b ∈ t.update p f hf ↔ ∃ a ∈ t, b = if p a then f a else a := by
  show b ∈ t.rows.map _ ↔ _
  rw [List.mem_map]
  exact ⟨fun ⟨a, ha, hb⟩ => ⟨a, ha, hb.symm⟩, fun ⟨a, ha, hb⟩ => ⟨a, ha, hb.symm⟩⟩

theorem mem_delete {t : Table α key} {p : α → Bool} {a : α} :
    a ∈ t.delete p ↔ a ∈ t ∧ p a = false := by
  show a ∈ t.rows.filter _ ↔ _
  simp [mem_def]

variable [DecidableEq κ]

/-- The row with the given key. -/
def find? (t : Table α key) (k : κ) : Option α := t.rows.find? fun a => key a = k

theorem find?_eq_some {t : Table α key} {k : κ} {a : α} :
    t.find? k = some a ↔ a ∈ t ∧ key a = k := by
  constructor
  · intro h
    exact ⟨List.mem_of_find?_eq_some h, by simpa using List.find?_some h⟩
  · rintro ⟨ha, rfl⟩
    cases hf : t.find? (key a) with
    | none =>
      have := List.find?_eq_none.mp hf a ha
      simp at this
    | some b =>
      have hb : key b = key a := by simpa using List.find?_some hf
      rw [eq_of_key (List.mem_of_find?_eq_some hf) ha hb]

theorem find?_eq_none {t : Table α key} {k : κ} :
    t.find? k = none ↔ ∀ a ∈ t, key a ≠ k := by
  simp [find?, List.find?_eq_none, mem_def]

theorem find?_isSome {t : Table α key} {k : κ} :
    (t.find? k).isSome ↔ ∃ a ∈ t, key a = k := by
  simp [find?, List.find?_isSome, mem_def]

@[simp] theorem find?_empty (k : κ) : (empty : Table α key).find? k = none := rfl

/-- `INSERT`: refused when the key is taken. -/
def insert? (t : Table α key) (a : α) : Option (Table α key) :=
  if h : key a ∈ t.rows.map key then none
  else some ⟨t.rows ++ [a], by
    rw [List.map_append, List.nodup_append]
    refine ⟨t.nodup, List.nodup_singleton _, ?_⟩
    rintro x hx y hy rfl
    rw [List.map_singleton, List.mem_singleton] at hy
    exact h (hy ▸ hx)⟩

theorem insert?_eq_some {t t' : Table α key} {a : α} :
    t.insert? a = some t' ↔ (∀ b ∈ t, key b ≠ key a) ∧ t'.rows = t.rows ++ [a] := by
  unfold insert?
  by_cases h : key a ∈ t.rows.map key
  · rw [dif_pos h]
    obtain ⟨b, hb, hk⟩ := List.mem_map.mp h
    exact ⟨fun hn => (nomatch hn), fun hn => absurd hk (hn.1 b hb)⟩
  · rw [dif_neg h]
    constructor
    · intro hs
      cases hs
      exact ⟨fun b hb hk => h (List.mem_map.mpr ⟨b, hb, hk⟩), rfl⟩
    · rintro ⟨-, hrows⟩
      exact congrArg some (ext hrows.symm)

theorem insert?_eq_none {t : Table α key} {a : α} :
    t.insert? a = none ↔ ∃ b ∈ t, key b = key a := by
  unfold insert?
  by_cases h : key a ∈ t.rows.map key
  · rw [dif_pos h]
    exact ⟨fun _ => List.mem_map.mp h, fun _ => rfl⟩
  · rw [dif_neg h]
    exact ⟨fun hn => (nomatch hn), fun ⟨b, hb, hk⟩ => absurd (List.mem_map.mpr ⟨b, hb, hk⟩) h⟩

theorem mem_of_insert? {t t' : Table α key} {a b : α} (h : t.insert? a = some t') :
    b ∈ t' ↔ b ∈ t ∨ b = a := by
  rw [mem_def, (insert?_eq_some.mp h).2]
  simp [mem_def]

theorem find?_of_insert? {t t' : Table α key} {a : α} (h : t.insert? a = some t') (k : κ) :
    t'.find? k = if key a = k then some a else t.find? k := by
  obtain ⟨hnew, hrows⟩ := insert?_eq_some.mp h
  unfold find?
  rw [hrows, List.find?_append]
  by_cases hk : key a = k
  · have hnone : t.find? k = none := find?_eq_none.mpr fun b hb hb' => hnew b hb (hb'.trans hk.symm)
    unfold find? at hnone
    simp [hnone, hk]
  · simp [hk]

/-- `INSERT OR REPLACE`: the row that holds the key goes first. -/
def replace (t : Table α key) (a : α) : Table α key where
  rows := (t.rows.filter fun b => key b ≠ key a) ++ [a]
  nodup := by
    rw [List.map_append, List.nodup_append]
    refine ⟨t.nodup.sublist (List.filter_sublist.map key), List.nodup_singleton _, ?_⟩
    rintro x hx y hy rfl
    rw [List.map_singleton, List.mem_singleton] at hy
    obtain ⟨b, hb, hk⟩ := List.mem_map.mp hx
    have := (List.mem_filter.mp hb).2
    simp only [decide_eq_true_eq] at this
    exact this (hk.trans hy)

theorem mem_replace {t : Table α key} {a b : α} :
    b ∈ t.replace a ↔ (b ∈ t ∧ key b ≠ key a) ∨ b = a := by
  show b ∈ (t.rows.filter _) ++ [a] ↔ _
  simp [mem_def]

@[simp] theorem find?_replace (t : Table α key) (a : α) (k : κ) :
    (t.replace a).find? k = if key a = k then some a else t.find? k := by
  by_cases hk : key a = k
  · rw [if_pos hk]
    exact find?_eq_some.mpr ⟨mem_replace.mpr (.inr rfl), hk⟩
  · rw [if_neg hk]
    cases hf : t.find? k with
    | none =>
      refine find?_eq_none.mpr fun b hb hbk => ?_
      rcases mem_replace.mp hb with ⟨hb, -⟩ | rfl
      · exact find?_eq_none.mp hf b hb hbk
      · exact hk hbk
    | some b =>
      obtain ⟨hb, hbk⟩ := find?_eq_some.mp hf
      refine find?_eq_some.mpr ⟨mem_replace.mpr (.inl ⟨hb, ?_⟩), hbk⟩
      exact fun h => hk (h.symm.trans hbk)

/-- Replacing leaves the rows of other keys alone. -/
theorem filter_replace (t : Table α key) (a : α) :
    ((t.replace a).rows.filter fun b => key b ≠ key a) = t.rows.filter fun b => key b ≠ key a := by
  show List.filter _ ((t.rows.filter _) ++ [a]) = _
  rw [List.filter_append, List.filter_filter]
  simp

/-- An update that does not touch keys acts on what is found. -/
theorem find?_update (t : Table α key) (p : α → Bool) (f : α → α)
    (hf : ∀ a, key (f a) = key a) (k : κ) :
    (t.update p f hf).find? k = (t.find? k).map fun a => if p a then f a else a := by
  have hkey : ∀ a, key (if p a then f a else a) = key a := by
    intro a
    split
    · exact hf a
    · rfl
  cases hfind : t.find? k with
  | none =>
    refine find?_eq_none.mpr fun b hb hbk => ?_
    obtain ⟨a, ha, rfl⟩ := mem_update.mp hb
    exact find?_eq_none.mp hfind a ha ((hkey a).symm.trans hbk)
  | some a =>
    obtain ⟨ha, hak⟩ := find?_eq_some.mp hfind
    exact find?_eq_some.mpr ⟨mem_update.mpr ⟨a, ha, rfl⟩, (hkey a).trans hak⟩

/-- What is found is what was found and has not been deleted. -/
theorem find?_delete (t : Table α key) (p : α → Bool) (k : κ) :
    (t.delete p).find? k = (t.find? k).filter fun a => !p a := by
  cases hfind : t.find? k with
  | none =>
    refine find?_eq_none.mpr fun b hb => ?_
    exact find?_eq_none.mp hfind b (mem_delete.mp hb).1
  | some a =>
    obtain ⟨ha, hak⟩ := find?_eq_some.mp hfind
    rw [Option.filter_some]
    cases hp : p a with
    | true =>
      rw [if_neg (by simp)]
      refine find?_eq_none.mpr fun b hb hbk => ?_
      obtain ⟨hb, hpb⟩ := mem_delete.mp hb
      rw [eq_of_key hb ha (hbk.trans hak.symm), hp] at hpb
      cases hpb
    | false =>
      rw [if_pos (by simp)]
      exact find?_eq_some.mpr ⟨mem_delete.mpr ⟨ha, hp⟩, hak⟩

/-- The rows of a key are the one that is found. -/
theorem filter_key (t : Table α key) (k : κ) :
    (t.rows.filter fun a => key a = k) = (t.find? k).toList := by
  obtain ⟨rows, hnodup⟩ := t
  show (rows.filter fun a => key a = k) = (rows.find? fun a => key a = k).toList
  induction rows with
  | nil => rfl
  | cons a rows ih =>
    rw [List.map_cons, List.nodup_cons] at hnodup
    by_cases hk : key a = k
    · have hrest : (rows.filter fun b => key b = k) = [] := by
        rw [List.filter_eq_nil_iff]
        intro b hb hbk
        refine hnodup.1 (List.mem_map.mpr ⟨b, hb, ?_⟩)
        rw [hk]
        simpa using hbk
      rw [List.filter_cons_of_pos (by simpa using hk), hrest,
        List.find?_cons_of_pos (by simpa using hk)]
      rfl
    · rw [List.filter_cons_of_neg (by simpa using hk),
        List.find?_cons_of_neg (by simpa using hk)]
      exact ih hnodup.2

/-- Counting rows with one key apart. -/
theorem countP_rows (t : Table α key) (p : α → Bool) (k : κ) :
    t.rows.countP p =
      (t.rows.filter fun a => key a ≠ k).countP p + if (t.find? k).any p then 1 else 0 := by
  rw [List.countP_eq_countP_filter_add t.rows p fun a => key a ≠ k]
  have hrest : (t.rows.filter fun a => !decide (key a ≠ k)) =
      (t.find? k).toList := by
    rw [← filter_key]
    exact List.filter_congr fun a _ => by simp
  rw [hrest]
  cases t.find? k with
  | none => rfl
  | some a => simp

end Table

end Data
