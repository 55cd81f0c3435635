import Nadi.Data.Columns

/-!
# Constraints that hold of every row

- `Sound`: NOT NULL, UNIQUE and FOREIGN KEY hold of every row of a database, and
  numbered tables give out numbers in order.
- `Regular`: a schema whose numbers take part in no constraint.
- `Apart`: a column that takes part in no constraint; `Harmless`: a statement sets no
  others. `Unreferred`: no table refers to a table.
- `insert_of_ne` and the like: a statement leaves the other tables as they were.
- `Sound.insert` and the like: a statement that is accepted makes a sound database
  of a sound one, if it sets harmless columns, or takes rows out of a table that
  is not referred to.
-/

namespace Data.Sql

variable {Tab T : Type}

section Values

variable [Field T] [LinearOrder T]

theorem Value.same_comm (a b : Value T) : a.same b = b.same a := by
  cases a <;> cases b <;> simp only [Value.same, Bool.beq_comm, eq_comm]

/-- Numbers are in the order of what they stand for. -/
@[simp] theorem Value.less_int (m n : Int) : (Value.int m : Value T).less (.int n) = decide (m < n) :=
  rfl

end Values

namespace Engine

variable (E : Engine Tab T)

/-! ## Schemas -/

/-- The numbers that tables give out take part in no constraint. -/
def Regular : Prop := ∀ tab id, (E.schema tab).serial = some id → E.Numbered tab id

/-- No table refers to this one. -/
def Unreferred (tab : Tab) : Prop := ∀ other, ∀ f ∈ (E.schema other).foreign, f.table ≠ tab

/-- A column that takes part in no constraint but NOT NULL. -/
structure Apart (tab : Tab) (name : String) : Prop where
  keys : ∀ key ∈ (E.schema tab).keys, name ∉ key
  foreign : ∀ f ∈ (E.schema tab).foreign, f.column ≠ name
  referred : ∀ other, ∀ f ∈ (E.schema other).foreign, f.table = tab → f.key ≠ name
  serial : (E.schema tab).serial ≠ some name

/-- A statement sets columns that take part in no constraint but NOT NULL. -/
def Harmless (tab : Tab) (sets : Changes T) : Prop :=
  ∀ name, (sets.lookup name).isSome = true → E.Apart tab name

section Sound

variable [Field T] [LinearOrder T]

/-- The constraints hold of every row. -/
structure Sound (d : Database Tab T) : Prop where
  filled : ∀ tab, ∀ row ∈ (d tab).rows, E.Filled tab row
  distinct : ∀ tab, ∀ key ∈ (E.schema tab).keys,
    (d tab).rows.Pairwise fun old row => clash key old row = false
  refers : ∀ tab, ∀ row ∈ (d tab).rows, E.Refers tab row d
  numbered : ∀ tab id, (E.schema tab).serial = some id →
    (∀ row ∈ (d tab).rows, ∃ n ≤ (d tab).last, row id = .int n) ∧
      (d tab).rows.Pairwise fun old row => (old id).less (row id) = true

theorem sound_empty : E.Sound Database.empty where
  filled _ _ h := nomatch h
  distinct _ _ _ := .nil
  refers _ _ h := nomatch h
  numbered _ _ _ := ⟨fun _ h => (nomatch h), .nil⟩

variable {E} {tab : Tab} {row : Row T} {d d' : Database Tab T}

theorem clash_comm (key : List String) (row old : Row T) : clash key row old = clash key old row := by
  unfold clash
  simp only [Value.same_comm (row _)]

theorem clash_congr {key : List String} {row row' : Row T} (h : ∀ c ∈ key, row c = row' c)
    (old : Row T) : clash key row old = clash key row' old := by
  unfold clash
  rw [Bool.eq_iff_iff, List.all_eq_true, List.all_eq_true]
  exact forall₂_congr fun c hc => by rw [h c hc]

/-- A row still refers to rows that are there if they have the same keys after a
change. -/
theorem Refers.of_parents (h : E.Refers tab row d)
    (hparents : ∀ f ∈ (E.schema tab).foreign, ∀ parent ∈ (d f.table).rows,
      ∃ parent' ∈ (d' f.table).rows, parent' f.key = parent f.key) : E.Refers tab row d' := by
  intro f hf hne
  obtain ⟨parent, hparent, hsame⟩ := h f hf hne
  obtain ⟨parent', hparent', hkey⟩ := hparents f hf parent hparent
  exact ⟨parent', hparent', by rw [hkey]; exact hsame⟩

theorem Refers.congr {row' : Row T} (h : E.Refers tab row d)
    (hrow : ∀ f ∈ (E.schema tab).foreign, row' f.column = row f.column) : E.Refers tab row' d := by
  intro f hf hne
  rw [hrow f hf] at hne ⊢
  exact h f hf hne

/-! ## Rows that are added -/

section Statements

variable [DecidableEq Tab]

/-- The row that is added, with its number. -/
def placed (E : Engine Tab T) (tab : Tab) (row : Row T) (d : Database Tab T) : Row T :=
  match (E.schema tab).serial with
  | none => row
  | some id => Function.update row id (.int ((d tab).last + 1))

omit [Field T] [LinearOrder T] in
theorem put_self : (E.put tab row d tab).rows = (d tab).rows ++ [E.placed tab row d] := by
  unfold put placed
  rw [Function.update_self]
  cases (E.schema tab).serial <;> rfl

omit [Field T] [LinearOrder T] in
theorem put_of_ne {other : Tab} (h : other ≠ tab) : E.put tab row d other = d other :=
  Function.update_of_ne h _ _

omit [Field T] [LinearOrder T] in
/-- Rows that are there stay. -/
theorem mem_put {other : Tab} {old : Row T} (h : old ∈ (d other).rows) :
    old ∈ (E.put tab row d other).rows := by
  by_cases hother : other = tab
  · subst hother
    rw [put_self]
    exact List.mem_append_left _ h
  · rw [put_of_ne hother]
    exact h

omit [Field T] [LinearOrder T] [DecidableEq Tab] in
/-- The number makes no difference to the other columns. -/
theorem placed_apart {name : String}
    (h : ∀ id, (E.schema tab).serial = some id → name ≠ id) : E.placed tab row d name = row name := by
  unfold placed
  cases hserial : (E.schema tab).serial with
  | none => rfl
  | some id => exact Function.update_of_ne (h id hserial) _ _

/-- **A row is added** that satisfies the constraints. -/
theorem Sound.put (hregular : E.Regular) (h : E.Sound d) (hfilled : E.Filled tab row)
    (hfree : E.Free tab row (d tab).rows) (hrefers : E.Refers tab row d) :
    E.Sound (E.put tab row d) := by
  -- what holds of the rows of a table holds if it holds of its old rows and the new one
  have hrows : ∀ {P : Tab → Row T → Prop}, (∀ other, ∀ old ∈ (d other).rows, P other old) →
      P tab (E.placed tab row d) → ∀ other, ∀ old ∈ (E.put tab row d other).rows, P other old := by
    intro P hold hnew other old hmem
    by_cases hother : other = tab
    · subst hother
      rw [put_self, List.mem_append, List.mem_singleton] at hmem
      rcases hmem with hmem | rfl
      · exact hold _ _ hmem
      · exact hnew
    · rw [put_of_ne hother] at hmem
      exact hold _ _ hmem
  have hpairs : ∀ {R : Row T → Row T → Prop} (other : Tab), (d other).rows.Pairwise R →
      (other = tab → ∀ old ∈ (d tab).rows, R old (E.placed tab row d)) →
        (E.put tab row d other).rows.Pairwise R := by
    intro R other hold hnew
    by_cases hother : other = tab
    · subst hother
      rw [put_self, List.pairwise_append]
      exact ⟨hold, List.pairwise_singleton _ _, fun old hmem _ hlast =>
        List.mem_singleton.mp hlast ▸ hnew rfl old hmem⟩
    · rw [put_of_ne hother]
      exact hold
  refine ⟨hrows h.filled ?_, fun other key hkey => hpairs other (h.distinct other key hkey) ?_,
    hrows (fun other old hmem => ?_) ?_, fun other id hserial => ⟨?_, ?_⟩⟩
  · intro c hc hnotNull
    rw [placed_apart]
    · exact hfilled c hc hnotNull
    · rintro id hserial rfl
      cases hnotNull.symm.trans ((hregular tab _ hserial).nullable c hc rfl)
  · rintro rfl old hmem
    have hplaced : ∀ c ∈ key, E.placed other row d c = row c := by
      refine fun c hc => placed_apart ?_
      rintro id hserial rfl
      exact (hregular _ _ hserial).keys key hkey hc
    rw [clash_comm, clash_congr hplaced]
    exact hfree key hkey old hmem
  · exact (h.refers other old hmem).of_parents fun f _ parent hparent => ⟨parent, mem_put hparent, rfl⟩
  · refine (hrefers.congr fun f hf => placed_apart ?_).of_parents
      fun f _ parent hparent => ⟨parent, mem_put hparent, rfl⟩
    exact fun id hserial => (hregular tab id hserial).foreign f hf
  · intro old hmem
    by_cases hother : other = tab
    · subst hother
      have hlast : (E.put other row d other).last = (d other).last + 1 := by
        unfold Engine.put
        rw [Function.update_self, hserial]
      rw [hlast]
      rw [put_self, List.mem_append, List.mem_singleton] at hmem
      rcases hmem with hmem | rfl
      · obtain ⟨n, hn, hid⟩ := (h.numbered other id hserial).1 old hmem
        exact ⟨n, by omega, hid⟩
      · refine ⟨_, le_refl _, ?_⟩
        unfold placed
        rw [hserial]
        exact Function.update_self ..
    · rw [put_of_ne hother] at hmem ⊢
      exact (h.numbered other id hserial).1 old hmem
  · refine hpairs other (h.numbered other id hserial).2 ?_
    rintro rfl old hmem
    obtain ⟨n, hn, hid⟩ := (h.numbered other id hserial).1 old hmem
    have hnew : E.placed other row d id = .int ((d other).last + 1) := by
      unfold placed
      rw [hserial]
      exact Function.update_self ..
    rw [hid, hnew, Value.less_int, decide_eq_true_eq]
    omega

theorem Sound.putReferring (hregular : E.Regular) (h : E.Sound d) (hfilled : E.Filled tab row)
    (hfree : E.Free tab row (d tab).rows) (hput : E.putReferring tab row d = .ok d') :
    E.Sound d' := by
  have hrefers := putReferring_ok_iff.mp ⟨d', hput⟩
  rw [putReferring_eq hrefers] at hput
  cases hput
  exact h.put hregular hfilled hfree hrefers

/-- `INSERT`. -/
theorem Sound.insert (hregular : E.Regular) (h : E.Sound d)
    (hinsert : E.insert tab row d = .ok d') : E.Sound d' := by
  obtain ⟨hfilled, hfree, -⟩ := insert_ok_iff.mp ⟨d', hinsert⟩
  rw [insert_eq hfilled hfree] at hinsert
  exact h.putReferring hregular hfilled hfree hinsert

/-- `INSERT OR IGNORE`. -/
theorem Sound.insertOrIgnore (hregular : E.Regular) (h : E.Sound d)
    (hinsert : E.insertOrIgnore tab row d = .ok d') : E.Sound d' := by
  unfold Engine.insertOrIgnore at hinsert
  split at hinsert
  · cases hinsert
    exact h
  · rename_i hnone
    simp only [Bool.or_eq_true, not_or, Bool.not_eq_true, Option.isSome_eq_false_iff,
      Option.isNone_iff_eq_none] at hnone
    exact h.putReferring hregular ((E.missing_eq_none tab).mp hnone.1)
      ((E.taken_eq_none tab).mp hnone.2) hinsert

/-! ## Other tables -/

section Others

variable {other : Tab} {sets : Changes T}

theorem putReferring_of_ne (h : E.putReferring tab row d = .ok d') (hne : other ≠ tab) :
    d' other = d other := by
  rw [putReferring_eq (putReferring_ok_iff.mp ⟨d', h⟩)] at h
  cases h
  exact put_of_ne hne

theorem insert_of_ne (h : E.insert tab row d = .ok d') (hne : other ≠ tab) : d' other = d other := by
  obtain ⟨hfilled, hfree, -⟩ := insert_ok_iff.mp ⟨d', h⟩
  rw [insert_eq hfilled hfree] at h
  exact putReferring_of_ne h hne

theorem insertOrIgnore_of_ne (h : E.insertOrIgnore tab row d = .ok d') (hne : other ≠ tab) :
    d' other = d other := by
  unfold Engine.insertOrIgnore at h
  split at h
  · cases h
    rfl
  · exact putReferring_of_ne h hne

omit [Field T] [LinearOrder T] in
theorem update_of_ne {which : Row T → Bool} (h : E.update tab d sets which = .ok d')
    (hne : other ≠ tab) : d' other = d other := by
  rw [update_eq (update_ok_iff.mp ⟨d', h⟩)] at h
  cases h
  exact Function.update_of_ne hne _ _

theorem upsert_of_ne {key : List String} (h : E.upsert tab row d key sets = .ok d')
    (hne : other ≠ tab) : d' other = d other := by
  unfold Engine.upsert at h
  split at h
  · cases h
  · split at h
    · exact update_of_ne h hne
    · exact insert_of_ne h hne

end Others

/-! ## Rows that are taken out -/

/-- **Rows are taken out** of a table that is not referred to. -/
theorem Sound.filter (h : E.Sound d) (hunreferred : E.Unreferred tab) (p : Row T → Bool) :
    E.Sound (Function.update d tab { d tab with rows := (d tab).rows.filter p }) := by
  set d₁ := Function.update d tab { d tab with rows := (d tab).rows.filter p } with hd₁
  have hsublist : ∀ other, (d₁ other).rows.Sublist (d other).rows := by
    intro other
    by_cases hother : other = tab
    · subst hother
      rw [hd₁, Function.update_self]
      exact List.filter_sublist
    · rw [hd₁, Function.update_of_ne hother]
  have hlast : ∀ other, (d₁ other).last = (d other).last := by
    intro other
    by_cases hother : other = tab
    · subst hother
      rw [hd₁, Function.update_self]
    · rw [hd₁, Function.update_of_ne hother]
  refine ⟨fun other old hmem => h.filled other old ((hsublist other).subset hmem),
    fun other key hkey => (h.distinct other key hkey).sublist (hsublist other),
    fun other old hmem => ?_, fun other id hserial => ⟨fun old hmem => ?_, ?_⟩⟩
  · refine (h.refers other old ((hsublist other).subset hmem)).of_parents fun f hf parent hparent => ?_
    rw [hd₁, Function.update_of_ne (hunreferred other f hf)]
    exact ⟨parent, hparent, rfl⟩
  · rw [hlast]
    exact (h.numbered other id hserial).1 old ((hsublist other).subset hmem)
  · exact (h.numbered other id hserial).2.sublist (hsublist other)

/-- `DELETE`. -/
theorem Sound.delete (h : E.Sound d) (hunreferred : E.Unreferred tab) (which : Row T → Bool) :
    E.Sound (Engine.delete tab d which) := h.filter hunreferred _

/-- `INSERT OR REPLACE`. -/
theorem Sound.insertOrReplace (hregular : E.Regular) (h : E.Sound d)
    (hunreferred : E.Unreferred tab) (hinsert : E.insertOrReplace tab row d = .ok d') :
    E.Sound d' := by
  obtain ⟨hfilled, -⟩ := insertOrReplace_ok_iff.mp ⟨d', hinsert⟩
  unfold Engine.insertOrReplace at hinsert
  dsimp only at hinsert
  rw [(E.missing_eq_none tab).mpr hfilled] at hinsert
  refine (h.filter hunreferred _).putReferring hregular hfilled (fun key hkey old hmem => ?_) hinsert
  rw [Function.update_self] at hmem
  have hkept := (List.mem_filter.mp hmem).2
  rw [Bool.not_eq_true', List.any_eq_false] at hkept
  exact Bool.eq_false_iff.mpr (hkept key hkey)

/-! ## Rows that are changed -/

omit [Field T] [LinearOrder T] [DecidableEq Tab] in
theorem changed_of_none {sets : Changes T} {name : String} (h : sets.lookup name = none)
    (old : Row T) : E.changed tab sets old name = old name := by
  unfold changed
  rw [h]

/-- **Columns that take part in no constraint are set.** -/
theorem Sound.update {sets : Changes T} {which : Row T → Bool} (h : E.Sound d)
    (hharmless : E.Harmless tab sets) (hupdate : E.update tab d sets which = .ok d') :
    E.Sound d' := by
  have hkeeps := update_ok_iff.mp ⟨d', hupdate⟩
  rw [update_eq hkeeps] at hupdate
  cases hupdate
  set change : Row T → Row T := fun old => if which old then E.changed tab sets old else old
  set d₁ := Function.update d tab { d tab with rows := (d tab).rows.map change } with hd₁
  have hsame : ∀ {name : String}, ¬ E.Apart tab name → ∀ old : Row T, change old name = old name := by
    intro name hname old
    have hnone : sets.lookup name = none := by
      rw [← Option.not_isSome_iff_eq_none]
      exact fun hsome => hname (hharmless name hsome)
    show (if which old then E.changed tab sets old else old) name = old name
    split
    · exact changed_of_none hnone old
    · rfl
  -- the rows of each table, before and after
  have hrows : ∀ other, ∃ g : Row T → Row T, (d₁ other).rows = (d other).rows.map g ∧
      (∀ {name : String}, ¬ E.Apart other name → ∀ old, g old name = old name) ∧
        ∀ old ∈ (d other).rows, E.Filled other (g old) := by
    intro other
    by_cases hother : other = tab
    · subst hother
      refine ⟨change, by rw [hd₁, Function.update_self], hsame, fun old hmem c hc hnotNull => ?_⟩
      show (if which old then E.changed other sets old else old) c.name ≠ .null
      split
      · rename_i hwhich
        cases hlookup : sets.lookup c.name with
        | none =>
          rw [changed_of_none hlookup]
          exact h.filled other old hmem c hc hnotNull
        | some value => exact hkeeps old hmem hwhich c hc hnotNull (by rw [hlookup]; rfl)
      · exact h.filled other old hmem c hc hnotNull
    · refine ⟨id, ?_, fun _ _ => rfl, h.filled other⟩
      rw [hd₁, Function.update_of_ne hother, List.map_id]
  have hlast : ∀ other, (d₁ other).last = (d other).last := by
    intro other
    by_cases hother : other = tab
    · subst hother
      rw [hd₁, Function.update_self]
    · rw [hd₁, Function.update_of_ne hother]
  refine ⟨fun other => ?_, fun other key hkey => ?_, fun other => ?_, fun other id hserial => ⟨?_, ?_⟩⟩
  all_goals obtain ⟨g, hg, hfix, hfilled⟩ := hrows other
  all_goals rw [hg]
  · exact List.forall_mem_map.mpr hfilled
  · refine List.pairwise_map.mpr ((h.distinct other key hkey).imp fun {old row} hclash => ?_)
    have hkeys : ∀ (row : Row T), ∀ c ∈ key, g row c = row c :=
      fun row c hc => hfix (fun hapart => hapart.keys key hkey hc) row
    rw [clash_congr (hkeys old), clash_comm, clash_congr (hkeys row), clash_comm]
    exact hclash
  · refine List.forall_mem_map.mpr fun old hmem => ?_
    refine ((h.refers other old hmem).congr fun f hf => ?_).of_parents fun f hf parent hparent => ?_
    · exact hfix (fun hapart => hapart.foreign f hf rfl) old
    · obtain ⟨g', hg', hfix', -⟩ := hrows f.table
      rw [hg']
      exact ⟨g' parent, List.mem_map_of_mem hparent,
        hfix' (fun hapart => hapart.referred other f hf rfl rfl) parent⟩
  · rw [hlast]
    refine List.forall_mem_map.mpr fun old hmem => ?_
    rw [hfix fun hapart => hapart.serial hserial]
    exact (h.numbered other id hserial).1 old hmem
  · refine List.pairwise_map.mpr ((h.numbered other id hserial).2.imp fun {old row} hless => ?_)
    rw [hfix fun hapart => hapart.serial hserial, hfix fun hapart => hapart.serial hserial]
    exact hless

/-- `INSERT … ON CONFLICT DO UPDATE`. -/
theorem Sound.upsert {key : List String} {sets : Changes T} (hregular : E.Regular) (h : E.Sound d)
    (hharmless : E.Harmless tab sets) (hupsert : E.upsert tab row d key sets = .ok d') :
    E.Sound d' := by
  unfold Engine.upsert at hupsert
  split at hupsert
  · cases hupsert
  · split at hupsert
    · exact h.update hharmless hupsert
    · exact h.insert hregular hupsert

end Statements

end Sound

end Engine

end Data.Sql
