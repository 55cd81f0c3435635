import Nadi.Data.Sql

/-!
# Rows column by column

- `ofColumns`: a row by what it holds in each column.
- `Fits`: a row has nothing outside the columns of its table, so two rows of a
  table are equal when they are in each of its columns (`Fits.ext`).
- `insert_eq`, `update_eq` and the like: what a statement makes of the tables, by
  the constraint that decides it.
- `Layout`: records written as rows of a table, with nothing outside its columns
  and nothing missing; `Layout.insert_eq` and the like are the same statements on
  the records.
-/

namespace Data.Sql

variable {Tab T : Type}

/-- The row with the given values in the given columns, and NULL elsewhere. -/
def ofColumns (cells : List (String × Value T)) : Row T := fun name =>
  (cells.lookup name).getD .null

namespace Engine

variable (E : Engine Tab T) (tab : Tab)

/-- A row has nothing outside the columns of its table. -/
def Fits (row : Row T) : Prop := ∀ name, E.column tab name = none → row name = .null

variable {E tab}

theorem name_of_column {name : String} {c : Column T} (h : E.column tab name = some c) :
    c.name = name ∧ c ∈ (E.schema tab).columns :=
  ⟨by simpa using List.find?_some h, List.mem_of_find?_eq_some h⟩

theorem column_eq_none {name : String} :
    E.column tab name = none ↔ ∀ c ∈ (E.schema tab).columns, c.name ≠ name := by
  unfold column
  rw [List.find?_eq_none]
  simp only [beq_iff_eq, ne_eq]

/-- **Rows are equal** when they are in each column of the table. -/
theorem Fits.ext {row row' : Row T} (h : E.Fits tab row) (h' : E.Fits tab row')
    (hcells : ∀ c ∈ (E.schema tab).columns, row c.name = row' c.name) : row = row' := by
  funext name
  cases hcol : E.column tab name with
  | none => rw [h name hcol, h' name hcol]
  | some c =>
    obtain ⟨rfl, hmem⟩ := name_of_column hcol
    exact hcells c hmem

theorem fits_row (names : List String) (values : ℕ → Value T) :
    E.Fits tab (E.row tab names values) := by
  intro name h
  unfold row stored
  rw [h]
  split <;> rfl

theorem fits_ofColumns {cells : List (String × Value T)}
    (h : cells.map Prod.fst = (E.schema tab).columns.map Column.name) :
    E.Fits tab (ofColumns cells) := by
  intro name hnone
  have hlookup : cells.lookup name = none := by
    rw [List.lookup_eq_none_iff]
    intro cell hcell
    obtain ⟨c, hc, hname⟩ := List.mem_map.mp (h ▸ List.mem_map_of_mem (f := Prod.fst) hcell)
    rw [← hname, bne_iff_ne]
    exact (column_eq_none.mp hnone c hc).symm
  show (cells.lookup name).getD .null = .null
  rw [hlookup]
  rfl

theorem fits_changed {sets : Changes T} {old : Row T} (h : E.Fits tab old) :
    E.Fits tab (E.changed tab sets old) := by
  intro name hnone
  unfold changed stored
  rw [hnone]
  split
  · rfl
  · exact h name hnone

theorem fits_update {name : String} {v : Value T} {row : Row T} (h : E.Fits tab row)
    (hname : (E.column tab name).isSome) : E.Fits tab (Function.update row name v) := by
  intro other hnone
  rw [Function.update_of_ne, h other hnone]
  rintro rfl
  rw [hnone] at hname
  cases hname

/-- A row that is filled needs no defaults. -/
theorem withDefaults_of_filled {row : Row T} (h : E.Filled tab row) :
    E.withDefaults tab row = row := by
  funext name
  unfold withDefaults
  cases hcol : E.column tab name with
  | none => rfl
  | some c =>
    obtain ⟨rfl, hmem⟩ := name_of_column hcol
    dsimp only
    rw [if_neg]
    rw [Bool.and_eq_true, Value.isNull_iff]
    exact fun ⟨hnotNull, hnull⟩ => h c hmem hnotNull hnull

variable (E tab) in
/-- A table gives out numbers in a column that belongs to no constraint. -/
structure Numbered (id : String) : Prop where
  serial : (E.schema tab).serial = some id
  keys : ∀ key ∈ (E.schema tab).keys, id ∉ key
  foreign : ∀ f ∈ (E.schema tab).foreign, f.column ≠ id
  nullable : ∀ c ∈ (E.schema tab).columns, c.name = id → c.notNull = false

/-! ## What a statement makes of the tables -/

section Outcomes

variable [DecidableEq Tab] [Field T] [LinearOrder T] {row : Row T} {d : Database Tab T}

theorem putReferring_eq (h : E.Refers tab row d) :
    E.putReferring tab row d = .ok (E.put tab row d) := if_pos (E.refers_iff tab |>.mpr h)

theorem putReferring_eq_error (h : ¬ E.Refers tab row d) :
    E.putReferring tab row d = .error .foreignKey :=
  if_neg fun hrefers => h (E.refers_iff tab |>.mp hrefers)

theorem insert_eq (hfilled : E.Filled tab row) (hfree : E.Free tab row (d tab).rows) :
    E.insert tab row d = E.putReferring tab row d := by
  unfold insert
  rw [(E.missing_eq_none tab).mpr hfilled]
  dsimp only
  rw [(E.taken_eq_none tab).mpr hfree]

theorem insert_eq_unique {key : List String} (hfilled : E.Filled tab row)
    (h : E.taken tab row (d tab).rows = some key) :
    E.insert tab row d = .error (.unique key) := by
  unfold insert
  rw [(E.missing_eq_none tab).mpr hfilled]
  dsimp only
  rw [h]

theorem insertOrIgnore_eq (hfilled : E.Filled tab row) (hfree : E.Free tab row (d tab).rows) :
    E.insertOrIgnore tab row d = E.putReferring tab row d := by
  unfold insertOrIgnore
  rw [(E.missing_eq_none tab).mpr hfilled, (E.taken_eq_none tab).mpr hfree]
  rfl

theorem insertOrIgnore_eq_self (h : ¬ E.Free tab row (d tab).rows) :
    E.insertOrIgnore tab row d = .ok d := by
  unfold insertOrIgnore
  rw [if_pos]
  rw [Bool.or_eq_true]
  refine .inr (Option.isSome_iff_ne_none.mpr fun hnone => h ?_)
  exact (E.taken_eq_none tab).mp hnone

theorem insertOrReplace_eq (hfilled : E.Filled tab row) :
    E.insertOrReplace tab row d = E.putReferring tab row (E.without tab row d) := by
  unfold insertOrReplace
  rw [withDefaults_of_filled hfilled]
  dsimp only
  rw [(E.missing_eq_none tab).mpr hfilled]

omit [Field T] [LinearOrder T] in
theorem update_eq {sets : Changes T} {which : Row T → Bool} (h : E.Keeps tab d sets which) :
    E.update tab d sets which = .ok (Function.update d tab { d tab with
      rows := (d tab).rows.map fun old => if which old then E.changed tab sets old else old }) := by
  have hnone : ((d tab).rows.filter which).findSome? (E.erased tab sets) = none := by
    rw [List.findSome?_eq_none_iff]
    intro old hold
    obtain ⟨hmem, hwhich⟩ := List.mem_filter.mp hold
    exact erased_eq_none.mpr (h old hmem hwhich)
  unfold update
  rw [hnone]

end Outcomes

end Engine

/-! ## Records -/

/-- How the records of a table are written as rows. -/
structure Layout (E : Engine Tab T) (tab : Tab) (ρ : Type) where
  cells : ρ → Row T
  fits : ∀ r, E.Fits tab (cells r)
  filled : ∀ r, E.Filled tab (cells r)

namespace Layout

variable {E : Engine Tab T} {tab : Tab} {ρ : Type} (L : Layout E tab ρ)

/-- A row is that of a record if it is in each column. -/
theorem eq_cells {row : Row T} {r : ρ} (h : E.Fits tab row)
    (hcells : ∀ c ∈ (E.schema tab).columns, row c.name = L.cells r c.name) : row = L.cells r :=
  h.ext (L.fits r) hcells

variable {d : Database Tab T} {rows : List ρ} {which : Row T → Bool} {p : ρ → Bool}

/-- `SELECT`, on records. -/
theorem filter_eq (hrows : (d tab).rows = rows.map L.cells)
    (hwhich : ∀ r ∈ rows, which (L.cells r) = p r) :
    (d tab).rows.filter which = (rows.filter p).map L.cells := by
  rw [hrows, List.filter_map]
  exact congrArg (List.map L.cells) (List.filter_congr hwhich)

section Changes

variable [DecidableEq Tab]

/-- `DELETE`, on records. -/
theorem delete_eq (hrows : (d tab).rows = rows.map L.cells)
    (hwhich : ∀ r ∈ rows, which (L.cells r) = p r) :
    Engine.delete tab d which = Function.update d tab
      ⟨(rows.filter fun r => !p r).map L.cells, (d tab).last⟩ := by
  unfold Engine.delete
  have hkept : ∀ r ∈ rows, (!which (L.cells r)) = !p r := fun r hr => congrArg not (hwhich r hr)
  rw [L.filter_eq hrows hkept]

/-- `UPDATE`, on records. -/
theorem update_eq {sets : Engine.Changes T} {f : ρ → ρ} (hrows : (d tab).rows = rows.map L.cells)
    (hwhich : ∀ r ∈ rows, which (L.cells r) = p r)
    (hsets : ∀ r ∈ rows, p r = true → E.changed tab sets (L.cells r) = L.cells (f r)) :
    E.update tab d sets which = .ok (Function.update d tab
      ⟨(rows.map fun r => if p r then f r else r).map L.cells, (d tab).last⟩) := by
  have hkeeps : E.Keeps tab d sets which := by
    intro old hold hwhichOld c hc hnotNull _
    rw [hrows] at hold
    obtain ⟨r, hr, rfl⟩ := List.mem_map.mp hold
    rw [hsets r hr ((hwhich r hr).symm.trans hwhichOld)]
    exact L.filled (f r) c hc hnotNull
  rw [Engine.update_eq hkeeps, hrows, List.map_map, List.map_map]
  refine congrArg (fun t => Except.ok (Function.update d tab ⟨t, (d tab).last⟩)) ?_
  refine List.map_congr_left fun r hr => ?_
  show (if which (L.cells r) then E.changed tab sets (L.cells r) else L.cells r) =
    L.cells (if p r then f r else r)
  rw [hwhich r hr, apply_ite L.cells]
  split
  · rename_i hp
    exact hsets r hr hp
  · rfl

end Changes

variable [Field T] [LinearOrder T] {r : ρ}

/-- The keys of a record are free. -/
theorem free_iff (hrows : (d tab).rows = rows.map L.cells) :
    E.Free tab (L.cells r) (d tab).rows ↔
      ∀ key ∈ (E.schema tab).keys, ∀ old ∈ rows,
        Engine.clash key (L.cells r) (L.cells old) = false := by
  unfold Engine.Free
  rw [hrows]
  simp only [List.forall_mem_map]

variable [DecidableEq Tab]

/-- `INSERT`, of a record whose keys are free and whose references exist. -/
theorem insert_eq (hfree : E.Free tab (L.cells r) (d tab).rows)
    (hrefers : E.Refers tab (L.cells r) d) :
    E.insert tab (L.cells r) d = .ok (E.put tab (L.cells r) d) :=
  (Engine.insert_eq (L.filled r) hfree).trans (Engine.putReferring_eq hrefers)

/-! ### Numbered records -/

section Numbered

variable {id : String} (hid : E.Numbered tab id)

/-- The row of a record, before it has a number. -/
def unnumbered (id : String) (r : ρ) : Row T := Function.update (L.cells r) id .null

include hid

omit [DecidableEq Tab] [Field T] [LinearOrder T] in
theorem filled_unnumbered (r : ρ) : E.Filled tab (L.unnumbered id r) := by
  intro c hc hnotNull
  have hne : c.name ≠ id := fun h => by
    rw [hid.nullable c hc h] at hnotNull
    cases hnotNull
  unfold unnumbered
  rw [Function.update_of_ne hne]
  exact L.filled r c hc hnotNull

omit [DecidableEq Tab] in
theorem free_unnumbered {rows : List (Row T)} :
    E.Free tab (L.unnumbered id r) rows ↔ E.Free tab (L.cells r) rows := by
  refine forall₂_congr fun key hkey => forall₂_congr fun old _ => ?_
  have hcell : ∀ c ∈ key, L.unnumbered id r c = L.cells r c := fun c hc =>
    Function.update_of_ne (fun heq : c = id => hid.keys key hkey (heq ▸ hc)) _ _
  unfold Engine.clash
  rw [List.all_eq_false, List.all_eq_false]
  exact exists_congr fun c => and_congr_right fun hc => by rw [hcell c hc]

omit [DecidableEq Tab] in
theorem refers_unnumbered : E.Refers tab (L.unnumbered id r) d ↔ E.Refers tab (L.cells r) d := by
  refine forall₂_congr fun f hf => ?_
  unfold unnumbered
  rw [Function.update_of_ne (hid.foreign f hf)]

/-- `INSERT`, of a record with the next number. -/
theorem insert_unnumbered_eq (hnumber : L.cells r id = .int ((d tab).last + 1))
    (hfree : E.Free tab (L.cells r) (d tab).rows) (hrefers : E.Refers tab (L.cells r) d) :
    E.insert tab (L.unnumbered id r) d =
      .ok (Function.update d tab ⟨(d tab).rows ++ [L.cells r], (d tab).last + 1⟩) := by
  rw [Engine.insert_eq (L.filled_unnumbered hid r) ((L.free_unnumbered hid).mpr hfree),
    Engine.putReferring_eq ((L.refers_unnumbered hid).mpr hrefers)]
  have hrow : Function.update (L.unnumbered id r) id (.int ((d tab).last + 1)) = L.cells r := by
    unfold unnumbered
    rw [Function.update_idem, ← hnumber, Function.update_eq_self]
  unfold Engine.put
  rw [hid.serial]
  dsimp only
  rw [hrow]

theorem insert_unnumbered_eq_foreignKey (hfree : E.Free tab (L.cells r) (d tab).rows)
    (hrefers : ¬ E.Refers tab (L.cells r) d) :
    E.insert tab (L.unnumbered id r) d = .error .foreignKey := by
  rw [Engine.insert_eq (L.filled_unnumbered hid r) ((L.free_unnumbered hid).mpr hfree),
    Engine.putReferring_eq_error fun hrow => hrefers ((L.refers_unnumbered hid).mp hrow)]

end Numbered

end Layout

end Data.Sql
