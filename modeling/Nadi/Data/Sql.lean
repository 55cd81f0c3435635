import Mathlib.Algebra.Order.Field.Basic
import Mathlib.Data.List.Sort

/-!
# Tables with constraints, and the statements that change them

- `Value`: what a cell of a table holds, with `=` and `<` as a query has them:
  NULL is equal to nothing and less than nothing.
- `Engine`: the schema of each table, and how a value is converted to the
  affinity of the column it is stored in or compared with.
- `insert`, `insertOrIgnore`, `insertOrReplace`, `upsert`, `update`, `delete`: a
  statement gives the tables after it, or the constraint that refuses it.
- `Filled`, `Free`, `Refers`: the constraints NOT NULL, UNIQUE and FOREIGN KEY as
  properties of a row, and for each statement that it is accepted if and only if
  they hold (`insert_ok_iff` and the like).

A table numbered by `serial` gives out one more than it ever gave. The columns an
`update` sets belong to no key, and the rows that are deleted or replaced are
referred to by nothing.
-/

namespace Data.Sql

variable {Tab T : Type}

/-! ## Values -/

inductive Value (T : Type) where
  | null
  | int (n : Int)
  | real (x : T)
  | text (s : String)
  | blob (bytes : List UInt8)
  deriving DecidableEq

namespace Value

def isNull : Value T → Bool
  | .null => true
  | _ => false

theorem isNull_iff {v : Value T} : v.isNull = true ↔ v = .null := by
  cases v <;> simp [isNull]

variable [Field T] [LinearOrder T]

/-- `a = b`. -/
def same : Value T → Value T → Bool
  | .int m, .int n => m == n
  | .int m, .real y => decide ((m : T) = y)
  | .real x, .int n => decide (x = (n : T))
  | .real x, .real y => decide (x = y)
  | .text s, .text s' => s == s'
  | .blob b, .blob b' => b == b'
  | _, _ => false

/-- Numbers come before texts, and texts before blobs. -/
def rank : Value T → ℕ
  | .null => 0
  | .int _ => 1
  | .real _ => 1
  | .text _ => 2
  | .blob _ => 3

/-- `a < b`. -/
def less : Value T → Value T → Bool
  | .null, _ => false
  | _, .null => false
  | .int m, .int n => decide (m < n)
  | .int m, .real y => decide ((m : T) < y)
  | .real x, .int n => decide (x < (n : T))
  | .real x, .real y => decide (x < y)
  | .text s, .text s' => decide (s < s')
  | .blob b, .blob b' => decide (b < b')
  | a, b => decide (a.rank < b.rank)

/-- `ORDER BY` puts `a` no later than `b`; NULL comes first. -/
def upTo (a b : Value T) : Bool := a.isNull || !b.isNull && !b.less a

end Value

/-! ## Schemas -/

/-- What a column converts the values it is given to, where they can be. -/
inductive Affinity where
  | integer
  | real
  | text
  deriving DecidableEq

structure Column (T : Type) where
  name : String
  affinity : Affinity
  notNull : Bool
  default : Value T

/-- `column REFERENCES table(key)`. -/
structure Foreign (Tab : Type) where
  column : String
  table : Tab
  key : String

structure Schema (Tab T : Type) where
  columns : List (Column T)
  /-- PRIMARY KEY and UNIQUE. -/
  keys : List (List String)
  foreign : List (Foreign Tab)
  /-- INTEGER PRIMARY KEY AUTOINCREMENT. -/
  serial : Option String

/-- A row, with NULL in the columns that the table does not have. -/
abbrev Row (T : Type) := String → Value T

/-- Rows in insertion order, and the last number given out. -/
structure Table (T : Type) where
  rows : List (Row T)
  last : Int

abbrev Database (Tab T : Type) := Tab → Table T

/-- The database with nothing in it. -/
def Database.empty : Database Tab T := fun _ => ⟨[], 0⟩

/-- The constraint that a statement violates, with its column or its key. -/
inductive Refusal where
  | notNull (column : String)
  | unique (key : List String)
  | foreignKey
  deriving DecidableEq

structure Engine (Tab T : Type) where
  schema : Tab → Schema Tab T
  coerce : Affinity → Value T → Value T

namespace Engine

variable (E : Engine Tab T) (tab : Tab)

def column (name : String) : Option (Column T) :=
  (E.schema tab).columns.find? fun c => c.name == name

/-- What a column makes of a value. -/
def stored (name : String) (v : Value T) : Value T :=
  match E.column tab name with
  | some c => E.coerce c.affinity v
  | none => .null

/-- The row with the `n`-th value in the `n`-th column of a list, and defaults in
the others. -/
def row (names : List String) (values : ℕ → Value T) : Row T := fun name =>
  match names.idxOf? name with
  | some n => E.stored tab name (values n)
  | none => ((E.column tab name).map Column.default).getD .null

/-! ## Constraints -/

section Constraints

/-- NOT NULL holds of a row. -/
def Filled (row : Row T) : Prop :=
  ∀ c ∈ (E.schema tab).columns, c.notNull = true → row c.name ≠ .null

/-- The first column that must not be NULL and is. -/
def missing (row : Row T) : Option (Column T) :=
  (E.schema tab).columns.find? fun c => c.notNull && (row c.name).isNull

theorem missing_eq_none {row : Row T} : E.missing tab row = none ↔ E.Filled tab row := by
  unfold missing Filled
  rw [List.find?_eq_none]
  simp only [Bool.and_eq_true, Value.isNull_iff, not_and, ne_eq]

variable [Field T] [LinearOrder T]

/-- `WHERE name = value`. -/
def equals (name : String) (v : Value T) (row : Row T) : Bool :=
  (row name).same (E.stored tab name v)

/-- Two rows have the same key. -/
def clash (key : List String) (row old : Row T) : Bool := key.all fun c => (row c).same (old c)

/-- UNIQUE holds of a row beside others. -/
def Free (row : Row T) (rows : List (Row T)) : Prop :=
  ∀ key ∈ (E.schema tab).keys, ∀ old ∈ rows, clash key row old = false

/-- The first key of a row that is taken. -/
def taken (row : Row T) (rows : List (Row T)) : Option (List String) :=
  (E.schema tab).keys.find? fun key => rows.any fun old => clash key row old

theorem taken_eq_none {row : Row T} {rows : List (Row T)} :
    E.taken tab row rows = none ↔ E.Free tab row rows := by
  unfold taken Free
  rw [List.find?_eq_none]
  simp only [List.any_eq_true, not_exists, not_and, Bool.not_eq_true]

/-- FOREIGN KEY holds of a row: what it refers to exists. -/
def Refers (row : Row T) (d : Database Tab T) : Prop :=
  ∀ f ∈ (E.schema tab).foreign, row f.column ≠ .null →
    ∃ parent ∈ (d f.table).rows, (row f.column).same (parent f.key) = true

def refers (row : Row T) (d : Database Tab T) : Bool :=
  (E.schema tab).foreign.all fun f =>
    (row f.column).isNull || (d f.table).rows.any fun parent => (row f.column).same (parent f.key)

theorem refers_iff {row : Row T} {d : Database Tab T} :
    E.refers tab row d = true ↔ E.Refers tab row d := by
  unfold refers Refers
  simp only [List.all_eq_true, Bool.or_eq_true, List.any_eq_true, Value.isNull_iff, or_iff_not_imp_left,
    ne_eq]

end Constraints

/-! ## Statements -/

section Statements

variable [DecidableEq Tab] [Field T] [LinearOrder T] (row : Row T) (d : Database Tab T)

/-- Add a row, with its number in a table that gives them out. -/
def put : Database Tab T :=
  Function.update d tab
    (match (E.schema tab).serial with
    | none => ⟨(d tab).rows ++ [row], (d tab).last⟩
    | some id => ⟨(d tab).rows ++ [Function.update row id (.int ((d tab).last + 1))],
        (d tab).last + 1⟩)

/-- Add a row if what it refers to exists. -/
def putReferring : Except Refusal (Database Tab T) :=
  if E.refers tab row d then .ok (E.put tab row d) else .error .foreignKey

/-- `INSERT`. -/
def insert : Except Refusal (Database Tab T) :=
  match E.missing tab row with
  | some c => .error (.notNull c.name)
  | none =>
    match E.taken tab row (d tab).rows with
    | some key => .error (.unique key)
    | none => E.putReferring tab row d

/-- `INSERT OR IGNORE`: a row that is not filled or not free is left out. -/
def insertOrIgnore : Except Refusal (Database Tab T) :=
  if (E.missing tab row).isSome || (E.taken tab row (d tab).rows).isSome then .ok d
  else E.putReferring tab row d

/-- A row with defaults where it must not be NULL. -/
def withDefaults : Row T := fun name =>
  match E.column tab name with
  | some c => if c.notNull && (row name).isNull then c.default else row name
  | none => row name

/-- The database without the rows that take a key of a row. -/
def without : Database Tab T :=
  Function.update d tab { d tab with
    rows := (d tab).rows.filter fun old => !(E.schema tab).keys.any fun key => clash key row old }

/-- `INSERT OR REPLACE`. -/
def insertOrReplace : Except Refusal (Database Tab T) :=
  let row := E.withDefaults tab row
  match E.missing tab row with
  | some c => .error (.notNull c.name)
  | none => E.putReferring tab row (E.without tab row d)

/-- The columns a statement sets, each to a value made from the row before. -/
abbrev Changes (T : Type) := List (String × (Row T → Value T))

/-- A row after changes. -/
def changed (sets : Changes T) (old : Row T) : Row T := fun name =>
  match sets.lookup name with
  | some value => E.stored tab name (value old)
  | none => old name

/-- NOT NULL holds of the columns set in the rows that are changed. -/
def Keeps (sets : Changes T) (which : Row T → Bool) : Prop :=
  ∀ old ∈ (d tab).rows, which old = true → ∀ c ∈ (E.schema tab).columns, c.notNull = true →
    (sets.lookup c.name).isSome = true → E.changed tab sets old c.name ≠ .null

/-- The first column of a row that is set to NULL and must not be. -/
def erased (sets : Changes T) (old : Row T) : Option (Column T) :=
  (E.schema tab).columns.find? fun c =>
    c.notNull && (sets.lookup c.name).isSome && (E.changed tab sets old c.name).isNull

/-- `UPDATE … SET sets WHERE which`. -/
def update (sets : Changes T) (which : Row T → Bool) : Except Refusal (Database Tab T) :=
  match ((d tab).rows.filter which).findSome? (E.erased tab sets) with
  | some c => .error (.notNull c.name)
  | none => .ok (Function.update d tab { d tab with
      rows := (d tab).rows.map fun old => if which old then E.changed tab sets old else old })

/-- `INSERT … ON CONFLICT(key) DO UPDATE SET sets`. -/
def upsert (key : List String) (sets : Changes T) : Except Refusal (Database Tab T) :=
  match E.missing tab row with
  | some c => .error (.notNull c.name)
  | none =>
    if (d tab).rows.any fun old => clash key row old then
      E.update tab d sets fun old => clash key row old
    else E.insert tab row d

/-- `DELETE … WHERE which`. -/
def delete (which : Row T → Bool) : Database Tab T :=
  Function.update d tab { d tab with rows := (d tab).rows.filter fun old => !which old }

/-! ### When a statement is accepted -/

variable {E tab row d}

theorem putReferring_ok_iff : (∃ d', E.putReferring tab row d = .ok d') ↔ E.Refers tab row d := by
  rw [← refers_iff]
  unfold putReferring
  split
  · rename_i h
    exact iff_of_true ⟨_, rfl⟩ h
  · rename_i h
    exact iff_of_false (fun ⟨_, h⟩ => nomatch h) h

theorem insert_ok_iff :
    (∃ d', E.insert tab row d = .ok d') ↔
      E.Filled tab row ∧ E.Free tab row (d tab).rows ∧ E.Refers tab row d := by
  rw [← missing_eq_none, ← taken_eq_none, ← putReferring_ok_iff]
  unfold insert
  cases E.missing tab row with
  | some c => exact iff_of_false (fun ⟨_, h⟩ => nomatch h) fun h => nomatch h.1
  | none =>
    cases E.taken tab row (d tab).rows with
    | some key => exact iff_of_false (fun ⟨_, h⟩ => nomatch h) fun h => nomatch h.2.1
    | none => exact ⟨fun h => ⟨rfl, rfl, h⟩, fun h => h.2.2⟩

theorem insertOrIgnore_ok_iff :
    (∃ d', E.insertOrIgnore tab row d = .ok d') ↔
      (E.Filled tab row → E.Free tab row (d tab).rows → E.Refers tab row d) := by
  rw [← missing_eq_none, ← taken_eq_none, ← putReferring_ok_iff]
  unfold insertOrIgnore
  cases E.missing tab row with
  | some c => exact iff_of_true ⟨d, rfl⟩ fun h => nomatch h
  | none =>
    cases E.taken tab row (d tab).rows with
    | some key => exact iff_of_true ⟨d, rfl⟩ fun _ h => nomatch h
    | none => exact ⟨fun h _ _ => h, fun h => h rfl rfl⟩

theorem insertOrReplace_ok_iff :
    (∃ d', E.insertOrReplace tab row d = .ok d') ↔
      E.Filled tab (E.withDefaults tab row) ∧
        E.Refers tab (E.withDefaults tab row) (E.without tab (E.withDefaults tab row) d) := by
  rw [← missing_eq_none, ← putReferring_ok_iff]
  unfold insertOrReplace
  dsimp only
  cases E.missing tab (E.withDefaults tab row) with
  | some c => exact iff_of_false (fun ⟨_, h⟩ => nomatch h) fun h => nomatch h.1
  | none => exact ⟨fun h => ⟨rfl, h⟩, fun h => h.2⟩

/-- Other tables keep their rows. -/
theorem insertOrReplace_of_ne {other : Tab} {d' : Database Tab T}
    (h : E.insertOrReplace tab row d = .ok d') (hne : other ≠ tab) : d' other = d other := by
  unfold insertOrReplace putReferring put without at h
  dsimp only at h
  split at h
  · cases h
  split at h
  · cases h
    rw [Function.update_of_ne hne, Function.update_of_ne hne]
  · cases h

omit [DecidableEq Tab] [Field T] [LinearOrder T] in
theorem erased_eq_none {sets : Changes T} {old : Row T} :
    E.erased tab sets old = none ↔ ∀ c ∈ (E.schema tab).columns, c.notNull = true →
      (sets.lookup c.name).isSome = true → E.changed tab sets old c.name ≠ .null := by
  unfold erased
  rw [List.find?_eq_none]
  simp only [Bool.and_eq_true, Value.isNull_iff, not_and, and_imp, ne_eq]

omit [Field T] [LinearOrder T] in
theorem update_ok_iff {sets : Changes T} {which : Row T → Bool} :
    (∃ d', E.update tab d sets which = .ok d') ↔ E.Keeps tab d sets which := by
  have hnone : ((d tab).rows.filter which).findSome? (E.erased tab sets) = none ↔
      E.Keeps tab d sets which := by
    rw [List.findSome?_eq_none_iff]
    simp only [List.mem_filter, and_imp, erased_eq_none]
    exact Iff.rfl
  rw [← hnone]
  unfold update
  cases ((d tab).rows.filter which).findSome? (E.erased tab sets) with
  | some c => exact iff_of_false (fun ⟨_, h⟩ => nomatch h) fun h => nomatch h
  | none => exact iff_of_true ⟨_, rfl⟩ rfl

theorem upsert_ok_iff {key : List String} {sets : Changes T} :
    (∃ d', E.upsert tab row d key sets = .ok d') ↔
      E.Filled tab row ∧
        if (d tab).rows.any fun old => clash key row old then
          E.Keeps tab d sets fun old => clash key row old
        else E.Free tab row (d tab).rows ∧ E.Refers tab row d := by
  rw [← missing_eq_none]
  unfold upsert
  cases hmissing : E.missing tab row with
  | some c => exact iff_of_false (fun ⟨_, h⟩ => nomatch h) fun h => nomatch h.1
  | none =>
    dsimp only
    split
    · exact update_ok_iff.trans ⟨fun h => ⟨rfl, h⟩, fun h => h.2⟩
    · refine insert_ok_iff.trans ?_
      rw [← missing_eq_none, hmissing]

end Statements

end Engine

end Data.Sql
