import Nadi.Data.Sorting
import Nadi.Effect.Outcomes
import Nadi.Model.Encoding

/-!
# Statements on the tables of a store

- `change_insert` and the like: a statement whose values are those of a record, and
  one that sets what makes another record.
- `outcome_put`, `outcome_insertNumbered`: the tables after a record is added.
- `orderBy_eq`: `ORDER BY`, on records.
- `Codec.encode_sessions` and the like: the tables of a store that differs in one.
- `Codec.ends_saved`: a method that executes one statement and commits.
-/

namespace Nadi

open Effect Data.Sql SqlCall

variable {T : Type} [Field T] [LinearOrder T]

/-- The store after a method: one that raises leaves it as it was. -/
def Store.kept {β : Type} (st : Store T) : Except PyErr (β × Store T) → Store T
  | .ok (_, st') => st'
  | .error _ => st

/-! ## Values that are compared -/

section Values

@[simp] theorem same_text (a b : String) :
    (Value.text a : Value T).same (.text b) = (a == b) := rfl

theorem same_int (a b : ℕ) : (Value.int a : Value T).same (.int b) = (a == b) := by
  show ((a : Int) == b) = (a == b)
  rw [Bool.eq_iff_iff, beq_iff_eq, beq_iff_eq, Int.natCast_inj]

theorem same_textOrNull (a b : Option String) :
    (textOrNull a : Value T).same (textOrNull b) = (a.isSome && a == b) := by
  cases a <;> cases b <;> rfl

theorem same_textOrNull_text (a : Option String) (b : String) :
    (textOrNull a : Value T).same (.text b) = (a == some b) := by
  cases a <;> rfl

theorem upTo_int (a b : ℕ) : (Value.int a : Value T).upTo (.int b) = decide (a ≤ b) := by
  show (!decide ((b : Int) < a)) = decide (a ≤ b)
  rw [← decide_not]
  exact decide_eq_decide.mpr (by omega)

theorem upTo_real (x y : T) : (Value.real x).upTo (.real y) = decide (x ≤ y) := by
  show (!decide (y < x)) = decide (x ≤ y)
  rw [← decide_not]
  exact decide_eq_decide.mpr not_lt

end Values

/-! ## Statements on records -/

section Records

variable {sq : Sqlite T} {tab : TableName} {ρ : Type} (L : Layout sq.engine tab ρ)
  {names : List String} {params : List (Arg T)} {values : ℕ → Value T} {r : ρ} {d : Db T}

/-- `INSERT`, with the values of a record. -/
theorem change_insert (h : List.Forall
      (fun c : Column T => sq.engine.row tab names values c.name = L.cells r c.name)
      (TableName.schema tab).columns) :
    sq.change values d (.insert tab names params) =
      outcome tab (sq.engine.insert tab (L.cells r) d) := by
  rw [← L.eq_cells (Engine.fits_row names values) (forall_columns h)]
  rfl

/-- `INSERT` into a table that numbers its records. -/
theorem change_insert_unnumbered (hid : (sq.engine.column tab "id").isSome) (h : List.Forall
      (fun c : Column T => sq.engine.row tab names values c.name = L.unnumbered "id" r c.name)
      (TableName.schema tab).columns) :
    sq.change values d (.insert tab names params) =
      outcome tab (sq.engine.insert tab (L.unnumbered "id" r) d) := by
  have hrow : sq.engine.row tab names values = L.unnumbered "id" r :=
    (Engine.fits_row names values).ext (Engine.fits_update (L.fits r) hid) (forall_columns h)
  rw [← hrow]
  rfl

/-- `INSERT OR IGNORE`. -/
theorem change_insertOrIgnore (h : List.Forall
      (fun c : Column T => sq.engine.row tab names values c.name = L.cells r c.name)
      (TableName.schema tab).columns) :
    sq.change values d (.insertOrIgnore tab names params) =
      outcome tab (sq.engine.insertOrIgnore tab (L.cells r) d) := by
  rw [← L.eq_cells (Engine.fits_row names values) (forall_columns h)]
  rfl

/-- `INSERT OR REPLACE`. -/
theorem change_insertOrReplace (h : List.Forall
      (fun c : Column T => sq.engine.row tab names values c.name = L.cells r c.name)
      (TableName.schema tab).columns) :
    sq.change values d (.insertOrReplace tab names params) =
      outcome tab (sq.engine.insertOrReplace tab (L.cells r) d) := by
  rw [← L.eq_cells (Engine.fits_row names values) (forall_columns h)]
  rfl

/-- `UPDATE`, where what is set makes another record. -/
theorem change_update {sets conds : List (String × Expr)} {rows : List ρ} (p : ρ → Bool)
    (f : ρ → ρ) (hrows : (d tab).rows = rows.map L.cells)
    (hwhich : ∀ r ∈ rows, sq.matching tab conds values (L.cells r) = p r)
    (hsets : ∀ r ∈ rows, p r = true → List.Forall
      (fun c : Column T => sq.engine.changed tab (sq.settings sets values) (L.cells r) c.name =
        L.cells (f r) c.name) (TableName.schema tab).columns) :
    sq.change values d (.update tab sets conds params) =
      .ok ((d tab).last, Function.update d tab
        ⟨(rows.map fun r => if p r then f r else r).map L.cells, (d tab).last⟩) := by
  have hchanged := fun r hr hp =>
    L.eq_cells (Engine.fits_changed (L.fits r)) (forall_columns (hsets r hr hp))
  show outcome tab (sq.engine.update tab d _ _) = _
  rw [L.update_eq hrows hwhich hchanged]
  show Except.ok ((Function.update d tab _ tab).last, _) = _
  rw [Function.update_self]

omit [Field T] [LinearOrder T] in
/-- A row is added to a table without numbers. -/
theorem outcome_put (hserial : (TableName.schema (T := T) tab).serial = none) (row : Row T) :
    outcome tab (.ok (sq.engine.put tab row d)) =
      .ok ((d tab).last, Function.update d tab ⟨(d tab).rows ++ [row], (d tab).last⟩) := by
  have hput : sq.engine.put tab row d =
      Function.update d tab ⟨(d tab).rows ++ [row], (d tab).last⟩ := by
    unfold Engine.put Sqlite.engine
    dsimp only
    rw [hserial]
  rw [hput]
  show Except.ok ((Function.update d tab _ tab).last, _) = _
  rw [Function.update_self]

/-- A record is added to a table that numbers its records. -/
theorem outcome_insertNumbered (hid : sq.engine.Numbered tab "id")
    (hnumber : L.cells r "id" = .int ((d tab).last + 1))
    (hfree : sq.engine.Free tab (L.cells r) (d tab).rows)
    (hrefers : sq.engine.Refers tab (L.cells r) d) :
    outcome tab (sq.engine.insert tab (L.unnumbered "id" r) d) =
      .ok ((d tab).last + 1,
        Function.update d tab ⟨(d tab).rows ++ [L.cells r], (d tab).last + 1⟩) := by
  rw [L.insert_unnumbered_eq hid hnumber hfree hrefers]
  show Except.ok ((Function.update d tab _ tab).last, _) = _
  rw [Function.update_self]

/-- `ORDER BY`. -/
theorem orderBy_eq {column : String} {κ : Type} [LinearOrder κ] {f : ρ → κ}
    (h : ∀ a b, (L.cells a column).upTo (L.cells b column) = decide (f a ≤ f b))
    (rows : List ρ) :
    orderBy column (rows.map L.cells) = (rows.insertionSort fun a b => f a ≤ f b).map L.cells := by
  have hmap : (rows.mergeSort fun a b => decide (f a ≤ f b)).map L.cells =
      orderBy column (rows.map L.cells) := List.map_mergeSort fun a _ b _ => (h a b).symm
  rw [← hmap, Data.Sorting.mergeSort_key]

omit [Field T] [LinearOrder T] in
/-- What `_row` makes of the rows that are selected. -/
theorem mapM_record {g : ρ → Record T} (h : ∀ r, sq.record (L.cells r) = .ok (g r))
    (rows : List ρ) : (rows.map L.cells).mapM sq.record = .ok (rows.map g) := by
  induction rows with
  | nil => rfl
  | cons r rows ih =>
    rw [List.map_cons, List.mapM_cons, h, ih]
    rfl

omit [Field T] [LinearOrder T] in
/-- What `_row` makes of the row that is fetched. -/
theorem fetched_eq {g : ρ → Record T} (h : ∀ r, sq.record (L.cells r) = .ok (g r))
    (rows : List ρ) : sq.fetched (rows.map L.cells) = .ok (rows.head?.map g) := by
  cases rows with
  | nil => rfl
  | cons r rows =>
    show (sq.record (L.cells r)).map some = _
    rw [h]
    rfl

end Records

namespace Sqlite.Codec

variable {sq : Sqlite T} (k : sq.Codec)

/-- The tables of a store on this database. -/
def encode (memories : Table T) (st : Store T) : Db T := st.encode k.text memories

variable {memories : Table T} {st : Store T} {c : Connection (Db T)}

omit [Field T] [LinearOrder T] in
/-- A record is added to a table that numbers its records. -/
theorem rows_push {α : Type} {id : α → ℕ} (t : Data.Serial α id) (mk : ℕ → α)
    (hmk : ∀ n, id (mk n) = n) (cells : α → Row T) :
    (⟨(t.push mk hmk).rows.map cells, (t.push mk hmk).last⟩ : Table T) =
      ⟨t.rows.map cells ++ [cells (mk (t.last + 1))], (t.last : ℤ) + 1⟩ := by
  rw [Data.Serial.push_rows, List.map_append]
  rfl

/-! ## One table -/

section Tables

theorem encode_sessions (sessions : Data.Table (SessionRow T) SessionRow.id) :
    k.encode memories { st with sessions } = Function.update (k.encode memories st) .sessions
      ⟨sessions.rows.map k.sessions.cells, 0⟩ := by
  funext tab
  cases tab <;> rfl

theorem encode_events (events : Data.Serial (EventRow T) EventRow.id) :
    k.encode memories { st with events } = Function.update (k.encode memories st) .events
      ⟨events.rows.map k.events.cells, events.last⟩ := by
  funext tab
  cases tab <;> rfl

theorem encode_commandInbox (commandInbox : Data.Serial (CommandRow T) CommandRow.id) :
    k.encode memories { st with commandInbox } =
      Function.update (k.encode memories st) .commandInbox
        ⟨commandInbox.rows.map k.commands.cells, commandInbox.last⟩ := by
  funext tab
  cases tab <;> rfl

theorem encode_revokedTokens (revokedTokens : Data.Table (RevokedRow T) RevokedRow.jti) :
    k.encode memories { st with revokedTokens } =
      Function.update (k.encode memories st) .revokedTokens
        ⟨revokedTokens.rows.map k.revoked.cells, 0⟩ := by
  funext tab
  cases tab <;> rfl

theorem encode_cellHosts (cellHosts : Data.Table (CellHostRow T) CellHostRow.id) :
    k.encode memories { st with cellHosts } = Function.update (k.encode memories st) .cellHosts
      ⟨cellHosts.rows.map k.hosts.cells, 0⟩ := by
  funext tab
  cases tab <;> rfl

theorem encode_sessionLeases (sessionLeases : Data.Table (LeaseRow T) LeaseRow.sessionId) :
    k.encode memories { st with sessionLeases } =
      Function.update (k.encode memories st) .sessionLeases
        ⟨sessionLeases.rows.map k.leases.cells, 0⟩ := by
  funext tab
  cases tab <;> rfl

theorem encode_sandboxHosts (sandboxHosts : Data.Table (SandboxHostRow T) SandboxHostRow.id) :
    k.encode memories { st with sandboxHosts } =
      Function.update (k.encode memories st) .sandboxHosts
        ⟨sandboxHosts.rows.map k.sandboxes.cells, 0⟩ := by
  funext tab
  cases tab <;> rfl

theorem encode_channels (channels : Data.Table (ChannelRow T) ChannelRow.key) :
    k.encode memories { st with channels } = Function.update (k.encode memories st) .channels
      ⟨channels.rows.map k.channels.cells, 0⟩ := by
  funext tab
  cases tab <;> rfl

theorem encode_auditLog (auditLog : Data.Serial (AuditRow T) AuditRow.id) :
    k.encode memories { st with auditLog } = Function.update (k.encode memories st) .auditLog
      ⟨auditLog.rows.map k.audits.cells, auditLog.last⟩ := by
  funext tab
  cases tab <;> rfl

end Tables

/-! ## One statement -/

/-- **A statement and a commit** do what a method does, if the statement does. -/
theorem ends_saved {β γ : Type} {r : Except PyErr (β × Store T)} {statement : Statement T}
    {p : ℕ → Value T} {n : Int} {value : Int → γ} (g : β → γ) (hseen : c.seen = k.encode memories st)
    (hbound : bound sq.bind statement.values = .ok p)
    (hchange : sq.change p (k.encode memories st) statement =
      r.map fun x => (n, k.encode memories x.2))
    (hvalue : ∀ x, r = .ok x → value n = g x.1) :
    Ends sq.bind ((sq.execute statement).bind fun id => (issue .commit).bind fun _ =>
      .pure (value id)) c (r.map fun x => g x.1) (k.encode memories (st.kept r)) := by
  rw [← hseen] at hchange
  cases r with
  | error e =>
    show Ends _ _ _ _ (k.encode memories st)
    rw [← hseen]
    exact ends_modify_error hbound hchange
  | ok x =>
    refine ends_save hbound hchange ?_
    show Ends _ _ _ (.ok (g x.1)) _
    rw [← hvalue x rfl]
    exact ends_pure

/-- The same with the commit at the end. -/
theorem ends_saved_last {st' : Store T} {statement : Statement T} {p : ℕ → Value T} (n : Int)
    (hseen : c.seen = k.encode memories st) (hbound : bound sq.bind statement.values = .ok p)
    (hchange : sq.change p (k.encode memories st) statement = .ok (n, k.encode memories st')) :
    Ends sq.bind ((sq.execute statement).bind fun _ => issue .commit) c (.ok ())
      (k.encode memories st') := by
  have hlast : (issue .commit : DbCode T Unit) = (issue .commit).bind .pure :=
    (Prog.bind_pure _).symm
  rw [← hseen] at hchange
  rw [hlast]
  exact ends_save (f := fun _ => .pure ()) hbound hchange ends_pure

end Sqlite.Codec

end Nadi
