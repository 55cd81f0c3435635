import Nadi.Data.Columns
import Nadi.Effect.Outcomes
import Nadi.Model.Database

/-!
# The store, row by row, in the tables of the database

- `Sqlite.Codec`: what is relied on of `json` and `sqlite3`. JSON values are
  written as texts and read back, and a value of a column's own type is stored as
  it is.
- `SessionRow.cells` and the like: a record of `Store` as a row of its table.
- `Codec.sessions` and the like: these rows have no other columns, and nothing is
  missing in them.
- `Store.encode`: a store as a database; the table `resources`, which no other
  table refers to, is given beside it.
- `Codec.eventRecord` and the like: what `_row` makes of these rows.
-/

namespace Nadi

open Effect Data.Sql

variable {T : Type}

/-! ## Values -/

def SessionStatus.text : SessionStatus → String
  | .pending => "pending"
  | .running => "running"
  | .stopped => "stopped"
  | .abandoned => "abandoned"

def CommandStatus.text : CommandStatus → String
  | .pending => "pending"
  | .claimed => "claimed"
  | .completed => "completed"

def HostStatus.text : HostStatus → String
  | .unknown => "unknown"
  | .ready => "ready"

def LeaseStatus.text : LeaseStatus → String
  | .active => "active"

theorem CommandStatus.text_inj {a b : CommandStatus} : a.text = b.text ↔ a = b := by
  cases a <;> cases b <;> decide

theorem HostStatus.text_inj {a b : HostStatus} : a.text = b.text ↔ a = b := by
  cases a <;> cases b <;> decide

/-- A text or NULL. -/
def textOrNull (o : Option String) : Value T := o.elim .null .text

/-- A number or NULL. -/
def realOrNull (o : Option T) : Value T := o.elim .null .real

/-- A text or `None`, as a parameter. -/
def Arg.ofOption (o : Option String) : Arg T := o.elim .none .str

/-- An integer that a column can hold. -/
def Fits64 (n : Int) : Prop := -2 ^ 63 ≤ n ∧ n < 2 ^ 63

instance : DecidablePred Fits64 := fun _ => inferInstanceAs (Decidable (_ ∧ _))

/-- What a value of a column's own type is bound as. -/
def Arg.plain : Arg T → Option (Value T)
  | .none => some .null
  | .int n => if Fits64 n then some (.int n) else Option.none
  | .float x => some (.real x)
  | .str s => some (.text s)
  | _ => Option.none

theorem Arg.plain_ofOption (o : Option String) :
    (Arg.ofOption o : Arg T).plain = some (textOrNull o) := by
  cases o <;> rfl

theorem Arg.plain_int {n : Int} (h : Fits64 n) : (Arg.int n : Arg T).plain = some (.int n) :=
  if_pos h

variable [Field T] [LinearOrder T]

/-- How JSON values are written and read, and which values a column stores as they
are. -/
structure Sqlite.Codec (sq : Sqlite T) where
  /-- A JSON value, as a Python value. -/
  arg : Json → Arg T
  /-- Its text. -/
  text : Json → String
  truthy_arg : ∀ j, (arg j).truthy = j.truthy
  arg_empty : arg .empty = .dict
  text_empty : text .empty = "{}"
  dumps_arg : ∀ j, sq.dumps (arg j) = .ok (text j)
  loads_text : ∀ j, sq.loads (text j) = .ok (arg j)
  str_str : ∀ s, sq.str (.str s) = s
  refuses_text : ∀ s, sq.refuses (.text s) = none
  coerce_null : ∀ a, sq.coerce a .null = .null
  coerce_text : ∀ s, sq.coerce .text (.text s) = .text s
  coerce_integer : ∀ n, Fits64 n → sq.coerce .integer (.int n) = .int n
  coerce_real : ∀ x, sq.coerce .real (.real x) = .real x
  increment_int : ∀ n, Fits64 (n + 1) → sq.increment (.int n) = .int (n + 1)

namespace Sqlite.Codec

variable {sq : Sqlite T} (k : sq.Codec)

/-- `_json` of a JSON value. -/
theorem json_arg (j : Json) : sq.json (k.arg j) = .ok (k.text j.orEmpty) := by
  unfold Sqlite.json Json.orEmpty
  rw [k.truthy_arg]
  split
  · exact k.dumps_arg j
  · rw [k.text_empty]

/-- `value or {}`. -/
theorem arg_orEmpty (j : Json) : (k.arg j).orEmpty = k.arg j.orEmpty := by
  unfold Arg.orEmpty Json.orEmpty
  rw [k.truthy_arg]
  split
  · rfl
  · exact k.arg_empty.symm

include k in
theorem bind_plain {a : Arg T} {v : Value T} (h : a.plain = some v) : sq.bind a = .ok v := by
  cases a with
  | int n =>
    obtain ⟨hfits, heq⟩ := Option.ite_none_right_eq_some.mp h
    obtain rfl := Option.some.inj heq
    exact if_pos hfits
  | str s =>
    obtain rfl := Option.some.inj h
    show sq.taken (.text s) = _
    unfold Sqlite.taken
    rw [k.refuses_text]
  | none | float x =>
    obtain rfl := Option.some.inj h
    rfl
  | _ => cases h

include k in
/-- Such values can be bound. -/
theorem bound_eq {params : List (Arg T)} {vs : List (Value T)}
    (h : List.Forall₂ (fun a v => a.plain = some v) params vs) :
    SqlCall.bound sq.bind params = .ok fun n => vs.getD n default :=
  SqlCall.bound_eq sq.bind (h.imp fun _ _ => k.bind_plain)

include k in
theorem coerce_textOrNull (o : Option String) :
    sq.coerce .text (textOrNull o) = textOrNull o := by
  cases o with
  | none => exact k.coerce_null .text
  | some s => exact k.coerce_text s

end Sqlite.Codec

/-! ## Rows -/

section Rows

variable {T : Type} (text : Json → String)

def SessionRow.cells (r : SessionRow T) : Row T :=
  ofColumns
    [("id", .text r.id), ("external_id", textOrNull r.externalId), ("tenant_id", .text r.tenantId),
      ("profile_bundle", textOrNull r.profileBundle), ("status", .text r.status.text),
      ("metadata", .text (text r.metadata)), ("created_at", .real r.createdAt),
      ("updated_at", .real r.updatedAt)]

def EventRow.cells (e : EventRow T) : Row T :=
  ofColumns
    [("id", .int e.id), ("session_id", .text e.sessionId), ("sequence", .int e.sequence),
      ("event_type", .text e.eventType), ("payload", .text (text e.payload)),
      ("created_at", .real e.createdAt), ("actor_resource_id", textOrNull e.actorResourceId)]

def CommandRow.cells (c : CommandRow T) : Row T :=
  ofColumns
    [("id", .int c.id), ("session_id", .text c.sessionId), ("command_type", .text c.commandType),
      ("payload", .text (text c.payload)), ("status", .text c.status.text),
      ("available_at", .real c.availableAt), ("claimed_by", textOrNull c.claimedBy),
      ("claim_token", textOrNull c.claimToken), ("claimed_at", realOrNull c.claimedAt),
      ("completed_at", realOrNull c.completedAt), ("created_at", .real c.createdAt),
      ("actor_resource_id", textOrNull c.actorResourceId)]

def RevokedRow.cells (r : RevokedRow T) : Row T :=
  ofColumns
    [("jti", .text r.jti), ("expires_at", .real r.expiresAt), ("revoked_at", .real r.revokedAt)]

def CellHostRow.cells (h : CellHostRow T) : Row T :=
  ofColumns
    [("id", .text h.id), ("host_id", .text h.hostId), ("zone", .text h.zone),
      ("address", .text h.address), ("capacity_total", .int h.capacityTotal),
      ("capacity_used", .int h.capacityUsed), ("status", .text h.status.text),
      ("last_heartbeat_at", realOrNull h.lastHeartbeatAt), ("metadata", .text (text h.metadata)),
      ("created_at", .real h.createdAt), ("updated_at", .real h.updatedAt)]

def LeaseRow.cells (l : LeaseRow T) : Row T :=
  ofColumns
    [("session_id", .text l.sessionId), ("cell_host_id", .text l.cellHostId),
      ("lease_token", .text l.leaseToken), ("status", .text l.status.text),
      ("expires_at", .real l.expiresAt), ("created_at", .real l.createdAt),
      ("updated_at", .real l.updatedAt)]

def SandboxHostRow.cells (h : SandboxHostRow T) : Row T :=
  ofColumns
    [("id", .text h.id), ("host_id", .text h.hostId), ("zone", .text h.zone),
      ("address", .text h.address), ("status", .text h.status.text),
      ("last_heartbeat_at", realOrNull h.lastHeartbeatAt), ("metadata", .text (text h.metadata)),
      ("created_at", .real h.createdAt), ("updated_at", .real h.updatedAt)]

def ChannelRow.cells (c : ChannelRow T) : Row T :=
  ofColumns
    [("id", .text c.id), ("platform", .text c.platform), ("channel_id", .text c.channelId),
      ("thread_id", .text c.threadId), ("session_id", .text c.sessionId),
      ("initiator_resource_id", .text c.initiatorResourceId), ("metadata", .text (text c.metadata)),
      ("created_at", .real c.createdAt), ("updated_at", .real c.updatedAt)]

def AuditRow.cells (a : AuditRow T) : Row T :=
  ofColumns
    [("id", .int a.id), ("actor", .text a.actor), ("action", .text a.action),
      ("session_id", textOrNull a.sessionId), ("payload", .text (text a.payload)),
      ("created_at", .real a.createdAt)]

/-! ## Layouts -/

variable {sq : Sqlite T}

theorem forall_columns {tab : TableName} {P : Column T → Prop}
    (h : List.Forall P (TableName.schema tab).columns) :
    ∀ c ∈ (sq.engine.schema tab).columns, P c :=
  List.forall_iff_forall_mem.mp h

section Layouts

variable [Field T] [LinearOrder T]

namespace Sqlite.Codec

def sessions (k : sq.Codec) : Layout sq.engine .sessions (SessionRow T) where
  cells := SessionRow.cells k.text
  fits _ := Engine.fits_ofColumns rfl
  filled _ := forall_columns (by
    simp [TableName.schema, nullable, required, defaulted, SessionRow.cells, ofColumns,
      List.lookup_cons])

def events (k : sq.Codec) : Layout sq.engine .events (EventRow T) where
  cells := EventRow.cells k.text
  fits _ := Engine.fits_ofColumns rfl
  filled _ := forall_columns (by
    simp [TableName.schema, nullable, required, defaulted, EventRow.cells, ofColumns,
      List.lookup_cons])

def commands (k : sq.Codec) : Layout sq.engine .commandInbox (CommandRow T) where
  cells := CommandRow.cells k.text
  fits _ := Engine.fits_ofColumns rfl
  filled _ := forall_columns (by
    simp [TableName.schema, nullable, required, defaulted, CommandRow.cells, ofColumns,
      List.lookup_cons])

def revoked (_k : sq.Codec) : Layout sq.engine .revokedTokens (RevokedRow T) where
  cells := RevokedRow.cells
  fits _ := Engine.fits_ofColumns rfl
  filled _ := forall_columns (by
    simp [TableName.schema, nullable, required, RevokedRow.cells, ofColumns,
      List.lookup_cons])

def hosts (k : sq.Codec) : Layout sq.engine .cellHosts (CellHostRow T) where
  cells := CellHostRow.cells k.text
  fits _ := Engine.fits_ofColumns rfl
  filled _ := forall_columns (by
    simp [TableName.schema, nullable, required, defaulted, CellHostRow.cells, ofColumns,
      List.lookup_cons])

def leases (_k : sq.Codec) : Layout sq.engine .sessionLeases (LeaseRow T) where
  cells := LeaseRow.cells
  fits _ := Engine.fits_ofColumns rfl
  filled _ := forall_columns (by
    simp [TableName.schema, nullable, required, defaulted, LeaseRow.cells, ofColumns,
      List.lookup_cons])

def sandboxes (k : sq.Codec) : Layout sq.engine .sandboxHosts (SandboxHostRow T) where
  cells := SandboxHostRow.cells k.text
  fits _ := Engine.fits_ofColumns rfl
  filled _ := forall_columns (by
    simp [TableName.schema, nullable, required, defaulted, SandboxHostRow.cells, ofColumns,
      List.lookup_cons])

def channels (k : sq.Codec) : Layout sq.engine .channels (ChannelRow T) where
  cells := ChannelRow.cells k.text
  fits _ := Engine.fits_ofColumns rfl
  filled _ := forall_columns (by
    simp [TableName.schema, nullable, required, defaulted, ChannelRow.cells, ofColumns,
      List.lookup_cons])

def audits (k : sq.Codec) : Layout sq.engine .auditLog (AuditRow T) where
  cells := AuditRow.cells k.text
  fits _ := Engine.fits_ofColumns rfl
  filled _ := forall_columns (by
    simp [TableName.schema, nullable, required, defaulted, AuditRow.cells, ofColumns,
      List.lookup_cons])

end Sqlite.Codec

end Layouts

/-! ## Tables -/

/-- The tables of a store, with the table `resources` beside them. -/
def Store.encode (memories : Table T) (st : Store T) : Db T
  | .sessions => ⟨st.sessions.rows.map (SessionRow.cells text), 0⟩
  | .events => ⟨st.events.rows.map (EventRow.cells text), st.events.last⟩
  | .commandInbox => ⟨st.commandInbox.rows.map (CommandRow.cells text), st.commandInbox.last⟩
  | .revokedTokens => ⟨st.revokedTokens.rows.map RevokedRow.cells, 0⟩
  | .cellHosts => ⟨st.cellHosts.rows.map (CellHostRow.cells text), 0⟩
  | .sessionLeases => ⟨st.sessionLeases.rows.map LeaseRow.cells, 0⟩
  | .sandboxHosts => ⟨st.sandboxHosts.rows.map (SandboxHostRow.cells text), 0⟩
  | .channels => ⟨st.channels.rows.map (ChannelRow.cells text), 0⟩
  | .resources => memories
  | .auditLog => ⟨st.auditLog.rows.map (AuditRow.cells text), st.auditLog.last⟩

/-- A new store is a database with nothing in it. -/
theorem Store.encode_init : Store.encode text ⟨[], 0⟩ (.init : Store T) = Database.empty := by
  funext tab
  cases tab <;> rfl

end Rows

/-! ## Records -/

section Records

/-- A row as `_row` returns it, with what is read from the texts of two columns. -/
def recordOf (row : Row T) (metadata payload : Arg T) : Record T := fun name =>
  if name = "metadata" then metadata else if name = "payload" then payload else .ofValue (row name)

omit [Field T] [LinearOrder T] in
/-- A lease with the columns that `get_route` adds. -/
def Route.record (r : Route T) : Record T := fun name =>
  .ofValue (Database.routeRow r.lease.cells
    (ofColumns [("host_id", .text r.hostId), ("address", .text r.address), ("zone", .text r.zone)])
    name)

variable {sq : Sqlite T} (k : sq.Codec)

omit [Field T] [LinearOrder T] in
theorem record_eq {row : Row T} {a b : Arg T} (hmetadata : sq.decode (row "metadata") = .ok a)
    (hpayload : sq.decode (row "payload") = .ok b) : sq.record row = .ok (recordOf row a b) := by
  unfold Sqlite.record
  rw [hmetadata, hpayload]
  rfl

namespace Sqlite.Codec

def eventRecord (e : EventRow T) : Record T :=
  recordOf (e.cells k.text) .none (k.arg e.payload)

def commandRecord (c : CommandRow T) : Record T :=
  recordOf (c.cells k.text) .none (k.arg c.payload)

def hostRecord (h : CellHostRow T) : Record T :=
  recordOf (h.cells k.text) (k.arg h.metadata) .none

def channelRecord (c : ChannelRow T) : Record T :=
  recordOf (c.cells k.text) (k.arg c.metadata) .none

theorem record_event (e : EventRow T) : sq.record (e.cells k.text) = .ok (k.eventRecord e) :=
  record_eq rfl (k.loads_text e.payload)

theorem record_command (c : CommandRow T) :
    sq.record (c.cells k.text) = .ok (k.commandRecord c) :=
  record_eq rfl (k.loads_text c.payload)

theorem record_host (h : CellHostRow T) : sq.record (h.cells k.text) = .ok (k.hostRecord h) :=
  record_eq (k.loads_text h.metadata) rfl

theorem record_channel (c : ChannelRow T) :
    sq.record (c.cells k.text) = .ok (k.channelRecord c) :=
  record_eq (k.loads_text c.metadata) rfl

end Sqlite.Codec

end Records

/-! ## A sample -/

/-- JSON texts that tell an empty dict from a value; numbers and texts are stored as
they are. -/
def Sqlite.flags : Sqlite ℚ where
  dumps
    | .object _ name => .ok name
    | _ => .ok "{}"
  loads s := .ok (.object (s != "{}") s)
  str
    | .str s => s
    | _ => ""
  coerce _ v := v
  increment
    | .int n => .int (n + 1)
    | v => v
  refuses _ := none
  adapt _ := .error (.sqliteError "Error binding parameter: type is not supported")
  add _ _ := .error (.typeError "unsupported operand type(s) for +")

def Sqlite.Codec.flags : Sqlite.flags.Codec where
  arg j := .object j.truthy (if j.truthy then "value" else "{}")
  text j := if j.truthy then "value" else "{}"
  truthy_arg _ := rfl
  arg_empty := rfl
  text_empty := rfl
  dumps_arg _ := rfl
  loads_text j := by
    show Except.ok _ = _
    cases j.truthy <;> rfl
  str_str _ := rfl
  refuses_text _ := rfl
  coerce_null _ := rfl
  coerce_text _ := rfl
  coerce_integer _ _ := rfl
  coerce_real _ := rfl
  increment_int _ _ := rfl

end Nadi
