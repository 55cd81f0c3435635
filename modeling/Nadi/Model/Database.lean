import Nadi.Data.Sql
import Nadi.Effect.Transaction
import Nadi.Model.Store

/-!
# `nadi/store.py`, statement by statement

The methods of `Store` with the statements they execute on their connection, for
arguments of any type. An argument is a Python value; what `json` and `sqlite3`
make of it is left to `Sqlite`.

- `TableName.schema`: the tables of `init_schema`, with their constraints.
- `Database.*`: one program for each method. It draws an id and reads the clock
  from a `Readings`, computes its parameters before it executes a statement, and
  raises where one of these does.
- `StoreMethod`: a call of any of them.
-/

namespace Nadi

open Effect Data.Sql

variable {T : Type}

/-! ## Python values as parameters -/

/-- A Python value. Of lists, dicts and other objects only their truth and a name
for them are kept. A character may stand for a lone surrogate. -/
inductive Arg (T : Type) where
  | none
  | bool (b : Bool)
  | int (n : Int)
  | float (x : T)
  | nan
  | str (s : String)
  | bytes (bs : List UInt8)
  | object (truth : Bool) (name : String)
  deriving DecidableEq

namespace Arg

/-- `{}`. -/
def dict : Arg T := .object false "{}"

/-- Python truthiness. -/
def truthy [Zero T] [DecidableEq T] : Arg T → Bool
  | .none => false
  | .bool b => b
  | .int n => n != 0
  | .float x => decide (x ≠ 0)
  | .nan => true
  | .str s => s != ""
  | .bytes bs => !bs.isEmpty
  | .object truth _ => truth

/-- `value or {}`. -/
def orEmpty [Zero T] [DecidableEq T] (a : Arg T) : Arg T := if a.truthy then a else dict

/-- A value read from a row. -/
def ofValue : Value T → Arg T
  | .null => .none
  | .int n => .int n
  | .real x => .float x
  | .text s => .str s
  | .blob bs => .bytes bs

end Arg

/-! ## Tables -/

/-- The tables of `init_schema`. -/
inductive TableName where
  | sessions
  | events
  | commandInbox
  | revokedTokens
  | cellHosts
  | sessionLeases
  | sandboxHosts
  | channels
  | resources
  | auditLog
  deriving DecidableEq

def TableName.name : TableName → String
  | .sessions => "sessions"
  | .events => "events"
  | .commandInbox => "command_inbox"
  | .revokedTokens => "revoked_tokens"
  | .cellHosts => "cell_hosts"
  | .sessionLeases => "session_leases"
  | .sandboxHosts => "sandbox_hosts"
  | .channels => "channels"
  | .resources => "resources"
  | .auditLog => "audit_log"

/-- A column that may be NULL. -/
def nullable (name : String) (affinity : Affinity) : Column T := ⟨name, affinity, false, .null⟩

/-- `NOT NULL`. -/
def required (name : String) (affinity : Affinity) : Column T := ⟨name, affinity, true, .null⟩

/-- `NOT NULL DEFAULT value`. -/
def defaulted (name : String) (affinity : Affinity) (value : Value T) : Column T :=
  ⟨name, affinity, true, value⟩

/-- `session_id … REFERENCES sessions(id)`. -/
def ofSession : Foreign TableName := ⟨"session_id", .sessions, "id"⟩

/-- store.py:39–156. -/
def TableName.schema : TableName → Schema TableName T
  | .sessions =>
    { columns :=
        [nullable "id" .text, nullable "external_id" .text, required "tenant_id" .text,
          nullable "profile_bundle" .text, defaulted "status" .text (.text "pending"),
          defaulted "metadata" .text (.text "{}"), required "created_at" .real,
          required "updated_at" .real]
      keys := [["id"], ["external_id"]]
      foreign := []
      serial := none }
  | .events =>
    { columns :=
        [nullable "id" .integer, required "session_id" .text, required "sequence" .integer,
          required "event_type" .text, defaulted "payload" .text (.text "{}"),
          required "created_at" .real, nullable "actor_resource_id" .text]
      keys := [["session_id", "sequence"]]
      foreign := [ofSession]
      serial := some "id" }
  | .commandInbox =>
    { columns :=
        [nullable "id" .integer, required "session_id" .text, required "command_type" .text,
          defaulted "payload" .text (.text "{}"), defaulted "status" .text (.text "pending"),
          required "available_at" .real, nullable "claimed_by" .text, nullable "claim_token" .text,
          nullable "claimed_at" .real, nullable "completed_at" .real, required "created_at" .real,
          nullable "actor_resource_id" .text]
      keys := []
      foreign := [ofSession]
      serial := some "id" }
  | .revokedTokens =>
    { columns := [nullable "jti" .text, required "expires_at" .real, required "revoked_at" .real]
      keys := [["jti"]]
      foreign := []
      serial := none }
  | .cellHosts =>
    { columns :=
        [nullable "id" .text, required "host_id" .text, required "zone" .text,
          required "address" .text, defaulted "capacity_total" .integer (.int 0),
          defaulted "capacity_used" .integer (.int 0),
          defaulted "status" .text (.text "unknown"), nullable "last_heartbeat_at" .real,
          defaulted "metadata" .text (.text "{}"), required "created_at" .real,
          required "updated_at" .real]
      keys := [["id"], ["host_id"]]
      foreign := []
      serial := none }
  | .sessionLeases =>
    { columns :=
        [nullable "session_id" .text, required "cell_host_id" .text,
          required "lease_token" .text, defaulted "status" .text (.text "active"),
          required "expires_at" .real, required "created_at" .real, required "updated_at" .real]
      keys := [["session_id"]]
      foreign := [ofSession, ⟨"cell_host_id", .cellHosts, "id"⟩]
      serial := none }
  | .sandboxHosts =>
    { columns :=
        [nullable "id" .text, required "host_id" .text, required "zone" .text,
          required "address" .text, defaulted "status" .text (.text "unknown"),
          nullable "last_heartbeat_at" .real, defaulted "metadata" .text (.text "{}"),
          required "created_at" .real, required "updated_at" .real]
      keys := [["id"], ["host_id"]]
      foreign := []
      serial := none }
  | .channels =>
    { columns :=
        [nullable "id" .text, required "platform" .text, required "channel_id" .text,
          defaulted "thread_id" .text (.text ""), required "session_id" .text,
          required "initiator_resource_id" .text, defaulted "metadata" .text (.text "{}"),
          required "created_at" .real, required "updated_at" .real]
      keys := [["id"], ["platform", "channel_id", "thread_id"]]
      foreign := [ofSession]
      serial := none }
  | .resources =>
    { columns :=
        [nullable "resource_id" .text, required "platform" .text,
          defaulted "memory" .text (.text "{}"), required "created_at" .real,
          required "updated_at" .real]
      keys := [["resource_id"]]
      foreign := []
      serial := none }
  | .auditLog =>
    { columns :=
        [nullable "id" .integer, required "actor" .text, required "action" .text,
          nullable "session_id" .text, defaulted "payload" .text (.text "{}"),
          required "created_at" .real]
      keys := []
      foreign := []
      serial := some "id" }

abbrev Db (T : Type) := Data.Sql.Database TableName T

/-! ## Statements -/

abbrev DbCall (T : Type) := SqlCall (Db T) (Arg T) (Value T) (List (Row T)) PyErr

abbrev DbCode (T α : Type) := Prog (DbCall T) SqlCall.Ret PyErr α

/-- What `json` and `sqlite3` make of values. -/
structure Sqlite (T : Type) where
  /-- `json.dumps(value, sort_keys=True)`. -/
  dumps : Arg T → Except PyErr String
  /-- `json.loads(text)`. -/
  loads : String → Except PyErr (Arg T)
  /-- `str(value)`. -/
  str : Arg T → String
  /-- The conversion to an affinity. -/
  coerce : Affinity → Value T → Value T
  /-- `value + 1`. -/
  increment : Value T → Value T
  /-- Why a text or a blob is not taken: a text with a lone surrogate has no encoding,
  and there is a limit to the length. -/
  refuses : Value T → Option PyErr
  /-- What an object is bound as, through the adapter of its type or as a buffer. -/
  adapt : String → Except PyErr (Value T)
  /-- `t + value`, for an object. -/
  add : T → String → Except PyErr (Arg T)

/-- The id a method draws, and the readings of the clock it makes. -/
structure Readings (T : Type) where
  uuid4 : String
  now : ℕ → T

/-- No integer is converted to a float from here on. It is half way from the largest
float to `2 ** 1024`, and rounded up. -/
def floatLimit : ℕ := 2 ^ 1024 - 2 ^ 970

/-- A row as `_row` returns it. -/
abbrev Record (T : Type) := String → Arg T

/-- What a statement sets a column to, or compares it with. -/
inductive Expr where
  | param (n : ℕ)
  | text (s : String)
  | increment (column : String)

/-- The statements that change a table. -/
inductive Statement (T : Type) where
  /-- `INSERT INTO tab(columns) VALUES(?, …)`. -/
  | insert (tab : TableName) (columns : List String) (values : List (Arg T))
  /-- `INSERT OR IGNORE INTO tab(columns) VALUES(?, …)`. -/
  | insertOrIgnore (tab : TableName) (columns : List String) (values : List (Arg T))
  /-- `INSERT OR REPLACE INTO tab(columns) VALUES(?, …)`. -/
  | insertOrReplace (tab : TableName) (columns : List String) (values : List (Arg T))
  /-- `INSERT INTO tab(columns) VALUES(?, …) ON CONFLICT(key) DO UPDATE SET c=excluded.c, …`. -/
  | upsert (tab : TableName) (columns key excluded : List String) (values : List (Arg T))
  /-- `UPDATE tab SET column=…, … WHERE column=… AND …`. -/
  | update (tab : TableName) (sets conds : List (String × Expr)) (values : List (Arg T))
  /-- `DELETE FROM tab WHERE column < ?`. -/
  | deleteBelow (tab : TableName) (column : String) (value : Arg T)

/-- The parameters of a statement. -/
def Statement.values : Statement T → List (Arg T)
  | .insert _ _ values => values
  | .insertOrIgnore _ _ values => values
  | .insertOrReplace _ _ values => values
  | .upsert _ _ _ _ values => values
  | .update _ _ _ values => values
  | .deleteBelow _ _ value => [value]

/-- `sqlite3.IntegrityError`, for a table. -/
def integrityError (tab : TableName) : Refusal → PyErr
  | .notNull c => .integrityError ("NOT NULL constraint failed: " ++ tab.name ++ "." ++ c)
  | .unique key => uniqueFailed (", ".intercalate (key.map fun c => tab.name ++ "." ++ c))
  | .foreignKey => foreignKeyFailed

/-- The outcome of a statement, with the `lastrowid` of its table. -/
def outcome (tab : TableName) : Except Refusal (Db T) → Except PyErr (Int × Db T)
  | .ok d => .ok ((d tab).last, d)
  | .error e => .error (integrityError tab e)

instance : Inhabited (Value T) := ⟨.null⟩

namespace Sqlite

variable [Field T] [LinearOrder T] (sq : Sqlite T) (tab : TableName)

def engine : Engine TableName T := ⟨TableName.schema, sq.coerce⟩

omit [Field T] [LinearOrder T] in
/-- A text or a blob, unless it is refused. -/
def taken (v : Value T) : Except PyErr (Value T) :=
  match sq.refuses v with
  | none => .ok v
  | some e => .error e

omit [Field T] [LinearOrder T] in
/-- What a parameter is bound as. -/
def bind : Arg T → Except PyErr (Value T)
  | .none => .ok .null
  | .bool b => .ok (.int (if b then 1 else 0))
  | .int n =>
    if -2 ^ 63 ≤ n ∧ n < 2 ^ 63 then .ok (.int n)
    else .error (.overflowError "Python int too large to convert to SQLite INTEGER")
  | .float x => .ok (.real x)
  | .nan => .ok .null
  | .str s => sq.taken (.text s)
  | .bytes bs => sq.taken (.blob bs)
  | .object _ name => sq.adapt name

omit [LinearOrder T] in
/-- `t + value`, for a reading of the clock. -/
def plus (t : T) : Arg T → Except PyErr (Arg T)
  | .bool b => .ok (.float (t + if b then 1 else 0))
  | .int n =>
    if n.natAbs < floatLimit then .ok (.float (t + (n : T)))
    else .error (.overflowError "int too large to convert to float")
  | .float x => .ok (.float (t + x))
  | .nan => .ok .nan
  | .object _ name => sq.add t name
  | _ => .error (.typeError "unsupported operand type(s) for +")

/-- store.py:158–159. -/
def json (data : Arg T) : Except PyErr String :=
  if data.truthy then sq.dumps data else .ok "{}"

/-- A column of `_row`. -/
def decode : Value T → Except PyErr (Arg T)
  | .text s => sq.loads s
  | v => .ok (.ofValue v)

/-- store.py:161–168, for a row. -/
def record (row : Row T) : Except PyErr (Record T) := do
  let metadata ← sq.decode (row "metadata")
  let payload ← sq.decode (row "payload")
  return fun name =>
    if name = "metadata" then metadata
    else if name = "payload" then payload
    else .ofValue (row name)

/-- `_row(cursor.fetchone())`. -/
def fetched (rows : List (Row T)) : Except PyErr (Option (Record T)) :=
  match rows with
  | [] => .ok none
  | row :: _ => (sq.record row).map some

omit [Field T] [LinearOrder T] in
def eval (p : ℕ → Value T) (row : Row T) : Expr → Value T
  | .param n => p n
  | .text s => .text s
  | .increment c => sq.increment (row c)

/-- `column = value AND …`. -/
def matching (conds : List (String × Expr)) (p : ℕ → Value T) (row : Row T) : Bool :=
  conds.all fun cond => sq.engine.equals tab cond.1 (sq.eval p row cond.2) row

/-- `SELECT * FROM tab WHERE conds`. -/
def rowsWhere (conds : List (String × Expr)) (p : ℕ → Value T) (d : Db T) : List (Row T) :=
  (d tab).rows.filter (sq.matching tab conds p)

omit [Field T] [LinearOrder T] in
/-- The values of `SET`. -/
def settings (sets : List (String × Expr)) (p : ℕ → Value T) : Engine.Changes T :=
  sets.map fun set => (set.1, fun old => sq.eval p old set.2)

/-- What a statement does with its parameters bound. -/
def change (p : ℕ → Value T) (d : Db T) : Statement T → Except PyErr (Int × Db T)
  | .insert tab columns _ => outcome tab (sq.engine.insert tab (sq.engine.row tab columns p) d)
  | .insertOrIgnore tab columns _ =>
    outcome tab (sq.engine.insertOrIgnore tab (sq.engine.row tab columns p) d)
  | .insertOrReplace tab columns _ =>
    outcome tab (sq.engine.insertOrReplace tab (sq.engine.row tab columns p) d)
  | .upsert tab columns key excluded _ =>
    let row := sq.engine.row tab columns p
    outcome tab (sq.engine.upsert tab row d key (excluded.map fun c => (c, fun _ => row c)))
  | .update tab sets conds _ =>
    outcome tab (sq.engine.update tab d (sq.settings sets p) (sq.matching tab conds p))
  | .deleteBelow tab column _ =>
    outcome tab (.ok (Engine.delete tab d fun row =>
      (row column).less (sq.engine.stored tab column (p 0))))

/-- `self.conn.execute(statement, parameters)`, with the `lastrowid`. -/
def execute (statement : Statement T) : DbCode T Int :=
  SqlCall.issue (.modify statement.values fun p d => sq.change p d statement)

/-- `SELECT * FROM tab WHERE conds`. -/
def select (conds : List (String × Expr)) (values : List (Arg T)) : DbCall T :=
  .select values fun p d => sq.rowsWhere tab conds p d

end Sqlite

/-- `ORDER BY column`. -/
def orderBy [Field T] [LinearOrder T] (column : String) (rows : List (Row T)) : List (Row T) :=
  rows.mergeSort fun a b => (a column).upTo (b column)

/-! ## Methods -/

namespace Database

variable [Field T] [LinearOrder T] (sq : Sqlite T) (m : Readings T)

def insertSession (tenantId externalId profileBundle : Arg T) (metadata : String) : Statement T :=
  .insert .sessions
    ["id", "external_id", "tenant_id", "profile_bundle", "status", "metadata", "created_at",
      "updated_at"]
    [.str m.uuid4, externalId, tenantId, profileBundle, .str "pending", .str metadata,
      .float (m.now 0), .float (m.now 0)]

/-- store.py:170–179. -/
def createSession (tenantId externalId profileBundle metadata : Arg T) : DbCode T String := do
  let metadata ← .ofExcept (sq.json metadata)
  let _ ← sq.execute (insertSession m tenantId externalId profileBundle metadata)
  SqlCall.issue .commit
  return m.uuid4

def setSessionStatus (sessionId status : Arg T) : Statement T :=
  .update .sessions [("status", .param 0), ("updated_at", .param 1)] [("id", .param 2)]
    [status, .float (m.now 0), sessionId]

/-- store.py:181–184. -/
def updateSessionStatus (sessionId status : Arg T) : DbCode T Unit := do
  let _ ← sq.execute (setSessionStatus m sessionId status)
  SqlCall.issue .commit

/-- store.py:186–187. -/
def getSession (sessionId : Arg T) : DbCode T (Option (Record T)) := do
  let rows ← SqlCall.issue (sq.select .sessions [("id", .param 0)] [sessionId])
  .ofExcept (sq.fetched rows)

/-- The rows of a table that belong to a session. -/
def ofSession (tab : TableName) (sessionId : Value T) (d : Db T) : List (Row T) :=
  (d tab).rows.filter (sq.engine.equals tab "session_id" sessionId)

/-- A sequence number; nothing but integers is ever stored as one. -/
def sequenceOf (row : Row T) : Int :=
  match row "sequence" with
  | .int n => n
  | _ => 0

/-- `SELECT COALESCE(MAX(sequence), 0) + 1 FROM events WHERE session_id=?`. -/
def nextSequence (sessionId : Value T) (d : Db T) : Int :=
  (((ofSession sq .events sessionId d).map sequenceOf).max?).getD 0 + 1

/-- What `append_event` returns. -/
structure Appended (T : Type) where
  sessionId : Arg T
  sequence : Int
  eventType : Arg T
  payload : Arg T
  actorResourceId : Arg T

def insertEvent (sessionId : Arg T) (seq : Int) (eventType : Arg T) (payload : String)
    (actorResourceId : Arg T) : Statement T :=
  .insert .events
    ["session_id", "sequence", "event_type", "payload", "actor_resource_id", "created_at"]
    [sessionId, .int seq, eventType, .str payload, actorResourceId, .float (m.now 0)]

/-- store.py:189–200. -/
def appendEvent (sessionId eventType payload actorResourceId : Arg T) :
    DbCode T (Appended T) := do
  let seq ← SqlCall.issue (.number [sessionId] fun p d => nextSequence sq (p 0) d)
  let text ← .ofExcept (sq.json payload)
  let _ ← sq.execute (insertEvent m sessionId seq eventType text actorResourceId)
  SqlCall.issue .commit
  return ⟨sessionId, seq, eventType, payload.orEmpty, actorResourceId⟩

/-- store.py:202–206. -/
def getEvents (sessionId after : Arg T) : DbCode T (List (Record T)) := do
  let rows ← SqlCall.issue (.select [sessionId, after] fun p d =>
    orderBy "sequence" ((ofSession sq .events (p 0) d).filter fun row =>
      (sq.engine.stored .events "sequence" (p 1)).less (row "sequence")))
  .ofExcept (rows.mapM sq.record)

/-- `SELECT COUNT(*) FROM command_inbox WHERE session_id=? AND status='pending'`. -/
def pendingCount (sessionId : Value T) (d : Db T) : Int :=
  ((ofSession sq .commandInbox sessionId d).filter
    (sq.engine.equals .commandInbox "status" (.text "pending"))).length

/-- `SELECT COUNT(*) FROM events WHERE session_id=?`. -/
def eventCount (sessionId : Value T) (d : Db T) : Int :=
  (ofSession sq .events sessionId d).length

def insertCommand (sessionId commandType : Arg T) (payload : String) (actorResourceId : Arg T) :
    Statement T :=
  .insert .commandInbox
    ["session_id", "command_type", "payload", "actor_resource_id", "status", "available_at",
      "created_at"]
    [sessionId, commandType, .str payload, actorResourceId, .str "pending", .float (m.now 0),
      .float (m.now 1)]

/-- store.py:211–230. -/
def enqueueCommand (sessionId commandType payload actorResourceId : Arg T) : DbCode T Int := do
  let pending ← SqlCall.issue (.number [sessionId] fun p d => pendingCount sq (p 0) d)
  if (Store.maxPendingCommands : Int) ≤ pending then
    .throw (.valueError ("session " ++ sq.str sessionId ++ " has too many pending commands"))
  else
    let count ← SqlCall.issue (.number [sessionId] fun p d => eventCount sq (p 0) d)
    if (Store.maxEventsPerSession : Int) ≤ count then
      .throw (.valueError ("session " ++ sq.str sessionId ++ " has reached the event limit"))
    else
      let text ← .ofExcept (sq.json payload)
      let id ← sq.execute (insertCommand m sessionId commandType text actorResourceId)
      SqlCall.issue .commit
      return id

def setClaimed (sessionId claimedBy : Arg T) : Statement T :=
  .update .commandInbox
    [("status", .text "claimed"), ("claimed_by", .param 0), ("claim_token", .param 1),
      ("claimed_at", .param 2)]
    [("session_id", .param 3), ("status", .text "pending")]
    [claimedBy, .str m.uuid4, .float (m.now 0), sessionId]

/-- store.py:232–250. -/
def claimPendingCommands (sessionId claimedBy : Arg T) : DbCode T (List (Record T)) := do
  let _ ← sq.execute (setClaimed m sessionId claimedBy)
  SqlCall.issue .commit
  let rows ← SqlCall.issue (.select [.str m.uuid4] fun p d =>
    orderBy "id" (sq.rowsWhere .commandInbox
      [("claim_token", .param 0), ("status", .text "claimed")] p d))
  .ofExcept (rows.mapM sq.record)

def setCompleted (commandId : Arg T) : Statement T :=
  .update .commandInbox [("status", .text "completed"), ("completed_at", .param 0)]
    [("id", .param 1)] [.float (m.now 0), commandId]

/-- store.py:252–255. -/
def completeCommand (commandId : Arg T) : DbCode T Unit := do
  let _ ← sq.execute (setCompleted m commandId)
  SqlCall.issue .commit

/-- Change the host that has a `host_id`, or add one. -/
def upsertHost (tab : TableName) (hostId metadata : Arg T) (update insert : String → Statement T) :
    DbCode T (Arg T) := do
  let found ← SqlCall.issue (sq.select tab [("host_id", .param 0)] [hostId])
  match found with
  | existing :: _ =>
    let text ← .ofExcept (sq.json metadata)
    let _ ← sq.execute (update text)
    SqlCall.issue .commit
    return .ofValue (existing "id")
  | [] =>
    let text ← .ofExcept (sq.json metadata)
    let _ ← sq.execute (insert text)
    SqlCall.issue .commit
    return .str m.uuid4

def updateCellHost (hostId zone address capacityTotal : Arg T) (metadata : String) :
    Statement T :=
  .update .cellHosts
    [("zone", .param 0), ("address", .param 1), ("capacity_total", .param 2),
      ("status", .text "ready"), ("last_heartbeat_at", .param 3), ("metadata", .param 4),
      ("updated_at", .param 5)]
    [("host_id", .param 6)]
    [zone, address, capacityTotal, .float (m.now 0), .str metadata, .float (m.now 0), hostId]

def insertCellHost (hostId zone address capacityTotal : Arg T) (metadata : String) :
    Statement T :=
  .insert .cellHosts
    ["id", "host_id", "zone", "address", "capacity_total", "capacity_used", "status",
      "last_heartbeat_at", "metadata", "created_at", "updated_at"]
    [.str m.uuid4, hostId, zone, address, capacityTotal, .int 0, .str "ready", .float (m.now 0),
      .str metadata, .float (m.now 0), .float (m.now 0)]

/-- store.py:257–268. -/
def upsertCellHost (hostId zone address capacityTotal metadata : Arg T) : DbCode T (Arg T) :=
  upsertHost sq m .cellHosts hostId metadata (updateCellHost m hostId zone address capacityTotal)
    (insertCellHost m hostId zone address capacityTotal)

def updateSandboxHost (hostId zone address : Arg T) (metadata : String) : Statement T :=
  .update .sandboxHosts
    [("zone", .param 0), ("address", .param 1), ("status", .text "ready"),
      ("last_heartbeat_at", .param 2), ("metadata", .param 3), ("updated_at", .param 4)]
    [("host_id", .param 5)]
    [zone, address, .float (m.now 0), .str metadata, .float (m.now 0), hostId]

def insertSandboxHost (hostId zone address : Arg T) (metadata : String) : Statement T :=
  .insert .sandboxHosts
    ["id", "host_id", "zone", "address", "status", "last_heartbeat_at", "metadata", "created_at",
      "updated_at"]
    [.str m.uuid4, hostId, zone, address, .str "ready", .float (m.now 0), .str metadata,
      .float (m.now 0), .float (m.now 0)]

/-- store.py:270–281. -/
def upsertSandboxHost (hostId zone address metadata : Arg T) : DbCode T (Arg T) :=
  upsertHost sq m .sandboxHosts hostId metadata (updateSandboxHost m hostId zone address)
    (insertSandboxHost m hostId zone address)

/-- The two tables that `heartbeat_host` takes. -/
def hostTable : Arg T → Except PyErr TableName
  | .str "cell_hosts" => .ok .cellHosts
  | .str "sandbox_hosts" => .ok .sandboxHosts
  | _ => .error (.valueError "bad host table")

def setHeartbeat (tab : TableName) (hostId : Arg T) : Statement T :=
  .update tab [("last_heartbeat_at", .param 0), ("status", .text "ready"), ("updated_at", .param 1)]
    [("host_id", .param 2)] [.float (m.now 0), .float (m.now 1), hostId]

/-- store.py:283–290. -/
def heartbeatHost (table hostId : Arg T) : DbCode T Unit := do
  let tab ← .ofExcept (hostTable table)
  let _ ← sq.execute (setHeartbeat m tab hostId)
  SqlCall.issue .commit

/-- store.py:292–296. -/
def chooseCellHost : DbCode T (Record T) := do
  let rows ← SqlCall.issue (.select [] fun _ d =>
    orderBy "capacity_used" (orderBy "created_at" ((d .cellHosts).rows.filter fun row =>
      sq.engine.equals .cellHosts "status" (.text "ready") row &&
        (row "capacity_used").less (row "capacity_total"))))
  match rows with
  | [] => .throw (.runtimeError "no cell host has available capacity")
  | row :: _ => .ofExcept (sq.record row)

def replaceLease (sessionId cellHostId expiresAt : Arg T) : Statement T :=
  .insertOrReplace .sessionLeases
    ["session_id", "cell_host_id", "lease_token", "status", "expires_at", "created_at",
      "updated_at"]
    [sessionId, cellHostId, .str m.uuid4, .str "active", expiresAt, .float (m.now 0),
      .float (m.now 0)]

def takeSlot (cellHostId : Arg T) : Statement T :=
  .update .cellHosts [("capacity_used", .increment "capacity_used"), ("updated_at", .param 0)]
    [("id", .param 1)] [.float (m.now 0), cellHostId]

/-- store.py:298–305. -/
def createLease (sessionId cellHostId ttlSeconds : Arg T) : DbCode T String := do
  let expiresAt ← .ofExcept (sq.plus (m.now 0) ttlSeconds)
  let _ ← sq.execute (replaceLease m sessionId cellHostId expiresAt)
  let _ ← sq.execute (takeSlot m cellHostId)
  SqlCall.issue .commit
  return m.uuid4

/-- A lease with the three columns that `get_route` adds from its host. -/
def routeRow (lease host : Row T) : Row T := fun name =>
  if name ∈ ["host_id", "address", "zone"] then host name else lease name

/-- store.py:307–316. -/
def getRoute (sessionId : Arg T) : DbCode T (Option (Record T)) := do
  let rows ← SqlCall.issue (.select [sessionId, .float (m.now 0)] fun p d =>
    (ofSession sq .sessionLeases (p 0) d).flatMap fun lease =>
      ((d .cellHosts).rows.filter fun host =>
        (host "id").same (lease "cell_host_id") &&
          sq.engine.equals .sessionLeases "status" (.text "active") lease &&
          (sq.engine.stored .sessionLeases "expires_at" (p 1)).less (lease "expires_at")).map
        (routeRow lease))
  .ofExcept (sq.fetched rows)

def insertAudit (actor action sessionId : Arg T) (payload : String) : Statement T :=
  .insert .auditLog ["actor", "action", "session_id", "payload", "created_at"]
    [actor, action, sessionId, .str payload, .float (m.now 0)]

/-- store.py:318–322. -/
def audit (actor action sessionId payload : Arg T) : DbCode T Int := do
  let text ← .ofExcept (sq.json payload)
  let id ← sq.execute (insertAudit m actor action sessionId text)
  SqlCall.issue .commit
  return id

/-- store.py:324–329. -/
def auditEntries (sessionId : Arg T) : DbCode T (List (Record T)) := do
  let rows ←
    if sessionId.truthy then
      SqlCall.issue (.select [sessionId] fun p d => orderBy "id" (ofSession sq .auditLog (p 0) d))
    else SqlCall.issue (.select [] fun _ d => orderBy "id" (d .auditLog).rows)
  .ofExcept (rows.mapM sq.record)

/-- The row of a channel. -/
def channelRow (platform channelId threadId : Arg T) : DbCode T (Option (Record T)) := do
  let rows ← SqlCall.issue (sq.select .channels
    [("platform", .param 0), ("channel_id", .param 1), ("thread_id", .param 2)]
    [platform, channelId, threadId])
  .ofExcept (sq.fetched rows)

def insertChannel (platform channelId threadId sessionId initiatorResourceId : Arg T)
    (metadata : String) : Statement T :=
  .insertOrIgnore .channels
    ["id", "platform", "channel_id", "thread_id", "session_id", "initiator_resource_id",
      "metadata", "created_at", "updated_at"]
    [.str m.uuid4, platform, channelId, threadId, sessionId, initiatorResourceId, .str metadata,
      .float (m.now 0), .float (m.now 0)]

/-- store.py:333–367. -/
def getOrCreateChannel (platform channelId threadId sessionId initiatorResourceId metadata : Arg T) :
    DbCode T (Arg T × Arg T × Bool) := do
  let text ← .ofExcept (sq.json metadata)
  let _ ← sq.execute
    (insertChannel m platform channelId threadId sessionId initiatorResourceId text)
  SqlCall.issue .commit
  let actual ← channelRow sq platform channelId threadId
  match actual with
  | none => .throw (.typeError "'NoneType' object is not subscriptable")
  | some actual =>
    return (actual "session_id", actual "id",
      decide (actual "session_id" = sessionId ∧ actual "id" = .str m.uuid4))

/-- store.py:369–375. -/
def getChannel (platform channelId threadId : Arg T) : DbCode T (Option (Record T)) :=
  channelRow sq platform channelId threadId

/-- store.py:381–389. -/
def getResourceMemory (resourceId : Arg T) : DbCode T (Arg T) := do
  let rows ← SqlCall.issue (sq.select .resources [("resource_id", .param 0)] [resourceId])
  match rows with
  | [] => return .dict
  | row :: _ =>
    match row "memory" with
    | .text s =>
      match sq.loads s with
      | .ok memory => return memory
      | .error _ => return .dict
    | _ => .throw (.typeError "the JSON object must be str, bytes or bytearray")

/-- `_MAX_MEMORY_BYTES`. -/
def maxMemoryBytes : ℕ := 1 * 1024 * 1024

def upsertMemory (resourceId platform : Arg T) (blob : String) : Statement T :=
  .upsert .resources ["resource_id", "platform", "memory", "created_at", "updated_at"]
    ["resource_id"] ["memory", "updated_at"]
    [resourceId, platform, .str blob, .float (m.now 0), .float (m.now 0)]

/-- store.py:391–403. -/
def setResourceMemory (resourceId memory platform : Arg T) : DbCode T Unit := do
  let blob ← .ofExcept (sq.json memory)
  if maxMemoryBytes < blob.utf8ByteSize then
    .throw (.valueError ("memory blob exceeds " ++ toString maxMemoryBytes ++ " bytes"))
  else
    let _ ← sq.execute (upsertMemory m resourceId platform blob)
    SqlCall.issue .commit

def insertRevoked (jti expiresAt : Arg T) : Statement T :=
  .insertOrIgnore .revokedTokens ["jti", "expires_at", "revoked_at"]
    [jti, expiresAt, .float (m.now 0)]

/-- store.py:405–411. -/
def revokeToken (jti expiresAt : Arg T) : DbCode T Unit := do
  let _ ← sq.execute (insertRevoked m jti expiresAt)
  SqlCall.issue .commit

/-- store.py:413–421. -/
def isTokenRevoked (jti : Arg T) : DbCode T Bool := do
  let _ ← sq.execute (.deleteBelow .revokedTokens "expires_at" (.float (m.now 0)))
  let rows ← SqlCall.issue (sq.select .revokedTokens [("jti", .param 0)] [jti])
  return !rows.isEmpty

end Database

/-- A call of a method. -/
inductive StoreMethod (T : Type) where
  | createSession (tenantId externalId profileBundle metadata : Arg T)
  | updateSessionStatus (sessionId status : Arg T)
  | getSession (sessionId : Arg T)
  | appendEvent (sessionId eventType payload actorResourceId : Arg T)
  | getEvents (sessionId after : Arg T)
  | enqueueCommand (sessionId commandType payload actorResourceId : Arg T)
  | claimPendingCommands (sessionId claimedBy : Arg T)
  | completeCommand (commandId : Arg T)
  | upsertCellHost (hostId zone address capacityTotal metadata : Arg T)
  | upsertSandboxHost (hostId zone address metadata : Arg T)
  | heartbeatHost (table hostId : Arg T)
  | chooseCellHost
  | createLease (sessionId cellHostId ttlSeconds : Arg T)
  | getRoute (sessionId : Arg T)
  | audit (actor action sessionId payload : Arg T)
  | auditEntries (sessionId : Arg T)
  | getOrCreateChannel (platform channelId threadId sessionId initiatorResourceId metadata : Arg T)
  | getChannel (platform channelId threadId : Arg T)
  | getResourceMemory (resourceId : Arg T)
  | setResourceMemory (resourceId memory platform : Arg T)
  | revokeToken (jti expiresAt : Arg T)
  | isTokenRevoked (jti : Arg T)

/-- Make the call, dropping what it returns. -/
def DbCode.drop {α : Type} (p : DbCode T α) : DbCode T Unit := p.bind fun _ => .pure ()

def StoreMethod.code [Field T] [LinearOrder T] (sq : Sqlite T) (m : Readings T) :
    StoreMethod T → DbCode T Unit
  | .createSession tenantId externalId profileBundle metadata =>
    (Database.createSession sq m tenantId externalId profileBundle metadata).drop
  | .updateSessionStatus sessionId status => Database.updateSessionStatus sq m sessionId status
  | .getSession sessionId => (Database.getSession sq sessionId).drop
  | .appendEvent sessionId eventType payload actorResourceId =>
    (Database.appendEvent sq m sessionId eventType payload actorResourceId).drop
  | .getEvents sessionId after => (Database.getEvents sq sessionId after).drop
  | .enqueueCommand sessionId commandType payload actorResourceId =>
    (Database.enqueueCommand sq m sessionId commandType payload actorResourceId).drop
  | .claimPendingCommands sessionId claimedBy =>
    (Database.claimPendingCommands sq m sessionId claimedBy).drop
  | .completeCommand commandId => Database.completeCommand sq m commandId
  | .upsertCellHost hostId zone address capacityTotal metadata =>
    (Database.upsertCellHost sq m hostId zone address capacityTotal metadata).drop
  | .upsertSandboxHost hostId zone address metadata =>
    (Database.upsertSandboxHost sq m hostId zone address metadata).drop
  | .heartbeatHost table hostId => Database.heartbeatHost sq m table hostId
  | .chooseCellHost => (Database.chooseCellHost sq).drop
  | .createLease sessionId cellHostId ttlSeconds =>
    (Database.createLease sq m sessionId cellHostId ttlSeconds).drop
  | .getRoute sessionId => (Database.getRoute sq m sessionId).drop
  | .audit actor action sessionId payload =>
    (Database.audit sq m actor action sessionId payload).drop
  | .auditEntries sessionId => (Database.auditEntries sq sessionId).drop
  | .getOrCreateChannel platform channelId threadId sessionId initiatorResourceId metadata =>
    (Database.getOrCreateChannel sq m platform channelId threadId sessionId initiatorResourceId
      metadata).drop
  | .getChannel platform channelId threadId =>
    (Database.getChannel sq platform channelId threadId).drop
  | .getResourceMemory resourceId => (Database.getResourceMemory sq resourceId).drop
  | .setResourceMemory resourceId memory platform =>
    Database.setResourceMemory sq m resourceId memory platform
  | .revokeToken jti expiresAt => Database.revokeToken sq m jti expiresAt
  | .isTokenRevoked jti => (Database.isTokenRevoked sq m jti).drop

end Nadi
