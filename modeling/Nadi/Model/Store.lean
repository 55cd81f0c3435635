import Nadi.Data.Serial
import Nadi.Data.Table
import Nadi.Model.Python
import Mathlib.Algebra.Order.Field.Basic
import Mathlib.Algebra.Order.Floor.Ring
import Mathlib.Data.List.Sort

/-!
# `nadi/store.py`: the tables and the methods of `Store`

One record for each row of `init_schema`, one `Table` or `Serial` for each
table, one function for each method. A method takes the readings of the clock
and the ids it draws as arguments and returns what the method returns with the
store after it; a raising method leaves the store as it was.

A clock reading is an element of an ordered field `T` with a floor: the reals,
or the rationals, over which everything here computes.
-/

namespace Nadi

/-- The values `sessions.status` takes. -/
inductive SessionStatus where
  | pending
  | running
  | stopped
  | abandoned
  deriving DecidableEq, Repr

/-- The values `command_inbox.status` takes. -/
inductive CommandStatus where
  | pending
  | claimed
  | completed
  deriving DecidableEq, Repr

/-- The values a host's `status` takes. -/
inductive HostStatus where
  | unknown
  | ready
  deriving DecidableEq, Repr

/-- The one value `session_leases.status` ever takes: nothing ends a lease. -/
inductive LeaseStatus where
  | active
  deriving DecidableEq, Repr

structure SessionRow (T : Type) where
  id : String
  externalId : Option String
  tenantId : String
  profileBundle : Option String
  status : SessionStatus
  metadata : Json
  createdAt : T
  updatedAt : T

structure EventRow (T : Type) where
  id : Nat
  sessionId : String
  sequence : Nat
  eventType : String
  payload : Json
  actorResourceId : Option String
  createdAt : T

structure CommandRow (T : Type) where
  id : Nat
  sessionId : String
  commandType : String
  payload : Json
  actorResourceId : Option String
  status : CommandStatus
  availableAt : T
  claimedBy : Option String
  claimToken : Option String
  claimedAt : Option T
  completedAt : Option T
  createdAt : T

structure RevokedRow (T : Type) where
  jti : String
  expiresAt : T
  revokedAt : T

structure CellHostRow (T : Type) where
  id : String
  hostId : String
  zone : String
  address : String
  capacityTotal : Int
  capacityUsed : Nat
  status : HostStatus
  lastHeartbeatAt : Option T
  metadata : Json
  createdAt : T
  updatedAt : T

structure LeaseRow (T : Type) where
  sessionId : String
  cellHostId : String
  leaseToken : String
  status : LeaseStatus
  expiresAt : T
  createdAt : T
  updatedAt : T

structure SandboxHostRow (T : Type) where
  id : String
  hostId : String
  zone : String
  address : String
  status : HostStatus
  lastHeartbeatAt : Option T
  metadata : Json
  createdAt : T
  updatedAt : T

structure ChannelRow (T : Type) where
  id : String
  platform : String
  channelId : String
  threadId : String
  sessionId : String
  initiatorResourceId : String
  metadata : Json
  createdAt : T
  updatedAt : T

structure AuditRow (T : Type) where
  id : Nat
  actor : String
  action : String
  sessionId : Option String
  payload : Json
  createdAt : T

/-- `UNIQUE (platform, channel_id, thread_id)`. -/
def ChannelRow.key {T : Type} (c : ChannelRow T) : String × String × String :=
  (c.platform, c.channelId, c.threadId)

/-- The database. -/
structure Store (T : Type) where
  sessions : Data.Table (SessionRow T) SessionRow.id
  events : Data.Serial (EventRow T) EventRow.id
  commandInbox : Data.Serial (CommandRow T) CommandRow.id
  revokedTokens : Data.Table (RevokedRow T) RevokedRow.jti
  cellHosts : Data.Table (CellHostRow T) CellHostRow.id
  sessionLeases : Data.Table (LeaseRow T) LeaseRow.sessionId
  sandboxHosts : Data.Table (SandboxHostRow T) SandboxHostRow.id
  channels : Data.Table (ChannelRow T) ChannelRow.key
  auditLog : Data.Serial (AuditRow T) AuditRow.id

/-- What `append_event` returns. -/
structure Event where
  sessionId : String
  sequence : Nat
  eventType : String
  payload : Json
  actorResourceId : Option String

/-- A row of `get_route`: the lease joined with its host. -/
structure Route (T : Type) where
  lease : LeaseRow T
  hostId : String
  address : String
  zone : String

/-- `sqlite3.IntegrityError` of a dangling reference. -/
def foreignKeyFailed : PyErr := .integrityError "FOREIGN KEY constraint failed"

/-- `sqlite3.IntegrityError` of a duplicate. -/
def uniqueFailed (columns : String) : PyErr :=
  .integrityError ("UNIQUE constraint failed: " ++ columns)

namespace Store

variable {T : Type}

/-- A database after `init_schema`. -/
def init : Store T :=
  ⟨.empty, .empty, .empty, .empty, .empty, .empty, .empty, .empty, .empty⟩

/-- `_MAX_PENDING_COMMANDS`. -/
def maxPendingCommands : Nat := 100

/-- `_MAX_EVENTS_PER_SESSION`. -/
def maxEventsPerSession : Nat := 10000

/-- `sessions` has a row with the given id (what a foreign key checks). -/
def hasSession (st : Store T) (sessionId : String) : Bool :=
  (st.sessions.find? sessionId).isSome

/-! ## Sessions -/

/-- The row `create_session` inserts. -/
def newSession (t : T) (sid tenantId : String) (externalId profileBundle : Option String)
    (metadata : Json) : SessionRow T :=
  { id := sid, externalId, tenantId, profileBundle, status := .pending,
    metadata := metadata.orEmpty, createdAt := t, updatedAt := t }

/-- store.py:170–179. -/
def createSession (st : Store T) (t : T) (sid tenantId : String)
    (externalId profileBundle : Option String) (metadata : Json) :
    Except PyErr (String × Store T) :=
  if externalId.isSome ∧ st.sessions.rows.any (fun r => r.externalId == externalId) then
    .error (uniqueFailed "sessions.external_id")
  else
    match st.sessions.insert?
      (newSession t sid tenantId externalId profileBundle metadata) with
    | none => .error (uniqueFailed "sessions.id")
    | some sessions => .ok (sid, { st with sessions })

/-- store.py:181–184. -/
def updateSessionStatus (st : Store T) (t : T) (sessionId : String)
    (status : SessionStatus) : Store T :=
  { st with
    sessions := st.sessions.update (fun r => r.id == sessionId)
      (fun r => { r with status, updatedAt := t }) fun _ => rfl }

/-- store.py:186–187. -/
def getSession (st : Store T) (sessionId : String) : Option (SessionRow T) :=
  st.sessions.find? sessionId

/-! ## The event log -/

/-- The events of one session, in order of insertion. -/
def eventsOf (st : Store T) (sessionId : String) : List (EventRow T) :=
  st.events.select fun e => e.sessionId == sessionId

/-- `SELECT COALESCE(MAX(sequence), 0) + 1 FROM events WHERE session_id=?`. -/
def nextSequence (st : Store T) (sessionId : String) : Nat :=
  (((st.eventsOf sessionId).map EventRow.sequence).max?).getD 0 + 1

/-- The row `append_event` inserts under an id. -/
def newEvent (t : T) (sessionId : String) (seq : Nat) (eventType : String) (payload : Json)
    (actorResourceId : Option String) (id : Nat) : EventRow T :=
  ⟨id, sessionId, seq, eventType, payload.orEmpty, actorResourceId, t⟩

/-- store.py:189–200. -/
def appendEvent (st : Store T) (t : T) (sessionId eventType : String) (payload : Json)
    (actorResourceId : Option String) : Except PyErr (Event × Store T) :=
  let seq := st.nextSequence sessionId
  if (st.eventsOf sessionId).any fun e => e.sequence == seq then
    .error (uniqueFailed "events.session_id, events.sequence")
  else if st.hasSession sessionId then
    .ok
      (⟨sessionId, seq, eventType, payload.orEmpty, actorResourceId⟩,
        { st with
          events := st.events.push
            (newEvent t sessionId seq eventType payload actorResourceId) fun _ => rfl })
  else .error foreignKeyFailed

/-- store.py:202–206. -/
def getEvents (st : Store T) (sessionId : String) (after : Int) : List (EventRow T) :=
  (st.events.select fun e => e.sessionId == sessionId && decide (after < e.sequence)).insertionSort
    fun a b => a.sequence ≤ b.sequence

/-! ## The command inbox -/

/-- The pending commands of one session, `ORDER BY id`. -/
def pendingOf (st : Store T) (sessionId : String) : List (CommandRow T) :=
  st.commandInbox.select fun c => c.sessionId == sessionId && c.status == .pending

/-- The row `enqueue_command` inserts under an id. -/
def newCommand (t : T) (sessionId commandType : String) (payload : Json)
    (actorResourceId : Option String) (id : Nat) : CommandRow T :=
  { id, sessionId, commandType, payload := payload.orEmpty, actorResourceId,
    status := .pending, availableAt := t, claimedBy := none, claimToken := none,
    claimedAt := none, completedAt := none, createdAt := t }

/-- store.py:211–230. -/
def enqueueCommand (st : Store T) (t : T) (sessionId commandType : String) (payload : Json)
    (actorResourceId : Option String) : Except PyErr (Nat × Store T) :=
  if maxPendingCommands ≤ (st.pendingOf sessionId).length then
    .error (.valueError ("session " ++ sessionId ++ " has too many pending commands"))
  else if maxEventsPerSession ≤ (st.eventsOf sessionId).length then
    .error (.valueError ("session " ++ sessionId ++ " has reached the event limit"))
  else if st.hasSession sessionId then
    .ok
      (st.commandInbox.last + 1,
        { st with
          commandInbox := st.commandInbox.push
            (newCommand t sessionId commandType payload actorResourceId) fun _ => rfl })
  else .error foreignKeyFailed

/-- A claimed row. -/
def claimRow (t : T) (claimedBy claimToken : String) (c : CommandRow T) : CommandRow T :=
  { c with
    status := .claimed, claimedBy := some claimedBy, claimToken := some claimToken,
    claimedAt := some t }

/-- store.py:232–250: mark every pending row of the session with a token of this
call, then read the rows that carry the token. -/
def claimPendingCommands (st : Store T) (t : T) (claimToken sessionId claimedBy : String) :
    List (CommandRow T) × Store T :=
  let inbox := st.commandInbox.update
    (fun c => c.sessionId == sessionId && c.status == .pending)
    (claimRow t claimedBy claimToken) fun _ => rfl
  (inbox.select fun c => c.claimToken == some claimToken && c.status == .claimed,
    { st with commandInbox := inbox })

/-- A completed row. -/
def completeRow (t : T) (c : CommandRow T) : CommandRow T :=
  { c with status := .completed, completedAt := some t }

/-- store.py:252–255. -/
def completeCommand (st : Store T) (t : T) (commandId : Nat) : Store T :=
  { st with
    commandInbox := st.commandInbox.update (fun c => c.id == commandId) (completeRow t)
      fun _ => rfl }

/-! ## Hosts and leases -/

/-- The row `upsert_cell_host` inserts for a new host. -/
def newCellHost (t : T) (cid hostId zone address : String) (capacityTotal : Int)
    (metadata : Json) : CellHostRow T :=
  { id := cid, hostId, zone, address, capacityTotal, capacityUsed := 0, status := .ready,
    lastHeartbeatAt := some t, metadata := metadata.orEmpty, createdAt := t, updatedAt := t }

/-- What `upsert_cell_host` sets on a host it knows: the count stays. -/
def refreshCellHost (t : T) (zone address : String) (capacityTotal : Int) (metadata : Json)
    (h : CellHostRow T) : CellHostRow T :=
  { h with
    zone, address, capacityTotal, status := .ready, lastHeartbeatAt := some t,
    metadata := metadata.orEmpty, updatedAt := t }

/-- store.py:257–268. -/
def upsertCellHost (st : Store T) (t : T) (cid hostId zone address : String)
    (capacityTotal : Int) (metadata : Json) : Except PyErr (String × Store T) :=
  match st.cellHosts.rows.find? fun h => h.hostId == hostId with
  | some existing =>
    .ok
      (existing.id,
        { st with
          cellHosts := st.cellHosts.update (fun h => h.hostId == hostId)
            (refreshCellHost t zone address capacityTotal metadata) fun _ => rfl })
  | none =>
    match st.cellHosts.insert?
      (newCellHost t cid hostId zone address capacityTotal metadata) with
    | none => .error (uniqueFailed "cell_hosts.id")
    | some cellHosts => .ok (cid, { st with cellHosts })

/-- store.py:270–281. -/
def upsertSandboxHost (st : Store T) (t : T) (sid hostId zone address : String)
    (metadata : Json) : Except PyErr (String × Store T) :=
  match st.sandboxHosts.rows.find? fun h => h.hostId == hostId with
  | some existing =>
    .ok
      (existing.id,
        { st with
          sandboxHosts := st.sandboxHosts.update (fun h => h.hostId == hostId)
            (fun h =>
              { h with
                zone, address, status := .ready, lastHeartbeatAt := some t,
                metadata := metadata.orEmpty, updatedAt := t })
            fun _ => rfl })
  | none =>
    match st.sandboxHosts.insert?
      { id := sid, hostId, zone, address, status := .ready, lastHeartbeatAt := some t,
        metadata := metadata.orEmpty, createdAt := t, updatedAt := t } with
    | none => .error (uniqueFailed "sandbox_hosts.id")
    | some sandboxHosts => .ok (sid, { st with sandboxHosts })

/-- A ready host with a free slot. -/
def hasCapacity (h : CellHostRow T) : Bool :=
  h.status == .ready && decide ((h.capacityUsed : Int) < h.capacityTotal)

/-- `ORDER BY capacity_used ASC, created_at ASC`. -/
def hostLe [LinearOrder T] (a b : CellHostRow T) : Prop :=
  a.capacityUsed < b.capacityUsed ∨ a.capacityUsed = b.capacityUsed ∧ a.createdAt ≤ b.createdAt

instance [LinearOrder T] : DecidableRel (hostLe (T := T)) :=
  fun _ _ => inferInstanceAs (Decidable (_ ∨ _ ∧ _))

/-- store.py:292–296. -/
def chooseCellHost [LinearOrder T] (st : Store T) : Except PyErr (CellHostRow T) :=
  match ((st.cellHosts.select hasCapacity).insertionSort hostLe).head? with
  | none => .error (.runtimeError "no cell host has available capacity")
  | some row => .ok row

/-- The row `create_lease` inserts. -/
def newLease [Field T] (t : T) (token sessionId cellHostId : String) (ttlSeconds : Int) :
    LeaseRow T :=
  { sessionId, cellHostId, leaseToken := token, status := .active,
    expiresAt := t + (ttlSeconds : T), createdAt := t, updatedAt := t }

/-- A host with one more slot in use. -/
def takeSlot (t : T) (h : CellHostRow T) : CellHostRow T :=
  { h with capacityUsed := h.capacityUsed + 1, updatedAt := t }

/-- store.py:298–305. The lease of the session, if any, is replaced; the host of
the replaced lease keeps its count. -/
def createLease [Field T] (st : Store T) (t : T) (token sessionId cellHostId : String)
    (ttlSeconds : Int) : Except PyErr (String × Store T) :=
  if st.hasSession sessionId ∧ (st.cellHosts.find? cellHostId).isSome then
    .ok
      (token,
        { st with
          sessionLeases := st.sessionLeases.replace (newLease t token sessionId cellHostId ttlSeconds)
          cellHosts := st.cellHosts.update (fun h => h.id == cellHostId) (takeSlot t)
            fun _ => rfl })
  else .error foreignKeyFailed

/-- store.py:307–316. -/
def getRoute [LinearOrder T] (st : Store T) (t : T) (sessionId : String) : Option (Route T) :=
  match st.sessionLeases.find? sessionId with
  | none => none
  | some l =>
    if l.status = .active ∧ t < l.expiresAt then
      (st.cellHosts.find? l.cellHostId).map fun h => ⟨l, h.hostId, h.address, h.zone⟩
    else none

/-! ## The audit log -/

/-- store.py:318–322. -/
def audit (st : Store T) (t : T) (actor action : String) (sessionId : Option String)
    (payload : Json) : Nat × Store T :=
  (st.auditLog.last + 1,
    { st with
      auditLog := st.auditLog.push
        (fun id => ⟨id, actor, action, sessionId, payload.orEmpty, t⟩) fun _ => rfl })

/-- store.py:324–329, for a session. -/
def auditEntries (st : Store T) (sessionId : String) : List (AuditRow T) :=
  st.auditLog.select fun a => a.sessionId == some sessionId

/-! ## Channels -/

/-- The row `get_or_create_channel` inserts. -/
def newChannel (t : T) (cid platform channelId threadId sessionId initiatorResourceId : String)
    (metadata : Json) : ChannelRow T :=
  { id := cid, platform, channelId, threadId, sessionId, initiatorResourceId,
    metadata := metadata.orEmpty, createdAt := t, updatedAt := t }

/-- `INSERT OR IGNORE` into `channels`: a row whose id or key is taken is
dropped, a dangling session is refused. -/
def insertChannel (st : Store T) (row : ChannelRow T) : Except PyErr (Store T) :=
  if st.channels.rows.any fun c => c.id == row.id then .ok st
  else
    match st.channels.insert? row with
    | none => .ok st
    | some channels =>
      if st.hasSession row.sessionId then .ok { st with channels } else .error foreignKeyFailed

/-- store.py:333–367: `INSERT OR IGNORE`, then read back the row of the key. -/
def getOrCreateChannel (st : Store T) (t : T)
    (cid platform channelId threadId sessionId initiatorResourceId : String)
    (metadata : Json) : Except PyErr ((String × String × Bool) × Store T) :=
  match st.insertChannel
    (newChannel t cid platform channelId threadId sessionId initiatorResourceId metadata) with
  | .error e => .error e
  | .ok st' =>
    match st'.channels.find? (platform, channelId, threadId) with
    | none => .error (.typeError "'NoneType' object is not subscriptable")
    | some actual =>
      .ok ((actual.sessionId, actual.id, actual.sessionId == sessionId && actual.id == cid), st')

/-- store.py:369–375. -/
def getChannel (st : Store T) (platform channelId threadId : String) :
    Option (ChannelRow T) :=
  st.channels.find? (platform, channelId, threadId)

/-! ## Revoked tokens -/

/-- store.py:405–411. -/
def revokeToken (st : Store T) (t : T) (jti : String) (expiresAt : T) : Store T :=
  match st.revokedTokens.insert? ⟨jti, expiresAt, t⟩ with
  | none => st
  | some revokedTokens => { st with revokedTokens }

/-- store.py:413–421: drop the rows whose expiry has passed, then look. -/
def isTokenRevoked [LinearOrder T] (st : Store T) (t : T) (jti : String) : Bool × Store T :=
  let revokedTokens := st.revokedTokens.delete fun r => decide (r.expiresAt < t)
  ((revokedTokens.find? jti).isSome, { st with revokedTokens })

end Store

end Nadi
