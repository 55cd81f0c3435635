import Nadi.Effect.Interleave
import Nadi.Model.Security
import Nadi.Model.Store

/-!
# The shared state and its atomic calls

`World` is everything the threads of one process share: the clock, the
database, the objects a `Celld` and a `Broker` hold, the heap of live cells and
the file system. `Call` lists the lock-protected steps by which the code reads
and changes it, and `exec` is their meaning:

- each method of `Store` is one call;
- each access to `Celld.cells` is one call, and so is each `_apply`, because a
  `Cell` is a mutable object that several threads may hold;
- `time.time()`, `uuid.uuid4()` and a look at the file system are calls, since
  what they give is not determined by the code.

Code between two calls touches nothing shared.
-/

namespace Nadi

/-! ## Objects -/

/-- `Cell.state`. -/
structure CellState where
  messages : List Json
  tools : List Json
  started : Bool

/-- The state a `Cell` is built with. -/
def CellState.initial : CellState := ⟨[], [], false⟩

/-- A reference to a `Cell` object: its fields that never change, and the
address of `state`. -/
structure Cell where
  addr : Nat
  sessionId : String
  jwt : String
  deriving DecidableEq

/-- A `Sandboxd` and its `CredentialsProxy`, which share one `SessionJWT`. -/
structure Sandboxd where
  jwt : SessionJWT
  /-- `Path(root or ".").resolve()`. -/
  root : List String
  deriving DecidableEq

/-- A `Celld`. Its dictionary `cells` is part of the shared state, under `ref`. -/
structure Celld where
  ref : Nat
  hostId : String
  jwt : SessionJWT
  sandboxd : Sandboxd
  deriving DecidableEq

/-- What `register_cell_host` is given as `create_cell`: the method of a
`Celld`, or a callable that fails. -/
inductive CreateCell where
  | celld (c : Celld)
  | raises (e : PyErr)
  deriving DecidableEq

/-- Where `security.py` is asked for the time: the two places that sign a cell's
token, and `verify`. -/
inductive ClockSite where
  | createCell
  | reconstructCell
  | verify
  deriving DecidableEq, Repr

/-- The shared state. -/
structure World (T : Type) where
  clock : T
  /-- How many ids each site has drawn. -/
  drawn : IdSite → Nat
  store : Store T
  /-- `cell.state` of the cell at an address. -/
  heap : Nat → CellState
  nextAddr : Nat
  /-- `celld.cells`, by `celld` and session id. -/
  cells : Nat → String → Option Cell
  /-- `broker.cell_callbacks`. -/
  callbacks : String → Option CreateCell
  /-- `broker.cell_objects`. -/
  objects : String → Option Celld
  files : Files

/-! ## Calls -/

/-- The atomic steps. -/
inductive Call (T : Type) where
  | createSession (tenantId : String) (externalId profileBundle : Option String)
      (metadata : Json)
  | updateSessionStatus (sessionId : String) (status : SessionStatus)
  | appendEvent (sessionId eventType : String) (payload : Json)
      (actorResourceId : Option String)
  | getEvents (sessionId : String) (after : Int)
  | enqueueCommand (sessionId commandType : String) (payload : Json)
      (actorResourceId : Option String)
  | claimPendingCommands (sessionId claimedBy : String)
  | completeCommand (commandId : Nat)
  | upsertCellHost (hostId zone address : String) (capacityTotal : Int) (metadata : Json)
  | upsertSandboxHost (hostId zone address : String) (metadata : Json)
  | chooseCellHost
  | createLease (sessionId cellHostId : String) (ttlSeconds : Int)
  | getRoute (sessionId : String)
  | audit (actor action : String) (sessionId : Option String) (payload : Json)
  | getOrCreateChannel (platform channelId threadId sessionId initiatorResourceId : String)
      (metadata : Json)
  | getChannel (platform channelId threadId : String)
  | revokeToken (jti : String) (expiresAt : T)
  | isTokenRevoked (jti : String)
  | time (site : ClockSite)
  | uuid4 (site : IdSite)
  | files
  | newCell (sessionId jwt : String)
  | apply (cell : Cell) (eventType : String) (payload : Json)
  | cellsGet (celld : Nat) (sessionId : String)
  | cellsSet (celld : Nat) (sessionId : String) (cell : Cell)
  | cellsPop (celld : Nat) (sessionId : String)
  | setCallback (hostId : String) (createCell : CreateCell)
  | callback (hostId : String)
  | setObject (hostId : String) (object : Celld)
  | object (hostId : String)

/-- What a call returns. -/
@[reducible] def Call.Ret {T : Type} : Call T → Type
  | .createSession .. => String
  | .updateSessionStatus .. => Unit
  | .appendEvent .. => Event
  | .getEvents .. => List (EventRow T)
  | .enqueueCommand .. => Nat
  | .claimPendingCommands .. => List (CommandRow T)
  | .completeCommand .. => Unit
  | .upsertCellHost .. => String
  | .upsertSandboxHost .. => String
  | .chooseCellHost => CellHostRow T
  | .createLease .. => String
  | .getRoute .. => Option (Route T)
  | .audit .. => Nat
  | .getOrCreateChannel .. => String × String × Bool
  | .getChannel .. => Option (ChannelRow T)
  | .revokeToken .. => Unit
  | .isTokenRevoked .. => Bool
  | .time _ => T
  | .uuid4 _ => String
  | .files => Files
  | .newCell .. => Cell
  | .apply .. => Unit
  | .cellsGet .. => Option Cell
  | .cellsSet .. => Unit
  | .cellsPop .. => Option Cell
  | .setCallback .. => Unit
  | .callback _ => Option CreateCell
  | .setObject .. => Unit
  | .object _ => Option Celld

/-- Programs over these calls. -/
abbrev Code (T : Type) (α : Type) : Type := Effect.Prog (Call T) Call.Ret PyErr α

/-- One atomic step of a program; what it raises propagates. -/
abbrev call {T : Type} (c : Call T) : Code T c.Ret := Effect.Prog.perform c

/-! ## Meaning -/

/-- `Celld._apply` on a state (celld.py:93–99). -/
def applyEvent (s : CellState) (eventType : String) (payload : Json) :
    Except PyErr CellState :=
  if eventType = "assistant.message" ∨ eventType = "model.response" then
    match payload.get "text" (.str "") with
    | .error e => .error e
    | .ok text => .ok { s with messages := s.messages ++ [text] }
  else if eventType = "tool.result" then .ok { s with tools := s.tools ++ [payload] }
  else if eventType = "session.started" then .ok { s with started := true }
  else .ok s

namespace World

variable {T : Type}

/-- The id a site draws next. -/
def fresh (py : Py) (w : World T) (site : IdSite) : String := py.uuid4 site (w.drawn site)

/-- After a site has drawn an id. -/
def draw (w : World T) (site : IdSite) : World T :=
  { w with drawn := Function.update w.drawn site (w.drawn site + 1) }

/-- The outcome of a method that raises or returns with a new database. -/
def commit {β : Type} (w : World T) : Except PyErr (β × Store T) → Except PyErr β × World T
  | .ok (b, store) => (.ok b, { w with store })
  | .error e => (.error e, w)

/-- A database is in use, nothing else has happened. -/
def init (clock : T) (files : Files) : World T where
  clock
  drawn := fun _ => 0
  store := .init
  heap := fun _ => .initial
  nextAddr := 0
  cells := fun _ _ => none
  callbacks := fun _ => none
  objects := fun _ => none
  files

/-- Time passes and the file system changes; nothing else does. -/
def Passes [LE T] (w w' : World T) : Prop :=
  ∃ t f, w.clock ≤ t ∧ w' = { w with clock := t, files := f }

end World

variable {T : Type} [Field T] [LinearOrder T]

/-- The meaning of the calls. `upsert_cell_host` and `upsert_sandbox_host` draw
an id only for a new row; drawing one in any case changes no row. -/
def exec (py : Py) : Effect.Handler (Call T) Call.Ret PyErr (World T)
  | .createSession tenantId externalId profileBundle metadata, w =>
    (w.draw .session).commit
      (w.store.createSession w.clock (w.fresh py .session) tenantId externalId profileBundle
        metadata)
  | .updateSessionStatus sessionId status, w =>
    (.ok (), { w with store := w.store.updateSessionStatus w.clock sessionId status })
  | .appendEvent sessionId eventType payload actor, w =>
    w.commit (w.store.appendEvent w.clock sessionId eventType payload actor)
  | .getEvents sessionId after, w => (.ok (w.store.getEvents sessionId after), w)
  | .enqueueCommand sessionId commandType payload actor, w =>
    w.commit (w.store.enqueueCommand w.clock sessionId commandType payload actor)
  | .claimPendingCommands sessionId claimedBy, w =>
    let claimed := w.store.claimPendingCommands w.clock (w.fresh py .claimToken) sessionId claimedBy
    (.ok claimed.1, { w.draw .claimToken with store := claimed.2 })
  | .completeCommand commandId, w =>
    (.ok (), { w with store := w.store.completeCommand w.clock commandId })
  | .upsertCellHost hostId zone address capacityTotal metadata, w =>
    (w.draw .cellHost).commit
      (w.store.upsertCellHost w.clock (w.fresh py .cellHost) hostId zone address capacityTotal
        metadata)
  | .upsertSandboxHost hostId zone address metadata, w =>
    (w.draw .sandboxHost).commit
      (w.store.upsertSandboxHost w.clock (w.fresh py .sandboxHost) hostId zone address metadata)
  | .chooseCellHost, w => (w.store.chooseCellHost, w)
  | .createLease sessionId cellHostId ttlSeconds, w =>
    (w.draw .leaseToken).commit
      (w.store.createLease w.clock (w.fresh py .leaseToken) sessionId cellHostId ttlSeconds)
  | .getRoute sessionId, w => (.ok (w.store.getRoute w.clock sessionId), w)
  | .audit actor action sessionId payload, w =>
    let audited := w.store.audit w.clock actor action sessionId payload
    (.ok audited.1, { w with store := audited.2 })
  | .getOrCreateChannel platform channelId threadId sessionId initiator metadata, w =>
    (w.draw .channel).commit
      (w.store.getOrCreateChannel w.clock (w.fresh py .channel) platform channelId threadId
        sessionId initiator metadata)
  | .getChannel platform channelId threadId, w =>
    (.ok (w.store.getChannel platform channelId threadId), w)
  | .revokeToken jti expiresAt, w =>
    (.ok (), { w with store := w.store.revokeToken w.clock jti expiresAt })
  | .isTokenRevoked jti, w =>
    let looked := w.store.isTokenRevoked w.clock jti
    (.ok looked.1, { w with store := looked.2 })
  | .time _, w => (.ok w.clock, w)
  | .uuid4 site, w => (.ok (w.fresh py site), w.draw site)
  | .files, w => (.ok w.files, w)
  | .newCell sessionId jwt, w =>
    (.ok ⟨w.nextAddr, sessionId, jwt⟩,
      { w with
        heap := Function.update w.heap w.nextAddr .initial
        nextAddr := w.nextAddr + 1 })
  | .apply cell eventType payload, w =>
    match applyEvent (w.heap cell.addr) eventType payload with
    | .error e => (.error e, w)
    | .ok s => (.ok (), { w with heap := Function.update w.heap cell.addr s })
  | .cellsGet celld sessionId, w => (.ok (w.cells celld sessionId), w)
  | .cellsSet celld sessionId cell, w =>
    (.ok (), { w with
      cells := Function.update w.cells celld
        (Function.update (w.cells celld) sessionId (some cell)) })
  | .cellsPop celld sessionId, w =>
    (.ok (w.cells celld sessionId), { w with
      cells := Function.update w.cells celld
        (Function.update (w.cells celld) sessionId none) })
  | .setCallback hostId createCell, w =>
    (.ok (), { w with callbacks := Function.update w.callbacks hostId (some createCell) })
  | .callback hostId, w => (.ok (w.callbacks hostId), w)
  | .setObject hostId object, w =>
    (.ok (), { w with objects := Function.update w.objects hostId (some object) })
  | .object hostId, w => (.ok (w.objects hostId), w)

/-- Threads over one shared state; between their calls time passes. -/
def system (ι : Type) (py : Py) : Effect.System ι (Call T) Call.Ret PyErr (World T) where
  handler := exec py
  env := World.Passes

/-- What the threads have done so far. -/
abbrev Trace (ι T : Type) : Type := List (Effect.Entry ι (Call T) Call.Ret PyErr)

/-- What the threads have done so far, and the state they have led to. -/
abbrev Moment (ι T : Type) : Type := Effect.Point ι (Call T) Call.Ret PyErr (World T)

/-- The threads' remaining programs at a moment. -/
abbrev Threads (ι T α : Type) : Type := Effect.Config ι (Call T) Call.Ret PyErr (World T) α

end Nadi
