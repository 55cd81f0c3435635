import Nadi.Model.World

/-!
# The programs of the four tiers

Each method of `SessionJWT`, `Sandboxd`, `Runtime`, `Celld`, `Broker` and
`Gateway` that touches shared state, as a `Code` over the atomic calls, in the
order in which the source makes them. The counters `tool_calls` and
`tool_path_calls`, which only tests read, are left out.
-/

namespace Nadi

open Effect.Prog (ofExcept)

variable {T : Type}

/-! ## `nadi/security.py` -/

namespace SessionJWT

variable [Field T] [LinearOrder T] [IsStrictOrderedRing T] [FloorRing T]

/-- security.py:34–43. -/
def signNow (py : Py) (jwt : SessionJWT) (site : ClockSite) (sessionId scope : String)
    (ttlSeconds : Int) (subject : String) : Code T String := do
  let now ← call (.time site)
  let jti ← call (.uuid4 .jti)
  return jwt.sign py (truncate now) jti sessionId scope ttlSeconds subject

/-- security.py:45–82, with a store. -/
def verify (py : Py) (jwt : SessionJWT) (token sessionId scope : String) : Code T Json := do
  let data ← ofExcept (jwt.read py token)
  let now ← call (.time .verify)
  ofExcept (judge py data (truncate now) sessionId scope)
  match ← ofExcept (jtiOf py data) with
  | none => return data
  | some jti =>
    if ← call (.isTokenRevoked jti) then
      .throw (.jwtError "token revoked")
    else
      return data

/-- security.py:45–82, without a store. -/
def verifyWithoutStore (py : Py) (jwt : SessionJWT) (token sessionId scope : String) :
    Code T Json := do
  let data ← ofExcept (jwt.read py token)
  let now ← call (.time .verify)
  ofExcept (judge py data (truncate now) sessionId scope)
  return data

/-- **Verifying a signed token**: the reading of the clock, then the claims by
expiry, session and scope, then the revocation table. -/
theorem verify_sign (py : Py) (jwt : SessionJWT) (now : Int) {jti : String} (hjti : jti ≠ "")
    (sid scope : String) (ttlSeconds : Int) (subject sessionId wanted : String) :
    (jwt.verify py (jwt.sign py now jti sid scope ttlSeconds subject) sessionId wanted :
      Code T Json) =
    (call (.time .verify)).bind fun t =>
      if expiry now ttlSeconds < truncate t then .throw (.jwtError "token expired")
      else if sid = sessionId then
        if wanted ∈ splitWords scope ∨ scope = "*" then
          (call (.isTokenRevoked jti)).bind fun revoked =>
            if revoked then .throw (.jwtError "token revoked")
            else .pure (claims subject sid scope (expiry now ttlSeconds) jti)
        else .throw (.jwtError "missing scope")
      else .throw (.jwtError "wrong session") := by
  unfold verify
  rw [read_sign]
  show (call (.time .verify)).bind _ = _
  congr 1
  funext t
  rw [judge_claims, jtiOf_claims py _ _ _ _ hjti]
  by_cases hexp : expiry now ttlSeconds < truncate t
  · rw [if_pos hexp, if_pos hexp]
    rfl
  rw [if_neg hexp, if_neg hexp]
  by_cases hsid : sid = sessionId
  · rw [if_pos hsid, if_pos hsid]
    by_cases hscope : wanted ∈ splitWords scope ∨ scope = "*"
    · rw [if_pos hscope, if_pos hscope]
      rfl
    · rw [if_neg hscope, if_neg hscope]
      rfl
  · rw [if_neg hsid, if_neg hsid]
    rfl

end SessionJWT

/-! ## `nadi/sandboxd.py` -/

namespace Sandboxd

/-- `f"fake-{session_id[:8]}-{audience}"` with its audience. -/
def fakeCredential (sessionId audience : String) : Json :=
  .obj [
    ("access_token",
      .str ("fake-" ++ String.ofList (sessionId.toList.take 8) ++ "-" ++ audience)),
    ("audience", .str audience)]

/-- The tool `list_files` (sandboxd.py:42–51): containment is checked on the
resolved path. -/
def listFiles (files : Files) (root : List String) (rel : String) : Except PyErr Json :=
  match files.resolve root rel with
  | .error e => .error e
  | .ok target =>
    if root.isPrefixOf target then
      match files.isDir target with
      | .error e => .error e
      | .ok false => .ok (.obj [("files", .arr [])])
      | .ok true =>
        match files.iterdir target with
        | .error e => .error e
        | .ok names =>
          .ok (.obj [("files", .arr ((names.insertionSort fun a b => a ≤ b).map .str))])
    else .error (.valueError "path escapes sandbox root")

variable [Field T] [LinearOrder T] [IsStrictOrderedRing T] [FloorRing T]

/-- `CredentialsProxy.exchange` (sandboxd.py:18–22). -/
def exchange (py : Py) (s : Sandboxd) (sessionId token audience : String) : Code T Json := do
  let _ ← s.jwt.verify py token sessionId "tool"
  let _ ← call (.audit "credentials-proxy" "exchange" (some sessionId)
    (.obj [("audience", .str audience)]))
  return fakeCredential sessionId audience

/-- The dispatch on the name of a tool (sandboxd.py:37–55). -/
def runTool (py : Py) (s : Sandboxd) (sessionId token name : String) (args : Json) :
    Code T Json :=
  if name = "echo" then do
    let text ← ofExcept (args.get "text" (.str ""))
    return .obj [("text", .str (text.pyStr py))]
  else if name = "uppercase" then do
    let text ← ofExcept (args.get "text" (.str ""))
    return .obj [("text", .str (py.upper (text.pyStr py)))]
  else if name = "list_files" then do
    let rel ← ofExcept (args.get "path" (.str "."))
    let files ← call .files
    ofExcept (listFiles files s.root (rel.pyStr py))
  else if name = "credential" then do
    let audience ← ofExcept (args.get "audience" (.str "tool"))
    s.exchange py sessionId token (audience.pyStr py)
  else .throw (.valueError ("unknown tool: " ++ name))

/-- sandboxd.py:33–56. -/
def executeTool (py : Py) (s : Sandboxd) (sessionId token name : String) (args : Json) :
    Code T Json := do
  let _ ← s.jwt.verify py token sessionId "tool"
  let result ← s.runTool py sessionId token name args.orEmpty
  let _ ← call (.audit "sandboxd" "execute_tool" (some sessionId)
    (.obj [("tool", .str name)]))
  return .obj [("result", result), ("tool", .str name)]

end Sandboxd

/-! ## `nadi/runtime.py` -/

/-- `Runtime.handle` (runtime.py:15–24), for the runtime of a sandbox. -/
def Runtime.handle [Field T] [LinearOrder T] [IsStrictOrderedRing T] [FloorRing T]
    (py : Py) (sandbox : Sandboxd) (sessionId token commandType : String) (payload : Json) :
    Code T (List (String × Json)) :=
  if commandType = "echo" then do
    let text ← ofExcept (payload.get "text" (.str ""))
    return [("assistant.message", .obj [("text", .str (text.pyStr py))])]
  else if commandType = "model" then do
    let prompt ← ofExcept (payload.get "prompt" (.str ""))
    return [("model.response",
      .obj [("text", .str ("deterministic-model:" ++ prompt.pyStr py))])]
  else if commandType = "tool" then do
    let name ← ofExcept (payload.get "name" (.str "echo"))
    let args ← ofExcept (payload.get "args" .null)
    let out ← sandbox.executeTool py sessionId token (name.pyStr py) args.orEmpty
    return [("tool.result", out)]
  else
    return [("command.error", .obj [("error", .str ("unknown command: " ++ commandType))])]

/-! ## `nadi/celld.py` -/

namespace Celld

/-- celld.py:55–61. -/
def appendEvent (c : Celld) (sessionId eventType : String) (payload : Json) :
    Code T Event := do
  let ev ← call (.appendEvent sessionId eventType payload.orEmpty none)
  match ← call (.cellsGet c.ref sessionId) with
  | none => return ev
  | some cell =>
    call (.apply cell eventType payload.orEmpty)
    return ev

/-- Append the events a handler gave, in order. -/
def appendEvents (c : Celld) (sessionId : String) :
    List (String × Json) → Code T (List Event)
  | [] => return []
  | (eventType, payload) :: rest => do
    let ev ← c.appendEvent sessionId eventType payload
    let evs ← c.appendEvents sessionId rest
    return ev :: evs

/-- Apply the events of a log to a cell, in order. -/
def applyEvents (cell : Cell) : List (EventRow T) → Code T Unit
  | [] => return ()
  | ev :: rest => do
    call (.apply cell ev.eventType ev.payload)
    applyEvents cell rest

/-- The payload of `command.received`. -/
def received (cmd : CommandRow T) : Json :=
  .obj [("command_id", .int cmd.id), ("command_type", .str cmd.commandType),
    ("payload", cmd.payload)]

variable [Field T] [LinearOrder T] [IsStrictOrderedRing T] [FloorRing T]

/-- celld.py:35–44. The cell is registered before its first event. -/
def createCell (py : Py) (c : Celld) (sessionId : String) : Code T Cell := do
  let token ← c.jwt.signNow py .createCell sessionId "cell tool" 3600 c.hostId
  let cell ← call (.newCell sessionId token)
  call (.cellsSet c.ref sessionId cell)
  call (.updateSessionStatus sessionId .running)
  let _ ← c.appendEvent sessionId "session.started" (.obj [("cell_host", .str c.hostId)])
  return cell

/-- celld.py:46–53. The cell is registered after the whole log is applied. -/
def reconstructCell (py : Py) (c : Celld) (sessionId : String) : Code T Cell := do
  let token ← c.jwt.signNow py .reconstructCell sessionId "cell tool" 3600 c.hostId
  let cell ← call (.newCell sessionId token)
  let events ← call (.getEvents sessionId 0)
  applyEvents cell events
  call (.cellsSet c.ref sessionId cell)
  return cell

/-- The loop over a claimed batch (celld.py:70–74). -/
def consumeLoop (py : Py) (c : Celld) (sessionId token : String) :
    List (CommandRow T) → Code T (List Event)
  | [] => return []
  | cmd :: rest => do
    let _ ← c.appendEvent sessionId "command.received" (received cmd)
    let outs ← Runtime.handle py c.sandboxd sessionId token cmd.commandType cmd.payload
    let evs ← c.appendEvents sessionId outs
    call (.completeCommand cmd.id)
    let more ← c.consumeLoop py sessionId token rest
    return evs ++ more

/-- The cell `consume_commands` works with (celld.py:64–67). -/
def liveCell (py : Py) (c : Celld) (sessionId : String) : Code T Cell := do
  match ← call (.cellsGet c.ref sessionId) with
  | some cell => return cell
  | none => c.reconstructCell py sessionId

/-- celld.py:63–75. -/
def consumeCommands (py : Py) (c : Celld) (sessionId : String) : Code T (List Event) := do
  let cell ← c.liveCell py sessionId
  let commands ← call (.claimPendingCommands sessionId c.hostId)
  c.consumeLoop py sessionId cell.jwt commands

/-- `float(value)`; a string, which Python would parse, is not converted (no
signed token carries one). -/
def floatOf : Json → Option T
  | .int n => some n
  | .float q => some q
  | .bool b => some (if b then 1 else 0)
  | _ => none

/-- The id and the expiry that `destroy_cell` reads from a cell's token without
checking it (celld.py:83–86); `none` where that raises. -/
def tokenToRevoke (py : Py) (token : String) : Option (Option String × T) :=
  match token.toList.splitOn '.' with
  | [_, payload, _] => do
    let data ← (b64d payload).bind py.loads
    let jti ← (SessionJWT.jtiOf py data).toOption
    let exp ← (data.get "exp" (.int 0)).toOption
    let exp ← floatOf exp
    return (jti, exp)
  | _ => none

/-- The `try` of `destroy_cell` (celld.py:82–90). -/
def revokeTokenOf (py : Py) (cell : Cell) : Code T Unit :=
  match tokenToRevoke py cell.jwt with
  | some (some jti, exp) => call (.revokeToken jti exp)
  | _ => return ()

/-- celld.py:77–91. -/
def destroyCell (py : Py) (c : Celld) (sessionId : String) : Code T Unit := do
  match ← call (.cellsPop c.ref sessionId) with
  | none => return ()
  | some cell =>
    revokeTokenOf py cell
    call (.updateSessionStatus sessionId .stopped)

end Celld

/-! ## `nadi/broker.py` -/

/-- What `place_session` returns. -/
structure Placement where
  sessionId : String
  cellHost : String
  leaseToken : String
  address : String
  deriving DecidableEq

namespace Broker

/-- broker.py:19–24. -/
def registerCellHost (hostId zone address : String) (capacityTotal : Int)
    (createCell : CreateCell) (objectRef : Option Celld) : Code T String := do
  let cid ← call (.upsertCellHost hostId zone address capacityTotal .null)
  call (.setCallback hostId createCell)
  match objectRef with
  | none => return cid
  | some object =>
    call (.setObject hostId object)
    return cid

/-- broker.py:26–30; nothing reads `sandbox_objects`. -/
def registerSandboxHost (hostId zone address : String) : Code T String :=
  call (.upsertSandboxHost hostId zone address .null)

variable [Field T] [LinearOrder T] [IsStrictOrderedRing T] [FloorRing T]

/-- Call a registered callback. -/
def runCallback (py : Py) (sessionId : String) : CreateCell → Code T Unit
  | .celld c => do
    let _ ← c.createCell py sessionId
    return ()
  | .raises e => .throw e

/-- broker.py:36–43. -/
def placeSession (py : Py) (sessionId : String) : Code T Placement := do
  let host ← call .chooseCellHost
  let lease ← call (.createLease sessionId host.id 3600)
  match ← call (.callback host.hostId) with
  | none => .throw (.runtimeError ("no celld callback registered for " ++ host.hostId))
  | some createCell =>
    runCallback py sessionId createCell
    return ⟨sessionId, host.hostId, lease, host.address⟩

omit [Field T] [LinearOrder T] [IsStrictOrderedRing T] [FloorRing T] in
/-- broker.py:45–49. -/
def celldForRoute (sessionId : String) : Code T Celld := do
  match ← call (.getRoute sessionId) with
  | none => .throw (.runtimeError "no active route")
  | some route =>
    match ← call (.object route.hostId) with
    | none => .throw (.keyError route.hostId)
    | some celld => return celld

end Broker

/-! ## `nadi/gateway.py` -/

/-- What `create_session` returns. -/
structure Created where
  sessionId : String
  status : String
  route : Placement
  deriving DecidableEq

/-- What `get_or_create_channel_session` returns. -/
structure ChannelSession where
  sessionId : String
  channelId : String
  created : Bool
  deriving DecidableEq, Repr

/-- What `send_command` returns. -/
structure Sent where
  commandId : Nat
  events : List Event

namespace Gateway

/-- gateway.py:55–59. -/
def route (sessionId : String) : Code T (Route T) := do
  match ← call (.getRoute sessionId) with
  | none => .throw (.keyError ("no active route for session " ++ sessionId))
  | some route => return route

/-- gateway.py:70–72. -/
def getSessionEvents (sessionId : String) (after : Int) : Code T (List (EventRow T)) := do
  let _ ← route sessionId
  call (.getEvents sessionId after)

/-- `initiator_resource_id or f"{platform}:anon-{uuid4().hex[:8]}"`. The first
eight digits of an id stand before its first dash. -/
def resourceId (platform initiatorResourceId : String) : Code T String :=
  if initiatorResourceId = "" then do
    let id ← call (.uuid4 .anonymous)
    return platform ++ ":anon-" ++ String.ofList (id.toList.take 8)
  else return initiatorResourceId

variable [Field T] [LinearOrder T] [IsStrictOrderedRing T] [FloorRing T]

/-- gateway.py:15–18. -/
def createSession (py : Py) (tenantId : String) (metadata : Json) : Code T Created := do
  let sid ← call (.createSession tenantId none none metadata.orEmpty)
  let placement ← Broker.placeSession py sid
  return ⟨sid, "running", placement⟩

/-- The body of the `try` (gateway.py:41–50). -/
def joinChannel (py : Py) (platform channelId threadId resourceId : String) (metadata : Json)
    (sid : String) : Code T ChannelSession := do
  let _ ← Broker.placeSession py sid
  let (actualSid, cid, created) ← call
    (.getOrCreateChannel platform channelId threadId sid resourceId metadata)
  if created then
    return ⟨actualSid, cid, created⟩
  else
    call (.updateSessionStatus sid .abandoned)
    return ⟨actualSid, cid, created⟩

/-- gateway.py:20–53. -/
def getOrCreateChannelSession (py : Py)
    (platform channelId threadId tenantId initiatorResourceId : String) (metadata : Json) :
    Code T ChannelSession := do
  let resourceId ← resourceId platform initiatorResourceId
  let sid ← call (.createSession tenantId none none metadata.orEmpty)
  (joinChannel py platform channelId threadId resourceId metadata sid).tryCatch fun e => do
    call (.updateSessionStatus sid .abandoned)
    .throw e

/-- gateway.py:61–68. -/
def sendCommand (py : Py) (sessionId commandType : String) (payload : Json)
    (actorResourceId : Option String) : Code T Sent := do
  let _ ← route sessionId
  let commandId ← call
    (.enqueueCommand sessionId commandType payload.orEmpty actorResourceId)
  let celld ← Broker.celldForRoute sessionId
  let events ← celld.consumeCommands py sessionId
  return ⟨commandId, events⟩

end Gateway

/-- The arguments of `get_or_create_channel_session`. -/
structure ChannelRequest where
  platform : String
  channelId : String
  threadId : String
  tenantId : String
  initiatorResourceId : String
  metadata : Json

/-- The key of the channel it asks for. -/
def ChannelRequest.key (r : ChannelRequest) : String × String × String :=
  (r.platform, r.channelId, r.threadId)

/-- The call itself. -/
def ChannelRequest.run [Field T] [LinearOrder T] [IsStrictOrderedRing T] [FloorRing T]
    (py : Py) (r : ChannelRequest) : Code T ChannelSession :=
  Gateway.getOrCreateChannelSession py r.platform r.channelId r.threadId r.tenantId
    r.initiatorResourceId r.metadata

/-- The arguments of `send_command` but for the session. -/
structure Send where
  commandType : String
  payload : Json
  actorResourceId : Option String

/-- Send a command to a session. -/
def Send.code [Field T] [LinearOrder T] [IsStrictOrderedRing T] [FloorRing T]
    (py : Py) (sid : String) (send : Send) : Code T Sent :=
  Gateway.sendCommand py sid send.commandType send.payload send.actorResourceId

/-! ## `local_stack` (runtime.py:27–43) -/

/-- The one `Celld` of a local stack, for a process in the given directory. -/
def localCelld (cwd : List String) : Celld :=
  let jwt : SessionJWT := ⟨"local-nadi-secret"⟩
  { ref := 0, hostId := "cell-local", jwt, sandboxd := { jwt, root := cwd } }

/-- Register its two hosts. -/
def localStack (cwd : List String) : Code T Unit := do
  let _ ← Broker.registerSandboxHost "sandbox-local" "local" "inproc://sandbox"
  let _ ← Broker.registerCellHost "cell-local" "local" "inproc://cell" 100
    (.celld (localCelld cwd)) (some (localCelld cwd))
  return ()

end Nadi
