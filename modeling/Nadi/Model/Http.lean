import Nadi.Model.Programs

/-!
# `nadi/server.py`: the HTTP API

A handler reads a request and calls its gateway at most once, as the last thing
before it writes the response. So `doGet` and `doPost` compute the `Action` to
take, and `Action.perform` takes it.
-/

namespace Nadi

open Effect.Prog (ofExcept)

/-- What `server.py` takes from Python besides. -/
structure HttpPy extends Py where
  /-- `urlparse(url).path`. -/
  urlPath : String → Except PyErr String
  /-- `int(text)`, or the message of the `ValueError`. -/
  int : String → Except String Int
  /-- What `json.loads(raw)` raises, where it does. -/
  loadsError : List UInt8 → PyErr
  /-- A REAL as SQLite stores it in a TEXT column; none for NaN, which is NULL there. -/
  realText : ℚ → Option String
  /-- The characters that stand for lone surrogates: no text with one has an encoding. -/
  lone : Char → Bool
  /-- The lists and dicts that are nested too deep for `str`. -/
  deepStr : Json → Bool
  /-- Those nested too deep for `json.dumps`, here or, with what the program puts around
  it, further on. -/
  deepDumps : Json → Bool

/-- Whether a value holds others. -/
def Json.nests : Json → Bool
  | .arr _ => true
  | .obj _ => true
  | _ => false

/-- The `RecursionError` of a value nested too deep. -/
def recursionError : PyErr := .runtimeError "maximum recursion depth exceeded"

/-- The `UnicodeEncodeError` of a text with a lone surrogate. -/
def unicodeError : PyErr := .valueError "'utf-8' codec can't encode: surrogates not allowed"

namespace HttpPy

variable (http : HttpPy)

/-- `text.encode()` does not raise. -/
def encodes (text : String) : Bool := !text.toList.any http.lone

/-- `str(value)`. A lone surrogate within a list or a dict is escaped there. -/
def str (value : Json) : Except PyErr String :=
  if value.nests && http.deepStr value then .error recursionError
  else .ok (value.pyStr http.toPy)

theorem str_eq {value : Json} {text : String} (h : http.str value = .ok text) :
    text = value.pyStr http.toPy := by
  unfold str at h
  split at h
  · cases h
  · exact (Except.ok.inj h).symm

/-- A value that goes to a JSON column. The store encodes it before it executes a
statement, so where that raises nothing is done. -/
def dumped (value : Json) : Except PyErr Json :=
  if value.nests && http.deepDumps value then .error recursionError else .ok value

end HttpPy

/-- The methods that have a handler. -/
inductive HttpMethod where
  | get
  | post
  deriving DecidableEq, Repr

/-- A request as `BaseHTTPRequestHandler` hands it over. -/
structure HttpRequest where
  method : HttpMethod
  /-- `self.path`. -/
  url : String
  /-- The header `x-nadi-key`. -/
  nadiKey : Option String
  /-- The header `content-length`. -/
  contentLength : Option String
  /-- What is left to read of the connection. -/
  rfile : List UInt8

/-- The values a response carries. -/
inductive Reply (T : Type) where
  | ok
  | error (message : String)
  | created (created : Created)
  | channel (session : ChannelSession)
  | sent (sent : Sent)
  | events (rows : List (EventRow T))

/-- The arguments of `_json`. -/
structure Response (T : Type) where
  status : Nat
  body : Reply T

/-- What a handler ends with: a response of its own, or a call to the gateway
and the status of the response that carries what it returns. -/
inductive Action where
  | respond (status : Nat) (error : Option String)
  | createSession (status : Nat) (tenantId : String) (metadata : Json)
  | channelSession (status : Nat) (request : ChannelRequest)
  | sendCommand (status : Nat) (sessionId : String) (commandType payload actor : Json)
  | getSessionEvents (status : Nat) (sessionId : String)

/-- `_MAX_BODY_BYTES`. -/
def maxBodyBytes : Int := 1 * 1024 * 1024

/-- `_MAX_FIELD_BYTES`. -/
def maxFieldBytes : Nat := 8192

/-- The fields of a body whose length is limited. -/
def channelFields : List String := ["platform", "channel_id", "thread_id", "initiator_resource_id"]

/-- `rfile.read(n)`; a negative `n` reads to the end. -/
def readStream (rfile : List UInt8) (n : Int) : List UInt8 :=
  if n < 0 then rfile else rfile.take n.toNat

/-- `path.strip("/").split("/")`. -/
def pathParts (path : String) : List String :=
  let strip (cs : List Char) := cs.dropWhile (· == '/')
  ((strip (strip path.toList).reverse).reverse.splitOn '/').map String.ofList

/-- The class attributes of `NadiHandler`; its gateway is that of the process. -/
structure NadiHandler where
  apiKey : Option String
  tenantId : String

namespace NadiHandler

variable (http : HttpPy) (h : NadiHandler) (req : HttpRequest)

/-- server.py:25–29. -/
def checkApiKey : Bool :=
  match h.apiKey with
  | none => true
  | some key => req.nadiKey.getD "" == key

/-- server.py:42–46. -/
def body : Except PyErr Json :=
  match http.int (req.contentLength.getD "0") with
  | .error msg => .error (.valueError msg)
  | .ok n =>
    if maxBodyBytes < n then
      .error (.valueError ("request body too large (" ++ toString n ++ " > " ++
        toString maxBodyBytes ++ ")"))
    else
      match readStream req.rfile n with
      | [] => .ok .empty
      | raw =>
        match http.loads raw with
        | some body => .ok body
        | none => .error (http.loadsError raw)

/-- The first of some fields whose text is too long (server.py:80–83). -/
def oversizedField (body : Json) : List String → Except PyErr (Option String)
  | [] => return none
  | field :: rest => do
    match ← body.get field (.str "") with
    | .str s =>
      if http.encodes s then
        if maxFieldBytes < (utf8 s).length then return some field else oversizedField body rest
      else throw unicodeError
    | _ => oversizedField body rest

/-- `str(body.get(field, ""))`. -/
def textField (body : Json) (field : String) : Except PyErr String := do
  let value ← body.get field (.str "")
  http.str value

/-- server.py:55–64. -/
def doGet : Except PyErr Action := do
  let path ← http.urlPath req.url
  if path = "/healthz" then
    return .respond 200 none
  else if h.checkApiKey req then
    match pathParts path with
    | ["sessions", sessionId, "events"] => return .getSessionEvents 200 sessionId
    | _ => return .respond 404 (some "not found")
  else return .respond 401 (some "unauthorized")

/-- server.py:84–91. -/
def channelRequest (body : Json) : Except PyErr ChannelRequest := do
  let platform ← textField http body "platform"
  let channelId ← textField http body "channel_id"
  let threadId ← textField http body "thread_id"
  let initiatorResourceId ← textField http body "initiator_resource_id"
  let metadata ← body.get "metadata" .null
  let metadata ← http.dumped metadata.orEmpty
  return ⟨platform, channelId, threadId, h.tenantId, initiatorResourceId, metadata⟩

/-- server.py:75–101, for a body. -/
def post (path : String) (body : Json) : Except PyErr Action := do
  if path = "/sessions" then
    let metadata ← body.get "metadata" .null
    let metadata ← http.dumped metadata.orEmpty
    return .createSession 201 h.tenantId metadata
  else if path = "/channels" then
    match ← oversizedField http body
        ["platform", "channel_id", "thread_id", "initiator_resource_id"] with
    | some field => return .respond 400 (some ("field '" ++ field ++ "' exceeds size limit"))
    | none => return .channelSession 200 (← h.channelRequest http body)
  else
    match pathParts path with
    | ["sessions", sessionId, "commands"] =>
      let commandType ← body.get "command_type" (.str "echo")
      let commandType ← body.get "type" commandType
      let payload ← body.get "payload" .null
      let actor ← body.get "actor_resource_id" .null
      return .sendCommand 202 sessionId commandType payload.orEmpty actor
    | _ => return .respond 404 (some "not found")

/-- server.py:66–101. -/
def doPost : Except PyErr Action := do
  if h.checkApiKey req then
    let path ← http.urlPath req.url
    match body http req with
    | .error (.valueError msg) => return .respond 413 (some msg)
    | .error e => throw e
    | .ok body => h.post http path body
  else return .respond 401 (some "unauthorized")

/-- The action a request leads to. -/
def action : Except PyErr Action :=
  match req.method with
  | .get => h.doGet http req
  | .post => h.doPost http req

/-! ### What a request leads to -/

/-- The request asks for a channel: it is let in, its body is read and passes the
check, and the gateway is called. -/
structure AsksChannel (body : Json) (request : ChannelRequest) : Prop where
  post : req.method = .post
  key : h.checkApiKey req = true
  path : http.urlPath req.url = .ok "/channels"
  read : NadiHandler.body http req = .ok body
  checked : oversizedField http body channelFields = .ok none
  asked : h.channelRequest http body = .ok request

/-- The actions there are for a request. -/
inductive Leads : Action → Prop
  | respond (status : Nat) (error : Option String) : Leads (.respond status error)
  | createSession (metadata : Json) : Leads (.createSession 201 h.tenantId metadata)
  | channelSession {body : Json} {request : ChannelRequest}
    (asks : AsksChannel http h req body request) : Leads (.channelSession 200 request)
  | sendCommand (sessionId : String) (commandType payload actor : Json) :
    Leads (.sendCommand 202 sessionId commandType payload actor)
  | getSessionEvents (sessionId : String) : Leads (.getSessionEvents 200 sessionId)

variable {http h req} {action : Action}

theorem doGet_leads (haction : h.doGet http req = .ok action) : h.Leads http req action := by
  obtain ⟨path, -, haction⟩ := eq_ok_of_bind haction
  split at haction
  · cases haction
    exact .respond ..
  split at haction
  · split at haction <;> cases haction
    · exact .getSessionEvents _
    · exact .respond ..
  · cases haction
    exact .respond ..

theorem doPost_leads (hpost : req.method = .post) (haction : h.doPost http req = .ok action) :
    h.Leads http req action := by
  unfold doPost at haction
  split at haction
  swap
  · cases haction
    exact .respond ..
  rename_i hkey
  obtain ⟨path, hpath, haction⟩ := eq_ok_of_bind haction
  split at haction
  · cases haction
    exact .respond ..
  · cases haction
  rename_i body hbody
  unfold post at haction
  split at haction
  · obtain ⟨_, -, haction⟩ := eq_ok_of_bind haction
    obtain ⟨metadata, -, haction⟩ := eq_ok_of_bind haction
    cases haction
    exact .createSession _
  split at haction
  · rename_i hchannels
    obtain ⟨found, hfound, haction⟩ := eq_ok_of_bind haction
    cases found with
    | some field =>
      cases haction
      exact .respond ..
    | none =>
      obtain ⟨request, hrequest, haction⟩ := eq_ok_of_bind haction
      cases haction
      exact .channelSession ⟨hpost, hkey, hchannels ▸ hpath, hbody, hfound, hrequest⟩
  · split at haction
    · obtain ⟨_, -, haction⟩ := eq_ok_of_bind haction
      obtain ⟨_, -, haction⟩ := eq_ok_of_bind haction
      obtain ⟨_, -, haction⟩ := eq_ok_of_bind haction
      obtain ⟨_, -, haction⟩ := eq_ok_of_bind haction
      cases haction
      exact .sendCommand ..
    · cases haction
      exact .respond ..

/-- **The action of a request** is one of these. -/
theorem action_leads (haction : h.action http req = .ok action) : h.Leads http req action := by
  unfold NadiHandler.action at haction
  cases hmethod : req.method with
  | get =>
    rw [hmethod] at haction
    exact doGet_leads haction
  | post =>
    rw [hmethod] at haction
    exact doPost_leads hmethod haction

end NadiHandler

/-! ## Taking the action -/

/-- A value as the TEXT column keeps it to which sqlite3 binds it as a parameter;
`none` is NULL. -/
def bindText (http : HttpPy) (parameter : Nat) : Json → Except PyErr (Option String)
  | .null => .ok none
  | .str s => if http.encodes s then .ok (some s) else .error unicodeError
  | .bool b => .ok (some (if b then "1" else "0"))
  | .int n =>
    if -2 ^ 63 ≤ n ∧ n < 2 ^ 63 then .ok (some (toString n))
    else .error (.overflowError "Python int too large to convert to SQLite INTEGER")
  | .float q => .ok (http.realText q)
  | j => .error (.sqliteError ("Error binding parameter " ++ toString parameter ++ ": type '" ++
      j.typeName ++ "' is not supported"))

/-- The type and the actor of a command as `enqueue_command` stores them, or what
its `INSERT` raises, whose parameters are computed first. -/
def bindCommand (http : HttpPy) (commandType payload actor : Json) :
    Except PyErr (String × Option String) := do
  let _ ← http.dumped payload
  let commandType ← bindText http 2 commandType
  let actor ← bindText http 4 actor
  match commandType with
  | none => throw (.integrityError "NOT NULL constraint failed: command_inbox.command_type")
  | some commandType => return (commandType, actor)

variable {T : Type} [Field T] [LinearOrder T] [IsStrictOrderedRing T] [FloorRing T]

/-- `send_command` with a type, a payload and an actor of any kind. What cannot be stored
raises after the route is found; a session that has reached a limit raises there
too, with another message. -/
def Gateway.sendValues (http : HttpPy) (sessionId : String) (commandType payload actor : Json) :
    Code T Sent :=
  match bindCommand http commandType payload actor with
  | .ok (commandType, actor) => sendCommand http.toPy sessionId commandType payload actor
  | .error e => do
    let _ ← route sessionId
    .throw e

/-- Call the gateway and write the response. -/
def Action.perform (http : HttpPy) : Action → Code T (Response T)
  | .respond status none => return ⟨status, .ok⟩
  | .respond status (some message) => return ⟨status, .error message⟩
  | .createSession status tenantId metadata => do
    return ⟨status, .created (← Gateway.createSession http.toPy tenantId metadata)⟩
  | .channelSession status request => do
    return ⟨status, .channel (← request.run http.toPy)⟩
  | .sendCommand status sessionId commandType payload actor => do
    return ⟨status, .sent (← Gateway.sendValues http sessionId commandType payload actor)⟩
  | .getSessionEvents status sessionId => do
    return ⟨status, .events (← Gateway.getSessionEvents sessionId 0)⟩

/-- Handle a request: `do_GET` or `do_POST`, up to the writing of the response. -/
def NadiHandler.handle (http : HttpPy) (h : NadiHandler) (req : HttpRequest) :
    Code T (Response T) := do
  let action ← ofExcept (h.action http req)
  action.perform http

end Nadi
