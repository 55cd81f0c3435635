import Nadi.Stranded
import Nadi.Tenants
import Nadi.Undelivered

/-!
# Which requests are answered

A handler writes its response after everything else, and only `_body` is guarded
(server.py:70–73). So a request is answered if nothing raises before that: the
reading of the URL and of the body, the gateway, the broker, the store, and every
handler of a command that waits in the session (`answered_iff`). A response that
says nothing was done is written with nothing done.
-/

namespace Nadi

open Effect

variable {T : Type} [Field T] [LinearOrder T] [IsStrictOrderedRing T] [FloorRing T]

/-! ## Sending a command -/

section Sending

variable (py : Py) (tm : Timing T) {s : Ticking T} {sid : String}

/-- The loop returns if no handler raises. -/
theorem consumeLoop_returns_iff (revoked : List (RevokedRow T)) (c : Celld) (token : String)
    (cmds : List (CommandRow T)) (hlists : Lists tm revoked s)
    (hses : s.world.store.hasSession sid = true) :
    (c.consumeLoop py sid token cmds).Returns (timed py tm) s ↔
      Celld.fromFirstFailure py tm revoked c.sandboxd sid token cmds s.reading = [] := by
  induction cmds generalizing s with
  | nil => exact iff_of_true ⟨_, _, rfl⟩ rfl
  | cons cmd rest ih =>
    have hround := run_consumeLoop_cons py tm revoked c sid token cmd rest s hlists hses
    unfold Celld.fromFirstFailure
    cases hat : Runtime.handleAt py tm revoked c.sandboxd sid token cmd.commandType cmd.payload
        (s.reading + 1) with
    | none =>
      rw [hat] at hround
      obtain ⟨e, s', hrun, -⟩ := hround
      refine iff_of_false ?_ (List.cons_ne_nil _ _)
      rintro ⟨a, s₁, hok⟩
      cases hrun.symm.trans hok
    | some m =>
      rw [hat] at hround
      obtain ⟨s', done, hrun, hn, hlists', hses', -⟩ := hround
      dsimp only
      rw [← hn, ← ih hlists' hses']
      unfold Prog.Returns
      rw [hrun]
      exact Prog.returns_bind_pure _ _ _ _

/-- `consume_commands` returns with the given commands waiting: the cell is there
or can be rebuilt from the log, and no handler raises with the token of the cell. -/
def Celld.Consumes (c : Celld) (sid : String) (s : Ticking T) (commands : List (CommandRow T)) :
    Prop :=
  match s.world.cells c.ref sid with
  | some cell =>
    fromFirstFailure py tm s.world.store.revokedTokens.rows c.sandboxd sid cell.jwt commands
      (s.reading + 1) = []
  | none =>
    (∃ state, replay .initial (s.world.store.getEvents sid 0) = .ok state) ∧
      fromFirstFailure py tm s.world.store.revokedTokens.rows c.sandboxd sid
        (c.rebuilt py tm sid s).jwt commands (s.reading + 1) = []

/-- Claiming and handling what waits. -/
theorem claimed_returns_iff (c : Celld) (token : String) (hdrawn : s.world.ClaimsDrawn py)
    (hses : s.world.store.hasSession sid = true) :
    ((call (.claimPendingCommands sid c.hostId)).bind fun cmds =>
        c.consumeLoop py sid token cmds).Returns (timed py tm) s ↔
      Celld.fromFirstFailure py tm s.world.store.revokedTokens.rows c.sandboxd sid token
        (s.world.store.pendingOf sid) (s.reading + 1) = [] := by
  obtain ⟨s₁, hclaim, hreading, hlists, hstore⟩ := run_claimPendingCommands py tm c sid s hdrawn
  have hses₁ : s₁.world.store.hasSession sid = true := by
    rw [hstore]
    exact hses
  rw [Prog.returns_bind_ok hclaim, consumeLoop_returns_iff py tm _ c token _ hlists hses₁,
    fromFirstFailure_claimRow, hreading, List.map_eq_nil_iff]

/-- **Consuming** returns if the cell can be had and no handler raises. -/
theorem consumeCommands_returns_iff (c : Celld) (hdrawn : s.world.ClaimsDrawn py)
    (hses : s.world.store.hasSession sid = true) :
    (c.consumeCommands py sid).Returns (timed py tm) s ↔
      c.Consumes py tm sid s (s.world.store.pendingOf sid) := by
  unfold Celld.consumeCommands Celld.Consumes
  simp only [Prog.bind_eq]
  obtain ⟨s', hn, hstore, hdrawn', hlive⟩ := run_liveCell_cases py tm c sid s
  have hclaims : s'.world.ClaimsDrawn py := by
    unfold World.ClaimsDrawn
    rw [hstore, hdrawn']
    exact hdrawn
  have hiff := fun token => claimed_returns_iff py tm c token hclaims (hstore ▸ hses)
  simp only [hstore, hn] at hiff
  cases hcell : s.world.cells c.ref sid with
  | some cell =>
    rw [hcell] at hlive
    rw [Prog.returns_bind_ok hlive]
    exact hiff cell.jwt
  | none =>
    rw [hcell] at hlive
    cases hreplay : replay .initial (s.world.store.getEvents sid 0) with
    | error e =>
      rw [hreplay] at hlive
      refine iff_of_false (Prog.not_returns_bind_error hlive) ?_
      rintro ⟨⟨done, hdone⟩, -⟩
      cases hdone
    | ok done =>
      rw [hreplay] at hlive
      rw [Prog.returns_bind_ok hlive]
      exact (hiff _).trans ⟨fun h => ⟨⟨done, rfl⟩, h⟩, fun h => h.2⟩

/-- A command sent to a session is answered: the store takes it, a `celld` is found
two readings later, and it handles what waits and then the command. -/
def Send.Succeeds (send : Send) (sid : String) (s : Ticking T) : Prop :=
  s.world.store.Admits (tm.now s.reading) sid ∧
    ∃ route celld, s.world.store.getRoute (tm.now (s.reading + 2)) sid = some route ∧
      s.world.objects route.hostId = some celld ∧
      celld.Consumes py tm sid ⟨s.reading + 3, s.world⟩ (s.world.store.pendingOf sid ++
        [Store.newCommand (tm.now (s.reading + 1)) sid send.commandType send.payload.orEmpty
          send.actorResourceId (s.world.store.commandInbox.last + 1)])

/-- Where two states agree on cells, log, revocations and ids, the same commands
are consumed. -/
theorem Celld.consumes_congr {c : Celld} {s s' : Ticking T} {commands : List (CommandRow T)}
    (hreading : s'.reading = s.reading) (hcells : s'.world.cells = s.world.cells)
    (hdrawn : s'.world.drawn = s.world.drawn)
    (hevents : s'.world.store.events = s.world.store.events)
    (hrevoked : s'.world.store.revokedTokens = s.world.store.revokedTokens) :
    c.Consumes py tm sid s' commands ↔ c.Consumes py tm sid s commands := by
  have hjwt : (c.rebuilt py tm sid s').jwt = (c.rebuilt py tm sid s).jwt := by
    unfold Celld.rebuilt World.fresh
    rw [hreading, hdrawn]
  have hlog : s'.world.store.getEvents sid 0 = s.world.store.getEvents sid 0 := by
    unfold Store.getEvents
    rw [hevents]
  unfold Celld.Consumes
  rw [hcells, hrevoked, hreading, hjwt, hlog]

/-- A command that has been delivered is consumed, with all that waited before it. -/
theorem consumeCommands_delivered_iff {send : Send} {st : Store T} {s₂ : Ticking T} {id : ℕ}
    (celld : Celld) (hdrawn : s.world.ClaimsDrawn py)
    (henqueue : s.world.store.enqueueCommand (tm.now (s.reading + 1)) sid send.commandType
      send.payload.orEmpty send.actorResourceId = .ok (id, st))
    (hreading : s₂.reading = s.reading + 2) (hstore : s₂.world.store = st)
    (hcells : s₂.world.cells = s.world.cells) (hids : s₂.world.drawn = s.world.drawn) :
    (celld.consumeCommands py sid).Returns (timed py tm) ⟨s₂.reading + 1, s₂.ready tm⟩ ↔
      celld.Consumes py tm sid ⟨s.reading + 3, s.world⟩ (st.pendingOf sid) := by
  obtain ⟨-, -, -, hses, hst⟩ := Store.enqueueCommand_ok henqueue
  -- what the loop depends on is as it was before the command came
  have hconsumes : celld.Consumes py tm sid ⟨s₂.reading + 1, s₂.ready tm⟩ (st.pendingOf sid) ↔
      celld.Consumes py tm sid ⟨s.reading + 3, s.world⟩ (st.pendingOf sid) := by
    have hevents : s₂.world.store.events = s.world.store.events := by rw [hstore, hst]
    have hrevoked : s₂.world.store.revokedTokens = s.world.store.revokedTokens := by
      rw [hstore, hst]
    exact Celld.consumes_congr py tm (by rw [hreading]) hcells hids hevents hrevoked
  refine Iff.trans ?_ hconsumes
  rw [← hstore]
  refine consumeCommands_returns_iff py tm celld (fun cmd hcmd token htoken => ?_) ?_
  · have hmem : cmd ∈ st.commandInbox := hstore ▸ hcmd
    have hinbox : st.commandInbox = s.world.store.commandInbox.push
      (Store.newCommand (tm.now (s.reading + 1)) sid send.commandType send.payload.orEmpty
        send.actorResourceId) fun _ => rfl := by rw [hst]
    rw [hinbox] at hmem
    rcases Data.Serial.mem_push.mp hmem with hold | rfl
    · obtain ⟨k, hk, htoken⟩ := hdrawn cmd hold token htoken
      exact ⟨k, hids ▸ hk, htoken⟩
    · cases htoken
  · exact hstore ▸ hst ▸ hses

/-- **`send_command`** returns. -/
theorem sendCommand_returns_iff (send : Send) (hdrawn : s.world.ClaimsDrawn py) :
    (send.code py sid).Returns (timed py tm) s ↔ send.Succeeds py tm sid s := by
  rw [Send.code_eq]
  by_cases hadmits : s.world.store.Admits (tm.now s.reading) sid
  swap
  · obtain ⟨e, s', hrun, -⟩ := run_deliver_refused py tm send hadmits
    exact iff_of_false (Prog.not_returns_bind_error hrun) fun h => hadmits h.1
  obtain ⟨st, s₂, henqueue, hrun, hreading, hstore, hobjects, hcells, hids⟩ :=
    run_deliver_admitted py tm send hadmits
  have hwaits := Store.pendingOf_enqueue henqueue sid
  rw [if_pos rfl] at hwaits
  have hroute : s₂.world.store.getRoute (tm.now s₂.reading) sid =
      s.world.store.getRoute (tm.now (s.reading + 2)) sid := by
    obtain ⟨-, -, -, -, rfl⟩ := Store.enqueueCommand_ok henqueue
    rw [hreading, hstore]
    rfl
  have hcelld := run_celldForRoute py tm sid s₂
  rw [hroute, hobjects] at hcelld
  unfold Send.Succeeds
  -- the broker looks for the `celld` two readings later
  cases hsecond : s.world.store.getRoute (tm.now (s.reading + 2)) sid with
  | none =>
    rw [hsecond] at hcelld
    rw [Prog.run_bind_error _ hcelld] at hrun
    refine iff_of_false (Prog.not_returns_bind_error hrun) ?_
    rintro ⟨-, route, celld, hsome, -⟩
    cases hsome
  | some route =>
    rw [hsecond] at hcelld
    dsimp only at hcelld
    cases hobject : s.world.objects route.hostId with
    | none =>
      rw [hobject] at hcelld
      rw [Prog.run_bind_error _ hcelld] at hrun
      refine iff_of_false (Prog.not_returns_bind_error hrun) ?_
      rintro ⟨-, route', celld, hsome, hcelld', -⟩
      cases hsome
      cases hobject.symm.trans hcelld'
    | some celld =>
      rw [hobject] at hcelld
      rw [Prog.run_bind_ok _ hcelld, Prog.run_pure] at hrun
      rw [Prog.returns_bind_ok hrun, Prog.returns_bind_pure,
        consumeCommands_delivered_iff py tm celld hdrawn henqueue hreading hstore hcells hids, hwaits]
      constructor
      · exact fun h => ⟨hadmits, route, celld, rfl, hobject, h⟩
      · rintro ⟨-, route', celld', hsome, hcelld', h⟩
        cases hsome
        cases hobject.symm.trans hcelld'
        exact h

end Sending

/-! ## Placing a session -/

section Placing

variable (py : Py) (tm : Timing T) {s : Ticking T}

/-- **`place_session`** returns. -/
theorem placeSession_returns_iff {sid : String} (hses : s.world.store.hasSession sid = true) :
    (Broker.placeSession py sid).Returns (timed py tm) s ↔ ¬ s.world.PlacementFails := by
  rw [← placeSession_raises_iff py tm hses, ← Prog.not_returns_iff, not_not]

/-- **`create_session`** returns. -/
theorem createSession_returns_iff (hsound : s.world.Sound py) (tenantId : String)
    (metadata : Json) :
    (Gateway.createSession py tenantId metadata).Returns (timed py tm) s ↔
      ¬ s.world.PlacementFails := by
  obtain ⟨s₁, hcreate, -, hvacancy, hpending⟩ := run_newCandidate py tm tenantId metadata.orEmpty
    fun row hrow => hsound.sessionIds row hrow _ (Nat.le_refl _)
  unfold Gateway.createSession
  simp only [Prog.bind_eq, Prog.pure_eq]
  rw [Prog.returns_bind_ok hcreate, Prog.returns_bind_pure,
    placeSession_returns_iff py tm (Store.hasSession_of_statusOf hpending),
    World.placementFails_congr hvacancy]

omit [Field T] [LinearOrder T] [IsStrictOrderedRing T] [FloorRing T] in
/-- With a new id and a session that exists a channel is found or made. -/
theorem getOrCreateChannel_eq {st : Store T} {cid sid : String}
    (hnew : ∀ row ∈ st.channels, row.id ≠ cid) (hses : st.hasSession sid = true)
    (t : T) (platform channelId threadId initiator : String) (metadata : Json) :
    ∃ found st', st.getOrCreateChannel t cid platform channelId threadId sid initiator metadata =
      .ok (found, st') := by
  cases hfind : st.channels.find? (platform, channelId, threadId) with
  | some row =>
    exact ⟨_, st, Store.getOrCreateChannel_known hfind t cid sid initiator metadata⟩
  | none =>
    obtain ⟨row, hrow⟩ : ∃ row, row = Store.newChannel t cid platform channelId threadId sid initiator
      metadata := ⟨_, rfl⟩
    have hkey : row.key = (platform, channelId, threadId) := hrow ▸ rfl
    obtain ⟨channels, hinsert⟩ : ∃ channels, st.channels.insert? row = some channels := by
      cases hinsert : st.channels.insert? row with
      | some channels => exact ⟨channels, rfl⟩
      | none =>
        obtain ⟨old, hold, heq⟩ := Data.Table.insert?_eq_none.mp hinsert
        exact absurd (heq.trans hkey) (Data.Table.find?_eq_none.mp hfind old hold)
    have hins : st.insertChannel row = .ok { st with channels } := by
      have hfresh : (st.channels.rows.any fun c => c.id == row.id) = false := by
        rw [List.any_eq_false]
        intro old hold
        simpa [hrow, Store.newChannel] using hnew old hold
      have hknown : st.hasSession row.sessionId = true := hrow ▸ hses
      unfold Store.insertChannel
      rw [hfresh, hinsert]
      simp [hknown]
    have hfound : channels.find? (platform, channelId, threadId) = some row := by
      rw [Data.Table.find?_of_insert? hinsert, if_pos hkey]
    refine ⟨(row.sessionId, row.id, row.sessionId == sid && row.id == cid), { st with channels }, ?_⟩
    unfold Store.getOrCreateChannel
    rw [← hrow, hins]
    dsimp only
    rw [hfound]

/-- A channel call whose candidate is placed finds a channel or makes one, among
those there were. -/
theorem channelSession_joins (hsound : s.world.Sound py)
    (hids : ∀ row ∈ s.world.store.channels, ∀ n, s.world.drawn .channel ≤ n →
      row.id ≠ py.uuid4 .channel n) (request : ChannelRequest) (hplaces : ¬ s.world.PlacementFails) :
    ∃ (st st' : Store T) (t : T) (found : String × String × Bool),
      st.channels = s.world.store.channels ∧
      st.getOrCreateChannel t (s.world.fresh py .channel) request.platform request.channelId
        request.threadId (s.world.fresh py .session) (request.initiator py s.world)
        request.metadata = .ok (found, st') ∧
      ((request.run py).run (timed py tm) s).1 = .ok ⟨found.1, found.2.1, found.2.2⟩ ∧
      ((request.run py).run (timed py tm) s).2.world.store.channels = st'.channels := by
  obtain ⟨s₁, hcall, -, hses, -, hchannels, hid, hvacancy⟩ := run_candidate py tm hsound request
  obtain ⟨placement, s₂, hplace⟩ := (placeSession_returns_iff py tm hses).mpr
    ((World.placementFails_congr hvacancy).not.mpr hplaces)
  -- the channels are still as they were, and the next id is new
  have hsame := run_noJoin_channels py tm (s := s₁) (Broker.placeSession_noJoin py
    (s.world.fresh py .session))
  have hses₂ := run_hasSession py tm (Broker.placeSession py (s.world.fresh py .session)) hses
  have hid₂ := run_fresh py tm (s := s₁) ((Broker.placeSession_within py
    (s.world.fresh py .session)).mono_calls fun _ hd => hd.draws)
  rw [hplace] at hsame hses₂ hid₂
  have hnew : ∀ row ∈ s₂.world.store.channels, row.id ≠ s.world.fresh py .channel := by
    intro row hrow
    rw [hsame, hchannels] at hrow
    exact hids row hrow _ (Nat.le_refl _)
  obtain ⟨found, st', hfound⟩ := getOrCreateChannel_eq hnew hses₂ (tm.now s₂.reading)
    request.platform request.channelId request.threadId (request.initiator py s.world)
    request.metadata
  obtain ⟨hreturns, hafter⟩ := guarded_returns py tm request (request.initiator py s.world) hplace
    ((hid₂.trans hid).symm ▸ hfound)
  rw [← hcall] at hreturns hafter
  exact ⟨s₂.world.store, st', _, found, hsame.trans hchannels, hfound, hreturns, hafter _ _ rfl⟩

/-- **A channel call** returns. -/
theorem channelSession_returns_iff (hsound : s.world.Sound py)
    (hids : ∀ row ∈ s.world.store.channels, ∀ n, s.world.drawn .channel ≤ n →
      row.id ≠ py.uuid4 .channel n) (request : ChannelRequest) :
    (request.run py).Returns (timed py tm) s ↔ ¬ s.world.PlacementFails := by
  by_cases hfail : s.world.PlacementFails
  · obtain ⟨e, s', herror, -⟩ := channelSession_fails py tm request
      (fun row hrow => hsound.sessionIds row hrow _ (Nat.le_refl _)) hfail
    refine iff_of_false ?_ (not_not.mpr hfail)
    rw [Prog.not_returns_iff]
    exact ⟨e, congrArg Prod.fst herror⟩
  · obtain ⟨_, _, _, _, -, -, hreturns, -⟩ := channelSession_joins py tm hsound hids request hfail
    exact iff_of_true ⟨_, _, Prod.ext hreturns rfl⟩ hfail

end Placing

/-! ## Reading a request -/

omit [Field T] [LinearOrder T] [IsStrictOrderedRing T] [FloorRing T] in
/-- The paths whose handlers ask the body for its fields. -/
def asksBody (path : String) : Prop :=
  path = "/sessions" ∨ path = "/channels" ∨
    ∃ sessionId, pathParts path = ["sessions", sessionId, "commands"]

namespace NadiHandler

variable (http : HttpPy) (h : NadiHandler) (req : HttpRequest)

/-- A field of the body is a text that is too long. -/
def LongText (body : Json) (field : String) : Prop :=
  ∃ text, body.get field (.str "") = .ok (.str text) ∧ maxFieldBytes < (utf8 text).length

/-- Up to the first that is too long, the texts of the fields can be encoded. -/
def TextsEncode (body : Json) (fields : List String) : Prop :=
  ∀ front field rest, fields = front ++ field :: rest → (∀ f ∈ front, ¬ LongText body f) →
    ∀ text, body.get field (.str "") = .ok (.str text) → http.encodes text = true

/-- The metadata can be written as JSON. -/
def MetadataDumps (body : Json) : Prop :=
  ∀ metadata, body.get "metadata" .null = .ok metadata →
    ∃ value, http.dumped metadata.orEmpty = .ok value

/-- What `POST /channels` asks of a body: its texts can be measured, and unless one of
them is too long, `str` of every field can be had and the metadata can be written. -/
structure ChannelReads (body : Json) : Prop where
  encode : TextsEncode http body channelFields
  strs : (∀ field ∈ channelFields, ¬ LongText body field) → ∀ field ∈ channelFields,
    ∀ value, body.get field (.str "") = .ok value → ∃ text, http.str value = .ok text
  metadata : (∀ field ∈ channelFields, ¬ LongText body field) → MetadataDumps http body

/-- What a path asks of a body can be had of it. -/
structure BodyReads (path : String) (body : Json) : Prop where
  isObj : body.isObj = true
  sessions : path = "/sessions" → MetadataDumps http body
  channels : path = "/channels" → ChannelReads http body

/-- The request can be read: its URL can be parsed, and where fields are asked of a body
they can be had, unless reading the body raises a `ValueError`. A `POST` without the key
is not read. -/
def Reads : Prop :=
  match req.method with
  | .get => ∃ path, http.urlPath req.url = .ok path
  | .post => h.checkApiKey req = true → ∃ path, http.urlPath req.url = .ok path ∧
    match body http req with
    | .ok body => asksBody path → BodyReads http path body
    | .error e => ∃ msg, e = .valueError msg

variable {http h req} {body : Json}

theorem textsEncode_nil : TextsEncode http body [] := by
  intro front field rest heq
  cases front <;> cases heq

/-- The first text has to be encoded, and the others only if it is not too long. -/
theorem textsEncode_cons {field : String} {rest : List String} :
    TextsEncode http body (field :: rest) ↔
      (∀ text, body.get field (.str "") = .ok (.str text) → http.encodes text = true) ∧
        (¬ LongText body field → TextsEncode http body rest) := by
  constructor
  · intro h
    refine ⟨h [] field rest rfl nofun, fun hshort front other others heq hfront => ?_⟩
    exact h (field :: front) other others (congrArg _ heq)
      (List.forall_mem_cons.mpr ⟨hshort, hfront⟩)
  · rintro ⟨hfirst, hrest⟩ front other others heq hfront
    cases front with
    | nil =>
      obtain ⟨rfl, -⟩ := List.cons.inj heq
      exact hfirst
    | cons f front =>
      obtain ⟨rfl, htail⟩ := List.cons.inj heq
      obtain ⟨hshort, hfront⟩ := List.forall_mem_cons.mp hfront
      exact hrest hshort front other others htail hfront

open Classical in
/-- **What the check finds**: the first field whose text is too long, unless a text before
it cannot be encoded. -/
theorem oversizedField_eq (hobj : body.isObj = true) (fields : List String) :
    oversizedField http body fields =
      if TextsEncode http body fields then .ok (fields.find? fun f => LongText body f)
      else .error unicodeError := by
  induction fields with
  | nil => exact (if_pos textsEncode_nil).symm
  | cons field rest ih =>
    obtain ⟨value, hvalue⟩ := Json.get_of_isObj hobj field (.str "")
    unfold oversizedField
    rw [hvalue, textsEncode_cons, List.find?_cons]
    by_cases hstr : ∃ text, value = .str text
    · obtain ⟨text, rfl⟩ := hstr
      have hlong : LongText body field ↔ maxFieldBytes < (utf8 text).length := by
        refine ⟨fun ⟨text', htext, hlong⟩ => ?_, fun h => ⟨text, hvalue, h⟩⟩
        cases hvalue.symm.trans htext
        exact hlong
      have hencodes : (∀ text', body.get field (.str "") = .ok (.str text') →
          http.encodes text' = true) ↔ http.encodes text = true := by
        refine ⟨fun h => h text hvalue, fun h text' htext => ?_⟩
        cases hvalue.symm.trans htext
        exact h
      show (if http.encodes text = true then
        if maxFieldBytes < (utf8 text).length then .ok (some field) else oversizedField http body rest
        else .error unicodeError) = _
      rw [hencodes, hlong, ih]
      by_cases hok : http.encodes text = true
      · by_cases hgt : maxFieldBytes < (utf8 text).length
        · simp [hok, hgt]
        · simp [hok, hgt]
      · simp [hok]
    · have hother : ∀ text, body.get field (.str "") ≠ .ok (.str text) :=
        fun text htext => hstr ⟨text, Except.ok.inj (hvalue.symm.trans htext)⟩
      have hshort : ¬ LongText body field := fun ⟨text, htext, _⟩ => hother text htext
      cases value with
      | str text => exact absurd ⟨text, rfl⟩ hstr
      | _ =>
        show oversizedField http body rest = _
        simp [ih, hshort, hother]

/-- Whether the check returns. -/
theorem oversizedField_ok_iff (hobj : body.isObj = true) {fields : List String} :
    (∃ found, oversizedField http body fields = .ok found) ↔ TextsEncode http body fields := by
  classical
  rw [oversizedField_eq hobj]
  by_cases hencode : TextsEncode http body fields
  · rw [if_pos hencode]
    exact iff_of_true ⟨_, rfl⟩ hencode
  · rw [if_neg hencode]
    exact iff_of_false nofun hencode

/-- Whether it finds nothing, where it returns. -/
theorem oversizedField_none_iff (hobj : body.isObj = true) {fields : List String}
    {found : Option String} (hfound : oversizedField http body fields = .ok found) :
    found = none ↔ ∀ field ∈ fields, ¬ LongText body field := by
  classical
  have hencode := (oversizedField_ok_iff hobj).mp ⟨found, hfound⟩
  rw [oversizedField_eq hobj, if_pos hencode] at hfound
  obtain rfl := Except.ok.inj hfound
  simp

/-- The metadata of a dict can be had if it can be written. -/
theorem metadata_ok_iff (hobj : body.isObj = true) {α : Type} {f : Json → α} :
    (∃ a, (do let metadata ← body.get "metadata" .null
              let metadata ← http.dumped metadata.orEmpty
              return f metadata : Except PyErr α) = .ok a) ↔ MetadataDumps http body := by
  obtain ⟨metadata, hmetadata⟩ := Json.get_of_isObj hobj "metadata" .null
  rw [exists_ok_bind]
  constructor
  · rintro ⟨metadata', hget, ⟨a, ha⟩⟩ metadata'' hget'
    cases hget.symm.trans hget'
    obtain ⟨value, hvalue, -⟩ := eq_ok_of_bind ha
    exact ⟨value, hvalue⟩
  · intro h
    obtain ⟨value, hvalue⟩ := h metadata hmetadata
    exact ⟨metadata, hmetadata, exists_ok_bind.mpr ⟨value, hvalue, f value, rfl⟩⟩

/-- The text of a field of a dict can be had if `str` of its value can. -/
theorem textField_ok_iff (hobj : body.isObj = true) {field : String} :
    (∃ text, textField http body field = .ok text) ↔
      ∀ value, body.get field (.str "") = .ok value → ∃ text, http.str value = .ok text := by
  obtain ⟨value, hvalue⟩ := Json.get_of_isObj hobj field (.str "")
  unfold textField
  rw [exists_ok_bind]
  constructor
  · rintro ⟨value', hget, htext⟩ value'' hget'
    cases hget.symm.trans hget'
    exact htext
  · exact fun h => ⟨value, hvalue, h value hvalue⟩

/-- The request for a channel can be made if the texts and the metadata can be had. -/
theorem channelRequest_ok_iff (hobj : body.isObj = true) :
    (∃ request, h.channelRequest http body = .ok request) ↔
      (∀ field ∈ channelFields, ∀ value, body.get field (.str "") = .ok value →
        ∃ text, http.str value = .ok text) ∧ MetadataDumps http body := by
  have hfields : (∀ field ∈ channelFields, ∀ value, body.get field (.str "") = .ok value →
      ∃ text, http.str value = .ok text) ↔
        ∀ field ∈ channelFields, ∃ text, textField http body field = .ok text :=
    forall₂_congr fun _ _ => (textField_ok_iff hobj).symm
  rw [hfields]
  constructor
  · rintro ⟨request, hrequest⟩
    obtain ⟨platform, hplatform, hrequest⟩ := eq_ok_of_bind hrequest
    obtain ⟨channelId, hchannelId, hrequest⟩ := eq_ok_of_bind hrequest
    obtain ⟨threadId, hthreadId, hrequest⟩ := eq_ok_of_bind hrequest
    obtain ⟨initiator, hinitiator, hrequest⟩ := eq_ok_of_bind hrequest
    refine ⟨?_, (metadata_ok_iff hobj).mp ⟨_, hrequest⟩⟩
    simp only [channelFields, List.forall_mem_cons]
    exact ⟨⟨_, hplatform⟩, ⟨_, hchannelId⟩, ⟨_, hthreadId⟩, ⟨_, hinitiator⟩, nofun⟩
  · rintro ⟨htexts, hmetadata⟩
    simp only [channelFields, List.forall_mem_cons] at htexts
    obtain ⟨⟨platform, hplatform⟩, ⟨channelId, hchannelId⟩, ⟨threadId, hthreadId⟩,
      ⟨initiator, hinitiator⟩, -⟩ := htexts
    unfold channelRequest
    rw [hplatform, hchannelId, hthreadId, hinitiator]
    exact (metadata_ok_iff hobj).mpr hmetadata

/-- **A dict as a body** is read if what the path asks for can be had. -/
theorem post_of_isObj {path : String} (hobj : body.isObj = true) :
    (∃ action, h.post http path body = .ok action) ↔ BodyReads http path body := by
  have hiff : BodyReads http path body ↔ (path = "/sessions" → MetadataDumps http body) ∧
      (path = "/channels" → ChannelReads http body) :=
    ⟨fun h => ⟨h.sessions, h.channels⟩, fun h => ⟨hobj, h.1, h.2⟩⟩
  rw [hiff]
  unfold post
  by_cases hsessions : path = "/sessions"
  · subst hsessions
    rw [if_pos rfl, metadata_ok_iff hobj]
    exact ⟨fun h => ⟨fun _ => h, fun heq => absurd heq (by decide)⟩, fun h => h.1 rfl⟩
  rw [if_neg hsessions]
  by_cases hchannels : path = "/channels"
  · subst hchannels
    rw [if_pos rfl, exists_ok_bind]
    constructor
    · rintro ⟨found, hfound, hrest⟩
      refine ⟨fun heq => absurd heq (by decide), fun _ => ?_⟩
      have hencode := (oversizedField_ok_iff hobj).mp ⟨found, hfound⟩
      have hasked : (∀ field ∈ channelFields, ¬ LongText body field) →
          ∃ request, h.channelRequest http body = .ok request := by
        intro hshort
        obtain rfl := (oversizedField_none_iff hobj hfound).mpr hshort
        obtain ⟨request, hrequest, -⟩ := exists_ok_bind.mp hrest
        exact ⟨request, hrequest⟩
      exact ⟨hencode, fun hshort => ((channelRequest_ok_iff hobj).mp (hasked hshort)).1,
        fun hshort => ((channelRequest_ok_iff hobj).mp (hasked hshort)).2⟩
    · rintro ⟨-, hreads⟩
      obtain ⟨hencode, hstrs, hmetadata⟩ := hreads rfl
      obtain ⟨found, hfound⟩ := (oversizedField_ok_iff hobj).mpr hencode
      refine ⟨found, hfound, ?_⟩
      cases found with
      | some field => exact ⟨_, rfl⟩
      | none =>
        have hshort := (oversizedField_none_iff hobj hfound).mp rfl
        obtain ⟨request, hrequest⟩ :=
          (channelRequest_ok_iff (h := h) hobj).mpr ⟨hstrs hshort, hmetadata hshort⟩
        exact exists_ok_bind.mpr ⟨request, hrequest, _, rfl⟩
  rw [if_neg hchannels]
  refine iff_of_true ?_ ⟨fun heq => absurd heq hsessions, fun heq => absurd heq hchannels⟩
  cases body with
  | obj fields => split <;> exact ⟨_, rfl⟩
  | _ => cases hobj

/-- What has no fields raises when it is asked for one. -/
theorem get_of_not_isObj (hobj : ¬ body.isObj = true) (key : String)
    (default : Json) : ∃ e, body.get key default = .error e := by
  cases body with
  | obj fields => exact absurd rfl hobj
  | _ => exact ⟨_, rfl⟩

/-- Another body is read where it is not asked for its fields. -/
theorem post_of_not_isObj {path : String} (hobj : ¬ body.isObj = true) :
    (∃ action, h.post http path body = .ok action) ↔ ¬ asksBody path := by
  have hget := get_of_not_isObj hobj
  have hraises : ∀ {α : Type} {key : String} {default : Json} {f : Json → Except PyErr α} {a : α},
      body.get key default >>= f ≠ .ok a := by
    intro α key default f a heq
    obtain ⟨e, he⟩ := hget key default
    rw [he] at heq
    cases heq
  have hoversized : ∀ {field : String} {rest : List String} {found : Option String},
      oversizedField http body (field :: rest) ≠ .ok found := by
    intro field rest found
    exact hraises
  unfold post asksBody
  by_cases hsessions : path = "/sessions"
  · rw [if_pos hsessions]
    exact iff_of_false (fun ⟨_, h⟩ => hraises h) fun h => h (.inl hsessions)
  rw [if_neg hsessions]
  by_cases hchannels : path = "/channels"
  · rw [if_pos hchannels]
    refine iff_of_false (fun ⟨_, h⟩ => ?_) fun h => h (.inr (.inl hchannels))
    obtain ⟨found, hfound, -⟩ := eq_ok_of_bind h
    exact hoversized hfound
  rw [if_neg hchannels]
  split
  · rename_i sessionId hparts
    exact iff_of_false (fun ⟨_, h⟩ => hraises h) fun h => h (.inr (.inr ⟨sessionId, hparts⟩))
  · rename_i hparts
    refine iff_of_true ⟨_, rfl⟩ ?_
    rintro (h | h | ⟨sessionId, h⟩)
    · exact hsessions h
    · exact hchannels h
    · exact hparts sessionId h

/-- A `GET` is read if its URL can be parsed. -/
theorem doGet_ok_iff :
    (∃ action, h.doGet http req = .ok action) ↔ ∃ path, http.urlPath req.url = .ok path := by
  unfold doGet
  cases http.urlPath req.url with
  | error e => exact iff_of_false (fun ⟨_, h⟩ => nomatch h) fun ⟨_, h⟩ => nomatch h
  | ok path =>
    refine iff_of_true ?_ ⟨path, rfl⟩
    show ∃ action, (if path = "/healthz" then _ else _) = Except.ok action
    split
    · exact ⟨_, rfl⟩
    split
    · split <;> exact ⟨_, rfl⟩
    · exact ⟨_, rfl⟩

/-- A body is read if what the path asks for can be had. -/
theorem post_ok_iff {path : String} :
    (∃ action, h.post http path body = .ok action) ↔ (asksBody path → BodyReads http path body) := by
  by_cases hobj : body.isObj = true
  · rw [post_of_isObj hobj]
    refine ⟨fun h _ => h, fun h => ?_⟩
    by_cases hasks : asksBody path
    · exact h hasks
    · exact ⟨hobj, fun heq => absurd (.inl heq) hasks, fun heq => absurd (.inr (.inl heq)) hasks⟩
  · rw [post_of_not_isObj hobj]
    exact ⟨fun hnot hasks => absurd hasks hnot, fun h hasks => hobj (h hasks).isObj⟩

/-- **Which requests are read.** -/
theorem action_ok_iff : (∃ action, h.action http req = .ok action) ↔ h.Reads http req := by
  unfold action Reads
  cases req.method with
  | get => exact doGet_ok_iff
  | post =>
    show (∃ action, h.doPost http req = .ok action) ↔ _
    unfold doPost
    by_cases hkey : h.checkApiKey req = true
    swap
    · rw [if_neg hkey]
      exact iff_of_true ⟨_, rfl⟩ fun h => absurd h hkey
    rw [if_pos hkey]
    cases http.urlPath req.url with
    | error e => exact iff_of_false (fun ⟨_, h⟩ => nomatch h) fun h => nomatch (h hkey).choose_spec.1
    | ok path =>
      cases hbody : NadiHandler.body http req with
      | error e =>
        dsimp only
        cases e with
        -- the one kind of error that is answered, with 400
        | valueError msg => exact iff_of_true ⟨_, rfl⟩ fun _ => ⟨path, rfl, msg, rfl⟩
        | _ =>
          refine iff_of_false (fun ⟨_, h⟩ => nomatch h) fun h => ?_
          obtain ⟨_, -, _, heq⟩ := h hkey
          cases heq
      | ok value =>
        show (∃ action, h.post http path value = .ok action) ↔ _
        rw [post_ok_iff]
        constructor
        · exact fun h _ => ⟨path, rfl, h⟩
        · intro h
          obtain ⟨path', hpath, hread⟩ := h hkey
          cases hpath
          exact hread

end NadiHandler

/-! ## Answers -/

/-- The statuses that say nothing was done. -/
def refusals : List ℕ := [400, 401, 404, 413]

/-- The status of the response an action ends with. -/
def Action.status : Action → ℕ
  | .respond status _ => status
  | .createSession status .. => status
  | .channelSession status _ => status
  | .sendCommand status .. => status
  | .getSessionEvents status _ => status

/-- What calls the gateway does not refuse. -/
theorem NadiHandler.action_status {http : HttpPy} {h : NadiHandler} {req : HttpRequest}
    {action : Action} (haction : h.action http req = .ok action) :
    (∃ status error, action = .respond status error) ∨ action.status ∉ refusals := by
  cases action_leads haction with
  | respond status error => exact .inl ⟨status, error, rfl⟩
  | createSession => exact .inr (show 201 ∉ refusals by decide)
  | channelSession => exact .inr (show 200 ∉ refusals by decide)
  | sendCommand => exact .inr (show 202 ∉ refusals by decide)
  | getSessionEvents => exact .inr (show 200 ∉ refusals by decide)

section Answers

variable (http : HttpPy) (tm : Timing T) {s : Ticking T}

/-- What the gateway has to find for an action to succeed. -/
def Action.Succeeds (s : Ticking T) : Action → Prop
  | .respond .. => True
  | .createSession .. => ¬ s.world.PlacementFails
  | .channelSession .. => ¬ s.world.PlacementFails
  | .sendCommand _ sid commandType payload actor => ∃ type actorId,
      bindCommand http commandType payload actor = .ok (type, actorId) ∧
        Send.Succeeds http.toPy tm ⟨type, payload, actorId⟩ sid s
  | .getSessionEvents _ sid => (s.world.store.getRoute (tm.now s.reading) sid).isSome = true

/-- One response is written, and if it says that nothing was done, nothing was. -/
def NadiHandler.Answers (h : NadiHandler) (req : HttpRequest) (s : Ticking T) : Prop :=
  ∃ response s', (h.handle http req).run (timed http.toPy tm) s = (.ok response, s') ∧
    (response.status ∈ refusals → s'.world.store = s.world.store)

omit [FloorRing T] [IsStrictOrderedRing T] in
/-- **`get_session_events`** returns. -/
theorem getSessionEvents_returns_iff (py : Py) (sid : String) (after : Int) :
    (Gateway.getSessionEvents sid after).Returns (timed py tm) s ↔
      (s.world.store.getRoute (tm.now s.reading) sid).isSome = true := by
  have hroute := run_route py tm sid (s := s)
  unfold Gateway.getSessionEvents
  simp only [Prog.bind_eq]
  cases hfound : s.world.store.getRoute (tm.now s.reading) sid with
  | none =>
    rw [hfound] at hroute
    exact iff_of_false (Prog.not_returns_bind_error hroute) Bool.false_ne_true
  | some route =>
    rw [hfound] at hroute
    rw [Prog.returns_bind_ok hroute]
    exact iff_of_true ⟨_, _, rfl⟩ rfl

/-- **Which actions succeed.** -/
theorem Action.perform_returns_iff (hsound : s.world.Sound http.toPy)
    (hids : ∀ row ∈ s.world.store.channels, ∀ n, s.world.drawn .channel ≤ n →
      row.id ≠ http.uuid4 .channel n) (action : Action) :
    (action.perform http).Returns (timed http.toPy tm) s ↔ action.Succeeds http tm s := by
  cases action with
  | respond status error => cases error <;> exact iff_of_true ⟨_, _, rfl⟩ trivial
  | createSession status tenantId metadata =>
    exact (Prog.returns_bind_pure _ _ _ _).trans
      (createSession_returns_iff http.toPy tm hsound tenantId metadata)
  | channelSession status request =>
    exact (Prog.returns_bind_pure _ _ _ _).trans
      (channelSession_returns_iff http.toPy tm hsound hids request)
  | getSessionEvents status sid =>
    exact (Prog.returns_bind_pure _ _ _ _).trans (getSessionEvents_returns_iff tm http.toPy sid 0)
  | sendCommand status sid commandType payload actor =>
    refine (Prog.returns_bind_pure _ _ _ _).trans ?_
    unfold Gateway.sendValues
    cases hbind : bindCommand http commandType payload actor with
    | ok values =>
      obtain ⟨type, actorId⟩ := values
      refine (sendCommand_returns_iff http.toPy tm ⟨type, payload, actorId⟩ hsound.claims).trans ?_
      constructor
      · exact fun h => ⟨type, actorId, hbind, h⟩
      · rintro ⟨_, _, heq, h⟩
        cases hbind.symm.trans heq
        exact h
    | error e =>
      refine iff_of_false ?_ fun ⟨_, _, heq, _⟩ => nomatch hbind.symm.trans heq
      rw [Prog.not_returns_iff]
      show ∃ e', (((Gateway.route sid).bind fun _ => .throw e : Code T Sent).run
        (timed http.toPy tm) s).1 = .error e'
      rw [Prog.run_bind, run_route]
      cases s.world.store.getRoute (tm.now s.reading) sid <;> exact ⟨_, rfl⟩

/-- The response of an action has its status, and only a response of the handler's
own can be a refusal. -/
theorem Action.perform_refused {action : Action} {response : Response T} {s' : Ticking T}
    (hstatus : (∃ status error, action = .respond status error) ∨ action.status ∉ refusals)
    (hrun : (action.perform http).run (timed http.toPy tm) s = (.ok response, s'))
    (hrefused : response.status ∈ refusals) : s' = s := by
  have hwrap : ∀ {α : Type} {p : Code T α} {f : α → Reply T} {status : ℕ},
      (p.bind fun a => .pure ⟨status, f a⟩).run (timed http.toPy tm) s = (.ok response, s') →
        response.status = status := by
    intro α p f status h
    rcases hp : p.run (timed http.toPy tm) s with ⟨e | a, s₁⟩
    · rw [Prog.run_bind_error _ hp] at h
      cases h
    · rw [Prog.run_bind_ok _ hp] at h
      cases h
      rfl
  have hnever : response.status = action.status →
      (∀ status error, action ≠ .respond status error) → s' = s := by
    intro heq hne
    rcases hstatus with ⟨status, error, hrespond⟩ | hstatus
    · exact absurd hrespond (hne status error)
    · exact absurd (heq ▸ hrefused) hstatus
  cases action with
  | respond status error =>
    cases error with
    | none =>
      cases hrun
      rfl
    | some message =>
      cases hrun
      rfl
  | createSession => exact hnever (hwrap hrun) fun _ _ h => nomatch h
  | channelSession => exact hnever (hwrap hrun) fun _ _ h => nomatch h
  | sendCommand => exact hnever (hwrap hrun) fun _ _ h => nomatch h
  | getSessionEvents => exact hnever (hwrap hrun) fun _ _ h => nomatch h

omit [IsStrictOrderedRing T] [FloorRing T] in
/-- The ids of channels that are still to be drawn are new. -/
theorem reach_channelIds {ι α : Type} [DecidableEq ι] {py : Py} {clock : T} {files : Files}
    {programs : ι → Code T α} {cfg : Threads ι T α}
    (hr : Reach (processes ι py) (.start programs (World.init clock files)) cfg) :
    ∀ row ∈ cfg.point.state.store.channels, ∀ n, cfg.point.state.drawn .channel ≤ n →
      row.id ≠ py.uuid4 .channel n := by
  refine hr.point_invariant (P := fun p => ∀ row ∈ p.state.store.channels, ∀ n,
    p.state.drawn .channel ≤ n → row.id ≠ py.uuid4 .channel n) (fun _ h => nomatch h)
    (fun p i c h _ => exec_channelIds py c h) fun p w' h henv => ?_
  obtain ⟨hstore, hdrawn⟩ : w'.store = p.state.store ∧ w'.drawn = p.state.drawn := henv
  show ∀ row ∈ w'.store.channels, ∀ n, w'.drawn .channel ≤ n → row.id ≠ py.uuid4 .channel n
  rw [hstore, hdrawn]
  exact h

end Answers

/-! ## Samples -/

end Nadi
