import Nadi.Likewise
import Nadi.Responses
import Nadi.Undelivered

/-!
# What the sessions of other tenants change

Two databases that hold the same of a tenant (`SameTenant`): of its sessions and
their channels, and of what the process has for them. A request of the tenant that
names none but its own sessions gets the same response from both (`SameResponse`),
whatever else they hold. Three things are shared by all tenants, and are not among
what is the same: the numbers of commands and rows of events, the ids that are
drawn, and the hosts on which a new session is placed.

- `createSession_answer`, `channelSession_answer`: what a request that places a
  candidate comes to.
- `SameSession.sendCommand`, `SameSession.getSessionEvents`: those for one session.
- `tenant_isolated`: the sessions a request reaches, and what it is answered.
-/

namespace Nadi

open Effect

variable {T : Type}

/-! ## The same of a tenant -/

/-- The `celld` that serves a session in this process, whenever one does. -/
def World.server (w : World T) (sid : String) : Option Celld :=
  (w.store.ownerOf sid).bind w.objects

section Same

variable (py : Py) (names : Names) (w w' : World T)

/-- What the `celld` that serves a session has for it: a live cell with the same state
and a token that is revoked alike, if any. Its sandbox checks tokens with its key. -/
structure SameService (c : Celld) (sid : String) : Prop where
  jwt : c.sandboxd.jwt = c.jwt
  cell : Option.Rel (SameCell py c sid names w w') (w.cells c.ref sid) (w'.cells c.ref sid)
  revoked : ∀ cell cell' k k' t, w.cells c.ref sid = some cell → w'.cells c.ref sid = some cell' →
    cell.jwt = c.tokenOf py sid k t → cell'.jwt = c.tokenOf py sid k' t → SameRevoked py k k' w w'

/-- A session: its row, lease, route, log and inbox, and what serves it. -/
structure SameSession [LinearOrder T] (sid : String) : Prop extends
    SameRecord sid names w w' where
  route : ∀ t, w'.store.getRoute t sid = w.store.getRoute t sid
  service : ∀ c, w.server sid = some c → SameService py names w w' c sid

/-- A channel that is known, for a session of the tenant. -/
def World.Knows (w : World T) (tenantId : String) (key : String × String × String)
    (row : ChannelRow T) : Prop :=
  w.store.channels.find? key = some row ∧ w.store.tenantOf row.sessionId = some tenantId

/-- Two states of a process that hold the same of a tenant. -/
structure SameTenant [LinearOrder T] (tenantId : String) : Prop where
  objects : w'.objects = w.objects
  sessions : ∀ sid, w.store.tenantOf sid = some tenantId ∨ w'.store.tenantOf sid = some tenantId →
    SameSession py names w w' sid
  channels : ∀ key row, w'.Knows tenantId key row ↔ w.Knows tenantId key row
  bounded : names.Bounded w w'
  unspent : Unspent py w
  unspent' : Unspent py w'

/-- The same values, up to what is numbered or drawn for all tenants together. -/
inductive SameReply : Reply T → Reply T → Prop where
  | ok : SameReply .ok .ok
  | error (message : String) : SameReply (.error message) (.error message)
  | created (hostId address : String) :
    SameReply
      (.created ⟨w.fresh py .session, "running",
        ⟨w.fresh py .session, hostId, w.fresh py .leaseToken, address⟩⟩)
      (.created ⟨w'.fresh py .session, "running",
        ⟨w'.fresh py .session, hostId, w'.fresh py .leaseToken, address⟩⟩)
  | known (session : ChannelSession) : SameReply (.channel session) (.channel session)
  | joined :
    SameReply (.channel ⟨w.fresh py .session, w.fresh py .channel, true⟩)
      (.channel ⟨w'.fresh py .session, w'.fresh py .channel, true⟩)
  | sent {a b : Sent} (h : SameSent names a b) : SameReply (.sent a) (.sent b)
  | events {a b : List (EventRow T)} (h : List.Forall₂ (SameEvent names) a b) :
    SameReply (.events a) (.events b)

/-- A response with the same status and values, or the same exception. -/
inductive SameResponse : Except PyErr (Response T) → Except PyErr (Response T) → Prop where
  | returned (status : ℕ) {a b : Reply T} (h : SameReply py names w w' a b) :
    SameResponse (.ok ⟨status, a⟩) (.ok ⟨status, b⟩)
  | raised (e : PyErr) : SameResponse (.error e) (.error e)

end Same

/-- The request places a candidate. -/
def Action.Places : Action → Prop
  | .createSession .. => True
  | .channelSession .. => True
  | _ => False

/-- The sessions, apart from a candidate, that an action finds: that of a channel, if
the candidate can be placed, and the one a request names, if it has an active route. -/
def Action.Finds [LinearOrder T] (w : World T) (t : T) : Action → String → Prop
  | .channelSession _ request, sid =>
    ¬ w.PlacementFails ∧ ∃ row, w.store.channels.find? request.key = some row ∧
      row.sessionId = sid
  | .sendCommand _ sessionId .., sid => sid = sessionId ∧ (w.store.getRoute t sid).isSome = true
  | .getSessionEvents _ sessionId, sid => sid = sessionId ∧ (w.store.getRoute t sid).isSome = true
  | _, _ => False

/-- From both states an action keeps to the tenant's sessions, and places a candidate, if
it does, at the same host or for the same reason not at all. -/
structure Action.KeepsTo [LinearOrder T] (tenantId : String) (t : T) (w w' : World T)
    (action : Action) : Prop where
  finds : ∀ sid, action.Finds w t sid → w.store.tenantOf sid = some tenantId
  finds' : ∀ sid, action.Finds w' t sid → w'.store.tenantOf sid = some tenantId
  vacancy : action.Places → w'.vacancy = w.vacancy

/-! ## Requests that place a candidate -/

section Placing

variable [Field T] [LinearOrder T] [IsStrictOrderedRing T] [FloorRing T] (py : Py)
  (tm : Timing T) {s : Ticking T}

/-- **What `create_session` comes to.** -/
theorem createSession_answer (hsound : s.world.Sound py) (tenantId : String) (metadata : Json) :
    ((Gateway.createSession py tenantId metadata).run (timed py tm) s).1 =
      s.world.vacancy.map fun place => ⟨s.world.fresh py .session, "running",
        ⟨s.world.fresh py .session, place.1, s.world.fresh py .leaseToken, place.2⟩⟩ := by
  obtain ⟨s₁, hcreate, -, hvacancy, hpending⟩ := run_newCandidate py tm tenantId metadata.orEmpty
    fun row hrow => hsound.sessionIds row hrow _ (Nat.le_refl _)
  have hsession : (call (.createSession tenantId none none metadata.orEmpty) :
      Code T String).Within (fun d => d.draws ≠ some .leaseToken) fun _ => True :=
    .perform nofun fun _ => trivial
  have htoken := run_fresh py tm (s := s) hsession
  rw [hcreate] at htoken
  have hplace := run_placeSession_vacancy py tm (Store.hasSession_of_statusOf hpending)
  rw [hvacancy, htoken] at hplace
  unfold Gateway.createSession
  simp only [Prog.bind_eq, Prog.pure_eq]
  rw [Prog.run_bind_ok _ hcreate, Prog.run_bind]
  generalize (Broker.placeSession py (s.world.fresh py .session)).run (timed py tm) s₁ = x
    at hplace ⊢
  obtain ⟨r, s₂⟩ := x
  obtain rfl : r = _ := hplace
  cases s.world.vacancy <;> rfl

/-- **What a channel call comes to**: the channel there is, or a new one. -/
theorem channelSession_answer (hsound : s.world.Sound py)
    (hids : ∀ row ∈ s.world.store.channels, ∀ n, s.world.drawn .channel ≤ n →
      row.id ≠ py.uuid4 .channel n) (request : ChannelRequest) :
    ((request.run py).run (timed py tm) s).1 = s.world.vacancy.map fun _ =>
      match s.world.store.channels.find? request.key with
      | some row => ⟨row.sessionId, row.id, false⟩
      | none => ⟨s.world.fresh py .session, s.world.fresh py .channel, true⟩ := by
  cases hvacancy : s.world.vacancy with
  | error e =>
    obtain ⟨s₁, hcall, -, hses, -, -, -, hsame⟩ := run_candidate py tm hsound request
    have hplace := run_placeSession_vacancy py tm hses
    rw [hsame, hvacancy] at hplace
    rw [hcall, guarded_fails py tm request _ (Prod.ext hplace rfl)]
    rfl
  | ok place =>
    have hplaces : ¬ s.world.PlacementFails := by
      rw [World.placementFails_iff, hvacancy]
      exact nofun
    obtain ⟨st, st', t, ⟨sid, cid, created⟩, hst, hjoined, hanswer, -⟩ :=
      channelSession_joins py tm hsound hids request hplaces
    rw [hanswer]
    cases hfind : s.world.store.channels.find? request.key with
    | some row =>
      cases hjoined.symm.trans (Store.join_known (hst ▸ hfind)
        (hsound.channel_ne_fresh hfind) t _ _ _)
      rfl
    | none =>
      obtain ⟨⟨rfl, rfl, rfl⟩, -⟩ := Store.getOrCreateChannel_new (hst ▸ hfind) hjoined
      rfl

end Placing

/-! ## Requests for one session -/

section Sessions

variable [Field T] [LinearOrder T] {py : Py} {names : Names} {w w' : World T} {sid tenantId : String}
  {c : Celld}

omit [Field T] in
/-- A route leads to what serves the session. -/
theorem World.server_of_route {t : T} {route : Route T}
    (hroute : w.store.getRoute t sid = some route) : w.server sid = w.objects route.hostId := by
  unfold World.server
  rw [Store.getRoute_ownerOf hroute]
  rfl

omit [Field T] in
/-- A session of the tenant has its seat at the `celld` that serves it. -/
theorem SameTenant.seated (h : SameTenant py names w w' tenantId)
    (hsame : SameSession py names w w' sid) (hserver : w.server sid = some c) :
    Seated py c sid w.objects w w' where
  objects := rfl
  route := hsame.route
  celld t route object hroute hobject := by
    rw [World.server_of_route hroute, hobject] at hserver
    exact Option.some.inj hserver
  token := (hsame.service c hserver).revoked
  unspent := h.unspent
  unspent' := h.unspent'

omit [Field T] in
theorem SameTenant.along (h : SameTenant py names w w' tenantId)
    (hsame : SameSession py names w w' sid) (hserver : w.server sid = some c)
    (hn : Numbered py w) (hn' : Numbered py w') :
    Along py c sid (Seated py c sid w.objects) names ⟨0, w⟩ ⟨0, w'⟩ :=
  ⟨⟨rfl, hn, hn', h.seated hsame hserver⟩, hsame.toSameRecord, h.objects,
    (hsame.service c hserver).cell, h.bounded⟩

variable [IsStrictOrderedRing T] [FloorRing T] (tm : Timing T)

variable (sid) in
/-- No `celld` of the process serves the session. -/
def World.Unserved (w : World T) : Prop :=
  ∀ t route, w.store.getRoute t sid = some route → w.objects route.hostId = none

variable (py) in
omit [IsStrictOrderedRing T] [FloorRing T] in
/-- The broker finds none then. -/
theorem run_celldForRoute_unserved {s : Ticking T} (hunserved : s.world.Unserved sid) :
    (Broker.celldForRoute sid).run (timed py tm) s =
      (.error (match s.world.store.getRoute (tm.now s.reading) sid with
        | none => .runtimeError "no active route"
        | some route => .keyError route.hostId), ⟨s.reading + 1, s.ready tm⟩) := by
  rw [run_celldForRoute]
  cases hroute : s.world.store.getRoute (tm.now s.reading) sid with
  | none => rfl
  | some route =>
    dsimp only
    rw [hunserved _ _ hroute]

variable (py) in
/-- With no `celld` to serve the session a command is refused, or left in the inbox. -/
theorem run_sendCommand_unserved {s : Ticking T} (hunserved : s.world.Unserved sid)
    (send : Send) :
    ((send.code py sid).run (timed py tm) s).1 = .error (
      match s.world.store.getRoute (tm.now s.reading) sid with
      | none => .keyError ("no active route for session " ++ sid)
      | some _ =>
        match s.world.store.enqueueCommand (tm.now (s.reading + 1)) sid send.commandType
            send.payload.orEmpty send.actorResourceId with
        | .error e => e
        | .ok _ =>
          match s.world.store.getRoute (tm.now (s.reading + 2)) sid with
          | none => .runtimeError "no active route"
          | some route => .keyError route.hostId) := by
  unfold Send.code Gateway.sendCommand
  simp only [Prog.bind_eq, Prog.pure_eq]
  have hroute := run_route py tm sid (s := s)
  cases hfound : s.world.store.getRoute (tm.now s.reading) sid with
  | none =>
    rw [hfound] at hroute
    rw [Prog.run_bind_error _ hroute]
  | some route =>
    rw [hfound] at hroute
    rw [Prog.run_bind_ok _ hroute]
    have henqueue := run_enqueue py tm (s := s) sid send.commandType send.payload.orEmpty
      send.actorResourceId
    cases hstored : s.world.store.enqueueCommand (tm.now (s.reading + 1)) sid send.commandType
      send.payload.orEmpty send.actorResourceId with
    | error e =>
      rw [hstored] at henqueue
      rw [Prog.run_bind_error _ henqueue]
    | ok stored =>
      obtain ⟨id, st⟩ := stored
      rw [hstored] at henqueue
      obtain ⟨-, -, -, -, rfl⟩ := Store.enqueueCommand_ok hstored
      obtain ⟨s₂, hstored₂, hreading, hroutes, hobjects⟩ : ∃ s₂ : Ticking T,
          (call (.enqueueCommand sid send.commandType send.payload.orEmpty send.actorResourceId)).run
            (timed py tm) ⟨s.reading + 1, s.ready tm⟩ = (.ok id, s₂) ∧ s₂.reading = s.reading + 2 ∧
          (∀ t, s₂.world.store.getRoute t sid = s.world.store.getRoute t sid) ∧
          s₂.world.objects = s.world.objects := ⟨_, henqueue, rfl, fun _ => rfl, rfl⟩
      have hcelld := run_celldForRoute_unserved py tm (s := s₂) fun t route hroute =>
        hobjects ▸ hunserved t route ((hroutes t).symm.trans hroute)
      rw [hreading, hroutes] at hcelld
      rw [Prog.run_bind_ok _ hstored₂, Prog.run_bind_error _ hcelld]

/-- **A command** for a session of the tenant. -/
theorem SameTenant.sendCommand (h : SameTenant py names w w' tenantId)
    (hsame : SameSession py names w w' sid) (hn : Numbered py w) (hn' : Numbered py w')
    (status : ℕ) (send : Send) :
    ∃ names', names ≤ names' ∧ SameResponse py names' w w'
      (((send.code py sid).run (timed py tm) ⟨0, w⟩).1.map fun sent => ⟨status, .sent sent⟩)
      (((send.code py sid).run (timed py tm) ⟨0, w'⟩).1.map fun sent => ⟨status, .sent sent⟩) := by
  cases hserver : w.server sid with
  | some c =>
    have hend := likewise_sendCommand (punctual_timed py tm) (hsame.service c hserver).jwt send _ _
      (h.along hsame hserver hn hn')
    generalize (send.code py sid).run (timed py tm) ⟨0, w⟩ = x at hend ⊢
    generalize (send.code py sid).run (timed py tm) ⟨0, w'⟩ = y at hend ⊢
    cases hend with
    | ok hq =>
      obtain ⟨names', hle, hsent, -⟩ := hq
      exact ⟨names', hle, .returned status (.sent hsent)⟩
    | error e => exact ⟨names, le_refl _, .raised e⟩
  | none =>
    have hunserved : w.Unserved sid := fun t route hroute =>
      (World.server_of_route hroute).symm.trans hserver
    have hunserved' : w'.Unserved sid := fun t route hroute =>
      h.objects ▸ hunserved t route ((hsame.route t).symm.trans hroute)
    have hstored := hsame.enqueueCommand (tm.now (0 + 1)) send.commandType send.payload.orEmpty
      send.actorResourceId
    rw [run_sendCommand_unserved py tm (s := ⟨0, w⟩) hunserved,
      run_sendCommand_unserved py tm (s := ⟨0, w'⟩) hunserved', hsame.route, hsame.route]
    refine ⟨names, le_refl _, ?_⟩
    cases w.store.getRoute (tm.now 0) sid with
    | none => exact .raised _
    | some route =>
      dsimp only
      generalize w.store.enqueueCommand (tm.now (0 + 1)) sid send.commandType send.payload.orEmpty
        send.actorResourceId = x at hstored ⊢
      generalize w'.store.enqueueCommand (tm.now (0 + 1)) sid send.commandType send.payload.orEmpty
        send.actorResourceId = y at hstored ⊢
      cases x with
      | error e =>
        cases y with
        | error e' =>
          obtain rfl := Except.error.inj hstored
          exact .raised _
        | ok b => cases hstored
      | ok a =>
        cases y with
        | error e' => cases hstored
        | ok b => exact .raised _

omit [IsStrictOrderedRing T] [FloorRing T] in
/-- **A look at the log** of a session of the tenant. -/
theorem SameSession.getSessionEvents (hsame : SameSession py names w w' sid) (hn : Numbered py w)
    (hn' : Numbered py w') (status : ℕ) :
    SameResponse py names w w'
      (((Gateway.getSessionEvents sid 0).run (timed py tm) ⟨0, w⟩).1.map
        fun rows => ⟨status, .events rows⟩)
      (((Gateway.getSessionEvents sid 0).run (timed py tm) ⟨0, w'⟩).1.map
        fun rows => ⟨status, .events rows⟩) := by
  rw [run_getSessionEvents, run_getSessionEvents, hsame.route]
  dsimp only
  cases w.store.getRoute (tm.now 0) sid with
  | none => exact .raised _
  | some route =>
    exact .returned status (.events (hsame.getEvents hn.contiguous hn'.contiguous 0))

end Sessions

/-! ## Requests of a tenant -/

section Requests

variable [Field T] [LinearOrder T] [IsStrictOrderedRing T] [FloorRing T]

omit [IsStrictOrderedRing T] [FloorRing T] in
/-- Any threads keep logs numbered and claim tokens drawn. -/
theorem reach_numbered {ι α : Type} [DecidableEq ι] {py : Py} {clock : T} {files : Files}
    {programs : ι → Code T α} {cfg : Threads ι T α}
    (hr : Reach (processes ι py) (.start programs (World.init clock files)) cfg) :
    Numbered py cfg.point.state := by
  refine hr.point_invariant (P := fun p => Numbered py p.state) ?_
    (fun p i d h _ => exec_numbered d h) fun p w' h henv => ?_
  · exact ⟨Store.contiguous_init, fun _ h => nomatch h⟩
  · obtain ⟨hstore, hdrawn⟩ : w'.store = p.state.store ∧ w'.drawn = p.state.drawn := henv
    refine ⟨hstore ▸ h.contiguous, ?_⟩
    show w'.ClaimsDrawn py
    unfold World.ClaimsDrawn
    rw [hstore, hdrawn]
    exact h.claims

variable (http : HttpPy) (tm : Timing T) {names : Names} {w w' : World T} {tenantId : String}

/-- What a database keeps for its requests: ids drawn are new, and logs are numbered. -/
structure World.Kept (py : Py) (w : World T) : Prop where
  sound : w.Sound py
  numbered : Numbered py w
  channelIds : ∀ row ∈ w.store.channels, ∀ n, w.drawn .channel ≤ n → row.id ≠ py.uuid4 .channel n

omit [IsStrictOrderedRing T] [FloorRing T] in
theorem reach_kept {ι α : Type} [DecidableEq ι] {py : Py} {clock : T} {files : Files}
    {programs : ι → Code T α} {cfg : Threads ι T α}
    (hr : Reach (processes ι py) (.start programs (World.init clock files)) cfg) :
    cfg.point.state.Kept py :=
  ⟨reach_sound hr, reach_numbered hr, reach_channelIds hr⟩

omit [Field T] [IsStrictOrderedRing T] [FloorRing T] in
/-- A session that is found is the tenant's and the same, or it is found in neither. -/
theorem SameTenant.found {py : Py} {t : T} {sid : String} (h : SameTenant py names w w' tenantId)
    (hfinds : (w.store.getRoute t sid).isSome = true → w.store.tenantOf sid = some tenantId)
    (hfinds' : (w'.store.getRoute t sid).isSome = true → w'.store.tenantOf sid = some tenantId) :
    SameSession py names w w' sid ∨
      w.store.getRoute t sid = none ∧ w'.store.getRoute t sid = none := by
  cases hroute : w.store.getRoute t sid with
  | some route => exact .inl (h.sessions sid (.inl (hfinds (hroute ▸ rfl))))
  | none =>
    cases hroute' : w'.store.getRoute t sid with
    | some route => exact .inl (h.sessions sid (.inr (hfinds' (hroute' ▸ rfl))))
    | none => exact .inr ⟨rfl, rfl⟩

/-- A command for a session without a route is refused, whatever it carries. -/
theorem run_sendValues_unrouted {s : Ticking T} {sid : String} (commandType payload actor : Json)
    (hroute : s.world.store.getRoute (tm.now s.reading) sid = none) :
    ((Gateway.sendValues http sid commandType payload actor).run (timed http.toPy tm) s).1 =
      .error (.keyError ("no active route for session " ++ sid)) := by
  have hrun := run_route http.toPy tm sid (s := s)
  rw [hroute] at hrun
  unfold Gateway.sendValues
  split
  · unfold Gateway.sendCommand
    simp only [Prog.bind_eq]
    rw [Prog.run_bind_error _ hrun]
  · simp only [Prog.bind_eq]
    rw [Prog.run_bind_error _ hrun]

/-- A command of any kind for a session of the tenant. -/
theorem SameTenant.sendValues {sid : String} (h : SameTenant http.toPy names w w' tenantId)
    (hsame : SameSession http.toPy names w w' sid) (hn : Numbered http.toPy w)
    (hn' : Numbered http.toPy w') (status : ℕ) (commandType payload actor : Json) :
    ∃ names', names ≤ names' ∧ SameResponse http.toPy names' w w'
      (((Gateway.sendValues http sid commandType payload actor).run (timed http.toPy tm) ⟨0, w⟩).1.map
        fun sent => ⟨status, .sent sent⟩)
      (((Gateway.sendValues http sid commandType payload actor).run (timed http.toPy tm) ⟨0, w'⟩).1.map
        fun sent => ⟨status, .sent sent⟩) := by
  unfold Gateway.sendValues
  cases bindCommand http commandType payload actor with
  | ok values => exact h.sendCommand tm hsame hn hn' status ⟨values.1, payload, values.2⟩
  | error e =>
    refine ⟨names, le_refl _, ?_⟩
    simp only [Prog.bind_eq, Prog.run_bind, run_route, hsame.route]
    cases w.store.getRoute (tm.now 0) sid <;> exact .raised _

omit [Field T] [IsStrictOrderedRing T] [FloorRing T] in
/-- The session of a channel that is found is the tenant's, so the channel is the same. -/
theorem SameTenant.knows {py : Py} {key : String × String × String}
    (h : SameTenant py names w w' tenantId)
    (hfinds : ∀ row, w.store.channels.find? key = some row →
      w.store.tenantOf row.sessionId = some tenantId)
    (hfinds' : ∀ row, w'.store.channels.find? key = some row →
      w'.store.tenantOf row.sessionId = some tenantId) :
    w'.store.channels.find? key = w.store.channels.find? key := by
  refine Option.ext fun row => ?_
  constructor
  · exact fun hrow => ((h.channels key row).mp ⟨hrow, hfinds' row hrow⟩).1
  · exact fun hrow => ((h.channels key row).mpr ⟨hrow, hfinds row hrow⟩).1

/-- **Each action is answered alike** where the sessions it finds are the tenant's. -/
theorem SameTenant.perform (h : SameTenant http.toPy names w w' tenantId) (hw : w.Kept http.toPy)
    (hw' : w'.Kept http.toPy) (action : Action)
    (hkeeps : action.KeepsTo tenantId (tm.now 0) w w') :
    ∃ names', names ≤ names' ∧ SameResponse http.toPy names' w w'
      ((action.perform http).run (timed http.toPy tm) ⟨0, w⟩).1
      ((action.perform http).run (timed http.toPy tm) ⟨0, w'⟩).1 := by
  have hwrap : ∀ {α : Type} (p : Code T α) (f : α → Response T) (s : Ticking T),
      ((p.bind fun a => .pure (f a)).run (timed http.toPy tm) s).1 =
        (p.run (timed http.toPy tm) s).1.map f := fun p f s => Prog.fst_run_bind_pure _ p f s
  cases action with
  | respond status error =>
    refine ⟨names, le_refl _, ?_⟩
    cases error with
    | none => exact .returned status .ok
    | some message => exact .returned status (.error message)
  | createSession status tenant metadata =>
    refine ⟨names, le_refl _, ?_⟩
    simp only [Action.perform, Prog.bind_eq, Prog.pure_eq]
    rw [hwrap, hwrap, createSession_answer _ tm hw.sound, createSession_answer _ tm hw'.sound,
      hkeeps.vacancy trivial]
    cases w.vacancy with
    | error e => exact .raised e
    | ok place => exact .returned status (.created place.1 place.2)
  | channelSession status request =>
    refine ⟨names, le_refl _, ?_⟩
    simp only [Action.perform, Prog.bind_eq, Prog.pure_eq]
    rw [hwrap, hwrap, channelSession_answer _ tm hw.sound hw.channelIds,
      channelSession_answer _ tm hw'.sound hw'.channelIds, hkeeps.vacancy trivial]
    cases hvacancy : w.vacancy with
    | error e => exact .raised e
    | ok place =>
      -- the candidate is placed, so the row of the channel is looked up in both
      have hplaces : ∀ v : World T, v.vacancy = .ok place → ¬ v.PlacementFails := by
        intro v hv
        rw [World.placementFails_iff, hv]
        exact nofun
      have hknows : w'.store.channels.find? request.key = w.store.channels.find? request.key :=
        h.knows (fun row hrow => hkeeps.finds _ ⟨hplaces w hvacancy, row, hrow, rfl⟩)
          fun row hrow => hkeeps.finds' _
            ⟨hplaces w' ((hkeeps.vacancy trivial).trans hvacancy), row, hrow, rfl⟩
      rw [hknows]
      cases w.store.channels.find? request.key with
      | none => exact .returned status .joined
      | some row => exact .returned status (.known ⟨row.sessionId, row.id, false⟩)
  | sendCommand status sid commandType payload actor =>
    simp only [Action.perform, Prog.bind_eq, Prog.pure_eq]
    rw [hwrap, hwrap]
    rcases h.found (fun hroute => hkeeps.finds sid ⟨rfl, hroute⟩)
      (fun hroute => hkeeps.finds' sid ⟨rfl, hroute⟩) with hsame | ⟨hnone, hnone'⟩
    · exact h.sendValues http tm hsame hw.numbered hw'.numbered status commandType payload actor
    · -- there is no route to it in either
      rw [run_sendValues_unrouted http tm _ _ _ (s := ⟨0, w⟩) hnone,
        run_sendValues_unrouted http tm _ _ _ (s := ⟨0, w'⟩) hnone']
      exact ⟨names, le_refl _, .raised _⟩
  | getSessionEvents status sid =>
    simp only [Action.perform, Prog.bind_eq, Prog.pure_eq]
    rw [hwrap, hwrap]
    refine ⟨names, le_refl _, ?_⟩
    rcases h.found (fun hroute => hkeeps.finds sid ⟨rfl, hroute⟩)
      (fun hroute => hkeeps.finds' sid ⟨rfl, hroute⟩) with hsame | ⟨hnone, hnone'⟩
    · exact hsame.getSessionEvents tm hw.numbered hw'.numbered status
    · rw [run_getSessionEvents, run_getSessionEvents]
      dsimp only
      rw [hnone, hnone']
      exact .raised _

/-- **Tenant isolation.** Over any database that threads of any processes may have left, a
request stays among the sessions of its server's tenant if and only if each session it comes
upon is one of them. Over two such databases that hold the same of the tenant, it gets the
same response if it keeps to the tenant in both. -/
theorem tenant_isolated {ι ι' α α' : Type} [DecidableEq ι] [DecidableEq ι'] {clock clock' : T}
    {files files' : Files} {programs : ι → Code T α} {programs' : ι' → Code T α'}
    {cfg : Threads ι T α} {cfg' : Threads ι' T α'}
    (hr : Reach (processes ι http.toPy) (.start programs (World.init clock files)) cfg)
    (hr' : Reach (processes ι' http.toPy) (.start programs' (World.init clock' files')) cfg')
    (h : NadiHandler) (req : HttpRequest) :
    let w := cfg.point.state
    let w' := cfg'.point.state
    let served := (h.handle http req).run (timed http.toPy tm) ⟨0, w⟩
    let served' := (h.handle http req).run (timed http.toPy tm) ⟨0, w'⟩
    (Isolated h.tenantId (w.fresh http.toPy .session) served.1 w.store served.2.world.store ↔
      ∀ action, h.action http req = .ok action →
        ∀ sid, action.Reaches http w (tm.now 0) sid →
          w.store.tenantOf sid = some h.tenantId) ∧
    ∀ names, SameTenant http.toPy names w w' h.tenantId →
      (∀ action, h.action http req = .ok action →
        action.KeepsTo h.tenantId (tm.now 0) w w') →
      ∃ names', names ≤ names' ∧ SameResponse http.toPy names' w w' served.1 served'.1 := by
  intro w w' served served'
  refine ⟨tenant_isolated_iff http tm hr h req, fun names hsame hkeeps => ?_⟩
  cases haction : h.action http req with
  | error e =>
    have hserved : ∀ v : World T, ((h.handle http req).run (timed http.toPy tm) ⟨0, v⟩).1 =
        .error e := by
      intro v
      show (((Prog.ofExcept (h.action http req)).bind _).run _ _).1 = _
      rw [haction]
      rfl
    refine ⟨names, le_refl _, ?_⟩
    rw [show served.1 = .error e from hserved w, show served'.1 = .error e from hserved w']
    exact .raised e
  | ok action =>
    have hserved : ∀ v : World T, (h.handle http req).run (timed http.toPy tm) ⟨0, v⟩ =
        (action.perform http).run (timed http.toPy tm) ⟨0, v⟩ := by
      intro v
      show ((Prog.ofExcept (h.action http req)).bind _).run _ _ = _
      rw [haction]
      rfl
    have hsame' := hsame.perform http tm (reach_kept hr) (reach_kept hr') action
      (hkeeps action haction)
    rw [← hserved w, ← hserved w'] at hsame'
    exact hsame'

end Requests

/-! ## Samples -/

/-- The local stack of a tenant, with a session of another one, which has got a command. -/
def sharedStack : Code ℚ Unit := do
  tenantStack
  let _ ← Gateway.createSession Py.sample "tenant-B" .null
  let _ ← Gateway.sendCommand Py.sample "s1" "echo" .empty none

/-- A stack with one slot. -/
def smallStack : Code ℚ Unit := do
  let _ ← Broker.registerCellHost "cell-local" "local" "inproc://cell" 1
    (.celld (localCelld [])) (some (localCelld []))

/-- The slot is taken by another tenant. -/
def fullStack : Code ℚ Unit := do
  smallStack
  let _ ← Gateway.createSession Py.sample "tenant-B" .null

/-- What one thread leaves. -/
def leftBy (program : Code ℚ Unit) : Threads Unit ℚ Unit :=
  execute (exec Py.sample) (List.replicate 60 ())
    (.start (fun _ => program) (World.init 0 Sample.files))

theorem leftBy_reach (program : Code ℚ Unit) :
    Reach (processes Unit Py.sample) (.start (fun _ => program) (World.init 0 Sample.files))
      (leftBy program) :=
  reach_execute (S := processes Unit Py.sample) (fun _ _ _ => trivial) _ _

/-- A server of a tenant over that database. -/
def servedOn (program : Code ℚ Unit) (tenantId : String) (req : HttpRequest) :
    Except PyErr (Response ℚ) × Ticking ℚ :=
  ((NadiHandler.mk none tenantId).handle HttpPy.sample req).run
    (timed Py.sample (.still 1 Sample.files)) ⟨0, (leftBy program).point.state⟩

/-- The number of a command that a response carries. -/
def Reply.commandId : Reply T → Option ℕ
  | .sent s => some s.commandId
  | _ => none

/-- What the two databases have numbered for the first tenant. -/
def tenantNames : Names := ⟨.below 1, .below 2, .below 1⟩

/-- The session of the first tenant is the same on both. -/
theorem sharedStack_sameSession :
    SameSession Py.sample tenantNames (leftBy tenantStack).point.state
      (leftBy sharedStack).point.state "s" where
  row := by with_unfolding_all rfl
  lease := by with_unfolding_all rfl
  log := by
    have hlog : (leftBy sharedStack).point.state.store.eventsOf "s" =
      (leftBy tenantStack).point.state.store.eventsOf "s" := by with_unfolding_all rfl
    have hids : ∀ id ∈ ((leftBy tenantStack).point.state.store.eventsOf "s").map EventRow.id,
        id < 2 := by decide +kernel
    rw [hlog]
    exact List.forall₂_same.mpr fun ev hev =>
      ⟨⟨hids _ (List.mem_map_of_mem hev), rfl⟩, .same _ _, rfl⟩
  inbox := by
    have hnone : (leftBy tenantStack).point.state.store.inboxOf "s" = [] :=
      List.eq_nil_of_length_eq_zero (by decide +kernel)
    have hnone' : (leftBy sharedStack).point.state.store.inboxOf "s" = [] :=
      List.eq_nil_of_length_eq_zero (by decide +kernel)
    rw [hnone, hnone']
    exact .nil
  route t := by with_unfolding_all rfl
  service c hserver := by
    have hlocal : (leftBy tenantStack).point.state.server "s" = some (localCelld []) := by
      decide +kernel
    obtain rfl := Option.some.inj (hlocal.symm.trans hserver)
    have hcell : (leftBy tenantStack).point.state.cells (localCelld []).ref "s" =
      some ⟨0, "s", (localCelld []).tokenOf Py.sample "s" 0 0⟩ := by with_unfolding_all rfl
    have hcell' : (leftBy sharedStack).point.state.cells (localCelld []).ref "s" =
      some ⟨0, "s", (localCelld []).tokenOf Py.sample "s" 0 0⟩ := by with_unfolding_all rfl
    have hstarted : ∀ {state : CellState}, state.messages.isEmpty = true ∧
        state.tools.isEmpty = true ∧ state.started = true → state = ⟨[], [], true⟩ := by
      rintro ⟨messages, tools, started⟩ ⟨hmessages, htools, hstarted⟩
      obtain rfl := List.isEmpty_iff.mp hmessages
      obtain rfl := List.isEmpty_iff.mp htools
      exact congrArg (CellState.mk [] []) hstarted
    have hstate : (leftBy sharedStack).point.state.heap 0 =
        (leftBy tenantStack).point.state.heap 0 :=
      (hstarted (by decide +kernel)).trans (hstarted (by decide +kernel)).symm
    refine ⟨rfl, ?_, fun cell cell' k k' t _ _ _ _ => ?_⟩
    · rw [hcell, hcell']
      exact .some ⟨rfl, ⟨0, 0, 0, rfl, rfl, Nat.zero_lt_one, rfl⟩, hstate, by decide +kernel,
        by decide +kernel⟩
    · -- nothing has been revoked
      with_unfolding_all rfl

/-- So is all that the tenant has. -/
theorem sharedStack_sameTenant :
    SameTenant Py.sample tenantNames (leftBy tenantStack).point.state
      (leftBy sharedStack).point.state "tenant-A" where
  objects := by with_unfolding_all rfl
  sessions sid hsid := by
    have hone : ∀ {w : World ℚ}, (∀ pair ∈ w.store.sessions.rows.map fun row =>
        (row.id, row.tenantId), pair.2 = "tenant-A" → pair.1 = "s") →
        w.store.tenantOf sid = some "tenant-A" → sid = "s" := by
      intro w hrows htenant
      obtain ⟨row, hrow, hname⟩ := Option.map_eq_some_iff.mp htenant
      obtain ⟨hmem, hid⟩ := Data.Table.find?_eq_some.mp hrow
      exact hid.symm.trans (hrows _ (List.mem_map_of_mem hmem) hname)
    have hs : sid = "s" := hsid.elim (hone (by decide +kernel)) (hone (by decide +kernel))
    rw [hs]
    exact sharedStack_sameSession
  channels key row := by
    have hnone : ∀ {w : World ℚ}, w.store.channels.rows = [] → ¬ w.Knows "tenant-A" key row := by
      intro w hrows hknows
      have hmem := (Data.Table.find?_eq_some.mp hknows.1).1
      change row ∈ w.store.channels.rows at hmem
      rw [hrows] at hmem
      cases hmem
    exact iff_of_false (hnone (List.eq_nil_of_length_eq_zero (by decide +kernel)))
      (hnone (List.eq_nil_of_length_eq_zero (by decide +kernel)))
  bounded := ⟨(Data.Renaming.bounded_below 1).mono (by decide +kernel) (by decide +kernel),
    (Data.Renaming.bounded_below 2).mono (by decide +kernel) (by decide +kernel),
    (Data.Renaming.bounded_below 1).mono (by decide +kernel) (by decide +kernel)⟩
  unspent k _ := by with_unfolding_all rfl
  unspent' k _ := by with_unfolding_all rfl

/-- **What tenants share.** A client of another tenant reads the log of a session and has
a command executed there. A command of the tenant gets another number beside a session of
another tenant, though all that the tenant has is the same; and a new session is not
placed where that of another tenant has the slot. -/
theorem other_tenant_served :
    let w := (leftBy tenantStack).point.state
    let read := servedOn tenantStack "tenant-B" (getRequest "/sessions/s/events")
    let sent := servedOn tenantStack "tenant-B" (postRequest "/sessions/s/commands")
    let numbered := fun program =>
      (servedOn program "tenant-A" (postRequest "/sessions/s/commands")).1.map
        fun response => (response.status, response.body.commandId)
    let created := fun program =>
      (servedOn program "tenant-A" (postRequest "/sessions")).1.map Response.status
    (w.store.tenantOf "s" = some "tenant-A" ∧
      read.1.toOption.map (fun r => (r.status, r.body.sessions)) = some (200, ["s"]) ∧
      sent.1.toOption.map (fun r => (r.status, r.body.sessions)) = some (202, ["s"]) ∧
      (w.store.inboxOf "s").length = 0 ∧ (sent.2.world.store.inboxOf "s").length = 1 ∧
      ¬ Isolated "tenant-B" (w.fresh Py.sample .session) read.1 w.store read.2.world.store) ∧
    (SameTenant Py.sample tenantNames w (leftBy sharedStack).point.state "tenant-A" ∧
      numbered tenantStack = .ok (202, some 1) ∧ numbered sharedStack = .ok (202, some 2)) ∧
    created smallStack = .ok 201 ∧
      created fullStack = .error (.runtimeError "no cell host has available capacity") := by
  intro w read sent numbered created
  have hread : read.1.toOption.map (fun r => (r.status, r.body.sessions)) = some (200, ["s"]) := by
    decide +kernel
  have htenant : read.2.world.store.tenantOf "s" = some "tenant-A" := by decide +kernel
  refine ⟨⟨by decide +kernel, hread, by decide +kernel, by decide +kernel, by decide +kernel,
    fun h => ?_⟩, ⟨sharedStack_sameTenant, by decide +kernel, by decide +kernel⟩,
    by decide +kernel, by decide +kernel⟩
  obtain ⟨response, hresponse, hbody⟩ := Option.map_eq_some_iff.mp hread
  have hok : read.1 = .ok response := by
    cases hr : read.1 with
    | error e =>
      rw [hr] at hresponse
      cases hresponse
    | ok response' =>
      rw [hr] at hresponse
      exact congrArg Except.ok (Option.some.inj hresponse)
  have hmem : "s" ∈ response.body.sessions := by
    rw [(Prod.mk.inj hbody).2]
    exact List.mem_singleton_self _
  exact absurd (htenant.symm.trans (h.returned response hok "s" hmem)) (by decide)

/-- A command of the tenant stays at its session and is answered alike beside the session
of the other one. The log is not for the other one. -/
theorem tenant_isolated_sample :
    let w := (leftBy tenantStack).point.state
    let w' := (leftBy sharedStack).point.state
    let served := fun program => servedOn program "tenant-A" (postRequest "/sessions/s/commands")
    let read := servedOn tenantStack "tenant-B" (getRequest "/sessions/s/events")
    (Isolated "tenant-A" (w.fresh Py.sample .session) (served tenantStack).1 w.store
        (served tenantStack).2.world.store ∧
      ∃ names, tenantNames ≤ names ∧
        SameResponse Py.sample names w w' (served tenantStack).1 (served sharedStack).1) ∧
    ¬ Isolated "tenant-B" (w.fresh Py.sample .session) read.1 w.store read.2.world.store := by
  intro w w' served read
  have hboth := fun tenantId req => tenant_isolated HttpPy.sample (.still 1 Sample.files)
    (leftBy_reach tenantStack) (leftBy_reach sharedStack) ⟨none, tenantId⟩ req
  have htenant : w.store.tenantOf "s" = some "tenant-A" := by decide +kernel
  have htenant' : w'.store.tenantOf "s" = some "tenant-A" := by decide +kernel
  have haction : (NadiHandler.mk none "tenant-A").action HttpPy.sample
      (postRequest "/sessions/s/commands") =
        .ok (.sendCommand 202 "s" (.str "echo") .empty .null) := rfl
  refine ⟨⟨?_, ?_⟩, fun h => ?_⟩
  · refine (hboth "tenant-A" (postRequest "/sessions/s/commands")).1.mpr fun action heq sid hreach => ?_
    obtain rfl := Except.ok.inj (haction.symm.trans heq)
    obtain ⟨rfl, -⟩ := hreach
    exact htenant
  · refine (hboth "tenant-A" (postRequest "/sessions/s/commands")).2 tenantNames
      sharedStack_sameTenant fun action heq => ?_
    obtain rfl := Except.ok.inj (haction.symm.trans heq)
    exact ⟨fun sid hfinds => hfinds.1 ▸ htenant, fun sid hfinds => hfinds.1 ▸ htenant',
      fun h => h.elim⟩
  · have hevents : (w.store.getEvents "s" 0).isEmpty = false := by decide +kernel
    have hreach := (hboth "tenant-B" (getRequest "/sessions/s/events")).1.mp h
      (.getSessionEvents 200 "s") rfl "s"
      ⟨rfl, by decide +kernel, fun hnil => by rw [hnil] at hevents; cases hevents⟩
    exact absurd (htenant.symm.trans hreach) (by decide)

end Nadi
