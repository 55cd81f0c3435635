import Mathlib.Data.Rat.Floor
import Nadi.GatewayRuns
import Nadi.Model.Http
import Nadi.Model.Sample

/-!
# Tenants over one store

A server pins the tenant of the sessions it creates (server.py:35–37), but looks
a route, an inbox, a log or a channel up without it. Whether a request stays
among the sessions of its tenant depends on nothing else than whose session it
names: `tenant_isolated_iff` says when it does, for every request on every store
that any threads of any processes may have left.
-/

namespace Nadi

open Effect

variable {T : Type}

/-- The sessions whose id or events a response carries. -/
def Reply.sessions : Reply T → List String
  | .ok => []
  | .error _ => []
  | .created c => [c.sessionId, c.route.sessionId]
  | .channel s => [s.sessionId]
  | .sent s => s.events.map Event.sessionId
  | .events rows => rows.map EventRow.sessionId

/-- A request of a tenant that has led from one store to another stays among the
tenant's sessions; `candidate` is the session it may itself create. -/
structure Isolated (tenant candidate : String) (outcome : Except PyErr (Response T))
    (st st' : Store T) : Prop where
  returned : ∀ response, outcome = .ok response → ∀ sid ∈ response.body.sessions,
    st'.tenantOf sid = some tenant
  changed : ∀ sid, sid ≠ candidate →
    (st'.inboxOf sid ≠ st.inboxOf sid ∨ st'.eventsOf sid ≠ st.eventsOf sid ∨
      st'.statusOf sid ≠ st.statusOf sid) → st'.tenantOf sid = some tenant

namespace Isolated

variable {tenant candidate : String} {outcome : Except PyErr (Response T)} {st st' : Store T}

/-- A request that returns nothing of a session and leaves all but its candidate
as they are. -/
theorem of_untouched (hreturned : ∀ response, outcome = .ok response →
      ∀ sid ∈ response.body.sessions, st'.tenantOf sid = some tenant)
    (huntouched : ∀ sid, sid ≠ candidate → st.Untouched sid st') :
    Isolated tenant candidate outcome st st' := by
  refine ⟨hreturned, fun sid hne hchanged => ?_⟩
  have hsame := huntouched sid hne
  rcases hchanged with h | h | h
  · exact absurd hsame.inbox h
  · exact absurd hsame.log h
  · exact absurd hsame.status h

end Isolated

/-! ## What a request reaches -/

/-- The sessions, apart from a candidate, that an action comes upon which starts
at the time `t`: the session of a channel that is known already, if the candidate
can be placed; the session a command is taken for; the session whose log is not
empty and can be read. -/
def Action.Reaches [LinearOrder T] (http : HttpPy) (w : World T) (t : T) :
    Action → String → Prop
  | .respond .., _ => False
  | .createSession .., _ => False
  | .channelSession _ request, sid =>
    ¬ w.PlacementFails ∧ ∃ row, w.store.channels.find? request.key = some row ∧
      row.sessionId = sid
  | .sendCommand _ sessionId commandType payload actor, sid =>
    sid = sessionId ∧ (∃ values, bindCommand http commandType payload actor = .ok values) ∧
      w.store.Admits t sid
  | .getSessionEvents _ sessionId, sid =>
    sid = sessionId ∧ (w.store.getRoute t sid).isSome = true ∧ w.store.getEvents sid 0 ≠ []

/-! ## Requests one by one -/

section Runs

variable [Field T] [LinearOrder T] [IsStrictOrderedRing T] [FloorRing T] (py : Py)
  (tm : Timing T) {s : Ticking T} {sid : String}

/-- **`POST /sessions`** touches its candidate only, and returns it. -/
theorem createSession_isolated (hsound : s.world.Sound py) (status : ℕ) (tenantId : String)
    (metadata : Json) {r : Except PyErr Created} {s' : Ticking T}
    (hrun : (Gateway.createSession py tenantId metadata).run (timed py tm) s = (r, s')) :
    Isolated tenantId (s.world.fresh py .session) (r.map fun c => ⟨status, .created c⟩)
      s.world.store s'.world.store := by
  obtain ⟨s₁, hcreate, -, -, hpending⟩ := run_newCandidate py tm tenantId metadata.orEmpty
    fun row hrow => hsound.sessionIds row hrow _ (Nat.le_refl _)
  obtain ⟨htenant, huntouched⟩ := run_createSession_tenant py tm hcreate
  unfold Gateway.createSession at hrun
  simp only [Prog.bind_eq] at hrun
  rw [Prog.run_bind_ok _ hcreate] at hrun
  rcases hplace : (Broker.placeSession py (s.world.fresh py .session)).run (timed py tm) s₁
    with ⟨e | placement, s₂⟩
  · obtain ⟨-, hrest⟩ := placeSession_tenant py tm htenant
      (Store.hasSession_of_statusOf hpending) hplace
    rw [Prog.run_bind_error _ hplace] at hrun
    obtain ⟨rfl, rfl⟩ := Prod.mk.inj hrun
    exact .of_untouched (fun _ h => by cases h)
      fun sid' hne => (huntouched sid' hne).trans (hrest sid' hne)
  · obtain ⟨htenant', hrest⟩ := placeSession_tenant py tm htenant
      (Store.hasSession_of_statusOf hpending) hplace
    have hsid : placement.sessionId = s.world.fresh py .session :=
      (placeSession_answers py _).returned (congrArg Prod.fst hplace)
    rw [Prog.run_bind_ok _ hplace] at hrun
    obtain ⟨rfl, rfl⟩ := Prod.mk.inj hrun
    refine .of_untouched (fun response h sid' hsid' => ?_)
      fun sid' hne => (huntouched sid' hne).trans (hrest sid' hne)
    cases h
    have heq : sid' = s.world.fresh py .session := by
      simpa [Reply.sessions, hsid] using hsid'
    rw [heq]
    exact htenant'

/-- **`POST /channels`** stays among the sessions of its tenant if and only if the
channel is new, or its session is the tenant's, or no candidate can be placed. -/
theorem channelSession_isolated (hsound : s.world.Sound py) (status : ℕ)
    (request : ChannelRequest) {r : Except PyErr ChannelSession} {s' : Ticking T}
    (hrun : (request.run py).run (timed py tm) s = (r, s')) :
    Isolated request.tenantId (s.world.fresh py .session)
        (r.map fun session => ⟨status, .channel session⟩) s.world.store s'.world.store ↔
      (¬ s.world.PlacementFails → ∀ row, s.world.store.channels.find? request.key = some row →
        s.world.store.tenantOf row.sessionId = some request.tenantId) := by
  obtain ⟨s₁, hcall, htenant, hses, huntouched, -, -⟩ := run_candidate py tm hsound request
  -- the rest of the call is about the candidate
  have huntouched' : ∀ sid' ≠ s.world.fresh py .session,
      s.world.store.Untouched sid' s'.world.store := by
    intro sid' hne
    have hlater := run_untouched py tm (s := s₁)
      (guarded_about py request (request.initiator py s.world) (s.world.fresh py .session))
      (fun _ _ h => h.elim) hne
    rw [← hcall, hrun] at hlater
    exact (huntouched sid' hne).trans hlater
  have htenant' : s'.world.store.tenantOf (s.world.fresh py .session) = some request.tenantId := by
    have hlater := run_tenantOf py tm (s := s₁)
      (request.guarded py (request.initiator py s.world) (s.world.fresh py .session)) hses
    rw [← hcall, hrun] at hlater
    exact hlater.trans htenant
  -- so all depends on the session that is returned
  have hiff : Isolated request.tenantId (s.world.fresh py .session)
      (r.map fun session => (⟨status, .channel session⟩ : Response T)) s.world.store
      s'.world.store ↔ ∀ session, r = .ok session →
        s'.world.store.tenantOf session.sessionId = some request.tenantId := by
    constructor
    · rintro h session rfl
      exact h.returned _ rfl _ List.mem_cons_self
    · refine fun h => .of_untouched (fun response hresponse sid' hsid' => ?_) huntouched'
      cases r with
      | error e => cases hresponse
      | ok session =>
        cases hresponse
        rw [List.mem_singleton.mp hsid']
        exact h session rfl
  have hreturns := request_returns py tm hsound request hrun
  rw [hiff]
  cases hfind : s.world.store.channels.find? request.key with
  | none =>
    rw [hfind] at hreturns
    refine ⟨fun _ _ _ h => (nomatch h), fun _ session hsession => ?_⟩
    rw [hreturns session hsession]
    exact htenant'
  | some row =>
    rw [hfind] at hreturns
    obtain ⟨hsid, hplaced⟩ := hreturns
    -- the session of the channel is not the candidate
    have hne := hsound.channel_ne_fresh hfind
    have hsame := (huntouched' _ hne).tenant
    constructor
    · intro h hplace row' hrow'
      obtain rfl := Option.some.inj hrow'
      obtain ⟨session, hsession⟩ := hplaced.mpr hplace
      rw [← hsame, ← hsid session hsession]
      exact h session hsession
    · intro h session hsession
      rw [hsid session hsession, hsame]
      exact h (hplaced.mp ⟨session, hsession⟩) row rfl

/-! ## `POST /sessions/{id}/commands` and `GET /sessions/{id}/events` -/

/-- **A command** stays among the sessions of its tenant if and only if it is for
one of them, or the store does not take it. -/
theorem sendCommand_isolated (hsound : s.world.Sound py) (status : ℕ) (tenantId : String)
    (commandType : String) (payload : Json) (actor : Option String) {r : Except PyErr Sent}
    {s' : Ticking T}
    (hrun : (Gateway.sendCommand py sid commandType payload actor).run (timed py tm) s = (r, s')) :
    Isolated tenantId (s.world.fresh py .session) (r.map fun sent => ⟨status, .sent sent⟩)
        s.world.store s'.world.store ↔
      (s.world.store.Admits (tm.now s.reading) sid →
        s.world.store.tenantOf sid = some tenantId) := by
  by_cases hadmits : s.world.store.Admits (tm.now s.reading) sid
  case neg =>
    obtain ⟨e, s₂, hsend, hstore⟩ := sendCommand_refused py tm commandType payload actor hadmits
    obtain ⟨rfl, rfl⟩ := Prod.mk.inj (hrun.symm.trans hsend)
    refine ⟨fun _ h => absurd h hadmits, fun _ => ?_⟩
    rw [hstore]
    exact .of_untouched (fun _ h => nomatch h) fun _ _ => .refl _
  have hgrows := sendCommand_admitted py tm commandType payload actor hadmits
  have htenant := run_tenantOf py tm (Gateway.sendCommand py sid commandType payload actor)
    hadmits.2.2.2
  have hanswers := sendCommand_answers py tm sid commandType payload actor s trivial
  rw [hrun] at hgrows htenant hanswers
  have hchanged : s'.world.store.inboxOf sid ≠ s.world.store.inboxOf sid :=
    fun heq => Nat.ne_of_lt hgrows (congrArg List.length heq.symm)
  constructor
  · intro h _
    rw [← htenant]
    exact h.changed sid (hsound.ne_fresh hadmits.2.2.2) (.inl hchanged)
  · intro h
    have hmine : s'.world.store.tenantOf sid = some tenantId := htenant.trans (h hadmits)
    refine ⟨fun response hresponse sid' hsid' => ?_, fun sid' _ hsid' => ?_⟩
    · cases r with
      | error e => cases hresponse
      | ok sent =>
        cases hresponse
        obtain ⟨ev, hev, rfl⟩ := List.mem_map.mp hsid'
        rw [hanswers sent rfl ev hev]
        exact hmine
    · by_cases heq : sid' = sid
      · rw [heq]
        exact hmine
      · have huntouched := sendCommand_untouched py tm hsound.claims commandType payload actor heq
        rw [hrun] at huntouched
        rcases hsid' with hsid' | hsid' | hsid'
        · exact absurd huntouched.inbox hsid'
        · exact absurd huntouched.log hsid'
        · exact absurd huntouched.status hsid'

omit [IsStrictOrderedRing T] [FloorRing T] in
/-- **A look at a log** stays among the sessions of its tenant if and only if it is
the log of one of them, or there is nothing to see. -/
theorem getSessionEvents_isolated (status : ℕ) (tenantId candidate : String)
    {r : Except PyErr (List (EventRow T))} {s' : Ticking T}
    (hrun : (Gateway.getSessionEvents sid 0).run (timed py tm) s = (r, s')) :
    Isolated tenantId candidate (r.map fun rows => ⟨status, .events rows⟩)
        s.world.store s'.world.store ↔
      ((s.world.store.getRoute (tm.now s.reading) sid).isSome = true →
        s.world.store.getEvents sid 0 ≠ [] → s.world.store.tenantOf sid = some tenantId) := by
  rw [run_getSessionEvents] at hrun
  cases hfound : s.world.store.getRoute (tm.now s.reading) sid with
  | none =>
    rw [hfound] at hrun
    obtain ⟨rfl, rfl⟩ := Prod.mk.inj hrun
    exact ⟨fun _ h => (nomatch h), fun _ => .of_untouched (fun _ h => nomatch h) fun _ _ => .refl _⟩
  | some route =>
    rw [hfound] at hrun
    obtain ⟨rfl, rfl⟩ := Prod.mk.inj hrun
    have hsid : ∀ ev ∈ s.world.store.getEvents sid 0, ev.sessionId = sid := by
      intro ev hev
      unfold Store.getEvents at hev
      rw [List.mem_insertionSort] at hev
      have hmem := (Data.Serial.mem_select.mp hev).2
      rw [Bool.and_eq_true] at hmem
      simpa using hmem.1
    constructor
    · intro h _ hne
      obtain ⟨ev, hev⟩ := List.exists_mem_of_ne_nil _ hne
      have hmem := h.returned _ rfl _ (List.mem_map_of_mem hev)
      rw [hsid ev hev] at hmem
      exact hmem
    · refine fun h => .of_untouched (fun response hresponse sid' hsid' => ?_) fun _ _ => .refl _
      cases hresponse
      obtain ⟨ev, hev, rfl⟩ := List.mem_map.mp hsid'
      rw [hsid ev hev]
      exact h rfl (List.ne_nil_of_mem hev)

end Runs

/-! ## Requests -/

/-- The tenant of what an action creates is the given one. -/
def Action.On (tenantId : String) : Action → Prop
  | .createSession _ t _ => t = tenantId
  | .channelSession _ request => request.tenantId = tenantId
  | _ => True

theorem NadiHandler.channelRequest_tenantId {http : HttpPy} {h : NadiHandler} {body : Json}
    {request : ChannelRequest} (hrequest : h.channelRequest http body = .ok request) :
    request.tenantId = h.tenantId := by
  obtain ⟨_, -, hrequest⟩ := eq_ok_of_bind hrequest
  obtain ⟨_, -, hrequest⟩ := eq_ok_of_bind hrequest
  obtain ⟨_, -, hrequest⟩ := eq_ok_of_bind hrequest
  obtain ⟨_, -, hrequest⟩ := eq_ok_of_bind hrequest
  obtain ⟨_, -, hrequest⟩ := eq_ok_of_bind hrequest
  obtain ⟨_, -, hrequest⟩ := eq_ok_of_bind hrequest
  cases hrequest
  rfl

/-- **The tenant is pinned**: no request names another one. -/
theorem NadiHandler.action_on {http : HttpPy} {h : NadiHandler} {req : HttpRequest}
    {action : Action} (haction : h.action http req = .ok action) : action.On h.tenantId := by
  cases action_leads haction with
  | createSession => rfl
  | channelSession asks => exact channelRequest_tenantId asks.asked
  | respond | sendCommand | getSessionEvents => trivial

section Requests

variable [Field T] [LinearOrder T] [IsStrictOrderedRing T] [FloorRing T] (http : HttpPy)
  (tm : Timing T) {s : Ticking T}

/-- What each action does to the sessions of other tenants. -/
theorem Action.isolated_iff (hsound : s.world.Sound http.toPy) {tenantId : String}
    (action : Action) (hon : action.On tenantId) {r : Except PyErr (Response T)} {s' : Ticking T}
    (hrun : (action.perform http).run (timed http.toPy tm) s = (r, s')) :
    Isolated tenantId (s.world.fresh http.toPy .session) r s.world.store s'.world.store ↔
      ∀ sid, action.Reaches http s.world (tm.now s.reading) sid →
        s.world.store.tenantOf sid = some tenantId := by
  -- what an action makes of what the gateway returns
  have hwrap : ∀ {α : Type} {p : Code T α} {f : α → Response T},
      (p.bind fun a => .pure (f a)).run (timed http.toPy tm) s = (r, s') →
        ∃ r₁, p.run (timed http.toPy tm) s = (r₁, s') ∧ r = r₁.map f := by
    intro α p f h
    rcases hp : p.run (timed http.toPy tm) s with ⟨e | a, s₁⟩
    · rw [Prog.run_bind_error _ hp] at h
      obtain ⟨rfl, rfl⟩ := Prod.mk.inj h
      exact ⟨_, rfl, rfl⟩
    · rw [Prog.run_bind_ok _ hp] at h
      obtain ⟨rfl, rfl⟩ := Prod.mk.inj h
      exact ⟨_, rfl, rfl⟩
  cases action with
  | respond status error =>
    have hquiet : ∃ body : Reply T, (r, s') = (.ok ⟨status, body⟩, s) ∧ body.sessions = [] := by
      cases error with
      | none => exact ⟨.ok, hrun.symm, rfl⟩
      | some message => exact ⟨.error message, hrun.symm, rfl⟩
    obtain ⟨body, heq, hbody⟩ := hquiet
    obtain ⟨rfl, rfl⟩ := Prod.mk.inj heq
    refine ⟨fun _ _ h => h.elim, fun _ => .of_untouched (fun response h sid hsid => ?_)
      fun _ _ => .refl _⟩
    cases h
    rw [hbody] at hsid
    cases hsid
  | createSession status tenant metadata =>
    obtain rfl : tenant = tenantId := hon
    obtain ⟨r₁, hr₁, rfl⟩ := hwrap hrun
    exact ⟨fun _ _ h => h.elim,
      fun _ => createSession_isolated http.toPy tm hsound status tenant metadata hr₁⟩
  | channelSession status request =>
    obtain rfl : request.tenantId = tenantId := hon
    obtain ⟨r₁, hr₁, rfl⟩ := hwrap hrun
    rw [channelSession_isolated http.toPy tm hsound status request hr₁]
    constructor
    · rintro h sid ⟨hplace, row, hrow, rfl⟩
      exact h hplace row hrow
    · exact fun h hplace row hrow => h _ ⟨hplace, row, hrow, rfl⟩
  | sendCommand status sid commandType payload actor =>
    obtain ⟨r₁, hr₁, rfl⟩ := hwrap hrun
    unfold Gateway.sendValues at hr₁
    cases hbind : bindCommand http commandType payload actor with
    | ok values =>
      obtain ⟨type, actorId⟩ := values
      rw [hbind] at hr₁
      rw [sendCommand_isolated http.toPy tm hsound status tenantId type payload actorId hr₁]
      constructor
      · rintro h sid' ⟨rfl, -, hadmits⟩
        exact h hadmits
      · exact fun h hadmits => h sid ⟨rfl, ⟨_, hbind⟩, hadmits⟩
    | error e =>
      rw [hbind] at hr₁
      have hroute : ∃ e', ((Gateway.route sid).bind fun _ => .throw e : Code T Sent).run
          (timed http.toPy tm) s = (.error e', ⟨s.reading + 1, s.ready tm⟩) := by
        rw [Prog.run_bind, run_route]
        cases s.world.store.getRoute (tm.now s.reading) sid <;> exact ⟨_, rfl⟩
      obtain ⟨e', hroute⟩ := hroute
      obtain ⟨rfl, rfl⟩ := Prod.mk.inj (hr₁.symm.trans hroute)
      refine ⟨fun _ sid' h => ?_, fun _ => .of_untouched (fun _ h => nomatch h) fun _ _ => .refl _⟩
      obtain ⟨-, ⟨values, hvalues⟩, -⟩ := h
      cases hbind.symm.trans hvalues
  | getSessionEvents status sid =>
    obtain ⟨r₁, hr₁, rfl⟩ := hwrap hrun
    rw [getSessionEvents_isolated http.toPy tm status tenantId _ hr₁]
    constructor
    · rintro h sid' ⟨rfl, hroute, hne⟩
      exact h hroute hne
    · exact fun h hroute hne => h sid ⟨rfl, hroute, hne⟩

/-- **Tenant isolation.** Over any database that threads of any processes may have
left, a request stays among the sessions of its server's tenant if and only if
each session it comes upon is one of them. -/
theorem tenant_isolated_iff {ι α : Type} [DecidableEq ι] {clock : T} {files : Files}
    {programs : ι → Code T α} {cfg : Threads ι T α}
    (hr : Reach (processes ι http.toPy) (.start programs (World.init clock files)) cfg)
    (h : NadiHandler) (req : HttpRequest) :
    let w := cfg.point.state
    let served := (h.handle http req).run (timed http.toPy tm) ⟨0, w⟩
    Isolated h.tenantId (w.fresh http.toPy .session) served.1 w.store served.2.world.store ↔
      ∀ action, h.action http req = .ok action →
        ∀ sid, action.Reaches http w (tm.now 0) sid →
          w.store.tenantOf sid = some h.tenantId := by
  intro w served
  cases haction : h.action http req with
  | error e =>
    have hserved : served = (.error e, ⟨0, w⟩) := by
      show ((Prog.ofExcept (h.action http req)).bind _).run _ _ = _
      rw [haction]
      rfl
    rw [hserved]
    exact ⟨fun _ _ h => (nomatch h), fun _ => .of_untouched (fun _ h => nomatch h) fun _ _ => .refl _⟩
  | ok action =>
    have hserved : (action.perform http).run (timed http.toPy tm) ⟨0, w⟩ = served := by
      show _ = ((Prog.ofExcept (h.action http req)).bind _).run _ _
      rw [haction]
      rfl
    have hiff := action.isolated_iff http tm (s := ⟨0, w⟩) (reach_sound hr)
      (NadiHandler.action_on haction) hserved
    rw [hiff]
    exact ⟨fun h' action' heq => Except.ok.inj heq ▸ h', fun h' => h' action rfl⟩

end Requests

/-! ## Samples -/

/-- Requests have the path as their URL, and no body. A noncharacter stands for a lone
surrogate, and nothing is nested too deep. -/
def HttpPy.sample : HttpPy where
  toPy := Py.sample
  urlPath := fun url => .ok url
  int := fun _ => .ok 0
  loadsError := fun _ => .valueError "Expecting value"
  realText := fun q => some (toString q.num)
  lone := fun c => c == '\uffff'
  deepStr := fun _ => false
  deepDumps := fun _ => false

/-- A local stack of the tenant A, with one session. -/
def tenantStack : Code ℚ Unit := do
  localStack []
  let _ ← Gateway.createSession Py.sample "tenant-A" .null

/-- `GET` of a path. -/
def getRequest (path : String) : HttpRequest := ⟨.get, path, none, none, []⟩

/-- `POST` to a path, with an empty body. -/
def postRequest (path : String) : HttpRequest := ⟨.post, path, none, none, []⟩

end Nadi
