import Nadi.FailedPlacement
import Nadi.Model.Apart

/-!
# What the calls of a gateway come to

Each call of a gateway run on its own, on any database that threads of any
processes may have left (`World.Sound`): whose events it returns, when it takes a
command on, what becomes of its candidate, and which session a channel call
returns.
-/

namespace Nadi

open Effect

variable {T : Type}

/-! ## Stores in use -/

/-- What every run on a database keeps: ids drawn are new, and channels are of
sessions that exist. -/
structure World.Sound (py : Py) (w : World T) : Prop where
  sessionIds : ∀ s ∈ w.store.sessions, ∀ n, w.drawn .session ≤ n → s.id ≠ py.uuid4 .session n
  claims : w.ClaimsDrawn py
  channels : ∀ row ∈ w.store.channels, w.store.hasSession row.sessionId = true

theorem World.sound_init (py : Py) (clock : T) (files : Files) :
    (World.init clock files).Sound py :=
  ⟨fun _ h => (nomatch h), fun _ h => (nomatch h), fun _ h => (nomatch h)⟩

theorem exec_sound [Field T] [LinearOrder T] (py : Py) (c : Call T) {w : World T}
    (h : w.Sound py) : (exec py c w).2.Sound py := by
  refine ⟨exec_sessionIds py c h.sessionIds, exec_claimsDrawn py c h.claims, ?_⟩
  have hold : ∀ row ∈ w.store.channels,
      (exec py c w).2.store.hasSession row.sessionId = true :=
    fun row hrow => exec_hasSession py c (h.channels row hrow)
  cases c with
  | getOrCreateChannel platform channelId threadId sid initiator metadata =>
    intro row hrow
    have hcases : row ∈ w.store.channels ∨ w.store.hasSession row.sessionId = true := by
      refine World.commit_store (w := w.draw .channel)
        (P := fun st => row ∈ st.channels → row ∈ w.store.channels ∨
          w.store.hasSession row.sessionId = true) (fun hrow => .inl hrow)
        (fun b st hr hrow => ?_) hrow
      obtain ⟨hins, -⟩ := Store.getOrCreateChannel_ok hr
      rcases Store.insertChannel_ok hins with ⟨rfl, -⟩ | ⟨-, hses, channels, hinsert, rfl⟩
      · exact .inl hrow
      · rcases (Data.Table.mem_of_insert? hinsert).mp hrow with hrow | rfl
        · exact .inl hrow
        · exact .inr hses
    rcases hcases with hrow | hses
    · exact hold row hrow
    · exact exec_hasSession py _ hses
  | _ =>
    intro row hrow
    rw [exec_channels py w rfl] at hrow
    exact hold row hrow

/-- A session that exists is not a candidate. -/
theorem World.Sound.ne_fresh {py : Py} {w : World T} (h : w.Sound py) {sid : String}
    (hses : w.store.hasSession sid = true) : sid ≠ w.fresh py .session := by
  obtain ⟨row, hrow, hid⟩ := Data.Table.find?_isSome.mp hses
  exact fun heq => h.sessionIds row hrow _ (Nat.le_refl _) (hid.trans heq)

/-- Nor is that of a channel. -/
theorem World.Sound.channel_ne_fresh {py : Py} {w : World T} (h : w.Sound py)
    {key : String × String × String} {row : ChannelRow T}
    (hrow : w.store.channels.find? key = some row) : row.sessionId ≠ w.fresh py .session :=
  h.ne_fresh (h.channels row (Data.Table.find?_eq_some.mp hrow).1)

/-- Another process goes on: it shares the database, and nothing else. -/
def World.SameDatabase (w w' : World T) : Prop :=
  w'.store = w.store ∧ w'.drawn = w.drawn

/-- Threads of any processes over one database. -/
def processes (ι : Type) [Field T] [LinearOrder T] (py : Py) :
    System ι (Call T) Call.Ret PyErr (World T) where
  handler := exec py
  env := World.SameDatabase

theorem reach_sound {ι α : Type} [DecidableEq ι] [Field T] [LinearOrder T] {py : Py} {clock : T}
    {files : Files} {programs : ι → Code T α} {cfg : Threads ι T α}
    (hr : Reach (processes ι py) (.start programs (World.init clock files)) cfg) :
    cfg.point.state.Sound py := by
  refine hr.point_invariant (P := fun p => p.state.Sound py) (World.sound_init py clock files)
    (fun p i c h _ => exec_sound py c h) fun p w' h henv => ?_
  obtain ⟨hstore, hdrawn⟩ := henv
  have hdrawn' : w'.drawn = p.state.drawn := hdrawn
  have hstore' : w'.store = p.state.store := hstore
  refine ⟨?_, ?_, ?_⟩
  · rw [hstore', hdrawn']
    exact h.sessionIds
  · unfold World.ClaimsDrawn
    rw [hstore', hdrawn']
    exact h.claims
  · rw [hstore']
    exact h.channels

/-- The store takes a command for the session at the time `t`. -/
def Store.Admits [LinearOrder T] (st : Store T) (t : T) (sid : String) : Prop :=
  (st.getRoute t sid).isSome = true ∧ (st.pendingOf sid).length < Store.maxPendingCommands ∧
    (st.eventsOf sid).length < Store.maxEventsPerSession ∧ st.hasSession sid = true

/-! ## What the gateway returns -/

section Runs

variable [Field T] [LinearOrder T] [IsStrictOrderedRing T] [FloorRing T] (py : Py)
  (tm : Timing T) {s : Ticking T} {sid : String}

omit [IsStrictOrderedRing T] [FloorRing T] in
theorem appendEvent_answers (c : Celld) (eventType : String) (payload : Json) :
    Triple (timed py tm) (fun _ => True) (c.appendEvent sid eventType payload)
      fun r _ => ∀ ev, r = .ok ev → ev.sessionId = sid := by
  have happend : Triple (timed py tm) (fun _ => True)
      (call (.appendEvent sid eventType payload.orEmpty none))
      fun r _ => ∀ ev, r = .ok ev → ev.sessionId = sid := by
    refine Triple.perform fun s _ ev hev => ?_
    rw [timed_reads py tm s rfl (by simp)] at hev
    obtain ⟨st, hst, -⟩ := World.commit_ok (w := s.ready tm) hev
    rw [(Store.appendEvent_ok hst).1]
  refine Triple.bind happend (fun ev => ?_) fun e s _ ev h => nomatch h
  refine Triple.bind (M := fun _ _ => ev.sessionId = sid)
    (Triple.perform fun s h => h ev rfl) (fun found => ?_) fun e s _ ev h => nomatch h
  cases found with
  | none => exact Triple.pure fun s h ev' heq => Except.ok.inj heq ▸ h
  | some cell =>
    exact Triple.bind (M := fun _ _ => ev.sessionId = sid) (Triple.perform fun s h => h)
      (fun _ => Triple.pure fun s h ev' heq => Except.ok.inj heq ▸ h) fun e s _ ev h => nomatch h

omit [IsStrictOrderedRing T] [FloorRing T] in
theorem appendEvents_answers (c : Celld) (outs : List (String × Json)) :
    Triple (timed py tm) (fun _ => True) (c.appendEvents sid outs)
      fun r _ => ∀ evs, r = .ok evs → ∀ ev ∈ evs, ev.sessionId = sid := by
  induction outs with
  | nil => exact Triple.pure fun s _ evs heq ev hev => by cases heq; cases hev
  | cons out rest ih =>
    refine Triple.bind (appendEvent_answers py tm c _ _) (fun ev => ?_)
      fun e s _ evs h => nomatch h
    refine Triple.bind (M := fun r _ => ev.sessionId = sid ∧
      ∀ evs, r = .ok evs → ∀ ev ∈ evs, ev.sessionId = sid) ?_ (fun evs => ?_)
      fun e s _ evs h => nomatch h
    · exact fun s h => ⟨h ev rfl, ih s trivial⟩
    · refine Triple.pure fun s h all heq ev' hev' => ?_
      cases heq
      rcases List.mem_cons.mp hev' with rfl | hev'
      · exact h.1
      · exact h.2 evs rfl ev' hev'

theorem consumeLoop_answers (c : Celld) (token : String) (commands : List (CommandRow T)) :
    Triple (timed py tm) (fun _ => True) (c.consumeLoop py sid token commands)
      fun r _ => ∀ evs, r = .ok evs → ∀ ev ∈ evs, ev.sessionId = sid := by
  induction commands with
  | nil => exact Triple.pure fun s _ evs heq ev hev => by cases heq; cases hev
  | cons cmd rest ih =>
    refine Triple.bind (M := fun _ _ => True) (fun _ _ => trivial) (fun _ => ?_)
      fun e s _ evs h => nomatch h
    refine Triple.bind (M := fun _ _ => True) (fun _ _ => trivial) (fun outs => ?_)
      fun e s _ evs h => nomatch h
    refine Triple.bind (appendEvents_answers py tm c outs) (fun evs => ?_)
      fun e s _ evs h => nomatch h
    refine Triple.bind (M := fun _ _ => ∀ ev ∈ evs, ev.sessionId = sid)
      (Triple.perform fun s h => h evs rfl) (fun _ => ?_) fun e s _ evs h => nomatch h
    refine Triple.bind (M := fun r _ => (∀ ev ∈ evs, ev.sessionId = sid) ∧
      ∀ more, r = .ok more → ∀ ev ∈ more, ev.sessionId = sid) ?_ (fun more => ?_)
      fun e s _ evs h => nomatch h
    · exact fun s h => ⟨h, ih s trivial⟩
    · refine Triple.pure fun s h all heq ev hev => ?_
      cases heq
      rcases List.mem_append.mp hev with hev | hev
      · exact h.1 ev hev
      · exact h.2 more rfl ev hev

/-- **`send_command`** returns events of its session only. -/
theorem sendCommand_answers (sid commandType : String) (payload : Json)
    (actor : Option String) :
    Triple (timed py tm) (fun _ => True) (Gateway.sendCommand py sid commandType payload actor)
      fun r _ => ∀ sent, r = .ok sent → ∀ ev ∈ sent.events, ev.sessionId = sid := by
  refine Triple.bind (M := fun _ _ => True) (fun _ _ => trivial) (fun _ => ?_)
    fun e s _ sent h => nomatch h
  refine Triple.bind (M := fun _ _ => True) (fun _ _ => trivial) (fun commandId => ?_)
    fun e s _ sent h => nomatch h
  refine Triple.bind (M := fun _ _ => True) (fun _ _ => trivial) (fun celld => ?_)
    fun e s _ sent h => nomatch h
  have hconsume : Triple (timed py tm) (fun _ => True) (celld.consumeCommands py sid)
      fun r _ => ∀ evs, r = .ok evs → ∀ ev ∈ evs, ev.sessionId = sid := by
    refine Triple.bind (M := fun _ _ => True) (fun _ _ => trivial) (fun cell => ?_)
      fun e s _ evs h => nomatch h
    refine Triple.bind (M := fun _ _ => True) (fun _ _ => trivial) (fun commands => ?_)
      fun e s _ evs h => nomatch h
    exact consumeLoop_answers py tm celld cell.jwt commands
  refine Triple.bind hconsume (fun events => ?_) fun e s _ sent h => nomatch h
  refine Triple.pure fun s h sent heq ev hev => ?_
  cases heq
  exact h events rfl ev hev

theorem placeSession_answers (sid : String) :
    (Broker.placeSession py sid : Code T Placement).Within (fun _ => True)
      fun placement => placement.sessionId = sid := by
  refine .bind (.any _) fun host _ => .bind (.any _) fun lease _ => .bind (.any _) fun found _ => ?_
  cases found with
  | none => trivial
  | some createCell => exact .bind (.any _) fun _ _ => rfl

/-! ## What it takes on -/

omit [IsStrictOrderedRing T] [FloorRing T] in
/-- Looking a route up takes one reading. -/
theorem run_route (sid : String) :
    (Gateway.route sid).run (timed py tm) s =
      (match s.world.store.getRoute (tm.now s.reading) sid with
        | none => .error (.keyError ("no active route for session " ++ sid))
        | some route => .ok route, ⟨s.reading + 1, s.ready tm⟩) := by
  have hrun : (call (.getRoute sid)).run (timed py tm) s =
      (.ok (s.world.store.getRoute (tm.now s.reading) sid), ⟨s.reading + 1, s.ready tm⟩) := rfl
  unfold Gateway.route
  simp only [Prog.bind_eq]
  rw [Prog.run_bind_ok _ hrun]
  cases s.world.store.getRoute (tm.now s.reading) sid <;> rfl

omit [IsStrictOrderedRing T] [FloorRing T] in
/-- And the log is read right after it. -/
theorem run_getSessionEvents (sid : String) (after : ℤ) :
    (Gateway.getSessionEvents sid after).run (timed py tm) s =
      (match s.world.store.getRoute (tm.now s.reading) sid with
        | none => .error (.keyError ("no active route for session " ++ sid))
        | some _ => .ok (s.world.store.getEvents sid after), ⟨s.reading + 1, s.ready tm⟩) := by
  have hget : (call (.getEvents sid after)).run (timed py tm) ⟨s.reading + 1, s.ready tm⟩ =
      (.ok (s.world.store.getEvents sid after), ⟨s.reading + 1, s.ready tm⟩) := rfl
  have hroute := run_route py tm sid (s := s)
  unfold Gateway.getSessionEvents
  simp only [Prog.bind_eq]
  cases hfound : s.world.store.getRoute (tm.now s.reading) sid with
  | none =>
    rw [hfound] at hroute
    rw [Prog.run_bind_error _ hroute]
  | some route =>
    rw [hfound] at hroute
    rw [Prog.run_bind_ok _ hroute, hget]

section Submit

/-! A command is routed and then put into the inbox, before anything else is done. -/

variable (commandType : String) (payload : Json) (actor : Option String)

variable (sid) in
omit [IsStrictOrderedRing T] [FloorRing T] in
/-- The inbox takes or refuses a command, after one more reading. -/
theorem run_enqueue :
    (call (.enqueueCommand sid commandType payload actor)).run (timed py tm)
        ⟨s.reading + 1, s.ready tm⟩ =
      let ready := Ticking.ready tm ⟨s.reading + 1, s.ready tm⟩
      let done := ready.commit
        (s.world.store.enqueueCommand (tm.now (s.reading + 1)) sid commandType payload actor)
      (done.1, ⟨s.reading + 2, done.2⟩) := by
  rw [Prog.run_perform, timed_reads py tm _ rfl (by simp)]
  rfl

variable {α : Type} (rest : ℕ → Code T α)

omit [IsStrictOrderedRing T] [FloorRing T] in
/-- A command that the store does not take changes nothing. -/
theorem run_submit_refused (h : ¬ s.world.store.Admits (tm.now s.reading) sid) :
    ∃ e s', ((Gateway.route sid).bind fun _ =>
        (call (.enqueueCommand sid commandType payload.orEmpty actor)).bind rest).run
          (timed py tm) s = (.error e, s') ∧ s'.world.store = s.world.store := by
  have hroute := run_route py tm sid (s := s)
  cases hfound : s.world.store.getRoute (tm.now s.reading) sid with
  | none =>
    rw [hfound] at hroute
    rw [Prog.run_bind_error _ hroute]
    exact ⟨_, _, rfl, rfl⟩
  | some route =>
    rw [hfound] at hroute
    rw [Prog.run_bind_ok _ hroute]
    have hrun := run_enqueue py tm (s := s) sid commandType payload.orEmpty actor
    cases henqueue : s.world.store.enqueueCommand (tm.now (s.reading + 1)) sid commandType
      payload.orEmpty actor with
    | ok x =>
      obtain ⟨-, hpend, hlog, hses, -⟩ := Store.enqueueCommand_ok henqueue
      exact absurd ⟨by rw [hfound]; rfl, hpend, hlog, hses⟩ h
    | error e =>
      rw [henqueue] at hrun
      rw [Prog.run_bind_error _ hrun]
      exact ⟨e, _, rfl, rfl⟩

omit [IsStrictOrderedRing T] [FloorRing T] in
/-- One that the store takes is in the inbox when the rest is run. -/
theorem run_submit_admitted (h : s.world.store.Admits (tm.now s.reading) sid) :
    ∃ st' s₂, s.world.store.enqueueCommand (tm.now (s.reading + 1)) sid commandType
        payload.orEmpty actor = .ok (s.world.store.commandInbox.last + 1, st') ∧
      ((Gateway.route sid).bind fun _ =>
        (call (.enqueueCommand sid commandType payload.orEmpty actor)).bind rest).run
          (timed py tm) s = (rest (s.world.store.commandInbox.last + 1)).run (timed py tm) s₂ ∧
      s₂.reading = s.reading + 2 ∧ s₂.world.store = st' ∧
      s₂.world.objects = s.world.objects ∧ s₂.world.cells = s.world.cells ∧
      s₂.world.drawn = s.world.drawn := by
  obtain ⟨hactive, hpend, hlog, hses⟩ := h
  obtain ⟨route, hfound⟩ := Option.isSome_iff_exists.mp hactive
  have hroute := run_route py tm sid (s := s)
  rw [hfound] at hroute
  obtain ⟨st', henqueue⟩ : ∃ st', s.world.store.enqueueCommand (tm.now (s.reading + 1)) sid
      commandType payload.orEmpty actor = .ok (s.world.store.commandInbox.last + 1, st') :=
    Store.enqueueCommand_eq hpend hlog hses
  have hrun := run_enqueue py tm (s := s) sid commandType payload.orEmpty actor
  rw [henqueue] at hrun
  rw [Prog.run_bind_ok _ hroute, Prog.run_bind_ok _ hrun]
  exact ⟨st', _, henqueue, rfl, rfl, rfl, rfl, rfl, rfl⟩

end Submit

theorem sendCommand_refused (commandType : String) (payload : Json) (actor : Option String)
    (h : ¬ s.world.store.Admits (tm.now s.reading) sid) :
    ∃ e s', (Gateway.sendCommand py sid commandType payload actor).run (timed py tm) s =
      (.error e, s') ∧ s'.world.store = s.world.store := by
  unfold Gateway.sendCommand
  simp only [Prog.bind_eq]
  exact run_submit_refused py tm commandType payload actor _ h

/-- A command that the store takes is in the inbox ever after. -/
theorem sendCommand_admitted (commandType : String) (payload : Json) (actor : Option String)
    (h : s.world.store.Admits (tm.now s.reading) sid) :
    (s.world.store.inboxOf sid).length < (((Gateway.sendCommand py sid commandType payload
      actor).run (timed py tm) s).2.world.store.inboxOf sid).length := by
  unfold Gateway.sendCommand
  simp only [Prog.bind_eq, Prog.pure_eq]
  let rest : ℕ → Code T Sent := fun commandId => (Broker.celldForRoute sid).bind fun celld =>
    (celld.consumeCommands py sid).bind fun events => .pure ⟨commandId, events⟩
  obtain ⟨st, s₂, henqueue, hrun, -, hstore, -⟩ :=
    run_submit_admitted py tm commandType payload actor rest h
  have hinbox := Store.inboxOf_enqueueCommand henqueue sid
  rw [if_pos rfl] at hinbox
  rw [hrun]
  refine Nat.lt_of_lt_of_le ?_ (run_inboxOf_length py tm (rest _) sid)
  rw [hstore, hinbox, List.length_append]
  exact Nat.lt_succ_self _

omit [IsStrictOrderedRing T] [FloorRing T] in
/-- A new session has its tenant, and touches no other. -/
theorem run_createSession_tenant {tenantId : String} {metadata : Json} {s' : Ticking T}
    (hrun : (call (.createSession tenantId none none metadata)).run (timed py tm) s =
      (.ok sid, s')) :
    s'.world.store.tenantOf sid = some tenantId ∧
      ∀ sid' ≠ sid, s.world.store.Untouched sid' s'.world.store := by
  rw [Prog.run_perform, timed_reads py tm s rfl (by simp)] at hrun
  obtain ⟨hout, rfl⟩ := Prod.mk.inj hrun
  obtain ⟨st, hcreate, hst⟩ := World.commit_ok (w := (s.ready tm).draw .session) hout
  obtain ⟨hsid, sessions, hins, rfl⟩ := Store.createSession_ok hcreate
  have hstore : (exec py (.createSession tenantId none none metadata) (s.ready tm)).2.store =
      { s.world.store with sessions } := congrArg World.store hst
  refine ⟨?_, fun sid' hne => ?_⟩
  · show (exec py _ (s.ready tm)).2.store.tenantOf sid = _
    rw [hstore]
    refine congrArg (Option.map SessionRow.tenantId)
      ((Data.Table.find?_of_insert? hins sid).trans (if_pos hsid.symm))
  · show s.world.store.Untouched sid' (exec py _ (s.ready tm)).2.store
    rw [hstore]
    refine ⟨?_, rfl, rfl, rfl⟩
    refine (Data.Table.find?_of_insert? hins sid').trans (if_neg fun heq => hne ?_)
    exact heq.symm.trans hsid.symm

/-- What a placement of a new session leaves: its tenant, and the other sessions. -/
theorem placeSession_tenant {r : Except PyErr Placement} {s' : Ticking T} {tenantId : String}
    (htenant : s.world.store.tenantOf sid = some tenantId)
    (hses : s.world.store.hasSession sid = true)
    (hrun : (Broker.placeSession py sid).run (timed py tm) s = (r, s')) :
    s'.world.store.tenantOf sid = some tenantId ∧
      ∀ sid' ≠ sid, s.world.store.Untouched sid' s'.world.store := by
  have htenant' := run_tenantOf py tm (Broker.placeSession py sid) hses
  rw [hrun] at htenant'
  refine ⟨htenant'.trans htenant, fun sid' hne => ?_⟩
  have habout : (Broker.placeSession py sid : Code T _).Within (Call.about sid fun _ => False)
      fun _ => True := Broker.placeSession_about py sid
  have hrest := run_untouched py tm (s := s) habout (fun _ _ h => h.elim) hne
  rw [hrun] at hrest
  exact hrest

/-! ## Channel calls -/

/-- The guarded part of the call, for a candidate. -/
def ChannelRequest.guarded (request : ChannelRequest) (resourceId sid : String) :
    Code T ChannelSession :=
  (Gateway.joinChannel py request.platform request.channelId request.threadId resourceId
    request.metadata sid).tryCatch fun e =>
      (call (.updateSessionStatus sid .abandoned)).bind fun _ => .throw e

theorem guarded_about (request : ChannelRequest) (resourceId sid : String) :
    (request.guarded py resourceId sid : Code T ChannelSession).Within
      (Call.about sid fun _ => False) fun _ => True := by
  refine .tryCatch ?_ fun e => .bind (.perform rfl fun _ => trivial) fun _ _ => trivial
  refine .bind (Broker.placeSession_about py sid) fun _ _ => ?_
  refine .bind (.perform trivial fun _ => trivial) fun found _ => ?_
  obtain ⟨actualSid, cid, created⟩ := found
  dsimp only
  split
  · trivial
  · exact .bind (.perform rfl fun _ => trivial) fun _ _ => trivial

omit [Field T] [LinearOrder T] [IsStrictOrderedRing T] [FloorRing T] in
theorem Call.ofPlacement.draws {d : Call T} (hd : d.ofPlacement sid) :
    d.draws ≠ some .channel := by
  cases d with
  | uuid4 site =>
    obtain ⟨_, hsite⟩ := hd
    obtain rfl : site = .jti := hsite
    exact nofun
  | getOrCreateChannel => exact hd.elim fun _ h => h.elim
  | _ => exact nofun

/-- Before the guarded part the call creates its candidate. -/
theorem run_candidate (hsound : s.world.Sound py) (request : ChannelRequest) :
    ∃ s₁, (request.run py).run (timed py tm) s =
        (request.guarded py (request.initiator py s.world) (s.world.fresh py .session)).run
          (timed py tm) s₁ ∧
      s₁.world.store.tenantOf (s.world.fresh py .session) = some request.tenantId ∧
      s₁.world.store.hasSession (s.world.fresh py .session) = true ∧
      (∀ sid' ≠ s.world.fresh py .session, s.world.store.Untouched sid' s₁.world.store) ∧
      s₁.world.store.channels = s.world.store.channels ∧
      s₁.world.fresh py .channel = s.world.fresh py .channel ∧
      s₁.world.vacancy = s.world.vacancy := by
  obtain ⟨drawn, hresource, hdrawn⟩ := run_resourceId py tm (s := s) request
  have hfresh : ({ s.world with drawn } : World T).fresh py .session =
      s.world.fresh py .session := congrArg (py.uuid4 .session) hdrawn
  obtain ⟨s₁, hcreate, ⟨sessions, hstore⟩, hvacancy, hpending⟩ := run_newCandidate py tm
    (s := { s with world := { s.world with drawn } }) request.tenantId
    request.metadata.orEmpty
    (fun row hrow => hfresh ▸ hsound.sessionIds row hrow _ (Nat.le_refl _))
  rw [hfresh] at hcreate hpending
  change s₁.world.store = { s.world.store with sessions } at hstore
  obtain ⟨htenant, huntouched⟩ := run_createSession_tenant py tm hcreate
  -- neither the name of the initiator nor the session costs the id of a channel
  have hid : s₁.world.fresh py .channel = s.world.fresh py .channel := by
    have hname : (Gateway.resourceId request.platform request.initiatorResourceId :
        Code T String).Within (fun d => d.draws ≠ some .channel) fun _ => True := by
      unfold Gateway.resourceId
      split
      · exact .bind (.perform nofun fun _ => trivial) fun _ _ => trivial
      · trivial
    have hsession : (call (.createSession request.tenantId none none request.metadata.orEmpty) :
        Code T String).Within (fun d => d.draws ≠ some .channel) fun _ => True :=
      .perform nofun fun _ => trivial
    have hfirst := run_fresh py tm (s := s) hname
    have hsecond := run_fresh py tm (s := { s with world := { s.world with drawn } }) hsession
    rw [hresource] at hfirst
    rw [hcreate] at hsecond
    exact hsecond.trans hfirst
  exact ⟨s₁, (Prog.run_bind_ok _ hresource).trans (Prog.run_bind_ok _ hcreate),
    htenant, Store.hasSession_of_statusOf hpending, huntouched, by rw [hstore], hid, hvacancy⟩

/-- Without a placement the guarded part marks the candidate and raises. -/
theorem guarded_fails (request : ChannelRequest) (resourceId : String) {e : PyErr}
    {s' : Ticking T} (hplace : (Broker.placeSession py sid).run (timed py tm) s = (.error e, s')) :
    (request.guarded py resourceId sid).run (timed py tm) s =
      ((call (.updateSessionStatus sid .abandoned)).bind fun _ => .throw e).run (timed py tm) s' := by
  unfold ChannelRequest.guarded
  rw [Prog.run_tryCatch]
  unfold Gateway.joinChannel
  simp only [Prog.bind_eq]
  rw [Prog.run_bind_error _ hplace]

/-- What the guarded part returns is what the store says of the channel, and the
channels it leaves are those of the store. -/
theorem guarded_returns (request : ChannelRequest) (resourceId : String) {placement : Placement}
    {s' : Ticking T}
    {found : Except PyErr ((String × String × Bool) × Store T)}
    (hplace : (Broker.placeSession py sid).run (timed py tm) s = (.ok placement, s'))
    (hfound : s'.world.store.getOrCreateChannel (tm.now s'.reading) (s'.world.fresh py .channel)
      request.platform request.channelId request.threadId sid resourceId request.metadata = found) :
    ((request.guarded py resourceId sid).run (timed py tm) s).1 =
        found.map (fun found => ⟨found.1.1, found.1.2.1, found.1.2.2⟩) ∧
      ∀ x st, found = .ok (x, st) →
        ((request.guarded py resourceId sid).run (timed py tm) s).2.world.store.channels =
          st.channels := by
  have hcall : (call (.getOrCreateChannel request.platform request.channelId request.threadId sid
      resourceId request.metadata)).run (timed py tm) s' =
      ((((s'.ready tm).draw .channel).commit
        (s'.world.store.getOrCreateChannel (tm.now s'.reading) (s'.world.fresh py .channel)
          request.platform request.channelId request.threadId sid resourceId
          request.metadata)).map id fun w => ⟨s'.reading + 1, w⟩) := by
    rw [Prog.run_perform, timed_reads py tm s' rfl (by simp)]
    rfl
  unfold ChannelRequest.guarded
  rw [Prog.run_tryCatch]
  unfold Gateway.joinChannel
  simp only [Prog.bind_eq]
  rw [Prog.run_bind_ok _ hplace]
  rw [hfound] at hcall
  cases found with
  | error e =>
    rw [Prog.run_bind_error _ hcall]
    exact ⟨rfl, fun _ _ h => by cases h⟩
  | ok found =>
    obtain ⟨⟨actualSid, cid, created⟩, st⟩ := found
    rw [Prog.run_bind_ok _ hcall]
    refine ⟨?_, fun x st' heq => ?_⟩
    · cases created <;> rfl
    · cases heq
      cases created <;> rfl

omit [IsStrictOrderedRing T] [FloorRing T] in
/-- A program that joins no channel leaves the channels as they are. -/
theorem run_noJoin_channels {α : Type} {post : α → Prop} {p : Code T α}
    (hp : p.Within Call.noJoin post) :
    (p.run (timed py tm) s).2.world.store.channels = s.world.store.channels := by
  refine run_timed_store py tm s hp (I := fun w => w.store.channels = s.world.store.channels)
    (fun _ _ _ h => h) (fun c w hc h => ?_) rfl
  cases c with
  | getOrCreateChannel => exact hc.elim
  | _ => exact (exec_channels py w rfl).trans h

omit [Field T] [LinearOrder T] [IsStrictOrderedRing T] [FloorRing T] in
/-- A channel that is known already is reported as it is. -/
theorem Store.getOrCreateChannel_known {st : Store T} {platform channelId threadId : String}
    {row : ChannelRow T} (hrow : st.channels.find? (platform, channelId, threadId) = some row)
    (t : T) (cid sid initiator : String) (metadata : Json) :
    st.getOrCreateChannel t cid platform channelId threadId sid initiator metadata =
      .ok ((row.sessionId, row.id, row.sessionId == sid && row.id == cid), st) := by
  obtain ⟨hmem, hkey⟩ := Data.Table.find?_eq_some.mp hrow
  have hnew : (newChannel t cid platform channelId threadId sid initiator metadata).key =
      (platform, channelId, threadId) := rfl
  have hins : st.insertChannel
      (newChannel t cid platform channelId threadId sid initiator metadata) = .ok st := by
    unfold insertChannel
    split
    · rfl
    · rw [Data.Table.insert?_eq_none.mpr ⟨row, hmem, hkey.trans hnew.symm⟩]
  unfold getOrCreateChannel
  rw [hins]
  dsimp only
  rw [hrow]

omit [Field T] [LinearOrder T] [IsStrictOrderedRing T] [FloorRing T] in
/-- It keeps its session. -/
theorem Store.join_known {st : Store T} {platform channelId threadId : String} {row : ChannelRow T}
    (hrow : st.channels.find? (platform, channelId, threadId) = some row)
    (hne : row.sessionId ≠ sid) (t : T) (cid initiator : String) (metadata : Json) :
    st.getOrCreateChannel t cid platform channelId threadId sid initiator metadata =
      .ok ((row.sessionId, row.id, false), st) := by
  rw [getOrCreateChannel_known hrow, beq_false_of_ne hne, Bool.false_and]

omit [Field T] [LinearOrder T] [IsStrictOrderedRing T] [FloorRing T] in
/-- A new channel is reported with the candidate and a new id, if at all. -/
theorem Store.getOrCreateChannel_new {st st' : Store T} {t : T}
    {cid platform channelId threadId initiator actualSid actualId : String} {metadata : Json}
    {created : Bool} (hnone : st.channels.find? (platform, channelId, threadId) = none)
    (h : st.getOrCreateChannel t cid platform channelId threadId sid initiator metadata =
      .ok ((actualSid, actualId, created), st')) :
    (actualSid = sid ∧ actualId = cid ∧ created = true) ∧ ∃ channels, st.channels.insert?
      (newChannel t cid platform channelId threadId sid initiator metadata) = some channels ∧
        st' = { st with channels } := by
  obtain ⟨hins, row, hrow, rfl, rfl, rfl⟩ := getOrCreateChannel_ok h
  rcases insertChannel_ok hins with ⟨rfl, -⟩ | ⟨-, -, channels, hinsert, rfl⟩
  · cases hnone.symm.trans hrow
  · have hkey : (newChannel t cid platform channelId threadId sid initiator metadata).key =
        (platform, channelId, threadId) := rfl
    have hfind := Data.Table.find?_of_insert? hinsert (platform, channelId, threadId)
    rw [if_pos hkey] at hfind
    obtain rfl := Option.some.inj (hfind.symm.trans hrow)
    refine ⟨⟨rfl, rfl, ?_⟩, channels, hinsert, rfl⟩
    simp [newChannel]

/-- **The session a channel call returns** is that of the channel, or its candidate. -/
theorem request_returns (hsound : s.world.Sound py) (request : ChannelRequest)
    {r : Except PyErr ChannelSession} {s' : Ticking T}
    (hrun : (request.run py).run (timed py tm) s = (r, s')) :
    match s.world.store.channels.find? request.key with
    | none => ∀ session, r = .ok session → session.sessionId = s.world.fresh py .session
    | some row => (∀ session, r = .ok session → session.sessionId = row.sessionId) ∧
        ((∃ session, r = .ok session) ↔ ¬ s.world.PlacementFails) := by
  obtain ⟨s₁, hcall, -, hses, -, hchannels, -, hvacancy⟩ := run_candidate py tm hsound request
  by_cases hfail : s.world.PlacementFails
  · obtain ⟨e, s'', herror, -⟩ := channelSession_fails py tm request
      (fun row hrow => hsound.sessionIds row hrow _ (Nat.le_refl _)) hfail
    obtain ⟨rfl, rfl⟩ := Prod.mk.inj (hrun.symm.trans herror)
    cases s.world.store.channels.find? request.key with
    | none => exact fun _ h => nomatch h
    | some row => exact ⟨fun _ h => (nomatch h), fun ⟨_, h⟩ => (nomatch h), fun h => absurd hfail h⟩
  -- the candidate is placed, and the channels are still as they were
  have hplaced : ∃ placement s₂, (Broker.placeSession py (s.world.fresh py .session)).run
      (timed py tm) s₁ = (.ok placement, s₂) := by
    rcases hplace : (Broker.placeSession py (s.world.fresh py .session)).run (timed py tm) s₁
      with ⟨e | placement, s₂⟩
    · have hfails := (placeSession_raises_iff py tm hses).mp ⟨e, congrArg Prod.fst hplace⟩
      exact absurd ((World.placementFails_congr hvacancy).mp hfails) hfail
    · exact ⟨placement, s₂, rfl⟩
  obtain ⟨placement, s₂, hplace⟩ := hplaced
  have hsame := run_noJoin_channels py tm (s := s₁) (Broker.placeSession_noJoin py
    (s.world.fresh py .session))
  rw [hplace, hchannels] at hsame
  have hreturns := (guarded_returns py tm request (request.initiator py s.world) hplace rfl).1
  rw [← hcall, hrun] at hreturns
  cases hfind : s.world.store.channels.find? request.key with
  | none =>
    rw [← hsame] at hfind
    intro session hsession
    rw [hsession] at hreturns
    cases hget : s₂.world.store.getOrCreateChannel (tm.now s₂.reading) (s₂.world.fresh py .channel)
      request.platform request.channelId request.threadId (s.world.fresh py .session)
      (request.initiator py s.world) request.metadata with
    | error e =>
      rw [hget] at hreturns
      cases hreturns
    | ok found =>
      obtain ⟨⟨actualSid, cid, created⟩, st⟩ := found
      rw [hget] at hreturns
      obtain rfl := Except.ok.inj hreturns
      exact (Store.getOrCreateChannel_new hfind hget).1.1
  | some row =>
    rw [← hsame] at hfind
    have hget := Store.getOrCreateChannel_known hfind (tm.now s₂.reading)
      (s₂.world.fresh py .channel) (s.world.fresh py .session) (request.initiator py s.world)
      request.metadata
    rw [hget] at hreturns
    refine ⟨fun session hsession => ?_, fun _ => hfail, fun _ => ⟨_, hreturns⟩⟩
    obtain rfl := Except.ok.inj (hsession.symm.trans hreturns)
    rfl

end Runs

end Nadi
