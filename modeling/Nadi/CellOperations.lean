import Nadi.CellPairs
import Nadi.Handling
import Nadi.Model.Bounds

/-!
# The requests on paired stacks

Every request that uses cells, run on two paired stacks: `consume_commands`
with two tokens and two cells, one of them rebuilt perhaps, and on top of it
`send_command`; and `create_session`, which registers a cell on either side.
-/

namespace Nadi

open Effect

variable {T : Type} [Field T] [LinearOrder T] [IsStrictOrderedRing T] [FloorRing T]
  {py : Py} {c : Celld} {tm : Timing T} {X : World T → Prop} {sid : String}

/-! ## Handling a command with one token or another -/

section Handle

variable {token token' : String}

theorem mirrors_verify (hX : Kept py X) (hjwt : c.sandboxd.jwt = c.jwt)
    (htoken : Outlives py c tm sid token) (htoken' : Outlives py c tm sid token') :
    SideBySide (timed py tm) (Paired py c tm X) (fun _ _ s t => Paired py c tm X s t)
      (Paired py c tm fun _ => True) (c.sandboxd.jwt.verify py token sid "tool")
      (c.sandboxd.jwt.verify py token' sid "tool") := by
  intro s t h
  obtain ⟨data, hrun⟩ := run_verify hjwt htoken h.left.revoked
  obtain ⟨data', hrun'⟩ := run_verify hjwt htoken' h.right.revoked
  rw [hrun, hrun', ← h.reading]
  refine .ok ⟨rfl, ?_, ?_, ?_, hX.passes _ _ _ h.leftX, hX.passes _ _ _ h.rightX⟩
  · exact Paired.ready_core (s := ⟨s.reading + 1, s.world⟩) (t := ⟨s.reading + 1, t.world⟩)
      rfl h.core
  · exact h.left.passes (tm.rebuild_mono (Nat.le_add_right _ 2)) _ _
  · exact h.right.passes (h.reading ▸ tm.rebuild_mono (Nat.le_add_right _ 2)) _ _

/-- Either token will do for the handlers. -/
theorem mirrors_tokens (hX : Kept py X) (hjwt : c.sandboxd.jwt = c.jwt)
    (htoken : Outlives py c tm sid token) (htoken' : Outlives py c tm sid token') :
    TokensAlike py (timed py tm) (Paired py c tm X) (Paired py c tm fun _ => True) c.sandboxd sid
      token token' where
  verify := mirrors_verify hX hjwt htoken htoken'
  audit actor action payload := (Mirrors.call hX rfl rfl (by simp)).weaken (fun _ _ h => h)
    fun _ _ _ _ h => h.2
  files := (Mirrors.call hX rfl rfl (by simp)).weaken (fun _ _ h => h)
    fun _ _ _ _ h => ⟨h.1.1, h.2⟩
  raise _ _ h := h.forget

/-- The handlers do the same with either token. -/
theorem mirrors_handle (hX : Kept py X) (hjwt : c.sandboxd.jwt = c.jwt)
    (htoken : Outlives py c tm sid token) (htoken' : Outlives py c tm sid token')
    (commandType : String) (payload : Json) :
    Mirrors py c tm X (fun outs => ∀ o ∈ outs, o.2.isObj = true)
      (Runtime.handle py c.sandboxd sid token commandType payload)
      (Runtime.handle py c.sandboxd sid token' commandType payload) := by
  have hsame := (mirrors_tokens hX hjwt htoken htoken').handle commandType payload
  have hobj : ∀ {s outs s'}, (Runtime.handle py c.sandboxd sid token commandType payload).run
      (timed py tm) s = (.ok outs, s') → ∀ o ∈ outs, o.2.isObj = true := by
    intro s outs s' hrun o ho
    exact ((Runtime.handle_within py c.sandboxd sid token commandType payload).returned
      (congrArg Prod.fst hrun) o ho).2
  refine (hsame.also (fun _ _ _ _ _ hrun => hobj hrun) fun _ _ _ _ _ _ => trivial).weaken
    (fun _ _ h => h) fun _ _ _ _ h => ⟨⟨h.2.1, h.1.1⟩, h.2.2⟩

end Handle

/-! ## A batch -/

section Batch

theorem mirrors_appendEvent {eventType : String} {payload : Json} (hobj : payload.isObj = true) :
    Mirrors py c tm (Leased tm sid) (fun _ => True) (c.appendEvent sid eventType payload)
      (c.appendEvent sid eventType payload) :=
  Mirrors.append (fun _ h => h.1) (Json.orEmpty_isObj hobj) (fun _ _ _ h => h) fun _ _ h => h

theorem mirrors_appendEvents : ∀ {outs : List (String × Json)}, (∀ o ∈ outs, o.2.isObj = true) →
    Mirrors py c tm (Leased tm sid) (fun _ => True) (c.appendEvents sid outs)
      (c.appendEvents sid outs)
  | [], _ => Mirrors.pure trivial
  | (eventType, payload) :: rest, h => by
    refine Mirrors.bind (mirrors_appendEvent (h _ List.mem_cons_self)) fun ev _ => ?_
    refine Mirrors.bind (mirrors_appendEvents fun o ho => h o (List.mem_cons_of_mem _ ho))
      fun evs _ => ?_
    exact Mirrors.pure trivial

/-- The loop over a batch does the same with either token. -/
theorem mirrors_consumeLoop {token token' : String} (hjwt : c.sandboxd.jwt = c.jwt)
    (htoken : Outlives py c tm sid token) (htoken' : Outlives py c tm sid token') :
    ∀ commands : List (CommandRow T), Mirrors py c tm (Leased tm sid) (fun _ => True)
      (c.consumeLoop py sid token commands) (c.consumeLoop py sid token' commands)
  | [] => Mirrors.pure trivial
  | cmd :: rest => by
    refine Mirrors.bind (mirrors_appendEvent rfl) fun _ _ => ?_
    refine Mirrors.bind (mirrors_handle Leased.kept hjwt htoken htoken' _ _) fun outs houts => ?_
    refine Mirrors.bind (mirrors_appendEvents houts) fun evs _ => ?_
    refine Mirrors.bind (Mirrors.call (d := .completeCommand cmd.id) Leased.kept rfl rfl (by simp))
      fun _ _ => ?_
    refine Mirrors.bind (mirrors_consumeLoop hjwt htoken htoken' rest) fun more _ => ?_
    exact Mirrors.pure trivial

/-- **The cell to work with** is there or can be rebuilt, which changes neither
the core nor the count of readings; its token outlives the run. -/
theorem run_liveCell {s : Ticking T} (h : StackInv py c (tm.rebuild s.reading) s.world)
    (hleased : Leased tm sid s.world) :
    ∃ cell s', (c.liveCell py sid).run (timed py tm) s = (.ok cell, s') ∧
      s'.reading = s.reading ∧ s'.world.core = s.world.core ∧
      StackInv py c (tm.rebuild s'.reading) s'.world ∧ Leased tm sid s'.world ∧
      Outlives py c tm sid cell.jwt := by
  cases hcell : s.world.cells c.ref sid with
  | some cell =>
    exact ⟨cell, s, run_liveCell_found py tm c sid hcell, rfl, rfl, h, hleased,
      (h.cells sid cell hcell).token.outlives hleased⟩
  | none =>
    obtain ⟨done, hdone⟩ := h.replayable sid
    obtain ⟨_, hrun⟩ := run_reconstructCell py tm c sid s
    rw [h.getEvents, hdone] at hrun
    have htoken : CellToken py c s.world.store sid (c.rebuilt py tm sid s).jwt := by
      refine ⟨tm.rebuild s.reading, s.world.fresh py .jti, py.uuid4_ne_empty _ _, rfl, ?_⟩
      exact fun l hl => h.leases l (Data.Table.find?_eq_some.mp hl).1
    refine ⟨c.rebuilt py tm sid s, _, (run_liveCell_lost py tm c sid hcell).trans hrun, rfl, ?_,
      h.register hleased.1 hdone htoken, hleased, htoken.outlives hleased⟩
    exact (World.core_draw_jti : (s.world.draw .jti).core = s.world.core)

theorem mirrors_liveCell :
    SideBySide (timed py tm) (Paired py c tm (Leased tm sid))
      (fun a b s t => (Outlives py c tm sid a.jwt ∧ Outlives py c tm sid b.jwt) ∧
        Paired py c tm (Leased tm sid) s t)
      (Paired py c tm fun _ => True) (c.liveCell py sid) (c.liveCell py sid) := by
  intro s t h
  obtain ⟨cell, s', hrun, hreading, hcore, hinv, hleased, htoken⟩ := run_liveCell h.left h.leftX
  obtain ⟨cell', t', hrun', hreading', hcore', hinv', hleased', htoken'⟩ :=
    run_liveCell h.right h.rightX
  rw [hrun, hrun']
  refine .ok ⟨⟨htoken, htoken'⟩, ?_, ?_, hinv, hinv', hleased, hleased'⟩
  · rw [hreading, hreading', h.reading]
  · rw [hcore, hcore', h.core]

/-- **`consume_commands`** does the same whether or not a cell was lost. -/
theorem mirrors_consumeCommands (hjwt : c.sandboxd.jwt = c.jwt) :
    Mirrors py c tm (Leased tm sid) (fun _ => True) (c.consumeCommands py sid)
      (c.consumeCommands py sid) := by
  refine SideBySide.bind mirrors_liveCell fun cell cell' => .of_prop fun ⟨htoken, htoken'⟩ => ?_
  refine Mirrors.bind (Mirrors.call Leased.kept rfl rfl (by simp)) fun commands _ => ?_
  exact mirrors_consumeLoop hjwt htoken htoken' commands

end Batch

/-! ## `send_command` -/

/-- No reading of a run comes after the end of the session's lease, if the
lease is active at the first. -/
def InTime (tm : Timing T) (sid : String) (st : Store T) : Prop :=
  ∀ l, st.sessionLeases.find? sid = some l → tm.now 0 < l.expiresAt →
    ∀ k, tm.now k < l.expiresAt

/-- A route found at the first reading is good for the run. -/
theorem mirrors_route :
    SideBySide (timed py tm)
      (fun s t => (s.reading = 0 ∧ InTime tm sid s.world.store) ∧
        Paired py c tm (fun _ => True) s t)
      (fun a b s t => (a = b ∧ True) ∧ Paired py c tm (Leased tm sid) s t)
      (Paired py c tm fun _ => True) (Gateway.route sid) (Gateway.route sid) := by
  rintro s t ⟨⟨hzero, htime⟩, h⟩
  have hrun : ∀ u : Ticking T, (call (.getRoute sid)).run (timed py tm) u =
      (.ok (u.world.store.getRoute (tm.now u.reading) sid), ⟨u.reading + 1, u.ready tm⟩) :=
    fun _ => rfl
  unfold Gateway.route
  simp only [Prog.bind_eq]
  rw [Prog.run_bind_ok _ (hrun s), Prog.run_bind_ok _ (hrun t), ← h.store, ← h.reading]
  have hready := h.ready fun _ _ _ _ => trivial
  rw [← h.reading] at hready
  cases hroute : s.world.store.getRoute (tm.now s.reading) sid with
  | none => exact .error _ hready
  | some r =>
    rw [hzero] at hroute
    obtain ⟨l, hl, hlt⟩ := Store.getRoute_eq_some hroute
    obtain ⟨hmem, hid⟩ := Data.Table.find?_eq_some.mp hl
    have hses : s.world.store.hasSession sid = true := hid ▸ (h.left.linked l hmem).1
    have hleased : Leased tm sid s.world := ⟨hses, l, hl, htime l hl hlt⟩
    have hleased' : Leased tm sid t.world := by
      unfold Leased
      rw [← h.store]
      exact hleased
    exact .ok ⟨⟨rfl, trivial⟩, hready.strengthen hleased hleased'⟩

/-- The object that a stack has registered is its one `celld`. -/
theorem mirrors_object (hostId : String) :
    Mirrors py c tm X (fun found => ∀ object, found = some object → object = c)
      (call (.object hostId)) (call (.object hostId)) := by
  refine Mirrors.perform (d := .object hostId) fun s t h => ?_
  rw [timed_quiet py tm s rfl, timed_quiet py tm t rfl]
  refine ⟨?_, ?_, h⟩
  · exact congrArg (fun objects => Except.ok (objects hostId)) h.objects
  · intro found hfound object hobject
    have hlook : s.world.objects hostId = some object :=
      (Except.ok.inj hfound).trans hobject
    exact h.left.objects hostId object hlook

theorem mirrors_celldForRoute :
    Mirrors py c tm (Leased tm sid) (fun celld => celld = c) (Broker.celldForRoute sid)
      (Broker.celldForRoute sid) := by
  refine Mirrors.bind (Mirrors.call Leased.kept rfl rfl (by simp)) fun found _ => ?_
  cases found with
  | none => exact Mirrors.throw
  | some route =>
    refine Mirrors.bind (mirrors_object route.hostId) fun object hobject => ?_
    cases object with
    | none => exact Mirrors.throw
    | some celld => exact Mirrors.pure (hobject celld rfl)

/-- **`send_command`** does the same whether or not a cell was lost. -/
theorem mirrors_sendCommand (hjwt : c.sandboxd.jwt = c.jwt) (commandType : String)
    (payload : Json) (actorResourceId : Option String) :
    SideBySide (timed py tm)
      (fun s t => (s.reading = 0 ∧ InTime tm sid s.world.store) ∧
        Paired py c tm (fun _ => True) s t)
      (fun a b s t => (a = b ∧ True) ∧ Paired py c tm (Leased tm sid) s t)
      (Paired py c tm fun _ => True)
      (Gateway.sendCommand py sid commandType payload actorResourceId)
      (Gateway.sendCommand py sid commandType payload actorResourceId) := by
  refine SideBySide.bind mirrors_route fun _ _ => .of_prop fun _ => ?_
  refine Mirrors.bind (Mirrors.call Leased.kept rfl rfl (by simp)) fun commandId _ => ?_
  refine Mirrors.bind mirrors_celldForRoute fun celld hcelld => ?_
  rw [hcelld]
  exact Mirrors.bind (mirrors_consumeCommands hjwt) fun events _ => Mirrors.pure trivial

/-! ## `create_session` -/

/-- A session that has neither events nor a cell. -/
def Unstarted (c : Celld) (sid : String) (w : World T) : Prop :=
  w.store.hasSession sid = true ∧ w.store.eventsOf sid = [] ∧ w.cells c.ref sid = none

omit [IsStrictOrderedRing T] [FloorRing T] in
theorem Unstarted.exec {w : World T} (h : Unstarted c sid w) {d : Call T}
    (hevents : d.writes .events = false) (hcells : d.writes .cells = false) :
    Unstarted c sid (exec py d w).2 := by
  obtain ⟨hses, hlog, hcell⟩ := h
  refine ⟨exec_hasSession py d hses, ?_, ?_⟩
  · unfold Store.eventsOf
    rw [exec_events py w hevents]
    exact hlog
  · rw [exec_cells py w hcells]
    exact hcell

omit [IsStrictOrderedRing T] [FloorRing T] in
theorem Unstarted.kept : Kept py (Unstarted c sid : World T → Prop) where
  passes := fun _ _ _ h => h
  steady := by
    intro d w hd h
    simp only [Call.steady, List.all_cons, List.all_nil, Bool.and_true, Bool.and_eq_true,
      Bool.not_eq_true'] at hd
    exact h.exec hd.1 hd.2.2.2.2.1

omit [IsStrictOrderedRing T] [FloorRing T] in
theorem hasSession_kept : Kept py (fun w : World T => w.store.hasSession sid = true) where
  passes := fun _ _ _ h => h
  steady := fun d _ _ h => exec_hasSession py d h

/-- A session that was just created is new. -/
theorem run_newSession {tenantId : String} {metadata : Json} {s s' : Ticking T}
    (h : StackInv py c (tm.rebuild s.reading) s.world)
    (hrun : (call (.createSession tenantId none none metadata)).run (timed py tm) s =
      (.ok sid, s')) : Unstarted c sid s'.world := by
  rw [Prog.run_perform, timed_reads py tm s rfl (by simp)] at hrun
  obtain ⟨hout, rfl⟩ := Prod.mk.inj hrun
  obtain ⟨st, hcreate, hst⟩ := World.commit_ok (w := (s.ready tm).draw .session) hout
  obtain ⟨hsid, sessions, hins, hstore⟩ := Store.createSession_ok hcreate
  -- no row has had this id before
  have hnew : s.world.store.hasSession sid ≠ true := by
    intro hses
    obtain ⟨row, hrow, hid⟩ := Data.Table.find?_isSome.mp hses
    exact h.sessionIds row hrow _ (Nat.le_refl _) (hid.trans hsid)
  refine ⟨?_, ?_, ?_⟩
  · show ((s.ready tm).draw .session |>.commit _).2.store.hasSession sid = true
    rw [hst, hstore]
    exact Data.Table.find?_isSome.mpr
      ⟨_, (Data.Table.mem_of_insert? hins).mpr (.inr rfl), hsid.symm⟩
  · show ((s.ready tm).draw .session |>.commit _).2.store.eventsOf sid = []
    rw [hst, hstore]
    refine List.eq_nil_iff_forall_not_mem.mpr fun ev hev => ?_
    have hmem := Store.mem_eventsOf.mp hev
    exact hnew (hmem.2 ▸ (h.events ev hmem.1).1)
  · show ((s.ready tm).draw .session |>.commit _).2.cells c.ref sid = none
    rw [hst]
    cases hcell : s.world.cells c.ref sid with
    | none => exact hcell
    | some cell => exact absurd (h.cells sid cell hcell).session hnew

theorem mirrors_newSession (tenantId : String) (metadata : Json) :
    SideBySide (timed py tm) (Paired py c tm fun _ => True)
      (fun a b s t => a = b ∧ Paired py c tm (Unstarted c a) s t) (Paired py c tm fun _ => True)
      (call (.createSession tenantId none none metadata))
      (call (.createSession tenantId none none metadata)) := by
  have hcall : Mirrors py c tm (fun _ => True) (fun _ => True)
      (call (.createSession tenantId none none metadata))
      (call (.createSession tenantId none none metadata)) :=
    Mirrors.call ⟨fun _ _ _ _ => trivial, fun _ _ _ _ => trivial⟩ rfl rfl (by simp)
  refine (SideBySide.also (A := fun a s => Unstarted c a s.world)
    (B := fun b t => Unstarted c b t.world) hcall ?_ ?_).weaken (fun _ _ h => h) ?_
  · exact fun s t a s' h hrun => run_newSession h.left hrun
  · exact fun s t b t' h hrun => run_newSession h.right hrun
  · rintro a b s t ⟨⟨hs, ht⟩, ⟨rfl, -⟩, h⟩
    exact ⟨rfl, h.strengthen hs ht⟩

/-- The lease of a session comes before its cell. -/
theorem mirrors_createLease (cellHostId : String) :
    Mirrors py c tm (Unstarted c sid) (fun _ => True) (call (.createLease sid cellHostId 3600))
      (call (.createLease sid cellHostId 3600)) := by
  refine Mirrors.perform (d := .createLease sid cellHostId 3600) fun s t h => ?_
  obtain ⟨hout, hcore⟩ := exec_same_core py (c := .createLease sid cellHostId 3600) rfl
    (Paired.ready_core h.reading h.core)
  have hinv : ∀ {u : Ticking T}, StackInv py c (tm.rebuild u.reading) u.world →
      Unstarted c sid u.world → StackInv py c (tm.rebuild (u.reading + 1))
        (exec py (.createLease sid cellHostId 3600) (u.ready tm)).2 := by
    intro u hu hunstarted
    have hready : StackInv py c (tm.rebuild u.reading) (u.ready tm) :=
      hu.passes (le_refl _) _ _
    have hlease := hready.lease (tm.rebuild_le u.reading) cellHostId hunstarted.2.2
    exact hlease.passes (tm.le_rebuild u.reading) _ _
  rw [timed_reads py tm s rfl (by simp), timed_reads py tm t rfl (by simp)]
  refine ⟨hout, fun _ _ => trivial, congrArg (· + 1) h.reading, hcore, hinv h.left h.leftX,
    hinv h.right h.rightX, ?_, ?_⟩
  · exact Unstarted.exec (w := s.ready tm) h.leftX rfl rfl
  · exact Unstarted.exec (w := t.ready tm) h.rightX rfl rfl

/-- The callback that a stack has registered creates cells in its one `celld`. -/
theorem mirrors_callback (hostId : String) :
    Mirrors py c tm X
      (fun found => ∀ createCell, found = some createCell → createCell = .celld c)
      (call (.callback hostId)) (call (.callback hostId)) := by
  refine Mirrors.perform (d := .callback hostId) fun s t h => ?_
  rw [timed_quiet py tm s rfl, timed_quiet py tm t rfl]
  refine ⟨?_, ?_, h⟩
  · exact congrArg (fun callbacks => Except.ok (callbacks hostId)) h.callbacks
  · intro found hfound createCell hcreate
    have hlook : s.world.callbacks hostId = some createCell :=
      (Except.ok.inj hfound).trans hcreate
    exact h.left.callbacks hostId createCell hlook

/-- The cell `create_cell` registers. -/
def Celld.created (py : Py) (tm : Timing T) (c : Celld) (sid : String) (s : Ticking T) : Cell where
  addr := s.world.nextAddr
  sessionId := sid
  jwt := c.jwt.sign py (truncate (tm.now s.reading)) (s.world.fresh py .jti) sid "cell tool"
    3600 c.hostId

/-- The state in which it is registered. -/
def Ticking.withCreated (py : Py) (tm : Timing T) (c : Celld) (sid : String) (s : Ticking T) :
    Ticking T where
  reading := s.reading + 1
  world := { (s.ready tm).draw .jti with
    heap := Function.update s.world.heap s.world.nextAddr .initial
    nextAddr := s.world.nextAddr + 1
    cells := Function.update s.world.cells c.ref
      (Function.update (s.world.cells c.ref) sid (some (c.created py tm sid s))) }

/-- `create_cell` registers a new cell, then starts the session. -/
theorem run_createCell (c : Celld) (sid : String) (s : Ticking T) :
    (c.createCell py sid).run (timed py tm) s =
      ((call (.updateSessionStatus sid .running)).bind fun _ =>
        (c.appendEvent sid "session.started" (.obj [("cell_host", .str c.hostId)])).bind fun _ =>
          .pure (c.created py tm sid s)).run (timed py tm) (s.withCreated py tm c sid) := by
  have hsign : (c.jwt.signNow py .createCell sid "cell tool" 3600 c.hostId).run (timed py tm) s =
      (.ok (c.created py tm sid s).jwt, ⟨s.reading + 1, (s.ready tm).draw .jti⟩) := rfl
  have hnew : (call (.newCell sid (c.created py tm sid s).jwt)).run (timed py tm)
      ⟨s.reading + 1, (s.ready tm).draw .jti⟩ =
      (.ok (c.created py tm sid s), ⟨s.reading + 1, { (s.ready tm).draw .jti with
        heap := Function.update s.world.heap s.world.nextAddr .initial
        nextAddr := s.world.nextAddr + 1 }⟩) := rfl
  have hset : (call (.cellsSet c.ref sid (c.created py tm sid s))).run (timed py tm)
      ⟨s.reading + 1, { (s.ready tm).draw .jti with
        heap := Function.update s.world.heap s.world.nextAddr .initial
        nextAddr := s.world.nextAddr + 1 }⟩ = (.ok (), s.withCreated py tm c sid) := rfl
  exact (Prog.run_bind_ok _ hsign).trans ((Prog.run_bind_ok _ hnew).trans
    (Prog.run_bind_ok _ hset))

/-- The state with the new cell keeps the invariant. -/
theorem StackInv.created {s : Ticking T} (h : StackInv py c (tm.rebuild s.reading) s.world)
    (hunstarted : Unstarted c sid s.world) :
    StackInv py c (tm.rebuild (s.reading + 1)) (s.withCreated py tm c sid).world := by
  obtain ⟨hses, hlog, -⟩ := hunstarted
  refine h.ready.register hses ?_ ⟨tm.now s.reading, s.world.fresh py .jti,
    py.uuid4_ne_empty _ _, rfl, fun l hl => ?_⟩
  · show replay .initial (s.world.store.eventsOf sid) = _
    rw [hlog, replay_nil]
  · have hold := h.leases l (Data.Table.find?_eq_some.mp hl).1
    have hle := tm.rebuild_le s.reading
    linarith

theorem mirrors_createCell :
    SideBySide (timed py tm) (Paired py c tm (Unstarted c sid))
      (fun _ _ s t => Paired py c tm (fun w => w.store.hasSession sid = true) s t)
      (Paired py c tm fun _ => True) (c.createCell py sid) (c.createCell py sid) := by
  have hrest : ∀ cell cell' : Cell,
      SideBySide (timed py tm) (Paired py c tm fun w => w.store.hasSession sid = true)
        (fun _ _ s t => Paired py c tm (fun w => w.store.hasSession sid = true) s t)
        (Paired py c tm fun _ => True)
        ((call (.updateSessionStatus sid .running)).bind fun _ =>
          (c.appendEvent sid "session.started" (.obj [("cell_host", .str c.hostId)])).bind
            fun _ => .pure cell)
        ((call (.updateSessionStatus sid .running)).bind fun _ =>
          (c.appendEvent sid "session.started" (.obj [("cell_host", .str c.hostId)])).bind
            fun _ => .pure cell') := by
    intro cell cell'
    have hstatus : Mirrors py c tm (fun w => w.store.hasSession sid = true) (fun _ => True)
        (call (.updateSessionStatus sid .running)) (call (.updateSessionStatus sid .running)) :=
      Mirrors.call hasSession_kept rfl rfl (by simp)
    have hstarted : Mirrors py c tm (fun w => w.store.hasSession sid = true) (fun _ => True)
        (c.appendEvent sid "session.started" (.obj [("cell_host", .str c.hostId)]))
        (c.appendEvent sid "session.started" (.obj [("cell_host", .str c.hostId)])) :=
      Mirrors.append (fun _ h => h) rfl (fun _ _ _ h => h) fun _ _ h => h
    refine SideBySide.bind hstatus fun _ _ => .of_prop fun _ => ?_
    refine SideBySide.bind hstarted fun _ _ => .of_prop fun _ => ?_
    exact SideBySide.pure fun _ _ h => h
  intro s t h
  rw [run_createCell, run_createCell]
  have hcore : ∀ u : Ticking T, (u.withCreated py tm c sid).world.core = (u.ready tm).core :=
    fun u => World.core_draw_jti (w := u.ready tm)
  refine hrest _ _ _ _ ⟨congrArg (· + 1) h.reading, ?_, h.left.created h.leftX,
    h.right.created h.rightX, h.leftX.1, h.rightX.1⟩
  rw [hcore, hcore]
  exact Paired.ready_core h.reading h.core

theorem mirrors_placeSession :
    SideBySide (timed py tm) (Paired py c tm (Unstarted c sid))
      (fun a b s t => (a = b ∧ True) ∧ Paired py c tm (fun _ => True) s t)
      (Paired py c tm fun _ => True) (Broker.placeSession py sid)
      (Broker.placeSession py sid) := by
  refine SideBySide.bind (Mirrors.call Unstarted.kept rfl rfl (by simp)) fun host _ =>
    .of_prop fun heq => ?_
  rw [← heq.1]
  refine SideBySide.bind (mirrors_createLease host.id) fun lease _ => .of_prop fun heq => ?_
  rw [← heq.1]
  refine SideBySide.bind (mirrors_callback host.hostId) fun found _ => .of_prop fun heq => ?_
  rw [← heq.1]
  cases found with
  | none => exact SideBySide.throw fun _ _ h => h.forget
  | some createCell =>
    rw [heq.2 createCell rfl]
    have hcallback : SideBySide (timed py tm) (Paired py c tm (Unstarted c sid))
        (fun _ _ s t => Paired py c tm (fun w => w.store.hasSession sid = true) s t)
        (Paired py c tm fun _ => True) (Broker.runCallback py sid (.celld c))
        (Broker.runCallback py sid (.celld c)) :=
      SideBySide.bind mirrors_createCell fun _ _ => SideBySide.pure fun _ _ h => h
    exact SideBySide.bind hcallback fun _ _ => SideBySide.pure fun _ _ h => ⟨⟨rfl, trivial⟩, h.forget⟩

/-- **`create_session`** does the same on both sides. -/
theorem mirrors_createSession (tenantId : String) (metadata : Json) :
    Mirrors py c tm (fun _ => True) (fun _ => True) (Gateway.createSession py tenantId metadata)
      (Gateway.createSession py tenantId metadata) := by
  refine SideBySide.bind (mirrors_newSession tenantId metadata.orEmpty) fun sid _ =>
    .of_prop fun heq => ?_
  rw [← heq]
  refine SideBySide.bind mirrors_placeSession fun placement _ => .of_prop fun heq => ?_
  rw [← heq.1]
  exact Mirrors.pure trivial

end Nadi
