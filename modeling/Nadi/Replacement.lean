import Nadi.Capacity
import Nadi.Undelivered

/-!
# Placing a session again

`place_session` leases a host and has its `create_cell` run, which registers a
new cell and never looks at the log (celld.py:35–44); only `reconstruct_cell`
replays it. So the cell of a session that is placed again holds its conversation
if and only if there was none (`replacement_current_iff`). Whatever commands come
after extend the state that the cell then has.
-/

namespace Nadi

open Effect

variable {T : Type}

/-! ## Logs without a conversation -/

/-- The events that `_apply` keeps the payload of. -/
def isKept (eventType : String) : Prop :=
  eventType = "assistant.message" ∨ eventType = "model.response" ∨ eventType = "tool.result"

instance (eventType : String) : Decidable (isKept eventType) :=
  inferInstanceAs (Decidable (_ ∨ _ ∨ _))

/-- An event adds to what a cell has kept, or keeps nothing. -/
theorem applyEvent_kept {s s' : CellState} {eventType : String} {payload : Json}
    (h : applyEvent s eventType payload = .ok s') :
    if isKept eventType then s'.messages ≠ [] ∨ s'.tools ≠ []
    else s'.messages = s.messages ∧ s'.tools = s.tools := by
  unfold applyEvent at h
  split at h
  · rename_i htype
    have hkept : isKept eventType := htype.elim .inl fun h => .inr (.inl h)
    rw [if_pos hkept]
    split at h
    · cases h
    · cases h
      exact .inl (by simp)
  split at h
  · rename_i htype
    have hkept : isKept eventType := .inr (.inr htype)
    rw [if_pos hkept]
    cases h
    exact .inr (by simp)
  · rename_i hmessage htool
    have hnot : ¬ isKept eventType := by
      rintro (heq | heq | heq)
      · exact hmessage (.inl heq)
      · exact hmessage (.inr heq)
      · exact htool heq
    rw [if_neg hnot]
    split at h
    · cases h
      exact ⟨rfl, rfl⟩
    · cases h
      exact ⟨rfl, rfl⟩

/-- Nothing has been said in a log. -/
def Silent (events : List (EventRow T)) : Prop := ∀ ev ∈ events, ¬ isKept ev.eventType

/-- A replay keeps something if and only if something was said. -/
theorem replay_silent_iff {s done : CellState} {events : List (EventRow T)}
    (h : replay s events = .ok done) :
    (done.messages = [] ∧ done.tools = []) ↔
      (s.messages = [] ∧ s.tools = []) ∧ Silent events := by
  induction events generalizing s with
  | nil =>
    cases h
    exact ⟨fun h => ⟨h, fun _ h => nomatch h⟩, fun h => h.1⟩
  | cons ev rest ih =>
    rw [replay_cons] at h
    obtain ⟨s', hs', hrest⟩ := eq_ok_of_bind h
    rw [ih hrest]
    have hcases := applyEvent_kept hs'
    have hsilent : Silent (ev :: rest) ↔ ¬ isKept ev.eventType ∧ Silent rest := List.forall_mem_cons
    rw [hsilent]
    by_cases hkept : isKept ev.eventType
    · rw [if_pos hkept] at hcases
      refine iff_of_false (fun h => ?_) fun h => h.2.1 hkept
      exact hcases.elim (fun hne => hne h.1.1) fun hne => hne h.1.2
    · rw [if_neg hkept] at hcases
      rw [hcases.1, hcases.2]
      exact ⟨fun h => ⟨h.1, hkept, h.2⟩, fun h => ⟨h.1, h.2.2⟩⟩

/-- A log in which nothing was said can be replayed. -/
theorem replay_of_silent {events : List (EventRow T)} (h : Silent events) (s : CellState) :
    ∃ done, replay s events = .ok done := by
  induction events generalizing s with
  | nil => exact ⟨s, rfl⟩
  | cons ev rest ih =>
    have hnot := h ev List.mem_cons_self
    have hmessage : ¬ (ev.eventType = "assistant.message" ∨ ev.eventType = "model.response") :=
      fun hor => hnot (hor.elim .inl fun h => .inr (.inl h))
    obtain ⟨s', hs'⟩ : ∃ s', applyEvent s ev.eventType ev.payload = .ok s' := by
      unfold applyEvent
      rw [if_neg hmessage, if_neg fun heq => hnot (.inr (.inr heq))]
      split <;> exact ⟨_, rfl⟩
    obtain ⟨done, hdone⟩ := ih (fun e he => h e (List.mem_cons_of_mem _ he)) s'
    refine ⟨done, ?_⟩
    rw [replay_cons, hs']
    exact hdone

/-- **A cell that has only been started** is the replay of a log that ends with
its start if and only if nothing was said before. -/
theorem replay_started_iff {events : List (EventRow T)} {row : EventRow T}
    (hrow : row.eventType = "session.started") :
    replay .initial (events ++ [row]) = .ok ⟨[], [], true⟩ ↔ Silent events := by
  have hlast : ∀ s, replay s [row] = .ok { s with started := true } := by
    intro s
    rw [replay_cons, hrow]
    rfl
  rw [replay_append]
  constructor
  · intro h
    obtain ⟨done, hdone, hstart⟩ := eq_ok_of_bind h
    rw [hlast] at hstart
    have hempty := Except.ok.inj hstart
    have hmessages := congrArg CellState.messages hempty
    have htools := congrArg CellState.tools hempty
    exact ((replay_silent_iff hdone).mp ⟨hmessages, htools⟩).2
  · intro hsilent
    obtain ⟨done, hdone⟩ := replay_of_silent hsilent .initial
    obtain ⟨hmessages, htools⟩ := (replay_silent_iff hdone).mpr ⟨⟨rfl, rfl⟩, hsilent⟩
    rw [hdone]
    refine (hlast done).trans ?_
    rw [hmessages, htools]

/-! ## The live cell of the owner -/

/-- The cell of a session that a `celld` holds has the state of the whole log. -/
def World.Holds (w : World T) (c : Celld) (sid : String) : Prop :=
  ∃ cell, w.cells c.ref sid = some cell ∧
    replay .initial (w.store.eventsOf sid) = .ok (w.heap cell.addr)

/-- So does the one that the host named in the lease holds. -/
def World.Current (w : World T) (sid : String) : Prop :=
  ∀ host c, w.store.ownerOf sid = some host → w.objects host = some c → w.Holds c sid

/-- Every host is registered with a `celld` and the `create_cell` of that. -/
def World.Wired (w : World T) : Prop :=
  ∀ host c, w.callbacks host = some (.celld c) ↔ w.objects host = some c

/-- The `celld` that serves a session holds its cell. -/
structure World.Attends (w : World T) (c : Celld) (sid : String) : Prop where
  session : w.store.hasSession sid = true
  wired : w.Wired
  owner : ∃ host, w.store.ownerOf sid = some host ∧ w.objects host = some c
  holds : w.Holds c sid

/-- With the owner known, one `celld` decides. -/
theorem World.current_iff {w : World T} {c : Celld} {sid host : String}
    (howner : w.store.ownerOf sid = some host) (hobject : w.objects host = some c) :
    w.Current sid ↔ w.Holds c sid := by
  refine ⟨fun h => h host c howner hobject, fun h host' c' howner' hobject' => ?_⟩
  cases howner.symm.trans howner'
  cases hobject.symm.trans hobject'
  exact h

theorem World.Attends.current {w : World T} {c : Celld} {sid : String} (h : w.Attends c sid) :
    w.Current sid := by
  obtain ⟨host, howner, hobject⟩ := h.owner
  exact (World.current_iff howner hobject).mpr h.holds

/-- The calls that leave logs, cells, leases and hosts alone. -/
def Call.unrelated (d : Call T) : Prop :=
  d.writes .events = false ∧ d.writes .leases = false ∧ d.writes .hosts = false ∧
    d.writes .heap = false ∧ d.writes .cells = false ∧ d.writes .broker = false

theorem Call.ofSandbox.unrelated {d : Call T} (h : d.ofSandbox) : d.unrelated := by
  cases d <;> first | exact h.elim | exact ⟨rfl, rfl, rfl, rfl, rfl, rfl⟩

theorem Call.ofRouting.unrelated {d : Call T} {sid : String} (h : d.ofRouting sid) : d.unrelated := by
  cases d <;> first | exact h.elim | exact ⟨rfl, rfl, rfl, rfl, rfl, rfl⟩

section Aside

variable [Field T] [LinearOrder T] (py : Py) {w : World T} {sid : String} {c : Celld}

theorem exec_ownerOf_unrelated {d : Call T} (hd : d.unrelated) :
    (exec py d w).2.store.ownerOf sid = w.store.ownerOf sid := by
  unfold Store.ownerOf Store.hostOf
  rw [exec_leases py w hd.2.1, exec_hosts py w hd.2.2.1]

theorem exec_eventsOf_unrelated {d : Call T} (hd : d.unrelated) :
    (exec py d w).2.store.eventsOf sid = w.store.eventsOf sid := by
  unfold Store.eventsOf
  rw [exec_events py w hd.1]

theorem exec_holds_unrelated {d : Call T} (hd : d.unrelated) :
    (exec py d w).2.Holds c sid ↔ w.Holds c sid := by
  unfold World.Holds
  rw [exec_eventsOf_unrelated py hd, exec_heap py w hd.2.2.2.1, exec_cells py w hd.2.2.2.2.1]

theorem exec_wired_unrelated {d : Call T} (hd : d.unrelated) : (exec py d w).2.Wired ↔ w.Wired := by
  unfold World.Wired
  rw [exec_callbacks py w hd.2.2.2.2.2, exec_objects py w hd.2.2.2.2.2]

theorem exec_current_unrelated {d : Call T} (hd : d.unrelated) :
    (exec py d w).2.Current sid ↔ w.Current sid := by
  unfold World.Current
  rw [exec_ownerOf_unrelated py hd, exec_objects py w hd.2.2.2.2.2]
  exact forall_congr' fun host => forall_congr' fun c => imp_congr_right fun _ =>
    imp_congr_right fun _ => exec_holds_unrelated py hd

theorem exec_attends_unrelated {d : Call T} (hd : d.unrelated) (h : w.Attends c sid) :
    (exec py d w).2.Attends c sid where
  session := exec_hasSession py d h.session
  wired := (exec_wired_unrelated py hd).mpr h.wired
  owner := by
    rw [exec_ownerOf_unrelated py hd, exec_objects py w hd.2.2.2.2.2]
    exact h.owner
  holds := (exec_holds_unrelated py hd).mpr h.holds

end Aside

section Runs

variable [Field T] [LinearOrder T] [IsStrictOrderedRing T] [FloorRing T] (py : Py)
  (tm : Timing T) {s : Ticking T} {sid : String} {c : Celld}

/-! ## Commands -/

omit [IsStrictOrderedRing T] [FloorRing T] in
/-- A program of such calls leaves the session attended. -/
theorem attends_unrelated {α : Type} {post : α → Prop} {p : Code T α} (hp : p.Within Call.unrelated post) :
    Triple (timed py tm) (fun s => s.world.Attends c sid) p fun _ s => s.world.Attends c sid :=
  fun s h => run_timed_store py tm s hp (I := fun w => w.Attends c sid)
    (fun _ _ _ h => ⟨h.session, h.wired, h.owner, h.holds⟩)
    (fun _ _ hd h => exec_attends_unrelated py hd h) h

omit [IsStrictOrderedRing T] [FloorRing T] in
/-- **Appending an event** extends the log and the cell alike. -/
theorem attends_appendEvent (eventType : String) {payload : Json}
    (hobj : payload.orEmpty.isObj = true) :
    Triple (timed py tm) (fun s => s.world.Attends c sid) (c.appendEvent sid eventType payload)
      fun _ s => s.world.Attends c sid := by
  intro s h
  obtain ⟨cell, hcell, hreplay⟩ := h.holds
  obtain ⟨heap, hrun, hheap⟩ := run_appendEvent py tm c h.session hobj
  rw [hcell] at hheap
  obtain ⟨state, hstate, rfl⟩ := hheap
  rw [hrun]
  have happend : (s.ready tm).store.appendEvent (tm.now s.reading) sid eventType payload none =
      .ok (_, ((s.ready tm).append sid eventType payload).store) := Store.appendEvent_eq h.session
  refine ⟨h.session, h.wired, h.owner, cell, hcell, ?_⟩
  show replay .initial (((s.ready tm).append sid eventType payload).store.eventsOf sid) =
    .ok (Function.update s.world.heap cell.addr state cell.addr)
  rw [Store.eventsOf_append happend, if_pos rfl, replay_append, Function.update_self]
  have hlog : (s.ready tm).store.eventsOf sid = s.world.store.eventsOf sid := rfl
  rw [hlog, hreplay]
  show replay (s.world.heap cell.addr) [_] = _
  rw [replay_cons]
  show (applyEvent (s.world.heap cell.addr) eventType payload.orEmpty).bind _ = _
  rw [hstate]
  rfl

omit [IsStrictOrderedRing T] [FloorRing T] in
theorem attends_appendEvents {outs : List (String × Json)}
    (houts : ∀ o ∈ outs, o.2.isObj = true) :
    Triple (timed py tm) (fun s => s.world.Attends c sid) (c.appendEvents sid outs)
      fun _ s => s.world.Attends c sid := by
  induction outs with
  | nil => exact .pure fun _ h => h
  | cons out rest ih =>
    have hout := Json.orEmpty_isObj (houts out List.mem_cons_self)
    refine (attends_appendEvent py tm out.1 hout).bind (fun ev => ?_) fun _ _ h => h
    exact (ih fun o ho => houts o (List.mem_cons_of_mem _ ho)).bind
      (fun evs => .pure fun _ h => h) fun _ _ h => h

/-- Handling a command leaves it attended, and gives dicts to append. -/
theorem attends_handle (token commandType : String) (payload : Json) :
    Triple (timed py tm) (fun s => s.world.Attends c sid)
      (Runtime.handle py c.sandboxd sid token commandType payload)
      fun r s => s.world.Attends c sid ∧ ∀ outs, r = .ok outs → ∀ o ∈ outs, o.2.isObj = true := by
  have hwithin := Runtime.handle_within (T := T) py c.sandboxd sid token commandType payload
  intro s h
  refine ⟨attends_unrelated py tm (hwithin.mono_calls fun _ hd => hd.unrelated) s h, ?_⟩
  exact fun outs hr o ho => (hwithin.returned hr o ho).2

theorem attends_consumeLoop (token : String) (commands : List (CommandRow T)) :
    Triple (timed py tm) (fun s => s.world.Attends c sid) (c.consumeLoop py sid token commands)
      fun _ s => s.world.Attends c sid := by
  induction commands with
  | nil => exact .pure fun _ h => h
  | cons cmd rest ih =>
    simp only [Celld.consumeLoop, Prog.bind_eq, Prog.pure_eq]
    have hreceived : (Celld.received cmd).orEmpty.isObj = true := rfl
    have hcomplete : (call (.completeCommand cmd.id) : Code T Unit).Within Call.unrelated
        fun _ => True := .perform ⟨rfl, rfl, rfl, rfl, rfl, rfl⟩ fun _ => trivial
    refine (attends_appendEvent py tm "command.received" hreceived).bind (fun _ => ?_)
      fun _ _ h => h
    refine (attends_handle py tm token cmd.commandType cmd.payload).bind
      (fun outs => .of_prop fun houts => ?_) fun _ _ h => h.1
    refine (attends_appendEvents py tm (houts outs rfl)).bind (fun evs => ?_) fun _ _ h => h
    refine (attends_unrelated py tm hcomplete).bind (fun _ => ?_) fun _ _ h => h
    exact ih.bind (fun more => .pure fun _ h => h) fun _ _ h => h

/-- **Consuming** works on the cell that is there, and extends it. -/
theorem attends_consumeCommands :
    Triple (timed py tm) (fun s => s.world.Attends c sid) (c.consumeCommands py sid)
      fun _ s => s.world.Attends c sid := by
  unfold Celld.consumeCommands
  have hlive : Triple (timed py tm) (fun s => s.world.Attends c sid) (c.liveCell py sid)
      fun _ s => s.world.Attends c sid := by
    intro s h
    obtain ⟨cell, hcell, -⟩ := h.holds
    rw [run_liveCell_found py tm c sid hcell]
    exact h
  have hclaim : (call (.claimPendingCommands sid c.hostId) : Code T _).Within Call.unrelated
      fun _ => True := .perform ⟨rfl, rfl, rfl, rfl, rfl, rfl⟩ fun _ => trivial
  refine hlive.bind (fun cell => ?_) fun _ _ h => h
  refine (attends_unrelated py tm hclaim).bind (fun commands => ?_) fun _ _ h => h
  exact attends_consumeLoop py tm cell.jwt commands

/-! ## A session over its placements -/

omit [Field T] [LinearOrder T] [IsStrictOrderedRing T] [FloorRing T] in
/-- The session exists, the hosts are wired, and the cell of the owner is current. -/
structure World.Settled (w : World T) (sid : String) : Prop where
  session : w.store.hasSession sid = true
  wired : w.Wired
  current : w.Current sid

omit [Field T] [LinearOrder T] [IsStrictOrderedRing T] [FloorRing T] in
theorem World.Attends.settled {w : World T} (h : w.Attends c sid) : w.Settled sid :=
  ⟨h.session, h.wired, h.current⟩

omit [IsStrictOrderedRing T] [FloorRing T] in
theorem settled_unrelated {α : Type} {post : α → Prop} {p : Code T α} (hp : p.Within Call.unrelated post) :
    Triple (timed py tm) (fun s => s.world.Settled sid) p fun _ s => s.world.Settled sid :=
  fun s h => run_timed_store py tm s hp (I := fun w => w.Settled sid)
    (fun _ _ _ h => ⟨h.session, h.wired, h.current⟩)
    (fun d _ hd h => ⟨exec_hasSession py d h.session, (exec_wired_unrelated py hd).mpr h.wired,
      (exec_current_unrelated py hd).mpr h.current⟩) h

/-- **Sending a command** keeps the cell of the owner current, whatever comes of it. -/
theorem settled_send (send : Send) :
    Triple (timed py tm) (fun s => s.world.Settled sid) (send.code py sid)
      fun _ s => s.world.Settled sid := by
  unfold Send.code Gateway.sendCommand
  simp only [Prog.bind_eq, Prog.pure_eq]
  have hroute : (Gateway.route sid : Code T (Route T)).Within Call.unrelated fun _ => True :=
    (Gateway.route_within sid).mono_calls fun _ hd => hd.unrelated
  have henqueue : (call (.enqueueCommand sid send.commandType send.payload.orEmpty
      send.actorResourceId) : Code T _).Within Call.unrelated fun _ => True :=
    .perform ⟨rfl, rfl, rfl, rfl, rfl, rfl⟩ fun _ => trivial
  have hcelld : Triple (timed py tm) (fun s => s.world.Settled sid) (Broker.celldForRoute sid)
      fun r s => s.world.Settled sid ∧ ∀ c, r = .ok c → s.world.Attends c sid := by
    intro s h
    rw [run_celldForRoute py tm sid s]
    have hready : (s.ready tm).Settled sid := ⟨h.session, h.wired, h.current⟩
    cases hfound : s.world.store.getRoute (tm.now s.reading) sid with
    | none => exact ⟨hready, fun _ hc => by cases hc⟩
    | some route =>
      dsimp only
      have howner := Store.getRoute_ownerOf hfound
      cases hobject : s.world.objects route.hostId with
      | none => exact ⟨hready, fun _ hc => by cases hc⟩
      | some celld =>
        refine ⟨hready, fun c hc => ?_⟩
        cases hc
        exact ⟨h.session, h.wired, ⟨route.hostId, howner, hobject⟩,
          h.current route.hostId celld howner hobject⟩
  refine (settled_unrelated py tm hroute).bind (fun _ => ?_) fun _ _ h => h
  refine (settled_unrelated py tm henqueue).bind (fun commandId => ?_) fun _ _ h => h
  refine hcelld.bind (fun celld => ?_) fun _ _ h => h.1
  refine ((attends_consumeCommands py tm).weaken (fun _ h => h.2 celld rfl) fun _ _ h => h).bind
    (fun events => .pure fun _ h => h.settled) fun _ _ h => h.settled

/-! ## Placements -/

omit [LinearOrder T] [IsStrictOrderedRing T] [FloorRing T] in
/-- A lease makes the host it is on the owner. -/
theorem Store.createLease_ownerOf {st st' : Store T} {t : T} {token b : String} {ttlSeconds : Int}
    {host : CellHostRow T} (h : st.createLease t token sid host.id ttlSeconds = .ok (b, st'))
    (hhost : host ∈ st.cellHosts) : st'.ownerOf sid = some host.hostId := by
  have hlease := Store.createLease_lease h sid
  rw [if_pos rfl] at hlease
  obtain ⟨-, -, -, rfl⟩ := Store.createLease_ok h
  have hfind := Data.Table.find?_eq_some.mpr ⟨hhost, rfl⟩
  have hupdate := Data.Table.find?_update st.cellHosts (fun h => h.id == host.id)
    (Store.takeSlot t) (fun _ => rfl) host.id
  rw [hfind] at hupdate
  refine Store.ownerOf_eq_some.mpr ⟨_, hlease, _, hupdate, ?_⟩
  dsimp only
  split <;> rfl

/-- **A placement that succeeds** leaves the cell of the new owner current if and
only if nothing had been said before. -/
theorem placeSession_current_iff (hses : s.world.store.hasSession sid = true)
    (hwired : s.world.Wired) (hplaces : ¬ s.world.PlacementFails) :
    let s' := ((Broker.placeSession py sid).run (timed py tm) s).2
    s'.world.store.hasSession sid = true ∧ s'.world.Wired ∧
      (s'.world.Current sid ↔ Silent (s.world.store.eventsOf sid)) := by
  unfold World.PlacementFails at hplaces
  push Not at hplaces
  obtain ⟨host, hchoose, c, hcallback⟩ := hplaces
  have hmem := (Store.chooseCellHost_ok hchoose).1
  obtain ⟨st, hlease, hleased⟩ := run_createLease_ok py tm hses hmem
  set s₁ : Ticking T := ⟨s.reading + 1, { (s.ready tm).draw .leaseToken with store := st }⟩
  have howner₁ : s₁.world.store.ownerOf sid = some host.hostId :=
    Store.createLease_ownerOf hlease hmem
  obtain ⟨hses₁, hlog₁⟩ : s₁.world.store.hasSession sid = true ∧
      s₁.world.store.eventsOf sid = s.world.store.eventsOf sid := by
    obtain ⟨-, -, -, rfl⟩ := Store.createLease_ok hlease
    exact ⟨hses, rfl⟩
  obtain ⟨cell, s₂, row, hcell, hfound, hnew, hstarted, hlog₂, hses₂⟩ :=
    run_createCell_started py tm c hses₁
  have hplace : ((Broker.placeSession py sid).run (timed py tm) s).2 = s₂ :=
    congrArg Prod.snd (run_placeSession_celld py tm hchoose hleased hcallback hcell)
  -- the cell is created on the host that has been leased
  have hframe : ∀ part : Part, (∀ d : Call T, d.ofCreation c sid → d.writes part = false) →
      Agree part s₁.world s₂.world :=
    fun _ hleaves => agree_of_run py tm (c.createCell_within py sid) hcell hleaves
  have hhosts : s₂.world.store.cellHosts = s₁.world.store.cellHosts :=
    hframe .hosts fun d hd => by cases d <;> first | rfl | exact hd.elim
  have hleases : s₂.world.store.sessionLeases = s₁.world.store.sessionLeases :=
    hframe .leases fun d hd => by cases d <;> first | rfl | exact hd.elim
  obtain ⟨hcallbacks, hobjects⟩ : s₂.world.callbacks = s₁.world.callbacks ∧
      s₂.world.objects = s₁.world.objects :=
    hframe .broker fun d hd => by cases d <;> first | rfl | exact hd.elim
  have howner₂ : s₂.world.store.ownerOf sid = some host.hostId := by
    unfold Store.ownerOf Store.hostOf at howner₁ ⊢
    rw [hhosts, hleases]
    exact howner₁
  have hwired₂ : s₂.world.Wired := by
    unfold World.Wired
    rw [hcallbacks, hobjects]
    exact hwired
  have hobject₂ : s₂.world.objects host.hostId = some c :=
    (hwired₂ host.hostId c).mp (hcallbacks ▸ hcallback)
  dsimp only
  rw [hplace]
  refine ⟨hses₂, hwired₂, (World.current_iff howner₂ hobject₂).trans ?_⟩
  rw [← hlog₁, ← replay_started_iff hstarted, ← hlog₂, ← hnew]
  constructor
  · rintro ⟨cell', hcell', hreplay⟩
    cases hfound.symm.trans hcell'
    exact hreplay
  · exact fun hreplay => ⟨cell, hfound, hreplay⟩

/-- **A placement that fails** leases no host with a `celld`, or none at all. -/
theorem settled_placeSession (hfails : s.world.PlacementFails) (h : s.world.Settled sid) :
    ((Broker.placeSession py sid).run (timed py tm) s).2.world.Settled sid := by
  cases hchoose : s.world.store.chooseCellHost with
  | error e =>
    rw [run_placeSession_unhosted py tm hchoose]
    exact h
  | ok host =>
    have hmem := (Store.chooseCellHost_ok hchoose).1
    obtain ⟨st, hlease, hleased⟩ := run_createLease_ok py tm h.session hmem
    obtain ⟨e, hplace⟩ := run_placeSession_uncallable py tm hchoose hleased (hfails host hchoose)
    rw [hplace]
    constructor
    case session =>
      obtain ⟨-, -, -, rfl⟩ := Store.createLease_ok hlease
      exact h.session
    case wired => exact h.wired
    case current =>
      intro host' c howner hobject
      cases (Store.createLease_ownerOf hlease hmem).symm.trans howner
      exact absurd ((h.wired host.hostId c).mpr hobject) (hfails host hchoose c)

/-! ## Runs -/

/-- What is done with a session: it is placed, or sent a command. -/
inductive SessionStep where
  | place
  | send (command : Send)

def SessionStep.code (py : Py) (sid : String) : SessionStep → Code T Unit
  | .place => do
    let _ ← Broker.placeSession py sid
    return ()
  | .send command => do
    let _ ← command.code py sid
    return ()

/-- The state after a step, whatever comes of it. -/
def SessionStep.next (sid : String) (step : SessionStep) (s : Ticking T) : Ticking T :=
  ((step.code py sid).run (timed py tm) s).2

/-- The cell of the owner holds the whole log after every step. -/
def AlwaysCurrent (sid : String) : List SessionStep → Ticking T → Prop
  | [], _ => True
  | step :: rest, s =>
    (step.next py tm sid s).world.Current sid ∧ AlwaysCurrent sid rest (step.next py tm sid s)

/-- Nothing has been said yet whenever a placement succeeds. -/
def PlacedSilent (sid : String) : List SessionStep → Ticking T → Prop
  | [], _ => True
  | step :: rest, s =>
    (step = .place → ¬ s.world.PlacementFails → Silent (s.world.store.eventsOf sid)) ∧
      PlacedSilent sid rest (step.next py tm sid s)

theorem SessionStep.next_place :
    SessionStep.place.next py tm sid s = ((Broker.placeSession py sid).run (timed py tm) s).2 :=
  Prog.run_bind_pure (timed py tm) (Broker.placeSession py sid) (fun _ => ()) s

theorem SessionStep.next_send (command : Send) :
    (SessionStep.send command).next py tm sid s = ((command.code py sid).run (timed py tm) s).2 :=
  Prog.run_bind_pure (timed py tm) (command.code py sid) (fun _ => ()) s

variable (sid) in
/-- From a settled session, the cell stays current as long as every placement
that succeeds finds a silent log. -/
theorem settled_current_iff (steps : List SessionStep) {s : Ticking T}
    (h : s.world.Settled sid) :
    AlwaysCurrent py tm sid steps s ↔ PlacedSilent py tm sid steps s := by
  induction steps generalizing s with
  | nil => exact Iff.rfl
  | cons step rest ih =>
    unfold AlwaysCurrent PlacedSilent
    cases step with
    | send command =>
      have hnext : ((SessionStep.send command).next py tm sid s).world.Settled sid := by
        rw [SessionStep.next_send]
        exact settled_send py tm command s h
      rw [ih hnext]
      exact ⟨fun hboth => ⟨nofun, hboth.2⟩, fun hboth => ⟨hnext.current, hboth.2⟩⟩
    | place =>
      by_cases hfails : s.world.PlacementFails
      · have hnext : (SessionStep.place.next py tm sid s).world.Settled sid := by
          rw [SessionStep.next_place]
          exact settled_placeSession py tm hfails h
        rw [ih hnext]
        exact ⟨fun hboth => ⟨fun _ hplaces => absurd hfails hplaces, hboth.2⟩,
          fun hboth => ⟨hnext.current, hboth.2⟩⟩
      · obtain ⟨hses, hwired, hiff⟩ := placeSession_current_iff py tm h.session h.wired hfails
        rw [← SessionStep.next_place] at hses hwired hiff
        rw [hiff]
        constructor
        · rintro ⟨hsilent, hrest⟩
          exact ⟨fun _ _ => hsilent, (ih ⟨hses, hwired, hiff.mpr hsilent⟩).mp hrest⟩
        · rintro ⟨hsilent, hrest⟩
          have hsilent := hsilent rfl hfails
          exact ⟨hsilent, (ih ⟨hses, hwired, hiff.mpr hsilent⟩).mpr hrest⟩

/-- **Placing a session again.** From any state with the session in it, place it and
go on as you like. The live cell of the owner holds the whole log after every
step if and only if nothing had been said yet whenever the session was placed. -/
theorem replacement_current_iff (sid : String) (steps : List SessionStep) (s : Ticking T)
    (hses : s.world.store.hasSession sid = true) (hwired : s.world.Wired)
    (hplaces : ¬ s.world.PlacementFails) :
    AlwaysCurrent py tm sid (.place :: steps) s ↔ PlacedSilent py tm sid (.place :: steps) s := by
  obtain ⟨hses', hwired', hiff⟩ := placeSession_current_iff py tm hses hwired hplaces
  rw [← SessionStep.next_place] at hses' hwired' hiff
  unfold AlwaysCurrent PlacedSilent
  rw [hiff]
  constructor
  · rintro ⟨hsilent, hrest⟩
    have hsettled := World.Settled.mk hses' hwired' (hiff.mpr hsilent)
    exact ⟨fun _ _ => hsilent, (settled_current_iff py tm sid steps hsettled).mp hrest⟩
  · rintro ⟨hsilent, hrest⟩
    have hsilent := hsilent rfl hplaces
    have hsettled := World.Settled.mk hses' hwired' (hiff.mpr hsilent)
    exact ⟨hsilent, (settled_current_iff py tm sid steps hsettled).mpr hrest⟩

end Runs

/-! ## Samples -/

theorem oneSession_places : ¬ oneSession.PlacementFails := by
  intro hfails
  have hhost : (oneSession.store.chooseCellHost.toOption.map CellHostRow.hostId) =
      some "cell-local" := by decide +kernel
  have hcallback : oneSession.callbacks "cell-local" = some (.celld (localCelld [])) := by
    with_unfolding_all rfl
  cases hchoose : oneSession.store.chooseCellHost with
  | error e =>
    rw [hchoose] at hhost
    cases hhost
  | ok host =>
    rw [hchoose] at hhost
    have heq : host.hostId = "cell-local" := Option.some.inj hhost
    exact hfails host hchoose _ (heq ▸ hcallback)

theorem oneSession_wired : oneSession.Wired := by
  have hcallbacks : oneSession.callbacks =
      Function.update (fun _ => none) "cell-local" (some (.celld (localCelld []))) := by
    with_unfolding_all rfl
  have hobjects : oneSession.objects =
      Function.update (fun _ => none) "cell-local" (some (localCelld [])) := by
    with_unfolding_all rfl
  intro host c
  rw [hcallbacks, hobjects]
  by_cases h : host = "cell-local"
  · subst h
    rw [Function.update_self, Function.update_self]
    exact ⟨fun h => by cases h; rfl, fun h => by cases h; rfl⟩
  · rw [Function.update_of_ne h, Function.update_of_ne h]
    exact ⟨nofun, nofun⟩

/-- An echo, as a step. -/
def echoHi : SessionStep := .send ⟨"echo", .obj [("text", .str "hi")], none⟩

/-- After the session has been placed again, told something and placed once more. -/
def replacedAgain : World ℚ :=
  (SessionStep.place.next Py.sample (.still 0 Sample.files) "s"
    (echoHi.next Py.sample (.still 0 Sample.files) "s"
      (SessionStep.place.next Py.sample (.still 0 Sample.files) "s" ⟨0, oneSession⟩))).world

/-- **Placed again, the session has forgotten what was said**: its log has a
message that its cell does not have. -/
theorem replaced_cell_forgets :
    ((replacedAgain.cells 0 "s").map fun cell => (replacedAgain.heap cell.addr).messages.length) =
        some 0 ∧
      ((replay .initial (replacedAgain.store.eventsOf "s")).toOption.map fun state =>
        state.messages.length) = some 1 ∧
      ¬ AlwaysCurrent Py.sample (.still 0 Sample.files) "s" [.place, echoHi, .place]
        ⟨0, oneSession⟩ := by
  have hlive : ((replacedAgain.cells 0 "s").map fun cell =>
      (replacedAgain.heap cell.addr).messages.length) = some 0 := by decide +kernel
  have hlog : ((replay .initial (replacedAgain.store.eventsOf "s")).toOption.map fun state =>
      state.messages.length) = some 1 := by decide +kernel
  refine ⟨hlive, hlog, fun hcurrent => ?_⟩
  have howner : replacedAgain.store.ownerOf "s" = some "cell-local" := by decide +kernel
  have hobject : replacedAgain.objects "cell-local" = some (localCelld []) := by
    with_unfolding_all rfl
  obtain ⟨-, -, hlast, -⟩ := hcurrent
  have hlast : replacedAgain.Current "s" := hlast
  obtain ⟨cell, hcell, hreplay⟩ := hlast "cell-local" (localCelld []) howner hobject
  have hcell : replacedAgain.cells 0 "s" = some cell := hcell
  rw [hcell] at hlive
  rw [hreplay] at hlog
  cases (Option.some.inj hlive).symm.trans (Option.some.inj hlog)

/-- Placed again before anything is said, it keeps up with what is. -/
theorem replacement_current_iff_sample :
    AlwaysCurrent Py.sample (.still 0 Sample.files) "s" [.place, echoHi] ⟨0, oneSession⟩ := by
  have hses : oneSession.store.hasSession "s" = true := by decide +kernel
  have hsilent : Silent (oneSession.store.eventsOf "s") := by
    unfold Silent
    decide +kernel
  refine (replacement_current_iff Py.sample (.still 0 Sample.files) "s" [echoHi] ⟨0, oneSession⟩
    hses oneSession_wired oneSession_places).mpr ⟨fun _ _ => hsilent, ?_⟩
  exact ⟨nofun, trivial⟩

end Nadi
