import Nadi.Model.Timed

/-!
# Replaying a log

`replay` folds `Celld._apply` over events. `reconstruct_cell` computes it: from
any state it ends with a new cell that holds the replay of the session's log,
registered, or raises where the replay does, and touches nothing else.
-/

namespace Nadi

open Effect

variable {T : Type}

/-- The fold of `_apply` over events, from a state. -/
def replay (s : CellState) (events : List (EventRow T)) : Except PyErr CellState :=
  events.foldlM (fun s ev => applyEvent s ev.eventType ev.payload) s

@[simp] theorem replay_nil (s : CellState) : replay s ([] : List (EventRow T)) = .ok s := rfl

theorem replay_cons (s : CellState) (ev : EventRow T) (rest : List (EventRow T)) :
    replay s (ev :: rest) =
      (applyEvent s ev.eventType ev.payload).bind fun s' => replay s' rest :=
  List.foldlM_cons

theorem replay_append (s : CellState) (events rest : List (EventRow T)) :
    replay s (events ++ rest) = (replay s events).bind fun s' => replay s' rest :=
  List.foldlM_append

/-- Every event with a dict as its payload can be applied. -/
theorem applyEvent_of_isObj {payload : Json} (h : payload.isObj = true) (s : CellState)
    (eventType : String) : ∃ s', applyEvent s eventType payload = .ok s' := by
  unfold applyEvent
  split
  · obtain ⟨text, htext⟩ := Json.get_of_isObj h "text" (.str "")
    exact ⟨_, by rw [htext]⟩
  split
  · exact ⟨_, rfl⟩
  split
  · exact ⟨_, rfl⟩
  · exact ⟨_, rfl⟩

variable [Field T] [LinearOrder T] (py : Py) (tm : Timing T)

omit [Field T] [LinearOrder T] in
/-- After an event has been added to the log. -/
def World.append (w : World T) (sid eventType : String) (payload : Json) : World T :=
  { w with
    store := { w.store with
      events := w.store.events.push
        (Store.newEvent w.clock sid (w.store.nextSequence sid) eventType payload none)
        fun _ => rfl } }

/-- **Appending an event** to a session that exists takes one reading, adds to
the log, and moves the cell that is registered then. -/
theorem run_appendEvent (c : Celld) {sid eventType : String} {payload : Json} {s : Ticking T}
    (hses : s.world.store.hasSession sid = true) (hobj : payload.orEmpty.isObj = true) :
    ∃ heap, (c.appendEvent sid eventType payload).run (timed py tm) s =
      (.ok ⟨sid, s.world.store.nextSequence sid, eventType, payload.orEmpty, none⟩,
        ⟨s.reading + 1, { (s.ready tm).append sid eventType payload with heap }⟩) ∧
      match s.world.cells c.ref sid with
      | none => heap = s.world.heap
      | some cell => ∃ state,
          applyEvent (s.world.heap cell.addr) eventType payload.orEmpty = .ok state ∧
          heap = Function.update s.world.heap cell.addr state := by
  have happend : (call (.appendEvent sid eventType payload.orEmpty none)).run (timed py tm) s =
      (.ok ⟨sid, s.world.store.nextSequence sid, eventType, payload.orEmpty, none⟩,
        ⟨s.reading + 1, (s.ready tm).append sid eventType payload⟩) := by
    rw [Prog.run_perform, timed_reads py tm s rfl (by simp)]
    have hexec : exec py (.appendEvent sid eventType payload.orEmpty none) (s.ready tm) =
        (s.ready tm).commit ((s.ready tm).store.appendEvent (tm.now s.reading) sid eventType
          payload.orEmpty none) := rfl
    have hses' : (s.ready tm).store.hasSession sid = true := hses
    rw [hexec, Store.appendEvent_eq hses']
    simp only [World.commit, World.append, Json.orEmpty_orEmpty, Store.newEvent_orEmpty]
    rfl
  have hget : (call (.cellsGet c.ref sid)).run (timed py tm)
      ⟨s.reading + 1, (s.ready tm).append sid eventType payload⟩ =
      (.ok (s.world.cells c.ref sid),
        ⟨s.reading + 1, (s.ready tm).append sid eventType payload⟩) := rfl
  unfold Celld.appendEvent
  simp only [Prog.bind_eq]
  rw [Prog.run_bind_ok _ happend, Prog.run_bind_ok _ hget]
  cases s.world.cells c.ref sid with
  | none => exact ⟨s.world.heap, rfl, rfl⟩
  | some cell =>
    obtain ⟨state, hstate⟩ := applyEvent_of_isObj hobj (s.world.heap cell.addr) eventType
    refine ⟨Function.update s.world.heap cell.addr state, ?_, state, hstate, rfl⟩
    suffices happly : (call (.apply cell eventType payload.orEmpty)).run (timed py tm)
        ⟨s.reading + 1, (s.ready tm).append sid eventType payload⟩ =
        (.ok (), ⟨s.reading + 1, { (s.ready tm).append sid eventType payload with
          heap := Function.update s.world.heap cell.addr state }⟩) from Prog.run_bind_ok _ happly
    rw [Prog.run_perform, timed_quiet py tm _ rfl]
    rcases exec_apply py ((s.ready tm).append sid eventType payload) cell eventType payload.orEmpty
      with ⟨e, hap, -⟩ | ⟨st, hap, hx⟩
    · cases hap.symm.trans hstate
    · cases hap.symm.trans hstate
      rw [hx]
      rfl

/-- Applying a log to a cell replays it onto the state of the cell. -/
theorem run_applyEvents (cell : Cell) (events : List (EventRow T)) (s : Ticking T) :
    ∃ state, (Celld.applyEvents cell events).run (timed py tm) s =
        ((replay (s.world.heap cell.addr) events).map fun _ => (),
          { s with world := { s.world with
              heap := Function.update s.world.heap cell.addr state } }) ∧
      ∀ done, replay (s.world.heap cell.addr) events = .ok done → state = done := by
  induction events generalizing s with
  | nil =>
    refine ⟨s.world.heap cell.addr, ?_, fun done h => by cases h; rfl⟩
    rw [Function.update_eq_self]
    rfl
  | cons ev rest ih =>
    rw [replay_cons]
    rcases exec_apply py s.world cell ev.eventType ev.payload with ⟨e, hap, hx⟩ | ⟨st, hap, hx⟩
    · have hrun : (call (.apply cell ev.eventType ev.payload)).run (timed py tm) s =
          (.error e, s) := by
        rw [Prog.run_perform, timed_quiet py tm s rfl, hx]
      refine ⟨s.world.heap cell.addr, ?_, fun done h => ?_⟩
      · rw [Function.update_eq_self, hap]
        exact Prog.run_bind_error _ hrun
      · rw [hap] at h
        cases h
    · have hrun : (call (.apply cell ev.eventType ev.payload)).run (timed py tm) s =
          (.ok (), { s with world := { s.world with
            heap := Function.update s.world.heap cell.addr st } }) := by
        rw [Prog.run_perform, timed_quiet py tm s rfl, hx]
      obtain ⟨state, hrest, hdone⟩ := ih { s with world := { s.world with
        heap := Function.update s.world.heap cell.addr st } }
      dsimp only at hrest hdone
      rw [Function.update_self] at hrest hdone
      rw [Function.update_idem] at hrest
      rw [hap]
      exact ⟨state, (Prog.run_bind_ok _ hrun).trans hrest, hdone⟩

variable [IsStrictOrderedRing T] [FloorRing T]

/-- The cell `reconstruct_cell` builds. -/
def Celld.rebuilt (c : Celld) (sid : String) (s : Ticking T) : Cell where
  addr := s.world.nextAddr
  sessionId := sid
  jwt := c.jwt.sign py (truncate (tm.rebuild s.reading)) (s.world.fresh py .jti) sid "cell tool"
    3600 c.hostId

/-- **Rebuilding a cell** replays the log and takes no reading. -/
theorem run_reconstructCell (c : Celld) (sid : String) (s : Ticking T) :
    ∃ state, (c.reconstructCell py sid).run (timed py tm) s =
      match replay .initial (s.world.store.getEvents sid 0) with
      | .error e =>
        (.error e, { s with world := { s.world.draw .jti with
          heap := Function.update s.world.heap s.world.nextAddr state
          nextAddr := s.world.nextAddr + 1 } })
      | .ok done =>
        (.ok (c.rebuilt py tm sid s), { s with world := { s.world.draw .jti with
          heap := Function.update s.world.heap s.world.nextAddr done
          nextAddr := s.world.nextAddr + 1
          cells := Function.update s.world.cells c.ref
            (Function.update (s.world.cells c.ref) sid (some (c.rebuilt py tm sid s))) } }) := by
  -- the token and the new cell
  have hsign : (c.jwt.signNow py .reconstructCell sid "cell tool" 3600 c.hostId).run
      (timed py tm) s = (.ok (c.rebuilt py tm sid s).jwt,
        { s with world := s.world.draw .jti }) := rfl
  have hnew : (call (.newCell sid (c.rebuilt py tm sid s).jwt)).run (timed py tm)
      { s with world := s.world.draw .jti } =
      (.ok (c.rebuilt py tm sid s), { s with world := { s.world.draw .jti with
        heap := Function.update s.world.heap s.world.nextAddr .initial
        nextAddr := s.world.nextAddr + 1 } }) := rfl
  have hlog : (call (.getEvents sid 0)).run (timed py tm)
      { s with world := { s.world.draw .jti with
        heap := Function.update s.world.heap s.world.nextAddr .initial
        nextAddr := s.world.nextAddr + 1 } } =
      (.ok (s.world.store.getEvents sid 0), { s with world := { s.world.draw .jti with
        heap := Function.update s.world.heap s.world.nextAddr .initial
        nextAddr := s.world.nextAddr + 1 } }) := rfl
  -- the events
  obtain ⟨state, hevents, hdone⟩ := run_applyEvents py tm (c.rebuilt py tm sid s)
    (s.world.store.getEvents sid 0) { s with world := { s.world.draw .jti with
      heap := Function.update s.world.heap s.world.nextAddr .initial
      nextAddr := s.world.nextAddr + 1 } }
  have haddr : (c.rebuilt py tm sid s).addr = s.world.nextAddr := rfl
  rw [haddr] at hevents hdone
  dsimp only at hevents hdone
  rw [Function.update_self] at hevents hdone
  rw [Function.update_idem] at hevents
  refine ⟨state, ?_⟩
  refine (Prog.run_bind_ok _ hsign).trans ((Prog.run_bind_ok _ hnew).trans
    ((Prog.run_bind_ok _ hlog).trans ?_))
  cases hreplay : replay .initial (s.world.store.getEvents sid 0) with
  | error e =>
    rw [hreplay] at hevents
    exact Prog.run_bind_error _ hevents
  | ok done =>
    rw [hreplay, hdone done hreplay] at hevents
    refine (Prog.run_bind_ok _ hevents).trans ?_
    rfl

/-- A cell that is registered is used as it is. -/
theorem run_liveCell_found (c : Celld) (sid : String) {s : Ticking T} {cell : Cell}
    (h : s.world.cells c.ref sid = some cell) :
    (c.liveCell py sid).run (timed py tm) s = (.ok cell, s) := by
  have hget : (call (.cellsGet c.ref sid)).run (timed py tm) s = (.ok (some cell), s) :=
    congrArg (fun found => (Except.ok found, s)) h
  exact Prog.run_bind_ok _ hget

/-- A cell that is not is rebuilt. -/
theorem run_liveCell_lost (c : Celld) (sid : String) {s : Ticking T}
    (h : s.world.cells c.ref sid = none) :
    (c.liveCell py sid).run (timed py tm) s = (c.reconstructCell py sid).run (timed py tm) s := by
  have hget : (call (.cellsGet c.ref sid)).run (timed py tm) s = (.ok none, s) :=
    congrArg (fun found => (Except.ok found, s)) h
  exact Prog.run_bind_ok _ hget

/-- **The live cell** is the one that is registered, or one rebuilt from a log that
can be replayed. Nothing is stored for it and no claim token is drawn. -/
theorem run_liveCell_cases (c : Celld) (sid : String) (s : Ticking T) :
    ∃ s', s'.reading = s.reading ∧ s'.world.store = s.world.store ∧
      s'.world.drawn .claimToken = s.world.drawn .claimToken ∧
      match s.world.cells c.ref sid, replay .initial (s.world.store.getEvents sid 0) with
      | some cell, _ => (c.liveCell py sid).run (timed py tm) s = (.ok cell, s')
      | none, .error e => (c.liveCell py sid).run (timed py tm) s = (.error e, s')
      | none, .ok _ => (c.liveCell py sid).run (timed py tm) s = (.ok (c.rebuilt py tm sid s), s') := by
  cases hcell : s.world.cells c.ref sid with
  | some cell => exact ⟨s, rfl, rfl, rfl, run_liveCell_found py tm c sid hcell⟩
  | none =>
    have hdraw : (s.world.draw .jti).drawn .claimToken = s.world.drawn .claimToken :=
      World.draw_of_ne (by decide)
    obtain ⟨state, hrun⟩ := run_reconstructCell py tm c sid s
    rw [← run_liveCell_lost py tm c sid hcell] at hrun
    dsimp only at hrun ⊢
    cases hreplay : replay .initial (s.world.store.getEvents sid 0) with
    | error e =>
      rw [hreplay] at hrun
      refine ⟨_, ?_, ?_, ?_, hrun⟩
      exacts [rfl, rfl, hdraw]
    | ok done =>
      rw [hreplay] at hrun
      refine ⟨_, ?_, ?_, ?_, hrun⟩
      exacts [rfl, rfl, hdraw]

end Nadi
