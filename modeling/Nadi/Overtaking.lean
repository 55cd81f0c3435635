import Mathlib.Data.Rat.Floor
import Nadi.CellThreads
import Nadi.Crash

/-!
# Threads that send commands to one session

`append_event` adds an event to the log in one step and applies it to the
registered cell in a later one, so a second thread may come in between: its
event is later in the log and earlier in the cell. And a cell that is rebuilt
may be registered after events that it has not read were applied to another.

Whatever threads do with the cell of a session is a run of the protocol of
`Data.CachedLog` (`OnCell.step`), except that the protocol forbids the two. In
runs in which neither happens the registered cell is, once all calls have
returned, the replay of the log (`live_cell_agrees`); `messages_overtake` is a
run in which the first happens.
-/

namespace Nadi

open Data.CachedLog
open Effect

variable {T ι : Type}

/-! ## The protocol of a session -/

section Views

variable [DecidableEq ι] (c : Celld) (sid : String)

/-- What a thread is doing. -/
def workAt (tr : Trace ι T) (i : ι) : Work := Role.localAt (fun _ => cellRole sid) tr i

/-- The phases of all threads. -/
def cellPhases (tr : Trace ι T) (i : ι) : Data.CachedLog.Phase LogEntry := (workAt sid tr i).phase

/-- The log of a session, the address of its registered cell, and all cells. -/
def World.board (w : World T) : Board LogEntry CellState where
  log := (w.store.eventsOf sid).map EventRow.entry
  slot := (w.cells c.ref sid).map Cell.addr
  heap := w.heap
  next := w.nextAddr

/-- Events reach the registered cell in the order of the log, but for events
that may be exchanged; and a rebuilt cell is registered only if the events it
has read are those that no thread will apply to it, but for events `_apply`
ignores. -/
def InOrder (p : Moment ι T) (i : ι) (d : Call T) : Prop :=
  match cellPhases sid p.trace i, d with
  | .holding a e, .apply .. => (p.state.board c sid).slot = some a →
      MayApply LogEntry.applyTo (cellPhases sid p.trace) (p.state.board c sid) e
  | .building _ read [], .cellsSet .. =>
      MayPublish LogEntry.applyTo (cellPhases sid p.trace) (p.state.board c sid) read
  | _, _ => True

/-- What is true of a state between requests: every `celld` the broker names is
`c`, the events of the session carry dicts, and the registered cell, if any, is
the replay of the log. -/
structure AtRest (w : World T) : Prop where
  contiguous : w.store.Contiguous
  objects : ∀ host object, w.objects host = some object → object = c
  events : ∀ ev ∈ w.store.eventsOf sid, ev.payload.isObj = true
  allocated : ∀ cell, w.cells c.ref sid = some cell → cell.addr < w.nextAddr
  replayed : ∀ cell, w.cells c.ref sid = some cell →
    replay .initial (w.store.getEvents sid 0) = .ok (w.heap cell.addr)

/-- A moment of a run on such a state. -/
structure OnCell (p : Moment ι T) : Prop where
  contiguous : p.state.store.Contiguous
  objects : ∀ host object, p.state.objects host = some object → object = c
  celld : ∀ i object, (workAt sid p.trace i).celld = some object → object = c
  events : ∀ ev ∈ p.state.store.eventsOf sid, ev.payload.isObj = true
  protocol : Inv LogEntry.applyTo .initial (cellPhases sid p.trace) (p.state.board c sid)

end Views

/-- In a log numbered without gaps no entry occurs twice. -/
theorem Store.Contiguous.entries_nodup {st : Store T} (h : st.Contiguous) (sid : String) :
    ((st.eventsOf sid).map EventRow.entry).Nodup := by
  have hseq : (((st.eventsOf sid).map EventRow.entry).map LogEntry.sequence).Nodup := by
    rw [List.map_map]
    show ((st.eventsOf sid).map EventRow.sequence).Nodup
    rw [h sid]
    exact List.nodup_range'
  exact List.Nodup.of_map _ hseq

section Runs

variable [DecidableEq ι] [Field T] [LinearOrder T] {py : Py} {c : Celld} {sid : String}

/-- One call moves one thread. -/
theorem cellPhases_after (p : Moment ι T) (i : ι) (d : Call T) :
    cellPhases sid (p.after (exec py) i d).trace = Function.update (cellPhases sid p.trace) i
      (nextPhase (cellPhases sid p.trace i) d (exec py d p.state).1) := by
  funext j
  show (Role.localAt (fun _ => cellRole sid) _ j).phase = _
  rw [Role.localAt_after _ (exec py) p i d]
  by_cases hj : j = i
  · subst hj
    rw [Function.update_self, Function.update_self]
    rfl
  · rw [Function.update_of_ne hj, Function.update_of_ne hj]
    rfl

omit [Field T] [LinearOrder T] in
/-- A call that is aside moves no thread. -/
theorem nextPhase_aside {d : Call T} (hd : d.aside = true) (r : Except PyErr d.Ret) :
    nextPhase .idle d r = .idle := by
  cases d <;> first | rfl | cases hd

namespace OnCell

variable {p : Moment ι T} {i : ι} {d : Call T}

/-- The broker names no other `celld`. -/
theorem celld_after (h : OnCell c sid p) {j : ι} {object : Celld}
    (hj : (workAt sid (p.after (exec py) i d).trace j).celld = some object) : object = c := by
  change (Role.localAt (fun _ => cellRole sid) _ j).celld = some object at hj
  rw [Role.localAt_after _ (exec py) p i d] at hj
  by_cases hij : j = i
  · subst hij
    rw [Function.update_self] at hj
    change nextCelld (workAt sid p.trace j).celld d _ = some object at hj
    cases d with
    | object host =>
      change nextCelld _ (.object host) (.ok (p.state.objects host)) = some object at hj
      cases hobject : p.state.objects host with
      | none =>
        rw [hobject] at hj
        exact h.celld j object hj
      | some found =>
        rw [hobject] at hj
        rw [← Option.some.inj hj]
        exact h.objects host found hobject
    | _ => exact h.celld j object hj
  · rw [Function.update_of_ne hij] at hj
    exact h.celld j object hj

/-- A call that is aside leaves the cell alone. -/
theorem board_aside (w : World T) (hd : d.aside = true) :
    (exec py d w).2.board c sid = w.board c sid := by
  simp only [Call.aside, List.all_cons, List.all_nil, Bool.and_true, Bool.and_eq_true,
    Bool.not_eq_true'] at hd
  obtain ⟨hevents, hheap, hcells, -⟩ := hd
  unfold World.board Store.eventsOf
  rw [exec_events py w hevents, exec_heap py w hheap, exec_cells py w hcells,
    exec_nextAddr py w hheap]

/-- An event is appended, or the store refuses it. -/
theorem step_append (h : OnCell c sid p) (hi : cellPhases sid p.trace i = .idle)
    {eventType : String} {payload : Json} (actor : Option String) (hobj : payload.isObj = true) :
    let d : Call T := .appendEvent sid eventType payload actor
    Inv LogEntry.applyTo .initial (cellPhases sid (p.after (exec py) i d).trace)
      ((p.after (exec py) i d).state.board c sid) := by
  intro d
  rw [cellPhases_after, hi]
  have hexec : exec py d p.state = p.state.commit
      (p.state.store.appendEvent p.state.clock sid eventType payload actor) := rfl
  rw [Point.after_state, hexec]
  cases hr : p.state.store.appendEvent p.state.clock sid eventType payload actor with
  | error e =>
    show Inv _ _ (Function.update (cellPhases sid p.trace) i .idle) (p.state.board c sid)
    rw [Function.update_eq_self_iff.mpr hi.symm]
    exact h.protocol
  | ok appended =>
    obtain ⟨ev, st⟩ := appended
    have hlog := Store.eventsOf_append hr sid
    obtain ⟨hev, -, -⟩ := Store.appendEvent_ok hr
    rw [if_pos rfl] at hlog
    have hnew : (⟨ev.sequence, eventType, payload⟩ : LogEntry) ∉ (p.state.board c sid).log := by
      intro hmem
      obtain ⟨row, hrow, hentry⟩ := List.mem_map.mp hmem
      have hlt := Store.lt_nextSequence hrow
      have hseq : row.sequence = ev.sequence := congrArg LogEntry.sequence hentry
      rw [hseq, hev] at hlt
      exact Nat.lt_irrefl _ hlt
    have hboard : ({ p.state with store := st } : World T).board c sid =
        { p.state.board c sid with
          log := (p.state.board c sid).log ++ [⟨ev.sequence, eventType, payload⟩] } := by
      unfold World.board
      dsimp only
      rw [hlog, List.map_append, hev]
      have hpayload : payload.orEmpty = payload := Json.orEmpty_of_isObj hobj
      simp only [List.map_cons, List.map_nil, EventRow.entry, Store.newEvent, hpayload]
    show Inv _ _ (Function.update (cellPhases sid p.trace) i (.wrote _))
      (({ p.state with store := st } : World T).board c sid)
    rw [hboard]
    exact h.protocol.append hi hnew

/-- **What an idle thread does** to the cell: it appends an event, takes a new
cell, or does something else. -/
theorem step_idle (h : OnCell c sid p) (hi : cellPhases sid p.trace i = .idle)
    (hmay : (cellRole sid).may (workAt sid p.trace i) d) :
    Inv LogEntry.applyTo .initial (cellPhases sid (p.after (exec py) i d).trace)
      ((p.after (exec py) i d).state.board c sid) := by
  have hother : d.aside = true → Inv LogEntry.applyTo .initial
      (cellPhases sid (p.after (exec py) i d).trace) ((p.after (exec py) i d).state.board c sid) := by
    intro hd
    have hboard : (p.after (exec py) i d).state.board c sid = p.state.board c sid :=
      board_aside p.state hd
    rw [cellPhases_after, hi, nextPhase_aside hd, hboard]
    have hsame : Function.update (cellPhases sid p.trace) i .idle = cellPhases sid p.trace :=
      Function.update_eq_self_iff.mpr hi.symm
    rw [hsame]
    exact h.protocol
  have hwork : workAt sid p.trace i = ⟨(workAt sid p.trace i).celld, .idle⟩ := by
    rw [← hi]
    rfl
  rw [hwork] at hmay
  cases d with
  | appendEvent s eventType payload actor =>
    obtain ⟨rfl, hobj⟩ := hmay
    exact h.step_append hi actor hobj
  | newCell s jwt =>
    have halloc := h.protocol.alloc hi
    rw [cellPhases_after, hi]
    exact halloc
  | _ => exact hother hmay

/-- **What a thread that has appended an event does**: it looks for the cell. -/
theorem step_wrote (h : OnCell c sid p) {e : LogEntry} (hi : cellPhases sid p.trace i = .wrote e)
    (hmay : (cellRole sid).may (workAt sid p.trace i) d) :
    Inv LogEntry.applyTo .initial (cellPhases sid (p.after (exec py) i d).trace)
      ((p.after (exec py) i d).state.board c sid) := by
  have hwork : workAt sid p.trace i = ⟨(workAt sid p.trace i).celld, .wrote e⟩ := by
    rw [← hi]
    rfl
  rw [hwork] at hmay
  cases d with
  | cellsGet ref s =>
    obtain ⟨rfl, hcelld⟩ := hmay
    obtain ⟨object, hobject, rfl⟩ := Option.map_eq_some_iff.mp hcelld
    obtain rfl := h.celld i object hobject
    rw [cellPhases_after, hi]
    show Inv _ _ (Function.update _ i (nextPhase (.wrote e) (.cellsGet object.ref s)
      (.ok (p.state.cells object.ref s)))) (p.state.board object s)
    cases hslot : p.state.cells object.ref s with
    | none => exact h.protocol.miss (congrArg (Option.map Cell.addr) hslot)
    | some cell => exact h.protocol.find hi (congrArg (Option.map Cell.addr) hslot)
  | _ => exact hmay.elim

/-- An entry is applied to a cell, or `_apply` raises and the cell stays. -/
theorem board_apply (w : World T) (cell : Cell) (e : LogEntry) :
    (exec py (.apply cell e.eventType e.payload) w).2.board c sid =
      { w.board c sid with
        heap := Function.update w.heap cell.addr (e.applyTo (w.heap cell.addr)) } := by
  unfold World.board
  rcases exec_apply py w cell e.eventType e.payload with ⟨err, happ, hx⟩ | ⟨s, happ, hx⟩
  · have hstay : e.applyTo (w.heap cell.addr) = w.heap cell.addr := by
      unfold LogEntry.applyTo
      rw [happ]
    rw [hx, hstay, Function.update_eq_self]
  · rw [hx, LogEntry.applyTo_of_ok happ]

/-- **What a thread that holds the cell does**: it applies its event. -/
theorem step_holding (h : OnCell c sid p) {a : ℕ} {e : LogEntry}
    (hi : cellPhases sid p.trace i = .holding a e)
    (hmay : (cellRole sid).may (workAt sid p.trace i) d) (hallow : InOrder c sid p i d) :
    Inv LogEntry.applyTo .initial (cellPhases sid (p.after (exec py) i d).trace)
      ((p.after (exec py) i d).state.board c sid) := by
  have hwork : workAt sid p.trace i = ⟨(workAt sid p.trace i).celld, .holding a e⟩ := by
    rw [← hi]
    rfl
  rw [hwork] at hmay
  unfold InOrder at hallow
  rw [hi] at hallow
  cases d with
  | apply cell eventType payload =>
    obtain ⟨rfl, rfl, rfl⟩ := hmay
    rw [cellPhases_after, hi, Point.after_state, board_apply]
    exact h.protocol.apply hi hallow
  | _ => exact hmay.elim

/-- **What a thread with a new cell does**: it reads the log. -/
theorem step_fresh (h : OnCell c sid p) {a : ℕ} (hi : cellPhases sid p.trace i = .fresh a)
    (hmay : (cellRole sid).may (workAt sid p.trace i) d) :
    Inv LogEntry.applyTo .initial (cellPhases sid (p.after (exec py) i d).trace)
      ((p.after (exec py) i d).state.board c sid) := by
  have hwork : workAt sid p.trace i = ⟨(workAt sid p.trace i).celld, .fresh a⟩ := by
    rw [← hi]
    rfl
  rw [hwork] at hmay
  cases d with
  | getEvents s after =>
    obtain ⟨rfl, rfl⟩ := hmay
    have hlog : (p.state.store.getEvents s 0).map EventRow.entry = (p.state.board c s).log := by
      have hall := h.contiguous.getEvents s 0
      rw [List.drop_zero] at hall
      exact congrArg (List.map EventRow.entry) hall
    rw [cellPhases_after, hi]
    show Inv _ _ (Function.update _ i (.building a
      ((p.state.store.getEvents s 0).map EventRow.entry)
      ((p.state.store.getEvents s 0).map EventRow.entry))) (p.state.board c s)
    rw [hlog]
    exact h.protocol.read hi
  | _ => exact hmay.elim

/-- **What a thread that rebuilds the cell does**: it loads what it has read,
and registers the cell at last. -/
theorem step_building (h : OnCell c sid p) {a : ℕ} {read rest : List LogEntry}
    (hi : cellPhases sid p.trace i = .building a read rest)
    (hmay : (cellRole sid).may (workAt sid p.trace i) d) (hallow : InOrder c sid p i d) :
    Inv LogEntry.applyTo .initial (cellPhases sid (p.after (exec py) i d).trace)
      ((p.after (exec py) i d).state.board c sid) := by
  have hwork : workAt sid p.trace i = ⟨(workAt sid p.trace i).celld, .building a read rest⟩ := by
    rw [← hi]
    rfl
  rw [hwork] at hmay
  cases rest with
  | nil =>
    unfold InOrder at hallow
    rw [hi] at hallow
    cases d with
    | cellsSet ref s cell =>
      obtain ⟨rfl, hcelld, rfl⟩ := hmay
      obtain ⟨object, hobject, rfl⟩ := Option.map_eq_some_iff.mp hcelld
      obtain rfl := h.celld i object hobject
      have hboard : (exec py (.cellsSet object.ref s cell) p.state).2.board object s =
          { p.state.board object s with slot := some cell.addr } := by
        have hcells : (exec py (.cellsSet object.ref s cell) p.state).2.cells object.ref s =
            some cell := by
          show Function.update p.state.cells object.ref
            (Function.update (p.state.cells object.ref) s (some cell)) object.ref s = _
          rw [Function.update_self, Function.update_self]
        unfold World.board
        rw [hcells]
        rfl
      rw [cellPhases_after, hi, Point.after_state, hboard]
      exact h.protocol.publish hi hallow
    | _ => exact hmay.elim
  | cons e rest =>
    cases d with
    | apply cell eventType payload =>
      obtain ⟨rfl, rfl, rfl⟩ := hmay
      rw [cellPhases_after, hi, Point.after_state]
      rcases exec_apply py p.state cell e.eventType e.payload with ⟨err, happ, hx⟩ | ⟨s, happ, hx⟩
      · rw [hx]
        exact h.protocol.leave (by rw [hi]; rfl)
      · have hload := h.protocol.load hi
        rw [board_apply, hx]
        exact hload
    | _ => exact hmay.elim

omit [DecidableEq ι] [Field T] [LinearOrder T] in
/-- A thread registers nothing with the broker. -/
theorem broker_of_may {q : Work} (hmay : (cellRole sid).may q d) : d.writes .broker = false := by
  obtain ⟨celld, phase⟩ := q
  cases d with
  | setCallback | setObject =>
    cases phase with
    | idle => cases hmay
    | building a read rest => cases rest <;> exact hmay.elim
    | _ => exact hmay.elim
  | _ => rfl

omit [DecidableEq ι] [Field T] [LinearOrder T] in
/-- A thread appends events to its session only, and these carry dicts. -/
theorem append_of_may {q : Work} {s eventType : String} {payload : Json} {actor : Option String}
    (hmay : (cellRole sid).may q (.appendEvent (T := T) s eventType payload actor)) :
    s = sid ∧ payload.isObj = true := by
  obtain ⟨celld, phase⟩ := q
  cases phase with
  | idle => exact hmay
  | building a read rest => cases rest <;> exact hmay.elim
  | _ => exact hmay.elim

/-- The events of the session carry dicts after a call as well. -/
theorem events_after (h : OnCell c sid p) (hmay : (cellRole sid).may (workAt sid p.trace i) d) :
    ∀ ev ∈ (exec py d p.state).2.store.eventsOf sid, ev.payload.isObj = true := by
  cases d with
  | appendEvent s eventType payload actor =>
    obtain ⟨rfl, hobj⟩ := append_of_may hmay
    refine World.commit_store (w := p.state)
      (P := fun st => ∀ ev ∈ st.eventsOf s, ev.payload.isObj = true) h.events fun b st hr => ?_
    intro ev hev
    rw [Store.eventsOf_append hr, if_pos rfl] at hev
    rcases List.mem_append.mp hev with hold | hnew
    · exact h.events ev hold
    · rw [List.mem_singleton.mp hnew]
      exact Json.orEmpty_isObj hobj
  | _ =>
    unfold Store.eventsOf
    rw [exec_events py p.state rfl]
    exact h.events

/-- **Every call of the role** that keeps to the order is a step of the protocol. -/
theorem step (h : OnCell c sid p) (hmay : (cellRole sid).may (workAt sid p.trace i) d)
    (hallow : InOrder c sid p i d) : OnCell c sid (p.after (exec py) i d) := by
  constructor
  · exact exec_contiguous py d p.state h.contiguous
  · rw [Point.after_state, exec_objects py p.state (broker_of_may hmay)]
    exact h.objects
  · exact fun j object hj => h.celld_after hj
  · exact h.events_after hmay
  · cases hi : cellPhases sid p.trace i with
    | idle => exact h.step_idle hi hmay
    | wrote e => exact h.step_wrote hi hmay
    | holding a e => exact h.step_holding hi hmay hallow
    | fresh a => exact h.step_fresh hi hmay
    | building a read rest => exact h.step_building hi hmay hallow

end OnCell

omit [Field T] [LinearOrder T] in
/-- Threads start on a state at rest. -/
theorem onCell_start {w : World T} (h : AtRest c sid w) :
    OnCell c sid (⟨[], w⟩ : Moment ι T) := by
  have hall := h.contiguous.getEvents sid 0
  rw [List.drop_zero] at hall
  constructor
  · exact h.contiguous
  · exact h.objects
  · exact fun i object hobject => nomatch hobject
  · exact h.events
  · refine Inv.start (fun _ => rfl) (h.contiguous.entries_nodup sid) ?_ ?_
    · intro a ha
      obtain ⟨cell, hcell, rfl⟩ := Option.map_eq_some_iff.mp ha
      exact h.allocated cell hcell
    · intro a ha
      obtain ⟨cell, hcell, rfl⟩ := Option.map_eq_some_iff.mp ha
      have hreplayed := h.replayed cell hcell
      have hcast : w.store.getEvents sid 0 = w.store.eventsOf sid := hall
      rw [hcast, replay_eq_foldl h.events] at hreplayed
      exact (Except.ok.inj hreplayed).symm

end Runs

/-! ## The replay of the log -/

variable [DecidableEq ι] [Field T] [LinearOrder T]

/-- Threads over one shared state that keep to the order of the log of a session. -/
def orderly (ι : Type) [DecidableEq ι] (py : Py) (c : Celld) (sid : String) :
    System ι (Call T) Call.Ret PyErr (World T) where
  handler := exec py
  env := World.Passes
  allow := InOrder c sid

variable [IsStrictOrderedRing T] [FloorRing T]

variable {py : Py} {c : Celld} {sid : String}

/-- **The live cell agrees with the log.** Any number of threads send commands
to one session, whose cell is live or not. If events reach the registered cell in
the order of the log and a cell is registered only when it is up to date, then,
once all calls have returned or raised, the registered cell holds the fold of
`_apply` over the log. -/
theorem live_cell_agrees {sends : ι → Send} {w : World T} (hrest : AtRest c sid w)
    {cfg : Threads ι T Sent}
    (hr : Reach (orderly ι py c sid) (.start (fun i => (sends i).code py sid) w) cfg)
    (hdone : ∀ i d k, cfg.threads i ≠ .call d k) {cell : Cell}
    (hcell : cfg.point.state.cells c.ref sid = some cell) :
    replay .initial (cfg.point.state.store.getEvents sid 0) =
      .ok (cfg.point.state.heap cell.addr) := by
  have hplay : Role.AllPlay (fun _ : ι => cellRole sid) (exec py) (fun _ q _ => q.phase = .idle)
      (Config.start (fun i => (sends i).code py sid) w) :=
    fun i => plays_cell_sendCommand _ _ _
  have hinv : OnCell c sid cfg.point := by
    refine Role.roles_invariant (S := orderly ι py c sid) hplay hr (onCell_start hrest) ?_ ?_
    · exact fun p i d h hmay hallow => h.step hmay hallow
    · rintro p _ h ⟨t, f, -, rfl⟩
      exact ⟨h.contiguous, h.objects, h.celld, h.events, h.protocol⟩
  have hend : Role.AllPlay (fun _ : ι => cellRole sid) (exec py) (fun _ q _ => q.phase = .idle)
      cfg := hplay.reach hr
  have hidle : ∀ i, cellPhases sid cfg.point.trace i = .idle := by
    intro i
    cases hi : cfg.threads i with
    | pure a => exact hend.returned (S := orderly ι py c sid) hi
    | throw e => exact hend.raised (S := orderly ι py c sid) hi
    | call d k => exact absurd hi (hdone i d k)
  have hagrees := hinv.protocol.agrees_of_idle hidle (congrArg (Option.map Cell.addr) hcell)
  have hall := hinv.contiguous.getEvents sid 0
  rw [List.drop_zero] at hall
  have hcast : cfg.point.state.store.getEvents sid 0 = cfg.point.state.store.eventsOf sid := hall
  rw [hcast, replay_eq_foldl hinv.events]
  exact congrArg Except.ok hagrees.symm

/-- Between requests that are served one after the other, a stack is at rest. -/
theorem atRest_of_stackInv {now : T} {w : World T} (h : StackInv py c now w) : AtRest c sid w where
  contiguous := h.contiguous
  objects := h.objects
  events := fun ev hev => (h.events ev (Store.mem_eventsOf.mp hev).1).2
  allocated := fun cell hcell => (h.cells sid cell hcell).allocated
  replayed := fun cell hcell => cellsReplayed_of_stackInv h sid cell hcell

/-! ## Two clients -/

/-- A local stack with one session. -/
def servedOne : World ℚ :=
  (serve Py.sample noLosses [⟨.still 0 Sample.files, .createSession "local" .empty⟩]
    (localWorld Py.sample [] 0 Sample.files)).2

theorem servedOne_atRest : AtRest (localCelld []) "s" servedOne := by
  have hstart : Twins Py.sample (localCelld []) (0 : ℚ) (localWorld Py.sample [] 0 Sample.files)
      (localWorld Py.sample [] 0 Sample.files) :=
    ⟨rfl, stackInv_localWorld .., stackInv_localWorld ..⟩
  have hordered : Ordered [(⟨.still 0 Sample.files, .createSession "local" .empty⟩ : Turn ℚ)] :=
    List.pairwise_singleton _ _
  obtain ⟨-, later, htwins⟩ := hstart.serve_all rfl (by simp [Timing.still]) hordered
    ⟨fun _ _ _ _ h => (nomatch h), trivial⟩ noLosses
  exact atRest_of_stackInv htwins.left

/-- Two clients that say one word each. -/
def twoWords (i : Bool) : Send :=
  ⟨"echo", .obj [("text", .str (if i then "b" else "a"))], none⟩

/-- The two clients under a schedule. -/
def twoClientsRun (schedule : List Bool) : Threads Bool ℚ Sent :=
  execute (exec Py.sample) schedule
    (.start (fun i => (twoWords i).code Py.sample "s") servedOne)

/-- The second client appends and applies its message between the two steps of
the first: the log says "a" then "b", the cell "b" then "a". -/
theorem messages_overtake :
    let cfg := twoClientsRun (List.replicate 10 false ++ List.replicate 13 true ++ [false, false,
      false])
    Reach (system Bool Py.sample) (.start (fun i => (twoWords i).code Py.sample "s") servedOne)
        cfg ∧
      AtRest (localCelld []) "s" servedOne ∧ (∀ i, (cfg.threads i).value?.isSome = true) ∧
      ∃ cell, cfg.point.state.cells 0 "s" = some cell ∧
        replay .initial (cfg.point.state.store.getEvents "s" 0) ≠
          .ok (cfg.point.state.heap cell.addr) := by
  intro cfg
  have hdone : ∀ i, (cfg.threads i).value?.isSome = true := by decide +kernel
  have hlog : (replay .initial (cfg.point.state.store.getEvents "s" 0)).toOption.map
      (fun s => s.messages.map (Json.pyStr Py.sample)) = some ["a", "b"] := by decide +kernel
  have hcell : (cfg.point.state.cells 0 "s").map (fun cell =>
      (cfg.point.state.heap cell.addr).messages.map (Json.pyStr Py.sample)) =
      some ["b", "a"] := by decide +kernel
  refine ⟨reach_execute (fun _ _ _ => trivial) _ _, servedOne_atRest, hdone, ?_⟩
  obtain ⟨cell, hcell, hmessages⟩ := Option.map_eq_some_iff.mp hcell
  refine ⟨cell, hcell, fun heq => ?_⟩
  rw [heq] at hlog
  have hsame : (cfg.point.state.heap cell.addr).messages.map (Json.pyStr Py.sample) =
      ["a", "b"] := Option.some.inj hlog
  exact absurd (hsame.symm.trans hmessages) (by decide)

/-- Nobody else has an event to apply, and no cell is rebuilt. -/
def alone (p : Moment Bool ℚ) (i : Bool) (d : Call ℚ) : Bool :=
  match cellPhases "s" p.trace i, d with
  | .holding _ _, .apply .. => (cellPhases "s" p.trace !i).carried?.isNone
  | .building _ _ [], .cellsSet .. => false
  | _, _ => true

theorem inOrder_of_alone {p : Moment Bool ℚ} {i : Bool} {d : Call ℚ} (hp : alone p i d = true) :
    InOrder (localCelld []) "s" p i d := by
  unfold InOrder
  unfold alone at hp
  cases hphase : cellPhases "s" p.trace i with
  | holding a e =>
    cases d with
    | apply cell eventType payload =>
      rw [hphase] at hp
      rintro - e' - ⟨j, hj⟩
      by_cases hij : j = i
      · subst hij
        rw [hphase] at hj
        rcases hj with hj | ⟨a', hj, -⟩
        · cases hj
        · cases hj
          exact fun _ => rfl
      · have hother : j = !i := Bool.eq_not_of_ne hij
        have hentry : (cellPhases "s" p.trace !i).carried? = some e' := by
          rw [← hother]
          rcases hj with hj | ⟨a', hj, -⟩
          · rw [hj]
            rfl
          · rw [hj]
            rfl
        rw [hentry] at hp
        cases hp
    | _ => trivial
  | building a read rest =>
    cases rest with
    | cons e rest => trivial
    | nil =>
      cases d with
      | cellsSet ref s cell =>
        rw [hphase] at hp
        cases hp
      | _ => trivial
  | _ => trivial

/-- The two clients take turns, and each message reaches the cell before the
next is appended. -/
theorem live_cell_agrees_sample :
    let cfg := twoClientsRun ([false, false, false, false, false, false] ++
      [true, true, true, true, true, true] ++ List.replicate 7 false ++ List.replicate 7 true)
    ∀ cell, cfg.point.state.cells 0 "s" = some cell →
      replay .initial (cfg.point.state.store.getEvents "s" 0) =
        .ok (cfg.point.state.heap cell.addr) := by
  intro cfg cell hcell
  have hr : Reach (orderly Bool Py.sample (localCelld []) "s")
      (.start (fun i => (twoWords i).code Py.sample "s") servedOne) cfg :=
    reach_execute_permits (fun _ _ _ => inOrder_of_alone) _ _ (by decide +kernel)
  have hdone : ∀ i, (cfg.threads i).value?.isSome = true := by decide +kernel
  refine live_cell_agrees servedOne_atRest hr (fun i d k hi => ?_) hcell
  have hi' := hdone i
  rw [hi] at hi'
  cases hi'

end Nadi
