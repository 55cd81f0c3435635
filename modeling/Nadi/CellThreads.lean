import Nadi.Data.CachedLog
import Nadi.Effect.Role
import Nadi.Model.Bounds
import Nadi.Model.Replay

/-!
# What a thread does to the cell of a session

A thread that sends commands to one session appends events and applies each to
the registered cell in a later step, or builds a cell out of the log and
registers it: the protocol of `Data.CachedLog`. `cellRole` reads the phase of a
thread off the calls it has made, and every program that consumes commands
plays it.
-/

namespace Nadi

open Data.CachedLog
open Effect

variable {T : Type}

/-! ## Entries -/

/-- What a log entry is to a cell, with its place in the log. -/
structure LogEntry where
  sequence : ℕ
  eventType : String
  payload : Json

/-- The entry of an event. -/
def EventRow.entry (ev : EventRow T) : LogEntry := ⟨ev.sequence, ev.eventType, ev.payload⟩

/-- `_apply`, where an entry that raises changes nothing. -/
def LogEntry.applyTo (s : CellState) (e : LogEntry) : CellState :=
  match applyEvent s e.eventType e.payload with
  | .ok s' => s'
  | .error _ => s

theorem LogEntry.applyTo_of_ok {s s' : CellState} {e : LogEntry}
    (h : applyEvent s e.eventType e.payload = .ok s') : e.applyTo s = s' := by
  unfold applyTo
  rw [h]

/-- A log of dicts adds up to its replay. -/
theorem replay_eq_foldl {events : List (EventRow T)} (h : ∀ ev ∈ events, ev.payload.isObj = true)
    (s : CellState) :
    replay s events = .ok ((events.map EventRow.entry).foldl LogEntry.applyTo s) := by
  induction events generalizing s with
  | nil => rfl
  | cons ev rest ih =>
    obtain ⟨s', hs'⟩ := applyEvent_of_isObj (h ev List.mem_cons_self) s ev.eventType
    have happly : LogEntry.applyTo s ev.entry = s' := LogEntry.applyTo_of_ok (e := ev.entry) hs'
    rw [replay_cons, hs', List.map_cons, List.foldl_cons, happly]
    exact ih (fun e he => h e (List.mem_cons_of_mem _ he)) s'

/-! ## The role -/

/-- What a thread is doing, and the `celld` it does it with. -/
structure Work where
  celld : Option Celld
  phase : Data.CachedLog.Phase LogEntry

/-- The calls that touch neither events nor cells nor the broker. -/
def Call.aside (d : Call T) : Bool :=
  [.events, .heap, .cells, .broker].all fun part => !d.writes part

/-- The phase after a call. -/
def nextPhase (q : Data.CachedLog.Phase LogEntry) (d : Call T) (r : Except PyErr d.Ret) :
    Data.CachedLog.Phase LogEntry :=
  match q, d, r with
  | .idle, .appendEvent _ eventType payload _, .ok ev => .wrote ⟨ev.sequence, eventType, payload⟩
  | .idle, .newCell .., .ok cell => .fresh cell.addr
  | .wrote e, .cellsGet .., .ok (some cell) => .holding cell.addr e
  | .wrote _, .cellsGet .., _ => .idle
  | .holding .., .apply .., _ => .idle
  | .fresh a, .getEvents .., .ok events =>
    .building a (events.map EventRow.entry) (events.map EventRow.entry)
  | .fresh _, .getEvents .., .error _ => .idle
  | .building a read (_ :: rest), .apply .., .ok _ => .building a read rest
  | .building .., .apply .., .error _ => .idle
  | .building .., .cellsSet .., _ => .idle
  | q, _, _ => q

/-- The `celld` after a call: the broker has named one. -/
def nextCelld (q : Option Celld) (d : Call T) (r : Except PyErr d.Ret) : Option Celld :=
  match d, r with
  | .object _, .ok (some celld) => some celld
  | _, _ => q

/-- A thread that serves commands of one session. -/
def cellRole (sid : String) : Role Work (Call T) Call.Ret PyErr where
  init := ⟨none, .idle⟩
  may q d :=
    match q.phase, d with
    | .idle, .appendEvent s _ payload _ => s = sid ∧ payload.isObj = true
    | .idle, .newCell .. => True
    | .idle, d => d.aside = true
    | .wrote _, .cellsGet ref s => s = sid ∧ q.celld.map Celld.ref = some ref
    | .holding a e, .apply cell eventType payload =>
        cell.addr = a ∧ eventType = e.eventType ∧ payload = e.payload
    | .fresh _, .getEvents s after => s = sid ∧ after = 0
    | .building a _ (e :: _), .apply cell eventType payload =>
        cell.addr = a ∧ eventType = e.eventType ∧ payload = e.payload
    | .building a _ [], .cellsSet ref s cell =>
        s = sid ∧ q.celld.map Celld.ref = some ref ∧ cell.addr = a
    | _, _ => False
  next q d r := ⟨nextCelld q.celld d r, nextPhase q.phase d r⟩

/-! ## The programs play it -/

section Plays

variable {sid : String} {c : Celld} {h : Handler (Call T) Call.Ret PyErr (World T)}

theorem plays_cell_appendEvent {eventType : String} {payload : Json}
    (hobj : payload.isObj = true) :
    (cellRole sid).Plays h (fun q _ => q = ⟨some c, .idle⟩)
      (c.appendEvent sid eventType payload : Code T Event) ⟨some c, .idle⟩ := by
  refine Role.Plays.perform_bind ⟨rfl, Json.orEmpty_isObj hobj⟩ (fun s ev _ => ?_)
    fun _ _ _ => rfl
  refine Role.Plays.perform_bind ⟨rfl, rfl⟩ (fun s found _ => ?_) fun _ _ _ => rfl
  cases found with
  | none => exact rfl
  | some cell =>
    exact Role.Plays.perform_bind ⟨rfl, rfl, rfl⟩ (fun _ _ _ => rfl) fun _ _ _ => rfl

theorem plays_cell_appendEvents {outs : List (String × Json)}
    (houts : ∀ o ∈ outs, o.2.isObj = true) :
    (cellRole sid).Plays h (fun q _ => q = ⟨some c, .idle⟩)
      (c.appendEvents sid outs : Code T (List Event)) ⟨some c, .idle⟩ := by
  induction outs with
  | nil => exact rfl
  | cons o rest ih =>
    have hrest := ih fun o ho => houts o (List.mem_cons_of_mem _ ho)
    refine Role.Plays.bind (plays_cell_appendEvent (houts o List.mem_cons_self))
      (fun q ev hq => ?_) fun _ _ hq => hq
    subst hq
    exact Role.Plays.bind hrest (fun _ _ hq => hq) fun _ _ hq => hq

/-- Loading a log into a new cell. -/
theorem plays_cell_applyEvents (cell : Cell) (read : List LogEntry)
    (events : List (EventRow T)) :
    (cellRole sid).Plays h
      (fun q r => q = ⟨some c, if r.toBool then .building cell.addr read [] else .idle⟩)
      (Celld.applyEvents cell events)
      ⟨some c, .building cell.addr read (events.map EventRow.entry)⟩ := by
  induction events with
  | nil => exact rfl
  | cons ev rest ih =>
    exact Role.Plays.perform_bind ⟨rfl, rfl, rfl⟩ (fun _ _ _ => ih) fun _ _ _ => rfl

variable [Field T] [LinearOrder T] [IsStrictOrderedRing T] [FloorRing T] {py : Py}

theorem plays_cell_reconstructCell :
    (cellRole sid).Plays h (fun q _ => q = ⟨some c, .idle⟩)
      (c.reconstructCell py sid : Code T Cell) ⟨some c, .idle⟩ := by
  have hsign : (cellRole sid).Plays h (fun q _ => q = ⟨some c, .idle⟩)
      (c.jwt.signNow py .reconstructCell sid "cell tool" 3600 c.hostId : Code T String)
      ⟨some c, .idle⟩ := by
    refine Role.Plays.perform_bind rfl (fun _ _ _ => ?_) fun _ _ _ => rfl
    exact Role.Plays.perform_bind rfl (fun _ _ _ => rfl) fun _ _ _ => rfl
  refine Role.Plays.bind hsign (fun q token hq => ?_) fun _ _ hq => hq
  subst hq
  refine Role.Plays.perform_bind trivial (fun _ cell _ => ?_) fun _ _ _ => rfl
  refine Role.Plays.perform_bind ⟨rfl, rfl⟩ (fun _ events _ => ?_) fun _ _ _ => rfl
  refine Role.Plays.bind (plays_cell_applyEvents cell _ events) (fun q _ hq => ?_)
    fun _ _ hq => hq
  subst hq
  exact Role.Plays.perform_bind ⟨rfl, rfl, rfl⟩ (fun _ _ _ => rfl) fun _ _ _ => rfl

theorem plays_cell_liveCell :
    (cellRole sid).Plays h (fun q _ => q = ⟨some c, .idle⟩)
      (c.liveCell py sid : Code T Cell) ⟨some c, .idle⟩ := by
  refine Role.Plays.perform_bind rfl (fun _ found _ => ?_) fun _ _ _ => rfl
  cases found with
  | some cell => exact rfl
  | none => exact plays_cell_reconstructCell

/-- Handling a command leaves cells alone. -/
theorem plays_cell_handle (s : Sandboxd) (token commandType : String) (payload : Json) :
    (cellRole sid).Plays h
      (fun q r => q = ⟨some c, .idle⟩ ∧ ∀ outs, r = .ok outs → ∀ o ∈ outs, o.2.isObj = true)
      (Runtime.handle py s sid token commandType payload : Code T (List (String × Json)))
      ⟨some c, .idle⟩ := by
  have hwithin := (Runtime.handle_within (T := T) py s sid token commandType payload).mono
    (fun _ hd => hd) fun _ houts o ho => (houts o ho).2
  refine Role.Plays.of_within hwithin ?_ ?_
  · intro d hd
    cases d <;> first | rfl | cases hd
  · intro d r hd
    cases d <;> first | rfl | cases hd

theorem plays_cell_consumeLoop (token : String) (commands : List (CommandRow T)) :
    (cellRole sid).Plays h (fun q _ => q = ⟨some c, .idle⟩)
      (c.consumeLoop py sid token commands : Code T (List Event)) ⟨some c, .idle⟩ := by
  induction commands with
  | nil => exact rfl
  | cons cmd rest ih =>
    refine Role.Plays.bind (plays_cell_appendEvent rfl) (fun q _ hq => ?_) fun _ _ hq => hq
    subst hq
    refine Role.Plays.bind (plays_cell_handle c.sandboxd token _ _) (fun q outs hq => ?_)
      fun _ _ hq => hq.1
    obtain ⟨rfl, houts⟩ := hq
    refine Role.Plays.bind (plays_cell_appendEvents (houts outs rfl)) (fun q evs hq => ?_)
      fun _ _ hq => hq
    subst hq
    refine Role.Plays.perform_bind rfl (fun _ _ _ => ?_) fun _ _ _ => rfl
    exact Role.Plays.bind ih (fun _ _ hq => hq) fun _ _ hq => hq

theorem plays_cell_consumeCommands :
    (cellRole sid).Plays h (fun q _ => q = ⟨some c, .idle⟩)
      (c.consumeCommands py sid : Code T (List Event)) ⟨some c, .idle⟩ := by
  refine Role.Plays.bind plays_cell_liveCell (fun q cell hq => ?_) fun _ _ hq => hq
  subst hq
  refine Role.Plays.perform_bind rfl (fun _ commands _ => ?_) fun _ _ _ => rfl
  exact plays_cell_consumeLoop cell.jwt commands

omit [Field T] [LinearOrder T] [IsStrictOrderedRing T] [FloorRing T] in
theorem plays_cell_celldForRoute :
    (cellRole sid).Plays h
      (fun q r => q.phase = .idle ∧ ∀ c, r = .ok c → q = ⟨some c, .idle⟩)
      (Broker.celldForRoute sid : Code T Celld) ⟨none, .idle⟩ := by
  have hraised : ∀ e : PyErr, (.idle : Data.CachedLog.Phase LogEntry) = .idle ∧
      ∀ c, (.error e : Except PyErr Celld) = .ok c → (⟨none, .idle⟩ : Work) = ⟨some c, .idle⟩ :=
    fun e => ⟨rfl, fun c h => nomatch h⟩
  refine Role.Plays.perform_bind rfl (fun _ found _ => ?_) fun _ e _ => hraised e
  cases found with
  | none => exact hraised _
  | some route =>
    refine Role.Plays.perform_bind rfl (fun _ object _ => ?_) fun _ e _ => hraised e
    cases object with
    | none => exact hraised _
    | some celld =>
      refine ⟨rfl, fun c hc => ?_⟩
      cases hc
      rfl

/-- **`send_command` plays the role** and ends with nothing in between. -/
theorem plays_cell_sendCommand (commandType : String) (payload : Json)
    (actorResourceId : Option String) :
    (cellRole sid).Plays h (fun q _ => q.phase = .idle)
      (Gateway.sendCommand py sid commandType payload actorResourceId : Code T Sent)
      ⟨none, .idle⟩ := by
  have hroute : (cellRole sid).Plays h (fun q _ => q = ⟨none, .idle⟩)
      (Gateway.route sid : Code T (Route T)) ⟨none, .idle⟩ := by
    refine Role.Plays.perform_bind rfl (fun _ found _ => ?_) fun _ _ _ => rfl
    cases found <;> exact rfl
  refine Role.Plays.bind hroute (fun q _ hq => ?_) fun q _ hq => hq ▸ rfl
  subst hq
  refine Role.Plays.perform_bind rfl (fun _ commandId _ => ?_) fun _ _ _ => rfl
  refine Role.Plays.bind plays_cell_celldForRoute (fun q celld hq => ?_) fun _ _ hq => hq.1
  rw [hq.2 celld rfl]
  refine Role.Plays.bind plays_cell_consumeCommands (fun q _ hq => ?_) fun q _ hq => hq ▸ rfl
  exact hq ▸ rfl

end Plays

end Nadi
