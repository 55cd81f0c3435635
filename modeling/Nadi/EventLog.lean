import Nadi.Effect.Role
import Nadi.Model.Frame
import Nadi.Model.Sample

/-!
# The event log under concurrency

Any number of threads run any programs over the shared state. In every state
they reach, the events of each session are numbered `1, …, n`; rows are only
ever added at the end; and a reader that polls `get_events` from the last
number it has seen collects a prefix of the log.

The invariant `LogInv` ties the trace to the log, so that "what an append
returned" and "what a reader has collected" are statements about the same run.
-/

namespace Nadi

open Effect

variable {T ι : Type}

/-! ## Readers -/

/-- The number of the last event of a page, or the cursor if the page is empty. -/
def lastSeen (after : Nat) (page : List (EventRow T)) : Nat :=
  (page.getLast?.map EventRow.sequence).getD after

/-- A client that polls: each request asks for what follows the last event seen. -/
def poll (sessionId : String) : (rounds after : Nat) → Code T Unit
  | 0, _ => return ()
  | rounds + 1, after => do
    let page ← call (.getEvents sessionId after)
    poll sessionId rounds (lastSeen after page)

/-- The page a call returned. -/
def pageOf (c : Call T) (r : Except PyErr c.Ret) : List (EventRow T) :=
  match c, r with
  | .getEvents _ _, .ok page => page
  | _, _ => []

/-- The pages a thread has been given, one after the other. -/
def pagesOf [DecidableEq ι] (i : ι) (tr : Trace ι T) : List (EventRow T) :=
  tr.flatMap fun e => if e.thread = i then pageOf e.call e.result else []

/-- A reader of a session asks from its cursor; other threads are free. -/
def readerRole (reads : Option String) :
    Role (List (EventRow T)) (Call T) Call.Ret PyErr where
  init := []
  may q c := ∀ sid, reads = some sid → c = .getEvents sid (lastSeen 0 q)
  next q c r := q ++ pageOf c r

theorem lastSeen_append (q page : List (EventRow T)) :
    lastSeen 0 (q ++ page) = lastSeen (lastSeen 0 q) page := by
  unfold lastSeen
  cases hp : page.getLast? with
  | none =>
    rw [List.getLast?_eq_none_iff] at hp
    rw [hp, List.append_nil]
    rfl
  | some e =>
    rw [List.getLast?_append, hp]
    rfl

/-- The cursor of a reader that has collected the start of a contiguous log is
the number of events it has. -/
theorem lastSeen_eq_length {q : List (EventRow T)}
    (h : q.map EventRow.sequence = List.range' 1 q.length) : lastSeen 0 q = q.length := by
  show (q.getLast?.map EventRow.sequence).getD 0 = _
  rw [← List.getLast?_map, h, List.getLast?_range']
  cases hn : q.length with
  | zero => rfl
  | succ n =>
    rw [if_neg (Nat.succ_ne_zero n)]
    show 1 + (n + 1 - 1) = n + 1
    omega

theorem pagesOf_append [DecidableEq ι] (i : ι) (tr : Trace ι T)
    (e : Entry ι (Call T) Call.Ret PyErr) :
    pagesOf i (tr ++ [e]) =
      pagesOf i tr ++ if e.thread = i then pageOf e.call e.result else [] := by
  unfold pagesOf
  rw [List.flatMap_append, List.flatMap_singleton]

/-- The local state of a reader is what it has collected. -/
theorem localAt_reader [DecidableEq ι] (readers : ι → Option String) (tr : Trace ι T) (i : ι) :
    Role.localAt (fun i => readerRole (readers i)) tr i = pagesOf i tr := by
  induction tr using List.reverseRecOn with
  | nil => rfl
  | append_singleton tr e ih =>
    rw [Role.localAt_append, pagesOf_append]
    by_cases hi : e.thread = i
    · subst hi
      rw [Function.update_self, if_pos rfl, ih]
      rfl
    · rw [Function.update_of_ne (Ne.symm hi), if_neg hi, List.append_nil, ih]

/-- Polling keeps to the cursor. -/
theorem plays_poll {σ : Type} (h : Handler (Call T) Call.Ret PyErr σ) (sid : String)
    (rounds : Nat) (q : List (EventRow T)) :
    (readerRole (some sid)).Plays h (fun _ _ => True) (poll sid rounds (lastSeen 0 q)) q := by
  induction rounds generalizing q with
  | zero => trivial
  | succ n ih =>
    refine Role.Plays.perform_bind ?_ (fun s page _ => ?_) fun _ _ _ => trivial
    · intro sid' hsid
      cases hsid
      rfl
    · rw [← lastSeen_append]
      exact ih (q ++ page)

/-! ## Growth -/

section Growth

variable [Field T] [LinearOrder T] (py : Py) (c : Call T) (w : World T)

/-- **Append-only.** A call extends the table of events at its end or not at all. -/
theorem events_grow : w.store.events.rows <+: (exec py c w).2.store.events.rows := by
  cases c with
  | appendEvent sessionId eventType payload actor =>
    refine World.commit_store (P := fun st => w.store.events.rows <+: st.events.rows)
      (List.prefix_refl _) fun ev st hr => ?_
    obtain ⟨-, -, rfl⟩ := Store.appendEvent_ok hr
    exact List.prefix_append _ _
  | _ => exact ⟨[], by rw [List.append_nil, exec_events py w rfl]⟩

theorem eventsOf_grow (sid : String) :
    w.store.eventsOf sid <+: (exec py c w).2.store.eventsOf sid :=
  (events_grow py c w).filter _

/-- Every call keeps every log contiguous. -/
theorem exec_contiguous (h : w.store.Contiguous) : (exec py c w).2.store.Contiguous := by
  cases c with
  | appendEvent sessionId eventType payload actor =>
    exact World.commit_store h fun _ _ hr => h.append hr
  | _ =>
    intro sid
    unfold Store.eventsOf
    rw [exec_events py w rfl]
    exact h sid

end Growth

/-! ## The invariant -/

/-- The log is contiguous, holds every append that returned, and starts with
what each reader has collected. -/
structure LogInv [DecidableEq ι] (readers : ι → Option String) (w : Moment ι T) : Prop where
  contiguous : w.state.store.Contiguous
  stored : ∀ i sid eventType payload actor ev,
    (⟨i, .appendEvent sid eventType payload actor, .ok ev⟩ :
      Entry ι (Call T) Call.Ret PyErr) ∈ w.trace →
    ∃ row ∈ w.state.store.eventsOf sid, row.sequence = ev.sequence ∧
      row.eventType = eventType ∧ row.payload = payload.orEmpty ∧ row.actorResourceId = actor
  pages : ∀ i sid, readers i = some sid → pagesOf i w.trace <+: w.state.store.eventsOf sid

namespace LogInv

variable [DecidableEq ι] {readers : ι → Option String} {w : Moment ι T}

theorem init {clock : T} {files : Files} :
    LogInv readers (⟨[], World.init clock files⟩ : Moment ι T) where
  contiguous := Store.contiguous_init
  stored := fun _ _ _ _ _ _ h => nomatch h
  pages := fun _ _ _ => List.nil_prefix

/-- A page asked for at the cursor continues what the reader has. -/
theorem pages_step (h : LogInv readers w) {i : ι} {sid : String} (hi : readers i = some sid) :
    pagesOf i w.trace ++
        w.state.store.getEvents sid (lastSeen 0 (pagesOf i w.trace)) =
      w.state.store.eventsOf sid := by
  obtain ⟨rest, hrest⟩ := h.pages i sid hi
  have hseq : (pagesOf i w.trace).map EventRow.sequence =
      List.range' 1 (pagesOf i w.trace).length := by
    have hall := h.contiguous sid
    rw [← hrest, List.map_append, List.length_append, ← List.range'_append_1] at hall
    exact (List.append_inj hall (by simp)).1
  rw [lastSeen_eq_length hseq, h.contiguous.getEvents, ← hrest, List.drop_left]

variable [Field T] [LinearOrder T] (py : Py)

/-- What one permitted call preserves. -/
theorem call (h : LogInv readers w) {i : ι} {c : Call T}
    (hmay : (readerRole (readers i)).may (pagesOf i w.trace) c) :
    LogInv readers (w.after (exec py) i c) where
  contiguous := exec_contiguous py c w.state h.contiguous
  stored := by
    intro j sid eventType payload actor ev hmem
    rcases Point.mem_after hmem with hold | ⟨-, rfl, hr⟩
    · obtain ⟨row, hrow, hprops⟩ := h.stored j sid eventType payload actor ev hold
      exact ⟨row, (eventsOf_grow py c w.state sid).subset hrow, hprops⟩
    · obtain ⟨st, hok, hst⟩ := World.commit_ok hr.symm
      obtain ⟨hev, -, -⟩ := Store.appendEvent_ok hok
      have hrow : Store.newEvent w.state.clock sid (w.state.store.nextSequence sid) eventType
          payload actor (w.state.store.events.last + 1) ∈ st.eventsOf sid := by
        rw [Store.eventsOf_append hok sid, if_pos rfl]
        exact List.mem_append_right _ (List.mem_singleton_self _)
      rw [Point.after_state]
      show ∃ row ∈ (w.state.commit _).2.store.eventsOf sid, _
      rw [hst]
      exact ⟨_, hrow, by rw [hev]; rfl, rfl, rfl, rfl⟩
  pages := by
    intro j sid hj
    rw [Point.after_trace, Point.after_state, pagesOf_append]
    by_cases hij : i = j
    · subst hij
      rw [if_pos rfl]
      have hc := hmay sid hj
      subst hc
      show pagesOf i w.trace ++ w.state.store.getEvents sid _ <+: w.state.store.eventsOf sid
      exact ⟨[], by rw [List.append_nil, h.pages_step hj]⟩
    · rw [if_neg hij, List.append_nil]
      exact (h.pages j sid hj).trans (eventsOf_grow py c w.state sid)

omit [Field T] in
/-- Time passing touches neither the log nor what readers have. -/
theorem passes (h : LogInv readers w) {s : World T} (hs : w.state.Passes s) :
    LogInv readers ⟨w.trace, s⟩ := by
  obtain ⟨t, f, -, rfl⟩ := hs
  exact ⟨h.contiguous, h.stored, h.pages⟩

end LogInv

/-! ## Runs -/

section Runs

variable [DecidableEq ι] [Field T] [LinearOrder T] (py : Py) {readers : ι → Option String}
  {programs : ι → Code T Unit} {clock : T} {files : Files} {cfg cfg' : Threads ι T Unit}

/-- The invariant along every run in which the readers poll. -/
theorem logInv_reach
    (hpoll : ∀ i sid, readers i = some sid → ∃ rounds, programs i = poll sid rounds 0)
    (hr : Reach (system ι py) (.start programs (.init clock files)) cfg) :
    LogInv readers cfg.point := by
  have hplay : Role.AllPlay (fun i => readerRole (readers i)) (exec py) (fun _ _ _ => True)
      (.start programs (.init clock files)) := by
    intro i
    show (readerRole (readers i)).Plays _ _ (programs i) []
    cases hi : readers i with
    | none => exact .of_free (fun _ _ _ hn => nomatch hn) (fun _ _ => trivial) _
    | some sid =>
      obtain ⟨rounds, hprog⟩ := hpoll i sid hi
      rw [hprog]
      exact plays_poll _ sid rounds []
  refine Role.roles_invariant hplay hr .init ?_ ?_
  · intro w i c hw hmay _
    rw [localAt_reader] at hmay
    exact hw.call py hmay
  · intro w s hw hs
    exact hw.passes hs

/-- Along a run the table of events only grows at its end. -/
theorem events_extend (hr : Reach (system ι py) cfg cfg') :
    cfg.point.state.store.events.rows <+: cfg'.point.state.store.events.rows := by
  refine hr.point_invariant
    (P := fun w => cfg.point.state.store.events.rows <+: w.state.store.events.rows)
    (List.prefix_refl _) ?_ ?_
  · intro w i c hw _
    exact hw.trans (events_grow py c w.state)
  · rintro w _ hw ⟨t, f, -, rfl⟩
    exact hw

/-- **The event log is gap-free and append-only, and cursors are safe.** In
every state that any threads reach: the events of each session are numbered
`1, …, n`; later states only add rows at the end; an append that returned is in
the log under the number it returned; and what a polling reader has collected
is a prefix of its session's log. -/
theorem event_log_safe
    (hpoll : ∀ i sid, readers i = some sid → ∃ rounds, programs i = poll sid rounds 0)
    (hr : Reach (system ι py) (.start programs (.init clock files)) cfg) :
    (∀ sid, (cfg.point.state.store.eventsOf sid).map EventRow.sequence =
      List.range' 1 (cfg.point.state.store.eventsOf sid).length) ∧
    (∀ cfg' : Threads ι T Unit, Reach (system ι py) cfg cfg' →
      cfg.point.state.store.events.rows <+: cfg'.point.state.store.events.rows) ∧
    (∀ i sid eventType payload actor ev,
      (⟨i, .appendEvent sid eventType payload actor, .ok ev⟩ :
        Entry ι (Call T) Call.Ret PyErr) ∈ cfg.point.trace →
      ∃ row ∈ cfg.point.state.store.eventsOf sid, row.sequence = ev.sequence ∧
        row.eventType = eventType ∧ row.payload = payload.orEmpty ∧
        row.actorResourceId = actor) ∧
    (∀ i sid, readers i = some sid → ∀ cfg' : Threads ι T Unit,
      Reach (system ι py) cfg cfg' →
      pagesOf i cfg.point.trace <+: cfg'.point.state.store.eventsOf sid) := by
  have hinv := logInv_reach py hpoll hr
  refine ⟨hinv.contiguous, fun cfg' hr' => events_extend py hr', hinv.stored, ?_⟩
  intro i sid hi cfg' hr'
  exact (hinv.pages i sid hi).trans ((events_extend py hr').filter _)

/-- Thread `0` polls session `s` while thread `1` appends to it. -/
theorem event_log_safe_sample :
    let programs : Bool → Code ℚ Unit := fun i =>
      if i then do
        let sid ← call (.createSession "local" none none .null)
        let _ ← call (.appendEvent sid "session.started" .null none)
        let _ ← call (.appendEvent sid "assistant.message" .null none)
        return ()
      else poll "s" 2 0
    let cfg := execute (exec Py.sample) [true, true, false, true, false]
      (.start programs (.init 0 Sample.files))
    pagesOf false cfg.point.trace <+: cfg.point.state.store.eventsOf "s" := by
  intro programs cfg
  have hr : Reach (system Bool Py.sample) (.start programs (.init 0 Sample.files)) cfg :=
    reach_execute (fun _ _ _ => trivial) _ _
  let readers : Bool → Option String := fun i => if i then none else some "s"
  have hpoll : ∀ i sid, readers i = some sid → ∃ rounds, programs i = poll sid rounds 0 := by
    intro i sid hi
    cases i with
    | true => cases hi
    | false =>
      cases hi
      exact ⟨2, rfl⟩
  exact (event_log_safe Py.sample hpoll hr).2.2.2 false "s" rfl cfg .refl

end Runs

end Nadi
