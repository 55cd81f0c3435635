import Nadi.Jobs

/-!
# What the tables tell of a session

Each command that a consumer has claimed was tried: it has its block of events in
the log, and its status in the inbox, according to what became of it. `Told` says
so of a session and what was tried there. One step lemma for each program of the
stack leads to `Telling.jobs`: after any run the tables tell the history.
-/

namespace Nadi

open Effect

variable {T : Type}

/-! ## Attempts in the tables -/

/-- What a row of the log says. -/
def EventRow.saying (ev : EventRow T) : String × Json := (ev.eventType, ev.payload)

/-- The payload of `command.received`. -/
def Asked.received (asked : Asked) : Json :=
  .obj [("command_id", .int asked.id), ("command_type", .str asked.commandType),
    ("payload", asked.payload)]

/-- The entries of an attempt in the log. -/
def Attempt.entries (attempt : Attempt) : List (String × Json) :=
  match attempt.outcome with
  | .handled outs => ("command.received", attempt.asked.received) :: outs
  | .raised _ => [("command.received", attempt.asked.received)]
  | .unreached => []

/-- The status of a command that was tried. -/
def Attempt.status (attempt : Attempt) : CommandStatus :=
  match attempt.outcome with
  | .handled _ => .completed
  | _ => .claimed

/-- A command and its status. -/
abbrev Brief : Type := Asked × CommandStatus

def CommandRow.brief (cmd : CommandRow T) : Brief := (cmd.asked, cmd.status)

def Attempt.brief (attempt : Attempt) : Brief := (attempt.asked, attempt.status)

/-- A command that a consumer has claimed. -/
def Asked.claimed (asked : Asked) : Brief := (asked, .claimed)

/-- A command that none has claimed. -/
def Asked.waiting (asked : Asked) : Brief := (asked, .pending)

/-- Commands that have been tried are not pending. -/
theorem Attempt.status_ne_pending (attempt : Attempt) : attempt.status ≠ .pending := by
  unfold Attempt.status
  split <;> simp

/-- The rows of the log are those of an attempt, without an actor. -/
def Attempt.Logged (attempt : Attempt) (rows : List (EventRow T)) : Prop :=
  rows.map EventRow.saying = attempt.entries ∧ ∀ row ∈ rows, row.actorResourceId = none

/-- What was tried is what the tables tell of a session, up to the block that is
being written and the commands of the batch that are left. -/
structure Telling (sid : String) (opening : List (String × Json)) (attempts : List Attempt)
    (block : List (EventRow T)) (left : List Asked) (st : Store T) : Prop where
  log : ∃ started rowss, st.eventsOf sid = started ++ rowss.flatten ++ block ∧
    started.map EventRow.saying = opening ∧ List.Forall₂ Attempt.Logged attempts rowss
  inbox : ∃ waiting : List Asked, (st.inboxOf sid).map CommandRow.brief =
    attempts.map Attempt.brief ++ left.map Asked.claimed ++ waiting.map Asked.waiting

/-- Between batches, what was tried is what the tables tell. -/
abbrev Told (sid : String) (opening : List (String × Json)) (attempts : List Attempt)
    (st : Store T) : Prop :=
  Telling sid opening attempts [] [] st

/-! ## Commands change their status -/

/-- A command is completed. -/
def Brief.complete (id : ℕ) (brief : Brief) : Brief :=
  if brief.1.id = id then (brief.1, .completed) else brief

/-- Where ids are in order, completing a command changes it alone. -/
theorem map_complete {done rest : List Brief} {asked : Asked} {status : CommandStatus}
    (hordered : (done ++ (asked, status) :: rest).Pairwise fun a b => a.1.id < b.1.id) :
    (done ++ (asked, status) :: rest).map (Brief.complete asked.id) =
      done ++ (asked, .completed) :: rest := by
  obtain ⟨-, hcons, hcross⟩ := List.pairwise_append.mp hordered
  obtain ⟨hrest, -⟩ := List.pairwise_cons.mp hcons
  have hother : ∀ brief : Brief, brief.1.id ≠ asked.id → brief.complete asked.id = brief :=
    fun brief hne => if_neg hne
  rw [List.map_append, List.map_cons]
  congr 1
  · refine (List.map_congr_left fun brief hbrief => ?_).trans (List.map_id _)
    exact hother brief (Nat.ne_of_lt (hcross brief hbrief _ List.mem_cons_self))
  · congr 1
    · exact if_pos rfl
    · refine (List.map_congr_left fun brief hbrief => ?_).trans (List.map_id _)
      exact hother brief (Nat.ne_of_gt (hrest brief hbrief))

namespace Store

variable (st : Store T) (sid : String)

theorem briefs_ordered :
    ((st.inboxOf sid).map CommandRow.brief).Pairwise fun a b => a.1.id < b.1.id :=
  List.pairwise_map.mpr (Data.Serial.select_ordered _ _)

theorem briefs_completeCommand (t : T) (id : ℕ) :
    ((st.completeCommand t id).inboxOf sid).map CommandRow.brief =
      ((st.inboxOf sid).map CommandRow.brief).map (Brief.complete id) := by
  rw [inboxOf_completeCommand, List.map_map, List.map_map]
  refine List.map_congr_left fun cmd _ => ?_
  show CommandRow.brief (if cmd.id == id then completeRow t cmd else cmd) =
    if cmd.id = id then (cmd.asked, .completed) else cmd.brief
  by_cases hid : cmd.id = id
  · rw [if_pos (by simpa using hid), if_pos hid]
    rfl
  · rw [if_neg (by simpa using hid), if_neg hid]

/-- A claim of the session claims what waits. -/
theorem briefs_claimPendingCommands (t : T) (token claimedBy : String) :
    ((st.claimPendingCommands t token sid claimedBy).2.inboxOf sid).map CommandRow.brief =
      ((st.inboxOf sid).map CommandRow.brief).map fun brief =>
        if brief.2 = .pending then brief.1.claimed else brief := by
  rw [inboxOf_claimPendingCommands, List.map_map, List.map_map]
  refine List.map_congr_left fun cmd hcmd => ?_
  have hsid := (mem_inboxOf.mp hcmd).2
  show CommandRow.brief (if cmd.sessionId == sid && cmd.status == .pending then
    claimRow t claimedBy token cmd else cmd) =
    if cmd.status = .pending then cmd.asked.claimed else cmd.brief
  by_cases hpending : cmd.status = .pending
  · rw [if_pos (by simp [hsid, hpending]), if_pos hpending]
    rfl
  · rw [if_neg (by simp [hpending]), if_neg hpending]

/-- What is pending is what waits. -/
theorem pendingOf_asked :
    (st.pendingOf sid).map CommandRow.asked =
      (((st.inboxOf sid).map CommandRow.brief).filter fun brief =>
        brief.2 == .pending).map Prod.fst := by
  rw [pendingOf_eq_filter, List.filter_map, List.map_map]
  rfl

end Store

/-! ## Steps -/

namespace Telling

variable {sid : String} {opening : List (String × Json)} {attempts : List Attempt}
  {block : List (EventRow T)} {left : List Asked} {st st' : Store T}

/-- Only the log and the inbox of the session count. -/
theorem congr (h : Telling sid opening attempts block left st)
    (hlog : st'.eventsOf sid = st.eventsOf sid) (hinbox : st'.inboxOf sid = st.inboxOf sid) :
    Telling sid opening attempts block left st' where
  log := by
    rw [hlog]
    exact h.log
  inbox := by
    rw [hinbox]
    exact h.inbox

/-- An event is added to the block. -/
theorem append (h : Telling sid opening attempts block left st) {row : EventRow T}
    (hlog : st'.eventsOf sid = st.eventsOf sid ++ [row])
    (hinbox : st'.inboxOf sid = st.inboxOf sid) :
    Telling sid opening attempts (block ++ [row]) left st' where
  log := by
    obtain ⟨started, rowss, hevents, hrest⟩ := h.log
    refine ⟨started, rowss, ?_, hrest⟩
    rw [hlog, hevents, List.append_assoc]
  inbox := by
    rw [hinbox]
    exact h.inbox

/-- The block is that of the next command. -/
theorem close (attempt : Attempt)
    (h : Telling sid opening attempts block (attempt.asked :: left) st) (hblock : attempt.Logged block) (hlog : st'.eventsOf sid = st.eventsOf sid)
    (hinbox : ∀ before after, (st.inboxOf sid).map CommandRow.brief =
        before ++ attempt.asked.claimed :: after →
      (st'.inboxOf sid).map CommandRow.brief = before ++ attempt.brief :: after) :
    Telling sid opening (attempts ++ [attempt]) [] left st' where
  log := by
    obtain ⟨started, rowss, hevents, hstarted, hrows⟩ := h.log
    refine ⟨started, rowss ++ [block], ?_, hstarted, ?_⟩
    · rw [hlog, hevents]
      simp
    · exact List.rel_append hrows (.cons hblock .nil)
  inbox := by
    obtain ⟨waiting, hbriefs⟩ := h.inbox
    refine ⟨waiting, ?_⟩
    rw [List.map_cons, List.append_assoc, List.cons_append] at hbriefs
    rw [hinbox _ _ hbriefs]
    simp

/-- What the log says. -/
theorem saying (h : Told sid opening attempts st) :
    (st.eventsOf sid).map EventRow.saying = opening ++ attempts.flatMap Attempt.entries := by
  obtain ⟨started, rowss, hevents, rfl, hrows⟩ := h.log
  rw [hevents, List.append_nil, List.map_append]
  congr 1
  clear hevents h
  induction hrows with
  | nil => rfl
  | cons hrow _ ih => rw [List.flatten_cons, List.map_append, List.flatMap_cons, hrow.1, ih]

/-- What was tried is a command of the inbox. -/
theorem known (h : Told sid opening attempts st) :
    ∀ attempt ∈ attempts, ∃ cmd ∈ st.inboxOf sid, cmd.asked = attempt.asked ∧
      cmd.status = attempt.status := by
  intro attempt hattempt
  obtain ⟨waiting, hbriefs⟩ := h.inbox
  rw [List.map_nil, List.append_nil] at hbriefs
  have hmem : attempt.brief ∈ (st.inboxOf sid).map CommandRow.brief := by
    rw [hbriefs]
    exact List.mem_append_left _ (List.mem_map_of_mem hattempt)
  obtain ⟨cmd, hcmd, heq⟩ := List.mem_map.mp hmem
  exact ⟨cmd, hcmd, Prod.mk.inj heq⟩

/-- The rest of the batch is never reached. -/
theorem abandon (h : Telling sid opening attempts [] left st) :
    Told sid opening (attempts ++ left.map fun asked => ⟨asked, .unreached⟩) st := by
  induction left generalizing attempts with
  | nil =>
    rw [List.map_nil, List.append_nil]
    exact h
  | cons asked left ih =>
    rw [List.map_cons, List.append_cons]
    refine ih (h.close ⟨asked, .unreached⟩ ⟨rfl, fun _ h => nomatch h⟩ rfl ?_)
    exact fun _ _ h => h

theorem enqueue (h : Told sid opening attempts st) {t : T} {commandType : String}
    {payload : Json} {actor : Option String} {n : ℕ}
    (henqueue : st.enqueueCommand t sid commandType payload actor = .ok (n, st')) :
    Told sid opening attempts st' where
  log := by
    obtain ⟨-, -, -, -, rfl⟩ := Store.enqueueCommand_ok henqueue
    exact h.log
  inbox := by
    obtain ⟨waiting, hbriefs⟩ := h.inbox
    have hinbox := Store.inboxOf_enqueueCommand henqueue sid
    rw [if_pos rfl] at hinbox
    refine ⟨waiting ++ [⟨n, commandType, payload.orEmpty, actor⟩], ?_⟩
    rw [hinbox, List.map_append, hbriefs, List.map_append, ← List.append_assoc]
    rfl

/-- What waits is what is pending. -/
theorem pendingOf (h : Told sid opening attempts st) :
    (st.inboxOf sid).map CommandRow.brief =
      attempts.map Attempt.brief ++ ((st.pendingOf sid).map CommandRow.asked).map Asked.waiting := by
  obtain ⟨waiting, hbriefs⟩ := h.inbox
  rw [List.map_nil, List.append_nil] at hbriefs
  have hpending : (st.pendingOf sid).map CommandRow.asked = waiting := by
    rw [Store.pendingOf_asked, hbriefs, List.filter_append, List.filter_eq_nil_iff.mpr, List.nil_append,
      List.filter_eq_self.mpr, List.map_map]
    · exact List.map_id _
    · intro brief hbrief
      obtain ⟨asked, -, rfl⟩ := List.mem_map.mp hbrief
      rfl
    · intro brief hbrief
      obtain ⟨attempt, -, rfl⟩ := List.mem_map.mp hbrief
      show ¬ (attempt.status == .pending) = true
      simpa using attempt.status_ne_pending
  rw [hpending, hbriefs]

/-- A claim leaves to be done what was pending. -/
theorem claim (h : Told sid opening attempts st) (t : T) (token claimedBy : String) :
    Telling sid opening attempts [] ((st.pendingOf sid).map CommandRow.asked)
      (st.claimPendingCommands t token sid claimedBy).2 where
  log := h.log
  inbox := by
    refine ⟨[], ?_⟩
    rw [Store.briefs_claimPendingCommands, h.pendingOf, List.map_append, List.map_nil, List.append_nil]
    congr 1
    · refine (List.map_congr_left fun brief hbrief => ?_).trans (List.map_id _)
      obtain ⟨attempt, -, rfl⟩ := List.mem_map.mp hbrief
      exact if_neg attempt.status_ne_pending
    · rw [List.map_map]
      refine List.map_congr_left fun asked _ => ?_
      show (if asked.waiting.2 = .pending then asked.claimed else asked.waiting) = _
      exact if_pos rfl

end Telling

section Runs

variable [Field T] [LinearOrder T] (py : Py) (tm : Timing T) {s : Ticking T} {sid : String}
  {opening : List (String × Json)} {attempts : List Attempt} {block : List (EventRow T)}
  {left : List Asked}

/-- The calls that write neither a log nor an inbox. -/
def Call.silent (c : Call T) : Prop := c.writes .events = false ∧ c.writes .inbox = false

theorem run_silent {α : Type} {post : α → Prop} {p : Code T α} (hp : p.Within Call.silent post) :
    (p.run (timed py tm) s).2.world.store.events = s.world.store.events ∧
      (p.run (timed py tm) s).2.world.store.commandInbox = s.world.store.commandInbox := by
  refine run_timed_store py tm s hp (I := fun w => w.store.events = s.world.store.events ∧
    w.store.commandInbox = s.world.store.commandInbox) (fun _ _ _ h => h) (fun c w hc h => ?_)
    ⟨rfl, rfl⟩
  rw [exec_events py w hc.1, exec_inbox py w hc.2]
  exact h

theorem Telling.silent {α : Type} {post : α → Prop} {p : Code T α} (hp : p.Within Call.silent post)
    (h : Telling sid opening attempts block left s.world.store) :
    Telling sid opening attempts block left (p.run (timed py tm) s).2.world.store := by
  obtain ⟨hevents, hinbox⟩ := run_silent py tm (s := s) hp
  refine h.congr ?_ ?_
  · unfold Store.eventsOf
    rw [hevents]
  · unfold Store.inboxOf
    rw [hinbox]

/-- An event of a session that exists is added to its log. -/
theorem run_appendEvent_row (c : Celld) (eventType : String) {payload : Json}
    (hses : s.world.store.hasSession sid = true) (hobj : payload.orEmpty.isObj = true) :
    ∃ ev s' row, (c.appendEvent sid eventType payload).run (timed py tm) s = (.ok ev, s') ∧
      s'.world.store.eventsOf sid = s.world.store.eventsOf sid ++ [row] ∧
      row.saying = (eventType, payload.orEmpty) ∧ row.actorResourceId = none ∧
      s'.world.store.commandInbox = s.world.store.commandInbox ∧
      s'.world.store.hasSession sid = true := by
  obtain ⟨heap, hrun, -⟩ := run_appendEvent py tm c hses hobj
  refine ⟨_, _, Store.newEvent (tm.now s.reading) sid (s.world.store.nextSequence sid) eventType
    payload none (s.world.store.events.last + 1), hrun, ?_, rfl, rfl, rfl, hses⟩
  have happend : s.world.store.appendEvent (tm.now s.reading) sid eventType payload none = _ :=
    Store.appendEvent_eq hses
  have hlog := Store.eventsOf_append happend sid
  rw [if_pos rfl] at hlog
  exact hlog

variable [IsStrictOrderedRing T] [FloorRing T]

theorem handle_silent (sandbox : Sandboxd) (sid token commandType : String) (payload : Json) :
    (Runtime.handle py sandbox sid token commandType payload :
      Code T (List (String × Json))).Within Call.silent
        fun outs => ∃ o, outs = [o] ∧ isOutput o.1 ∧ o.2.isObj = true := by
  refine (Runtime.handle_single py sandbox sid token commandType payload).mono_calls fun c hc => ?_
  cases c <;> first | exact ⟨rfl, rfl⟩ | exact hc.elim

/-- **The loop** writes into the tables what it tries. -/
theorem Telling.loop (c : Celld) (token : String) {cmds : List (CommandRow T)}
    (hses : s.world.store.hasSession sid = true)
    (h : Telling sid opening attempts [] (cmds.map CommandRow.asked) s.world.store) :
    Told sid opening (attempts ++ c.attempts py tm sid token cmds s)
      ((c.consumeLoop py sid token cmds).run (timed py tm) s).2.world.store := by
  refine (Celld.loop_rule (I := fun attempts cmds s => s.world.store.hasSession sid = true ∧
      Telling sid opening attempts [] (cmds.map CommandRow.asked) s.world.store)
    (M := fun attempts cmd rest s => s.world.store.hasSession sid = true ∧
      ∃ row : EventRow T, row.saying = ("command.received", cmd.asked.received) ∧
        row.actorResourceId = none ∧
        Telling sid opening attempts [row] (cmd.asked :: rest.map CommandRow.asked) s.world.store)
    ?_ ?_ ?_ ⟨hses, h⟩).2
  · rintro attempts cmd rest s ⟨hses, h⟩
    obtain ⟨ev, s', row, hrun, hlog, hsaying, hactor, hinbox, hses'⟩ := run_appendEvent_row py tm c
      "command.received" hses (show (Celld.received cmd).orEmpty.isObj = true from rfl)
    refine ⟨ev, s', hrun, hses', row, hsaying, hactor, h.append hlog ?_⟩
    unfold Store.inboxOf
    rw [hinbox]
  · rintro attempts cmd rest s e s' ⟨hses, row, hsaying, hactor, h⟩ hrun
    have hses' := run_hasSession py tm (Runtime.handle py c.sandboxd sid token cmd.commandType
      cmd.payload) hses
    have h' := h.silent py tm (handle_silent py c.sandboxd sid token cmd.commandType cmd.payload)
    rw [hrun] at hses' h'
    refine ⟨hses', ?_⟩
    have hraised := h'.close ⟨cmd.asked, .raised e⟩ ⟨by simp [hsaying, Attempt.entries],
      by simpa using hactor⟩ rfl fun _ _ h => h
    have hrest := hraised.abandon
    rw [List.map_map, ← List.append_cons] at hrest
    exact hrest
  · rintro attempts cmd rest s outs s' ⟨hses, row, hsaying, hactor, h⟩ hrun
    have hses' := run_hasSession py tm (Runtime.handle py c.sandboxd sid token cmd.commandType
      cmd.payload) hses
    have h' := h.silent py tm (handle_silent py c.sandboxd sid token cmd.commandType cmd.payload)
    rw [hrun] at hses' h'
    obtain ⟨⟨eventType, out⟩, rfl, -, hobj⟩ := (handle_silent py c.sandboxd sid token cmd.commandType
      cmd.payload).returned (congrArg Prod.fst hrun)
    -- the event of the handler
    obtain ⟨ev, s₁, row', hrun₁, hlog, hsaying', hactor', hinbox, hses₁⟩ := run_appendEvent_row
      py tm c eventType hses' (Json.orEmpty_isObj hobj)
    rw [Json.orEmpty_of_isObj hobj] at hsaying'
    have h₁ : Telling sid opening attempts [row, row'] (cmd.asked :: rest.map CommandRow.asked)
        s₁.world.store := by
      refine h'.append hlog ?_
      unfold Store.inboxOf
      rw [hinbox]
    -- the command is completed
    refine ⟨[ev], s₁, (timed py tm (.completeCommand cmd.id) s₁).2, Prog.run_bind_ok _ hrun₁,
      Prog.run_perform _ _ _, hses₁, ?_⟩
    refine h₁.close ⟨cmd.asked, .handled [(eventType, out)]⟩ ⟨?_, ?_⟩ rfl ?_
    · simp [hsaying, hsaying', Attempt.entries]
    · simp [hactor, hactor']
    · intro before after hbriefs
      have hordered := s₁.world.store.briefs_ordered sid
      rw [hbriefs] at hordered
      refine (s₁.world.store.briefs_completeCommand sid (tm.now s₁.reading) cmd.id).trans ?_
      rw [hbriefs]
      exact map_complete hordered

/-- **Consuming commands** tries what is pending. -/
theorem Telling.consume (c : Celld) (hdrawn : s.world.ClaimsDrawn py)
    (hses : s.world.store.hasSession sid = true) (h : Told sid opening attempts s.world.store) :
    Told sid opening (attempts ++ c.batch py tm sid s)
      ((c.consumeCommands py sid).run (timed py tm) s).2.world.store := by
  have hlive : (c.liveCell py sid : Code T Cell).Within Call.silent fun _ => True := by
    refine (c.liveCell_within py sid).mono_calls fun d hd => ?_
    cases d <;> first | exact ⟨rfl, rfl⟩ | exact hd.elim
  have h₁ := h.silent py tm hlive
  have hdrawn₁ := run_claimsDrawn py tm (c.liveCell py sid) hdrawn
  have hses₁ := run_hasSession py tm (c.liveCell py sid) hses
  unfold Celld.batch Celld.consumeCommands
  simp only [Prog.bind_eq]
  rcases hrun : (c.liveCell py sid).run (timed py tm) s with ⟨e | cell, s₁⟩
  · rw [hrun] at h₁
    rw [tellAfter_error hrun, Prog.run_bind_error _ hrun, List.append_nil]
    exact h₁
  rw [hrun] at h₁ hdrawn₁ hses₁
  -- the claim
  have hready : (s₁.ready tm).ClaimsDrawn py := hdrawn₁
  have hclaim : (call (.claimPendingCommands sid c.hostId)).run (timed py tm) s₁ =
      (.ok ((s₁.world.store.pendingOf sid).map (Store.claimRow (tm.now s₁.reading) c.hostId
        (s₁.world.fresh py .claimToken))),
        (timed py tm (.claimPendingCommands sid c.hostId) s₁).2) := by
    rw [Prog.run_perform, timed_reads py tm s₁ rfl (by simp)]
    exact congrArg (·, _) (exec_claimPendingCommands py hready sid c.hostId)
  rw [tellAfter_ok hrun, tellAfter_ok hclaim, Prog.run_bind_ok _ hrun, Prog.run_bind_ok _ hclaim]
  refine Telling.loop py tm c cell.jwt hses₁ ?_
  rw [List.map_map]
  exact h₁.claim (tm.now s₁.reading) (s₁.world.fresh py .claimToken) c.hostId

omit [IsStrictOrderedRing T] [FloorRing T] in
/-- A command is put into an inbox, of this session or of another, or refused. -/
theorem Telling.enqueued (h : Told sid opening attempts s.world.store)
    (sid' commandType : String) (payload : Json) (actor : Option String) {r : Except PyErr ℕ}
    {s' : Ticking T}
    (hrun : (call (.enqueueCommand sid' commandType payload actor)).run (timed py tm) s =
      (r, s')) :
    Told sid opening attempts s'.world.store := by
  rw [Prog.run_perform, timed_reads py tm s rfl (by simp)] at hrun
  obtain ⟨hout, rfl⟩ := Prod.mk.inj hrun
  cases r with
  | error e =>
    have hsame : (exec py (.enqueueCommand sid' commandType payload actor) (s.ready tm)).2 =
        s.ready tm := (World.commit_error (w := s.ready tm) hout).2
    dsimp only
    rw [hsame]
    exact h
  | ok n =>
    obtain ⟨st, henqueue, hst⟩ := World.commit_ok (w := s.ready tm) hout
    have hstore : (exec py (.enqueueCommand sid' commandType payload actor)
        (s.ready tm)).2.store = st := congrArg World.store hst
    dsimp only
    rw [hstore]
    by_cases hsid : sid' = sid
    · subst hsid
      exact h.enqueue henqueue
    · have hinbox := Store.inboxOf_enqueueCommand henqueue sid
      rw [if_neg hsid, List.append_nil] at hinbox
      obtain ⟨-, -, -, -, rfl⟩ := Store.enqueueCommand_ok henqueue
      exact h.congr rfl hinbox

omit [IsStrictOrderedRing T] [FloorRing T] in
/-- A command is put into the inbox of a session that exists, if it is. -/
theorem run_enqueue_hasSession {commandType : String} {payload : Json} {actor : Option String}
    {n : ℕ} {s' : Ticking T}
    (hrun : (call (.enqueueCommand sid commandType payload actor)).run (timed py tm) s =
      (.ok n, s')) : s'.world.store.hasSession sid = true := by
  have hstays : s.world.store.hasSession sid = true → s'.world.store.hasSession sid = true := by
    intro hses
    have hses' := run_hasSession py tm (call (.enqueueCommand sid commandType payload actor)) hses
    rw [hrun] at hses'
    exact hses'
  rw [Prog.run_perform, timed_reads py tm s rfl (by simp)] at hrun
  obtain ⟨st, henqueue, -⟩ := World.commit_ok (w := s.ready tm) (Prod.mk.inj hrun).1
  obtain ⟨-, -, -, hses, -⟩ := Store.enqueueCommand_ok henqueue
  exact hstays hses

omit [Field T] [LinearOrder T] [IsStrictOrderedRing T] [FloorRing T] in
theorem Call.ofRouting.silent {c : Call T} (h : c.ofRouting sid) : c.silent := by
  cases c <;> first | exact ⟨rfl, rfl⟩ | exact h.elim

omit [IsStrictOrderedRing T] [FloorRing T] in
/-- Up to `consume_commands`, sending puts a command into the inbox of a session
that exists. -/
theorem run_deliver_hasSession (send : Send) {delivered : ℕ × Celld} {s' : Ticking T}
    (hrun : (send.deliver sid).run (timed py tm) s = (.ok delivered, s')) :
    s'.world.store.hasSession sid = true := by
  unfold Send.deliver at hrun
  simp only [Prog.bind_eq, Prog.pure_eq] at hrun
  rcases hroute : (Gateway.route sid).run (timed py tm) s with ⟨e | route, s₁⟩
  · rw [Prog.run_bind_error _ hroute] at hrun
    cases hrun
  rw [Prog.run_bind_ok _ hroute] at hrun
  rcases henqueue : (call (.enqueueCommand sid send.commandType send.payload.orEmpty
    send.actorResourceId)).run (timed py tm) s₁ with ⟨e | n, s₂⟩
  · rw [Prog.run_bind_error _ henqueue] at hrun
    cases hrun
  rw [Prog.run_bind_ok _ henqueue] at hrun
  have hses := run_hasSession py tm ((Broker.celldForRoute sid).bind fun celld => .pure (n, celld))
    (run_enqueue_hasSession py tm henqueue)
  rw [hrun] at hses
  exact hses

omit [IsStrictOrderedRing T] [FloorRing T] in
theorem Telling.deliver (send : Send) (h : Told sid opening attempts s.world.store) :
    Told sid opening attempts ((send.deliver sid).run (timed py tm) s).2.world.store := by
  have h₁ := h.silent py tm ((Gateway.route_within sid).mono_calls fun _ hc => hc.silent)
  unfold Send.deliver
  simp only [Prog.bind_eq]
  rcases hroute : (Gateway.route sid).run (timed py tm) s with ⟨e | route, s₁⟩
  · rw [hroute] at h₁
    rw [Prog.run_bind_error _ hroute]
    exact h₁
  rw [hroute] at h₁
  rw [Prog.run_bind_ok _ hroute]
  rcases henqueue : (call (.enqueueCommand sid send.commandType send.payload.orEmpty
    send.actorResourceId)).run (timed py tm) s₁ with ⟨e | n, s₂⟩
  · rw [Prog.run_bind_error _ henqueue]
    exact h₁.enqueued py tm _ _ _ _ henqueue
  rw [Prog.run_bind_ok _ henqueue]
  have hfind : ((Broker.celldForRoute sid : Code T Celld).bind fun celld =>
      .pure (n, celld)).Within Call.silent fun _ => True :=
    .bind ((Broker.celldForRoute_within sid).mono_calls fun _ hc => hc.silent) fun _ _ => trivial
  exact (h₁.enqueued py tm _ _ _ _ henqueue).silent py tm hfind

/-- **Sending a command** tries it, with what was pending before it. -/
theorem Telling.send (send : Send) (hrooted : s.world.Rooted py)
    (h : Told sid opening attempts s.world.store) :
    Told sid opening (attempts ++ send.batch py tm sid s)
      ((send.code py sid).run (timed py tm) s).2.world.store := by
  have hdeliver := h.deliver py tm send
  have hdrawn := run_claimsDrawn py tm (send.deliver sid) hrooted.sound.claims
  rw [Send.code_eq]
  unfold Send.batch
  rcases hrun : (send.deliver sid).run (timed py tm) s with ⟨e | ⟨n, celld⟩, s'⟩
  · rw [hrun] at hdeliver
    rw [tellAfter_error hrun, Prog.run_bind_error _ hrun, List.append_nil]
    exact hdeliver
  · rw [hrun] at hdeliver hdrawn
    rw [tellAfter_ok hrun, Prog.run_bind_ok _ hrun, Prog.run_bind_pure]
    exact hdeliver.consume py tm celld hdrawn (run_deliver_hasSession py tm send hrun)

end Runs

section Runs

variable [Field T] [LinearOrder T] [IsStrictOrderedRing T] [FloorRing T] (py : Py)
  (tm : Timing T) {s : Ticking T} {sid : String} {opening : List (String × Json)}
  {attempts : List Attempt}

/-! ## The beginning of a log -/

/-- What a session starts with. -/
def started (host : String) : String × Json :=
  ("session.started", .obj [("cell_host", .str host)])

/-- A session has been started, or not. -/
def IsOpening (opening : List (String × Json)) : Prop :=
  opening = [] ∨ ∃ host, opening = [started host]

/-- A new session, before it is placed. -/
def Unplaced (sid : String) (s : Ticking T) : Prop :=
  s.world.store.hasSession sid = true ∧ Told sid [] [] s.world.store

/-- Once it is placed it is started. -/
def PlacedIf (sid : String) (returned : Prop) (s : Ticking T) : Prop :=
  ∃ opening, IsOpening opening ∧ Told sid opening [] s.world.store ∧ (returned → opening ≠ [])

omit [IsStrictOrderedRing T] [FloorRing T] in
theorem unplaced_silent {α : Type} {post : α → Prop} {p : Code T α}
    (hp : p.Within Call.silent post) :
    Triple (timed py tm) (Unplaced sid) p fun _ => Unplaced sid :=
  fun _ h => ⟨run_hasSession py tm p h.1, h.2.silent py tm hp⟩

omit [IsStrictOrderedRing T] [FloorRing T] in
theorem placedIf_silent {α : Type} {post : α → Prop} {p : Code T α} (returned : Prop)
    (hp : p.Within Call.silent post) :
    Triple (timed py tm) (PlacedIf sid returned) p fun _ => PlacedIf sid returned := by
  rintro s ⟨opening, hopening, h, hreturned⟩
  exact ⟨opening, hopening, h.silent py tm hp, hreturned⟩

omit [Field T] [LinearOrder T] [IsStrictOrderedRing T] [FloorRing T] in
theorem PlacedIf.imp {s : Ticking T} {returned returned' : Prop} (h : PlacedIf sid returned s)
    (himp : returned' → returned) : PlacedIf sid returned' s := by
  obtain ⟨opening, hopening, htold, hne⟩ := h
  exact ⟨opening, hopening, htold, fun hr => hne (himp hr)⟩

omit [Field T] [LinearOrder T] [IsStrictOrderedRing T] [FloorRing T] in
theorem Unplaced.placedIf {s : Ticking T} (h : Unplaced sid s) {returned : Prop}
    (hnot : ¬ returned) : PlacedIf sid returned s :=
  ⟨[], .inl rfl, h.2, fun hr => absurd hr hnot⟩

/-- **`create_cell`** starts the session. -/
theorem createCell_starts (c : Celld) :
    Triple (timed py tm) (Unplaced sid) (c.createCell py sid)
      fun _ s => PlacedIf sid True s := by
  rintro s ⟨hses, h⟩
  have hstatus : (call (.updateSessionStatus sid .running) : Code T Unit).Within Call.silent
      fun _ => True := .perform ⟨rfl, rfl⟩ fun _ => trivial
  have hunplaced : Unplaced sid (s.withCreated py tm c sid) := ⟨hses, h⟩
  have hunplaced' := unplaced_silent py tm hstatus _ hunplaced
  obtain ⟨s₁, hs₁⟩ : ∃ s₁, (call (.updateSessionStatus sid .running)).run (timed py tm)
      (s.withCreated py tm c sid) = (.ok (), s₁) := ⟨_, rfl⟩
  rw [hs₁] at hunplaced'
  obtain ⟨ev, s₂, row, hrun, hlog, hsaying, -, hinbox, -⟩ := run_appendEvent_row py tm c
    "session.started" hunplaced'.1
    (show (Json.obj [("cell_host", .str c.hostId)]).orEmpty.isObj = true from rfl)
  rw [run_createCell, Prog.run_bind_ok _ hs₁, Prog.run_bind_ok _ hrun]
  refine ⟨[started c.hostId], .inr ⟨c.hostId, rfl⟩, ⟨?_, ?_⟩, fun _ => List.cons_ne_nil _ _⟩
  · obtain ⟨began, rowss, hevents, hbegan, hrows⟩ := hunplaced'.2.log
    obtain rfl := List.map_eq_nil_iff.mp hbegan
    obtain rfl := List.forall₂_nil_left_iff.mp hrows
    refine ⟨[row], [], hlog.trans ?_, ?_, .nil⟩
    · rw [hevents]
      rfl
    · exact congrArg ([·]) hsaying
  · have hsame : s₂.world.store.inboxOf sid = s₁.world.store.inboxOf sid := by
      unfold Store.inboxOf
      rw [hinbox]
    show ∃ waiting, (s₂.world.store.inboxOf sid).map CommandRow.brief = _
    rw [hsame]
    exact hunplaced'.2.inbox

/-- **`place_session`** starts the session if it returns. -/
theorem placeSession_starts :
    Triple (timed py tm) (Unplaced sid) (Broker.placeSession py sid)
      fun r s => PlacedIf sid (∃ placement, r = .ok placement) s := by
  have herror : ∀ {e : PyErr} (s : Ticking T), Unplaced sid s →
      PlacedIf sid (∃ placement : Placement, .error e = Except.ok placement) s :=
    fun s h => h.placedIf fun ⟨_, heq⟩ => nomatch heq
  have hsilent : ∀ {c : Call T}, c.silent →
      Triple (timed py tm) (Unplaced sid) (call c) fun _ => Unplaced sid :=
    fun hc => unplaced_silent py tm (Prog.Within.perform hc fun _ => trivial)
  refine Triple.bind (hsilent ⟨rfl, rfl⟩) (fun host => ?_) fun e s h => herror s h
  refine Triple.bind (hsilent ⟨rfl, rfl⟩) (fun lease => ?_) fun e s h => herror s h
  refine Triple.bind (hsilent ⟨rfl, rfl⟩) (fun found => ?_) fun e s h => herror s h
  cases found with
  | none => exact Triple.throw fun s h => herror s h
  | some createCell =>
    cases createCell with
    | raises e => exact Triple.throw fun s h => herror s h
    | celld c =>
      have hcreate : Triple (timed py tm) (Unplaced sid) (Broker.runCallback py sid (.celld c))
          fun _ => PlacedIf sid True :=
        Triple.bind (createCell_starts py tm c) (fun _ => Triple.pure fun s h => h) fun e s h => h
      exact Triple.bind hcreate (fun _ => Triple.pure fun s h => h.imp fun _ => trivial)
        fun e s h => h.imp fun _ => trivial

/-! ## Jobs -/

/-- A job leaves the tables with these attempts, and starts the session if it
creates it. -/
def Onward (sid : String) (opening : List (String × Json)) (attempts : List Attempt)
    (created : Prop) (st : Store T) : Prop :=
  ∃ opening', IsOpening opening' ∧ Told sid opening' attempts st ∧
    (opening ≠ [] ∨ created → opening' ≠ [])

omit [Field T] [LinearOrder T] [IsStrictOrderedRing T] [FloorRing T] in
theorem Telling.onward {st : Store T} (h : Told sid opening attempts st)
    (hopening : IsOpening opening) {created : Prop} (hnot : ¬ created) :
    Onward sid opening attempts created st :=
  ⟨opening, hopening, h, fun hor => hor.elim id fun hc => absurd hc hnot⟩

omit [Field T] [LinearOrder T] [IsStrictOrderedRing T] [FloorRing T] in
theorem Onward.imp {st : Store T} {created created' : Prop}
    (h : Onward sid opening attempts created st) (himp : created' → created) :
    Onward sid opening attempts created' st := by
  obtain ⟨opening', hopening', htold, hne⟩ := h
  exact ⟨opening', hopening', htold, fun hor => hne (hor.imp_right himp)⟩

omit [Field T] [LinearOrder T] [IsStrictOrderedRing T] [FloorRing T] in
/-- Nothing is told of a session that does not exist. -/
theorem Telling.of_nobody (h : Told sid opening attempts s.world.store)
    (hrooted : s.world.Rooted py) (hnone : s.world.store.hasSession sid = false) :
    opening = [] ∧ attempts = [] := by
  obtain ⟨began, rowss, hevents, rfl, hrows⟩ := h.log
  obtain ⟨waiting, hbriefs⟩ := h.inbox
  rw [hrooted.eventsOf_nil py hnone] at hevents
  rw [hrooted.inboxOf_nil py hnone] at hbriefs
  simp at hevents hbriefs
  exact ⟨by simp [hevents.1], hbriefs.1⟩

omit [IsStrictOrderedRing T] [FloorRing T] in
/-- **A new session**: another is left as it is, and its own is started if the
program that is given its id starts it. -/
theorem Telling.candidate {β : Type} {tenantId : String} {metadata : Json} {p : String → Code T β}
    {good : β → Prop} (hrooted : s.world.Rooted py) (h : Told sid opening attempts s.world.store)
    (hopening : IsOpening opening)
    (habout : ∀ candidate, (p candidate).Within (Call.about candidate fun _ => False) fun _ => True)
    (hself : Triple (timed py tm) (Unplaced sid) (p sid)
      fun r s => PlacedIf sid (∃ b, r = .ok b ∧ good b) s)
    (hgood : ∀ candidate, Triple (timed py tm) (fun _ => True) (p candidate)
      fun r _ => ∀ b, r = .ok b → good b → sid = candidate) :
    Onward sid opening attempts
      (∃ b, (((call (.createSession tenantId none none metadata)).bind p).run
        (timed py tm) s).1 = .ok b ∧ good b)
      (((call (.createSession tenantId none none metadata)).bind p).run
        (timed py tm) s).2.world.store := by
  obtain ⟨s₁, hrun, ⟨sessions, hstore⟩, -, hpending⟩ := run_newCandidate py tm tenantId metadata
    fun row hrow => hrooted.sound.sessionIds row hrow _ (Nat.le_refl _)
  rw [Prog.run_bind_ok _ hrun]
  by_cases hsid : sid = s.world.fresh py .session
  · have hnone : s.world.store.hasSession sid = false := by
      refine Bool.eq_false_iff.mpr fun hses => ?_
      obtain ⟨row, hrow, hid⟩ := Data.Table.find?_isSome.mp hses
      exact hrooted.sound.sessionIds row hrow _ (Nat.le_refl _) (hid.trans hsid)
    obtain ⟨rfl, rfl⟩ := h.of_nobody py hrooted hnone
    have hunplaced : Unplaced sid s₁ := by
      refine ⟨?_, ?_⟩
      · rw [hsid]
        exact Store.hasSession_of_statusOf hpending
      · rw [hstore]
        exact h.congr rfl rfl
    obtain ⟨opening', hopening', htold, hne⟩ := hself s₁ hunplaced
    rw [← hsid]
    refine ⟨opening', hopening', htold, fun hor => ?_⟩
    exact hor.elim (fun hold => absurd rfl hold) hne
  · have hother := (run_createSession_tenant py tm hrun).2 sid hsid
    have hrest := hother.trans (run_untouched py tm (s := s₁)
      (habout (s.world.fresh py .session)) (fun _ _ h => h.elim) hsid)
    refine (h.congr hrest.log hrest.inbox).onward hopening ?_
    rintro ⟨b, hb, hb'⟩
    exact hsid (hgood _ s₁ trivial b hb hb')

/-- What the guarded part of a channel call reports as created is its candidate. -/
theorem guarded_created (request : ChannelRequest) (resourceId candidate : String) :
    Triple (timed py tm) (fun _ => True) (request.guarded py resourceId candidate)
      fun r _ => ∀ session, r = .ok session → session.sessionId = sid ∧ session.created = true →
        sid = candidate := by
  rintro s - session hrun ⟨rfl, hcreated⟩
  rcases hplace : (Broker.placeSession py candidate).run (timed py tm) s with ⟨e | placement, s₁⟩
  · unfold ChannelRequest.guarded Gateway.joinChannel at hrun
    simp only [Prog.bind_eq] at hrun
    rw [Prog.run_tryCatch, Prog.run_bind_error _ hplace] at hrun
    cases hrun
  rw [(guarded_returns py tm request resourceId hplace rfl).1] at hrun
  cases hfound : s₁.world.store.getOrCreateChannel (tm.now s₁.reading) (s₁.world.fresh py .channel)
    request.platform request.channelId request.threadId candidate resourceId request.metadata with
  | error e =>
    rw [hfound] at hrun
    cases hrun
  | ok found =>
    obtain ⟨⟨actualSid, cid, created⟩, st⟩ := found
    obtain ⟨-, row, -, rfl, -, hrow⟩ := Store.getOrCreateChannel_ok hfound
    rw [hfound] at hrun
    obtain rfl := Except.ok.inj hrun
    have htrue : (row.sessionId == candidate && row.id == s₁.world.fresh py .channel) = true :=
      hrow.symm.trans hcreated
    simp only [Bool.and_eq_true, beq_iff_eq] at htrue
    exact htrue.1

/-- The guarded part of a channel call starts its candidate if it returns. -/
theorem guarded_starts (request : ChannelRequest) (resourceId : String) :
    Triple (timed py tm) (Unplaced sid) (request.guarded py resourceId sid)
      fun r s => PlacedIf sid (∃ session, r = .ok session) s := by
  have hstatus : (call (.updateSessionStatus sid .abandoned) : Code T Unit).Within Call.silent
      fun _ => True := .perform ⟨rfl, rfl⟩ fun _ => trivial
  refine Triple.tryCatch (M := fun r s => PlacedIf sid (∃ session, r = .ok session) s) ?_
    (fun session s h => h) fun e => ?_
  · refine Triple.bind (placeSession_starts py tm) (fun placement => ?_) fun e s h =>
      h.imp fun ⟨_, heq⟩ => nomatch heq
    suffices hrest : Prog.Within Call.silent (fun _ => True) _ from
      Triple.weaken (placedIf_silent py tm True hrest) (fun s h => h.imp fun _ => ⟨placement, rfl⟩)
        fun r s h => h.imp fun _ => trivial
    refine .bind (.perform ⟨rfl, rfl⟩ fun _ => trivial) fun found _ => ?_
    obtain ⟨actualSid, cid, created⟩ := found
    dsimp only
    split
    · trivial
    · exact .bind hstatus fun _ _ => trivial
  · refine Triple.bind (placedIf_silent py tm _ hstatus) (fun _ => Triple.throw fun s h => ?_)
      fun e s h => ?_
    · exact h.imp fun ⟨_, heq⟩ => nomatch heq
    · exact h.imp fun ⟨_, heq⟩ => nomatch heq

/-- **`create_session`** starts the session it creates. -/
theorem Telling.createSession (tenantId : String) (metadata : Json) (hrooted : s.world.Rooted py)
    (h : Told sid opening attempts s.world.store) (hopening : IsOpening opening) :
    Onward sid opening attempts
      (∃ created, ((Gateway.createSession py tenantId metadata).run (timed py tm) s).1 =
        .ok created ∧ created.sessionId = sid)
      ((Gateway.createSession py tenantId metadata).run (timed py tm) s).2.world.store := by
  refine h.candidate py tm hrooted hopening (fun candidate => ?_) ?_ fun candidate => ?_
  · exact .bind (Broker.placeSession_about py candidate) fun _ _ => trivial
  · exact Triple.bind (placeSession_starts py tm)
      (fun placement => Triple.pure fun s h => h.imp fun _ => ⟨placement, rfl⟩)
      fun e s h => h.imp fun ⟨_, heq, _⟩ => nomatch heq
  · refine Triple.bind (M := fun _ _ => True) (fun _ _ => trivial)
      (fun placement => Triple.pure fun s _ created hcreated hsid => ?_) fun e s _ b hb => nomatch hb
    obtain rfl := Except.ok.inj hcreated
    exact hsid.symm

/-- **`get_or_create_channel_session`** starts the session it creates. -/
theorem Telling.channelSession (request : ChannelRequest) (hrooted : s.world.Rooted py)
    (h : Told sid opening attempts s.world.store) (hopening : IsOpening opening) :
    Onward sid opening attempts
      (∃ session, ((request.run py).run (timed py tm) s).1 = .ok session ∧
        session.sessionId = sid ∧ session.created = true)
      ((request.run py).run (timed py tm) s).2.world.store := by
  obtain ⟨drawn, hresource, -⟩ := run_resourceId py tm (s := s) request
  have hrooted' := run_rooted py tm (Gateway.resourceId request.platform
    request.initiatorResourceId) hrooted
  rw [hresource] at hrooted'
  have hrun : (request.run py).run (timed py tm) s =
      ((call (.createSession request.tenantId none none request.metadata.orEmpty)).bind
        (request.guarded py (request.initiator py s.world))).run (timed py tm)
        { s with world := { s.world with drawn } } := Prog.run_bind_ok _ hresource
  rw [hrun]
  refine Telling.candidate py tm hrooted' h hopening (fun candidate => ?_) ?_ fun candidate => ?_
  · exact guarded_about py request _ candidate
  · exact Triple.weaken (guarded_starts py tm request _) (fun _ h => h)
      fun r s h => h.imp fun ⟨session, heq, _⟩ => ⟨session, heq⟩
  · exact guarded_created py tm request _ candidate

omit [IsStrictOrderedRing T] [FloorRing T] in
/-- A job that writes neither a log nor an inbox changes nothing of the story. -/
theorem Telling.nothing {α : Type} {post : α → Prop} {p : Code T α} (hp : p.Within Call.silent post)
    (h : Told sid opening attempts s.world.store) (hopening : IsOpening opening) :
    Onward sid opening (attempts ++ []) False (p.run (timed py tm) s).2.world.store := by
  rw [List.append_nil]
  exact (h.silent py tm hp).onward hopening id

/-- **Every job** tries the commands of its batch, and starts the session if it
creates it. -/
theorem Telling.job (job : Job) (hrooted : s.world.Rooted py)
    (h : Told sid opening attempts s.world.store) (hopening : IsOpening opening) :
    Onward sid opening (attempts ++ job.batch py tm sid s) (job.Creates py tm sid s)
      (job.serve py tm s).world.store := by
  cases job with
  | client request =>
    simp only [Job.serve, Job.code, Prog.bind_eq, Prog.pure_eq, Prog.run_bind_pure]
    cases request with
    | createSession tenantId metadata =>
      simp only [Request.code, Prog.bind_eq, Prog.pure_eq, Prog.run_bind_pure]
      show Onward sid opening (attempts ++ []) _ _
      rw [List.append_nil]
      refine (h.createSession py tm tenantId metadata hrooted hopening).imp ?_
      rintro ⟨created, s', hrun, hsid⟩
      exact ⟨created, congrArg Prod.fst hrun, hsid⟩
    | sendCommand sessionId commandType payload actor =>
      simp only [Request.code, Prog.bind_eq, Prog.pure_eq, Prog.run_bind_pure]
      -- the one job that tries commands
      show Onward sid opening (attempts ++ if sessionId = sid then _ else []) False _
      by_cases hsid : sessionId = sid
      · subst hsid
        rw [if_pos rfl]
        exact (h.send py tm ⟨commandType, payload, actor⟩ hrooted).onward hopening id
      · rw [if_neg hsid, List.append_nil]
        have hother := sendCommand_untouched py tm hrooted.sound.claims commandType payload actor
          (Ne.symm hsid)
        exact (h.congr hother.log hother.inbox).onward hopening id
    | enqueueCommand sessionId commandType payload actor =>
      simp only [Request.code, Prog.bind_eq, Prog.pure_eq, Prog.run_bind_pure]
      show Onward sid opening (attempts ++ []) False _
      rw [List.append_nil]
      exact (h.enqueued py tm sessionId commandType payload actor rfl).onward hopening id
    | getSessionEvents sessionId after =>
      simp only [Request.code, Prog.bind_eq, Prog.pure_eq, Prog.run_bind_pure]
      have hread : (Gateway.getSessionEvents sessionId after : Code T _).Within Call.silent
          fun _ => True := Gateway.getSessionEvents_calls (fun _ hc => hc.silent) ⟨rfl, rfl⟩
      exact h.nothing py tm hread hopening
  | channelSession request =>
    simp only [Job.serve, Job.code, Prog.bind_eq, Prog.pure_eq, Prog.run_bind_pure]
    show Onward sid opening (attempts ++ []) _ _
    rw [List.append_nil]
    refine (h.channelSession py tm request hrooted hopening).imp ?_
    rintro ⟨session, s', hrun, hgood⟩
    exact ⟨session, congrArg Prod.fst hrun, hgood⟩
  | destroyCell celld sessionId =>
    refine h.nothing py tm ((celld.destroyCell_within py sessionId).mono_calls fun c hc => ?_)
      hopening
    cases c <;> first | exact ⟨rfl, rfl⟩ | exact hc.elim
  | reconstructCell celld sessionId =>
    simp only [Job.serve, Job.code, Prog.bind_eq, Prog.pure_eq, Prog.run_bind_pure]
    refine h.nothing py tm ((celld.reconstructCell_within py sessionId).mono_calls fun c hc => ?_)
      hopening
    cases c <;> first | exact ⟨rfl, rfl⟩ | exact hc.elim
  | loseCell celld sessionId =>
    simp only [Job.serve, Job.code, Prog.bind_eq, Prog.pure_eq, Prog.run_bind_pure]
    have hpop : (call (.cellsPop celld.ref sessionId) : Code T _).Within Call.silent
        fun _ => True := .perform ⟨rfl, rfl⟩ fun _ => trivial
    exact h.nothing py tm hpop hopening

/-- **Whole runs**, by induction on the jobs: the tables tell the history. -/
theorem Telling.jobs (jobs : List Job) (hrooted : s.world.Rooted py)
    (h : Told sid opening attempts s.world.store) (hopening : IsOpening opening) :
    Onward sid opening (attempts ++ (history py tm sid jobs s).flatten)
      (SomeCreates py tm sid jobs s) (serveJobs py tm jobs s).world.store := by
  induction jobs generalizing opening attempts s with
  | nil =>
    show Onward sid opening (attempts ++ []) False _
    rw [List.append_nil]
    exact h.onward hopening id
  | cons job rest ih =>
    obtain ⟨opening₁, hopening₁, h₁, hne₁⟩ := h.job py tm job hrooted hopening
    have hrooted₁ : (job.serve py tm s).world.Rooted py := run_rooted py tm (job.code py) hrooted
    obtain ⟨opening₂, hopening₂, h₂, hne₂⟩ := ih hrooted₁ h₁ hopening₁
    refine ⟨opening₂, hopening₂, ?_, ?_⟩
    · rw [serveJobs_cons]
      unfold history
      rw [List.flatten_cons, ← List.append_assoc]
      exact h₂
    · rintro (hold | hcreates | hcreates)
      · exact hne₂ (.inl (hne₁ (.inl hold)))
      · exact hne₂ (.inl (hne₁ (.inr hcreates)))
      · exact hne₂ (.inr hcreates)

/-- On a new local stack the tables tell the history of every session. -/
theorem told_localWorld (cwd : List String) (clock : T) (files : Files) (jobs : List Job)
    (sid : String) :
    Onward sid [] (history py tm sid jobs ⟨0, localWorld py cwd clock files⟩).flatten
      (SomeCreates py tm sid jobs ⟨0, localWorld py cwd clock files⟩)
      (serveJobs py tm jobs ⟨0, localWorld py cwd clock files⟩).world.store := by
  have hnothing : Told sid [] [] (localWorld py cwd clock files).store :=
    ⟨⟨[], [], rfl, rfl, .nil⟩, ⟨[], rfl⟩⟩
  exact hnothing.jobs py tm jobs (s := ⟨0, localWorld py cwd clock files⟩)
    (rooted_localWorld py cwd clock files) (.inl rfl)

end Runs

end Nadi
