import Nadi.Data.Turns
import Nadi.EventCap
import Nadi.Inbox
import Nadi.Telling

/-!
# In which order commands are executed

A thread that sends a command claims all that waits in the session, in the order
of ids, and works through it with no regard to the other threads that do the same
(celld.py:63–75). So a session's commands are executed by workers that take
batches from one queue (`Data.Turns`): a `command.received` begins the next of a
thread's batch, its result event ends it (`board_act`). If each command is begun
in its turn (`TakesTurns`), the log has the commands one after the other, in the
order in which they were accepted (`commands_in_order`). Nothing sees to that
(`commands_out_of_order`).
-/

namespace Nadi

open Effect Data

variable {T : Type}

/-! ## What a thread has in hand -/

instance (eventType : String) : Decidable (isOutput eventType) :=
  inferInstanceAs (Decidable (_ ∨ _ ∨ _ ∨ _))

/-- What an event of a session says of its commands. -/
def deedOf (eventType : String) (payload : Json) : Option (Turns.Deed ℕ) :=
  if eventType = "command.received" then (commandIdOf payload).map .began
  else if isOutput eventType then some .ended
  else none

theorem deedOf_output {eventType : String} (h : isOutput eventType) (payload : Json) :
    deedOf eventType payload = some .ended := by
  unfold deedOf
  rw [if_neg h.ne_received, if_pos h]

/-- A thread takes a batch when it has nothing in hand, begins what is next in it,
and ends what it has begun. -/
def TaskMay (sid : String) (q : Turns.Task ℕ) : Call T → Prop
  | .claimPendingCommands s _ => s = sid → q = .idle
  | .appendEvent s eventType payload _ => s = sid → ∀ d, deedOf eventType payload.orEmpty = some d →
    match d with
    | .began id => ∃ rest, q = ⟨false, id :: rest⟩
    | .ended => q.begun = true
  | _ => True

/-- What is in hand after a deed. -/
def taskAfter (q : Turns.Task ℕ) : Option (Turns.Deed ℕ) → Turns.Task ℕ
  | some (.began _) => ⟨true, q.left.tail⟩
  | some .ended => ⟨false, q.left⟩
  | none => q

/-- How a call changes what its thread has in hand of a session. -/
def taskNext (sid : String) (q : Turns.Task ℕ) : (c : Call T) → Except PyErr c.Ret → Turns.Task ℕ
  | .claimPendingCommands s _, .ok rows => if s = sid then ⟨false, rows.map CommandRow.id⟩ else q
  | .appendEvent s eventType payload _, .ok _ =>
    if s = sid then taskAfter q (deedOf eventType payload.orEmpty) else q
  | _, _ => q

/-- A consumer of a session's commands. -/
def taskRole (T : Type) (sid : String) : Role (Turns.Task ℕ) (Call T) Call.Ret PyErr where
  init := .idle
  may := TaskMay sid
  next := taskNext sid

/-- The calls that are of no concern to who executes the commands of a session. -/
def Call.bystands (sid : String) : Call T → Prop
  | .claimPendingCommands s _ => s ≠ sid
  | .appendEvent s eventType payload _ => s = sid → deedOf eventType payload.orEmpty = none
  | _ => True

theorem Call.bystands.may {sid : String} {c : Call T} (h : c.bystands sid) (q : Turns.Task ℕ) :
    TaskMay sid q c := by
  cases c with
  | claimPendingCommands s by' => exact fun hs => absurd hs h
  | appendEvent s eventType payload actor =>
    exact fun hs d hd => nomatch (h hs).symm.trans hd
  | _ => trivial

theorem Call.bystands.next {sid : String} {c : Call T} (h : c.bystands sid) (q : Turns.Task ℕ)
    (r : Except PyErr c.Ret) : taskNext sid q c r = q := by
  cases r with
  | error e => cases c <;> rfl
  | ok a =>
    cases c with
    | claimPendingCommands s by' => exact if_neg h
    | appendEvent s eventType payload actor =>
      show (if s = sid then taskAfter q (deedOf eventType payload.orEmpty) else q) = q
      split
      · rename_i hs
        rw [h hs]
        rfl
      · rfl
    | _ => rfl

theorem Call.idle.bystands {c : Call T} (h : c.idle) (sid : String) : c.bystands sid := by
  cases c <;> trivial

/-! ## Consumers -/

section Plays

variable [Field T] [LinearOrder T] [IsStrictOrderedRing T] [FloorRing T] (py : Py)
  {q : Turns.Task ℕ} {sid : String}

omit [Field T] [LinearOrder T] [IsStrictOrderedRing T] [FloorRing T] in
/-- A program that is no concern of a session's commands. -/
theorem plays_bystands {α : Type} {h : Handler (Call T) Call.Ret PyErr (World T)}
    {ok : Call T → Prop} {value : α → Prop} {p : Code T α} (hp : p.Within ok value)
    (hok : ∀ c, ok c → c.bystands sid) :
    (taskRole T sid).Plays h (fun q' r => q' = q ∧ ∀ a, r = .ok a → value a) p q :=
  Role.Plays.of_within hp (fun c hc => (hok c hc).may q) fun c r hc => (hok c hc).next q r

omit [Field T] [LinearOrder T] [IsStrictOrderedRing T] [FloorRing T] in
/-- An event of a session is a deed of the thread that appends it. -/
theorem task_appendEvent {h : Handler (Call T) Call.Ret PyErr (World T)} (c : Celld)
    (eventType : String) (payload : Json)
    (hmay : TaskMay (T := T) sid q (.appendEvent sid eventType payload.orEmpty none)) :
    (taskRole T sid).Plays h
      (fun q' r => ∀ ev, r = .ok ev → q' = taskAfter q (deedOf eventType payload.orEmpty))
      (c.appendEvent sid eventType payload) q := by
  have hnext : ∀ ev : Event, taskNext (T := T) sid q
      (.appendEvent sid eventType payload.orEmpty none) (.ok ev) =
        taskAfter q (deedOf eventType payload.orEmpty) := by
    intro ev
    refine (if_pos rfl).trans ?_
    rw [Json.orEmpty_orEmpty]
  refine Role.Plays.perform_bind hmay (fun w ev _ => ?_) fun _ _ _ ev h => nomatch h
  refine Role.Plays.perform_bind trivial (fun w found _ => ?_) fun _ _ _ ev h => nomatch h
  cases found with
  | none => exact fun _ _ => hnext ev
  | some cell =>
    exact Role.Plays.perform_bind trivial (fun _ _ _ _ _ => hnext ev) fun _ _ _ ev h => nomatch h

/-- The loop begins and ends each command of its batch. -/
theorem task_consumeLoop (c : Celld) (token : String) (cmds : List (CommandRow T))
    (hq : q = ⟨false, cmds.map CommandRow.id⟩) :
    (taskRole T sid).Plays (exec py) (fun _ _ => True) (c.consumeLoop py sid token cmds) q := by
  induction cmds generalizing q with
  | nil => trivial
  | cons cmd rest ih =>
    subst hq
    refine Role.Plays.bind (task_appendEvent c _ _ ?_) (fun q₁ ev hq => ?_) fun _ _ _ => trivial
    · rintro - d hd
      cases hd
      exact ⟨_, rfl⟩
    obtain rfl := hq ev rfl
    refine Role.Plays.bind (plays_bystands (Runtime.handle_single py c.sandboxd sid token
      cmd.commandType cmd.payload) fun _ hc => hc.idle.bystands sid) (fun q₂ outs hq => ?_)
      fun _ _ _ => trivial
    obtain ⟨rfl, houts⟩ := hq
    obtain ⟨out, rfl, hout, -⟩ := houts outs rfl
    have houtput : (taskRole T sid).Plays (exec py)
        (fun q' r => ∀ evs, r = .ok evs → q' = ⟨false, rest.map CommandRow.id⟩)
        (c.appendEvents sid [out]) ⟨true, rest.map CommandRow.id⟩ := by
      refine Role.Plays.bind (task_appendEvent c _ _ ?_) (fun q₃ ev hq => ?_)
        fun _ _ _ evs h => nomatch h
      · rintro - d hd
        rw [deedOf_output hout] at hd
        cases hd
        rfl
      · rintro _ -
        rw [hq ev rfl, deedOf_output hout]
        rfl
    refine Role.Plays.bind houtput (fun q₃ evs hq => ?_) fun _ _ _ => trivial
    obtain rfl := hq evs rfl
    refine Role.Plays.perform_bind trivial (fun _ _ _ => ?_) fun _ _ _ => trivial
    exact Role.Plays.bind (ih rfl) (fun _ _ _ => trivial) fun _ _ _ => trivial

/-- Sending a command to the session. -/
theorem task_sendCommand (commandType : String) (payload : Json) (actor : Option String) :
    (taskRole T sid).Plays (exec py) (fun _ _ => True)
      (Gateway.sendCommand py sid commandType payload actor) .idle := by
  refine Role.Plays.bind (plays_bystands (Gateway.route_within sid)
    fun _ hc => hc.idle.bystands sid) (fun q₁ _ hq => ?_) fun _ _ _ => trivial
  obtain ⟨rfl, -⟩ := hq
  refine Role.Plays.perform_bind trivial (fun _ _ _ => ?_) fun _ _ _ => trivial
  refine Role.Plays.bind (plays_bystands (Broker.celldForRoute_within sid)
    fun _ hc => hc.idle.bystands sid) (fun q₂ c hq => ?_) fun _ _ _ => trivial
  obtain ⟨rfl, -⟩ := hq
  have hconsume : (taskRole T sid).Plays (exec py) (fun _ _ => True) (c.consumeCommands py sid)
      .idle := by
    refine Role.Plays.bind (plays_bystands (c.liveCell_within py sid)
      fun _ hc => hc.idle.bystands sid) (fun q₃ cell hq => ?_) fun _ _ _ => trivial
    obtain ⟨rfl, -⟩ := hq
    refine Role.Plays.perform_bind (fun _ => rfl) (fun _ cmds _ => ?_) fun _ _ _ => trivial
    exact task_consumeLoop py c cell.jwt cmds (if_pos rfl)
  exact Role.Plays.bind hconsume (fun _ _ _ => trivial) fun _ _ _ => trivial

omit [Field T] [LinearOrder T] [IsStrictOrderedRing T] [FloorRing T] in
theorem Call.ofAppend.bystands {c : Celld} {s : String} {d : Call T} (h : d.ofAppend c s)
    (hne : s ≠ sid) : d.bystands sid := by
  cases d with
  | appendEvent s' eventType payload actor => exact fun hs => absurd (h.symm.trans hs) hne
  | _ => trivial

/-- Sending a command to another session. -/
theorem sendCommand_bystands {s : String} (hne : s ≠ sid) (commandType : String) (payload : Json)
    (actor : Option String) :
    (Gateway.sendCommand py s commandType payload actor : Code T Sent).Within
      (Call.bystands sid) fun _ => True := by
  have hcall : ∀ (c : Celld) (d : Call T), d.ofConsumption c s → d.bystands sid := by
    intro c d hd
    cases d with
    | claimPendingCommands s' by' => exact hd.1 ▸ hne
    | appendEvent s' eventType payload actor =>
      rcases hd with hd | hd | hd
      · exact hd.elim
      · exact Call.ofAppend.bystands hd hne
      · exact hd.elim
    | _ => trivial
  refine .bind ((Gateway.route_within s).mono (fun _ hc => hc.idle.bystands sid) fun _ h => h)
    fun _ _ => ?_
  refine .bind (.perform trivial fun _ => trivial) fun _ _ => ?_
  refine .bind ((Broker.celldForRoute_within s).mono (fun _ hc => hc.idle.bystands sid)
    fun _ h => h) fun c _ => ?_
  exact .bind ((c.consumeCommands_within py s).mono (hcall c) fun _ h => h) fun _ _ => trivial

/-- Creating a session. -/
theorem createSession_bystands (tenantId : String) (metadata : Json) :
    (Gateway.createSession py tenantId metadata : Code T Created).Within
      (Call.bystands sid) fun _ => True := by
  have hstarted : ∀ (c : Celld) (s : String) (payload : Json),
      (c.appendEvent s "session.started" payload : Code T Event).Within (Call.bystands sid)
        fun _ => True :=
    fun c s payload => c.appendEvent_calls (fun _ => rfl) trivial fun _ => trivial
  have hcreate : ∀ (c : Celld) (s : String), (c.createCell py s : Code T Cell).Within
      (Call.bystands sid) fun _ => True := by
    intro c s
    refine .bind (SessionJWT.signNow_calls py ?_ ?_ c.jwt s _ _ _) fun token _ => ?_
    · trivial
    · trivial
    refine .bind (.perform trivial fun _ => trivial) fun cell _ => ?_
    refine .bind (.perform trivial fun _ => trivial) fun _ _ => ?_
    refine .bind (.perform trivial fun _ => trivial) fun _ _ => ?_
    exact .bind (hstarted c s _) fun _ _ => trivial
  refine .bind (.perform trivial fun _ => trivial) fun s _ => ?_
  have hplace : (Broker.placeSession py s : Code T Placement).Within (Call.bystands sid)
      fun _ => True := by
    refine .bind (.perform trivial fun _ => trivial) fun host _ => ?_
    refine .bind (.perform trivial fun _ => trivial) fun lease _ => ?_
    refine .bind (.perform trivial fun _ => trivial) fun found _ => ?_
    cases found with
    | none => trivial
    | some createCell =>
      cases createCell with
      | raises e => trivial
      | celld c =>
        have hcallback : (Broker.runCallback py s (.celld c) : Code T Unit).Within
          (Call.bystands sid) fun _ => True := .bind (hcreate c s) fun _ _ => trivial
        exact .bind hcallback fun _ _ => trivial
  exact .bind hplace fun _ _ => trivial

/-- Every call of the gateway keeps to the role of a consumer. -/
theorem task_gatewayCall (op : GatewayCall) :
    (taskRole T sid).Plays (exec py) (fun _ _ => True) (op.code py) .idle := by
  have hbystands : ∀ {α : Type} {p : Code T α}, p.Within (Call.bystands sid) (fun _ => True) →
      (taskRole T sid).Plays (exec py) (fun _ _ => True) (do let _ ← p; return ()) .idle := by
    intro α p hp
    exact Role.Plays.bind (plays_bystands hp fun _ hc => hc) (fun _ _ _ => trivial)
      fun _ _ _ => trivial
  cases op with
  | registerCellHost hostId zone address capacityTotal createCell objectRef =>
    exact hbystands ((Broker.registerCellHost_within hostId zone address capacityTotal createCell
      objectRef).mono (fun _ hc => hc.idle.bystands sid) fun _ h => h)
  | createSession tenantId metadata => exact hbystands (createSession_bystands py tenantId metadata)
  | sendCommand s send =>
    by_cases hs : s = sid
    · subst hs
      exact Role.Plays.bind (task_sendCommand py send.commandType send.payload
        send.actorResourceId) (fun _ _ _ => trivial) fun _ _ _ => trivial
    · exact hbystands (sendCommand_bystands py hs send.commandType send.payload
        send.actorResourceId)

end Plays

/-! ## The record of a session -/

/-- The event that an entry of the trace appends to the log of a session, and who
appends it. -/
def appended {ι : Type} (sid : String) :
    Entry ι (Call T) Call.Ret PyErr → Option (ι × String × Json)
  | ⟨i, .appendEvent s eventType payload _, .ok _⟩ =>
    if s = sid then some (i, eventType, payload.orEmpty) else none
  | _ => none

/-- The events that threads have appended to the log of a session, in order. -/
def appends {ι : Type} (sid : String) (tr : Trace ι T) : List (ι × String × Json) :=
  tr.filterMap (appended sid)

/-- What these say of its commands. -/
def deedsOf {ι : Type} (sid : String) (tr : Trace ι T) : List (ι × Turns.Deed ℕ) :=
  (appends sid tr).filterMap fun (i, eventType, payload) => (deedOf eventType payload).map (i, ·)

/-- The ids of the commands received in a session, in the order of its log. -/
def Store.receivedOf (st : Store T) (sid : String) : List ℕ :=
  (st.eventsOf sid).filterMap fun ev =>
    if ev.eventType = "command.received" then commandIdOf ev.payload else none

section Board

variable {ι : Type} [DecidableEq ι]

/-- What the threads have in hand of a session's commands. A thread that is over
has nothing in hand. -/
def tasksOf (sid : String) (cfg : Threads ι T Unit) (i : ι) : Turns.Task ℕ :=
  if (cfg.threads i).over then .idle
  else Role.localAt (fun _ => taskRole T sid) cfg.point.trace i

omit [DecidableEq ι] in
/-- The commands of a session that wait, beside what threads have in hand and have done. -/
def Store.queue (st : Store T) (sid : String) (tasks : ι → Turns.Task ℕ)
    (deeds : List (ι × Turns.Deed ℕ)) : Turns.Board ι ℕ where
  last := st.commandInbox.last
  waiting := (st.pendingOf sid).map CommandRow.id
  tasks
  deeds

/-- The commands of a session at a moment of a run. -/
def boardOf (sid : String) (cfg : Threads ι T Unit) : Turns.Board ι ℕ :=
  cfg.point.state.store.queue sid (tasksOf sid cfg) (deedsOf sid cfg.point.trace)

/-- If the step begins a command of the session, it is the command's turn: no
other thread that is not over is between a `command.received` of the session and
the event that answers it, or holds an earlier command that it has not begun. -/
def TakesTurns (sid : String) (a b : Threads ι T Unit) : Prop :=
  ∀ i payload actor ev id, b.point.trace = a.point.trace ++
      [⟨i, .appendEvent sid "command.received" payload actor, .ok ev⟩] →
    commandIdOf payload.orEmpty = some id → (boardOf sid a).MayBegin i id

/-! ## Consumers are workers -/

omit [DecidableEq ι] in
theorem appends_append (sid : String) (tr tr' : Trace ι T) :
    appends sid (tr ++ tr') = appends sid tr ++ appends sid tr' := List.filterMap_append

omit [DecidableEq ι] in
theorem deedsOf_append (sid : String) (tr tr' : Trace ι T) :
    deedsOf sid (tr ++ tr') = deedsOf sid tr ++ deedsOf sid tr' := by
  unfold deedsOf
  rw [appends_append, List.filterMap_append]

omit [DecidableEq ι] in
theorem deedsOf_appendEvent (sid eventType : String) (i : ι) (payload : Json)
    (actor : Option String) (ev : Event) :
    deedsOf (T := T) sid [⟨i, .appendEvent sid eventType payload actor, .ok ev⟩] =
      ((deedOf eventType payload.orEmpty).map (i, ·)).toList := by
  have happends : appends (T := T) sid [⟨i, .appendEvent sid eventType payload actor, .ok ev⟩] =
      [(i, eventType, payload.orEmpty)] := by
    simp [appends, appended]
  unfold deedsOf
  rw [happends]
  cases h : deedOf eventType payload.orEmpty <;> simp [h]

omit [DecidableEq ι] in
/-- An event of another session is no deed. -/
theorem deedsOf_other {sid s : String} (hs : s ≠ sid) (eventType : String) (i : ι) (payload : Json)
    (actor : Option String) (r : Except PyErr Event) :
    deedsOf (T := T) sid [⟨i, .appendEvent s eventType payload actor, r⟩] = [] := by
  cases r with
  | error e => rfl
  | ok ev =>
    have happends : appends (T := T) sid [⟨i, .appendEvent s eventType payload actor, .ok ev⟩] =
      [] := by simp [appends, appended, hs]
    unfold deedsOf
    rw [happends]
    rfl

omit [DecidableEq ι] in
/-- What begins a command is its `command.received`. -/
theorem began_mem {sid : String} {e : Entry ι (Call T) Call.Ret PyErr} {i : ι} {id : ℕ}
    (h : (i, .began id) ∈ deedsOf sid [e]) :
    ∃ payload actor ev, e = ⟨i, .appendEvent sid "command.received" payload actor, .ok ev⟩ ∧
      commandIdOf payload.orEmpty = some id := by
  obtain ⟨j, c, r⟩ := e
  cases c with
  | appendEvent s eventType payload actor =>
    by_cases hs : s = sid
    · subst hs
      cases r with
      | error e => exact nomatch h
      | ok ev =>
        rw [deedsOf_appendEvent, Option.mem_toList, Option.map_eq_some_iff] at h
        obtain ⟨d, hdeed, hd⟩ := h
        cases hd
        unfold deedOf at hdeed
        split at hdeed
        · rename_i htype
          obtain ⟨id, hid, hd⟩ := Option.map_eq_some_iff.mp hdeed
          cases hd
          exact ⟨payload, actor, ev, htype ▸ rfl, hid⟩
        · split at hdeed <;> cases hdeed
    · rw [deedsOf_other hs] at h
      exact nomatch h
  | _ => exact nomatch h

section Moves

variable [Field T] [LinearOrder T] (py : Py) {w : World T} {sid : String} {q : Turns.Task ℕ}
  {tasks : ι → Turns.Task ℕ} {l : List (ι × Turns.Deed ℕ)} {i : ι}

omit [Field T] [LinearOrder T] [DecidableEq ι] in
theorem Store.queue_congr {st st' : Store T} (hinbox : st'.commandInbox = st.commandInbox) :
    st'.queue sid tasks l = st.queue sid tasks l := by
  unfold queue pendingOf
  rw [hinbox]

omit [Field T] [LinearOrder T] in
/-- A call that leaves the inbox alone and is no deed. -/
theorem queue_same {st : Store T} {c : Call T} {r : Except PyErr c.Ret} (hi : tasks i = q)
    (hinbox : st.commandInbox = w.store.commandInbox) (hdeeds : deedsOf sid [⟨i, c, r⟩] = [])
    (hnext : taskNext sid q c r = q) :
    st.queue sid (Function.update tasks i (taskNext sid q c r)) (l ++ deedsOf sid [⟨i, c, r⟩]) =
      w.store.queue sid tasks l := by
  rw [Store.queue_congr hinbox, hdeeds, hnext, ← hi, Function.update_eq_self, List.append_nil]

omit [Field T] [LinearOrder T] in
/-- Commands that are given a new status do not come to wait. -/
theorem Store.pendingOf_ids_sublist (sid : String) (st st' : Store T)
    (f : CommandRow T → CommandRow T) (hid : ∀ cmd, (f cmd).id = cmd.id)
    (hinbox : st'.inboxOf sid = (st.inboxOf sid).map f)
    (hf : ∀ cmd, (f cmd).status = .pending → cmd.status = .pending) :
    ((st'.pendingOf sid).map CommandRow.id).Sublist ((st.pendingOf sid).map CommandRow.id) := by
  have hsublist := (pendingOf_sublist_map sid st st' f hinbox hf).map CommandRow.id
  have hids : CommandRow.id ∘ f = CommandRow.id := funext hid
  rwa [List.map_map, hids] at hsublist

omit [Field T] [LinearOrder T] in
theorem Store.pendingOf_claim_ids (sid : String) (st : Store T) (t : T)
    (token s claimedBy : String) :
    (((st.claimPendingCommands t token s claimedBy).2.pendingOf sid).map CommandRow.id).Sublist
      ((st.pendingOf sid).map CommandRow.id) := by
  refine pendingOf_ids_sublist sid st _ _ (fun cmd => ?_)
    (inboxOf_claimPendingCommands st t token s claimedBy sid) fun cmd hcmd => ?_
  · split <;> rfl
  · split at hcmd
    · cases hcmd
    · exact hcmd

omit [Field T] [LinearOrder T] in
theorem Store.pendingOf_complete_ids (sid : String) (st : Store T) (t : T) (id : ℕ) :
    (((st.completeCommand t id).pendingOf sid).map CommandRow.id).Sublist
      ((st.pendingOf sid).map CommandRow.id) := by
  refine pendingOf_ids_sublist sid st _ _ (fun cmd => ?_) (inboxOf_completeCommand st t id sid)
    fun cmd hcmd => ?_
  · split <;> rfl
  · split at hcmd
    · cases hcmd
    · exact hcmd

/-- A claim takes all that waits in its session; in the others it changes nothing. -/
theorem exec_claim_moves (hdrawn : w.ClaimsDrawn py) (hi : tasks i = q) {s claimedBy : String}
    (hmay : TaskMay sid q (.claimPendingCommands s claimedBy : Call T)) :
    Relation.ReflTransGen Turns.Move (w.store.queue sid tasks l)
      ((exec py (.claimPendingCommands s claimedBy) w).2.store.queue sid
        (Function.update tasks i (taskNext sid q (.claimPendingCommands s claimedBy)
          (exec py (.claimPendingCommands s claimedBy) w).1)) l) := by
  rw [exec_claimPendingCommands py hdrawn s claimedBy]
  show Relation.ReflTransGen _ _ (Store.queue _ sid (Function.update tasks i
    (if s = sid then ⟨false, List.map CommandRow.id (List.map _ _)⟩ else q)) l)
  by_cases hs : s = sid
  · -- what waited is now in hand
    subst hs
    have hnone : (exec py (.claimPendingCommands s claimedBy) w).2.store.pendingOf s = [] :=
      List.length_eq_zero_iff.mp (Store.pendingOf_claimPendingCommands s w.store _ _ _)
    rw [if_pos rfl, List.map_map]
    have htake := Turns.Move.take (b := w.store.queue s tasks l) i (hi.trans (hmay rfl))
    unfold Store.queue at htake ⊢
    rw [hnone]
    exact .single htake
  · rw [if_neg hs, ← hi, Function.update_eq_self]
    exact .single (.withdraw _ (Store.pendingOf_claim_ids sid w.store _ _ _ _))

/-- The events of a command begin and end it. -/
theorem exec_appendEvent_moves (hi : tasks i = q) {eventType : String} {payload : Json}
    {actor : Option String} {ev : Event}
    (hmay : TaskMay sid q (.appendEvent sid eventType payload actor : Call T))
    (hturn : ∀ id, (i, .began id) ∈ deedsOf (T := T) sid
        [⟨i, .appendEvent sid eventType payload actor, .ok ev⟩] →
      (w.store.queue sid tasks l).MayBegin i id) :
    Relation.ReflTransGen Turns.Move (w.store.queue sid tasks l)
      ((exec py (.appendEvent sid eventType payload actor) w).2.store.queue sid
        (Function.update tasks i (taskNext (T := T) sid q
          (.appendEvent sid eventType payload actor) (.ok ev)))
        (l ++ deedsOf (T := T) sid [⟨i, .appendEvent sid eventType payload actor, .ok ev⟩])) := by
  have hinbox := exec_inbox (c := .appendEvent sid eventType payload actor) py w rfl
  have hnext : taskNext (T := T) sid q (.appendEvent sid eventType payload actor) (.ok ev) =
    taskAfter q (deedOf eventType payload.orEmpty) := if_pos rfl
  rw [deedsOf_appendEvent] at hturn ⊢
  rw [hnext, Store.queue_congr hinbox]
  cases hdeed : deedOf eventType payload.orEmpty with
  | none =>
    show Relation.ReflTransGen _ _ (w.store.queue sid (Function.update tasks i q) (l ++ []))
    rw [← hi, Function.update_eq_self, List.append_nil]
  | some d =>
    rw [hdeed] at hturn
    cases d with
    | began id =>
      obtain ⟨rest, rfl⟩ := hmay rfl _ hdeed
      exact .single (.begin i id rest hi (hturn id List.mem_cons_self))
    | ended =>
      subst hi
      exact .single (.finish (b := w.store.queue sid tasks l) i (hmay rfl _ hdeed))

/-- **A permitted call is a move of a worker, or of who fills the queue.** -/
theorem exec_moves (hdrawn : w.ClaimsDrawn py) (hi : tasks i = q) {c : Call T}
    (hmay : TaskMay sid q c)
    (hturn : ∀ id, (i, .began id) ∈ deedsOf sid [⟨i, c, (exec py c w).1⟩] →
      (w.store.queue sid tasks l).MayBegin i id) :
    Relation.ReflTransGen Turns.Move (w.store.queue sid tasks l)
      ((exec py c w).2.store.queue sid (Function.update tasks i (taskNext sid q c (exec py c w).1))
        (l ++ deedsOf sid [⟨i, c, (exec py c w).1⟩])) := by
  cases c with
  | enqueueCommand s commandType payload actor =>
    have hexec : exec py (.enqueueCommand s commandType payload actor) w =
      w.commit (w.store.enqueueCommand w.clock s commandType payload actor) := rfl
    rw [hexec]
    cases henqueue : w.store.enqueueCommand w.clock s commandType payload actor with
    | error e => rw [World.commit, queue_same (w := w) hi rfl rfl rfl]
    | ok x =>
      obtain ⟨id, st⟩ := x
      have hids := Store.pendingOf_enqueue_ids sid henqueue
      obtain ⟨hid, -, -, -, hst⟩ := Store.enqueueCommand_ok henqueue
      have hlast : st.commandInbox.last = w.store.commandInbox.last + 1 := by
        rw [hst]
        rfl
      show Relation.ReflTransGen _ _ (st.queue sid (Function.update tasks i q) (l ++ []))
      unfold Store.queue
      rw [hids, hlast, ← hi, Function.update_eq_self, List.append_nil, hid]
      by_cases hs : s = sid
      · rw [if_pos hs]
        exact .single (.arrive _ (Nat.lt_succ_self _))
      · -- only a number is used up
        rw [if_neg hs, List.append_nil]
        exact .single (.number _ (Nat.le_succ _))
  | claimPendingCommands s claimedBy =>
    show Relation.ReflTransGen _ _ (Store.queue _ sid _ (l ++ []))
    rw [List.append_nil]
    exact exec_claim_moves py hdrawn hi hmay
  | completeCommand id =>
    show Relation.ReflTransGen _ _ (Store.queue _ sid (Function.update tasks i q) (l ++ []))
    rw [← hi, Function.update_eq_self, List.append_nil]
    exact .single (.withdraw _ (Store.pendingOf_complete_ids sid w.store _ _))
  | appendEvent s eventType payload actor =>
    have hinbox := exec_inbox (c := .appendEvent s eventType payload actor) py w rfl
    cases hr : (exec py (.appendEvent s eventType payload actor) w).1 with
    | error e => rw [queue_same (w := w) hi hinbox rfl rfl]
    | ok ev =>
      rw [hr] at hturn
      by_cases hs : s = sid
      · subst hs
        exact exec_appendEvent_moves py hi hmay hturn
      · rw [queue_same (w := w) (r := .ok ev) hi hinbox
          (deedsOf_other hs eventType i payload actor _) (if_neg hs)]
  | _ =>
    rw [queue_same (w := w) hi (exec_inbox py w rfl) rfl rfl]

/-- A step of a thread is moves of a worker; where it is the last of the thread,
what it had in hand is given up. -/
theorem board_act {cfg : Threads ι T Unit} {c : Call T} {k : Except PyErr c.Ret → Code T Unit}
    (hdrawn : cfg.point.state.ClaimsDrawn py) (hi : cfg.threads i = .call c k)
    (hmay : TaskMay sid (Role.localAt (fun _ => taskRole T sid) cfg.point.trace i) c)
    (hturn : TakesTurns sid cfg (cfg.act (exec py) i c k)) :
    Relation.ReflTransGen Turns.Move (boardOf sid cfg) (boardOf sid (cfg.act (exec py) i c k)) := by
  have htask : tasksOf sid cfg i = Role.localAt (fun _ => taskRole T sid) cfg.point.trace i := by
    unfold tasksOf
    rw [hi]
    rfl
  have hmoves := exec_moves py (l := deedsOf sid cfg.point.trace) hdrawn htask hmay fun id hid => by
    obtain ⟨payload, actor, ev, hentry, hcommand⟩ := began_mem hid
    exact hturn i payload actor ev id (congrArg (cfg.point.trace ++ [·]) hentry) hcommand
  rw [← deedsOf_append] at hmoves
  have hlocal : Role.localAt (fun _ => taskRole T sid) (cfg.act (exec py) i c k).point.trace =
      Function.update (Role.localAt (fun _ => taskRole T sid) cfg.point.trace) i
        (taskNext sid (Role.localAt (fun _ => taskRole T sid) cfg.point.trace i) c
          (exec py c cfg.point.state).1) := Role.localAt_after _ (exec py) cfg.point i c
  -- the other threads are where they were
  have hothers : ∀ j, j ≠ i → tasksOf sid (cfg.act (exec py) i c k) j = tasksOf sid cfg j := by
    intro j hj
    have hthread : (cfg.act (exec py) i c k).threads j = cfg.threads j :=
      Function.update_of_ne hj _ _
    unfold tasksOf
    rw [hlocal, hthread, Function.update_of_ne hj]
  have htasks : tasksOf sid (cfg.act (exec py) i c k) = Function.update (tasksOf sid cfg) i
      (tasksOf sid (cfg.act (exec py) i c k) i) := Function.eq_update_iff.mpr ⟨rfl, hothers⟩
  by_cases hover : ((cfg.act (exec py) i c k).threads i).over = true
  · have hidle : tasksOf sid (cfg.act (exec py) i c k) i = .idle := if_pos hover
    have hgive := hmoves.tail (.giveUp i)
    unfold Store.queue at hgive
    rw [Function.update_idem, ← hidle, ← htasks] at hgive
    exact hgive
  · have hnext : tasksOf sid (cfg.act (exec py) i c k) i = taskNext sid
        (Role.localAt (fun _ => taskRole T sid) cfg.point.trace i) c
          (exec py c cfg.point.state).1 := by
      refine (if_neg hover).trans ?_
      rw [hlocal, Function.update_self]
    rw [← hnext, ← htasks] at hmoves
    exact hmoves

end Moves

/-! ## Runs -/

/-- A session of which no command has been received and none waits. -/
structure Unserved (py : Py) (sid : String) (w : World T) : Prop where
  rooted : w.Rooted py
  idle : w.store.pendingOf sid = []
  silent : w.store.receivedOf sid = []

/-- **One after the other, in the order in which they were accepted**: the log of
the session is what it was when the threads started and what they have appended;
the ids of the commands received increase; and the event that answers a command
comes right after the command was received. -/
structure OneByOne (sid : String) (w : World T) (p : Moment ι T) : Prop where
  log : (p.state.store.eventsOf sid).map EventRow.saying =
    (w.store.eventsOf sid).map EventRow.saying ++ (appends sid p.trace).map Prod.snd
  increasing : (p.state.store.receivedOf sid).Pairwise (· < ·)
  results : ∀ i before after, deedsOf sid p.trace = before ++ (i, .ended) :: after →
    ∃ earlier id, before = earlier ++ [(i, .began id)]

section Runs

variable [Field T] [LinearOrder T] [IsStrictOrderedRing T] [FloorRing T] {py : Py} {sid : String}
  {calls : ι → GatewayCall} {w : World T} {cfg : Threads ι T Unit}

omit [IsStrictOrderedRing T] [FloorRing T] in
theorem rooted_reach {programs : ι → Code T Unit} (hw : w.Rooted py)
    (hr : Reach (system ι py) (.start programs w) cfg) : cfg.point.state.Rooted py := by
  refine hr.point_invariant (P := fun p => p.state.Rooted py) hw
    (fun p i c h _ => exec_rooted py c h) ?_
  rintro p w' h ⟨t, f, -, rfl⟩
  exact ⟨⟨h.sound.sessionIds, h.sound.claims, h.sound.channels⟩, h.owned, h.linked, h.logged,
    h.contiguous⟩

omit [IsStrictOrderedRing T] [FloorRing T] [DecidableEq ι] in
/-- What a call adds to the log. -/
theorem exec_appends (py : Py) (i : ι) (c : Call T) (w : World T) :
    ((exec py c w).2.store.eventsOf sid).map EventRow.saying =
      (w.store.eventsOf sid).map EventRow.saying ++
        (appends sid [⟨i, c, (exec py c w).1⟩]).map Prod.snd := by
  cases c with
  | appendEvent s eventType payload actor =>
    have hexec : exec py (.appendEvent s eventType payload actor) w =
      w.commit (w.store.appendEvent w.clock s eventType payload actor) := rfl
    rw [hexec]
    cases happend : w.store.appendEvent w.clock s eventType payload actor with
    | error e => exact (List.append_nil _).symm
    | ok x =>
      obtain ⟨ev, st⟩ := x
      show (st.eventsOf sid).map EventRow.saying = _ ++ List.map Prod.snd
        (appends sid [⟨i, .appendEvent s eventType payload actor, .ok ev⟩])
      rw [Store.eventsOf_append happend sid]
      by_cases hs : s = sid
      · rw [if_pos hs.symm, List.map_append]
        simp [appends, appended, hs, EventRow.saying, Store.newEvent]
      · rw [if_neg (Ne.symm hs)]
        simp [appends, appended, hs]
  | _ =>
    unfold Store.eventsOf
    rw [exec_events py w rfl]
    exact (List.append_nil _).symm

omit [IsStrictOrderedRing T] [FloorRing T] in
/-- The log is what it was and what the threads have appended. -/
theorem log_appends {programs : ι → Code T Unit}
    (hr : Reach (system ι py) (.start programs w) cfg) :
    (cfg.point.state.store.eventsOf sid).map EventRow.saying =
      (w.store.eventsOf sid).map EventRow.saying ++
        (appends sid cfg.point.trace).map Prod.snd := by
  refine hr.point_invariant (P := fun p => (p.state.store.eventsOf sid).map EventRow.saying =
    (w.store.eventsOf sid).map EventRow.saying ++ (appends sid p.trace).map Prod.snd)
    (List.append_nil _).symm (fun p i c h _ => ?_) ?_
  · rw [Point.after_trace, appends_append, List.map_append, ← List.append_assoc, ← h]
    exact exec_appends py i c p.state
  · rintro p w' h ⟨t, f, -, rfl⟩
    exact h

omit [Field T] [LinearOrder T] [IsStrictOrderedRing T] [FloorRing T] [DecidableEq ι] in
/-- The commands received are those that threads have begun. -/
theorem receivedOf_eq_begunIds {st : Store T} {tr : Trace ι T} (hsilent : w.store.receivedOf sid = [])
    (hlog : (st.eventsOf sid).map EventRow.saying = (w.store.eventsOf sid).map EventRow.saying ++
      (appends sid tr).map Prod.snd) : st.receivedOf sid = Turns.begunIds (deedsOf sid tr) := by
  have hsaid : ∀ st : Store T, st.receivedOf sid = ((st.eventsOf sid).map EventRow.saying).filterMap
      fun s => if s.1 = "command.received" then commandIdOf s.2 else none := by
    intro st
    rw [List.filterMap_map]
    rfl
  rw [hsaid, hlog, List.filterMap_append, ← hsaid, hsilent, List.nil_append, List.filterMap_map]
  unfold Turns.begunIds deedsOf
  rw [List.filterMap_filterMap]
  congr 1
  funext ⟨i, eventType, payload⟩
  simp only [Function.comp_apply, deedOf]
  split
  · cases commandIdOf payload <;> rfl
  · split <;> rfl

/-- In a run that takes turns the session's board stays in order. -/
theorem board_orderly (hw : Unserved py sid w) (hr : ReachWhere (system ι py) (TakesTurns sid)
    (.start (fun i => (calls i).code py) w) cfg) : Turns.Orderly (boardOf sid cfg) := by
  have hplays : Role.AllPlay (fun _ => taskRole T sid) (exec py) (fun _ _ _ => True)
    (Config.start (fun i => (calls i).code py) w) := fun i => task_gatewayCall py (calls i)
  induction hr with
  | refl =>
    have hboard : boardOf sid (Config.start (fun i => (calls i).code py) w) =
        ⟨w.store.commandInbox.last, [], fun _ => .idle, []⟩ := by
      have htasks : tasksOf sid (Config.start (fun i => (calls i).code py) w) = fun _ => .idle :=
        funext fun i => ite_self _
      show w.store.queue sid _ [] = _
      unfold Store.queue
      rw [htasks, hw.idle]
      rfl
    rw [hboard]
    exact .start _
  | @tail a b hb hs ih =>
    have hb : ReachWhere (system ι py) (TakesTurns sid) _ a := hb
    obtain ⟨hstep, hturns⟩ := hs
    cases hstep with
    | env he =>
      obtain ⟨t, f, -, rfl⟩ := he
      exact ih
    | @act i c k hi ha =>
      have hplay := hplays.reach hb.reach i
      rw [hi] at hplay
      exact ih.moves (board_act py (rooted_reach hw.rooted hb.reach).sound.claims hi hplay.1 hturns)

/-- **Commands are executed in order** in every interleaving of any number of
threads in which each command is begun in its turn. -/
theorem commands_in_order (hw : Unserved py sid w)
    (hr : ReachWhere (system ι py) (TakesTurns sid)
      (.start (fun i => (calls i).code py) w) cfg) : OneByOne sid w cfg.point := by
  have horderly := board_orderly hw hr
  refine ⟨log_appends hr.reach, ?_, horderly.inTurn.results⟩
  rw [receivedOf_eq_begunIds hw.silent (log_appends hr.reach)]
  exact horderly.inTurn.increasing

end Runs

end Board

/-! ## One session, two clients -/

/-- A host is registered, a session created, and two clients send it a command. -/
def twoSenders : Fin 4 → GatewayCall := fun i => echoes i

/-- **Out of order**: the first client has claimed command 1 when the second sends
command 2, and claims and begins it before the first goes on. -/
theorem commands_out_of_order :
    ∃ cfg : Threads (Fin 4) ℚ Unit, Reach (system (Fin 4) Py.sample)
        (.start (fun i => (twoSenders i).code Py.sample) (World.init 0 Sample.files)) cfg ∧
      cfg.point.state.store.receivedOf "s" = [2, 1] ∧
      ¬(cfg.point.state.store.receivedOf "s").Pairwise (· < ·) := by
  refine ⟨execute (exec Py.sample) (List.replicate 3 0 ++ List.replicate 14 1 ++
    List.replicate 6 2 ++ List.replicate 7 3 ++ [2]) _, reach_execute (fun _ _ _ => trivial) _ _, ?_⟩
  decide +kernel

/-- Whether it is the turn of a command that a thread may begin. -/
def itsTurn (cfg : Threads (Fin 4) ℚ Unit) (i : Fin 4) : Call ℚ → Bool
  | .appendEvent sid _ payload _ => match commandIdOf payload.orEmpty with
    | some id => decide (∀ j, j ≠ i → (tasksOf sid cfg j).begun = false ∧
        ∀ x ∈ (tasksOf sid cfg j).left, id < x)
    | none => true
  | _ => true

/-- The second client sends and claims its command while the first is in the
middle of one, and begins it when that has been answered. -/
theorem commands_in_order_sample :
    let cfg : Threads (Fin 4) ℚ Unit := execute (exec Py.sample)
      (List.replicate 3 0 ++ List.replicate 14 1 ++ List.replicate 7 2 ++ List.replicate 6 3 ++
        List.replicate 11 2 ++ List.replicate 12 3)
      (.start (fun i => (twoSenders i).code Py.sample) (World.init 0 Sample.files))
    cfg.point.state.store.receivedOf "s" = [1, 2] ∧
      OneByOne "s" (World.init 0 Sample.files) cfg.point := by
  intro cfg
  have hok : ∀ (a : Threads (Fin 4) ℚ Unit) i c k, itsTurn a i c = true →
      TakesTurns "s" a (a.act (system (Fin 4) Py.sample).handler i c k) := by
    intro a i c k htest j payload actor ev id htrace hid
    have hentry := List.append_cancel_left htrace
    obtain ⟨rfl, rfl, -⟩ := Entry.mk.inj (List.singleton_inj.mp hentry)
    simp only [itsTurn, hid] at htest
    have hturn := of_decide_eq_true htest
    exact hturn
  have hpasses : passes (exec Py.sample) itsTurn
      (List.replicate 3 0 ++ List.replicate 14 1 ++ List.replicate 7 2 ++ List.replicate 6 3 ++
        List.replicate 11 2 ++ List.replicate 12 3)
      (.start (fun i => (twoSenders i).code Py.sample) (World.init 0 Sample.files)) = true := by
    decide +kernel
  have hr : ReachWhere (system (Fin 4) Py.sample) (TakesTurns "s") _ cfg :=
    reachWhere_execute (fun _ _ _ => trivial) hok _ _ hpasses
  have htwo : cfg.point.state.store.receivedOf "s" = [1, 2] := by decide +kernel
  exact ⟨htwo, commands_in_order ⟨World.rooted_init 0 Sample.files, rfl, rfl⟩ hr⟩

end Nadi
