import Nadi.Effect.Ledger
import Nadi.Jobs
import Nadi.Undelivered

/-!
# When the event cap is a cap

The inbox looks at the log when a command is enqueued (store.py:219–224), and the
consumer writes up to two events for it later. So the log of a session may grow
beyond the cap by what commands that were taken before still owe it. Each thread
is given a debt (`debtRole`): one event for a session it has created, two for each
command it has claimed. As long as a command is taken only where there is room
for what is owed and its own two events (`WithRoom`), the cap is a cap
(`event_cap_holds`); without that, it is not (`event_cap_exceeded`).
-/

namespace Nadi

open Effect

variable {T : Type}

/-! ## Debts -/

/-- How many events a thread may still append, and to which session. -/
structure Debt where
  sid : String
  n : ℕ

/-- What is owed to a session. -/
def Debt.due (sid : String) (q : Debt) : ℕ := if q.sid = sid then q.n else 0

/-- A thread appends only what it owes, and takes nothing on before that is done. -/
def DebtMay (q : Debt) : Call T → Prop
  | .createSession .. => q.n = 0
  | .claimPendingCommands .. => q.n = 0
  | .appendEvent sid .. => q.sid = sid ∧ 0 < q.n
  | _ => True

/-- How a call changes the debt of its thread. -/
def Debt.next (q : Debt) : (c : Call T) → Except PyErr c.Ret → Debt
  | .createSession .., .ok sid => ⟨sid, 1⟩
  | .claimPendingCommands sid _, .ok rows => ⟨sid, 2 * rows.length⟩
  | .appendEvent .., .ok _ => ⟨q.sid, q.n - 1⟩
  | _, _ => q

/-- An event for a session that is created, two for a command that is claimed. -/
def debtRole (T : Type) : Role Debt (Call T) Call.Ret PyErr where
  init := ⟨"", 0⟩
  may := DebtMay
  next := Debt.next

/-- The calls that leave debts alone. -/
def Call.idle : Call T → Prop
  | .createSession .. => False
  | .claimPendingCommands .. => False
  | .appendEvent .. => False
  | _ => True

theorem Call.idle.may {c : Call T} (h : c.idle) (q : Debt) : DebtMay q c := by
  cases c <;> trivial

theorem Call.idle.next {c : Call T} (h : c.idle) (q : Debt) (r : Except PyErr c.Ret) :
    q.next c r = q := by
  cases c <;> first | rfl | exact h.elim

theorem Call.ofSandbox.idle {c : Call T} (h : c.ofSandbox) : c.idle := by
  cases c <;> trivial

theorem Call.ofCell.idle {c : Celld} {sid : String} {d : Call T} (h : d.ofCell c sid) :
    d.idle := by
  cases d <;> trivial

theorem Call.ofRouting.idle {sid : String} {c : Call T} (h : c.ofRouting sid) : c.idle := by
  cases c <;> trivial

theorem Call.ofRegistration.idle {hostId : String} {createCell : CreateCell}
    {objectRef : Option Celld} {c : Call T} (h : c.ofRegistration hostId createCell objectRef) :
    c.idle := by
  cases c <;> trivial

/-! ## The gateway pays its debts -/

section Plays

variable [Field T] [LinearOrder T] [IsStrictOrderedRing T] [FloorRing T] (py : Py) {q : Debt}
  {sid : String}

omit [Field T] [LinearOrder T] [IsStrictOrderedRing T] [FloorRing T] in
/-- A program that is no concern of debts. -/
theorem plays_idle {α : Type} {h : Handler (Call T) Call.Ret PyErr (World T)} {ok : Call T → Prop}
    {value : α → Prop} {p : Code T α} (hp : p.Within ok value) (hok : ∀ c, ok c → c.idle) :
    (debtRole T).Plays h (fun q' r => q' = q ∧ ∀ a, r = .ok a → value a) p q :=
  Role.Plays.of_within hp (fun c hc => (hok c hc).may q) fun c r hc => (hok c hc).next q r

omit [IsStrictOrderedRing T] [FloorRing T] in
/-- Appending an event pays one. -/
theorem debt_appendEvent (c : Celld) (eventType : String) (payload : Json) (hsid : q.sid = sid)
    (hn : 0 < q.n) :
    (debtRole T).Plays (exec py) (fun q' r => ∀ ev, r = .ok ev → q' = ⟨sid, q.n - 1⟩)
      (c.appendEvent sid eventType payload) q := by
  subst hsid
  refine Role.Plays.perform_bind ⟨rfl, hn⟩ (fun w ev hev => ?_) fun _ _ _ ev h => nomatch h
  refine Role.Plays.perform_bind trivial (fun w found hfound => ?_) fun _ _ _ ev h => nomatch h
  cases found with
  | none => exact fun _ _ => rfl
  | some cell =>
    exact Role.Plays.perform_bind trivial (fun _ _ _ _ _ => rfl) fun _ _ _ ev h => nomatch h

/-- The loop pays two for each command. -/
theorem debt_consumeLoop (c : Celld) (token : String) (cmds : List (CommandRow T))
    (hsid : q.sid = sid) (hn : 2 * cmds.length ≤ q.n) :
    (debtRole T).Plays (exec py) (fun _ _ => True) (c.consumeLoop py sid token cmds) q := by
  induction cmds generalizing q with
  | nil => trivial
  | cons cmd rest ih =>
    rw [List.length_cons] at hn
    refine Role.Plays.bind (debt_appendEvent py c _ _ hsid (by omega)) (fun q₁ ev hq => ?_)
      fun _ _ _ => trivial
    obtain rfl := hq ev rfl
    refine Role.Plays.bind (plays_idle (Runtime.handle_single py c.sandboxd sid token
      cmd.commandType cmd.payload) fun _ hc => hc.idle) (fun q₂ outs hq => ?_) fun _ _ _ => trivial
    obtain ⟨rfl, houts⟩ := hq
    obtain ⟨out, rfl, -⟩ := houts outs rfl
    have houtput : (debtRole T).Plays (exec py) (fun q' r => ∀ evs, r = .ok evs →
        q' = ⟨sid, q.n - 1 - 1⟩) (c.appendEvents sid [out]) ⟨sid, q.n - 1⟩ := by
      have hleft : 0 < q.n - 1 := by omega
      refine Role.Plays.bind (debt_appendEvent py c _ _ rfl hleft)
        (fun q₃ ev hq => ?_) fun _ _ _ evs h => nomatch h
      exact fun _ _ => hq ev rfl
    refine Role.Plays.bind houtput (fun q₃ evs hq => ?_) fun _ _ _ => trivial
    obtain rfl := hq evs rfl
    refine Role.Plays.perform_bind trivial (fun _ _ _ => ?_) fun _ _ _ => trivial
    have hrest : 2 * rest.length ≤ q.n - 1 - 1 := by omega
    exact Role.Plays.bind (ih rfl hrest) (fun _ _ _ => trivial) fun _ _ _ => trivial

theorem debt_sendCommand (commandType : String) (payload : Json) (actor : Option String)
    (hn : q.n = 0) :
    (debtRole T).Plays (exec py) (fun _ _ => True)
      (Gateway.sendCommand py sid commandType payload actor) q := by
  refine Role.Plays.bind (plays_idle (Gateway.route_within sid) fun _ hc => hc.idle)
    (fun q₁ _ hq => ?_) fun _ _ _ => trivial
  obtain ⟨rfl, -⟩ := hq
  refine Role.Plays.perform_bind trivial (fun _ _ _ => ?_) fun _ _ _ => trivial
  refine Role.Plays.bind (plays_idle (Broker.celldForRoute_within sid) fun _ hc => hc.idle)
    (fun q₂ c hq => ?_) fun _ _ _ => trivial
  obtain ⟨rfl, -⟩ := hq
  have hconsume : (debtRole T).Plays (exec py) (fun _ _ => True) (c.consumeCommands py sid) q₂ := by
    refine Role.Plays.bind (plays_idle (c.liveCell_within py sid) fun _ hc => hc.idle)
      (fun q₃ cell hq => ?_) fun _ _ _ => trivial
    obtain ⟨rfl, -⟩ := hq
    refine Role.Plays.perform_bind hn (fun _ cmds _ => ?_) fun _ _ _ => trivial
    exact debt_consumeLoop py c cell.jwt cmds rfl (Nat.le_refl _)
  exact Role.Plays.bind hconsume (fun _ _ _ => trivial) fun _ _ _ => trivial

theorem debt_createSession (tenantId : String) (metadata : Json) (hn : q.n = 0) :
    (debtRole T).Plays (exec py) (fun _ _ => True) (Gateway.createSession py tenantId metadata)
      q := by
  refine Role.Plays.perform_bind hn (fun w sid _ => ?_) fun _ _ _ => trivial
  have hcreate : ∀ c : Celld, (debtRole T).Plays (exec py) (fun _ _ => True)
      (c.createCell py sid) ⟨sid, 1⟩ := by
    intro c
    have hsign : (c.jwt.signNow py .createCell sid "cell tool" 3600 c.hostId :
        Code T String).Within Call.idle fun _ => True :=
      SessionJWT.signNow_calls py trivial trivial c.jwt sid _ _ _
    refine Role.Plays.bind (plays_idle hsign fun _ hc => hc) (fun q₁ token hq => ?_)
      fun _ _ _ => trivial
    obtain ⟨rfl, -⟩ := hq
    refine Role.Plays.perform_bind trivial (fun _ cell _ => ?_) fun _ _ _ => trivial
    refine Role.Plays.perform_bind trivial (fun _ _ _ => ?_) fun _ _ _ => trivial
    refine Role.Plays.perform_bind trivial (fun _ _ _ => ?_) fun _ _ _ => trivial
    refine Role.Plays.bind (debt_appendEvent py c _ _ rfl Nat.one_pos) (fun _ _ _ => trivial)
      fun _ _ _ => trivial
  have hplace : (debtRole T).Plays (exec py) (fun _ _ => True) (Broker.placeSession py sid)
      ⟨sid, 1⟩ := by
    refine Role.Plays.perform_bind trivial (fun _ host _ => ?_) fun _ _ _ => trivial
    refine Role.Plays.perform_bind trivial (fun _ lease _ => ?_) fun _ _ _ => trivial
    refine Role.Plays.perform_bind trivial (fun _ found _ => ?_) fun _ _ _ => trivial
    cases found with
    | none => trivial
    | some createCell =>
      cases createCell with
      | raises e => trivial
      | celld c =>
        have hcallback : (debtRole T).Plays (exec py) (fun _ _ => True)
            (Broker.runCallback py sid (.celld c)) ⟨sid, 1⟩ :=
          Role.Plays.bind (hcreate c) (fun _ _ _ => trivial) fun _ _ _ => trivial
        exact Role.Plays.bind hcallback (fun _ _ _ => trivial) fun _ _ _ => trivial
  exact Role.Plays.bind hplace (fun _ _ _ => trivial) fun _ _ _ => trivial

end Plays

/-! ## Calls in the ledger -/

/-- The events of a session, and two for each command that waits. -/
def Store.load (st : Store T) (sid : String) : ℕ :=
  (st.eventsOf sid).length + 2 * (st.pendingOf sid).length

/-- What a call takes on for a session: two events for a command that is
accepted, one for a session that is created. -/
def takesOn (sid : String) : (c : Call T) → Except PyErr c.Ret → ℕ
  | .enqueueCommand s .., .ok _ => if s = sid then 2 else 0
  | .createSession .., .ok s => if s = sid then 1 else 0
  | _, _ => 0

section Load

variable [Field T] [LinearOrder T] (py : Py) {w : World T} {q : Debt} (sid : String)

omit [Field T] [LinearOrder T] in
/-- Of the commands of a session that are given a new status, those that wait have
waited before. -/
theorem Store.pendingOf_sublist_map (st st' : Store T) (f : CommandRow T → CommandRow T)
    (hinbox : st'.inboxOf sid = (st.inboxOf sid).map f)
    (hf : ∀ cmd, (f cmd).status = .pending → cmd.status = .pending) :
    (st'.pendingOf sid).Sublist ((st.pendingOf sid).map f) := by
  rw [pendingOf_eq_filter, pendingOf_eq_filter, hinbox, List.filter_map]
  refine List.Sublist.map f (List.monotone_filter_right _ fun cmd h => ?_)
  simp only [Function.comp_apply, beq_iff_eq] at h ⊢
  exact hf cmd h

omit [Field T] [LinearOrder T] in
/-- Of the commands of a session only those that wait count. -/
theorem Store.pendingOf_length_map (st st' : Store T) (f : CommandRow T → CommandRow T)
    (hinbox : st'.inboxOf sid = (st.inboxOf sid).map f)
    (hf : ∀ cmd, (f cmd).status = .pending → cmd.status = .pending) :
    (st'.pendingOf sid).length ≤ (st.pendingOf sid).length := by
  have hsublist := (pendingOf_sublist_map sid st st' f hinbox hf).length_le
  rwa [List.length_map] at hsublist

omit [Field T] [LinearOrder T] in
theorem Store.load_congr {st st' : Store T} (hevents : st'.events = st.events)
    (hinbox : st'.commandInbox = st.commandInbox) : st'.load sid = st.load sid := by
  unfold load eventsOf pendingOf
  rw [hevents, hinbox]

omit [Field T] [LinearOrder T] in
/-- After a claim nothing of its session waits. -/
theorem Store.pendingOf_claimPendingCommands (st : Store T) (t : T) (token claimedBy : String) :
    ((st.claimPendingCommands t token sid claimedBy).2.pendingOf sid).length = 0 := by
  rw [List.length_eq_zero_iff]
  refine List.eq_nil_iff_forall_not_mem.mpr fun cmd hcmd => ?_
  rw [pendingOf_eq_filter, inboxOf_claimPendingCommands] at hcmd
  obtain ⟨hmem, hpending⟩ := List.mem_filter.mp hcmd
  obtain ⟨old, hold, rfl⟩ := List.mem_map.mp hmem
  have hsid := (mem_inboxOf.mp hold).2
  by_cases hstatus : old.status = .pending
  · simp [hsid, hstatus, claimRow] at hpending
  · simp [hstatus] at hpending

omit [Field T] [LinearOrder T] in
/-- What waits after a command has been accepted. -/
theorem Store.pendingOf_enqueue_ids {st st' : Store T} {t : T} {s commandType : String}
    {payload : Json} {actor : Option String} {id : ℕ}
    (h : st.enqueueCommand t s commandType payload actor = .ok (id, st')) :
    (st'.pendingOf sid).map CommandRow.id =
      (st.pendingOf sid).map CommandRow.id ++ if s = sid then [id] else [] := by
  rw [pendingOf_enqueue h, List.map_append]
  split <;> rfl

omit [Field T] [LinearOrder T] in
/-- An accepted command waits. -/
theorem Store.pendingOf_enqueueCommand {st st' : Store T} {t : T} {s commandType : String}
    {payload : Json} {actor : Option String} {id : ℕ}
    (h : st.enqueueCommand t s commandType payload actor = .ok (id, st')) :
    (st'.pendingOf sid).length = (st.pendingOf sid).length + if s = sid then 1 else 0 := by
  have hlength := congrArg List.length (pendingOf_enqueue_ids sid h)
  rw [List.length_map, List.length_append, List.length_map] at hlength
  rw [hlength]
  split <;> rfl

/-- An event is written for the session that owes it. -/
theorem exec_appendEvent_load {eventType : String} {payload : Json} {actor : Option String}
    (hn : 0 < q.n) :
    (exec py (.appendEvent q.sid eventType payload actor) w).2.store.load sid +
        (q.next (.appendEvent q.sid eventType payload actor)
          (exec py (.appendEvent q.sid eventType payload actor) w).1).due sid ≤
      w.store.load sid + q.due sid := by
  have hexec : exec py (.appendEvent q.sid eventType payload actor) w =
    w.commit (w.store.appendEvent w.clock q.sid eventType payload actor) := rfl
  rw [hexec]
  cases happend : w.store.appendEvent w.clock q.sid eventType payload actor with
  | error e => exact Nat.le_refl _
  | ok x =>
    obtain ⟨ev, st⟩ := x
    show st.load sid + Debt.due sid ⟨q.sid, q.n - 1⟩ ≤ w.store.load sid + q.due sid
    have hlog := congrArg List.length (Store.eventsOf_append happend sid)
    have hinbox : st.commandInbox = w.store.commandInbox := by
      obtain ⟨-, -, rfl⟩ := Store.appendEvent_ok happend
      rfl
    have hpending : st.pendingOf sid = w.store.pendingOf sid := by
      unfold Store.pendingOf
      rw [hinbox]
    unfold Store.load Debt.due
    rw [hlog, hpending]
    by_cases hsid : q.sid = sid
    · rw [if_pos hsid.symm, if_pos hsid, if_pos hsid, List.length_append, List.length_singleton]
      dsimp only
      omega
    · rw [if_neg (Ne.symm hsid), if_neg hsid, if_neg hsid]

omit [Field T] [LinearOrder T] in
/-- A command that is accepted weighs two events. -/
theorem Store.load_enqueueCommand {st st' : Store T} {t : T} {s commandType : String}
    {payload : Json} {actor : Option String} {id : ℕ}
    (h : st.enqueueCommand t s commandType payload actor = .ok (id, st')) :
    st'.load sid = st.load sid + if s = sid then 2 else 0 := by
  have hpending := Store.pendingOf_enqueueCommand sid h
  have hevents : st'.eventsOf sid = st.eventsOf sid := by
    obtain ⟨-, -, -, -, rfl⟩ := Store.enqueueCommand_ok h
    rfl
  unfold Store.load
  rw [hevents, hpending]
  split <;> omega

/-- What waited is owed by the thread that claims it. -/
theorem exec_claim_load (hdrawn : w.ClaimsDrawn py) (s claimedBy : String) :
    (exec py (.claimPendingCommands s claimedBy) w).2.store.load sid +
        (q.next (.claimPendingCommands s claimedBy)
          (exec py (.claimPendingCommands s claimedBy) w).1).due sid ≤ w.store.load sid := by
  have hevents : ((exec py (.claimPendingCommands s claimedBy) w).2.store.eventsOf sid) =
    w.store.eventsOf sid := rfl
  rw [exec_claimPendingCommands py hdrawn s claimedBy]
  show _ + Debt.due sid ⟨s, 2 * List.length (List.map _ _)⟩ ≤ _
  unfold Store.load Debt.due
  rw [hevents, List.length_map]
  by_cases hsid : s = sid
  · subst hsid
    have hnone : ((exec py (.claimPendingCommands s claimedBy) w).2.store.pendingOf s).length =
      0 := Store.pendingOf_claimPendingCommands s w.store _ _ _
    rw [if_pos rfl, hnone]
    dsimp only
    omega
  · rw [if_neg hsid]
    have hle := Store.pendingOf_length_map sid w.store
      (exec py (.claimPendingCommands s claimedBy) w).2.store _
      (Store.inboxOf_claimPendingCommands w.store _ _ _ _ _) fun cmd hcmd => by
        split at hcmd
        · cases hcmd
        · exact hcmd
    omega

omit [Field T] [LinearOrder T] in
/-- Completing a command makes nothing heavier. -/
theorem Store.load_completeCommand (st : Store T) (t : T) (id : ℕ) :
    (st.completeCommand t id).load sid ≤ st.load sid := by
  have hle := Store.pendingOf_length_map sid st (st.completeCommand t id) _
    (Store.inboxOf_completeCommand ..) fun cmd hcmd => by
      split at hcmd
      · cases hcmd
      · exact hcmd
  have hevents : (st.completeCommand t id).eventsOf sid = st.eventsOf sid := rfl
  unfold Store.load
  rw [hevents]
  omega

/-- **What a call that a debtor may make does to the load and the debt of a
session.** -/
theorem exec_load (hdrawn : w.ClaimsDrawn py) {c : Call T} (hmay : DebtMay q c) :
    (exec py c w).2.store.load sid + (q.next c (exec py c w).1).due sid ≤
      w.store.load sid + q.due sid + takesOn sid c (exec py c w).1 := by
  cases c with
  | createSession tenantId externalId profileBundle metadata =>
    rw [Store.load_congr sid (exec_events py w rfl) (exec_inbox py w rfl)]
    cases (exec py (.createSession tenantId externalId profileBundle metadata) w).1 with
    | error e => exact Nat.le_refl _
    | ok s =>
      have hdue : Debt.due sid ⟨s, 1⟩ = if s = sid then 1 else 0 := rfl
      show _ + Debt.due sid ⟨s, 1⟩ ≤ _ + _ + if s = sid then 1 else 0
      omega
  | appendEvent s eventType payload actor =>
    obtain ⟨rfl, hn⟩ := hmay
    exact exec_appendEvent_load py sid hn
  | enqueueCommand s commandType payload actor =>
    have hexec : exec py (.enqueueCommand s commandType payload actor) w =
      w.commit (w.store.enqueueCommand w.clock s commandType payload actor) := rfl
    rw [hexec]
    cases henqueue : w.store.enqueueCommand w.clock s commandType payload actor with
    | error e => exact Nat.le_refl _
    | ok x =>
      obtain ⟨id, st⟩ := x
      show st.load sid + q.due sid ≤ w.store.load sid + q.due sid + if s = sid then 2 else 0
      rw [Store.load_enqueueCommand sid henqueue]
      omega
  | claimPendingCommands s claimedBy =>
    have hle := exec_claim_load py sid (q := q) hdrawn s claimedBy
    exact hle.trans (Nat.le_add_right _ _)
  | completeCommand id =>
    exact Nat.add_le_add_right (Store.load_completeCommand sid w.store w.clock id) _
  | _ =>
    rw [Store.load_congr sid (exec_events py w rfl) (exec_inbox py w rfl)]
    exact Nat.le_refl _

end Load

/-! ## Runs -/

/-- A call on the way of sessions and commands, and those that set a stack up. -/
inductive GatewayCall where
  | registerCellHost (hostId zone address : String) (capacityTotal : Int)
      (createCell : CreateCell) (objectRef : Option Celld)
  | createSession (tenantId : String) (metadata : Json)
  | sendCommand (sessionId : String) (send : Send)

section Runs

variable {ι : Type} [DecidableEq ι]

/-- The debt of each thread. -/
def debtAt (tr : Trace ι T) : ι → Debt := Role.localAt (fun _ => debtRole T) tr

/-- The events that threads may still append to a session. -/
def owedTo (sid : String) (cfg : Threads ι T Unit) : ℕ :=
  owed (fun _ => debtRole T) (Debt.due sid) cfg

/-- If the step enqueues a command, the log has room for what is owed already and
for the two events of the command. -/
def WithRoom (a b : Threads ι T Unit) : Prop :=
  ∀ i sid commandType payload actor id, b.point.trace = a.point.trace ++
      [⟨i, .enqueueCommand sid commandType payload actor, .ok id⟩] →
    a.point.state.store.load sid + owedTo sid a + 2 ≤ Store.maxEventsPerSession

variable [Field T] [LinearOrder T] [IsStrictOrderedRing T] [FloorRing T] (py : Py)

omit [DecidableEq ι] in
/-- Make the call, dropping what it returns. -/
def GatewayCall.code : GatewayCall → Code T Unit
  | .registerCellHost hostId zone address capacityTotal createCell objectRef => do
    let _ ← Broker.registerCellHost hostId zone address capacityTotal createCell objectRef
    return ()
  | .createSession tenantId metadata => do
    let _ ← Gateway.createSession py tenantId metadata
    return ()
  | .sendCommand sessionId send => do
    let _ ← send.code py sessionId
    return ()

omit [DecidableEq ι] in
theorem plays_gatewayCall (op : GatewayCall) :
    (debtRole T).Plays (exec py) (fun _ _ => True) (op.code py) ⟨"", 0⟩ := by
  cases op with
  | registerCellHost hostId zone address capacityTotal createCell objectRef =>
    refine Role.Plays.bind (plays_idle (Broker.registerCellHost_within hostId zone address
      capacityTotal createCell objectRef) fun _ hc => hc.idle) (fun _ _ _ => trivial)
      fun _ _ _ => trivial
  | createSession tenantId metadata =>
    exact Role.Plays.bind (debt_createSession py tenantId metadata rfl) (fun _ _ _ => trivial)
      fun _ _ _ => trivial
  | sendCommand sessionId send =>
    exact Role.Plays.bind (debt_sendCommand py send.commandType send.payload send.actorResourceId
      rfl) (fun _ _ _ => trivial) fun _ _ _ => trivial

variable {py} {calls : ι → GatewayCall} {clock : T} {files : Files} {cfg : Threads ι T Unit}

/-- The sessions to which anything is owed exist. -/
structure Solvent (py : Py) (p : Moment ι T) : Prop where
  rooted : p.state.Rooted py
  known : ∀ i, 0 < (debtAt p.trace i).n → p.state.store.hasSession (debtAt p.trace i).sid = true

omit [Field T] [LinearOrder T] [IsStrictOrderedRing T] [FloorRing T] [DecidableEq ι] in
theorem World.rooted_init (clock : T) (files : Files) : (World.init clock files).Rooted py := by
  refine ⟨World.sound_init py clock files, ?_, ?_, ?_, Store.contiguous_init⟩ <;>
    exact fun _ h => nomatch h

theorem gateway_plays (calls : ι → GatewayCall) (w : World T) :
    Role.AllPlay (fun _ => debtRole T) (exec py) (fun _ _ _ => True)
      (Config.start (fun i => (calls i).code py) w) :=
  fun i => plays_gatewayCall py (calls i)

omit [DecidableEq ι] [IsStrictOrderedRing T] [FloorRing T] in
/-- A permitted call takes on nothing for a session that does not exist. -/
theorem next_known {w : World T} {q : Debt} {c : Call T} (hrooted : w.Rooted py)
    (hmay : DebtMay q c) (hknown : 0 < q.n → w.store.hasSession q.sid = true)
    (hn : 0 < (q.next c (exec py c w).1).n) :
    (exec py c w).2.store.hasSession (q.next c (exec py c w).1).sid = true := by
  cases c with
  | createSession tenantId externalId profileBundle metadata =>
    cases hr : (exec py (.createSession tenantId externalId profileBundle metadata) w).1 with
    | error e =>
      rw [hr] at hn
      exact exec_hasSession py _ (hknown hn)
    | ok s =>
      obtain ⟨st, hok, hst⟩ := World.commit_ok hr
      obtain ⟨rfl, sessions, hins, rfl⟩ := Store.createSession_ok hok
      have hst : (exec py (.createSession tenantId externalId profileBundle metadata) w).2 = _ :=
        hst
      rw [hst]
      exact Data.Table.find?_isSome.mpr ⟨_, (Data.Table.mem_of_insert? hins).mpr (.inr rfl), rfl⟩
  | claimPendingCommands s claimedBy =>
    rw [exec_claimPendingCommands py hrooted.sound.claims] at hn ⊢
    have hlength : 0 < 2 * ((w.store.pendingOf s).map (Store.claimRow w.clock claimedBy
      (w.fresh py .claimToken))).length := hn
    rw [List.length_map] at hlength
    obtain ⟨cmd, hcmd⟩ := List.exists_mem_of_length_pos (Nat.pos_of_mul_pos_left hlength)
    obtain ⟨hmem, hsid, -⟩ := Store.mem_pendingOf.mp hcmd
    exact hsid ▸ hrooted.owned cmd hmem
  | appendEvent s eventType payload actor =>
    obtain ⟨rfl, hpos⟩ := hmay
    have hold := exec_hasSession py (.appendEvent q.sid eventType payload actor) (hknown hpos)
    cases (exec py (.appendEvent q.sid eventType payload actor) w).1 <;> exact hold
  | _ => exact exec_hasSession py _ (hknown hn)

/-- The debts of a run are to sessions that exist. -/
theorem solvent_reach (hr : Reach (system ι py)
    (.start (fun i => (calls i).code py) (World.init clock files)) cfg) :
    Solvent py cfg.point := by
  refine Role.roles_invariant (P := Solvent py) (gateway_plays calls _) hr
    ⟨World.rooted_init clock files, fun _ h => (nomatch h)⟩ (fun p i c h hmay _ => ?_) ?_
  · refine ⟨exec_rooted py c h.rooted, fun j hj => ?_⟩
    have hlocal : debtAt (p.after (exec py) i c).trace = Function.update (debtAt p.trace) i
        ((debtAt p.trace i).next c (exec py c p.state).1) := Role.localAt_after _ (exec py) p i c
    have hj' : 0 < (debtAt (p.after (exec py) i c).trace j).n := hj
    show (exec py c p.state).2.store.hasSession (debtAt (p.after (exec py) i c).trace j).sid = true
    rw [hlocal] at hj' ⊢
    by_cases hij : j = i
    · subst hij
      rw [Function.update_self] at hj' ⊢
      exact next_known h.rooted hmay (h.known j) hj'
    · rw [Function.update_of_ne hij] at hj' ⊢
      exact exec_hasSession py c (h.known j hj')
  · rintro p w' h ⟨t, f, -, rfl⟩
    obtain ⟨⟨⟨hids, hclaims, hchannels⟩, howned, hlinked, hlogged, hcontiguous⟩, hknown⟩ := h
    exact ⟨⟨⟨hids, hclaims, hchannels⟩, howned, hlinked, hlogged, hcontiguous⟩, hknown⟩

omit [Field T] [LinearOrder T] [IsStrictOrderedRing T] [FloorRing T] in
/-- Nothing is owed to a session that does not exist, and it has no load. -/
theorem Solvent.nothing {sid : String} (h : Solvent py cfg.point)
    (hnone : cfg.point.state.store.hasSession sid = false) :
    cfg.point.state.store.load sid + owedTo sid cfg = 0 := by
  have hload : cfg.point.state.store.load sid = 0 := by
    unfold Store.load
    rw [h.rooted.eventsOf_nil py hnone, Store.pendingOf_eq_filter, h.rooted.inboxOf_nil py hnone]
    rfl
  have howed : owedTo sid cfg = 0 := by
    unfold owedTo owed
    refine Finset.sum_eq_zero fun i _ => Nat.eq_zero_of_not_pos fun hpos => ?_
    have hdue := hpos.trans_le (owes_le (f := Debt.due sid) i)
    have hdue : 0 < (debtAt cfg.point.trace i).due sid := hdue
    unfold Debt.due at hdue
    by_cases hsid : (debtAt cfg.point.trace i).sid = sid
    · rw [if_pos hsid] at hdue
      exact Bool.false_ne_true (hnone.symm.trans (hsid ▸ h.known i hdue))
    · rw [if_neg hsid] at hdue
      exact Nat.lt_irrefl 0 hdue
  omega

omit [IsStrictOrderedRing T] [FloorRing T] in
/-- A step of a thread adds to the log and what is owed to it what it takes on. -/
theorem total_act {i : ι} {c : Call T} {k : Except PyErr c.Ret → Code T Unit} (sid : String)
    (hsolvent : Solvent py cfg.point) (hi : cfg.threads i = .call c k)
    (hmay : DebtMay (debtAt cfg.point.trace i) c) :
    (cfg.act (exec py) i c k).point.state.store.load sid +
        owedTo sid (cfg.act (exec py) i c k) ≤
      cfg.point.state.store.load sid + owedTo sid cfg +
        takesOn sid c (exec py c cfg.point.state).1 := by
  have hload := exec_load py sid hsolvent.rooted.sound.claims hmay
  have hinit : Debt.due sid ⟨"", 0⟩ = 0 := ite_self 0
  have howed : owedTo sid (cfg.act (exec py) i c k) + (debtAt cfg.point.trace i).due sid ≤
      owedTo sid cfg +
        ((debtAt cfg.point.trace i).next c (exec py c cfg.point.state).1).due sid :=
    owed_act (fun _ => hinit) hi
  have hstate : (cfg.act (exec py) i c k).point.state = (exec py c cfg.point.state).2 := rfl
  rw [hstate]
  omega

/-- Along such a run the log of a session has room for all that it is owed. -/
theorem total_le (hr : ReachWhere (system ι py) WithRoom
    (.start (fun i => (calls i).code py) (World.init clock files)) cfg) (sid : String) :
    cfg.point.state.store.load sid + owedTo sid cfg ≤ Store.maxEventsPerSession := by
  induction hr with
  | refl =>
    have hload : (World.init clock files).store.load sid = 0 := rfl
    have howed : owedTo sid (Config.start (fun i => (calls i).code py) (World.init clock files)) =
      0 := owed_start _ _
    show (World.init clock files).store.load sid + owedTo sid _ ≤ _
    omega
  | @tail a b hb hs ih =>
    have hb : ReachWhere (system ι py) WithRoom _ a := hb
    have hsolvent := solvent_reach hb.reach
    have hplays := (gateway_plays calls (World.init clock files)).reach hb.reach
    obtain ⟨hstep, hroom⟩ := hs
    cases hstep with
    | env he =>
      obtain ⟨t, f, -, rfl⟩ := he
      exact ih
    | @act i c k hi ha =>
      have hplay := hplays i
      rw [hi] at hplay
      have htotal := total_act sid hsolvent hi hplay.1
      refine htotal.trans ?_
      cases c with
      | enqueueCommand s commandType payload actor =>
        cases hres : (exec py (.enqueueCommand s commandType payload actor) a.point.state).1 with
        | error e => exact ih
        | ok id =>
          show _ + _ + (if s = sid then 2 else 0) ≤ _
          split
          · rename_i hsid
            subst hsid
            refine hroom i s commandType payload actor id ?_
            rw [← hres]
            rfl
          · exact ih
      | createSession tenantId externalId profileBundle metadata =>
        cases hres : (exec py (.createSession tenantId externalId profileBundle metadata)
          a.point.state).1 with
        | error e => exact ih
        | ok s =>
          show _ + _ + (if s = sid then 1 else 0) ≤ _
          split
          · -- a session that is new has no events, and is owed none
            rename_i hsid
            subst hsid
            have hnothing := hsolvent.nothing (exec_createSession_new py hres)
            have hcap : 1 ≤ Store.maxEventsPerSession := by decide
            omega
          · exact ih
      | _ => exact ih

/-- **The cap is a cap** where commands are only taken with room for them: in
every run of registrations, `create_session` and `send_command`, sequential or
concurrent, in which each command that is enqueued finds room for what is owed
and for its own events, every session has at most the maximal number of events. -/
theorem event_cap_holds (hr : ReachWhere (system ι py) WithRoom
    (.start (fun i => (calls i).code py) (World.init clock files)) cfg) (sid : String) :
    (cfg.point.state.store.eventsOf sid).length ≤ Store.maxEventsPerSession := by
  have htotal := total_le hr sid
  unfold Store.load at htotal
  omega

end Runs

/-! ## One command after the other -/

section Echoes

variable [Field T] [LinearOrder T] [IsStrictOrderedRing T] [FloorRing T] (py : Py) {w : World T}
  {sid : String} {c : Celld}

omit [Field T] [IsStrictOrderedRing T] [FloorRing T] in
/-- A session with a route and a live cell. -/
structure Routed (c : Celld) (sid : String) (w : World T) : Prop where
  route : ∃ route, w.store.getRoute w.clock sid = some route ∧ w.objects route.hostId = some c
  cell : ∃ cell, w.cells c.ref sid = some cell
  session : w.store.hasSession sid = true

omit [IsStrictOrderedRing T] [FloorRing T] in
theorem Routed.gateway (h : Routed c sid w) :
    ∃ route, (Gateway.route sid).run (exec py) w = (.ok route, w) := by
  obtain ⟨⟨route, hroute, -⟩, -, -⟩ := h
  have hlook : (call (.getRoute sid)).run (exec py) w = (.ok (some route), w) := by
    rw [← hroute]
    rfl
  exact ⟨route, Prog.run_bind_ok _ hlook⟩

omit [IsStrictOrderedRing T] [FloorRing T] in
theorem Routed.celld (h : Routed c sid w) :
    (Broker.celldForRoute sid).run (exec py) w = (.ok c, w) := by
  obtain ⟨⟨route, hroute, hobject⟩, -, -⟩ := h
  have hlook : (call (.getRoute sid)).run (exec py) w = (.ok (some route), w) := by
    rw [← hroute]
    rfl
  have hfound : (call (.object route.hostId)).run (exec py) w = (.ok (some c), w) := by
    rw [← hobject]
    rfl
  unfold Broker.celldForRoute
  simp only [Prog.bind_eq]
  rw [Prog.run_bind_ok _ hlook]
  exact Prog.run_bind_ok _ hfound

theorem Routed.live (h : Routed c sid w) :
    ∃ cell, (c.liveCell py sid).run (exec py) w = (.ok cell, w) := by
  obtain ⟨-, ⟨cell, hcell⟩, -⟩ := h
  have hget : (call (.cellsGet c.ref sid)).run (exec py) w = (.ok (some cell), w) := by
    rw [← hcell]
    rfl
  exact ⟨cell, Prog.run_bind_ok _ hget⟩

omit [IsStrictOrderedRing T] [FloorRing T] in
/-- Appending an event, with the clock standing still. -/
theorem exec_appendEvent (hses : w.store.hasSession sid = true) (c : Celld) (eventType : String)
    (payload : Json) (hobj : payload.orEmpty.isObj = true) :
    ∃ ev heap, (c.appendEvent sid eventType payload).run (exec py) w =
      (.ok ev, { w.append sid eventType payload with heap }) := by
  obtain ⟨m, hstill⟩ := run_still py (c.appendEvent sid eventType payload) w 0
  obtain ⟨heap, hrun, -⟩ : ∃ heap, (c.appendEvent sid eventType payload).run
      (timed py (.still w.clock w.files)) ⟨0, w⟩ = (.ok _, ⟨1, { w.append sid eventType payload with
        heap }⟩) ∧ _ := run_appendEvent py (.still w.clock w.files) c (s := ⟨0, w⟩) hses hobj
  rw [hrun] at hstill
  obtain ⟨hvalue, hstate⟩ := Prod.mk.inj hstill
  exact ⟨_, heap, Prod.ext hvalue.symm (congrArg Ticking.world hstate).symm⟩

omit [Field T] [LinearOrder T] [IsStrictOrderedRing T] [FloorRing T] in
/-- An event more in the log. -/
theorem World.append_length (w : World T) (sid eventType : String) (payload : Json) :
    ((w.append sid eventType payload).store.eventsOf sid).length =
      (w.store.eventsOf sid).length + 1 := by
  show (List.filter _ (w.store.events.rows ++ [_])).length = _
  rw [List.filter_append, List.length_append]
  congr 1
  simp [Store.newEvent]

/-- The event an echo of nothing gives. -/
def echoed : Json := .obj [("text", .str "")]

/-- Handling an echo appends two events and completes it. -/
theorem Routed.loop (h : Routed c sid w) (token : String) (cmd : CommandRow T)
    (htype : cmd.commandType = "echo") (hpayload : cmd.payload = .obj []) :
    ∃ evs w', (c.consumeLoop py sid token [cmd]).run (exec py) w = (.ok evs, w') ∧
      Routed c sid w' ∧ (w'.store.pendingOf sid).length ≤ (w.store.pendingOf sid).length ∧
      (w'.store.eventsOf sid).length = (w.store.eventsOf sid).length + 2 := by
  -- the command is announced, handled and answered
  obtain ⟨ev₁, heap₁, hreceived⟩ := exec_appendEvent py h.session c "command.received"
    (Celld.received cmd) rfl
  obtain ⟨w₁, hw₁⟩ : ∃ w₁, w₁ = { w.append sid "command.received" (Celld.received cmd) with
    heap := heap₁ } := ⟨_, rfl⟩
  have hhandle : (Runtime.handle py c.sandboxd sid token cmd.commandType cmd.payload).run
      (exec py) w₁ = (.ok [("assistant.message", echoed)], w₁) := by
    rw [htype, hpayload]
    rfl
  have hses : w₁.store.hasSession sid = true := by
    rw [hw₁]
    exact h.session
  obtain ⟨ev₂, heap₂, hmessage⟩ := exec_appendEvent py hses c "assistant.message" echoed rfl
  have hmessages : (c.appendEvents sid [("assistant.message", echoed)]).run (exec py) w₁ =
      (.ok [ev₂], { w₁.append sid "assistant.message" echoed with heap := heap₂ }) :=
    Prog.run_bind_ok _ hmessage
  obtain ⟨w₂, hw₂⟩ : ∃ w₂, w₂ = { w₁.append sid "assistant.message" echoed with heap := heap₂ } :=
    ⟨_, rfl⟩
  have hrun : (c.consumeLoop py sid token [cmd]).run (exec py) w =
      (.ok [ev₂], (exec py (.completeCommand cmd.id) w₂).2) := by
    unfold Celld.consumeLoop
    simp only [Prog.bind_eq, Prog.pure_eq]
    rw [Prog.run_bind_ok _ hreceived, ← hw₁, Prog.run_bind_ok _ hhandle,
      Prog.run_bind_ok _ hmessages, ← hw₂]
    rfl
  have h₂ : Routed c sid w₂ := by
    rw [hw₂, hw₁]
    exact ⟨h.route, h.cell, h.session⟩
  refine ⟨_, _, hrun, ⟨h₂.route, h₂.cell, h₂.session⟩, ?_, ?_⟩
  · have hle := Store.pendingOf_length_map sid w₂.store (w₂.store.completeCommand w₂.clock cmd.id) _
      (Store.inboxOf_completeCommand ..) fun cmd hcmd => by
        split at hcmd
        · cases hcmd
        · exact hcmd
    have hsame : w₂.store.pendingOf sid = w.store.pendingOf sid := by
      rw [hw₂, hw₁]
      rfl
    rw [hsame] at hle
    exact hle
  · have hlength := w₁.append_length sid "assistant.message" echoed
    have hfirst := w.append_length sid "command.received" (Celld.received cmd)
    have hsame₁ : w₁.store.eventsOf sid =
        (w.append sid "command.received" (Celld.received cmd)).store.eventsOf sid := by
      rw [hw₁]
    have hsame₂ : (exec py (.completeCommand cmd.id) w₂).2.store.eventsOf sid =
        (w₁.append sid "assistant.message" echoed).store.eventsOf sid := by
      rw [hw₂]
      rfl
    rw [hsame₂, hlength, hsame₁, hfirst]

/-- Consuming an echo. -/
theorem Routed.consume (h : Routed c sid w) (hdrawn : w.ClaimsDrawn py) {cmd : CommandRow T}
    (hwaits : w.store.pendingOf sid = [cmd]) (htype : cmd.commandType = "echo")
    (hpayload : cmd.payload = .obj []) :
    ∃ evs w', (c.consumeCommands py sid).run (exec py) w = (.ok evs, w') ∧ Routed c sid w' ∧
      w'.store.pendingOf sid = [] ∧
      (w'.store.eventsOf sid).length = (w.store.eventsOf sid).length + 2 := by
  obtain ⟨cell, hlive⟩ := h.live py
  obtain ⟨w₁, hw₁⟩ : ∃ w₁, w₁ = (exec py (.claimPendingCommands sid c.hostId) w).2 := ⟨_, rfl⟩
  obtain ⟨claimed, hclaimed⟩ : ∃ claimed : CommandRow T, claimed =
      Store.claimRow w.clock c.hostId (w.fresh py .claimToken) cmd := ⟨_, rfl⟩
  have hclaim : (call (.claimPendingCommands sid c.hostId)).run (exec py) w =
      (.ok [claimed], w₁) := by
    rw [Prog.run_perform]
    refine Prod.ext ?_ hw₁.symm
    rw [exec_claimPendingCommands py hdrawn, hwaits, hclaimed]
    rfl
  have h₁ : Routed c sid w₁ := hw₁ ▸ ⟨h.route, h.cell, h.session⟩
  have hidle : (w₁.store.pendingOf sid).length = 0 := by
    rw [hw₁]
    exact Store.pendingOf_claimPendingCommands sid w.store _ _ _
  have hevents : w₁.store.eventsOf sid = w.store.eventsOf sid := by
    rw [hw₁]
    rfl
  obtain ⟨evs, w₂, hloop, h₂, hle, hlength⟩ := h₁.loop py cell.jwt claimed
    (hclaimed ▸ htype) (hclaimed ▸ hpayload)
  have hrun : (c.consumeCommands py sid).run (exec py) w = (.ok evs, w₂) := by
    unfold Celld.consumeCommands
    simp only [Prog.bind_eq]
    rw [Prog.run_bind_ok _ hlive, Prog.run_bind_ok _ hclaim]
    exact hloop
  refine ⟨evs, w₂, hrun, h₂, ?_, hevents ▸ hlength⟩
  rw [hidle] at hle
  exact List.length_eq_zero_iff.mp (Nat.le_zero.mp hle)

omit [IsStrictOrderedRing T] [FloorRing T] in
/-- An echo is taken and waits. -/
theorem Routed.enqueue (h : Routed c sid w) (hidle : w.store.pendingOf sid = [])
    (hdrawn : w.ClaimsDrawn py)
    (hlog : (w.store.eventsOf sid).length < Store.maxEventsPerSession) :
    ∃ id w' cmd, (call (.enqueueCommand sid "echo" (.obj []) none)).run (exec py) w =
        (.ok id, w') ∧ Routed c sid w' ∧ w'.ClaimsDrawn py ∧ w'.store.pendingOf sid = [cmd] ∧
      cmd.commandType = "echo" ∧ cmd.payload = .obj [] ∧
      w'.store.eventsOf sid = w.store.eventsOf sid := by
  have hpend : (w.store.pendingOf sid).length < Store.maxPendingCommands := by
    rw [hidle]
    exact Nat.zero_lt_succ _
  obtain ⟨st, henqueue⟩ : ∃ st, w.store.enqueueCommand w.clock sid "echo" (.obj []) none =
      .ok (w.store.commandInbox.last + 1, st) := Store.enqueueCommand_eq hpend hlog h.session
  have hwaits : st.pendingOf sid = [Store.newCommand w.clock sid "echo" (.obj []) none
      (w.store.commandInbox.last + 1)] := by
    rw [Store.pendingOf_enqueue henqueue, if_pos rfl, hidle, List.nil_append]
  have hexec : exec py (.enqueueCommand sid "echo" (.obj []) none) w =
      (.ok (w.store.commandInbox.last + 1), { w with store := st }) := by
    show w.commit (w.store.enqueueCommand w.clock sid "echo" (.obj []) none) = _
    rw [henqueue]
    rfl
  have hkept := exec_claimsDrawn py (.enqueueCommand sid "echo" (.obj []) none) hdrawn
  rw [hexec] at hkept
  have hrun : (call (.enqueueCommand sid "echo" (.obj []) none)).run (exec py) w =
      (.ok (w.store.commandInbox.last + 1), { w with store := st }) := by
    rw [Prog.run_perform]
    exact hexec
  obtain ⟨-, -, -, -, rfl⟩ := Store.enqueueCommand_ok henqueue
  exact ⟨_, _, _, hrun, ⟨h.route, h.cell, h.session⟩, hkept, hwaits, rfl, rfl, rfl⟩

/-- **A command that echoes** leaves two events, and the session as it was. -/
theorem Routed.echo (h : Routed c sid w) (hidle : w.store.pendingOf sid = [])
    (hdrawn : w.ClaimsDrawn py)
    (hlog : (w.store.eventsOf sid).length < Store.maxEventsPerSession) :
    ∃ sent w', (Gateway.sendCommand py sid "echo" (.obj []) none).run (exec py) w =
        (.ok sent, w') ∧ Routed c sid w' ∧ w'.store.pendingOf sid = [] ∧
      (w'.store.eventsOf sid).length = (w.store.eventsOf sid).length + 2 := by
  obtain ⟨route, hroute⟩ := h.gateway py
  obtain ⟨id, w₁, cmd, henqueue, h₁, hdrawn₁, hwaits, htype, hpayload, hevents⟩ :=
    h.enqueue py hidle hdrawn hlog
  obtain ⟨evs, w₂, hconsume, h₂, hidle₂, hlength⟩ := h₁.consume py hdrawn₁ hwaits htype hpayload
  refine ⟨⟨id, evs⟩, w₂, ?_, h₂, hidle₂, hevents ▸ hlength⟩
  unfold Gateway.sendCommand
  simp only [Prog.bind_eq]
  rw [Prog.run_bind_ok _ hroute]
  have henqueue : (call (.enqueueCommand sid "echo" (Json.obj []).orEmpty none)).run (exec py) w =
    (.ok id, w₁) := henqueue
  rw [Prog.run_bind_ok _ henqueue, Prog.run_bind_ok _ (h₁.celld py)]
  exact Prog.run_bind_ok _ hconsume

end Echoes

/-! ## The cap is exceeded -/

/-- A host is registered, a session created, and then it is sent one echo after
the other. -/
def echoes : ℕ → GatewayCall
  | 0 => .registerCellHost "cell-local" "local" "inproc://cell" 100 (.celld (localCelld []))
      (some (localCelld []))
  | 1 => .createSession "local" .null
  | _ + 2 => .sendCommand "s" ⟨"echo", .obj [], none⟩

/-- The state after the first `n` of these calls. -/
def echoedWorld : ℕ → World ℚ
  | 0 => World.init 0 Sample.files
  | n + 1 => (((echoes n).code Py.sample).run (exec Py.sample) (echoedWorld n)).2

/-- The calls one after the other are a run. -/
theorem echoes_reach (n : ℕ) :
    ∃ cfg : Threads ℕ ℚ Unit, Reach (system ℕ Py.sample)
        (.start (fun i => (echoes i).code Py.sample) (World.init 0 Sample.files)) cfg ∧
      (∀ i, n ≤ i → cfg.threads i = (echoes i).code Py.sample) ∧
      cfg.point.state = echoedWorld n := by
  induction n with
  | zero => exact ⟨_, Relation.ReflTransGen.refl, fun _ _ => rfl, rfl⟩
  | succ n ih =>
    obtain ⟨cfg, hr, hthreads, hstate⟩ := ih
    obtain ⟨tr, hrun⟩ := reach_run (S := system ℕ Py.sample) (fun _ _ _ => trivial) n _ cfg
      (hthreads n (Nat.le_refl n))
    refine ⟨_, hr.trans hrun, fun i hi => ?_, ?_⟩
    · exact (Function.update_of_ne (by omega) _ _).trans (hthreads i (by omega))
    · show (Prog.run (exec Py.sample) _ cfg.point.state).2 = _
      rw [hstate]
      rfl

/-- The echoes that find fewer events than the maximal number are served. -/
theorem echoes_served (n : ℕ) (hn : n ≤ 5000) :
    Routed (localCelld []) "s" (echoedWorld (n + 2)) ∧
      (echoedWorld (n + 2)).store.pendingOf "s" = [] ∧
      ((echoedWorld (n + 2)).store.eventsOf "s").length = 2 * n + 1 := by
  induction n with
  | zero =>
    have hfacts : ((echoedWorld 2).store.getRoute (echoedWorld 2).clock "s").bind
          (fun route => (echoedWorld 2).objects route.hostId) = some (localCelld []) ∧
        ((echoedWorld 2).cells 0 "s").isSome = true ∧
        (echoedWorld 2).store.hasSession "s" = true ∧
        ((echoedWorld 2).store.pendingOf "s").length = 0 ∧
        ((echoedWorld 2).store.eventsOf "s").length = 1 := by decide +kernel
    obtain ⟨hroute, hcell, hses, hidle, hlength⟩ := hfacts
    exact ⟨⟨Option.bind_eq_some_iff.mp hroute, Option.isSome_iff_exists.mp hcell, hses⟩,
      List.length_eq_zero_iff.mp hidle, hlength⟩
  | succ n ih =>
    obtain ⟨hrouted, hidle, hlength⟩ := ih (by omega)
    obtain ⟨cfg, hr, -, hstate⟩ := echoes_reach (n + 2)
    have hdrawn : (echoedWorld (n + 2)).ClaimsDrawn Py.sample :=
      hstate ▸ (solvent_reach hr).rooted.sound.claims
    have hlog : ((echoedWorld (n + 2)).store.eventsOf "s").length < Store.maxEventsPerSession := by
      rw [hlength]
      show _ < 10000
      omega
    obtain ⟨sent, w', hrun, hrouted', hidle', hlength'⟩ := hrouted.echo Py.sample hidle hdrawn hlog
    have hnext : echoedWorld (n + 3) = w' := by
      have hcode : ((echoes (n + 2)).code Py.sample).run (exec Py.sample) (echoedWorld (n + 2)) =
        (.ok (), w') := Prog.run_bind_ok _ hrun
      show (((echoes (n + 2)).code Py.sample).run (exec Py.sample) (echoedWorld (n + 2))).2 = w'
      rw [hcode]
    rw [show n + 1 + 2 = n + 3 from rfl, hnext]
    exact ⟨hrouted', hidle', by omega⟩

/-- **The cap is exceeded**: the 5000th echo finds 9999 events and leaves 10001. -/
theorem event_cap_exceeded :
    ∃ cfg : Threads ℕ ℚ Unit, Reach (system ℕ Py.sample)
        (.start (fun i => (echoes i).code Py.sample) (World.init 0 Sample.files)) cfg ∧
      Store.maxEventsPerSession < (cfg.point.state.store.eventsOf "s").length := by
  obtain ⟨cfg, hr, -, hstate⟩ := echoes_reach 5002
  obtain ⟨-, -, hlength⟩ := echoes_served 5000 (Nat.le_refl _)
  refine ⟨cfg, hr, ?_⟩
  rw [hstate, hlength]
  show 10000 < _
  omega

/-- Whether there is room for a command that a call may enqueue. -/
def roomFor (cfg : Threads ℕ ℚ Unit) (_ : ℕ) : Call ℚ → Bool
  | .enqueueCommand sid .. =>
    decide (cfg.point.state.store.load sid + owedTo sid cfg + 2 ≤ Store.maxEventsPerSession)
  | _ => true

/-- The first echo finds room, and there are three events then. -/
theorem event_cap_holds_sample :
    let cfg : Threads ℕ ℚ Unit := execute (exec Py.sample)
      (List.replicate 3 0 ++ List.replicate 14 1 ++ List.replicate 18 2)
      (.start (fun i => (echoes i).code Py.sample) (World.init 0 Sample.files))
    (cfg.point.state.store.eventsOf "s").length = 3 ∧
      (cfg.point.state.store.eventsOf "s").length ≤ Store.maxEventsPerSession := by
  intro cfg
  have hok : ∀ (a : Threads ℕ ℚ Unit) i c k, roomFor a i c = true →
      WithRoom a (a.act (system ℕ Py.sample).handler i c k) := by
    intro a i c k htest j sid commandType payload actor id htrace
    have hentry := List.append_cancel_left htrace
    obtain ⟨-, rfl, -⟩ := Entry.mk.inj (List.singleton_inj.mp hentry)
    exact of_decide_eq_true htest
  have hpasses : passes (exec Py.sample) roomFor
      (List.replicate 3 0 ++ List.replicate 14 1 ++ List.replicate 18 2)
      (.start (fun i => (echoes i).code Py.sample) (World.init 0 Sample.files)) = true := by
    decide +kernel
  have hr : ReachWhere (system ℕ Py.sample) WithRoom _ cfg :=
    reachWhere_execute (fun _ _ _ => trivial) hok _ _ hpasses
  have hthree : (cfg.point.state.store.eventsOf "s").length = 3 := by decide +kernel
  exact ⟨hthree, event_cap_holds hr "s"⟩

end Nadi
