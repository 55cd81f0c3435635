import Nadi.Crash
import Nadi.CellLife
import Nadi.GatewayRuns

/-!
# Jobs of a local stack, and what was tried

Clients, other services and operators make calls on a local stack, one after the
other: `serveJobs` is the state they lead to. Whenever commands are consumed
something is tried with each of them, and `history` tells it in order: the
handler of a command gives events, or raises, or is never reached since one
before it in the batch has raised.

- `World.Rooted`: what every run on a new stack keeps.
- `Celld.loop_rule`: what a fact about the attempts at a session's commands has to
  survive for the loop of `consume_commands` to keep it.
-/

namespace Nadi

open Effect

variable {T : Type}

/-! ## Jobs -/

/-- A call on a local stack. -/
inductive Job where
  | client (request : Request)
  | channelSession (request : ChannelRequest)
  | destroyCell (celld : Celld) (sessionId : String)
  | reconstructCell (celld : Celld) (sessionId : String)
  /-- A cell is gone from `celld.cells`. -/
  | loseCell (celld : Celld) (sessionId : String)

section Jobs

variable [Field T] [LinearOrder T] [IsStrictOrderedRing T] [FloorRing T] (py : Py)
  (tm : Timing T)

/-- Do a job, dropping what it returns. -/
def Job.code : Job → Code T Unit
  | .client request => do
    let _ ← request.code py
    return ()
  | .channelSession request => do
    let _ ← request.run py
    return ()
  | .destroyCell celld sessionId => celld.destroyCell py sessionId
  | .reconstructCell celld sessionId => do
    let _ ← celld.reconstructCell py sessionId
    return ()
  | .loseCell celld sessionId => do
    let _ ← call (.cellsPop celld.ref sessionId)
    return ()

/-- The state after a job, whatever becomes of it. -/
def Job.serve (job : Job) (s : Ticking T) : Ticking T :=
  ((job.code py).run (timed py tm) s).2

/-- The state after jobs in turn. -/
def serveJobs (jobs : List Job) (s : Ticking T) : Ticking T :=
  jobs.foldl (fun s job => job.serve py tm s) s

theorem serveJobs_cons (job : Job) (rest : List Job) (s : Ticking T) :
    serveJobs py tm (job :: rest) s =
      serveJobs py tm rest (job.serve py tm s) := rfl

/-- The job creates the session. -/
def Job.Creates (sid : String) (s : Ticking T) : Job → Prop
  | .client (.createSession tenantId metadata) => ∃ created s',
    (Gateway.createSession py tenantId metadata).run (timed py tm) s = (.ok created, s') ∧
      created.sessionId = sid
  | .channelSession request => ∃ session s',
    (request.run py).run (timed py tm) s = (.ok session, s') ∧
      session.sessionId = sid ∧ session.created = true
  | _ => False

/-- One of the jobs creates the session. -/
def SomeCreates (sid : String) : List Job → Ticking T → Prop
  | [], _ => False
  | job :: rest, s =>
    job.Creates py tm sid s ∨ SomeCreates sid rest (job.serve py tm s)

end Jobs

/-! ## What was tried -/

/-- A command as it was enqueued. -/
structure Asked where
  id : ℕ
  commandType : String
  payload : Json
  actorResourceId : Option String

/-- What became of a claimed command. -/
inductive Outcome where
  | handled (outs : List (String × Json))
  | raised (e : PyErr)
  /-- The handler of a command before it in its batch has raised. -/
  | unreached

/-- A claimed command and what became of it. -/
structure Attempt where
  asked : Asked
  outcome : Outcome

/-- What was asked for by the command in a row. -/
def CommandRow.asked (cmd : CommandRow T) : Asked :=
  ⟨cmd.id, cmd.commandType, cmd.payload, cmd.actorResourceId⟩

section Attempts

variable [Field T] [LinearOrder T] [IsStrictOrderedRing T] [FloorRing T] (py : Py)
  (tm : Timing T)

/-- What is told by a state after a program that has returned, and nothing else. -/
def tellAfter {α β : Type} (p : Code T α) (f : α → Ticking T → List β) (s : Ticking T) : List β :=
  match p.run (timed py tm) s with
  | (.ok a, s') => f a s'
  | (.error _, _) => []

namespace Celld

variable (c : Celld)

/-- The attempts at the commands of a batch (celld.py:70–74). -/
def attempts (sid token : String) : List (CommandRow T) → Ticking T → List Attempt
  | [], _ => []
  | cmd :: rest, s =>
    let received := (c.appendEvent sid "command.received" (received cmd)).run (timed py tm) s
    let handled := (Runtime.handle py c.sandboxd sid token cmd.commandType cmd.payload).run
      (timed py tm) received.2
    match handled.1 with
    | .error e => ⟨cmd.asked, .raised e⟩ :: rest.map fun cmd => ⟨cmd.asked, .unreached⟩
    | .ok outs =>
      let appended := (c.appendEvents sid outs).run (timed py tm) handled.2
      let completed := (call (.completeCommand cmd.id)).run (timed py tm) appended.2
      ⟨cmd.asked, .handled outs⟩ :: attempts sid token rest completed.2

/-- The attempts of `consume_commands`. -/
def batch (sid : String) : Ticking T → List Attempt :=
  tellAfter py tm (c.liveCell py sid) fun cell =>
    tellAfter py tm (call (.claimPendingCommands sid c.hostId)) fun commands =>
      c.attempts py tm sid cell.jwt commands

end Celld

/-- The attempts of `send_command`. -/
def Send.batch (sid : String) (send : Send) : Ticking T → List Attempt :=
  tellAfter py tm (send.deliver sid) fun delivered => delivered.2.batch py tm sid

/-- The attempts at the commands of a session in a job. -/
def Job.batch (sid : String) (s : Ticking T) : Job → List Attempt
  | .client (.sendCommand sessionId commandType payload actorResourceId) =>
    if sessionId = sid then Send.batch py tm sid ⟨commandType, payload, actorResourceId⟩ s else []
  | _ => []

/-- The batches in which commands of a session were consumed. -/
def history (sid : String) : List Job → Ticking T → List (List Attempt)
  | [], _ => []
  | job :: rest, s => job.batch py tm sid s :: history sid rest (job.serve py tm s)

end Attempts

/-! ## Runs -/

/-- What every run on a new stack keeps: ids are new, and rows are of sessions
that exist. -/
structure World.Rooted (py : Py) (w : World T) : Prop where
  sound : w.Sound py
  owned : w.store.Owned
  linked : w.store.Linked
  logged : ∀ ev ∈ w.store.events, w.store.hasSession ev.sessionId = true
  contiguous : w.store.Contiguous

section Rooted

variable [Field T] [LinearOrder T] (py : Py) (tm : Timing T) {s : Ticking T} {w : World T}

theorem exec_logged (c : Call T)
    (h : ∀ ev ∈ w.store.events, w.store.hasSession ev.sessionId = true) :
    ∀ ev ∈ (exec py c w).2.store.events,
      (exec py c w).2.store.hasSession ev.sessionId = true := by
  have hold : ∀ ev ∈ (exec py c w).2.store.events, w.store.hasSession ev.sessionId = true := by
    cases c with
    | appendEvent sid eventType payload actor =>
      refine World.commit_store (w := w)
        (P := fun st => ∀ ev ∈ st.events, w.store.hasSession ev.sessionId = true) h
        fun b st hr ev hev => ?_
      obtain ⟨-, hses, rfl⟩ := Store.appendEvent_ok hr
      rcases List.mem_append.mp hev with hev | hev
      · exact h ev hev
      · rw [List.mem_singleton.mp hev]
        exact hses
    | _ =>
      intro ev hev
      rw [exec_events py w rfl] at hev
      exact h ev hev
  exact fun ev hev => exec_hasSession py c (hold ev hev)

theorem exec_rooted (c : Call T) (h : w.Rooted py) : (exec py c w).2.Rooted py where
  sound := exec_sound py c h.sound
  owned := exec_owned py c h.owned
  linked := exec_linked py c h.linked
  logged := exec_logged py c h.logged
  contiguous := exec_contiguous py c w h.contiguous

theorem run_rooted {α : Type} (p : Code T α) (h : s.world.Rooted py) :
    (p.run (timed py tm) s).2.world.Rooted py := by
  refine run_timed_store py tm s (.any p) (I := fun w => w.Rooted py) ?_ ?_ h
  · exact fun _ _ _ h => ⟨⟨h.sound.sessionIds, h.sound.claims, h.sound.channels⟩, h.owned,
      h.linked, h.logged, h.contiguous⟩
  · exact fun c _ _ h => exec_rooted py c h

theorem serveJobs_rooted [IsStrictOrderedRing T] [FloorRing T] (jobs : List Job)
    (h : s.world.Rooted py) : (serveJobs py tm jobs s).world.Rooted py := by
  induction jobs generalizing s with
  | nil => exact h
  | cons job rest ih => exact ih (run_rooted py tm (job.code py) h)

theorem rooted_localWorld (cwd : List String) (clock : T) (files : Files) :
    (localWorld py cwd clock files).Rooted py := by
  refine (Prog.Within.any (localStack cwd)).preserves (I := fun w : World T => w.Rooted py)
    (fun c w _ h => exec_rooted py c h) ⟨World.sound_init py clock files, ?_, ?_, ?_, ?_⟩
  · exact fun _ h => nomatch h
  · exact fun _ h => nomatch h
  · exact fun _ h => nomatch h
  · exact Store.contiguous_init

omit [Field T] [LinearOrder T] in
/-- A session that does not exist has no log. -/
theorem World.Rooted.eventsOf_nil (h : w.Rooted py) {sid : String}
    (hnone : w.store.hasSession sid = false) : w.store.eventsOf sid = [] := by
  refine List.eq_nil_iff_forall_not_mem.mpr fun ev hev => ?_
  obtain ⟨hmem, rfl⟩ := Store.mem_eventsOf.mp hev
  exact Bool.false_ne_true (hnone.symm.trans (h.logged ev hmem))

omit [Field T] [LinearOrder T] in
/-- Nor an inbox. -/
theorem World.Rooted.inboxOf_nil (h : w.Rooted py) {sid : String}
    (hnone : w.store.hasSession sid = false) : w.store.inboxOf sid = [] := by
  refine List.eq_nil_iff_forall_not_mem.mpr fun cmd hcmd => ?_
  obtain ⟨hmem, rfl⟩ := Store.mem_inboxOf.mp hcmd
  exact Bool.false_ne_true (hnone.symm.trans (h.owned cmd hmem))

end Rooted

/-! ## Rules -/

section Rules

variable [Field T] [LinearOrder T] [IsStrictOrderedRing T] [FloorRing T] {py : Py}
  {tm : Timing T} {c : Celld} {sid token : String}

omit [IsStrictOrderedRing T] [FloorRing T] in
theorem tellAfter_ok {α β : Type} {p : Code T α} {f : α → Ticking T → List β} {s s' : Ticking T}
    {a : α} (h : p.run (timed py tm) s = (.ok a, s')) : tellAfter py tm p f s = f a s' := by
  unfold tellAfter
  rw [h]

omit [IsStrictOrderedRing T] [FloorRing T] in
theorem tellAfter_error {α β : Type} {p : Code T α} {f : α → Ticking T → List β}
    {s s' : Ticking T} {e : PyErr} (h : p.run (timed py tm) s = (.error e, s')) :
    tellAfter py tm p f s = [] := by
  unfold tellAfter
  rw [h]

/-- **The rule of the loop.** A fact about the attempts so far, the commands that
are left and the state is kept if it is by `command.received` and a handler that
raises, which ends the loop, and by one that returns, its events and the
completion of the command. -/
theorem Celld.loop_rule {I : List Attempt → List (CommandRow T) → Ticking T → Prop}
    {M : List Attempt → CommandRow T → List (CommandRow T) → Ticking T → Prop}
    (hreceived : ∀ before cmd rest s, I before (cmd :: rest) s →
      ∃ ev s', (c.appendEvent sid "command.received" (received cmd)).run (timed py tm) s =
        (.ok ev, s') ∧ M before cmd rest s')
    (hraised : ∀ before cmd rest s e s', M before cmd rest s →
      (Runtime.handle py c.sandboxd sid token cmd.commandType cmd.payload).run (timed py tm) s =
        (.error e, s') →
      I (before ++ ⟨cmd.asked, .raised e⟩ :: rest.map fun cmd => ⟨cmd.asked, .unreached⟩) [] s')
    (hhandled : ∀ before cmd rest s outs s', M before cmd rest s →
      (Runtime.handle py c.sandboxd sid token cmd.commandType cmd.payload).run (timed py tm) s =
        (.ok outs, s') →
      ∃ evs s₁ s₂, (c.appendEvents sid outs).run (timed py tm) s' = (.ok evs, s₁) ∧
        (call (.completeCommand cmd.id)).run (timed py tm) s₁ = (.ok (), s₂) ∧
        I (before ++ [⟨cmd.asked, .handled outs⟩]) rest s₂)
    {before : List Attempt} {cmds : List (CommandRow T)} {s : Ticking T} (h : I before cmds s) :
    I (before ++ c.attempts py tm sid token cmds s) []
      ((c.consumeLoop py sid token cmds).run (timed py tm) s).2 := by
  induction cmds generalizing before s with
  | nil =>
    unfold Celld.attempts
    rw [List.append_nil]
    exact h
  | cons cmd rest ih =>
    obtain ⟨ev, s₁, hrun₁, hmid⟩ := hreceived before cmd rest s h
    unfold Celld.attempts Celld.consumeLoop
    simp only [Prog.bind_eq, Prog.pure_eq]
    rw [hrun₁, Prog.run_bind_ok _ hrun₁]
    dsimp only
    rcases hrun₂ : (Runtime.handle py c.sandboxd sid token cmd.commandType cmd.payload).run
      (timed py tm) s₁ with ⟨e | outs, s₂⟩
    · rw [Prog.run_bind_error _ hrun₂]
      exact hraised before cmd rest s₁ e s₂ hmid hrun₂
    · obtain ⟨evs, s₃, s₄, hrun₃, hrun₄, hnext⟩ := hhandled before cmd rest s₁ outs s₂ hmid hrun₂
      rw [Prog.run_bind_ok _ hrun₂, Prog.run_bind_ok _ hrun₃, Prog.run_bind_ok _ hrun₄,
        Prog.run_bind_pure]
      dsimp only
      rw [hrun₃, hrun₄, List.append_cons]
      exact ih hnext

end Rules

end Nadi
