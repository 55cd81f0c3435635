import Nadi.Model.Bounds
import Nadi.Model.Replay
import Nadi.Model.Rows
import Nadi.Model.Sample
import Mathlib.Data.Rat.Floor

/-!
# Commands left behind by a failing batch

`consume_commands` claims all pending commands of a session, then handles one
after the other, and nothing catches what a handler raises: the command whose
handler raises and all after it stay claimed, whoever sent them.

Whether a handler raises is a function of the command, the token, the clock and
the file system (`handleAt`), and so is the part of a batch that is never
handled (`fromFirstFailure`). `run_consumeLoop` says that exactly this part is
left claimed; `batch_settles_iff` is the condition under which there is none.
-/

namespace Nadi

open Effect

variable {T : Type}

/-! ## Which handlers raise -/

section Handlers

variable [Field T] [LinearOrder T] [IsStrictOrderedRing T] [FloorRing T] (py : Py)
  (tm : Timing T) (revoked : List (RevokedRow T))

/-- Whether a token that is looked up at reading `n` is in a revocation list. -/
def listedAt (jti : String) (n : ℕ) : Bool :=
  revoked.any fun r => r.jti == jti && decide (tm.now n ≤ r.expiresAt)

/-- The reading after a verification that begins at reading `n`, unless it raises. -/
def SessionJWT.verifyAt (jwt : SessionJWT) (token sid scope : String) (n : ℕ) : Option ℕ :=
  (jwt.read py token).toOption.bind fun data =>
    (judge py data (truncate (tm.now n)) sid scope).toOption.bind fun _ =>
      (jtiOf py data).toOption.bind fun jti =>
        match jti with
        | none => some (n + 1)
        | some jti => if listedAt tm revoked jti (n + 1) then none else some (n + 2)

/-- The reading after a tool that is run at reading `n`, unless it raises. -/
def Sandboxd.runToolAt (s : Sandboxd) (sid token name : String) (args : Json) (n : ℕ) :
    Option ℕ :=
  if name = "echo" then (args.get "text" (.str "")).toOption.bind fun _ => some n
  else if name = "uppercase" then (args.get "text" (.str "")).toOption.bind fun _ => some n
  else if name = "list_files" then
    (args.get "path" (.str ".")).toOption.bind fun rel =>
      (listFiles (tm.files n) s.root (rel.pyStr py)).toOption.bind fun _ => some (n + 1)
  else if name = "credential" then
    (args.get "audience" (.str "tool")).toOption.bind fun _ =>
      (s.jwt.verifyAt py tm revoked token sid "tool" n).bind fun m => some (m + 1)
  else none

/-- The reading after `execute_tool`, unless it raises. -/
def Sandboxd.executeToolAt (s : Sandboxd) (sid token name : String) (args : Json) (n : ℕ) :
    Option ℕ :=
  (s.jwt.verifyAt py tm revoked token sid "tool" n).bind fun m =>
    (s.runToolAt py tm revoked sid token name args.orEmpty m).bind fun k => some (k + 1)

/-- The reading after the handler of a command, unless it raises. -/
def Runtime.handleAt (s : Sandboxd) (sid token commandType : String) (payload : Json) (n : ℕ) :
    Option ℕ :=
  if commandType = "echo" then (payload.get "text" (.str "")).toOption.bind fun _ => some n
  else if commandType = "model" then
    (payload.get "prompt" (.str "")).toOption.bind fun _ => some n
  else if commandType = "tool" then
    (payload.get "name" (.str "echo")).toOption.bind fun name =>
      (payload.get "args" .null).toOption.bind fun args =>
        s.executeToolAt py tm revoked sid token (name.pyStr py) args.orEmpty n
  else some n

/-- The commands of a batch from the first on whose handler raises. A command
takes a reading for `command.received`, those of its handler, one for the event
the handler gives and one to be completed. -/
def Celld.fromFirstFailure (s : Sandboxd) (sid token : String) :
    List (CommandRow T) → ℕ → List (CommandRow T)
  | [], _ => []
  | cmd :: rest, n =>
    match Runtime.handleAt py tm revoked s sid token cmd.commandType cmd.payload (n + 1) with
    | none => cmd :: rest
    | some m => Celld.fromFirstFailure s sid token rest (m + 2)

end Handlers

/-- What is left is an end of the batch. -/
theorem Celld.fromFirstFailure_suffix [Field T] [LinearOrder T] [IsStrictOrderedRing T]
    [FloorRing T] (py : Py) (tm : Timing T) (revoked : List (RevokedRow T)) (s : Sandboxd)
    (sid token : String) (cmds : List (CommandRow T)) (n : ℕ) :
    Celld.fromFirstFailure py tm revoked s sid token cmds n <:+ cmds := by
  induction cmds generalizing n with
  | nil => exact List.suffix_refl _
  | cons cmd rest ih =>
    unfold Celld.fromFirstFailure
    split
    · exact List.suffix_refl _
    · exact (ih _).trans (List.suffix_cons _ _)

/-! ## Runs of handlers -/

section Rules

variable [Field T] [LinearOrder T] (py : Py) (tm : Timing T) (revoked : List (RevokedRow T))

omit [Field T] in
/-- From now on a look-up finds what it would find in `revoked`. -/
def Lists (s : Ticking T) : Prop :=
  ∀ n, s.reading ≤ n → ∀ jti,
    listedAt tm s.world.store.revokedTokens.rows jti n = listedAt tm revoked jti n

/-- Started at reading `n`, the program returns at the reading `r` says, with a
value satisfying `post`, and raises where `r` says none. -/
def EndsAt {α : Type} (p : Code T α) (post : α → Prop) (n : ℕ) (r : Option ℕ) : Prop :=
  ∀ s : Ticking T, s.reading = n → Lists tm revoked s →
    match r with
    | some m => ∃ a s', p.run (timed py tm) s = (.ok a, s') ∧ post a ∧ s'.reading = m ∧
        Lists tm revoked s'
    | none => ∃ e s', p.run (timed py tm) s = (.error e, s')

namespace EndsAt

variable {py tm revoked} {α β : Type} {post : α → Prop} {post' : β → Prop} {n : ℕ}

theorem pure {a : α} (ha : post a) : EndsAt py tm revoked (.pure a) post n (some n) :=
  fun s hn hlists => ⟨a, s, rfl, ha, hn, hlists⟩

theorem throw {e : PyErr} : EndsAt py tm revoked (.throw e : Code T α) post n none :=
  fun s _ _ => ⟨e, s, rfl⟩

theorem bind {p : Code T α} {f : α → Code T β} {r : Option ℕ} {o : ℕ → Option ℕ}
    (hp : EndsAt py tm revoked p post n r)
    (hf : ∀ a m, post a → EndsAt py tm revoked (f a) post' m (o m)) :
    EndsAt py tm revoked (p.bind f) post' n (r.bind o) := by
  intro s hn hlists
  cases r with
  | none =>
    obtain ⟨e, s', hrun⟩ := hp s hn hlists
    exact ⟨e, s', Prog.run_bind_error _ hrun⟩
  | some m =>
    obtain ⟨a, s', hrun, ha, hm, hlists'⟩ := hp s hn hlists
    rw [Prog.run_bind_ok _ hrun]
    exact hf a m ha s' hm hlists'

/-- A pure computation that may raise, then the rest on its value. -/
theorem ofExcept_bind {x : Except PyErr α} {f : α → Code T β} {o : α → Option ℕ}
    (hf : ∀ a, EndsAt py tm revoked (f a) post' n (o a)) :
    EndsAt py tm revoked ((Prog.ofExcept x).bind f) post' n (x.toOption.bind o) := by
  cases x with
  | error e => exact throw
  | ok a => exact hf a

/-- A call that takes a reading, returns, and leaves the revocations alone. -/
theorem call_bind {c : Call T} {f : c.Ret → Code T β} {r : Option ℕ} (val : c.Ret → Prop)
    (hreads : c.reads = true) (hc : c ≠ .time .reconstructCell)
    (hwrites : c.writes .revoked = false)
    (hval : ∀ s : Ticking T, s.reading = n → ∃ a, (exec py c (s.ready tm)).1 = .ok a ∧ val a)
    (hf : ∀ a, val a → EndsAt py tm revoked (f a) post' (n + 1) r) :
    EndsAt py tm revoked ((call c).bind f) post' n r := by
  intro s hn hlists
  obtain ⟨a, ha, hvala⟩ := hval s hn
  have hrun : (call c).run (timed py tm) s =
      (.ok a, ⟨s.reading + 1, (exec py c (s.ready tm)).2⟩) := by
    rw [Prog.run_perform, timed_reads py tm s hreads hc, ha]
  rw [Prog.run_bind_ok _ hrun]
  refine hf a hvala _ (by rw [hn]) fun k hk jti => ?_
  show listedAt tm (exec py c (s.ready tm)).2.store.revokedTokens.rows jti k = _
  rw [exec_revoked py _ hwrites]
  exact hlists k (Nat.le_of_succ_le hk) jti

/-- Reading the clock for a verification. -/
theorem time_bind {f : T → Code T β} {r : Option ℕ}
    (hf : EndsAt py tm revoked (f (tm.now n)) post' (n + 1) r) :
    EndsAt py tm revoked ((call (.time .verify)).bind f) post' n r :=
  call_bind (fun t => t = tm.now n) rfl (by simp) rfl (fun s hn => ⟨_, rfl, hn ▸ rfl⟩)
    (fun _ ht => ht ▸ hf)

/-- Looking a token up drops expired rows only, which no later look-up finds. -/
theorem isTokenRevoked_bind {jti : String} {f : Bool → Code T β} {r r' : Option ℕ}
    (hyes : EndsAt py tm revoked (f true) post' (n + 1) r)
    (hno : EndsAt py tm revoked (f false) post' (n + 1) r') :
    EndsAt py tm revoked ((call (.isTokenRevoked jti)).bind f) post' n
      (if listedAt tm revoked jti n then r else r') := by
  intro s hn hlists
  obtain ⟨s₁, hs₁⟩ : ∃ s₁, s₁ = (timed py tm (.isTokenRevoked jti) s).2 := ⟨_, rfl⟩
  have hrows : s₁.world.store.revokedTokens =
      s.world.store.revokedTokens.delete fun r => decide (r.expiresAt < tm.now s.reading) := by
    rw [hs₁]
    rfl
  have hreading : s₁.reading = n + 1 := by
    rw [hs₁, ← hn]
    rfl
  have hrun : (call (.isTokenRevoked jti)).run (timed py tm) s =
      (.ok (listedAt tm revoked jti n), s₁) := by
    rw [Prog.run_perform, hs₁, ← hlists n (Nat.le_of_eq hn) jti]
    show ((Except.ok ((s.world.store.revokedTokens.delete fun r =>
      decide (r.expiresAt < tm.now s.reading)).find? jti).isSome : Except PyErr Bool), _) = _
    congr 2
    rw [Bool.eq_iff_iff, Data.Table.find?_isSome]
    simp only [listedAt, List.any_eq_true, Bool.and_eq_true, beq_iff_eq, decide_eq_true_eq]
    constructor
    · rintro ⟨row, hrow, hj⟩
      obtain ⟨hmem, hexp⟩ := Data.Table.mem_delete.mp hrow
      exact ⟨row, hmem, hj, hn ▸ not_lt.mp (of_decide_eq_false hexp)⟩
    · rintro ⟨row, hmem, hj, hexp⟩
      refine ⟨row, Data.Table.mem_delete.mpr ⟨hmem, decide_eq_false ?_⟩, hj⟩
      exact hn ▸ not_lt.mpr hexp
  rw [Prog.run_bind_ok _ hrun]
  have hlists₁ : Lists tm revoked s₁ := by
    intro k hk jti'
    have hle : s.reading ≤ k := by omega
    rw [← hlists k hle jti', hrows, Bool.eq_iff_iff]
    simp only [listedAt, List.any_eq_true, Bool.and_eq_true, beq_iff_eq, decide_eq_true_eq]
    constructor
    · rintro ⟨row, hrow, hj, hexp⟩
      exact ⟨row, (Data.Table.mem_delete.mp hrow).1, hj, hexp⟩
    · rintro ⟨row, hmem, hj, hexp⟩
      refine ⟨row, Data.Table.mem_delete.mpr ⟨hmem, decide_eq_false ?_⟩, hj, hexp⟩
      exact not_lt.mpr ((tm.now_mono hle).trans hexp)
  cases listedAt tm revoked jti n with
  | true => exact hyes s₁ hreading hlists₁
  | false => exact hno s₁ hreading hlists₁

end EndsAt

end Rules

section Handlers

variable [Field T] [LinearOrder T] [IsStrictOrderedRing T] [FloorRing T] (py : Py)
  (tm : Timing T) (revoked : List (RevokedRow T)) (n : ℕ)

theorem SessionJWT.endsAt_verify (jwt : SessionJWT) (token sid scope : String) :
    EndsAt py tm revoked (jwt.verify py token sid scope) (fun _ => True) n
      (jwt.verifyAt py tm revoked token sid scope n) := by
  refine .ofExcept_bind fun data => .time_bind (.ofExcept_bind fun _ => .ofExcept_bind fun jti => ?_)
  cases jti with
  | none => exact .pure trivial
  | some jti => exact .isTokenRevoked_bind .throw (.pure trivial)

namespace Sandboxd

variable (s : Sandboxd) (sid token name : String) (args : Json)

omit [IsStrictOrderedRing T] [FloorRing T] in
/-- Writing the audit log takes a reading. -/
theorem endsAt_audit {α : Type} {post : α → Prop} {f : Nat → Code T α} {r : Option ℕ}
    (actor action : String) (sessionId : Option String) (payload : Json)
    (hf : ∀ k, EndsAt py tm revoked (f k) post (n + 1) r) :
    EndsAt py tm revoked ((call (.audit actor action sessionId payload)).bind f) post n r :=
  .call_bind (fun _ => True) rfl (by simp) rfl (fun _ _ => ⟨_, rfl, trivial⟩)
    fun k _ => hf k

theorem endsAt_runTool :
    EndsAt py tm revoked (s.runTool py sid token name args) (fun _ => True) n
      (s.runToolAt py tm revoked sid token name args n) := by
  unfold runTool runToolAt
  split
  · exact .ofExcept_bind fun _ => .pure trivial
  split
  · exact .ofExcept_bind fun _ => .pure trivial
  split
  · refine .ofExcept_bind fun rel => ?_
    refine .call_bind (fun files => files = tm.files n) rfl (by simp) rfl
      (fun s hn => ⟨_, rfl, hn ▸ rfl⟩) fun files hfiles => ?_
    rw [hfiles]
    cases listFiles (tm.files n) s.root (rel.pyStr py) with
    | error e => exact .throw
    | ok result => exact .pure trivial
  split
  · refine .ofExcept_bind fun audience => ?_
    exact (s.jwt.endsAt_verify py tm revoked n token sid "tool").bind fun _ m _ =>
      endsAt_audit py tm revoked m _ _ _ _ fun _ => .pure trivial
  · exact .throw

theorem endsAt_executeTool :
    EndsAt py tm revoked (s.executeTool py sid token name args)
      (fun out => out.orEmpty.isObj = true) n
      (s.executeToolAt py tm revoked sid token name args n) := by
  refine (s.jwt.endsAt_verify py tm revoked n token sid "tool").bind fun _ m _ => ?_
  refine (s.endsAt_runTool py tm revoked m sid token name args.orEmpty).bind fun _ k _ => ?_
  exact endsAt_audit py tm revoked k _ _ _ _ fun _ => .pure rfl

end Sandboxd

/-- **Handling a command** raises exactly where `handleAt` says so, and gives
one event otherwise, with a dict that is not empty. -/
theorem Runtime.endsAt_handle (s : Sandboxd) (sid token commandType : String) (payload : Json) :
    EndsAt py tm revoked (Runtime.handle py s sid token commandType payload)
      (fun outs => ∃ eventType p, outs = [(eventType, p)] ∧ p.orEmpty.isObj = true) n
      (Runtime.handleAt py tm revoked s sid token commandType payload n) := by
  unfold handle handleAt
  split
  · exact .ofExcept_bind fun _ => .pure ⟨_, _, rfl, rfl⟩
  split
  · exact .ofExcept_bind fun _ => .pure ⟨_, _, rfl, rfl⟩
  split
  · refine .ofExcept_bind fun name => .ofExcept_bind fun args => ?_
    have htool := s.endsAt_executeTool py tm revoked n sid token (name.pyStr py) args.orEmpty
    rw [← Option.bind_fun_some (s.executeToolAt py tm revoked sid token (name.pyStr py)
      args.orEmpty n)]
    exact htool.bind fun out m hout => .pure ⟨_, _, rfl, hout⟩
  · exact .pure ⟨_, _, rfl, rfl⟩

end Handlers

/-! ## The loop -/

section Loop

variable [Field T] [LinearOrder T] [IsStrictOrderedRing T] [FloorRing T] (py : Py)
  (tm : Timing T) (revoked : List (RevokedRow T)) (c : Celld) (sid token : String)

omit [IsStrictOrderedRing T] [FloorRing T] in
/-- What the loop needs of an append. -/
theorem run_appendEvent_store (eventType : String) {payload : Json} {s : Ticking T}
    (hobj : payload.orEmpty.isObj = true) (hses : s.world.store.hasSession sid = true) :
    ∃ ev s', (c.appendEvent sid eventType payload).run (timed py tm) s = (.ok ev, s') ∧
      s'.reading = s.reading + 1 ∧
      s'.world.store.sessions = s.world.store.sessions ∧
      s'.world.store.commandInbox = s.world.store.commandInbox ∧
      s'.world.store.revokedTokens = s.world.store.revokedTokens := by
  obtain ⟨heap, hrun, -⟩ := run_appendEvent py tm c hses hobj
  exact ⟨_, _, hrun, rfl, rfl, rfl, rfl⟩

/-- Handling a command touches neither sessions nor the inbox. -/
theorem run_handle_store (s : Ticking T) (commandType : String) (payload : Json) :
    let s' := ((Runtime.handle py c.sandboxd sid token commandType payload :
      Code T (List (String × Json))).run (timed py tm) s).2
    s'.world.store.sessions = s.world.store.sessions ∧
      s'.world.store.commandInbox = s.world.store.commandInbox := by
  refine run_timed_store py tm s (I := fun w => w.store.sessions = s.world.store.sessions ∧
      w.store.commandInbox = s.world.store.commandInbox)
    (Runtime.handle_within py c.sandboxd sid token commandType payload) (fun _ _ _ h => h)
    (fun d w hd hw => ?_) ⟨rfl, rfl⟩
  have hsessions : d.writes .sessions = false := by cases d <;> first | rfl | cases hd
  have hinbox : d.writes .inbox = false := by cases d <;> first | rfl | cases hd
  rw [exec_sessions py w hsessions, exec_inbox py w hinbox]
  exact hw

/-- **One round of the loop.** It raises where the handler does, with the inbox as
it was, and otherwise completes the command and goes on with the rest. -/
theorem run_consumeLoop_cons (cmd : CommandRow T) (rest : List (CommandRow T)) (s : Ticking T)
    (hlists : Lists tm revoked s) (hses : s.world.store.hasSession sid = true) :
    match Runtime.handleAt py tm revoked c.sandboxd sid token cmd.commandType cmd.payload
        (s.reading + 1) with
    | none => ∃ e s', (c.consumeLoop py sid token (cmd :: rest)).run (timed py tm) s =
        (.error e, s') ∧ s'.world.store.commandInbox = s.world.store.commandInbox
    | some m => ∃ s' done, (c.consumeLoop py sid token (cmd :: rest)).run (timed py tm) s =
        ((c.consumeLoop py sid token rest).bind fun more => .pure (done ++ more)).run
          (timed py tm) s' ∧
        s'.reading = m + 2 ∧ Lists tm revoked s' ∧ s'.world.store.hasSession sid = true ∧
        ∃ t, s'.world.store.commandInbox = (s.world.store.completeCommand t cmd.id).commandInbox := by
  -- `command.received`
  obtain ⟨ev, s₁, hreceived, hn₁, hses₁, hin₁, hrev₁⟩ :=
    run_appendEvent_store py tm c sid "command.received"
      (show (Celld.received cmd).orEmpty.isObj = true from rfl) hses
  have hlists₁ : Lists tm revoked s₁ := by
    intro k hk jti
    rw [hrev₁]
    exact hlists k (by omega) jti
  obtain ⟨hses₂, hin₂⟩ := run_handle_store py tm c sid token s₁ cmd.commandType cmd.payload
  have hhandle := Runtime.endsAt_handle py tm revoked (s.reading + 1) c.sandboxd sid token
    cmd.commandType cmd.payload s₁ hn₁ hlists₁
  simp only [Celld.consumeLoop, Prog.bind_eq, Prog.pure_eq]
  rw [Prog.run_bind_ok _ hreceived]
  cases hat : Runtime.handleAt py tm revoked c.sandboxd sid token cmd.commandType cmd.payload
      (s.reading + 1) with
  | none =>
    rw [hat] at hhandle
    obtain ⟨e, s₂, hrun⟩ := hhandle
    rw [hrun] at hin₂
    exact ⟨e, s₂, Prog.run_bind_error _ hrun, hin₂.trans hin₁⟩
  | some m =>
    rw [hat] at hhandle
    obtain ⟨outs, s₂, hrun, ⟨eventType, p, rfl, hobj⟩, hn₂, hlists₂⟩ := hhandle
    rw [hrun] at hses₂ hin₂
    have hses₂' : s₂.world.store.hasSession sid = true := by
      unfold Store.hasSession
      rw [hses₂.trans hses₁]
      exact hses
    -- the event of the handler
    obtain ⟨ev', s₃, hout, hn₃, hses₃, hin₃, hrev₃⟩ :=
      run_appendEvent_store py tm c sid eventType hobj hses₂'
    have houts : (c.appendEvents sid [(eventType, p)]).run (timed py tm) s₂ = (.ok [ev'], s₃) :=
      Prog.run_bind_ok _ hout
    have hinbox : s₃.world.store.commandInbox = s.world.store.commandInbox :=
      hin₃.trans (hin₂.trans hin₁)
    -- the command is completed
    obtain ⟨s₄, hcomplete, hn₄, hstore₄⟩ : ∃ s₄,
        (call (.completeCommand cmd.id)).run (timed py tm) s₃ = (.ok (), s₄) ∧
          s₄.reading = s₃.reading + 1 ∧
          s₄.world.store = s₃.world.store.completeCommand (tm.now s₃.reading) cmd.id :=
      ⟨_, rfl, rfl, rfl⟩
    refine ⟨s₄, [ev'], ?_, by omega, ?_, ?_, tm.now s₃.reading, ?_⟩
    · rw [Prog.run_bind_ok _ hrun, Prog.run_bind_ok _ houts, Prog.run_bind_ok _ hcomplete]
    · intro k hk jti
      rw [hstore₄]
      show listedAt tm s₃.world.store.revokedTokens.rows jti k = _
      rw [hrev₃]
      exact hlists₂ k (by omega) jti
    · rw [hstore₄]
      show (s₃.world.store.sessions.find? sid).isSome = true
      rw [hses₃]
      exact hses₂'
    · rw [hstore₄]
      unfold Store.completeCommand
      rw [hinbox]

/-- **What a batch leaves behind.** The loop over a claimed batch completes the
commands before the first whose handler raises, and touches no others. -/
theorem run_consumeLoop (cmds : List (CommandRow T)) (s : Ticking T)
    (hlists : Lists tm revoked s) (hses : s.world.store.hasSession sid = true)
    (hnodup : (cmds.map CommandRow.id).Nodup)
    (hclaimed : ∀ cmd ∈ cmds, s.world.store.commandStatus cmd.id = some .claimed) (id : Nat) :
    ((c.consumeLoop py sid token cmds).run (timed py tm) s).2.world.store.commandStatus id =
      if id ∈ cmds.map CommandRow.id ∧
          id ∉ (Celld.fromFirstFailure py tm revoked c.sandboxd sid token cmds s.reading).map
            CommandRow.id
      then some .completed else s.world.store.commandStatus id := by
  induction cmds generalizing s with
  | nil => exact (if_neg fun h => nomatch h.1).symm
  | cons cmd rest ih =>
    rw [List.map_cons, List.nodup_cons] at hnodup
    have hround := run_consumeLoop_cons py tm revoked c sid token cmd rest s hlists hses
    unfold Celld.fromFirstFailure
    cases hat : Runtime.handleAt py tm revoked c.sandboxd sid token cmd.commandType cmd.payload
        (s.reading + 1) with
    | none =>
      -- the handler raises, and the whole batch stays as it is
      rw [hat] at hround
      obtain ⟨e, s', hrun, hinbox⟩ := hround
      rw [hrun, if_neg fun h => h.2 h.1]
      unfold Store.commandStatus
      rw [hinbox]
    | some m =>
      rw [hat] at hround
      obtain ⟨s', done, hrun, hn, hlists', hses', t, hinbox⟩ := hround
      have hstatus : ∀ id, s'.world.store.commandStatus id =
          if id = cmd.id then some .completed else s.world.store.commandStatus id := by
        intro id
        have hsame : s'.world.store.commandStatus id =
            (s.world.store.completeCommand t cmd.id).commandStatus id := by
          unfold Store.commandStatus
          rw [hinbox]
        rw [hsame, Store.commandStatus_completeCommand]
        by_cases hid : id = cmd.id
        · rw [if_pos hid, if_pos hid, hid, hclaimed cmd List.mem_cons_self]
          rfl
        · rw [if_neg hid, if_neg hid]
      have hclaimed' : ∀ cmd' ∈ rest, s'.world.store.commandStatus cmd'.id = some .claimed := by
        intro cmd' hcmd'
        have hne : cmd'.id ≠ cmd.id := fun heq => hnodup.1 (heq ▸ List.mem_map_of_mem hcmd')
        rw [hstatus, if_neg hne]
        exact hclaimed cmd' (List.mem_cons_of_mem _ hcmd')
      rw [hrun, Prog.run_bind_pure, ih s' hlists' hses' hnodup.2 hclaimed', hstatus id, hn]
      have hsub : cmd.id ∉ (Celld.fromFirstFailure py tm revoked c.sandboxd sid token rest
          (m + 2)).map CommandRow.id := fun h => hnodup.1
        (((Celld.fromFirstFailure_suffix py tm revoked _ _ _ _ _).map _).subset h)
      by_cases hid : id = cmd.id
      · subst hid
        rw [if_neg fun h => hnodup.1 h.1, if_pos rfl, if_pos ⟨List.mem_cons_self, hsub⟩]
      · rw [if_neg hid]
        simp [hid]

omit [IsStrictOrderedRing T] [FloorRing T] in
/-- **Claiming** takes a reading, and leaves sessions and revocations alone. -/
theorem run_claimPendingCommands (s : Ticking T) (hdrawn : s.world.ClaimsDrawn py) :
    ∃ s', (call (.claimPendingCommands sid c.hostId)).run (timed py tm) s =
        (.ok ((s.world.store.pendingOf sid).map (Store.claimRow (tm.now s.reading) c.hostId
          (s.world.fresh py .claimToken))), s') ∧
      s'.reading = s.reading + 1 ∧ Lists tm s.world.store.revokedTokens.rows s' ∧
      s'.world.store = (s.world.store.claimPendingCommands (tm.now s.reading)
        (s.world.fresh py .claimToken) sid c.hostId).2 := by
  have hready : (s.ready tm).ClaimsDrawn py := hdrawn
  refine ⟨(timed py tm (.claimPendingCommands sid c.hostId) s).2, ?_, rfl, fun k _ jti => rfl, ?_⟩
  · rw [Prog.run_perform, timed_reads py tm s rfl (by simp)]
    exact congrArg (·, _) (exec_claimPendingCommands py hready sid c.hostId)
  · rfl

/-- A claim changes nothing a handler depends on. -/
theorem fromFirstFailure_claimRow (t : T) (claimedBy claimToken : String)
    (cmds : List (CommandRow T)) (n : ℕ) :
    Celld.fromFirstFailure py tm revoked c.sandboxd sid token
        (cmds.map (Store.claimRow t claimedBy claimToken)) n =
      (Celld.fromFirstFailure py tm revoked c.sandboxd sid token cmds n).map
        (Store.claimRow t claimedBy claimToken) := by
  induction cmds generalizing n with
  | nil => rfl
  | cons cmd rest ih =>
    unfold Celld.fromFirstFailure
    rw [List.map_cons]
    show (match Runtime.handleAt py tm revoked c.sandboxd sid token cmd.commandType cmd.payload
      (n + 1) with
      | none => _
      | some m => _) = _
    cases Runtime.handleAt py tm revoked c.sandboxd sid token cmd.commandType cmd.payload
        (n + 1) with
    | none => rfl
    | some m => exact ih _

/-- Claiming what is pending and looping over it leaves claimed the commands
from the first failure on, and completes the others. -/
theorem run_claimed (s : Ticking T) (howned : s.world.store.Owned)
    (hdrawn : s.world.ClaimsDrawn py) {cmd : CommandRow T}
    (hcmd : cmd ∈ s.world.store.pendingOf sid) :
    (((call (.claimPendingCommands sid c.hostId)).bind fun cmds =>
      c.consumeLoop py sid token cmds).run (timed py tm) s).2.world.store.commandStatus cmd.id =
      if cmd.id ∈ (Celld.fromFirstFailure py tm s.world.store.revokedTokens.rows c.sandboxd sid
        token (s.world.store.pendingOf sid) (s.reading + 1)).map CommandRow.id
      then some .claimed else some .completed := by
  obtain ⟨hmem, hsid, -⟩ := Store.mem_pendingOf.mp hcmd
  obtain ⟨s₁, hclaim, hreading, hlists, hstore⟩ := run_claimPendingCommands py tm c sid s hdrawn
  generalize hmark : Store.claimRow (tm.now s.reading) c.hostId (s.world.fresh py .claimToken) =
    mark at hclaim
  have hids : ∀ cmds : List (CommandRow T), (cmds.map mark).map CommandRow.id = cmds.map CommandRow.id := by
    intro cmds
    rw [← hmark]
    exact List.map_map
  have hstatus : ∀ cmd ∈ s.world.store.pendingOf sid,
      s₁.world.store.commandStatus cmd.id = some .claimed := by
    intro cmd hcmd
    rw [hstore]
    exact Store.commandStatus_claimPendingCommands hcmd
  have hclaimed : ∀ cmd ∈ (s.world.store.pendingOf sid).map mark,
      s₁.world.store.commandStatus cmd.id = some .claimed := by
    intro cmd' hcmd'
    obtain ⟨cmd₀, hcmd₀, rfl⟩ := List.mem_map.mp hcmd'
    have hid : (mark cmd₀).id = cmd₀.id := by rw [← hmark]; rfl
    rw [hid]
    exact hstatus cmd₀ hcmd₀
  have hses : s₁.world.store.hasSession sid = true := by
    rw [hstore]
    exact hsid ▸ howned cmd hmem
  have hnodup : (((s.world.store.pendingOf sid).map mark).map CommandRow.id).Nodup := by
    rw [hids]
    have hordered : (s.world.store.pendingOf sid).Pairwise fun a b => a.id < b.id :=
      Data.Serial.select_ordered _ _
    exact List.pairwise_map.mpr (hordered.imp fun hlt => Nat.ne_of_lt hlt)
  -- the loop
  rw [Prog.run_bind_ok _ hclaim, run_consumeLoop py tm _ c sid token _ s₁ hlists hses hnodup
    hclaimed cmd.id, hstatus cmd hcmd, hids, hreading, ← hmark, fromFirstFailure_claimRow, hmark,
    hids]
  by_cases hfail : cmd.id ∈ (Celld.fromFirstFailure py tm s.world.store.revokedTokens.rows
      c.sandboxd sid token (s.world.store.pendingOf sid) (s.reading + 1)).map CommandRow.id
  · rw [if_neg fun h => h.2 hfail, if_pos hfail]
  · rw [if_pos ⟨List.mem_map_of_mem hcmd, hfail⟩, if_neg hfail]

/-- No command of the batch stays claimed if and only if no handler raises. -/
theorem run_claimed_iff (s : Ticking T) (howned : s.world.store.Owned)
    (hdrawn : s.world.ClaimsDrawn py) :
    (∀ cmd ∈ s.world.store.pendingOf sid,
      (((call (.claimPendingCommands sid c.hostId)).bind fun cmds =>
        c.consumeLoop py sid token cmds).run (timed py tm) s).2.world.store.commandStatus cmd.id ≠
        some .claimed) ↔
      Celld.fromFirstFailure py tm s.world.store.revokedTokens.rows c.sandboxd sid token
        (s.world.store.pendingOf sid) (s.reading + 1) = [] := by
  constructor
  · intro h
    by_contra hne
    obtain ⟨cmd, hcmd⟩ := List.exists_mem_of_ne_nil _ hne
    have hpending := (Celld.fromFirstFailure_suffix py tm _ _ _ _ _ _).subset hcmd
    refine h cmd hpending ?_
    rw [run_claimed py tm c sid token s howned hdrawn hpending,
      if_pos (List.mem_map_of_mem hcmd)]
  · intro hnil cmd hcmd
    rw [run_claimed py tm c sid token s howned hdrawn hcmd, hnil]
    simp

end Loop

/-! ## Any reachable state -/

section Reachable

variable [Field T] [LinearOrder T] [IsStrictOrderedRing T] [FloorRing T] (py : Py)

/-- No handler of the commands pending in a session raises, when they are
handled in turn, each at the readings of the clock and of the file system it
gets, with the token of the session's cell: the one the cell has, or the one it
is given when it is rebuilt. A log that cannot be replayed ends the call before
it claims anything. -/
def Celld.HandlersReturn (tm : Timing T) (c : Celld) (sid : String) (w : World T) : Prop :=
  match w.cells c.ref sid with
  | some cell =>
    fromFirstFailure py tm w.store.revokedTokens.rows c.sandboxd sid cell.jwt
      (w.store.pendingOf sid) 1 = []
  | none =>
    (∃ e, replay .initial (w.store.getEvents sid 0) = .error e) ∨
      fromFirstFailure py tm w.store.revokedTokens.rows c.sandboxd sid
        (c.rebuilt py tm sid ⟨0, w⟩).jwt (w.store.pendingOf sid) 1 = []

variable {α ι : Type} [DecidableEq ι] {programs : ι → Code T α} {clock : T} {files : Files}
  {cfg : Threads ι T α}

omit [IsStrictOrderedRing T] [FloorRing T] in
/-- In every state that any threads reach, commands belong to sessions and
claim tokens have been drawn. -/
theorem inbox_reach (hr : Reach (system ι py) (.start programs (.init clock files)) cfg) :
    cfg.point.state.store.Owned ∧ cfg.point.state.ClaimsDrawn py := by
  refine hr.point_invariant (P := fun p => p.state.store.Owned ∧ p.state.ClaimsDrawn py)
    ⟨fun _ h => (nomatch h), fun _ h => (nomatch h)⟩ ?_ ?_
  · rintro p i c ⟨howned, hdrawn⟩ -
    exact ⟨exec_owned py c howned, exec_claimsDrawn py c hdrawn⟩
  · rintro p _ h ⟨t, f, -, rfl⟩
    exact h

/-- **No command is stranded if and only if no handler raises.** In every state
that any threads reach, whatever the clock and the file system do during a call
of `consume_commands`: when it has returned or raised, no command that was
pending is left claimed, exactly if none of their handlers raises. -/
theorem batch_settles_iff
    (hr : Reach (system ι py) (.start programs (.init clock files)) cfg) (tm : Timing T)
    (c : Celld) (sid : String) :
    (∀ cmd ∈ cfg.point.state.store.pendingOf sid,
      ((c.consumeCommands py sid).run (timed py tm)
        ⟨0, cfg.point.state⟩).2.world.store.commandStatus cmd.id ≠ some .claimed) ↔
      c.HandlersReturn py tm sid cfg.point.state := by
  obtain ⟨howned, hdrawn⟩ := inbox_reach py hr
  generalize cfg.point.state = w at howned hdrawn
  unfold Celld.HandlersReturn Celld.consumeCommands
  simp only [Prog.bind_eq]
  obtain ⟨s', hn, hstore, hdrawn', hlive⟩ := run_liveCell_cases py tm c sid ⟨0, w⟩
  dsimp only at hn hstore hdrawn' hlive
  have hclaims : s'.world.ClaimsDrawn py := by
    unfold World.ClaimsDrawn
    rw [hstore, hdrawn']
    exact hdrawn
  have hiff := fun token => run_claimed_iff py tm c sid token s' (hstore ▸ howned) hclaims
  simp only [hstore, hn] at hiff
  cases hcell : w.cells c.ref sid with
  | some cell =>
    rw [hcell] at hlive
    rw [Prog.run_bind_ok _ hlive]
    exact hiff cell.jwt
  | none =>
    rw [hcell] at hlive
    cases hreplay : replay .initial (w.store.getEvents sid 0) with
    | error e =>
      rw [hreplay] at hlive
      rw [Prog.run_bind_error _ hlive]
      refine ⟨fun _ => .inl ⟨e, rfl⟩, fun _ cmd hcmd => ?_⟩
      obtain ⟨hmem, -, hpending⟩ := Store.mem_pendingOf.mp hcmd
      rw [hstore, Store.commandStatus_eq_some.mpr ⟨cmd, hmem, rfl, hpending⟩]
      decide
    | ok done =>
      rw [hreplay] at hlive
      rw [Prog.run_bind_ok _ hlive]
      exact (hiff _).trans ⟨.inr, fun h => h.resolve_left fun ⟨_, he⟩ => nomatch he⟩

end Reachable

/-! ## Two clients of one session -/

/-- Start a stack with one session, to which two clients then send a command
each. -/
def twoClients (commandType : String) (payload : Json) : Code ℚ Unit := do
  localStack []
  let created ← Gateway.createSession Py.sample "local" .null
  let _ ← call (.enqueueCommand created.sessionId commandType payload (some "alice"))
  let _ ← call (.enqueueCommand created.sessionId "echo" (.obj [("text", .str "hi")])
    (some "bob"))
  return ()

/-- The run of `twoClients` to its end. -/
def twoSent (commandType : String) (payload : Json) : Threads Unit ℚ Unit :=
  execute (exec Py.sample) (List.replicate 30 ())
    (.start (fun _ => twoClients commandType payload) (.init 0 Sample.files))

theorem twoSent_reach (commandType : String) (payload : Json) :
    Reach (system Unit Py.sample)
      (.start (fun _ => twoClients commandType payload) (.init 0 Sample.files))
      (twoSent commandType payload) :=
  reach_execute (fun _ _ _ => trivial) _ _

/-- A prompt and an echo are handled, and neither stays claimed. -/
theorem batch_settles_iff_sample :
    ((twoSent "model" (.obj [("prompt", .str "hello")])).point.state.store.pendingOf
      "s").length = 2 ∧
    ∀ cmd ∈ (twoSent "model" (.obj [("prompt", .str "hello")])).point.state.store.pendingOf "s",
      (((localCelld []).consumeCommands Py.sample "s").run
        (timed Py.sample (.still 0 Sample.files))
        ⟨0, (twoSent "model" (.obj [("prompt", .str "hello")])).point.state⟩
        ).2.world.store.commandStatus cmd.id ≠ some .claimed := by
  refine ⟨by decide +kernel, ?_⟩
  refine (batch_settles_iff Py.sample (twoSent_reach _ _) (.still 0 Sample.files)
    (localCelld []) "s").mpr ?_
  have hlive : ((twoSent "model" (.obj [("prompt", .str "hello")])).point.state.cells 0
      "s").isSome = true := by decide +kernel
  have hhandled : (Celld.fromFirstFailure Py.sample (.still 0 Sample.files)
      (twoSent "model" (.obj [("prompt", .str "hello")])).point.state.store.revokedTokens.rows
      (localCelld []).sandboxd "s"
      (((twoSent "model" (.obj [("prompt", .str "hello")])).point.state.cells 0 "s").map
        Cell.jwt |>.getD "")
      ((twoSent "model" (.obj [("prompt", .str "hello")])).point.state.store.pendingOf "s")
      1).isEmpty = true := by decide +kernel
  obtain ⟨cell, hcell⟩ := Option.isSome_iff_exists.mp hlive
  have hcell' : (twoSent "model" (.obj [("prompt", .str "hello")])).point.state.cells
      (localCelld []).ref "s" = some cell := hcell
  rw [hcell] at hhandled
  unfold Celld.HandlersReturn
  rw [hcell']
  exact List.isEmpty_iff.mp hhandled

/-- A command for a tool that does not exist raises under any token. -/
theorem handleAt_unknown_tool [Field T] [LinearOrder T] [IsStrictOrderedRing T] [FloorRing T]
    (py : Py) (tm : Timing T) (revoked : List (RevokedRow T)) (s : Sandboxd)
    (sid token : String) {payload : Json} {name : String}
    (hname : (payload.get "name" (.str "echo")).toOption.map (Json.pyStr py) = some name)
    (hunknown : name ∉ ["echo", "uppercase", "list_files", "credential"]) (n : ℕ) :
    Runtime.handleAt py tm revoked s sid token "tool" payload n = none := by
  have htool : ∀ args m, s.runToolAt py tm revoked sid token name args m = none := by
    intro args m
    simp only [List.mem_cons, List.not_mem_nil, or_false, not_or] at hunknown
    obtain ⟨hecho, hupper, hlist, hcredential⟩ := hunknown
    simp [Sandboxd.runToolAt, hecho, hupper, hlist, hcredential]
  obtain ⟨value, hvalue, rfl⟩ := Option.map_eq_some_iff.mp hname
  have hexec : ∀ args, s.executeToolAt py tm revoked sid token (value.pyStr py) args n = none := by
    intro args
    unfold Sandboxd.executeToolAt
    simp [htool]
  simp [Runtime.handleAt, hvalue, hexec]

/-- One client asks for a tool that does not exist. The call raises, and the
other client's echo is left claimed with it. -/
theorem failing_command_strands_others :
    let w := (twoSent "tool" (.obj [("name", .str "nope")])).point.state
    let done := ((localCelld []).consumeCommands Py.sample "s").run
      (timed Py.sample (.still 0 Sample.files)) ⟨0, w⟩
    (w.store.pendingOf "s").map (fun cmd => (cmd.commandType, cmd.actorResourceId)) =
        [("tool", some "alice"), ("echo", some "bob")] ∧
      ∀ cmd ∈ w.store.pendingOf "s", done.2.world.store.commandStatus cmd.id = some .claimed := by
  intro w done
  obtain ⟨howned, hdrawn⟩ := inbox_reach Py.sample
    (twoSent_reach "tool" (.obj [("name", .str "nope")]))
  have hlive : (w.cells 0 "s").isSome = true := by decide +kernel
  obtain ⟨cell, hcell⟩ := Option.isSome_iff_exists.mp hlive
  have hfound := run_liveCell_found Py.sample (.still 0 Sample.files) (localCelld []) "s"
    (s := ⟨0, w⟩) hcell
  -- the first command of the batch raises, so all of it is left
  have hhead : ((w.store.pendingOf "s").head?.map fun cmd => (cmd.commandType,
      (cmd.payload.get "name" (.str "echo")).toOption.map (Json.pyStr Py.sample))) =
      some ("tool", some "nope") := by decide +kernel
  have hall : ∀ token, Celld.fromFirstFailure Py.sample (.still 0 Sample.files)
      w.store.revokedTokens.rows (localCelld []).sandboxd "s" token (w.store.pendingOf "s") 1 =
      w.store.pendingOf "s" := by
    intro token
    cases hpending : w.store.pendingOf "s" with
    | nil => rfl
    | cons cmd rest =>
      rw [hpending] at hhead
      obtain ⟨htype, hname⟩ := Prod.mk.inj (Option.some.inj hhead)
      unfold Celld.fromFirstFailure
      rw [htype, handleAt_unknown_tool _ _ _ _ _ _ hname (by decide)]
  refine ⟨by decide +kernel, fun cmd hcmd => ?_⟩
  have hstatus := run_claimed Py.sample (.still 0 Sample.files) (localCelld []) "s" cell.jwt ⟨0, w⟩
    howned hdrawn hcmd
  rw [hall, if_pos (List.mem_map_of_mem hcmd)] at hstatus
  have hdone : done = _ := Prog.run_bind_ok _ hfound
  rw [hdone]
  exact hstatus

end Nadi
