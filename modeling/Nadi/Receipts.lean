import Nadi.Story

/-!
# The audit trail matches what was done

A tool that is executed leaves a row in the audit log, and so does a credential
that is exchanged. Both rows are written before the command's handler has
returned, and its `tool.result` is appended to the session's log by somebody else
afterwards. Yet between operations the two tables match, row by row
(`audit_matches`): nothing can fail between the first row that is written for a
tool and its event.
-/

namespace Nadi

open Effect

variable {T : Type}

/-! ## The audit log of a session -/

/-- The calls other than `Store.audit`. -/
def Call.unaudited : Call T → Prop
  | .audit .. => False
  | _ => True

/-- The calls that write audit rows, if any, for one session. -/
def Call.auditedFor (sid : String) : Call T → Prop
  | .audit _ _ sessionId _ => sessionId = some sid
  | _ => True

theorem Call.unaudited.for {c : Call T} (h : c.unaudited) (sid : String) : c.auditedFor sid := by
  cases c with
  | audit => exact h.elim
  | _ => trivial

/-- Who has done what, and with what. -/
structure Note where
  actor : String
  action : String
  payload : Json

/-- What an audit row says. -/
def AuditRow.note (row : AuditRow T) : Note := ⟨row.actor, row.action, row.payload⟩

/-- The audit trail of a session. -/
def Store.notes (st : Store T) (sid : String) : List Note := (st.auditEntries sid).map AuditRow.note

/-- `execute_tool` has run a tool. -/
def toolNote (name : String) : Note := ⟨"sandboxd", "execute_tool", .obj [("tool", .str name)]⟩

/-- `exchange` has given a credential. -/
def exchangeNote (audience : String) : Note :=
  ⟨"credentials-proxy", "exchange", .obj [("audience", .str audience)]⟩

theorem Store.notes_audit (st : Store T) (t : T) (actor action : String)
    (sessionId : Option String) (payload : Json) (sid : String) :
    (st.audit t actor action sessionId payload).2.notes sid =
      st.notes sid ++ if sessionId = some sid then [⟨actor, action, payload.orEmpty⟩] else [] := by
  unfold notes
  refine (congrArg (List.map AuditRow.note)
    (Data.Serial.select_push st.auditLog _ (fun _ => rfl) _)).trans ?_
  rw [List.map_append]
  by_cases hsid : sessionId = some sid <;> simp [hsid, auditEntries, AuditRow.note]

section Frames

variable [Field T] [LinearOrder T] (py : Py) (tm : Timing T) {s : Ticking T} {sid : String}

/-- No other call writes the audit log. -/
theorem exec_auditLog {c : Call T} (hc : c.unaudited) (w : World T) :
    (exec py c w).2.store.auditLog = w.store.auditLog := by
  cases c with
  | audit => exact hc.elim
  | createSession =>
    refine World.commit_store (w := w.draw .session)
      (P := fun st => st.auditLog = w.store.auditLog) rfl fun b st hr => ?_
    obtain ⟨-, _, -, rfl⟩ := Store.createSession_ok hr
    rfl
  | appendEvent =>
    refine World.commit_store (w := w) (P := fun st => st.auditLog = w.store.auditLog) rfl
      fun b st hr => ?_
    obtain ⟨-, -, rfl⟩ := Store.appendEvent_ok hr
    rfl
  | enqueueCommand =>
    refine World.commit_store (w := w) (P := fun st => st.auditLog = w.store.auditLog) rfl
      fun b st hr => ?_
    obtain ⟨-, -, -, -, rfl⟩ := Store.enqueueCommand_ok hr
    rfl
  | upsertCellHost =>
    refine World.commit_store (w := w.draw .cellHost)
      (P := fun st => st.auditLog = w.store.auditLog) rfl fun b st hr => ?_
    rcases Store.upsertCellHost_ok hr with ⟨_, _, _, _, rfl⟩ | ⟨_, _, _, _, rfl⟩ <;> rfl
  | upsertSandboxHost =>
    refine World.commit_store (w := w.draw .sandboxHost)
      (P := fun st => st.auditLog = w.store.auditLog) rfl fun b st hr => ?_
    obtain ⟨_, rfl⟩ := Store.upsertSandboxHost_ok hr
    rfl
  | createLease =>
    refine World.commit_store (w := w.draw .leaseToken)
      (P := fun st => st.auditLog = w.store.auditLog) rfl fun b st hr => ?_
    obtain ⟨-, -, -, rfl⟩ := Store.createLease_ok hr
    rfl
  | getOrCreateChannel =>
    refine World.commit_store (w := w.draw .channel)
      (P := fun st => st.auditLog = w.store.auditLog) rfl fun b st hr => ?_
    rcases Store.insertChannel_ok (Store.getOrCreateChannel_ok hr).1 with
      ⟨rfl, -⟩ | ⟨-, -, _, -, rfl⟩ <;> rfl
  | revokeToken jti expiresAt =>
    show (w.store.revokeToken w.clock jti expiresAt).auditLog = w.store.auditLog
    unfold Store.revokeToken
    cases w.store.revokedTokens.insert? ⟨jti, expiresAt, w.clock⟩ <;> rfl
  | apply cell eventType payload =>
    rcases exec_apply py w cell eventType payload with ⟨_, -, hx⟩ | ⟨_, -, hx⟩ <;> rw [hx]
  | _ => rfl

theorem exec_notes {c : Call T} (hc : c.unaudited) (w : World T) :
    (exec py c w).2.store.notes sid = w.store.notes sid := by
  unfold Store.notes Store.auditEntries
  rw [exec_auditLog py hc w]

/-- A program that audits other sessions leaves the trail of this one as it is. -/
theorem run_notes_other {α : Type} {post : α → Prop} {p : Code T α} {sid' : String}
    (hp : p.Within (Call.auditedFor sid') post) (hne : sid ≠ sid') :
    (p.run (timed py tm) s).2.world.store.notes sid = s.world.store.notes sid := by
  refine run_timed_store py tm s hp (I := fun w => w.store.notes sid = s.world.store.notes sid)
    (fun _ _ _ h => h) (fun c w hc h => ?_) rfl
  cases c with
  | audit actor action sessionId payload =>
    obtain rfl : sessionId = some sid' := hc
    refine (w.store.notes_audit w.clock actor action (some sid') payload sid).trans ?_
    rw [if_neg fun heq => hne (Option.some.inj heq).symm, List.append_nil]
    exact h
  | _ =>
    refine (exec_notes py ?_ w).trans h
    trivial

/-- A program that audits nothing leaves the audit log as it is. -/
theorem run_auditLog {α : Type} {post : α → Prop} {p : Code T α}
    (hp : p.Within Call.unaudited post) :
    (p.run (timed py tm) s).2.world.store.auditLog = s.world.store.auditLog := by
  refine run_timed_store py tm s hp (I := fun w => w.store.auditLog = s.world.store.auditLog)
    (fun _ _ _ h => h) (fun c w hc h => (exec_auditLog py hc w).trans h) rfl

theorem run_unaudited (sid : String) {α : Type} {post : α → Prop} {p : Code T α}
    (hp : p.Within Call.unaudited post) :
    (p.run (timed py tm) s).2.world.store.notes sid = s.world.store.notes sid := by
  unfold Store.notes Store.auditEntries
  rw [run_auditLog py tm hp]

/-- An audit row is written, whatever happens. -/
theorem run_audit (sid actor action : String) (payload : Json) :
    ∃ n s', (call (.audit actor action (some sid) payload)).run (timed py tm) s = (.ok n, s') ∧
      s'.world.store.notes sid =
        s.world.store.notes sid ++ [⟨actor, action, payload.orEmpty⟩] := by
  refine ⟨_, _, rfl, ?_⟩
  have hnotes := s.world.store.notes_audit (tm.now s.reading) actor action (some sid) payload sid
  rw [if_pos rfl] at hnotes
  exact hnotes

end Frames

/-! ## Handlers -/

/-- What `execute_tool` returns. -/
def toolResult (name : String) (result : Json) : Json :=
  .obj [("result", result), ("tool", .str name)]

/-- What an event of a handler leaves in the audit trail. -/
inductive Receipt (sid : String) : String × Json → List Note → Prop
  | none {eventType : String} {out : Json} (h : eventType ≠ "tool.result") :
    Receipt sid (eventType, out) []
  | tool {name : String} {result : Json} (h : name ≠ "credential") :
    Receipt sid ("tool.result", toolResult name result) [toolNote name]
  | credential {audience : String} :
    Receipt sid ("tool.result", toolResult "credential" (Sandboxd.fakeCredential sid audience))
      [exchangeNote audience, toolNote "credential"]

section Handlers

variable [Field T] [LinearOrder T] [IsStrictOrderedRing T] [FloorRing T] (py : Py)
  (tm : Timing T) {s : Ticking T} (sandbox : Sandboxd) (sid token : String)

theorem verify_unaudited (jwt : SessionJWT) (scope : String) :
    (jwt.verify py token sid scope : Code T Json).Within Call.unaudited fun _ => True := by
  refine (jwt.verify_within py token sid scope).mono_calls fun d hd => ?_
  cases d <;> first | exact hd.elim | trivial

/-- **A credential** is given with its row, or neither. -/
theorem run_exchange (audience : String) :
    match (sandbox.exchange py sid token audience).run (timed py tm) s with
    | (.error _, s') => s'.world.store.notes sid = s.world.store.notes sid
    | (.ok credential, s') => credential = Sandboxd.fakeCredential sid audience ∧
      s'.world.store.notes sid = s.world.store.notes sid ++ [exchangeNote audience] := by
  have hverify := run_unaudited py tm (s := s) sid
    (verify_unaudited py sid token sandbox.jwt "tool")
  unfold Sandboxd.exchange
  simp only [Prog.bind_eq]
  rcases hrun : (sandbox.jwt.verify py token sid "tool").run (timed py tm) s with ⟨e | data, s₁⟩
  · rw [hrun] at hverify
    rw [Prog.run_bind_error _ hrun]
    exact hverify
  · rw [hrun] at hverify
    obtain ⟨n, s₂, haudit, hnotes⟩ := run_audit py tm (s := s₁) sid "credentials-proxy"
      "exchange" (.obj [("audience", .str audience)])
    rw [Prog.run_bind_ok _ hrun, Prog.run_bind_ok _ haudit]
    exact ⟨rfl, hnotes.trans (congrArg (· ++ _) hverify)⟩

/-- A tool leaves a row of its own only if it is `credential`. -/
theorem run_runTool (name : String) (args : Json) :
    match (sandbox.runTool py sid token name args).run (timed py tm) s with
    | (.error _, s') => s'.world.store.notes sid = s.world.store.notes sid
    | (.ok result, s') => (name ≠ "credential" ∧
        s'.world.store.notes sid = s.world.store.notes sid) ∨
      (name = "credential" ∧ ∃ audience, result = Sandboxd.fakeCredential sid audience ∧
        s'.world.store.notes sid = s.world.store.notes sid ++ [exchangeNote audience]) := by
  -- every other tool writes nothing
  have hother : name ≠ "credential" →
      (sandbox.runTool py sid token name args : Code T Json).Within Call.unaudited
        fun _ => True :=
    fun hname => sandbox.runTool_calls py trivial (fun h => absurd h hname) args
  by_cases hname : name = "credential"
  · subst hname
    have hdispatch : (sandbox.runTool py sid token "credential" args : Code T Json) =
        (Prog.ofExcept (args.get "audience" (.str "tool"))).bind fun audience =>
          sandbox.exchange py sid token (audience.pyStr py) := rfl
    rw [hdispatch]
    cases args.get "audience" (.str "tool") with
    | error e => exact rfl
    | ok audience =>
      have hexchange := run_exchange py tm (s := s) sandbox sid token (audience.pyStr py)
      show match (sandbox.exchange py sid token (audience.pyStr py)).run (timed py tm) s with
        | (.error _, s') => _
        | (.ok result, s') => _
      rcases hrun : (sandbox.exchange py sid token (audience.pyStr py)).run (timed py tm) s
        with ⟨e | credential, s'⟩
      · rw [hrun] at hexchange
        exact hexchange
      · rw [hrun] at hexchange
        exact .inr ⟨rfl, _, hexchange⟩
  · have hnotes := run_unaudited py tm (s := s) sid (hother hname)
    rcases hrun : (sandbox.runTool py sid token name args).run (timed py tm) s with ⟨e | result, s'⟩
    · rw [hrun] at hnotes
      exact hnotes
    · rw [hrun] at hnotes
      exact .inl ⟨hname, hnotes⟩

/-- **Executing a tool** leaves its rows, or raises and leaves none. -/
theorem run_executeTool (name : String) (args : Json) :
    match (sandbox.executeTool py sid token name args).run (timed py tm) s with
    | (.error _, s') => s'.world.store.notes sid = s.world.store.notes sid
    | (.ok out, s') => ∃ notes, Receipt sid ("tool.result", out) notes ∧
      s'.world.store.notes sid = s.world.store.notes sid ++ notes := by
  have hverify := run_unaudited py tm (s := s) sid
    (verify_unaudited py sid token sandbox.jwt "tool")
  unfold Sandboxd.executeTool
  simp only [Prog.bind_eq]
  rcases hrun : (sandbox.jwt.verify py token sid "tool").run (timed py tm) s with ⟨e | data, s₁⟩
  · rw [hrun] at hverify
    rw [Prog.run_bind_error _ hrun]
    exact hverify
  rw [hrun] at hverify
  rw [Prog.run_bind_ok _ hrun]
  have htool := run_runTool py tm (s := s₁) sandbox sid token name args.orEmpty
  rcases hrun₁ : (sandbox.runTool py sid token name args.orEmpty).run (timed py tm) s₁
    with ⟨e | result, s₂⟩
  · rw [hrun₁] at htool
    rw [Prog.run_bind_error _ hrun₁]
    exact htool.trans hverify
  rw [hrun₁] at htool
  obtain ⟨n, s₃, haudit, hnotes⟩ := run_audit py tm (s := s₂) sid "sandboxd"
    "execute_tool" (.obj [("tool", .str name)])
  rw [Prog.run_bind_ok _ hrun₁, Prog.run_bind_ok _ haudit]
  rcases htool with ⟨hname, hsame⟩ | ⟨rfl, audience, rfl, hexchanged⟩
  · exact ⟨_, .tool hname, by rw [hnotes, hsame, hverify]; rfl⟩
  · exact ⟨_, .credential, by rw [hnotes, hexchanged, hverify, List.append_assoc]; rfl⟩

/-- **Handling a command** leaves the rows of its event, or raises and leaves none. -/
theorem run_handle_receipt (commandType : String) (payload : Json) :
    match (Runtime.handle py sandbox sid token commandType payload).run (timed py tm) s with
    | (.error _, s') => s'.world.store.notes sid = s.world.store.notes sid
    | (.ok outs, s') => ∃ o notes, outs = [o] ∧ Receipt sid o notes ∧
      s'.world.store.notes sid = s.world.store.notes sid ++ notes := by
  by_cases htool : commandType = "tool"
  · subst htool
    have hdispatch : (Runtime.handle py sandbox sid token "tool" payload : Code T _) =
        (Prog.ofExcept (payload.get "name" (.str "echo"))).bind fun name =>
          (Prog.ofExcept (payload.get "args" .null)).bind fun args =>
            (sandbox.executeTool py sid token (name.pyStr py) args.orEmpty).bind fun out =>
              .pure [("tool.result", out)] := rfl
    rw [hdispatch]
    cases payload.get "name" (.str "echo") with
    | error e => exact rfl
    | ok name =>
      cases payload.get "args" .null with
      | error e => exact rfl
      | ok args =>
        simp only [Prog.ofExcept_ok, Prog.pure_bind]
        have hexecute := run_executeTool py tm (s := s) sandbox sid token (name.pyStr py)
          args.orEmpty
        rcases hrun : (sandbox.executeTool py sid token (name.pyStr py) args.orEmpty).run
          (timed py tm) s with ⟨e | out, s'⟩
        · rw [hrun] at hexecute
          rw [Prog.run_bind_error _ hrun]
          exact hexecute
        · rw [hrun] at hexecute
          rw [Prog.run_bind_ok _ hrun]
          obtain ⟨notes, hreceipt, hnotes⟩ := hexecute
          exact ⟨_, notes, rfl, hreceipt, hnotes⟩
  · -- nothing else is audited
    have hother : (Runtime.handle py sandbox sid token commandType payload : Code T _).Within
        Call.unaudited fun outs => ∃ eventType out, outs = [(eventType, out)] ∧
          eventType ≠ "tool.result" := by
      unfold Runtime.handle
      split
      · exact .bind (.ofExcept fun _ _ => trivial) fun _ _ => ⟨_, _, rfl, by decide⟩
      split
      · exact .bind (.ofExcept fun _ _ => trivial) fun _ _ => ⟨_, _, rfl, by decide⟩
      · exact ⟨_, _, rfl, by decide⟩
    have hnotes := run_unaudited py tm (s := s) sid hother
    rcases hrun : (Runtime.handle py sandbox sid token commandType payload).run (timed py tm) s
      with ⟨e | outs, s'⟩
    · rw [hrun] at hnotes
      exact hnotes
    · rw [hrun] at hnotes
      obtain ⟨eventType, out, rfl, hne⟩ := hother.returned (congrArg Prod.fst hrun)
      exact ⟨_, [], rfl, .none hne, hnotes.trans (List.append_nil _).symm⟩

end Handlers

/-! ## Attempts -/

/-- What an attempt leaves in the audit trail. -/
def Attempt.Receipted (sid : String) (attempt : Attempt) (notes : List Note) : Prop :=
  match attempt.outcome with
  | .handled outs => ∃ o, outs = [o] ∧ Receipt sid o notes
  | _ => notes = []

/-- The audit trail of a session is what its attempts have left there. -/
def Trailed (sid : String) (attempts : List Attempt) (st : Store T) : Prop :=
  ∃ notess, st.notes sid = notess.flatten ∧
    List.Forall₂ (Attempt.Receipted sid) attempts notess

namespace Trailed

variable {sid : String} {attempts more : List Attempt} {st st' : Store T}

/-- The trail stays as it is. -/
theorem congr (h : Trailed sid attempts st) (hnotes : st'.notes sid = st.notes sid) :
    Trailed sid attempts st' := by
  obtain ⟨notess, hflat, hrest⟩ := h
  exact ⟨notess, hnotes.trans hflat, hrest⟩

/-- One more attempt leaves its rows. -/
theorem append (h : Trailed sid attempts st) {attempt : Attempt} {notes : List Note}
    (hnotes : st'.notes sid = st.notes sid ++ notes) (hreceipt : attempt.Receipted sid notes) :
    Trailed sid (attempts ++ [attempt]) st' := by
  obtain ⟨notess, hflat, hrest⟩ := h
  refine ⟨notess ++ [notes], ?_, List.rel_append hrest (.cons hreceipt .nil)⟩
  rw [hnotes, hflat]
  simp

/-- Commands that are never reached leave none. -/
theorem abandon (h : Trailed sid attempts st) (left : List Asked) :
    Trailed sid (attempts ++ left.map fun asked => ⟨asked, .unreached⟩) st := by
  induction left generalizing attempts with
  | nil =>
    rw [List.map_nil, List.append_nil]
    exact h
  | cons asked left ih =>
    rw [List.map_cons, List.append_cons]
    exact ih (h.append (List.append_nil _).symm rfl)

end Trailed

section Runs

variable [Field T] [LinearOrder T] [IsStrictOrderedRing T] [FloorRing T] (py : Py)
  (tm : Timing T) {s : Ticking T} {sid : String} {attempts : List Attempt}

omit [IsStrictOrderedRing T] [FloorRing T] in
theorem Trailed.unaudited {α : Type} {post : α → Prop} {p : Code T α}
    (hp : p.Within Call.unaudited post) (h : Trailed sid attempts s.world.store) :
    Trailed sid attempts (p.run (timed py tm) s).2.world.store :=
  h.congr (run_unaudited py tm sid hp)

omit [Field T] [LinearOrder T] [IsStrictOrderedRing T] [FloorRing T] in
theorem appendEvent_unaudited (c : Celld) (sid eventType : String) (payload : Json) :
    (c.appendEvent sid eventType payload : Code T Event).Within Call.unaudited fun _ => True := by
  refine (c.appendEvent_within sid eventType payload).mono_calls fun d hd => ?_
  cases d <;> trivial

/-- **The loop** leaves the rows of what it tries. -/
theorem Trailed.loop (c : Celld) (token : String) (cmds : List (CommandRow T))
    (hses : s.world.store.hasSession sid = true) (h : Trailed sid attempts s.world.store) :
    Trailed sid (attempts ++ c.attempts py tm sid token cmds s)
      ((c.consumeLoop py sid token cmds).run (timed py tm) s).2.world.store := by
  refine (Celld.loop_rule (I := fun attempts _ s => s.world.store.hasSession sid = true ∧
      Trailed sid attempts s.world.store)
    (M := fun attempts _ _ s => s.world.store.hasSession sid = true ∧
      Trailed sid attempts s.world.store) ?_ ?_ ?_ ⟨hses, h⟩).2
  · rintro attempts cmd rest s ⟨hses, h⟩
    obtain ⟨ev, s', row, hrun, -, -, -, -, hses'⟩ := run_appendEvent_row py tm c
      "command.received" hses (show (Celld.received cmd).orEmpty.isObj = true from rfl)
    have h' := h.unaudited py tm (appendEvent_unaudited c sid "command.received" (Celld.received cmd))
    rw [hrun] at h'
    exact ⟨ev, s', hrun, hses', h'⟩
  · rintro attempts cmd rest s e s' ⟨hses, h⟩ hrun
    have hses' := run_hasSession py tm (Runtime.handle py c.sandboxd sid token cmd.commandType
      cmd.payload) hses
    have hreceipt := run_handle_receipt py tm (s := s) c.sandboxd sid token cmd.commandType
      cmd.payload
    rw [hrun] at hses' hreceipt
    have hraised : Trailed sid (attempts ++ [⟨cmd.asked, .raised e⟩]) s'.world.store :=
      h.append (hreceipt.trans (List.append_nil _).symm) rfl
    have hrest := hraised.abandon (rest.map CommandRow.asked)
    rw [List.map_map, ← List.append_cons] at hrest
    exact ⟨hses', hrest⟩
  · rintro attempts cmd rest s outs s' ⟨hses, h⟩ hrun
    have hses' := run_hasSession py tm (Runtime.handle py c.sandboxd sid token cmd.commandType
      cmd.payload) hses
    have hreceipt := run_handle_receipt py tm (s := s) c.sandboxd sid token cmd.commandType
      cmd.payload
    rw [hrun] at hses' hreceipt
    obtain ⟨⟨eventType, out⟩, hsingle, -, hobj⟩ := (Runtime.handle_single py c.sandboxd sid token
      cmd.commandType cmd.payload).returned (congrArg Prod.fst hrun)
    obtain ⟨o, notes, houts, hreceipt, hnotes⟩ := hreceipt
    have h' : Trailed sid (attempts ++ [⟨cmd.asked, .handled outs⟩]) s'.world.store :=
      h.append hnotes ⟨o, houts, hreceipt⟩
    -- the event of the handler, and the completion
    obtain ⟨ev, s₁, row, hrun₁, -, -, -, -, hses₁⟩ := run_appendEvent_row py tm c eventType hses'
      (Json.orEmpty_isObj hobj)
    have h₁ := h'.unaudited py tm (appendEvent_unaudited c sid eventType out)
    rw [hrun₁] at h₁
    have hcomplete : (call (.completeCommand cmd.id) : Code T Unit).Within Call.unaudited
        fun _ => True := .perform trivial fun _ => trivial
    rw [hsingle]
    refine ⟨[ev], s₁, (timed py tm (.completeCommand cmd.id) s₁).2, Prog.run_bind_ok _ hrun₁,
      Prog.run_perform _ _ _, hses₁, ?_⟩
    rw [← hsingle]
    have h₂ := h₁.unaudited py tm hcomplete
    rw [Prog.run_perform] at h₂
    exact h₂

/-- **Sending a command** leaves the rows of what it tries. -/
theorem Trailed.send (send : Send) (h : Trailed sid attempts s.world.store) :
    Trailed sid (attempts ++ send.batch py tm sid s)
      ((send.code py sid).run (timed py tm) s).2.world.store := by
  have hrouting : ∀ c : Call T, c.ofRouting sid → c.unaudited := by
    intro c hc
    cases c <;> trivial
  have hdeliver : (send.deliver sid : Code T (ℕ × Celld)).Within Call.unaudited fun _ => True := by
    refine .bind ((Gateway.route_within sid).mono_calls hrouting) fun _ _ => ?_
    refine .bind (.perform trivial fun _ => trivial) fun _ _ => ?_
    exact .bind ((Broker.celldForRoute_within sid).mono_calls hrouting) fun _ _ => trivial
  have hlive : ∀ c : Celld, (c.liveCell py sid : Code T Cell).Within Call.unaudited
      fun _ => True := by
    refine fun c => (c.liveCell_within py sid).mono_calls fun d hd => ?_
    cases d <;> trivial
  have hclaim : ∀ c : Celld, (call (.claimPendingCommands sid c.hostId) : Code T _).Within
      Call.unaudited fun _ => True := fun c => .perform trivial fun _ => trivial
  have h₁ := h.unaudited py tm hdeliver
  rw [Send.code_eq]
  unfold Send.batch
  rcases hrun : (send.deliver sid).run (timed py tm) s with ⟨e | ⟨n, celld⟩, s₁⟩
  · rw [hrun] at h₁
    rw [tellAfter_error hrun, Prog.run_bind_error _ hrun, List.append_nil]
    exact h₁
  have hses := run_deliver_hasSession py tm send hrun
  rw [hrun] at h₁
  rw [tellAfter_ok hrun, Prog.run_bind_ok _ hrun, Prog.run_bind_pure]
  -- `consume_commands`
  have h₂ := h₁.unaudited py tm (hlive celld)
  have hses₂ := run_hasSession py tm (celld.liveCell py sid) hses
  unfold Celld.batch Celld.consumeCommands
  simp only [Prog.bind_eq]
  rcases hrun₂ : (celld.liveCell py sid).run (timed py tm) s₁ with ⟨e | cell, s₂⟩
  · rw [hrun₂] at h₂
    rw [tellAfter_error hrun₂, Prog.run_bind_error _ hrun₂, List.append_nil]
    exact h₂
  rw [hrun₂] at h₂ hses₂
  rw [tellAfter_ok hrun₂, Prog.run_bind_ok _ hrun₂]
  have h₃ := h₂.unaudited py tm (hclaim celld)
  have hses₃ := run_hasSession py tm (call (.claimPendingCommands sid celld.hostId)) hses₂
  rcases hrun₃ : (call (.claimPendingCommands sid celld.hostId)).run (timed py tm) s₂
    with ⟨e | cmds, s₃⟩
  · rw [hrun₃] at h₃
    rw [tellAfter_error hrun₃, Prog.run_bind_error _ hrun₃, List.append_nil]
    exact h₃
  · rw [hrun₃] at h₃ hses₃
    rw [tellAfter_ok hrun₃, Prog.run_bind_ok _ hrun₃]
    exact h₃.loop py tm celld cell.jwt cmds hses₃

end Runs

/-! ## Jobs -/

section Within

variable [Field T] [LinearOrder T] [IsStrictOrderedRing T] [FloorRing T] (py : Py)
  (sandbox : Sandboxd) (sid token : String)

theorem handle_auditedFor (commandType : String) (payload : Json) :
    (Runtime.handle py sandbox sid token commandType payload :
      Code T (List (String × Json))).Within (Call.auditedFor sid) fun _ => True := by
  refine (Runtime.handle_ofTool py sandbox sid token commandType payload).mono (fun d hd => ?_)
    fun _ _ => trivial
  cases d <;> first | exact hd | trivial

/-- **Consuming the commands of a session** audits that session only. -/
theorem consumeCommands_auditedFor (c : Celld) :
    (c.consumeCommands py sid : Code T (List Event)).Within (Call.auditedFor sid)
      fun _ => True := by
  have happend : ∀ eventType payload, (c.appendEvent sid eventType payload : Code T Event).Within
      (Call.auditedFor sid) fun _ => True :=
    fun _ _ => (appendEvent_unaudited c sid _ _).mono_calls fun _ h => h.for sid
  have happends : ∀ outs, (c.appendEvents sid outs : Code T (List Event)).Within
      (Call.auditedFor sid) fun _ => True := by
    intro outs
    induction outs with
    | nil => trivial
    | cons out rest ih => exact .bind (happend _ _) fun _ _ => .bind ih fun _ _ => trivial
  have hlive : (c.liveCell py sid : Code T Cell).Within (Call.auditedFor sid) fun _ => True := by
    refine (c.liveCell_within py sid).mono_calls fun d hd => ?_
    cases d <;> trivial
  refine .bind hlive fun cell _ => .bind (.perform trivial fun _ => trivial) fun commands _ => ?_
  induction commands with
  | nil => trivial
  | cons cmd rest ih =>
    refine .bind (happend _ _) fun _ _ => ?_
    refine .bind (handle_auditedFor py c.sandboxd sid cell.jwt _ _) fun outs _ => ?_
    refine .bind (happends outs) fun _ _ => ?_
    exact .bind (.perform trivial fun _ => trivial) fun _ _ => .bind ih fun _ _ => trivial

theorem sendCommand_auditedFor (commandType : String) (payload : Json) (actor : Option String) :
    (Gateway.sendCommand py sid commandType payload actor : Code T Sent).Within
      (Call.auditedFor sid) fun _ => True := by
  have hrouting : ∀ c : Call T, c.ofRouting sid → c.auditedFor sid := by
    intro c hc
    cases c <;> trivial
  refine .bind ((Gateway.route_within sid).mono_calls hrouting) fun _ _ => ?_
  refine .bind (.perform trivial fun _ => trivial) fun _ _ => ?_
  refine .bind ((Broker.celldForRoute_within sid).mono_calls hrouting) fun celld _ => ?_
  exact .bind (consumeCommands_auditedFor py sid celld) fun _ _ => trivial

theorem placeSession_unaudited :
    (Broker.placeSession py sid : Code T Placement).Within Call.unaudited fun _ => True := by
  refine (Broker.placeSession_within py sid).mono_calls fun d hd => ?_
  cases d with
  | audit => exact hd.elim fun _ h => h
  | _ => trivial

theorem guarded_unaudited (request : ChannelRequest) (resourceId : String) :
    (request.guarded py resourceId sid : Code T ChannelSession).Within Call.unaudited
      fun _ => True := by
  refine .tryCatch ?_ fun e => .bind (.perform trivial fun _ => trivial) fun _ _ => trivial
  refine .bind (placeSession_unaudited py sid) fun _ _ => ?_
  refine .bind (.perform trivial fun _ => trivial) fun found _ => ?_
  obtain ⟨actualSid, cid, created⟩ := found
  dsimp only
  split
  · trivial
  · exact .bind (.perform trivial fun _ => trivial) fun _ _ => trivial

end Within

section Jobs

variable [Field T] [LinearOrder T] [IsStrictOrderedRing T] [FloorRing T] (py : Py)
  (tm : Timing T) {s : Ticking T} {sid : String} {attempts : List Attempt}

omit [IsStrictOrderedRing T] [FloorRing T] in
/-- A job that audits nothing. -/
theorem Trailed.nothing {α : Type} {post : α → Prop} {p : Code T α}
    (hp : p.Within Call.unaudited post) (h : Trailed sid attempts s.world.store) :
    Trailed sid (attempts ++ []) (p.run (timed py tm) s).2.world.store := by
  rw [List.append_nil]
  exact h.unaudited py tm hp

/-- **Every job** leaves the rows of what it tries. -/
theorem Trailed.job (job : Job) (h : Trailed sid attempts s.world.store) :
    Trailed sid (attempts ++ job.batch py tm sid s) (job.serve py tm s).world.store := by
  cases job with
  | client request =>
    simp only [Job.serve, Job.code, Prog.bind_eq, Prog.pure_eq, Prog.run_bind_pure]
    cases request with
    | createSession tenantId metadata =>
      simp only [Request.code, Prog.bind_eq, Prog.pure_eq, Prog.run_bind_pure]
      have hcreate : (Gateway.createSession py tenantId metadata : Code T Created).Within
          Call.unaudited fun _ => True :=
        .bind (.perform trivial fun _ => trivial) fun sid _ =>
          .bind (placeSession_unaudited py sid) fun _ _ => trivial
      exact h.nothing py tm hcreate
    | sendCommand sessionId commandType payload actor =>
      simp only [Request.code, Prog.bind_eq, Prog.pure_eq, Prog.run_bind_pure]
      -- the one job that tries commands
      show Trailed sid (attempts ++ if sessionId = sid then _ else []) _
      by_cases hsid : sessionId = sid
      · subst hsid
        rw [if_pos rfl]
        exact h.send py tm ⟨commandType, payload, actor⟩
      · rw [if_neg hsid, List.append_nil]
        exact h.congr (run_notes_other py tm
          (sendCommand_auditedFor py sessionId commandType payload actor) (Ne.symm hsid))
    | enqueueCommand sessionId commandType payload actor =>
      simp only [Request.code, Prog.bind_eq, Prog.pure_eq, Prog.run_bind_pure]
      have henqueue : (call (.enqueueCommand sessionId commandType payload actor) :
          Code T _).Within Call.unaudited fun _ => True := .perform trivial fun _ => trivial
      exact h.nothing py tm henqueue
    | getSessionEvents sessionId after =>
      simp only [Request.code, Prog.bind_eq, Prog.pure_eq, Prog.run_bind_pure]
      have hread : (Gateway.getSessionEvents sessionId after : Code T _).Within Call.unaudited
          fun _ => True := by
        refine Gateway.getSessionEvents_calls (fun d hd => ?_) trivial
        cases d <;> trivial
      exact h.nothing py tm hread
  | channelSession request =>
    simp only [Job.serve, Job.code, Prog.bind_eq, Prog.pure_eq, Prog.run_bind_pure]
    have hcall : (request.run py : Code T ChannelSession).Within Call.unaudited fun _ => True := by
      refine .bind ((Gateway.resourceId_within _ _).mono_calls fun d hd => ?_) fun id _ => ?_
      · rw [hd]
        trivial
      · exact .bind (.perform trivial fun _ => trivial) fun sid _ =>
          guarded_unaudited py sid request id
    exact h.nothing py tm hcall
  | destroyCell celld sessionId =>
    refine h.nothing py tm ((celld.destroyCell_within py sessionId).mono_calls fun d hd => ?_)
    cases d <;> trivial
  | reconstructCell celld sessionId =>
    simp only [Job.serve, Job.code, Prog.bind_eq, Prog.pure_eq, Prog.run_bind_pure]
    refine h.nothing py tm ((celld.reconstructCell_within py sessionId).mono_calls fun d hd => ?_)
    cases d <;> trivial
  | loseCell celld sessionId =>
    simp only [Job.serve, Job.code, Prog.bind_eq, Prog.pure_eq, Prog.run_bind_pure]
    have hpop : (call (.cellsPop celld.ref sessionId) : Code T _).Within Call.unaudited
        fun _ => True := .perform trivial fun _ => trivial
    exact h.nothing py tm hpop

/-- **Whole runs**, by induction on the jobs: the trail is that of the history. -/
theorem Trailed.jobs (jobs : List Job) (h : Trailed sid attempts s.world.store) :
    Trailed sid (attempts ++ (history py tm sid jobs s).flatten)
      (serveJobs py tm jobs s).world.store := by
  induction jobs generalizing attempts s with
  | nil =>
    show Trailed sid (attempts ++ []) s.world.store
    rw [List.append_nil]
    exact h
  | cons job rest ih =>
    rw [serveJobs_cons]
    unfold history
    rw [List.flatten_cons, ← List.append_assoc]
    exact ih (h.job py tm job)

theorem trailed_localWorld (cwd : List String) (clock : T) (files : Files) (jobs : List Job)
    (sid : String) :
    Trailed sid (history py tm sid jobs ⟨0, localWorld py cwd clock files⟩).flatten
      (serveJobs py tm jobs ⟨0, localWorld py cwd clock files⟩).world.store := by
  have hnothing : Trailed sid [] (localWorld py cwd clock files).store := ⟨[], rfl, .nil⟩
  exact Trailed.jobs py tm jobs (s := ⟨0, localWorld py cwd clock files⟩) hnothing

end Jobs

/-! ## Two tables -/

/-- The item of a dict under a key. -/
def Json.item? (j : Json) (key : String) : Option Json :=
  match j with
  | .obj fields => fields.lookup key
  | _ => none

/-- The event is the result of the tool `credential`. -/
def deliversCredential (entry : String × Json) : Bool :=
  entry.1 == "tool.result" &&
    match entry.2.item? "tool" with
    | some (.str name) => name == "credential"
    | _ => false

/-- The tools of an audit trail. -/
def toolsAudited (notes : List Note) : List (Option Json) :=
  (notes.filter fun note => note.actor == "sandboxd" && note.action == "execute_tool").map
    fun note => note.payload.item? "tool"

/-- The tools of a log. -/
def toolsReported (entries : List (String × Json)) : List (Option Json) :=
  (entries.filter fun entry => entry.1 == "tool.result").map fun entry => entry.2.item? "tool"

/-- The audiences for which an audit trail has credentials given. -/
def audiencesAudited (notes : List Note) : List (Option Json) :=
  (notes.filter fun note => note.actor == "credentials-proxy" && note.action == "exchange").map
    fun note => note.payload.item? "audience"

/-- The audiences of the credentials in a log. -/
def audiencesReported (entries : List (String × Json)) : List (Option Json) :=
  (entries.filter deliversCredential).map fun entry =>
    (entry.2.item? "result").bind fun credential => credential.item? "audience"

@[simp] theorem deliversCredential_toolResult (name : String) (result : Json) :
    deliversCredential ("tool.result", toolResult name result) = (name == "credential") := rfl

/-- An audit trail matches a log. -/
structure Matches (notes : List Note) (entries : List (String × Json)) : Prop where
  tools : toolsAudited notes = toolsReported entries
  audiences : audiencesAudited notes = audiencesReported entries
  /-- There is no other row. -/
  length : notes.length = (toolsReported entries).length + (audiencesReported entries).length

namespace Matches

variable {notes notes' : List Note} {entries entries' : List (String × Json)} {sid : String}

theorem append (h : Matches notes entries) (h' : Matches notes' entries') :
    Matches (notes ++ notes') (entries ++ entries') where
  tools := by
    have htools := congrArg₂ (· ++ ·) h.tools h'.tools
    simpa [toolsAudited, toolsReported] using htools
  audiences := by
    have haudiences := congrArg₂ (· ++ ·) h.audiences h'.audiences
    simpa [audiencesAudited, audiencesReported] using haudiences
  length := by
    have hlength := h.length
    have hlength' := h'.length
    simp [toolsReported, audiencesReported] at *
    omega

/-- An event that is no result of a tool needs no row. -/
theorem silent (h : ∀ entry ∈ entries, entry.1 ≠ "tool.result") : Matches [] entries := by
  have htools : toolsReported entries = [] := by
    simpa [toolsReported] using h
  have haudiences : audiencesReported entries = [] := by
    refine List.map_eq_nil_iff.mpr (List.filter_eq_nil_iff.mpr fun entry hentry hdelivers => ?_)
    have htype : (entry.1 == "tool.result") = true := (Bool.and_eq_true_iff.mp hdelivers).1
    exact h entry hentry (by simpa using htype)
  refine ⟨htools.symm, haudiences.symm, ?_⟩
  rw [htools, haudiences]
  rfl

/-- What an event leaves in the audit trail matches it. -/
theorem receipt {o : String × Json} (h : Receipt sid o notes) : Matches notes [o] := by
  cases h with
  | none hne => exact silent fun entry hentry => by rw [List.mem_singleton.mp hentry]; exact hne
  | @tool name result hname =>
    have hnot : audiencesReported [("tool.result", toolResult name result)] = [] :=
      List.map_eq_nil_iff.mpr (List.filter_cons_of_neg (by simp [hname]))
    exact ⟨rfl, hnot.symm, by rw [hnot]; rfl⟩
  | credential => exact ⟨rfl, rfl, rfl⟩

/-- And so does what an attempt leaves there. -/
theorem receipted {attempt : Attempt} (h : attempt.Receipted sid notes) :
    Matches notes attempt.entries := by
  have hreceived : Matches [] [("command.received", attempt.asked.received)] :=
    silent fun entry hentry => by rw [List.mem_singleton.mp hentry]; exact of_decide_eq_true rfl
  obtain ⟨asked, outcome⟩ := attempt
  cases outcome with
  | handled outs =>
    obtain ⟨o, rfl, hreceipt⟩ := h
    exact hreceived.append (receipt hreceipt)
  | raised e =>
    obtain rfl : notes = [] := h
    exact hreceived
  | unreached =>
    obtain rfl : notes = [] := h
    exact silent fun entry hentry => nomatch hentry

theorem flatten {attempts : List Attempt} {notess : List (List Note)}
    (h : List.Forall₂ (Attempt.Receipted sid) attempts notess) :
    Matches notess.flatten (attempts.flatMap Attempt.entries) := by
  induction h with
  | nil => exact silent fun entry hentry => nomatch hentry
  | cons hattempt _ ih => exact (receipted hattempt).append ih

end Matches

/-- **The audit trail matches what was done.** After any run on a new local stack
and for every session, the tools in its audit trail are those of the results in
its log, the audiences in the trail are those of the credentials in the log, each
in order, and the trail has no other row. -/
theorem audit_matches [Field T] [LinearOrder T] [IsStrictOrderedRing T] [FloorRing T] (py : Py)
    (tm : Timing T) (cwd : List String) (clock : T) (files : Files) (jobs : List Job)
    (sid : String) :
    let st := (serveJobs py tm jobs ⟨0, localWorld py cwd clock files⟩).world.store
    Matches (st.notes sid) ((st.getEvents sid 0).map EventRow.saying) := by
  intro st
  obtain ⟨opening, hopening, htold, -⟩ := told_localWorld py tm cwd clock files jobs sid
  obtain ⟨notess, hnotes, hreceipts⟩ := trailed_localWorld py tm cwd clock files jobs sid
  have hrooted : (serveJobs py tm jobs ⟨0, localWorld py cwd clock files⟩).world.Rooted py :=
    serveJobs_rooted py tm jobs (rooted_localWorld py cwd clock files)
  have hlog : (st.getEvents sid 0).map EventRow.saying = _ :=
    (congrArg _ (hrooted.contiguous.getEvents sid 0)).trans htold.saying
  rw [hlog, hnotes, ← List.nil_append notess.flatten]
  refine Matches.append (.silent ?_) (.flatten hreceipts)
  rcases hopening with rfl | ⟨host, rfl⟩
  · exact fun entry hentry => nomatch hentry
  · exact fun entry hentry => by rw [List.mem_singleton.mp hentry]; exact of_decide_eq_true rfl

/-- A tool is called once. -/
def toolJobs : List Job := [
  .client (.createSession "local" .empty),
  .client (.sendCommand "s" "tool"
    (.obj [("name", .str "echo"), ("args", .obj [("text", .str "hi")])]) none)]

/-- Its row in the audit trail matches its result. -/
theorem audit_matches_sample :
    let st := (serveJobs Py.sample (.still (0 : ℚ) Sample.files) toolJobs
      ⟨0, localWorld Py.sample [] 0 Sample.files⟩).world.store
    Matches (st.notes "s") ((st.getEvents "s" 0).map EventRow.saying) :=
  audit_matches Py.sample (.still 0 Sample.files) [] 0 Sample.files toolJobs "s"

end Nadi
