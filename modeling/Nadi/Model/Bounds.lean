import Nadi.Model.Programs

/-!
# Which calls the programs make

Bounds on calls and values (`Prog.Within`) for the parts of the tiers: handling
a command touches the sandbox only, and its events are of four types; looking a
cell up or rebuilding it touches cells and reads the log. What a whole operation
may do is read off from these with `Prog.Within.mono`.
-/

namespace Nadi

open Effect (Prog)

variable {T : Type}

/-- The calls of the sandbox tier. -/
def Call.ofSandbox : Call T → Prop
  | .time _ => True
  | .isTokenRevoked _ => True
  | .files => True
  | .audit .. => True
  | _ => False

/-- The calls of the sandbox tier when it serves a session, which alone it audits. -/
def Call.ofTool (sid : String) : Call T → Prop
  | .audit _ _ sessionId _ => sessionId = some sid
  | d => d.ofSandbox

/-- The calls that check a token. -/
def Call.ofVerify : Call T → Prop
  | .time _ => True
  | .isTokenRevoked _ => True
  | _ => False

/-- The calls that look a cell up or rebuild it, for one `celld` and session. -/
def Call.ofCell (c : Celld) (sid : String) : Call T → Prop
  | .time _ => True
  | .uuid4 site => site = .jti
  | .newCell s _ => s = sid
  | .getEvents s _ => s = sid
  | .apply .. => True
  | .cellsGet ref s => ref = c.ref ∧ s = sid
  | .cellsSet ref s _ => ref = c.ref ∧ s = sid
  | _ => False

/-- The calls of `create_cell`, for one `celld` and session. -/
def Call.ofCreation (c : Celld) (sid : String) : Call T → Prop
  | .time _ => True
  | .uuid4 site => site = .jti
  | .newCell s _ => s = sid
  | .apply .. => True
  | .cellsGet ref s => ref = c.ref ∧ s = sid
  | .cellsSet ref s _ => ref = c.ref ∧ s = sid
  | .updateSessionStatus s status => s = sid ∧ status = .running
  | .appendEvent s eventType _ _ => s = sid ∧ eventType = "session.started"
  | _ => False

/-- The calls of `append_event`, for one `celld` and session. -/
def Call.ofAppend (c : Celld) (sid : String) : Call T → Prop
  | .appendEvent s .. => s = sid
  | .cellsGet ref s => ref = c.ref ∧ s = sid
  | .apply .. => True
  | _ => False

/-- The calls of the loop over a batch whose commands have the given ids. -/
def Call.ofLoop (c : Celld) (sid : String) (ids : ℕ → Prop) : Call T → Prop
  | .completeCommand id => ids id
  | d => d.ofAppend c sid ∨ d.ofSandbox

/-- The calls of `consume_commands`, for one `celld` and session. -/
def Call.ofConsumption (c : Celld) (sid : String) : Call T → Prop
  | .claimPendingCommands s claimedBy => s = sid ∧ claimedBy = c.hostId
  | d => d.ofCell c sid ∨ d.ofLoop c sid fun _ => True

/-- The calls of `destroy_cell`, for one `celld` and session. -/
def Call.ofDestruction (c : Celld) (sid : String) : Call T → Prop
  | .cellsPop ref s => ref = c.ref ∧ s = sid
  | .revokeToken .. => True
  | .updateSessionStatus s status => s = sid ∧ status = .stopped
  | _ => False

/-- The calls of `place_session`, for one session. -/
def Call.ofPlacement (sid : String) : Call T → Prop
  | .chooseCellHost => True
  | .createLease s .. => s = sid
  | .callback _ => True
  | d => ∃ c, d.ofCreation c sid

/-- The calls that find a session's host and its `celld`. -/
def Call.ofRouting (sid : String) : Call T → Prop
  | .getRoute s => s = sid
  | .object _ => True
  | _ => False

/-- The calls of `register_cell_host`. -/
def Call.ofRegistration (hostId : String) (createCell : CreateCell) (objectRef : Option Celld) :
    Call T → Prop
  | .upsertCellHost h .. => h = hostId
  | .setCallback h given => h = hostId ∧ given = createCell
  | .setObject h given => h = hostId ∧ objectRef = some given
  | _ => False

/-- The types of the events a handler gives. -/
def isOutput (eventType : String) : Prop :=
  eventType = "assistant.message" ∨ eventType = "model.response" ∨
    eventType = "tool.result" ∨ eventType = "command.error"

theorem isOutput.ne_received {eventType : String} (h : isOutput eventType) :
    eventType ≠ "command.received" := by
  rcases h with rfl | rfl | rfl | rfl <;> decide

section Bounds

variable {c : Celld} {sid : String} {ids ids' : ℕ → Prop}

theorem Call.ofLoop_of_ofAppend (d : Call T) (h : d.ofAppend c sid) : d.ofLoop c sid ids := by
  cases d <;> first | exact .inl h | exact h.elim

theorem Call.ofLoop_of_ofSandbox (d : Call T) (h : d.ofSandbox) : d.ofLoop c sid ids := by
  cases d <;> first | exact .inr h | exact h.elim

theorem Call.ofLoop.mono {d : Call T} (h : d.ofLoop c sid ids) (hids : ∀ id, ids id → ids' id) :
    d.ofLoop c sid ids' := by
  cases d with
  | completeCommand id => exact hids id h
  | _ => exact h

theorem Call.ofVerify.ofTool {d : Call T} (h : d.ofVerify) : d.ofTool sid := by
  cases d <;> first | exact h.elim | trivial

theorem Call.ofTool.ofSandbox {d : Call T} (h : d.ofTool sid) : d.ofSandbox := by
  cases d <;> first | exact h.elim | trivial

theorem Call.ofConsumption_of_ofCell (d : Call T) (h : d.ofCell c sid) :
    d.ofConsumption c sid := by
  cases d <;> first | exact .inl h | exact h.elim

theorem Call.ofConsumption_of_ofLoop (d : Call T) (h : d.ofLoop c sid fun _ => True) :
    d.ofConsumption c sid := by
  cases d with
  | claimPendingCommands => exact h.elim (fun h => h.elim) fun h => h.elim
  | _ => exact .inr h

end Bounds

section

variable [Field T] [LinearOrder T] [IsStrictOrderedRing T] [FloorRing T] (py : Py)

theorem SessionJWT.verify_within (jwt : SessionJWT) (token sid scope : String) :
    (jwt.verify py token sid scope : Code T Json).Within Call.ofVerify fun _ => True := by
  unfold SessionJWT.verify
  refine .bind (.ofExcept fun _ _ => trivial) fun data _ => ?_
  refine .bind (.perform trivial fun _ => trivial) fun now _ => ?_
  refine .bind (.ofExcept fun _ _ => trivial) fun _ _ => ?_
  refine .bind (.ofExcept fun _ _ => trivial) fun jti _ => ?_
  cases jti with
  | none => trivial
  | some jti =>
    refine .bind (.perform trivial fun _ => trivial) fun revoked _ => ?_
    split <;> trivial

/-- What signing a token calls. -/
theorem SessionJWT.signNow_calls {calls : Call T → Prop} {site : ClockSite}
    (htime : calls (.time site)) (hid : calls (.uuid4 .jti)) (jwt : SessionJWT)
    (sid scope : String) (ttl : Int) (subject : String) :
    (jwt.signNow py site sid scope ttl subject : Code T String).Within calls fun _ => True := by
  refine .bind (.perform htime fun _ => trivial) fun _ _ => ?_
  exact .bind (.perform hid fun _ => trivial) fun _ _ => trivial

namespace Sandboxd

variable (s : Sandboxd)

theorem verify_ofTool (sid token : String) :
    (s.jwt.verify py token sid "tool" : Code T Json).Within (Call.ofTool sid) fun _ => True :=
  (s.jwt.verify_within py token sid "tool").mono_calls fun _ hd => hd.ofTool

theorem exchange_within (sid token audience : String) :
    (s.exchange py sid token audience : Code T Json).Within (Call.ofTool sid) fun _ => True := by
  refine .bind (s.verify_ofTool py sid token) fun _ _ => ?_
  exact .bind (.perform rfl fun _ => trivial) fun _ _ => trivial

/-- A tool looks at the files, and only `credential` exchanges a token. -/
theorem runTool_calls {calls : Call T → Prop} {sid token name : String} (hfiles : calls .files)
    (hexchange : name = "credential" → ∀ audience,
      (s.exchange py sid token audience : Code T Json).Within calls fun _ => True)
    (args : Json) :
    (s.runTool py sid token name args : Code T Json).Within calls fun _ => True := by
  unfold Sandboxd.runTool
  split
  · exact .bind (.ofExcept fun _ _ => trivial) fun _ _ => trivial
  split
  · exact .bind (.ofExcept fun _ _ => trivial) fun _ _ => trivial
  split
  · refine .bind (.ofExcept fun _ _ => trivial) fun rel _ => ?_
    refine .bind (.perform hfiles fun _ => trivial) fun files _ => ?_
    exact .ofExcept fun _ _ => trivial
  split
  · rename_i hname
    exact .bind (.ofExcept fun _ _ => trivial) fun _ _ => hexchange hname _
  · trivial

theorem executeTool_within (sid token name : String) (args : Json) :
    (s.executeTool py sid token name args : Code T Json).Within (Call.ofTool sid)
      fun out => out.isObj = true := by
  have hrun : (s.runTool py sid token name args.orEmpty : Code T Json).Within (Call.ofTool sid)
      fun _ => True :=
    s.runTool_calls py trivial (fun _ audience => s.exchange_within py sid token audience) _
  refine .bind (s.verify_ofTool py sid token) fun _ _ => .bind hrun fun _ _ => ?_
  exact .bind (.perform rfl fun _ => trivial) fun _ _ => rfl

end Sandboxd

/-- Handling a command calls the sandbox tier only, and gives one event. -/
theorem Runtime.handle_ofTool (s : Sandboxd) (sid token commandType : String)
    (payload : Json) :
    (Runtime.handle py s sid token commandType payload :
      Code T (List (String × Json))).Within (Call.ofTool sid)
        fun outs => ∃ o, outs = [o] ∧ isOutput o.1 ∧ o.2.isObj = true := by
  unfold Runtime.handle
  split
  · exact .bind (.ofExcept fun _ _ => trivial) fun _ _ => ⟨_, rfl, .inl rfl, rfl⟩
  split
  · exact .bind (.ofExcept fun _ _ => trivial) fun _ _ => ⟨_, rfl, .inr (.inl rfl), rfl⟩
  split
  · refine .bind (.ofExcept fun _ _ => trivial) fun name _ => ?_
    refine .bind (.ofExcept fun _ _ => trivial) fun args _ => ?_
    exact .bind (s.executeTool_within py sid token _ _)
      fun _ hout => ⟨_, rfl, .inr (.inr (.inl rfl)), hout⟩
  · exact ⟨_, rfl, .inr (.inr (.inr rfl)), rfl⟩

theorem Runtime.handle_single (s : Sandboxd) (sid token commandType : String)
    (payload : Json) :
    (Runtime.handle py s sid token commandType payload :
      Code T (List (String × Json))).Within Call.ofSandbox
        fun outs => ∃ o, outs = [o] ∧ isOutput o.1 ∧ o.2.isObj = true :=
  (Runtime.handle_ofTool py s sid token commandType payload).mono_calls fun _ hd => hd.ofSandbox

/-- The events of a handler are outputs and carry dicts. -/
theorem Runtime.handle_within (s : Sandboxd) (sid token commandType : String)
    (payload : Json) :
    (Runtime.handle py s sid token commandType payload :
      Code T (List (String × Json))).Within Call.ofSandbox
        fun outs => ∀ o ∈ outs, isOutput o.1 ∧ o.2.isObj = true := by
  refine (Runtime.handle_single py s sid token commandType payload).mono (fun _ h => h) ?_
  rintro _ ⟨o, rfl, ho⟩ o' ho'
  rw [List.mem_singleton.mp ho']
  exact ho

namespace Celld

variable (c : Celld)

omit [Field T] [LinearOrder T] [IsStrictOrderedRing T] [FloorRing T] in
/-- What an append calls. -/
theorem appendEvent_calls {calls : Call T → Prop} {sid eventType : String} {payload : Json}
    (happend : calls (.appendEvent sid eventType payload.orEmpty none))
    (hget : calls (.cellsGet c.ref sid))
    (happly : ∀ cell, calls (.apply cell eventType payload.orEmpty)) :
    (c.appendEvent sid eventType payload : Code T Event).Within calls fun _ => True := by
  refine .bind (.perform happend fun _ => trivial) fun ev _ => ?_
  refine .bind (.perform hget fun _ => trivial) fun found _ => ?_
  cases found with
  | none => trivial
  | some cell => exact .bind (.perform (happly cell) fun _ => trivial) fun _ _ => trivial

omit [Field T] [LinearOrder T] [IsStrictOrderedRing T] [FloorRing T] in
theorem appendEvent_within (sid eventType : String) (payload : Json) :
    (c.appendEvent sid eventType payload : Code T Event).Within (Call.ofAppend c sid)
      fun _ => True := c.appendEvent_calls rfl ⟨rfl, rfl⟩ fun _ => trivial

omit [Field T] [LinearOrder T] [IsStrictOrderedRing T] [FloorRing T] in
theorem appendEvents_within (sid : String) (outs : List (String × Json)) :
    (c.appendEvents sid outs : Code T (List Event)).Within (Call.ofAppend c sid)
      fun _ => True := by
  induction outs with
  | nil => trivial
  | cons out rest ih =>
    refine .bind (c.appendEvent_within sid _ _) fun _ _ => ?_
    exact .bind ih fun _ _ => trivial

omit [Field T] [LinearOrder T] [IsStrictOrderedRing T] [FloorRing T] in
/-- A replay calls nothing but the fold of its cell. -/
theorem applyEvents_calls {calls : Call T → Prop} {cell : Cell}
    (happly : ∀ eventType payload, calls (.apply cell eventType payload))
    (events : List (EventRow T)) : (applyEvents cell events).Within calls fun _ => True := by
  induction events with
  | nil => trivial
  | cons ev rest ih => exact .bind (.perform (happly _ _) fun _ => trivial) fun _ _ => ih

theorem createCell_within (sid : String) :
    (c.createCell py sid : Code T Cell).Within (Call.ofCreation c sid) fun _ => True := by
  refine .bind (SessionJWT.signNow_calls py ?_ ?_ c.jwt sid _ _ _) fun token _ => ?_
  · trivial
  · rfl
  refine .bind (.perform rfl fun _ => trivial) fun cell _ => ?_
  refine .bind (.perform ⟨rfl, rfl⟩ fun _ => trivial) fun _ _ => ?_
  refine .bind (.perform ⟨rfl, rfl⟩ fun _ => trivial) fun _ _ => ?_
  refine .bind (c.appendEvent_calls ⟨rfl, rfl⟩ ⟨rfl, rfl⟩ fun _ => trivial) fun _ _ => trivial

theorem reconstructCell_within (sid : String) :
    (c.reconstructCell py sid : Code T Cell).Within (Call.ofCell c sid) fun _ => True := by
  refine .bind (SessionJWT.signNow_calls py ?_ ?_ c.jwt sid _ _ _) fun token _ => ?_
  · trivial
  · rfl
  refine .bind (.perform rfl fun _ => trivial) fun cell _ => ?_
  refine .bind (.perform rfl fun _ => trivial) fun events _ => ?_
  refine .bind (applyEvents_calls (fun _ _ => trivial) events) fun _ _ => ?_
  exact .bind (.perform ⟨rfl, rfl⟩ fun _ => trivial) fun _ _ => trivial

theorem liveCell_within (sid : String) :
    (c.liveCell py sid : Code T Cell).Within (Call.ofCell c sid) fun _ => True := by
  refine .bind (.perform ⟨rfl, rfl⟩ fun _ => trivial) fun found _ => ?_
  cases found with
  | some cell => trivial
  | none => exact c.reconstructCell_within py sid

theorem consumeLoop_within (sid token : String) (commands : List (CommandRow T)) :
    (c.consumeLoop py sid token commands).Within
      (Call.ofLoop c sid fun id => ∃ cmd ∈ commands, cmd.id = id) fun _ => True := by
  induction commands with
  | nil => trivial
  | cons cmd rest ih =>
    refine .bind ((c.appendEvent_within sid _ _).mono Call.ofLoop_of_ofAppend fun _ h => h)
      fun _ _ => ?_
    refine .bind ((Runtime.handle_within py c.sandboxd sid token _ _).mono
      Call.ofLoop_of_ofSandbox fun _ _ => trivial) fun outs _ => ?_
    refine .bind ((c.appendEvents_within sid outs).mono Call.ofLoop_of_ofAppend fun _ h => h)
      fun _ _ => ?_
    refine .bind (.perform ⟨cmd, List.mem_cons_self, rfl⟩ fun _ => trivial) fun _ _ => ?_
    refine .bind (ih.mono (fun d hd => hd.mono ?_) fun _ h => h) fun _ _ => trivial
    rintro id ⟨cmd', hcmd', hid⟩
    exact ⟨cmd', List.mem_cons_of_mem _ hcmd', hid⟩

theorem consumeCommands_within (sid : String) :
    (c.consumeCommands py sid : Code T (List Event)).Within (Call.ofConsumption c sid)
      fun _ => True := by
  refine .bind ((c.liveCell_within py sid).mono Call.ofConsumption_of_ofCell fun _ h => h)
    fun cell _ => ?_
  refine .bind (.perform ⟨rfl, rfl⟩ fun _ => trivial) fun commands _ => ?_
  exact (c.consumeLoop_within py sid cell.jwt commands).mono
    (fun d hd => Call.ofConsumption_of_ofLoop d (hd.mono fun _ _ => trivial)) fun _ h => h

omit [LinearOrder T] [IsStrictOrderedRing T] [FloorRing T] in
theorem destroyCell_within (sid : String) :
    (c.destroyCell py sid : Code T Unit).Within (Call.ofDestruction c sid) fun _ => True := by
  refine .bind (.perform ⟨rfl, rfl⟩ fun _ => trivial) fun found _ => ?_
  cases found with
  | none => trivial
  | some cell =>
    have hrevoke : (revokeTokenOf py cell : Code T Unit).Within (Call.ofDestruction c sid)
        fun _ => True := by
      unfold revokeTokenOf
      split
      · exact .perform trivial fun _ => trivial
      · trivial
    exact .bind hrevoke fun _ _ => .perform ⟨rfl, rfl⟩ fun _ => trivial

end Celld

/-- A callback that is a `celld`'s creates a cell there; another one fails. -/
theorem Broker.runCallback_within (sid : String) (createCell : CreateCell) :
    (Broker.runCallback py sid createCell : Code T Unit).Within
      (fun d => ∃ c, createCell = .celld c ∧ d.ofCreation c sid) fun _ => True := by
  cases createCell with
  | raises e => trivial
  | celld c =>
    exact .bind ((c.createCell_within py sid).mono (fun _ hd => ⟨c, rfl, hd⟩) fun _ h => h)
      fun _ _ => trivial

theorem Broker.placeSession_within (sid : String) :
    (Broker.placeSession py sid : Code T Placement).Within (Call.ofPlacement sid)
      fun _ => True := by
  refine .bind (.perform trivial fun _ => trivial) fun host _ => ?_
  refine .bind (.perform rfl fun _ => trivial) fun lease _ => ?_
  refine .bind (.perform trivial fun _ => trivial) fun found _ => ?_
  cases found with
  | none => trivial
  | some createCell =>
    refine .bind ((runCallback_within py sid createCell).mono (fun d hd => ?_) fun _ h => h)
      fun _ _ => trivial
    obtain ⟨celld, -, hd⟩ := hd
    cases d <;> first | exact ⟨celld, hd⟩ | exact hd.elim

omit [Field T] [LinearOrder T] [IsStrictOrderedRing T] [FloorRing T] in
theorem Broker.celldForRoute_within (sid : String) :
    (Broker.celldForRoute sid : Code T Celld).Within (Call.ofRouting sid) fun _ => True := by
  refine .bind (.perform rfl fun _ => trivial) fun found _ => ?_
  cases found with
  | none => trivial
  | some route =>
    refine .bind (.perform trivial fun _ => trivial) fun object _ => ?_
    cases object <;> trivial

omit [Field T] [LinearOrder T] [IsStrictOrderedRing T] [FloorRing T] in
theorem Broker.registerCellHost_within (hostId zone address : String) (capacityTotal : Int)
    (createCell : CreateCell) (objectRef : Option Celld) :
    (Broker.registerCellHost hostId zone address capacityTotal createCell objectRef :
      Code T String).Within (Call.ofRegistration hostId createCell objectRef)
        fun _ => True := by
  refine .bind (.perform rfl fun _ => trivial) fun cid _ => ?_
  refine .bind (.perform ⟨rfl, rfl⟩ fun _ => trivial) fun _ _ => ?_
  cases objectRef with
  | none => trivial
  | some object => exact .bind (.perform ⟨rfl, rfl⟩ fun _ => trivial) fun _ _ => trivial

omit [Field T] [LinearOrder T] [IsStrictOrderedRing T] [FloorRing T] in
theorem Gateway.route_within (sid : String) :
    (Gateway.route sid : Code T (Route T)).Within (Call.ofRouting sid) fun _ => True := by
  refine .bind (.perform rfl fun _ => trivial) fun found _ => ?_
  cases found <;> trivial

omit [Field T] [LinearOrder T] [IsStrictOrderedRing T] [FloorRing T] in
/-- A log is read once the session is routed. -/
theorem Gateway.getSessionEvents_calls {calls : Call T → Prop} {sid : String} {after : Int}
    (hroute : ∀ d : Call T, d.ofRouting sid → calls d) (hread : calls (.getEvents sid after)) :
    (Gateway.getSessionEvents sid after : Code T (List (EventRow T))).Within calls
      fun _ => True :=
  .bind ((Gateway.route_within sid).mono_calls hroute) fun _ _ => .perform hread fun _ => trivial

omit [Field T] [LinearOrder T] [IsStrictOrderedRing T] [FloorRing T] in
theorem Gateway.resourceId_within (platform initiatorResourceId : String) :
    (Gateway.resourceId platform initiatorResourceId : Code T String).Within
      (· = .uuid4 .anonymous) fun _ => True := by
  unfold Gateway.resourceId
  split
  · exact .bind (.perform rfl fun _ => trivial) fun _ _ => trivial
  · trivial

end

end Nadi
