import Nadi.Crash
import Nadi.Destroyed

/-!
# The life of a cell

On a local stack requests are served one after the other. A cell is built with a
token that is signed for it, registered, found again, and taken out, its token
revoked; a session is placed before its first cell is created.

- `CellLife`: what a fact about the live cells has to survive; one rule for each
  program of the stack, up to `CellLife.serveAll`.
- `Stacked`: the tokens of the live cells are not revoked, and no two sessions
  share one. `Placed`: nor do they share the state of a cell. `life_laid` says
  that both last.
-/

namespace Nadi

open Effect

variable {T : Type}

/-! ## Requests -/

/-- A request to a local stack. -/
inductive StackRequest where
  | createSession (tenantId : String) (metadata : Json)
  | channelSession (request : ChannelRequest)
  | sendCommand (sessionId : String) (send : Send)
  | destroyCell (sessionId : String)
  | reconstructCell (sessionId : String)

section Requests

variable [Field T] [LinearOrder T] [IsStrictOrderedRing T] [FloorRing T] (py : Py)
  (around : Surroundings T) (c : Celld)

/-- Serve a request, dropping what it returns. -/
def StackRequest.code : StackRequest → Code T Unit
  | .createSession tenantId metadata => do
    let _ ← Gateway.createSession py tenantId metadata
    return ()
  | .channelSession request => do
    let _ ← request.run py
    return ()
  | .sendCommand sessionId send => do
    let _ ← send.code py sessionId
    return ()
  | .destroyCell sessionId => c.destroyCell py sessionId
  | .reconstructCell sessionId => do
    let _ ← c.reconstructCell py sessionId
    return ()

/-- The state after requests, whatever becomes of each. -/
def StackRequest.serveAll (requests : List StackRequest) (s : Ticking T) : Ticking T :=
  requests.foldl (fun s request => ((request.code py c).run (amid py around) s).2) s

/-- `send_command` up to `consume_commands`: the command's id, and the `celld`. -/
def Send.deliver (sid : String) (send : Send) : Code T (ℕ × Celld) := do
  let _ ← Gateway.route sid
  let commandId ← call
    (.enqueueCommand sid send.commandType send.payload.orEmpty send.actorResourceId)
  let celld ← Broker.celldForRoute sid
  return (commandId, celld)

theorem Send.code_eq (sid : String) (send : Send) :
    (send.code py sid : Code T Sent) = (send.deliver sid).bind fun delivered =>
      (delivered.2.consumeCommands py sid).bind fun events => .pure ⟨delivered.1, events⟩ := by
  simp only [Send.code, Gateway.sendCommand, Send.deliver, Prog.bind_eq, Prog.pure_eq,
    Prog.bind_assoc, Prog.pure_bind]

end Requests

/-! ## What calls keep -/

/-- The calls that take no lease, register no host and no cell, and revoke
nothing. -/
def Call.mild : Call T → Prop
  | .upsertCellHost .. => False
  | .createLease .. => False
  | .revokeToken .. => False
  | .cellsSet .. => False
  | .setCallback .. => False
  | .setObject .. => False
  | _ => True

/-- What such calls keep: nothing is added. -/
structure Steady (c : Celld) (w w' : World T) : Prop where
  callbacks : w'.callbacks = w.callbacks
  objects : w'.objects = w.objects
  hosts : w'.store.cellHosts = w.store.cellHosts
  leases : w'.store.sessionLeases = w.store.sessionLeases
  revoked : ∀ row ∈ w'.store.revokedTokens, row ∈ w.store.revokedTokens
  drawn : w.drawn .jti ≤ w'.drawn .jti
  cells : ∀ sid cell, w'.cells c.ref sid = some cell → w.cells c.ref sid = some cell

section Calls

variable {c : Celld} {w w' w'' : World T} {sid : String}

theorem Steady.refl (w : World T) : Steady c w w :=
  ⟨rfl, rfl, rfl, rfl, fun _ h => h, Nat.le_refl _, fun _ _ h => h⟩

theorem Steady.trans (h : Steady c w w') (h' : Steady c w' w'') : Steady c w w'' where
  callbacks := h'.callbacks.trans h.callbacks
  objects := h'.objects.trans h.objects
  hosts := h'.hosts.trans h.hosts
  leases := h'.leases.trans h.leases
  revoked row hrow := h.revoked row (h'.revoked row hrow)
  drawn := h.drawn.trans h'.drawn
  cells sid cell hcell := h.cells sid cell (h'.cells sid cell hcell)

variable [Field T] [LinearOrder T] {py : Py} {around : Surroundings T} {s : Ticking T}

omit [Field T] in
theorem met_steady : Steady c s.world (around.met s) :=
  ⟨rfl, rfl, rfl, rfl, fun _ h => h, Nat.le_refl _, fun _ _ h => Surroundings.met_cells h⟩

theorem exec_steady {d : Call T} (hd : d.mild) : Steady c w (exec py d w).2 where
  callbacks := by
    cases d with
    | setCallback | setObject => exact hd.elim
    | _ => exact exec_callbacks py w rfl
  objects := by
    cases d with
    | setCallback | setObject => exact hd.elim
    | _ => exact exec_objects py w rfl
  hosts := by
    cases d with
    | upsertCellHost | createLease => exact hd.elim
    | _ => exact exec_hosts py w rfl
  leases := by
    cases d with
    | createLease => exact hd.elim
    | _ => exact exec_leases py w rfl
  revoked row hrow := by
    refine exec_revoked_mem (d := d) ?_ hrow
    rintro jti exp rfl
    exact hd
  drawn := exec_drawn_le py w .jti
  cells sid cell hcell := by
    cases d with
    | cellsSet => exact hd.elim
    | cellsPop ref sid' =>
      rw [exec_cellsPop_cells] at hcell
      split at hcell
      · cases hcell
      · exact hcell
    | _ =>
      rw [exec_cells py w rfl] at hcell
      exact hcell

theorem amid_steady {d : Call T} (hd : d.mild) :
    Steady c s.world (amid py around d s).2.world :=
  met_steady.trans (exec_steady hd)

/-- A cell that is registered now is the one just registered, or was before. -/
theorem exec_cellsSet_some {cell cell' : Cell} {sid' : String}
    (h : (exec py (.cellsSet c.ref sid cell) w).2.cells c.ref sid' = some cell') :
    (sid' = sid ∧ cell' = cell) ∨ (sid' ≠ sid ∧ w.cells c.ref sid' = some cell') := by
  rw [exec_cellsSet_cells] at h
  split at h
  · rename_i hsame
    exact .inl ⟨hsame.2, (Option.some.inj h).symm⟩
  · rename_i hother
    exact .inr ⟨fun heq => hother ⟨rfl, heq⟩, h⟩

/-- A cell that is left is another session's. -/
theorem exec_cellsPop_some {cell' : Cell} {sid' : String}
    (h : (exec py (.cellsPop c.ref sid) w).2.cells c.ref sid' = some cell') :
    sid' ≠ sid ∧ w.cells c.ref sid' = some cell' := by
  rw [exec_cellsPop_cells] at h
  split at h
  · cases h
  · rename_i hother
    exact ⟨fun heq => hother ⟨rfl, heq⟩, h⟩

/-- No call gives an address back. -/
theorem exec_nextAddr_le (d : Call T) (w : World T) : w.nextAddr ≤ (exec py d w).2.nextAddr := by
  cases d with
  | newCell => exact Nat.le_succ _
  | apply cell eventType payload =>
    rcases exec_apply py w cell eventType payload with ⟨e, -, h⟩ | ⟨state, -, h⟩ <;>
      exact Nat.le_of_eq (congrArg (fun r => r.2.nextAddr) h).symm
  | _ => exact Nat.le_of_eq (exec_nextAddr py w rfl).symm

variable (py around) in
/-- A fact that mild calls keep. -/
def Mild (I : Ticking T → Prop) : Prop :=
  ∀ d s, d.mild → I s → I (amid py around d s).2

/-- A program of mild calls keeps it. -/
theorem Mild.triple {α : Type} {I : Ticking T → Prop} (hI : Mild py around I) {p : Code T α}
    {post : α → Prop} (hp : p.Within Call.mild post) :
    Triple (amid py around) I p fun _ => I :=
  fun _ h => hp.preserves (fun d s hd h => hI d s hd h) h

theorem Mild.and {I J : Ticking T → Prop} (hI : Mild py around I) (hJ : Mild py around J) :
    Mild py around fun s => I s ∧ J s :=
  fun d s hd h => ⟨hI d s hd h.1, hJ d s hd h.2⟩

/-- One mild call. -/
theorem Mild.call {I : Ticking T → Prop} (hI : Mild py around I) {d : Call T} (hd : d.mild) :
    Triple (amid py around) I (Nadi.call d) fun _ => I := by
  have hp : (Nadi.call d).Within Call.mild fun _ => True := .perform hd fun _ => trivial
  exact hI.triple hp

end Calls

section Kinds

variable {c : Celld} {sid : String} {d : Call T}

theorem Call.ofAppend.mild (h : d.ofAppend c sid) : d.mild := by
  cases d <;> first | exact h.elim | trivial

theorem Call.ofLoop.mild {ids : ℕ → Prop} (h : d.ofLoop c sid ids) : d.mild := by
  cases d with
  | upsertCellHost | createLease | revokeToken | cellsSet | setCallback | setObject =>
    exact h.elim (fun h => h) fun h => h
  | _ => trivial

theorem Call.ofRouting.mild (h : d.ofRouting sid) : d.mild := by
  cases d <;> first | exact h.elim | trivial

end Kinds

/-! ## The rule -/

section Life

variable [Field T] [LinearOrder T] [IsStrictOrderedRing T] [FloorRing T] {py : Py}
  {around : Surroundings T} {c : Celld} {sid : String} {s : Ticking T} {α : Type}

variable (py around c) in
/-- The cell built for a session with a token signed for it, and the state then. -/
def Celld.build (site : ClockSite) (sid : String) (s : Ticking T) : Cell × Ticking T :=
  let token := c.tokenOf py sid (s.world.drawn .jti) (truncate (around.now s.reading))
  (⟨s.world.nextAddr, sid, token⟩, (amid py around (.newCell sid token)
    (amid py around (.uuid4 .jti) (amid py around (.time site) s).2).2).2)

/-- A token is signed and a cell is built with it. -/
theorem run_build (site : ClockSite) (f : String → Cell → Code T α) :
    ((c.jwt.signNow py site sid "cell tool" 3600 c.hostId).bind fun token =>
        (call (.newCell sid token)).bind (f token)).run (amid py around) s =
      (f (c.build py around site sid s).1.jwt (c.build py around site sid s).1).run
        (amid py around) (c.build py around site sid s).2 := by
  let token := c.tokenOf py sid (s.world.drawn .jti) (truncate (around.now s.reading))
  let s₂ := (amid py around (.uuid4 .jti) (amid py around (.time site) s).2).2
  have hsign : (c.jwt.signNow py site sid "cell tool" 3600 c.hostId).run (amid py around) s =
      (.ok token, s₂) := rfl
  have hbuild : (call (.newCell sid token)).run (amid py around) s₂ =
      (.ok (c.build py around site sid s).1, (c.build py around site sid s).2) := rfl
  rw [Prog.run_bind_ok _ hsign, Prog.run_bind_ok _ hbuild]
  rfl

/-- Building a cell is mild. -/
theorem Mild.build {I : Ticking T → Prop}
    (hI : Mild py around I) (h : I s) (site : ClockSite) (sid : String) :
    I (c.build py around site sid s).2 :=
  hI _ _ trivial (hI (.uuid4 .jti) _ trivial (hI (.time site) s trivial h))

variable (py around c) in
/-- What a fact about the live cells has to survive: `I` of a state, also while a
session is being placed, `J` of a cell that is built but not registered, and `H`
of one that is or has been registered. -/
structure CellLife (I : Option String → Ticking T → Prop)
    (J H : String → Cell → Ticking T → Prop) : Prop where
  mild : ∀ placing, Mild py around (I placing)
  mild_built : ∀ sid cell, Mild py around (J sid cell)
  mild_used : ∀ sid cell, Mild py around (H sid cell)
  callback : ∀ {placing s}, I placing s → s.world.callbacks c.hostId = some (.celld c)
  objects : ∀ {s}, I none s → ∀ h object, s.world.objects h = some object → object = c
  hosts : ∀ {s}, I none s → ∀ host ∈ s.world.store.cellHosts, host.hostId = c.hostId
  build : ∀ {placing s} site sid, I placing s →
    J sid (c.build py around site sid s).1 (c.build py around site sid s).2
  register : ∀ {placing s sid cell}, (∀ x, placing = some x → x = sid) → I placing s →
    J sid cell s → I none (amid py around (.cellsSet c.ref sid cell) s).2 ∧
      H sid cell (amid py around (.cellsSet c.ref sid cell) s).2
  found : ∀ {s sid cell}, I none s → s.world.cells c.ref sid = some cell → H sid cell s
  lease : ∀ {s} sid hostId, I none s →
    match (amid py around (.createLease sid hostId 3600) s).1 with
    | .ok _ => I (some sid) (amid py around (.createLease sid hostId 3600) s).2
    | .error _ => I none (amid py around (.createLease sid hostId 3600) s).2
  destroy : ∀ {s sid cell}, I none s → (around.met s).cells c.ref sid = some cell →
    ∃ k t, cell.jwt = c.tokenOf py sid k t ∧
      I none (amid py around (.revokeToken (py.uuid4 .jti k) ((SessionJWT.expiry t 3600 : ℤ) : T))
        (amid py around (.cellsPop c.ref sid) s).2).2

namespace CellLife

variable {I : Option String → Ticking T → Prop} {J H : String → Cell → Ticking T → Prop}

/-- A cell is created, for a session that may be the one being placed. -/
theorem createCell (life : CellLife py around c I J H) {placing : Option String}
    (hplacing : ∀ x, placing = some x → x = sid) :
    Triple (amid py around) (I placing) (c.createCell py sid : Code T Cell) fun _ => I none := by
  intro s h
  unfold Celld.createCell
  simp only [Prog.bind_eq]
  rw [run_build]
  generalize hcell : (c.build py around .createCell sid s).1 = cell
  have hrest : ((call (.updateSessionStatus sid .running)).bind fun _ =>
      (c.appendEvent sid "session.started" (.obj [("cell_host", .str c.hostId)])).bind fun _ =>
        .pure cell : Code T Cell).Within Call.mild fun _ => True := by
    refine .bind (.perform trivial fun _ => trivial) fun _ _ => ?_
    exact .bind ((c.appendEvent_within sid _ _).mono_calls fun _ h => h.mild) fun _ _ => trivial
  have hall : Triple (amid py around) (fun s => I placing s ∧ J sid cell s)
      ((call (.cellsSet c.ref sid cell)).bind fun _ =>
        (call (.updateSessionStatus sid .running)).bind fun _ =>
          (c.appendEvent sid "session.started" (.obj [("cell_host", .str c.hostId)])).bind fun _ =>
            .pure cell)
      fun _ => I none := by
    have hset : Triple (amid py around) (fun s => I placing s ∧ J sid cell s)
        (call (.cellsSet c.ref sid cell)) fun _ => I none :=
      Triple.perform fun s h => (life.register hplacing h.1 h.2).1
    exact hset.bind (fun _ => (life.mild none).triple hrest) fun _ _ h => h
  exact hall _ ⟨(life.mild placing).build h _ _, hcell ▸ life.build _ _ h⟩

/-- A cell is rebuilt, with a token of now. -/
theorem reconstructCell (life : CellLife py around c I J H) (sid : String) :
    Triple (amid py around) (I none) (c.reconstructCell py sid : Code T Cell)
      fun r s => I none s ∧ ∀ cell, r = .ok cell → H sid cell s := by
  intro s h
  unfold Celld.reconstructCell
  simp only [Prog.bind_eq]
  rw [run_build]
  generalize hcell : (c.build py around .reconstructCell sid s).1 = cell
  have hmild : Mild py around fun s => I none s ∧ J sid cell s :=
    (life.mild none).and (life.mild_built sid cell)
  have hall : Triple (amid py around) (fun s => I none s ∧ J sid cell s)
      ((call (.getEvents sid 0)).bind fun events =>
        (Celld.applyEvents cell events).bind fun _ =>
          (call (.cellsSet c.ref sid cell)).bind fun _ => .pure cell)
      fun r s => I none s ∧ ∀ cell, r = .ok cell → H sid cell s := by
    refine (hmild.call (d := .getEvents sid 0) trivial).bind (fun events => ?_)
      fun _ _ h => ⟨h.1, fun _ hr => by cases hr⟩
    have happlied : (Celld.applyEvents cell events).Within Call.mild fun _ => True :=
      Celld.applyEvents_calls (fun _ _ => trivial) events
    refine (hmild.triple happlied).bind (fun _ => ?_)
      fun _ _ h => ⟨h.1, fun _ hr => by cases hr⟩
    have hset : Triple (amid py around) (fun s => I none s ∧ J sid cell s)
        (call (.cellsSet c.ref sid cell)) fun _ s => I none s ∧ H sid cell s :=
      Triple.perform fun s h => life.register (fun x (hx : none = some x) => by cases hx) h.1 h.2
    refine hset.bind (fun _ => Triple.pure fun s h => ⟨h.1, fun cell' hcell' => ?_⟩)
      fun _ _ h => ⟨h.1, fun _ hr => by cases hr⟩
    cases hcell'
    exact h.2
  exact hall _ ⟨(life.mild none).build h _ _, hcell ▸ life.build _ _ h⟩

/-- The cell that `consume_commands` works with. -/
theorem liveCell (life : CellLife py around c I J H) (sid : String) :
    Triple (amid py around) (I none) (c.liveCell py sid : Code T Cell)
      fun r s => I none s ∧ ∀ cell, r = .ok cell → H sid cell s := by
  have hget : Triple (amid py around) (I none) (call (.cellsGet c.ref sid))
      fun r s => I none s ∧ ∀ cell, r = .ok (some cell) → H sid cell s := by
    refine Triple.perform fun s h => ?_
    refine ⟨life.mild none (.cellsGet c.ref sid) s trivial h, fun cell hcell => ?_⟩
    have hlive := Surroundings.met_cells (Except.ok.inj hcell)
    exact life.mild_used sid cell (.cellsGet c.ref sid) s trivial (life.found h hlive)
  refine Triple.bind hget (fun found => ?_) fun _ _ h => ⟨h.1, nofun⟩
  cases found with
  | none => exact (life.reconstructCell sid).weaken (fun _ h => h.1) fun _ _ h => h
  | some cell =>
    refine Triple.pure fun s h => ⟨h.1, fun cell' hcell' => ?_⟩
    cases hcell'
    exact h.2 cell rfl

theorem consumeCommands (life : CellLife py around c I J H) (sid : String) :
    Triple (amid py around) (I none) (c.consumeCommands py sid : Code T (List Event))
      fun _ => I none := by
  refine Triple.bind (life.liveCell sid) (fun cell => ?_) fun _ _ h => h.1
  refine Triple.bind (((life.mild none).call (d := .claimPendingCommands sid c.hostId)
    trivial).weaken (fun _ h => h.1) fun _ _ h => h) (fun commands => ?_) fun _ _ h => h
  exact (life.mild none).triple ((c.consumeLoop_within py sid cell.jwt commands).mono_calls
    fun _ h => h.mild)

/-- The token of the cell that is destroyed is revoked. -/
theorem destroyCell (life : CellLife py around c I J H) (sid : String) :
    Triple (amid py around) (I none) (c.destroyCell py sid : Code T Unit) fun _ => I none := by
  intro s h
  cases hfound : (around.met s).cells c.ref sid with
  | none =>
    rw [run_destroyCell_missed hfound]
    exact life.mild none (.cellsPop c.ref sid) s trivial h
  | some cell =>
    obtain ⟨k, t, htoken, hrevoked⟩ := life.destroy h hfound
    rw [run_destroyCell_found hfound htoken]
    exact life.mild none (.updateSessionStatus sid .stopped) _ trivial hrevoked

/-- A session is placed: its lease, then its cell. -/
theorem placeSession (life : CellLife py around c I J H) :
    Triple (amid py around) (I none) (Broker.placeSession py sid : Code T Placement)
      fun _ => I none := by
  have hchoose : Triple (amid py around) (I none) (call .chooseCellHost)
      fun r s => I none s ∧ ∀ host, r = .ok host → host.hostId = c.hostId := by
    refine Triple.perform fun s h => ?_
    refine ⟨life.mild none .chooseCellHost s trivial h, fun host hhost => ?_⟩
    have hchosen : s.world.store.chooseCellHost = .ok host := hhost
    exact life.hosts h host (Store.chooseCellHost_ok hchosen).1
  have hlease : ∀ hostId, Triple (amid py around) (I none) (call (.createLease sid hostId 3600))
      fun r s =>
        match r with
        | .ok _ => I (some sid) s
        | .error _ => I none s :=
    fun hostId => Triple.perform fun s h => life.lease sid hostId h
  have hcallback : Triple (amid py around) (I (some sid)) (call (.callback c.hostId))
      fun r s => I (some sid) s ∧ r = .ok (some (.celld c)) := by
    refine Triple.perform fun s h => ?_
    exact ⟨life.mild _ (.callback c.hostId) s trivial h, congrArg Except.ok (life.callback h)⟩
  refine Triple.bind hchoose (fun host => .of_prop fun hhost => ?_) fun _ _ h => h.1
  refine Triple.bind (hlease host.id) (fun lease => ?_) fun _ _ h => h
  rw [hhost host rfl]
  refine Triple.bind hcallback (fun found => .of_prop fun hfound => ?_) fun _ _ h => nomatch h.2
  cases hfound
  have hcreate : Triple (amid py around) (I (some sid))
      (Broker.runCallback py sid (.celld c) : Code T Unit) fun _ => I none :=
    (life.createCell fun _ h => (Option.some.inj h).symm).bind
      (fun _ => Triple.pure fun _ h => h) fun _ _ h => h
  exact hcreate.bind (fun _ => Triple.pure fun _ h => h) fun _ _ h => h

/-- A channel session is placed like any other. -/
theorem channelSession (life : CellLife py around c I J H) (request : ChannelRequest) :
    Triple (amid py around) (I none) (request.run py : Code T ChannelSession)
      fun _ => I none := by
  have hnamed : (Gateway.resourceId request.platform request.initiatorResourceId :
      Code T String).Within Call.mild fun _ => True :=
    (Gateway.resourceId_within _ _).mono_calls fun _ h => h ▸ trivial
  refine ((life.mild none).triple hnamed).bind (fun resourceId => ?_) fun _ _ h => h
  refine ((life.mild none).call
    (d := .createSession request.tenantId none none request.metadata.orEmpty) trivial).bind
    (fun sid => ?_) fun _ _ h => h
  have habandon : Triple (amid py around) (I none) (call (.updateSessionStatus sid .abandoned))
      fun _ => I none := (life.mild none).call trivial
  refine Triple.tryCatch (M := fun _ => I none) ?_ (fun _ _ h => h)
    fun e => habandon.bind (fun _ => Triple.throw fun _ h => h) fun _ _ h => h
  refine life.placeSession.bind (fun placement => ?_) fun _ _ h => h
  refine ((life.mild none).call (d := .getOrCreateChannel request.platform request.channelId
    request.threadId sid resourceId request.metadata) trivial).bind (fun answer => ?_)
    fun _ _ h => h
  obtain ⟨actualSid, cid, created⟩ := answer
  cases created with
  | true => exact Triple.pure fun _ h => h
  | false => exact habandon.bind (fun _ => Triple.pure fun _ h => h) fun _ _ h => h

/-- A command finds the one `celld`. -/
theorem celldForRoute (life : CellLife py around c I J H) (sid : String) :
    Triple (amid py around) (I none) (Broker.celldForRoute sid : Code T Celld)
      fun r s => I none s ∧ ∀ celld, r = .ok celld → celld = c := by
  refine ((life.mild none).call (d := .getRoute sid) trivial).bind (fun found => ?_)
    fun _ _ h => ⟨h, nofun⟩
  cases found with
  | none => exact Triple.throw fun _ h => ⟨h, nofun⟩
  | some route =>
    have hobject : Triple (amid py around) (I none) (call (.object route.hostId))
        fun r s => I none s ∧ ∀ celld, r = .ok (some celld) → celld = c := by
      refine Triple.perform fun s h => ?_
      exact ⟨life.mild none (.object route.hostId) s trivial h,
        fun celld hcelld => life.objects h route.hostId celld (Except.ok.inj hcelld)⟩
    refine hobject.bind (fun object => .of_prop fun hc => ?_) fun _ _ h => ⟨h.1, nofun⟩
    cases object with
    | none => exact Triple.throw fun _ h => ⟨h, nofun⟩
    | some celld =>
      refine Triple.pure fun _ h => ⟨h, fun celld' hcelld' => ?_⟩
      cases hcelld'
      exact hc celld rfl

theorem deliver (life : CellLife py around c I J H) (sid : String) (send : Send) :
    Triple (amid py around) (I none) (send.deliver sid : Code T (ℕ × Celld))
      fun r s => I none s ∧ ∀ delivered, r = .ok delivered → delivered.2 = c := by
  have hroute := (Gateway.route_within (T := T) sid).mono_calls fun _ h => h.mild
  refine ((life.mild none).triple hroute).bind (fun route => ?_) fun _ _ h => ⟨h, nofun⟩
  refine ((life.mild none).call (d := .enqueueCommand sid send.commandType send.payload.orEmpty
    send.actorResourceId) trivial).bind (fun commandId => ?_) fun _ _ h => ⟨h, nofun⟩
  refine (life.celldForRoute sid).bind (fun celld => .of_prop fun hc => ?_)
    fun _ _ h => ⟨h.1, nofun⟩
  refine Triple.pure fun _ h => ⟨h, fun delivered hdelivered => ?_⟩
  cases hdelivered
  exact hc celld rfl

theorem sendCommand (life : CellLife py around c I J H) (sid : String) (send : Send) :
    Triple (amid py around) (I none) (send.code py sid : Code T Sent) fun _ => I none := by
  rw [Send.code_eq]
  refine (life.deliver sid send).bind (fun delivered => .of_prop fun hc => ?_) fun _ _ h => h.1
  rw [hc delivered rfl]
  exact (life.consumeCommands sid).bind (fun _ => Triple.pure fun _ h => h) fun _ _ h => h

/-- **Every request** keeps what the life of a cell keeps. -/
theorem request (life : CellLife py around c I J H) (request : StackRequest) :
    Triple (amid py around) (I none) (request.code py c) fun _ => I none := by
  have hdrop : ∀ {α : Type} {p : Code T α}, Triple (amid py around) (I none) p (fun _ => I none) →
      Triple (amid py around) (I none) (p.bind fun _ => .pure ()) fun _ => I none :=
    fun hp => hp.bind (fun _ => Triple.pure fun _ h => h) fun _ _ h => h
  cases request with
  | createSession tenantId metadata =>
    refine hdrop (((life.mild none).call
      (d := .createSession tenantId none none metadata.orEmpty) trivial).bind (fun sid => ?_)
      fun _ _ h => h)
    exact life.placeSession.bind (fun _ => Triple.pure fun _ h => h) fun _ _ h => h
  | channelSession request => exact hdrop (life.channelSession request)
  | sendCommand sid send => exact hdrop (life.sendCommand sid send)
  | destroyCell sid => exact life.destroyCell sid
  | reconstructCell sid =>
    exact hdrop ((life.reconstructCell sid).weaken (fun _ h => h) fun _ _ h => h.1)

/-- Along any requests it is kept. -/
theorem serveAll (life : CellLife py around c I J H) (requests : List StackRequest)
    (h : I none s) : I none (StackRequest.serveAll py around c requests s) := by
  induction requests generalizing s with
  | nil => exact h
  | cons request rest ih => exact ih (life.request request s h)

end CellLife

end Life

/-! ## Live cells are apart -/

section Laid

variable (py : Py)

/-- An id that has been drawn and is on no row of revoked tokens. -/
structure Good (k : ℕ) (w : World T) : Prop where
  drawn : k < w.drawn .jti
  unrevoked : ∀ row ∈ w.store.revokedTokens, row.jti ≠ py.uuid4 .jti k

variable (c : Celld)

/-- The token of a cell, neither expired nor wrong, that nobody has revoked. -/
def Unrevoked (sid token : String) (w : World T) : Prop :=
  ∃ k t, token = c.tokenOf py sid k t ∧ Good py k w

/-- A local stack: the token of a live cell is not revoked, and no two sessions
share its id. -/
structure Stacked (w : World T) : Prop where
  callback : w.callbacks c.hostId = some (.celld c)
  objects : ∀ h object, w.objects h = some object → object = c
  hosts : ∀ host ∈ w.store.cellHosts, host.hostId = c.hostId
  rows : ∀ row ∈ w.store.revokedTokens, ∃ k, k < w.drawn .jti ∧ row.jti = py.uuid4 .jti k
  cells : ∀ sid cell, w.cells c.ref sid = some cell → Unrevoked py c sid cell.jwt w
  apart : ∀ sid sid' cell cell' k t t', w.cells c.ref sid = some cell →
    w.cells c.ref sid' = some cell' → cell.jwt = c.tokenOf py sid k t →
      cell'.jwt = c.tokenOf py sid' k t' → sid = sid'

/-- No two live cells share a state, and the next cell built gets a new one. -/
structure Placed (w : World T) : Prop where
  allocated : ∀ sid cell, w.cells c.ref sid = some cell → cell.addr < w.nextAddr
  distinct : ∀ sid sid' cell cell', w.cells c.ref sid = some cell →
    w.cells c.ref sid' = some cell' → cell.addr = cell'.addr → sid = sid'

/-- A token whose id no live cell has. -/
def Unshared (sid token : String) (w : World T) : Prop :=
  ∃ k t, token = c.tokenOf py sid k t ∧ Good py k w ∧
    ∀ sid' cell t', w.cells c.ref sid' = some cell → cell.jwt ≠ c.tokenOf py sid' k t'

/-- A state that no live cell has. -/
structure Vacant (cell : Cell) (w : World T) : Prop where
  allocated : cell.addr < w.nextAddr
  vacant : ∀ sid cell', w.cells c.ref sid = some cell' → cell'.addr ≠ cell.addr

end Laid

section Keep

variable {py : Py} {c : Celld} {w w' : World T} {k : ℕ} {sid token : String}

theorem Good.steady (h : Steady c w w') (hgood : Good py k w) : Good py k w' where
  drawn := hgood.drawn.trans_le h.drawn
  unrevoked row hrow := hgood.unrevoked row (h.revoked row hrow)

theorem Unrevoked.steady (h : Steady c w w') (htoken : Unrevoked py c sid token w) :
    Unrevoked py c sid token w' := by
  obtain ⟨k, t, htoken, hgood⟩ := htoken
  exact ⟨k, t, htoken, hgood.steady h⟩

theorem Unshared.steady (h : Steady c w w') (hfree : Unshared py c sid token w) :
    Unshared py c sid token w' := by
  obtain ⟨k, t, htoken, hgood, hnone⟩ := hfree
  exact ⟨k, t, htoken, hgood.steady h, fun sid' cell t' hcell =>
    hnone sid' cell t' (h.cells sid' cell hcell)⟩

theorem Stacked.steady (h : Stacked py c w) (hw : Steady c w w') : Stacked py c w' where
  callback := by rw [hw.callbacks, h.callback]
  objects := by rw [hw.objects]; exact h.objects
  hosts := by rw [hw.hosts]; exact h.hosts
  rows row hrow := by
    obtain ⟨k, hk, hjti⟩ := h.rows row (hw.revoked row hrow)
    exact ⟨k, hk.trans_le hw.drawn, hjti⟩
  cells sid cell hcell := (h.cells sid cell (hw.cells sid cell hcell)).steady hw
  apart sid sid' cell cell' k t t' hcell hcell' :=
    h.apart sid sid' cell cell' k t t' (hw.cells sid cell hcell) (hw.cells sid' cell' hcell')

theorem Placed.steady (h : Placed c w) (hw : Steady c w w') (haddr : w.nextAddr ≤ w'.nextAddr) :
    Placed c w' where
  allocated sid cell hcell := (h.allocated sid cell (hw.cells sid cell hcell)).trans_le haddr
  distinct sid sid' cell cell' hcell hcell' :=
    h.distinct sid sid' cell cell' (hw.cells sid cell hcell) (hw.cells sid' cell' hcell')

theorem Vacant.steady {cell : Cell} (h : Vacant c cell w) (hw : Steady c w w')
    (haddr : w.nextAddr ≤ w'.nextAddr) : Vacant c cell w' where
  allocated := h.allocated.trans_le haddr
  vacant sid cell' hcell' := h.vacant sid cell' (hw.cells sid cell' hcell')

/-- A token with the id to be drawn next is no live cell's. -/
theorem Stacked.fresh (h : Stacked py c w) {cell : Cell} {t : ℤ}
    (hcell : w.cells c.ref sid = some cell) :
    cell.jwt ≠ c.tokenOf py sid (w.drawn .jti) t := by
  intro hjwt
  obtain ⟨k, t', hjwt', hgood⟩ := h.cells sid cell hcell
  exact absurd (Celld.tokenOf_inj (hjwt'.symm.trans hjwt)).1 (Nat.ne_of_lt hgood.drawn)

variable [Field T] [LinearOrder T]

/-- A lease is taken. -/
theorem Stacked.lease (h : Stacked py c w) (sid hostId : String) (ttl : ℤ) :
    Stacked py c (exec py (.createLease sid hostId ttl) w).2 where
  callback := by
    rw [exec_callbacks py _ rfl]
    exact h.callback
  objects := by
    rw [exec_objects py _ rfl]
    exact h.objects
  hosts := by
    refine World.commit_store (w := w.draw .leaseToken)
      (P := fun st => ∀ host ∈ st.cellHosts, host.hostId = c.hostId) h.hosts fun b st hr => ?_
    obtain ⟨-, -, -, rfl⟩ := Store.createLease_ok hr
    intro host hhost
    obtain ⟨host₀, hhost₀, rfl⟩ := List.mem_map.mp hhost
    split <;> exact h.hosts host₀ hhost₀
  rows row hrow := by
    rw [exec_revoked py _ rfl] at hrow
    obtain ⟨k, hk, hjti⟩ := h.rows row hrow
    exact ⟨k, hk.trans_le (exec_drawn_le py w .jti), hjti⟩
  cells sid' cell hcell := by
    rw [exec_cells py _ rfl] at hcell
    obtain ⟨k, t, htoken, hgood⟩ := h.cells sid' cell hcell
    refine ⟨k, t, htoken, hgood.drawn.trans_le (exec_drawn_le py w .jti), ?_⟩
    rw [exec_revoked py _ rfl]
    exact hgood.unrevoked
  apart := by
    rw [exec_cells py _ rfl]
    exact h.apart

/-- A cell is registered whose token no other has. -/
theorem Stacked.register (h : Stacked py c w) {cell : Cell}
    (hfree : Unshared py c sid cell.jwt w) :
    Stacked py c (exec py (.cellsSet c.ref sid cell) w).2 := by
  obtain ⟨k, t, htoken, hgood, hnone⟩ := hfree
  have hfresh : ∀ {k' sid' cell' t' t''}, cell.jwt = c.tokenOf py sid k' t' →
      w.cells c.ref sid' = some cell' → cell'.jwt ≠ c.tokenOf py sid' k' t'' := by
    intro k' sid' cell' t' t'' hjwt hold
    rw [← (Celld.tokenOf_inj (htoken.symm.trans hjwt)).1]
    exact hnone sid' cell' t'' hold
  exact {
    callback := h.callback
    objects := h.objects
    hosts := h.hosts
    rows := h.rows
    cells := by
      intro sid' cell' hcell'
      rcases exec_cellsSet_some hcell' with ⟨rfl, rfl⟩ | ⟨-, hold⟩
      · exact ⟨k, t, htoken, hgood.drawn, hgood.unrevoked⟩
      · obtain ⟨k', t', htoken', hgood'⟩ := h.cells sid' cell' hold
        exact ⟨k', t', htoken', hgood'.drawn, hgood'.unrevoked⟩
    apart := by
      intro sid₁ sid₂ cell₁ cell₂ k' t₁ t₂ h₁ h₂ htoken₁ htoken₂
      rcases exec_cellsSet_some h₁ with ⟨rfl, rfl⟩ | ⟨-, hold₁⟩
      · rcases exec_cellsSet_some h₂ with ⟨rfl, rfl⟩ | ⟨-, hold₂⟩
        · rfl
        · exact absurd htoken₂ (hfresh htoken₁ hold₂)
      · rcases exec_cellsSet_some h₂ with ⟨rfl, rfl⟩ | ⟨-, hold₂⟩
        · exact absurd htoken₁ (hfresh htoken₂ hold₁)
        · exact h.apart sid₁ sid₂ cell₁ cell₂ k' t₁ t₂ hold₁ hold₂ htoken₁ htoken₂ }

/-- A cell is registered whose state no other has. -/
theorem Placed.register (h : Placed c w) {cell : Cell} (hvacant : Vacant c cell w) :
    Placed c (exec py (.cellsSet c.ref sid cell) w).2 where
  allocated sid' cell' hcell' := by
    rcases exec_cellsSet_some hcell' with ⟨rfl, rfl⟩ | ⟨-, hold⟩
    · exact hvacant.allocated
    · exact h.allocated sid' cell' hold
  distinct sid₁ sid₂ cell₁ cell₂ h₁ h₂ heq := by
    rcases exec_cellsSet_some h₁ with ⟨rfl, rfl⟩ | ⟨-, hold₁⟩
    · rcases exec_cellsSet_some h₂ with ⟨rfl, rfl⟩ | ⟨-, hold₂⟩
      · rfl
      · exact absurd heq.symm (hvacant.vacant sid₂ cell₂ hold₂)
    · rcases exec_cellsSet_some h₂ with ⟨rfl, rfl⟩ | ⟨-, hold₂⟩
      · exact absurd heq (hvacant.vacant sid₁ cell₁ hold₁)
      · exact h.distinct sid₁ sid₂ cell₁ cell₂ hold₁ hold₂ heq

/-- An id is revoked that no live cell has. -/
theorem Stacked.revoke (h : Stacked py c w) (hk : k < w.drawn .jti)
    (hnone : ∀ sid cell t, w.cells c.ref sid = some cell → cell.jwt ≠ c.tokenOf py sid k t)
    (exp : T) : Stacked py c (exec py (.revokeToken (py.uuid4 .jti k) exp) w).2 where
  callback := h.callback
  objects := h.objects
  hosts := by
    rw [exec_hosts py _ rfl]
    exact h.hosts
  rows row hrow := by
    rcases Store.mem_revokeToken hrow with hold | rfl
    · exact h.rows row hold
    · exact ⟨k, hk, rfl⟩
  cells sid cell hcell := by
    obtain ⟨k', t, htoken, hgood⟩ := h.cells sid cell hcell
    refine ⟨k', t, htoken, hgood.drawn, fun row hrow hjti => ?_⟩
    rcases Store.mem_revokeToken hrow with hold | rfl
    · exact hgood.unrevoked row hold hjti
    · obtain rfl := (py.uuid4_inj hjti).2
      exact hnone sid cell t hcell htoken
  apart := h.apart

variable {around : Surroundings T} {s : Ticking T}

/-- The token of a cell that is taken out was its own. -/
theorem Stacked.destroy (h : Stacked py c s.world) {cell : Cell}
    (hfound : (around.met s).cells c.ref sid = some cell) :
    ∃ k t, cell.jwt = c.tokenOf py sid k t ∧
      Stacked py c (amid py around
        (.revokeToken (py.uuid4 .jti k) ((SessionJWT.expiry t 3600 : ℤ) : T))
        (amid py around (.cellsPop c.ref sid) s).2).2.world := by
  have hlive := Surroundings.met_cells hfound
  obtain ⟨k, t, htoken, hgood⟩ := h.cells sid cell hlive
  refine ⟨k, t, htoken, ?_⟩
  let s₁ := (amid py around (.cellsPop c.ref sid) s).2
  have hpop : Stacked py c (around.met s₁) :=
    (h.steady (amid_steady (d := .cellsPop c.ref sid) trivial)).steady met_steady
  refine hpop.revoke (hgood.drawn.trans_le
    (exec_drawn_le py (around.met s) (c := .cellsPop c.ref sid) .jti)) ?_ _
  intro sid' cell' t' hcell' hjwt
  have hrest : (exec py (.cellsPop c.ref sid) (around.met s)).2.cells c.ref sid' = some cell' :=
    Surroundings.met_cells hcell'
  obtain ⟨hne, hold⟩ := exec_cellsPop_some hrest
  exact hne (h.apart sid sid' cell cell' k t t' hlive (Surroundings.met_cells hold) htoken
    hjwt).symm

end Keep

section Last

variable [Field T] [LinearOrder T] [IsStrictOrderedRing T] [FloorRing T] {py : Py}
  {around : Surroundings T} {c : Celld} {sid : String} {s : Ticking T}

omit [IsStrictOrderedRing T] [FloorRing T] in
theorem amid_nextAddr_le (d : Call T) (s : Ticking T) :
    s.world.nextAddr ≤ (amid py around d s).2.world.nextAddr :=
  exec_nextAddr_le d (around.met s)

/-- The token of a cell just built is unrevoked, and no live cell has its id. -/
theorem Stacked.build (h : Stacked py c s.world) (site : ClockSite) (sid : String) :
    Unshared py c sid (c.build py around site sid s).1.jwt (c.build py around site sid s).2.world := by
  have hsteady : Steady c s.world (c.build py around site sid s).2.world :=
    ((amid_steady (d := .time site) trivial).trans (amid_steady (d := .uuid4 .jti) trivial)).trans
      (amid_steady (d := .newCell sid (c.build py around site sid s).1.jwt) trivial)
  have hdrawn : (c.build py around site sid s).2.world.drawn .jti = s.world.drawn .jti + 1 :=
    World.draw_self .jti
  refine ⟨s.world.drawn .jti, _, rfl, ⟨?_, fun row hrow hjti => ?_⟩, fun sid' cell t' hcell =>
    h.fresh (hsteady.cells sid' cell hcell)⟩
  · exact hdrawn ▸ Nat.lt_succ_self _
  · obtain ⟨k', hk', hjti'⟩ := h.rows row (hsteady.revoked row hrow)
    exact absurd (py.uuid4_inj (hjti'.symm.trans hjti)).2 (Nat.ne_of_lt hk')

/-- Nor does one have its state. -/
theorem Placed.build (h : Placed c s.world) (site : ClockSite) (sid : String) :
    Vacant c (c.build py around site sid s).1 (c.build py around site sid s).2.world where
  allocated := Nat.lt_succ_self s.world.nextAddr
  vacant sid' cell hcell := by
    have hlive := Surroundings.met_cells (Surroundings.met_cells (Surroundings.met_cells hcell))
    exact Nat.ne_of_lt (h.allocated sid' cell hlive)

/-- **Live cells stay apart** through all that the programs do. -/
theorem life_laid : CellLife py around c
    (fun _ s => Stacked py c s.world ∧ Placed c s.world)
    (fun sid cell s => Unshared py c sid cell.jwt s.world ∧ Vacant c cell s.world)
    (fun sid cell s => Unrevoked py c sid cell.jwt s.world) where
  mild _ d s hd h :=
    ⟨h.1.steady (amid_steady hd), h.2.steady (amid_steady hd) (amid_nextAddr_le d s)⟩
  mild_built _ _ d s hd h :=
    ⟨h.1.steady (amid_steady hd), h.2.steady (amid_steady hd) (amid_nextAddr_le d s)⟩
  mild_used _ _ _ _ hd h := h.steady (amid_steady hd)
  callback h := h.1.callback
  objects h := h.1.objects
  hosts h := h.1.hosts
  build site sid h := ⟨h.1.build site sid, h.2.build site sid⟩
  register {_ s sid cell} _ h hbuilt := by
    have hfree : Unshared py c sid cell.jwt (around.met s) := hbuilt.1.steady met_steady
    have hstacked : Stacked py c (around.met s) := h.1.steady met_steady
    have hplaced : Placed c (around.met s) := h.2.steady met_steady (Nat.le_refl _)
    have hvacant : Vacant c cell (around.met s) := hbuilt.2.steady met_steady (Nat.le_refl _)
    have hafter : Placed c (exec py (.cellsSet c.ref sid cell) (around.met s)).2 :=
      hplaced.register hvacant
    obtain ⟨k, t, htoken, hgood, hnone⟩ := hfree
    exact ⟨⟨hstacked.register ⟨k, t, htoken, hgood, hnone⟩, hafter⟩,
      k, t, htoken, hgood.drawn, hgood.unrevoked⟩
  found h hcell := h.1.cells _ _ hcell
  lease {s} sid hostId h := by
    have hstacked : Stacked py c (around.met s) := h.1.steady met_steady
    have hplaced : Placed c (around.met s) := h.2.steady met_steady (Nat.le_refl _)
    have hcells : (exec py (.createLease sid hostId 3600) (around.met s)).2.cells =
        (around.met s).cells := exec_cells py _ rfl
    have hafter : Placed c (exec py (.createLease sid hostId 3600) (around.met s)).2 := by
      refine ⟨fun sid' cell hcell => ?_, ?_⟩
      · rw [hcells] at hcell
        exact (hplaced.allocated sid' cell hcell).trans_le (exec_nextAddr_le _ _)
      · rw [hcells]
        exact hplaced.distinct
    split <;> exact ⟨hstacked.lease sid hostId 3600, hafter⟩
  destroy {s sid _} h hfound := by
    obtain ⟨k, t, htoken, hafter⟩ := h.1.destroy hfound
    refine ⟨k, t, htoken, hafter, ?_⟩
    have hpop : Placed c (amid py around (.cellsPop c.ref sid) s).2.world :=
      h.2.steady (amid_steady (d := .cellsPop c.ref sid) trivial) (amid_nextAddr_le _ s)
    have hmet : Placed c (around.met (amid py around (.cellsPop c.ref sid) s).2) :=
      hpop.steady met_steady (Nat.le_refl _)
    exact ⟨hmet.allocated, hmet.distinct⟩

theorem stacked_localWorld (cwd : List String) (clock : T) (files : Files) :
    Stacked py (localCelld cwd) (localWorld py cwd clock files) where
  callback := rfl
  objects := (stackInv_localWorld cwd clock clock files).objects
  hosts := by
    intro host hhost
    have hrows : (localWorld py cwd clock files).store.cellHosts.rows =
        [Store.newCellHost clock (py.uuid4 .cellHost 0) "cell-local" "local" "inproc://cell" 100
          .null] := rfl
    have hmem : host ∈ (localWorld py cwd clock files).store.cellHosts.rows := hhost
    rw [hrows] at hmem
    rw [List.mem_singleton.mp hmem]
    rfl
  rows := fun row hrow => nomatch hrow
  cells := fun sid cell hcell => nomatch hcell
  apart := fun _ _ _ _ _ _ _ hcell => nomatch hcell

omit [IsStrictOrderedRing T] [FloorRing T] in
theorem placed_localWorld (cwd : List String) (clock : T) (files : Files) :
    Placed (localCelld cwd) (localWorld py cwd clock files) where
  allocated := fun _ _ hcell => nomatch hcell
  distinct := fun _ _ _ _ hcell => nomatch hcell

end Last

end Nadi
