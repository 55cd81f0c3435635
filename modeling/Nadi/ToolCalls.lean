import Nadi.CellLife

/-!
# A session that can be reached can call tools

On a local stack requests are served one after the other, while time passes and
the daemon loses cells. The token of a live cell is signed after the lease of its
session is taken, both for an hour, and truncation gains no second; it is revoked
when the cell is destroyed, and no other cell has it.

- `routable_calls_tools`: whenever a command for a tool comes up, and the lease of
  its session has not ended, the token is accepted.
-/

namespace Nadi

open Effect

variable {T : Type}

/-! ## Coming to a tool -/

section Runs

variable [Field T] [LinearOrder T] [IsStrictOrderedRing T] [FloorRing T] (py : Py)
  (around : Surroundings T) (c : Celld)

/-- `consume_commands`, begun in state `s`, has come to `execute_tool` in state
`s'`: it has found or rebuilt the cell, claimed a batch, handled the commands
before this one and recorded that it is received; and this one is for a tool. -/
structure Celld.AtTool (sid : String) (s s' : Ticking T) (cell : Cell) (cmd : CommandRow T)
    (name args : Json) : Prop where
  reached : ∃ s₁ s₂ s₃ before after events event,
    (c.liveCell py sid).run (amid py around) s = (.ok cell, s₁) ∧
    (call (.claimPendingCommands sid c.hostId)).run (amid py around) s₁ =
      (.ok (before ++ cmd :: after), s₂) ∧
    (c.consumeLoop py sid cell.jwt before).run (amid py around) s₂ = (.ok events, s₃) ∧
    (c.appendEvent sid "command.received" (received cmd)).run (amid py around) s₃ =
      (.ok event, s')
  tool : cmd.commandType = "tool"
  name : cmd.payload.get "name" (.str "echo") = .ok name
  args : cmd.payload.get "args" .null = .ok args

theorem Celld.consumeLoop_append (sid token : String) (before after : List (CommandRow T)) :
    c.consumeLoop py sid token (before ++ after) =
      (c.consumeLoop py sid token before).bind fun events =>
        (c.consumeLoop py sid token after).bind fun more => .pure (events ++ more) := by
  induction before with
  | nil =>
    show c.consumeLoop py sid token after = (c.consumeLoop py sid token after).bind .pure
    exact (Prog.bind_pure _).symm
  | cons cmd rest ih =>
    simp only [List.cons_append, Celld.consumeLoop, Prog.bind_eq, Prog.pure_eq, ih,
      Prog.bind_assoc, Prog.pure_bind, List.append_assoc]

/-- There it makes the calls of `execute_tool`, with the token of the cell. -/
theorem Celld.AtTool.calls {c : Celld} {sid : String} {s s' : Ticking T} {cell : Cell}
    {cmd : CommandRow T} {name args : Json} (h : c.AtTool py around sid s s' cell cmd name args) :
    ∃ earlier later, (c.consumeCommands py sid).calls (amid py around) s = earlier ++
      (c.sandboxd.executeTool py sid cell.jwt (name.pyStr py) args.orEmpty).calls (amid py around)
        s' ++ later := by
  obtain ⟨s₁, s₂, s₃, before, after, events, event, hlive, hclaim, hbefore, hreceived⟩ := h.reached
  have hhandle : ∃ f, (Runtime.handle py c.sandboxd sid cell.jwt cmd.commandType cmd.payload :
      Code T (List (String × Json))) =
        (c.sandboxd.executeTool py sid cell.jwt (name.pyStr py) args.orEmpty).bind f := by
    unfold Runtime.handle
    rw [h.tool, if_neg (by decide), if_neg (by decide), if_pos rfl, h.name, h.args]
    exact ⟨_, rfl⟩
  obtain ⟨f, hf⟩ := hhandle
  unfold Celld.consumeCommands
  simp only [Prog.bind_eq]
  rw [Prog.calls_bind_ok _ hlive, Prog.calls_bind_ok _ hclaim, Celld.consumeLoop_append,
    Prog.calls_bind_ok _ hbefore, Celld.consumeLoop]
  simp only [Prog.bind_eq, Prog.bind_assoc]
  rw [Prog.calls_bind_ok _ hreceived, hf, Prog.bind_assoc]
  obtain ⟨later, hlater⟩ := Prog.calls_bind (amid py around)
    (c.sandboxd.executeTool py sid cell.jwt (name.pyStr py) args.orEmpty) _ s'
  rw [hlater]
  simp only [← List.append_assoc]
  exact ⟨_, _, rfl⟩

end Runs

/-! ## Tokens and leases -/

section Tokens

variable (py : Py)

variable [Field T] [LinearOrder T] [IsStrictOrderedRing T] [FloorRing T]

/-- A token signed in the second `t` is good as long as the lease runs. -/
def Store.Outlived (st : Store T) (sid : String) (t : ℤ) : Prop :=
  ∀ l, st.sessionLeases.find? sid = some l → ∀ now < l.expiresAt,
    truncate now ≤ SessionJWT.expiry t 3600

variable (c : Celld)

/-- The token lets the session call tools while its lease runs. -/
def Entitled (sid token : String) (w : World T) : Prop :=
  ∃ k t, token = c.tokenOf py sid k t ∧ Good py k w ∧ w.store.Outlived sid t

/-- A token whose id no live cell has. -/
def Spare (sid token : String) (w : World T) : Prop :=
  ∃ k t, token = c.tokenOf py sid k t ∧ Good py k w ∧ w.store.Outlived sid t ∧
    ∀ sid' cell t', w.cells c.ref sid' = some cell → cell.jwt ≠ c.tokenOf py sid' k t'

/-- A local stack, at a time not before `now`, whose live cells can call tools,
but for the sessions in `but`, which have a lease younger than their cell. -/
structure Routable (but : String → Prop) (now : T) (w : World T) : Prop where
  callback : w.callbacks c.hostId = some (.celld c)
  objects : ∀ h object, w.objects h = some object → object = c
  hosts : ∀ host ∈ w.store.cellHosts, host.hostId = c.hostId
  leases : ∀ l ∈ w.store.sessionLeases, l.expiresAt ≤ now + 3600
  rows : ∀ row ∈ w.store.revokedTokens, ∃ k, k < w.drawn .jti ∧ row.jti = py.uuid4 .jti k
  cells : ∀ sid cell, w.cells c.ref sid = some cell →
    ∃ k t, cell.jwt = c.tokenOf py sid k t ∧ Good py k w ∧ (¬ but sid → w.store.Outlived sid t)
  apart : ∀ sid sid' cell cell' k t t', w.cells c.ref sid = some cell →
    w.cells c.ref sid' = some cell' → cell.jwt = c.tokenOf py sid k t →
      cell'.jwt = c.tokenOf py sid' k t' → sid = sid'

end Tokens

/-! ## What requests keep -/

section Keep

variable {py : Py} {c : Celld} {w w' : World T} {sid token : String} [Field T] [LinearOrder T]
  [IsStrictOrderedRing T] [FloorRing T]

theorem Entitled.steady (h : Steady c w w') (hentitled : Entitled py c sid token w) :
    Entitled py c sid token w' := by
  obtain ⟨k, t, htoken, hgood, hlease⟩ := hentitled
  refine ⟨k, t, htoken, hgood.steady h, ?_⟩
  unfold Store.Outlived
  rw [h.leases]
  exact hlease

theorem Spare.steady (h : Steady c w w') (hspare : Spare py c sid token w) :
    Spare py c sid token w' := by
  obtain ⟨k, t, htoken, hgood, hlease, hnone⟩ := hspare
  refine ⟨k, t, htoken, hgood.steady h, ?_, fun sid' cell t' hcell =>
    hnone sid' cell t' (h.cells sid' cell hcell)⟩
  unfold Store.Outlived
  rw [h.leases]
  exact hlease

theorem Spare.entitled (h : Spare py c sid token w) : Entitled py c sid token w := by
  obtain ⟨k, t, htoken, hgood, hlease, -⟩ := h
  exact ⟨k, t, htoken, hgood, hlease⟩

theorem Spare.unshared (h : Spare py c sid token w) : Unshared py c sid token w := by
  obtain ⟨k, t, htoken, hgood, -, hnone⟩ := h
  exact ⟨k, t, htoken, hgood, hnone⟩

/-- No lease has more than an hour to run, and the token of a live cell lasts as
long as the lease, but for the sessions in `but`. -/
structure Timely (py : Py) (c : Celld) (but : String → Prop) (now : T) (w : World T) : Prop where
  leases : ∀ l ∈ w.store.sessionLeases, l.expiresAt ≤ now + 3600
  covered : ∀ sid cell k t, w.cells c.ref sid = some cell → cell.jwt = c.tokenOf py sid k t →
    ¬ but sid → w.store.Outlived sid t

namespace Routable

variable {but : String → Prop} {now now' : T}

theorem stacked (h : Routable py c but now w) : Stacked py c w where
  callback := h.callback
  objects := h.objects
  hosts := h.hosts
  rows := h.rows
  cells sid cell hcell := by
    obtain ⟨k, t, htoken, hgood, -⟩ := h.cells sid cell hcell
    exact ⟨k, t, htoken, hgood⟩
  apart := h.apart

theorem timely (h : Routable py c but now w) : Timely py c but now w where
  leases := h.leases
  covered sid cell k t hcell htoken hbut := by
    obtain ⟨k', t', htoken', -, hlease⟩ := h.cells sid cell hcell
    obtain ⟨-, rfl⟩ := Celld.tokenOf_inj (htoken.symm.trans htoken')
    exact hlease hbut

/-- Nothing else is to be said. -/
theorem of_timely (h : Stacked py c w) (ht : Timely py c but now w) : Routable py c but now w where
  callback := h.callback
  objects := h.objects
  hosts := h.hosts
  leases := ht.leases
  rows := h.rows
  cells sid cell hcell := by
    obtain ⟨k, t, htoken, hgood⟩ := h.cells sid cell hcell
    exact ⟨k, t, htoken, hgood, ht.covered sid cell k t hcell htoken⟩
  apart := h.apart

/-- The token of a live cell entitles, but for the sessions in `but`. -/
theorem entitled (h : Routable py c but now w) {cell : Cell} (hbut : ¬ but sid)
    (hcell : w.cells c.ref sid = some cell) : Entitled py c sid cell.jwt w := by
  obtain ⟨k, t, htoken, hgood, hlease⟩ := h.cells sid cell hcell
  exact ⟨k, t, htoken, hgood, hlease hbut⟩

end Routable

namespace Timely

variable {but : String → Prop} {now now' : T}

theorem steady (h : Timely py c but now w) (hw : Steady c w w') (hnow : now ≤ now') :
    Timely py c but now' w' where
  leases := by
    rw [hw.leases]
    exact fun l hl => (h.leases l hl).trans (add_le_add_left hnow 3600)
  covered sid cell k t hcell htoken hbut := by
    unfold Store.Outlived
    rw [hw.leases]
    exact h.covered sid cell k t (hw.cells sid cell hcell) htoken hbut

/-- A lease is taken; the token of a live cell may now be older. -/
theorem lease (h : Timely py c but w.clock w) (hbut : ∀ x, ¬ but x) (sid hostId : String) :
    Timely py c (· = sid) w.clock (exec py (.createLease sid hostId 3600) w).2 where
  leases := by
    refine World.commit_store (w := w.draw .leaseToken)
      (P := fun st => ∀ l ∈ st.sessionLeases, l.expiresAt ≤ w.clock + 3600) h.leases
      fun b st hr => ?_
    obtain ⟨-, -, -, rfl⟩ := Store.createLease_ok hr
    intro l hl
    rcases Data.Table.mem_replace.mp hl with ⟨hl, -⟩ | rfl
    · exact h.leases l hl
    · show w.clock + ((3600 : ℤ) : T) ≤ w.clock + 3600
      norm_num
  covered sid' cell k t hcell htoken hne := by
    rw [exec_cells py _ rfl] at hcell
    have hold := h.covered sid' cell k t hcell htoken (hbut sid')
    refine World.commit_store (w := w.draw .leaseToken)
      (P := fun st => st.Outlived sid' t) hold fun b st hr => ?_
    unfold Store.Outlived
    rw [Store.createLease_lease hr, if_neg (Ne.symm hne)]
    exact hold

/-- A cell is registered whose token lasts as long as the lease. -/
theorem register (h : Timely py c but now w) (hbut : ∀ x, but x → x = sid) {cell : Cell}
    (hspare : Spare py c sid cell.jwt w) :
    Timely py c (fun _ => False) now (exec py (.cellsSet c.ref sid cell) w).2 where
  leases := h.leases
  covered sid' cell' k t hcell' htoken _ := by
    rcases exec_cellsSet_some hcell' with ⟨rfl, rfl⟩ | ⟨hne, hold⟩
    · obtain ⟨k', t', htoken', -, hlease, -⟩ := hspare
      obtain ⟨-, rfl⟩ := Celld.tokenOf_inj (htoken.symm.trans htoken')
      exact hlease
    · exact h.covered sid' cell' k t hold htoken fun hb => hne (hbut sid' hb)

end Timely

end Keep

section Programs

variable [Field T] [LinearOrder T] [IsStrictOrderedRing T] [FloorRing T] {py : Py}
  {around : Surroundings T} {c : Celld} {sid : String} {s : Ticking T}

variable (py around c) in
/-- The invariant of a run. -/
def RoutableAt (but : String → Prop) (s : Ticking T) : Prop :=
  Routable py c but (around.now s.reading) s.world

theorem RoutableAt.steady {but : String → Prop} (h : RoutableAt py around c but s) {s' : Ticking T}
    (hw : Steady c s.world s'.world) (hreading : s.reading ≤ s'.reading) :
    RoutableAt py around c but s' :=
  .of_timely (Routable.stacked h |>.steady hw)
    (Routable.timely h |>.steady hw (around.now_mono hreading))

theorem mild_entitled (token : String) : Mild py around fun s => Entitled py c sid token s.world :=
  fun _ _ hd h => h.steady (amid_steady hd)

/-- The token just signed outlives every lease there is. -/
theorem RoutableAt.build {but : String → Prop} (h : RoutableAt py around c but s)
    (site : ClockSite) (sid : String) :
    Spare py c sid (c.build py around site sid s).1.jwt
      (c.build py around site sid s).2.world := by
  have hleases : (c.build py around site sid s).2.world.store.sessionLeases =
      s.world.store.sessionLeases := rfl
  have hunshared : Unshared py c sid (c.build py around site sid s).1.jwt
      (c.build py around site sid s).2.world := (Routable.stacked h).build site sid
  obtain ⟨k, t, htoken, hgood, hnone⟩ := hunshared
  have hsigned : (c.build py around site sid s).1.jwt = c.tokenOf py sid (s.world.drawn .jti)
      (truncate (around.now s.reading)) := rfl
  obtain ⟨-, rfl⟩ := Celld.tokenOf_inj (htoken.symm.trans hsigned)
  refine ⟨k, _, htoken, hgood, fun l hl now hnow => ?_, hnone⟩
  rw [hleases] at hl
  have hle := (Routable.timely h).leases l (Data.Table.find?_eq_some.mp hl).1
  have hadd : truncate (around.now s.reading + 3600) ≤
      truncate (around.now s.reading) + 3600 := by
    have := truncate_add_le (around.now s.reading) 3600
    exact_mod_cast this
  exact (truncate_mono (hnow.le.trans hle)).trans hadd

/-- **The stack stays routable** through all that the programs do. -/
theorem life_routable : CellLife py around c
    (fun placing => RoutableAt py around c (placing = some ·))
    (fun sid cell s => Spare py c sid cell.jwt s.world)
    (fun sid cell s => Entitled py c sid cell.jwt s.world) where
  mild _ _ _ hd h := h.steady (amid_steady hd) (Nat.le_succ _)
  mild_built _ _ _ _ hd h := h.steady (amid_steady hd)
  mild_used _ cell := mild_entitled cell.jwt
  callback h := h.callback
  objects h := h.objects
  hosts h := h.hosts
  build site sid h := h.build site sid
  register {_ s sid cell} hplacing h hspare := by
    -- the token is nobody else's, and the lease that is being placed outlasts it
    have hcalm : Steady c s.world (around.met s) := met_steady
    have hmet := (Routable.timely h).steady hcalm (le_refl _)
    have hfree : Spare py c sid cell.jwt (around.met s) := hspare.steady met_steady
    have hstacked : Stacked py c (around.met s) := (Routable.stacked h).steady met_steady
    have htimely := (hmet.register hplacing hfree).steady (.refl _) (around.now_le s.reading)
    have hrest : Timely py c (none = some ·) (around.now (s.reading + 1))
        (exec py (.cellsSet c.ref sid cell) (around.met s)).2 :=
      ⟨htimely.leases, fun sid' cell' k t hcell' htoken _ =>
        htimely.covered sid' cell' k t hcell' htoken id⟩
    have hafter : Routable py c (none = some ·) (around.now (s.reading + 1))
        (exec py (.cellsSet c.ref sid cell) (around.met s)).2 :=
      .of_timely (hstacked.register hfree.unshared) hrest
    refine ⟨hafter, Routable.entitled hafter nofun ?_⟩
    exact (exec_cellsSet_cells py (around.met s) c.ref c.ref sid sid cell).trans (if_pos ⟨rfl, rfl⟩)
  found h hcell := Routable.entitled h nofun hcell
  lease {s} sid hostId h := by
    have hstacked : Stacked py c (around.met s) := (Routable.stacked h).steady met_steady
    have hmet : Timely py c (none = some ·) (around.met s).clock (around.met s) :=
      (Routable.timely h).steady met_steady (le_refl _)
    cases hres : (amid py around (.createLease sid hostId 3600) s).1 with
    | ok lease =>
      -- the session has a lease and waits for its cell
      have htimely : Timely py c (· = sid) (around.now (s.reading + 1))
          (exec py (.createLease sid hostId 3600) (around.met s)).2 :=
        (hmet.lease (fun _ => nofun) sid hostId).steady (.refl _) (around.now_le s.reading)
      refine .of_timely (hstacked.lease sid hostId 3600) ⟨htimely.leases, ?_⟩
      exact fun sid' cell k t hcell htoken hne =>
        htimely.covered sid' cell k t hcell htoken fun heq => hne (congrArg some heq.symm)
    | error e =>
      have hstate : (amid py around (.createLease sid hostId 3600) s).2.world =
          (around.met s).draw .leaseToken := (World.commit_error hres).2
      refine .of_timely (hstacked.lease sid hostId 3600) (hmet.steady ?_ (around.now_le s.reading))
      rw [hstate]
      exact ⟨rfl, rfl, rfl, rfl, fun _ h => h, Nat.le_refl _, fun _ _ h => h⟩
  destroy {s sid cell} h hfound := by
    obtain ⟨k, t, htoken, hafter⟩ := (Routable.stacked h).destroy hfound
    refine ⟨k, t, htoken, .of_timely hafter ?_⟩
    -- the cell is gone at one reading, and its token revoked at the next
    have hpop : Timely py c (none = some ·) (around.now (s.reading + 1))
        (amid py around (.cellsPop c.ref sid) s).2.world :=
      (Routable.timely h).steady (amid_steady (d := .cellsPop c.ref sid) trivial)
        (around.now_le s.reading)
    have hcalm : Steady c (amid py around (.cellsPop c.ref sid) s).2.world
        (around.met (amid py around (.cellsPop c.ref sid) s).2) := met_steady
    have hmet := hpop.steady hcalm (around.now_le (s.reading + 1))
    refine ⟨?_, fun sid' cell' k' t' hcell' htoken' hbut => ?_⟩
    · exact (exec_leases py (around.met (amid py around (.cellsPop c.ref sid) s).2)
        (c := .revokeToken (py.uuid4 .jti k) ((SessionJWT.expiry t 3600 : ℤ) : T)) rfl) ▸ hmet.leases
    · unfold Store.Outlived
      exact (exec_leases py (around.met (amid py around (.cellsPop c.ref sid) s).2)
        (c := .revokeToken (py.uuid4 .jti k) ((SessionJWT.expiry t 3600 : ℤ) : T)) rfl) ▸
          hmet.covered sid' cell' k' t' hcell' htoken' hbut

theorem routable_localWorld (cwd : List String) (clock : T) (files : Files) :
    RoutableAt py around (localCelld cwd) (none = some ·)
      ⟨0, localWorld py cwd clock files⟩ :=
  .of_timely (stacked_localWorld cwd clock files)
    ⟨(fun _ hl => nomatch hl), fun _ _ _ _ hcell => nomatch hcell⟩

/-- A token that entitles is accepted while the lease runs. -/
theorem Entitled.accepted {token : String} (h : Entitled py c sid token s.world)
    (hjwt : c.sandboxd.jwt = c.jwt) {lease : LeaseRow T}
    (hlease : s.world.store.sessionLeases.find? sid = some lease)
    (hrunning : around.now s.reading < lease.expiresAt) :
    ∃ exp jti s', (c.sandboxd.jwt.verify py token sid "tool").run (amid py around) s =
      (.ok (SessionJWT.claims c.hostId sid "cell tool" exp jti), s') ∧
      truncate (around.now s.reading) ≤ exp ∧
      ∀ row ∈ s.world.store.revokedTokens, row.jti ≠ jti := by
  obtain ⟨k, t, rfl, hgood, hlive⟩ := h
  have hexp := hlive lease hlease (around.now s.reading) hrunning
  let s₁ := (amid py around (.time .verify) s).2
  let s₂ := (amid py around (.isTokenRevoked (py.uuid4 .jti k)) s₁).2
  refine ⟨SessionJWT.expiry t 3600, py.uuid4 .jti k, s₂, ?_, hexp, hgood.unrevoked⟩
  have htime : (call (.time .verify)).run (amid py around) s = (.ok (around.now s.reading), s₁) :=
    rfl
  have hno : ((around.met s₁).store.isTokenRevoked (around.met s₁).clock (py.uuid4 .jti k)).1 =
      false :=
    Store.isTokenRevoked_of_lt fun row hrow hjti => absurd hjti (hgood.unrevoked row hrow)
  have hlook : (call (.isTokenRevoked (py.uuid4 .jti k))).run (amid py around) s₁ =
      (.ok false, s₂) := by
    rw [run_call_amid, ← hno]
    rfl
  have htool : "tool" ∈ splitWords "cell tool" := by decide +kernel
  rw [hjwt]
  unfold Celld.tokenOf
  rw [SessionJWT.verify_sign py c.jwt t (py.uuid4_ne_empty .jti k), Prog.run_bind_ok _ htime,
    if_neg (not_lt.mpr hexp), if_pos rfl, if_pos (.inl htool), Prog.run_bind_ok _ hlook]
  rfl

/-- **A session that can be reached can call tools.** On a new local stack,
requests are served one after the other amid any surroundings. Whenever a command
that is sent then has `consume_commands` come to `execute_tool`, and the lease of
the session has not ended, the token presented is accepted: it is for the session,
has the scope `tool`, has not expired and is not revoked. -/
theorem routable_calls_tools (py : Py) (cwd : List String) (clock : T) (files : Files)
    (around : Surroundings T) (requests : List StackRequest) {sid : String} {send : Send}
    {commandId : ℕ} {celld : Celld} {s₀ s : Ticking T} {cell : Cell} {cmd : CommandRow T}
    {name args : Json} {lease : LeaseRow T}
    (hdeliver : (send.deliver sid).run (amid py around)
      (StackRequest.serveAll py around (localCelld cwd) requests
        ⟨0, localWorld py cwd clock files⟩) = (.ok (commandId, celld), s₀))
    (htool : celld.AtTool py around sid s₀ s cell cmd name args)
    (hlease : s.world.store.sessionLeases.find? sid = some lease)
    (hrunning : around.now s.reading < lease.expiresAt) :
    ∃ exp jti s', (celld.sandboxd.jwt.verify py cell.jwt sid "tool").run (amid py around) s =
      (.ok (SessionJWT.claims celld.hostId sid "cell tool" exp jti), s') ∧
      truncate (around.now s.reading) ≤ exp ∧
      ∀ row ∈ s.world.store.revokedTokens, row.jti ≠ jti := by
  have life : CellLife py around (localCelld cwd) _ _ _ := life_routable
  have hstack := life.serveAll requests (routable_localWorld cwd clock files)
  obtain ⟨hbegun, hcelld⟩ := life.deliver sid send _ hstack
  rw [hdeliver] at hbegun hcelld
  obtain rfl : celld = localCelld cwd := hcelld _ rfl
  obtain ⟨s₁, s₂, s₃, before, after, events, event, hlive, hclaim, hbefore, hreceived⟩ :=
    htool.reached
  -- the cell's token entitles, and what follows is mild
  obtain ⟨-, hentitled⟩ := life.liveCell sid s₀ hbegun
  rw [hlive] at hentitled
  have h₁ : Entitled py (localCelld cwd) sid cell.jwt s₁.world := hentitled cell rfl
  have hmild : Mild py around fun s => Entitled py (localCelld cwd) sid cell.jwt s.world :=
    mild_entitled cell.jwt
  have hclaimed : (call (.claimPendingCommands sid (localCelld cwd).hostId) : Code T _).Within
      Call.mild fun _ => True := .perform trivial fun _ => trivial
  have h₂ := hmild.triple hclaimed s₁ h₁
  rw [hclaim] at h₂
  have h₃ := hmild.triple (((localCelld cwd).consumeLoop_within py sid cell.jwt before).mono_calls
    fun _ h => h.mild) s₂ h₂
  rw [hbefore] at h₃
  have h := hmild.triple (((localCelld cwd).appendEvent_within sid "command.received"
    (Celld.received cmd)).mono_calls fun _ h => h.mild) s₃ h₃
  rw [hreceived] at h
  exact Entitled.accepted h rfl hlease hrunning

end Programs

/-! ## At the last moment -/

/-- A session is created half a second after a full second; its first command is
handled an hour later but for a quarter of a second. -/
def lateSurroundings : Surroundings ℚ where
  now := fun n => if n < 12 then 1 / 2 else 3600 + 1 / 4
  files := fun _ => Sample.files
  lost := fun _ _ => false
  now_le := by
    intro n
    split
    · split <;> norm_num
    · rw [if_neg (by omega)]

/-- A command for a tool. -/
def echoTool : Send := ⟨"tool", .obj [("name", .str "echo")], none⟩

/-- The session is created and the command delivered. -/
def lateDelivery : Except PyErr (ℕ × Celld) × Ticking ℚ :=
  (echoTool.deliver "s").run (amid Py.sample lateSurroundings)
    (StackRequest.serveAll Py.sample lateSurroundings (localCelld [])
      [.createSession "local" .null] ⟨0, localWorld Py.sample [] 0 Sample.files⟩)

/-- The lease has a quarter of a second to run, and the token is in its last
second. -/
theorem routable_calls_tools_sample :
    ∃ s cell cmd lease exp jti s',
      (localCelld []).AtTool Py.sample lateSurroundings "s" lateDelivery.2 s cell cmd
        (.str "echo") .null ∧
      s.world.store.sessionLeases.find? "s" = some lease ∧
      lateSurroundings.now s.reading + 1 / 4 = lease.expiresAt ∧
      ((localCelld []).sandboxd.jwt.verify Py.sample cell.jwt "s" "tool").run
        (amid Py.sample lateSurroundings) s =
          (.ok (SessionJWT.claims "cell-local" "s" "cell tool" exp jti), s') := by
  have hdeliver : lateDelivery = (.ok (1, localCelld []), lateDelivery.2) := by
    with_unfolding_all rfl
  let live := ((localCelld []).liveCell Py.sample "s").run (amid Py.sample lateSurroundings)
    lateDelivery.2
  let claimed := (call (.claimPendingCommands "s" "cell-local")).run
    (amid Py.sample lateSurroundings) live.2
  let cell : Cell := ⟨0, "s", (localCelld []).tokenOf Py.sample "s" 0 0⟩
  have hlive : live = (.ok cell, live.2) := by with_unfolding_all rfl
  let cmd : CommandRow ℚ := Store.claimRow (3600 + 1 / 4) "cell-local"
    (Py.sample.uuid4 .claimToken 0)
    (Store.newCommand (3600 + 1 / 4) "s" "tool" echoTool.payload none 1)
  have hclaimed : claimed = (.ok ([] ++ [cmd]), claimed.2) := by with_unfolding_all rfl
  let received := ((localCelld []).appendEvent "s" "command.received" (Celld.received cmd)).run
    (amid Py.sample lateSurroundings) claimed.2
  obtain ⟨event, hreceived⟩ : ∃ event, received = (.ok event, received.2) :=
    ⟨_, by with_unfolding_all rfl⟩
  have htool : (localCelld []).AtTool Py.sample lateSurroundings "s" lateDelivery.2 received.2 cell
      cmd (.str "echo") .null :=
    ⟨⟨live.2, claimed.2, claimed.2, [], [], [], event, hlive, hclaimed, rfl, hreceived⟩,
      rfl, by with_unfolding_all rfl, by with_unfolding_all rfl⟩
  obtain ⟨lease, hlease, hrunning⟩ : ∃ lease, received.2.world.store.sessionLeases.find? "s" =
      some lease ∧ lateSurroundings.now received.2.reading + 1 / 4 = lease.expiresAt :=
    ⟨_, by with_unfolding_all rfl, by decide +kernel⟩
  obtain ⟨exp, jti, s', hverify, -, -⟩ := routable_calls_tools Py.sample [] 0 Sample.files
    lateSurroundings [.createSession "local" .null] hdeliver htool hlease
    (hrunning ▸ by norm_num)
  exact ⟨received.2, cell, cmd, lease, exp, jti, s', htool, hlease, hrunning, hverify⟩

end Nadi
