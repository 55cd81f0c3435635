import Nadi.CellLife
import Nadi.Jobs

/-!
# Requests for other sessions

A request for one session leaves all that concerns another as it was
(`Unmoved`): its row, lease, log and inbox, its live cell and the state of that
cell. Cells are the delicate part, since a request writes to the heap through the
cells it holds; those it finds or builds for its own session are not the cell of
the other (`Elsewhere`).
-/

namespace Nadi

open Effect

variable {T : Type}

/-! ## What concerns a session -/

/-- No event is taken out of the log, nor a command out of the inbox, by number. -/
theorem exec_last_le [Field T] [LinearOrder T] (py : Py) (d : Call T) (w : World T) :
    w.store.events.last ≤ (exec py d w).2.store.events.last ∧
      w.store.commandInbox.last ≤ (exec py d w).2.store.commandInbox.last := by
  cases d with
  | appendEvent sid eventType payload actor =>
    refine World.commit_store (w := w) (P := fun st => w.store.events.last ≤ st.events.last ∧
      w.store.commandInbox.last ≤ st.commandInbox.last) ⟨Nat.le_refl _, Nat.le_refl _⟩
      fun b st hr => ?_
    obtain ⟨-, -, rfl⟩ := Store.appendEvent_ok hr
    exact ⟨Nat.le_succ _, Nat.le_refl _⟩
  | enqueueCommand sid commandType payload actor =>
    refine World.commit_store (w := w) (P := fun st => w.store.events.last ≤ st.events.last ∧
      w.store.commandInbox.last ≤ st.commandInbox.last) ⟨Nat.le_refl _, Nat.le_refl _⟩
      fun b st hr => ?_
    obtain ⟨-, -, -, -, rfl⟩ := Store.enqueueCommand_ok hr
    exact ⟨Nat.le_refl _, Nat.le_succ _⟩
  | claimPendingCommands | completeCommand => exact ⟨Nat.le_refl _, Nat.le_refl _⟩
  | _ =>
    rw [exec_events py w rfl, exec_inbox py w rfl]
    exact ⟨Nat.le_refl _, Nat.le_refl _⟩

/-- All that concerns a session is as it was; others may have been served. -/
structure Unmoved (c : Celld) (sid : String) (w v : World T) : Prop where
  store : w.store.Untouched sid v.store
  hosts : v.store.cellHosts = w.store.cellHosts
  objects : v.objects = w.objects
  cell : v.cells c.ref sid = w.cells c.ref sid
  state : ∀ cell, w.cells c.ref sid = some cell → v.heap cell.addr = w.heap cell.addr
  nextAddr : w.nextAddr ≤ v.nextAddr
  events : w.store.events.last ≤ v.store.events.last
  inbox : w.store.commandInbox.last ≤ v.store.commandInbox.last
  drawn : w.drawn .jti ≤ v.drawn .jti

/-- The calls that have nothing to do with any session. -/
def Call.neutral : Call T → Prop
  | .getEvents .. => True
  | .getRoute _ => True
  | .audit .. => True
  | .revokeToken .. => True
  | .isTokenRevoked _ => True
  | .time _ => True
  | .uuid4 _ => True
  | .files => True
  | .cellsGet .. => True
  | .object _ => True
  | _ => False

section Unmoved

variable {c : Celld} {sid : String} {w v u : World T}

theorem Unmoved.refl (w : World T) : Unmoved c sid w w :=
  ⟨.refl _, rfl, rfl, rfl, fun _ _ => rfl, Nat.le_refl _, Nat.le_refl _, Nat.le_refl _,
    Nat.le_refl _⟩

theorem Unmoved.trans (h : Unmoved c sid w v) (h' : Unmoved c sid v u) : Unmoved c sid w u where
  store := h.store.trans h'.store
  hosts := h'.hosts.trans h.hosts
  objects := h'.objects.trans h.objects
  cell := h'.cell.trans h.cell
  state cell hcell := (h'.state cell (h.cell.trans hcell)).trans (h.state cell hcell)
  nextAddr := h.nextAddr.trans h'.nextAddr
  events := h.events.trans h'.events
  inbox := h.inbox.trans h'.inbox
  drawn := h.drawn.trans h'.drawn

variable [Field T] [LinearOrder T] {py : Py} {d : Call T}

/-- What has to be seen of a call that registers nothing. -/
theorem exec_unmoved (hstore : w.store.Untouched sid (exec py d w).2.store)
    (hhosts : d.writes .hosts = false) (hbroker : d.writes .broker = false)
    (hcell : (exec py d w).2.cells c.ref sid = w.cells c.ref sid)
    (hstate : ∀ cell, w.cells c.ref sid = some cell →
      (exec py d w).2.heap cell.addr = w.heap cell.addr) :
    Unmoved c sid w (exec py d w).2 where
  store := hstore
  hosts := exec_hosts py w hhosts
  objects := exec_objects py w hbroker
  cell := hcell
  state := hstate
  nextAddr := exec_nextAddr_le d w
  events := (exec_last_le py d w).1
  inbox := (exec_last_le py d w).2
  drawn := exec_drawn_le py w .jti

theorem exec_neutral (hd : d.neutral) : Unmoved c sid w (exec py d w).2 := by
  have hwrites : ∀ part ≠ Part.revoked, d.writes part = false := by
    intro part hpart
    cases d <;> first | exact hd.elim | rfl | exact beq_eq_false_iff_ne.mpr hpart
  refine exec_unmoved ⟨?_, ?_, ?_, ?_⟩ (hwrites _ (by decide)) (hwrites _ (by decide)) ?_ ?_
  · rw [exec_sessions py w (hwrites _ (by decide))]
  · unfold Store.eventsOf
    rw [exec_events py w (hwrites _ (by decide))]
  · unfold Store.inboxOf
    rw [exec_inbox py w (hwrites _ (by decide))]
  · rw [exec_leases py w (hwrites _ (by decide))]
  · rw [exec_cells py w (hwrites _ (by decide))]
  · intro cell _
    rw [exec_heap py w (hwrites _ (by decide))]

end Unmoved

/-! ## Surroundings without losses -/

section Calm

variable [Field T] [LinearOrder T] (around : Surroundings T)

/-- The same clock and file system, and no cell is lost. -/
def Surroundings.calm : Surroundings T := { around with lost := fun _ _ => false }

variable {around} {s : Ticking T}

omit [Field T] in
theorem met_unmoved {c : Celld} {sid : String} : Unmoved c sid s.world (around.calm.met s) :=
  ⟨.refl _, rfl, rfl, rfl, fun _ _ => rfl, Nat.le_refl _, Nat.le_refl _, Nat.le_refl _,
    Nat.le_refl _⟩

end Calm

/-! ## A request for another session -/

section Elsewhere

variable (py : Py) (c : Celld) (sid other : String) (w₀ : World T)

/-- A state that is not that of the session's cell. -/
def Foreign (addr : ℕ) : Prop := ∀ cell, w₀.cells c.ref sid = some cell → addr ≠ cell.addr

/-- The calls for another session. Commands are completed by their ids, of which
`ids` are those of that session. -/
def Call.elsewhere (ids : ℕ → Prop) (d : Call T) : Prop :=
  d.about other ids ∧
    match d with
    | .upsertCellHost .. => False
    | .createLease .. => False
    | .setCallback .. => False
    | .setObject .. => False
    | .apply cell .. => Foreign c sid w₀ cell.addr
    | .cellsSet _ s cell => s = other ∧ Foreign c sid w₀ cell.addr
    | .cellsPop _ s => s = other
    | _ => True

theorem Call.ofSandbox.elsewhere {d : Call T} (h : d.ofSandbox) (ids : ℕ → Prop) :
    d.elsewhere c sid other w₀ ids := by
  cases d <;> first | exact h.elim | exact ⟨trivial, trivial⟩

/-- What is kept while the request is served: the session is unmoved, and the cell
of the other is not its. -/
structure Elsewhere (ids : ℕ → Prop) (w : World T) : Prop where
  unmoved : Unmoved c sid w₀ w
  mine : w.store.Mine other ids
  claims : w.ClaimsDrawn py
  cells : ∀ cell, w.cells c.ref other = some cell → Foreign c sid w₀ cell.addr
  built : ∀ cell, w₀.cells c.ref sid = some cell → cell.addr < w.nextAddr

variable {py c sid other w₀} {ids : ℕ → Prop} {w v : World T}

theorem Elsewhere.fresh (h : Elsewhere py c sid other w₀ ids w) : Foreign c sid w₀ w.nextAddr :=
  fun cell hcell => (Nat.ne_of_lt (h.built cell hcell)).symm

variable [Field T] [LinearOrder T] {around : Surroundings T}

/-- One such call leaves the session unmoved. -/
theorem exec_elsewhere (hne : sid ≠ other) {d : Call T} (hd : d.elsewhere c sid other w₀ ids)
    (h : Elsewhere py c sid other w₀ ids w) :
    Elsewhere py c sid other w₀ ids (exec py d w).2 := by
  obtain ⟨habout, hd⟩ := hd
  have hstep : Unmoved c sid w (exec py d w).2 := by
    refine exec_unmoved (exec_untouched py habout h.mine hne) ?_ ?_ ?_ ?_
    · cases d <;> first | exact hd.elim | rfl
    · cases d <;> first | exact hd.elim | rfl
    · cases d with
      | cellsSet ref s cell =>
        obtain ⟨rfl, -⟩ := hd
        rw [exec_cellsSet_cells, if_neg fun heq => hne heq.2]
      | cellsPop ref s =>
        obtain rfl : s = other := hd
        rw [exec_cellsPop_cells, if_neg fun heq => hne heq.2]
      | _ => rw [exec_cells py w rfl]
    · intro mine hmine
      have hmine₀ : w₀.cells c.ref sid = some mine := h.unmoved.cell.symm.trans hmine
      cases d with
      | newCell s token =>
        exact Function.update_of_ne (Nat.ne_of_lt (h.built mine hmine₀)) _ _
      | apply cell eventType payload =>
        rcases exec_apply py w cell eventType payload with ⟨_, -, hx⟩ | ⟨state, -, hx⟩
        · rw [hx]
        · rw [hx]
          exact Function.update_of_ne (hd mine hmine₀).symm _ _
      | _ => rw [exec_heap py w rfl]
  refine ⟨h.unmoved.trans hstep, exec_mine py habout h.mine, exec_claimsDrawn py d h.claims, ?_,
    fun cell hcell => (h.built cell hcell).trans_le hstep.nextAddr⟩
  intro cell hcell
  cases d with
  | cellsSet ref s cell' =>
    obtain ⟨rfl, hforeign⟩ := hd
    rw [exec_cellsSet_cells] at hcell
    split at hcell
    · obtain rfl := Option.some.inj hcell
      exact hforeign
    · exact h.cells cell hcell
  | cellsPop ref s =>
    rw [exec_cellsPop_cells] at hcell
    split at hcell
    · cases hcell
    · exact h.cells cell hcell
  | _ =>
    rw [exec_cells py w rfl] at hcell
    exact h.cells cell hcell

theorem amid_elsewhere (hne : sid ≠ other) {d : Call T} (hd : d.elsewhere c sid other w₀ ids)
    {s : Ticking T} (h : Elsewhere py c sid other w₀ ids s.world) :
    Elsewhere py c sid other w₀ ids (amid py around.calm d s).2.world :=
  exec_elsewhere hne hd (w := around.calm.met s)
    ⟨h.unmoved.trans met_unmoved, h.mine, h.claims, h.cells, h.built⟩

/-- A program of such calls. -/
theorem Elsewhere.within (hne : sid ≠ other) {α : Type} {p : Code T α} {post : α → Prop}
    (hp : p.Within (Call.elsewhere c sid other w₀ ids) post) :
    Triple (amid py around.calm) (fun s => Elsewhere py c sid other w₀ ids s.world) p
      fun _ s => Elsewhere py c sid other w₀ ids s.world :=
  fun _ h => hp.preserves (I := fun s : Ticking T => Elsewhere py c sid other w₀ ids s.world)
    (fun _ _ hd hs => amid_elsewhere hne hd hs) h

end Elsewhere

/-! ## Its programs -/

section Programs

variable [Field T] [LinearOrder T] {py : Py} {around : Surroundings T} {c : Celld}
  {sid other : String} {w₀ : World T} {ids : ℕ → Prop} (hne : sid ≠ other)

include hne

/-- The cell that is found is not the session's. -/
theorem elsewhere_cellsGet :
    Triple (amid py around.calm) (fun s => Elsewhere py c sid other w₀ ids s.world)
      (call (.cellsGet c.ref other)) fun r s => Elsewhere py c sid other w₀ ids s.world ∧
        ∀ cell, r = .ok (some cell) → Foreign c sid w₀ cell.addr := by
  refine Triple.perform fun s h => ⟨amid_elsewhere (d := .cellsGet c.ref other) hne
    ⟨trivial, trivial⟩ h, fun cell hcell => ?_⟩
  exact h.cells cell (Except.ok.inj hcell)

theorem elsewhere_appendEvent (eventType : String) (payload : Json) :
    Triple (amid py around.calm) (fun s => Elsewhere py c sid other w₀ ids s.world)
      (c.appendEvent other eventType payload)
      fun _ s => Elsewhere py c sid other w₀ ids s.world := by
  have happend : (call (.appendEvent other eventType payload.orEmpty none) : Code T _).Within
      (Call.elsewhere c sid other w₀ ids) fun _ => True := .perform ⟨rfl, trivial⟩ fun _ => trivial
  refine (Elsewhere.within hne happend).bind (fun ev => ?_) fun _ _ h => h
  refine (elsewhere_cellsGet hne).bind (fun found => .of_prop fun hfound => ?_) fun _ _ h => h.1
  cases found with
  | none => exact Triple.pure fun _ h => h
  | some cell =>
    have happly : ((call (.apply cell eventType payload.orEmpty)).bind fun _ => .pure ev :
        Code T Event).Within (Call.elsewhere c sid other w₀ ids) fun _ => True :=
      .bind (.perform ⟨trivial, hfound cell rfl⟩ fun _ => trivial) fun _ _ => trivial
    exact Elsewhere.within hne happly

theorem elsewhere_appendEvents (outs : List (String × Json)) :
    Triple (amid py around.calm) (fun s => Elsewhere py c sid other w₀ ids s.world)
      (c.appendEvents other outs) fun _ s => Elsewhere py c sid other w₀ ids s.world := by
  induction outs with
  | nil => exact Triple.pure fun _ h => h
  | cons out rest ih =>
    refine (elsewhere_appendEvent hne out.1 out.2).bind (fun ev => ?_) fun _ _ h => h
    exact ih.bind (fun evs => Triple.pure fun _ h => h) fun _ _ h => h

variable [IsStrictOrderedRing T] [FloorRing T]

theorem elsewhere_reconstructCell :
    Triple (amid py around.calm) (fun s => Elsewhere py c sid other w₀ ids s.world)
      (c.reconstructCell py other : Code T Cell)
      fun _ s => Elsewhere py c sid other w₀ ids s.world := by
  have hsign : (c.jwt.signNow py .reconstructCell other "cell tool" 3600 c.hostId :
      Code T String).Within (Call.elsewhere c sid other w₀ ids) fun _ => True :=
    SessionJWT.signNow_calls py ⟨trivial, trivial⟩ ⟨trivial, trivial⟩ c.jwt other _ _ _
  have hnew : ∀ token, Triple (amid py around.calm)
      (fun s => Elsewhere py c sid other w₀ ids s.world) (call (.newCell other token))
      fun r s => Elsewhere py c sid other w₀ ids s.world ∧
        ∀ cell, r = .ok cell → Foreign c sid w₀ cell.addr := by
    intro token
    refine Triple.perform fun s h => ⟨amid_elsewhere (d := .newCell other token) hne
      ⟨trivial, trivial⟩ h, fun cell hcell => ?_⟩
    obtain rfl := Except.ok.inj hcell
    exact h.fresh
  refine (Elsewhere.within hne hsign).bind (fun token => ?_) fun _ _ h => h
  refine (hnew token).bind (fun cell => .of_prop fun hcell => ?_) fun _ _ h => h.1
  have hrest : ((call (.getEvents other 0)).bind fun events =>
      (Celld.applyEvents cell events).bind fun _ =>
        (call (.cellsSet c.ref other cell)).bind fun _ => .pure cell : Code T Cell).Within
      (Call.elsewhere c sid other w₀ ids) fun _ => True := by
    refine .bind (.perform ⟨trivial, trivial⟩ fun _ => trivial) fun events _ => ?_
    refine .bind (Celld.applyEvents_calls ?_ events) fun _ _ => ?_
    · exact fun _ _ => ⟨trivial, hcell cell rfl⟩
    exact .bind (.perform ⟨trivial, rfl, hcell cell rfl⟩ fun _ => trivial) fun _ _ => trivial
  exact Elsewhere.within hne hrest

theorem elsewhere_liveCell :
    Triple (amid py around.calm) (fun s => Elsewhere py c sid other w₀ ids s.world)
      (c.liveCell py other : Code T Cell)
      fun _ s => Elsewhere py c sid other w₀ ids s.world := by
  refine (elsewhere_cellsGet hne).bind (fun found => .of_prop fun _ => ?_) fun _ _ h => h.1
  cases found with
  | none => exact elsewhere_reconstructCell hne
  | some cell => exact Triple.pure fun _ h => h

theorem elsewhere_consumeLoop (token : String) (cmds : List (CommandRow T))
    (hids : ∀ cmd ∈ cmds, ids cmd.id) :
    Triple (amid py around.calm) (fun s => Elsewhere py c sid other w₀ ids s.world)
      (c.consumeLoop py other token cmds) fun _ s => Elsewhere py c sid other w₀ ids s.world := by
  induction cmds with
  | nil => exact Triple.pure fun _ h => h
  | cons cmd rest ih =>
    have hhandle := (Runtime.handle_within (T := T) py c.sandboxd other token cmd.commandType
      cmd.payload).mono_calls fun d hd => hd.elsewhere c sid other w₀ ids
    have hcomplete : (call (.completeCommand cmd.id) : Code T Unit).Within
        (Call.elsewhere c sid other w₀ ids) fun _ => True :=
      .perform ⟨hids cmd List.mem_cons_self, trivial⟩ fun _ => trivial
    refine (elsewhere_appendEvent hne _ _).bind (fun _ => ?_) fun _ _ h => h
    refine (Elsewhere.within hne hhandle).bind (fun outs => ?_) fun _ _ h => h
    refine (elsewhere_appendEvents hne outs).bind (fun evs => ?_) fun _ _ h => h
    refine (Elsewhere.within hne hcomplete).bind (fun _ => ?_) fun _ _ h => h
    exact (ih fun cmd hcmd => hids cmd (List.mem_cons_of_mem _ hcmd)).bind
      (fun _ => Triple.pure fun _ h => h) fun _ _ h => h

omit [Field T] [LinearOrder T] [IsStrictOrderedRing T] [FloorRing T] hne in
/-- Nothing needs to be known of the ids any more. -/
theorem Elsewhere.forget {w : World T} (h : Elsewhere py c sid other w₀ ids w) :
    Elsewhere py c sid other w₀ (fun _ => False) w :=
  ⟨h.unmoved, fun _ _ hid => hid.elim, h.claims, h.cells, h.built⟩

theorem elsewhere_consumeCommands :
    Triple (amid py around.calm)
      (fun s => Elsewhere py c sid other w₀ (fun _ => False) s.world)
      (c.consumeCommands py other : Code T (List Event))
      fun _ s => Elsewhere py c sid other w₀ (fun _ => False) s.world := by
  -- the commands that are claimed are of the other session
  have hclaim : Triple (amid py around.calm)
      (fun s => Elsewhere py c sid other w₀ (fun _ => False) s.world)
      (call (.claimPendingCommands other c.hostId)) fun r s =>
        match r with
        | .ok cmds => Elsewhere py c sid other w₀ (fun id => ∃ cmd ∈ cmds, cmd.id = id) s.world
        | .error _ => Elsewhere py c sid other w₀ (fun _ => False) s.world := by
    refine Triple.perform fun s h => ?_
    have hcall : (.claimPendingCommands other c.hostId : Call T).elsewhere c sid other w₀
        fun _ => False := ⟨rfl, trivial⟩
    have hkept : Elsewhere py c sid other w₀ (fun _ => False)
        (amid py around.calm (.claimPendingCommands other c.hostId) s).2.world :=
      amid_elsewhere hne hcall h
    have hmine : ∀ cmds, (amid py around.calm (.claimPendingCommands other c.hostId) s).1 = .ok cmds →
        _ := fun cmds hcmds => exec_claim_mine py (w := around.calm.met s) h.claims hcmds
    cases hr : (amid py around.calm (.claimPendingCommands other c.hostId) s).1 with
    | ok cmds => exact ⟨hkept.unmoved, hmine cmds hr, hkept.claims, hkept.cells, hkept.built⟩
    | error e => exact hkept
  refine (elsewhere_liveCell hne).bind (fun cell => ?_) fun _ _ h => h
  refine hclaim.bind (fun cmds => ?_) fun _ _ h => h
  refine (elsewhere_consumeLoop hne cell.jwt cmds fun cmd hcmd => ⟨cmd, hcmd, rfl⟩).weaken
    (fun _ h => h) fun _ _ h => h.forget

omit [IsStrictOrderedRing T] [FloorRing T] in
theorem elsewhere_destroyCell :
    Triple (amid py around.calm) (fun s => Elsewhere py c sid other w₀ ids s.world)
      (c.destroyCell py other : Code T Unit)
      fun _ s => Elsewhere py c sid other w₀ ids s.world := by
  have hdestroy : (c.destroyCell py other : Code T Unit).Within
      (Call.elsewhere c sid other w₀ ids) fun _ => True := by
    unfold Celld.destroyCell
    refine .bind (.perform ⟨trivial, rfl⟩ fun _ => trivial) fun found _ => ?_
    cases found with
    | none => trivial
    | some cell =>
      have hrevoke : (Celld.revokeTokenOf py cell : Code T Unit).Within
          (Call.elsewhere c sid other w₀ ids) fun _ => True := by
        unfold Celld.revokeTokenOf
        split
        · exact .perform ⟨trivial, trivial⟩ fun _ => trivial
        · trivial
      exact .bind hrevoke fun _ _ => .perform ⟨rfl, trivial⟩ fun _ => trivial
  exact Elsewhere.within hne hdestroy

omit [Field T] [LinearOrder T] [IsStrictOrderedRing T] [FloorRing T] hne in
theorem deliver_elsewhere (send : Send) :
    (send.deliver other : Code T (ℕ × Celld)).Within (Call.elsewhere c sid other w₀ ids)
      fun _ => True := by
  have hrouting : ∀ d : Call T, d.ofRouting other → d.elsewhere c sid other w₀ ids := by
    intro d hd
    cases d <;> first | exact hd.elim | exact ⟨trivial, trivial⟩
  unfold Send.deliver
  refine .bind ((Gateway.route_within other).mono_calls hrouting) fun route _ => ?_
  refine .bind (.perform ⟨rfl, trivial⟩ fun _ => trivial) fun commandId _ => ?_
  exact .bind ((Broker.celldForRoute_within other).mono_calls hrouting) fun celld _ => trivial

theorem elsewhere_sendCommand (send : Send) :
    Triple (amid py around.calm)
      (fun s => Elsewhere py c sid other w₀ (fun _ => False) s.world ∧ Stacked py c s.world ∧
        Placed c s.world)
      (send.code py other : Code T Sent)
      fun _ s => Elsewhere py c sid other w₀ (fun _ => False) s.world := by
  have life : CellLife py around.calm c _ _ _ := life_laid
  rw [Send.code_eq]
  have hdeliver : Triple (amid py around.calm)
      (fun s => Elsewhere py c sid other w₀ (fun _ => False) s.world ∧ Stacked py c s.world ∧
        Placed c s.world) (send.deliver other)
      fun r s => Elsewhere py c sid other w₀ (fun _ => False) s.world ∧
        ∀ delivered, r = .ok delivered → delivered.2 = c :=
    fun s h => ⟨Elsewhere.within hne (deliver_elsewhere send) s h.1,
      (life.deliver other send s h.2).2⟩
  refine hdeliver.bind (fun delivered => .of_prop fun hc => ?_) fun _ _ h => h.1
  rw [hc delivered rfl]
  exact (elsewhere_consumeCommands hne).bind (fun _ => Triple.pure fun _ h => h) fun _ _ h => h

end Programs

end Nadi
