import Nadi.Destroyed
import Nadi.Effect.Role
import Nadi.Model.Operations
import Nadi.Model.Rows
import Mathlib.Data.Rat.Floor

/-!
# Sessions after `destroy_cell`

`destroy_cell` marks a session as stopped where it finds its cell in
`celld.cells`, and returns at once where it does not. It leaves the lease as it
is: as long as that runs, a command that is sent to the session has its cell
built anew. Nobody renews a lease but who places the session.

- `stopped_session`: when the status is set, that it stays, and that from the end
  of the lease on every command is turned away.
- `stopped_session_wakes`: a command sent after `destroy_cell` is handled.
-/

namespace Nadi

open Effect

variable {T ι : Type}

/-! ## Placing a session -/

/-- The calls that place a session: it gets a lease, or is marked as anything but
stopped. -/
def Call.places (sid : String) : Call T → Prop
  | .createLease s .. => s = sid
  | .updateSessionStatus s status => s = sid ∧ status ≠ .stopped
  | _ => False

/-- The calls that place no session and create none. -/
def Call.tame : Call T → Prop
  | .createSession .. => False
  | .createLease .. => False
  | .updateSessionStatus _ status => status = .stopped
  | _ => True

/-- The calls that place at most the given session, and create none. -/
def Call.serves (sid : String) : Call T → Prop
  | .createSession .. => False
  | .createLease s .. => s = sid
  | .updateSessionStatus s _ => s = sid
  | _ => True

section Kinds

variable {c : Call T} {sid sid' : String}

theorem Call.tame.not_places (h : c.tame) : ¬ c.places sid := by
  cases c with
  | createLease => exact h.elim
  | updateSessionStatus => exact fun hplaces => hplaces.2 h
  | _ => exact fun hplaces => hplaces

theorem Call.serves.of_places (h : c.serves sid') (hplaces : c.places sid) : sid' = sid := by
  cases c with
  | createLease => exact h.symm.trans hplaces
  | updateSessionStatus => exact h.symm.trans hplaces.1
  | _ => exact hplaces.elim

end Kinds

/-- A call that does not place a stopped session leaves it stopped. -/
theorem exec_stopped [Field T] [LinearOrder T] (py : Py) {w : World T} {sid : String} {c : Call T}
    (hc : ¬ c.places sid) (hstopped : w.store.statusOf sid = some .stopped) :
    (exec py c w).2.store.statusOf sid = some .stopped := by
  cases c with
  | createSession tenantId externalId profileBundle metadata =>
    refine World.commit_store (w := w.draw .session)
      (P := fun st => st.statusOf sid = some .stopped) hstopped fun b st hr => ?_
    have hnew := Store.createSession_new hr (Store.hasSession_of_statusOf hstopped)
    obtain ⟨rfl, sessions, hins, rfl⟩ := Store.createSession_ok hr
    rw [Store.statusOf_insert hins]
    exact (if_neg hnew).trans hstopped
  | updateSessionStatus s status =>
    refine (Store.statusOf_updateSessionStatus w.store w.clock s sid status).trans ?_
    by_cases hs : sid = s
    · have hstatus : status = .stopped := by
        by_contra hne
        exact hc ⟨hs.symm, hne⟩
      rw [if_pos hs, hstopped, hstatus]
      rfl
    · rw [if_neg hs]
      exact hstopped
  | _ =>
    unfold Store.statusOf
    rw [exec_sessions py w rfl]
    exact hstopped

/-- A call that does not place a session leaves its lease as it is. -/
theorem exec_lease [Field T] [LinearOrder T] (py : Py) {w : World T} {sid : String} {c : Call T}
    (hc : ¬ c.places sid) :
    (exec py c w).2.store.sessionLeases.find? sid = w.store.sessionLeases.find? sid := by
  cases c with
  | createLease s cellHostId ttl =>
    refine World.commit_store (w := w.draw .leaseToken)
      (P := fun st => st.sessionLeases.find? sid = w.store.sessionLeases.find? sid) rfl
      fun b st hr => ?_
    rw [Store.createLease_lease hr, if_neg (show ¬ s = sid from hc)]
  | _ => rw [exec_leases py w rfl]

/-! ## Who places -/

/-- A thread places a session only when it has created it. -/
def placingRole (sid : String) : Role (Option String) (Call T) Call.Ret PyErr where
  init := none
  may q c := c.places sid → q = some sid
  next q c r :=
    match c, r with
    | .createSession .., .ok s => some s
    | _, _ => q

/-- Operations that do not place the session. -/
def Operation.leaves (sid : String) : Operation → Prop
  | .placeSession s => s ≠ sid
  | .createCell _ s => s ≠ sid
  | _ => True

section Plays

variable [Field T] [LinearOrder T] {py : Py} {sid sid' : String} {q : Option String} {α : Type}
  {post : α → Prop} {p : Code T α}

/-- Placing no session. -/
theorem plays_tame (hp : p.Within Call.tame post) :
    (placingRole sid).Plays (exec py) (fun _ _ => True) p q :=
  .of_calls hp (fun _ _ hc hplaces => absurd hplaces hc.not_places) fun _ _ => trivial

omit [Field T] [LinearOrder T] in
theorem Call.serves.keeps {c : Call T} (hc : c.serves sid') (sid : String) (q : Option String)
    (r : Except PyErr c.Ret) : (placingRole sid).next q c r = q := by
  cases c with
  | createSession => exact hc.elim
  | _ => rfl

/-- Serving another session, or one of its own. -/
theorem plays_serves (hp : p.Within (Call.serves sid') post) (hmine : sid' = sid → q = some sid) :
    (placingRole sid).Plays (exec py) (fun _ _ => True) p q := by
  refine (Role.Plays.of_kept (I := fun q' => q' = q) hp rfl ?_ ?_).weaken fun _ _ _ => trivial
  · rintro q' c rfl hc hplaces
    exact hmine (hc.of_places hplaces)
  · rintro q' c r rfl hc
    exact hc.keeps sid q' r

end Plays

/-! ## What programs place -/

section Places

variable {d : Call T} {c : Celld} {sid : String}

theorem Call.ofRouting.tame (h : d.ofRouting sid) : d.tame := by
  cases d <;> first | exact h.elim | trivial

theorem Call.ofRegistration.tame {createCell : CreateCell} {objectRef : Option Celld}
    (h : d.ofRegistration sid createCell objectRef) : d.tame := by
  cases d <;> first | exact h.elim | trivial

/-- Destroying a cell places no session. -/
theorem Call.ofDestruction.tame (h : d.ofDestruction c sid) : d.tame := by
  cases d with
  | updateSessionStatus => exact h.2
  | _ => first | exact h.elim | trivial

/-- Nor does consuming commands, whoever does it. -/
theorem Call.ofConsumption.tame (h : d.ofConsumption c sid) : d.tame := by
  cases d with
  | createSession | createLease | updateSessionStatus =>
    exact (h.elim (fun h => h) fun h => h.elim (fun h => h) fun h => h).elim
  | _ => trivial

theorem Call.ofCreation.serves (h : d.ofCreation c sid) : d.serves sid := by
  cases d with
  | updateSessionStatus => exact h.1
  | createSession | createLease => exact h.elim
  | _ => trivial

theorem Call.ofPlacement.serves (h : d.ofPlacement sid) : d.serves sid := by
  cases d with
  | createLease => exact h
  | createSession | updateSessionStatus => exact h.elim fun _ h => h.serves
  | _ => trivial

theorem Gateway.getSessionEvents_tame (sid : String) (after : Int) :
    (getSessionEvents sid after : Code T (List (EventRow T))).Within Call.tame
      fun _ => True := getSessionEvents_calls (fun _ h => h.tame) trivial

variable [Field T] [LinearOrder T] [IsStrictOrderedRing T] [FloorRing T] (py : Py)

theorem Celld.consumeCommands_tame (c : Celld) (sid : String) :
    (c.consumeCommands py sid : Code T (List Event)).Within Call.tame fun _ => True :=
  (c.consumeCommands_within py sid).mono_calls fun _ h => h.tame

theorem Gateway.sendCommand_tame (sid commandType : String) (payload : Json)
    (actor : Option String) :
    (sendCommand py sid commandType payload actor : Code T Sent).Within Call.tame fun _ => True := by
  refine .bind ((route_within sid).mono_calls fun _ h => h.tame) fun _ _ => ?_
  refine .bind (.perform trivial fun _ => trivial) fun commandId _ => ?_
  refine .bind ((Broker.celldForRoute_within sid).mono_calls fun _ h => h.tame) fun celld _ => ?_
  exact .bind (celld.consumeCommands_tame py sid) fun _ _ => trivial

theorem Broker.placeSession_serves (sid : String) :
    (placeSession py sid : Code T Placement).Within (Call.serves sid) fun _ => True :=
  (placeSession_within py sid).mono_calls fun _ h => h.serves

end Places

section Operations

variable [Field T] [LinearOrder T] [IsStrictOrderedRing T] [FloorRing T] (py : Py) (sid : String)

/-- Creating a session places no other. -/
theorem plays_createSession (tenantId : String) (metadata : Json) (q : Option String) :
    (placingRole sid).Plays (exec py) (fun _ _ => True)
      (Gateway.createSession py tenantId metadata : Code T Created) q := by
  refine .perform_bind (fun hplaces => hplaces.elim) (fun s new _ => ?_) fun _ _ _ => trivial
  refine (plays_serves (Broker.placeSession_serves py new) ?_).bind (fun _ _ _ => trivial)
    fun _ _ _ => trivial
  exact fun h => congrArg some h

theorem plays_channelSession (request : ChannelRequest) (q : Option String) :
    (placingRole sid).Plays (exec py) (fun _ _ => True)
      (request.run py : Code T ChannelSession) q := by
  have hnamed : (Gateway.resourceId request.platform request.initiatorResourceId :
      Code T String).Within Call.tame fun _ => True :=
    (Gateway.resourceId_within _ _).mono_calls fun _ h => h ▸ trivial
  refine (plays_tame hnamed).bind (fun q' resourceId _ => ?_) fun _ _ _ => trivial
  refine .perform_bind (fun hplaces => hplaces.elim) (fun s new _ => ?_) fun _ _ _ => trivial
  -- the rest serves the session just created
  have hjoin : (Gateway.joinChannel py request.platform request.channelId request.threadId
      resourceId request.metadata new : Code T ChannelSession).Within (Call.serves new)
      fun _ => True := by
    refine .bind (Broker.placeSession_serves py new) fun placement _ => ?_
    refine .bind (.perform trivial fun _ => trivial) fun answer _ => ?_
    obtain ⟨actualSid, cid, created⟩ := answer
    cases created with
    | true => trivial
    | false => exact .bind (.perform rfl fun _ => trivial) fun _ _ => trivial
  have hrest := hjoin.tryCatch (g := fun e => do
    call (.updateSessionStatus new .abandoned)
    .throw e) fun e => .bind (.perform rfl fun _ => trivial) fun _ _ => trivial
  exact plays_serves hrest fun h => congrArg some h

/-- **Operations place the session** only where they are told to. -/
theorem plays_operation {op : Operation} (hop : op.leaves sid) (q : Option String) :
    (placingRole sid).Plays (exec py) (fun _ _ => True) (op.code py : Code T Unit) q := by
  have hdrop : ∀ {α : Type} {p : Code T α},
      (placingRole sid).Plays (exec py) (fun _ _ => True) p q →
      (placingRole sid).Plays (exec py) (fun _ _ => True) (p.bind fun _ => .pure ()) q :=
    fun hp => hp.bind (fun _ _ _ => trivial) fun _ _ _ => trivial
  cases op with
  | registerCellHost =>
    exact hdrop (plays_tame ((Broker.registerCellHost_within ..).mono_calls fun _ h => h.tame))
  | registerSandboxHost hostId zone address =>
    have hcall : (Broker.registerSandboxHost hostId zone address : Code T String).Within
        Call.tame fun _ => True := .perform trivial fun _ => trivial
    exact hdrop (plays_tame hcall)
  | createSession tenantId metadata => exact hdrop (plays_createSession py sid tenantId metadata q)
  | placeSession s =>
    exact hdrop (plays_serves (Broker.placeSession_serves py s) fun h => absurd h hop)
  | channelSession request => exact hdrop (plays_channelSession py sid request q)
  | sendCommand s commandType payload actor =>
    exact hdrop (plays_tame (Gateway.sendCommand_tame py s commandType payload actor))
  | enqueueCommand s commandType payload actor =>
    have hcall : (call (.enqueueCommand s commandType payload actor) : Code T ℕ).Within
        Call.tame fun _ => True := .perform trivial fun _ => trivial
    exact hdrop (plays_tame hcall)
  | getSessionEvents s after => exact hdrop (plays_tame (Gateway.getSessionEvents_tame s after))
  | createCell celld s =>
    exact hdrop (plays_serves ((celld.createCell_within py s).mono_calls fun _ h => h.serves)
      fun h => absurd h hop)
  | reconstructCell celld s =>
    exact hdrop (plays_tame ((celld.reconstructCell_within py s).mono_calls fun _ h =>
      (Call.ofConsumption_of_ofCell _ h).tame))
  | consumeCommands celld s => exact hdrop (plays_tame (celld.consumeCommands_tame py s))
  | destroyCell celld s =>
    exact plays_tame ((celld.destroyCell_within py s).mono_calls fun _ h => h.tame)

end Operations

/-! ## After `destroy_cell` -/

section Stopped

variable [Field T] [LinearOrder T]

/-- `destroy_cell` returns; it marks the session where it finds its cell. -/
theorem run_destroyCell (py : Py) (around : Surroundings T) (c : Celld) {sid : String}
    {s : Ticking T} (hses : s.world.store.hasSession sid = true) :
    ∃ s', (c.destroyCell py sid).run (amid py around) s = (.ok (), s') ∧
      s'.world.store.hasSession sid = true ∧
      (s'.world.store.statusOf sid = some .stopped ↔
        (around.met s).cells c.ref sid ≠ none ∨
          s.world.store.statusOf sid = some .stopped) := by
  let s₁ := (amid py around (.cellsPop c.ref sid) s).2
  have hses₁ : s₁.world.store.hasSession sid = true := hses
  cases hfound : (around.met s).cells c.ref sid with
  | none =>
    refine ⟨s₁, run_destroyCell_missed hfound, hses, ?_⟩
    have hstatus : s₁.world.store.statusOf sid = s.world.store.statusOf sid := rfl
    rw [hstatus]
    simp
  | some cell =>
    have hpop : (call (.cellsPop c.ref sid)).run (amid py around) s = (.ok (some cell), s₁) := by
      rw [run_call_amid, ← hfound]
      rfl
    have hrevoke : ∃ s₂, (Celld.revokeTokenOf py cell).run (amid py around) s₁ = (.ok (), s₂) ∧
        s₂.world.store.hasSession sid = true := by
      unfold Celld.revokeTokenOf
      split
      · exact ⟨_, run_call_amid _ _, exec_hasSession py _ hses₁⟩
      · exact ⟨s₁, rfl, hses₁⟩
    unfold Celld.destroyCell
    simp only [Prog.bind_eq]
    rw [Prog.run_bind_ok _ hpop]
    obtain ⟨s₂, hrun, hses₂⟩ := hrevoke
    refine ⟨_, (Prog.run_bind_ok _ hrun).trans (run_call_amid _ _), exec_hasSession py _ hses₂,
      iff_of_true ?_ (.inl fun h => nomatch h)⟩
    obtain ⟨row, hrow, hid⟩ := Data.Table.find?_isSome.mp hses₂
    have hstatus : s₂.world.store.statusOf sid = some row.status :=
      Store.statusOf_eq_some.mpr ⟨row, hrow, hid, rfl⟩
    refine (Store.statusOf_updateSessionStatus s₂.world.store (around.now s₂.reading) sid sid
      .stopped).trans ?_
    rw [if_pos rfl, hstatus]
    rfl

variable [IsStrictOrderedRing T] [FloorRing T] [DecidableEq ι] {py : Py} {sid : String}

omit [IsStrictOrderedRing T] [FloorRing T] in
/-- A session that a thread creates is another one than those there are. -/
theorem created_ne {w : World T} (hses : w.store.hasSession sid = true) {q : Option String}
    (hq : q ≠ some sid) {c : Call T} : (placingRole sid).next q c (exec py c w).1 ≠ some sid := by
  cases c with
  | createSession tenantId externalId profileBundle metadata =>
    cases hres : (exec py (.createSession tenantId externalId profileBundle metadata) w).1 with
    | error e => exact hq
    | ok s =>
      intro hmine
      obtain rfl : s = sid := Option.some.inj hmine
      cases hses.symm.trans (exec_createSession_new py hres)
  | _ => exact hq

/-- Requests of any threads, between whose calls time passes and cells are lost; where
some of them are late, they act only when a time has come. -/
def delaying (py : Py) (late : ι → Prop) (due : T → Prop) :
    System ι (Call T) Call.Ret PyErr (World T) :=
  { losing ι py with allow := fun p i _ => late i → due p.state.clock }

omit [IsStrictOrderedRing T] [FloorRing T] in
/-- When the time has come, they act like any others. -/
theorem delaying_execute {late : ι → Prop} {due : T → Prop} {w : World T} (hdue : due w.clock)
    (is : List ι) (programs : ι → Code T Unit) :
    Reach (delaying py late due) (.start programs w) (execute (exec py) is (.start programs w)) :=
  reach_execute_of (S := delaying py late due) (I := fun p => p.state.clock = w.clock)
    (fun _ _ _ hclock _ => hclock ▸ hdue)
    (fun p _ c hclock => (exec_passive py (c := c) p.state).1.trans hclock) is _ rfl

variable {late : ι → Prop} {due : T → Prop} {w₁ : World T} {requests : ι → Operation}
  {cfg : Threads ι T Unit}

/-- **What nobody changes but who places a session** stays as it is along every run of
requests that do not place it. -/
theorem unplaced_reach {I : World T → Prop} (hses : w₁.store.hasSession sid = true) (hI : I w₁)
    (hcall : ∀ w c, I w → ¬ c.places sid → I (exec py c w).2)
    (henv : ∀ w w', I w → w'.store = w.store → I w')
    (hleaves : ∀ i, (requests i).leaves sid)
    (hr : Reach (delaying py late due) (.start (fun i => (requests i).code py) w₁) cfg) :
    I cfg.point.state := by
  have hplay : Role.AllPlay (fun _ : ι => placingRole sid) (exec py) (fun _ _ _ => True)
      (.start (fun i => (requests i).code py) w₁) :=
    fun i => plays_operation py sid (hleaves i) _
  have hinv := Role.roles_invariant
    (P := fun p : Moment ι T => (p.state.store.hasSession sid = true ∧ I p.state) ∧
      ∀ i, Role.localAt (fun _ : ι => placingRole sid) p.trace i ≠ some sid)
    hplay hr ⟨⟨hses, hI⟩, fun _ => nofun⟩ ?_ ?_
  · exact hinv.1.2
  · rintro p i c ⟨⟨hses, hI⟩, hmine⟩ hmay -
    -- nobody has created the session, so nobody places it
    refine ⟨⟨exec_hasSession py c hses, hcall _ c hI fun hplaces => hmine i (hmay hplaces)⟩,
      fun j => ?_⟩
    rw [Role.localAt_after]
    by_cases hj : j = i
    · subst hj
      rw [Function.update_self]
      exact created_ne hses (hmine j)
    · rw [Function.update_of_ne hj]
      exact hmine j
  · rintro p _ ⟨⟨hses, hI⟩, hmine⟩ (⟨t, f, -, rfl⟩ | ⟨cells, -, rfl⟩)
    · exact ⟨⟨hses, henv _ _ hI rfl⟩, hmine⟩
    · exact ⟨⟨hses, henv _ _ hI rfl⟩, hmine⟩

/-- A stopped session stays stopped, -/
theorem stopped_reach (hstopped : w₁.store.statusOf sid = some .stopped)
    (hleaves : ∀ i, (requests i).leaves sid)
    (hr : Reach (delaying py late due) (.start (fun i => (requests i).code py) w₁) cfg) :
    cfg.point.state.store.statusOf sid = some .stopped :=
  unplaced_reach (I := fun w => w.store.statusOf sid = some .stopped)
    (Store.hasSession_of_statusOf hstopped) hstopped (fun _ _ h hc => exec_stopped py hc h)
    (fun _ _ h hstore => hstore ▸ h) hleaves hr

/-- and every session keeps its lease. -/
theorem lease_reach (hses : w₁.store.hasSession sid = true) (hleaves : ∀ i, (requests i).leaves sid)
    (hr : Reach (delaying py late due) (.start (fun i => (requests i).code py) w₁) cfg) :
    cfg.point.state.store.sessionLeases.find? sid = w₁.store.sessionLeases.find? sid :=
  unplaced_reach (I := fun w => w.store.sessionLeases.find? sid = w₁.store.sessionLeases.find? sid)
    hses rfl (fun _ _ h hc => (exec_lease py hc).trans h) (fun _ _ h hstore => hstore ▸ h) hleaves hr

/-- The lease of a session has ended, if it has one. -/
def Store.LeaseOver (st : Store T) (sid : String) (t : T) : Prop :=
  ∀ lease, st.sessionLeases.find? sid = some lease → lease.expiresAt ≤ t

omit [Field T] [IsStrictOrderedRing T] [FloorRing T] in
theorem Store.LeaseOver.getRoute {st st' : Store T} {t : T} (h : st.LeaseOver sid t)
    (hlease : st'.sessionLeases.find? sid = st.sessionLeases.find? sid) : st'.getRoute t sid = none := by
  rw [Option.eq_none_iff_forall_ne_some]
  intro route hroute
  obtain ⟨lease, hfound, hlt⟩ := Store.getRoute_eq_some hroute
  exact absurd hlt (not_lt_of_ge (h lease (hlease.symm.trans hfound)))

/-- A command that is sent to a session, as far as it has come while it is turned away: it
has not begun, or has raised; and it has only asked for the route. -/
structure Dismissed (sid : String) (i : ι) (send : Operation) (py : Py) (cfg : Threads ι T Unit) :
    Prop where
  calls : ∀ e ∈ cfg.point.trace, e.thread = i → e.call = .getRoute sid
  raises : cfg.threads i = send.code py ∨
    cfg.threads i = .throw (.keyError ("no active route for session " ++ sid))

/-- **From the end of the lease on** every command is turned away. -/
theorem dismissed_reach (hses : w₁.store.hasSession sid = true)
    (hleaves : ∀ i, (requests i).leaves sid)
    (hr : Reach (delaying py late (w₁.store.LeaseOver sid))
      (.start (fun i => (requests i).code py) w₁) cfg)
    {i : ι} (hlate : late i) {commandType : String} {payload : Json} {actor : Option String}
    (hsend : requests i = .sendCommand sid commandType payload actor) :
    Dismissed sid i (requests i) py cfg := by
  -- the first call of the request decides
  obtain ⟨k, hfirst, hnone⟩ : ∃ k, ((requests i).code py : Code T Unit) = .call (.getRoute sid) k ∧
      k (.ok none) = .throw (.keyError ("no active route for session " ++ sid)) := by
    rw [hsend]
    exact ⟨_, rfl, rfl⟩
  have hinv := hr.invariant (I := fun cfg =>
    Reach (delaying py late (w₁.store.LeaseOver sid)) (.start (fun i => (requests i).code py) w₁) cfg ∧
      Dismissed sid i (requests i) py cfg)
    ⟨Relation.ReflTransGen.refl, fun _ he => (nomatch he), .inl rfl⟩ ?_
  · exact hinv.2
  · rintro a b ⟨hreach, hcalls, hraises⟩ hstep
    refine ⟨Relation.ReflTransGen.tail hreach hstep, ?_⟩
    cases hstep with
    | env he => exact ⟨hcalls, hraises⟩
    | @act j c k' hj hallow =>
      by_cases hji : j = i
      · subst hji
        rcases hraises with hbegin | hthrow
        swap
        · cases hj.symm.trans hthrow
        obtain ⟨rfl, hk⟩ := Prog.call.inj (hj.symm.trans (hbegin.trans hfirst))
        obtain rfl := eq_of_heq hk
        have hroute : (exec py (.getRoute sid) a.point.state).1 = .ok none :=
          congrArg Except.ok ((hallow hlate).getRoute (lease_reach hses hleaves hreach))
        refine ⟨fun e he hei => ?_, .inr ?_⟩
        · rcases List.mem_append.mp he with hold | hnew
          · exact hcalls e hold hei
          · rw [List.mem_singleton.mp hnew]
        · show Function.update a.threads j (k' (exec py (.getRoute sid) a.point.state).1) j = _
          rw [Function.update_self, hroute]
          exact hnone
      · refine ⟨fun e he hei => ?_, ?_⟩
        · rcases List.mem_append.mp he with hold | hnew
          · exact hcalls e hold hei
          · rw [List.mem_singleton.mp hnew] at hei
            exact absurd hei hji
        · show Function.update a.threads j _ i = _ ∨ Function.update a.threads j _ i = _
          rw [Function.update_of_ne (Ne.symm hji)]
          exact hraises

/-- **What becomes of a session after `destroy_cell`.** The session exists.
`destroy_cell` returns, and the session is then marked as stopped exactly where
its cell was in `celld.cells`, or it was marked before. After that any number of
requests are served that do not place the session, each in a thread of its own,
while time passes and daemons lose cells. A session that is marked as stopped
stays so. A command that is sent to it when its lease has ended, or later, asks
for the route, raises, and does nothing else. -/
theorem stopped_session (py : Py) (around : Surroundings T) (c : Celld) {sid : String}
    {s : Ticking T} (hses : s.world.store.hasSession sid = true) :
    let destroyed := (c.destroyCell py sid).run (amid py around) s
    let w₁ := destroyed.2.world
    destroyed.1 = .ok () ∧
    (w₁.store.statusOf sid = some .stopped ↔
      (around.met s).cells c.ref sid ≠ none ∨ s.world.store.statusOf sid = some .stopped) ∧
    ∀ (requests : ι → Operation) (_ : ∀ i, (requests i).leaves sid) (late : ι → Prop)
      (cfg : Threads ι T Unit),
      Reach (delaying py late (w₁.store.LeaseOver sid))
        (.start (fun i => (requests i).code py) w₁) cfg →
      (w₁.store.statusOf sid = some .stopped →
        cfg.point.state.store.statusOf sid = some .stopped) ∧
      ∀ i, late i → ∀ commandType payload actor,
        requests i = .sendCommand sid commandType payload actor →
          Dismissed sid i (requests i) py cfg := by
  intro destroyed w₁
  obtain ⟨s', hrun, hses', hstatus⟩ := run_destroyCell py around c hses
  have hdestroyed : destroyed = (.ok (), s') := hrun
  have hw₁ : w₁ = s'.world := congrArg (fun d => d.2.world) hdestroyed
  refine ⟨congrArg Prod.fst hdestroyed, hw₁ ▸ hstatus, fun requests hleaves late cfg hr =>
    ⟨fun hstopped => stopped_reach hstopped hleaves hr, fun i hlate commandType payload actor hsend =>
      dismissed_reach (hw₁ ▸ hses') hleaves hr hlate hsend⟩⟩

end Stopped

/-! ## One session -/

/-- Start a stack with one session. -/
def loneSession : Code ℚ Unit := do
  localStack []
  let _ ← Gateway.createSession Py.sample "local" .null
  return ()

/-- The state it leads to. -/
def loneSessionWorld : World ℚ := (loneSession.run (exec Py.sample) (.init 0 Sample.files)).2

/-- A command that prints a greeting. -/
def greet : Operation := .sendCommand "s" "echo" (.obj [("text", .str "hi")]) none

/-- Its session's cell. -/
theorem loneSessionWorld_cell (around : Surroundings ℚ) (h : around.lost 0 "s" = false) :
    (around.met ⟨0, loneSessionWorld⟩).cells (localCelld []).ref "s" =
      some ⟨0, "s", (localCelld []).tokenOf Py.sample "s" 0 0⟩ :=
  World.lose_cells_eq_some.mpr ⟨h, rfl⟩

/-- The cell of the session is destroyed after its lease has ended; a command
that is sent then is turned away. -/
theorem stopped_session_sample :
    let around : Surroundings ℚ := .still 4000 Sample.files fun _ _ => false
    let w₁ := (((localCelld []).destroyCell Py.sample "s").run (amid Py.sample around)
      ⟨0, loneSessionWorld⟩).2.world
    let cfg := execute (exec Py.sample) [()] (.start (fun _ => greet.code Py.sample) w₁)
    cfg.point.state.store.statusOf "s" = some .stopped ∧
      Dismissed "s" () greet Py.sample cfg := by
  intro around w₁ cfg
  have hses : loneSessionWorld.store.hasSession "s" = true := by decide +kernel
  have hcell := loneSessionWorld_cell around rfl
  have hw₁ : w₁ = _ := congrArg (fun d => d.2.world) (run_destroyCell_found hcell rfl)
  have hclock : w₁.clock = 4000 := by
    rw [hw₁]
    decide +kernel
  have hover : w₁.store.LeaseOver "s" 4000 := by
    have hends : (w₁.store.sessionLeases.find? "s").all (fun l => decide (l.expiresAt ≤ 4000)) =
        true := by
      rw [hw₁]
      decide +kernel
    intro lease hlease
    rw [hlease] at hends
    exact of_decide_eq_true hends
  obtain ⟨-, hstatus, hafter⟩ := stopped_session (ι := Unit) Py.sample around (localCelld [])
    (s := ⟨0, loneSessionWorld⟩) hses
  have hreach : Reach (delaying Py.sample (fun _ => True) (w₁.store.LeaseOver "s"))
      (.start (fun _ => greet.code Py.sample) w₁) cfg := delaying_execute (hclock ▸ hover) _ _
  obtain ⟨hstopped, hsends⟩ := hafter (fun _ => greet) (fun _ => trivial) (fun _ => True) cfg hreach
  have hsend : greet = .sendCommand "s" "echo" (.obj [("text", .str "hi")]) none := rfl
  refine ⟨hstopped (hstatus.mpr (.inl (hcell ▸ nofun))), ?_⟩
  exact hsends () trivial _ _ _ hsend

/-- A command is sent within the hour of the lease. After the cell was destroyed
it is handled all the same, with a new cell, by a session that is marked as
stopped. After the cell was lost `destroy_cell` does not even mark it. -/
theorem stopped_session_wakes :
    let around : Surroundings ℚ := .still 1 Sample.files fun n _ => n == 9
    let found := (((localCelld []).destroyCell Py.sample "s").run (amid Py.sample around)
      ⟨0, loneSessionWorld⟩).2.world
    let missed := (((localCelld []).destroyCell Py.sample "s").run (amid Py.sample around)
      ⟨9, loneSessionWorld⟩).2.world
    let sent := fun w => (runOperations Py.sample [greet]).run (amid Py.sample around) ⟨10, w⟩
    (found.store.statusOf "s" = some .stopped ∧ found.cells 0 "s" = none ∧
      (found.store.eventsOf "s").length = 1 ∧
      ((sent found).2.world.store.eventsOf "s").map EventRow.eventType =
        ["session.started", "command.received", "assistant.message"] ∧
      (sent found).2.world.cells 0 "s" ≠ none) ∧
    missed.store.statusOf "s" = some .running ∧ missed.cells 0 "s" = none ∧
      ((sent missed).2.world.store.eventsOf "s").length = 3 := by
  intro around found missed sent
  have hfound : found = _ :=
    congrArg (fun d => d.2.world) (run_destroyCell_found (loneSessionWorld_cell around rfl) rfl)
  rw [hfound]
  decide +kernel

end Nadi
