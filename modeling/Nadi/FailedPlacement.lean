import Nadi.CellOperations
import Nadi.ChannelLookup
import Nadi.Model.Sample

/-!
# What a failed placement leaves behind

`place_session` leases a slot before it looks for the callback of the host it
has chosen and calls it (broker.py:36–43), and neither of its callers gives the
slot back. A call that fails there leaves the lease, the count and the route; one
that finds no host leaves nothing, if it marks its candidate, as only the channel
call does (`failed_placement_iff`).
-/

namespace Nadi

open Effect

/-- The two calls of a gateway that place a session. -/
inductive Placing where
  | createSession (tenantId : String) (metadata : Json)
  | channelSession (request : ChannelRequest)

variable {T : Type} [Field T] [LinearOrder T] [IsStrictOrderedRing T] [FloorRing T]

/-- Make the call, dropping what it returns. -/
def Placing.code (py : Py) : Placing → Code T Unit
  | .createSession tenantId metadata => do
    let _ ← Gateway.createSession py tenantId metadata
    return ()
  | .channelSession request => do
    let _ ← request.run py
    return ()

omit [Field T] [IsStrictOrderedRing T] [FloorRing T] in
/-- Why a placement fails: there is no host with a free slot, or the host chosen
has no callback, or one that raises. -/
def World.PlacementFails (w : World T) : Prop :=
  ∀ host, w.store.chooseCellHost = .ok host → ∀ c, w.callbacks host.hostId ≠ some (.celld c)

omit [Field T] [LinearOrder T] [IsStrictOrderedRing T] [FloorRing T] in
/-- The host at which a new session is placed and its address, or why it is not placed. -/
def World.vacancy (w : World T) : Except PyErr (String × String) :=
  match w.store.chooseCellHost with
  | .error e => .error e
  | .ok host =>
    match w.callbacks host.hostId with
    | none => .error (.runtimeError ("no celld callback registered for " ++ host.hostId))
    | some (.raises e) => .error e
    | some (.celld _) => .ok (host.hostId, host.address)

omit [Field T] [IsStrictOrderedRing T] [FloorRing T] in
theorem World.placementFails_iff {w : World T} :
    w.PlacementFails ↔ ∃ e, w.vacancy = .error e := by
  unfold PlacementFails vacancy
  cases w.store.chooseCellHost with
  | error e => exact iff_of_true (fun _ h => by cases h) ⟨e, rfl⟩
  | ok host =>
    dsimp only
    constructor
    · intro h
      cases hcallback : w.callbacks host.hostId with
      | none => exact ⟨_, rfl⟩
      | some createCell =>
        cases createCell with
        | raises e => exact ⟨e, rfl⟩
        | celld c => exact absurd hcallback (h host rfl c)
    · rintro ⟨e, h⟩ host' heq c hcallback
      obtain rfl := Except.ok.inj heq
      rw [hcallback] at h
      cases h

omit [Field T] [IsStrictOrderedRing T] [FloorRing T] in
theorem World.placementFails_congr {w w' : World T} (h : w'.vacancy = w.vacancy) :
    w'.PlacementFails ↔ w.PlacementFails := by
  rw [placementFails_iff, placementFails_iff, h]

omit [Field T] [IsStrictOrderedRing T] [FloorRing T] in
/-- What a call that fails should leave behind: leases, slots, routes and
channels as they were, and a candidate that is over. -/
structure LeavesNothing (candidate : String) (w w' : World T) : Prop where
  leases : w'.store.sessionLeases = w.store.sessionLeases
  slots : ∀ id, w'.store.capacityOf id = w.store.capacityOf id
  routes : ∀ t sid, w'.store.getRoute t sid = w.store.getRoute t sid
  channels : w'.store.channels = w.store.channels
  notPending : w'.store.statusOf candidate ≠ some .pending
  notRunning : w'.store.statusOf candidate ≠ some .running

section Runs

variable (py : Py) (tm : Timing T) {s : Ticking T} {sid : String}

/-! ## The parts of a placement -/

omit [IsStrictOrderedRing T] [FloorRing T] in
theorem run_chooseCellHost :
    (call .chooseCellHost).run (timed py tm) s = (s.world.store.chooseCellHost, s) := by
  rw [Prog.run_perform, timed_quiet py tm s rfl]
  rfl

omit [IsStrictOrderedRing T] [FloorRing T] in
theorem run_callback (hostId : String) :
    (call (.callback hostId)).run (timed py tm) s = (.ok (s.world.callbacks hostId), s) := by
  rw [Prog.run_perform, timed_quiet py tm s rfl]
  rfl

omit [IsStrictOrderedRing T] [FloorRing T] in
/-- A candidate is created with a new id, pending. -/
theorem run_newCandidate (tenantId : String) (metadata : Json)
    (hnew : ∀ row ∈ s.world.store.sessions, row.id ≠ s.world.fresh py .session) :
    ∃ s', (call (.createSession tenantId none none metadata)).run (timed py tm) s =
        (.ok (s.world.fresh py .session), s') ∧
      (∃ sessions, s'.world.store = { s.world.store with sessions }) ∧
      s'.world.vacancy = s.world.vacancy ∧
      s'.world.store.statusOf (s.world.fresh py .session) = some .pending := by
  obtain ⟨sessions, hins, heq⟩ := Store.createSession_eq (tm.now s.reading) tenantId none metadata
    hnew
  refine ⟨⟨s.reading + 1,
    { (s.ready tm).draw .session with store := { s.world.store with sessions } }⟩, ?_,
    ⟨sessions, rfl⟩, rfl, (Store.statusOf_insert hins _).trans (if_pos rfl)⟩
  rw [Prog.run_perform, timed_reads py tm s rfl (by simp)]
  have hexec : exec py (.createSession tenantId none none metadata) (s.ready tm) =
      ((s.ready tm).draw .session).commit (s.world.store.createSession (tm.now s.reading)
        (s.world.fresh py .session) tenantId none none metadata) := rfl
  rw [hexec, heq]
  rfl

omit [IsStrictOrderedRing T] [FloorRing T] in
/-- A session and a host that exist can be leased. -/
theorem run_createLease_ok {host : CellHostRow T} (hses : s.world.store.hasSession sid = true)
    (hhost : host ∈ s.world.store.cellHosts) :
    ∃ st, s.world.store.createLease (tm.now s.reading) (s.world.fresh py .leaseToken) sid
        host.id 3600 = .ok (s.world.fresh py .leaseToken, st) ∧
      (call (.createLease sid host.id 3600)).run (timed py tm) s =
        (.ok (s.world.fresh py .leaseToken),
          ⟨s.reading + 1, { (s.ready tm).draw .leaseToken with store := st }⟩) := by
  obtain ⟨st, hlease⟩ := Store.createLease_eq (t := tm.now s.reading) hses
    (Option.isSome_iff_exists.mpr ⟨host, Data.Table.find?_eq_some.mpr ⟨hhost, rfl⟩⟩)
    (s.world.fresh py .leaseToken) 3600
  refine ⟨st, hlease, ?_⟩
  rw [Prog.run_perform, timed_reads py tm s rfl (by simp)]
  have hexec : exec py (.createLease sid host.id 3600) (s.ready tm) =
      ((s.ready tm).draw .leaseToken).commit (s.world.store.createLease (tm.now s.reading)
        (s.world.fresh py .leaseToken) sid host.id 3600) := rfl
  rw [hexec, hlease]
  rfl

omit [IsStrictOrderedRing T] [FloorRing T] in
/-- Leasing a session and a host that exist takes a slot. -/
theorem run_createLease {host : CellHostRow T} (hses : s.world.store.hasSession sid = true)
    (hhost : host ∈ s.world.store.cellHosts) :
    ∃ token s', (call (.createLease sid host.id 3600)).run (timed py tm) s = (.ok token, s') ∧
      s'.world.store.capacityOf host.id = some (host.capacityUsed + 1) ∧
      s'.world.store.hasSession sid = true ∧ s'.world.callbacks = s.world.callbacks := by
  obtain ⟨st, hlease, hrun⟩ := run_createLease_ok py tm hses hhost
  refine ⟨_, _, hrun, ?_, ?_, rfl⟩
  · refine (Store.createLease_capacityOf hlease host.id).trans ?_
    rw [if_pos rfl]
    unfold Store.capacityOf
    rw [Data.Table.find?_eq_some.mpr ⟨hhost, rfl⟩]
    rfl
  · obtain ⟨-, -, -, rfl⟩ := Store.createLease_ok hlease
    exact hses

omit [IsStrictOrderedRing T] [FloorRing T] in
/-- Nothing gives a slot back. -/
theorem run_capacityOf {α : Type} {id : String} {n : ℕ} (p : Code T α)
    (h : s.world.store.capacityOf id = some n) :
    ∃ m, (p.run (timed py tm) s).2.world.store.capacityOf id = some m ∧ n ≤ m := by
  refine run_timed_store py tm s (.any p)
    (I := fun w => ∃ m, w.store.capacityOf id = some m ∧ n ≤ m) ?_ ?_ ⟨n, h, Nat.le_refl n⟩
  · exact fun _ _ _ h => h
  · rintro c w - ⟨m, hm, hle⟩
    obtain ⟨m', hm', hle'⟩ := exec_capacityOf py c hm
    exact ⟨m', hm', hle.trans hle'⟩

/-- Without a host a placement ends where it has begun. -/
theorem run_placeSession_unhosted {e : PyErr} (hchoose : s.world.store.chooseCellHost = .error e) :
    (Broker.placeSession py sid).run (timed py tm) s = (.error e, s) := by
  have hrun : (call .chooseCellHost).run (timed py tm) s = (.error e, s) := by
    rw [run_chooseCellHost py tm, hchoose]
  unfold Broker.placeSession
  simp only [Prog.bind_eq]
  rw [Prog.run_bind_error _ hrun]

section Leased

variable {host : CellHostRow T} {token : String} {s₁ s₂ : Ticking T}
  (hchoose : s.world.store.chooseCellHost = .ok host)
  (hlease : (call (.createLease sid host.id 3600)).run (timed py tm) s = (.ok token, s₁))

include hchoose hlease

/-- Once a slot is leased, a placement runs the callback of the host, if it has one. -/
theorem run_placeSession_leased :
    (Broker.placeSession py sid).run (timed py tm) s =
      ((s₁.world.callbacks host.hostId).elim
        (.throw (.runtimeError ("no celld callback registered for " ++ host.hostId)))
        fun createCell => (Broker.runCallback py sid createCell).bind fun _ =>
          .pure ⟨sid, host.hostId, token, host.address⟩).run (timed py tm) s₁ := by
  have hrun : (call .chooseCellHost).run (timed py tm) s = (.ok host, s) := by
    rw [run_chooseCellHost py tm, hchoose]
  unfold Broker.placeSession
  simp only [Prog.bind_eq, Prog.pure_eq]
  rw [Prog.run_bind_ok _ hrun, Prog.run_bind_ok _ hlease, Prog.run_bind_ok _ (run_callback py tm _)]
  cases s₁.world.callbacks host.hostId <;> rfl

/-- It succeeds where the callback creates a cell. -/
theorem run_placeSession_celld {c : Celld} {cell : Cell}
    (hcallback : s₁.world.callbacks host.hostId = some (.celld c))
    (hcell : (c.createCell py sid).run (timed py tm) s₁ = (.ok cell, s₂)) :
    (Broker.placeSession py sid).run (timed py tm) s =
      (.ok ⟨sid, host.hostId, token, host.address⟩, s₂) := by
  have hrun : (Broker.runCallback py sid (.celld c)).run (timed py tm) s₁ = (.ok (), s₂) :=
    Prog.run_bind_ok _ hcell
  rw [run_placeSession_leased py tm hchoose hlease, hcallback]
  exact Prog.run_bind_ok _ hrun

/-- It fails, with the slot leased, where there is no callback or none that works. -/
theorem run_placeSession_uncallable
    (hcallback : ∀ c, s₁.world.callbacks host.hostId ≠ some (.celld c)) :
    ∃ e, (Broker.placeSession py sid).run (timed py tm) s = (.error e, s₁) := by
  rw [run_placeSession_leased py tm hchoose hlease]
  cases hfound : s₁.world.callbacks host.hostId with
  | none => exact ⟨_, rfl⟩
  | some createCell =>
    cases createCell with
    | raises e => exact ⟨e, rfl⟩
    | celld c => exact absurd hfound (hcallback c)

end Leased

/-- A placement that finds a host takes a slot of it, whatever comes of it. -/
theorem placeSession_takes {host : CellHostRow T} (hses : s.world.store.hasSession sid = true)
    (hchoose : s.world.store.chooseCellHost = .ok host) :
    ∃ m, ((Broker.placeSession py sid).run (timed py tm) s).2.world.store.capacityOf host.id =
      some m ∧ host.capacityUsed < m := by
  obtain ⟨token, s', hlease, hcap, -, -⟩ :=
    run_createLease py tm hses (Store.chooseCellHost_ok hchoose).1
  rw [run_placeSession_leased py tm hchoose hlease]
  exact run_capacityOf py tm _ hcap

/-- **The cell of a session that exists** is a new one, and the log says that it
has been started. -/
theorem run_createCell_started (c : Celld) (hses : s.world.store.hasSession sid = true) :
    ∃ cell s' row, (c.createCell py sid).run (timed py tm) s = (.ok cell, s') ∧
      s'.world.cells c.ref sid = some cell ∧ s'.world.heap cell.addr = ⟨[], [], true⟩ ∧
      row.eventType = "session.started" ∧
      s'.world.store.eventsOf sid = s.world.store.eventsOf sid ++ [row] ∧
      s'.world.store.hasSession sid = true := by
  obtain ⟨s₁, hstatus, hcells, hheap, hevents, hses₁⟩ : ∃ s₁ : Ticking T,
      (call (.updateSessionStatus sid .running)).run (timed py tm) (s.withCreated py tm c sid) =
        (.ok (), s₁) ∧
      s₁.world.cells c.ref sid = some (c.created py tm sid s) ∧
      s₁.world.heap (c.created py tm sid s).addr = .initial ∧
      s₁.world.store.eventsOf sid = s.world.store.eventsOf sid ∧
      s₁.world.store.hasSession sid = true := by
    rw [Prog.run_perform, timed_reads py tm _ rfl (by simp)]
    refine ⟨_, rfl, ?_, Function.update_self _ _ _, rfl,
      exec_hasSession py (.updateSessionStatus sid .running) hses⟩
    show Function.update s.world.cells c.ref (Function.update (s.world.cells c.ref) sid
      (some (c.created py tm sid s))) c.ref sid = _
    rw [Function.update_self, Function.update_self]
  let started : Json := .obj [("cell_host", .str c.hostId)]
  have hobj : started.orEmpty.isObj = true := rfl
  obtain ⟨heap, happend, hmatch⟩ : ∃ heap, (c.appendEvent sid "session.started" started).run
      (timed py tm) s₁ = _ ∧ _ := run_appendEvent py tm c hses₁ hobj
  rw [hcells] at hmatch
  obtain ⟨state, hstate, rfl⟩ := hmatch
  rw [hheap] at hstate
  cases hstate
  have hrun := (run_createCell c sid s).trans ((Prog.run_bind_ok _ hstatus).trans
    (Prog.run_bind_ok _ happend))
  have hrow : s₁.world.store.appendEvent (tm.now s₁.reading) sid "session.started" started none =
      _ := Store.appendEvent_eq hses₁
  have hlog := Store.eventsOf_append hrow sid
  rw [if_pos rfl, hevents] at hlog
  exact ⟨_, _, _, hrun, hcells, Function.update_self _ _ _, rfl, hlog, hses₁⟩

/-- A cell is always created for a session that exists. -/
theorem run_createCell_ok (c : Celld) (hses : s.world.store.hasSession sid = true) :
    ∃ cell s', (c.createCell py sid).run (timed py tm) s = (.ok cell, s') := by
  obtain ⟨cell, s', -, hrun, -⟩ := run_createCell_started py tm c hses
  exact ⟨cell, s', hrun⟩

/-- **What a placement comes to.** -/
theorem run_placeSession_vacancy (hses : s.world.store.hasSession sid = true) :
    ((Broker.placeSession py sid).run (timed py tm) s).1 = s.world.vacancy.map
      fun place => ⟨sid, place.1, s.world.fresh py .leaseToken, place.2⟩ := by
  unfold World.vacancy
  cases hchoose : s.world.store.chooseCellHost with
  | error e =>
    rw [run_placeSession_unhosted py tm hchoose]
    rfl
  | ok host =>
    obtain ⟨st, hlease, hrun⟩ :=
      run_createLease_ok py tm hses (Store.chooseCellHost_ok hchoose).1
    obtain ⟨-, -, -, hst⟩ := Store.createLease_ok hlease
    have hcallbacks : ((s.ready tm).draw .leaseToken).callbacks = s.world.callbacks := rfl
    rw [run_placeSession_leased py tm hchoose hrun]
    dsimp only
    rw [hcallbacks]
    cases s.world.callbacks host.hostId with
    | none => rfl
    | some createCell =>
      cases createCell with
      | raises e => rfl
      | celld c =>
        have hses' : st.hasSession sid = true := by
          rw [hst]
          exact hses
        obtain ⟨cell, s₂, hcell⟩ := run_createCell_ok py tm c (s := ⟨s.reading + 1,
          { (s.ready tm).draw .leaseToken with store := st }⟩) hses'
        have hcallback' : (Broker.runCallback py sid (.celld c)).run (timed py tm) _ = (.ok (), s₂) :=
          Prog.run_bind_ok _ hcell
        exact congrArg Prod.fst (Prog.run_bind_ok _ hcallback')

/-- **Why a placement raises.** -/
theorem placeSession_raises_iff (hses : s.world.store.hasSession sid = true) :
    (∃ e, ((Broker.placeSession py sid).run (timed py tm) s).1 = .error e) ↔
      s.world.PlacementFails := by
  rw [run_placeSession_vacancy py tm hses, World.placementFails_iff]
  cases s.world.vacancy with
  | error e => exact iff_of_true ⟨e, rfl⟩ ⟨e, rfl⟩
  | ok place => exact iff_of_false nofun nofun

/-! ## Failing -/

/-- A placement that fails has taken a slot, or done nothing where there is none. -/
theorem placeSession_fails (hses : s.world.store.hasSession sid = true)
    (hfails : s.world.PlacementFails) :
    ∃ e s', (Broker.placeSession py sid).run (timed py tm) s = (.error e, s') ∧
      match s.world.store.chooseCellHost with
      | .error _ => s' = s
      | .ok host => ∃ m, s'.world.store.capacityOf host.id = some m ∧ host.capacityUsed < m := by
  obtain ⟨e, he⟩ := (placeSession_raises_iff py tm hses).mpr hfails
  refine ⟨e, _, Prod.ext he rfl, ?_⟩
  cases hchoose : s.world.store.chooseCellHost with
  | ok host => exact placeSession_takes py tm hses hchoose
  | error e => rw [run_placeSession_unhosted py tm hchoose]

/-- So does that of a candidate just created. -/
theorem run_candidate_fails (tenantId : String) (metadata : Json)
    (hnew : ∀ row ∈ s.world.store.sessions, row.id ≠ s.world.fresh py .session)
    (hfails : s.world.PlacementFails) :
    ∃ s₁ e s', (call (.createSession tenantId none none metadata)).run (timed py tm) s =
        (.ok (s.world.fresh py .session), s₁) ∧
      (∃ sessions, s₁.world.store = { s.world.store with sessions }) ∧
      s₁.world.store.statusOf (s.world.fresh py .session) = some .pending ∧
      (Broker.placeSession py (s.world.fresh py .session)).run (timed py tm) s₁ =
        (.error e, s') ∧
      match s.world.store.chooseCellHost with
      | .error _ => s' = s₁
      | .ok host => ∃ m, s'.world.store.capacityOf host.id = some m ∧ host.capacityUsed < m := by
  obtain ⟨s₁, hcreate, ⟨sessions, hstore⟩, hvacancy, hpending⟩ :=
    run_newCandidate py tm tenantId metadata hnew
  have hchoose₁ : s₁.world.store.chooseCellHost = s.world.store.chooseCellHost := by
    rw [hstore]
    rfl
  obtain ⟨e, s', hplace, hend⟩ := placeSession_fails py tm
    (Store.hasSession_of_statusOf hpending) ((World.placementFails_congr hvacancy).mpr hfails)
  rw [hchoose₁] at hend
  exact ⟨s₁, e, s', hcreate, ⟨sessions, hstore⟩, hpending, hplace, hend⟩

omit [Field T] [IsStrictOrderedRing T] [FloorRing T] in
/-- A call that took a slot left something behind. -/
theorem not_leavesNothing {candidate : String} {w w' : World T} {host : CellHostRow T} {m : ℕ}
    (hchoose : w.store.chooseCellHost = .ok host) (hcap : w'.store.capacityOf host.id = some m)
    (hlt : host.capacityUsed < m) : ¬ LeavesNothing candidate w w' := by
  intro h
  have hslots := h.slots host.id
  rw [hcap] at hslots
  unfold Store.capacityOf at hslots
  rw [Data.Table.find?_eq_some.mpr ⟨(Store.chooseCellHost_ok hchoose).1, rfl⟩] at hslots
  obtain rfl := Option.some.inj hslots
  exact Nat.lt_irrefl _ hlt

/-- `create_session` never marks its candidate. -/
theorem createSession_fails (tenantId : String) (metadata : Json)
    (hnew : ∀ row ∈ s.world.store.sessions, row.id ≠ s.world.fresh py .session)
    (hfails : s.world.PlacementFails) :
    ∃ e s', (Gateway.createSession py tenantId metadata).run (timed py tm) s = (.error e, s') ∧
      ¬ LeavesNothing (s.world.fresh py .session) s.world s'.world := by
  obtain ⟨s₁, e, s', hcreate, -, hpending, hplace, hend⟩ :=
    run_candidate_fails py tm tenantId metadata.orEmpty hnew hfails
  refine ⟨e, s', ?_, ?_⟩
  · unfold Gateway.createSession
    simp only [Prog.bind_eq]
    rw [Prog.run_bind_ok _ hcreate, Prog.run_bind_error _ hplace]
  · cases hchoose : s.world.store.chooseCellHost with
    | ok host =>
      rw [hchoose] at hend
      obtain ⟨m, hcap, hlt⟩ := hend
      exact not_leavesNothing hchoose hcap hlt
    | error e =>
      rw [hchoose] at hend
      intro h
      rw [hend] at h
      exact h.notPending hpending

omit [Field T] [LinearOrder T] [IsStrictOrderedRing T] [FloorRing T] in
/-- The initiator of a channel: the one the request names, or an anonymous one. -/
def ChannelRequest.initiator (request : ChannelRequest) (w : World T) : String :=
  if request.initiatorResourceId = "" then
    request.platform ++ ":anon-" ++ String.ofList ((w.fresh py .anonymous).toList.take 8)
  else request.initiatorResourceId

omit [IsStrictOrderedRing T] [FloorRing T] in
/-- The name of an initiator costs an id at most. -/
theorem run_resourceId (request : ChannelRequest) :
    ∃ drawn, (Gateway.resourceId request.platform request.initiatorResourceId).run (timed py tm) s =
        (.ok (request.initiator py s.world), { s with world := { s.world with drawn } }) ∧
      drawn .session = s.world.drawn .session := by
  unfold Gateway.resourceId ChannelRequest.initiator
  split
  · refine ⟨(s.world.draw .anonymous).drawn, rfl, World.draw_of_ne (by decide)⟩
  · exact ⟨s.world.drawn, rfl, rfl⟩

/-- A channel call marks its candidate, and gives nothing back. -/
theorem channelSession_fails (request : ChannelRequest)
    (hnew : ∀ row ∈ s.world.store.sessions, row.id ≠ s.world.fresh py .session)
    (hfails : s.world.PlacementFails) :
    ∃ e s', (request.run py).run (timed py tm) s = (.error e, s') ∧
      (LeavesNothing (s.world.fresh py .session) s.world s'.world ↔
        ∃ e, s.world.store.chooseCellHost = .error e) := by
  obtain ⟨drawn, hresource, hdrawn⟩ := run_resourceId py tm (s := s) request
  have hfresh : ({ s.world with drawn } : World T).fresh py .session =
      s.world.fresh py .session := congrArg (py.uuid4 .session) hdrawn
  obtain ⟨s₁, e, s', hcreate, ⟨sessions, hstore⟩, hpending, hplace, hend⟩ :=
    run_candidate_fails py tm (s := { s with world := { s.world with drawn } }) request.tenantId
      request.metadata.orEmpty (fun row hrow => hfresh ▸ hnew row hrow) hfails
  rw [hfresh] at hcreate hpending hplace
  change s₁.world.store = { s.world.store with sessions } at hstore
  dsimp only at hend
  -- whatever has failed, the candidate is abandoned and the exception goes on
  have hrun : (request.run py).run (timed py tm) s = (.error e, ⟨s'.reading + 1,
      { s'.ready tm with
        store := s'.world.store.updateSessionStatus (tm.now s'.reading)
          (s.world.fresh py .session) .abandoned }⟩) := by
    unfold ChannelRequest.run Gateway.getOrCreateChannelSession
    simp only [Prog.bind_eq]
    rw [Prog.run_bind_ok _ hresource, Prog.run_bind_ok _ hcreate, Prog.run_tryCatch]
    unfold Gateway.joinChannel
    simp only [Prog.bind_eq]
    rw [Prog.run_bind_error _ hplace]
    rfl
  refine ⟨e, _, hrun, ?_⟩
  cases hchoose : s.world.store.chooseCellHost with
  | ok host =>
    rw [hchoose] at hend
    obtain ⟨m, hcap, hlt⟩ := hend
    refine ⟨fun h => absurd h (not_leavesNothing hchoose hcap hlt), ?_⟩
    rintro ⟨e, he⟩
    cases he
  | error e =>
    rw [hchoose] at hend
    refine ⟨fun _ => ⟨e, rfl⟩, fun _ => ?_⟩
    have hstatus := Store.statusOf_updateSessionStatus s'.world.store (tm.now s'.reading)
      (s.world.fresh py .session) (s.world.fresh py .session) .abandoned
    rw [if_pos rfl, hend, hpending] at hstatus
    rw [hend]
    have hfinal : ∃ sessions', s₁.world.store.updateSessionStatus (tm.now s₁.reading)
        (s.world.fresh py .session) .abandoned = { s.world.store with sessions := sessions' } := by
      rw [hstore]
      exact ⟨_, rfl⟩
    obtain ⟨sessions', hfinal⟩ := hfinal
    constructor
    case leases =>
      have hsame := congrArg Store.sessionLeases hfinal
      exact hsame
    case channels =>
      have hsame := congrArg Store.channels hfinal
      exact hsame
    case slots =>
      intro id
      have hsame := congrArg (Store.capacityOf · id) hfinal
      exact hsame
    case routes =>
      intro t sid
      have hsame := congrArg (Store.getRoute · t sid) hfinal
      exact hsame
    case notPending | notRunning =>
      intro h
      cases hstatus.symm.trans h

/-- **What a failed placement leaves behind.** With a new id for the candidate,
and for whatever reason the placement fails, the call raises, and it leaves
nothing behind if and only if it is the channel call and there was no host with a
free slot. -/
theorem failed_placement_iff (op : Placing)
    (hnew : ∀ row ∈ s.world.store.sessions, row.id ≠ s.world.fresh py .session)
    (hfails : s.world.PlacementFails) :
    (∃ e, ((op.code py).run (timed py tm) s).1 = .error e) ∧
      (LeavesNothing (s.world.fresh py .session) s.world ((op.code py).run (timed py tm) s).2.world ↔
        (∃ request, op = .channelSession request) ∧
          ∃ e, s.world.store.chooseCellHost = .error e) := by
  cases op with
  | createSession tenantId metadata =>
    obtain ⟨e, s', hrun, hleaves⟩ := createSession_fails py tm tenantId metadata hnew hfails
    have hcode : ((Placing.createSession tenantId metadata).code py).run (timed py tm) s =
        (.error e, s') := Prog.run_bind_error _ hrun
    rw [hcode]
    refine ⟨⟨e, rfl⟩, fun h => absurd h hleaves, ?_⟩
    rintro ⟨⟨request, h⟩, -⟩
    cases h
  | channelSession request =>
    obtain ⟨e, s', hrun, hleaves⟩ := channelSession_fails py tm request hnew hfails
    have hcode : ((Placing.channelSession request).code py).run (timed py tm) s =
        (.error e, s') := Prog.run_bind_error _ hrun
    rw [hcode]
    exact ⟨⟨e, rfl⟩, fun h => ⟨⟨request, rfl⟩, hleaves.mp h⟩, fun h => hleaves.mpr h.2⟩

end Runs

/-! ## Samples -/

/-- A host that is in the store but has no callback. -/
def hostWithoutCallback : Ticking ℚ where
  reading := 0
  world := ((call (.upsertCellHost "cell-local" "local" "inproc://cell" 1 .null)).run
    (exec Py.sample) (World.init (0 : ℚ) Sample.files)).2

/-- A channel call that fails there takes the slot, and the session it has
abandoned has a route. -/
theorem failed_call_leaves_lease :
    let failed := (sampleRequest.run Py.sample).run
      (timed Py.sample (.still 0 Sample.files)) hostWithoutCallback
    failed.1.toOption = none ∧ failed.2.world.store.statusOf "s" = some .abandoned ∧
      (hostWithoutCallback.world.store.capacityOf "h" = some 0 ∧
        failed.2.world.store.capacityOf "h" = some 1) ∧
      (hostWithoutCallback.world.store.getRoute 0 "s").isSome = false ∧
        (failed.2.world.store.getRoute 0 "s").isSome = true := by
  decide +kernel

/-- Without any host a channel call leaves nothing behind, and `create_session`
its candidate. -/
theorem failed_placement_iff_sample :
    let none : Ticking ℚ := ⟨0, World.init 0 Sample.files⟩
    let tm : Timing ℚ := .still 0 Sample.files
    LeavesNothing "s" none.world (((Placing.channelSession sampleRequest).code Py.sample).run
        (timed Py.sample tm) none).2.world ∧
      ¬ LeavesNothing "s" none.world (((Placing.createSession "local" .null).code Py.sample).run
        (timed Py.sample tm) none).2.world := by
  intro none tm
  have hnew : ∀ row ∈ none.world.store.sessions, row.id ≠ none.world.fresh Py.sample .session :=
    fun _ h => (nomatch h)
  have hfails : none.world.PlacementFails := fun _ h => (nomatch h)
  have hchannel := failed_placement_iff Py.sample tm
    (.channelSession sampleRequest) hnew hfails
  have hcreate := failed_placement_iff Py.sample tm
    (.createSession "local" .null) hnew hfails
  refine ⟨hchannel.2.mpr ⟨⟨_, rfl⟩, _, rfl⟩, fun h => ?_⟩
  obtain ⟨⟨_, hop⟩, -⟩ := hcreate.2.mp h
  cases hop

end Nadi
