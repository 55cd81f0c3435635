import Nadi.Data.Balance
import Nadi.FailedPlacement
import Nadi.Overcommit

/-!
# How placements fill the hosts

`place_session` takes a slot of the host with the fewest in use among those that
have one free (store.py:292–305). One call after the other, from hosts that were
registered empty, that is filling the emptiest first (`Data.Balance`): the
counts follow a run of the abstract greedy (`Hosted.place`), so the hosts stay
level and no call fails before the last slot is taken (`placements_balanced`).
-/

namespace Nadi

open Data.Balance (Full Balanced Emptiest Filled)
open Effect

variable {T : Type}

/-! ## Registering, then placing -/

/-- What `register_cell_host` is given, with a `Celld`'s method for `create_cell`. -/
structure Registration where
  hostId : String
  zone : String
  address : String
  capacityTotal : Int
  celld : Celld
  objectRef : Option Celld

/-- What may happen before the first placement. -/
inductive Setup where
  | registerCellHost (r : Registration)
  | createSession (tenantId : String) (externalId profileBundle : Option String)
      (metadata : Json)

/-- What may happen from the first placement on. -/
inductive Arrival where
  | createSession (tenantId : String) (externalId profileBundle : Option String)
      (metadata : Json)
  | placeSession (sid : String)

/-- Whether an arrival is a call of `place_session`. -/
def Arrival.places : Arrival → Bool
  | .createSession .. => false
  | .placeSession _ => true

/-- Note the capacity of a host, which replaces one it was given before. -/
def noteCapacity (hosts : List (String × ℤ)) : Setup → List (String × ℤ)
  | .registerCellHost r =>
    if r.hostId ∈ hosts.map Prod.fst then
      hosts.map fun h => if h.1 == r.hostId then (h.1, r.capacityTotal) else h
    else hosts ++ [(r.hostId, r.capacityTotal)]
  | .createSession .. => hosts

/-- The hosts registered, each with the capacity it was given last. -/
def capacities (setup : List Setup) : List (String × ℤ) := setup.foldl noteCapacity []

/-- All the slots there are. -/
def totalSlots (setup : List Setup) : ℤ := ((capacities setup).map Prod.snd).sum

/-- Where every host is given its own id, the capacities are those registered. -/
theorem capacities_of_nodup (rs : List Registration)
    (h : (rs.map Registration.hostId).Nodup) :
    capacities (rs.map .registerCellHost) = rs.map fun r => (r.hostId, r.capacityTotal) := by
  induction rs using List.reverseRecOn with
  | nil => rfl
  | append_singleton rs r ih =>
    rw [List.map_append, List.nodup_append] at h
    obtain ⟨hnodup, -, hne⟩ := h
    have hold : capacities (rs.map .registerCellHost ++ [.registerCellHost r]) =
        noteCapacity (capacities (rs.map .registerCellHost)) (.registerCellHost r) :=
      List.foldl_append
    have hnew : r.hostId ∉ (capacities (rs.map .registerCellHost)).map Prod.fst := by
      rw [ih hnodup, List.map_map]
      exact fun hmem => hne _ hmem _ (List.mem_singleton_self _) rfl
    rw [List.map_append, List.map_singleton, hold]
    simp only [noteCapacity]
    rw [if_neg hnew, ih hnodup, List.map_append, List.map_singleton]

/-- The capacities are among those registered. -/
theorem mem_capacities {setup : List Setup} {h : String × ℤ} (hmem : h ∈ capacities setup) :
    ∃ r, .registerCellHost r ∈ setup ∧ h.2 = r.capacityTotal := by
  induction setup using List.reverseRecOn generalizing h with
  | nil => cases hmem
  | append_singleton setup op ih =>
    have hold : ∀ h ∈ capacities setup,
        ∃ r, Setup.registerCellHost r ∈ setup ++ [op] ∧ h.2 = r.capacityTotal := by
      intro h hh
      obtain ⟨r, hr, heq⟩ := ih hh
      exact ⟨r, List.mem_append_left _ hr, heq⟩
    have hstep : capacities (setup ++ [op]) = noteCapacity (capacities setup) op :=
      List.foldl_append
    rw [hstep] at hmem
    cases op with
    | createSession => exact hold h hmem
    | registerCellHost r =>
      have hlast : Setup.registerCellHost r ∈ setup ++ [.registerCellHost r] :=
        List.mem_append_right _ (List.mem_singleton_self _)
      simp only [noteCapacity] at hmem
      split at hmem
      · obtain ⟨h', hh', rfl⟩ := List.mem_map.mp hmem
        split
        · exact ⟨r, hlast, rfl⟩
        · exact hold h' hh'
      · rcases List.mem_append.mp hmem with hmem | hmem
        · exact hold h hmem
        · rw [List.mem_singleton.mp hmem]
          exact ⟨r, hlast, rfl⟩

/-! ## Hosts in the store -/

/-- Every host is ready. -/
def Store.AllReady (st : Store T) : Prop := ∀ h ∈ st.cellHosts, h.status = .ready

section Counts

variable {st : Store T} {h : CellHostRow T}

theorem Store.usedOf_host (hmem : h ∈ st.cellHosts) : st.usedOf h.id = h.capacityUsed := by
  unfold usedOf capacityOf
  rw [Data.Table.find?_eq_some.mpr ⟨hmem, rfl⟩]
  rfl

theorem Store.slotsOf_host (hmem : h ∈ st.cellHosts) : st.slotsOf h.id = h.capacityTotal := by
  unfold slotsOf totalOf
  rw [Data.Table.find?_eq_some.mpr ⟨hmem, rfl⟩]
  rfl

theorem Store.full_host (hmem : h ∈ st.cellHosts) :
    Full st.slotsOf st.usedOf h.id ↔ h.capacityTotal ≤ h.capacityUsed := by
  unfold Full
  rw [st.slotsOf_host hmem, st.usedOf_host hmem]

/-- An id that names no host counts as full. -/
theorem Store.slotsOf_none {id : String} (hnone : ∀ h ∈ st.cellHosts, h.id ≠ id) :
    st.slotsOf id = 0 := by
  unfold slotsOf totalOf
  rw [Data.Table.find?_eq_none.mpr hnone]
  rfl

variable (st) in
theorem Store.slotsOf_outside (id : String)
    (hid : id ∉ (st.cellHosts.rows.map CellHostRow.id).toFinset) : st.slotsOf id ≤ 0 := by
  rw [st.slotsOf_none fun host hmem heq => hid ?_]
  rw [List.mem_toFinset]
  exact List.mem_map.mpr ⟨host, hmem, heq⟩

/-- Whoever is not full is a host. -/
theorem Store.host_of_room {id : String} (hroom : ¬ Full st.slotsOf st.usedOf id) :
    ∃ h ∈ st.cellHosts, h.id = id := by
  by_contra hnone
  refine hroom ?_
  unfold Full
  rw [st.slotsOf_none fun h hh heq => hnone ⟨h, hh, heq⟩]
  exact Int.natCast_nonneg _

theorem Store.all_full_iff :
    (∀ id, Full st.slotsOf st.usedOf id) ↔
      ∀ h ∈ st.cellHosts, h.capacityTotal ≤ h.capacityUsed := by
  constructor
  · exact fun hfull h hmem => (st.full_host hmem).mp (hfull h.id)
  · intro hfull id
    by_contra hroom
    obtain ⟨h, hmem, rfl⟩ := st.host_of_room hroom
    exact hroom ((st.full_host hmem).mpr (hfull h hmem))

/-- A ready host can be chosen as long as it is not full. -/
theorem Store.AllReady.hasCapacity_iff (hready : st.AllReady) (hmem : h ∈ st.cellHosts) :
    hasCapacity h = true ↔ ¬ Full st.slotsOf st.usedOf h.id := by
  rw [st.full_host hmem]
  unfold hasCapacity
  simp [hready h hmem]

variable [LinearOrder T]

/-- **The host chosen is an emptiest one.** -/
theorem Store.AllReady.choose_emptiest (hready : st.AllReady)
    (hchoose : st.chooseCellHost = .ok h) : Emptiest st.slotsOf st.usedOf h.id := by
  obtain ⟨hmem, hfree⟩ := chooseCellHost_ok hchoose
  constructor
  case room => exact (hready.hasCapacity_iff hmem).mp hfree
  case least =>
    intro id hroom
    obtain ⟨host, hhost, rfl⟩ := host_of_room hroom
    rw [usedOf_host hmem, usedOf_host hhost]
    exact chooseCellHost_least hchoose hhost ((hready.hasCapacity_iff hhost).mpr hroom)

/-- None is chosen if and only if all are full. -/
theorem Store.AllReady.choose_error_iff (hready : st.AllReady) {e : PyErr} :
    st.chooseCellHost = .error e ↔
      e = .runtimeError "no cell host has available capacity" ∧
        ∀ id, Full st.slotsOf st.usedOf id := by
  rw [chooseCellHost_error_iff, all_full_iff]
  refine and_congr_right fun _ => forall₂_congr fun host hmem => ?_
  rw [← Bool.not_eq_true, hready.hasCapacity_iff hmem, full_host hmem, not_not]

end Counts

/-! ## The set-up -/

/-- The hosts are those registered: ready, nothing in use, with their capacities,
and with ids among the first `n` drawn for hosts. -/
structure Listed (py : Py) (st : Store T) (n : ℕ) (hosts : List (String × ℤ)) : Prop where
  ready : st.AllReady
  unused : ∀ h ∈ st.cellHosts, h.capacityUsed = 0
  named : st.cellHosts.rows.map (fun h => (h.hostId, h.capacityTotal)) = hosts
  drawn : ∀ h ∈ st.cellHosts, ∃ m < n, h.id = py.uuid4 .cellHost m

theorem Listed.frame {py : Py} {st st' : Store T} {n n' : ℕ} {hosts : List (String × ℤ)}
    (h : Listed py st n hosts) (hhosts : st'.cellHosts = st.cellHosts) (hle : n ≤ n') :
    Listed py st' n' hosts := by
  obtain ⟨hready, hunused, hnamed, hdrawn⟩ := h
  unfold Store.AllReady at hready
  rw [← hhosts] at hready hunused hnamed hdrawn
  refine ⟨hready, hunused, hnamed, fun host hmem => ?_⟩
  obtain ⟨m, hm, hid⟩ := hdrawn host hmem
  exact ⟨m, hm.trans_le hle, hid⟩

/-- A host that is known is refreshed, and given another capacity. -/
theorem Listed.refresh {py : Py} {st : Store T} {n : ℕ} {hosts : List (String × ℤ)}
    (h : Listed py st n hosts) (t : T) {r : Registration} (hmem : r.hostId ∈ hosts.map Prod.fst) :
    Listed py
      { st with
        cellHosts := st.cellHosts.update (fun h => h.hostId == r.hostId)
          (Store.refreshCellHost t r.zone r.address r.capacityTotal .null) fun _ => rfl }
      (n + 1) (noteCapacity hosts (.registerCellHost r)) := by
  -- each row is an old one or an old one refreshed
  have hrows : ∀ row ∈ st.cellHosts.rows.map fun host => if host.hostId == r.hostId then
      Store.refreshCellHost t r.zone r.address r.capacityTotal .null host else host,
      ∃ old ∈ st.cellHosts, row.status = .ready ∧ row.capacityUsed = old.capacityUsed ∧
        row.id = old.id := by
    intro row hrow
    obtain ⟨old, hold, rfl⟩ := List.mem_map.mp hrow
    refine ⟨old, hold, ?_⟩
    split
    · exact ⟨rfl, rfl, rfl⟩
    · exact ⟨h.ready old hold, rfl, rfl⟩
  constructor
  case ready =>
    intro row hrow
    obtain ⟨old, -, hstatus, -⟩ := hrows row hrow
    exact hstatus
  case unused =>
    intro row hrow
    obtain ⟨old, hold, -, hused, -⟩ := hrows row hrow
    exact hused.trans (h.unused old hold)
  case drawn =>
    intro row hrow
    obtain ⟨old, hold, -, -, hid⟩ := hrows row hrow
    obtain ⟨m, hm, hold⟩ := h.drawn old hold
    exact ⟨m, Nat.lt_succ_of_lt hm, hid.trans hold⟩
  case named =>
    simp only [noteCapacity]
    rw [if_pos hmem, ← h.named]
    show List.map _ (List.map _ _) = _
    rw [List.map_map, List.map_map]
    refine List.map_congr_left fun host _ => ?_
    simp only [Function.comp_apply]
    split
    · rename_i heq
      simp only [Store.refreshCellHost, beq_iff_eq.mp heq]
    · rfl

/-- A new one comes last. -/
theorem Listed.add {py : Py} {st : Store T} {n : ℕ} {hosts : List (String × ℤ)}
    (h : Listed py st n hosts) (t : T) {r : Registration} (hnew : r.hostId ∉ hosts.map Prod.fst)
    {cellHosts : Data.Table (CellHostRow T) CellHostRow.id}
    (hins : st.cellHosts.insert? (Store.newCellHost t (py.uuid4 .cellHost n) r.hostId r.zone
      r.address r.capacityTotal .null) = some cellHosts) :
    Listed py { st with cellHosts } (n + 1) (noteCapacity hosts (.registerCellHost r)) := by
  have hrows : ∀ row ∈ cellHosts, row ∈ st.cellHosts ∨ row = Store.newCellHost t
      (py.uuid4 .cellHost n) r.hostId r.zone r.address r.capacityTotal .null :=
    fun row hrow => (Data.Table.mem_of_insert? hins).mp hrow
  constructor
  case ready =>
    intro row hrow
    rcases hrows row hrow with hold | rfl
    · exact h.ready row hold
    · rfl
  case unused =>
    intro row hrow
    rcases hrows row hrow with hold | rfl
    · exact h.unused row hold
    · rfl
  case drawn =>
    intro row hrow
    rcases hrows row hrow with hold | rfl
    · obtain ⟨m, hm, hid⟩ := h.drawn row hold
      exact ⟨m, Nat.lt_succ_of_lt hm, hid⟩
    · exact ⟨n, Nat.lt_succ_self n, rfl⟩
  case named =>
    simp only [noteCapacity]
    rw [if_neg hnew, ← h.named]
    show List.map _ cellHosts.rows = _
    rw [(Data.Table.insert?_eq_some.mp hins).2, List.map_append]
    rfl

/-- A registration always succeeds, with the id that is drawn for it. -/
theorem Listed.upsert {py : Py} {st : Store T} {n : ℕ} {hosts : List (String × ℤ)}
    (h : Listed py st n hosts) (t : T) (r : Registration) :
    ∃ cid st', st.upsertCellHost t (py.uuid4 .cellHost n) r.hostId r.zone r.address
        r.capacityTotal .null = .ok (cid, st') ∧
      Listed py st' (n + 1) (noteCapacity hosts (.registerCellHost r)) := by
  have hknown : r.hostId ∈ hosts.map Prod.fst ↔ ∃ host ∈ st.cellHosts, host.hostId = r.hostId := by
    rw [← h.named, List.map_map]
    exact List.mem_map
  unfold Store.upsertCellHost
  cases hfind : st.cellHosts.rows.find? fun host => host.hostId == r.hostId with
  | some existing =>
    have hmem : r.hostId ∈ hosts.map Prod.fst :=
      hknown.mpr ⟨existing, List.mem_of_find?_eq_some hfind, by simpa using List.find?_some hfind⟩
    exact ⟨_, _, rfl, h.refresh t hmem⟩
  | none =>
    have hnew : r.hostId ∉ hosts.map Prod.fst := by
      rw [hknown]
      rintro ⟨host, hhost, heq⟩
      have hne := List.find?_eq_none.mp hfind host hhost
      simp [heq] at hne
    cases hins : st.cellHosts.insert? (Store.newCellHost t (py.uuid4 .cellHost n) r.hostId r.zone
        r.address r.capacityTotal .null) with
    | none =>
      -- the id is new
      obtain ⟨host, hhost, hid⟩ := Data.Table.insert?_eq_none.mp hins
      obtain ⟨m, hm, hold⟩ := h.drawn host hhost
      have hsame := (py.uuid4_inj (hold.symm.trans hid)).2
      omega
    | some cellHosts => exact ⟨_, _, rfl, h.add t hnew hins⟩

/-! ## The runs -/

/-- The hosts are ready, their callbacks create cells, and their counts are those
of `n` takings, each of an emptiest host. -/
structure Hosted (bound : String → ℤ) (n : ℕ) (w : World T) : Prop where
  ready : w.store.AllReady
  callback : ∀ h ∈ w.store.cellHosts, ∃ c, w.callbacks h.hostId = some (.celld c)
  slots : w.store.slotsOf = bound
  filled : Filled bound n w.store.usedOf

/-- Hosts and callbacks are all it depends on. -/
theorem Hosted.frame {bound : String → ℤ} {n : ℕ} {w w' : World T} (h : Hosted bound n w)
    (hhosts : Agree .hosts w w') (hbroker : Agree .broker w w') : Hosted bound n w' := by
  have hhosts : w'.store.cellHosts = w.store.cellHosts := hhosts
  have hused : w'.store.usedOf = w.store.usedOf := by
    unfold Store.usedOf Store.capacityOf
    rw [hhosts]
  have hslots : w'.store.slotsOf = w.store.slotsOf := by
    unfold Store.slotsOf Store.totalOf
    rw [hhosts]
  constructor
  case ready => exact fun host hmem => h.ready host (hhosts ▸ hmem)
  case callback =>
    intro host hmem
    rw [hbroker.1]
    exact h.callback host (hhosts ▸ hmem)
  case slots => rw [hslots, h.slots]
  case filled => exact hused ▸ h.filled

section Runs

variable [Field T] [LinearOrder T] [IsStrictOrderedRing T] [FloorRing T] (py : Py) (tm : Timing T)

/-- `Store.create_session`, dropping the id. -/
def addSession (tenantId : String) (externalId profileBundle : Option String) (metadata : Json) :
    Code T Unit := do
  let _ ← call (.createSession tenantId externalId profileBundle metadata)
  return ()

/-- Make a call of the set-up, dropping what it returns. -/
def Setup.code : Setup → Code T Unit
  | .registerCellHost r => do
    let _ ← Broker.registerCellHost r.hostId r.zone r.address r.capacityTotal (.celld r.celld)
      r.objectRef
    return ()
  | .createSession tenantId externalId profileBundle metadata =>
    addSession tenantId externalId profileBundle metadata

/-- Make a call, dropping what it returns. -/
def Arrival.code : Arrival → Code T Unit
  | .createSession tenantId externalId profileBundle metadata =>
    addSession tenantId externalId profileBundle metadata
  | .placeSession sid => do
    let _ ← Broker.placeSession py sid
    return ()

/-- The calls of the set-up one after the other, whatever comes of each. -/
def prepared (setup : List Setup) (s : Ticking T) : Ticking T :=
  setup.foldl (fun s op => (op.code.run (timed py tm) s).2) s

/-- What arrives, one after the other, whatever comes of each. -/
def arrived (arrivals : List Arrival) (s : Ticking T) : Ticking T :=
  arrivals.foldl (fun s op => ((op.code py).run (timed py tm) s).2) s

/-- Only sessions that exist by then are placed. -/
def OnSessions (arrivals : List Arrival) (s : Ticking T) : Prop :=
  ∀ before sid after, arrivals = before ++ .placeSession sid :: after →
    (arrived py tm before s).world.store.hasSession sid = true

variable {bound : String → ℤ} {n : ℕ} {s : Ticking T} {sid : String}

/-! ### The set-up -/

omit [Field T] [LinearOrder T] [IsStrictOrderedRing T] [FloorRing T] in
/-- The hosts are those registered, each with a callback that creates cells. -/
structure Registered (hosts : List (String × ℤ)) (w : World T) : Prop where
  listed : Listed py w.store (w.drawn .cellHost) hosts
  callback : ∀ h ∈ hosts, ∃ c, w.callbacks h.1 = some (.celld c)

variable {hosts : List (String × ℤ)}

omit [IsStrictOrderedRing T] [FloorRing T] in
/-- Registering a host. -/
theorem Registered.register (h : Registered py hosts s.world) (r : Registration) :
    Registered py (noteCapacity hosts (.registerCellHost r))
      (((Setup.registerCellHost r).code).run (timed py tm) s).2.world := by
  obtain ⟨cid, st, hupsert, hlisted⟩ := h.listed.upsert (tm.now s.reading) r
  have hcall : (call (.upsertCellHost r.hostId r.zone r.address r.capacityTotal .null)).run
      (timed py tm) s = (.ok cid,
        ⟨s.reading + 1, { (s.ready tm).draw .cellHost with store := st }⟩) := by
    rw [Prog.run_perform, timed_reads py tm s rfl (by simp)]
    have hexec : exec py (.upsertCellHost r.hostId r.zone r.address r.capacityTotal .null)
        (s.ready tm) = ((s.ready tm).draw .cellHost).commit (s.world.store.upsertCellHost
          (tm.now s.reading) (py.uuid4 .cellHost (s.world.drawn .cellHost)) r.hostId r.zone
          r.address r.capacityTotal .null) := rfl
    rw [hexec, hupsert]
    rfl
  have hrun : ∃ objects, ((Setup.registerCellHost r).code).run (timed py tm) s = (.ok (),
      ⟨s.reading + 1, { (s.ready tm).draw .cellHost with
        store := st
        callbacks := Function.update s.world.callbacks r.hostId (some (.celld r.celld))
        objects }⟩) := by
    unfold Setup.code Broker.registerCellHost
    simp only [Prog.bind_eq]
    rw [Prog.run_bind, Prog.run_bind_ok _ hcall]
    cases r.objectRef with
    | none => exact ⟨_, rfl⟩
    | some object => exact ⟨_, rfl⟩
  obtain ⟨objects, hrun⟩ := hrun
  rw [hrun]
  constructor
  case listed =>
    have hdrawn : ((s.ready tm).draw .cellHost).drawn .cellHost = s.world.drawn .cellHost + 1 :=
      World.draw_self .cellHost
    exact hdrawn ▸ hlisted
  case callback =>
    intro host hmem
    show ∃ c, Function.update s.world.callbacks r.hostId (some (.celld r.celld)) host.1 = _
    by_cases hname : host.1 = r.hostId
    · rw [hname, Function.update_self]
      exact ⟨r.celld, rfl⟩
    · -- a host of another name was there before
      rw [Function.update_of_ne hname]
      simp only [noteCapacity] at hmem
      split at hmem
      · obtain ⟨old, hold, rfl⟩ := List.mem_map.mp hmem
        have hsame : (if old.1 == r.hostId then (old.1, r.capacityTotal) else old).1 = old.1 := by
          split <;> rfl
        rw [hsame]
        exact h.callback old hold
      · rcases List.mem_append.mp hmem with hold | hnew
        · exact h.callback host hold
        · rw [List.mem_singleton.mp hnew] at hname
          exact absurd rfl hname

omit [IsStrictOrderedRing T] [FloorRing T] in
theorem Registered.create (h : Registered py hosts s.world) (tenantId : String)
    (externalId profileBundle : Option String) (metadata : Json) :
    Registered py hosts
      ((addSession tenantId externalId profileBundle metadata).run (timed py tm) s).2.world := by
  have hcall : (addSession tenantId externalId profileBundle metadata : Code T Unit).Within
      (fun c => c.writes .hosts = false ∧ c.writes .broker = false) fun _ => True :=
    .bind (.perform ⟨rfl, rfl⟩ fun _ => trivial) fun _ _ => trivial
  have hdrawn : s.world.drawn .cellHost ≤ ((addSession tenantId externalId profileBundle
      metadata).run (timed py tm) s).2.world.drawn .cellHost :=
    run_timed_store py tm s hcall (I := fun w => s.world.drawn .cellHost ≤ w.drawn .cellHost)
      (fun _ _ _ hle => hle) (fun c w _ hle => hle.trans (exec_drawn_le py w .cellHost))
      (Nat.le_refl _)
  have hhosts : Agree .hosts s.world _ := run_agree py tm hcall fun _ hc => hc.1
  have hbroker : Agree .broker s.world _ := run_agree py tm hcall fun _ hc => hc.2
  refine ⟨h.listed.frame hhosts hdrawn, fun host hmem => ?_⟩
  rw [hbroker.1]
  exact h.callback host hmem

omit [IsStrictOrderedRing T] [FloorRing T] in
/-- **The set-up.** -/
theorem registered_prepared (setup : List Setup) (clock : T) (files : Files) :
    Registered py (capacities setup)
      (prepared py tm setup ⟨0, World.init clock files⟩).world := by
  induction setup using List.reverseRecOn with
  | nil =>
    refine ⟨⟨fun _ h => ?_, fun _ h => ?_, rfl, fun _ h => ?_⟩, fun _ h => ?_⟩ <;> cases h
  | append_singleton setup op ih =>
    have hcaps : capacities (setup ++ [op]) = noteCapacity (capacities setup) op :=
      List.foldl_append
    have hworld : prepared py tm (setup ++ [op]) ⟨0, World.init clock files⟩ =
        (op.code.run (timed py tm) (prepared py tm setup ⟨0, World.init clock files⟩)).2 :=
      List.foldl_append
    rw [hcaps, hworld]
    cases op with
    | registerCellHost r => exact ih.register py tm r
    | createSession tenantId externalId profileBundle metadata =>
      exact ih.create py tm tenantId externalId profileBundle metadata

omit [Field T] [LinearOrder T] [IsStrictOrderedRing T] [FloorRing T] in
variable {py} in
/-- Nothing is in use after the set-up. -/
theorem Registered.hosted {w : World T} (h : Registered py hosts w) :
    Hosted w.store.slotsOf 0 w := by
  constructor
  case ready => exact h.listed.ready
  case slots => rfl
  case callback =>
    intro host hmem
    refine h.callback (host.hostId, host.capacityTotal) ?_
    rw [← h.listed.named]
    exact List.mem_map_of_mem hmem
  case filled =>
    have hzero : w.store.usedOf = fun _ => 0 := by
      funext id
      by_cases hid : ∃ host ∈ w.store.cellHosts, host.id = id
      · obtain ⟨host, hmem, rfl⟩ := hid
        rw [Store.usedOf_host hmem, h.listed.unused host hmem]
      · unfold Store.usedOf Store.capacityOf
        rw [Data.Table.find?_eq_none.mpr fun host hmem heq => hid ⟨host, hmem, heq⟩]
        rfl
    exact hzero ▸ Filled.zero

/-! ### One placement -/

omit [Field T] [LinearOrder T] [IsStrictOrderedRing T] [FloorRing T] in
theorem Call.ofCreation.leaves {c : Celld} {d : Call T} (h : d.ofCreation c sid) :
    d.writes .hosts = false ∧ d.writes .broker = false := by
  cases d <;> first | exact ⟨rfl, rfl⟩ | exact h.elim

omit [IsStrictOrderedRing T] [FloorRing T] in
/-- Creating a session is no concern of the hosts. -/
theorem Hosted.create (h : Hosted bound n s.world) (tenantId : String)
    (externalId profileBundle : Option String) (metadata : Json) :
    Hosted bound n
      ((addSession tenantId externalId profileBundle metadata).run (timed py tm) s).2.world := by
  have hcall : (addSession tenantId externalId profileBundle metadata : Code T Unit).Within
      (fun c => c.writes .hosts = false ∧ c.writes .broker = false) fun _ => True :=
    .bind (.perform ⟨rfl, rfl⟩ fun _ => trivial) fun _ _ => trivial
  exact h.frame (run_agree py tm hcall fun _ hc => hc.1) (run_agree py tm hcall fun _ hc => hc.2)

omit [IsStrictOrderedRing T] [FloorRing T] in
/-- The lease takes a slot of an emptiest host. -/
theorem Hosted.lease (h : Hosted bound n s.world) (hses : s.world.store.hasSession sid = true)
    {host : CellHostRow T} (hchoose : s.world.store.chooseCellHost = .ok host) :
    ∃ token s', (call (.createLease sid host.id 3600)).run (timed py tm) s = (.ok token, s') ∧
      Hosted bound (n + 1) s'.world ∧ s'.world.store.hasSession sid = true ∧
      s'.world.callbacks = s.world.callbacks := by
  have hmem := (Store.chooseCellHost_ok hchoose).1
  have hfind := Data.Table.find?_eq_some.mpr ⟨hmem, rfl⟩
  obtain ⟨st, hlease, hrun⟩ := run_createLease_ok py tm hses hmem
  have hslots : st.slotsOf = s.world.store.slotsOf := by
    funext id
    unfold Store.slotsOf
    rw [Store.createLease_totalOf hlease]
  have hused : st.usedOf = Data.Balance.take s.world.store.usedOf host.id := by
    funext id
    unfold Store.usedOf Data.Balance.take
    rw [Store.createLease_capacityOf hlease]
    split
    · rename_i heq
      subst heq
      dsimp only
      unfold Store.capacityOf
      rw [hfind]
      rfl
    · rfl
  have hemptiest := h.ready.choose_emptiest hchoose
  rw [h.slots] at hemptiest
  -- the hosts keep their names, and stay ready
  have hrows : ∀ row ∈ st.cellHosts, ∃ old ∈ s.world.store.cellHosts,
      row.hostId = old.hostId ∧ row.status = old.status := by
    intro row hrow
    obtain ⟨-, -, -, rfl⟩ := Store.createLease_ok hlease
    have hrow : row ∈ s.world.store.cellHosts.rows.map fun h =>
        if h.id == host.id then Store.takeSlot (tm.now s.reading) h else h := hrow
    obtain ⟨old, hold, rfl⟩ := List.mem_map.mp hrow
    refine ⟨old, hold, ?_⟩
    split <;> exact ⟨rfl, rfl⟩
  refine ⟨_, _, hrun, ?_, ?_, rfl⟩
  · constructor
    case ready =>
      intro row hrow
      obtain ⟨old, hold, -, hstatus⟩ := hrows row hrow
      exact hstatus.trans (h.ready old hold)
    case callback =>
      intro row hrow
      obtain ⟨old, hold, hname, -⟩ := hrows row hrow
      rw [hname]
      exact h.callback old hold
    case slots => exact hslots.trans h.slots
    case filled => exact hused ▸ h.filled.take hemptiest
  · obtain ⟨-, -, -, rfl⟩ := Store.createLease_ok hlease
    exact hses

/-- **A placement.** With all hosts full it raises and changes nothing; otherwise
it takes one slot of an emptiest host. -/
theorem Hosted.place (h : Hosted bound n s.world) (hses : s.world.store.hasSession sid = true) :
    ((∀ id, Full bound s.world.store.usedOf id) ∧
      (Broker.placeSession py sid).run (timed py tm) s =
        (.error (.runtimeError "no cell host has available capacity"), s)) ∨
    ((¬ ∀ id, Full bound s.world.store.usedOf id) ∧
      ∃ p s', (Broker.placeSession py sid).run (timed py tm) s = (.ok p, s') ∧
        Hosted bound (n + 1) s'.world) := by
  cases hchoose : s.world.store.chooseCellHost with
  | error e =>
    left
    obtain ⟨rfl, hfull⟩ := h.ready.choose_error_iff.mp hchoose
    rw [h.slots] at hfull
    exact ⟨hfull, run_placeSession_unhosted py tm hchoose⟩
  | ok host =>
    right
    have hroom := (h.ready.choose_emptiest hchoose).room
    rw [h.slots] at hroom
    refine ⟨fun hfull => hroom (hfull host.id), ?_⟩
    obtain ⟨token, s₁, hlease, hhosted, hses₁, hcallbacks⟩ := h.lease py tm hses hchoose
    obtain ⟨c, hc⟩ := h.callback host (Store.chooseCellHost_ok hchoose).1
    obtain ⟨cell, s₂, hcell⟩ := run_createCell_ok py tm c hses₁
    have hframe : ∀ part : Part, (∀ d : Call T, d.ofCreation c sid → d.writes part = false) →
        Agree part s₁.world s₂.world :=
      fun _ hleaves => agree_of_run py tm (c.createCell_within py sid) hcell hleaves
    have hafter : Hosted bound (n + 1) s₂.world :=
      hhosted.frame (hframe .hosts fun _ hd => hd.leaves.1) (hframe .broker fun _ hd => hd.leaves.2)
    exact ⟨⟨sid, host.hostId, token, host.address⟩, s₂,
      run_placeSession_celld py tm hchoose hlease (hcallbacks ▸ hc) hcell, hafter⟩

/-- Why a placement raises, and that it succeeds otherwise. -/
theorem Hosted.outcomes (h : Hosted bound n s.world)
    (hses : s.world.store.hasSession sid = true) :
    (((Broker.placeSession py sid).run (timed py tm) s).1 =
        .error (.runtimeError "no cell host has available capacity") ↔
      ∀ id, Full bound s.world.store.usedOf id) ∧
    ((∃ p, ((Broker.placeSession py sid).run (timed py tm) s).1 = .ok p) ↔
      ¬ ∀ id, Full bound s.world.store.usedOf id) := by
  rcases h.place py tm hses with ⟨hall, hrun⟩ | ⟨hroom, p, s', hrun, -⟩
  · rw [hrun]
    exact ⟨⟨fun _ => hall, fun _ => rfl⟩, fun ⟨_, hp⟩ => (nomatch hp), fun h => absurd hall h⟩
  · rw [hrun]
    exact ⟨⟨fun h => (nomatch h), fun h => absurd h hroom⟩, fun _ => hroom, fun _ => ⟨p, rfl⟩⟩

/-! ### Many placements -/

theorem arrived_append (arrivals : List Arrival) (op : Arrival) :
    arrived py tm (arrivals ++ [op]) s =
      ((op.code py).run (timed py tm) (arrived py tm arrivals s)).2 :=
  List.foldl_append

/-- Only sessions are placed if the first arrival places one, where it places any, and
the rest from there on place only sessions. -/
theorem OnSessions.cons {arrivals : List Arrival} {op : Arrival}
    (hfirst : ∀ sid, op = .placeSession sid → s.world.store.hasSession sid = true)
    (hrest : OnSessions py tm arrivals ((op.code py).run (timed py tm) s).2) :
    OnSessions py tm (op :: arrivals) s := by
  intro before sid after heq
  cases before with
  | nil => exact hfirst sid (List.cons.inj heq).1
  | cons op' before =>
    obtain ⟨rfl, hlist⟩ := List.cons.inj heq
    exact hrest before sid after hlist

theorem OnSessions.init {arrivals : List Arrival} {op : Arrival}
    (h : OnSessions py tm (arrivals ++ [op]) s) : OnSessions py tm arrivals s := by
  intro before sid after heq
  refine h before sid (after ++ [op]) ?_
  rw [heq, List.append_assoc, List.cons_append]

/-- **The run.** Every placement takes a slot until there are none left. -/
theorem Hosted.arrived (h : Hosted bound 0 s.world) (hbound : ∀ id, 0 ≤ bound id)
    {hosts : Finset String} (hout : ∀ id, id ∉ hosts → bound id ≤ 0) {arrivals : List Arrival}
    (hsessions : OnSessions py tm arrivals s) :
    ∃ m, Hosted bound m (arrived py tm arrivals s).world ∧
      (m : ℤ) = min (arrivals.countP Arrival.places : ℤ) (∑ id ∈ hosts, bound id) := by
  induction arrivals using List.reverseRecOn with
  | nil =>
    refine ⟨0, h, ?_⟩
    exact (min_eq_left (Finset.sum_nonneg fun id _ => hbound id)).symm
  | append_singleton arrivals op ih =>
    obtain ⟨m, hhosted, hm⟩ := ih (hsessions.init py tm)
    rw [arrived_append py tm, List.countP_append, List.countP_singleton]
    cases op with
    | createSession tenantId externalId profileBundle metadata =>
      exact ⟨m, hhosted.create py tm tenantId externalId profileBundle metadata, hm⟩
    | placeSession sid =>
      have hses := hsessions arrivals sid [] rfl
      have hfull := hhosted.filled.all_full_iff hbound hout
      have hcount : (Arrival.placeSession sid).places = true := rfl
      rw [if_pos hcount]
      rcases hhosted.place py tm hses with
        ⟨hall, hrun⟩ | ⟨hroom, p, s', hrun, hplaced⟩
      · have hcode : ((Arrival.placeSession sid).code py).run (timed py tm)
            (Nadi.arrived py tm arrivals s) = (.error _, Nadi.arrived py tm arrivals s) :=
          Prog.run_bind_error _ hrun
        rw [hcode]
        have htotal := hfull.mp hall
        refine ⟨m, hhosted, ?_⟩
        omega
      · have hcode : ((Arrival.placeSession sid).code py).run (timed py tm)
            (Nadi.arrived py tm arrivals s) = (.ok (), s') := Prog.run_bind_ok _ hrun
        rw [hcode]
        rw [hfull] at hroom
        refine ⟨m + 1, hplaced, ?_⟩
        omega

omit [Field T] [LinearOrder T] [IsStrictOrderedRing T] [FloorRing T] in
variable {py} in
/-- The slots of the hosts are those registered. -/
theorem Registered.sum_slots {w : World T} {setup : List Setup}
    (h : Registered py (capacities setup) w) :
    ∑ id ∈ (w.store.cellHosts.rows.map CellHostRow.id).toFinset, w.store.slotsOf id =
      totalSlots setup := by
  have hrows : (w.store.cellHosts.rows.map CellHostRow.id).map w.store.slotsOf =
      w.store.cellHosts.rows.map CellHostRow.capacityTotal := by
    rw [List.map_map]
    exact List.map_congr_left fun host hmem => Store.slotsOf_host hmem
  rw [List.sum_toFinset _ w.store.cellHosts.nodup, hrows]
  unfold totalSlots
  rw [← h.listed.named, List.map_map]
  rfl

omit [Field T] [LinearOrder T] [IsStrictOrderedRing T] [FloorRing T] in
variable {py} in
/-- No host was given fewer slots than none. -/
theorem Registered.slots_nonneg {w : World T} {setup : List Setup}
    (h : Registered py (capacities setup) w)
    (hcap : ∀ r, .registerCellHost r ∈ setup → 0 ≤ r.capacityTotal) (id : String) :
    0 ≤ w.store.slotsOf id := by
  by_cases hid : ∃ host ∈ w.store.cellHosts, host.id = id
  · obtain ⟨host, hmem, rfl⟩ := hid
    rw [Store.slotsOf_host hmem]
    have hlisted : (host.hostId, host.capacityTotal) ∈ capacities setup := by
      rw [← h.listed.named]
      exact List.mem_map_of_mem hmem
    obtain ⟨r, hr, heq⟩ := mem_capacities hlisted
    exact (hcap r hr).trans_eq heq.symm
  · rw [Store.slotsOf_none fun host hmem heq => hid ⟨host, hmem, heq⟩]

/-- **Placement is balanced and uses all capacity.** Register any hosts with any
capacities, and then place sessions that exist: no host is over its capacity,
none is ahead of one with a free slot by more than one, and a call of
`place_session` raises for want of capacity if and only if every host is full. So
a call succeeds if and only if fewer have been made before it than there are
slots. -/
theorem placements_balanced (clock : T) (files : Files) (setup : List Setup)
    (arrivals : List Arrival) (hcap : ∀ r, .registerCellHost r ∈ setup → 0 ≤ r.capacityTotal)
    (hsessions : OnSessions py tm arrivals (prepared py tm setup ⟨0, World.init clock files⟩)) :
    let s := arrived py tm arrivals (prepared py tm setup ⟨0, World.init clock files⟩)
    let hosts := s.world.store.cellHosts
    (∀ h ∈ hosts, (h.capacityUsed : ℤ) ≤ h.capacityTotal) ∧
    (∀ i ∈ hosts, ∀ j ∈ hosts, (j.capacityUsed : ℤ) < j.capacityTotal →
      i.capacityUsed ≤ j.capacityUsed + 1) ∧
    ∀ sid, s.world.store.hasSession sid = true →
      (((Broker.placeSession py sid).run (timed py tm) s).1 =
          .error (.runtimeError "no cell host has available capacity") ↔
        ∀ h ∈ hosts, (h.capacityUsed : ℤ) = h.capacityTotal) ∧
      ((∃ p, ((Broker.placeSession py sid).run (timed py tm) s).1 = .ok p) ↔
        (arrivals.countP Arrival.places : ℤ) < totalSlots setup) := by
  intro s hosts
  have hregistered := registered_prepared py tm setup clock files
  have hbound := hregistered.slots_nonneg hcap
  have hout :=
    (prepared py tm setup ⟨0, World.init clock files⟩).world.store.slotsOf_outside
  obtain ⟨m, hhosted, hm⟩ := hregistered.hosted.arrived py tm hbound hout hsessions
  have hbalanced := hhosted.filled.balanced hbound
  have hfull := hhosted.filled.all_full_iff hbound hout
  rw [hregistered.sum_slots] at hm hfull
  rw [← hhosted.slots] at hbalanced hfull hhosted
  have hwithin : ∀ h ∈ hosts, (h.capacityUsed : ℤ) ≤ h.capacityTotal := by
    intro h hmem
    have hle := hbalanced.within h.id
    rwa [Store.usedOf_host hmem, Store.slotsOf_host hmem] at hle
  refine ⟨hwithin, fun i hi j hj hroom => ?_, fun sid hses => ?_⟩
  · have hlevel := hbalanced.level i.id j.id (by rw [Store.full_host hj]; omega)
    rwa [Store.usedOf_host hi, Store.usedOf_host hj] at hlevel
  · obtain ⟨hraises, hreturns⟩ := hhosted.outcomes py tm hses
    have hall : (∀ id, Full s.world.store.slotsOf s.world.store.usedOf id) ↔
        ∀ h ∈ hosts, (h.capacityUsed : ℤ) = h.capacityTotal := by
      rw [Store.all_full_iff]
      exact forall₂_congr fun h hmem => ⟨fun hle => le_antisymm (hwithin h hmem) hle,
        fun heq => heq.ge⟩
    refine ⟨hraises.trans hall, hreturns.trans ?_⟩
    rw [hfull]
    omega

end Runs

/-! ## A sample -/

/-- A host with one slot, a host with three, and a session. -/
def sampleSetup : List Setup :=
  [.registerCellHost ⟨"cell-a", "local", "inproc://a", 1, localCelld [], none⟩,
    .registerCellHost ⟨"cell-b", "local", "inproc://b", 3, localCelld [], none⟩,
    .createSession "local" none none .null]

/-- Three placements, and a second session in between. -/
def sampleArrivals : List Arrival :=
  [.placeSession "s", .createSession "local" none none .null, .placeSession "s1",
    .placeSession "s"]

/-- After the set-up. -/
def sampleStart : Ticking ℚ :=
  prepared Py.sample (.still 0 Sample.files) sampleSetup ⟨0, World.init 0 Sample.files⟩

/-- After the placements. -/
def samplePlaced : Ticking ℚ :=
  arrived Py.sample (.still 0 Sample.files) sampleArrivals sampleStart

/-- The small host is full, the other one is a slot ahead of it, and there is room for
one more placement. -/
theorem placements_balanced_sample :
    samplePlaced.world.store.cellHosts.rows.map CellHostRow.capacityUsed = [1, 2] ∧
      ∃ p, ((Broker.placeSession Py.sample "s1").run (timed Py.sample (.still 0 Sample.files))
        samplePlaced).1 = .ok p := by
  have hcap : ∀ r, .registerCellHost r ∈ sampleSetup → 0 ≤ r.capacityTotal := by
    intro r hr
    rcases List.mem_cons.mp hr with heq | hr
    · cases heq
      decide
    rcases List.mem_cons.mp hr with heq | hr
    · cases heq
      decide
    · cases List.mem_singleton.mp hr
  have hnone : ∀ s : Ticking ℚ, OnSessions Py.sample (.still 0 Sample.files) [] s := by
    intro s before sid after heq
    cases before <;> cases heq
  have hsessions : OnSessions Py.sample (.still 0 Sample.files) sampleArrivals sampleStart := by
    refine .cons _ _ ?_ (.cons _ _ ?_ (.cons _ _ ?_ (.cons _ _ ?_ (hnone _))))
    · rintro sid heq
      cases heq
      decide +kernel
    · exact nofun
    · rintro sid heq
      cases heq
      decide +kernel
    · rintro sid heq
      cases heq
      decide +kernel
  have hses : samplePlaced.world.store.hasSession "s1" = true := by decide +kernel
  have hroom : (sampleArrivals.countP Arrival.places : ℤ) < totalSlots sampleSetup := by decide
  have hbalanced := placements_balanced Py.sample (.still 0 Sample.files) 0 Sample.files sampleSetup
    sampleArrivals hcap hsessions
  exact ⟨by decide +kernel, (hbalanced.2.2 "s1" hses).2.mpr hroom⟩

end Nadi
