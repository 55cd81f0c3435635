import Nadi.Crash
import Nadi.Model.Timeless

/-!
# Restarting the process goes unnoticed

Between two requests the process may stop and start again on its database: the
broker's registrations, the cells and the heap are gone, and `local_stack` is
run on the store that is there. Whatever is lost and however often the process
is restarted, requests are answered as they are by a process that keeps
running (`restart_transparent`), and what is left in the database is the same
but for the times at which the hosts were last seen.
-/

namespace Nadi

open Effect

variable {T : Type}

/-! ## Restarts -/

/-- A process that has just started: nothing is in memory. -/
def World.boot (w : World T) : World T :=
  { w with
    heap := fun _ => .initial
    nextAddr := 0
    cells := fun _ _ => none
    callbacks := fun _ => none
    objects := fun _ => none }

section Serve

variable [Field T] [LinearOrder T] [IsStrictOrderedRing T] [FloorRing T]
  (py : Py) (cwd : List String)

/-- The process starts again at `t`, on the database that is there. -/
def World.restart (t : T) (w : World T) : World T :=
  ((localStack cwd).run (exec py) { w.boot with clock := t }).2

/-- What comes before a request: cells are lost, or the process is restarted. -/
inductive Mishap (T : Type) where
  | losses (lost : String → Bool)
  | restart (t : T)

def Mishap.befall : Mishap T → World T → World T
  | .losses lost, w => w.lose lost
  | .restart t, w => w.restart py cwd t

/-- Serve requests in turn, with mishaps before each: the answers, and the state at
the end. -/
def serveAmid (mishaps : ℕ → List (Mishap T)) :
    List (Turn T) → World T → List (Except PyErr (Answer T)) × World T
  | [], w => ([], w)
  | turn :: rest, w =>
    let served := turn.serve py (fun _ => false)
      ((mishaps 0).foldl (fun w mishap => mishap.befall py cwd w) w)
    let more := serveAmid (fun n => mishaps (n + 1)) rest served.2.world
    (served.1 :: more.1, more.2)

end Serve

/-! ## Requests without times -/

section Same

variable [Field T] [LinearOrder T]

/-- Two runs at the same point, in states that are alike without times. The clock is
set when it is read. -/
structure Ticking.Same (s t : Ticking T) : Prop where
  reading : s.reading = t.reading
  timeless : s.world.timeless = { t.world with clock := s.world.clock }.timeless

variable {py : Py} {tm : Timing T}

theorem Ticking.Same.ready {s t : Ticking T} (h : s.Same t) :
    (s.ready tm).timeless = (t.ready tm).timeless := by
  have hs : (s.ready tm).timeless =
      { s.world.timeless with clock := tm.now s.reading, files := tm.files s.reading } := rfl
  rw [hs, h.timeless, h.reading]
  rfl

theorem timed_same {c : Call T} (hc : c.settled = true) {s t : Ticking T} (h : s.Same t) :
    (timed py tm c s).1 = (timed py tm c t).1 ∧ (timed py tm c s).2.Same (timed py tm c t).2 := by
  by_cases hrebuild : c = .time .reconstructCell
  · subst hrebuild
    exact ⟨congrArg (fun n => Except.ok (tm.rebuild n)) h.reading, h⟩
  cases hreads : c.reads with
  | true =>
    rw [timed_reads py tm s hreads hrebuild, timed_reads py tm t hreads hrebuild]
    have hready : (s.ready tm).timeless = (t.ready tm).timeless := h.ready
    obtain ⟨hresult, hnext⟩ := exec_same_timeless py hc hready
    refine ⟨hresult, congrArg (· + 1) h.reading, hnext.trans ?_⟩
    have hclock : (exec py c (s.ready tm)).2.clock = (exec py c (t.ready tm)).2.clock := by
      rw [(exec_passive py (s.ready tm)).1, (exec_passive py (t.ready tm)).1]
      exact congrArg tm.now h.reading
    rw [hclock]
  | false =>
    rw [timed_quiet py tm s hreads, timed_quiet py tm t hreads]
    obtain ⟨hresult, hnext⟩ := exec_same_timeless py hc h.timeless
    rw [exec_quiet py hreads t.world _ t.world.files] at hresult hnext
    refine ⟨hresult, h.reading, hnext.trans ?_⟩
    rw [(exec_passive py s.world).1, ← (exec_passive py t.world).2]

/-- Programs of such calls. -/
theorem same_settled {α : Type} {p : Code T α} (hp : p.Within (·.settled) fun _ => True) :
    SideBySide (timed py tm) Ticking.Same (fun a b s t => a = b ∧ s.Same t) Ticking.Same p p :=
  .same hp fun _ _ _ hc h => timed_same hc h

/-- The chosen host is known by its id, its name and its address. -/
theorem same_chooseCellHost :
    SideBySide (timed py tm) Ticking.Same
      (fun (a b : CellHostRow T) s t =>
        (a.id = b.id ∧ a.hostId = b.hostId ∧ a.address = b.address) ∧ s.Same t)
      Ticking.Same (call .chooseCellHost) (call .chooseCellHost) := by
  refine SideBySide.perform (c := Call.chooseCellHost)
    (d := Call.chooseCellHost) fun s t h => ?_
  have hstore := congrArg World.store h.timeless
  have hchoice := s.world.store.chooseCellHost_timeless
  have hchoice' := t.world.store.chooseCellHost_timeless
  change s.world.store.timeless = t.world.store.timeless at hstore
  rw [hstore, hchoice'] at hchoice
  rw [timed_quiet py tm s rfl, timed_quiet py tm t rfl]
  show SameEnd _ _ (s.world.store.chooseCellHost, _) (t.world.store.chooseCellHost, _)
  cases hs : s.world.store.chooseCellHost with
  | error e =>
    rw [hs] at hchoice
    cases ht : t.world.store.chooseCellHost with
    | error e' =>
      rw [ht] at hchoice
      cases hchoice
      exact .error e ⟨h.reading, h.timeless⟩
    | ok b =>
      rw [ht] at hchoice
      cases hchoice
  | ok a =>
    rw [hs] at hchoice
    cases ht : t.world.store.chooseCellHost with
    | error e' =>
      rw [ht] at hchoice
      cases hchoice
    | ok b =>
      rw [ht] at hchoice
      have hrow : b.timeless = a.timeless := Except.ok.inj hchoice
      refine .ok ⟨⟨?_, ?_, ?_⟩, h.reading, h.timeless⟩
      · exact (congrArg CellHostRow.id hrow).symm
      · exact (congrArg CellHostRow.hostId hrow).symm
      · exact (congrArg CellHostRow.address hrow).symm

end Same

/-! ## What requests call -/

section Settled

variable {c : Celld} {sid : String} {d : Call T}

theorem Call.ofConsumption.settled (h : d.ofConsumption c sid) : d.settled = true := by
  cases d with
  | uuid4 site =>
    obtain rfl : site = .jti := h.elim (fun h => h) fun h => h.elim (fun h => h.elim) fun h => h.elim
    rfl
  | upsertCellHost | upsertSandboxHost | setCallback | setObject | chooseCellHost =>
    exact h.elim (fun h => h.elim) fun h => h.elim (fun h => h.elim) fun h => h.elim
  | _ => rfl

theorem Call.ofCreation.settled (h : d.ofCreation c sid) : d.settled = true := by
  cases d with
  | uuid4 site =>
    obtain rfl : site = .jti := h
    rfl
  | upsertCellHost | upsertSandboxHost | setCallback | setObject | chooseCellHost => exact h.elim
  | _ => rfl

theorem Call.ofRouting.settled (h : d.ofRouting sid) : d.settled = true := by
  cases d with
  | getRoute | object => rfl
  | _ => exact h.elim

theorem Call.ofPlacement.settled (h : d.ofPlacement sid) :
    d.settled = true ∨ d = .chooseCellHost := by
  cases d with
  | chooseCellHost => exact .inr rfl
  | createLease | callback => exact .inl rfl
  | _ =>
    obtain ⟨_, h⟩ := h
    exact .inl h.settled

variable [Field T] [LinearOrder T] [IsStrictOrderedRing T] [FloorRing T] (py : Py)

theorem Gateway.sendCommand_settled (sid commandType : String) (payload : Json)
    (actor : Option String) :
    (Gateway.sendCommand py sid commandType payload actor : Code T Sent).Within (·.settled)
      fun _ => True := by
  refine .bind ((Gateway.route_within sid).mono_calls fun _ h => h.settled) fun _ _ => ?_
  refine .bind (.perform rfl fun _ => trivial) fun commandId _ => ?_
  refine .bind ((Broker.celldForRoute_within sid).mono_calls fun _ h => h.settled)
    fun celld _ => ?_
  exact .bind ((celld.consumeCommands_within py sid).mono_calls fun _ h => h.settled)
    fun _ _ => trivial

theorem Broker.runCallback_settled (sid : String) (createCell : CreateCell) :
    (Broker.runCallback py sid createCell : Code T Unit).Within (·.settled) fun _ => True := by
  refine (Broker.runCallback_within py sid createCell).mono_calls ?_
  rintro d ⟨c, -, hd⟩
  exact hd.settled

/-- No request registers a host. -/
theorem Request.within (request : Request) :
    (request.code py : Code T (Answer T)).Within
      (fun d => d.settled = true ∨ d = .chooseCellHost) fun _ => True := by
  cases request with
  | createSession tenantId metadata =>
    have hcreate : (Gateway.createSession py tenantId metadata : Code T Created).Within
        (fun d => d.settled = true ∨ d = .chooseCellHost) fun _ => True := by
      refine .bind (.perform (.inl rfl) fun _ => trivial) fun sid _ => ?_
      exact .bind ((Broker.placeSession_within py sid).mono_calls fun _ h => h.settled)
        fun _ _ => trivial
    exact .bind hcreate fun _ _ => trivial
  | sendCommand sid commandType payload actor =>
    exact .bind ((Gateway.sendCommand_settled py sid commandType payload actor).mono_calls
      fun _ h => .inl h) fun _ _ => trivial
  | enqueueCommand sid commandType payload actor =>
    exact .bind (.perform (.inl rfl) fun _ => trivial) fun _ _ => trivial
  | getSessionEvents sid after =>
    exact .bind (Gateway.getSessionEvents_calls (fun _ h => .inl h.settled) (.inl rfl))
      fun _ _ => trivial

end Settled

section Requests

variable [Field T] [LinearOrder T] [IsStrictOrderedRing T] [FloorRing T] {py : Py} {tm : Timing T}

theorem same_placeSession (sid : String) :
    SideBySide (timed py tm) Ticking.Same (fun a b s t => a = b ∧ s.Same t) Ticking.Same
      (Broker.placeSession py sid) (Broker.placeSession py sid) := by
  refine SideBySide.bind same_chooseCellHost fun host host' => .of_prop fun ⟨hid, hname, haddress⟩ => ?_
  rw [← hid, ← hname, ← haddress]
  refine SideBySide.bind (same_settled (.perform rfl fun _ => trivial)) fun lease lease' =>
    .of_prop fun hlease => ?_
  rw [← hlease]
  refine SideBySide.bind (same_settled (.perform rfl fun _ => trivial)) fun found found' =>
    .of_prop fun hfound => ?_
  rw [← hfound]
  cases found with
  | none => exact SideBySide.throw fun _ _ h => h
  | some createCell =>
    refine SideBySide.bind (same_settled (Broker.runCallback_settled py sid createCell))
      fun _ _ => .of_prop fun _ => SideBySide.pure fun _ _ h => ⟨rfl, h⟩

theorem same_createSession (tenantId : String) (metadata : Json) :
    SideBySide (timed py tm) Ticking.Same (fun a b s t => a = b ∧ s.Same t) Ticking.Same
      (Gateway.createSession py tenantId metadata) (Gateway.createSession py tenantId metadata) := by
  refine SideBySide.bind (same_settled (.perform rfl fun _ => trivial)) fun sid sid' =>
    .of_prop fun h => ?_
  rw [← h]
  refine SideBySide.bind (same_placeSession sid) fun placement placement' =>
    .of_prop fun h => SideBySide.pure fun _ _ hs => ⟨?_, hs⟩
  rw [h]

/-- **One request** is answered alike in states that are alike without times. -/
theorem same_request (request : Request) :
    SideBySide (timed py tm) Ticking.Same (fun a b s t => a = b ∧ s.Same t) Ticking.Same
      (request.code py : Code T (Answer T)) (request.code py) := by
  cases request with
  | createSession tenantId metadata =>
    exact SideBySide.bind (same_createSession tenantId metadata) fun created created' =>
      .of_prop fun h => SideBySide.pure fun _ _ hs => ⟨congrArg Answer.created h, hs⟩
  | sendCommand sid commandType payload actor =>
    exact same_settled (.bind (Gateway.sendCommand_settled py sid commandType payload actor)
      fun _ _ => trivial)
  | enqueueCommand sid commandType payload actor =>
    exact same_settled (.bind (.perform rfl fun _ => trivial) fun _ _ => trivial)
  | getSessionEvents sid after =>
    exact same_settled (.bind (Gateway.getSessionEvents_calls (fun _ h => h.settled) rfl)
      fun _ _ => trivial)

end Requests

/-! ## The registrations of a process -/

section Launched

variable [Field T] [LinearOrder T]

/-- A row that a registration of the one `celld` would write again. -/
def CellHostRow.Local (h : CellHostRow T) : Prop :=
  h.hostId = "cell-local" → h.zone = "local" ∧ h.address = "inproc://cell" ∧
    h.capacityTotal = 100 ∧ h.status = .ready ∧ h.metadata = .empty

/-- The same of the sandbox. -/
def SandboxHostRow.Local (h : SandboxHostRow T) : Prop :=
  h.hostId = "sandbox-local" → h.zone = "local" ∧ h.address = "inproc://sandbox" ∧
    h.status = .ready ∧ h.metadata = .empty

/-- What `local_stack` has registered is there. -/
structure Launched (cwd : List String) (w : World T) : Prop where
  callbacks : w.callbacks =
    Function.update (fun _ => none) "cell-local" (some (.celld (localCelld cwd)))
  objects : w.objects = Function.update (fun _ => none) "cell-local" (some (localCelld cwd))
  cellHost : ∃ h ∈ w.store.cellHosts, h.hostId = "cell-local"
  cellHosts : ∀ h ∈ w.store.cellHosts, h.Local
  sandboxHost : ∃ h ∈ w.store.sandboxHosts, h.hostId = "sandbox-local"
  sandboxHosts : ∀ h ∈ w.store.sandboxHosts, h.Local

variable {py : Py} {cwd : List String} {w : World T}

/-- A new local stack is launched. -/
theorem launched_localWorld (clock : T) (files : Files) :
    Launched cwd (localWorld py cwd clock files) where
  callbacks := rfl
  objects := rfl
  cellHost := ⟨_, List.mem_cons_self, rfl⟩
  cellHosts := List.forall_mem_singleton.mpr fun _ => ⟨rfl, rfl, rfl, rfl, rfl⟩
  sandboxHost := ⟨_, List.mem_cons_self, rfl⟩
  sandboxHosts := List.forall_mem_singleton.mpr fun _ => ⟨rfl, rfl, rfl, rfl⟩

/-- Only a registration changes the table of sandboxes. -/
theorem exec_sandboxHosts {c : Call T} (h : c.settled = true ∨ c = .chooseCellHost) :
    (exec py c w).2.store.sandboxHosts = w.store.sandboxHosts := by
  have hcommit : ∀ {β : Type} {u : World T} {r : Except PyErr (β × Store T)},
      (∀ b st, r = .ok (b, st) → st.sandboxHosts = u.store.sandboxHosts) →
        (u.commit r).2.store.sandboxHosts = u.store.sandboxHosts :=
    fun {β u r} hr => World.commit_store (P := fun st => st.sandboxHosts = u.store.sandboxHosts) rfl hr
  cases c with
  | createSession =>
    refine hcommit (u := w.draw .session) fun b st hr => ?_
    obtain ⟨-, sessions, -, rfl⟩ := Store.createSession_ok hr
    rfl
  | appendEvent =>
    refine hcommit fun b st hr => ?_
    obtain ⟨-, -, rfl⟩ := Store.appendEvent_ok hr
    rfl
  | enqueueCommand =>
    refine hcommit fun b st hr => ?_
    obtain ⟨-, -, -, -, rfl⟩ := Store.enqueueCommand_ok hr
    rfl
  | createLease =>
    refine hcommit (u := w.draw .leaseToken) fun b st hr => ?_
    obtain ⟨-, -, -, rfl⟩ := Store.createLease_ok hr
    rfl
  | getOrCreateChannel =>
    refine hcommit (u := w.draw .channel) fun b st hr => ?_
    obtain ⟨hins, -⟩ := Store.getOrCreateChannel_ok hr
    rcases Store.insertChannel_ok hins with ⟨rfl, -⟩ | ⟨-, -, channels, -, rfl⟩ <;> rfl
  | revokeToken jti expiresAt =>
    show (w.store.revokeToken w.clock jti expiresAt).sandboxHosts = _
    unfold Store.revokeToken
    cases w.store.revokedTokens.insert? ⟨jti, expiresAt, w.clock⟩ <;> rfl
  | apply cell eventType payload =>
    rcases exec_apply py w cell eventType payload with ⟨e, -, hexec⟩ | ⟨s, -, hexec⟩
    · rw [hexec]
    · rw [hexec]
  | upsertCellHost | upsertSandboxHost => simp [Call.settled] at h
  | _ => rfl

/-- What is registered stays so, whatever requests call. -/
theorem exec_launched {c : Call T} (hw : Launched cwd w)
    (h : c.settled = true ∨ c = .chooseCellHost) : Launched cwd (exec py c w).2 := by
  have hbroker : c.writes .broker = false := by
    cases c with
    | setCallback | setObject => simp [Call.settled] at h
    | _ => rfl
  have hsandboxes : (exec py c w).2.store.sandboxHosts = w.store.sandboxHosts :=
    exec_sandboxHosts h
  have hhosts : (∃ host ∈ (exec py c w).2.store.cellHosts, host.hostId = "cell-local") ∧
      ∀ host ∈ (exec py c w).2.store.cellHosts, host.Local := by
    cases c with
    | upsertCellHost => simp [Call.settled] at h
    | createLease sid cellHostId ttlSeconds =>
      refine World.commit_store (w := w.draw .leaseToken)
        (P := fun st => (∃ host ∈ st.cellHosts, host.hostId = "cell-local") ∧
          ∀ host ∈ st.cellHosts, host.Local) ⟨hw.cellHost, hw.cellHosts⟩ fun b st hr => ?_
      obtain ⟨-, -, -, rfl⟩ := Store.createLease_ok hr
      obtain ⟨host, hhost, hname⟩ := hw.cellHost
      refine ⟨⟨_, List.mem_map_of_mem hhost, ?_⟩, List.forall_mem_map.mpr fun old hold => ?_⟩
      · split <;> exact hname
      · have hlocal := hw.cellHosts old hold
        split <;> exact hlocal
    | _ =>
      rw [exec_hosts py w rfl]
      exact ⟨hw.cellHost, hw.cellHosts⟩
  refine ⟨?_, ?_, hhosts.1, hhosts.2, ?_, ?_⟩
  · rw [exec_callbacks py w hbroker]
    exact hw.callbacks
  · rw [exec_objects py w hbroker]
    exact hw.objects
  · rw [hsandboxes]
    exact hw.sandboxHost
  · rw [hsandboxes]
    exact hw.sandboxHosts

/-! ### Registering again -/

/-- Rows that are written again are the same without times. -/
theorem table_timeless {α κ : Type} {key : α → κ} [DecidableEq κ] (t : Data.Table α key)
    {e f : α → α} (he : ∀ a, key (e a) = key a) (hf : ∀ a, key (f a) = key a) (p : α → Bool)
    (hsame : ∀ a ∈ t, p a = true → e (f a) = e a) :
    (t.update p f hf).update (fun _ => true) e he = t.update (fun _ => true) e he := by
  refine Data.Table.ext ?_
  show (t.rows.map _).map _ = t.rows.map _
  rw [List.map_map]
  refine List.map_congr_left fun a ha => ?_
  show e (if p a then f a else a) = e a
  split
  · rename_i h
    exact hsame a ha h
  · rfl

/-- A process that keeps its registrations and nothing else. -/
def World.wiped (w : World T) : World T :=
  { w with heap := fun _ => .initial, nextAddr := 0, cells := fun _ _ => none }

omit [LinearOrder T] in
/-- A sandbox that is known is written again. -/
theorem upsertSandboxHost_again {st : Store T} (hknown : ∃ h ∈ st.sandboxHosts, h.hostId = "sandbox-local")
    (hlocal : ∀ h ∈ st.sandboxHosts, h.Local) (t : T) (sid : String) :
    ∃ id st', st.upsertSandboxHost t sid "sandbox-local" "local" "inproc://sandbox" .null =
      .ok (id, st') ∧ st'.cellHosts = st.cellHosts ∧ st'.timeless = st.timeless := by
  obtain ⟨host, hhost, hname⟩ := hknown
  obtain ⟨found, hfound⟩ := Option.isSome_iff_exists.mp
    (List.find?_isSome (p := fun h => h.hostId == "sandbox-local").mpr
      ⟨host, hhost, beq_iff_eq.mpr hname⟩)
  unfold Store.upsertSandboxHost
  rw [hfound]
  refine ⟨_, _, rfl, rfl, congrArg (fun sandboxes => { st.timeless with sandboxHosts := sandboxes })
    (table_timeless st.sandboxHosts (e := SandboxHostRow.timeless) (f := fun h =>
      { h with
        zone := "local", address := "inproc://sandbox", status := .ready, lastHeartbeatAt := some t,
        metadata := Json.null.orEmpty, updatedAt := t })
      (fun _ => rfl) (fun _ => rfl) (fun h => h.hostId == "sandbox-local") fun h hh hp => ?_)⟩
  obtain ⟨hzone, haddress, hstatus, hmetadata⟩ := hlocal h hh (beq_iff_eq.mp hp)
  unfold SandboxHostRow.timeless
  rw [hzone, haddress, hstatus, hmetadata]
  rfl

omit [LinearOrder T] in
/-- A host that is known is written again. -/
theorem upsertCellHost_again {st : Store T} (hknown : ∃ h ∈ st.cellHosts, h.hostId = "cell-local")
    (hlocal : ∀ h ∈ st.cellHosts, h.Local) (t : T) (cid : String) :
    ∃ id st', st.upsertCellHost t cid "cell-local" "local" "inproc://cell" 100 .null =
      .ok (id, st') ∧ st'.timeless = st.timeless := by
  obtain ⟨host, hhost, hname⟩ := hknown
  obtain ⟨found, hfound⟩ := Option.isSome_iff_exists.mp
    (List.find?_isSome (p := fun h => h.hostId == "cell-local").mpr
      ⟨host, hhost, beq_iff_eq.mpr hname⟩)
  unfold Store.upsertCellHost
  rw [hfound]
  refine ⟨_, _, rfl, congrArg (fun cells => { st.timeless with cellHosts := cells })
    (table_timeless st.cellHosts (e := CellHostRow.timeless)
      (f := Store.refreshCellHost t "local" "inproc://cell" 100 .null) (fun _ => rfl) (fun _ => rfl)
      (fun h => h.hostId == "cell-local") fun h hh hp => ?_)⟩
  obtain ⟨hzone, haddress, htotal, hstatus, hmetadata⟩ := hlocal h hh (beq_iff_eq.mp hp)
  unfold CellHostRow.timeless Store.refreshCellHost
  rw [hzone, haddress, htotal, hstatus, hmetadata]
  rfl

/-- **A restart** leaves the registrations as they were, but for times. -/
theorem Launched.restart (h : Launched cwd w) (t : T) :
    (w.restart py cwd t).timeless = { w.wiped with clock := t }.timeless := by
  set b : World T := { w.boot with clock := t } with hb
  obtain ⟨sandbox, st₁, hsandbox, hcells, hst₁⟩ :=
    upsertSandboxHost_again h.sandboxHost h.sandboxHosts t (b.fresh py .sandboxHost)
  set b₁ : World T := { b.draw .sandboxHost with store := st₁ } with hb₁
  have hknown : ∃ host ∈ st₁.cellHosts, host.hostId = "cell-local" := hcells ▸ h.cellHost
  have hlocal : ∀ host ∈ st₁.cellHosts, host.Local := hcells ▸ h.cellHosts
  obtain ⟨host, st₂, hhost, hst₂⟩ :=
    upsertCellHost_again hknown hlocal t (b₁.fresh py .cellHost)
  set b₂ : World T := { b₁.draw .cellHost with store := st₂ } with hb₂
  -- what `local_stack` does, call by call
  have hfirst : (Broker.registerSandboxHost "sandbox-local" "local" "inproc://sandbox" :
      Code T String).run (exec py) b = (.ok sandbox, b₁) := by
    unfold Broker.registerSandboxHost
    rw [Prog.run_perform]
    show (b.draw .sandboxHost).commit (w.store.upsertSandboxHost t (b.fresh py .sandboxHost)
      "sandbox-local" "local" "inproc://sandbox" .null) = _
    rw [hsandbox]
    rfl
  have hupsert : (call (.upsertCellHost "cell-local" "local" "inproc://cell" 100 .null)).run
      (exec py) b₁ = (.ok host, b₂) := by
    rw [Prog.run_perform]
    show (b₁.draw .cellHost).commit (st₁.upsertCellHost t (b₁.fresh py .cellHost)
      "cell-local" "local" "inproc://cell" 100 .null) = _
    rw [hhost]
    rfl
  have hrun : (localStack cwd).run (exec py) b = (.ok (), { b₂ with
      callbacks := Function.update b₂.callbacks "cell-local" (some (.celld (localCelld cwd)))
      objects := Function.update b₂.objects "cell-local" (some (localCelld cwd)) }) := by
    unfold localStack Broker.registerCellHost
    simp only [Prog.bind_eq]
    rw [Prog.run_bind_ok _ hfirst, Prog.bind_assoc, Prog.run_bind_ok _ hupsert]
    rfl
  -- without its times and the two counters it is what there was
  have hstore : st₂.timeless = w.store.timeless := hst₂.trans hst₁
  have hdrawn : b₂.timeless.drawn = w.timeless.drawn := by
    have hne : IdSite.sandboxHost ≠ .cellHost := by decide
    show Function.update (Function.update (Function.update (Function.update w.drawn .sandboxHost _)
      .cellHost _) .cellHost 0) .sandboxHost 0 = Function.update (Function.update w.drawn .cellHost 0)
        .sandboxHost 0
    rw [Function.update_idem, Function.update_comm hne.symm, Function.update_idem,
      Function.update_comm hne]
  unfold World.restart
  rw [← hb, hrun]
  show { w.wiped with
    clock := t
    store := st₂.timeless
    drawn := b₂.timeless.drawn
    callbacks := Function.update (fun _ => none) "cell-local" (some (.celld (localCelld cwd)))
    objects := Function.update (fun _ => none) "cell-local" (some (localCelld cwd)) } = _
  rw [hstore, hdrawn, ← h.callbacks, ← h.objects]
  rfl

omit [LinearOrder T] in
/-- Registrations are the same in a state that is alike without times. -/
theorem Launched.of_timeless (h : Launched cwd w) {w' : World T} (heq : w'.timeless = w.timeless) :
    Launched cwd w' := by
  have hstore := congrArg World.store heq
  have hcells : w'.store.cellHosts.rows.map CellHostRow.timeless =
      w.store.cellHosts.rows.map CellHostRow.timeless :=
    congrArg (fun st => st.cellHosts.rows) hstore
  have hsandboxes : w'.store.sandboxHosts.rows.map SandboxHostRow.timeless =
      w.store.sandboxHosts.rows.map SandboxHostRow.timeless :=
    congrArg (fun st => st.sandboxHosts.rows) hstore
  have hcallbacks := congrArg World.callbacks heq
  have hobjects := congrArg World.objects heq
  refine ⟨hcallbacks.trans h.callbacks, hobjects.trans h.objects, ?_, ?_, ?_, ?_⟩
  · obtain ⟨host, hhost, hname⟩ := h.cellHost
    obtain ⟨host', hhost', hsame⟩ := List.mem_map.mp (hcells ▸ List.mem_map_of_mem hhost)
    have hid := congrArg CellHostRow.hostId hsame
    exact ⟨host', hhost', hid.trans hname⟩
  · intro host' hhost'
    obtain ⟨host, hhost, hsame⟩ := List.mem_map.mp (hcells ▸ List.mem_map_of_mem hhost')
    have hlocal : host.timeless.Local := h.cellHosts host hhost
    rw [hsame] at hlocal
    exact hlocal
  · obtain ⟨host, hhost, hname⟩ := h.sandboxHost
    obtain ⟨host', hhost', hsame⟩ := List.mem_map.mp (hsandboxes ▸ List.mem_map_of_mem hhost)
    have hid := congrArg SandboxHostRow.hostId hsame
    exact ⟨host', hhost', hid.trans hname⟩
  · intro host' hhost'
    obtain ⟨host, hhost, hsame⟩ := List.mem_map.mp (hsandboxes ▸ List.mem_map_of_mem hhost')
    have hlocal : host.timeless.Local := h.sandboxHosts host hhost
    rw [hsame] at hlocal
    exact hlocal

end Launched

/-! ## Runs amid mishaps -/

section Runs

variable [Field T] [LinearOrder T] [IsStrictOrderedRing T] [FloorRing T] {py : Py}
  {cwd : List String} {now : T} {w w' : World T}

theorem StackInv.wiped {c : Celld} (h : StackInv py c now w) : StackInv py c now w.wiped where
  revoked := h.revoked
  callbacks := h.callbacks
  objects := h.objects
  contiguous := h.contiguous
  linked := h.linked
  sessionIds := h.sessionIds
  events := h.events
  leases := h.leases
  cells := by
    intro sid cell hcell
    cases hcell
  distinct := by
    intro sid sid' cell cell' hcell
    cases hcell

omit [Field T] [IsStrictOrderedRing T] [FloorRing T] in
/-- There is a time before every turn. -/
theorem Ordered.exists_before {turns : List (Turn T)} (h : Ordered turns) (clock : T) :
    ∃ now, ∀ turn ∈ turns, now ≤ turn.timing.rebuild 0 := by
  cases turns with
  | nil => exact ⟨clock, fun turn hturn => nomatch hturn⟩
  | cons first rest =>
    refine ⟨first.timing.rebuild 0, fun turn hturn => ?_⟩
    rcases List.mem_cons.mp hturn with rfl | hturn
    · exact le_refl _
    · exact (first.timing.rebuild_le 0).trans ((List.pairwise_cons.mp h).1 turn hturn 0)

/-- A stack that keeps running, and one that mishaps befall: the first has a twin that
is like the second but for times. -/
structure Kin (py : Py) (cwd : List String) (now : T) (w w' : World T) : Prop where
  twin : ∃ u, Twins py (localCelld cwd) now w u ∧ u.timeless = { w' with clock := u.clock }.timeless
  launched : Launched cwd w'

/-- **One mishap** makes no difference. -/
theorem Kin.befall (h : Kin py cwd now w w') (mishap : Mishap T) :
    Kin py cwd now w (mishap.befall py cwd w') := by
  obtain ⟨⟨u, htwins, hsame⟩, hlaunched⟩ := h
  cases mishap with
  | losses lost =>
    refine ⟨⟨u.lose lost, ⟨htwins.core, htwins.left, htwins.right.lose lost⟩, ?_⟩, ?_⟩
    · exact congrArg (World.lose · lost) hsame
    · exact ⟨hlaunched.callbacks, hlaunched.objects, hlaunched.cellHost, hlaunched.cellHosts,
        hlaunched.sandboxHost, hlaunched.sandboxHosts⟩
  | restart t =>
    have hrestart : (w'.restart py cwd t).timeless = { w'.wiped with clock := t }.timeless :=
      hlaunched.restart t
    refine ⟨⟨u.wiped, ⟨htwins.core, htwins.left, htwins.right.wiped⟩, ?_⟩, ?_⟩
    · have hwiped : u.wiped.timeless = { w'.wiped with clock := u.clock }.timeless :=
        congrArg World.wiped hsame
      have hclock := congrArg (fun v : World T => { v with clock := u.clock }) hrestart
      exact hwiped.trans hclock.symm
    · have hwiped : Launched cwd { w'.wiped with clock := t } :=
        ⟨hlaunched.callbacks, hlaunched.objects, hlaunched.cellHost, hlaunched.cellHosts,
          hlaunched.sandboxHost, hlaunched.sandboxHosts⟩
      exact hwiped.of_timeless hrestart

theorem Kin.befall_all (h : Kin py cwd now w w') (mishaps : List (Mishap T)) :
    Kin py cwd now w (mishaps.foldl (fun w mishap => mishap.befall py cwd w) w') := by
  induction mishaps generalizing w' with
  | nil => exact h
  | cons mishap rest ih => exact ih (h.befall mishap)

/-- **One turn**: whatever befell before it, the request is answered as it is by a stack
that keeps running. -/
theorem Kin.serve (h : Kin py cwd now w w') {turn : Turn T} (hnow : now ≤ turn.timing.rebuild 0)
    (htime : ∀ sid commandType payload actor,
      turn.request = .sendCommand sid commandType payload actor →
        InTime turn.timing sid w.store) :
    (turn.serve py (noLosses 0) w).1 = (turn.serve py (noLosses 0) w').1 ∧
      ∃ k, Kin py cwd (turn.timing.now k) (turn.serve py (noLosses 0) w).2.world
        (turn.serve py (noLosses 0) w').2.world := by
  obtain ⟨⟨u, htwins, hsame⟩, hlaunched⟩ := h
  obtain ⟨htwin, k, htwins⟩ := htwins.serve rfl hnow htime (noLosses 0) (noLosses 0)
  have hsame : Ticking.Same ⟨0, u.lose (noLosses 0)⟩ ⟨0, w'.lose (noLosses 0)⟩ :=
    ⟨rfl, congrArg (World.lose · (noLosses 0)) hsame⟩
  have hlaunched : Launched cwd (turn.serve py (noLosses 0) w').2.world := by
    refine run_timed_store py turn.timing ⟨0, w'.lose (noLosses 0)⟩
      (Request.within py turn.request) (I := Launched cwd) (fun _ _ _ h => ?_)
      (fun _ _ hc h => exec_launched h hc) ?_
    · exact ⟨h.callbacks, h.objects, h.cellHost, h.cellHosts, h.sandboxHost, h.sandboxHosts⟩
    · exact ⟨hlaunched.callbacks, hlaunched.objects, hlaunched.cellHost, hlaunched.cellHosts,
        hlaunched.sandboxHost, hlaunched.sandboxHosts⟩
  have hend : SameEnd _ _
      ((turn.request.code py).run (timed py turn.timing) ⟨0, u.lose (noLosses 0)⟩)
      ((turn.request.code py).run (timed py turn.timing) ⟨0, w'.lose (noLosses 0)⟩) :=
    same_request turn.request _ _ hsame
  have hanswer : (turn.serve py (noLosses 0) u).1 = (turn.serve py (noLosses 0) w').1 ∧
      (turn.serve py (noLosses 0) u).2.Same (turn.serve py (noLosses 0) w').2 := by
    unfold Turn.serve
    generalize (turn.request.code py).run (timed py turn.timing) ⟨0, u.lose _⟩ = x at hend ⊢
    generalize (turn.request.code py).run (timed py turn.timing) ⟨0, w'.lose _⟩ = y at hend ⊢
    cases hend with
    | ok hq => exact ⟨congrArg Except.ok hq.1, hq.2⟩
    | error e he => exact ⟨rfl, he⟩
  exact ⟨htwin.trans hanswer.1, k, ⟨_, htwins, hanswer.2.timeless⟩, hlaunched⟩

/-- **Whole runs**, by induction on the turns. -/
theorem Kin.serve_all {turns : List (Turn T)} (h : Kin py cwd now w w')
    (hnow : ∀ turn ∈ turns, now ≤ turn.timing.rebuild 0) (hordered : Ordered turns)
    (hleases : LeasesHold py turns w) (mishaps : ℕ → List (Mishap T)) :
    (Nadi.serve py noLosses turns w).1 = (serveAmid py cwd mishaps turns w').1 ∧
      ∃ later, Kin py cwd later (Nadi.serve py noLosses turns w).2
        (serveAmid py cwd mishaps turns w').2 := by
  induction turns generalizing now w w' mishaps with
  | nil => exact ⟨rfl, now, h⟩
  | cons turn rest ih =>
    obtain ⟨hfirst, hrest⟩ := List.pairwise_cons.mp hordered
    obtain ⟨htime, hleases⟩ := hleases
    obtain ⟨hanswer, k, hkin⟩ := (h.befall_all (mishaps 0)).serve
      (hnow turn List.mem_cons_self) htime
    obtain ⟨hanswers, later, hlater⟩ := ih hkin (fun next hnext => hfirst next hnext k) hrest
      hleases fun n => mishaps (n + 1)
    refine ⟨?_, later, hlater⟩
    show _ :: _ = _ :: _
    rw [hanswer]
    exact congrArg _ hanswers

/-- **Restart transparency.** On a new local stack, requests served in turn are answered
alike by a process that keeps running and by one that loses cells and is restarted, any
number of times before any of them, if no command is still being served when the lease
with which it began has ended. The databases they leave differ in the times at which hosts
were last seen only, and the cells that are there hold the replay of their logs. -/
theorem restart_transparent (py : Py) (cwd : List String) (clock : T) (files : Files)
    (turns : List (Turn T)) (mishaps : ℕ → List (Mishap T)) (hordered : Ordered turns)
    (hleases : LeasesHold py turns (localWorld py cwd clock files)) :
    let kept := Nadi.serve py noLosses turns (localWorld py cwd clock files)
    let amid := serveAmid py cwd mishaps turns (localWorld py cwd clock files)
    kept.1 = amid.1 ∧ kept.2.store.timeless = amid.2.store.timeless ∧
      CellsReplayed (localCelld cwd) amid.2 := by
  intro kept amid
  obtain ⟨now, hnow⟩ := hordered.exists_before clock
  have hstart : Kin py cwd now (localWorld py cwd clock files) (localWorld py cwd clock files) :=
    ⟨⟨_, ⟨rfl, stackInv_localWorld .., stackInv_localWorld ..⟩, rfl⟩, launched_localWorld ..⟩
  obtain ⟨hanswers, later, ⟨u, htwins, hsame⟩, -⟩ :=
    hstart.serve_all hnow hordered hleases mishaps
  have hcore := congrArg World.store htwins.core
  have hstore := congrArg World.store hsame
  refine ⟨hanswers, (congrArg Store.timeless hcore).trans hstore, fun sid cell hcell => ?_⟩
  have hcells := congrArg World.cells hsame
  have hheap := congrArg World.heap hsame
  have hevents := congrArg (·.getEvents sid 0) hstore
  have hreplayed := cellsReplayed_of_stackInv htwins.right sid cell
    ((congrFun (congrFun hcells _) sid).trans hcell)
  exact (congrArg (replay .initial) hevents).symm.trans
    (hreplayed.trans (congrArg (fun heap => Except.ok (heap cell.addr)) hheap))

end Runs

/-- The process is restarted before every request, and all its cells are lost. -/
theorem restart_transparent_sample :
    let start : World ℚ := localWorld Py.sample [] 0 Sample.files
    let kept := serve Py.sample noLosses sampleTurns start
    let amid := serveAmid Py.sample [] (fun _ => [.restart 5, .losses fun _ => true])
      sampleTurns start
    kept.1 = amid.1 ∧ kept.2.store.timeless = amid.2.store.timeless ∧
      CellsReplayed (localCelld []) amid.2 := by
  have hstill : ∀ (t : ℚ) sid (st : Store ℚ), InTime (.still t Sample.files) sid st :=
    fun _ _ _ _ _ hlt _ => hlt
  refine restart_transparent Py.sample [] 0 Sample.files sampleTurns
    (fun _ => [.restart 5, .losses fun _ => true]) ?_ ?_
  · norm_num [Ordered, sampleTurns, Timing.still]
  · exact ⟨fun _ _ _ _ _ => hstill _ _ _, fun _ _ _ _ _ => hstill _ _ _,
      fun _ _ _ _ _ => hstill _ _ _, trivial⟩

end Nadi
