import Nadi.Model.Store

/-!
# What each raising method of `Store` does when it returns

One inversion lemma for each method that may raise: the value it returns, the
conditions under which it returns, and the store after it as an update of the
tables it writes. Later modules cite these and never unfold a method.

The second half is about the event log: `appendEvent` never fails on its unique
constraint, and a log numbered `1, 2, …` stays so.
-/

namespace Nadi

namespace Store

variable {T : Type} {st st' : Store T} {t : T}

/-! ## Inversion -/

theorem createSession_ok {sid tenantId : String} {externalId profileBundle : Option String}
    {metadata : Json} {b : String}
    (h : st.createSession t sid tenantId externalId profileBundle metadata = .ok (b, st')) :
    b = sid ∧ ∃ sessions,
      st.sessions.insert? (newSession t sid tenantId externalId profileBundle metadata) =
        some sessions ∧ st' = { st with sessions } := by
  unfold createSession at h
  split at h
  · cases h
  · split at h
    · cases h
    · rename_i sessions hins
      cases h
      exact ⟨rfl, sessions, hins, rfl⟩

/-- A session that is created is another than those that exist. -/
theorem createSession_new {id tenantId b sid : String}
    {externalId profileBundle : Option String} {metadata : Json}
    (h : st.createSession t id tenantId externalId profileBundle metadata = .ok (b, st'))
    (hses : st.hasSession sid = true) : id ≠ sid := by
  obtain ⟨-, sessions, hins, -⟩ := createSession_ok h
  obtain ⟨row, hrow, hid⟩ := Data.Table.find?_isSome.mp hses
  exact fun heq => (Data.Table.insert?_eq_some.mp hins).1 row hrow (hid.trans heq.symm)

theorem appendEvent_ok {sessionId eventType : String} {payload : Json} {actor : Option String}
    {ev : Event}
    (h : st.appendEvent t sessionId eventType payload actor = .ok (ev, st')) :
    ev = ⟨sessionId, st.nextSequence sessionId, eventType, payload.orEmpty, actor⟩ ∧
      st.hasSession sessionId = true ∧
      st' = { st with
        events := st.events.push
          (newEvent t sessionId (st.nextSequence sessionId) eventType payload actor)
          fun _ => rfl } := by
  unfold appendEvent at h
  dsimp only at h
  split at h
  · cases h
  · split at h
    · rename_i hses
      cases h
      exact ⟨rfl, hses, rfl⟩
    · cases h

theorem enqueueCommand_ok {sessionId commandType : String} {payload : Json}
    {actor : Option String} {n : Nat}
    (h : st.enqueueCommand t sessionId commandType payload actor = .ok (n, st')) :
    n = st.commandInbox.last + 1 ∧ (st.pendingOf sessionId).length < maxPendingCommands ∧
      (st.eventsOf sessionId).length < maxEventsPerSession ∧ st.hasSession sessionId = true ∧
      st' = { st with
        commandInbox := st.commandInbox.push
          (newCommand t sessionId commandType payload actor) fun _ => rfl } := by
  unfold enqueueCommand at h
  split at h
  · cases h
  · rename_i hpend
    split at h
    · cases h
    · rename_i hev
      split at h
      · rename_i hses
        cases h
        exact ⟨rfl, by omega, by omega, hses, rfl⟩
      · cases h

/-- A session that exists and is below its limits takes a command. -/
theorem enqueueCommand_eq {sessionId commandType : String} {payload : Json}
    {actor : Option String} (hpend : (st.pendingOf sessionId).length < maxPendingCommands)
    (hlog : (st.eventsOf sessionId).length < maxEventsPerSession)
    (hses : st.hasSession sessionId = true) :
    ∃ st', st.enqueueCommand t sessionId commandType payload actor =
      .ok (st.commandInbox.last + 1, st') := by
  unfold enqueueCommand
  rw [if_neg (Nat.not_le.mpr hpend), if_neg (Nat.not_le.mpr hlog), if_pos hses]
  exact ⟨_, rfl⟩

theorem upsertCellHost_ok {cid hostId zone address : String} {capacityTotal : Int}
    {metadata : Json} {b : String}
    (h : st.upsertCellHost t cid hostId zone address capacityTotal metadata = .ok (b, st')) :
    (∃ host ∈ st.cellHosts, host.hostId = hostId ∧ b = host.id ∧
      st' = { st with
        cellHosts := st.cellHosts.update (fun h => h.hostId == hostId)
          (refreshCellHost t zone address capacityTotal metadata) fun _ => rfl }) ∨
    ((∀ host ∈ st.cellHosts, host.hostId ≠ hostId) ∧ b = cid ∧ ∃ cellHosts,
      st.cellHosts.insert? (newCellHost t cid hostId zone address capacityTotal metadata) =
        some cellHosts ∧ st' = { st with cellHosts }) := by
  unfold upsertCellHost at h
  split at h
  · rename_i host hfind
    cases h
    exact .inl ⟨host, List.mem_of_find?_eq_some hfind, by simpa using List.find?_some hfind,
      rfl, rfl⟩
  · rename_i hnone
    split at h
    · cases h
    · rename_i cellHosts hins
      cases h
      refine .inr ⟨fun host hh heq => ?_, rfl, cellHosts, hins, rfl⟩
      have hne := List.find?_eq_none.mp hnone host hh
      simp [heq] at hne

theorem upsertSandboxHost_ok {sid hostId zone address : String} {metadata : Json} {b : String}
    (h : st.upsertSandboxHost t sid hostId zone address metadata = .ok (b, st')) :
    ∃ sandboxHosts, st' = { st with sandboxHosts } := by
  unfold upsertSandboxHost at h
  split at h
  · cases h
    exact ⟨_, rfl⟩
  · split at h
    · cases h
    · cases h
      exact ⟨_, rfl⟩

theorem createLease_ok [Field T] {token sessionId cellHostId : String} {ttlSeconds : Int}
    {b : String}
    (h : st.createLease t token sessionId cellHostId ttlSeconds = .ok (b, st')) :
    b = token ∧ st.hasSession sessionId = true ∧ (st.cellHosts.find? cellHostId).isSome = true ∧
      st' = { st with
        sessionLeases := st.sessionLeases.replace
          (newLease t token sessionId cellHostId ttlSeconds)
        cellHosts := st.cellHosts.update (fun h => h.id == cellHostId) (takeSlot t)
          fun _ => rfl } := by
  unfold createLease at h
  split at h
  · rename_i hand
    cases h
    exact ⟨rfl, hand.1, hand.2, rfl⟩
  · cases h

/-- A lease of a session on a host that exist always succeeds. -/
theorem createLease_eq [Field T] {sessionId cellHostId : String}
    (hses : st.hasSession sessionId = true)
    (hhost : (st.cellHosts.find? cellHostId).isSome = true) (token : String)
    (ttlSeconds : Int) :
    ∃ st', st.createLease t token sessionId cellHostId ttlSeconds = .ok (token, st') := by
  unfold createLease
  rw [if_pos ⟨hses, hhost⟩]
  exact ⟨_, rfl⟩

theorem insertChannel_ok {row : ChannelRow T} (h : st.insertChannel row = .ok st') :
    (st' = st ∧ ((∃ c ∈ st.channels, c.id = row.id) ∨ ∃ c ∈ st.channels, c.key = row.key)) ∨
    ((∀ c ∈ st.channels, c.id ≠ row.id) ∧ st.hasSession row.sessionId = true ∧ ∃ channels,
      st.channels.insert? row = some channels ∧ st' = { st with channels }) := by
  unfold insertChannel at h
  split at h
  · rename_i hany
    cases h
    simp only [List.any_eq_true, beq_iff_eq] at hany
    obtain ⟨c, hc, hid⟩ := hany
    exact .inl ⟨rfl, .inl ⟨c, hc, hid⟩⟩
  · rename_i hany
    split at h
    · rename_i hins
      cases h
      exact .inl ⟨rfl, .inr (Data.Table.insert?_eq_none.mp hins)⟩
    · rename_i channels hins
      split at h
      · rename_i hses
        cases h
        refine .inr ⟨fun c hc hid => hany ?_, hses, channels, hins, rfl⟩
        rw [List.any_eq_true]
        exact ⟨c, hc, by simpa using hid⟩
      · cases h

/-- The row a call of `get_or_create_channel` reports is the row of the key in
the store it leaves. -/
theorem getOrCreateChannel_ok
    {cid platform channelId threadId sessionId initiator : String} {metadata : Json}
    {actualSid actualId : String} {created : Bool}
    (h : st.getOrCreateChannel t cid platform channelId threadId sessionId initiator metadata =
      .ok ((actualSid, actualId, created), st')) :
    st.insertChannel (newChannel t cid platform channelId threadId sessionId initiator metadata) =
        .ok st' ∧
      ∃ row, st'.channels.find? (platform, channelId, threadId) = some row ∧
        actualSid = row.sessionId ∧ actualId = row.id ∧
        created = (row.sessionId == sessionId && row.id == cid) := by
  unfold getOrCreateChannel at h
  split at h
  · cases h
  · rename_i st'' hins
    split at h
    · cases h
    · rename_i row hfind
      cases h
      exact ⟨hins, row, hfind, rfl, rfl, rfl⟩

/-! ## The status of a session -/

/-- The status of the session with an id. -/
def statusOf (st : Store T) (sid : String) : Option SessionStatus :=
  (st.sessions.find? sid).map SessionRow.status

theorem statusOf_eq_some {sid : String} {status : SessionStatus} :
    st.statusOf sid = some status ↔
      ∃ s ∈ st.sessions, s.id = sid ∧ s.status = status := by
  unfold statusOf
  rw [Option.map_eq_some_iff]
  constructor
  · rintro ⟨s, hfind, rfl⟩
    obtain ⟨hs, hid⟩ := Data.Table.find?_eq_some.mp hfind
    exact ⟨s, hs, hid, rfl⟩
  · rintro ⟨s, hs, hid, rfl⟩
    exact ⟨s, Data.Table.find?_eq_some.mpr ⟨hs, hid⟩, rfl⟩

theorem hasSession_of_statusOf {sid : String} {status : SessionStatus}
    (h : st.statusOf sid = some status) : st.hasSession sid = true := by
  obtain ⟨s, hs, hid, -⟩ := statusOf_eq_some.mp h
  exact Data.Table.find?_isSome.mpr ⟨s, hs, hid⟩

theorem statusOf_updateSessionStatus (st : Store T) (t : T) (sid sid' : String)
    (status : SessionStatus) :
    (st.updateSessionStatus t sid status).statusOf sid' =
      if sid' = sid then (st.statusOf sid').map fun _ => status else st.statusOf sid' := by
  unfold statusOf updateSessionStatus
  dsimp only
  rw [Data.Table.find?_update]
  cases hfind : st.sessions.find? sid' with
  | none => simp
  | some s =>
    have hid := (Data.Table.find?_eq_some.mp hfind).2
    by_cases hs : sid' = sid
    · simp [hs, hid]
    · simp [hs, hid]

/-- Setting a status makes no session. -/
theorem mem_updateSessionStatus {sid : String} {status : SessionStatus} {s : SessionRow T}
    (h : s ∈ (st.updateSessionStatus t sid status).sessions) :
    ∃ s₀ ∈ st.sessions, s₀.id = s.id := by
  obtain ⟨s₀, hs₀, rfl⟩ := List.mem_map.mp h
  refine ⟨s₀, hs₀, ?_⟩
  split <;> rfl

/-- A new id always makes a session. -/
theorem createSession_eq (t : T) {sid : String} (tenantId : String)
    (profileBundle : Option String) (metadata : Json) (hnew : ∀ s ∈ st.sessions, s.id ≠ sid) :
    ∃ sessions,
      st.sessions.insert? (newSession t sid tenantId none profileBundle metadata) =
        some sessions ∧
      st.createSession t sid tenantId none profileBundle metadata =
        .ok (sid, { st with sessions }) := by
  unfold createSession
  rw [if_neg (fun h => nomatch h.1)]
  cases hins : st.sessions.insert? (newSession t sid tenantId none profileBundle metadata) with
  | none =>
    obtain ⟨s, hs, hid⟩ := Data.Table.insert?_eq_none.mp hins
    exact absurd hid (hnew s hs)
  | some sessions => exact ⟨sessions, rfl, rfl⟩

theorem statusOf_insert {sessions : Data.Table (SessionRow T) SessionRow.id} {s : SessionRow T}
    (h : st.sessions.insert? s = some sessions) (sid : String) :
    ({ st with sessions } : Store T).statusOf sid =
      if s.id = sid then some s.status else st.statusOf sid := by
  unfold statusOf
  dsimp only
  rw [Data.Table.find?_of_insert? h]
  split <;> rfl

/-! ## Slots and leases -/

/-- `capacity_used` of the host with an id. -/
def capacityOf (st : Store T) (hostId : String) : Option Nat :=
  (st.cellHosts.find? hostId).map CellHostRow.capacityUsed

/-- `host_id` of the host with an id. -/
def hostOf (st : Store T) (id : String) : Option String :=
  (st.cellHosts.find? id).map CellHostRow.hostId

/-- The host that the lease of a session names. -/
def ownerOf (st : Store T) (sid : String) : Option String :=
  (st.sessionLeases.find? sid).bind fun l => st.hostOf l.cellHostId

theorem ownerOf_eq_some {sid h : String} :
    st.ownerOf sid = some h ↔ ∃ l, st.sessionLeases.find? sid = some l ∧
      ∃ host, st.cellHosts.find? l.cellHostId = some host ∧ host.hostId = h := by
  unfold ownerOf hostOf
  simp [Option.bind_eq_some_iff]

/-- The host chosen is one of those with a free slot. -/
theorem chooseCellHost_ok [LinearOrder T] {row : CellHostRow T}
    (h : st.chooseCellHost = .ok row) : row ∈ st.cellHosts ∧ hasCapacity row = true := by
  unfold chooseCellHost at h
  split at h
  · cases h
  · rename_i host hhead
    cases h
    have hmem := List.mem_of_mem_head? hhead
    rw [List.mem_insertionSort] at hmem
    exact List.mem_filter.mp hmem

instance [LinearOrder T] : Std.Total (hostLe (T := T)) where
  total := by
    intro a b
    rcases Nat.lt_trichotomy a.capacityUsed b.capacityUsed with h | h | h
    · exact .inl (.inl h)
    · exact (le_total a.createdAt b.createdAt).imp (fun hle => .inr ⟨h, hle⟩)
        fun hle => .inr ⟨h.symm, hle⟩
    · exact .inr (.inl h)

instance [LinearOrder T] : IsTrans (CellHostRow T) hostLe where
  trans := by
    rintro a b c (hab | ⟨hab, hab'⟩) (hbc | ⟨hbc, hbc'⟩)
    · exact .inl (hab.trans hbc)
    · exact .inl (hbc ▸ hab)
    · exact .inl (hab.symm ▸ hbc)
    · exact .inr ⟨hab.trans hbc, hab'.trans hbc'⟩

/-- No host with a free slot has fewer in use than the host chosen. -/
theorem chooseCellHost_least [LinearOrder T] {row : CellHostRow T}
    (h : st.chooseCellHost = .ok row) {host : CellHostRow T} (hmem : host ∈ st.cellHosts)
    (hfree : hasCapacity host = true) : row.capacityUsed ≤ host.capacityUsed := by
  unfold chooseCellHost at h
  split at h
  · cases h
  · rename_i first hhead
    cases h
    obtain ⟨rest, hrest⟩ := List.head?_eq_some_iff.mp hhead
    have hsorted := List.pairwise_insertionSort hostLe (st.cellHosts.select hasCapacity)
    have hin : host ∈ (st.cellHosts.select hasCapacity).insertionSort hostLe :=
      (List.mem_insertionSort hostLe).mpr (List.mem_filter.mpr ⟨hmem, hfree⟩)
    rw [hrest] at hsorted hin
    rcases List.mem_cons.mp hin with rfl | hin
    · exact Nat.le_refl _
    · rcases (List.pairwise_cons.mp hsorted).1 host hin with hlt | ⟨heq, -⟩
      · exact hlt.le
      · exact heq.le

/-- No host is chosen if and only if none has a free slot. -/
theorem chooseCellHost_error_iff [LinearOrder T] {e : PyErr} :
    st.chooseCellHost = .error e ↔
      e = .runtimeError "no cell host has available capacity" ∧
        ∀ host ∈ st.cellHosts, hasCapacity host = false := by
  have hnone : ((st.cellHosts.select hasCapacity).insertionSort hostLe).head? = none ↔
      ∀ host ∈ st.cellHosts, hasCapacity host = false := by
    rw [List.head?_eq_none_iff, ← List.length_eq_zero_iff, List.length_insertionSort,
      List.length_eq_zero_iff]
    exact List.filter_eq_nil_iff.trans
      (forall₂_congr fun host _ => Bool.eq_false_iff.symm)
  rw [← hnone]
  unfold chooseCellHost
  cases ((st.cellHosts.select hasCapacity).insertionSort hostLe).head? with
  | none =>
    refine ⟨fun h => ⟨(Except.error.inj h).symm, rfl⟩, ?_⟩
    rintro ⟨rfl, -⟩
    rfl
  | some row => exact ⟨fun h => (nomatch h), fun h => (nomatch h.2)⟩

/-- `capacity_total` of the host with an id. -/
def totalOf (st : Store T) (hostId : String) : Option Int :=
  (st.cellHosts.find? hostId).map CellHostRow.capacityTotal

/-- A lease changes no bound. -/
theorem createLease_totalOf [Field T] {token sessionId cellHostId : String} {ttlSeconds : Int}
    {b : String}
    (h : st.createLease t token sessionId cellHostId ttlSeconds = .ok (b, st')) (id : String) :
    st'.totalOf id = st.totalOf id := by
  obtain ⟨-, -, -, rfl⟩ := createLease_ok h
  refine (congrArg (Option.map CellHostRow.capacityTotal)
    (Data.Table.find?_update st.cellHosts _ (takeSlot t) (fun _ => rfl) id)).trans ?_
  unfold totalOf
  cases st.cellHosts.find? id with
  | none => rfl
  | some host =>
    dsimp only [Option.map_some]
    split <;> rfl

/-- A lease takes one slot of its host. -/
theorem createLease_capacityOf [Field T] {token sessionId cellHostId : String} {ttlSeconds : Int}
    {b : String}
    (h : st.createLease t token sessionId cellHostId ttlSeconds = .ok (b, st')) (id : String) :
    st'.capacityOf id =
      if id = cellHostId then (st.capacityOf id).map (· + 1) else st.capacityOf id := by
  obtain ⟨-, -, -, rfl⟩ := createLease_ok h
  refine (congrArg (Option.map CellHostRow.capacityUsed)
    (Data.Table.find?_update st.cellHosts _ (takeSlot t) (fun _ => rfl) id)).trans ?_
  unfold capacityOf
  cases hfind : st.cellHosts.find? id with
  | none => simp
  | some host =>
    have hid := (Data.Table.find?_eq_some.mp hfind).2
    by_cases hc : id = cellHostId
    · simp [hc, hid, takeSlot]
    · simp [hc, hid]

/-- A lease of a session is found under the session; the others stay. -/
theorem createLease_lease [Field T] {token sessionId cellHostId : String} {ttlSeconds : Int}
    {b : String}
    (h : st.createLease t token sessionId cellHostId ttlSeconds = .ok (b, st')) (sid : String) :
    st'.sessionLeases.find? sid =
      if sessionId = sid then some (newLease t token sessionId cellHostId ttlSeconds)
      else st.sessionLeases.find? sid := by
  obtain ⟨-, -, -, rfl⟩ := createLease_ok h
  exact Data.Table.find?_replace _ _ _

/-- A route is an active lease. -/
theorem getRoute_eq_some [LinearOrder T] {sid : String} {r : Route T}
    (h : st.getRoute t sid = some r) :
    ∃ l, st.sessionLeases.find? sid = some l ∧ t < l.expiresAt := by
  unfold getRoute at h
  split at h
  · cases h
  · rename_i l hl
    split at h
    · rename_i hactive
      exact ⟨l, hl, hactive.2⟩
    · cases h

/-- A route leads to the host that the lease names. -/
theorem getRoute_ownerOf [LinearOrder T] {sid : String} {r : Route T}
    (h : st.getRoute t sid = some r) : st.ownerOf sid = some r.hostId := by
  unfold getRoute at h
  split at h
  · cases h
  · rename_i l hl
    split at h
    · obtain ⟨host, hhost, rfl⟩ := Option.map_eq_some_iff.mp h
      exact ownerOf_eq_some.mpr ⟨l, hl, host, hhost, rfl⟩
    · cases h

/-- A session has an active route until its lease expires. -/
theorem getRoute_isSome [LinearOrder T] {sid : String} {l : LeaseRow T}
    (hlease : st.sessionLeases.find? sid = some l)
    (hhost : (st.cellHosts.find? l.cellHostId).isSome = true) :
    (st.getRoute t sid).isSome = true ↔ t < l.expiresAt := by
  unfold getRoute
  rw [hlease]
  dsimp only
  by_cases hexp : t < l.expiresAt
  · rw [if_pos ⟨rfl, hexp⟩, Option.isSome_map]
    exact ⟨fun _ => hexp, fun _ => hhost⟩
  · rw [if_neg (fun h => hexp h.2)]
    exact ⟨fun h => (nomatch h), fun h => absurd h hexp⟩

/-! ## The inbox -/

/-- A claim with a new token returns exactly the pending commands of its
session, as it has marked them. -/
theorem claimPendingCommands_rows {token sid by' : String}
    (hnew : ∀ c ∈ st.commandInbox, c.claimToken ≠ some token) :
    (st.claimPendingCommands t token sid by').1 =
      (st.pendingOf sid).map (claimRow t by' token) := by
  refine Data.Serial.select_update (fun c hc => ?_) fun c hc _ => ?_
  · simp [claimRow]
  · simp [hnew c hc]

/-- A claim returns its rows in the order of their ids. -/
theorem claimPendingCommands_sorted {token sid by' : String} :
    (st.claimPendingCommands t token sid by').1.Pairwise fun a b => a.id < b.id :=
  Data.Serial.select_ordered _ _

theorem mem_pendingOf {sid : String} {c : CommandRow T} :
    c ∈ st.pendingOf sid ↔ c ∈ st.commandInbox ∧ c.sessionId = sid ∧ c.status = .pending := by
  unfold pendingOf
  rw [Data.Serial.mem_select]
  simp

/-- The status of the command with an id. -/
def commandStatus (st : Store T) (id : Nat) : Option CommandStatus :=
  (st.commandInbox.find? id).map CommandRow.status

theorem commandStatus_eq_some {id : Nat} {status : CommandStatus} :
    st.commandStatus id = some status ↔
      ∃ c ∈ st.commandInbox, c.id = id ∧ c.status = status := by
  unfold commandStatus
  rw [Option.map_eq_some_iff]
  constructor
  · rintro ⟨c, hfind, rfl⟩
    obtain ⟨hc, hid⟩ := Data.Serial.find?_eq_some.mp hfind
    exact ⟨c, hc, hid, rfl⟩
  · rintro ⟨c, hc, hid, rfl⟩
    exact ⟨c, Data.Serial.find?_eq_some.mpr ⟨hc, hid⟩, rfl⟩

/-- Completing a command sets its status and no other. -/
theorem commandStatus_completeCommand (st : Store T) (t : T) (id id' : Nat) :
    (st.completeCommand t id).commandStatus id' =
      if id' = id then (st.commandStatus id').map fun _ => .completed
      else st.commandStatus id' := by
  refine (congrArg (Option.map CommandRow.status)
    (Data.Serial.find?_update st.commandInbox _ (completeRow t) (fun _ => rfl) id')).trans ?_
  unfold commandStatus
  cases hfind : st.commandInbox.find? id' with
  | none => simp
  | some c =>
    have hid := (Data.Serial.find?_eq_some.mp hfind).2
    by_cases hc : id' = id
    · simp [hc, hid, completeRow]
    · simp [hc, hid]

/-- What was pending in a session has been claimed after a claim. -/
theorem commandStatus_claimPendingCommands {token sid by' : String} {c : CommandRow T}
    (h : c ∈ st.pendingOf sid) :
    (st.claimPendingCommands t token sid by').2.commandStatus c.id = some .claimed := by
  obtain ⟨hc, hsid, hpending⟩ := mem_pendingOf.mp h
  refine commandStatus_eq_some.mpr ⟨claimRow t by' token c, List.mem_map.mpr ⟨c, hc, ?_⟩, rfl, rfl⟩
  rw [if_pos (by simp [hsid, hpending])]

/-! ## The event log -/

@[simp] theorem newEvent_orEmpty (t : T) (sessionId : String) (seq : Nat) (eventType : String)
    (payload : Json) (actor : Option String) :
    newEvent t sessionId seq eventType payload.orEmpty actor =
      newEvent t sessionId seq eventType payload actor := by
  funext id
  unfold newEvent
  rw [Json.orEmpty_orEmpty]

theorem mem_eventsOf {sessionId : String} {e : EventRow T} :
    e ∈ st.eventsOf sessionId ↔ e ∈ st.events ∧ e.sessionId = sessionId := by
  unfold eventsOf
  rw [Data.Serial.mem_select]
  simp

theorem lt_nextSequence {sessionId : String} {e : EventRow T}
    (h : e ∈ st.eventsOf sessionId) : e.sequence < st.nextSequence sessionId := by
  unfold nextSequence
  have hmem : e.sequence ∈ (st.eventsOf sessionId).map EventRow.sequence :=
    List.mem_map_of_mem h
  cases hmax : ((st.eventsOf sessionId).map EventRow.sequence).max? with
  | none =>
    rw [List.max?_eq_none_iff.mp hmax] at hmem
    cases hmem
  | some m =>
    have hle := (List.max?_eq_some_iff.mp hmax).2 e.sequence hmem
    show e.sequence < m + 1
    omega

/-- The numbers of a log that grows do not go back. -/
theorem nextSequence_mono {sessionId : String}
    (h : st.eventsOf sessionId <+: st'.eventsOf sessionId) :
    st.nextSequence sessionId ≤ st'.nextSequence sessionId := by
  show (((st.eventsOf sessionId).map EventRow.sequence).max?).getD 0 + 1 ≤ _
  cases hmax : ((st.eventsOf sessionId).map EventRow.sequence).max? with
  | none => exact Nat.le_add_left _ _
  | some m =>
    obtain ⟨e, he, rfl⟩ := List.mem_map.mp (List.max?_eq_some_iff.mp hmax).1
    exact lt_nextSequence (h.subset he)

/-- The next number is free. -/
theorem nextSequence_free (st : Store T) (sessionId : String) :
    ((st.eventsOf sessionId).any fun e => e.sequence == st.nextSequence sessionId) = false := by
  rw [List.any_eq_false]
  intro e he heq
  have hlt := lt_nextSequence he
  simp only [beq_iff_eq] at heq
  omega

/-- An append to a session that exists succeeds. -/
theorem appendEvent_eq {sessionId eventType : String} {payload : Json} {actor : Option String}
    (hses : st.hasSession sessionId = true) :
    st.appendEvent t sessionId eventType payload actor =
      .ok
        (⟨sessionId, st.nextSequence sessionId, eventType, payload.orEmpty, actor⟩,
          { st with
            events := st.events.push
              (newEvent t sessionId (st.nextSequence sessionId) eventType payload actor)
              fun _ => rfl }) := by
  unfold appendEvent
  simp only [nextSequence_free, hses, if_true, Bool.false_eq_true, if_false]

/-- An append to one that does not is refused. -/
theorem appendEvent_missing {sessionId eventType : String} {payload : Json}
    {actor : Option String} (hses : st.hasSession sessionId = false) :
    st.appendEvent t sessionId eventType payload actor = .error foreignKeyFailed := by
  unfold appendEvent
  simp only [nextSequence_free, hses, Bool.false_eq_true, if_false]

/-- The events of every session are numbered `1, 2, …` in order of insertion. -/
def Contiguous (st : Store T) : Prop :=
  ∀ sessionId, (st.eventsOf sessionId).map EventRow.sequence =
    List.range' 1 (st.eventsOf sessionId).length

theorem contiguous_init : (init : Store T).Contiguous := fun _ => rfl

/-- In a contiguous log the next number is one more than the number of events. -/
theorem Contiguous.nextSequence (h : st.Contiguous) (sessionId : String) :
    st.nextSequence sessionId = (st.eventsOf sessionId).length + 1 := by
  show (((st.eventsOf sessionId).map EventRow.sequence).max?).getD 0 + 1 = _
  rw [h sessionId]
  congr 1
  cases hn : (st.eventsOf sessionId).length with
  | zero => rfl
  | succ n =>
    have hmax : (List.range' 1 (n + 1)).max? = some (n + 1) := by
      rw [List.max?_eq_some_iff]
      constructor
      · rw [List.mem_range'_1]
        omega
      · intro b hb
        rw [List.mem_range'_1] at hb
        omega
    rw [hmax]
    rfl

/-- What an append adds to the log of each session. -/
theorem eventsOf_append {sessionId eventType : String} {payload : Json}
    {actor : Option String} {ev : Event}
    (h : st.appendEvent t sessionId eventType payload actor = .ok (ev, st')) (s : String) :
    st'.eventsOf s = if s = sessionId then
      st.eventsOf s ++
        [newEvent t sessionId (st.nextSequence sessionId) eventType payload actor
          (st.events.last + 1)]
      else st.eventsOf s := by
  obtain ⟨-, -, rfl⟩ := appendEvent_ok h
  show (List.filter _ (st.events.rows ++ [_])) = _
  rw [List.filter_append]
  by_cases hs : s = sessionId
  · subst hs
    rw [if_pos rfl]
    congr 1
    simp [newEvent]
  · rw [if_neg hs]
    have hne : (sessionId == s) = false := by simpa using Ne.symm hs
    simp [newEvent, hne, eventsOf, Data.Serial.select]

/-- An append keeps every log contiguous. -/
theorem Contiguous.append (hc : st.Contiguous) {sessionId eventType : String} {payload : Json}
    {actor : Option String} {ev : Event}
    (h : st.appendEvent t sessionId eventType payload actor = .ok (ev, st')) :
    st'.Contiguous := by
  intro s
  rw [eventsOf_append h s]
  by_cases hs : s = sessionId
  · subst hs
    rw [if_pos rfl, List.map_append, hc s, List.length_append]
    show _ ++ [st.nextSequence s] = _
    rw [hc.nextSequence s, List.length_singleton, List.range'_concat]
    simp [Nat.add_comm]
  · rw [if_neg hs]
    exact hc s

/-- In a list numbered `s + 1, s + 2, …` the elements above `n` are a suffix. -/
theorem filter_lt_eq_drop {α : Type} (f : α → Nat) (n : Nat) (l : List α) (s : Nat)
    (h : l.map f = List.range' (s + 1) l.length) :
    (l.filter fun a => decide (n < f a)) = l.drop (n - s) := by
  induction l generalizing s with
  | nil => simp
  | cons a l ih =>
    rw [List.map_cons, List.length_cons, List.range'_succ, List.cons.injEq] at h
    obtain ⟨ha, hl⟩ := h
    have hrest := ih (s + 1) hl
    by_cases hn : n ≤ s
    · have hzero : n - s = 0 ∧ n - (s + 1) = 0 := by omega
      have hlt : n < f a := by omega
      rw [hzero.2, List.drop_zero] at hrest
      rw [List.filter_cons_of_pos (by simpa using hlt), hrest, hzero.1, List.drop_zero]
    · have hsucc : n - s = n - (s + 1) + 1 := by omega
      have hle : ¬ n < f a := by omega
      rw [List.filter_cons_of_neg (by simpa using hle), hrest, hsucc, List.drop_succ_cons]

/-- A contiguous log is already in the order in which `get_events` returns it. -/
theorem Contiguous.getEvents_eq_filter (hc : st.Contiguous) (sessionId : String) (after : ℤ) :
    st.getEvents sessionId after =
      (st.eventsOf sessionId).filter fun e => decide (after < e.sequence) := by
  have hsel : (st.events.select fun e =>
      e.sessionId == sessionId && decide (after < e.sequence)) =
      (st.eventsOf sessionId).filter fun e => decide (after < e.sequence) := by
    unfold eventsOf Data.Serial.select
    rw [List.filter_filter]
    exact List.filter_congr fun e _ => Bool.and_comm _ _
  have hpair : (st.eventsOf sessionId).Pairwise fun a b => a.sequence < b.sequence := by
    have hmap : (List.range' 1 (st.eventsOf sessionId).length).Pairwise (· < ·) :=
      List.pairwise_lt_range'
    rw [← hc sessionId, List.pairwise_map] at hmap
    exact hmap
  have hsorted : ((st.eventsOf sessionId).filter fun e => decide (after < e.sequence)).Pairwise
      fun a b => a.sequence ≤ b.sequence :=
    (hpair.filter _).imp fun hlt => Nat.le_of_lt hlt
  unfold Store.getEvents
  rw [hsel, hsorted.insertionSort_eq]

/-- After `n` events it returns the rest. -/
theorem Contiguous.getEvents (hc : st.Contiguous) (sessionId : String) (n : Nat) :
    st.getEvents sessionId n = (st.eventsOf sessionId).drop n := by
  have hdrop := filter_lt_eq_drop EventRow.sequence n _ 0 (hc sessionId)
  rw [Nat.sub_zero] at hdrop
  rw [hc.getEvents_eq_filter, ← hdrop]
  simp only [Nat.cast_lt]

/-! ## Revoked tokens -/

/-- Where no token is revoked, a look-up finds none and drops none. -/
theorem isTokenRevoked_of_empty [LinearOrder T] (h : st.revokedTokens.rows = []) (t : T)
    (jti : String) : st.isTokenRevoked t jti = (false, st) := by
  have hdelete : (st.revokedTokens.delete fun r => decide (r.expiresAt < t)) =
      st.revokedTokens := by
    refine Data.Table.ext ?_
    show st.revokedTokens.rows.filter _ = st.revokedTokens.rows
    rw [h, List.filter_nil]
  have hfind : st.revokedTokens.find? jti = none := by
    refine Data.Table.find?_eq_none.mpr fun a ha => ?_
    rw [Data.Table.mem_def, h] at ha
    cases ha
  unfold isTokenRevoked
  dsimp only
  rw [hdelete, hfind]
  rfl

end Store

end Nadi
