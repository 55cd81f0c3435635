import Nadi.Chat.Sending

/-!
# The session of a conversation

A candidate is created and placed for each message, and is abandoned if the
conversation has begun before. Its slot stays taken.
-/

namespace Nadi

open Effect

variable {T : Type}

/-! ## Finding the session -/

section Finding

variable [Field T] [LinearOrder T] [IsStrictOrderedRing T] [FloorRing T] {py : Py}
  {cwd : List String} {tm : Timing T} {now : T} {b : Bot T} {s : Ticking T} {sid : String}

variable (py tm) in
/-- A cell is created in three readings, with an event. -/
theorem run_createCell_log (c : Celld) (hses : s.world.store.hasSession sid = true) :
    ∃ cell s', (c.createCell py sid).run (timed py tm) s = (.ok cell, s') ∧
      s'.reading = s.reading + 3 ∧ ∃ row, row.payload.isObj = true ∧
        s'.world.store.eventsOf sid = s.world.store.eventsOf sid ++ [row] := by
  obtain ⟨s₁, hstatus, hreading, hlog⟩ : ∃ s₁ : Ticking T,
      (call (.updateSessionStatus sid .running)).run (timed py tm) (s.withCreated py tm c sid) =
        (.ok (), s₁) ∧ s₁.reading = s.reading + 2 ∧
      s₁.world.store.eventsOf sid = s.world.store.eventsOf sid := ⟨_, rfl, rfl, rfl⟩
  have hses₁ := run_hasSession py tm (s := s.withCreated py tm c sid)
    (call (.updateSessionStatus sid .running)) hses
  rw [hstatus] at hses₁
  dsimp only at hses₁
  obtain ⟨n, s₂, happend, hreading₂, -, -, row, hrow, hlog₂⟩ := run_appendEvent_log py
    tm c "session.started" hses₁
    (show (Json.obj [("cell_host", .str c.hostId)]).isObj = true from rfl)
  refine ⟨c.created py tm sid s, s₂, ?_, by omega, row, hrow ▸ rfl, by rw [hlog₂, hlog]⟩
  rw [run_createCell, Prog.run_bind_ok _ hstatus, Prog.run_bind_ok _ happend]
  rfl

omit [Field T] [IsStrictOrderedRing T] [FloorRing T] in
/-- The one host is chosen while it has a slot. -/
theorem Store.chooseCellHost_single {st : Store T} {host : CellHostRow T}
    (hrows : st.cellHosts.rows = [host]) (hready : host.status = .ready) :
    if (host.capacityUsed : ℤ) < host.capacityTotal then st.chooseCellHost = .ok host
    else ∃ e, st.chooseCellHost = .error e := by
  have hmem : ∀ row, row ∈ st.cellHosts ↔ row = host := by
    intro row
    show row ∈ st.cellHosts.rows ↔ _
    rw [hrows]
    exact List.mem_singleton
  have hfree : hasCapacity host = decide ((host.capacityUsed : ℤ) < host.capacityTotal) := by
    unfold hasCapacity
    rw [hready]
    rfl
  cases hchoose : st.chooseCellHost with
  | ok row =>
    obtain ⟨hrow, hcapacity⟩ := chooseCellHost_ok hchoose
    obtain rfl := (hmem row).mp hrow
    rw [if_pos (of_decide_eq_true (hfree.symm.trans hcapacity))]
  | error e =>
    have hnone := (chooseCellHost_error_iff.mp hchoose).2 host ((hmem host).mpr rfl)
    rw [if_neg (of_decide_eq_false (hfree.symm.trans hnone))]
    exact ⟨e, rfl⟩

variable (tm) in
/-- **Placing** a session on the one host, while it has a slot. -/
theorem run_placeSession_local {host : CellHostRow T} (c : Celld)
    (hrows : s.world.store.cellHosts.rows = [host]) (hready : host.status = .ready)
    (hslots : (host.capacityUsed : ℤ) < host.capacityTotal)
    (hcallback : s.world.callbacks host.hostId = some (.celld c))
    (hses : s.world.store.hasSession sid = true) :
    ∃ placement s' token row, (Broker.placeSession py sid).run (timed py tm) s =
        (.ok placement, s') ∧ s'.reading = s.reading + 4 ∧
      s'.world.store.sessionLeases = s.world.store.sessionLeases.replace
        (Store.newLease (tm.now s.reading) token sid host.id 3600) ∧
      s'.world.store.cellHosts.rows.map CellHostRow.capacityUsed = [host.capacityUsed + 1] ∧
      s'.world.store.channels = s.world.store.channels ∧
      row.payload.isObj = true ∧
      s'.world.store.eventsOf sid = s.world.store.eventsOf sid ++ [row] := by
  have hmem : host ∈ s.world.store.cellHosts := by
    show host ∈ s.world.store.cellHosts.rows
    rw [hrows]
    exact List.mem_singleton_self _
  have hchoose := Store.chooseCellHost_single hrows hready
  rw [if_pos hslots] at hchoose
  obtain ⟨st, hlease, hrun⟩ := run_createLease_ok py tm hses hmem
  obtain ⟨-, -, -, hst⟩ := Store.createLease_ok hlease
  obtain ⟨cell, s', hcell, hreading, row, hrow, hlog⟩ := run_createCell_log py tm
    (s := ⟨s.reading + 1, { (s.ready tm).draw .leaseToken with store := st }⟩) c
    (show st.hasSession sid = true by rw [hst]; exact hses)
  have hkeeps : ∀ {part : Part}, part = .hosts ∨ part = .leases ∨ part = .channels →
      Agree part { (s.ready tm).draw .leaseToken with store := st } s'.world := by
    intro part hpart
    refine agree_of_run py tm (c.createCell_within py sid) hcell fun d hd => ?_
    rcases hpart with rfl | rfl | rfl <;> cases d <;> first | rfl | exact hd.elim
  have hhosts : s'.world.store.cellHosts = st.cellHosts := hkeeps (.inl rfl)
  have hleases : s'.world.store.sessionLeases = st.sessionLeases := hkeeps (.inr (.inl rfl))
  have hchannels : s'.world.store.channels = st.channels := hkeeps (.inr (.inr rfl))
  refine ⟨_, s', s.world.fresh py .leaseToken, row,
    run_placeSession_celld py tm hchoose hrun hcallback hcell,
    hreading, ?_, ?_, ?_, hrow, ?_⟩
  · rw [hleases, hst]
  · rw [hhosts, hst]
    show (s.world.store.cellHosts.rows.map _).map _ = _
    rw [hrows]
    simp [Store.takeSlot]
  · rw [hchannels, hst]
  · rw [hlog, hst]
    rfl

/-- What a channel call calls. -/
theorem ChannelRequest.run_calls (py : Py) (request : ChannelRequest) {calls : Call T → Prop}
    (huuid : calls (.uuid4 .anonymous))
    (hcreate : ∀ tenantId metadata, calls (.createSession tenantId none none metadata))
    (hplace : ∀ sid c, c.ofPlacement sid → calls c)
    (hjoin : ∀ platform channelId threadId sid initiator metadata,
      calls (.getOrCreateChannel platform channelId threadId sid initiator metadata))
    (hstatus : ∀ sid, calls (.updateSessionStatus sid .abandoned)) :
    (request.run py : Code T ChannelSession).Within calls fun _ => True := by
  have hresource : (Gateway.resourceId request.platform request.initiatorResourceId :
      Code T String).Within calls fun _ => True := by
    unfold Gateway.resourceId
    split
    · exact .bind (.perform huuid fun _ => trivial) fun _ _ => trivial
    · trivial
  refine .bind hresource fun resourceId _ => .bind (.perform (hcreate _ _) fun _ => trivial)
    fun sid _ => .tryCatch ?_ fun e => .bind (.perform (hstatus sid) fun _ => trivial) fun _ _ => trivial
  refine .bind ((Broker.placeSession_within py sid).mono_calls (hplace sid)) fun _ _ => ?_
  refine .bind (.perform (hjoin ..) fun _ => trivial) fun found _ => ?_
  obtain ⟨actualSid, cid, created⟩ := found
  dsimp only
  split
  · trivial
  · exact .bind (.perform (hstatus sid) fun _ => trivial) fun _ _ => trivial

omit [Field T] [LinearOrder T] [IsStrictOrderedRing T] [FloorRing T] in
/-- A channel that is new gets the session. -/
theorem Store.join_new {st : Store T} {platform channelId threadId cid : String}
    (hnone : st.channels.find? (platform, channelId, threadId) = none)
    (hnew : ∀ row ∈ st.channels, row.id ≠ cid) (hses : st.hasSession sid = true)
    (t : T) (initiator : String) (metadata : Json) :
    ∃ channels, st.channels.insert? (newChannel t cid platform channelId threadId sid initiator
        metadata) = some channels ∧
      st.getOrCreateChannel t cid platform channelId threadId sid initiator metadata =
        .ok ((sid, cid, true), { st with channels }) := by
  obtain ⟨⟨actualSid, actualId, created⟩, st', hok⟩ := getOrCreateChannel_eq hnew hses t platform
    channelId threadId initiator metadata
  obtain ⟨⟨rfl, rfl, rfl⟩, channels, hinsert, rfl⟩ := getOrCreateChannel_new hnone hok
  exact ⟨channels, hinsert, hok⟩

/-- The guarded part of a channel call, for a candidate that is placed. -/
theorem run_guarded (request : ChannelRequest) (resourceId : String) {placement : Placement}
    {s₂ : Ticking T} {actualSid cid : String} {created : Bool} {st : Store T}
    (hplace : (Broker.placeSession py sid).run (timed py tm) s = (.ok placement, s₂))
    (hfound : s₂.world.store.getOrCreateChannel (tm.now s₂.reading) (s₂.world.fresh py .channel)
      request.platform request.channelId request.threadId sid resourceId request.metadata =
        .ok ((actualSid, cid, created), st)) :
    ∃ s', (request.guarded py resourceId sid).run (timed py tm) s =
        (.ok ⟨actualSid, cid, created⟩, s') ∧
      s'.reading = s₂.reading + (if created then 1 else 2) ∧
      s'.world.store.channels = st.channels ∧ s'.world.store.cellHosts = st.cellHosts ∧
      s'.world.store.sessionLeases = st.sessionLeases ∧ s'.world.store.events = st.events := by
  have hcall : (call (.getOrCreateChannel request.platform request.channelId request.threadId sid
      resourceId request.metadata)).run (timed py tm) s₂ =
      (.ok (actualSid, cid, created),
        ⟨s₂.reading + 1, { (s₂.ready tm).draw .channel with store := st }⟩) := by
    rw [Prog.run_perform, timed_reads py tm s₂ rfl (by simp)]
    have hexec : exec py (.getOrCreateChannel request.platform request.channelId request.threadId sid
        resourceId request.metadata) (s₂.ready tm) = ((s₂.ready tm).draw .channel).commit
          (s₂.world.store.getOrCreateChannel (tm.now s₂.reading) (s₂.world.fresh py .channel)
            request.platform request.channelId request.threadId sid resourceId request.metadata) := rfl
    rw [hexec, hfound]
    rfl
  unfold ChannelRequest.guarded
  rw [Prog.run_tryCatch]
  unfold Gateway.joinChannel
  simp only [Prog.bind_eq]
  rw [Prog.run_bind_ok _ hplace, Prog.run_bind_ok _ hcall]
  cases created
  · exact ⟨_, rfl, rfl, rfl, rfl, rfl, rfl⟩
  · exact ⟨_, rfl, rfl, rfl, rfl, rfl, rfl⟩

variable (tm) in
omit [IsStrictOrderedRing T] [FloorRing T] in
/-- A candidate is created in one reading, with an id that is new. -/
theorem Conversing.candidate (h : Conversing py cwd now b s.world) (tenantId : String)
    (metadata : Json) :
    ∃ s₁, (call (.createSession tenantId none none metadata)).run (timed py tm) s =
        (.ok (s.world.fresh py .session), s₁) ∧ s₁.reading = s.reading + 1 ∧
      s.world.store.hasSession (s.world.fresh py .session) = false ∧
      s₁.world.store.hasSession (s.world.fresh py .session) = true ∧
      (∃ sessions, s₁.world.store = { s.world.store with sessions }) ∧
      Working py cwd s₁.world := by
  have hnew : ∀ row ∈ s.world.store.sessions, row.id ≠ s.world.fresh py .session :=
    fun row hrow => h.rooted.sound.sessionIds row hrow _ (Nat.le_refl _)
  obtain ⟨s₁, hrun, hstore, -, hpending⟩ := run_newCandidate py tm (s := s) tenantId metadata hnew
  have hworking := h.toWorking.run tm (p := call (.createSession tenantId none none metadata))
    (.perform (.inl rfl) fun _ => trivial)
  rw [hrun] at hworking
  refine ⟨s₁, hrun, ?_, ?_, Store.hasSession_of_statusOf hpending, hstore, hworking⟩
  · rw [Prog.run_perform, timed_reads py tm s rfl (by simp)] at hrun
    exact (congrArg (fun x : _ × Ticking T => x.2.reading) hrun).symm
  · refine Bool.eq_false_iff.mpr fun hses => ?_
    obtain ⟨row, hrow, hid⟩ := Data.Table.find?_isSome.mp hses
    exact hnew row hrow hid

/-- What the channels are after a call for one: the channel has the row it had, or a new one for
the candidate. -/
structure Joined (key : String × String × String) (candidate : String)
    (channels channels' : Data.Table (ChannelRow T) ChannelRow.key) (sid : String) (created : Bool) : Prop where
  row : ∃ row, channels'.find? key = some row ∧ row.sessionId = sid
  others : ∀ key' ≠ key, channels'.find? key' = channels.find? key'
  rows : ∀ row ∈ channels', row ∈ channels ∨ row.sessionId = candidate
  known : created = false → ∃ row, channels.find? key = some row ∧ row.sessionId = sid
  fresh : created = true → channels.find? key = none ∧ sid = candidate

omit [Field T] [LinearOrder T] [IsStrictOrderedRing T] [FloorRing T] in
/-- **A channel call** on the tables. -/
theorem Store.joined {st : Store T} (platform channelId threadId : String) {cid : String}
    (hnew : ∀ row ∈ st.channels, row.id ≠ cid) (hses : st.hasSession sid = true)
    (hne : ∀ row ∈ st.channels, row.sessionId ≠ sid) (t : T) (initiator : String)
    (metadata : Json) :
    ∃ actualSid actualId created channels,
      st.getOrCreateChannel t cid platform channelId threadId sid initiator metadata =
        .ok ((actualSid, actualId, created), { st with channels }) ∧
      Joined (platform, channelId, threadId) sid st.channels channels actualSid created := by
  cases hfind : st.channels.find? (platform, channelId, threadId) with
  | some row =>
    have hmem := (Data.Table.find?_eq_some.mp hfind).1
    exact ⟨_, _, _, _, join_known hfind (hne row hmem) t cid initiator metadata, ⟨row, hfind, rfl⟩,
      fun _ _ => rfl, fun _ h => .inl h, fun _ => ⟨row, hfind, rfl⟩, nofun⟩
  | none =>
    obtain ⟨channels, hinsert, hok⟩ := join_new hfind hnew hses t initiator metadata
    have hrow := Data.Table.find?_of_insert? hinsert
    refine ⟨_, _, _, _, hok, ⟨_, (hrow _).trans (if_pos rfl), rfl⟩, fun key' hkey => ?_,
      fun row hmem => ?_, nofun, fun _ => ⟨hfind, rfl⟩⟩
    · exact (hrow key').trans (if_neg (Ne.symm hkey))
    · rcases (Data.Table.mem_of_insert? hinsert).mp hmem with hold | rfl
      · exact .inl hold
      · exact .inr rfl

/-! ### What a channel call leaves

The candidate has a lease, an event and no command, and it belongs to the channel if that is
new. The other sessions are as they were.
-/

structure Housed (key : String × String × String) (candidate : String) (lease : LeaseRow T)
    (st st' : Store T) (sid : String) (created : Bool) : Prop where
  strangers : ∀ row ∈ st.channels, row.sessionId ≠ candidate
  leases : ∀ sid, st'.sessionLeases.find? sid =
    if candidate = sid then some lease else st.sessionLeases.find? sid
  log : ∃ started : EventRow T, started.payload.isObj = true ∧ st'.eventsOf candidate = [started]
  inbox : st'.inboxOf candidate = []
  others : ∀ sid ≠ candidate, st.Untouched sid st'
  joined : Joined key candidate st.channels st'.channels sid created

section Housed

variable {key : String × String × String} {candidate : String} {lease : LeaseRow T}
  {st st' : Store T} {created : Bool} {n : ℕ}

omit [Field T] [LinearOrder T] [IsStrictOrderedRing T] [FloorRing T] in
theorem Housed.lease_of_known (h : Housed key candidate lease st st' sid created)
    {row : ChannelRow T} (hrow : row ∈ st.channels) :
    st'.sessionLeases.find? row.sessionId = st.sessionLeases.find? row.sessionId := by
  rw [h.leases, if_neg (Ne.symm (h.strangers row hrow))]

omit [Field T] [IsStrictOrderedRing T] [FloorRing T] in
theorem Housed.tidy (h : Housed key candidate lease st st' sid created) {n' : ℕ}
    (hsessions : ∀ sid, Tidy n now st sid) (hn : n ≤ n') (hone : 1 ≤ n') (sid : String) :
    Tidy n' now st' sid := by
  by_cases hsid : sid = candidate
  · subst hsid
    obtain ⟨started, hobj, hlog⟩ := h.log
    refine ⟨?_, ?_, fun _ _ _ => ?_⟩
    · rw [hlog, List.length_singleton]
      exact hone
    · rw [hlog]
      exact List.forall_mem_singleton.mpr hobj
    · rw [Store.pendingOf_eq_filter, h.inbox]
      rfl
  · exact (hsessions sid).untouched (h.others sid hsid) hn (le_refl _)

omit [Field T] [LinearOrder T] [IsStrictOrderedRing T] [FloorRing T] in
theorem Housed.leased (h : Housed key candidate lease st st' sid created)
    (hleased : ∀ row ∈ st.channels, (st.sessionLeases.find? row.sessionId).isSome = true) :
    ∀ row ∈ st'.channels, (st'.sessionLeases.find? row.sessionId).isSome = true := by
  intro row hrow
  rcases h.joined.rows row hrow with hold | hnew
  · rw [h.lease_of_known hold]
    exact hleased row hold
  · rw [h.leases, if_pos hnew.symm]
    rfl

variable (tm) in
omit [IsStrictOrderedRing T] [FloorRing T] in
/-- The session of the channel ends when the conversation does: with the lease it had, or with
the one of the candidate. -/
theorem Housed.found (h : Housed key candidate lease st st' sid created)
    (hleased : ∀ row ∈ st.channels, (st.sessionLeases.find? row.sessionId).isSome = true)
    (hends : st.endsOf key = b.ends key) (hexpires : lease.expiresAt = tm.now 1 + (3600 : ℤ)) :
    ∃ found, st'.sessionLeases.find? sid = some found ∧ found.expiresAt = b.closes tm key ∧
      (b.ends key).isSome = !created := by
  unfold Bot.closes
  cases created with
  | false =>
    obtain ⟨row, hrow, rfl⟩ := h.joined.known rfl
    have hmem := (Data.Table.find?_eq_some.mp hrow).1
    obtain ⟨found, hfound⟩ := Option.isSome_iff_exists.mp (hleased row hmem)
    have hend : b.ends key = some found.expiresAt := by
      rw [← hends]
      unfold Store.endsOf
      rw [hrow, Option.bind_some, hfound]
      rfl
    rw [hend]
    exact ⟨found, (h.lease_of_known hmem).trans hfound, rfl, rfl⟩
  | true =>
    obtain ⟨hnone, rfl⟩ := h.joined.fresh rfl
    have hend : b.ends key = none := by
      rw [← hends]
      unfold Store.endsOf
      rw [hnone]
      rfl
    rw [hend]
    exact ⟨lease, (h.leases _).trans (if_pos rfl), hexpires, rfl⟩

variable (tm) in
omit [IsStrictOrderedRing T] [FloorRing T] in
/-- The other conversations end when they did. -/
theorem Housed.ends (h : Housed key candidate lease st st' sid created)
    (hends : ∀ key, st.endsOf key = b.ends key) {found : LeaseRow T}
    (hfound : st'.sessionLeases.find? sid = some found)
    (hcloses : found.expiresAt = b.closes tm key) (key' : String × String × String) :
    st'.endsOf key' = (b.take tm key).ends key' := by
  unfold Store.endsOf Bot.take
  dsimp only
  by_cases hkey : key' = key
  · subst hkey
    obtain ⟨row, hrow, rfl⟩ := h.joined.row
    rw [hrow, Option.bind_some, hfound, Function.update_self, ← hcloses]
    rfl
  · rw [h.joined.others key' hkey, Function.update_of_ne hkey, ← hends key']
    unfold Store.endsOf
    cases hrow : st.channels.find? key' with
    | none => rfl
    | some row =>
      rw [Option.bind_some, Option.bind_some,
        h.lease_of_known (Data.Table.find?_eq_some.mp hrow).1]

omit [Field T] [IsStrictOrderedRing T] [FloorRing T] in
theorem Housed.log_le (h : Housed key candidate lease st st' sid created)
    (hsessions : ∀ sid, Tidy n now st sid) (hone : 1 ≤ n) : (st'.eventsOf sid).length ≤ n := by
  cases created with
  | false =>
    obtain ⟨row, hrow, rfl⟩ := h.joined.known rfl
    have hne := h.strangers row (Data.Table.find?_eq_some.mp hrow).1
    rw [(h.others row.sessionId hne).log]
    exact (hsessions row.sessionId).log
  | true =>
    obtain ⟨-, rfl⟩ := h.joined.fresh rfl
    obtain ⟨started, -, hlog⟩ := h.log
    rw [hlog, List.length_singleton]
    exact hone

end Housed

variable (tm) in
/-- A channel call enqueues nothing. -/
theorem ChannelRequest.run_inbox {request : ChannelRequest} {s' : Ticking T}
    {r : Except PyErr ChannelSession} (hrun : (request.run py).run (timed py tm) s = (r, s')) :
    s'.world.store.commandInbox = s.world.store.commandInbox := by
  have hcalls : (request.run py : Code T ChannelSession).Within
      (fun c => c.writes .inbox = false) fun _ => True := by
    refine request.run_calls py rfl (fun _ _ => rfl) (fun sid c hc => ?_)
      (fun _ _ _ _ _ _ => rfl) fun _ => rfl
    cases c <;> first | rfl | exact hc.elim fun _ h => h.elim
  exact agree_of_run py tm hcalls hrun fun _ hc => hc

variable (tm) in
/-- **A channel call** on the one host, while it has a slot. -/
theorem Conversing.run_join (h : Conversing py cwd now b s.world) (hstart : s.reading = 0)
    (htaken : b.taken < Bot.capacity) (request : ChannelRequest)
    (hinitiator : request.initiatorResourceId ≠ "") :
    ∃ actualSid actualId created s' lease,
      (request.run py).run (timed py tm) s = (.ok ⟨actualSid, actualId, created⟩, s') ∧
      s'.reading = (if created then 6 else 7) ∧
      s'.world.store.cellHosts.rows.map CellHostRow.capacityUsed = [b.taken + 1] ∧
      lease.expiresAt = tm.now 1 + (3600 : ℤ) ∧
      Housed request.key (s.world.fresh py .session) lease s.world.store s'.world.store actualSid
        created := by
  obtain ⟨host, hrows, hname, hready, htotal, hused⟩ := h.host
  obtain ⟨s₁, hcreate, hreading₁, hnobody, hses₁, ⟨sessions, hstore₁⟩, hworking₁⟩ :=
    h.candidate tm request.tenantId request.metadata.orEmpty
  set candidate := s.world.fresh py .session with hcandidate
  -- the candidate is placed
  obtain ⟨placement, s₂, token, started, hplace, hreading₂, hleases₂, hslots₂, hchannels₂, hobj,
      hlog₂⟩ := run_placeSession_local tm (localCelld cwd)
    (show s₁.world.store.cellHosts.rows = [host] by rw [hstore₁]; exact hrows) hready
    (by rw [htotal, hused]; exact_mod_cast htaken)
    (by rw [hworking₁.launched.callbacks, hname]; exact Function.update_self _ _ _) hses₁
  have hworking₂ := hworking₁.run tm
    ((Broker.placeSession_within py candidate).mono_calls fun _ hc => hc.settled)
  have hses₂ := run_hasSession py tm (Broker.placeSession py candidate) hses₁
  rw [hplace] at hworking₂ hses₂
  rw [hstore₁] at hleases₂ hlog₂ hchannels₂
  have hstrangers : ∀ row ∈ s.world.store.channels, row.sessionId ≠ candidate := by
    intro row hrow heq
    have hses := h.rooted.sound.channels row hrow
    rw [heq, hnobody] at hses
    cases hses
  -- the channel is looked up, or begins with the candidate
  obtain ⟨actualSid, actualId, created, channels, hfound, hjoined⟩ := Store.joined
    request.platform request.channelId request.threadId
    (fun row hrow => hworking₂.channelIds row hrow _ (Nat.le_refl _)) hses₂
    (fun row hrow => hstrangers row (hchannels₂ ▸ hrow)) (tm.now s₂.reading)
    request.initiatorResourceId request.metadata
  rw [hchannels₂] at hjoined
  obtain ⟨s', hguarded, hreading, hchannels, hhosts, hleases, hevents⟩ :=
    run_guarded request request.initiatorResourceId hplace hfound
  have hrun : (request.run py).run (timed py tm) s = (.ok ⟨actualSid, actualId, created⟩, s') := by
    have hresource : (Gateway.resourceId request.platform request.initiatorResourceId :
        Code T String) = .pure request.initiatorResourceId := if_neg hinitiator
    unfold ChannelRequest.run Gateway.getOrCreateChannelSession
    simp only [Prog.bind_eq]
    rw [hresource]
    exact (Prog.run_bind_ok _ hcreate).trans hguarded
  refine ⟨actualSid, actualId, created, s',
    Store.newLease (tm.now s₁.reading) token candidate host.id 3600, hrun, ?_, ?_, ?_,
    hstrangers, fun sid => ?_, ⟨started, hobj, ?_⟩, ?_, fun sid hsid => ?_, hchannels ▸ hjoined⟩
  · rw [hreading, hreading₂, hreading₁, hstart]
    cases created <;> rfl
  · rw [hhosts, hslots₂, hused]
  · show tm.now s₁.reading + ((3600 : Int) : T) = _
    rw [hreading₁, hstart]
  · rw [hleases, hleases₂]
    exact Data.Table.find?_replace _ _ _
  · rw [Store.eventsOf_congr hevents candidate]
    refine hlog₂.trans ?_
    show s.world.store.eventsOf candidate ++ _ = _
    rw [h.rooted.eventsOf_nil py hnobody, List.nil_append]
  · unfold Store.inboxOf
    rw [request.run_inbox tm hrun]
    exact h.rooted.inboxOf_nil py hnobody
  · have hfirst := (run_createSession_tenant py tm hcreate).2 sid hsid
    have hrest := run_untouched py tm (s := s₁) (guarded_about py request
      request.initiatorResourceId candidate) (fun _ _ h => h.elim) hsid
    rw [hguarded] at hrest
    exact hfirst.trans hrest

variable (tm) in
/-- **Finding** the session of a conversation: a slot is taken for the message, and the
conversation begins if it is new. -/
theorem Conversing.join (h : Conversing py cwd now b s.world) (hstart : s.reading = 0)
    (htaken : b.taken < Bot.capacity) (request : ChannelRequest)
    (hinitiator : request.initiatorResourceId ≠ "") :
    ∃ session s' lease, (request.run py).run (timed py tm) s = (.ok session, s') ∧
      s'.reading + 2 = b.looks request.key ∧
      Conversing py cwd now (b.take tm request.key) s'.world ∧
      s'.world.store.sessionLeases.find? session.sessionId = some lease ∧
      lease.expiresAt = b.closes tm request.key ∧
      (s'.world.store.eventsOf session.sessionId).length ≤ 2 * b.taken + 1 := by
  obtain ⟨actualSid, actualId, created, s', lease, hrun, hreading, hslots, hexpires, hhoused⟩ :=
    h.run_join tm hstart htaken request hinitiator
  obtain ⟨found, hfound, hcloses, hnew⟩ :=
    hhoused.found tm h.leased (h.ends request.key) hexpires
  have hworking := h.toWorking.run tm (request.run_calls py (.inl rfl) (fun _ _ => .inl rfl)
    (fun _ _ hc => hc.settled) (fun _ _ _ _ _ _ => .inl rfl) fun _ => .inl rfl)
  rw [hrun] at hworking
  have htidy : ∀ sid, Tidy (2 * (b.taken + 1) + 1) now s'.world.store sid :=
    hhoused.tidy h.sessions (by omega) (by omega)
  refine ⟨⟨actualSid, actualId, created⟩, s', found, hrun, ?_, ⟨hworking, hslots,
    hhoused.leased h.leased, hhoused.ends tm h.ends hfound hcloses, htidy⟩, hfound, hcloses,
    hhoused.log_le h.sessions (by omega)⟩
  unfold Bot.looks
  rw [hnew, hreading]
  cases created <;> rfl

variable (tm) in
/-- Without a slot there is no session to be found, and nothing happens. -/
theorem Conversing.full (h : Conversing py cwd now b s.world) (hfull : ¬ b.taken < Bot.capacity)
    (request : ChannelRequest) (hinitiator : request.initiatorResourceId ≠ "") :
    ∃ e s', (request.run py).run (timed py tm) s = (.error e, s') ∧
      Conversing py cwd now b s'.world := by
  obtain ⟨host, hrows, -, hready, htotal, hused⟩ := h.host
  obtain ⟨s₁, hcreate, -, -, -, ⟨sessions, hstore₁⟩, hworking₁⟩ :=
    h.candidate tm request.tenantId request.metadata.orEmpty
  have hchoose := Store.chooseCellHost_single
    (show s₁.world.store.cellHosts.rows = [host] by rw [hstore₁]; exact hrows) hready
  rw [htotal, hused, if_neg fun hlt => hfull (by exact_mod_cast hlt)] at hchoose
  obtain ⟨e, hchoose⟩ := hchoose
  -- placing raises before anything is written, and the candidate is abandoned
  have hplace : (Broker.placeSession py (s.world.fresh py .session)).run (timed py tm) s₁ =
      (.error e, s₁) := run_placeSession_unhosted py tm hchoose
  have hrun : (request.run py).run (timed py tm) s = (.error e,
      (timed py tm (.updateSessionStatus (s.world.fresh py .session) .abandoned) s₁).2) := by
    have hresource : (Gateway.resourceId request.platform request.initiatorResourceId :
        Code T String) = .pure request.initiatorResourceId := if_neg hinitiator
    unfold ChannelRequest.run Gateway.getOrCreateChannelSession
    simp only [Prog.bind_eq]
    rw [hresource]
    refine (Prog.run_bind_ok _ hcreate).trans ?_
    unfold Gateway.joinChannel
    simp only [Prog.bind_eq]
    rw [Prog.run_tryCatch, Prog.run_bind_error _ hplace]
    rfl
  have hworking := h.toWorking.run tm (request.run_calls py (.inl rfl) (fun _ _ => .inl rfl)
    (fun _ _ hc => hc.settled) (fun _ _ _ _ _ _ => .inl rfl) fun _ => .inl rfl)
  rw [hrun] at hworking
  refine ⟨e, _, hrun, hworking, ?_, ?_, ?_, fun sid => ?_⟩
  · show s₁.world.store.cellHosts.rows.map _ = _
    rw [hstore₁]
    exact h.slots
  · show ∀ row ∈ s₁.world.store.channels, (s₁.world.store.sessionLeases.find? _).isSome = true
    rw [hstore₁]
    exact h.leased
  · show ∀ key, s₁.world.store.endsOf key = _
    rw [hstore₁]
    exact h.ends
  · refine (h.sessions sid).congr ?_ ?_ ?_ (Nat.le_refl _) (le_refl _)
    · show s₁.world.store.eventsOf sid = _
      rw [hstore₁]
      rfl
    · show s₁.world.store.inboxOf sid = _
      rw [hstore₁]
      rfl
    · show s₁.world.store.sessionLeases.find? sid = _
      rw [hstore₁]

end Finding

end Nadi
