import Nadi.ChannelLookup
import Nadi.Model.Operations
import Nadi.Model.Rows

/-!
# Routes of channel sessions

A channel row is for ever, the lease of its session is for an hour. Every
channel row is written for a session that its caller has leased (`joinRole`), so
in every state that operations reach it has a lease on a host that exists
(`RouteInv`); whether a lookup gives a session with an active route is then a
question of time alone (`channel_route_iff`).
-/

namespace Nadi

open Effect

variable {T ι : Type}

/-! ## States that operations reach -/

/-- A thread joins a channel only with a session it has leased. -/
def joinRole : Role (List String) (Call T) Call.Ret PyErr where
  init := []
  may q
    | .getOrCreateChannel _ _ _ sid _ _ => sid ∈ q
    | _ => True
  next q
    | .createLease sid _ _, .ok _ => sid :: q
    | _, _ => q

/-- Ids of sessions to come are new; leases are on sessions and hosts that
exist; what a thread has leased, and what a channel row points to, has a lease. -/
structure RouteInv (py : Py) (q : ι → List String) (w : World T) : Prop where
  sessionIds : ∀ s ∈ w.store.sessions, ∀ n, w.drawn .session ≤ n → s.id ≠ py.uuid4 .session n
  leases : w.store.Linked
  leased : ∀ i, ∀ sid ∈ q i, (w.store.sessionLeases.find? sid).isSome = true
  channels : ∀ row ∈ w.store.channels,
    (w.store.sessionLeases.find? row.sessionId).isSome = true

namespace RouteInv

variable [DecidableEq ι] [Field T] [LinearOrder T] {py : Py} {q : ι → List String} {w : World T}
  {i : ι}

/-- One permitted call. -/
theorem call (h : RouteInv py q w) {c : Call T} (hmay : joinRole.may (q i) c) :
    RouteInv py (Function.update q i (joinRole.next (q i) c (exec py c w).1))
      (exec py c w).2 where
  sessionIds := exec_sessionIds py c h.sessionIds
  leases := exec_linked py c h.leases
  leased := by
    intro j sid hsid
    by_cases hj : j = i
    · subst hj
      rw [Function.update_self] at hsid
      cases c with
      | createLease sid' cellHostId ttl =>
        cases hres : (exec py (.createLease sid' cellHostId ttl) w).1 with
        | error e =>
          rw [hres] at hsid
          exact exec_hasLease py _ (h.leased j sid hsid)
        | ok token =>
          rw [hres] at hsid
          -- what it has leased is the session of this lease, or an earlier one
          rcases List.mem_cons.mp hsid with rfl | hold
          · obtain ⟨st, hok, hst⟩ := World.commit_ok hres
            show ((World.commit _ _).2.store.sessionLeases.find? sid).isSome = true
            rw [hst]
            show (st.sessionLeases.find? sid).isSome = true
            rw [Store.createLease_lease hok, if_pos rfl]
            rfl
          · exact exec_hasLease py _ (h.leased j sid hold)
      | _ => exact exec_hasLease py _ (h.leased j sid hsid)
    · rw [Function.update_of_ne hj] at hsid
      exact exec_hasLease py c (h.leased j sid hsid)
  channels := by
    cases c with
    | getOrCreateChannel platform channelId threadId sid initiator metadata =>
      intro row hrow
      have hcases : row ∈ w.store.channels ∨ row.sessionId = sid := by
        refine World.commit_store (w := w.draw .channel)
          (P := fun st => row ∈ st.channels → row ∈ w.store.channels ∨ row.sessionId = sid)
          (fun hrow => .inl hrow) (fun answer st hr hrow => ?_) hrow
        rcases Store.insertChannel_ok (Store.getOrCreateChannel_ok hr).1 with
          ⟨rfl, -⟩ | ⟨-, -, channels, hins, rfl⟩
        · exact .inl hrow
        · rcases (Data.Table.mem_of_insert? hins).mp hrow with hold | rfl
          · exact .inl hold
          · exact .inr rfl
      rcases hcases with hold | rfl
      · exact exec_hasLease py _ (h.channels row hold)
      · exact exec_hasLease py _ (h.leased i _ hmay)
    | _ =>
      intro row hrow
      rw [exec_channels py w rfl] at hrow
      exact exec_hasLease py _ (h.channels row hrow)

end RouteInv

section Plays

variable [Field T] [LinearOrder T] [IsStrictOrderedRing T] [FloorRing T] (py : Py)

omit [Field T] [LinearOrder T] [IsStrictOrderedRing T] [FloorRing T] in
/-- What a thread has leased it has leased. -/
theorem joinRole_next_mono {q : List String} {sid : String} (h : sid ∈ q) (c : Call T)
    (r : Except PyErr c.Ret) : sid ∈ joinRole.next q c r := by
  cases c with
  | createLease =>
    cases r with
    | ok token => exact List.mem_cons_of_mem _ h
    | error e => exact h
  | _ => exact h

omit [IsStrictOrderedRing T] [FloorRing T] in
/-- A program that joins no channel plays. -/
theorem plays_noJoin {α : Type} {value : α → Prop} {p : Code T α}
    (hp : p.Within Call.noJoin value) (q : List String) :
    joinRole.Plays (exec py) (fun q' _ => ∀ sid ∈ q, sid ∈ q') p q := by
  induction p generalizing q with
  | pure a => exact fun _ h => h
  | throw e => exact fun _ h => h
  | call c k ih =>
    refine ⟨?_, fun s => (ih _ (hp.2 _) _).weaken fun _ _ h sid hsid =>
      h sid (joinRole_next_mono hsid c _)⟩
    have hno : c.noJoin := hp.1
    cases c <;> trivial

/-- A session that has been placed has been leased. -/
theorem plays_placeSession_leased (sid : String) (q : List String) :
    joinRole.Plays (exec py) (fun q' r => ∀ a, r = .ok a → sid ∈ q')
      (Broker.placeSession py sid : Code T Placement) q := by
  refine .perform_bind trivial (fun _ host _ => ?_) fun _ _ _ _ h => nomatch h
  refine .perform_bind trivial (fun _ lease _ => ?_) fun _ _ _ _ h => nomatch h
  -- the lease is taken, and the rest joins no channel
  refine (plays_noJoin py (?_ : Prog.Within Call.noJoin (fun _ => True) _) _).weaken
    fun _ _ h _ _ => h sid (List.mem_cons_self ..)
  refine .bind (.perform trivial fun _ => trivial) fun found _ => ?_
  cases found with
  | none => trivial
  | some createCell =>
    exact .bind (Broker.runCallback_noJoin py sid createCell) fun _ _ => trivial

/-- A channel call joins with the session it has placed. -/
theorem plays_request (request : ChannelRequest) (q : List String) :
    joinRole.Plays (exec py) (fun _ _ => True) (request.run py : Code T ChannelSession) q := by
  have hresource : (Gateway.resourceId request.platform request.initiatorResourceId :
      Code T String).Within Call.noJoin fun _ => True := by
    unfold Gateway.resourceId
    split
    · exact .bind (.perform trivial fun _ => trivial) fun _ _ => trivial
    · trivial
  refine (plays_noJoin py hresource q).bind (fun q resourceId _ => ?_) fun _ _ _ => trivial
  refine .perform_bind trivial (fun _ sid _ => ?_) fun _ _ _ => trivial
  have hjoin : ∀ q, joinRole.Plays (exec py) (fun _ _ => True)
      (Gateway.joinChannel py request.platform request.channelId request.threadId resourceId
        request.metadata sid : Code T ChannelSession) q := by
    intro q
    refine (plays_placeSession_leased py sid _).bind (fun q placement hq => ?_)
      fun _ _ _ => trivial
    refine .perform_bind (hq placement rfl) (fun _ answer _ => ?_) fun _ _ _ => trivial
    obtain ⟨actualSid, cid, created⟩ := answer
    cases created with
    | true => trivial
    | false => exact .perform_bind trivial (fun _ _ _ => trivial) fun _ _ _ => trivial
  refine (hjoin _).tryCatch (fun _ _ _ => trivial) fun q e _ => ?_
  exact .perform_bind trivial (fun _ _ _ => trivial) fun _ _ _ => trivial

/-- Operations join channels only with sessions they have leased. -/
theorem plays_runOperations (ops : List Operation) (q : List String) :
    joinRole.Plays (exec py) (fun _ _ => True) (runOperations py ops : Code T Unit) q := by
  induction ops generalizing q with
  | nil => trivial
  | cons op rest ih =>
    have hop : joinRole.Plays (exec py) (fun _ _ => True) (op.code py : Code T Unit) q := by
      by_cases hchannel : ∃ request, op = .channelSession request
      · obtain ⟨request, rfl⟩ := hchannel
        exact (plays_request py request q).bind (fun _ _ _ => trivial) fun _ _ _ => trivial
      · exact (plays_noJoin py (Operation.code_noJoin py fun r hr => hchannel ⟨r, hr⟩) q).weaken
          fun _ _ _ => trivial
    have hserved : joinRole.Plays (exec py) (fun _ _ => True)
        ((op.code py : Code T Unit).tryCatch fun _ => .pure ()) q :=
      hop.tryCatch (fun _ _ _ => trivial) fun _ _ _ => trivial
    exact hserved.bind (fun q _ _ => ih q) fun _ _ _ => trivial

variable [DecidableEq ι]

/-- The invariant in every state that operations reach. -/
theorem routeInv_reach {ops : ι → List Operation} {clock : T} {files : Files}
    {cfg : Threads ι T Unit}
    (hr : Reach (system ι py) (.start (fun i => runOperations py (ops i)) (.init clock files))
      cfg) :
    ∃ q, RouteInv py (q : ι → List String) cfg.point.state := by
  refine ⟨Role.localAt (fun _ : ι => joinRole) cfg.point.trace, ?_⟩
  have hplay : Role.AllPlay (fun _ : ι => joinRole) (exec py) (fun _ _ _ => True)
      (.start (fun i => runOperations py (ops i)) (.init clock files)) :=
    fun i => plays_runOperations py (ops i) _
  refine Role.roles_invariant
    (P := fun p => RouteInv py (Role.localAt (fun _ : ι => joinRole) p.trace) p.state)
    hplay hr ?_ ?_ ?_
  · exact ⟨fun _ h => (nomatch h), fun _ h => (nomatch h), fun _ _ h => (nomatch h),
      fun _ h => (nomatch h)⟩
  · intro p i c hp hmay _
    have hnext := Role.localAt_after (fun _ : ι => joinRole) (exec py) p i c
    show RouteInv py (Role.localAt (fun _ : ι => joinRole) (p.after (exec py) i c).trace) _
    rw [hnext]
    exact hp.call hmay
  · rintro p _ hp ⟨t, f, -, rfl⟩
    exact ⟨hp.sessionIds, hp.leases, hp.leased, hp.channels⟩

end Plays

/-! ## The lookup -/

/-- A lease for an hour that was made between two times. -/
structure LeaseRow.MadeBetween [Field T] [LinearOrder T] (t t' : T) (l : LeaseRow T) : Prop where
  after : t ≤ l.createdAt
  before : l.createdAt ≤ t'
  ends : l.expiresAt = l.createdAt + 3600

theorem LeaseRow.MadeBetween.wait [Field T] [LinearOrder T] {t t' t'' : T} {l : LeaseRow T}
    (h : l.MadeBetween t t') (hle : t' ≤ t'') : l.MadeBetween t t'' :=
  ⟨h.after, h.before.trans hle, h.ends⟩

/-- During a lookup that began in `w₀`: other sessions keep their leases, the
candidate once leased has an hour from then on, and the row of the key is the one
there was or the one this call has written. -/
structure LookupInv (w₀ : World T) [Field T] [LinearOrder T] (key : String × String × String)
    (q : Phase) (w : World T) : Prop where
  clock : w₀.clock ≤ w.clock
  drawn : w₀.drawn .session ≤ w.drawn .session
  hosts : ∀ id, (w₀.store.cellHosts.find? id).isSome = true →
    (w.store.cellHosts.find? id).isSome = true
  candidate : ∀ sid, q.candidate = some sid → w₀.store.hasSession sid = false
  others : ∀ sid, q.candidate ≠ some sid →
    w.store.sessionLeases.find? sid = w₀.store.sessionLeases.find? sid
  leased : ∀ sid, q.candidate = some sid → q.IsLeased → ∃ l,
    w.store.sessionLeases.find? sid = some l ∧ l.MadeBetween w₀.clock w.clock ∧
      (w.store.cellHosts.find? l.cellHostId).isSome = true
  known : ∀ row, w₀.store.channels.find? key = some row → w.store.channels.find? key = some row
  fresh : w₀.store.channels.find? key = none → ∀ row, w.store.channels.find? key = some row →
    q = .joined row.sessionId row.sessionId row.id true
  answered : ∀ a, q.answer = some a → w.store.Answers key a

namespace LookupInv

variable [Field T] [LinearOrder T] {py : Py} {w₀ w : World T} {key : String × String × String}
  {q q' : Phase}

theorem start : LookupInv w₀ key .start w₀ where
  clock := le_refl _
  drawn := Nat.le_refl _
  hosts := fun _ h => h
  candidate := fun _ h => nomatch h
  others := fun _ _ => rfl
  leased := fun _ h => nomatch h
  known := fun _ h => h
  fresh := fun hnone _ hrow => nomatch hnone.symm.trans hrow
  answered := fun _ h => nomatch h

/-- A call that leases nothing and joins nothing, in a phase with the same
candidate and answer that claims no lease it did not have. -/
theorem keep (h : LookupInv w₀ key q w) {c : Call T} (hleases : c.writes .leases = false)
    (hchannels : c.writes .channels = false)
    (hopen : ∀ sid a cid, q ≠ .joined sid a cid true)
    (hcand : q'.candidate = q.candidate) (hans : q'.answer = q.answer)
    (hq : q'.IsLeased → q.IsLeased) : LookupInv w₀ key q' (exec py c w).2 where
  clock := by
    rw [(exec_passive py w).1]
    exact h.clock
  drawn := h.drawn.trans (exec_drawn_le py w _)
  hosts := fun id hid => exec_hasHost py c (h.hosts id hid)
  candidate := hcand ▸ h.candidate
  others := by
    rw [exec_leases py w hleases, hcand]
    exact h.others
  leased := by
    intro sid hsid hleased
    obtain ⟨l, hl, hmade, hhost⟩ := h.leased sid (hcand ▸ hsid) (hq hleased)
    rw [exec_leases py w hleases, (exec_passive py w).1]
    exact ⟨l, hl, hmade, exec_hasHost py c hhost⟩
  known := by
    rw [exec_channels py w hchannels]
    exact h.known
  fresh := by
    rw [exec_channels py w hchannels]
    exact fun hnone row hrow => absurd (h.fresh hnone row hrow) (hopen _ _ _)
  answered := by
    intro a ha
    unfold Store.Answers
    rw [exec_channels py w hchannels]
    exact h.answered a (hans ▸ ha)

/-- Creating the candidate: its id is new. -/
theorem create (h : LookupInv w₀ key .start w)
    (hids : ∀ s ∈ w₀.store.sessions, ∀ n, w₀.drawn .session ≤ n → s.id ≠ py.uuid4 .session n)
    (tenantId : String) (metadata : Json) :
    LookupInv w₀ key
      (Phase.next .start (.createSession tenantId none none metadata)
        (exec py (.createSession tenantId none none metadata) w).1)
      (exec py (.createSession tenantId none none metadata) w).2 := by
  cases hres : (exec py (.createSession tenantId none none metadata) w).1 with
  | error e =>
    exact h.keep rfl rfl (fun _ _ _ hq => nomatch hq) rfl rfl fun hq => hq
  | ok sid =>
    have hkeep : LookupInv w₀ key .start
        (exec py (.createSession tenantId none none metadata) w).2 :=
      h.keep rfl rfl (fun _ _ _ hq => nomatch hq) rfl rfl fun hq => hq
    have hsid : sid = py.uuid4 .session (w.drawn .session) := by
      obtain ⟨st, hok, -⟩ := World.commit_ok hres
      exact (Store.createSession_ok hok).1
    have hnew : w₀.store.hasSession sid = false := by
      rw [← Bool.not_eq_true]
      intro hhas
      obtain ⟨s, hs, hid⟩ := Data.Table.find?_isSome.mp hhas
      exact hids s hs _ h.drawn (hid.trans hsid)
    exact
      { hkeep with
        candidate := fun sid' hsid' => Option.some.inj hsid' ▸ hnew
        others := fun sid' _ => hkeep.others sid' fun hq => nomatch hq
        leased := fun _ _ hq => hq.elim
        fresh := fun hnone row hrow => nomatch hkeep.fresh hnone row hrow
        answered := fun _ ha => nomatch ha }

/-- Leasing the candidate: the lease runs for an hour from now. -/
theorem lease {sid : String} (h : LookupInv w₀ key (.created sid) w) (cellHostId : String) :
    LookupInv w₀ key
      (Phase.next (.created sid) (.createLease sid cellHostId 3600)
        (exec py (.createLease sid cellHostId 3600) w).1)
      (exec py (.createLease sid cellHostId 3600) w).2 := by
  have hdrawn := h.drawn.trans (exec_drawn_le py (c := .createLease sid cellHostId 3600) w _)
  have hhosts : ∀ id, (w₀.store.cellHosts.find? id).isSome = true →
      ((exec py (.createLease sid cellHostId 3600) w).2.store.cellHosts.find? id).isSome = true :=
    fun id hid => exec_hasHost py _ (h.hosts id hid)
  have hchan := exec_channels (c := .createLease sid cellHostId 3600) py w rfl
  have hclock : w₀.clock ≤ (exec py (.createLease sid cellHostId 3600) w).2.clock := by
    rw [(exec_passive py w).1]
    exact h.clock
  cases hres : (exec py (.createLease sid cellHostId 3600) w).1 with
  | error e =>
    have hstate : (exec py (.createLease sid cellHostId 3600) w).2 = w.draw .leaseToken :=
      (World.commit_error hres).2
    rw [hstate] at hdrawn ⊢
    exact
      { clock := h.clock
        drawn := hdrawn
        hosts := h.hosts
        candidate := h.candidate
        others := h.others
        leased := h.leased
        known := h.known
        fresh := h.fresh
        answered := h.answered }
  | ok token =>
    obtain ⟨st, hok, hst⟩ := World.commit_ok hres
    have hstore : (exec py (.createLease sid cellHostId 3600) w).2.store = st :=
      congrArg World.store hst
    have hfind := Store.createLease_lease hok
    rw [← hstore] at hfind
    have hhost := (Store.createLease_ok hok).2.2.1
    -- the candidate has a lease now, and the other sessions have those they had
    show LookupInv w₀ key (.leased sid) _
    exact
      { clock := hclock
        drawn := hdrawn
        hosts := hhosts
        candidate := h.candidate
        others := by
          intro sid' hne
          rw [hfind, if_neg fun heq => hne (congrArg some heq)]
          exact h.others sid' hne
        leased := by
          intro sid' hsid' _
          cases hsid'
          refine ⟨_, (hfind sid).trans (if_pos rfl), ⟨h.clock, ?_, ?_⟩, exec_hasHost py _ hhost⟩
          · rw [(exec_passive py w).1]
            exact le_refl _
          · show w.clock + ((3600 : Int) : T) = w.clock + 3600
            rw [Int.cast_ofNat]
        known := by
          rw [hchan]
          exact h.known
        fresh := by
          rw [hchan]
          exact fun hnone row hrow => nomatch h.fresh hnone row hrow
        answered := fun _ ha => nomatch ha }

/-- Joining the channel: its row stays, or names the candidate. -/
theorem join {sid : String} (h : LookupInv w₀ key (.started sid) w) (initiator : String)
    (metadata : Json) :
    LookupInv w₀ key
      (Phase.next (.started sid)
        (.getOrCreateChannel key.1 key.2.1 key.2.2 sid initiator metadata)
        (exec py (.getOrCreateChannel key.1 key.2.1 key.2.2 sid initiator metadata) w).1)
      (exec py (.getOrCreateChannel key.1 key.2.1 key.2.2 sid initiator metadata) w).2 := by
  have hdrawn := h.drawn.trans (exec_drawn_le py
    (c := .getOrCreateChannel key.1 key.2.1 key.2.2 sid initiator metadata) w _)
  cases hres : (exec py (.getOrCreateChannel key.1 key.2.1 key.2.2 sid initiator metadata) w).1
    with
  | error e =>
    have hstate : (exec py
        (.getOrCreateChannel key.1 key.2.1 key.2.2 sid initiator metadata) w).2 =
        w.draw .channel := (World.commit_error hres).2
    rw [hstate] at hdrawn ⊢
    exact
      { clock := h.clock
        drawn := hdrawn
        hosts := h.hosts
        candidate := h.candidate
        others := h.others
        leased := h.leased
        known := h.known
        fresh := h.fresh
        answered := h.answered }
  | ok answer =>
    obtain ⟨actualSid, cid, created⟩ := answer
    obtain ⟨st, hok, hst⟩ := World.commit_ok hres
    obtain ⟨hins, row, hfind, rfl, rfl, hcreated⟩ := Store.getOrCreateChannel_ok hok
    have hstate : (exec py
        (.getOrCreateChannel key.1 key.2.1 key.2.2 sid initiator metadata) w).2 =
        { w.draw .channel with store := st } := hst
    show LookupInv w₀ key (.joined sid row.sessionId row.id created) _
    rw [hstate] at hdrawn ⊢
    rcases Store.insertChannel_ok hins with ⟨rfl, -⟩ | ⟨-, -, channels, hinsert, rfl⟩
    · -- the row of the key was there, and is what is answered
      exact
        { clock := h.clock
          drawn := hdrawn
          hosts := h.hosts
          candidate := h.candidate
          others := h.others
          leased := fun sid' hsid' _ => h.leased sid' hsid' trivial
          known := h.known
          fresh := fun hnone row' hrow' => nomatch h.fresh hnone row' hrow'
          answered := fun a ha => Option.some.inj ha ▸ ⟨row, hfind, rfl, rfl⟩ }
    · -- the row is new, so there was none for the key
      have hself : channels.find? key = some (Store.newChannel w.clock (w.fresh py .channel)
          key.1 key.2.1 key.2.2 sid initiator metadata) := by
        rw [Data.Table.find?_of_insert? hinsert]
        exact if_pos rfl
      obtain rfl := Option.some.inj (hself.symm.trans hfind)
      have htrue : created = true := by
        rw [hcreated]
        simp [Store.newChannel]
      subst htrue
      exact
        { clock := h.clock
          drawn := hdrawn
          hosts := h.hosts
          candidate := h.candidate
          others := h.others
          leased := fun sid' hsid' _ => h.leased sid' hsid' trivial
          known := by
            intro row hrow
            obtain ⟨hmem, hkey⟩ := Data.Table.find?_eq_some.mp (h.known row hrow)
            exact Data.Table.find?_eq_some.mpr
              ⟨(Data.Table.mem_of_insert? hinsert).mpr (.inl hmem), hkey⟩
          fresh := fun _ row hrow => Option.some.inj (hself.symm.trans hrow) ▸ rfl
          answered := fun a ha => Option.some.inj ha ▸ ⟨_, hfind, rfl, rfl⟩ }

/-- **One call of a lookup.** -/
theorem call (h : LookupInv w₀ key q w)
    (hids : ∀ s ∈ w₀.store.sessions, ∀ n, w₀.drawn .session ≤ n → s.id ≠ py.uuid4 .session n)
    {c : Call T} (hmay : ChannelMay key q c) :
    LookupInv w₀ key (q.next c (exec py c w).1) (exec py c w).2 := by
  cases hmay with
  | create tenantId metadata => exact h.create hids tenantId metadata
  | lease sid cellHostId => exact h.lease cellHostId
  | run sid => exact h.keep rfl rfl (fun _ _ _ hq => nomatch hq) rfl rfl fun hq => hq
  | report sid payload =>
    cases hres : (exec py (.appendEvent sid "session.started" payload none) w).1 with
    | ok ev => exact h.keep rfl rfl (fun _ _ _ hq => nomatch hq) rfl rfl fun _ => trivial
    | error e => exact h.keep rfl rfl (fun _ _ _ hq => nomatch hq) rfl rfl fun hq => hq
  | join sid initiator metadata => exact h.join initiator metadata
  | abandon hq =>
    refine h.keep rfl rfl (fun sid a cid hj => ?_) (Phase.candidate_abandon q)
      (Phase.answer_abandon q) fun hleased => ?_
    · rw [hj] at hq
      cases hq
    · exact Phase.isLeased_of_abandon hleased
  | quiet hq hc =>
    rw [Phase.next_of_quiet _ hc]
    have hquiet : c.writes .leases = false ∧ c.writes .channels = false := by
      cases c <;> first | exact ⟨rfl, rfl⟩ | exact hc.elim
    refine h.keep hquiet.1 hquiet.2 (fun sid a cid hj => ?_) rfl rfl fun hleased => hleased
    rw [hj] at hq
    rcases hq with hq | hq
    · cases hq
    · cases hq

end LookupInv

/-! ## What a lookup gives -/

section Lookups

variable [Field T] [LinearOrder T] [IsStrictOrderedRing T] [FloorRing T] (py : Py)

/-- The invariant along a lookup. -/
theorem lookupInv_reach {w₀ : World T} {request : ChannelRequest}
    {cfg : Threads Unit T ChannelSession}
    (hids : ∀ s ∈ w₀.store.sessions, ∀ n, w₀.drawn .session ≤ n → s.id ≠ py.uuid4 .session n)
    (hr : Reach (system Unit py) (.start (fun _ => request.run py) w₀) cfg) :
    LookupInv w₀ request.key (phasesAt (fun _ : Unit => request) cfg.point.trace ())
      cfg.point.state := by
  refine Role.roles_invariant
    (P := fun p => LookupInv w₀ request.key
      (phasesAt (fun _ : Unit => request) p.trace ()) p.state)
    (channel_plays py (fun _ : Unit => request) w₀) hr .start ?_ ?_
  · rintro p i c hp hmay -
    show LookupInv w₀ request.key
      (phasesAt (fun _ : Unit => request) (p.after (exec py) i c).trace ()) _
    rw [phasesAt_after, Function.update_self]
    exact hp.call hids hmay
  · rintro p _ hp ⟨t, f, hle, rfl⟩
    exact
      { hp with
        clock := hp.clock.trans hle
        leased := fun sid hsid hleased => by
          obtain ⟨l, hl, hmade, hhost⟩ := hp.leased sid hsid hleased
          exact ⟨l, hl, hmade.wait hle, hhost⟩ }

/-- **A channel lookup gives an active route exactly until a lease expires.** In
every state that operations reach, let a lookup return a session, at that moment
or any later one before the next operation. If the channel was known, its
session has a lease, and has an active route if and only if the clock has not
reached the expiry of that lease. If it was not, the session has a lease that was
made during the lookup, for an hour, and the same holds of its expiry. -/
theorem channel_route_iff [DecidableEq ι] {ops : ι → List Operation} {clock : T} {files : Files}
    {cfg : Threads ι T Unit} {request : ChannelRequest} {cfg' : Threads Unit T ChannelSession}
    {a : ChannelSession}
    (hr : Reach (system ι py) (.start (fun i => runOperations py (ops i)) (.init clock files))
      cfg)
    (hr' : Reach (system Unit py) (.start (fun _ => request.run py) cfg.point.state) cfg')
    (ha : cfg'.threads () = .pure a) :
    (∀ row, cfg.point.state.store.channels.find? request.key = some row →
      ∃ l, cfg.point.state.store.sessionLeases.find? row.sessionId = some l ∧
        ((cfg'.point.state.store.getRoute cfg'.point.state.clock a.sessionId).isSome = true ↔
          cfg'.point.state.clock < l.expiresAt)) ∧
    (cfg.point.state.store.channels.find? request.key = none →
      ∃ l, cfg'.point.state.store.sessionLeases.find? a.sessionId = some l ∧
        l.MadeBetween cfg.point.state.clock cfg'.point.state.clock ∧
        ((cfg'.point.state.store.getRoute cfg'.point.state.clock a.sessionId).isSome = true ↔
          cfg'.point.state.clock < l.expiresAt)) := by
  obtain ⟨held, hroutes⟩ := routeInv_reach py hr
  have hlook := lookupInv_reach py hroutes.sessionIds hr'
  have hends : ChannelEnds (phasesAt (fun _ : Unit => request) cfg'.point.trace ()) (.ok a) :=
    ((channel_plays py (fun _ : Unit => request) _).reach hr').returned ha
  have hanswer : (phasesAt (fun _ : Unit => request) cfg'.point.trace ()).answer =
      some (a.sessionId, a.channelId) := by
    obtain ⟨sid, ⟨hq, -⟩ | ⟨hq, -⟩⟩ := hends
    · rw [hq]
      rfl
    · rw [hq]
      rfl
  obtain ⟨row', hrow', hsid, -⟩ := hlook.answered _ hanswer
  dsimp only at hsid
  constructor
  · intro row hrow
    obtain rfl := Option.some.inj ((hlook.known row hrow).symm.trans hrow')
    have hmem := (Data.Table.find?_eq_some.mp hrow).1
    obtain ⟨l, hl⟩ := Option.isSome_iff_exists.mp (hroutes.channels row hmem)
    obtain ⟨hlmem, hlid⟩ := Data.Table.find?_eq_some.mp hl
    obtain ⟨hses, hhost⟩ := hroutes.leases l hlmem
    -- the session of the row is not the candidate, so its lease is untouched
    have hother : (phasesAt (fun _ : Unit => request) cfg'.point.trace ()).candidate ≠
        some row.sessionId := by
      intro hcand
      have hno := hlook.candidate _ hcand
      rw [← hlid, hses] at hno
      cases hno
    refine ⟨l, hl, ?_⟩
    rw [← hsid]
    exact Store.getRoute_isSome ((hlook.others _ hother).trans hl) (hlook.hosts _ hhost)
  · intro hnone
    have hphase := hlook.fresh hnone row' hrow'
    obtain ⟨l, hl, hmade, hhost⟩ := hlook.leased row'.sessionId (by rw [hphase]; rfl)
      (by rw [hphase]; trivial)
    rw [← hsid]
    exact ⟨l, hl, hmade, Store.getRoute_isSome hl hhost⟩

end Lookups

/-- An hour after the first message on a channel, the next one is given a session
without a route: its command is refused. -/
theorem known_channel_without_route :
    let w : World ℚ := { knownChannel with clock := 3600 }
    let looked := (sampleRequest.run Py.sample).run (exec Py.sample) w
    knownChannel.clock ≤ w.clock ∧
      (knownChannel.store.getRoute knownChannel.clock "s").isSome = true ∧
      looked.1.toOption = some ⟨"s", "c", false⟩ ∧
      (looked.2.store.getRoute looked.2.clock "s").isSome = false ∧
      ((Gateway.sendCommand Py.sample "s" "echo" .empty none).run (exec Py.sample)
        looked.2).1.toOption.isSome = false := by
  decide +kernel

/-- The second message of a running stack on its one channel. -/
theorem channel_route_iff_sample :
    let ops : List Operation := [
      .registerCellHost "cell-local" "local" "inproc://cell" 100 (.celld (localCelld []))
        (some (localCelld [])),
      .channelSession sampleRequest]
    let cfg := execute (exec Py.sample) (List.replicate 40 ())
      (.start (fun _ => runOperations Py.sample ops) (.init (0 : ℚ) Sample.files))
    let cfg' := execute (exec Py.sample) (List.replicate 40 ())
      (.start (fun _ => sampleRequest.run Py.sample) cfg.point.state)
    ∃ l, cfg.point.state.store.sessionLeases.find? "s" = some l ∧
      ((cfg'.point.state.store.getRoute cfg'.point.state.clock "s").isSome = true ↔
        cfg'.point.state.clock < l.expiresAt) := by
  intro ops cfg cfg'
  have hr : Reach (system Unit Py.sample)
      (.start (fun i => runOperations Py.sample ((fun _ : Unit => ops) i))
        (.init (0 : ℚ) Sample.files)) cfg :=
    reach_execute (fun _ _ _ => trivial) _ _
  have hr' : Reach (system Unit Py.sample)
      (.start (fun _ => sampleRequest.run Py.sample) cfg.point.state) cfg' :=
    reach_execute (fun _ _ _ => trivial) _ _
  have hval : (cfg'.threads ()).value? = some ⟨"s", "c", false⟩ := by decide +kernel
  have hrow : (cfg.point.state.store.channels.find? sampleRequest.key).map
      ChannelRow.sessionId = some "s" := by decide +kernel
  obtain ⟨row, hrow, hsid⟩ := Option.map_eq_some_iff.mp hrow
  have hroute := (channel_route_iff Py.sample hr hr' (Prog.eq_pure_of_value? hval)).1 row hrow
  rw [hsid] at hroute
  exact hroute

end Nadi
