import Nadi.Model.Operations
import Nadi.Model.Rows
import Nadi.Model.Timed

/-!
# One session among others

What the store knows of a session: its row, its log, its inbox and its lease. A
call that is about one session (`Call.about`) leaves what is known of every other
as it is, and so do the programs that serve one session.
-/

namespace Nadi

open Effect

variable {T : Type}

namespace Store

/-- The commands of one session, in the order of their ids. -/
def inboxOf (st : Store T) (sid : String) : List (CommandRow T) :=
  st.commandInbox.select fun c => c.sessionId == sid

/-- The tenant of a session. -/
def tenantOf (st : Store T) (sid : String) : Option String :=
  (st.sessions.find? sid).map SessionRow.tenantId

theorem mem_inboxOf {st : Store T} {sid : String} {c : CommandRow T} :
    c ∈ st.inboxOf sid ↔ c ∈ st.commandInbox ∧ c.sessionId = sid := by
  unfold inboxOf
  rw [Data.Serial.mem_select]
  simp

theorem pendingOf_eq_filter (st : Store T) (sid : String) :
    st.pendingOf sid = (st.inboxOf sid).filter fun c => c.status == .pending := by
  unfold pendingOf inboxOf Data.Serial.select
  rw [List.filter_filter]
  exact List.filter_congr fun c _ => Bool.and_comm _ _

/-- What is known of a session is as it was. -/
structure Untouched (sid : String) (st st' : Store T) : Prop where
  row : st'.sessions.find? sid = st.sessions.find? sid
  log : st'.eventsOf sid = st.eventsOf sid
  inbox : st'.inboxOf sid = st.inboxOf sid
  lease : st'.sessionLeases.find? sid = st.sessionLeases.find? sid

namespace Untouched

variable {sid : String} {st st' st'' : Store T}

theorem refl (st : Store T) : Untouched sid st st := ⟨rfl, rfl, rfl, rfl⟩

theorem trans (h : Untouched sid st st') (h' : Untouched sid st' st'') :
    Untouched sid st st'' :=
  ⟨h'.row.trans h.row, h'.log.trans h.log, h'.inbox.trans h.inbox, h'.lease.trans h.lease⟩

theorem status (h : Untouched sid st st') : st'.statusOf sid = st.statusOf sid :=
  congrArg (Option.map SessionRow.status) h.row

theorem tenant (h : Untouched sid st st') : st'.tenantOf sid = st.tenantOf sid :=
  congrArg (Option.map SessionRow.tenantId) h.row

end Untouched

/-- The commands with these ids are commands of the session. -/
def Mine (sid : String) (ids : ℕ → Prop) (st : Store T) : Prop :=
  ∀ row ∈ st.commandInbox, ids row.id → row.sessionId = sid

theorem inboxOf_enqueueCommand {st st' : Store T} {t : T} {s commandType : String}
    {payload : Json} {actor : Option String} {n : ℕ}
    (h : st.enqueueCommand t s commandType payload actor = .ok (n, st')) (sid : String) :
    st'.inboxOf sid = st.inboxOf sid ++
      if s = sid then [newCommand t s commandType payload actor n] else [] := by
  obtain ⟨rfl, -, -, -, rfl⟩ := enqueueCommand_ok h
  refine (Data.Serial.select_push st.commandInbox _ (fun _ => rfl) _).trans ?_
  by_cases hs : s = sid <;> simp [inboxOf, newCommand, hs]

/-- An accepted command waits after the others. -/
theorem pendingOf_enqueue {st st' : Store T} {t : T} {s commandType : String} {payload : Json}
    {actor : Option String} {n : ℕ}
    (h : st.enqueueCommand t s commandType payload actor = .ok (n, st')) (sid : String) :
    st'.pendingOf sid = st.pendingOf sid ++
      if s = sid then [newCommand t s commandType payload actor n] else [] := by
  rw [pendingOf_eq_filter, pendingOf_eq_filter, inboxOf_enqueueCommand h, List.filter_append]
  split <;> rfl

theorem inboxOf_claimPendingCommands (st : Store T) (t : T) (token s by' sid : String) :
    (st.claimPendingCommands t token s by').2.inboxOf sid = (st.inboxOf sid).map fun c =>
      if c.sessionId == s && c.status == .pending then claimRow t by' token c else c :=
  Data.Serial.select_update_map st.commandInbox _ (claimRow t by' token) (fun _ => rfl) fun _ => rfl

theorem inboxOf_completeCommand (st : Store T) (t : T) (id : ℕ) (sid : String) :
    (st.completeCommand t id).inboxOf sid = (st.inboxOf sid).map fun c =>
      if c.id == id then completeRow t c else c :=
  Data.Serial.select_update_map st.commandInbox _ (completeRow t) (fun _ => rfl) fun _ => rfl

end Store

/-- The calls that are about one session only. Commands are completed by their
ids, of which `ids` are those of the session. -/
def Call.about (sid : String) (ids : ℕ → Prop) : Call T → Prop
  | .createSession .. => False
  | .updateSessionStatus s _ => s = sid
  | .appendEvent s .. => s = sid
  | .enqueueCommand s .. => s = sid
  | .claimPendingCommands s _ => s = sid
  | .completeCommand id => ids id
  | .createLease s .. => s = sid
  | _ => True

section Calls

variable [Field T] [LinearOrder T] (py : Py) {c : Call T} {w : World T} {sid sid' : String}
  {ids : ℕ → Prop}

/-- A call about a session enqueues for no other. -/
theorem exec_mine (hc : c.about sid ids) (h : w.store.Mine sid ids) :
    (exec py c w).2.store.Mine sid ids := by
  cases c with
  | enqueueCommand s commandType payload actor =>
    obtain rfl : s = sid := hc
    refine World.commit_store (w := w) (P := fun st => st.Mine s ids) h fun b st hr => ?_
    obtain ⟨-, -, -, -, rfl⟩ := Store.enqueueCommand_ok hr
    intro row hrow hid
    rcases List.mem_append.mp hrow with hrow | hrow
    · exact h row hrow hid
    · rw [List.mem_singleton.mp hrow]
      rfl
  | claimPendingCommands | completeCommand =>
    intro row hrow
    obtain ⟨row₀, hrow₀, rfl⟩ := List.mem_map.mp hrow
    split <;> exact h row₀ hrow₀
  | _ =>
    unfold Store.Mine
    rw [exec_inbox py w rfl]
    exact h

/-- **A call about one session** leaves the others as they are. -/
theorem exec_untouched (hc : c.about sid ids) (h : w.store.Mine sid ids) (hne : sid' ≠ sid) :
    w.store.Untouched sid' (exec py c w).2.store := by
  cases c with
  | createSession => exact hc.elim
  | updateSessionStatus s status =>
    obtain rfl : s = sid := hc
    refine ⟨?_, rfl, rfl, rfl⟩
    refine (Data.Table.find?_update w.store.sessions _
      (fun r => { r with status, updatedAt := w.clock }) (fun _ => rfl) sid').trans ?_
    cases hfind : w.store.sessions.find? sid' with
    | none => rfl
    | some row =>
      have hid : row.id = sid' := (Data.Table.find?_eq_some.mp hfind).2
      simp [hid, hne]
  | appendEvent s eventType payload actor =>
    obtain rfl : s = sid := hc
    refine World.commit_store (w := w) (P := fun st => w.store.Untouched sid' st) (.refl _)
      fun b st hr => ?_
    have hlog := Store.eventsOf_append hr sid'
    rw [if_neg hne] at hlog
    obtain ⟨-, -, rfl⟩ := Store.appendEvent_ok hr
    exact ⟨rfl, hlog, rfl, rfl⟩
  | enqueueCommand s commandType payload actor =>
    obtain rfl : s = sid := hc
    refine World.commit_store (w := w) (P := fun st => w.store.Untouched sid' st) (.refl _)
      fun b st hr => ?_
    have hinbox := Store.inboxOf_enqueueCommand hr sid'
    rw [if_neg (Ne.symm hne), List.append_nil] at hinbox
    obtain ⟨-, -, -, -, rfl⟩ := Store.enqueueCommand_ok hr
    exact ⟨rfl, rfl, hinbox, rfl⟩
  | claimPendingCommands s claimedBy =>
    obtain rfl : s = sid := hc
    refine ⟨rfl, rfl, (Store.inboxOf_claimPendingCommands ..).trans ?_, rfl⟩
    refine (List.map_congr_left fun row hrow => ?_).trans (List.map_id _)
    have hsid := (Store.mem_inboxOf.mp hrow).2
    simp [hsid, hne]
  | completeCommand id =>
    refine ⟨rfl, rfl, (Store.inboxOf_completeCommand ..).trans ?_, rfl⟩
    refine (List.map_congr_left fun row hrow => ?_).trans (List.map_id _)
    obtain ⟨hrow, hsid⟩ := Store.mem_inboxOf.mp hrow
    -- the command is one of the session's, so it is none of these
    have hid : row.id ≠ id := fun heq => hne (hsid.symm.trans (h row hrow (heq ▸ hc)))
    simp [hid]
  | createLease s cellHostId ttl =>
    obtain rfl : s = sid := hc
    refine World.commit_store (w := w.draw .leaseToken) (P := fun st => w.store.Untouched sid' st)
      (.refl _) fun b st hr => ?_
    have hlease := Store.createLease_lease hr sid'
    rw [if_neg (Ne.symm hne)] at hlease
    obtain ⟨-, -, -, rfl⟩ := Store.createLease_ok hr
    exact ⟨rfl, rfl, rfl, hlease⟩
  | _ =>
    refine ⟨?_, ?_, ?_, ?_⟩
    · rw [exec_sessions py w rfl]
    · unfold Store.eventsOf
      rw [exec_events py w rfl]
    · unfold Store.inboxOf
      rw [exec_inbox py w rfl]
    · rw [exec_leases py w rfl]

/-- The rows a claim returns are the session's. -/
theorem exec_claim_mine {claimedBy : String} {commands : List (CommandRow T)}
    (hdrawn : w.ClaimsDrawn py)
    (h : (exec py (.claimPendingCommands sid claimedBy) w).1 = .ok commands) :
    (exec py (.claimPendingCommands sid claimedBy) w).2.store.Mine sid
      fun id => ∃ cmd ∈ commands, cmd.id = id := by
  rw [exec_claimPendingCommands py hdrawn sid claimedBy] at h
  obtain rfl := Except.ok.inj h
  rintro row hrow ⟨cmd, hcmd, hid⟩
  obtain ⟨pending, hpending, rfl⟩ := List.mem_map.mp hcmd
  obtain ⟨hmem, hsid, -⟩ := Store.mem_pendingOf.mp hpending
  obtain ⟨row₀, hrow₀, rfl⟩ := List.mem_map.mp hrow
  have hsame : row₀.id = pending.id := by
    split at hid <;> exact hid.symm
  rw [Data.Serial.eq_of_id hrow₀ hmem hsame]
  split <;> exact hsid

/-- Commands are never deleted. -/
theorem exec_inboxOf_length (c : Call T) (w : World T) (sid : String) :
    (w.store.inboxOf sid).length ≤ ((exec py c w).2.store.inboxOf sid).length := by
  cases c with
  | enqueueCommand s commandType payload actor =>
    refine World.commit_store (w := w)
      (P := fun st => (w.store.inboxOf sid).length ≤ (st.inboxOf sid).length) (Nat.le_refl _)
      fun b st hr => ?_
    rw [Store.inboxOf_enqueueCommand hr, List.length_append]
    exact Nat.le_add_right _ _
  | claimPendingCommands s claimedBy =>
    have hinbox := Store.inboxOf_claimPendingCommands w.store w.clock (w.fresh py .claimToken) s
      claimedBy sid
    exact Nat.le_of_eq ((List.length_map _).symm.trans (congrArg List.length hinbox.symm))
  | completeCommand id =>
    have hinbox := Store.inboxOf_completeCommand w.store w.clock id sid
    exact Nat.le_of_eq ((List.length_map _).symm.trans (congrArg List.length hinbox.symm))
  | _ =>
    unfold Store.inboxOf
    rw [exec_inbox py w rfl]

/-- The tenant of a session never changes. -/
theorem exec_tenantOf (c : Call T) (h : w.store.hasSession sid = true) :
    (exec py c w).2.store.tenantOf sid = w.store.tenantOf sid := by
  obtain ⟨s, hs, hid⟩ := Data.Table.find?_isSome.mp h
  have hfind := Data.Table.find?_eq_some.mpr ⟨hs, hid⟩
  cases c with
  | createSession tenantId externalId profileBundle metadata =>
    refine World.commit_store (w := w.draw .session)
      (P := fun st => st.tenantOf sid = w.store.tenantOf sid) rfl fun b st hr => ?_
    obtain ⟨-, sessions, hins, rfl⟩ := Store.createSession_ok hr
    refine congrArg (Option.map SessionRow.tenantId) (Eq.trans ?_ hfind.symm)
    exact Data.Table.find?_eq_some.mpr ⟨(Data.Table.mem_of_insert? hins).mpr (.inl hs), hid⟩
  | updateSessionStatus s' status =>
    refine (congrArg (Option.map SessionRow.tenantId)
      (Data.Table.find?_update w.store.sessions _
        (fun r => { r with status, updatedAt := w.clock }) (fun _ => rfl) sid)).trans ?_
    unfold Store.tenantOf
    rw [hfind]
    dsimp only [Option.map_some]
    split <;> rfl
  | _ =>
    unfold Store.tenantOf
    rw [exec_sessions py w rfl]

end Calls

/-! ## Programs -/

section Programs

variable {c : Call T} {celld : Celld} {sid : String} {ids : ℕ → Prop}

theorem Call.ofCell.about (h : c.ofCell celld sid) : c.about sid ids := by
  cases c <;> trivial

theorem Call.ofLoop.about (h : c.ofLoop celld sid ids) : c.about sid ids := by
  cases c with
  | completeCommand => exact h
  | appendEvent => exact h.elim (fun h => h) fun h => h.elim
  | createSession | updateSessionStatus | enqueueCommand | claimPendingCommands | createLease =>
    exact (h.elim (fun h => h) fun h => h).elim
  | _ => trivial

theorem Call.ofRouting.about (h : c.ofRouting sid) : c.about sid ids := by
  cases c <;> trivial

theorem Call.ofDestruction.about (h : c.ofDestruction celld sid) : c.about sid ids := by
  cases c <;> first | trivial | exact h.1

theorem Call.ofCreation.about (h : c.ofCreation celld sid) : c.about sid ids := by
  cases c <;> first | trivial | exact h.1

theorem Call.ofPlacement.about (h : c.ofPlacement sid) : c.about sid ids := by
  cases c with
  | createLease => exact h
  | createSession | updateSessionStatus | appendEvent | enqueueCommand | claimPendingCommands |
      completeCommand => exact h.elim fun _ h => h.about
  | _ => trivial

variable [Field T] [LinearOrder T] [IsStrictOrderedRing T] [FloorRing T] (py : Py) (sid : String)

theorem Broker.placeSession_about :
    (placeSession py sid : Code T Placement).Within (Call.about sid ids) fun _ => True :=
  (placeSession_within py sid).mono_calls fun _ h => h.about

end Programs

/-! ## Runs -/

section Runs

variable [Field T] [LinearOrder T] (py : Py) (tm : Timing T) {s : Ticking T}
  {sid sid' : String} {ids : ℕ → Prop} {α : Type} {post : α → Prop} {p : Code T α}

/-- A run about one session leaves the others as they are. -/
theorem run_untouched (hp : p.Within (Call.about sid ids) post) (h : s.world.store.Mine sid ids)
    (hne : sid' ≠ sid) : s.world.store.Untouched sid' (p.run (timed py tm) s).2.world.store := by
  refine And.right (run_timed_store py tm s hp
    (I := fun w => w.store.Mine sid ids ∧ s.world.store.Untouched sid' w.store) ?_ ?_
    ⟨h, .refl _⟩)
  · exact fun _ _ _ h => h
  · rintro c w hc ⟨hmine, hun⟩
    exact ⟨exec_mine py hc hmine, hun.trans (exec_untouched py hc hmine hne)⟩

/-- No run deletes commands. -/
theorem run_inboxOf_length (p : Code T α) (sid : String) :
    (s.world.store.inboxOf sid).length ≤
      ((p.run (timed py tm) s).2.world.store.inboxOf sid).length := by
  refine run_timed_store py tm s (.any p)
    (I := fun w => (s.world.store.inboxOf sid).length ≤ (w.store.inboxOf sid).length) ?_ ?_
    (Nat.le_refl _)
  · exact fun _ _ _ h => h
  · exact fun c w _ h => h.trans (exec_inboxOf_length py c w sid)

/-- No run deletes a session. -/
theorem run_hasSession (p : Code T α) (h : s.world.store.hasSession sid = true) :
    (p.run (timed py tm) s).2.world.store.hasSession sid = true :=
  run_timed_store py tm s (.any p) (I := fun w => w.store.hasSession sid = true) (fun _ _ _ h => h)
    (fun c _ _ h => exec_hasSession py c h) h

/-- A run that draws nothing at a site leaves its next id. -/
theorem run_fresh {site : IdSite} (hp : p.Within (fun d => d.draws ≠ some site) post) :
    (p.run (timed py tm) s).2.world.fresh py site = s.world.fresh py site := by
  have hdrawn := run_timed_store py tm s hp (I := fun w => w.drawn site = s.world.drawn site)
    (fun _ _ _ h => h) (fun d w hd h => (exec_drawn_of_ne py w hd).trans h) rfl
  exact congrArg (py.uuid4 site) hdrawn

/-- No run changes the tenant of a session. -/
theorem run_tenantOf (p : Code T α) (h : s.world.store.hasSession sid = true) :
    (p.run (timed py tm) s).2.world.store.tenantOf sid = s.world.store.tenantOf sid := by
  refine And.right (run_timed_store py tm s (.any p)
    (I := fun w => w.store.hasSession sid = true ∧
      w.store.tenantOf sid = s.world.store.tenantOf sid) ?_ ?_ ⟨h, rfl⟩)
  · exact fun _ _ _ h => h
  · exact fun c w _ h => ⟨exec_hasSession py c h.1, (exec_tenantOf py c h.1).trans h.2⟩

theorem run_claimsDrawn (p : Code T α) (h : s.world.ClaimsDrawn py) :
    (p.run (timed py tm) s).2.world.ClaimsDrawn py :=
  run_timed_store py tm s (.any p) (I := fun w => w.ClaimsDrawn py) (fun _ _ _ h => h)
    (fun c _ _ h => exec_claimsDrawn py c h) h

/-- A run leaves a session as it is if its two parts do. -/
theorem untouched_bind {β : Type} {f : α → Code T β}
    (hp : s.world.store.Untouched sid' (p.run (timed py tm) s).2.world.store)
    (hf : ∀ a s', p.run (timed py tm) s = (.ok a, s') →
      s'.world.store.Untouched sid' ((f a).run (timed py tm) s').2.world.store) :
    s.world.store.Untouched sid' ((p.bind f).run (timed py tm) s).2.world.store := by
  rcases hrun : p.run (timed py tm) s with ⟨_ | a, s'⟩
  · rw [Prog.run_bind_error _ hrun]
    rw [hrun] at hp
    exact hp
  · rw [Prog.run_bind_ok _ hrun]
    rw [hrun] at hp
    exact hp.trans (hf a s' hrun)

/-- The rows a claim returns are the session's. -/
theorem run_claim_mine {claimedBy : String} {commands : List (CommandRow T)} {s' : Ticking T}
    (hdrawn : s.world.ClaimsDrawn py)
    (hrun : (call (.claimPendingCommands sid claimedBy)).run (timed py tm) s =
      (.ok commands, s')) :
    s'.world.store.Mine sid fun id => ∃ cmd ∈ commands, cmd.id = id := by
  rw [Prog.run_perform, timed_reads py tm s rfl (by simp)] at hrun
  obtain ⟨hcommands, rfl⟩ := Prod.mk.inj hrun
  exact exec_claim_mine py (w := s.ready tm) hdrawn hcommands

variable [IsStrictOrderedRing T] [FloorRing T]

/-- **Consuming the commands of one session** leaves the others as they are. -/
theorem consumeCommands_untouched (c : Celld) (hdrawn : s.world.ClaimsDrawn py)
    (hne : sid' ≠ sid) :
    s.world.store.Untouched sid'
      ((c.consumeCommands py sid).run (timed py tm) s).2.world.store := by
  have hnone : ∀ st : Store T, st.Mine sid fun _ => False := fun _ _ _ h => h.elim
  refine untouched_bind py tm (run_untouched py tm ((c.liveCell_within py sid).mono_calls
    fun _ h => h.about) (hnone _) hne)
    fun cell s₁ hlive => ?_
  have hclaim : (call (.claimPendingCommands sid c.hostId) : Code T _).Within
      (Call.about sid fun _ => False) fun _ => True := .perform rfl fun _ => trivial
  refine untouched_bind py tm (run_untouched py tm hclaim (hnone _) hne) fun commands s₂ hrun => ?_
  have hdrawn₁ := run_claimsDrawn py tm (c.liveCell py sid) hdrawn
  rw [hlive] at hdrawn₁
  exact run_untouched py tm ((c.consumeLoop_within py sid cell.jwt commands).mono_calls
    fun _ h => h.about)
    (run_claim_mine py tm hdrawn₁ hrun) hne

/-- **Sending to one session** leaves the others as they are. -/
theorem sendCommand_untouched (hdrawn : s.world.ClaimsDrawn py) (commandType : String)
    (payload : Json) (actor : Option String) (hne : sid' ≠ sid) :
    s.world.store.Untouched sid'
      ((Gateway.sendCommand py sid commandType payload actor).run (timed py tm)
        s).2.world.store := by
  have hnone : ∀ st : Store T, st.Mine sid fun _ => False := fun _ _ _ h => h.elim
  refine untouched_bind py tm (run_untouched py tm ((Gateway.route_within sid).mono_calls
    fun _ h => h.about) (hnone _) hne)
    fun route s₁ hroute => ?_
  have henqueue : (call (.enqueueCommand sid commandType payload.orEmpty actor) : Code T _).Within
      (Call.about sid fun _ => False) fun _ => True := .perform rfl fun _ => trivial
  refine untouched_bind py tm (run_untouched py tm henqueue (hnone _) hne)
    fun commandId s₂ hid => ?_
  refine untouched_bind py tm (run_untouched py tm ((Broker.celldForRoute_within sid).mono_calls
    fun _ h => h.about) (hnone _) hne)
    fun celld s₃ hcelld => ?_
  have hdrawn₁ := run_claimsDrawn py tm (Gateway.route sid) hdrawn
  rw [hroute] at hdrawn₁
  have hdrawn₂ := run_claimsDrawn py tm (call (.enqueueCommand sid commandType payload.orEmpty
    actor)) hdrawn₁
  rw [hid] at hdrawn₂
  have hdrawn₃ := run_claimsDrawn py tm (Broker.celldForRoute sid) hdrawn₂
  rw [hcelld] at hdrawn₃
  refine untouched_bind py tm (consumeCommands_untouched py tm celld hdrawn₃ hne)
    fun events s₄ _ => .refl _

end Runs

end Nadi
