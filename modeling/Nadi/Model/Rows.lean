import Nadi.Model.Frame

/-!
# Rows that stay

No call deletes a session, a host or a lease, so what refers to one keeps doing
so; and the ids of sessions to come stay new.
-/

namespace Nadi

variable {T : Type}

/-- Leases are on sessions and hosts that exist. -/
def Store.Linked (st : Store T) : Prop :=
  ∀ l ∈ st.sessionLeases, st.hasSession l.sessionId = true ∧
    (st.cellHosts.find? l.cellHostId).isSome = true

/-- Commands are for sessions that exist. -/
def Store.Owned (st : Store T) : Prop :=
  ∀ c ∈ st.commandInbox, st.hasSession c.sessionId = true

/-- Claim tokens in use are tokens drawn. -/
def World.ClaimsDrawn (py : Py) (w : World T) : Prop :=
  ∀ c ∈ w.store.commandInbox, ∀ token, c.claimToken = some token →
    ∃ k < w.drawn .claimToken, token = py.uuid4 .claimToken k

section Stay

variable [Field T] [LinearOrder T] (py : Py) (c : Call T) {w : World T}

/-- Sessions are never deleted. -/
theorem exec_hasSession {sid : String} (h : w.store.hasSession sid = true) :
    (exec py c w).2.store.hasSession sid = true := by
  obtain ⟨s, hs, hid⟩ := Data.Table.find?_isSome.mp h
  cases c with
  | createSession =>
    refine World.commit_store (w := w.draw .session) (P := fun st => st.hasSession sid = true) h
      fun b st hr => ?_
    obtain ⟨-, sessions, hins, rfl⟩ := Store.createSession_ok hr
    exact Data.Table.find?_isSome.mpr ⟨s, (Data.Table.mem_of_insert? hins).mpr (.inl hs), hid⟩
  | updateSessionStatus sid' status =>
    have hstatus := w.store.statusOf_updateSessionStatus w.clock sid' sid status
    have hold := Store.statusOf_eq_some.mpr ⟨s, hs, hid, rfl⟩
    by_cases heq : sid = sid'
    · rw [if_pos heq, hold] at hstatus
      exact Store.hasSession_of_statusOf hstatus
    · rw [if_neg heq, hold] at hstatus
      exact Store.hasSession_of_statusOf hstatus
  | _ =>
    unfold Store.hasSession
    rw [exec_sessions py w rfl]
    exact h

omit c in
/-- A session that is created is a new one. -/
theorem exec_createSession_new {tenantId : String} {externalId profileBundle : Option String}
    {metadata : Json} {sid : String}
    (h : (exec py (.createSession tenantId externalId profileBundle metadata) w).1 = .ok sid) :
    w.store.hasSession sid = false := by
  obtain ⟨st, hok, -⟩ := World.commit_ok h
  obtain rfl := (Store.createSession_ok hok).1
  exact Bool.eq_false_iff.mpr fun hses => Store.createSession_new hok hses rfl

/-- Hosts are never deleted, nor given another name. -/
theorem exec_hostOf {id h : String} (hhost : w.store.hostOf id = some h) :
    (exec py c w).2.store.hostOf id = some h := by
  obtain ⟨host, hfind, rfl⟩ := Option.map_eq_some_iff.mp hhost
  cases c with
  | upsertCellHost hostId zone address capacityTotal metadata =>
    refine World.commit_store (w := w.draw .cellHost)
      (P := fun st => st.hostOf id = some host.hostId) hhost fun b st hr => ?_
    rcases Store.upsertCellHost_ok hr with ⟨known, -, -, -, rfl⟩ | ⟨-, -, cellHosts, hins, rfl⟩
    · refine (congrArg (Option.map CellHostRow.hostId)
        (Data.Table.find?_update w.store.cellHosts _
          (Store.refreshCellHost w.clock zone address capacityTotal metadata) (fun _ => rfl)
          id)).trans ?_
      rw [hfind]
      dsimp only [Option.map_some]
      split <;> rfl
    · exact congrArg (Option.map CellHostRow.hostId) (Data.Table.find?_eq_some.mpr
        ⟨(Data.Table.mem_of_insert? hins).mpr (.inl (Data.Table.find?_eq_some.mp hfind).1),
          (Data.Table.find?_eq_some.mp hfind).2⟩)
  | createLease sid cellHostId ttl =>
    refine World.commit_store (w := w.draw .leaseToken)
      (P := fun st => st.hostOf id = some host.hostId) hhost fun b st hr => ?_
    obtain ⟨-, -, -, rfl⟩ := Store.createLease_ok hr
    refine (congrArg (Option.map CellHostRow.hostId)
      (Data.Table.find?_update w.store.cellHosts _ (Store.takeSlot w.clock) (fun _ => rfl)
        id)).trans ?_
    rw [hfind]
    dsimp only [Option.map_some]
    split <;> rfl
  | _ =>
    unfold Store.hostOf
    rw [exec_hosts py w rfl]
    exact hhost

theorem exec_hasHost {id : String} (h : (w.store.cellHosts.find? id).isSome = true) :
    ((exec py c w).2.store.cellHosts.find? id).isSome = true := by
  obtain ⟨host, hhost⟩ := Option.isSome_iff_exists.mp h
  have hname := exec_hostOf py c (congrArg (Option.map CellHostRow.hostId) hhost)
  obtain ⟨host', hhost', -⟩ := Option.map_eq_some_iff.mp hname
  exact Option.isSome_iff_exists.mpr ⟨host', hhost'⟩

/-- No slot of a host is ever given back. -/
theorem exec_capacityOf {id : String} {n : ℕ} (h : w.store.capacityOf id = some n) :
    ∃ m, (exec py c w).2.store.capacityOf id = some m ∧ n ≤ m := by
  obtain ⟨host, hhost, rfl⟩ := Option.map_eq_some_iff.mp h
  cases c with
  | upsertCellHost hostId zone address capacityTotal metadata =>
    refine World.commit_store (w := w.draw .cellHost)
      (P := fun st => ∃ m, st.capacityOf id = some m ∧ host.capacityUsed ≤ m)
      ⟨_, h, Nat.le_refl _⟩ fun b st hr => ?_
    rcases Store.upsertCellHost_ok hr with ⟨known, -, -, -, rfl⟩ | ⟨-, -, cellHosts, hins, rfl⟩
    · refine ⟨_, (congrArg (Option.map CellHostRow.capacityUsed)
        (Data.Table.find?_update w.store.cellHosts _
          (Store.refreshCellHost w.clock zone address capacityTotal metadata) (fun _ => rfl)
          id)).trans ?_, Nat.le_refl _⟩
      rw [hhost]
      dsimp only [Option.map_some]
      split <;> rfl
    · refine ⟨_, congrArg (Option.map CellHostRow.capacityUsed) (Data.Table.find?_eq_some.mpr
        ⟨(Data.Table.mem_of_insert? hins).mpr (.inl (Data.Table.find?_eq_some.mp hhost).1),
          (Data.Table.find?_eq_some.mp hhost).2⟩), Nat.le_refl _⟩
  | createLease sid cellHostId ttl =>
    refine World.commit_store (w := w.draw .leaseToken)
      (P := fun st => ∃ m, st.capacityOf id = some m ∧ host.capacityUsed ≤ m)
      ⟨_, h, Nat.le_refl _⟩ fun b st hr => ?_
    rw [Store.createLease_capacityOf hr]
    split
    · exact ⟨_, congrArg (Option.map (· + 1)) h, Nat.le_succ _⟩
    · exact ⟨_, h, Nat.le_refl _⟩
  | _ =>
    unfold Store.capacityOf
    rw [exec_hosts py w rfl, hhost]
    exact ⟨_, rfl, Nat.le_refl _⟩

/-- Leases are never deleted. -/
theorem exec_hasLease {sid : String} (h : (w.store.sessionLeases.find? sid).isSome = true) :
    ((exec py c w).2.store.sessionLeases.find? sid).isSome = true := by
  cases c with
  | createLease sid' cellHostId ttl =>
    refine World.commit_store (w := w.draw .leaseToken)
      (P := fun st => (st.sessionLeases.find? sid).isSome = true) h fun b st hr => ?_
    rw [Store.createLease_lease hr]
    split
    · rfl
    · exact h
  | _ =>
    rw [exec_leases py w rfl]
    exact h

/-- Ids of sessions to come stay new. -/
theorem exec_sessionIds
    (h : ∀ s ∈ w.store.sessions, ∀ n, w.drawn .session ≤ n → s.id ≠ py.uuid4 .session n) :
    ∀ s ∈ (exec py c w).2.store.sessions, ∀ n, (exec py c w).2.drawn .session ≤ n →
      s.id ≠ py.uuid4 .session n := by
  intro s hs n hn
  have hdrawn := exec_drawn_le py (c := c) w .session
  cases c with
  | createSession tenantId externalId profileBundle metadata =>
    rw [exec_drawn] at hn
    have hn' : w.drawn .session + 1 ≤ n := by
      rw [← World.draw_self]
      exact hn
    have hold : ∀ s ∈ w.store.sessions, s.id ≠ py.uuid4 .session n :=
      fun s hs => h s hs n (by omega)
    refine World.commit_store (w := w.draw .session)
      (P := fun st => ∀ s ∈ st.sessions, s.id ≠ py.uuid4 .session n) hold
      (fun b st hr => ?_) s hs
    obtain ⟨-, sessions, hins, rfl⟩ := Store.createSession_ok hr
    intro s hs
    rcases (Data.Table.mem_of_insert? hins).mp hs with hs | rfl
    · exact hold s hs
    · intro heq
      have := (py.uuid4_inj heq).2
      omega
  | updateSessionStatus sid status =>
    obtain ⟨s₀, hs₀, hid⟩ := Store.mem_updateSessionStatus hs
    exact hid ▸ h s₀ hs₀ n hn
  | _ =>
    rw [exec_sessions py w rfl] at hs
    exact h s hs n (hdrawn.trans hn)

/-- So do ids of channels. -/
theorem exec_channelIds
    (h : ∀ row ∈ w.store.channels, ∀ n, w.drawn .channel ≤ n → row.id ≠ py.uuid4 .channel n) :
    ∀ row ∈ (exec py c w).2.store.channels, ∀ n, (exec py c w).2.drawn .channel ≤ n →
      row.id ≠ py.uuid4 .channel n := by
  intro row hrow n hn
  have hdrawn := exec_drawn_le py (c := c) w .channel
  cases c with
  | getOrCreateChannel platform channelId threadId sid initiator metadata =>
    rw [exec_drawn] at hn
    have hn' : w.drawn .channel + 1 ≤ n := by
      rw [← World.draw_self]
      exact hn
    have hold : ∀ row ∈ w.store.channels, row.id ≠ py.uuid4 .channel n :=
      fun row hrow => h row hrow n (by omega)
    refine World.commit_store (w := w.draw .channel)
      (P := fun st => ∀ row ∈ st.channels, row.id ≠ py.uuid4 .channel n) hold
      (fun b st hr => ?_) row hrow
    obtain ⟨hins, -⟩ := Store.getOrCreateChannel_ok hr
    rcases Store.insertChannel_ok hins with ⟨rfl, -⟩ | ⟨-, -, channels, hinsert, rfl⟩
    · exact hold
    · intro row hrow
      rcases (Data.Table.mem_of_insert? hinsert).mp hrow with hrow | rfl
      · exact hold row hrow
      · intro heq
        have := (py.uuid4_inj heq).2
        omega
  | _ =>
    rw [exec_channels py w rfl] at hrow
    exact h row hrow n (hdrawn.trans hn)

/-- Leases stay on sessions and hosts that exist. -/
theorem exec_linked (h : w.store.Linked) : (exec py c w).2.store.Linked := by
  have hold : ∀ l ∈ w.store.sessionLeases,
      (exec py c w).2.store.hasSession l.sessionId = true ∧
        ((exec py c w).2.store.cellHosts.find? l.cellHostId).isSome = true :=
    fun l hl => ⟨exec_hasSession py c (h l hl).1, exec_hasHost py c (h l hl).2⟩
  cases c with
  | createLease sid cellHostId ttl =>
    intro l hl
    have hcases : l ∈ w.store.sessionLeases ∨
        (w.store.hasSession l.sessionId = true ∧
          (w.store.cellHosts.find? l.cellHostId).isSome = true) := by
      refine World.commit_store (w := w.draw .leaseToken)
        (P := fun st => l ∈ st.sessionLeases → l ∈ w.store.sessionLeases ∨
          (w.store.hasSession l.sessionId = true ∧
            (w.store.cellHosts.find? l.cellHostId).isSome = true))
        (fun hl => .inl hl) (fun b st hr hl => ?_) hl
      obtain ⟨-, hses, hhost, rfl⟩ := Store.createLease_ok hr
      rcases Data.Table.mem_replace.mp hl with ⟨hl, -⟩ | rfl
      · exact .inl hl
      · exact .inr ⟨hses, hhost⟩
    rcases hcases with hl | ⟨hses, hhost⟩
    · exact hold l hl
    · exact ⟨exec_hasSession py _ hses, exec_hasHost py _ hhost⟩
  | _ =>
    intro l hl
    rw [exec_leases py w rfl] at hl
    exact hold l hl

/-- Commands stay with sessions that exist. -/
theorem exec_owned (h : w.store.Owned) : (exec py c w).2.store.Owned := by
  -- a command of the new inbox belongs to a session that existed
  have hold : ∀ row ∈ (exec py c w).2.store.commandInbox,
      w.store.hasSession row.sessionId = true := by
    cases c with
    | enqueueCommand sid commandType payload actor =>
      refine World.commit_store (w := w)
        (P := fun st => ∀ row ∈ st.commandInbox, w.store.hasSession row.sessionId = true) h
        fun b st hr row hrow => ?_
      obtain ⟨-, -, -, hses, rfl⟩ := Store.enqueueCommand_ok hr
      rcases List.mem_append.mp hrow with hrow | hrow
      · exact h row hrow
      · rw [List.mem_singleton.mp hrow]
        exact hses
    | claimPendingCommands sid claimedBy =>
      intro row hrow
      obtain ⟨row₀, hrow₀, rfl⟩ := List.mem_map.mp hrow
      split <;> exact h row₀ hrow₀
    | completeCommand id =>
      intro row hrow
      obtain ⟨row₀, hrow₀, rfl⟩ := List.mem_map.mp hrow
      split <;> exact h row₀ hrow₀
    | _ =>
      intro row hrow
      rw [exec_inbox py w rfl] at hrow
      exact h row hrow
  exact fun row hrow => exec_hasSession py c (hold row hrow)

/-- Claim tokens in use stay tokens drawn. -/
theorem exec_claimsDrawn (h : w.ClaimsDrawn py) : (exec py c w).2.ClaimsDrawn py := by
  have hle := exec_drawn_le py (c := c) w .claimToken
  intro row hrow token htoken
  -- the token is an old one, or the one this call has drawn
  suffices hcases : (∃ k < w.drawn .claimToken, token = py.uuid4 .claimToken k) ∨
      (w.drawn .claimToken < (exec py c w).2.drawn .claimToken ∧
        token = py.uuid4 .claimToken (w.drawn .claimToken)) by
    rcases hcases with ⟨k, hk, hold⟩ | ⟨hlt, hnew⟩
    · exact ⟨k, hk.trans_le hle, hold⟩
    · exact ⟨_, hlt, hnew⟩
  cases c with
  | enqueueCommand sid commandType payload actor =>
    refine World.commit_store (w := w)
      (P := fun st => row ∈ st.commandInbox → _) (fun hrow => .inl (h row hrow token htoken))
      (fun b st hr hrow => ?_) hrow
    obtain ⟨-, -, -, -, rfl⟩ := Store.enqueueCommand_ok hr
    rcases List.mem_append.mp hrow with hrow | hrow
    · exact .inl (h row hrow token htoken)
    · rw [List.mem_singleton.mp hrow] at htoken
      cases htoken
  | claimPendingCommands sid claimedBy =>
    obtain ⟨row₀, hrow₀, rfl⟩ := List.mem_map.mp hrow
    split at htoken
    · cases htoken
      refine .inr ⟨?_, rfl⟩
      rw [exec_drawn]
      exact (Nat.lt_succ_self _).trans_eq (World.draw_self _).symm
    · exact .inl (h row₀ hrow₀ token htoken)
  | completeCommand id =>
    obtain ⟨row₀, hrow₀, rfl⟩ := List.mem_map.mp hrow
    split at htoken <;> exact .inl (h row₀ hrow₀ token htoken)
  | _ =>
    rw [exec_inbox py w rfl] at hrow
    exact .inl (h row hrow token htoken)

/-- With tokens drawn, a claim takes what is pending in its session. -/
theorem exec_claimPendingCommands (h : w.ClaimsDrawn py) (sid claimedBy : String) :
    (exec py (.claimPendingCommands sid claimedBy) w).1 =
      .ok ((w.store.pendingOf sid).map
        (Store.claimRow w.clock claimedBy (w.fresh py .claimToken))) := by
  refine congrArg Except.ok (Store.claimPendingCommands_rows fun c hc htoken => ?_)
  obtain ⟨k, hk, heq⟩ := h c hc _ htoken
  have := (py.uuid4_inj heq).2
  omega

end Stay

end Nadi
