import Nadi.Channels

/-!
# What a channel lookup costs

A channel call places a candidate session before it asks the channel, and
nothing gives the candidate's slot back. Looking up a channel that exists thus
takes a slot each time (`lookup_takes_slot`), and fails when there is none.
-/

namespace Nadi

open Effect

variable {T : Type}

/-- What a lookup of a known channel should do: give the session of its row, and
leave slots, active leases and live cells as they are. -/
structure LookupIdempotent [LT T] (row : ChannelRow T) (w : World T)
    (cfg : Threads Unit T ChannelSession) : Prop where
  returned : cfg.threads () = .pure ⟨row.sessionId, row.id, false⟩
  slots : ∀ id, cfg.point.state.store.capacityOf id = w.store.capacityOf id
  leases : ∀ l, cfg.point.state.clock < l.expiresAt →
    (l ∈ cfg.point.state.store.sessionLeases ↔ l ∈ w.store.sessionLeases)
  cells : ∀ ref sid, (cfg.point.state.cells ref sid).isSome = (w.cells ref sid).isSome

/-- Slots of the hosts known at the start are only ever taken, and one of them
has been once the candidate is leased. -/
structure SlotInv (w₀ : World T) (q : Phase) (w : World T) : Prop where
  known : ∀ id, w₀.store.capacityOf id = none → w.store.capacityOf id = none
  grown : ∀ id n, w₀.store.capacityOf id = some n →
    ∃ m, w.store.capacityOf id = some m ∧ n ≤ m
  taken : q.IsLeased → ∃ id n m, w₀.store.capacityOf id = some n ∧
    w.store.capacityOf id = some m ∧ n < m

namespace SlotInv

variable {w₀ w w' : World T} {q q' : Phase}

theorem start (w₀ : World T) : SlotInv w₀ .start w₀ :=
  ⟨fun _ h => h, fun _ n h => ⟨n, h, Nat.le_refl n⟩, fun h => h.elim⟩

/-- Hosts that stay as they are keep the invariant in a phase that claims no more. -/
theorem frame (h : SlotInv w₀ q w) (hhosts : w'.store.cellHosts = w.store.cellHosts)
    (hq : q'.IsLeased → q.IsLeased) : SlotInv w₀ q' w' := by
  have hcap : ∀ id, w'.store.capacityOf id = w.store.capacityOf id := by
    intro id
    unfold Store.capacityOf
    rw [hhosts]
  constructor
  · intro id hid
    rw [hcap]
    exact h.known id hid
  · intro id n hid
    rw [hcap]
    exact h.grown id n hid
  · intro hleased
    obtain ⟨id, n, m, hn, hm, hlt⟩ := h.taken (hq hleased)
    exact ⟨id, n, m, hn, (hcap id).trans hm, hlt⟩

variable [Field T] [LinearOrder T] {py : Py}

/-- Leasing the candidate takes a slot. -/
theorem lease (h : SlotInv w₀ q w) (sid cellHostId : String)
    (hq : q'.IsLeased → q.IsLeased ∨
      ∃ token, (exec py (.createLease sid cellHostId 3600) w).1 = .ok token) :
    SlotInv w₀ q' (exec py (.createLease sid cellHostId 3600) w).2 := by
  have hexec : exec py (.createLease sid cellHostId 3600) w = (w.draw .leaseToken).commit
      (w.store.createLease w.clock (w.fresh py .leaseToken) sid cellHostId 3600) := rfl
  rw [hexec] at hq ⊢
  cases hres : w.store.createLease w.clock (w.fresh py .leaseToken) sid cellHostId 3600 with
  | error e =>
    rw [hres] at hq
    refine h.frame rfl fun hleased => ?_
    rcases hq hleased with hold | ⟨token, htoken⟩
    · exact hold
    · cases htoken
  | ok out =>
    obtain ⟨token, st⟩ := out
    have hcap := Store.createLease_capacityOf hres
    have hhost : ∃ m, w.store.capacityOf cellHostId = some m := by
      have hfound := (Store.createLease_ok hres).2.2.1
      unfold Store.capacityOf
      obtain ⟨host, hhost⟩ := Option.isSome_iff_exists.mp hfound
      exact ⟨host.capacityUsed, by rw [hhost]; rfl⟩
    show SlotInv w₀ q' { w.draw .leaseToken with store := st }
    refine ⟨fun id hid => ?_, fun id n hid => ?_, fun _ => ?_⟩
    · show st.capacityOf id = none
      rw [hcap, h.known id hid]
      split <;> rfl
    · obtain ⟨m, hm, hle⟩ := h.grown id n hid
      show ∃ m, st.capacityOf id = some m ∧ n ≤ m
      rw [hcap, hm]
      by_cases hc : id = cellHostId
      · rw [if_pos hc]
        exact ⟨m + 1, rfl, Nat.le_succ_of_le hle⟩
      · rw [if_neg hc]
        exact ⟨m, rfl, hle⟩
    · obtain ⟨m, hm⟩ := hhost
      cases hn : w₀.store.capacityOf cellHostId with
      | none => exact nomatch hm.symm.trans (h.known _ hn)
      | some n =>
        obtain ⟨m', hm', hle⟩ := h.grown _ n hn
        obtain rfl := Option.some.inj (hm.symm.trans hm')
        refine ⟨cellHostId, n, m + 1, hn, ?_, Nat.lt_succ_of_le hle⟩
        show st.capacityOf cellHostId = some (m + 1)
        rw [hcap, if_pos rfl, hm]
        rfl

/-- One call of a channel call. -/
theorem call (h : SlotInv w₀ q w) {key : String × String × String} {c : Call T}
    (hmay : ChannelMay key q c) :
    SlotInv w₀ (q.next c (exec py c w).1) (exec py c w).2 := by
  cases hmay with
  | create tenantId metadata =>
    refine h.frame (exec_hosts py w rfl) ?_
    cases (exec py (.createSession tenantId none none metadata) w).1 <;> exact fun hq => hq.elim
  | lease sid cellHostId =>
    refine h.lease sid cellHostId ?_
    cases (exec py (.createLease sid cellHostId 3600) w).1 with
    | ok token => exact fun _ => .inr ⟨token, rfl⟩
    | error e => exact fun hq => .inl hq
  | run sid => exact h.frame (exec_hosts py w rfl) fun hq => hq
  | report sid payload =>
    refine h.frame (exec_hosts py w rfl) ?_
    cases (exec py (.appendEvent sid "session.started" payload none) w).1 <;> exact fun hq => hq
  | join sid initiator metadata =>
    refine h.frame (exec_hosts py w rfl) ?_
    cases (exec py (.getOrCreateChannel key.1 key.2.1 key.2.2 sid initiator metadata) w).1 <;>
      exact fun hq => hq
  | abandon hq =>
    exact h.frame (exec_hosts py w rfl) fun hleased => Phase.isLeased_of_abandon hleased
  | quiet hq hc =>
    rw [Phase.next_of_quiet _ hc]
    have hquiet : c.writes .hosts = false := by
      cases c <;> first | rfl | exact hc.elim
    exact h.frame (exec_hosts py w hquiet) fun hq => hq

end SlotInv

section Runs

variable [Field T] [LinearOrder T] [IsStrictOrderedRing T] [FloorRing T] (py : Py)
  {w₀ : World T} {request : ChannelRequest} {cfg : Threads Unit T ChannelSession}

/-- **Every lookup takes a slot**: a channel call that has returned has raised
the count of a host, whether or not the channel existed. -/
theorem lookup_takes_slot {a : ChannelSession}
    (hr : Reach (system Unit py) (.start (fun _ => request.run py) w₀) cfg)
    (ha : cfg.threads () = .pure a) :
    ∃ id n m, w₀.store.capacityOf id = some n ∧
      cfg.point.state.store.capacityOf id = some m ∧ n < m := by
  have hplay := channel_plays py (fun _ : Unit => request) w₀
  have hinv := Role.roles_invariant
    (P := fun p => SlotInv w₀ (phasesAt (fun _ : Unit => request) p.trace ()) p.state)
    hplay hr (.start w₀) ?_ ?_
  · refine hinv.taken ?_
    have hends : ChannelEnds (phasesAt (fun _ : Unit => request) cfg.point.trace ()) (.ok a) :=
      (hplay.reach hr).returned ha
    obtain ⟨sid, ⟨hq, -⟩ | ⟨hq, -⟩⟩ := hends
    · rw [hq]
      trivial
    · rw [hq]
      trivial
  · rintro p i c hp hmay -
    show SlotInv w₀ (phasesAt (fun _ : Unit => request) (p.after (exec py) i c).trace ()) _
    rw [phasesAt_after, Function.update_self]
    exact hp.call hmay
  · rintro p _ hp ⟨t, f, -, rfl⟩
    exact hp.frame rfl fun hq => hq

/-- **No lookup of a known channel is idempotent.** -/
theorem lookup_never_idempotent {row : ChannelRow T}
    (_hrow : w₀.store.channels.find? request.key = some row)
    (hr : Reach (system Unit py) (.start (fun _ => request.run py) w₀) cfg) :
    ¬ LookupIdempotent row w₀ cfg := by
  intro hidem
  obtain ⟨id, n, m, hn, hm, hlt⟩ := lookup_takes_slot py hr hidem.returned
  rw [hidem.slots, hn] at hm
  cases hm
  exact Nat.lt_irrefl _ hlt

end Runs

/-! ## A local stack with one channel -/

/-- A message on a channel. -/
def sampleRequest : ChannelRequest := ⟨"slack", "C1", "", "local", "", .null⟩

/-- A local stack after the first message on the channel. -/
def knownChannel : World ℚ :=
  ((sampleRequest.run Py.sample).run (exec Py.sample)
    ((localStack []).run (exec Py.sample) (World.init (0 : ℚ) Sample.files)).2).2

/-- The second message is given the session of the first, and takes another slot. -/
theorem known_channel_takes_slot :
    let looked := (sampleRequest.run Py.sample).run (exec Py.sample) knownChannel
    (knownChannel.store.channels.find? sampleRequest.key).isSome = true ∧
      looked.1.toOption = some ⟨"s", "c", false⟩ ∧
      knownChannel.store.capacityOf "h" = some 1 ∧ looked.2.store.capacityOf "h" = some 2 := by
  decide +kernel

theorem lookup_never_idempotent_sample :
    let cfg := execute (exec Py.sample) (List.replicate 20 ())
      (.start (fun _ => sampleRequest.run Py.sample) knownChannel)
    ∃ row, knownChannel.store.channels.find? sampleRequest.key = some row ∧
      ¬ LookupIdempotent row knownChannel cfg := by
  intro cfg
  have hknown : (knownChannel.store.channels.find? sampleRequest.key).isSome = true := by
    decide +kernel
  obtain ⟨row, hrow⟩ := Option.isSome_iff_exists.mp hknown
  exact ⟨row, hrow, lookup_never_idempotent Py.sample hrow
    (reach_execute (fun _ _ _ => trivial) _ _)⟩

end Nadi
