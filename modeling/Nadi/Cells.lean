import Nadi.EventLog
import Nadi.Model.Replay
import Nadi.Model.Rows
import Nadi.Model.Surroundings

/-!
# A live cell is a cache of its log

On a stack with one `celld`, used by one operation at a time, every registered
cell holds the replay of its session's log, and a token that verifies as long
as the session has a lease (`StackInv`). A cell may be lost at any time
(`StackInv.lose`) and is as good when it is rebuilt (`StackInv.register`).
-/

namespace Nadi

variable {T : Type}

/-! ## Logs that can be replayed -/

/-- A log of dicts can be replayed. -/
theorem replay_of_isObj {events : List (EventRow T)}
    (h : ∀ ev ∈ events, ev.payload.isObj = true) (s : CellState) :
    ∃ done, replay s events = .ok done := by
  induction events generalizing s with
  | nil => exact ⟨s, rfl⟩
  | cons ev rest ih =>
    obtain ⟨s', hs'⟩ := applyEvent_of_isObj (h ev List.mem_cons_self) s ev.eventType
    obtain ⟨done, hdone⟩ := ih (fun e he => h e (List.mem_cons_of_mem _ he)) s'
    exact ⟨done, by rw [replay_cons, hs']; exact hdone⟩

/-! ## The invariant -/

section Invariant

variable [Field T] [LinearOrder T] [IsStrictOrderedRing T] [FloorRing T]

/-- A token that `c` has signed for a cell of a session, not before the hour of
the session's lease began. -/
def CellToken (py : Py) (c : Celld) (st : Store T) (sid token : String) : Prop :=
  ∃ (t : T) (jti : String), jti ≠ "" ∧
    token = c.jwt.sign py (truncate t) jti sid "cell tool" 3600 c.hostId ∧
    ∀ l, st.sessionLeases.find? sid = some l → l.expiresAt ≤ t + 3600

/-- A token of a session's cell that does not expire during the run. -/
def Outlives (py : Py) (c : Celld) (tm : Timing T) (sid token : String) : Prop :=
  ∃ (t : T) (jti : String), jti ≠ "" ∧
    token = c.jwt.sign py (truncate t) jti sid "cell tool" 3600 c.hostId ∧
    ∀ k, tm.now k < t + 3600

/-- What a registered cell is. -/
structure CellHolds (py : Py) (c : Celld) (w : World T) (sid : String) (cell : Cell) : Prop where
  session : w.store.hasSession sid = true
  allocated : cell.addr < w.nextAddr
  replayed : replay .initial (w.store.eventsOf sid) = .ok (w.heap cell.addr)
  token : CellToken py c w.store sid cell.jwt

/-- The invariant of a stack with the one `celld` `c`, at a time not before `now`. -/
structure StackInv (py : Py) (c : Celld) (now : T) (w : World T) : Prop where
  revoked : w.store.revokedTokens.rows = []
  callbacks : ∀ host createCell, w.callbacks host = some createCell → createCell = .celld c
  objects : ∀ host object, w.objects host = some object → object = c
  contiguous : w.store.Contiguous
  linked : w.store.Linked
  sessionIds : ∀ s ∈ w.store.sessions, ∀ n, w.drawn .session ≤ n → s.id ≠ py.uuid4 .session n
  events : ∀ ev ∈ w.store.events, w.store.hasSession ev.sessionId = true ∧
    ev.payload.isObj = true
  leases : ∀ l ∈ w.store.sessionLeases, l.expiresAt ≤ now + 3600
  cells : ∀ sid cell, w.cells c.ref sid = some cell → CellHolds py c w sid cell
  distinct : ∀ sid sid' cell cell', w.cells c.ref sid = some cell →
    w.cells c.ref sid' = some cell' → cell.addr = cell'.addr → sid = sid'

/-- The calls that write neither cells nor what a cell depends on. -/
def Call.steady (c : Call T) : Bool :=
  [.events, .revoked, .leases, .heap, .cells, .broker].all fun part => !c.writes part

namespace StackInv

variable {py : Py} {c : Celld} {now : T} {w : World T} {sid : String}

/-- The log of a session can be replayed. -/
theorem replayable (h : StackInv py c now w) (sid : String) :
    ∃ done, replay .initial (w.store.eventsOf sid) = .ok done :=
  replay_of_isObj (fun ev hev => (h.events ev (Store.mem_eventsOf.mp hev).1).2) _

/-- `get_events` gives the log. -/
theorem getEvents (h : StackInv py c now w) (sid : String) :
    w.store.getEvents sid 0 = w.store.eventsOf sid :=
  h.contiguous.getEvents sid 0

/-- Time passes and the file system changes. -/
theorem passes (h : StackInv py c now w) {later : T} (hle : now ≤ later) (t : T) (f : Files) :
    StackInv py c later { w with clock := t, files := f } where
  revoked := h.revoked
  callbacks := h.callbacks
  objects := h.objects
  contiguous := h.contiguous
  linked := h.linked
  sessionIds := h.sessionIds
  events := h.events
  leases := fun l hl => (h.leases l hl).trans (by linarith)
  cells := fun sid cell hcell =>
    let hold := h.cells sid cell hcell
    ⟨hold.session, hold.allocated, hold.replayed, hold.token⟩
  distinct := h.distinct

/-- A call that is steady keeps the invariant. -/
theorem steady (h : StackInv py c now w) {d : Call T} (hd : d.steady = true) :
    StackInv py c now (exec py d w).2 := by
  simp only [Call.steady, List.all_cons, List.all_nil, Bool.and_true, Bool.and_eq_true,
    Bool.not_eq_true'] at hd
  obtain ⟨hevents, hrevoked, hleases, hheap, hcells, hbroker⟩ := hd
  have hlog : ∀ sid, (exec py d w).2.store.eventsOf sid = w.store.eventsOf sid := by
    intro sid
    unfold Store.eventsOf
    rw [exec_events py w hevents]
  constructor
  · rw [exec_revoked py w hrevoked]
    exact h.revoked
  · rw [exec_callbacks py w hbroker]
    exact h.callbacks
  · rw [exec_objects py w hbroker]
    exact h.objects
  · exact exec_contiguous py d w h.contiguous
  · exact exec_linked py d h.linked
  · exact exec_sessionIds py d h.sessionIds
  · intro ev hev
    rw [exec_events py w hevents] at hev
    exact ⟨exec_hasSession py d (h.events ev hev).1, (h.events ev hev).2⟩
  · rw [exec_leases py w hleases]
    exact h.leases
  · rw [exec_cells py w hcells]
    intro sid cell hcell
    have hold := h.cells sid cell hcell
    constructor
    · exact exec_hasSession py d hold.session
    · rw [exec_nextAddr py w hheap]
      exact hold.allocated
    · rw [hlog, exec_heap py w hheap]
      exact hold.replayed
    · unfold CellToken
      rw [exec_leases py w hleases]
      exact hold.token
  · rw [exec_cells py w hcells]
    exact h.distinct

/-- The daemon loses cells. -/
theorem lose (h : StackInv py c now w) (lost : String → Bool) :
    StackInv py c now (w.lose lost) where
  revoked := h.revoked
  callbacks := h.callbacks
  objects := h.objects
  contiguous := h.contiguous
  linked := h.linked
  sessionIds := h.sessionIds
  events := h.events
  leases := h.leases
  cells := by
    intro sid cell hcell
    have hold := h.cells sid cell (World.lose_cells_eq_some.mp hcell).2
    exact ⟨hold.session, hold.allocated, hold.replayed, hold.token⟩
  distinct := fun sid sid' cell cell' hcell hcell' =>
    h.distinct sid sid' cell cell' (World.lose_cells_eq_some.mp hcell).2
      (World.lose_cells_eq_some.mp hcell').2

/-- A new lease of a session without a cell. -/
theorem lease (h : StackInv py c now w) (hle : now ≤ w.clock) (cellHostId : String)
    (hnone : w.cells c.ref sid = none) :
    StackInv py c w.clock (exec py (.createLease sid cellHostId 3600) w).2 := by
  -- the leases of other sessions stay
  have hother : ∀ sid', sid' ≠ sid →
      (exec py (.createLease sid cellHostId 3600) w).2.store.sessionLeases.find? sid' =
        w.store.sessionLeases.find? sid' := by
    intro sid' hne
    refine World.commit_store (w := w.draw .leaseToken)
      (P := fun st => st.sessionLeases.find? sid' = w.store.sessionLeases.find? sid') rfl
      fun b st hr => ?_
    rw [Store.createLease_lease hr, if_neg (Ne.symm hne)]
  constructor
  · rw [exec_revoked py w rfl]
    exact h.revoked
  · rw [exec_callbacks py w rfl]
    exact h.callbacks
  · rw [exec_objects py w rfl]
    exact h.objects
  · exact exec_contiguous py _ w h.contiguous
  · exact exec_linked py _ h.linked
  · exact exec_sessionIds py _ h.sessionIds
  · intro ev hev
    rw [exec_events py w rfl] at hev
    exact ⟨exec_hasSession py _ (h.events ev hev).1, (h.events ev hev).2⟩
  · refine World.commit_store (w := w.draw .leaseToken)
      (P := fun st => ∀ l ∈ st.sessionLeases, l.expiresAt ≤ w.clock + 3600)
      (fun l hl => (h.leases l hl).trans (by linarith)) fun b st hr l hl => ?_
    obtain ⟨-, -, -, rfl⟩ := Store.createLease_ok hr
    rcases Data.Table.mem_replace.mp hl with ⟨hl, -⟩ | rfl
    · exact (h.leases l hl).trans (by linarith)
    · show w.clock + ((3600 : ℤ) : T) ≤ w.clock + 3600
      norm_num
  · rw [exec_cells py w rfl]
    intro sid' cell hcell
    have hne : sid' ≠ sid := by
      rintro rfl
      cases hnone.symm.trans hcell
    have hold := h.cells sid' cell hcell
    constructor
    · exact exec_hasSession py _ hold.session
    · rw [exec_nextAddr py w rfl]
      exact hold.allocated
    · unfold Store.eventsOf
      rw [exec_events py w rfl, exec_heap py w rfl]
      exact hold.replayed
    · unfold CellToken
      rw [hother sid' hne]
      exact hold.token
  · rw [exec_cells py w rfl]
    exact h.distinct

/-- A new cell that holds the replay of its session's log. -/
theorem register (h : StackInv py c now w) {token : String} {state : CellState}
    (hses : w.store.hasSession sid = true)
    (hstate : replay .initial (w.store.eventsOf sid) = .ok state)
    (htoken : CellToken py c w.store sid token) :
    StackInv py c now { w.draw .jti with
      heap := Function.update w.heap w.nextAddr state
      nextAddr := w.nextAddr + 1
      cells := Function.update w.cells c.ref
        (Function.update (w.cells c.ref) sid (some ⟨w.nextAddr, sid, token⟩)) } where
  revoked := h.revoked
  callbacks := h.callbacks
  objects := h.objects
  contiguous := h.contiguous
  linked := h.linked
  sessionIds := by
    have hdraw : (w.draw .jti).drawn .session = w.drawn .session := World.draw_of_ne (by decide)
    intro s hs n hn
    exact h.sessionIds s hs n (hdraw ▸ hn)
  events := h.events
  leases := h.leases
  cells := by
    intro sid' cell hcell
    dsimp only at hcell
    rw [Function.update_self] at hcell
    by_cases hs : sid' = sid
    · subst hs
      rw [Function.update_self] at hcell
      cases hcell
      refine ⟨hses, Nat.lt_succ_self _, ?_, htoken⟩
      show _ = Except.ok (Function.update w.heap w.nextAddr state w.nextAddr)
      rw [Function.update_self]
      exact hstate
    · rw [Function.update_of_ne hs] at hcell
      have hold := h.cells sid' cell hcell
      refine ⟨hold.session, Nat.lt_succ_of_lt hold.allocated, ?_, hold.token⟩
      show _ = Except.ok (Function.update w.heap w.nextAddr state cell.addr)
      rw [Function.update_of_ne (Nat.ne_of_lt hold.allocated)]
      exact hold.replayed
  distinct := by
    -- the address of the new cell is above those of the others
    have hother : ∀ sid' cell, sid' ≠ sid → w.cells c.ref sid' = some cell →
        cell.addr ≠ w.nextAddr :=
      fun sid' cell _ hcell => Nat.ne_of_lt (h.cells sid' cell hcell).allocated
    intro s₁ s₂ c₁ c₂ h₁ h₂ haddr
    dsimp only at h₁ h₂
    rw [Function.update_self] at h₁ h₂
    by_cases hs₁ : s₁ = sid
    · by_cases hs₂ : s₂ = sid
      · exact hs₁.trans hs₂.symm
      · rw [hs₁, Function.update_self] at h₁
        rw [Function.update_of_ne hs₂] at h₂
        cases h₁
        exact absurd haddr.symm (hother s₂ c₂ hs₂ h₂)
    · rw [Function.update_of_ne hs₁] at h₁
      by_cases hs₂ : s₂ = sid
      · rw [hs₂, Function.update_self] at h₂
        cases h₂
        exact absurd haddr (hother s₁ c₁ hs₁ h₁)
      · rw [Function.update_of_ne hs₂] at h₂
        exact h.distinct s₁ s₂ c₁ c₂ h₁ h₂ haddr

/-- An event of a session, applied to its cell if there is one. -/
theorem append (h : StackInv py c now w) {eventType : String} {payload : Json}
    (hses : w.store.hasSession sid = true) (hobj : payload.orEmpty.isObj = true)
    {heap : ℕ → CellState}
    (hheap : match w.cells c.ref sid with
      | none => heap = w.heap
      | some cell => ∃ state, applyEvent (w.heap cell.addr) eventType payload.orEmpty = .ok state ∧
          heap = Function.update w.heap cell.addr state) :
    StackInv py c now { w.append sid eventType payload with heap } := by
  have happend : w.store.appendEvent w.clock sid eventType payload none =
      .ok (_, (w.append sid eventType payload).store) := Store.appendEvent_eq hses
  have hlog := Store.eventsOf_append happend
  constructor
  · exact h.revoked
  · exact h.callbacks
  · exact h.objects
  · exact h.contiguous.append happend
  · exact h.linked
  · exact h.sessionIds
  · intro ev hev
    rcases List.mem_append.mp hev with hold | hnew
    · exact h.events ev hold
    · rw [List.mem_singleton.mp hnew]
      exact ⟨hses, hobj⟩
  · exact h.leases
  · intro sid' cell hcell
    change w.cells c.ref sid' = some cell at hcell
    have hold := h.cells sid' cell hcell
    refine ⟨hold.session, hold.allocated, ?_, hold.token⟩
    show replay .initial ((w.append sid eventType payload).store.eventsOf sid') =
      .ok (heap cell.addr)
    rw [hlog sid']
    by_cases hs : sid' = sid
    · subst hs
      rw [hcell] at hheap
      obtain ⟨state, hstate, rfl⟩ := hheap
      rw [if_pos rfl, replay_append, hold.replayed, Function.update_self]
      show (replay (w.heap cell.addr) [_]) = _
      rw [replay_cons]
      show (applyEvent (w.heap cell.addr) eventType payload.orEmpty).bind _ = _
      rw [hstate]
      rfl
    · rw [if_neg hs, hold.replayed]
      -- the cell that moves is another one
      cases hcell' : w.cells c.ref sid with
      | none =>
        rw [hcell'] at hheap
        rw [hheap]
      | some cell' =>
        rw [hcell'] at hheap
        obtain ⟨state, -, rfl⟩ := hheap
        have hne : cell.addr ≠ cell'.addr := fun haddr => hs (h.distinct _ _ _ _ hcell hcell' haddr)
        rw [Function.update_of_ne hne]
  · exact h.distinct

end StackInv

end Invariant

end Nadi
