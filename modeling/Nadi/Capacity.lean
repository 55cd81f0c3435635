import Nadi.Effect.Interleave
import Nadi.Model.Programs
import Nadi.Model.Rows
import Nadi.Model.Sample
import Mathlib.Data.Rat.Floor

/-!
# Capacity accounting

`capacity_used` is a counter that `create_lease` increments and nothing
decrements. `Store.Exact` compares it with what it should count, the leases that
hold a slot. One step keeps the two equal if and only if it changes no slot
other than by leasing a free session (`exact_call_iff`, `exact_passes_iff`); so
the counter is exact along the runs of such steps (`capacity_exact`), and off by
one after the first step of any other kind.
-/

namespace Nadi

open Effect

variable {T ι α : Type}

/-! ## What the counter should count -/

/-- A session that is over. -/
def SessionStatus.ended : SessionStatus → Bool
  | .stopped => true
  | .abandoned => true
  | _ => false

namespace Store

/-- The lease is active and unexpired, and its session is not over. -/
def holdsSlot [LinearOrder T] (st : Store T) (t : T) (l : LeaseRow T) : Bool :=
  l.status == .active && decide (t < l.expiresAt) &&
    (st.statusOf l.sessionId).any fun s => !s.ended

/-- The number of leases that hold a slot of a host. -/
def occupancy [LinearOrder T] (st : Store T) (t : T) (hostId : String) : Nat :=
  st.sessionLeases.rows.countP fun l => l.cellHostId == hostId && st.holdsSlot t l

/-- Every counter is right. -/
def Exact [LinearOrder T] (st : Store T) (t : T) : Prop :=
  ∀ h ∈ st.cellHosts, h.capacityUsed = st.occupancy t h.id

variable [LinearOrder T] {st st' : Store T} {t t' : T}

theorem exact_iff : st.Exact t ↔ ∀ id n, st.capacityOf id = some n → n = st.occupancy t id := by
  unfold Exact capacityOf
  constructor
  · intro h id n hn
    obtain ⟨host, hhost, rfl⟩ := Option.map_eq_some_iff.mp hn
    obtain ⟨hmem, rfl⟩ := Data.Table.find?_eq_some.mp hhost
    exact h host hmem
  · intro h host hmem
    refine h host.id host.capacityUsed ?_
    rw [Data.Table.find?_eq_some.mpr ⟨hmem, rfl⟩]
    rfl

/-- The slot that the lease of a session holds of a host, if any. -/
def slot (st : Store T) (t : T) (sid hostId : String) : Nat :=
  if (st.sessionLeases.find? sid).any fun l => l.cellHostId == hostId && st.holdsSlot t l
  then 1 else 0

/-- The slots of a host that other sessions hold. -/
def otherSlots (st : Store T) (t : T) (sid hostId : String) : Nat :=
  (st.sessionLeases.rows.filter fun l => l.sessionId ≠ sid).countP fun l =>
    l.cellHostId == hostId && st.holdsSlot t l

theorem occupancy_eq (sid hostId : String) :
    st.occupancy t hostId = st.otherSlots t sid hostId + st.slot t sid hostId :=
  Data.Table.countP_rows _ _ sid

theorem slot_eq {sid : String} {l : LeaseRow T} (h : st.sessionLeases.find? sid = some l)
    (hostId : String) :
    st.slot t sid hostId = if l.cellHostId = hostId ∧ st.holdsSlot t l = true then 1 else 0 := by
  unfold slot
  rw [h]
  simp

theorem slot_of_none {sid : String} (h : st.sessionLeases.find? sid = none) (hostId : String) :
    st.slot t sid hostId = 0 := by
  unfold slot
  rw [h]
  rfl

theorem holdsSlot_iff {l : LeaseRow T} {status : SessionStatus}
    (h : st.statusOf l.sessionId = some status) :
    st.holdsSlot t l = true ↔ t < l.expiresAt ∧ status.ended = false := by
  unfold holdsSlot
  rw [h]
  simp only [Option.any_some, Bool.and_eq_true, beq_iff_eq, decide_eq_true_eq,
    Bool.not_eq_true']
  exact ⟨fun h => ⟨h.1.2, h.2⟩, fun h => ⟨⟨trivial, h.1⟩, h.2⟩⟩

/-- Leases whose sessions keep their status hold what they held. -/
theorem countP_holdsSlot {rows : List (LeaseRow T)} (hostId : String)
    (h : ∀ l ∈ rows, st'.statusOf l.sessionId = st.statusOf l.sessionId) :
    (rows.countP fun l => l.cellHostId == hostId && st'.holdsSlot t l) =
      rows.countP fun l => l.cellHostId == hostId && st.holdsSlot t l := by
  refine List.countP_congr fun l hl => ?_
  unfold holdsSlot
  rw [h l hl]

omit [LinearOrder T] in
theorem exists_capacityOf {id : String} (h : (st.cellHosts.find? id).isSome = true) :
    ∃ n, st.capacityOf id = some n := by
  obtain ⟨host, hhost⟩ := Option.isSome_iff_exists.mp h
  refine ⟨host.capacityUsed, ?_⟩
  unfold capacityOf
  rw [hhost]
  rfl

omit [LinearOrder T] in
theorem exists_statusOf {sid : String} (h : st.hasSession sid = true) :
    ∃ s, st.statusOf sid = some s := by
  obtain ⟨row, hrow⟩ := Option.isSome_iff_exists.mp h
  refine ⟨row.status, ?_⟩
  unfold statusOf
  rw [hrow]
  rfl

/-- A lease that has expired holds nothing. -/
theorem slot_of_expired {sid : String}
    (h : ∀ l, st.sessionLeases.find? sid = some l → l.expiresAt ≤ t) (hostId : String) :
    st.slot t sid hostId = 0 := by
  cases hl : st.sessionLeases.find? sid with
  | none => exact slot_of_none hl hostId
  | some l =>
    rw [slot_eq hl, if_neg]
    rintro ⟨-, hholds⟩
    unfold holdsSlot at hholds
    simp only [Bool.and_eq_true, decide_eq_true_eq] at hholds
    exact not_lt.mpr (h l hl) hholds.1.2

/-- Where the slots of the other sessions stay, the counters stay exact if and only if each
grows by as many slots as the session takes. -/
theorem exact_slots_iff (hexact : st.Exact t) (sid : String) (taken : String → ℕ)
    (hcap : ∀ id, st'.capacityOf id = (st.capacityOf id).map (· + taken id))
    (hother : ∀ id, st'.otherSlots t sid id = st.otherSlots t sid id) :
    st'.Exact t ↔
      ∀ id n, st.capacityOf id = some n → st'.slot t sid id = st.slot t sid id + taken id := by
  rw [exact_iff] at hexact ⊢
  refine forall_congr' fun id => ?_
  rw [hcap]
  cases hn : st.capacityOf id with
  | none => exact ⟨fun _ _ h => (nomatch h), fun _ _ h => (nomatch h)⟩
  | some m =>
    have hbefore := hexact id m hn
    rw [occupancy_eq sid] at hbefore
    constructor
    · intro h _ _
      have hafter := h (m + taken id) rfl
      rw [occupancy_eq sid, hother] at hafter
      omega
    · intro h n hn'
      obtain rfl : m + taken id = n := Option.some.inj hn'
      have hslots := h m rfl
      rw [occupancy_eq sid, hother]
      omega

/-! ## Setting a status -/

/-- Setting the status of a session keeps the counters exact if and only if it
neither ends nor revives one whose lease is unexpired. -/
theorem exact_updateSessionStatus_iff (hlinked : st.Linked) (hexact : st.Exact t) (sid : String)
    (status : SessionStatus) :
    (st.updateSessionStatus t sid status).Exact t ↔
      ∀ l, st.sessionLeases.find? sid = some l → t < l.expiresAt →
        ∀ s, st.statusOf sid = some s → s.ended = status.ended := by
  have hstatus := fun sid' => st.statusOf_updateSessionStatus t sid sid' status
  refine (exact_slots_iff hexact sid (fun _ => 0) (fun id => ?_) fun id => ?_).trans ?_
  · exact Option.map_id'.symm
  · refine countP_holdsSlot id fun l hl => ?_
    have hne : l.sessionId ≠ sid := by simpa using (List.mem_filter.mp hl).2
    rw [hstatus, if_neg hne]
  cases hlease : st.sessionLeases.find? sid with
  | none =>
    refine ⟨fun _ l hl => (nomatch hl), fun _ id n _ => ?_⟩
    have hlease' : (st.updateSessionStatus t sid status).sessionLeases.find? sid = none := hlease
    rw [slot_of_none hlease, slot_of_none hlease']
  | some l =>
    obtain ⟨hmem, hlsid⟩ := Data.Table.find?_eq_some.mp hlease
    obtain ⟨hses, hhost⟩ := hlinked l hmem
    obtain ⟨s, hs⟩ := exists_statusOf (hlsid ▸ hses)
    -- the slot of the session before and after
    have hold : st.holdsSlot t l = true ↔ t < l.expiresAt ∧ s.ended = false :=
      holdsSlot_iff (hlsid ▸ hs)
    have hnew : (st.updateSessionStatus t sid status).holdsSlot t l = true ↔
        t < l.expiresAt ∧ status.ended = false := by
      refine holdsSlot_iff ?_
      rw [hstatus, if_pos hlsid, hlsid, hs]
      rfl
    have hlease' : (st.updateSessionStatus t sid status).sessionLeases.find? sid = some l := hlease
    have hslot := slot_eq (t := t) hlease
    have hslot' := slot_eq (t := t) hlease'
    constructor
    · intro hsame l' hl' hexp s' hs'
      obtain rfl := Option.some.inj hl'
      obtain rfl := Option.some.inj (hs.symm.trans hs')
      obtain ⟨n, hcap⟩ := exists_capacityOf hhost
      have heq := hsame l.cellHostId n hcap
      rw [hslot, hslot'] at heq
      simp only [true_and, hold, hnew, hexp] at heq
      revert heq
      cases s.ended <;> cases status.ended <;> decide
    · intro hkeep id n _
      rw [hslot, hslot']
      by_cases hexp : t < l.expiresAt
      · have hend := hkeep l rfl hexp s hs
        simp only [hold, hnew, hexp, hend, Nat.add_zero]
      · simp only [hold, hnew, hexp, false_and, and_false, Nat.add_zero]

/-! ## Leasing -/

variable [Field T] [IsStrictOrderedRing T]

/-- The slot of a session that has been leased. -/
theorem createLease_slot {token sid cellHostId : String} {ttl : Int} {b : String}
    (hok : st.createLease t token sid cellHostId ttl = .ok (b, st')) {s : SessionStatus}
    (hs : st.statusOf sid = some s) (id : String) :
    st'.slot t sid id =
      if cellHostId = id ∧ 0 < ttl ∧ s.ended = false then 1 else 0 := by
  have hs' : st'.statusOf sid = some s := by
    obtain ⟨-, -, -, hst⟩ := createLease_ok hok
    rw [hst]
    exact hs
  have hholds : st'.holdsSlot t (newLease t token sid cellHostId ttl) = true ↔
      0 < ttl ∧ s.ended = false := by
    rw [holdsSlot_iff hs']
    show t < t + (ttl : T) ∧ _ ↔ _
    rw [lt_add_iff_pos_right, Int.cast_pos]
  rw [slot_eq ((createLease_lease hok sid).trans (if_pos rfl))]
  exact if_congr (and_congr_right fun _ => hholds) rfl rfl

omit [IsStrictOrderedRing T] in
/-- A lease keeps the counters exact if and only if the session takes one slot more. -/
theorem exact_createLease_slots (hexact : st.Exact t) {token sid cellHostId : String} {ttl : Int}
    {b : String} (hok : st.createLease t token sid cellHostId ttl = .ok (b, st')) :
    st'.Exact t ↔ ∀ id n, st.capacityOf id = some n →
      st'.slot t sid id = st.slot t sid id + if id = cellHostId then 1 else 0 := by
  refine exact_slots_iff hexact sid _ (fun id => ?_) fun id => ?_
  · rw [createLease_capacityOf hok]
    split
    · rfl
    · exact Option.map_id'.symm
  · obtain ⟨-, -, -, hst⟩ := createLease_ok hok
    have hstatus : ∀ sid, st'.statusOf sid = st.statusOf sid := by
      rw [hst]
      exact fun _ => rfl
    unfold otherSlots
    rw [countP_holdsSlot id fun l _ => hstatus l.sessionId]
    congr 1
    rw [hst]
    exact Data.Table.filter_replace st.sessionLeases (newLease t token sid cellHostId ttl)

/-- A lease keeps the counters exact if and only if it is for a positive time,
for a session that is not over and has no unexpired lease. -/
theorem exact_createLease_iff (hlinked : st.Linked) (hexact : st.Exact t)
    {token sid cellHostId : String} {ttl : Int} {b : String}
    (hok : st.createLease t token sid cellHostId ttl = .ok (b, st')) :
    st'.Exact t ↔
      0 < ttl ∧ (∀ s, st.statusOf sid = some s → s.ended = false) ∧
        ∀ l, st.sessionLeases.find? sid = some l → l.expiresAt ≤ t := by
  obtain ⟨-, hses, hhost, -⟩ := createLease_ok hok
  obtain ⟨s, hs⟩ := exists_statusOf hses
  have hslot' := createLease_slot hok hs
  refine (exact_createLease_slots hexact hok).trans ?_
  constructor
  · intro h
    -- on the host of the lease, the slot has to be held
    obtain ⟨n, hn⟩ := exists_capacityOf hhost
    have hself := h cellHostId n hn
    rw [if_pos rfl, hslot'] at hself
    have hholds : 0 < ttl ∧ s.ended = false := by
      by_contra hno
      rw [if_neg fun hc => hno hc.2] at hself
      omega
    refine ⟨hholds.1, fun s' hs' => ?_, fun l hl => ?_⟩
    · rw [← Option.some.inj (hs.symm.trans hs')]
      exact hholds.2
    · -- an unexpired lease would have held a slot that nobody gave back
      by_contra hexp
      obtain ⟨hmem, hlsid⟩ := Data.Table.find?_eq_some.mp hl
      obtain ⟨m, hm⟩ := exists_capacityOf (hlinked l hmem).2
      have hlold := h l.cellHostId m hm
      have hlholds : st.holdsSlot t l = true :=
        (holdsSlot_iff (hlsid ▸ hs)).mpr ⟨not_le.mp hexp, hholds.2⟩
      rw [slot_eq hl, if_pos ⟨rfl, hlholds⟩, hslot'] at hlold
      by_cases hid : l.cellHostId = cellHostId
      · rw [if_pos hid] at hlold
        split at hlold <;> omega
      · rw [if_neg hid, if_neg fun hc => hid hc.1.symm] at hlold
        omega
  · rintro ⟨httl, hlive, hexpired⟩ id n _
    rw [slot_of_expired hexpired, hslot', Nat.zero_add]
    by_cases hid : id = cellHostId
    · rw [if_pos hid, if_pos ⟨hid.symm, httl, hlive s hs⟩]
    · rw [if_neg hid, if_neg fun hc => hid hc.1.symm]

/-! ## Time -/

omit [Field T] [IsStrictOrderedRing T] in
/-- Time keeps the counters exact if and only if no lease that holds a slot
expires. -/
theorem exact_later_iff (hlinked : st.Linked) (hexact : st.Exact t) (hle : t ≤ t') :
    st.Exact t' ↔
      ∀ l ∈ st.sessionLeases, st.holdsSlot t l = true → t' < l.expiresAt := by
  have hback : ∀ l, st.holdsSlot t' l = true → st.holdsSlot t l = true := by
    intro l h
    unfold holdsSlot at h ⊢
    simp only [Bool.and_eq_true, decide_eq_true_eq] at h ⊢
    exact ⟨⟨h.1.1, hle.trans_lt h.1.2⟩, h.2⟩
  rw [exact_iff] at hexact ⊢
  constructor
  · intro hlater l hmem hholds
    by_contra hexp
    obtain ⟨n, hcap⟩ := exists_capacityOf (hlinked l hmem).2
    have hbefore := hexact _ _ hcap
    have hafter := hlater _ _ hcap
    have hlease : st.sessionLeases.find? l.sessionId = some l :=
      Data.Table.find?_eq_some.mpr ⟨hmem, rfl⟩
    have hgone : st.holdsSlot t' l ≠ true := by
      intro h
      unfold holdsSlot at h
      simp only [Bool.and_eq_true, decide_eq_true_eq] at h
      exact hexp h.1.2
    rw [occupancy_eq l.sessionId, slot_eq hlease] at hbefore hafter
    rw [if_pos ⟨rfl, hholds⟩] at hbefore
    rw [if_neg fun h => hgone h.2] at hafter
    have hfewer : st.otherSlots t' l.sessionId l.cellHostId ≤
        st.otherSlots t l.sessionId l.cellHostId := by
      refine List.countP_mono_left fun l' _ h => ?_
      rw [Bool.and_eq_true] at h ⊢
      exact ⟨h.1, hback l' h.2⟩
    omega
  · intro hkeep id n hn
    rw [hexact id n hn]
    refine List.countP_congr fun l hmem => ?_
    simp only [Bool.and_eq_true]
    refine and_congr_right fun _ => ⟨fun h => ?_, hback l⟩
    have hexp := hkeep l hmem h
    unfold holdsSlot at h ⊢
    simp only [Bool.and_eq_true, decide_eq_true_eq] at h ⊢
    exact ⟨⟨h.1.1, hexp⟩, h.2⟩

end Store

/-! ## Steps -/

variable [Field T] [LinearOrder T]

/-- The calls that change no slot other than by leasing a free session: a status
is set without ending or reviving a session with an unexpired lease, and a
session is leased for a positive time that is not over and has none. -/
def KeepsSlots (w : World T) : Call T → Prop
  | .updateSessionStatus sid status => ∀ l ∈ w.store.sessionLeases.find? sid,
      w.clock < l.expiresAt → ∀ s ∈ w.store.statusOf sid, s.ended = status.ended
  | .createLease sid cellHostId ttl => w.store.hasSession sid = true →
      (w.store.cellHosts.find? cellHostId).isSome = true →
        0 < ttl ∧ (∀ s ∈ w.store.statusOf sid, s.ended = false) ∧
          ∀ l ∈ w.store.sessionLeases.find? sid, l.expiresAt ≤ w.clock
  | _ => True

instance (w : World T) (c : Call T) : Decidable (KeepsSlots w c) := by
  cases c <;> unfold KeepsSlots <;> infer_instance

section Steps

variable (py : Py) {c : Call T} {w w' : World T}

/-- New sessions and hosts keep the counters exact, and so does every call that
touches neither sessions, leases nor hosts. -/
theorem exact_call_other (hlinked : w.store.Linked) (hexact : w.store.Exact w.clock)
    (hstatus : ∀ sid status, c ≠ .updateSessionStatus sid status)
    (hlease : ∀ sid cellHostId ttl, c ≠ .createLease sid cellHostId ttl) :
    (exec py c w).2.store.Exact w.clock := by
  cases c with
  | updateSessionStatus sid status => exact absurd rfl (hstatus sid status)
  | createLease sid cellHostId ttl => exact absurd rfl (hlease sid cellHostId ttl)
  | createSession =>
    refine World.commit_store (w := w.draw .session) (P := fun st => st.Exact w.clock) hexact
      fun b st hr => ?_
    obtain ⟨-, sessions, hins, rfl⟩ := Store.createSession_ok hr
    intro host hhost
    rw [hexact host hhost]
    refine (Store.countP_holdsSlot host.id fun l hl => ?_).symm
    rw [Store.statusOf_insert hins, if_neg]
    intro heq
    obtain ⟨s, hs, hid⟩ := Data.Table.find?_isSome.mp (hlinked l hl).1
    exact (Data.Table.insert?_eq_some.mp hins).1 s hs (hid.trans heq.symm)
  | upsertCellHost hostId zone address capacityTotal metadata =>
    refine World.commit_store (w := w.draw .cellHost) (P := fun st => st.Exact w.clock) hexact
      fun b st hr => ?_
    rcases Store.upsertCellHost_ok hr with ⟨_, -, -, -, rfl⟩ | ⟨-, -, cellHosts, hins, rfl⟩
    · intro host hhost
      obtain ⟨old, hold, rfl⟩ := List.mem_map.mp hhost
      have hsame := hexact old hold
      split <;> exact hsame
    · intro host hhost
      rcases (Data.Table.mem_of_insert? hins).mp hhost with hold | rfl
      · exact hexact host hold
      · -- leases are on hosts that exist, so none is on the new one
        refine (List.countP_eq_zero.mpr fun l hl h => ?_).symm
        rw [Bool.and_eq_true, beq_iff_eq] at h
        obtain ⟨old, hold, hid⟩ := Data.Table.find?_isSome.mp (hlinked l hl).2
        exact (Data.Table.insert?_eq_some.mp hins).1 old hold (hid.trans h.1)
  | _ =>
    intro host hhost
    rw [exec_hosts py w rfl] at hhost
    rw [hexact host hhost]
    unfold Store.occupancy
    rw [exec_leases py w rfl]
    refine (Store.countP_holdsSlot host.id fun l _ => ?_).symm
    unfold Store.statusOf
    rw [exec_sessions py w rfl]

variable [IsStrictOrderedRing T]

/-- **One call** keeps the counters exact if and only if it keeps the slots. -/
theorem exact_call_iff (hlinked : w.store.Linked) (hexact : w.store.Exact w.clock) :
    (exec py c w).2.store.Exact (exec py c w).2.clock ↔ KeepsSlots w c := by
  rw [(exec_passive py w).1]
  by_cases hstatus : ∃ sid status, c = .updateSessionStatus sid status
  · obtain ⟨sid, status, rfl⟩ := hstatus
    exact Store.exact_updateSessionStatus_iff hlinked hexact sid status
  by_cases hlease : ∃ sid cellHostId ttl, c = .createLease sid cellHostId ttl
  · obtain ⟨sid, cellHostId, ttl, rfl⟩ := hlease
    have hexec : exec py (.createLease sid cellHostId ttl) w = (w.draw .leaseToken).commit
        (w.store.createLease w.clock (w.fresh py .leaseToken) sid cellHostId ttl) := rfl
    rw [hexec]
    cases hres : w.store.createLease w.clock (w.fresh py .leaseToken) sid cellHostId ttl with
    | error e =>
      refine ⟨fun _ hses hhost => ?_, fun _ => hexact⟩
      obtain ⟨st, hok⟩ := Store.createLease_eq (t := w.clock) hses hhost
        (w.fresh py .leaseToken) ttl
      cases hok.symm.trans hres
    | ok out =>
      refine (Store.exact_createLease_iff hlinked hexact hres).trans ?_
      obtain ⟨-, hses, hhost, -⟩ := Store.createLease_ok hres
      exact ⟨fun h _ _ => h, fun h => h hses hhost⟩
  · have hkeeps : KeepsSlots w c := by
      cases c with
      | updateSessionStatus sid status => exact absurd ⟨sid, status, rfl⟩ hstatus
      | createLease sid cellHostId ttl => exact absurd ⟨sid, cellHostId, ttl, rfl⟩ hlease
      | _ => trivial
    exact ⟨fun _ => hkeeps, fun _ => exact_call_other py hlinked hexact
      (fun sid status h => hstatus ⟨sid, status, h⟩)
      fun sid cellHostId ttl h => hlease ⟨sid, cellHostId, ttl, h⟩⟩

end Steps

/-! ## Runs -/

/-- No lease that holds a slot expires from one state to the next. -/
def KeepsLeases (w w' : World T) : Prop :=
  ∀ l ∈ w.store.sessionLeases, w.store.holdsSlot w.clock l = true → w'.clock < l.expiresAt

/-- Threads over one shared state whose steps keep the slots. -/
def slotKeeping (ι : Type) (py : Py) : System ι (Call T) Call.Ret PyErr (World T) where
  handler := exec py
  env w w' := w.Passes w' ∧ KeepsLeases w w'
  allow p _ c := KeepsSlots p.state c

section Runs

variable [DecidableEq ι] [IsStrictOrderedRing T] (py : Py) {programs : ι → Code T α}
  {clock : T} {files : Files} {cfg : Threads ι T α}

/-- **The counters are exact while slots are kept.** Let any threads run any
programs on a new database. If no step ends, revives, expires or replaces a
lease that holds a slot, or leases a session that is over, then in every state
reached `capacity_used` of each host is the number of sessions, neither stopped
nor abandoned, with an active and unexpired lease on it. -/
theorem capacity_exact
    (hr : Reach (slotKeeping ι py) (.start programs (.init clock files)) cfg) :
    ∀ h ∈ cfg.point.state.store.cellHosts,
      h.capacityUsed = cfg.point.state.store.occupancy cfg.point.state.clock h.id := by
  refine (hr.point_invariant
    (P := fun p => p.state.store.Linked ∧ p.state.store.Exact p.state.clock) ?_ ?_ ?_).2
  · exact ⟨fun _ h => (nomatch h), fun _ h => (nomatch h)⟩
  · rintro p i c ⟨hlinked, hexact⟩ hkeeps
    exact ⟨exec_linked py c hlinked, (exact_call_iff py hlinked hexact).mpr hkeeps⟩
  · rintro p _ ⟨hlinked, hexact⟩ ⟨⟨t, f, hle, rfl⟩, hkeeps⟩
    exact ⟨hlinked, (Store.exact_later_iff hlinked hexact hle).mpr hkeeps⟩

end Runs

/-! ## Samples -/

/-- A local stack with one session. -/
def oneSession : World ℚ :=
  ((do localStack []
       let _ ← Gateway.createSession Py.sample "local" .null) : Code ℚ Unit).run (exec Py.sample)
    (World.init (0 : ℚ) Sample.files) |>.2

/-- Neither the end of a lease nor placing its session again gives the slot back. -/
theorem capacity_not_given_back :
    let expired : World ℚ := { oneSession with clock := 3600 }
    let replaced := ((Broker.placeSession Py.sample "s").run (exec Py.sample) oneSession).2
    (oneSession.store.capacityOf "h" = some 1 ∧ oneSession.store.occupancy 0 "h" = 1) ∧
      (expired.store.capacityOf "h" = some 1 ∧ expired.store.occupancy expired.clock "h" = 0) ∧
      (replaced.store.capacityOf "h" = some 2 ∧
        replaced.store.occupancy replaced.clock "h" = 1) := by
  decide +kernel

/-- A local stack places a session. -/
theorem capacity_exact_sample :
    let programs : Unit → Code ℚ Unit := fun _ => do
      localStack []
      let _ ← Gateway.createSession Py.sample "local" .null
      return ()
    let cfg := execute (exec Py.sample) (List.replicate 20 ())
      (.start programs (.init (0 : ℚ) Sample.files))
    ∀ h ∈ cfg.point.state.store.cellHosts,
      h.capacityUsed = cfg.point.state.store.occupancy cfg.point.state.clock h.id := by
  intro programs cfg
  let keeps : Moment Unit ℚ → Unit → Call ℚ → Bool := fun p _ c => decide (KeepsSlots p.state c)
  have hkeeps : ∀ p i c, keeps p i c = true → KeepsSlots p.state c :=
    fun _ _ _ h => of_decide_eq_true h
  have hr : Reach (slotKeeping Unit Py.sample) (.start programs (.init (0 : ℚ) Sample.files)) cfg :=
    reach_execute_permits hkeeps _ _ (by decide +kernel)
  exact capacity_exact Py.sample hr

end Nadi
