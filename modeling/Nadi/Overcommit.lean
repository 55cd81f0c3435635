import Nadi.Data.Slots
import Nadi.Effect.Role
import Nadi.Model.Bounds
import Nadi.Model.Rows
import Nadi.Model.Sample
import Mathlib.Data.Rat.Floor

/-!
# When a host is over-committed

`place_session` chooses a host by its counts and leases a slot of it in a later
step (broker.py:36–43), and the lease does not look at the counts again. Threads
that place sessions are thus clients that look at a counter and then take from
it (`Data.Slots`): the hosts stay within their capacity exactly along the runs
in which every lease is in time (`within_capacity_iff`).
-/

namespace Nadi

open Effect
open Data (Slots.Act Slots.Look Slots.Honest Slots.Timely)

variable {T ι : Type}

/-! ## Capacity -/

/-- No host has more slots in use than it has. -/
def Store.WithinCapacity (st : Store T) : Prop :=
  ∀ h ∈ st.cellHosts, (h.capacityUsed : ℤ) ≤ h.capacityTotal

instance (st : Store T) : Decidable st.WithinCapacity :=
  inferInstanceAs (Decidable (∀ h ∈ st.cellHosts.rows, (h.capacityUsed : ℤ) ≤ h.capacityTotal))

/-- The slots in use of the host with an id. -/
def Store.usedOf (st : Store T) (id : String) : ℕ := (st.capacityOf id).getD 0

/-- The slots of the host with an id. -/
def Store.slotsOf (st : Store T) (id : String) : ℤ := (st.totalOf id).getD 0

theorem Store.withinCapacity_iff {st : Store T} :
    st.WithinCapacity ↔ ∀ id, (st.usedOf id : ℤ) ≤ st.slotsOf id := by
  unfold WithinCapacity usedOf slotsOf capacityOf totalOf
  constructor
  · intro h id
    cases hfind : st.cellHosts.find? id with
    | none => exact le_refl _
    | some host => exact h host (Data.Table.find?_eq_some.mp hfind).1
  · intro h host hhost
    have hid := h host.id
    rw [Data.Table.find?_eq_some.mpr ⟨hhost, rfl⟩] at hid
    exact hid

/-! ## What placing does with the counts -/

/-- The looks and takings of a trace. -/
def slotActs (tr : Trace ι T) : List (Slots.Act ι String) :=
  tr.filterMap fun e =>
    match e with
    | ⟨i, .chooseCellHost, .ok host⟩ => some (.look i host.id host.capacityUsed)
    | ⟨i, .createLease _ hostId _, .ok _⟩ => some (.take i hostId)
    | _ => none

/-- The calls of a placement that has chosen a host, by its id: it leases there. -/
def PlacementMay (chosen : Option String) : Call T → Prop
  | .chooseCellHost => True
  | .createLease _ hostId _ => chosen = some hostId
  | c => c.writes .hosts = false

/-- How a placement goes on after a call. -/
def placementNext (chosen : Option String) : (c : Call T) → Except PyErr c.Ret → Option String
  | .chooseCellHost, .ok host => some host.id
  | _, _ => chosen

/-- Choose a host, then lease it. -/
def placementRole (T : Type) : Role (Option String) (Call T) Call.Ret PyErr where
  init := none
  may := PlacementMay
  next := placementNext

theorem PlacementMay.of_creation {c : Celld} {sid : String} {chosen : Option String} {d : Call T}
    (h : d.ofCreation c sid) : PlacementMay chosen d := by
  cases d <;> first | rfl | exact h.elim

theorem slotActs_choose (tr : Trace ι T) (i : ι) (host : CellHostRow T) :
    slotActs (tr ++ [⟨i, .chooseCellHost, .ok host⟩]) =
      slotActs tr ++ [.look i host.id host.capacityUsed] :=
  List.filterMap_append

theorem slotActs_lease (tr : Trace ι T) (i : ι) (sid hostId token : String) (ttl : Int) :
    slotActs (tr ++ [⟨i, .createLease sid hostId ttl, .ok token⟩]) =
      slotActs tr ++ [.take i hostId] :=
  List.filterMap_append

/-- Other steps neither look nor take. -/
theorem slotActs_other {tr : Trace ι T} {e : Entry ι (Call T) Call.Ret PyErr}
    (hchoose : ∀ i host, e ≠ ⟨i, .chooseCellHost, .ok host⟩)
    (hlease : ∀ i sid hostId ttl token, e ≠ ⟨i, .createLease sid hostId ttl, .ok token⟩) :
    slotActs (tr ++ [e]) = slotActs tr := by
  unfold slotActs
  rw [List.filterMap_append]
  refine (congrArg (_ ++ ·) ?_).trans (List.append_nil _)
  rw [List.filterMap_cons_none, List.filterMap_nil]
  split
  · rename_i i host
    exact absurd rfl (hchoose i host)
  · rename_i i sid hostId ttl token
    exact absurd rfl (hlease i sid hostId ttl token)
  · rfl

section Model

variable [Field T] [LinearOrder T] [IsStrictOrderedRing T] [FloorRing T] (py : Py)

/-- `place_session` chooses a host, then leases it. -/
theorem plays_placement (sid : String) :
    (placementRole T).Plays (exec py) (fun _ _ => True) (Broker.placeSession py sid) none := by
  refine Role.Plays.perform_bind trivial (fun w host hhost => ?_) fun _ _ _ => trivial
  refine Role.Plays.perform_bind rfl (fun w lease hlease => ?_) fun _ _ _ => trivial
  refine Role.Plays.perform_bind rfl (fun w found hfound => ?_) fun _ _ _ => trivial
  cases found with
  | none => trivial
  | some createCell =>
    have hcallback : (placementRole T).Plays (exec py) (fun _ _ => True)
        (Broker.runCallback py sid createCell) (some host.id) := by
      refine Role.Plays.of_calls (Broker.runCallback_within py sid createCell) ?_ fun _ _ => trivial
      rintro q d ⟨c, -, hd⟩
      exact .of_creation hd
    exact Role.Plays.bind hcallback (fun _ _ _ => trivial) fun _ _ _ => trivial

end Model

/-! ## Looks and takings are honest -/

section Runs

variable [DecidableEq ι]

/-- The host each placement has chosen. -/
def chosenAt (tr : Trace ι T) : ι → Option String := Role.localAt (fun _ => placementRole T) tr

/-- Since the state `w`, the counts have followed the takings, and placements
have looked at the hosts they have chosen. -/
structure Counted (w : World T) (p : Moment ι T) : Prop where
  honest : Slots.Honest w.store.usedOf (slotActs p.trace)
  used : ∀ id, p.state.store.usedOf id =
    w.store.usedOf id + Data.Slots.taken (slotActs p.trace) id
  slots : ∀ id, p.state.store.slotsOf id = w.store.slotsOf id
  looked : ∀ i id, chosenAt p.trace i = some id →
    ∃ l, Data.Slots.lastLook (slotActs p.trace) i = some l ∧ l.counter = id

namespace Counted

variable {w : World T} {p : Moment ι T}

theorem start (w : World T) : Counted w (⟨[], w⟩ : Moment ι T) where
  honest := .nil
  used := fun _ => rfl
  slots := fun _ => rfl
  looked := fun _ _ h => nomatch h

/-- A step that changes neither hosts nor looks nor choices. -/
theorem frame (h : Counted w p) {p' : Moment ι T} (hacts : slotActs p'.trace = slotActs p.trace)
    (hhosts : p'.state.store.cellHosts = p.state.store.cellHosts)
    (hchosen : chosenAt p'.trace = chosenAt p.trace) : Counted w p' where
  honest := hacts ▸ h.honest
  used := by
    intro id
    rw [hacts, ← h.used id]
    unfold Store.usedOf Store.capacityOf
    rw [hhosts]
  slots := by
    intro id
    rw [← h.slots id]
    unfold Store.slotsOf Store.totalOf
    rw [hhosts]
  looked := by
    rw [hacts, hchosen]
    exact h.looked

variable [Field T] [LinearOrder T] {py : Py} {i : ι}

/-- A call moves the choice of its thread only. -/
theorem chosenAt_after (c : Call T) :
    chosenAt (p.after (exec py) i c).trace = Function.update (chosenAt p.trace) i
      (placementNext (chosenAt p.trace i) c (exec py c p.state).1) :=
  Role.localAt_after _ (exec py) p i c

/-- Choosing a host is a look at its count. -/
theorem choose (h : Counted w p) : Counted w (p.after (exec py) i .chooseCellHost) := by
  have hchosen : chosenAt (p.after (exec py) i .chooseCellHost).trace = Function.update
      (chosenAt p.trace) i (placementNext (chosenAt p.trace i) .chooseCellHost
        (exec py .chooseCellHost p.state).1) := chosenAt_after .chooseCellHost
  cases hout : p.state.store.chooseCellHost with
  | error e =>
    have hexec : (exec py .chooseCellHost p.state).1 = .error e := hout
    rw [hexec] at hchosen
    refine h.frame ?_ rfl (hchosen.trans (Function.update_eq_self _ _))
    refine slotActs_other (fun j host heq => ?_) fun j sid hostId ttl token heq => ?_
    · have hres := eq_of_heq (Entry.mk.inj heq).2.2
      cases hexec.symm.trans hres
    · cases (Entry.mk.inj heq).2.1
  | ok host =>
    have hexec : (exec py .chooseCellHost p.state).1 = .ok host := hout
    rw [hexec] at hchosen
    have hacts : slotActs (p.after (exec py) i .chooseCellHost).trace =
        slotActs p.trace ++ [.look i host.id host.capacityUsed] := by
      rw [← slotActs_choose]
      show slotActs (p.trace ++ [⟨i, .chooseCellHost, (exec py .chooseCellHost p.state).1⟩]) = _
      rw [hexec]
    -- the row chosen is the row of its id
    have hseen : host.capacityUsed = w.store.usedOf host.id +
        Data.Slots.taken (slotActs p.trace) host.id := by
      rw [← h.used]
      unfold Store.usedOf Store.capacityOf
      rw [Data.Table.find?_eq_some.mpr ⟨(Store.chooseCellHost_ok hout).1, rfl⟩]
      rfl
    constructor
    case honest =>
      rw [hacts, hseen]
      exact h.honest.look i host.id
    case used =>
      intro id
      rw [hacts, Data.Slots.taken_look]
      exact h.used id
    case slots => exact h.slots
    case looked =>
      intro j id hj
      rw [hchosen] at hj
      rw [hacts, Data.Slots.lastLook_append, Data.Slots.watch_look]
      by_cases hij : i = j
      · subst hij
        rw [Function.update_self] at hj
        cases hj
        exact ⟨_, if_pos rfl, rfl⟩
      · rw [Function.update_of_ne (Ne.symm hij)] at hj
        rw [if_neg hij]
        exact h.looked j id hj

/-- A lease of the chosen host is a taking. -/
theorem lease (h : Counted w p) {sid hostId : String} {ttl : Int}
    (hi : chosenAt p.trace i = some hostId) :
    Counted w (p.after (exec py) i (.createLease sid hostId ttl)) := by
  have hchosen : chosenAt (p.after (exec py) i (.createLease sid hostId ttl)).trace =
      chosenAt p.trace := by
    rw [chosenAt_after]
    exact Function.update_eq_self _ _
  have hexec : exec py (.createLease sid hostId ttl) p.state =
      (p.state.draw .leaseToken).commit (p.state.store.createLease p.state.clock
        (p.state.fresh py .leaseToken) sid hostId ttl) := rfl
  cases hout : p.state.store.createLease p.state.clock (p.state.fresh py .leaseToken) sid hostId
      ttl with
  | error e =>
    -- nothing is taken
    rw [hout] at hexec
    refine h.frame ?_ ?_ hchosen
    · refine slotActs_other (fun j host heq => ?_) fun j sid hostId ttl token heq => ?_
      · cases (Entry.mk.inj heq).2.1
      · obtain ⟨-, hcall, hres⟩ := Entry.mk.inj heq
        cases hcall
        rw [hexec] at hres
        cases eq_of_heq hres
    · show (exec py (.createLease sid hostId ttl) p.state).2.store.cellHosts = _
      rw [hexec]
      rfl
  | ok out =>
    obtain ⟨token, st⟩ := out
    rw [hout] at hexec
    have hstate : (p.after (exec py) i (.createLease sid hostId ttl)).state.store = st := by
      show (exec py (.createLease sid hostId ttl) p.state).2.store = st
      rw [hexec]
      rfl
    have hacts : slotActs (p.after (exec py) i (.createLease sid hostId ttl)).trace =
        slotActs p.trace ++ [.take i hostId] := by
      rw [← slotActs_lease p.trace i sid hostId token ttl]
      show slotActs (p.trace ++ [⟨i, .createLease sid hostId ttl,
        (exec py (.createLease sid hostId ttl) p.state).1⟩]) = _
      rw [hexec]
      rfl
    -- the host is the one the thread looked at last
    obtain ⟨l, hl, rfl⟩ := h.looked i hostId hi
    constructor
    case honest =>
      rw [hacts]
      exact h.honest.take hl
    case used =>
      intro id
      rw [hstate, hacts, Data.Slots.taken_take, ← Nat.add_assoc, ← h.used id]
      obtain ⟨host, hhost⟩ := Option.isSome_iff_exists.mp (Store.createLease_ok hout).2.2.1
      unfold Store.usedOf
      rw [Store.createLease_capacityOf hout id]
      by_cases hid : id = l.counter
      · rw [if_pos hid, if_pos hid.symm, hid]
        unfold Store.capacityOf
        rw [hhost]
        rfl
      · rw [if_neg hid, if_neg (Ne.symm hid)]
        rfl
    case slots =>
      intro id
      rw [hstate, ← h.slots id]
      unfold Store.slotsOf
      rw [Store.createLease_totalOf hout id]
    case looked =>
      intro j id hj
      rw [hchosen] at hj
      obtain ⟨l', hl', rfl⟩ := h.looked j id hj
      rw [hacts, Data.Slots.lastLook_append, hl']
      refine ⟨if l'.counter = l.counter then { l' with since := l'.since + 1 } else l', rfl, ?_⟩
      split <;> rfl

/-- One call of a placement. -/
theorem call (h : Counted w p) {c : Call T} (hmay : PlacementMay (chosenAt p.trace i) c) :
    Counted w (p.after (exec py) i c) := by
  by_cases hchoose : c = .chooseCellHost
  · subst hchoose
    exact h.choose
  by_cases hlease : ∃ sid hostId ttl, c = .createLease sid hostId ttl
  · obtain ⟨sid, hostId, ttl, rfl⟩ := hlease
    exact h.lease hmay
  have hquiet : c.writes .hosts = false := by
    cases c with
    | chooseCellHost => rfl
    | createLease sid hostId ttl => exact absurd ⟨sid, hostId, ttl, rfl⟩ hlease
    | _ => exact hmay
  have hnext : placementNext (chosenAt p.trace i) c (exec py c p.state).1 =
      chosenAt p.trace i := by
    cases c with
    | chooseCellHost => exact absurd rfl hchoose
    | _ => rfl
  refine h.frame ?_ (exec_hosts py p.state hquiet) ?_
  · refine slotActs_other (fun j host heq => ?_) fun j sid hostId ttl token heq => ?_
    · exact hchoose (Entry.mk.inj heq).2.1
    · exact hlease ⟨sid, hostId, ttl, (Entry.mk.inj heq).2.1⟩
  · rw [chosenAt_after, hnext]
    exact Function.update_eq_self _ _

end Counted

variable [Field T] [LinearOrder T] [IsStrictOrderedRing T] [FloorRing T] (py : Py)
  {w : World T} {sessions : ι → String} {cfg : Threads ι T Placement}

/-- **Within capacity exactly if every lease is in time.** Let any threads place
any sessions. In the state reached no host is over-committed if and only if none
was at the start and whoever has leased a host since had seen more of its slots
free, when choosing it, than had been leased in between. -/
theorem within_capacity_iff
    (hr : Reach (system ι py) (.start (fun i => Broker.placeSession py (sessions i)) w) cfg) :
    cfg.point.state.store.WithinCapacity ↔
      w.store.WithinCapacity ∧ Slots.Timely w.store.slotsOf (slotActs cfg.point.trace) := by
  have hplay : Role.AllPlay (fun _ => placementRole T) (exec py)
      (fun _ _ (_ : Except PyErr Placement) => True)
      (.start (fun i => Broker.placeSession py (sessions i)) w) :=
    fun i => plays_placement py (sessions i)
  have hcounted : Counted w cfg.point := by
    refine Role.roles_invariant (P := fun p => Counted w p) hplay hr (.start w) ?_ ?_
    · exact fun p i c hp hmay _ => hp.call hmay
    · rintro p _ hp ⟨t, f, -, rfl⟩
      exact hp.frame rfl rfl rfl
  rw [Store.withinCapacity_iff, Store.withinCapacity_iff, ← Data.Slots.within_iff hcounted.honest]
  exact forall_congr' fun id => by rw [hcounted.used, hcounted.slots]

end Runs

/-! ## One slot for two -/

/-- A host with one slot, and two sessions to place. -/
def oneSlot : World ℚ :=
  ((do let _ ← Broker.registerCellHost "cell-local" "local" "inproc://cell" 1
         (.celld (localCelld [])) none
       let _ ← call (.createSession "local" none none .null)
       let _ ← call (.createSession "local" none none .null) : Code ℚ Unit).run (exec Py.sample)
    (World.init (0 : ℚ) Sample.files)).2

/-- Two placements that choose before either leases. -/
def twoPlacements (schedule : List Bool) : Threads Bool ℚ Placement :=
  execute (exec Py.sample) schedule
    (.start (fun b => Broker.placeSession Py.sample (if b then "s" else "s1")) oneSlot)

/-- Both take the one slot. -/
theorem host_overcommitted :
    Reach (system Bool Py.sample)
        (.start (fun b => Broker.placeSession Py.sample (if b then "s" else "s1")) oneSlot)
        (twoPlacements [true, false, true, false]) ∧
      oneSlot.store.WithinCapacity ∧
      ¬ (twoPlacements [true, false, true, false]).point.state.store.WithinCapacity := by
  refine ⟨reach_execute (fun _ _ _ => trivial) _ _, ?_, ?_⟩ <;> decide +kernel

/-- One after the other is in time: the second finds no host. -/
theorem within_capacity_iff_sample :
    (twoPlacements (List.replicate 20 true ++ [false])).point.state.store.WithinCapacity ∧
      Slots.Timely oneSlot.store.slotsOf
        (slotActs (twoPlacements (List.replicate 20 true ++ [false])).point.trace) := by
  have hr : Reach (system Bool Py.sample)
      (.start (fun b => Broker.placeSession Py.sample (if b then "s" else "s1")) oneSlot)
      (twoPlacements (List.replicate 20 true ++ [false])) :=
    reach_execute (fun _ _ _ => trivial) _ _
  have hiff := within_capacity_iff Py.sample hr
  have hwithin : (twoPlacements (List.replicate 20 true ++
      [false])).point.state.store.WithinCapacity := by decide +kernel
  exact ⟨hwithin, (hiff.mp hwithin).2⟩

end Nadi
