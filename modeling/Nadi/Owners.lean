import Nadi.Effect.Role
import Nadi.Model.Operations
import Nadi.Model.Rows
import Nadi.Model.Sample
import Nadi.Model.Surroundings
import Mathlib.Data.Rat.Floor
import Mathlib.Logic.Encodable.Basic
import Mathlib.Logic.Equiv.List

/-!
# One owner per session

Any number of cell hosts, each with a `Celld` of its own. A cell is registered
either by the callback of the host for which the lease has just been taken, or
by the `celld` found under the host of a route; in both cases under the host that
the lease names, and no lease of a session is ever replaced.

- `one_owner`: in every state reached, live cells and claimed commands are with
  the host of the lease.
-/

namespace Nadi

open Effect

variable {T ι : Type}

/-! ## A fleet -/

/-- The hosts of a fleet and their daemons. -/
structure Fleet where
  celldOf : String → Celld
  hostId_celldOf : ∀ h, (celldOf h).hostId = h
  ref_inj : ∀ h h', (celldOf h).ref = (celldOf h').ref → h = h'

/-- Operations on a fleet: a host is registered with its own `celld` only. -/
def Operation.ofFleet (fleet : Fleet) : Operation → Prop
  | .registerCellHost hostId _ _ _ callback objectRef =>
    callback = .celld (fleet.celldOf hostId) ∧ objectRef = some (fleet.celldOf hostId)
  | .placeSession _ => False
  | .createCell .. => False
  | .reconstructCell .. => False
  | .consumeCommands .. => False
  | _ => True

/-- What the broker has been told of. -/
structure Fleet.Registered (fleet : Fleet) (w : World T) : Prop where
  callbacks : ∀ h createCell, w.callbacks h = some createCell →
    createCell = .celld (fleet.celldOf h)
  objects : ∀ h celld, w.objects h = some celld → celld = fleet.celldOf h

/-- Live cells are with the owner of their session. -/
def Fleet.Houses (fleet : Fleet) (w : World T) : Prop :=
  ∀ ref sid cell, w.cells ref sid = some cell →
    ∃ h, w.store.ownerOf sid = some h ∧ ref = (fleet.celldOf h).ref

/-- Commands that are no longer pending have been claimed, by the owner of their
session. -/
def Store.Assigned (st : Store T) : Prop :=
  ∀ row ∈ st.commandInbox, (row.status ≠ .pending → row.claimedBy ≠ none) ∧
    ∀ h, row.claimedBy = some h → st.ownerOf row.sessionId = some h

/-- A command with the id has been claimed. -/
def Store.Taken (st : Store T) (id : ℕ) : Prop :=
  ∃ row ∈ st.commandInbox, row.id = id ∧ row.claimedBy ≠ none

/-! ## What calls keep -/

section Keep

variable [Field T] [LinearOrder T] (py : Py) {c : Call T} {w : World T} {sid h : String}

/-- A session has the owner it has until another lease is taken for it. -/
theorem exec_ownerOf (hc : ∀ id ttl, c ≠ .createLease sid id ttl)
    (howner : w.store.ownerOf sid = some h) : (exec py c w).2.store.ownerOf sid = some h := by
  obtain ⟨l, hl, hhost⟩ := Option.bind_eq_some_iff.mp howner
  refine Option.bind_eq_some_iff.mpr ⟨l, ?_, exec_hostOf py c hhost⟩
  cases c with
  | createLease s id ttl =>
    have hne : s ≠ sid := fun heq => hc id ttl (heq ▸ rfl)
    refine World.commit_store (w := w.draw .leaseToken)
      (P := fun st => st.sessionLeases.find? sid = some l) hl fun b st hr => ?_
    rw [Store.createLease_lease hr, if_neg hne]
    exact hl
  | _ =>
    rw [exec_leases py w rfl]
    exact hl

/-- A session has no lease until one is taken for it. -/
theorem exec_noLease (hc : ∀ id ttl, c ≠ .createLease sid id ttl)
    (hnone : w.store.sessionLeases.find? sid = none) :
    (exec py c w).2.store.sessionLeases.find? sid = none := by
  cases c with
  | createLease s id ttl =>
    have hne : s ≠ sid := fun heq => hc id ttl (heq ▸ rfl)
    refine World.commit_store (w := w.draw .leaseToken)
      (P := fun st => st.sessionLeases.find? sid = none) hnone fun b st hr => ?_
    rw [Store.createLease_lease hr, if_neg hne]
    exact hnone
  | _ =>
    rw [exec_leases py w rfl]
    exact hnone

omit [Field T] [LinearOrder T] in
theorem Store.ownerOf_eq_none {st : Store T} (hnone : st.sessionLeases.find? sid = none) :
    st.ownerOf sid = none := by
  unfold Store.ownerOf
  rw [hnone]
  rfl

/-- A claim is never taken back. -/
theorem exec_taken (c : Call T) {id : ℕ} (htaken : w.store.Taken id) :
    (exec py c w).2.store.Taken id := by
  obtain ⟨row, hrow, hid, hclaimed⟩ := htaken
  cases c with
  | enqueueCommand s commandType payload actor =>
    refine World.commit_store (w := w) (P := fun st => st.Taken id) ⟨row, hrow, hid, hclaimed⟩
      fun b st hr => ?_
    obtain ⟨-, -, -, -, rfl⟩ := Store.enqueueCommand_ok hr
    exact ⟨row, List.mem_append_left _ hrow, hid, hclaimed⟩
  | claimPendingCommands s claimedBy =>
    refine ⟨_, List.mem_map_of_mem hrow, ?_, ?_⟩
    · split <;> exact hid
    · split
      · nofun
      · exact hclaimed
  | completeCommand n =>
    refine ⟨_, List.mem_map_of_mem hrow, ?_, ?_⟩
    · split <;> exact hid
    · split <;> exact hclaimed
  | _ =>
    unfold Store.Taken
    rw [exec_inbox py w rfl]
    exact ⟨row, hrow, hid, hclaimed⟩

end Keep

/-! ## What a thread has been told -/

/-- What a thread knows: the session it has created and not leased yet, the row
and the name of the host it has chosen, the owners of sessions, the daemons of
hosts, and the commands it has claimed. -/
structure Duty where
  mine : Option String
  chosen : Option (String × String)
  known : List (String × String)
  told : List (String × Celld)
  taken : List ℕ

namespace Duty

/-- What is learnt from a call. -/
def next (q : Duty) (c : Call T) (r : Except PyErr c.Ret) : Duty :=
  match c, r with
  | .createSession .., .ok sid => { q with mine := some sid }
  | .chooseCellHost, .ok row => { q with chosen := some (row.id, row.hostId) }
  | .createLease sid .., .ok _ =>
    { q with
      mine := none
      known := (q.chosen.toList.map fun host => (sid, host.2)) ++ q.known }
  | .getRoute sid, .ok (some route) => { q with known := (sid, route.hostId) :: q.known }
  | .callback h, .ok (some (.celld celld)) => { q with told := (h, celld) :: q.told }
  | .object h, .ok (some celld) => { q with told := (h, celld) :: q.told }
  | .claimPendingCommands .., .ok commands =>
    { q with taken := commands.map CommandRow.id ++ q.taken }
  | _, _ => q

/-- The thread knows that the `celld` is that of the owner of the session. -/
def Serves (q : Duty) (sid : String) (celld : Celld) : Prop :=
  ∃ h, (sid, h) ∈ q.known ∧ (h, celld) ∈ q.told

variable {q : Duty} (c : Call T) (r : Except PyErr c.Ret)

/-- Nothing is forgotten. -/
theorem next_grows : q.known ⊆ (q.next c r).known ∧ q.told ⊆ (q.next c r).told ∧
    q.taken ⊆ (q.next c r).taken := by
  unfold next
  split
  all_goals
    refine ⟨?_, ?_, ?_⟩
    all_goals first
      | exact List.Subset.refl _
      | exact List.subset_cons_self _ _
      | exact List.subset_append_right _ _

theorem Serves.next {sid : String} {celld : Celld} (h : q.Serves sid celld) :
    (q.next c r).Serves sid celld := by
  obtain ⟨host, hknown, htold⟩ := h
  exact ⟨host, (next_grows c r).1 hknown, (next_grows c r).2.1 htold⟩

end Duty

/-- The calls that anyone may make at any time. -/
def Call.free : Call T → Prop
  | .createLease .. => False
  | .cellsSet .. => False
  | .claimPendingCommands .. => False
  | .completeCommand _ => False
  | .setCallback .. => False
  | .setObject .. => False
  | _ => True

/-- A lease is taken for a session of one's own, on the host chosen; cells are
registered and commands claimed for the owner of the session, and only claimed
commands completed; a host is registered with its own `celld`. -/
def ownersRole (fleet : Fleet) : Role Duty (Call T) Call.Ret PyErr where
  init := ⟨none, none, [], [], []⟩
  may q c :=
    match c with
    | .createLease sid id _ => q.mine = some sid ∧ ∃ h, q.chosen = some (id, h)
    | .cellsSet ref sid _ => ∃ celld, q.Serves sid celld ∧ celld.ref = ref
    | .claimPendingCommands sid claimedBy =>
      ∃ celld, q.Serves sid celld ∧ celld.hostId = claimedBy
    | .completeCommand id => id ∈ q.taken
    | .setCallback h createCell => createCell = .celld (fleet.celldOf h)
    | .setObject h celld => celld = fleet.celldOf h
    | _ => True
  next := Duty.next

theorem Call.free.may {fleet : Fleet} {q : Duty} {c : Call T} (hc : c.free) :
    (ownersRole fleet).may q c := by
  cases c <;> first | exact hc.elim | trivial

/-! ## Operations play -/

section Plays

variable {fleet : Fleet} {q : Duty} {α : Type} {post : α → Prop} {p : Code T α} {sid : String}
  {celld : Celld}

section Kinds

variable {c : Call T}

theorem Call.ofRouting.free (h : c.ofRouting sid) : c.free := by
  cases c <;> first | exact h.elim | trivial

theorem Call.ofDestruction.free (h : c.ofDestruction celld sid) : c.free := by
  cases c <;> first | exact h.elim | trivial

/-- A host is registered with its own `celld`. -/
theorem Call.ofRegistration.may {hostId : String} (h : c.ofRegistration hostId
    (.celld (fleet.celldOf hostId)) (some (fleet.celldOf hostId))) :
    (ownersRole fleet).may q c := by
  cases c with
  | setCallback =>
    obtain ⟨rfl, rfl⟩ := h
    rfl
  | setObject =>
    obtain ⟨rfl, h⟩ := h
    exact (Option.some.inj h).symm
  | _ => first | exact h.elim | trivial

theorem Call.ofCell.may (h : c.ofCell celld sid) (hq : q.Serves sid celld) :
    (ownersRole fleet).may q c := by
  cases c with
  | cellsSet =>
    obtain ⟨rfl, rfl⟩ := h
    exact ⟨celld, hq, rfl⟩
  | _ => first | exact h.elim | trivial

theorem Call.ofCreation.may (h : c.ofCreation celld sid) (hq : q.Serves sid celld) :
    (ownersRole fleet).may q c := by
  cases c with
  | cellsSet =>
    obtain ⟨rfl, rfl⟩ := h
    exact ⟨celld, hq, rfl⟩
  | _ => first | exact h.elim | trivial

theorem Call.ofLoop.may {ids : ℕ → Prop} (h : c.ofLoop celld sid ids)
    (hq : ∀ id, ids id → id ∈ q.taken) : (ownersRole fleet).may q c := by
  cases c with
  | completeCommand id => exact hq id h
  | createLease | cellsSet | claimPendingCommands | setCallback | setObject =>
    exact (h.elim (fun h => h) fun h => h).elim
  | _ => trivial

end Kinds

variable [Field T] [LinearOrder T] (py : Py)

/-- Calls that anyone may make. -/
theorem Fleet.plays_free (hp : p.Within Call.free post) :
    (ownersRole fleet).Plays (exec py) (fun _ _ => True) p q :=
  .of_calls hp (fun _ _ hc => hc.may) fun _ _ => trivial

/-- Whoever gets a `celld` for a session knows that it is the owner's. -/
theorem Fleet.plays_celldForRoute :
    (ownersRole fleet).Plays (exec py) (fun q' r => ∀ celld, r = .ok celld → q'.Serves sid celld)
      (Broker.celldForRoute sid : Code T Celld) q := by
  refine .perform_bind trivial (fun s found _ => ?_) fun _ _ _ _ h => nomatch h
  cases found with
  | none => exact fun _ h => nomatch h
  | some route =>
    refine .perform_bind trivial (fun s object _ => ?_) fun _ _ _ _ h => nomatch h
    cases object with
    | none => exact fun _ h => nomatch h
    | some celld =>
      intro _ hcelld
      cases hcelld
      exact ⟨route.hostId, List.mem_cons_self, List.mem_cons_self⟩

variable [IsStrictOrderedRing T] [FloorRing T]

/-- The owner of a session consumes its commands. -/
theorem Fleet.plays_consumeCommands (hq : q.Serves sid celld) :
    (ownersRole fleet).Plays (exec py) (fun _ _ => True)
      (celld.consumeCommands py sid : Code T (List Event)) q := by
  have hlive : (ownersRole fleet).Plays (exec py) (fun q' _ => q'.Serves sid celld)
      (celld.liveCell py sid : Code T Cell) q :=
    (Role.Plays.of_kept (I := fun q' => q'.Serves sid celld) (celld.liveCell_within py sid) hq
      (fun _ _ hq hc => hc.may hq) fun _ c r hq _ => hq.next c r).weaken fun _ _ h => h.1
  refine hlive.bind (fun q' cell hq' => ?_) fun _ _ _ => trivial
  refine .perform_bind ⟨celld, hq', rfl⟩ (fun s commands _ => ?_) fun _ _ _ => trivial
  -- the ids of the batch are known from here on
  refine (Role.Plays.of_kept (I := fun q => ∀ id, (∃ cmd ∈ commands, cmd.id = id) → id ∈ q.taken)
    (celld.consumeLoop_within py sid cell.jwt commands) ?_ (fun _ _ hq hc => hc.may hq) ?_).weaken
    fun _ _ _ => trivial
  · rintro id ⟨cmd, hcmd, rfl⟩
    exact List.mem_append_left _ (List.mem_map_of_mem hcmd)
  · exact fun q c r hq _ id hid => (Duty.next_grows c r).2.2 (hq id hid)

/-- A session of one's own is placed with the host chosen. -/
theorem Fleet.plays_placeSession (hq : q.mine = some sid) :
    (ownersRole fleet).Plays (exec py) (fun _ _ => True)
      (Broker.placeSession py sid : Code T Placement) q := by
  refine .perform_bind trivial (fun s host _ => ?_) fun _ _ _ => trivial
  refine .perform_bind ⟨hq, host.hostId, rfl⟩ (fun s lease _ => ?_) fun _ _ _ => trivial
  refine .perform_bind trivial (fun s found _ => ?_) fun _ _ _ => trivial
  cases found with
  | none => trivial
  | some createCell =>
    cases createCell with
    | raises e => trivial
    | celld celld =>
      have hserves : ((((ownersRole fleet).next ((ownersRole fleet).next
          ((ownersRole fleet).next q (.chooseCellHost : Call T) (.ok host))
          (.createLease sid host.id 3600 : Call T) (.ok lease))
          (.callback host.hostId : Call T) (.ok (some (.celld celld)))))).Serves sid celld :=
        ⟨host.hostId, List.mem_cons_self, List.mem_cons_self⟩
      have hcreate := Role.Plays.of_kept (ρ := ownersRole fleet) (h := exec py)
        (I := fun q' => q'.Serves sid celld) (celld.createCell_within (T := T) py sid) hserves
        (fun _ _ hq hc => hc.may hq) fun _ c r hq _ => hq.next c r
      refine Role.Plays.bind (M := fun _ _ => True) ?_ (fun _ _ _ => trivial) fun _ _ _ => trivial
      exact hcreate.bind (fun _ _ _ => trivial) fun _ _ _ => trivial

theorem Fleet.plays_channelSession (request : ChannelRequest) :
    (ownersRole fleet).Plays (exec py) (fun _ _ => True)
      (request.run py : Code T ChannelSession) q := by
  have hnamed : (Gateway.resourceId request.platform request.initiatorResourceId :
      Code T String).Within Call.free fun _ => True :=
    (Gateway.resourceId_within _ _).mono_calls fun _ h => h ▸ trivial
  refine (Fleet.plays_free py hnamed).bind (fun q' resourceId _ => ?_) fun _ _ _ => trivial
  refine .perform_bind trivial (fun s new _ => ?_) fun _ _ _ => trivial
  refine Role.Plays.tryCatch (M := fun _ _ => True) ?_ (fun _ _ _ => trivial) fun q'' e _ => ?_
  · refine (Fleet.plays_placeSession py rfl).bind (fun q'' placement _ => ?_) fun _ _ _ => trivial
    refine .perform_bind trivial (fun s answer _ => ?_) fun _ _ _ => trivial
    obtain ⟨actualSid, cid, created⟩ := answer
    cases created with
    | true => trivial
    | false => exact .perform_bind trivial (fun _ _ _ => trivial) fun _ _ _ => trivial
  · exact .perform_bind trivial (fun _ _ _ => trivial) fun _ _ _ => trivial

/-- **Operations on a fleet** play the role. -/
theorem Fleet.plays_operation {op : Operation} (hop : op.ofFleet fleet) :
    (ownersRole fleet).Plays (exec py) (fun _ _ => True) (op.code py : Code T Unit) q := by
  have hdrop : ∀ {α : Type} {p : Code T α},
      (ownersRole fleet).Plays (exec py) (fun _ _ => True) p q →
      (ownersRole fleet).Plays (exec py) (fun _ _ => True) (p.bind fun _ => .pure ()) q :=
    fun hp => hp.bind (fun _ _ _ => trivial) fun _ _ _ => trivial
  cases op with
  | registerCellHost hostId zone address capacityTotal createCell objectRef =>
    obtain ⟨rfl, rfl⟩ := hop
    exact hdrop (.of_calls (Broker.registerCellHost_within hostId zone address capacityTotal _ _)
      (fun _ _ hc => hc.may) fun _ _ => trivial)
  | registerSandboxHost hostId zone address =>
    have hcall : (Broker.registerSandboxHost hostId zone address : Code T String).Within
        Call.free fun _ => True := .perform trivial fun _ => trivial
    exact hdrop (Fleet.plays_free py hcall)
  | createSession tenantId metadata =>
    have hplaced : (ownersRole fleet).Plays (exec py) (fun _ _ => True)
        (Gateway.createSession py tenantId metadata : Code T Created) q := by
      refine .perform_bind trivial (fun s new _ => ?_) fun _ _ _ => trivial
      exact (Fleet.plays_placeSession py rfl).bind (fun _ _ _ => trivial) fun _ _ _ => trivial
    exact hdrop hplaced
  | placeSession s => exact hop.elim
  | channelSession request => exact hdrop (Fleet.plays_channelSession py request)
  | sendCommand s commandType payload actor =>
    have hsent : (ownersRole fleet).Plays (exec py) (fun _ _ => True)
        (Gateway.sendCommand py s commandType payload actor : Code T Sent) q := by
      have hroute := (Gateway.route_within (T := T) s).mono_calls fun _ h => h.free
      refine (Fleet.plays_free py hroute).bind (fun q' route _ => ?_) fun _ _ _ => trivial
      refine .perform_bind trivial (fun _ commandId _ => ?_) fun _ _ _ => trivial
      refine (Fleet.plays_celldForRoute py).bind (fun q'' celld hserves => ?_) fun _ _ _ => trivial
      exact (Fleet.plays_consumeCommands py (hserves celld rfl)).bind (fun _ _ _ => trivial)
        fun _ _ _ => trivial
    exact hdrop hsent
  | enqueueCommand s commandType payload actor =>
    have hcall : (call (.enqueueCommand s commandType payload actor) : Code T ℕ).Within
        Call.free fun _ => True := .perform trivial fun _ => trivial
    exact hdrop (Fleet.plays_free py hcall)
  | getSessionEvents s after =>
    have hread : (Gateway.getSessionEvents s after : Code T (List (EventRow T))).Within
        Call.free fun _ => True :=
      Gateway.getSessionEvents_calls (fun _ h => h.free) trivial
    exact hdrop (Fleet.plays_free py hread)
  | createCell celld s => exact hop.elim
  | reconstructCell celld s => exact hop.elim
  | consumeCommands celld s => exact hop.elim
  | destroyCell celld s =>
    exact Fleet.plays_free py ((celld.destroyCell_within py s).mono_calls fun _ h => h.free)

theorem Fleet.plays_operations {ops : List Operation} (hops : ∀ op ∈ ops, op.ofFleet fleet) :
    (ownersRole fleet).Plays (exec py) (fun _ _ => True) (runOperations py ops : Code T Unit) q := by
  induction ops generalizing q with
  | nil => trivial
  | cons op rest ih =>
    have hserved : (ownersRole fleet).Plays (exec py) (fun _ _ => True)
        ((op.code py : Code T Unit).tryCatch fun _ => .pure ()) q :=
      (Fleet.plays_operation py (hops op List.mem_cons_self)).tryCatch
        (fun _ _ _ => trivial) fun _ _ _ => trivial
    exact hserved.bind (fun q' _ _ => ih fun o ho => hops o (List.mem_cons_of_mem _ ho))
      fun _ _ _ => trivial

end Plays

/-! ## What holds along a run -/

section Runs

variable [Field T] [LinearOrder T] (py : Py) (fleet : Fleet)

/-- What a thread knows is true. -/
structure Duty.Sound (w : World T) (q : Duty) : Prop where
  mine : ∀ sid, q.mine = some sid →
    w.store.hasSession sid = true ∧ w.store.sessionLeases.find? sid = none
  chosen : ∀ id h, q.chosen = some (id, h) → w.store.hostOf id = some h
  known : ∀ sid h, (sid, h) ∈ q.known → w.store.ownerOf sid = some h
  told : ∀ h celld, (h, celld) ∈ q.told → celld = fleet.celldOf h
  taken : ∀ id ∈ q.taken, w.store.Taken id

/-- The state of a fleet. -/
structure Fleet.Settled (w : World T) : Prop where
  linked : w.store.Linked
  registered : fleet.Registered w
  houses : fleet.Houses w
  assigned : w.store.Assigned

variable {py fleet} {w : World T} {q q' : Duty} {c : Call T}

omit [Field T] [LinearOrder T] in
/-- Whoever knows the owner of a session and its daemon knows the fleet's. -/
theorem Duty.Serves.owner (hq : q.Sound fleet w) {sid : String} {celld : Celld}
    (h : q.Serves sid celld) : ∃ host, w.store.ownerOf sid = some host ∧
      celld = fleet.celldOf host := by
  obtain ⟨host, hknown, htold⟩ := h
  exact ⟨host, hq.known sid host hknown, hq.told host celld htold⟩

/-- A session that has an owner is not leased again. -/
theorem ownerOf_kept (hq : q.Sound fleet w) (hmay : (ownersRole fleet).may q c) {sid h : String}
    (howner : w.store.ownerOf sid = some h) : (exec py c w).2.store.ownerOf sid = some h := by
  refine exec_ownerOf py ?_ howner
  rintro id ttl rfl
  cases howner.symm.trans (Store.ownerOf_eq_none (hq.mine sid hmay.1).2)

/-- What a thread knows stays true, but of the sessions it has not leased. -/
theorem Duty.Sound.exec (hq : q.Sound fleet w) (hmay : (ownersRole fleet).may q c)
    (hother : q'.Sound fleet w) (hne : ∀ sid id ttl, c = .createLease sid id ttl →
      q'.mine ≠ some sid) : q'.Sound fleet (exec py c w).2 where
  mine sid hmine := by
    obtain ⟨hses, hnone⟩ := hother.mine sid hmine
    refine ⟨exec_hasSession py c hses, exec_noLease py ?_ hnone⟩
    exact fun id ttl heq => hne sid id ttl heq hmine
  chosen id h hchosen := exec_hostOf py c (hother.chosen id h hchosen)
  known sid h hknown := ownerOf_kept hq hmay (hother.known sid h hknown)
  told := hother.told
  taken id hid := exec_taken py c (hother.taken id hid)

/-- A host is registered with its own `celld` only. -/
theorem Fleet.Registered.exec (hw : fleet.Registered w) (hmay : (ownersRole fleet).may q c) :
    fleet.Registered (exec py c w).2 := by
  cases c with
  | setCallback h createCell =>
    refine ⟨fun h' createCell' hget => ?_, hw.objects⟩
    have hset : (Nadi.exec py (.setCallback h createCell) w).2.callbacks h' =
        if h' = h then some createCell else w.callbacks h' := Function.update_apply _ _ _ _
    rw [hset] at hget
    split at hget
    · rename_i heq
      cases hget
      exact heq ▸ hmay
    · exact hw.callbacks h' createCell' hget
  | setObject h celld =>
    refine ⟨hw.callbacks, fun h' celld' hget => ?_⟩
    have hset : (Nadi.exec py (.setObject h celld) w).2.objects h' =
        if h' = h then some celld else w.objects h' := Function.update_apply _ _ _ _
    rw [hset] at hget
    split at hget
    · rename_i heq
      cases hget
      exact heq ▸ hmay
    · exact hw.objects h' celld' hget
  | _ =>
    refine ⟨?_, ?_⟩
    · rw [exec_callbacks py w rfl]
      exact hw.callbacks
    · rw [exec_objects py w rfl]
      exact hw.objects

/-- A cell is registered for the owner of its session, who stays the owner. -/
theorem Fleet.Houses.exec (hw : fleet.Houses w) (hq : q.Sound fleet w)
    (hmay : (ownersRole fleet).may q c) : fleet.Houses (exec py c w).2 := by
  intro ref sid cell hcell
  have hold : w.cells ref sid = some cell →
      ∃ h, (Nadi.exec py c w).2.store.ownerOf sid = some h ∧ ref = (fleet.celldOf h).ref := by
    intro hcell
    obtain ⟨h, howner, href⟩ := hw ref sid cell hcell
    exact ⟨h, ownerOf_kept hq hmay howner, href⟩
  cases c with
  | cellsSet ref' sid' cell' =>
    rw [exec_cellsSet_cells] at hcell
    split at hcell
    · rename_i hsame
      obtain ⟨rfl, rfl⟩ := hsame
      obtain ⟨celld, hserves, href⟩ := hmay
      obtain ⟨h, howner, rfl⟩ := hserves.owner hq
      exact ⟨h, howner, href.symm⟩
    · exact hold hcell
  | cellsPop ref' sid' =>
    rw [exec_cellsPop_cells] at hcell
    split at hcell
    · cases hcell
    · exact hold hcell
  | _ =>
    rw [exec_cells py w rfl] at hcell
    exact hold hcell

variable (py) in
/-- A command that is enqueued is pending, and nobody has claimed it. -/
theorem exec_enqueueCommand_row {s commandType : String} {payload : Json} {actor : Option String}
    {row : CommandRow T}
    (hrow : row ∈ (exec py (.enqueueCommand s commandType payload actor) w).2.store.commandInbox) :
    row ∈ w.store.commandInbox ∨ row.status = .pending ∧ row.claimedBy = none := by
  refine World.commit_store (w := w) (P := fun st => row ∈ st.commandInbox →
    row ∈ w.store.commandInbox ∨ row.status = .pending ∧ row.claimedBy = none)
    (fun h => .inl h) (fun b st hr hrow => ?_) hrow
  obtain ⟨-, -, -, -, rfl⟩ := Store.enqueueCommand_ok hr
  rcases List.mem_append.mp hrow with hrow | hnew
  · exact .inl hrow
  · rw [List.mem_singleton.mp hnew]
    exact .inr ⟨rfl, rfl⟩

/-- Commands are claimed for the owner of their session, who stays the owner. -/
theorem Store.Assigned.exec (hw : w.store.Assigned) (hq : q.Sound fleet w)
    (hmay : (ownersRole fleet).may q c) : (exec py c w).2.store.Assigned := by
  have hkept : ∀ {sid h}, w.store.ownerOf sid = some h →
      (Nadi.exec py c w).2.store.ownerOf sid = some h := ownerOf_kept hq hmay
  have hold : ∀ row ∈ w.store.commandInbox, (row.status ≠ .pending → row.claimedBy ≠ none) ∧
      ∀ h, row.claimedBy = some h →
        (Nadi.exec py c w).2.store.ownerOf row.sessionId = some h :=
    fun row hrow => ⟨(hw row hrow).1, fun h hh => hkept ((hw row hrow).2 h hh)⟩
  intro row hrow
  cases c with
  | enqueueCommand s commandType payload actor =>
    rcases exec_enqueueCommand_row py hrow with hrow | ⟨hstatus, hnone⟩
    · exact hold row hrow
    · exact ⟨fun hne => absurd hstatus hne, fun h hh => nomatch hnone.symm.trans hh⟩
  | claimPendingCommands s claimedBy =>
    obtain ⟨celld, hserves, rfl⟩ := hmay
    obtain ⟨host, howner, rfl⟩ := hserves.owner hq
    obtain ⟨row₀, hrow₀, rfl⟩ := List.mem_map.mp hrow
    split
    · rename_i hmine
      refine ⟨fun _ => nofun, fun h hh => ?_⟩
      obtain rfl : row₀.sessionId = s := by simpa using (Bool.and_eq_true_iff.mp hmine).1
      cases hh
      rw [fleet.hostId_celldOf]
      exact hkept howner
    · exact hold row₀ hrow₀
  | completeCommand id =>
    obtain ⟨row₀, hrow₀, rfl⟩ := List.mem_map.mp hrow
    split
    -- what is completed has been claimed
    · rename_i hid
      obtain ⟨claimed, hclaimed, hid', hby⟩ := hq.taken id hmay
      obtain rfl := Data.Serial.eq_of_id hrow₀ hclaimed ((beq_iff_eq.mp hid).trans hid'.symm)
      exact ⟨fun _ => hby, (hold row₀ hrow₀).2⟩
    · exact hold row₀ hrow₀
  | _ =>
    rw [exec_inbox py w rfl] at hrow
    exact hold row hrow

/-- The state of a fleet is kept. -/
theorem Fleet.Settled.exec (hw : fleet.Settled w) (hq : q.Sound fleet w)
    (hmay : (ownersRole fleet).may q c) : fleet.Settled (exec py c w).2 where
  linked := exec_linked py c hw.linked
  registered := hw.registered.exec hmay
  houses := hw.houses.exec hq hmay
  assigned := hw.assigned.exec hq hmay

/-! ### What is learnt is true -/

section Learning

omit [Field T] [LinearOrder T] in
theorem Duty.Sound.know (hq : q.Sound fleet w) {sid h : String}
    (howner : w.store.ownerOf sid = some h) :
    Duty.Sound fleet w { q with known := (sid, h) :: q.known } := by
  refine ⟨hq.mine, hq.chosen, fun sid' h' hknown => ?_, hq.told, hq.taken⟩
  rcases List.mem_cons.mp hknown with heq | hknown
  · cases heq
    exact howner
  · exact hq.known sid' h' hknown

omit [Field T] [LinearOrder T] in
theorem Duty.Sound.tell (hq : q.Sound fleet w) (h : String) :
    Duty.Sound fleet w { q with told := (h, fleet.celldOf h) :: q.told } := by
  refine ⟨hq.mine, hq.chosen, hq.known, fun h' celld htold => ?_, hq.taken⟩
  rcases List.mem_cons.mp htold with heq | htold
  · cases heq
    rfl
  · exact hq.told h' celld htold

/-- A session that has just been created has no lease: that would be of a session there has
been. -/
theorem exec_createSession_unleased (hlinked : w.store.Linked) {tenantId : String}
    {externalId profileBundle : Option String} {metadata : Json} {s : String}
    (hres : (exec py (.createSession tenantId externalId profileBundle metadata) w).1 = .ok s) :
    (exec py (.createSession tenantId externalId profileBundle metadata) w).2.store.hasSession s =
      true ∧
    (exec py (.createSession tenantId externalId profileBundle metadata)
      w).2.store.sessionLeases.find? s = none := by
  refine ⟨?_, exec_noLease py (fun _ _ => nofun) (Data.Table.find?_eq_none.mpr fun l hl hsid => ?_)⟩
  · obtain ⟨st, hok, hstore⟩ := World.commit_ok hres
    refine (congrArg (fun w' : World T => w'.store.hasSession s) hstore).trans ?_
    obtain ⟨rfl, sessions, hins, rfl⟩ := Store.createSession_ok hok
    exact Data.Table.find?_isSome.mpr ⟨_, (Data.Table.mem_of_insert? hins).mpr (.inr rfl), rfl⟩
  · have hses : w.store.hasSession l.sessionId = true := (hlinked l hl).1
    have hsid : l.sessionId = s := hsid
    rw [hsid, exec_createSession_new py hres] at hses
    cases hses

/-- The owner of a session is the host its lease is taken on. -/
theorem exec_createLease_ownerOf {sid id h : String} {ttl : ℤ} {token : String}
    (hhost : w.store.hostOf id = some h)
    (hres : (exec py (.createLease sid id ttl) w).1 = .ok token) :
    (exec py (.createLease sid id ttl) w).2.store.ownerOf sid = some h := by
  obtain ⟨st, hok, hstore⟩ := World.commit_ok hres
  have hst : (exec py (.createLease sid id ttl) w).2.store = st := congrArg World.store hstore
  have hlease : (exec py (.createLease sid id ttl) w).2.store.sessionLeases.find? sid =
      some (Store.newLease w.clock (w.fresh py .leaseToken) sid id ttl) := by
    rw [hst, Store.createLease_lease hok, if_pos rfl]
  exact Option.bind_eq_some_iff.mpr ⟨_, hlease, exec_hostOf py _ hhost⟩

/-- Whoever takes a lease has none to take any more, and knows who owns the session. -/
theorem Duty.Sound.leases (hq : q.Sound fleet w) {sid id : String} {ttl : ℤ}
    (hmay : (ownersRole fleet).may q (.createLease sid id ttl : Call T)) :
    (q.next (.createLease sid id ttl) (Nadi.exec py (.createLease sid id ttl) w).1).Sound fleet
      (Nadi.exec py (.createLease sid id ttl) w).2 := by
  cases hres : (Nadi.exec py (.createLease sid id ttl) w).1 with
  | error e =>
    have hstate : (Nadi.exec py (.createLease sid id ttl) w).2 = w.draw .leaseToken :=
      (World.commit_error hres).2
    rw [hstate]
    exact ⟨hq.mine, hq.chosen, hq.known, hq.told, hq.taken⟩
  | ok token =>
    have hmine := hmay
    obtain ⟨-, host, hchosen⟩ := hmine
    have hunleased : ({ q with mine := none } : Duty).Sound fleet w :=
      ⟨nofun, hq.chosen, hq.known, hq.told, hq.taken⟩
    have hold : ({ q with mine := none } : Duty).Sound fleet
        (Nadi.exec py (.createLease sid id ttl) w).2 :=
      hq.exec hmay hunleased fun _ _ _ _ => nofun
    have hknow := hold.know (exec_createLease_ownerOf (hq.chosen id host hchosen) hres)
    refine ⟨hknow.mine, hknow.chosen, fun sid' h hin => hknow.known sid' h ?_, hknow.told,
      hknow.taken⟩
    have hlearnt : (q.next (.createLease sid id ttl : Call T) (.ok token)).known =
        (sid, host) :: q.known := by
      unfold Duty.next
      rw [hchosen]
      rfl
    exact hlearnt ▸ hin

/-- Whoever claims a batch knows that it has been claimed. -/
theorem Duty.Sound.claims (hw : fleet.Settled w) (hq : q.Sound fleet w) {sid claimedBy : String}
    (hmay : (ownersRole fleet).may q (.claimPendingCommands sid claimedBy : Call T)) :
    (q.next (.claimPendingCommands sid claimedBy)
      (Nadi.exec py (.claimPendingCommands sid claimedBy) w).1).Sound fleet
        (Nadi.exec py (.claimPendingCommands sid claimedBy) w).2 := by
  have hafter : fleet.Settled (Nadi.exec py (.claimPendingCommands sid claimedBy) w).2 :=
    hw.exec hq hmay
  have hold : q.Sound fleet (Nadi.exec py (.claimPendingCommands sid claimedBy) w).2 :=
    hq.exec hmay hq fun _ _ _ => nofun
  refine ⟨hold.mine, hold.chosen, hold.known, hold.told, fun id hid => ?_⟩
  rcases List.mem_append.mp hid with hid | hid
  · obtain ⟨row, hrow, rfl⟩ := List.mem_map.mp hid
    obtain ⟨hrow, hmarked⟩ := Data.Serial.mem_select.mp hrow
    have hclaimed : row.status = .claimed := by simpa using (Bool.and_eq_true_iff.mp hmarked).2
    exact ⟨row, hrow, rfl, (hafter.assigned row hrow).1 (hclaimed ▸ nofun)⟩
  · exact hold.taken id hid

/-- **What a thread learns** is true. -/
theorem Duty.Sound.next (hw : fleet.Settled w) (hq : q.Sound fleet w)
    (hmay : (ownersRole fleet).may q c) :
    (q.next c (Nadi.exec py c w).1).Sound fleet (Nadi.exec py c w).2 := by
  cases c with
  | createSession tenantId externalId profileBundle metadata =>
    have hold : q.Sound fleet
        (Nadi.exec py (.createSession tenantId externalId profileBundle metadata) w).2 :=
      hq.exec hmay hq fun _ _ _ => nofun
    cases hres : (Nadi.exec py (.createSession tenantId externalId profileBundle metadata) w).1 with
    | error e => exact hold
    | ok s =>
      refine ⟨fun sid hmine => ?_, hold.chosen, hold.known, hold.told, hold.taken⟩
      obtain rfl : s = sid := Option.some.inj hmine
      exact exec_createSession_unleased hw.linked hres
  | chooseCellHost =>
    show (q.next (.chooseCellHost : Call T) w.store.chooseCellHost).Sound fleet w
    cases hres : w.store.chooseCellHost with
    | error e => exact hq
    | ok row =>
      refine ⟨hq.mine, fun id h hchosen => ?_, hq.known, hq.told, hq.taken⟩
      cases hchosen
      exact congrArg (Option.map CellHostRow.hostId)
        (Data.Table.find?_eq_some.mpr ⟨(Store.chooseCellHost_ok hres).1, rfl⟩)
  | createLease sid id ttl => exact hq.leases hmay
  | getRoute sid =>
    show (q.next (.getRoute sid : Call T) (.ok (w.store.getRoute w.clock sid))).Sound fleet w
    cases hres : w.store.getRoute w.clock sid with
    | none => exact hq
    | some route => exact hq.know (Store.getRoute_ownerOf hres)
  | callback h =>
    show (q.next (.callback h : Call T) (.ok (w.callbacks h))).Sound fleet w
    cases hres : w.callbacks h with
    | none => exact hq
    | some createCell =>
      rw [hw.registered.callbacks h createCell hres]
      exact hq.tell h
  | object h =>
    show (q.next (.object h : Call T) (.ok (w.objects h))).Sound fleet w
    cases hres : w.objects h with
    | none => exact hq
    | some celld =>
      rw [hw.registered.objects h celld hres]
      exact hq.tell h
  | claimPendingCommands sid claimedBy => exact hq.claims hw hmay
  | _ => exact hq.exec hmay hq fun _ _ _ => nofun

end Learning

/-- A session of one's own that there has been was one's own. -/
theorem Duty.next_mine {sid : String} (hses : w.store.hasSession sid = true)
    (hmine : (q.next c (Nadi.exec py c w).1).mine = some sid) : q.mine = some sid := by
  cases c with
  | createSession tenantId externalId profileBundle metadata =>
    cases hres : (Nadi.exec py (.createSession tenantId externalId profileBundle metadata) w).1 with
    | error e =>
      rw [hres] at hmine
      exact hmine
    | ok s =>
      rw [hres] at hmine
      obtain rfl : s = sid := Option.some.inj hmine
      cases hses.symm.trans (exec_createSession_new py hres)
  | createLease sid id ttl =>
    cases hres : (Nadi.exec py (.createLease sid id ttl) w).1 with
    | error e =>
      rw [hres] at hmine
      exact hmine
    | ok lease =>
      rw [hres] at hmine
      cases hmine
  | _ =>
    unfold Duty.next at hmine
    split at hmine <;> first | exact hmine | contradiction

omit [Field T] [LinearOrder T] in
/-- Time and losses change nothing that a thread knows. -/
theorem Duty.Sound.env {w' : World T} (hq : q.Sound fleet w) (hstore : w'.store = w.store) :
    q.Sound fleet w' := by
  refine ⟨?_, ?_, ?_, hq.told, ?_⟩
  all_goals rw [hstore]
  · exact hq.mine
  · exact hq.chosen
  · exact hq.known
  · exact hq.taken

omit [Field T] in
theorem Fleet.Settled.env {w' : World T} (hw : fleet.Settled w)
    (henv : w.Passes w' ∨ w.Loses w') : fleet.Settled w' := by
  rcases henv with ⟨t, f, -, rfl⟩ | ⟨cells, hcells, rfl⟩
  · exact ⟨hw.linked, ⟨hw.registered.callbacks, hw.registered.objects⟩, hw.houses, hw.assigned⟩
  · exact ⟨hw.linked, ⟨hw.registered.callbacks, hw.registered.objects⟩,
      fun ref sid cell hcell => hw.houses ref sid cell (hcells ref sid cell hcell), hw.assigned⟩

variable [DecidableEq ι]

/-- What the threads know after a trace. -/
def dutyAt (fleet : Fleet) (tr : Trace ι T) (i : ι) : Duty :=
  Role.localAt (fun _ : ι => ownersRole fleet) tr i

/-- The state of a fleet and what its threads know. -/
structure Fleet.Run (fleet : Fleet) (p : Moment ι T) : Prop where
  settled : fleet.Settled p.state
  sound : ∀ i, (dutyAt fleet p.trace i).Sound fleet p.state
  /-- No session is two threads' own. -/
  apart : ∀ i j sid, (dutyAt fleet p.trace i).mine = some sid →
    (dutyAt fleet p.trace j).mine = some sid → i = j
  /-- Commands have been claimed by the owner of their session. -/
  claims : ∀ e ∈ p.trace, ∀ sid claimedBy, e.call = .claimPendingCommands sid claimedBy →
    p.state.store.ownerOf sid = some claimedBy

omit [Field T] [LinearOrder T] in
theorem Fleet.Run.start (now : T) (files : Files) :
    fleet.Run (⟨[], .init now files⟩ : Moment ι T) where
  settled := {
    linked := fun _ hl => (nomatch hl)
    registered := ⟨fun _ _ h => (nomatch h), fun _ _ h => (nomatch h)⟩
    houses := fun _ _ _ h => (nomatch h)
    assigned := fun _ hrow => (nomatch hrow) }
  sound := fun _ => ⟨nofun, nofun, nofun, nofun, nofun⟩
  apart := fun _ _ _ h => nomatch h
  claims := fun _ he => nomatch he

/-- A call of thread `i` keeps it. -/
theorem Fleet.Run.call {p : Moment ι T} (h : fleet.Run p) {i : ι}
    (hmay : (ownersRole fleet).may (dutyAt fleet p.trace i) c) :
    fleet.Run (p.after (exec py) i c) := by
  have hlocal : ∀ j, dutyAt fleet (p.after (exec py) i c).trace j =
      if j = i then (dutyAt fleet p.trace i).next c (exec py c p.state).1
      else dutyAt fleet p.trace j := by
    intro j
    refine (congrFun (Role.localAt_after (fun _ : ι => ownersRole fleet) (exec py) p i c) j).trans ?_
    exact Function.update_apply _ _ _ _
  refine ⟨h.settled.exec (h.sound i) hmay, fun j => ?_, fun j k sid hj hk => ?_,
    fun e he sid claimedBy hcall => ?_⟩
  · rw [hlocal]
    split
    · exact (h.sound i).next h.settled hmay
    · rename_i hne
      refine (h.sound i).exec hmay (h.sound j) ?_
      rintro sid id ttl rfl hmine
      exact hne (h.apart j i sid hmine hmay.1)
  · -- a session that is created now is nobody's yet
    have hmine : ∀ j, j ≠ i → ∀ sid, (dutyAt fleet (p.after (exec py) i c).trace i).mine =
        some sid → (dutyAt fleet p.trace j).mine = some sid → i = j := by
      intro j _ sid hi hj
      rw [hlocal, if_pos rfl] at hi
      exact h.apart i j sid (Duty.next_mine ((h.sound j).mine sid hj).1 hi) hj
    have hother : ∀ j, j ≠ i → dutyAt fleet (p.after (exec py) i c).trace j =
        dutyAt fleet p.trace j := fun j hne => (hlocal j).trans (if_neg hne)
    by_cases hji : j = i
    · by_cases hki : k = i
      · exact hji.trans hki.symm
      · subst hji
        exact hmine k hki sid hj (hother k hki ▸ hk)
    · by_cases hki : k = i
      · subst hki
        exact (hmine j hji sid hk (hother j hji ▸ hj)).symm
      · exact h.apart j k sid (hother j hji ▸ hj) (hother k hki ▸ hk)
  · rcases List.mem_append.mp he with hold | hnew
    · exact ownerOf_kept (h.sound i) hmay (h.claims e hold sid claimedBy hcall)
    · rw [List.mem_singleton.mp hnew] at hcall
      obtain rfl : c = .claimPendingCommands sid claimedBy := hcall
      obtain ⟨celld, hserves, rfl⟩ := hmay
      obtain ⟨host, howner, rfl⟩ := hserves.owner (h.sound i)
      rw [fleet.hostId_celldOf]
      exact howner

variable [IsStrictOrderedRing T] [FloorRing T]

/-- **One owner per session.** Threads carry out operations on a fleet, while
time passes and daemons lose cells. In every state reached the live cells of a
session are with the daemon of the host that its lease names, so that no two
daemons have one, and its commands have all been claimed under the name of that
host, whose daemon alone claims them. -/
theorem one_owner (py : Py) (fleet : Fleet) {ops : ι → List Operation}
    (hops : ∀ i, ∀ op ∈ ops i, op.ofFleet fleet) (now : T) (files : Files)
    {cfg : Threads ι T Unit}
    (hr : Reach (losing ι py) (.start (fun i => runOperations py (ops i)) (.init now files)) cfg) :
    let w := cfg.point.state
    (∀ ref sid cell, w.cells ref sid = some cell →
      ∃ h, w.store.ownerOf sid = some h ∧ ref = (fleet.celldOf h).ref) ∧
    (∀ ref ref' sid, w.cells ref sid ≠ none → w.cells ref' sid ≠ none → ref = ref') ∧
    (∀ row ∈ w.store.commandInbox, row.status ≠ .pending →
      ∃ h, row.claimedBy = some h ∧ w.store.ownerOf row.sessionId = some h) ∧
    ∀ e ∈ cfg.point.trace, ∀ sid claimedBy, e.call = .claimPendingCommands sid claimedBy →
      w.store.ownerOf sid = some claimedBy := by
  intro w
  have hplay : Role.AllPlay (fun _ : ι => ownersRole fleet) (exec py) (fun _ _ _ => True)
      (.start (fun i => runOperations py (ops i)) (.init now files)) :=
    fun i => Fleet.plays_operations py (hops i)
  have hrun : fleet.Run cfg.point := by
    refine Role.roles_invariant (P := fleet.Run) hplay hr (.start now files) ?_ ?_
    · exact fun p i c h hmay _ => h.call hmay
    · intro p w' h henv
      have hstore : w'.store = p.state.store := by
        rcases henv with ⟨t, f, -, rfl⟩ | ⟨cells, -, rfl⟩ <;> rfl
      exact ⟨h.settled.env henv, fun i => (h.sound i).env hstore, h.apart, hstore ▸ h.claims⟩
  refine ⟨hrun.settled.houses, fun ref ref' sid hcell hcell' => ?_, fun row hrow hstatus => ?_,
    hrun.claims⟩
  · obtain ⟨cell, hcell⟩ := Option.ne_none_iff_exists'.mp hcell
    obtain ⟨cell', hcell'⟩ := Option.ne_none_iff_exists'.mp hcell'
    obtain ⟨h, howner, rfl⟩ := hrun.settled.houses ref sid cell hcell
    obtain ⟨h', howner', rfl⟩ := hrun.settled.houses ref' sid cell' hcell'
    rw [Option.some.inj (howner.symm.trans howner')]
  · obtain ⟨hclaimed, howner⟩ := hrun.settled.assigned row hrow
    obtain ⟨h, hby⟩ := Option.ne_none_iff_exists'.mp (hclaimed hstatus)
    exact ⟨h, hby, howner h hby⟩

end Runs

/-! ## Two hosts -/

/-- A fleet whose daemons are numbered by the names of their hosts. -/
def Fleet.numbered : Fleet where
  celldOf h :=
    { localCelld [] with ref := Encodable.encode (h.toList.map Char.toNat), hostId := h }
  hostId_celldOf _ := rfl
  ref_inj h h' heq := by
    have hchars := Encodable.encode_injective heq
    refine String.toList_injective (List.map_injective_iff.mpr (fun c c' hc => ?_) hchars)
    exact Char.toNat_inj.mp hc

/-- One thread registers two hosts and creates two sessions, the other sends a
command to the first of them. -/
def twoHosts : Bool → List Operation
  | false =>
    [.registerCellHost "a" "local" "inproc://a" 1 (.celld (Fleet.numbered.celldOf "a"))
      (some (Fleet.numbered.celldOf "a")),
    .registerCellHost "b" "local" "inproc://b" 1 (.celld (Fleet.numbered.celldOf "b"))
      (some (Fleet.numbered.celldOf "b")),
    .createSession "local" .null, .createSession "local" .null]
  | true => [.sendCommand "s" "echo" (.obj [("text", .str "hi")]) none]

/-- The command arrives while the second session is being placed. -/
def twoHostsRun : Threads Bool ℚ Unit :=
  execute (exec Py.sample)
    (List.replicate 20 false ++ List.replicate 8 true ++ List.replicate 10 false ++
      List.replicate 6 true)
    (.start (fun i => runOperations Py.sample (twoHosts i)) (.init 0 Sample.files))

/-- Each session is with its host, and with no other. -/
theorem one_owner_sample :
    let w := twoHostsRun.point.state
    w.store.ownerOf "s" = some "a" ∧ w.store.ownerOf "s1" = some "b" ∧
      (∀ ref, w.cells ref "s" ≠ none ↔ ref = (Fleet.numbered.celldOf "a").ref) ∧
      (w.store.commandInbox.rows.map fun row => (row.status, row.claimedBy)) =
        [(.completed, some "a")] := by
  intro w
  have hops : ∀ i, ∀ op ∈ twoHosts i, op.ofFleet Fleet.numbered := by
    intro i op hop
    cases i with
    | true =>
      rw [List.mem_singleton.mp hop]
      trivial
    | false =>
      simp only [twoHosts, List.mem_cons, List.not_mem_nil, or_false] at hop
      rcases hop with rfl | rfl | rfl | rfl
      · exact ⟨rfl, rfl⟩
      · exact ⟨rfl, rfl⟩
      · trivial
      · trivial
  have hreach := reach_execute (S := losing Bool Py.sample) (fun _ _ _ => trivial)
    (List.replicate 20 false ++ List.replicate 8 true ++ List.replicate 10 false ++
      List.replicate 6 true)
    (.start (fun i => runOperations Py.sample (twoHosts i)) (.init (0 : ℚ) Sample.files))
  obtain ⟨-, hone, -, -⟩ := one_owner Py.sample Fleet.numbered hops 0 Sample.files hreach
  have hcell : w.cells (Fleet.numbered.celldOf "a").ref "s" ≠ none := by decide +kernel
  refine ⟨by decide +kernel, by decide +kernel, fun ref => ⟨fun h => ?_, fun h => ?_⟩,
    by decide +kernel⟩
  · exact hone ref _ "s" h hcell
  · exact h ▸ hcell

end Nadi
