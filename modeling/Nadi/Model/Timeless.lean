import Nadi.Effect.SideBySide
import Nadi.Model.Core
import Nadi.Model.Timed

/-!
# States that differ in when hosts were last seen

`World.timeless` leaves out the times at which hosts were last heard of and
changed, and how many ids were drawn for hosts. No call but a registration sets
anything else by them: from two states that are alike without them, a call gives
the same and leads to states that are alike again (`exec_same_timeless`); only
`choose_cell_host` returns the times, with the row of the host it has chosen.
-/

namespace Nadi

open Effect

variable {T : Type}

/-! ## States without times -/

section Timeless

variable [Zero T]

def CellHostRow.timeless (h : CellHostRow T) : CellHostRow T :=
  { h with lastHeartbeatAt := none, updatedAt := 0 }

def SandboxHostRow.timeless (h : SandboxHostRow T) : SandboxHostRow T :=
  { h with lastHeartbeatAt := none, updatedAt := 0 }

def Store.timeless (st : Store T) : Store T :=
  { st with
    cellHosts := st.cellHosts.update (fun _ => true) CellHostRow.timeless fun _ => rfl
    sandboxHosts := st.sandboxHosts.update (fun _ => true) SandboxHostRow.timeless fun _ => rfl }

def World.timeless (w : World T) : World T :=
  { w with
    store := w.store.timeless
    drawn := Function.update (Function.update w.drawn .cellHost 0) .sandboxHost 0 }

/-- A host is found without its times. -/
theorem Store.find?_timeless (st : Store T) (id : String) :
    st.timeless.cellHosts.find? id = (st.cellHosts.find? id).map CellHostRow.timeless :=
  Data.Table.find?_update st.cellHosts (fun _ => true) CellHostRow.timeless (fun _ => rfl) id

theorem Store.timeless_timeless (st : Store T) : st.timeless.timeless = st.timeless := by
  have hcells : st.timeless.timeless.cellHosts = st.timeless.cellHosts :=
    Data.Table.ext (List.map_map.trans rfl)
  have hsandboxes : st.timeless.timeless.sandboxHosts = st.timeless.sandboxHosts :=
    Data.Table.ext (List.map_map.trans rfl)
  show { st.timeless with
    cellHosts := st.timeless.timeless.cellHosts
    sandboxHosts := st.timeless.timeless.sandboxHosts } = st.timeless
  rw [hcells, hsandboxes]

/-- The ids drawn elsewhere are counted. -/
theorem World.timeless_drawn (w : World T) {site : IdSite} (hc : site ≠ .cellHost)
    (hs : site ≠ .sandboxHost) : w.timeless.drawn site = w.drawn site :=
  (Function.update_of_ne hs _ _).trans (Function.update_of_ne hc _ _)

theorem World.fresh_timeless (py : Py) (w : World T) {site : IdSite} (hc : site ≠ .cellHost)
    (hs : site ≠ .sandboxHost) : w.timeless.fresh py site = w.fresh py site :=
  congrArg (py.uuid4 site) (w.timeless_drawn hc hs)

theorem World.draw_timeless (w : World T) {site : IdSite} (hc : site ≠ .cellHost)
    (hs : site ≠ .sandboxHost) : w.timeless.draw site = (w.draw site).timeless := by
  have hdrawn := w.timeless_drawn hc hs
  unfold World.draw
  rw [hdrawn]
  unfold World.timeless
  dsimp only
  rw [Function.update_comm hs.symm, Function.update_comm hc.symm]

theorem World.timeless_timeless (w : World T) : w.timeless.timeless = w.timeless := by
  have hdrawn : w.timeless.timeless.drawn = w.timeless.drawn := by
    have hne : IdSite.sandboxHost ≠ .cellHost := by decide
    unfold timeless
    dsimp only
    rw [Function.update_comm hne, Function.update_idem, Function.update_idem]
  show { w.timeless with store := w.store.timeless.timeless, drawn := w.timeless.timeless.drawn } =
    w.timeless
  rw [Store.timeless_timeless, hdrawn]
  rfl

/-- A method whose outcome on the store without times is its outcome without times. -/
theorem World.commit_timeless {β : Type} (w : World T) {r r' : Except PyErr (β × Store T)}
    (h : r' = r.map fun x => (x.1, x.2.timeless)) :
    w.timeless.commit r' = ((w.commit r).1, (w.commit r).2.timeless) := by
  subst h
  cases r <;> rfl

/-- Outcomes that are the same without times. -/
theorem World.commit_alike {β : Type} (w : World T) {r r' : Except PyErr (β × Store T)}
    (h : r'.map (fun x => (x.1, x.2.timeless)) = r.map fun x => (x.1, x.2.timeless)) :
    (w.timeless.commit r').1 = (w.commit r).1 ∧
      (w.timeless.commit r').2.timeless = (w.commit r).2.timeless := by
  have hidem := w.timeless_timeless
  cases r with
  | error e =>
    cases r' with
    | error e' =>
      cases h
      exact ⟨rfl, hidem⟩
    | ok x' => cases h
  | ok x =>
    cases r' with
    | error e' => cases h
    | ok x' =>
      obtain ⟨hvalue, hstore⟩ := Prod.mk.inj (Except.ok.inj h)
      refine ⟨congrArg Except.ok hvalue, ?_⟩
      show { w.timeless.timeless with store := x'.2.timeless } =
        { w.timeless with store := x.2.timeless }
      rw [hstore, hidem]

end Timeless

/-! ## Methods on a store without times -/

namespace Store

section Zero

variable [Zero T] (st : Store T)

@[simp] theorem timeless_sessions : st.timeless.sessions = st.sessions := rfl

@[simp] theorem timeless_hasSession : st.timeless.hasSession = st.hasSession := rfl

@[simp] theorem timeless_eventsOf : st.timeless.eventsOf = st.eventsOf := rfl

@[simp] theorem timeless_nextSequence : st.timeless.nextSequence = st.nextSequence := rfl

@[simp] theorem timeless_pendingOf : st.timeless.pendingOf = st.pendingOf := rfl

@[simp] theorem timeless_channels : st.timeless.channels = st.channels := rfl

variable (t : T)

theorem createSession_timeless (sid tenantId : String) (externalId profileBundle : Option String)
    (metadata : Json) :
    st.timeless.createSession t sid tenantId externalId profileBundle metadata =
      (st.createSession t sid tenantId externalId profileBundle metadata).map
        fun x => (x.1, x.2.timeless) := by
  unfold createSession
  rw [timeless_sessions]
  split
  · rfl
  · cases st.sessions.insert? (newSession t sid tenantId externalId profileBundle metadata) <;> rfl

theorem appendEvent_timeless (sessionId eventType : String) (payload : Json)
    (actor : Option String) :
    st.timeless.appendEvent t sessionId eventType payload actor =
      (st.appendEvent t sessionId eventType payload actor).map fun x => (x.1, x.2.timeless) := by
  unfold appendEvent
  rw [timeless_eventsOf, timeless_nextSequence, timeless_hasSession]
  dsimp only
  split
  · rfl
  · split <;> rfl

theorem enqueueCommand_timeless (sessionId commandType : String) (payload : Json)
    (actor : Option String) :
    st.timeless.enqueueCommand t sessionId commandType payload actor =
      (st.enqueueCommand t sessionId commandType payload actor).map
        fun x => (x.1, x.2.timeless) := by
  unfold enqueueCommand
  rw [timeless_eventsOf, timeless_pendingOf, timeless_hasSession]
  split
  · rfl
  split
  · rfl
  split <;> rfl

theorem getOrCreateChannel_timeless (cid platform channelId threadId sessionId initiator : String)
    (metadata : Json) :
    st.timeless.getOrCreateChannel t cid platform channelId threadId sessionId initiator metadata =
      (st.getOrCreateChannel t cid platform channelId threadId sessionId initiator metadata).map
        fun x => (x.1, x.2.timeless) := by
  have hinsert : ∀ row : ChannelRow T,
      st.timeless.insertChannel row = (st.insertChannel row).map Store.timeless := by
    intro row
    unfold insertChannel
    rw [timeless_channels, timeless_hasSession]
    split
    · rfl
    cases st.channels.insert? row with
    | none => rfl
    | some channels =>
      dsimp only
      split <;> rfl
  unfold getOrCreateChannel
  rw [hinsert]
  cases st.insertChannel (newChannel t cid platform channelId threadId sessionId initiator
      metadata) with
  | error e => rfl
  | ok st' =>
    dsimp only [Except.map]
    rw [timeless_channels]
    cases st'.channels.find? (platform, channelId, threadId) <;> rfl

theorem revokeToken_timeless (jti : String) (expiresAt : T) :
    st.timeless.revokeToken t jti expiresAt = (st.revokeToken t jti expiresAt).timeless := by
  have hrows : st.timeless.revokedTokens = st.revokedTokens := rfl
  unfold revokeToken
  rw [hrows]
  cases st.revokedTokens.insert? ⟨jti, expiresAt, t⟩ <;> rfl

end Zero

variable [Field T] [LinearOrder T] (st : Store T) (t : T)

theorem getRoute_timeless (sessionId : String) :
    st.timeless.getRoute t sessionId = st.getRoute t sessionId := by
  have hleases : st.timeless.sessionLeases = st.sessionLeases := rfl
  unfold getRoute
  rw [hleases]
  cases st.sessionLeases.find? sessionId with
  | none => rfl
  | some l =>
    dsimp only
    rw [find?_timeless, Option.map_map]
    rfl

/-- The host that is chosen is the same, without its times. -/
theorem chooseCellHost_timeless :
    st.timeless.chooseCellHost = st.chooseCellHost.map CellHostRow.timeless := by
  have hselect : st.timeless.cellHosts.select hasCapacity =
      (st.cellHosts.select hasCapacity).map CellHostRow.timeless :=
    List.filter_map.trans rfl
  have hsort : ((st.cellHosts.select hasCapacity).map CellHostRow.timeless).insertionSort hostLe =
      ((st.cellHosts.select hasCapacity).insertionSort hostLe).map CellHostRow.timeless :=
    (List.map_insertionSort hostLe hostLe CellHostRow.timeless _ fun _ _ _ _ => Iff.rfl).symm
  unfold chooseCellHost
  rw [hselect, hsort, List.head?_map]
  cases ((st.cellHosts.select hasCapacity).insertionSort hostLe).head? <;> rfl

omit [LinearOrder T] in
/-- A lease sets the time of its host, with or without one before. -/
theorem createLease_timeless (token sessionId cellHostId : String) (ttlSeconds : Int) :
    (st.timeless.createLease t token sessionId cellHostId ttlSeconds).map
        (fun x => (x.1, x.2.timeless)) =
      (st.createLease t token sessionId cellHostId ttlSeconds).map
        fun x => (x.1, x.2.timeless) := by
  have hhost : (st.timeless.cellHosts.find? cellHostId).isSome =
      (st.cellHosts.find? cellHostId).isSome := by
    rw [find?_timeless, Option.isSome_map]
  unfold createLease
  rw [timeless_hasSession, hhost]
  split
  · refine congrArg (fun st' => Except.ok (token, st')) ?_
    have hcells : ((st.timeless.cellHosts.update (fun h => h.id == cellHostId) (takeSlot t)
        fun _ => rfl).update (fun _ => true) CellHostRow.timeless fun _ => rfl) =
        ((st.cellHosts.update (fun h => h.id == cellHostId) (takeSlot t) fun _ => rfl).update
          (fun _ => true) CellHostRow.timeless fun _ => rfl) := by
      refine Data.Table.ext ?_
      show ((st.cellHosts.rows.map CellHostRow.timeless).map _).map _ =
        (st.cellHosts.rows.map _).map _
      simp only [List.map_map]
      refine List.map_congr_left fun h _ => ?_
      show CellHostRow.timeless (if h.id == cellHostId then takeSlot t h.timeless else h.timeless) =
        CellHostRow.timeless (if h.id == cellHostId then takeSlot t h else h)
      split <;> rfl
    have hsandboxes := congrArg Store.sandboxHosts st.timeless_timeless
    refine congrArg₂ (fun cells sandboxes => { st with
      sessionLeases := st.sessionLeases.replace
        (newLease t token sessionId cellHostId ttlSeconds)
      cellHosts := cells
      sandboxHosts := sandboxes }) hcells ?_
    exact hsandboxes
  · rfl

end Store

/-! ## Calls on a state without times -/

/-- The calls that neither register nor choose a host. -/
def Call.settled : Call T → Bool
  | .upsertCellHost .. => false
  | .upsertSandboxHost .. => false
  | .setCallback .. => false
  | .setObject .. => false
  | .chooseCellHost => false
  | .uuid4 site => site != .cellHost && site != .sandboxHost
  | _ => true

section Exec

variable [Field T] [LinearOrder T] (py : Py) {c : Call T}

/-- **Times do not matter** to such a call, apart from those it sets itself. -/
theorem exec_timeless (h : c.settled = true) (w : World T) :
    (exec py c w.timeless).1 = (exec py c w).1 ∧
      (exec py c w.timeless).2.timeless = (exec py c w).2.timeless := by
  -- most calls commute with leaving out times
  have hcommutes : exec py c w.timeless = ((exec py c w).1, (exec py c w).2.timeless) →
      (exec py c w.timeless).1 = (exec py c w).1 ∧
        (exec py c w.timeless).2.timeless = (exec py c w).2.timeless := by
    intro heq
    rw [heq]
    exact ⟨rfl, (exec py c w).2.timeless_timeless⟩
  cases c with
  | createSession tenantId externalId profileBundle metadata =>
    refine hcommutes ?_
    simp only [exec]
    rw [w.draw_timeless (by decide) (by decide), w.fresh_timeless py (by decide) (by decide)]
    exact World.commit_timeless _ (w.store.createSession_timeless ..)
  | appendEvent sessionId eventType payload actor =>
    exact hcommutes (World.commit_timeless w (w.store.appendEvent_timeless ..))
  | enqueueCommand sessionId commandType payload actor =>
    exact hcommutes (World.commit_timeless w (w.store.enqueueCommand_timeless ..))
  | claimPendingCommands sessionId claimedBy =>
    refine hcommutes ?_
    simp only [exec]
    rw [w.draw_timeless (by decide) (by decide), w.fresh_timeless py (by decide) (by decide)]
    rfl
  | createLease sessionId cellHostId ttlSeconds =>
    have hlease := w.store.createLease_timeless w.clock (w.fresh py .leaseToken) sessionId
      cellHostId ttlSeconds
    simp only [exec]
    rw [w.draw_timeless (by decide) (by decide), w.fresh_timeless py (by decide) (by decide)]
    exact World.commit_alike _ hlease
  | getRoute sessionId =>
    refine hcommutes ?_
    simp only [exec]
    exact congrArg (fun r => (Except.ok r, w.timeless)) (w.store.getRoute_timeless w.clock sessionId)
  | getOrCreateChannel platform channelId threadId sessionId initiator metadata =>
    refine hcommutes ?_
    simp only [exec]
    rw [w.draw_timeless (by decide) (by decide), w.fresh_timeless py (by decide) (by decide)]
    exact World.commit_timeless _ (w.store.getOrCreateChannel_timeless ..)
  | revokeToken jti expiresAt =>
    refine hcommutes ?_
    simp only [exec]
    exact congrArg (fun st => (Except.ok (), { w.timeless with store := st }))
      (w.store.revokeToken_timeless w.clock jti expiresAt)
  | uuid4 site =>
    have hsite : site ≠ .cellHost ∧ site ≠ .sandboxHost := by simpa [Call.settled] using h
    refine hcommutes ?_
    simp only [exec]
    rw [w.draw_timeless hsite.1 hsite.2, w.fresh_timeless py hsite.1 hsite.2]
  | apply cell eventType payload =>
    refine hcommutes ?_
    have hheap : w.timeless.heap = w.heap := rfl
    simp only [exec]
    rw [hheap]
    cases applyEvent (w.heap cell.addr) eventType payload <;> rfl
  | upsertCellHost | upsertSandboxHost | setCallback | setObject | chooseCellHost => cases h
  | _ => exact hcommutes rfl

/-- From states that are alike without times, such a call gives the same and leads to
states that are alike again. -/
theorem exec_same_timeless (h : c.settled = true) {w w' : World T}
    (hw : w.timeless = w'.timeless) :
    (exec py c w).1 = (exec py c w').1 ∧
      (exec py c w).2.timeless = (exec py c w').2.timeless := by
  have hleft := exec_timeless py h w
  have hright := exec_timeless py h w'
  rw [hw] at hleft
  exact ⟨hleft.1.symm.trans hright.1, hleft.2.symm.trans hright.2⟩

end Exec

end Nadi
