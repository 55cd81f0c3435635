import Nadi.Model.StoreSpec
import Nadi.Model.World

/-!
# What each call leaves alone

`Call.writes` says which parts of the shared state a call may write; one lemma
for each part says that every other call leaves it as it was. An invariant over
a part then only has to look at the few calls that write it.
-/

namespace Nadi

/-- The parts of the shared state. -/
inductive Part where
  | sessions
  | events
  | inbox
  | revoked
  | hosts
  | leases
  | channels
  | heap
  | cells
  | broker
  deriving DecidableEq

/-- The parts a call may write. -/
def Call.writes {T : Type} : Call T → Part → Bool
  | .createSession .., p => p == .sessions
  | .updateSessionStatus .., p => p == .sessions
  | .appendEvent .., p => p == .events
  | .enqueueCommand .., p => p == .inbox
  | .claimPendingCommands .., p => p == .inbox
  | .completeCommand .., p => p == .inbox
  | .upsertCellHost .., p => p == .hosts
  | .createLease .., p => p == .hosts || p == .leases
  | .getOrCreateChannel .., p => p == .channels
  | .revokeToken .., p => p == .revoked
  | .isTokenRevoked .., p => p == .revoked
  | .newCell .., p => p == .heap
  | .apply .., p => p == .heap
  | .cellsSet .., p => p == .cells
  | .cellsPop .., p => p == .cells
  | .setCallback .., p => p == .broker
  | .setObject .., p => p == .broker
  | _, _ => false

/-- The site at which a call draws an id. -/
def Call.draws {T : Type} : Call T → Option IdSite
  | .createSession .. => some .session
  | .claimPendingCommands .. => some .claimToken
  | .upsertCellHost .. => some .cellHost
  | .upsertSandboxHost .. => some .sandboxHost
  | .createLease .. => some .leaseToken
  | .getOrCreateChannel .. => some .channel
  | .uuid4 site => some site
  | _ => none

variable {T : Type}

/-! ## Outcomes of raising methods -/

namespace World

variable {β : Type} {w : World T} {r : Except PyErr (β × Store T)}

@[simp] theorem draw_self (site : IdSite) : (w.draw site).drawn site = w.drawn site + 1 := by
  unfold draw
  exact Function.update_self _ _ _

theorem draw_of_ne {site s : IdSite} (h : s ≠ site) : (w.draw site).drawn s = w.drawn s := by
  unfold draw
  exact Function.update_of_ne h _ _

/-- What a property of the store needs to survive a raising method. -/
theorem commit_store {P : Store T → Prop} (hw : P w.store)
    (h : ∀ b st, r = .ok (b, st) → P st) : P (w.commit r).2.store := by
  cases r with
  | ok x => exact h x.1 x.2 rfl
  | error e => exact hw

/-- A method that returned gave its value and its store. -/
theorem commit_ok {b : β} (h : (w.commit r).1 = .ok b) :
    ∃ st, r = .ok (b, st) ∧ (w.commit r).2 = { w with store := st } := by
  cases r with
  | ok x =>
    cases h
    exact ⟨x.2, rfl, rfl⟩
  | error e => cases h

/-- A method that raised left the state as it was. -/
theorem commit_error {e : PyErr} (h : (w.commit r).1 = .error e) :
    r = .error e ∧ (w.commit r).2 = w := by
  cases r with
  | ok x => cases h
  | error e' =>
    cases h
    exact ⟨rfl, rfl⟩

@[simp] theorem commit_clock : (w.commit r).2.clock = w.clock := by cases r <;> rfl
@[simp] theorem commit_drawn : (w.commit r).2.drawn = w.drawn := by cases r <;> rfl
@[simp] theorem commit_heap : (w.commit r).2.heap = w.heap := by cases r <;> rfl
@[simp] theorem commit_nextAddr : (w.commit r).2.nextAddr = w.nextAddr := by cases r <;> rfl
@[simp] theorem commit_cells : (w.commit r).2.cells = w.cells := by cases r <;> rfl
@[simp] theorem commit_callbacks : (w.commit r).2.callbacks = w.callbacks := by cases r <;> rfl
@[simp] theorem commit_objects : (w.commit r).2.objects = w.objects := by cases r <;> rfl
@[simp] theorem commit_files : (w.commit r).2.files = w.files := by cases r <;> rfl

end World

/-! ## Frames -/

/-- Two states have the same value in a part. -/
def Agree (p : Part) (w w' : World T) : Prop :=
  match p with
  | .sessions => w'.store.sessions = w.store.sessions
  | .events => w'.store.events = w.store.events
  | .inbox => w'.store.commandInbox = w.store.commandInbox
  | .revoked => w'.store.revokedTokens = w.store.revokedTokens
  | .hosts => w'.store.cellHosts = w.store.cellHosts
  | .leases => w'.store.sessionLeases = w.store.sessionLeases
  | .channels => w'.store.channels = w.store.channels
  | .heap => w'.heap = w.heap ∧ w'.nextAddr = w.nextAddr
  | .cells => w'.cells = w.cells
  | .broker => w'.callbacks = w.callbacks ∧ w'.objects = w.objects

namespace Agree

variable {p : Part} {w w' : World T}

theorem refl : Agree p w w := by
  cases p with
  | heap | broker => exact ⟨rfl, rfl⟩
  | _ => rfl

theorem trans {w'' : World T} (h : Agree p w w') (h' : Agree p w' w'') : Agree p w w'' := by
  cases p with
  | heap | broker => exact ⟨h'.1.trans h.1, h'.2.trans h.2⟩
  | _ => exact Eq.trans h' h

/-- Drawing an id is outside every part. -/
theorem of_draw {site : IdSite} (h : Agree p (w.draw site) w') : Agree p w w' := by
  cases p <;> exact h

/-- A raising method has to be looked at only where it returns. -/
theorem commit {β : Type} {r : Except PyErr (β × Store T)}
    (h : ∀ b st, r = .ok (b, st) → Agree p w { w with store := st }) :
    Agree p w (w.commit r).2 := by
  cases r with
  | ok x => exact h x.1 x.2 rfl
  | error e => exact refl

end Agree

section Frames

variable [Field T] [LinearOrder T] (py : Py) {c : Call T} (w : World T)

/-- An `_apply` raises and changes nothing, or changes the state of its cell. -/
theorem exec_apply (cell : Cell) (eventType : String) (payload : Json) :
    (∃ e, applyEvent (w.heap cell.addr) eventType payload = .error e ∧
      exec py (.apply cell eventType payload) w = (.error e, w)) ∨
    (∃ s, applyEvent (w.heap cell.addr) eventType payload = .ok s ∧
      exec py (.apply cell eventType payload) w =
        (.ok (), { w with heap := Function.update w.heap cell.addr s })) := by
  cases happly : applyEvent (w.heap cell.addr) eventType payload with
  | error e => exact .inl ⟨e, rfl, by simp only [exec, happly]⟩
  | ok s => exact .inr ⟨s, rfl, by simp only [exec, happly]⟩

/-- **Frame.** A call leaves the parts it does not write as they were. -/
theorem exec_agree {p : Part} (h : c.writes p = false) : Agree p w (exec py c w).2 := by
  cases c with
  | createSession =>
    refine .of_draw (.commit fun _ _ hr => ?_)
    obtain ⟨-, _, -, rfl⟩ := Store.createSession_ok hr
    cases p <;> first | exact rfl | exact ⟨rfl, rfl⟩ | cases h
  | appendEvent =>
    refine .commit fun _ _ hr => ?_
    obtain ⟨-, -, rfl⟩ := Store.appendEvent_ok hr
    cases p <;> first | exact rfl | exact ⟨rfl, rfl⟩ | cases h
  | enqueueCommand =>
    refine .commit fun _ _ hr => ?_
    obtain ⟨-, -, -, -, rfl⟩ := Store.enqueueCommand_ok hr
    cases p <;> first | exact rfl | exact ⟨rfl, rfl⟩ | cases h
  | upsertCellHost =>
    refine .of_draw (.commit fun _ _ hr => ?_)
    rcases Store.upsertCellHost_ok hr with ⟨_, _, _, _, rfl⟩ | ⟨_, _, _, _, rfl⟩ <;>
      cases p <;> first | exact rfl | exact ⟨rfl, rfl⟩ | cases h
  | upsertSandboxHost =>
    refine .of_draw (.commit fun _ _ hr => ?_)
    obtain ⟨_, rfl⟩ := Store.upsertSandboxHost_ok hr
    cases p <;> first | exact rfl | exact ⟨rfl, rfl⟩
  | createLease =>
    refine .of_draw (.commit fun _ _ hr => ?_)
    obtain ⟨-, -, -, rfl⟩ := Store.createLease_ok hr
    cases p <;> first | exact rfl | exact ⟨rfl, rfl⟩ | cases h
  | getOrCreateChannel =>
    refine .of_draw (.commit fun _ _ hr => ?_)
    have hins := Store.insertChannel_ok (Store.getOrCreateChannel_ok hr).1
    rcases hins with ⟨rfl, -⟩ | ⟨-, -, _, -, rfl⟩ <;>
      cases p <;> first | exact rfl | exact ⟨rfl, rfl⟩ | cases h
  | revokeToken jti expiresAt =>
    show Agree p w { w with store := w.store.revokeToken w.clock jti expiresAt }
    unfold Store.revokeToken
    cases w.store.revokedTokens.insert? ⟨jti, expiresAt, w.clock⟩ <;>
      cases p <;> first | exact rfl | exact ⟨rfl, rfl⟩ | cases h
  | apply cell eventType payload =>
    rcases exec_apply py w cell eventType payload with ⟨_, -, hx⟩ | ⟨_, -, hx⟩
    · rw [hx]
      exact .refl
    · rw [hx]
      cases p <;> first | exact rfl | exact ⟨rfl, rfl⟩ | cases h
  | _ => cases p <;> first | exact rfl | exact ⟨rfl, rfl⟩ | cases h

/-- No call moves the clock or the file system. -/
theorem exec_passive : (exec py c w).2.clock = w.clock ∧ (exec py c w).2.files = w.files := by
  cases c with
  | apply cell eventType payload =>
    rcases exec_apply py w cell eventType payload with ⟨_, -, hx⟩ | ⟨_, -, hx⟩ <;>
      rw [hx] <;> exact ⟨rfl, rfl⟩
  | createSession | appendEvent | enqueueCommand | upsertCellHost | upsertSandboxHost
  | createLease | getOrCreateChannel => exact ⟨World.commit_clock, World.commit_files⟩
  | _ => exact ⟨rfl, rfl⟩

/-- A call draws one id at its site, or none. -/
theorem exec_drawn :
    (exec py c w).2.drawn =
      match c.draws with
      | none => w.drawn
      | some site => (w.draw site).drawn := by
  cases c with
  | apply cell eventType payload =>
    rcases exec_apply py w cell eventType payload with ⟨_, -, hx⟩ | ⟨_, -, hx⟩ <;> rw [hx] <;> rfl
  | createSession | appendEvent | enqueueCommand | upsertCellHost | upsertSandboxHost
  | createLease | getOrCreateChannel => exact World.commit_drawn
  | _ => rfl

/-- Nothing is drawn at the other sites. -/
theorem exec_drawn_of_ne {site : IdSite} (hc : c.draws ≠ some site) :
    (exec py c w).2.drawn site = w.drawn site := by
  rw [exec_drawn]
  cases hdraws : c.draws with
  | none => rfl
  | some s =>
    rw [hdraws] at hc
    exact World.draw_of_ne fun heq => hc (congrArg some heq.symm)

/-- Counters of ids never go back. -/
theorem exec_drawn_le (site : IdSite) : w.drawn site ≤ (exec py c w).2.drawn site := by
  rw [exec_drawn]
  cases c.draws with
  | none => exact Nat.le_refl _
  | some s =>
    show w.drawn site ≤ (w.draw s).drawn site
    by_cases hs : site = s
    · subst hs
      rw [World.draw_self]
      exact Nat.le_succ _
    · rw [World.draw_of_ne hs]

theorem exec_sessions (h : c.writes .sessions = false) :
    (exec py c w).2.store.sessions = w.store.sessions := exec_agree py w h

theorem exec_events (h : c.writes .events = false) :
    (exec py c w).2.store.events = w.store.events := exec_agree py w h

theorem exec_inbox (h : c.writes .inbox = false) :
    (exec py c w).2.store.commandInbox = w.store.commandInbox := exec_agree py w h

theorem exec_revoked (h : c.writes .revoked = false) :
    (exec py c w).2.store.revokedTokens = w.store.revokedTokens := exec_agree py w h

theorem exec_hosts (h : c.writes .hosts = false) :
    (exec py c w).2.store.cellHosts = w.store.cellHosts := exec_agree py w h

theorem exec_leases (h : c.writes .leases = false) :
    (exec py c w).2.store.sessionLeases = w.store.sessionLeases := exec_agree py w h

theorem exec_channels (h : c.writes .channels = false) :
    (exec py c w).2.store.channels = w.store.channels := exec_agree py w h

theorem exec_heap (h : c.writes .heap = false) : (exec py c w).2.heap = w.heap :=
  (exec_agree (p := .heap) py w h).1

theorem exec_nextAddr (h : c.writes .heap = false) : (exec py c w).2.nextAddr = w.nextAddr :=
  (exec_agree (p := .heap) py w h).2

theorem exec_cells (h : c.writes .cells = false) : (exec py c w).2.cells = w.cells :=
  exec_agree py w h

theorem exec_callbacks (h : c.writes .broker = false) :
    (exec py c w).2.callbacks = w.callbacks := (exec_agree (p := .broker) py w h).1

theorem exec_objects (h : c.writes .broker = false) : (exec py c w).2.objects = w.objects :=
  (exec_agree (p := .broker) py w h).2

/-- What `celld.cells` holds after an entry of it has been written. -/
theorem update_cells (cells : ℕ → String → Option Cell) (ref ref' : ℕ) (sid sid' : String)
    (entry : Option Cell) :
    Function.update cells ref (Function.update (cells ref) sid entry) ref' sid' =
      if ref' = ref ∧ sid' = sid then entry else cells ref' sid' := by
  by_cases href : ref' = ref
  · subst href
    rw [Function.update_self]
    by_cases hsid : sid' = sid
    · subst hsid
      rw [Function.update_self, if_pos ⟨rfl, rfl⟩]
    · rw [Function.update_of_ne hsid, if_neg fun h => hsid h.2]
  · rw [Function.update_of_ne href, if_neg fun h => href h.1]

theorem exec_cellsSet_cells (ref ref' : ℕ) (sid sid' : String) (cell : Cell) :
    (exec py (.cellsSet ref sid cell) w).2.cells ref' sid' =
      if ref' = ref ∧ sid' = sid then some cell else w.cells ref' sid' :=
  update_cells w.cells ref ref' sid sid' (some cell)

theorem exec_cellsPop_cells (ref ref' : ℕ) (sid sid' : String) :
    (exec py (.cellsPop ref sid) w).2.cells ref' sid' =
      if ref' = ref ∧ sid' = sid then none else w.cells ref' sid' :=
  update_cells w.cells ref ref' sid sid' none

end Frames

end Nadi
