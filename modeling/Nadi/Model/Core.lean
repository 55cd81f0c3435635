import Nadi.Model.Frame

/-!
# What is left of a state when its cells are lost

The core of a state is what does not live in a `celld`: the store, the clock,
the file system, the registrations of the broker and the ids drawn, apart from
those of tokens. Calls that do not touch cells give the same on two states with
one core, and lead to states with one core again (`exec_core`).
-/

namespace Nadi

variable {T : Type}

namespace World

/-- The state without cells, and without the count of tokens. -/
def core (w : World T) : World T :=
  { w with
    drawn := Function.update w.drawn .jti 0
    heap := fun _ => .initial
    nextAddr := 0
    cells := fun _ _ => none }

variable {w : World T} {site : IdSite}

@[simp] theorem core_store : w.core.store = w.store := rfl

theorem fresh_core (py : Py) (h : site ≠ .jti) : w.core.fresh py site = w.fresh py site := by
  unfold fresh core
  exact congrArg (py.uuid4 site) (Function.update_of_ne h _ _)

theorem draw_core (h : site ≠ .jti) : w.core.draw site = (w.draw site).core := by
  unfold draw core
  dsimp only
  rw [Function.update_of_ne h, Function.update_comm h]

/-- A token drawn leaves the core as it is. -/
theorem core_draw_jti : (w.draw .jti).core = w.core := by
  unfold draw core
  dsimp only
  rw [Function.update_idem]

theorem commit_core {β : Type} {r : Except PyErr (β × Store T)} :
    w.core.commit r = ((w.commit r).1, (w.commit r).2.core) := by
  cases r <;> rfl

end World

/-- The calls that do not touch cells and draw no token. -/
def Call.durable : Call T → Bool
  | .uuid4 site => site != .jti
  | .newCell .. => false
  | .apply .. => false
  | .cellsGet .. => false
  | .cellsSet .. => false
  | .cellsPop .. => false
  | _ => true

/-- **Cells do not matter** to a call that does not touch them. -/
theorem exec_core [Field T] [LinearOrder T] (py : Py) {c : Call T} (h : c.durable = true)
    (w : World T) : exec py c w.core = ((exec py c w).1, (exec py c w).2.core) := by
  cases c with
  | createSession | upsertCellHost | upsertSandboxHost | createLease | getOrCreateChannel =>
    simp only [exec]
    rw [World.draw_core (by decide), World.fresh_core py (by decide), World.commit_core]
    rfl
  | appendEvent | enqueueCommand => exact World.commit_core
  | claimPendingCommands sid claimedBy =>
    simp only [exec]
    rw [World.draw_core (by decide), World.fresh_core py (by decide)]
    rfl
  | uuid4 site =>
    have hsite : site ≠ .jti := by simpa [Call.durable] using h
    simp only [exec]
    rw [World.draw_core hsite, World.fresh_core py hsite]
  | newCell | apply | cellsGet | cellsSet | cellsPop => cases h
  | _ => rfl

/-- From states with one core, such a call gives the same and leads to one core. -/
theorem exec_same_core [Field T] [LinearOrder T] (py : Py) {c : Call T} (h : c.durable = true)
    {w w' : World T} (hcore : w.core = w'.core) :
    (exec py c w).1 = (exec py c w').1 ∧ (exec py c w).2.core = (exec py c w').2.core := by
  have hw := exec_core py h w
  rw [hcore, exec_core py h w'] at hw
  exact ⟨(Prod.mk.inj hw).1.symm, (Prod.mk.inj hw).2.symm⟩

end Nadi
