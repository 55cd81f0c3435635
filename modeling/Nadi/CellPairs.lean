import Nadi.Cells
import Nadi.Effect.SideBySide
import Nadi.Model.Core

/-!
# Two stacks that differ in their cells

Two runs at the same point (`Paired`): the same readings taken, the same core,
and on either side the invariant of live cells. Whatever the programs do keeps
two stacks paired, with the same outcomes, although one may have to rebuild a
cell where the other still has it, and then verifies another token.
-/

namespace Nadi

open Effect

variable {T : Type} [Field T] [LinearOrder T] [IsStrictOrderedRing T] [FloorRing T]

/-! ## Pairs of states -/

section Pairs

variable (py : Py) (c : Celld) (tm : Timing T)

/-- Two runs at the same point, with a fact `X` about either state. -/
structure Paired (X : World T → Prop) (s t : Ticking T) : Prop where
  reading : s.reading = t.reading
  core : s.world.core = t.world.core
  left : StackInv py c (tm.rebuild s.reading) s.world
  right : StackInv py c (tm.rebuild t.reading) t.world
  leftX : X s.world
  rightX : X t.world

/-- A fact that steady calls keep, at any time. -/
structure Kept (X : World T → Prop) : Prop where
  passes : ∀ w t f, X w → X { w with clock := t, files := f }
  steady : ∀ d w, d.steady = true → X w → X (exec py d w).2

/-- Side by side the programs keep two states paired and give the same, a value
in `V` or an exception. -/
def Mirrors {α : Type} (X : World T → Prop) (V : α → Prop) (p q : Code T α) : Prop :=
  SideBySide (timed py tm) (Paired py c tm X)
    (fun a b s t => (a = b ∧ V a) ∧ Paired py c tm X s t)
    (Paired py c tm fun _ => True) p q

end Pairs

variable {py : Py} {c : Celld} {tm : Timing T} {X : World T → Prop}

namespace Paired

variable {s t : Ticking T}

/-- Less may be said about the states. -/
theorem mono (h : Paired py c tm X s t) {Y : World T → Prop} (hXY : ∀ w, X w → Y w) :
    Paired py c tm Y s t :=
  ⟨h.reading, h.core, h.left, h.right, hXY _ h.leftX, hXY _ h.rightX⟩

/-- More may be known about them. -/
theorem strengthen (h : Paired py c tm X s t) {Y : World T → Prop} (hs : Y s.world)
    (ht : Y t.world) : Paired py c tm Y s t :=
  ⟨h.reading, h.core, h.left, h.right, hs, ht⟩

theorem forget (h : Paired py c tm X s t) : Paired py c tm (fun _ => True) s t :=
  h.mono fun _ _ => trivial

omit [Field T] [IsStrictOrderedRing T] [FloorRing T] in
theorem ready_core (hreading : s.reading = t.reading) (hcore : s.world.core = t.world.core) :
    (s.ready tm).core = (t.ready tm).core := by
  have hs : (s.ready tm).core =
      { s.world.core with clock := tm.now s.reading, files := tm.files s.reading } := rfl
  rw [hs, hcore, hreading]
  rfl

theorem store (h : Paired py c tm X s t) : s.world.store = t.world.store := by
  have hcore := congrArg World.store h.core
  exact hcore

theorem objects (h : Paired py c tm X s t) : s.world.objects = t.world.objects := by
  have hcore := congrArg World.objects h.core
  exact hcore

theorem callbacks (h : Paired py c tm X s t) : s.world.callbacks = t.world.callbacks := by
  have hcore := congrArg World.callbacks h.core
  exact hcore

end Paired

namespace StackInv

variable {s : Ticking T}

/-- Taking a reading. -/
theorem ready (h : StackInv py c (tm.rebuild s.reading) s.world) :
    StackInv py c (tm.rebuild (s.reading + 1)) (s.ready tm) :=
  h.passes ((tm.rebuild_le _).trans (tm.le_rebuild _)) _ _

end StackInv

/-- Taking a reading on both sides. -/
theorem Paired.ready {s t : Ticking T} (h : Paired py c tm X s t)
    (hX : ∀ w t f, X w → X { w with clock := t, files := f }) :
    Paired py c tm X ⟨s.reading + 1, s.ready tm⟩ ⟨t.reading + 1, t.ready tm⟩ :=
  ⟨congrArg (· + 1) h.reading, Paired.ready_core h.reading h.core, h.left.ready, h.right.ready,
    hX _ _ _ h.leftX, hX _ _ _ h.rightX⟩

namespace Mirrors

variable {α β : Type} {V : α → Prop} {W : β → Prop}

theorem pure {a : α} (ha : V a) : Mirrors py c tm X V (.pure a) (.pure a) :=
  SideBySide.pure fun _ _ h => ⟨⟨rfl, ha⟩, h⟩

theorem throw {e : PyErr} : Mirrors py c tm X V (.throw e : Code T α) (.throw e) :=
  SideBySide.throw fun _ _ h => h.forget

theorem bind {p q : Code T α} {f g : α → Code T β} (hp : Mirrors py c tm X V p q)
    (hf : ∀ a, V a → Mirrors py c tm X W (f a) (g a)) :
    Mirrors py c tm X W (p.bind f) (q.bind g) :=
  SideBySide.bind hp fun a _ => .of_prop fun hab => hab.1 ▸ hf a hab.2

theorem ofExcept_bind {x : Except PyErr α} {f g : α → Code T β}
    (hf : ∀ a, Mirrors py c tm X W (f a) (g a)) :
    Mirrors py c tm X W ((Prog.ofExcept x).bind f) ((Prog.ofExcept x).bind g) :=
  SideBySide.ofExcept_bind hf fun _ _ h => h.forget

theorem ofExcept {x : Except PyErr α} (hx : ∀ a, x = .ok a → V a) :
    Mirrors py c tm X V (Prog.ofExcept x : Code T α) (Prog.ofExcept x) := by
  cases x with
  | ok a => exact pure (hx a rfl)
  | error e => exact throw

/-- A call that gives the same on paired states and keeps them paired. -/
theorem perform {d : Call T} {V : d.Ret → Prop}
    (hd : ∀ s t, Paired py c tm X s t → (timed py tm d s).1 = (timed py tm d t).1 ∧
      (∀ a, (timed py tm d s).1 = .ok a → V a) ∧
      Paired py c tm X (timed py tm d s).2 (timed py tm d t).2) :
    Mirrors py c tm X V (Nadi.call d) (Nadi.call d) := by
  refine SideBySide.perform fun s t h => ?_
  obtain ⟨hout, hV, hpaired⟩ := hd s t h
  rcases hs : timed py tm d s with ⟨r, s'⟩
  rcases ht : timed py tm d t with ⟨r', t'⟩
  rw [hs, ht] at hout hpaired
  rw [hs] at hV
  dsimp only at hout
  subst hout
  cases r with
  | ok a => exact .ok ⟨⟨rfl, hV a rfl⟩, hpaired⟩
  | error e => exact .error e hpaired.forget

/-- A call that has nothing to do with cells. -/
theorem call {d : Call T} (hX : Kept py X) (hdurable : d.durable = true)
    (hsteady : d.steady = true) (hd : d ≠ .time .reconstructCell) :
    Mirrors py c tm X (fun _ => True) (Nadi.call d) (Nadi.call d) := by
  refine perform fun s t h => ?_
  cases hreads : d.reads with
  | true =>
    obtain ⟨hout, hcore⟩ := exec_same_core py hdurable (Paired.ready_core h.reading h.core)
    rw [timed_reads py tm s hreads hd, timed_reads py tm t hreads hd]
    refine ⟨hout, fun _ _ => trivial, congrArg (· + 1) h.reading, hcore,
      h.left.ready.steady hsteady, h.right.ready.steady hsteady, ?_, ?_⟩
    · exact hX.steady d _ hsteady (hX.passes _ _ _ h.leftX)
    · exact hX.steady d _ hsteady (hX.passes _ _ _ h.rightX)
  | false =>
    obtain ⟨hout, hcore⟩ := exec_same_core py hdurable h.core
    rw [timed_quiet py tm s hreads, timed_quiet py tm t hreads]
    exact ⟨hout, fun _ _ => trivial, h.reading, hcore, h.left.steady hsteady,
      h.right.steady hsteady, hX.steady d _ hsteady h.leftX, hX.steady d _ hsteady h.rightX⟩

/-- An event that is appended on both sides. -/
theorem append {sid eventType : String} {payload : Json}
    (hses : ∀ w, X w → w.store.hasSession sid = true) (hobj : payload.orEmpty.isObj = true)
    (hpasses : ∀ w t f, X w → X { w with clock := t, files := f })
    (hX : ∀ w heap, X w → X { w.append sid eventType payload with heap }) :
    Mirrors py c tm X (fun _ => True) (c.appendEvent sid eventType payload)
      (c.appendEvent sid eventType payload) := by
  intro s t h
  obtain ⟨heap, hrun, hheap⟩ := run_appendEvent py tm c (hses _ h.leftX) hobj
  obtain ⟨heap', hrun', hheap'⟩ := run_appendEvent py tm c (hses _ h.rightX) hobj
  rw [hrun, hrun', h.store]
  have hcore : ∀ (w : World T) heap, ({ w.append sid eventType payload with heap } : World T).core =
      w.core.append sid eventType payload := fun _ _ => rfl
  refine .ok ⟨⟨rfl, trivial⟩, congrArg (· + 1) h.reading, ?_, ?_, ?_, ?_, ?_⟩
  · rw [hcore, hcore, Paired.ready_core h.reading h.core]
  · exact h.left.ready.append (hses _ (hpasses _ _ _ h.leftX)) hobj hheap
  · exact h.right.ready.append (hses _ (hpasses _ _ _ h.rightX)) hobj hheap'
  · exact hX _ _ (hpasses _ _ _ h.leftX)
  · exact hX _ _ (hpasses _ _ _ h.rightX)

end Mirrors

/-! ## Tokens -/

/-- The session of a lease that is active during the whole run. -/
def Leased (tm : Timing T) (sid : String) (w : World T) : Prop :=
  w.store.hasSession sid = true ∧
    ∃ l, w.store.sessionLeases.find? sid = some l ∧ ∀ k, tm.now k < l.expiresAt

/-- The token of a cell outlives a run in which the lease of its session does not end. -/
theorem CellToken.outlives {w : World T} {sid token : String}
    (h : CellToken py c w.store sid token) (hleased : Leased tm sid w) :
    Outlives py c tm sid token := by
  obtain ⟨t, jti, hjti, htoken, hlease⟩ := h
  obtain ⟨-, l, hl, hlong⟩ := hleased
  exact ⟨t, jti, hjti, htoken, fun k => (hlong k).trans_le (hlease l hl)⟩

omit [IsStrictOrderedRing T] [FloorRing T] in
theorem Leased.kept {sid : String} : Kept py (Leased tm sid : World T → Prop) where
  passes := fun _ _ _ h => h
  steady := by
    rintro d w hd ⟨hses, l, hl, hlong⟩
    refine ⟨exec_hasSession py d hses, l, ?_, hlong⟩
    simp only [Call.steady, List.all_cons, Bool.and_eq_true, Bool.not_eq_true'] at hd
    rw [exec_leases py w hd.2.2.1]
    exact hl

/-- **Any token that outlives the run verifies**, in two readings, and changes
nothing else. -/
theorem run_verify {sid token : String} (hjwt : c.sandboxd.jwt = c.jwt)
    (htoken : Outlives py c tm sid token) {s : Ticking T}
    (hrevoked : s.world.store.revokedTokens.rows = []) :
    ∃ data, (c.sandboxd.jwt.verify py token sid "tool").run (timed py tm) s =
      (.ok data, ⟨s.reading + 2,
        { s.world with clock := tm.now (s.reading + 1), files := tm.files (s.reading + 1) }⟩) := by
  obtain ⟨t, jti, hjti, rfl, hlong⟩ := htoken
  have htime : (call (.time .verify)).run (timed py tm) s =
      (.ok (tm.now s.reading), ⟨s.reading + 1, s.ready tm⟩) := rfl
  have hexpiry : ¬ SessionJWT.expiry (truncate t) 3600 < truncate (tm.now s.reading) := by
    have hmono := truncate_mono (hlong s.reading).le
    have hadd := truncate_add_le t 3600
    have hmin : SessionJWT.expiry (truncate t) 3600 = truncate t + 3600 := rfl
    push_cast at hadd
    omega
  have hscope : "tool" ∈ splitWords "cell tool" := by decide +kernel
  have hlook : (call (.isTokenRevoked jti)).run (timed py tm) ⟨s.reading + 1, s.ready tm⟩ =
      (.ok false, ⟨s.reading + 2,
        { s.world with clock := tm.now (s.reading + 1), files := tm.files (s.reading + 1) }⟩) := by
    have hempty := Store.isTokenRevoked_of_empty hrevoked (tm.now (s.reading + 1)) jti
    rw [Prog.run_perform, timed_reads py tm _ rfl (by simp)]
    show (Except.ok (s.world.store.isTokenRevoked (tm.now (s.reading + 1)) jti).1,
      (⟨s.reading + 2, { s.world with
        clock := tm.now (s.reading + 1)
        files := tm.files (s.reading + 1)
        store := (s.world.store.isTokenRevoked (tm.now (s.reading + 1)) jti).2 }⟩ :
        Ticking T)) = _
    rw [hempty]
  rw [hjwt, SessionJWT.verify_sign py _ _ hjti, Prog.run_bind_ok _ htime, if_neg hexpiry,
    if_pos rfl, if_pos (.inl hscope), Prog.run_bind_ok _ hlook]
  exact ⟨_, rfl⟩

end Nadi
