import Nadi.Model.Timed

/-!
# Sequential runs amid losses

Requests are served one after the other, while time passes, the file system
changes and daemons lose cells, all of it between any two calls. `Surroundings`
says what happens just before each call of a run, counted from its start;
`amid` runs a program in them. `losing` is the same for threads that run side
by side.
-/

namespace Nadi

open Effect

variable {T : Type}

/-- The daemons have lost the cells of some sessions. -/
def World.lose (w : World T) (lost : String → Bool) : World T :=
  { w with cells := fun ref sid => if lost sid then none else w.cells ref sid }

theorem World.lose_cells_eq_some {w : World T} {lost : String → Bool} {ref : ℕ} {sid : String}
    {cell : Cell} : (w.lose lost).cells ref sid = some cell ↔
      lost sid = false ∧ w.cells ref sid = some cell := by
  unfold World.lose
  dsimp only
  cases lost sid <;> simp

/-- Daemons lose cells; nothing else happens. -/
def World.Loses (w w' : World T) : Prop :=
  ∃ cells, (∀ ref sid cell, cells ref sid = some cell → w.cells ref sid = some cell) ∧
    w' = { w with cells }

/-- What happens around the calls of a run. -/
structure Surroundings (T : Type) [LE T] where
  now : ℕ → T
  files : ℕ → Files
  /-- The sessions whose cells are lost just before the call. -/
  lost : ℕ → String → Bool
  now_le : ∀ n, now n ≤ now (n + 1)

/-- The clock and the file system stand still; cells are lost as given. -/
def Surroundings.still [Preorder T] (t : T) (files : Files) (lost : ℕ → String → Bool) :
    Surroundings T where
  now := fun _ => t
  files := fun _ => files
  lost
  now_le := fun _ => le_refl t

section Met

variable [Preorder T] (around : Surroundings T)

/-- Time does not go back. -/
theorem Surroundings.now_mono {m n : ℕ} (h : m ≤ n) : around.now m ≤ around.now n :=
  monotone_nat_of_le_succ around.now_le h

/-- The state in which the next call is made. -/
def Surroundings.met (s : Ticking T) : World T :=
  { s.world.lose (around.lost s.reading) with
    clock := around.now s.reading
    files := around.files s.reading }

variable {around} {s : Ticking T}

@[simp] theorem Surroundings.met_clock : (around.met s).clock = around.now s.reading := rfl

@[simp] theorem Surroundings.met_store : (around.met s).store = s.world.store := rfl

@[simp] theorem Surroundings.met_drawn : (around.met s).drawn = s.world.drawn := rfl

/-- A cell that is met has been there. -/
theorem Surroundings.met_cells {ref : ℕ} {sid : String} {cell : Cell}
    (h : (around.met s).cells ref sid = some cell) : s.world.cells ref sid = some cell :=
  (World.lose_cells_eq_some.mp h).2

end Met

variable [Field T] [LinearOrder T]

/-- The meaning of the calls amid surroundings; `reading` counts the calls. -/
def amid (py : Py) (around : Surroundings T) : Handler (Call T) Call.Ret PyErr (Ticking T) :=
  fun c s => ((exec py c (around.met s)).1, ⟨s.reading + 1, (exec py c (around.met s)).2⟩)

variable {py : Py} {around : Surroundings T}

/-- Threads between whose calls time passes and daemons lose cells. -/
def losing (ι : Type) (py : Py) : System ι (Call T) Call.Ret PyErr (World T) where
  handler := exec py
  env w w' := w.Passes w' ∨ w.Loses w'

theorem run_call_amid (c : Call T) (s : Ticking T) :
    (call c).run (amid py around) s =
      ((exec py c (around.met s)).1, ⟨s.reading + 1, (exec py c (around.met s)).2⟩) :=
  Prog.run_perform _ _ _

end Nadi
