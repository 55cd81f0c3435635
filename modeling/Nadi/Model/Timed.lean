import Nadi.Model.Frame
import Nadi.Model.Programs

/-!
# Sequential runs while time passes

A call that depends on the time or on the file system reads both once, and
between two of them any time may pass. `Timing` gives the reading of each of a
run's calls, counted from its start; `timed` runs a program under it.

A daemon that has lost a cell signs a token more than one that has not. That
reading is kept apart (`rebuild`), between the readings around it, so that two
runs can be compared which differ in it.
-/

namespace Nadi

open Effect

variable {T : Type}

/-- The successive readings of a run. -/
structure Timing (T : Type) [LE T] where
  now : ℕ → T
  files : ℕ → Files
  /-- Where a token is signed for a rebuilt cell, after `n` readings. -/
  rebuild : ℕ → T
  rebuild_le : ∀ n, rebuild n ≤ now n
  le_rebuild : ∀ n, now n ≤ rebuild (n + 1)

/-- A clock and a file system that stand still. -/
def Timing.still [Preorder T] (t : T) (files : Files) : Timing T where
  now := fun _ => t
  files := fun _ => files
  rebuild := fun _ => t
  rebuild_le := fun _ => le_refl t
  le_rebuild := fun _ => le_refl t

/-- The shared state of a run, and how many readings it has taken. -/
structure Ticking (T : Type) where
  reading : ℕ
  world : World T

/-- The calls whose outcome or effect depends on the time or the file system. -/
def Call.reads : Call T → Bool
  | .getEvents .. => false
  | .chooseCellHost => false
  | .getChannel .. => false
  | .uuid4 _ => false
  | .newCell .. => false
  | .apply .. => false
  | .cellsGet .. => false
  | .cellsSet .. => false
  | .cellsPop .. => false
  | .setCallback .. => false
  | .callback _ => false
  | .setObject .. => false
  | .object _ => false
  | _ => true

section Readings

variable [Preorder T] (tm : Timing T)

/-- Time does not go back. -/
theorem Timing.now_mono {m n : ℕ} (h : m ≤ n) : tm.now m ≤ tm.now n :=
  monotone_nat_of_le_succ (fun k => (tm.le_rebuild k).trans (tm.rebuild_le (k + 1))) h

theorem Timing.rebuild_mono {m n : ℕ} (h : m ≤ n) : tm.rebuild m ≤ tm.rebuild n :=
  monotone_nat_of_le_succ (fun k => (tm.rebuild_le k).trans (tm.le_rebuild k)) h

/-- The state in which the next reading is taken. -/
def Ticking.ready (s : Ticking T) : World T :=
  { s.world with clock := tm.now s.reading, files := tm.files s.reading }

end Readings

variable [Field T] [LinearOrder T]

/-- The meaning of the calls under a timing. -/
def timed (py : Py) (tm : Timing T) : Handler (Call T) Call.Ret PyErr (Ticking T)
  | .time .reconstructCell, s => (.ok (tm.rebuild s.reading), s)
  | c, s =>
    if c.reads then
      ((exec py c (s.ready tm)).1, ⟨s.reading + 1, (exec py c (s.ready tm)).2⟩)
    else ((exec py c s.world).1, ⟨s.reading, (exec py c s.world).2⟩)

variable (py : Py) (tm : Timing T) {c : Call T} (s : Ticking T)

theorem timed_reads (h : c.reads = true) (hc : c ≠ .time .reconstructCell) :
    timed py tm c s = ((exec py c (s.ready tm)).1, ⟨s.reading + 1, (exec py c (s.ready tm)).2⟩) := by
  unfold timed
  split
  · exact absurd rfl hc
  · rw [if_pos h]

theorem timed_quiet (h : c.reads = false) :
    timed py tm c s = ((exec py c s.world).1, ⟨s.reading, (exec py c s.world).2⟩) := by
  unfold timed
  split
  · cases h
  · rw [if_neg (by simp [h])]

omit s in
/-- The clock and the file system do not matter to a call that reads neither. -/
theorem exec_quiet (h : c.reads = false) (w : World T) (t : T) (f : Files) :
    exec py c { w with clock := t, files := f } =
      ((exec py c w).1, { (exec py c w).2 with clock := t, files := f }) := by
  cases c with
  | apply cell eventType payload =>
    simp only [exec]
    cases applyEvent (w.heap cell.addr) eventType payload <;> rfl
  | getEvents | chooseCellHost | getChannel | uuid4 | newCell | cellsGet | cellsSet => rfl
  | cellsPop | setCallback | callback | setObject | object => rfl
  | _ => cases h

/-- A fact about the store that every call of a kind preserves holds after a
program of such calls. -/
theorem run_timed_store {α : Type} {ok : Call T → Prop} {post : α → Prop} {p : Code T α}
    (hp : p.Within ok post) {I : World T → Prop}
    (hclock : ∀ w t f, I w → I { w with clock := t, files := f })
    (hcall : ∀ c w, ok c → I w → I (exec py c w).2) (hI : I s.world) :
    I (p.run (timed py tm) s).2.world := by
  refine hp.preserves (I := fun s : Ticking T => I s.world) (fun c s hc hI => ?_) hI
  unfold timed
  split
  · exact hI
  · split
    · exact hcall c _ hc (hclock _ _ _ hI)
    · exact hcall c _ hc hI

/-- A program leaves the parts its calls do not write as they were. -/
theorem run_agree {α : Type} {ok : Call T → Prop} {post : α → Prop} {p : Code T α} {part : Part}
    {s : Ticking T} (hp : p.Within ok post) (hok : ∀ c, ok c → c.writes part = false) :
    Agree part s.world (p.run (timed py tm) s).2.world := by
  refine run_timed_store py tm s hp (I := Agree part s.world) ?_ ?_ .refl
  · intro w t f h
    cases part <;> exact h
  · intro c w hc h
    exact h.trans (exec_agree py w (hok c hc))

/-- The same of a run that is known. -/
theorem agree_of_run {α : Type} {ok : Call T → Prop} {post : α → Prop} {p : Code T α} {part : Part}
    {s s' : Ticking T} {r : Except PyErr α} (hp : p.Within ok post)
    (hrun : p.run (timed py tm) s = (r, s')) (hok : ∀ c, ok c → c.writes part = false) :
    Agree part s.world s'.world := by
  have hagree := run_agree py tm (s := s) hp hok
  rwa [hrun] at hagree

omit s in
/-- With a clock and a file system that stand still, a timed run is a run. -/
theorem run_still {α : Type} (p : Code T α) (w : World T) (n : ℕ) :
    ∃ m, p.run (timed py (.still w.clock w.files)) ⟨n, w⟩ =
      ((p.run (exec py) w).1, ⟨m, (p.run (exec py) w).2⟩) := by
  induction p generalizing w n with
  | pure a => exact ⟨n, rfl⟩
  | throw e => exact ⟨n, rfl⟩
  | call c k ih =>
    obtain ⟨hclock, hfiles⟩ := exec_passive (c := c) py w
    have hcall : ∃ m, timed py (.still w.clock w.files) c ⟨n, w⟩ =
        ((exec py c w).1, ⟨m, (exec py c w).2⟩) := by
      by_cases hc : c = .time .reconstructCell
      · subst hc
        exact ⟨n, rfl⟩
      · cases hreads : c.reads with
        | true => exact ⟨n + 1, timed_reads py _ _ hreads hc⟩
        | false => exact ⟨n, timed_quiet py _ _ hreads⟩
    obtain ⟨m, hm⟩ := hcall
    obtain ⟨m', hrest⟩ := ih (exec py c w).1 (exec py c w).2 m
    rw [hclock, hfiles] at hrest
    refine ⟨m', ?_⟩
    rw [Prog.run_call, Prog.run_call, hm]
    exact hrest

end Nadi
