import Nadi.Effect.SideBySide
import Nadi.Model.Surroundings

/-!
# Two runs that keep pace

Under a timing (`timed`) or amid surroundings (`amid`) a call is served at a time
that depends on how many readings have been taken, and on nothing else of the
state. Two runs that make calls of the same pace therefore make them at the same
times (`Punctual`), whatever their states have in common otherwise.
-/

namespace Nadi

open Effect

variable {T : Type}

/-- The state at another time. -/
def World.pass (w : World T) (now : T) (files : Files) : World T := { w with clock := now, files }

/-- A relation of states that looks at neither the clock nor the files. -/
def Untimed (R : World T → World T → Prop) : Prop :=
  ∀ w w' now files now' files', R w w' → R (w.pass now files) (w'.pass now' files')

/-- What the time of a call depends on. -/
inductive Pace where
  | reading
  | rebuild
  | quiet
  deriving DecidableEq

def Call.pace : Call T → Pace
  | .time .reconstructCell => .rebuild
  | c => if c.reads then .reading else .quiet

theorem Call.pace_spec (c : Call T) :
    match c.pace with
    | .reading => c ≠ .time .reconstructCell ∧ c.reads = true
    | .rebuild => c = .time .reconstructCell
    | .quiet => c.reads = false := by
  by_cases hrebuild : c = .time .reconstructCell
  · rw [hrebuild]
    rfl
  have hpace : c.pace = if c.reads then .reading else .quiet := by
    unfold Call.pace
    split
    · exact absurd rfl hrebuild
    · rfl
  rw [hpace]
  cases hreads : c.reads with
  | true => exact ⟨hrebuild, rfl⟩
  | false => rfl

section Served

variable [Field T] [LinearOrder T] (py : Py) (h : Handler (Call T) Call.Ret PyErr (Ticking T))

/-- The handler serves the call as if it were made at that time. -/
structure ServedAt (now : T) (files : Files) (d : Call T) (s : Ticking T) : Prop where
  outcome : (h d s).1 = (exec py d (s.world.pass now files)).1
  after : ∃ now' files', (h d s).2.world = (exec py d (s.world.pass now files)).2.pass now' files'

/-- Calls of the same pace are served at the same time. -/
def Punctual : Prop :=
  ∀ (d d' : Call T) (s t : Ticking T), d.pace = d'.pace → s.reading = t.reading →
    ∃ now files, ServedAt py h now files d s ∧ ServedAt py h now files d' t ∧
      (h d s).2.reading = (h d' t).2.reading

theorem punctual_timed (tm : Timing T) : Punctual py (timed py tm) := by
  -- a call that is quiet is served at any time
  have hquiet : ∀ (d : Call T) (s : Ticking T), d.reads = false → ∀ now files,
      ServedAt py (timed py tm) now files d s := by
    intro d s hreads now files
    have hpass := exec_quiet py hreads s.world now files
    have hback := exec_passive py s.world (c := d)
    refine ⟨?_, s.world.clock, s.world.files, ?_⟩
    · rw [timed_quiet py tm s hreads]
      exact (congrArg Prod.fst hpass).symm
    · rw [timed_quiet py tm s hreads]
      have hafter := congrArg (fun r => r.2.pass s.world.clock s.world.files) hpass
      refine Eq.trans ?_ hafter.symm
      show _ = { (exec py d s.world).2 with clock := s.world.clock, files := s.world.files }
      rw [← hback.1, ← hback.2]
  have hreading : ∀ (d : Call T) (s : Ticking T), d ≠ .time .reconstructCell → d.reads = true →
      ServedAt py (timed py tm) (tm.now s.reading) (tm.files s.reading) d s := by
    intro d s hne hreads
    have hserved := timed_reads py tm s hreads hne
    exact ⟨congrArg Prod.fst hserved, _, _, congrArg (fun r => r.2.world) hserved⟩
  intro d d' s t hpace hst
  have hd := d.pace_spec
  have hd' := d'.pace_spec
  rw [← hpace] at hd'
  cases hp : d.pace with
  | reading =>
    rw [hp] at hd hd'
    refine ⟨tm.now s.reading, tm.files s.reading, hreading d s hd.1 hd.2, ?_, ?_⟩
    · rw [hst]
      exact hreading d' t hd'.1 hd'.2
    · rw [timed_reads py tm s hd.2 hd.1, timed_reads py tm t hd'.2 hd'.1, hst]
  | rebuild =>
    rw [hp] at hd hd'
    obtain rfl : d = .time .reconstructCell := hd
    obtain rfl : d' = .time .reconstructCell := hd'
    refine ⟨tm.rebuild s.reading, s.world.files, ⟨rfl, s.world.clock, s.world.files, rfl⟩,
      ⟨?_, t.world.clock, t.world.files, rfl⟩, hst⟩
    rw [hst]
    rfl
  | quiet =>
    rw [hp] at hd hd'
    refine ⟨s.world.clock, s.world.files, hquiet d s hd _ _, hquiet d' t hd' _ _, ?_⟩
    rw [timed_quiet py tm s hd, timed_quiet py tm t hd']
    exact hst

/-- Surroundings in which no cell is lost. -/
theorem punctual_amid {around : Surroundings T} (hlost : ∀ n sid, around.lost n sid = false) :
    Punctual py (amid py around) := by
  have hmet : ∀ s : Ticking T,
      around.met s = s.world.pass (around.now s.reading) (around.files s.reading) := by
    intro s
    unfold Surroundings.met World.lose World.pass
    simp only [hlost, Bool.false_eq_true, if_false]
  intro d d' s t _ hst
  refine ⟨around.now s.reading, around.files s.reading, ⟨?_, ?_⟩, ⟨?_, ?_⟩, congrArg (· + 1) hst⟩
  · rw [← hmet]
    rfl
  · rw [← hmet]
    exact ⟨_, _, rfl⟩
  · rw [hst, ← hmet]
    rfl
  · rw [hst, ← hmet]
    exact ⟨_, _, rfl⟩

variable {py h}

/-- **A call on each side**, of the same pace: what they come to and leave is as if they
were made at the same time. -/
theorem Punctual.serve (hh : Punctual py h) {d d' : Call T} (hpace : d.pace = d'.pace)
    {s t : Ticking T} (hst : s.reading = t.reading)
    {Q : d.Ret → d'.Ret → World T → World T → Prop} {E : World T → World T → Prop}
    (hQ : ∀ a b, Untimed (Q a b)) (hE : Untimed E)
    (hstep : ∀ now files, SameEnd Q E (exec py d (s.world.pass now files))
      (exec py d' (t.world.pass now files))) :
    SameEnd (fun a b s' t' => s'.reading = t'.reading ∧ Q a b s'.world t'.world)
      (fun s' t' => s'.reading = t'.reading ∧ E s'.world t'.world) (h d s) (h d' t) := by
  obtain ⟨now, files, ⟨hout, now₁, files₁, hafter⟩, ⟨hout', now₂, files₂, hafter'⟩, hreading⟩ :=
    hh d d' s t hpace hst
  have hend := hstep now files
  generalize exec py d (s.world.pass now files) = x at hend hout hafter
  generalize exec py d' (t.world.pass now files) = y at hend hout' hafter'
  generalize h d s = u at hout hafter hreading ⊢
  generalize h d' t = v at hout' hafter' hreading ⊢
  obtain ⟨r, s'⟩ := u
  obtain ⟨r', t'⟩ := v
  cases hend with
  | ok hq =>
    obtain rfl : r = .ok _ := hout
    obtain rfl : r' = .ok _ := hout'
    refine .ok ⟨hreading, ?_⟩
    rw [hafter, hafter']
    exact hQ _ _ _ _ _ _ _ _ hq
  | error e he =>
    obtain rfl : r = .error e := hout
    obtain rfl : r' = .error e := hout'
    refine .error e ⟨hreading, ?_⟩
    rw [hafter, hafter']
    exact hE _ _ _ _ _ _ he

end Served

end Nadi
