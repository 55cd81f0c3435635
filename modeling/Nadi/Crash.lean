import Mathlib.Data.Rat.Floor
import Nadi.CellOperations
import Nadi.Model.Sample

/-!
# Losing cells goes unnoticed

Clients of one local stack make requests one after the other, and between two
of them the daemon may lose any of its cells. Whatever it loses, the requests
are answered alike and leave the same database (`crash_transparent`); and a
cell that is there holds the replay of its session's log.
-/

namespace Nadi

open Effect

variable {T : Type}

/-! ## Requests -/

/-- A request of a client, or of another service to the inbox. -/
inductive Request where
  | createSession (tenantId : String) (metadata : Json)
  | sendCommand (sessionId commandType : String) (payload : Json)
      (actorResourceId : Option String)
  | enqueueCommand (sessionId commandType : String) (payload : Json)
      (actorResourceId : Option String)
  | getSessionEvents (sessionId : String) (after : Int)

/-- What a request returns. -/
inductive Answer (T : Type) where
  | created (created : Created)
  | sent (sent : Sent)
  | enqueued (commandId : Nat)
  | events (events : List (EventRow T))

/-- A request and the time in which it is served. -/
structure Turn (T : Type) [LE T] where
  timing : Timing T
  request : Request

/-- Each turn begins when those before it are over. -/
def Ordered [LE T] (turns : List (Turn T)) : Prop :=
  turns.Pairwise fun a b => ∀ k, a.timing.now k ≤ b.timing.rebuild 0

variable [Field T] [LinearOrder T] [IsStrictOrderedRing T] [FloorRing T]

section Runs

variable (py : Py)

/-- Serve a request. -/
def Request.code : Request → Code T (Answer T)
  | .createSession tenantId metadata => do
    return .created (← Gateway.createSession py tenantId metadata)
  | .sendCommand sessionId commandType payload actorResourceId => do
    return .sent (← Gateway.sendCommand py sessionId commandType payload actorResourceId)
  | .enqueueCommand sessionId commandType payload actorResourceId => do
    return .enqueued (← call (.enqueueCommand sessionId commandType payload actorResourceId))
  | .getSessionEvents sessionId after => do
    return .events (← Gateway.getSessionEvents sessionId after)

/-- The daemon loses cells, then a request is served. -/
def Turn.serve (lost : String → Bool) (turn : Turn T) (w : World T) :
    Except PyErr (Answer T) × Ticking T :=
  (turn.request.code py).run (timed py turn.timing) ⟨0, w.lose lost⟩

/-- Serve requests in turn, with losses before each: the answers, and the state
at the end. -/
def serve (losses : ℕ → String → Bool) :
    List (Turn T) → World T → List (Except PyErr (Answer T)) × World T
  | [], w => ([], w)
  | turn :: rest, w =>
    let served := turn.serve py (losses 0) w
    let more := serve (fun n => losses (n + 1)) rest served.2.world
    (served.1 :: more.1, more.2)

/-- No cell is ever lost. -/
def noLosses : ℕ → String → Bool := fun _ _ => false

/-- In a run without losses, no command is still being served when the lease
with which it began has ended. -/
def LeasesHold : List (Turn T) → World T → Prop
  | [], _ => True
  | turn :: rest, w =>
    (∀ sid commandType payload actor,
      turn.request = .sendCommand sid commandType payload actor →
        InTime turn.timing sid w.store) ∧
    LeasesHold rest (turn.serve py (noLosses 0) w).2.world

/-- A new local stack. -/
def localWorld (cwd : List String) (clock : T) (files : Files) : World T :=
  ((localStack cwd).run (exec py) (.init clock files)).2

end Runs

variable {py : Py} {c : Celld}

/-! ## One turn -/

/-- Two stacks between turns. -/
structure Twins (py : Py) (c : Celld) (now : T) (w w' : World T) : Prop where
  core : w.core = w'.core
  left : StackInv py c now w
  right : StackInv py c now w'

/-- **One request** is answered alike by two stacks that differ in cells. -/
theorem mirrors_request {tm : Timing T} (hjwt : c.sandboxd.jwt = c.jwt) (request : Request) :
    SideBySide (timed py tm)
      (fun s t => (s.reading = 0 ∧ ∀ sid commandType payload actor,
        request = .sendCommand sid commandType payload actor → InTime tm sid s.world.store) ∧
        Paired py c tm (fun _ => True) s t)
      (fun a b s t => a = b ∧ Paired py c tm (fun _ => True) s t)
      (Paired py c tm fun _ => True) (request.code py) (request.code py) := by
  -- requests without a condition
  have hplain : ∀ {α : Type} {V : α → Prop} {p : Code T α} {f : α → Answer T},
      Mirrors py c tm (fun _ => True) V p p → ∀ {I : Ticking T → Ticking T → Prop},
        (∀ s t, I s t → Paired py c tm (fun _ => True) s t) →
        SideBySide (timed py tm) I (fun a b s t => a = b ∧ Paired py c tm (fun _ => True) s t)
          (Paired py c tm fun _ => True) (p.bind fun a => .pure (f a))
          (p.bind fun a => .pure (f a)) := by
    intro α V p f hp I hI
    refine SideBySide.bind (hp.weaken hI fun _ _ _ _ h => h) fun a b => .of_prop fun hab => ?_
    exact SideBySide.pure fun _ _ h => ⟨congrArg f hab.1, h⟩
  have htrue : Kept py (fun _ : World T => True) := ⟨fun _ _ _ _ => trivial, fun _ _ _ _ => trivial⟩
  cases request with
  | createSession tenantId metadata =>
    exact hplain (mirrors_createSession tenantId metadata) fun _ _ h => h.2
  | sendCommand sid commandType payload actor =>
    refine SideBySide.bind ((mirrors_sendCommand hjwt commandType payload actor).weaken
      (fun s t h => ?_) fun _ _ _ _ h => h) fun a b =>
      .of_prop fun hab => SideBySide.pure fun _ _ h => ⟨congrArg Answer.sent hab.1, h.forget⟩
    exact ⟨⟨h.1.1, h.1.2 _ _ _ _ rfl⟩, h.2⟩
  | enqueueCommand sid commandType payload actor =>
    exact hplain (Mirrors.call htrue rfl rfl (by simp)) fun _ _ h => h.2
  | getSessionEvents sid after =>
    refine hplain (V := fun _ => True) ?_ fun _ _ h => h.2
    refine Mirrors.bind (V := fun _ => True) ?_ fun _ _ =>
      Mirrors.call (d := .getEvents sid after) htrue rfl rfl (by simp)
    refine Mirrors.bind (Mirrors.call htrue rfl rfl (by simp)) fun found _ => ?_
    cases found with
    | none => exact Mirrors.throw
    | some route => exact Mirrors.pure trivial

/-- **One turn**, whatever was lost before it on either side. -/
theorem Twins.serve {now : T} {w w' : World T} (h : Twins py c now w w')
    (hjwt : c.sandboxd.jwt = c.jwt) {turn : Turn T} (hnow : now ≤ turn.timing.rebuild 0)
    (htime : ∀ sid commandType payload actor,
      turn.request = .sendCommand sid commandType payload actor →
        InTime turn.timing sid w.store)
    (lost lost' : String → Bool) :
    (turn.serve py lost w).1 = (turn.serve py lost' w').1 ∧
      ∃ k, Twins py c (turn.timing.now k) (turn.serve py lost w).2.world
        (turn.serve py lost' w').2.world := by
  have hlose : ∀ (w : World T) lost, (w.lose lost).core = w.core := fun _ _ => rfl
  have hpaired : Paired py c turn.timing (fun _ => True) ⟨0, w.lose lost⟩ ⟨0, w'.lose lost'⟩ := by
    refine ⟨rfl, ?_, ?_, ?_, trivial, trivial⟩
    · rw [hlose, hlose, h.core]
    · exact (h.left.lose lost).passes hnow _ _
    · exact (h.right.lose lost').passes hnow _ _
  have hend := mirrors_request hjwt turn.request _ _ ⟨⟨rfl, htime⟩, hpaired⟩
  -- in either case the states at the end are paired
  have htwins : ∀ {s t : Ticking T}, Paired py c turn.timing (fun _ => True) s t →
      ∃ k, Twins py c (turn.timing.now k) s.world t.world := by
    intro s t hst
    refine ⟨s.reading, hst.core, hst.left.passes (turn.timing.rebuild_le _) _ _, ?_⟩
    rw [hst.reading]
    exact hst.right.passes (turn.timing.rebuild_le _) _ _
  unfold Turn.serve
  generalize (turn.request.code py).run (timed py turn.timing) ⟨0, w.lose lost⟩ = x at hend ⊢
  generalize (turn.request.code py).run (timed py turn.timing) ⟨0, w'.lose lost'⟩ = y at hend ⊢
  cases hend with
  | ok hq => exact ⟨congrArg Except.ok hq.1, htwins hq.2⟩
  | error e he => exact ⟨rfl, htwins he⟩

/-! ## Runs -/

/-- **Whole runs**, by induction on the turns: what is lost makes no difference. -/
theorem Twins.serve_all (hjwt : c.sandboxd.jwt = c.jwt) {turns : List (Turn T)} {now : T}
    {w w' : World T} (h : Twins py c now w w')
    (hnow : ∀ turn ∈ turns, now ≤ turn.timing.rebuild 0) (hordered : Ordered turns)
    (hleases : LeasesHold py turns w) (losses : ℕ → String → Bool) :
    (Nadi.serve py noLosses turns w).1 = (Nadi.serve py losses turns w').1 ∧
      ∃ later, Twins py c later (Nadi.serve py noLosses turns w).2
        (Nadi.serve py losses turns w').2 := by
  induction turns generalizing now w w' losses with
  | nil => exact ⟨rfl, now, h⟩
  | cons turn rest ih =>
    obtain ⟨hfirst, hrest⟩ := List.pairwise_cons.mp hordered
    obtain ⟨htime, hleases⟩ := hleases
    obtain ⟨hanswer, k, htwins⟩ := h.serve hjwt (hnow turn List.mem_cons_self) htime
      (noLosses 0) (losses 0)
    obtain ⟨hanswers, later, hlater⟩ := ih htwins (fun next hnext => hfirst next hnext k) hrest
      hleases fun n => losses (n + 1)
    refine ⟨?_, later, hlater⟩
    show _ :: _ = _ :: _
    rw [hanswer]
    exact congrArg _ hanswers

/-- A new local stack has the invariant, with its one `celld`. -/
theorem stackInv_localWorld (cwd : List String) (clock now : T) (files : Files) :
    StackInv py (localCelld cwd) now (localWorld py cwd clock files) where
  revoked := rfl
  callbacks := by
    intro host createCell h
    change Function.update (fun _ => none) "cell-local" (some (.celld (localCelld cwd))) host =
      some createCell at h
    by_cases hhost : host = "cell-local"
    · rw [hhost, Function.update_self] at h
      exact (Option.some.inj h).symm
    · rw [Function.update_of_ne hhost] at h
      cases h
  objects := by
    intro host object h
    change Function.update (fun _ => none) "cell-local" (some (localCelld cwd)) host =
      some object at h
    by_cases hhost : host = "cell-local"
    · rw [hhost, Function.update_self] at h
      exact (Option.some.inj h).symm
    · rw [Function.update_of_ne hhost] at h
      cases h
  contiguous := fun _ => rfl
  linked := fun l hl => nomatch hl
  sessionIds := fun s hs => nomatch hs
  events := fun ev hev => nomatch hev
  leases := fun l hl => nomatch hl
  cells := fun sid cell hcell => nomatch hcell
  distinct := fun _ _ _ _ hcell => nomatch hcell

/-- Every cell that is there holds the fold of `_apply` over its session's events. -/
def CellsReplayed (c : Celld) (w : World T) : Prop :=
  ∀ sid cell, w.cells c.ref sid = some cell →
    replay .initial (w.store.getEvents sid 0) = .ok (w.heap cell.addr)

theorem cellsReplayed_of_stackInv {now : T} {w : World T} (h : StackInv py c now w) :
    CellsReplayed c w := by
  intro sid cell hcell
  rw [h.getEvents]
  exact (h.cells sid cell hcell).replayed

/-- **Crash transparency.** On a new local stack, requests served in turn are
answered alike, and lead to the same database, whether or not cells are lost on
the way; and with or without losses the cells that are there at the end hold
the replay of their logs. -/
theorem crash_transparent (py : Py) (cwd : List String) (clock : T) (files : Files)
    (turns : List (Turn T)) (losses : ℕ → String → Bool) (hordered : Ordered turns)
    (hleases : LeasesHold py turns (localWorld py cwd clock files)) :
    let kept := serve py noLosses turns (localWorld py cwd clock files)
    let lossy := serve py losses turns (localWorld py cwd clock files)
    kept.1 = lossy.1 ∧ kept.2.store = lossy.2.store ∧
      CellsReplayed (localCelld cwd) kept.2 ∧ CellsReplayed (localCelld cwd) lossy.2 := by
  intro kept lossy
  -- a time before every turn
  obtain ⟨now, hnow⟩ : ∃ now, ∀ turn ∈ turns, now ≤ turn.timing.rebuild 0 := by
    cases turns with
    | nil => exact ⟨clock, fun turn hturn => nomatch hturn⟩
    | cons first rest =>
      refine ⟨first.timing.rebuild 0, fun turn hturn => ?_⟩
      rcases List.mem_cons.mp hturn with rfl | hturn
      · exact le_refl _
      · exact (first.timing.rebuild_le 0).trans
          ((List.pairwise_cons.mp hordered).1 turn hturn 0)
  have hstart : Twins py (localCelld cwd) now (localWorld py cwd clock files)
      (localWorld py cwd clock files) :=
    ⟨rfl, stackInv_localWorld .., stackInv_localWorld ..⟩
  obtain ⟨hanswers, later, htwins⟩ := hstart.serve_all rfl hnow hordered hleases losses
  refine ⟨hanswers, ?_, cellsReplayed_of_stackInv htwins.left,
    cellsReplayed_of_stackInv htwins.right⟩
  have hcore := congrArg World.store htwins.core
  exact hcore

/-- A session, a command for one of its tools and a look at its log. -/
def sampleTurns : List (Turn ℚ) := [
  ⟨.still 0 Sample.files, .createSession "local" .empty⟩,
  ⟨.still 10 Sample.files, .sendCommand "s" "tool"
    (.obj [("name", .str "uppercase"), ("args", .obj [("text", .str "hi")])]) none⟩,
  ⟨.still 20 Sample.files, .getSessionEvents "s" 0⟩]

/-- The daemon loses every cell whenever it can. -/
theorem crash_transparent_sample :
    let start : World ℚ := localWorld Py.sample [] 0 Sample.files
    let kept := serve Py.sample noLosses sampleTurns start
    let lossy := serve Py.sample (fun _ _ => true) sampleTurns start
    kept.1 = lossy.1 ∧ kept.2.store = lossy.2.store ∧
      CellsReplayed (localCelld []) kept.2 ∧ CellsReplayed (localCelld []) lossy.2 := by
  have hstill : ∀ (t : ℚ) sid (st : Store ℚ), InTime (.still t Sample.files) sid st :=
    fun _ _ _ _ _ hlt _ => hlt
  refine crash_transparent Py.sample [] 0 Sample.files sampleTurns (fun _ _ => true) ?_ ?_
  · norm_num [Ordered, sampleTurns, Timing.still]
  · exact ⟨fun _ _ _ _ _ => hstill _ _ _, fun _ _ _ _ _ => hstill _ _ _,
      fun _ _ _ _ _ => hstill _ _ _, trivial⟩

end Nadi
