import Nadi.CellLife
import Nadi.GatewayRuns

/-!
# Commands that cannot be delivered

`send_command` looks the route up so that an expired or missing one "raises
immediately without orphaning a command in the inbox" (gateway.py:62–64), puts
the command into the inbox, and then has the broker look the route up once more,
later, and find a `celld` under its host. Where that fails the command is left
behind, pending, for whoever sends next; that is the only case
(`undelivered_iff`).
-/

namespace Nadi

open Effect

variable {T : Type}

/-- The exceptions of a route or a `celld` that is missing. -/
def PyErr.ofRoute : PyErr → Bool
  | .keyError _ => true
  | .runtimeError _ => true
  | _ => false

variable [Field T] [LinearOrder T] [IsStrictOrderedRing T] [FloorRing T] (py : Py)
  (tm : Timing T) {s : Ticking T} {sid : String} (send : Send)

/-- `send_command` raises since no route or no `celld` is available. -/
def Send.Undeliverable (sid : String) (s : Ticking T) : Prop :=
  ∃ e s', (send.deliver sid).run (timed py tm) s = (.error e, s') ∧ e.ofRoute = true

/-- The route is active at a time and a `celld` is registered under its host. -/
def World.Reachable (w : World T) (t : T) (sid : String) : Prop :=
  ∃ route celld, w.store.getRoute t sid = some route ∧ w.objects route.hostId = some celld

section Deliver

omit [IsStrictOrderedRing T] [FloorRing T]

/-- Finding the `celld` takes one reading. -/
theorem run_celldForRoute (sid : String) (s : Ticking T) :
    (Broker.celldForRoute sid).run (timed py tm) s =
      (match s.world.store.getRoute (tm.now s.reading) sid with
        | none => .error (.runtimeError "no active route")
        | some route => match s.world.objects route.hostId with
          | none => .error (.keyError route.hostId)
          | some celld => .ok celld, ⟨s.reading + 1, s.ready tm⟩) := by
  have hroute : (call (.getRoute sid)).run (timed py tm) s =
      (.ok (s.world.store.getRoute (tm.now s.reading) sid), ⟨s.reading + 1, s.ready tm⟩) := rfl
  unfold Broker.celldForRoute
  simp only [Prog.bind_eq]
  rw [Prog.run_bind_ok _ hroute]
  cases s.world.store.getRoute (tm.now s.reading) sid with
  | none => rfl
  | some route =>
    have hobject : (call (.object route.hostId)).run (timed py tm) ⟨s.reading + 1, s.ready tm⟩ =
        (.ok (s.world.objects route.hostId), ⟨s.reading + 1, s.ready tm⟩) := rfl
    dsimp only
    rw [Prog.run_bind_ok _ hobject]
    cases s.world.objects route.hostId <;> rfl

/-- The second look at the route finds a `celld`, or fails for want of one. -/
theorem celldForRoute_cases (sid : String) (s : Ticking T) :
    (∃ celld s', (Broker.celldForRoute sid).run (timed py tm) s = (.ok celld, s') ∧
        s.world.Reachable (tm.now s.reading) sid) ∨
      ∃ e s', (Broker.celldForRoute sid).run (timed py tm) s = (.error e, s') ∧
        e.ofRoute = true ∧ s'.world.store = s.world.store ∧
        ¬ s.world.Reachable (tm.now s.reading) sid := by
  unfold World.Reachable
  rw [run_celldForRoute]
  cases s.world.store.getRoute (tm.now s.reading) sid with
  | none =>
    refine .inr ⟨_, _, rfl, rfl, rfl, ?_⟩
    rintro ⟨route, celld, hsome, -⟩
    cases hsome
  | some route =>
    dsimp only
    cases hcelld : s.world.objects route.hostId with
    | none =>
      refine .inr ⟨_, _, rfl, rfl, rfl, ?_⟩
      rintro ⟨route', celld, hsome, hobj⟩
      cases hsome
      cases hcelld.symm.trans hobj
    | some celld => exact .inl ⟨celld, _, rfl, route, celld, rfl, hcelld⟩

/-- A command that is not admitted is refused before it is in the inbox. -/
theorem run_deliver_refused (h : ¬ s.world.store.Admits (tm.now s.reading) sid) :
    ∃ e s', (send.deliver sid).run (timed py tm) s = (.error e, s') ∧
      s'.world.store = s.world.store := by
  unfold Send.deliver
  simp only [Prog.bind_eq]
  exact run_submit_refused py tm send.commandType send.payload send.actorResourceId _ h

/-- One that is admitted is in the inbox when the broker looks for the `celld`. -/
theorem run_deliver_admitted (h : s.world.store.Admits (tm.now s.reading) sid) :
    ∃ st' s₂, s.world.store.enqueueCommand (tm.now (s.reading + 1)) sid send.commandType
        send.payload.orEmpty send.actorResourceId = .ok (s.world.store.commandInbox.last + 1, st') ∧
      (send.deliver sid).run (timed py tm) s = ((Broker.celldForRoute sid).bind fun celld =>
        .pure (s.world.store.commandInbox.last + 1, celld)).run (timed py tm) s₂ ∧
      s₂.reading = s.reading + 2 ∧ s₂.world.store = st' ∧
      s₂.world.objects = s.world.objects ∧ s₂.world.cells = s.world.cells ∧
      s₂.world.drawn = s.world.drawn := by
  unfold Send.deliver
  simp only [Prog.bind_eq]
  exact run_submit_admitted py tm send.commandType send.payload send.actorResourceId _ h

end Deliver

/-- **A command that cannot be delivered leaves no orphan** if and only if it is
refused before it is put into the inbox, or else its session is still reachable
when the broker looks, two steps later. -/
theorem undelivered_iff (sid : String) (s : Ticking T) :
    (send.Undeliverable py tm sid s →
      ((send.code py sid).run (timed py tm) s).2.world.store.commandInbox =
        s.world.store.commandInbox) ↔
      (s.world.store.Admits (tm.now s.reading) sid →
        s.world.Reachable (tm.now (s.reading + 2)) sid) := by
  have hcode : ∀ {e s'}, (send.deliver sid).run (timed py tm) s = (.error e, s') →
      (send.code py sid).run (timed py tm) s = (.error e, s') := by
    intro e s' hrun
    rw [Send.code_eq, Prog.run_bind_error _ hrun]
  by_cases hadmits : s.world.store.Admits (tm.now s.reading) sid
  · obtain ⟨st', s₂, henqueue, hrun, hreading, hstore, hobjects, -, -⟩ :=
      run_deliver_admitted py tm send hadmits
    obtain ⟨-, -, -, -, rfl⟩ := Store.enqueueCommand_ok henqueue
    -- the inbox is one command longer, leases and hosts are the same
    have hreach : s₂.world.Reachable (tm.now s₂.reading) sid ↔
        s.world.Reachable (tm.now (s.reading + 2)) sid := by
      unfold World.Reachable
      rw [hreading, hstore, hobjects]
      exact Iff.rfl
    have hlonger : s₂.world.store.commandInbox ≠ s.world.store.commandInbox := by
      rw [hstore]
      intro heq
      have hlast := congrArg Data.Serial.last heq
      exact absurd hlast (Nat.succ_ne_self _)
    rcases celldForRoute_cases py tm sid s₂ with ⟨celld, s', hcelld, hreached⟩ |
      ⟨e, s', hcelld, hroute, hsame, hmissed⟩
    · rw [Prog.run_bind_ok _ hcelld] at hrun
      refine iff_of_true ?_ fun _ => hreach.mp hreached
      rintro ⟨e, s'', herror, -⟩
      cases hrun.symm.trans herror
    · rw [Prog.run_bind_error _ hcelld] at hrun
      refine iff_of_false (fun h => ?_) fun h => hmissed (hreach.mpr (h hadmits))
      have hafter := h ⟨e, s', hrun, hroute⟩
      rw [hcode hrun] at hafter
      exact hlonger ((congrArg Store.commandInbox hsame).symm.trans hafter)
  · obtain ⟨e, s', hrun, hstore⟩ := run_deliver_refused py tm send hadmits
    refine iff_of_true (fun _ => ?_) fun h => absurd h hadmits
    rw [hcode hrun]
    exact congrArg Store.commandInbox hstore

/-- A host that is registered without its `celld`, and a session on it. -/
def unboundHost : World ℚ :=
  ((do
    let _ ← Broker.registerCellHost "cell-local" "local" "inproc://cell" 100
      (.celld (localCelld [])) none
    let _ ← Gateway.createSession Py.sample "local" .null
    return () : Code ℚ Unit).run (exec Py.sample) (.init 0 Sample.files)).2

/-- A command to a session that there is not is refused and leaves no orphan. -/
theorem undelivered_iff_sample :
    let send : Send := ⟨"echo", .obj [("text", .str "hi")], none⟩
    let tm : Timing ℚ := .still 0 Sample.files
    send.Undeliverable Py.sample tm "x" ⟨0, unboundHost⟩ ∧
      ((send.code Py.sample "x").run (timed Py.sample tm)
        ⟨0, unboundHost⟩).2.world.store.commandInbox = unboundHost.store.commandInbox := by
  intro send tm
  have hundeliverable : send.Undeliverable Py.sample tm "x" ⟨0, unboundHost⟩ :=
    ⟨_, _, by with_unfolding_all rfl, rfl⟩
  have hrefused : ¬ unboundHost.store.Admits (tm.now 0) "x" := by
    rintro ⟨hroute, -⟩
    revert hroute
    decide +kernel
  refine ⟨hundeliverable, (undelivered_iff Py.sample tm send "x" ⟨0, unboundHost⟩).mpr ?_
    hundeliverable⟩
  exact fun hadmits => absurd hadmits hrefused

/-- The command is refused for want of a `celld`, and is pending nevertheless. -/
theorem command_left_behind :
    let send : Send := ⟨"echo", .obj [("text", .str "hi")], none⟩
    let tm : Timing ℚ := .still 0 Sample.files
    let after := ((send.code Py.sample "s").run (timed Py.sample tm) ⟨0, unboundHost⟩).2
    send.Undeliverable Py.sample tm "s" ⟨0, unboundHost⟩ ∧
      (unboundHost.store.pendingOf "s").length = 0 ∧
      (after.world.store.pendingOf "s").length = 1 := by
  intro send tm after
  refine ⟨⟨.keyError "cell-local", _, by with_unfolding_all rfl, rfl⟩, ?_, ?_⟩
  · decide +kernel
  · decide +kernel

end Nadi
