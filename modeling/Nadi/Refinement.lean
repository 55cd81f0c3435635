import Nadi.Model.Rows
import Nadi.Model.Sample
import Nadi.Tables.Channels
import Nadi.Tables.Hosts

/-!
# The store is what its statements make of the database

`onDatabase` runs threads over the shared state as `system` does, and executes
beside each method of `Store` its statements on one connection. In every run the
statements answer what the store does, rendered as Python values, and reads see
the store, row by row.

The statements bind 64-bit integers. The arguments that are numbers have to fit
(`Call.Bindable`), and what is counted does as long as fewer calls than that are
made.
-/

namespace Nadi

open Effect Data.Sql SqlCall

variable {T : Type}

/-! ## Answers -/

/-- What a method returns to Python. -/
inductive PyResult (T : Type) where
  | nothing
  | text (s : String)
  | value (a : Arg T)
  | number (n : Int)
  | flag (b : Bool)
  | appended (e : Database.Appended T)
  | record (r : Record T)
  | found (r : Option (Record T))
  | records (rs : List (Record T))
  | channel (x : Arg T × Arg T × Bool)

/-- The integers among the arguments can be bound, and a time to live can be added to
the clock. -/
def Call.Bindable : Call T → Prop
  | .getEvents _ after => Fits64 after
  | .completeCommand commandId => Fits64 commandId
  | .upsertCellHost _ _ _ capacityTotal _ => Fits64 capacityTotal
  | .createLease _ _ ttlSeconds => ttlSeconds.natAbs < floatLimit
  | _ => True

instance : DecidablePred (Call.Bindable (T := T)) := fun c =>
  match c with
  | .getEvents _ after => inferInstanceAs (Decidable (Fits64 after))
  | .completeCommand commandId => inferInstanceAs (Decidable (Fits64 commandId))
  | .upsertCellHost _ _ _ capacityTotal _ => inferInstanceAs (Decidable (Fits64 capacityTotal))
  | .createLease _ _ ttlSeconds =>
    inferInstanceAs (Decidable (ttlSeconds.natAbs < floatLimit))
  | .createSession .. | .updateSessionStatus .. | .appendEvent .. | .enqueueCommand .. => .isTrue ⟨⟩
  | .claimPendingCommands .. | .upsertSandboxHost .. | .chooseCellHost | .getRoute .. => .isTrue ⟨⟩
  | .audit .. | .getOrCreateChannel .. | .getChannel .. | .revokeToken .. => .isTrue ⟨⟩
  | .isTokenRevoked .. | .time _ | .uuid4 _ | .files | .newCell .. | .apply .. => .isTrue ⟨⟩
  | .cellsGet .. | .cellsSet .. | .cellsPop .. | .setCallback .. | .callback _ => .isTrue ⟨⟩
  | .setObject .. | .object _ => .isTrue ⟨⟩

/-- The methods of `Store`. -/
def Call.onStore : Call T → Bool
  | .time _ | .uuid4 _ | .files | .newCell .. | .apply .. | .cellsGet .. | .cellsSet .. => false
  | .cellsPop .. | .setCallback .. | .callback _ | .setObject .. | .object _ => false
  | _ => true

/-- The id a call draws, and the time, which does not pass during the call. -/
def World.readings (py : Py) (w : World T) (c : Call T) : Readings T :=
  ⟨(c.draws.map (w.fresh py)).getD "", fun _ => w.clock⟩

variable [Field T] [LinearOrder T] {sq : Sqlite T} (k : sq.Codec)

/-- What a program returns, as an answer. -/
def DbCode.as {α : Type} (p : DbCode T α) (f : α → PyResult T) : DbCode T (PyResult T) :=
  p.bind fun a => .pure (f a)

/-- The statements of a method. -/
def Call.statements (m : Readings T) : Call T → Option (DbCode T (PyResult T))
  | .createSession tenantId externalId profileBundle metadata =>
    some ((Database.createSession sq m (.str tenantId) (.ofOption externalId)
      (.ofOption profileBundle) (k.arg metadata)).as .text)
  | .updateSessionStatus sessionId status =>
    some ((Database.updateSessionStatus sq m (.str sessionId) (.str status.text)).as
      fun _ => .nothing)
  | .appendEvent sessionId eventType payload actorResourceId =>
    some ((Database.appendEvent sq m (.str sessionId) (.str eventType) (k.arg payload)
      (.ofOption actorResourceId)).as .appended)
  | .getEvents sessionId after =>
    some ((Database.getEvents sq (.str sessionId) (.int after)).as .records)
  | .enqueueCommand sessionId commandType payload actorResourceId =>
    some ((Database.enqueueCommand sq m (.str sessionId) (.str commandType) (k.arg payload)
      (.ofOption actorResourceId)).as .number)
  | .claimPendingCommands sessionId claimedBy =>
    some ((Database.claimPendingCommands sq m (.str sessionId) (.str claimedBy)).as .records)
  | .completeCommand commandId =>
    some ((Database.completeCommand sq m (.int commandId)).as fun _ => .nothing)
  | .upsertCellHost hostId zone address capacityTotal metadata =>
    some ((Database.upsertCellHost sq m (.str hostId) (.str zone) (.str address)
      (.int capacityTotal) (k.arg metadata)).as .value)
  | .upsertSandboxHost hostId zone address metadata =>
    some ((Database.upsertSandboxHost sq m (.str hostId) (.str zone) (.str address)
      (k.arg metadata)).as .value)
  | .chooseCellHost => some ((Database.chooseCellHost sq).as .record)
  | .createLease sessionId cellHostId ttlSeconds =>
    some ((Database.createLease sq m (.str sessionId) (.str cellHostId) (.int ttlSeconds)).as .text)
  | .getRoute sessionId => some ((Database.getRoute sq m (.str sessionId)).as .found)
  | .audit actor action sessionId payload =>
    some ((Database.audit sq m (.str actor) (.str action) (.ofOption sessionId)
      (k.arg payload)).as .number)
  | .getOrCreateChannel platform channelId threadId sessionId initiatorResourceId metadata =>
    some ((Database.getOrCreateChannel sq m (.str platform) (.str channelId) (.str threadId)
      (.str sessionId) (.str initiatorResourceId) (k.arg metadata)).as .channel)
  | .getChannel platform channelId threadId =>
    some ((Database.getChannel sq (.str platform) (.str channelId) (.str threadId)).as .found)
  | .revokeToken jti expiresAt =>
    some ((Database.revokeToken sq m (.str jti) (.float expiresAt)).as fun _ => .nothing)
  | .isTokenRevoked jti => some ((Database.isTokenRevoked sq m (.str jti)).as .flag)
  | _ => none

/-- What a method of the store returns, as Python sees it. -/
def Call.rendered : (c : Call T) → c.Ret → PyResult T
  | .createSession .., sid => .text sid
  | .updateSessionStatus .., _ => .nothing
  | .appendEvent .., e => .appended (k.appended e)
  | .getEvents .., es => .records (es.map k.eventRecord)
  | .enqueueCommand .., id => .number (id : ℕ)
  | .claimPendingCommands .., cs => .records (cs.map k.commandRecord)
  | .completeCommand .., _ => .nothing
  | .upsertCellHost .., id => .value (.str id)
  | .upsertSandboxHost .., id => .value (.str id)
  | .chooseCellHost, h => .record (k.hostRecord h)
  | .createLease .., token => .text token
  | .getRoute .., r => .found (r.map Route.record)
  | .audit .., id => .number (id : ℕ)
  | .getOrCreateChannel .., x => .channel (Sqlite.Codec.joined x)
  | .getChannel .., c => .found (c.map k.channelRecord)
  | .revokeToken .., _ => .nothing
  | .isTokenRevoked .., b => .flag b
  | _, _ => .nothing

/-! ## One method -/

section Method

variable {py : Py} {w : World T} {memories : Table T} {conn : Connection (Db T)}

omit [Field T] [LinearOrder T] in
theorem World.commit_kept {β : Type} {w : World T} {r : Except PyErr (β × Store T)} :
    (w.commit r).2.store = w.store.kept r := by
  cases r <;> rfl

/-- What is counted is at most `n`. -/
structure Store.Sized (st : Store T) (n : ℕ) : Prop where
  sequences : ∀ e ∈ st.events, e.sequence ≤ n
  slots : ∀ h ∈ st.cellHosts, h.capacityUsed ≤ n

omit [Field T] [LinearOrder T] in
theorem Store.Sized.nextSequence_le {st : Store T} {n : ℕ} (h : st.Sized n) (sid : String) :
    st.nextSequence sid ≤ n + 1 := by
  unfold Store.nextSequence
  cases hmax : ((st.eventsOf sid).map EventRow.sequence).max? with
  | none => exact Nat.succ_le_succ (Nat.zero_le n)
  | some s =>
    obtain ⟨e, he, rfl⟩ := List.mem_map.mp (List.max?_mem hmax)
    exact Nat.succ_le_succ (h.sequences e (Store.mem_eventsOf.mp he).1)

theorem fits64_natCast {n : ℕ} (h : n < 2 ^ 63) : Fits64 n := by
  unfold Fits64
  omega

/-- A method that raises or commits. -/
theorem ends_committed {α β : Type} {p : DbCode T α} {f : α → PyResult T} (g : β → α)
    {r : Except PyErr (β × Store T)} (h : Ends sq.bind p conn (r.map fun x => g x.1)
      (k.encode memories (w.store.kept r))) :
    Ends sq.bind (p.as f) conn ((w.commit r).1.map fun b => f (g b))
      (k.encode memories (w.commit r).2.store) := by
  have hvalue : (w.commit r).1.map (fun b => f (g b)) = (r.map fun x => g x.1).map f := by
    cases r <;> rfl
  rw [hvalue, World.commit_kept]
  exact h.map f

/-- **One method**: its statements answer what the store answers and leave what it
leaves. -/
theorem Call.statements_ends {c : Call T} {code : DbCode T (PyResult T)} {n : ℕ}
    (hcode : c.statements k (w.readings py c) = some code)
    (hseen : conn.seen = k.encode memories w.store)
    (hids : ∀ s ∈ w.store.sessions, ∀ n, w.drawn .session ≤ n → s.id ≠ py.uuid4 .session n)
    (hsize : w.store.Sized n) (hn : n + 1 < 2 ^ 63) (hbind : c.Bindable) :
    Ends sq.bind code conn ((exec py c w).1.map (c.rendered k))
      (k.encode memories (exec py c w).2.store) := by
  cases c with
  | createSession tenantId externalId profileBundle metadata =>
    cases hcode
    have hfresh : ∀ s ∈ w.store.sessions, s.id ≠ w.fresh py .session :=
      fun s hs => hids s hs _ (Nat.le_refl _)
    exact ends_committed k (w := w.draw .session) id
      (k.createSession_ends tenantId externalId profileBundle metadata hseen hfresh)
  | updateSessionStatus sessionId status =>
    cases hcode
    exact (k.updateSessionStatus_ends hseen sessionId status).map _
  | appendEvent sessionId eventType payload actor =>
    cases hcode
    -- no number so far is above `n`, so the next one has 64 bits
    have hsequence : Fits64 (w.store.nextSequence sessionId) :=
      fits64_natCast (Nat.lt_of_le_of_lt (hsize.nextSequence_le sessionId) hn)
    exact ends_committed k k.appended
      (k.appendEvent_ends sessionId eventType payload actor hseen hsequence)
  | getEvents sessionId after =>
    cases hcode
    exact (k.getEvents_ends sessionId hseen after hbind).map _
  | enqueueCommand sessionId commandType payload actor =>
    cases hcode
    exact ends_committed k (fun id : ℕ => (id : ℤ))
      (k.enqueueCommand_ends sessionId commandType payload actor hseen rfl)
  | claimPendingCommands sessionId claimedBy =>
    cases hcode
    exact (k.claimPendingCommands_ends sessionId hseen claimedBy).map _
  | completeCommand commandId =>
    cases hcode
    exact (k.completeCommand_ends hseen commandId hbind).map _
  | upsertCellHost hostId zone address capacityTotal metadata =>
    cases hcode
    exact ends_committed k (w := w.draw .cellHost) Arg.str
      (k.upsertCellHost_ends hostId zone address capacityTotal metadata hseen hbind)
  | upsertSandboxHost hostId zone address metadata =>
    cases hcode
    exact ends_committed k (w := w.draw .sandboxHost) Arg.str
      (k.upsertSandboxHost_ends hostId zone address metadata hseen)
  | chooseCellHost =>
    cases hcode
    have hchoice := (k.chooseCellHost_ends hseen).map PyResult.record
    have hrecord : (w.store.chooseCellHost.map k.hostRecord).map PyResult.record =
        w.store.chooseCellHost.map fun h => .record (k.hostRecord h) := by
      cases w.store.chooseCellHost <;> rfl
    rw [hrecord] at hchoice
    exact hchoice
  | createLease sessionId cellHostId ttlSeconds =>
    obtain rfl := Option.some.inj hcode
    -- and so has a count that goes up
    have hused : ∀ h ∈ w.store.cellHosts, Fits64 (h.capacityUsed + 1) :=
      fun h hh => fits64_natCast (Nat.lt_of_le_of_lt (Nat.succ_le_succ (hsize.slots h hh)) hn)
    exact ends_committed k (w := w.draw .leaseToken) id
      (k.createLease_ends sessionId cellHostId ttlSeconds hseen hbind hused)
  | getRoute sessionId =>
    cases hcode
    exact (k.getRoute_ends hseen sessionId).map _
  | audit actor action sessionId payload =>
    cases hcode
    exact (k.audit_ends hseen actor action sessionId payload).map _
  | getOrCreateChannel platform channelId threadId sessionId initiator metadata =>
    cases hcode
    exact ends_committed k (w := w.draw .channel) Sqlite.Codec.joined
      (k.getOrCreateChannel_ends platform channelId threadId sessionId initiator metadata hseen)
  | getChannel platform channelId threadId =>
    cases hcode
    exact (k.getChannel_ends platform channelId threadId hseen).map _
  | revokeToken jti expiresAt =>
    cases hcode
    exact (k.revokeToken_ends hseen jti expiresAt).map _
  | isTokenRevoked jti =>
    cases hcode
    exact (k.isTokenRevoked_ends hseen jti).map _
  | _ => cases hcode

/-- Other calls do not touch the store. -/
theorem exec_store_of_none {c : Call T} {m : Readings T} (h : c.statements k m = none) :
    (exec py c w).2.store = w.store := by
  cases c with
  | apply cell eventType payload =>
    rcases exec_apply py w cell eventType payload with ⟨e, -, hexec⟩ | ⟨s, -, hexec⟩
    · rw [hexec]
    · rw [hexec]
  | time | uuid4 | files | newCell | cellsGet | cellsSet | cellsPop => rfl
  | setCallback | callback | setObject | object => rfl
  | _ => cases h

/-- A call adds one to a count at most. -/
theorem exec_sized (py : Py) (c : Call T) {w : World T} {n : ℕ} (h : w.store.Sized n) :
    (exec py c w).2.store.Sized (n + 1) := by
  have hold : w.store.Sized (n + 1) :=
    ⟨fun e he => Nat.le_succ_of_le (h.sequences e he),
      fun host hhost => Nat.le_succ_of_le (h.slots host hhost)⟩
  cases c with
  | appendEvent sessionId eventType payload actor =>
    refine World.commit_store (P := fun st => st.Sized (n + 1)) hold fun e st hr => ?_
    obtain ⟨-, -, rfl⟩ := Store.appendEvent_ok hr
    refine ⟨fun e he => ?_, hold.slots⟩
    have hmem : e ∈ w.store.events.push (Store.newEvent w.clock sessionId
      (w.store.nextSequence sessionId) eventType payload actor) fun _ => rfl := he
    rcases Data.Serial.mem_push.mp hmem with he | rfl
    · exact hold.sequences e he
    · exact h.nextSequence_le sessionId
  | upsertCellHost hostId zone address capacityTotal metadata =>
    refine World.commit_store (w := w.draw .cellHost) (P := fun st => st.Sized (n + 1)) hold
      fun b st hr => ?_
    rcases Store.upsertCellHost_ok hr with ⟨known, -, -, -, rfl⟩ | ⟨-, -, cellHosts, hins, rfl⟩
    · refine ⟨hold.sequences, fun host hhost => ?_⟩
      have hmem : host ∈ w.store.cellHosts.update (fun h => h.hostId == hostId)
        (Store.refreshCellHost w.clock zone address capacityTotal metadata) fun _ => rfl := hhost
      obtain ⟨old, hold', rfl⟩ := Data.Table.mem_update.mp hmem
      split <;> exact hold.slots old hold'
    · refine ⟨hold.sequences, fun host hhost => ?_⟩
      rcases (Data.Table.mem_of_insert? hins).mp hhost with hhost | rfl
      · exact hold.slots host hhost
      · exact Nat.zero_le _
  | createLease sessionId cellHostId ttlSeconds =>
    refine World.commit_store (w := w.draw .leaseToken) (P := fun st => st.Sized (n + 1)) hold
      fun b st hr => ?_
    obtain ⟨-, -, -, rfl⟩ := Store.createLease_ok hr
    refine ⟨hold.sequences, fun host hhost => ?_⟩
    have hmem : host ∈ w.store.cellHosts.update (fun h => h.id == cellHostId)
      (Store.takeSlot w.clock) fun _ => rfl := hhost
    obtain ⟨old, hold', rfl⟩ := Data.Table.mem_update.mp hmem
    split
    · exact Nat.succ_le_succ (h.slots old hold')
    · exact hold.slots old hold'
  | _ =>
    refine ⟨?_, ?_⟩
    · rw [exec_events py w rfl]
      exact hold.sequences
    · rw [exec_hosts py w rfl]
      exact hold.slots

end Method

/-! ## Runs -/

/-- The shared state, the connection beside it, and what the statements have answered. -/
structure Doubled (T : Type) where
  world : World T
  connection : Connection (Db T)
  answers : List (Except PyErr (PyResult T))

/-- A new store beside an empty database. -/
def Doubled.init (clock : T) (files : Files) : Doubled T := ⟨.init clock files, ⟨.empty, none⟩, []⟩

/-- Make a call, and execute its statements beside it. -/
def execDoubled (py : Py) : Handler (Call T) Call.Ret PyErr (Doubled T) := fun c b =>
  ((exec py c b.world).1,
    match c.statements k (b.world.readings py c) with
    | none => { b with world := (exec py c b.world).2 }
    | some code =>
      ⟨(exec py c b.world).2, (code.run (SqlCall.exec sq.bind) b.connection).2,
        b.answers ++ [(code.run (SqlCall.exec sq.bind) b.connection).1]⟩)

/-- The methods of `Store` are the calls with statements. -/
theorem Call.statements_isSome (c : Call T) (m : Readings T) :
    (c.statements k m).isSome = c.onStore := by
  cases c <;> rfl

section

variable {k} {py : Py} {c : Call T} {b : Doubled T}

theorem execDoubled_none (h : c.statements k (b.world.readings py c) = none) :
    (execDoubled k py c b).2 = { b with world := (exec py c b.world).2 } := by
  unfold execDoubled
  rw [h]

theorem execDoubled_some {code : DbCode T (PyResult T)}
    (h : c.statements k (b.world.readings py c) = some code) :
    (execDoubled k py c b).2 =
      ⟨(exec py c b.world).2, (code.run (SqlCall.exec sq.bind) b.connection).2,
        b.answers ++ [(code.run (SqlCall.exec sq.bind) b.connection).1]⟩ := by
  unfold execDoubled
  rw [h]

end

/-- Threads over one shared state, with a database beside the store. -/
def onDatabase (ι : Type) (py : Py) : System ι (Call T) Call.Ret PyErr (Doubled T) where
  handler := execDoubled k py
  env b b' := b.world.Passes b'.world ∧ b' = { b with world := b'.world }

/-- What the statements of a call should answer. -/
def expected {ι : Type} (e : Entry ι (Call T) Call.Ret PyErr) :
    Option (Except PyErr (PyResult T)) :=
  if e.call.onStore then some (e.result.map (e.call.rendered k)) else none

section Runs

variable {ι α : Type} [DecidableEq ι] (py : Py) (clock : T) (files : Files)
  (programs : ι → Code T α)

/-- Every run of the threads is one with a database beside it. -/
theorem reach_onDatabase {cfg : Threads ι T α}
    (h : Reach (system ι py) (.start programs (.init clock files)) cfg) :
    ∃ b : Doubled T, b.world = cfg.point.state ∧
      Reach (onDatabase k ι py) (.start programs (.init clock files))
        ⟨cfg.threads, ⟨cfg.point.trace, b⟩⟩ := by
  induction h with
  | refl => exact ⟨.init clock files, rfl, Relation.ReflTransGen.refl⟩
  | @tail before after _ hstep ih =>
    obtain ⟨b, hworld, hreach⟩ := ih
    obtain ⟨threads, trace, state⟩ := before
    obtain rfl : b.world = state := hworld
    cases hstep with
    | @act i c cont hi _ =>
      exact ⟨(execDoubled k py c b).2, by unfold execDoubled; dsimp only; split <;> rfl,
        hreach.tail (Step.act hi trivial)⟩
    | @env w' hpasses =>
      exact ⟨{ b with world := w' }, rfl, hreach.tail (Step.env ⟨hpasses, rfl⟩)⟩

/-- What holds of the database along a run, as long as everything can be bound. -/
structure Follows (p : Point ι (Call T) Call.Ret PyErr (Doubled T)) : Prop where
  answers : p.state.answers = p.trace.filterMap (expected k)
  seen : p.state.connection.seen = k.encode ⟨[], 0⟩ p.state.world.store
  ids : ∀ s ∈ p.state.world.store.sessions, ∀ n, p.state.world.drawn .session ≤ n →
    s.id ≠ py.uuid4 .session n
  sized : p.state.world.store.Sized p.trace.length

omit [DecidableEq ι] in
theorem follows_init : Follows k py (⟨[], .init clock files⟩ :
    Point ι (Call T) Call.Ret PyErr (Doubled T)) where
  answers := rfl
  seen := (Store.encode_init k.text).symm
  ids := nofun
  sized := ⟨nofun, nofun⟩

omit [DecidableEq ι] in
theorem follows_after {p : Point ι (Call T) Call.Ret PyErr (Doubled T)} (h : Follows k py p) (i : ι)
    {c : Call T} (hbind : c.Bindable) (hn : p.trace.length + 1 < 2 ^ 63) :
    Follows k py (p.after (execDoubled k py) i c) := by
  have hids := exec_sessionIds py c h.ids
  have hsized := exec_sized py c h.sized
  have hmethod := c.statements_isSome k (p.state.world.readings py c)
  cases hcode : c.statements k (p.state.world.readings py c) with
  | none =>
    rw [hcode] at hmethod
    have hstate := execDoubled_none hcode
    refine ⟨?_, ?_, ?_, ?_⟩
    · have hnone : expected k (⟨i, c, (execDoubled k py c p.state).1⟩ :
          Entry ι (Call T) Call.Ret PyErr) = none := if_neg (hmethod ▸ Bool.false_ne_true)
      rw [Point.after_trace, Point.after_state, hstate, List.filterMap_append,
        List.filterMap_cons_none hnone]
      exact h.answers.trans (List.append_nil _).symm
    · rw [Point.after_state, hstate]
      exact h.seen.trans (congrArg _ (exec_store_of_none k hcode).symm)
    · rw [Point.after_state, hstate]
      exact hids
    · rw [Point.after_state, hstate, Point.after_trace, List.length_append]
      exact hsized
  | some code =>
    rw [hcode] at hmethod
    have hstate := execDoubled_some hcode
    have hends := Call.statements_ends k hcode h.seen h.ids h.sized hn hbind
    refine ⟨?_, ?_, ?_, ?_⟩
    · have hsome : expected k (⟨i, c, (execDoubled k py c p.state).1⟩ :
          Entry ι (Call T) Call.Ret PyErr) =
          some ((exec py c p.state.world).1.map (c.rendered k)) := if_pos hmethod.symm
      rw [Point.after_trace, Point.after_state, hstate, List.filterMap_append,
        List.filterMap_cons_some hsome, List.filterMap_nil, ← h.answers]
      exact congrArg (p.state.answers ++ [·]) hends.gives
    · rw [Point.after_state, hstate]
      exact hends.leaves
    · rw [Point.after_state, hstate]
      exact hids
    · rw [Point.after_state, hstate, Point.after_trace, List.length_append]
      exact hsized

/-- In every run with a database, the statements have answered what the store has
answered, in the same order, and the connection sees the store. -/
theorem answers_onDatabase {cfg : Config ι (Call T) Call.Ret PyErr (Doubled T) α}
    (h : Reach (onDatabase k ι py) (.start programs (.init clock files)) cfg)
    (hbind : ∀ e ∈ cfg.point.trace, e.call.Bindable) (hlength : cfg.point.trace.length < 2 ^ 63) :
    cfg.point.state.answers = cfg.point.trace.filterMap (expected k) ∧
      cfg.point.state.connection.seen = k.encode ⟨[], 0⟩ cfg.point.state.world.store := by
  have hall : (∀ e ∈ cfg.point.trace, e.call.Bindable) → cfg.point.trace.length < 2 ^ 63 →
      Follows k py cfg.point := by
    refine h.point_invariant (P := fun p => (∀ e ∈ p.trace, e.call.Bindable) →
      p.trace.length < 2 ^ 63 → Follows k py p) ?_ ?_ ?_
    · exact fun _ _ => follows_init k py clock files
    · intro p i c ih _ hbind hlength
      rw [Point.after_trace, List.length_append, List.length_singleton] at hlength
      have hbefore : Follows k py p :=
        ih (fun e he => hbind e (List.mem_append_left _ he)) (by omega)
      exact follows_after k py hbefore i
        (hbind _ (List.mem_append_right _ List.mem_cons_self)) hlength
    · rintro p b' ih ⟨⟨t, f, -, hw⟩, hb⟩ hbind hlength
      have hbefore := ih hbind hlength
      rw [hb, hw]
      exact ⟨hbefore.answers, hbefore.seen, hbefore.ids, hbefore.sized⟩
  have hfollows := hall hbind hlength
  exact ⟨hfollows.answers, hfollows.seen⟩

/-- **The refinement**: a run of any threads is one with a database beside the store,
and whatever database is beside it, the statements have answered what the store has,
and the connection sees the store. -/
theorem store_refined {cfg : Threads ι T α}
    (h : Reach (system ι py) (.start programs (.init clock files)) cfg)
    (hbind : ∀ e ∈ cfg.point.trace, e.call.Bindable) (hlength : cfg.point.trace.length < 2 ^ 63) :
    (∃ b : Doubled T, b.world = cfg.point.state ∧
      Reach (onDatabase k ι py) (.start programs (.init clock files))
        ⟨cfg.threads, ⟨cfg.point.trace, b⟩⟩) ∧
      ∀ b : Doubled T, Reach (onDatabase k ι py) (.start programs (.init clock files))
          ⟨cfg.threads, ⟨cfg.point.trace, b⟩⟩ →
        b.answers = cfg.point.trace.filterMap (expected k) ∧
          b.connection.seen = k.encode ⟨[], 0⟩ b.world.store :=
  ⟨reach_onDatabase k py clock files programs h,
    fun _ hb => answers_onDatabase k py clock files programs hb hbind hlength⟩

end Runs

/-! ## A sample -/

/-- One thread creates a session and appends to its log, another leases the session to
a host that does not exist. -/
def sampleThreads : Bool → Code ℚ Unit
  | false => do
    let sid ← call (.createSession "local" none none .empty)
    let _ ← call (.appendEvent sid "session.started" .empty none)
    return ()
  | true => do
    let _ ← call (.createLease "s" "h" 3600)
    return ()

/-- A session, an event, and a lease that is refused in between. -/
theorem store_refined_sample :
    let cfg := execute (exec Py.sample) [false, true, false]
      (.start sampleThreads (.init 0 Sample.files))
    ((∃ b : Doubled ℚ, b.world = cfg.point.state ∧
      Reach (onDatabase .flags Bool Py.sample) (.start sampleThreads (.init 0 Sample.files))
        ⟨cfg.threads, ⟨cfg.point.trace, b⟩⟩) ∧
      ∀ b : Doubled ℚ, Reach (onDatabase .flags Bool Py.sample)
          (.start sampleThreads (.init 0 Sample.files)) ⟨cfg.threads, ⟨cfg.point.trace, b⟩⟩ →
        b.answers = cfg.point.trace.filterMap (expected .flags) ∧
          b.connection.seen = Sqlite.Codec.flags.encode ⟨[], 0⟩ b.world.store) ∧
      (cfg.point.trace.filterMap (expected .flags)).length = 3 := by
  refine ⟨store_refined .flags Py.sample 0 Sample.files sampleThreads
    (reach_execute (S := system Bool Py.sample) (fun _ _ _ => trivial) _ _) ?_ ?_, ?_⟩
  · decide +kernel
  · decide +kernel
  · decide +kernel

end Nadi
