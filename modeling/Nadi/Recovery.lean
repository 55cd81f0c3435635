import Nadi.Model.Statements

/-!
# What a crash leaves

Methods of `Store` are called one after the other, with arguments of any type, and
the process may die between any two calls on its connection; it then starts again
on what is committed.

- Whatever was called and wherever it died, the constraints of `init_schema` hold
  of what is committed and of what is seen (`integrity_kept`).
- What is committed when it dies is all that some of the first calls leave, and no
  call is missing that returned after a commit (`crash_prefix`).
-/

namespace Nadi

open Effect Data.Sql

variable {T : Type}

/-! ## Columns in constraints -/

/-- The columns that take part in a constraint of their table or of another one. -/
def TableName.pinned : TableName → List String
  | .sessions => ["id", "external_id"]
  | .events => ["id", "session_id", "sequence"]
  | .commandInbox => ["id", "session_id"]
  | .revokedTokens => ["jti"]
  | .cellHosts => ["id", "host_id"]
  | .sessionLeases => ["session_id", "cell_host_id"]
  | .sandboxHosts => ["id", "host_id"]
  | .channels => ["id", "platform", "channel_id", "thread_id", "session_id"]
  | .resources => ["resource_id"]
  | .auditLog => ["id"]

/-- A statement sets no such column, or takes rows out of a table that is not referred to. -/
def Statement.Harmless (sq : Sqlite T) : Statement T → Prop
  | .insert .. => True
  | .insertOrIgnore .. => True
  | .insertOrReplace tab .. => sq.engine.Unreferred tab
  | .upsert tab _ _ excluded _ => ∀ name ∈ excluded, name ∉ tab.pinned
  | .update tab sets _ _ => ∀ name ∈ sets.map Prod.fst, name ∉ tab.pinned
  | .deleteBelow tab .. => sq.engine.Unreferred tab

section Statements

variable {sq : Sqlite T}

theorem apart_of_not_pinned {tab : TableName} {name : String} (h : name ∉ tab.pinned) :
    sq.engine.Apart tab name := by
  cases tab
  all_goals
    simp only [TableName.pinned, List.mem_cons, List.not_mem_nil, or_false, not_or] at h
    refine ⟨?_, ?_, fun other => ?_, ?_⟩
    · simp [Sqlite.engine, TableName.schema, h]
    · simp [Sqlite.engine, TableName.schema, ofSession, eq_comm, h]
    · cases other <;> simp [Sqlite.engine, TableName.schema, ofSession, eq_comm, h]
    · simp [Sqlite.engine, TableName.schema, eq_comm, h]

/-- Numbers are primary keys that nothing refers to. -/
theorem engine_regular : sq.engine.Regular := by
  intro tab id hserial
  cases tab
  all_goals
    simp only [Sqlite.engine, TableName.schema, Option.some.injEq, reduceCtorEq] at hserial
    try subst hserial
  all_goals
    refine ⟨rfl, ?_, ?_, ?_⟩ <;>
      simp [Sqlite.engine, TableName.schema, ofSession, nullable, required, defaulted]

theorem unreferred_leases : sq.engine.Unreferred .sessionLeases := by
  intro other
  cases other <;> simp [Sqlite.engine, TableName.schema, ofSession]

theorem unreferred_tokens : sq.engine.Unreferred .revokedTokens := by
  intro other
  cases other <;> simp [Sqlite.engine, TableName.schema, ofSession]

theorem harmless_of_names {tab : TableName} {names : List String} {sets : Engine.Changes T}
    (hsets : sets.map Prod.fst = names) (h : ∀ name ∈ names, name ∉ tab.pinned) :
    sq.engine.Harmless tab sets := by
  intro name hsome
  refine apart_of_not_pinned (h name ?_)
  by_contra hnot
  have hnone : sets.lookup name = none := by
    rw [List.lookup_eq_none_iff]
    intro set hset
    rw [bne_iff_ne]
    rintro rfl
    exact hnot (hsets ▸ List.mem_map_of_mem hset)
  rw [hnone] at hsome
  cases hsome

section Harmless

variable {tab : TableName} {columns key excluded : List String} {values : List (Arg T)}
  {sets conds : List (String × Expr)}

theorem harmless_insert : (Statement.insert tab columns values).Harmless sq := trivial

theorem harmless_insertOrIgnore : (Statement.insertOrIgnore tab columns values).Harmless sq := trivial

theorem harmless_replaceLease : (Statement.insertOrReplace .sessionLeases columns values).Harmless sq :=
  unreferred_leases

theorem harmless_upsert (h : ∀ name ∈ excluded, name ∉ tab.pinned) :
    (Statement.upsert tab columns key excluded values).Harmless sq := h

theorem harmless_update (h : ∀ name ∈ sets.map Prod.fst, name ∉ tab.pinned) :
    (Statement.update tab sets conds values).Harmless sq := h

theorem harmless_purge {value : Arg T} {column : String} :
    (Statement.deleteBelow .revokedTokens column value).Harmless sq := unreferred_tokens

end Harmless

variable [Field T] [LinearOrder T]

/-- **One statement** that is accepted makes a sound database of a sound one. -/
theorem change_sound {statement : Statement T} (hharmless : statement.Harmless sq) {p : ℕ → Value T}
    {d d' : Db T} {n : Int} (hchange : sq.change p d statement = .ok (n, d'))
    (h : sq.engine.Sound d) : sq.engine.Sound d' := by
  cases statement with
  | insert => exact h.insert engine_regular (Sqlite.eq_ok_of_outcome hchange)
  | insertOrIgnore => exact h.insertOrIgnore engine_regular (Sqlite.eq_ok_of_outcome hchange)
  | insertOrReplace =>
    exact h.insertOrReplace engine_regular hharmless (Sqlite.eq_ok_of_outcome hchange)
  | upsert tab columns key excluded =>
    refine h.upsert engine_regular (harmless_of_names (Eq.trans ?_ excluded.map_id) hharmless)
      (Sqlite.eq_ok_of_outcome hchange)
    rw [List.map_map]
    rfl
  | update tab sets =>
    refine h.update (harmless_of_names ?_ hharmless) (Sqlite.eq_ok_of_outcome hchange)
    unfold Sqlite.settings
    rw [List.map_map]
    rfl
  | deleteBelow tab column =>
    cases hchange
    exact h.delete hharmless _

omit [Field T] [LinearOrder T] in
/-- No statement of a method touches the columns in constraints. -/
theorem StoreMethod.Issues.harmless {m : Readings T} {method : StoreMethod T}
    {statement : Statement T} (h : method.Issues m statement) : statement.Harmless sq := by
  cases method with
  | createSession | audit =>
    obtain ⟨_, rfl⟩ := h
    exact harmless_insert
  | appendEvent =>
    obtain ⟨_, _, rfl⟩ := h
    exact harmless_insert
  | enqueueCommand =>
    obtain ⟨_, rfl⟩ := h
    exact harmless_insert
  | updateSessionStatus | claimPendingCommands | completeCommand =>
    obtain rfl := h
    exact harmless_update (by decide)
  | upsertCellHost | upsertSandboxHost =>
    obtain ⟨_, rfl | rfl⟩ := h
    · exact harmless_update (by decide)
    · exact harmless_insert
  | heartbeatHost =>
    obtain ⟨tab, htab, rfl⟩ := h
    rcases Database.hostTable_cases htab with rfl | rfl
    · exact harmless_update (by decide)
    · exact harmless_update (by decide)
  | createLease =>
    obtain ⟨_, rfl⟩ | rfl := h
    · exact harmless_replaceLease
    · exact harmless_update (by decide)
  | getOrCreateChannel =>
    obtain ⟨_, rfl⟩ := h
    exact harmless_insertOrIgnore
  | setResourceMemory =>
    obtain ⟨_, rfl⟩ := h
    exact harmless_upsert (by decide)
  | revokeToken =>
    obtain rfl := h
    exact harmless_insertOrIgnore
  | isTokenRevoked =>
    obtain rfl := h
    exact harmless_purge
  | getSession | getEvents | chooseCellHost | getRoute | auditEntries | getChannel
  | getResourceMemory => exact h.elim

end Statements

/-! ## Runs with crashes -/

/-- What happens to a database: a method is called, with an id and readings of the
clock, or the process dies in the middle of one, after a number of calls on its
connection, and another one opens the database. -/
inductive Happening (T : Type) where
  | call (m : Readings T) (method : StoreMethod T)
  | crash (m : Readings T) (method : StoreMethod T) (after : ℕ)

section Runs

variable [Field T] [LinearOrder T] (sq : Sqlite T)

def Happening.befall (c : Connection (Db T)) : Happening T → Connection (Db T)
  | .call m method => ((method.code sq m).run (SqlCall.exec sq.bind) c).2
  | .crash m method after =>
    ⟨((method.code sq m).runFor (SqlCall.exec sq.bind) after c).committed, none⟩

/-- **One method**, wherever it is cut off. -/
theorem StoreMethod.sound (m : Readings T) (method : StoreMethod T) {c : Connection (Db T)}
    (h : c.Has sq.engine.Sound) (k : ℕ) :
    ((method.code sq m).runFor (SqlCall.exec sq.bind) k c).Has sq.engine.Sound := by
  refine SqlCall.sustained (method.whole sq m).within ?_ k h
  rintro params change ⟨statement, hissues, -, rfl⟩ p d n d' hchange hd
  exact change_sound hissues.harmless hchange hd

theorem Happening.befall_sound {c : Connection (Db T)} (h : c.Has sq.engine.Sound)
    (happening : Happening T) : (happening.befall sq c).Has sq.engine.Sound := by
  cases happening with
  | call m method =>
    show (((method.code sq m).run _ c).2).Has _
    rw [← Prog.runFor_calls]
    exact method.sound sq m h _
  | crash m method after =>
    have hcut := method.sound sq m h after
    exact ⟨hcut.1, hcut.1⟩

/-- **Integrity.** Whatever is called with whatever arguments, and however often the
process dies on the way, what is committed and what is seen have: NULL in no column
that must not be, no two rows with one key, no reference to a row that is not there,
and rows numbered in the order in which they were added. -/
theorem integrity_kept (sq : Sqlite T) (happenings : List (Happening T)) :
    let c := happenings.foldl (Happening.befall sq) ⟨Database.empty, none⟩
    sq.engine.Sound c.committed ∧ sq.engine.Sound c.seen := by
  have hrun : ∀ c : Connection (Db T), c.Has sq.engine.Sound →
      (happenings.foldl (Happening.befall sq) c).Has sq.engine.Sound := by
    induction happenings with
    | nil => exact fun _ h => h
    | cons happening rest ih => exact fun c h => ih _ (happening.befall_sound sq h)
  exact hrun _ ⟨sq.engine.sound_empty, sq.engine.sound_empty⟩

/-- **A crash** loses the last calls and nothing else: methods are called on a database,
each with its ids and its readings of the clock, and the process dies in the middle of one
more. What is committed is what the first `n` of these calls leave, run to their ends;
and every method before it that commits and returned is among them. -/
theorem crash_prefix (sq : Sqlite T) (d : Db T) (calls : List (Readings T × StoreMethod T))
    (last : Readings T × StoreMethod T) (after : ℕ) :
    let code := fun call : Readings T × StoreMethod T => call.2.code sq call.1
    let left := fun calls => SqlCall.runAll sq.bind code calls ⟨d, none⟩
    ∃ n ≤ calls.length + 1,
      ((code last).runFor (SqlCall.exec sq.bind) after (left calls)).committed =
          (left ((calls ++ [last]).take n)).seen ∧
        ∀ i call, SqlCall.Returned sq.bind code calls ⟨d, none⟩ i call →
          call.2.commits = true → i < n := by
  intro code left
  have hatomic : ∀ call, SqlCall.Atomic sq.bind (code call) :=
    fun call => (call.2.whole sq call.1).atomic
  have hidle : (⟨d, none⟩ : Connection (Db T)).Idle := rfl
  obtain ⟨n, hn, hcommitted, hreturned⟩ :=
    SqlCall.committed_prefix hatomic hidle calls last after
  exact ⟨n, hn, hcommitted, fun i call hcall hcommits =>
    hreturned i call hcall ((call.2.whole sq call.1).durable hcommits)⟩

end Runs

end Nadi
