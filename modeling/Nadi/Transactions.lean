import Nadi.Model.Database

/-!
# Transactions left open

A statement that modifies opens a transaction, and only a commit closes it. All
methods but one commit right after their statements, so what is left open is what
a statement that is refused leaves open, and what `is_token_revoked` opens, which
purges and never commits (`transactions_idle_iff`).
-/

namespace Nadi

open Effect Data.Sql

variable {T : Type} [Field T] [LinearOrder T]

namespace Sqlite

variable (sq : Sqlite T)

/-! ## When a statement is accepted -/

/-- The constraints on a statement, with its parameters bound. -/
def Meets (p : ℕ → Value T) (d : Db T) : Statement T → Prop
  | .insert tab columns _ =>
    let row := sq.engine.row tab columns p
    sq.engine.Filled tab row ∧ sq.engine.Free tab row (d tab).rows ∧ sq.engine.Refers tab row d
  | .insertOrIgnore tab columns _ =>
    let row := sq.engine.row tab columns p
    sq.engine.Filled tab row → sq.engine.Free tab row (d tab).rows → sq.engine.Refers tab row d
  | .insertOrReplace tab columns _ =>
    let row := sq.engine.withDefaults tab (sq.engine.row tab columns p)
    sq.engine.Filled tab row ∧ sq.engine.Refers tab row (sq.engine.without tab row d)
  | .upsert tab columns key excluded _ =>
    let row := sq.engine.row tab columns p
    sq.engine.Filled tab row ∧
      if (d tab).rows.any fun old => Engine.clash key row old then
        sq.engine.Keeps tab d (excluded.map fun c => (c, fun _ => row c))
          fun old => Engine.clash key row old
      else sq.engine.Free tab row (d tab).rows ∧ sq.engine.Refers tab row d
  | .update tab sets conds _ =>
    sq.engine.Keeps tab d (sq.settings sets p) (sq.matching tab conds p)
  | .deleteBelow .. => True

/-- The parameters of a statement can be bound, and the row it makes, or the rows
it changes, satisfy the constraints of its table. -/
def Accepts (statement : Statement T) (d : Db T) : Prop :=
  ∃ p, SqlCall.bound sq.bind statement.values = .ok p ∧ sq.Meets p d statement

omit [Field T] [LinearOrder T] in
theorem outcome_ok_iff {tab : TableName} {r : Except Refusal (Db T)} :
    (∃ id d, outcome tab r = .ok (id, d)) ↔ ∃ d, r = .ok d := by
  cases r with
  | error e => exact iff_of_false (fun ⟨_, _, h⟩ => nomatch h) fun ⟨_, h⟩ => nomatch h
  | ok d => exact iff_of_true ⟨_, d, rfl⟩ ⟨d, rfl⟩

omit [Field T] [LinearOrder T] in
theorem eq_ok_of_outcome {tab : TableName} {r : Except Refusal (Db T)} {id : Int} {d : Db T}
    (h : outcome tab r = .ok (id, d)) : r = .ok d := by
  cases r with
  | error e => cases h
  | ok d' =>
    cases h
    rfl

theorem change_ok_iff {p : ℕ → Value T} {d : Db T} {statement : Statement T} :
    (∃ id d', sq.change p d statement = .ok (id, d')) ↔ sq.Meets p d statement := by
  cases statement with
  | insert => exact outcome_ok_iff.trans Engine.insert_ok_iff
  | insertOrIgnore => exact outcome_ok_iff.trans Engine.insertOrIgnore_ok_iff
  | insertOrReplace => exact outcome_ok_iff.trans Engine.insertOrReplace_ok_iff
  | upsert => exact outcome_ok_iff.trans Engine.upsert_ok_iff
  | update => exact outcome_ok_iff.trans Engine.update_ok_iff
  | deleteBelow => exact outcome_ok_iff.trans (iff_of_true ⟨_, rfl⟩ trivial)

theorem accepted_iff {d : Db T} {statement : Statement T} :
    SqlCall.Accepted sq.bind statement.values (fun p d => sq.change p d statement) d ↔
      sq.Accepts statement d := by
  unfold Accepts
  constructor
  · rintro ⟨p, id, d', hbound, hchange⟩
    exact ⟨p, hbound, sq.change_ok_iff.mp ⟨id, d', hchange⟩⟩
  · rintro ⟨p, hbound, hmeets⟩
    obtain ⟨id, d', hchange⟩ := sq.change_ok_iff.mpr hmeets
    exact ⟨p, id, d', hbound, hchange⟩

/-- An update depends on its own table. -/
theorem accepts_update_congr {tab : TableName} {sets conds : List (String × Expr)}
    {values : List (Arg T)} {d d' : Db T} (h : d' tab = d tab) :
    sq.Accepts (.update tab sets conds values) d' ↔ sq.Accepts (.update tab sets conds values) d := by
  refine exists_congr fun p => and_congr_right fun _ => ?_
  show sq.engine.Keeps tab d' _ _ ↔ sq.engine.Keeps tab d _ _
  unfold Engine.Keeps
  rw [h]

/-! ## Methods -/

variable {c : Connection (Db T)} {α β : Type}

/-- A statement and a commit, whatever is read after them. -/
theorem idle_save {statement : Statement T} {f : Int → DbCode T α}
    (hf : ∀ id, (f id).Within SqlCall.Reads fun _ => True) :
    (((sq.execute statement).bind fun id => (SqlCall.issue .commit).bind fun _ => f id).run
      (SqlCall.exec sq.bind) c).2.Idle ↔ sq.Accepts statement c.seen :=
  (SqlCall.idle_write hf).trans sq.accepted_iff

/-- A statement and a commit, and a value. -/
theorem idle_save_pure {statement : Statement T} {value : Int → α} :
    (((sq.execute statement).bind fun id => (SqlCall.issue .commit).bind fun _ =>
      .pure (value id)).run (SqlCall.exec sq.bind) c).2.Idle ↔ sq.Accepts statement c.seen :=
  sq.idle_save (f := fun id => .pure (value id)) fun _ => trivial

/-- A statement and a commit at the end. -/
theorem idle_save_last {statement : Statement T} :
    (((sq.execute statement).bind fun _ => SqlCall.issue .commit).run
      (SqlCall.exec sq.bind) c).2.Idle ↔ sq.Accepts statement c.seen := by
  have hlast : (SqlCall.issue .commit : DbCode T Unit) = (SqlCall.issue .commit).bind .pure :=
    (Prog.bind_pure _).symm
  rw [hlast]
  exact sq.idle_save (f := fun _ => .pure ()) fun _ => trivial

end Sqlite

/-- Where a call, made on an idle connection to a database, leaves it idle: it
raises before it executes a statement that modifies, or what it executes is
accepted. The check of a token never does. -/
def StoreMethod.Settles (sq : Sqlite T) (m : Readings T) (d : Db T) : StoreMethod T → Prop
  | .createSession tenantId externalId profileBundle metadata =>
    ∀ text, sq.json metadata = .ok text →
      sq.Accepts (Database.insertSession m tenantId externalId profileBundle text) d
  | .updateSessionStatus sessionId status =>
    sq.Accepts (Database.setSessionStatus m sessionId status) d
  | .getSession _ => True
  | .appendEvent sessionId eventType payload actorResourceId =>
    ∀ v, sq.bind sessionId = .ok v → ∀ text, sq.json payload = .ok text →
      sq.Accepts (Database.insertEvent m sessionId (Database.nextSequence sq v d) eventType text
        actorResourceId) d
  | .getEvents .. => True
  | .enqueueCommand sessionId commandType payload actorResourceId =>
    ∀ v, sq.bind sessionId = .ok v → Database.pendingCount sq v d < Store.maxPendingCommands →
      Database.eventCount sq v d < Store.maxEventsPerSession → ∀ text, sq.json payload = .ok text →
        sq.Accepts (Database.insertCommand m sessionId commandType text actorResourceId) d
  | .claimPendingCommands sessionId claimedBy =>
    sq.Accepts (Database.setClaimed m sessionId claimedBy) d
  | .completeCommand commandId => sq.Accepts (Database.setCompleted m commandId) d
  | .upsertCellHost hostId zone address capacityTotal metadata =>
    ∀ v, sq.bind hostId = .ok v → ∀ text, sq.json metadata = .ok text →
      sq.Accepts
        (if (d .cellHosts).rows.any (sq.engine.equals .cellHosts "host_id" v) then
          Database.updateCellHost m hostId zone address capacityTotal text
        else Database.insertCellHost m hostId zone address capacityTotal text) d
  | .upsertSandboxHost hostId zone address metadata =>
    ∀ v, sq.bind hostId = .ok v → ∀ text, sq.json metadata = .ok text →
      sq.Accepts
        (if (d .sandboxHosts).rows.any (sq.engine.equals .sandboxHosts "host_id" v) then
          Database.updateSandboxHost m hostId zone address text
        else Database.insertSandboxHost m hostId zone address text) d
  | .heartbeatHost table hostId =>
    ∀ tab, Database.hostTable table = .ok tab → sq.Accepts (Database.setHeartbeat m tab hostId) d
  | .chooseCellHost => True
  | .createLease sessionId cellHostId ttlSeconds =>
    ∀ expiresAt, sq.plus (m.now 0) ttlSeconds = .ok expiresAt →
      sq.Accepts (Database.replaceLease m sessionId cellHostId expiresAt) d ∧
        sq.Accepts (Database.takeSlot m cellHostId) d
  | .getRoute _ => True
  | .audit actor action sessionId payload =>
    ∀ text, sq.json payload = .ok text →
      sq.Accepts (Database.insertAudit m actor action sessionId text) d
  | .auditEntries _ => True
  | .getOrCreateChannel platform channelId threadId sessionId initiatorResourceId metadata =>
    ∀ text, sq.json metadata = .ok text →
      sq.Accepts (Database.insertChannel m platform channelId threadId sessionId
        initiatorResourceId text) d
  | .getChannel .. => True
  | .getResourceMemory _ => True
  | .setResourceMemory resourceId memory platform =>
    ∀ blob, sq.json memory = .ok blob → blob.utf8ByteSize ≤ Database.maxMemoryBytes →
      sq.Accepts (Database.upsertMemory m resourceId platform blob) d
  | .revokeToken jti expiresAt => sq.Accepts (Database.insertRevoked m jti expiresAt) d
  | .isTokenRevoked _ => False

namespace Database

variable (sq : Sqlite T) (m : Readings T) {c : Connection (Db T)}

omit [Field T] [LinearOrder T] in
variable {sq} in
theorem idle_drop {α : Type} (p : DbCode T α) :
    (p.drop.run (SqlCall.exec sq.bind) c).2.Idle ↔ (p.run (SqlCall.exec sq.bind) c).2.Idle := by
  unfold DbCode.drop
  rw [Prog.run_bind_pure (SqlCall.exec sq.bind) p (fun _ => ()) c]

omit [Field T] [LinearOrder T] in
theorem forall_ok_iff {r : Except PyErr (Value T)} {v : Value T} {φ : Value T → Prop}
    (h : r = .ok v) : (∀ w, r = .ok w → φ w) ↔ φ v := by
  rw [h]
  exact ⟨fun hall => hall v rfl, fun hv w hw => Except.ok.inj hw ▸ hv⟩

theorem idle_createSession (tenantId externalId profileBundle metadata : Arg T) (hc : c.Idle) :
    ((createSession sq m tenantId externalId profileBundle metadata).run (SqlCall.exec sq.bind)
      c).2.Idle ↔ ∀ text, sq.json metadata = .ok text →
        sq.Accepts (insertSession m tenantId externalId profileBundle text) c.seen := by
  unfold createSession
  simp only [Prog.bind_eq, Prog.pure_eq]
  rw [SqlCall.idle_bind_ofExcept hc]
  exact forall₂_congr fun text _ => sq.idle_save_pure

theorem idle_updateSessionStatus (sessionId status : Arg T) :
    ((updateSessionStatus sq m sessionId status).run (SqlCall.exec sq.bind) c).2.Idle ↔
      sq.Accepts (setSessionStatus m sessionId status) c.seen := sq.idle_save_last

theorem idle_appendEvent (sessionId eventType payload actorResourceId : Arg T) (hc : c.Idle) :
    ((appendEvent sq m sessionId eventType payload actorResourceId).run (SqlCall.exec sq.bind)
      c).2.Idle ↔ ∀ v, sq.bind sessionId = .ok v → ∀ text, sq.json payload = .ok text →
        sq.Accepts (insertEvent m sessionId (nextSequence sq v c.seen) eventType text
          actorResourceId) c.seen := by
  unfold appendEvent
  simp only [Prog.bind_eq, Prog.pure_eq]
  rw [SqlCall.idle_bind_number hc]
  refine forall₂_congr fun v _ => ?_
  rw [SqlCall.idle_bind_ofExcept hc]
  exact forall₂_congr fun text _ => sq.idle_save_pure

theorem idle_enqueueCommand (sessionId commandType payload actorResourceId : Arg T)
    (hc : c.Idle) :
    ((enqueueCommand sq m sessionId commandType payload actorResourceId).run
      (SqlCall.exec sq.bind) c).2.Idle ↔ ∀ v, sq.bind sessionId = .ok v →
        pendingCount sq v c.seen < Store.maxPendingCommands →
          eventCount sq v c.seen < Store.maxEventsPerSession →
            ∀ text, sq.json payload = .ok text →
              sq.Accepts (insertCommand m sessionId commandType text actorResourceId) c.seen := by
  unfold enqueueCommand
  simp only [Prog.bind_eq, Prog.pure_eq]
  rw [SqlCall.idle_bind_number hc]
  refine forall₂_congr fun v hv => ?_
  -- each limit raises before the statement
  rw [SqlCall.idle_guard hc]
  refine imp_congr not_le ?_
  rw [SqlCall.idle_bind_number hc, forall_ok_iff hv, SqlCall.idle_guard hc]
  refine imp_congr not_le ?_
  rw [SqlCall.idle_bind_ofExcept hc]
  exact forall₂_congr fun text _ => sq.idle_save_pure

theorem idle_claimPendingCommands (sessionId claimedBy : Arg T) :
    ((claimPendingCommands sq m sessionId claimedBy).run (SqlCall.exec sq.bind) c).2.Idle ↔
      sq.Accepts (setClaimed m sessionId claimedBy) c.seen := by
  unfold claimPendingCommands
  simp only [Prog.bind_eq]
  exact sq.idle_save fun _ => .bind (SqlCall.issue_reads trivial) fun _ _ =>
    .ofExcept fun _ _ => trivial

theorem idle_completeCommand (commandId : Arg T) :
    ((completeCommand sq m commandId).run (SqlCall.exec sq.bind) c).2.Idle ↔
      sq.Accepts (setCompleted m commandId) c.seen := sq.idle_save_last

/-- Looking for a row, a method finds one or none. -/
theorem found_cases (tab : TableName) (column : String) (v : Value T) (d : Db T) :
    let rows := sq.rowsWhere tab [(column, .param 0)] (fun n => [v].getD n default) d
    (rows = [] ∧ (d tab).rows.any (sq.engine.equals tab column v) = false) ∨
      ∃ row rest, rows = row :: rest ∧ (d tab).rows.any (sq.engine.equals tab column v) = true := by
  have hwhere : sq.rowsWhere tab [(column, .param 0)] (fun n => [v].getD n default) d =
      (d tab).rows.filter (sq.engine.equals tab column v) := by
    refine List.filter_congr fun row _ => ?_
    show (sq.engine.equals tab column v row && true) = _
    rw [Bool.and_true]
  rw [hwhere]
  cases hrows : (d tab).rows.filter (sq.engine.equals tab column v) with
  | nil =>
    refine .inl ⟨rfl, List.any_eq_false.mpr ?_⟩
    exact List.filter_eq_nil_iff.mp hrows
  | cons row rest =>
    have hmem := List.mem_filter.mp (hrows ▸ List.mem_cons_self (l := rest) (a := row))
    exact .inr ⟨row, rest, rfl, List.any_eq_true.mpr ⟨row, hmem⟩⟩

theorem idle_upsertHost (tab : TableName) (hostId metadata : Arg T)
    (update insert : String → Statement T) (hc : c.Idle) :
    ((upsertHost sq m tab hostId metadata update insert).run (SqlCall.exec sq.bind) c).2.Idle ↔
      ∀ v, sq.bind hostId = .ok v → ∀ text, sq.json metadata = .ok text →
        sq.Accepts
          (if (c.seen tab).rows.any (sq.engine.equals tab "host_id" v) then update text
          else insert text) c.seen := by
  unfold upsertHost
  simp only [Prog.bind_eq, Prog.pure_eq]
  refine (SqlCall.idle_bind_select hc).trans (forall₂_congr fun v _ => ?_)
  rcases found_cases sq tab "host_id" v c.seen with ⟨hrows, hany⟩ | ⟨row, rest, hrows, hany⟩
  · simp only [hrows, hany, if_neg Bool.false_ne_true]
    exact (SqlCall.idle_bind_ofExcept hc).trans (forall₂_congr fun text _ => sq.idle_save_pure)
  · simp only [hrows, hany]
    exact (SqlCall.idle_bind_ofExcept hc).trans (forall₂_congr fun text _ => sq.idle_save_pure)

theorem idle_heartbeatHost (table hostId : Arg T) (hc : c.Idle) :
    ((heartbeatHost sq m table hostId).run (SqlCall.exec sq.bind) c).2.Idle ↔
      ∀ tab, hostTable table = .ok tab → sq.Accepts (setHeartbeat m tab hostId) c.seen := by
  unfold heartbeatHost
  simp only [Prog.bind_eq]
  rw [SqlCall.idle_bind_ofExcept hc]
  exact forall₂_congr fun tab _ => sq.idle_save_last

/-- The slot is taken in a table that the lease does not change. -/
theorem idle_createLease (sessionId cellHostId ttlSeconds : Arg T) (hc : c.Idle) :
    ((createLease sq m sessionId cellHostId ttlSeconds).run (SqlCall.exec sq.bind) c).2.Idle ↔
      ∀ expiresAt, sq.plus (m.now 0) ttlSeconds = .ok expiresAt →
        sq.Accepts (replaceLease m sessionId cellHostId expiresAt) c.seen ∧
          sq.Accepts (takeSlot m cellHostId) c.seen := by
  unfold createLease
  simp only [Prog.bind_eq, Prog.pure_eq]
  rw [SqlCall.idle_bind_ofExcept hc]
  refine forall₂_congr fun expiresAt _ => SqlCall.idle_bind_modify.trans ?_
  have hslot : ∀ (p : ℕ → Value T) (id : Int) (d' : Db T),
      sq.change p c.seen (replaceLease m sessionId cellHostId expiresAt) = .ok (id, d') →
        ((((sq.execute (takeSlot m cellHostId)).bind fun _ => (SqlCall.issue .commit).bind fun _ =>
          .pure m.uuid4).run (SqlCall.exec sq.bind) (c.after d')).2.Idle ↔
          sq.Accepts (takeSlot m cellHostId) c.seen) := by
    intro p id d' hchange
    have hsame : d' .cellHosts = c.seen .cellHosts := by
      have hreplace := Sqlite.eq_ok_of_outcome hchange
      exact Engine.insertOrReplace_of_ne hreplace (by decide)
    exact sq.idle_save_pure.trans (sq.accepts_update_congr hsame)
  refine Iff.trans ?_ (and_congr_left' sq.accepted_iff)
  constructor
  · rintro ⟨p, id, d', hbound, hchange, hidle⟩
    exact ⟨⟨p, id, d', hbound, hchange⟩, (hslot p id d' hchange).mp hidle⟩
  · rintro ⟨⟨p, id, d', hbound, hchange⟩, haccepts⟩
    exact ⟨p, id, d', hbound, hchange, (hslot p id d' hchange).mpr haccepts⟩

theorem idle_audit (actor action sessionId payload : Arg T) (hc : c.Idle) :
    ((audit sq m actor action sessionId payload).run (SqlCall.exec sq.bind) c).2.Idle ↔
      ∀ text, sq.json payload = .ok text →
        sq.Accepts (insertAudit m actor action sessionId text) c.seen := by
  unfold audit
  simp only [Prog.bind_eq, Prog.pure_eq]
  rw [SqlCall.idle_bind_ofExcept hc]
  exact forall₂_congr fun text _ => sq.idle_save_pure

theorem channelRow_reads (platform channelId threadId : Arg T) :
    (channelRow sq platform channelId threadId).Within SqlCall.Reads fun _ => True :=
  .bind (SqlCall.issue_reads trivial) fun _ _ => .ofExcept fun _ _ => trivial

theorem idle_getOrCreateChannel
    (platform channelId threadId sessionId initiatorResourceId metadata : Arg T) (hc : c.Idle) :
    ((getOrCreateChannel sq m platform channelId threadId sessionId initiatorResourceId
      metadata).run (SqlCall.exec sq.bind) c).2.Idle ↔
      ∀ text, sq.json metadata = .ok text →
        sq.Accepts (insertChannel m platform channelId threadId sessionId initiatorResourceId text)
          c.seen := by
  unfold getOrCreateChannel
  simp only [Prog.bind_eq, Prog.pure_eq]
  rw [SqlCall.idle_bind_ofExcept hc]
  refine forall₂_congr fun text _ => sq.idle_save fun _ => ?_
  refine (channelRow_reads sq platform channelId threadId).bind fun actual _ => ?_
  cases actual <;> trivial

theorem idle_setResourceMemory (resourceId memory platform : Arg T) (hc : c.Idle) :
    ((setResourceMemory sq m resourceId memory platform).run (SqlCall.exec sq.bind) c).2.Idle ↔
      ∀ blob, sq.json memory = .ok blob → blob.utf8ByteSize ≤ maxMemoryBytes →
        sq.Accepts (upsertMemory m resourceId platform blob) c.seen := by
  unfold setResourceMemory
  simp only [Prog.bind_eq]
  rw [SqlCall.idle_bind_ofExcept hc]
  refine forall₂_congr fun blob _ => ?_
  rw [SqlCall.idle_guard hc]
  exact imp_congr not_lt sq.idle_save_last

theorem idle_revokeToken (jti expiresAt : Arg T) :
    ((revokeToken sq m jti expiresAt).run (SqlCall.exec sq.bind) c).2.Idle ↔
      sq.Accepts (insertRevoked m jti expiresAt) c.seen := sq.idle_save_last

/-- **The check of a token** leaves the transaction of its purge open, found or not. -/
theorem not_idle_isTokenRevoked (jti : Arg T) :
    ¬ ((isTokenRevoked sq m jti).run (SqlCall.exec sq.bind) c).2.Idle := by
  unfold isTokenRevoked
  simp only [Prog.bind_eq, Prog.pure_eq]
  exact SqlCall.not_idle_modify fun _ => .bind (SqlCall.issue_reads trivial) fun _ _ => trivial

theorem chooseCellHost_reads :
    (chooseCellHost sq).Within SqlCall.Reads fun _ => True := by
  refine .bind (SqlCall.issue_reads trivial) fun rows _ => ?_
  cases rows with
  | nil => trivial
  | cons row rest => exact .ofExcept fun _ _ => trivial

theorem auditEntries_reads (sessionId : Arg T) :
    (auditEntries sq sessionId).Within SqlCall.Reads fun _ => True := by
  unfold auditEntries
  simp only [Prog.bind_eq]
  split
  · exact .bind (SqlCall.issue_reads trivial) fun _ _ => .ofExcept fun _ _ => trivial
  · exact .bind (SqlCall.issue_reads trivial) fun _ _ => .ofExcept fun _ _ => trivial

theorem getResourceMemory_reads (resourceId : Arg T) :
    (getResourceMemory sq resourceId).Within SqlCall.Reads fun _ => True := by
  refine .bind (SqlCall.issue_reads trivial) fun rows _ => ?_
  cases rows with
  | nil => trivial
  | cons row rest =>
    dsimp only
    split
    · split <;> trivial
    · trivial

end Database

/-- **One call.** -/
theorem StoreMethod.idle_iff (sq : Sqlite T) (m : Readings T) (method : StoreMethod T)
    {c : Connection (Db T)} (hc : c.Idle) :
    ((method.code sq m).run (SqlCall.exec sq.bind) c).2.Idle ↔ method.Settles sq m c.seen := by
  have hreads : ∀ {α : Type} {p : DbCode T α}, p.Within SqlCall.Reads (fun _ => True) →
      ((p.drop.run (SqlCall.exec sq.bind) c).2.Idle ↔ True) := fun hp =>
    iff_of_true ((Database.idle_drop _).mpr (SqlCall.idle_reads hp hc)) trivial
  cases method with
  | createSession => exact (Database.idle_drop _).trans (Database.idle_createSession sq m _ _ _ _ hc)
  | updateSessionStatus => exact Database.idle_updateSessionStatus sq m _ _
  | getSession =>
    exact hreads (.bind (SqlCall.issue_reads trivial) fun _ _ => .ofExcept fun _ _ => trivial)
  | appendEvent => exact (Database.idle_drop _).trans (Database.idle_appendEvent sq m _ _ _ _ hc)
  | getEvents =>
    exact hreads (.bind (SqlCall.issue_reads trivial) fun _ _ => .ofExcept fun _ _ => trivial)
  | enqueueCommand =>
    exact (Database.idle_drop _).trans (Database.idle_enqueueCommand sq m _ _ _ _ hc)
  | claimPendingCommands =>
    exact (Database.idle_drop _).trans (Database.idle_claimPendingCommands sq m _ _)
  | completeCommand => exact Database.idle_completeCommand sq m _
  | upsertCellHost =>
    exact (Database.idle_drop _).trans (Database.idle_upsertHost sq m _ _ _ _ _ hc)
  | upsertSandboxHost =>
    exact (Database.idle_drop _).trans (Database.idle_upsertHost sq m _ _ _ _ _ hc)
  | heartbeatHost => exact Database.idle_heartbeatHost sq m _ _ hc
  | chooseCellHost => exact hreads (Database.chooseCellHost_reads sq)
  | createLease => exact (Database.idle_drop _).trans (Database.idle_createLease sq m _ _ _ hc)
  | getRoute =>
    exact hreads (.bind (SqlCall.issue_reads trivial) fun _ _ => .ofExcept fun _ _ => trivial)
  | audit => exact (Database.idle_drop _).trans (Database.idle_audit sq m _ _ _ _ hc)
  | auditEntries => exact hreads (Database.auditEntries_reads sq _)
  | getOrCreateChannel =>
    exact (Database.idle_drop _).trans (Database.idle_getOrCreateChannel sq m _ _ _ _ _ _ hc)
  | getChannel => exact hreads (Database.channelRow_reads sq _ _ _)
  | getResourceMemory => exact hreads (Database.getResourceMemory_reads sq _)
  | setResourceMemory => exact Database.idle_setResourceMemory sq m _ _ _ hc
  | revokeToken => exact Database.idle_revokeToken sq m _ _
  | isTokenRevoked =>
    refine iff_of_false (fun h => ?_) id
    exact Database.not_idle_isTokenRevoked sq m _ ((Database.idle_drop _).mp h)

/-- Conversions of numbers, and the JSON text of an empty dict. A noncharacter stands
for a lone surrogate, and of all objects a date has an adapter. -/
def Sqlite.sample : Sqlite ℚ where
  dumps _ := .ok "{}"
  loads _ := .ok .dict
  str
    | .str s => s
    | _ => ""
  coerce
    | .real, .int n => .real n
    | .text, .int n => .text (toString n)
    | _, v => v
  increment
    | .int n => .int (n + 1)
    | v => v
  refuses
    | .text s =>
      if '\uffff' ∈ s.toList then
        some (.valueError "'utf-8' codec can't encode: surrogates not allowed")
      else none
    | _ => none
  adapt
    | "date(2024, 1, 2)" => .ok (.text "2024-01-02")
    | _ => .error (.sqliteError "Error binding parameter: type is not supported")
  add _ _ := .error (.typeError "unsupported operand type(s) for +")

/-- Noon. -/
def Readings.sample : Readings ℚ := ⟨"id", fun _ => 12⟩

/-- A new file. -/
def newFile : Connection (Db ℚ) := ⟨Database.empty, none⟩

/-- A session, its first event and a command are committed one by one. -/
example :
    let run := fun calls : List (StoreMethod ℚ) => calls.foldl
      (fun c call => ((call.code Sqlite.sample Readings.sample).run
        (SqlCall.exec Sqlite.sample.bind) c).2) newFile
    let c := run [.createSession (.str "local") .none .none .none,
      .appendEvent (.str "id") (.str "session.started") .none .none,
      .enqueueCommand (.str "id") (.str "echo") .none .none]
    c.pending.isNone = true ∧ (c.committed .commandInbox).rows.length = 1 := by
  decide +kernel

end Nadi
