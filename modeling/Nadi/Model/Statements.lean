import Nadi.Data.Integrity
import Nadi.Effect.Interrupt
import Nadi.Transactions

/-!
# The statements of each method

- `StoreMethod.Issues`: the statements a call may execute, with the parameters it
  computes for them.
- `StoreMethod.commits`: the methods that commit before they return.
- `StoreMethod.whole`: a method executes no others, is all or nothing wherever it is
  cut off, and has committed what it leaves if it returns and is one that commits.
-/

namespace Nadi

open Effect Data.Sql

variable {T : Type} [Field T] [LinearOrder T]

/-! ## Statements -/

/-- The table that a statement changes. -/
def Statement.table : Statement T → TableName
  | .insert tab .. => tab
  | .insertOrIgnore tab .. => tab
  | .insertOrReplace tab .. => tab
  | .upsert tab .. => tab
  | .update tab .. => tab
  | .deleteBelow tab .. => tab

/-- The statements a call may execute. -/
def StoreMethod.Issues (m : Readings T) : StoreMethod T → Statement T → Prop
  | .createSession tenantId externalId profileBundle _, s =>
    ∃ text, s = Database.insertSession m tenantId externalId profileBundle text
  | .updateSessionStatus sessionId status, s => s = Database.setSessionStatus m sessionId status
  | .appendEvent sessionId eventType _ actorResourceId, s =>
    ∃ seq text, s = Database.insertEvent m sessionId seq eventType text actorResourceId
  | .enqueueCommand sessionId commandType _ actorResourceId, s =>
    ∃ text, s = Database.insertCommand m sessionId commandType text actorResourceId
  | .claimPendingCommands sessionId claimedBy, s => s = Database.setClaimed m sessionId claimedBy
  | .completeCommand commandId, s => s = Database.setCompleted m commandId
  | .upsertCellHost hostId zone address capacityTotal _, s =>
    ∃ text, s = Database.updateCellHost m hostId zone address capacityTotal text ∨
      s = Database.insertCellHost m hostId zone address capacityTotal text
  | .upsertSandboxHost hostId zone address _, s =>
    ∃ text, s = Database.updateSandboxHost m hostId zone address text ∨
      s = Database.insertSandboxHost m hostId zone address text
  | .heartbeatHost table hostId, s =>
    ∃ tab, Database.hostTable table = .ok tab ∧ s = Database.setHeartbeat m tab hostId
  | .createLease sessionId cellHostId _, s =>
    (∃ expiresAt, s = Database.replaceLease m sessionId cellHostId expiresAt) ∨
      s = Database.takeSlot m cellHostId
  | .audit actor action sessionId _, s =>
    ∃ text, s = Database.insertAudit m actor action sessionId text
  | .getOrCreateChannel platform channelId threadId sessionId initiatorResourceId _, s =>
    ∃ text, s = Database.insertChannel m platform channelId threadId sessionId initiatorResourceId
      text
  | .setResourceMemory resourceId _ platform, s =>
    ∃ blob, s = Database.upsertMemory m resourceId platform blob
  | .revokeToken jti expiresAt, s => s = Database.insertRevoked m jti expiresAt
  | .isTokenRevoked _, s => s = .deleteBelow .revokedTokens "expires_at" (.float (m.now 0))
  | _, _ => False

/-- The methods that commit before they return. -/
def StoreMethod.commits : StoreMethod T → Bool
  | .getSession _ => false
  | .getEvents .. => false
  | .chooseCellHost => false
  | .getRoute _ => false
  | .auditEntries _ => false
  | .getChannel .. => false
  | .getResourceMemory _ => false
  | .isTokenRevoked _ => false
  | _ => true

omit [Field T] [LinearOrder T] in
/-- The tables with hosts. -/
theorem Database.hostTable_cases {table : Arg T} {tab : TableName}
    (h : Database.hostTable table = .ok tab) : tab = .cellHosts ∨ tab = .sandboxHosts := by
  unfold Database.hostTable at h
  split at h <;> cases h
  · exact .inl rfl
  · exact .inr rfl

/-- A statement changes no other table. -/
theorem Sqlite.change_of_ne (sq : Sqlite T) {statement : Statement T} {p : ℕ → Value T} {d d' : Db T}
    {n : Int} (h : sq.change p d statement = .ok (n, d')) {other : TableName}
    (hne : other ≠ statement.table) : d' other = d other := by
  cases statement with
  | insert => exact Engine.insert_of_ne (Sqlite.eq_ok_of_outcome h) hne
  | insertOrIgnore => exact Engine.insertOrIgnore_of_ne (Sqlite.eq_ok_of_outcome h) hne
  | insertOrReplace => exact Engine.insertOrReplace_of_ne (Sqlite.eq_ok_of_outcome h) hne
  | upsert => exact Engine.upsert_of_ne (Sqlite.eq_ok_of_outcome h) hne
  | update => exact Engine.update_of_ne (Sqlite.eq_ok_of_outcome h) hne
  | deleteBelow =>
    cases h
    exact Function.update_of_ne hne _ _

/-- What a statement makes of its parameters and the database, for some statement in `ok`. -/
def Sqlite.Among (sq : Sqlite T) (ok : Statement T → Prop) (params : List (Arg T))
    (change : (ℕ → Value T) → Db T → Except PyErr (Int × Db T)) : Prop :=
  ∃ statement, ok statement ∧ params = statement.values ∧
    change = fun p d => sq.change p d statement

/-! ## Methods -/

namespace Database

variable (sq : Sqlite T) (ok : Statement T → Prop) (m : Readings T) {α : Type} {lasts : Prop}

/-- A program on the database that executes statements in `ok`, all or nothing. -/
abbrev Whole (lasts : Prop) (p : DbCode T α) : Prop :=
  SqlCall.Whole sq.bind (sq.Among ok) lasts p

variable {sq ok}

theorem whole_execute {statement : Statement T} (h : ok statement) {f : Int → DbCode T α}
    (hf : ∀ n, Whole sq ok lasts (f n)) : Whole sq ok lasts ((sq.execute statement).bind f) :=
  SqlCall.Whole.bind_modify ⟨statement, h, rfl, rfl⟩ hf

/-- A statement, a commit and a value. -/
theorem whole_save {statement : Statement T} (h : ok statement) {value : Int → α} :
    Whole sq ok lasts ((sq.execute statement).bind fun n => (SqlCall.issue .commit).bind fun _ =>
      .pure (value n)) :=
  whole_execute h fun _ => SqlCall.Whole.bind_commit trivial

/-- A statement and a commit. -/
theorem whole_save_last {statement : Statement T} (h : ok statement) :
    Whole sq ok lasts ((sq.execute statement).bind fun _ => SqlCall.issue .commit) :=
  whole_execute h fun _ => SqlCall.Whole.commit

theorem whole_number {params : List (Arg T)} {query : (ℕ → Value T) → Db T → Int}
    {f : Int → DbCode T α} (hf : ∀ n, Whole sq ok lasts (f n)) :
    Whole sq ok lasts ((SqlCall.issue (.number params query)).bind f) :=
  SqlCall.Whole.bind_reads (SqlCall.issue_reads trivial) hf

theorem whole_createSession {tenantId externalId profileBundle : Arg T} (metadata : Arg T)
    (h : ∀ text, ok (insertSession m tenantId externalId profileBundle text)) :
    Whole sq ok lasts (createSession sq m tenantId externalId profileBundle metadata) :=
  SqlCall.Whole.bind_ofExcept fun text => whole_save (h text)

theorem whole_appendEvent {sessionId eventType actorResourceId : Arg T} (payload : Arg T)
    (h : ∀ seq text, ok (insertEvent m sessionId seq eventType text actorResourceId)) :
    Whole sq ok lasts (appendEvent sq m sessionId eventType payload actorResourceId) :=
  whole_number fun seq => SqlCall.Whole.bind_ofExcept fun text => whole_save (h seq text)

theorem whole_enqueueCommand {sessionId commandType actorResourceId : Arg T} (payload : Arg T)
    (h : ∀ text, ok (insertCommand m sessionId commandType text actorResourceId)) :
    Whole sq ok lasts (enqueueCommand sq m sessionId commandType payload actorResourceId) := by
  refine whole_number fun pending => ?_
  split
  · exact SqlCall.Whole.throw
  · refine whole_number fun count => ?_
    split
    · exact SqlCall.Whole.throw
    · exact SqlCall.Whole.bind_ofExcept fun text => whole_save (h text)

theorem whole_claimPendingCommands {sessionId claimedBy : Arg T}
    (h : ok (setClaimed m sessionId claimedBy)) :
    Whole sq ok lasts (claimPendingCommands sq m sessionId claimedBy) := by
  refine whole_execute h fun _ => SqlCall.Whole.bind_commit ?_
  exact .bind (SqlCall.issue_reads trivial) fun _ _ => .ofExcept fun _ _ => trivial

theorem whole_upsertHost (tab : TableName) (hostId metadata : Arg T)
    {update insert : String → Statement T} (hupdate : ∀ text, ok (update text))
    (hinsert : ∀ text, ok (insert text)) :
    Whole sq ok lasts (upsertHost sq m tab hostId metadata update insert) := by
  refine SqlCall.Whole.bind_reads (SqlCall.issue_reads trivial) fun found => ?_
  cases found with
  | nil => exact SqlCall.Whole.bind_ofExcept fun text => whole_save (hinsert text)
  | cons existing rest => exact SqlCall.Whole.bind_ofExcept fun text => whole_save (hupdate text)

theorem whole_heartbeatHost {table hostId : Arg T}
    (h : ∀ tab, hostTable table = .ok tab → ok (setHeartbeat m tab hostId)) :
    Whole sq ok lasts (heartbeatHost sq m table hostId) := by
  unfold heartbeatHost
  simp only [Prog.bind_eq]
  cases htable : hostTable table with
  | error e => exact SqlCall.Whole.throw
  | ok tab => exact whole_save_last (h tab htable)

/-- Two statements in one transaction. -/
theorem whole_createLease {sessionId cellHostId : Arg T} (ttlSeconds : Arg T)
    (hlease : ∀ expiresAt, ok (replaceLease m sessionId cellHostId expiresAt))
    (hslot : ok (takeSlot m cellHostId)) :
    Whole sq ok lasts (createLease sq m sessionId cellHostId ttlSeconds) :=
  SqlCall.Whole.bind_ofExcept fun expiresAt => whole_execute (hlease expiresAt) fun _ =>
    whole_save hslot

theorem whole_audit {actor action sessionId : Arg T} (payload : Arg T)
    (h : ∀ text, ok (insertAudit m actor action sessionId text)) :
    Whole sq ok lasts (audit sq m actor action sessionId payload) :=
  SqlCall.Whole.bind_ofExcept fun text => whole_save (h text)

theorem whole_getOrCreateChannel
    {platform channelId threadId sessionId initiatorResourceId : Arg T} (metadata : Arg T)
    (h : ∀ text,
      ok (insertChannel m platform channelId threadId sessionId initiatorResourceId text)) :
    Whole sq ok lasts (getOrCreateChannel sq m platform channelId threadId sessionId
      initiatorResourceId metadata) := by
  refine SqlCall.Whole.bind_ofExcept fun text => whole_execute (h text) fun _ =>
    SqlCall.Whole.bind_commit ?_
  refine (channelRow_reads sq platform channelId threadId).bind fun actual _ => ?_
  cases actual <;> trivial

theorem whole_setResourceMemory {resourceId platform : Arg T} (memory : Arg T)
    (h : ∀ blob, ok (upsertMemory m resourceId platform blob)) :
    Whole sq ok lasts (setResourceMemory sq m resourceId memory platform) := by
  refine SqlCall.Whole.bind_ofExcept fun blob => ?_
  split
  · exact SqlCall.Whole.throw
  · exact whole_save_last (h blob)

/-- The purge is never committed by the check itself. -/
theorem whole_isTokenRevoked (jti : Arg T)
    (h : ok (.deleteBelow .revokedTokens "expires_at" (.float (m.now 0)))) :
    Whole sq ok False (isTokenRevoked sq m jti) :=
  whole_execute h fun _ => SqlCall.Whole.reads
    (.bind (SqlCall.issue_reads trivial) fun _ _ => trivial)

end Database

/-- **One call.** -/
theorem StoreMethod.whole (sq : Sqlite T) (m : Readings T) (method : StoreMethod T) :
    Database.Whole sq (method.Issues m) (method.commits = true) (method.code sq m) := by
  have hreads : ∀ {ok : Statement T → Prop} {α : Type} {p : DbCode T α},
      p.Within SqlCall.Reads (fun _ => True) → Database.Whole sq ok (false = true) p.drop :=
    fun hp => ((SqlCall.Whole.reads hp).imp (nomatch ·)).map _
  cases method with
  | createSession => exact (Database.whole_createSession m _ fun _ => ⟨_, rfl⟩).map _
  | updateSessionStatus => exact Database.whole_save_last rfl
  | getSession =>
    exact hreads (.bind (SqlCall.issue_reads trivial) fun _ _ => .ofExcept fun _ _ => trivial)
  | appendEvent => exact (Database.whole_appendEvent m _ fun _ _ => ⟨_, _, rfl⟩).map _
  | getEvents =>
    exact hreads (.bind (SqlCall.issue_reads trivial) fun _ _ => .ofExcept fun _ _ => trivial)
  | enqueueCommand => exact (Database.whole_enqueueCommand m _ fun _ => ⟨_, rfl⟩).map _
  | claimPendingCommands =>
    refine (Database.whole_claimPendingCommands m ?_).map _
    rfl
  | completeCommand => exact Database.whole_save_last rfl
  | upsertCellHost =>
    exact (Database.whole_upsertHost m _ _ _ (fun _ => ⟨_, .inl rfl⟩) fun _ => ⟨_, .inr rfl⟩).map _
  | upsertSandboxHost =>
    exact (Database.whole_upsertHost m _ _ _ (fun _ => ⟨_, .inl rfl⟩) fun _ => ⟨_, .inr rfl⟩).map _
  | heartbeatHost => exact Database.whole_heartbeatHost m fun tab htab => ⟨tab, htab, rfl⟩
  | chooseCellHost => exact hreads (Database.chooseCellHost_reads sq)
  | createLease =>
    exact (Database.whole_createLease m _ (fun _ => .inl ⟨_, rfl⟩) (.inr rfl)).map _
  | getRoute =>
    exact hreads (.bind (SqlCall.issue_reads trivial) fun _ _ => .ofExcept fun _ _ => trivial)
  | audit => exact (Database.whole_audit m _ fun _ => ⟨_, rfl⟩).map _
  | auditEntries => exact hreads (Database.auditEntries_reads sq _)
  | getOrCreateChannel => exact (Database.whole_getOrCreateChannel m _ fun _ => ⟨_, rfl⟩).map _
  | getChannel => exact hreads (Database.channelRow_reads sq _ _ _)
  | getResourceMemory => exact hreads (Database.getResourceMemory_reads sq _)
  | setResourceMemory => exact Database.whole_setResourceMemory m _ fun _ => ⟨_, rfl⟩
  | revokeToken => exact Database.whole_save_last rfl
  | isTokenRevoked =>
    refine ((Database.whole_isTokenRevoked m _ ?_).imp fun h => Bool.false_ne_true h).map _
    rfl

end Nadi
