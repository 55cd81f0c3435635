import Nadi.Model.StoreSpec
import Nadi.Tables.Records

/-!
# Sessions, events and commands in their tables

What the methods of `Store` for sessions, for the event log and for the command
inbox give and leave on a connection: what they do to a store, rendered.
-/

namespace Nadi

namespace Sqlite.Codec

open Effect Data.Sql SqlCall

variable {T : Type} [Field T] [LinearOrder T] {sq : Sqlite T} (k : sq.Codec) {memories : Table T}
  {st : Store T} {m : Readings T} {c : Connection (Db T)}

/-! ## Sessions -/

section Sessions

theorem clash_id (r old : SessionRow T) :
    Engine.clash ["id"] (k.sessions.cells r) (k.sessions.cells old) = (r.id == old.id) :=
  Bool.and_true _

theorem clash_externalId (r old : SessionRow T) :
    Engine.clash ["external_id"] (k.sessions.cells r) (k.sessions.cells old) =
      (r.externalId.isSome && r.externalId == old.externalId) :=
  (Bool.and_true _).trans (same_textOrNull _ _)

variable (memories) in
/-- What an event, a command or a lease refers to. -/
theorem exists_session (sid : String) :
    (∃ parent ∈ (k.encode memories st .sessions).rows,
      (Value.text sid : Value T).same (parent "id") = true) ↔ st.hasSession sid = true := by
  have hrows : (k.encode memories st .sessions).rows = st.sessions.rows.map k.sessions.cells := rfl
  unfold Store.hasSession
  rw [Data.Table.find?_isSome, hrows]
  constructor
  · rintro ⟨_, hparent, hsame⟩
    obtain ⟨r, hr, rfl⟩ := List.mem_map.mp hparent
    exact ⟨r, hr, (beq_iff_eq.mp hsame).symm⟩
  · rintro ⟨r, hr, hid⟩
    exact ⟨_, List.mem_map_of_mem hr, beq_iff_eq.mpr hid.symm⟩

variable (tenantId : String) (externalId profileBundle : Option String) (metadata : Json)

/-- The key of a new session that is taken can only be its external id. -/
theorem insert_session (hfresh : ∀ r ∈ st.sessions, r.id ≠ m.uuid4) :
    outcome .sessions (sq.engine.insert .sessions
        (k.sessions.cells (Store.newSession (m.now 0) m.uuid4 tenantId externalId profileBundle
          metadata)) (k.encode memories st)) =
      (st.createSession (m.now 0) m.uuid4 tenantId externalId profileBundle metadata).map
        fun x => (0, k.encode memories x.2) := by
  set new := Store.newSession (m.now 0) m.uuid4 tenantId externalId profileBundle metadata with hnew
  have hid : ∀ old ∈ st.sessions.rows,
      Engine.clash ["id"] (k.sessions.cells new) (k.sessions.cells old) = false := by
    intro old hold
    rw [clash_id, beq_eq_false_iff_ne]
    exact fun heq => hfresh old hold heq.symm
  have htaken : externalId.isSome ∧ st.sessions.rows.any (fun r => r.externalId == externalId) ↔
      ∃ old ∈ st.sessions.rows,
        Engine.clash ["external_id"] (k.sessions.cells new) (k.sessions.cells old) = true := by
    simp only [clash_externalId, List.any_eq_true, Bool.and_eq_true, beq_iff_eq]
    exact ⟨fun ⟨hsome, old, hold, heq⟩ => ⟨old, hold, hsome, heq.symm⟩,
      fun ⟨old, hold, hsome, heq⟩ => ⟨hsome, old, hold, heq.symm⟩⟩
  unfold Store.createSession
  split
  · rename_i h
    obtain ⟨old, hold, hclash⟩ := htaken.mp h
    -- the database looks at the id first, which is new
    have hkey : sq.engine.taken .sessions (k.sessions.cells new)
        (k.encode memories st .sessions).rows = some ["external_id"] := by
      refine (List.find?_cons_of_neg ?_).trans (List.find?_cons_of_pos ?_)
      · rw [Bool.not_eq_true, List.any_eq_false]
        refine List.forall_mem_map.mpr fun old hold => ?_
        rw [Bool.not_eq_true]
        exact hid old hold
      · exact List.any_eq_true.mpr ⟨_, List.mem_map_of_mem hold, hclash⟩
    rw [Engine.insert_eq_unique (k.sessions.filled _) hkey]
    rfl
  · rename_i h
    have hfree : sq.engine.Free .sessions (k.sessions.cells new)
        (k.encode memories st .sessions).rows := by
      refine (k.sessions.free_iff rfl).mpr (List.forall_mem_cons.mpr ⟨hid, ?_⟩)
      refine List.forall_mem_singleton.mpr fun old hold => ?_
      rw [← Bool.not_eq_true]
      exact fun hclash => h (htaken.mpr ⟨old, hold, hclash⟩)
    rw [← hnew, k.sessions.insert_eq hfree nofun, outcome_put rfl]
    cases hinsert : st.sessions.insert? new with
    | none =>
      obtain ⟨old, hold, heq⟩ := Data.Table.insert?_eq_none.mp hinsert
      exact absurd heq (hfresh old hold)
    | some sessions =>
      have hrows := (Data.Table.insert?_eq_some.mp hinsert).2
      show _ = Except.ok (0, k.encode memories { st with sessions })
      rw [k.encode_sessions sessions, hrows, List.map_append]
      rfl

theorem createSession_ends (hseen : c.seen = k.encode memories st)
    (hfresh : ∀ r ∈ st.sessions, r.id ≠ m.uuid4) :
    let r := st.createSession (m.now 0) m.uuid4 tenantId externalId profileBundle metadata
    Ends sq.bind (Database.createSession sq m (.str tenantId) (.ofOption externalId)
      (.ofOption profileBundle) (k.arg metadata)) c (r.map Prod.fst)
      (k.encode memories (st.kept r)) := by
  refine ends_value (k.json_arg metadata) ?_
  refine k.ends_saved id hseen
    (k.bound_eq (.cons rfl (.cons (Arg.plain_ofOption externalId) (.cons rfl (.cons
      (Arg.plain_ofOption profileBundle) (.cons rfl (.cons rfl (.cons rfl (.cons rfl .nil)))))))))
    ((change_insert k.sessions ?_).trans
      (k.insert_session tenantId externalId profileBundle metadata hfresh)) ?_
  · exact ⟨k.coerce_text _, k.coerce_textOrNull _, k.coerce_text _, k.coerce_textOrNull _,
      k.coerce_text _, k.coerce_text _, k.coerce_real _, k.coerce_real _⟩
  · rintro ⟨sid, st'⟩ hr
    exact (Store.createSession_ok hr).1.symm

theorem updateSessionStatus_ends (hseen : c.seen = k.encode memories st) (sessionId : String)
    (status : SessionStatus) :
    Ends sq.bind (Database.updateSessionStatus sq m (.str sessionId) (.str status.text)) c
      (.ok ()) (k.encode memories (st.updateSessionStatus (m.now 0) sessionId status)) := by
  refine k.ends_saved_last 0 hseen (k.bound_eq (.cons rfl (.cons rfl (.cons rfl .nil)))) ?_
  refine (change_update k.sessions (fun r => r.id == sessionId)
    (fun r => { r with status, updatedAt := m.now 0 }) rfl (fun r _ => ?_) fun r _ _ => ?_).trans ?_
  · show (Value.same _ (sq.coerce .text (.text sessionId)) && true) = _
    rw [k.coerce_text, Bool.and_true]
    rfl
  · exact ⟨rfl, rfl, rfl, rfl, k.coerce_text _, rfl, rfl, k.coerce_real _⟩
  · exact congrArg (fun d => Except.ok (0, d)) (k.encode_sessions
      (st.updateSessionStatus (m.now 0) sessionId status).sessions).symm

end Sessions

/-! ## The event log -/

section Events

theorem eventsOf_encode (sid : String) :
    Database.ofSession sq .events (.text sid) (k.encode memories st) =
      (st.eventsOf sid).map k.events.cells := by
  refine k.events.filter_eq rfl fun e _ => ?_
  show Value.same _ (sq.coerce .text (.text sid)) = _
  rw [k.coerce_text]
  rfl

/-- The largest of numbers is the same among integers. -/
theorem max?_natCast (l : List ℕ) :
    (l.map fun n : ℕ => (n : ℤ)).max? = l.max?.map fun n : ℕ => (n : ℤ) := by
  induction l with
  | nil => rfl
  | cons n l ih =>
    rw [List.map_cons, List.max?_cons, List.max?_cons, ih]
    cases l.max? with
    | none => rfl
    | some k => exact congrArg some (Nat.cast_max n k).symm

theorem nextSequence_encode (sid : String) :
    Database.nextSequence sq (.text sid) (k.encode memories st) = st.nextSequence sid := by
  unfold Database.nextSequence Store.nextSequence
  have hsequences : ((st.eventsOf sid).map k.events.cells).map Database.sequenceOf =
      ((st.eventsOf sid).map EventRow.sequence).map fun n : ℕ => (n : ℤ) := by
    rw [List.map_map, List.map_map]
    rfl
  rw [eventsOf_encode, hsequences, max?_natCast]
  cases ((st.eventsOf sid).map EventRow.sequence).max? <;> rfl

omit [Field T] [LinearOrder T] in
theorem numbered_events : sq.engine.Numbered .events "id" where
  serial := rfl
  keys := by simp [Sqlite.engine, TableName.schema]
  foreign := by simp [Sqlite.engine, TableName.schema, ofSession]
  nullable := forall_columns (by simp [TableName.schema, nullable, required, defaulted])

theorem clash_sequence (e old : EventRow T) :
    Engine.clash ["session_id", "sequence"] (k.events.cells e) (k.events.cells old) =
      (e.sessionId == old.sessionId && e.sequence == old.sequence) := by
  show ((Value.text e.sessionId).same (.text old.sessionId) &&
    ((Value.int e.sequence).same (.int old.sequence) && true)) = _
  rw [Bool.and_true, same_int]
  rfl

/-- An event, as `append_event` returns it. -/
def appended (e : Event) : Database.Appended T :=
  ⟨.str e.sessionId, e.sequence, .str e.eventType, k.arg e.payload, .ofOption e.actorResourceId⟩

variable (sessionId eventType : String) (payload : Json) (actor : Option String)

theorem insert_event :
    outcome .events (sq.engine.insert .events (k.events.unnumbered "id"
        (Store.newEvent (m.now 0) sessionId (st.nextSequence sessionId) eventType payload actor
          (st.events.last + 1))) (k.encode memories st)) =
      (st.appendEvent (m.now 0) sessionId eventType payload actor).map
        fun x => ((st.events.last : ℤ) + 1, k.encode memories x.2) := by
  set new := Store.newEvent (m.now 0) sessionId (st.nextSequence sessionId) eventType payload actor
    (st.events.last + 1)
  have hfree : sq.engine.Free .events (k.events.cells new) (k.encode memories st .events).rows := by
    refine (k.events.free_iff rfl).mpr (List.forall_mem_singleton.mpr fun old hold => ?_)
    rw [clash_sequence, ← Bool.not_eq_true, Bool.and_eq_true, beq_iff_eq, beq_iff_eq]
    rintro ⟨hsession, hsequence⟩
    have hlt := Store.lt_nextSequence (Store.mem_eventsOf.mpr ⟨hold, hsession.symm⟩)
    exact absurd hsequence.symm (Nat.ne_of_lt hlt)
  have hnone : ¬ ((st.eventsOf sessionId).any fun e =>
      e.sequence == st.nextSequence sessionId) = true := by
    rw [Store.nextSequence_free]
    exact Bool.false_ne_true
  have hrefers : sq.engine.Refers .events (k.events.cells new) (k.encode memories st) ↔
      st.hasSession sessionId = true := by
    rw [← k.exists_session memories]
    exact List.forall_mem_singleton.trans ⟨fun h => h nofun, fun h _ => h⟩
  unfold Store.appendEvent
  dsimp only
  rw [if_neg hnone]
  split
  · rename_i h
    rw [outcome_insertNumbered k.events numbered_events rfl hfree (hrefers.mpr h)]
    refine congrArg (fun d => Except.ok ((st.events.last : ℤ) + 1, d)) (Eq.symm ?_)
    exact (k.encode_events _).trans (congrArg (Function.update _ _) (rows_push _ _ _ _))
  · rename_i h
    rw [k.events.insert_unnumbered_eq_foreignKey numbered_events hfree fun hr => h (hrefers.mp hr)]
    rfl

theorem appendEvent_ends (hseen : c.seen = k.encode memories st)
    (hsequence : Fits64 (st.nextSequence sessionId)) :
    let r := st.appendEvent (m.now 0) sessionId eventType payload actor
    Ends sq.bind (Database.appendEvent sq m (.str sessionId) (.str eventType) (k.arg payload)
      (.ofOption actor)) c (r.map fun x => k.appended x.1) (k.encode memories (st.kept r)) := by
  unfold Database.appendEvent
  simp only [Prog.bind_eq, Prog.pure_eq]
  refine ends_number (n := st.nextSequence sessionId) (k.bound_eq (.cons rfl .nil)) ?_ ?_
  · rw [hseen]
    exact k.nextSequence_encode sessionId
  refine ends_value (k.json_arg payload) ?_
  refine k.ends_saved k.appended hseen
    (k.bound_eq (.cons rfl (.cons (Arg.plain_int hsequence) (.cons rfl (.cons rfl (.cons
      (Arg.plain_ofOption actor) (.cons rfl .nil)))))))
    ((change_insert_unnumbered k.events rfl ?_).trans
      (k.insert_event sessionId eventType payload actor)) ?_
  · exact ⟨rfl, k.coerce_text _, k.coerce_integer _ hsequence, k.coerce_text _, k.coerce_text _,
      k.coerce_real _, k.coerce_textOrNull _⟩
  · rintro ⟨e, st'⟩ hr
    rw [(Store.appendEvent_ok hr).1, k.arg_orEmpty]
    rfl

theorem getEvents_encode (after : ℤ) (hafter : Fits64 after) :
    orderBy "sequence" ((Database.ofSession sq .events (.text sessionId)
        (k.encode memories st)).filter fun row =>
      (sq.engine.stored .events "sequence" (.int after)).less (row "sequence")) =
      (st.getEvents sessionId after).map k.events.cells := by
  have hfilter : ((Database.ofSession sq .events (.text sessionId)
        (k.encode memories st)).filter fun row =>
      (sq.engine.stored .events "sequence" (.int after)).less (row "sequence")) =
      (st.events.select fun e => e.sessionId == sessionId && decide (after < e.sequence)).map
        k.events.cells := by
    have hselect : (st.events.select fun e => e.sessionId == sessionId &&
        decide (after < e.sequence)) =
        (st.eventsOf sessionId).filter fun e => decide (after < e.sequence) := by
      refine Eq.trans (List.filter_congr fun e _ => ?_) (List.filter_filter).symm
      exact Bool.and_comm _ _
    rw [eventsOf_encode, hselect, List.filter_map]
    refine congrArg (List.map k.events.cells) (List.filter_congr fun e _ => ?_)
    show (sq.coerce .integer (.int after)).less (.int e.sequence) = _
    rw [k.coerce_integer after hafter]
    rfl
  rw [hfilter]
  refine orderBy_eq k.events (f := EventRow.sequence) ?_ _
  exact fun a b => upTo_int _ _

theorem getEvents_ends (hseen : c.seen = k.encode memories st) (after : ℤ)
    (hafter : Fits64 after) :
    Ends sq.bind (Database.getEvents sq (.str sessionId) (.int after)) c
      (.ok ((st.getEvents sessionId after).map k.eventRecord)) (k.encode memories st) := by
  refine ends_select (a := (st.getEvents sessionId after).map k.events.cells)
    (k.bound_eq (.cons rfl (.cons (Arg.plain_int hafter) .nil))) ?_ ?_
  · rw [hseen]
    exact k.getEvents_encode sessionId after hafter
  rw [mapM_record k.events k.record_event, ← hseen]
  exact ends_ofExcept

end Events

/-! ## The command inbox -/

section Commands

omit [Field T] [LinearOrder T] in
theorem numbered_commands : sq.engine.Numbered .commandInbox "id" where
  serial := rfl
  keys := by simp [Sqlite.engine, TableName.schema]
  foreign := by simp [Sqlite.engine, TableName.schema, ofSession]
  nullable := forall_columns (by simp [TableName.schema, nullable, required, defaulted])

theorem status_eq (a b : CommandStatus) :
    (Value.text a.text : Value T).same (.text b.text) = (a == b) := by
  rw [same_text, Bool.eq_iff_iff, beq_iff_eq, beq_iff_eq, CommandStatus.text_inj]

theorem pendingCount_encode (sid : String) :
    Database.pendingCount sq (.text sid) (k.encode memories st) = (st.pendingOf sid).length := by
  have hrows : (Database.ofSession sq .commandInbox (.text sid) (k.encode memories st)).filter
      (sq.engine.equals .commandInbox "status" (.text "pending")) =
      (st.pendingOf sid).map k.commands.cells := by
    have hsession : Database.ofSession sq .commandInbox (.text sid) (k.encode memories st) =
        (st.commandInbox.rows.filter fun q => q.sessionId == sid).map k.commands.cells := by
      refine k.commands.filter_eq rfl fun q _ => ?_
      show Value.same _ (sq.coerce .text (.text sid)) = _
      rw [k.coerce_text]
      rfl
    have hpending : st.pendingOf sid =
        (st.commandInbox.rows.filter fun q => q.sessionId == sid).filter
          fun q => q.status == .pending := by
      refine Eq.trans (List.filter_congr fun q _ => ?_) (List.filter_filter).symm
      exact Bool.and_comm _ _
    rw [hsession, hpending, List.filter_map]
    refine congrArg (List.map k.commands.cells) (List.filter_congr fun q _ => ?_)
    show (Value.text q.status.text).same (sq.coerce .text (.text CommandStatus.pending.text)) = _
    rw [k.coerce_text, status_eq]
  unfold Database.pendingCount
  rw [hrows, List.length_map]

theorem eventCount_encode (sid : String) :
    Database.eventCount sq (.text sid) (k.encode memories st) = (st.eventsOf sid).length := by
  unfold Database.eventCount
  rw [eventsOf_encode, List.length_map]

variable (sessionId commandType : String) (payload : Json) (actor : Option String)

theorem insert_command :
    outcome .commandInbox (sq.engine.insert .commandInbox (k.commands.unnumbered "id"
        (Store.newCommand (m.now 0) sessionId commandType payload actor
          (st.commandInbox.last + 1))) (k.encode memories st)) =
      if st.hasSession sessionId then
        .ok ((st.commandInbox.last : ℤ) + 1, k.encode memories { st with
          commandInbox := st.commandInbox.push
            (Store.newCommand (m.now 0) sessionId commandType payload actor) fun _ => rfl })
      else .error foreignKeyFailed := by
  set new := Store.newCommand (m.now 0) sessionId commandType payload actor
    (st.commandInbox.last + 1)
  have hfree : sq.engine.Free .commandInbox (k.commands.cells new)
      (k.encode memories st .commandInbox).rows := nofun
  have hrefers : sq.engine.Refers .commandInbox (k.commands.cells new) (k.encode memories st) ↔
      st.hasSession sessionId = true := by
    rw [← k.exists_session memories]
    exact List.forall_mem_singleton.trans ⟨fun h => h nofun, fun h _ => h⟩
  split
  · rename_i h
    rw [outcome_insertNumbered k.commands numbered_commands rfl hfree (hrefers.mpr h)]
    refine congrArg (fun d => Except.ok ((st.commandInbox.last : ℤ) + 1, d)) (Eq.symm ?_)
    exact (k.encode_commandInbox _).trans
      (congrArg (Function.update _ _) (rows_push _ _ _ _))
  · rename_i h
    rw [k.commands.insert_unnumbered_eq_foreignKey numbered_commands hfree
      fun hr => h (hrefers.mp hr)]
    rfl

theorem enqueueCommand_ends (hseen : c.seen = k.encode memories st)
    (hnow : m.now 1 = m.now 0) :
    let r := st.enqueueCommand (m.now 0) sessionId commandType payload actor
    Ends sq.bind (Database.enqueueCommand sq m (.str sessionId) (.str commandType)
      (k.arg payload) (.ofOption actor)) c (r.map fun x => (x.1 : ℤ))
      (k.encode memories (st.kept r)) := by
  unfold Database.enqueueCommand
  simp only [Prog.bind_eq, Prog.pure_eq]
  refine ends_number (n := (st.pendingOf sessionId).length)
    (k.bound_eq (.cons rfl .nil)) ?_ ?_
  · rw [hseen]
    exact k.pendingCount_encode sessionId
  unfold Store.enqueueCommand
  simp only [Nat.cast_le, k.str_str]
  split
  · show Ends _ _ _ _ (k.encode memories st)
    rw [← hseen]
    exact ends_throw
  refine ends_number (n := (st.eventsOf sessionId).length)
    (k.bound_eq (.cons rfl .nil)) ?_ ?_
  · rw [hseen]
    exact k.eventCount_encode sessionId
  simp only [Nat.cast_le]
  split
  · show Ends _ _ _ _ (k.encode memories st)
    rw [← hseen]
    exact ends_throw
  refine ends_value (k.json_arg payload) ?_
  refine k.ends_saved (n := st.commandInbox.last + 1) (fun n : ℕ => (n : ℤ)) hseen
    (k.bound_eq (.cons rfl (.cons rfl (.cons rfl (.cons (Arg.plain_ofOption actor) (.cons rfl (.cons
      rfl (.cons rfl .nil)))))))) ?_ ?_
  · refine (change_insert_unnumbered k.commands rfl ?_).trans
      ((k.insert_command (m := m) sessionId commandType payload actor).trans ?_)
    · refine ⟨rfl, k.coerce_text _, k.coerce_text _, k.coerce_text _, k.coerce_text _,
        k.coerce_real _, rfl, rfl, rfl, rfl, ?_, k.coerce_textOrNull _⟩
      exact (congrArg (fun x => sq.coerce .real (.real x)) hnow).trans (k.coerce_real _)
    · split <;> rfl
  · rintro ⟨id, st'⟩ hr
    split at hr
    · cases hr
      rfl
    · cases hr

theorem change_setClaimed (claimedBy : String) :
    sq.change
        (fun n => [Value.text claimedBy, .text m.uuid4, .real (m.now 0), .text sessionId].getD n
          default)
        (k.encode memories st) (Database.setClaimed m (.str sessionId) (.str claimedBy)) =
      .ok (st.commandInbox.last, k.encode memories
        (st.claimPendingCommands (m.now 0) m.uuid4 sessionId claimedBy).2) := by
  refine (change_update k.commands (fun q => q.sessionId == sessionId && q.status == .pending)
    (Store.claimRow (m.now 0) claimedBy m.uuid4) rfl (fun q _ => ?_) fun q _ _ => ?_).trans ?_
  · show (Value.same _ (sq.coerce .text (.text sessionId)) &&
      (Value.same _ (sq.coerce .text (.text CommandStatus.pending.text)) && true)) = _
    rw [k.coerce_text, k.coerce_text, Bool.and_true]
    exact congrArg (_ && ·) (status_eq _ _)
  · exact ⟨rfl, rfl, rfl, rfl, k.coerce_text _, rfl, k.coerce_text _, k.coerce_text _,
      k.coerce_real _, rfl, rfl, rfl⟩
  · exact congrArg (fun d => Except.ok (_, d)) (k.encode_commandInbox
      (st.claimPendingCommands (m.now 0) m.uuid4 sessionId claimedBy).2.commandInbox).symm

/-- The commands that carry a token, in the order of their ids. -/
theorem claimed_encode (token : String) :
    orderBy "id" (sq.rowsWhere .commandInbox
        [("claim_token", .param 0), ("status", .text "claimed")]
        (fun n => [Value.text token].getD n default) (k.encode memories st)) =
      (st.commandInbox.select fun q =>
        q.claimToken == some token && q.status == .claimed).map k.commands.cells := by
  have hrows : sq.rowsWhere .commandInbox
      [("claim_token", .param 0), ("status", .text "claimed")]
      (fun n => [Value.text token].getD n default) (k.encode memories st) =
      (st.commandInbox.select fun q =>
        q.claimToken == some token && q.status == .claimed).map k.commands.cells := by
    refine k.commands.filter_eq rfl fun q _ => ?_
    show (Value.same _ (sq.coerce .text (.text token)) &&
      (Value.same _ (sq.coerce .text (.text CommandStatus.claimed.text)) && true)) = _
    rw [k.coerce_text, k.coerce_text, Bool.and_true]
    exact congrArg₂ (· && ·) (same_textOrNull_text _ _) (status_eq _ _)
  rw [hrows]
  refine Eq.trans (orderBy_eq k.commands (f := CommandRow.id) ?_ _) ?_
  · exact fun a b => upTo_int a.id b.id
  · have hsorted : (st.commandInbox.select fun q => q.claimToken == some token &&
        q.status == .claimed).Pairwise fun a b => a.id ≤ b.id :=
      (Data.Serial.select_ordered st.commandInbox _).imp fun h => Nat.le_of_lt h
    rw [hsorted.insertionSort_eq]

theorem claimPendingCommands_ends (hseen : c.seen = k.encode memories st)
    (claimedBy : String) :
    let claimed := st.claimPendingCommands (m.now 0) m.uuid4 sessionId claimedBy
    Ends sq.bind (Database.claimPendingCommands sq m (.str sessionId) (.str claimedBy)) c
      (.ok (claimed.1.map k.commandRecord)) (k.encode memories claimed.2) := by
  unfold Database.claimPendingCommands
  simp only [Prog.bind_eq]
  have hclaim := @change_setClaimed T _ _ sq k memories st m sessionId claimedBy
  rw [← hseen] at hclaim
  refine ends_save (k.bound_eq (.cons rfl (.cons rfl (.cons rfl (.cons rfl .nil))))) hclaim ?_
  refine ends_select (k.bound_eq (.cons rfl .nil)) (k.claimed_encode m.uuid4) ?_
  rw [mapM_record k.commands k.record_command]
  exact ends_ofExcept

theorem completeCommand_ends (hseen : c.seen = k.encode memories st) (id : ℕ)
    (hid : Fits64 id) :
    Ends sq.bind (Database.completeCommand sq m (.int id)) c (.ok ())
      (k.encode memories (st.completeCommand (m.now 0) id)) := by
  refine k.ends_saved_last st.commandInbox.last hseen
    (k.bound_eq (.cons rfl (.cons (Arg.plain_int hid) .nil))) ?_
  refine (change_update k.commands (fun q => q.id == id) (Store.completeRow (m.now 0)) rfl
    (fun q _ => ?_) fun q _ _ => ?_).trans ?_
  · show (Value.same _ (sq.coerce .integer (.int id)) && true) = _
    rw [k.coerce_integer _ hid, Bool.and_true]
    exact same_int _ _
  · exact ⟨rfl, rfl, rfl, rfl, k.coerce_text _, rfl, rfl, rfl, rfl, k.coerce_real _, rfl, rfl⟩
  · exact congrArg (fun d => Except.ok (_, d)) (k.encode_commandInbox
      (st.completeCommand (m.now 0) id).commandInbox).symm

end Commands

end Sqlite.Codec

end Nadi
