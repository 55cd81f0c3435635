import Nadi.Model.StoreSpec
import Nadi.Tables.Sessions

/-!
# Channels, tokens and the audit log in their tables

What the methods of `Store` for channels, for revoked tokens and for the audit
log give and leave on a connection.
-/

namespace Nadi

namespace Sqlite.Codec

open Effect Data.Sql SqlCall

variable {T : Type} [Field T] [LinearOrder T] {sq : Sqlite T} (k : sq.Codec) {memories : Table T}
  {st : Store T} {m : Readings T} {c : Connection (Db T)}

/-! ## The audit log -/

section Audits

omit [Field T] [LinearOrder T] in
theorem numbered_audits : sq.engine.Numbered .auditLog "id" where
  serial := rfl
  keys := by simp [Sqlite.engine, TableName.schema]
  foreign := by simp [Sqlite.engine, TableName.schema]
  nullable := forall_columns (by simp [TableName.schema, nullable, required, defaulted])

theorem audit_ends (hseen : c.seen = k.encode memories st) (actor action : String)
    (sessionId : Option String) (payload : Json) :
    let audited := st.audit (m.now 0) actor action sessionId payload
    Ends sq.bind (Database.audit sq m (.str actor) (.str action) (.ofOption sessionId)
      (k.arg payload)) c (.ok (audited.1 : ℤ)) (k.encode memories audited.2) := by
  intro audited
  unfold Database.audit
  simp only [Prog.bind_eq, Prog.pure_eq]
  refine ends_value (k.json_arg payload) ?_
  set new : AuditRow T :=
    ⟨st.auditLog.last + 1, actor, action, sessionId, payload.orEmpty, m.now 0⟩
  refine k.ends_saved (r := .ok audited) (n := st.auditLog.last + 1) (fun n : ℕ => (n : ℤ))
    hseen (k.bound_eq (.cons rfl (.cons rfl (.cons (Arg.plain_ofOption sessionId) (.cons rfl (.cons
      rfl .nil)))))) ?_ ?_
  · refine (change_insert_unnumbered (r := new) k.audits rfl ?_).trans
      ((outcome_insertNumbered k.audits numbered_audits rfl nofun nofun).trans ?_)
    · exact ⟨rfl, k.coerce_text _, k.coerce_text _, k.coerce_textOrNull _, k.coerce_text _,
        k.coerce_real _⟩
    · refine congrArg (fun d => Except.ok ((st.auditLog.last : ℤ) + 1, d)) (Eq.symm ?_)
      exact (k.encode_auditLog _).trans (congrArg (Function.update _ _) (rows_push _ _ _ _))
  · rintro x hx
    cases hx
    rfl

end Audits

/-! ## Channels -/

section Channels

theorem clash_channelId (r old : ChannelRow T) :
    Engine.clash ["id"] (k.channels.cells r) (k.channels.cells old) = (r.id == old.id) :=
  Bool.and_true _

theorem clash_key (r old : ChannelRow T) :
    Engine.clash ["platform", "channel_id", "thread_id"] (k.channels.cells r)
      (k.channels.cells old) = (r.key == old.key) := by
  show ((r.platform == old.platform) && ((r.channelId == old.channelId) &&
    ((r.threadId == old.threadId) && true))) = _
  rw [Bool.and_true]
  rfl

/-- A channel whose id or key is taken is left out. -/
theorem insertOrIgnore_channel (new : ChannelRow T) :
    outcome .channels (sq.engine.insertOrIgnore .channels (k.channels.cells new)
        (k.encode memories st)) =
      (st.insertChannel new).map fun st' => (0, k.encode memories st') := by
  have hfree : sq.engine.Free .channels (k.channels.cells new)
      (k.encode memories st .channels).rows ↔
      (∀ old ∈ st.channels.rows, old.id ≠ new.id) ∧ ∀ old ∈ st.channels, old.key ≠ new.key := by
    refine (k.channels.free_iff rfl).trans (List.forall_mem_cons.trans (and_congr ?_
      (List.forall_mem_singleton.trans ?_)))
    · simp only [clash_channelId, beq_eq_false_iff_ne, ne_comm]
    · simp only [clash_key, beq_eq_false_iff_ne, ne_comm]
      rfl
  have hrefers : sq.engine.Refers .channels (k.channels.cells new) (k.encode memories st) ↔
      st.hasSession new.sessionId = true := by
    rw [← k.exists_session memories]
    exact List.forall_mem_singleton.trans ⟨fun h => h nofun, fun h _ => h⟩
  unfold Store.insertChannel
  split
  · rename_i h
    obtain ⟨old, hold, heq⟩ := List.any_eq_true.mp h
    rw [Engine.insertOrIgnore_eq_self fun hf => (hfree.mp hf).1 old hold (beq_iff_eq.mp heq)]
    rfl
  · rename_i h
    cases hinsert : st.channels.insert? new with
    | none =>
      obtain ⟨old, hold, heq⟩ := Data.Table.insert?_eq_none.mp hinsert
      rw [Engine.insertOrIgnore_eq_self fun hf => (hfree.mp hf).2 old hold heq]
      rfl
    | some channels =>
      obtain ⟨hkey, hrows⟩ := Data.Table.insert?_eq_some.mp hinsert
      have hid : ∀ old ∈ st.channels.rows, old.id ≠ new.id := fun old hold heq =>
        h (List.any_eq_true.mpr ⟨old, hold, beq_iff_eq.mpr heq⟩)
      rw [Engine.insertOrIgnore_eq (k.channels.filled new) (hfree.mpr ⟨hid, hkey⟩)]
      dsimp only
      split
      · rename_i hsession
        rw [Engine.putReferring_eq (hrefers.mpr hsession), outcome_put rfl]
        refine congrArg (fun d => Except.ok (0, d)) (Eq.trans ?_ (k.encode_channels channels).symm)
        rw [hrows, List.map_append]
        rfl
      · rename_i hsession
        rw [Engine.putReferring_eq_error fun hr => hsession (hrefers.mp hr)]
        rfl

variable (platform channelId threadId : String)

/-- The channel of a key. -/
theorem channel_encode :
    sq.rowsWhere .channels
        [("platform", .param 0), ("channel_id", .param 1), ("thread_id", .param 2)]
        (fun n => [Value.text platform, .text channelId, .text threadId].getD n default)
        (k.encode memories st) =
      (st.getChannel platform channelId threadId).toList.map k.channels.cells := by
  unfold Store.getChannel
  rw [← Data.Table.filter_key]
  refine k.channels.filter_eq rfl fun n _ => ?_
  show (Value.same _ (sq.coerce .text (.text platform)) &&
    (Value.same _ (sq.coerce .text (.text channelId)) &&
      (Value.same _ (sq.coerce .text (.text threadId)) && true))) = _
  rw [k.coerce_text, k.coerce_text, k.coerce_text, Bool.and_true, Bool.eq_iff_iff,
    decide_eq_true_iff]
  show (n.platform == platform && (n.channelId == channelId && n.threadId == threadId)) = true ↔ _
  simp only [Bool.and_eq_true, beq_iff_eq, ChannelRow.key, Prod.mk.injEq]

theorem channelRow_ends (hseen : c.seen = k.encode memories st) :
    Ends sq.bind (Database.channelRow sq (.str platform) (.str channelId) (.str threadId)) c
      (.ok ((st.getChannel platform channelId threadId).map k.channelRecord))
      (k.encode memories st) := by
  have hchannel := @channel_encode T _ _ sq k memories st platform channelId threadId
  rw [← hseen] at hchannel ⊢
  refine ends_select (k.bound_eq (.cons rfl (.cons rfl (.cons rfl .nil)))) hchannel ?_
  rw [fetched_eq k.channels k.record_channel]
  cases st.getChannel platform channelId threadId <;> exact ends_ofExcept

theorem getChannel_ends (hseen : c.seen = k.encode memories st) :
    Ends sq.bind (Database.getChannel sq (.str platform) (.str channelId) (.str threadId)) c
      (.ok ((st.getChannel platform channelId threadId).map k.channelRecord))
      (k.encode memories st) :=
  k.channelRow_ends platform channelId threadId hseen

omit [Field T] [LinearOrder T] in
/-- A key that is still without a channel has not changed the store. -/
theorem insertChannel_none {new : ChannelRow T} {st' : Store T}
    (h : st.insertChannel new = .ok st') (hnone : st'.channels.find? new.key = none) : st' = st := by
  unfold Store.insertChannel at h
  split at h
  · cases h
    rfl
  split at h
  · cases h
    rfl
  rename_i channels hinsert
  split at h
  · cases h
    rw [Data.Table.find?_of_insert? hinsert, if_pos rfl] at hnone
    cases hnone
  · cases h

/-- What `get_or_create_channel` returns. -/
def joined (x : String × String × Bool) : Arg T × Arg T × Bool := (.str x.1, .str x.2.1, x.2.2)

variable (sessionId initiator : String) (metadata : Json)

theorem change_insertChannel :
    sq.change
        (fun n => [Value.text m.uuid4, .text platform, .text channelId, .text threadId,
          .text sessionId, .text initiator, .text (k.text metadata.orEmpty), .real (m.now 0),
          .real (m.now 0)].getD n default)
        (k.encode memories st) (Database.insertChannel m (.str platform) (.str channelId)
          (.str threadId) (.str sessionId) (.str initiator) (k.text metadata.orEmpty)) =
      (st.insertChannel (Store.newChannel (m.now 0) m.uuid4 platform channelId threadId sessionId
        initiator metadata)).map fun st' => (0, k.encode memories st') := by
  refine (change_insertOrIgnore k.channels ?_).trans (k.insertOrIgnore_channel
    (Store.newChannel (m.now 0) m.uuid4 platform channelId threadId sessionId initiator metadata))
  exact ⟨k.coerce_text _, k.coerce_text _, k.coerce_text _, k.coerce_text _, k.coerce_text _,
    k.coerce_text _, k.coerce_text _, k.coerce_real _, k.coerce_real _⟩

theorem getOrCreateChannel_ends (hseen : c.seen = k.encode memories st) :
    let r := st.getOrCreateChannel (m.now 0) m.uuid4 platform channelId threadId sessionId
      initiator metadata
    Ends sq.bind (Database.getOrCreateChannel sq m (.str platform) (.str channelId)
      (.str threadId) (.str sessionId) (.str initiator) (k.arg metadata)) c
      (r.map fun x => joined x.1) (k.encode memories (st.kept r)) := by
  unfold Database.getOrCreateChannel
  simp only [Prog.bind_eq, Prog.pure_eq]
  refine ends_value (k.json_arg metadata) ?_
  have hchange := @change_insertChannel T _ _ sq k memories st m platform channelId threadId
    sessionId initiator metadata
  have hbound : bound sq.bind (Database.insertChannel m (.str platform) (.str channelId)
      (.str threadId) (.str sessionId) (.str initiator) (k.text metadata.orEmpty)).values =
      .ok fun n => [Value.text m.uuid4, .text platform, .text channelId, .text threadId,
        .text sessionId, .text initiator, .text (k.text metadata.orEmpty), .real (m.now 0),
        .real (m.now 0)].getD n default :=
    k.bound_eq (.cons rfl (.cons rfl (.cons rfl (.cons rfl (.cons rfl (.cons rfl (.cons rfl (.cons
      rfl (.cons rfl .nil)))))))))
  rw [← hseen] at hchange
  unfold Store.getOrCreateChannel
  cases hinsert : st.insertChannel (Store.newChannel (m.now 0) m.uuid4 platform channelId threadId
      sessionId initiator metadata) with
  | error e =>
    rw [hinsert] at hchange
    show Ends _ _ _ _ (k.encode memories st)
    rw [← hseen]
    exact ends_modify_error hbound hchange
  | ok st' =>
    rw [hinsert] at hchange
    refine ends_save hbound hchange ?_
    -- the row of the key is read back, whoever has written it
    refine (k.channelRow_ends platform channelId threadId (by rfl)).andThen fun c' hc' => ?_
    dsimp only
    cases hfind : st'.channels.find? (platform, channelId, threadId) with
    | none =>
      have hfound : st'.getChannel platform channelId threadId = none := hfind
      rw [hfound, ← insertChannel_none hinsert hfind]
      show Ends sq.bind (.throw _) c' _ (k.encode memories st')
      rw [← hc']
      exact ends_throw
    | some actual =>
      have hfound : st'.getChannel platform channelId threadId = some actual := hfind
      rw [hfound]
      show Ends sq.bind (.pure _) c' (.ok (joined (_, _, _))) (k.encode memories st')
      rw [← hc']
      have hcreated : decide (k.channelRecord actual "session_id" = .str sessionId ∧
          k.channelRecord actual "id" = .str m.uuid4) =
          (actual.sessionId == sessionId && actual.id == m.uuid4) := by
        rw [Bool.eq_iff_iff, decide_eq_true_iff, Bool.and_eq_true, beq_iff_eq, beq_iff_eq]
        exact and_congr ⟨fun h => Arg.str.inj h, congrArg Arg.str⟩
          ⟨fun h => Arg.str.inj h, congrArg Arg.str⟩
      have hvalue : (k.channelRecord actual "session_id", k.channelRecord actual "id",
          decide (k.channelRecord actual "session_id" = .str sessionId ∧
            k.channelRecord actual "id" = .str m.uuid4)) =
          joined (actual.sessionId, actual.id,
            actual.sessionId == sessionId && actual.id == m.uuid4) := by
        rw [hcreated]
        rfl
      rw [← hvalue]
      exact ends_pure

end Channels

/-! ## Revoked tokens -/

section Tokens

theorem revokeToken_ends (hseen : c.seen = k.encode memories st) (jti : String)
    (expiresAt : T) :
    Ends sq.bind (Database.revokeToken sq m (.str jti) (.float expiresAt)) c (.ok ())
      (k.encode memories (st.revokeToken (m.now 0) jti expiresAt)) := by
  refine k.ends_saved_last 0 hseen (k.bound_eq (.cons rfl (.cons rfl (.cons rfl .nil)))) ?_
  set new : RevokedRow T := ⟨jti, expiresAt, m.now 0⟩ with hnew
  refine (change_insertOrIgnore (r := new) k.revoked ?_).trans ?_
  · exact ⟨k.coerce_text _, k.coerce_real _, k.coerce_real _⟩
  have hfree : sq.engine.Free .revokedTokens (k.revoked.cells new)
      (k.encode memories st .revokedTokens).rows ↔ ∀ old ∈ st.revokedTokens, old.jti ≠ new.jti := by
    refine (k.revoked.free_iff rfl).trans (List.forall_mem_singleton.trans ?_)
    refine forall₂_congr fun old _ => ?_
    show (((Value.text new.jti).same (.text old.jti) && true) = false) ↔ _
    rw [Bool.and_true, same_text, beq_eq_false_iff_ne]
    exact ne_comm
  unfold Store.revokeToken
  rw [← hnew]
  cases hinsert : st.revokedTokens.insert? new with
  | none =>
    obtain ⟨old, hold, heq⟩ := Data.Table.insert?_eq_none.mp hinsert
    rw [Engine.insertOrIgnore_eq_self fun hf => hfree.mp hf old hold heq]
    rfl
  | some revokedTokens =>
    obtain ⟨hjti, hrows⟩ := Data.Table.insert?_eq_some.mp hinsert
    have hrefers : sq.engine.Refers .revokedTokens (k.revoked.cells new)
        (k.encode memories st) := nofun
    rw [Engine.insertOrIgnore_eq (k.revoked.filled new) (hfree.mpr hjti),
      Engine.putReferring_eq hrefers, outcome_put rfl]
    refine congrArg (fun d => Except.ok (0, d))
      (Eq.trans ?_ (k.encode_revokedTokens revokedTokens).symm)
    rw [hrows, List.map_append]
    rfl

theorem isTokenRevoked_ends (hseen : c.seen = k.encode memories st) (jti : String) :
    let looked := st.isTokenRevoked (m.now 0) jti
    Ends sq.bind (Database.isTokenRevoked sq m (.str jti)) c (.ok looked.1)
      (k.encode memories looked.2) := by
  intro looked
  unfold Database.isTokenRevoked
  simp only [Prog.bind_eq, Prog.pure_eq]
  have hdelete : sq.change (fun n => [Value.real (m.now 0)].getD n default) (k.encode memories st)
      (.deleteBelow .revokedTokens "expires_at" (.float (m.now 0))) =
      .ok (0, k.encode memories looked.2) := by
    have hrows : Engine.delete .revokedTokens (k.encode memories st) (fun row =>
        (row "expires_at").less (sq.engine.stored .revokedTokens "expires_at" (.real (m.now 0)))) =
        k.encode memories looked.2 := by
      refine (k.revoked.delete_eq (p := fun r => decide (r.expiresAt < m.now 0)) rfl
        fun r _ => ?_).trans (k.encode_revokedTokens looked.2.revokedTokens).symm
      show (Value.real r.expiresAt).less (sq.coerce .real (.real (m.now 0))) = _
      rw [k.coerce_real]
      rfl
    exact congrArg (fun d => Except.ok ((d .revokedTokens).last, d)) hrows
  rw [← hseen] at hdelete
  refine ends_modify (k.bound_eq (.cons rfl .nil)) hdelete ?_
  have hrows : sq.rowsWhere .revokedTokens [("jti", .param 0)]
      (fun n => [Value.text jti].getD n default) (k.encode memories looked.2) =
      (looked.2.revokedTokens.find? jti).toList.map k.revoked.cells := by
    rw [← Data.Table.filter_key]
    refine k.revoked.filter_eq rfl fun r _ => ?_
    show (Value.same _ (sq.coerce .text (.text jti)) && true) = _
    rw [k.coerce_text, Bool.and_true]
    rfl
  refine ends_select (k.bound_eq (.cons rfl .nil)) hrows ?_
  have hvalue : (!((looked.2.revokedTokens.find? jti).toList.map k.revoked.cells).isEmpty) =
      looked.1 := by
    show _ = (looked.2.revokedTokens.find? jti).isSome
    cases looked.2.revokedTokens.find? jti <;> rfl
  rw [hvalue]
  exact ends_pure

end Tokens

end Sqlite.Codec

end Nadi
