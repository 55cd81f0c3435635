import Nadi.Effect.Role
import Nadi.Model.Bounds
import Nadi.Model.Frame
import Nadi.Model.Sample
import Mathlib.Data.Rat.Floor

/-!
# The command inbox under concurrency

Any number of threads on any hosts enqueue, claim and consume commands over one
store. Every command is claimed at most once and, because a consumer only
announces and completes what its own claim returned, executed at most once.

Two invariants carry the argument. `InboxInv` relates the inbox to the batches
that claims have returned so far; it holds whatever the threads do, as long as
only claimed commands are completed. `ReceivedInv` relates the batches to the
`command.received` events, through what each thread still holds unannounced
(`inboxRole`).
-/

namespace Nadi

open Effect

variable {T ι : Type}

/-! ## What the trace says -/

/-- A batch: the session a claim was for, and the rows it returned. -/
abbrev Batch (T : Type) : Type := String × List (CommandRow T)

/-- The batch a call returned. -/
def batchOf (c : Call T) (r : Except PyErr c.Ret) : Option (Batch T) :=
  match c, r with
  | .claimPendingCommands sid _, .ok rows => some (sid, rows)
  | _, _ => none

/-- The batches returned so far, in order. -/
def batches (tr : Trace ι T) : List (Batch T) := tr.filterMap fun e => batchOf e.call e.result

/-- The ids in a list of batches. -/
def batchIds (bs : List (Batch T)) : List Nat := bs.flatMap fun b => b.2.map CommandRow.id

theorem batchIds_append (bs : List (Batch T)) (b : Batch T) :
    batchIds (bs ++ [b]) = batchIds bs ++ b.2.map CommandRow.id := by
  unfold batchIds
  rw [List.flatMap_append, List.flatMap_singleton]

theorem mem_batchIds {bs : List (Batch T)} {id : Nat} :
    id ∈ batchIds bs ↔ ∃ b ∈ bs, ∃ r ∈ b.2, r.id = id := by
  simp only [batchIds, List.mem_flatMap, List.mem_map]

theorem batches_after (h : Handler (Call T) Call.Ret PyErr (World T)) (w : Moment ι T) (i : ι)
    (c : Call T) :
    batches (w.after h i c).trace =
      batches w.trace ++ (batchOf c (h c w.state).1).toList := by
  unfold batches
  rw [Point.after_trace, List.filterMap_append, List.filterMap_cons, List.filterMap_nil]
  cases batchOf c (h c w.state).1 <;> rfl

/-- The command a `command.received` payload is about. -/
def commandIdOf (payload : Json) : Option Nat :=
  match payload.get "command_id" .null with
  | .ok (.int n) => some n.toNat
  | _ => none

/-- The commands announced in the log, in order. -/
def receivedIds (st : Store T) : List Nat :=
  st.events.rows.filterMap fun e =>
    if e.eventType = "command.received" then commandIdOf e.payload else none

theorem commandIdOf_received (cmd : CommandRow T) :
    commandIdOf (Celld.received cmd).orEmpty = some cmd.id := rfl

/-! ## What a consumer may do -/

/-- What a thread has claimed so far, and what of it it has not yet announced. -/
structure Held where
  held : List Nat
  unannounced : List Nat

/-- Announcing a command takes it off the list. -/
def Held.announce (q : Held) (payload : Json) : Held :=
  match commandIdOf payload.orEmpty with
  | some id => ⟨q.held, q.unannounced.erase id⟩
  | none => q

/-- A thread announces and completes only what its own claims returned, and
announces it once. -/
def inboxRole : Role Held (Call T) Call.Ret PyErr where
  init := ⟨[], []⟩
  may q
    | .appendEvent _ eventType payload _ => eventType = "command.received" →
        ∃ id ∈ q.unannounced, commandIdOf payload.orEmpty = some id
    | .completeCommand id => id ∈ q.held
    | _ => True
  next q
    | .claimPendingCommands _ _, .ok rows =>
        ⟨q.held ++ rows.map CommandRow.id, q.unannounced ++ rows.map CommandRow.id⟩
    | .appendEvent _ eventType payload _, _ =>
        if eventType = "command.received" then q.announce payload else q
    | _, _ => q

section Consumers

variable [Field T] [LinearOrder T] [IsStrictOrderedRing T] [FloorRing T] (py : Py)
  {h : Handler (Call T) Call.Ret PyErr (World T)} {q : Held}

omit [Field T] [LinearOrder T] [IsStrictOrderedRing T] [FloorRing T] in
/-- Appending an event through a `celld` moves the local state as its store step does. -/
theorem plays_appendEvent (c : Celld) (sid eventType : String) (payload : Json)
    (hmay : inboxRole.may q (.appendEvent (T := T) sid eventType payload.orEmpty none)) :
    inboxRole.Plays h (fun q' _ => q' = if eventType = "command.received" then
      q.announce payload else q) (c.appendEvent (T := T) sid eventType payload) q := by
  have hann : q.announce payload.orEmpty = q.announce payload := by
    unfold Held.announce
    rw [Json.orEmpty_orEmpty]
  refine Role.Plays.perform_bind hmay (fun s ev _ => ?_) fun _ _ _ => ?_
  · show inboxRole.Plays h _ _ (if eventType = "command.received" then
      q.announce payload.orEmpty else q)
    rw [hann]
    refine Role.Plays.perform_bind trivial (fun s found _ => ?_) fun _ _ _ => rfl
    cases found with
    | none => exact rfl
    | some cell => exact Role.Plays.perform_bind trivial (fun _ _ _ => rfl) fun _ _ _ => rfl
  · show (if eventType = "command.received" then q.announce payload.orEmpty else q) = _
    rw [hann]

omit [Field T] [LinearOrder T] [IsStrictOrderedRing T] [FloorRing T] in
/-- Appending outputs concerns no command. -/
theorem plays_appendEvents (c : Celld) (sid : String) {outs : List (String × Json)}
    (houts : ∀ o ∈ outs, isOutput o.1) :
    inboxRole.Plays h (fun q' _ => q' = q) (c.appendEvents (T := T) sid outs) q := by
  induction outs with
  | nil => exact rfl
  | cons o rest ih =>
    obtain ⟨eventType, payload⟩ := o
    have hne : eventType ≠ "command.received" := (houts _ List.mem_cons_self).ne_received
    have hrest := ih fun o ho => houts o (List.mem_cons_of_mem _ ho)
    refine Role.Plays.bind (plays_appendEvent c sid eventType payload fun h => absurd h hne)
      (fun q' ev hq => ?_) fun q' e hq => ?_
    · rw [if_neg hne] at hq
      subst hq
      exact Role.Plays.bind hrest (fun _ _ hq => hq) fun _ _ hq => hq
    · rwa [if_neg hne] at hq

/-- Handling a command concerns no other command. -/
theorem plays_handle (s : Sandboxd) (sid token commandType : String) (payload : Json) :
    inboxRole.Plays h (fun q' r => q' = q ∧ ∀ outs, r = .ok outs → ∀ o ∈ outs, isOutput o.1)
      (Runtime.handle (T := T) py s sid token commandType payload) q := by
  have hwithin := (Runtime.handle_within (T := T) py s sid token commandType payload).mono
    (fun _ hc => hc) fun _ houts o ho => (houts o ho).1
  refine Role.Plays.of_within hwithin ?_ ?_
  · intro c hc
    cases c <;> trivial
  · intro c r hc
    cases c <;> first | rfl | cases hc

/-- The loop over a batch announces each command once. -/
theorem plays_consumeLoop (c : Celld) (sid token : String) {cmds : List (CommandRow T)}
    {q : Held} (hnodup : (cmds.map CommandRow.id).Nodup)
    (hheld : ∀ cmd ∈ cmds, cmd.id ∈ q.held ∧ cmd.id ∈ q.unannounced) :
    inboxRole.Plays h (fun _ _ => True) (c.consumeLoop py sid token cmds) q := by
  induction cmds generalizing q with
  | nil => trivial
  | cons cmd rest ih =>
    rw [List.map_cons, List.nodup_cons] at hnodup
    obtain ⟨hcmd, hun⟩ := hheld cmd List.mem_cons_self
    refine Role.Plays.bind (plays_appendEvent c sid "command.received" _
      fun _ => ⟨cmd.id, hun, commandIdOf_received cmd⟩) (fun q₁ ev hq => ?_) fun _ _ _ => trivial
    rw [if_pos rfl] at hq
    subst hq
    refine Role.Plays.bind (plays_handle py c.sandboxd sid token _ _)
      (fun q₂ outs hq => ?_) fun _ _ _ => trivial
    obtain ⟨rfl, houts⟩ := hq
    refine Role.Plays.bind (plays_appendEvents c sid (houts outs rfl))
      (fun q₃ evs hq => ?_) fun _ _ _ => trivial
    subst hq
    refine Role.Plays.perform_bind hcmd (fun _ _ _ => ?_) fun _ _ _ => trivial
    refine Role.Plays.bind (ih hnodup.2 fun d hd => ?_) (fun _ _ _ => trivial)
      fun _ _ _ => trivial
    obtain ⟨hdh, hdu⟩ := hheld d (List.mem_cons_of_mem _ hd)
    -- `d` is another command than the announced one, so it is still on the list
    have hne : d.id ≠ cmd.id := fun heq => hnodup.1 (heq ▸ List.mem_map_of_mem hd)
    exact ⟨hdh, (List.mem_erase_of_ne hne).mpr hdu⟩

/-- Finding or rebuilding a cell concerns no command. -/
theorem plays_liveCell (c : Celld) (sid : String) :
    inboxRole.Plays h (fun q' _ => q' = q) (c.liveCell (T := T) py sid) q := by
  refine (Role.Plays.of_within (c.liveCell_within py sid) ?_ ?_).weaken fun _ _ hq => hq.1
  · intro d hd
    cases d <;> trivial
  · intro d r hd
    cases d <;> first | rfl | cases hd

omit [IsStrictOrderedRing T] [FloorRing T] in
/-- A batch has no command twice. -/
theorem claim_nodup {w : World T} {sid claimedBy : String} {rows : List (CommandRow T)}
    (hr : (exec py (.claimPendingCommands sid claimedBy) w).1 = .ok rows) :
    (rows.map CommandRow.id).Nodup := by
  cases hr
  exact List.pairwise_map.mpr
    (Store.claimPendingCommands_sorted.imp fun hlt => Nat.ne_of_lt hlt)

/-- A consumer keeps to its role. -/
theorem plays_consumeCommands (c : Celld) (sid : String) :
    inboxRole.Plays (exec py) (fun _ _ => True) (c.consumeCommands (T := T) py sid) q := by
  refine Role.Plays.bind (plays_liveCell py c sid) (fun q₁ cell hq => ?_) fun _ _ _ => trivial
  refine Role.Plays.perform_bind trivial (fun w rows hr => ?_) fun _ _ _ => trivial
  refine plays_consumeLoop py c sid cell.jwt (claim_nodup py hr) fun cmd hcmd => ?_
  have hid : cmd.id ∈ rows.map CommandRow.id := List.mem_map_of_mem hcmd
  exact ⟨List.mem_append_right _ hid, List.mem_append_right _ hid⟩

end Consumers

/-! ## Inbox and batches -/

/-- How the inbox and the batches returned so far fit together. -/
structure InboxInv (py : Py) (w : Moment ι T) : Prop where
  /-- Claim tokens in use are tokens drawn. -/
  tokens : ∀ c ∈ w.state.store.commandInbox, ∀ tok, c.claimToken = some tok →
    ∃ k < w.state.drawn .claimToken, tok = py.uuid4 .claimToken k
  /-- The pending commands are those in no batch. -/
  pending_iff : ∀ c ∈ w.state.store.commandInbox,
    c.status = .pending ↔ c.id ∉ batchIds (batches w.trace)
  /-- A batch holds commands of its own session. -/
  owned : ∀ b ∈ batches w.trace, ∀ r ∈ b.2,
    ∃ c ∈ w.state.store.commandInbox, c.id = r.id ∧ c.sessionId = b.1
  nodup : (batchIds (batches w.trace)).Nodup
  sorted : ∀ b ∈ batches w.trace, b.2.Pairwise fun x y => x.id < y.id
  ordered : (batches w.trace).Pairwise fun a b =>
    a.1 = b.1 → ∀ x ∈ a.2, ∀ y ∈ b.2, x.id < y.id
  /-- In one session, claimed commands are older than pending ones. -/
  older : ∀ c ∈ w.state.store.commandInbox, ∀ d ∈ w.state.store.commandInbox,
    c.sessionId = d.sessionId → c.status ≠ .pending → d.status = .pending → c.id < d.id
  bounded : ∀ sid, (w.state.store.pendingOf sid).length ≤ Store.maxPendingCommands
  /-- An accepted command is in the inbox. -/
  accepted : ∀ i sid commandType payload actor n,
    (⟨i, .enqueueCommand sid commandType payload actor, .ok n⟩ :
      Entry ι (Call T) Call.Ret PyErr) ∈ w.trace →
    ∃ c ∈ w.state.store.commandInbox, c.id = n ∧ c.sessionId = sid

/-! ### The rows after a claim and after a completion -/

section Rows

variable {st st' : Store T} {t : T} {token sid claimedBy : String} {id : Nat}

/-- Every command stays in the inbox, with its session. -/
def Store.KeepsCommands (st st' : Store T) : Prop :=
  ∀ c ∈ st.commandInbox, ∃ c' ∈ st'.commandInbox, c'.id = c.id ∧ c'.sessionId = c.sessionId

theorem Store.KeepsCommands.row (h : st.KeepsCommands st') :
    (∃ c ∈ st.commandInbox, c.id = id ∧ c.sessionId = sid) →
      ∃ c ∈ st'.commandInbox, c.id = id ∧ c.sessionId = sid := by
  rintro ⟨c, hc, rfl, rfl⟩
  exact h c hc

theorem Store.keepsCommands_claim :
    st.KeepsCommands (st.claimPendingCommands t token sid claimedBy).2 := by
  intro c hc
  refine ⟨_, List.mem_map_of_mem hc, ?_⟩
  split <;> exact ⟨rfl, rfl⟩

theorem Store.keepsCommands_complete : st.KeepsCommands (st.completeCommand t id) := by
  intro c hc
  refine ⟨_, List.mem_map_of_mem hc, ?_⟩
  split <;> exact ⟨rfl, rfl⟩

/-- A row after a claim is a pending one of the session, now claimed, or one that is as it was. -/
theorem Store.mem_claim {c' : CommandRow T}
    (hc' : c' ∈ (st.claimPendingCommands t token sid claimedBy).2.commandInbox) :
    ∃ c ∈ st.commandInbox, c'.id = c.id ∧ c'.sessionId = c.sessionId ∧
      ((c ∈ st.pendingOf sid ∧ c'.status = .claimed ∧ c'.claimToken = some token) ∨
        (c ∉ st.pendingOf sid ∧ c' = c)) := by
  obtain ⟨c, hc, rfl⟩ := List.mem_map.mp hc'
  refine ⟨c, hc, ?_⟩
  have hmem : c ∈ st.pendingOf sid ↔ (c.sessionId == sid && c.status == .pending) = true := by
    rw [Store.mem_pendingOf, Bool.and_eq_true, beq_iff_eq, beq_iff_eq]
    exact and_iff_right hc
  by_cases hp : (c.sessionId == sid && c.status == .pending) = true
  · rw [if_pos hp]
    exact ⟨rfl, rfl, .inl ⟨hmem.mpr hp, rfl, rfl⟩⟩
  · rw [if_neg hp]
    exact ⟨rfl, rfl, .inr ⟨fun hin => hp (hmem.mp hin), rfl⟩⟩

/-- A row after a completion differs at most by being completed. -/
theorem Store.mem_complete {c' : CommandRow T} (hc' : c' ∈ (st.completeCommand t id).commandInbox) :
    ∃ c ∈ st.commandInbox, c'.id = c.id ∧ c'.sessionId = c.sessionId ∧
      c'.claimToken = c.claimToken ∧ ((c.id = id ∧ c'.status ≠ .pending) ∨ c' = c) := by
  obtain ⟨c, hc, rfl⟩ := List.mem_map.mp hc'
  refine ⟨c, hc, ?_⟩
  by_cases hcid : (c.id == id) = true
  · rw [if_pos hcid]
    exact ⟨rfl, rfl, rfl, .inl ⟨beq_iff_eq.mp hcid, nofun⟩⟩
  · rw [if_neg hcid]
    exact ⟨rfl, rfl, rfl, .inr rfl⟩

end Rows

namespace InboxInv

variable {py : Py} {w w' : Moment ι T}

/-- The invariant only depends on the inbox, the batches, the tokens drawn and
the commands accepted. -/
theorem frame (h : InboxInv py w)
    (hin : w'.state.store.commandInbox = w.state.store.commandInbox)
    (hb : batches w'.trace = batches w.trace)
    (hd : w.state.drawn .claimToken ≤ w'.state.drawn .claimToken)
    (hacc : ∀ i sid commandType payload actor n,
      (⟨i, .enqueueCommand sid commandType payload actor, .ok n⟩ :
        Entry ι (Call T) Call.Ret PyErr) ∈ w'.trace →
      (⟨i, .enqueueCommand sid commandType payload actor, .ok n⟩ :
        Entry ι (Call T) Call.Ret PyErr) ∈ w.trace) : InboxInv py w' where
  tokens := by
    intro c hc tok htok
    rw [hin] at hc
    obtain ⟨k, hk, heq⟩ := h.tokens c hc tok htok
    exact ⟨k, Nat.lt_of_lt_of_le hk hd, heq⟩
  pending_iff := by
    rw [hin, hb]
    exact h.pending_iff
  owned := by
    rw [hin, hb]
    exact h.owned
  nodup := hb ▸ h.nodup
  sorted := hb ▸ h.sorted
  ordered := hb ▸ h.ordered
  older := by
    rw [hin]
    exact h.older
  bounded := by
    intro sid
    unfold Store.pendingOf
    rw [hin]
    exact h.bounded sid
  accepted := by
    intro i sid commandType payload actor n hmem
    rw [hin]
    exact h.accepted i sid commandType payload actor n (hacc _ _ _ _ _ _ hmem)

/-- A claimed command belongs to a batch of its own session. -/
theorem in_own_batch (h : InboxInv py w) {c : CommandRow T}
    (hc : c ∈ w.state.store.commandInbox) (hst : c.status ≠ .pending) :
    ∃ b ∈ batches w.trace, b.1 = c.sessionId ∧ ∃ r ∈ b.2, r.id = c.id := by
  have hmem : c.id ∈ batchIds (batches w.trace) := by
    by_contra hn
    exact hst ((h.pending_iff c hc).mpr hn)
  obtain ⟨b, hb, r, hr, hid⟩ := mem_batchIds.mp hmem
  obtain ⟨d, hd, hdid, hds⟩ := h.owned b hb r hr
  have hdc : d = c := Data.Serial.eq_of_id hd hc (hdid.trans hid)
  exact ⟨b, hb, hdc ▸ hds.symm, r, hr, hid⟩

/-- Every id in a batch is the id of a row, hence not above the counter. -/
theorem batchIds_le (h : InboxInv py w) {id : Nat} (hid : id ∈ batchIds (batches w.trace)) :
    id ≤ w.state.store.commandInbox.last := by
  obtain ⟨b, hb, r, hr, rfl⟩ := mem_batchIds.mp hid
  obtain ⟨c, hc, hcid, -⟩ := h.owned b hb r hr
  rw [← hcid]
  exact Data.Serial.id_le_last hc

variable [Field T] [LinearOrder T] {i : ι}

/-- What was accepted stays accepted, while nothing else is enqueued. -/
theorem accepted_after (h : InboxInv py w) {c : Call T}
    (hkeeps : w.state.store.KeepsCommands (w.after (exec py) i c).state.store)
    (hc : ∀ sid commandType payload actor, c ≠ .enqueueCommand sid commandType payload actor)
    (j : ι) (sid commandType : String) (payload : Json) (actor : Option String) (n : Nat)
    (hmem : (⟨j, .enqueueCommand sid commandType payload actor, .ok n⟩ :
      Entry ι (Call T) Call.Ret PyErr) ∈ (w.after (exec py) i c).trace) :
    ∃ c' ∈ (w.after (exec py) i c).state.store.commandInbox, c'.id = n ∧ c'.sessionId = sid := by
  rcases Point.mem_after hmem with hold | ⟨-, heq, -⟩
  · exact hkeeps.row (h.accepted _ _ _ _ _ _ hold)
  · exact absurd heq.symm (hc _ _ _ _)

/-- A call that does not write the inbox. -/
theorem call_other (h : InboxInv py w) {c : Call T} (hc : c.writes .inbox = false) :
    InboxInv py (w.after (exec py) i c) := by
  refine h.frame (exec_inbox py w.state hc) ?_ (exec_drawn_le py w.state _) ?_
  · rw [batches_after]
    cases c <;> first | exact List.append_nil _ | cases hc
  · intro j sid commandType payload actor n hmem
    rcases Point.mem_after hmem with hold | ⟨-, rfl, -⟩
    · exact hold
    · cases hc

/-- A command that is refused changes nothing. -/
theorem call_refused (h : InboxInv py w) {sid commandType : String} {payload : Json}
    {actor : Option String} {e : PyErr}
    (hr : (exec py (.enqueueCommand sid commandType payload actor) w.state).1 = .error e) :
    InboxInv py (w.after (exec py) i (.enqueueCommand sid commandType payload actor)) := by
  have hstate : (w.after (exec py) i
      (.enqueueCommand sid commandType payload actor)).state = w.state := (World.commit_error hr).2
  refine h.frame (by rw [hstate]) ?_ (by rw [hstate]) ?_
  · rw [batches_after]
    exact List.append_nil _
  · intro j sid' commandType' payload' actor' n hmem
    rcases Point.mem_after hmem with hold | ⟨-, heq, hres⟩
    · exact hold
    · cases heq
      rw [hr] at hres
      cases hres

/-- Enqueuing adds a pending command with a new id. -/
theorem call_enqueue (h : InboxInv py w) {sid commandType : String} {payload : Json}
    {actor : Option String} :
    InboxInv py (w.after (exec py) i (.enqueueCommand sid commandType payload actor)) := by
  cases hr : (exec py (.enqueueCommand sid commandType payload actor) w.state).1 with
  | error e => exact h.call_refused hr
  | ok n =>
    obtain ⟨st, hok, hw⟩ := World.commit_ok hr
    obtain ⟨hn, hroom, -, -, hst⟩ := Store.enqueueCommand_ok hok
    have hstate : (w.after (exec py) i
        (.enqueueCommand sid commandType payload actor)).state = { w.state with store := st } := hw
    have hb : batches (w.after (exec py) i
        (.enqueueCommand sid commandType payload actor)).trace = batches w.trace := by
      rw [batches_after]
      exact List.append_nil _
    have hmem : ∀ {c : CommandRow T}, c ∈ st.commandInbox ↔ c ∈ w.state.store.commandInbox ∨
        c = Store.newCommand w.state.clock sid commandType payload actor
          (w.state.store.commandInbox.last + 1) := by
      intro c
      rw [hst]
      exact @Data.Serial.mem_push _ _ _ _ (fun _ => rfl) _
    have hkeeps : w.state.store.KeepsCommands st := fun c hc => ⟨c, hmem.mpr (.inl hc), rfl, rfl⟩
    refine
      { tokens := ?_, pending_iff := ?_, owned := ?_, nodup := hb ▸ h.nodup,
        sorted := hb ▸ h.sorted, ordered := hb ▸ h.ordered, older := ?_, bounded := ?_,
        accepted := ?_ }
    all_goals rw [hstate]
    · intro c hc tok htok
      rcases hmem.mp hc with hc | rfl
      · exact h.tokens c hc tok htok
      · cases htok
    · intro c hc
      rw [hb]
      rcases hmem.mp hc with hc | rfl
      · exact h.pending_iff c hc
      -- the id of the new one is above every id in a batch
      · refine iff_of_true rfl fun hid => ?_
        have hle := h.batchIds_le hid
        exact absurd hle (Nat.not_succ_le_self _)
    · rw [hb]
      exact fun b hbm r hr' => hkeeps.row (h.owned b hbm r hr')
    · intro c hc d hd hs hcs hds
      rcases hmem.mp hc with hc | rfl
      · rcases hmem.mp hd with hd | rfl
        · exact h.older c hc d hd hs hcs hds
        · exact Nat.lt_succ_of_le (Data.Serial.id_le_last hc)
      · exact absurd rfl hcs
    · intro s
      have hlen : (st.pendingOf s).length =
          (w.state.store.pendingOf s).length + if sid = s then 1 else 0 := by
        rw [hst]
        show (List.filter _ (w.state.store.commandInbox.rows ++ [_])).length = _
        rw [List.filter_append, List.length_append]
        by_cases hs : sid = s
        · simp [Store.newCommand, hs, Store.pendingOf, Data.Serial.select]
        · simp [Store.newCommand, hs, Store.pendingOf, Data.Serial.select]
      have hbound := h.bounded s
      show (st.pendingOf s).length ≤ _
      rw [hlen]
      by_cases hs : sid = s
      · subst hs
        rw [if_pos rfl]
        omega
      · rw [if_neg hs]
        exact hbound
    · intro j sid' commandType' payload' actor' n' hmem'
      rcases Point.mem_after hmem' with hold | ⟨-, heq, hres⟩
      · exact hkeeps.row (h.accepted _ _ _ _ _ _ hold)
      · cases heq
        rw [hr] at hres
        cases hres
        exact ⟨_, hmem.mpr (.inr rfl), hn.symm, rfl⟩

/-- Completing a command that is in a batch. -/
theorem call_complete (h : InboxInv py w) {id : Nat} (hid : id ∈ batchIds (batches w.trace)) :
    InboxInv py (w.after (exec py) i (.completeCommand id)) := by
  have hb : batches (w.after (exec py) i (.completeCommand id)).trace = batches w.trace := by
    rw [batches_after]
    exact List.append_nil _
  -- the command was claimed before, so what is pending stays the same
  have hrow : ∀ c' ∈ (w.after (exec py) i (.completeCommand id)).state.store.commandInbox,
      ∃ c ∈ w.state.store.commandInbox, c'.id = c.id ∧ c'.sessionId = c.sessionId ∧
        c'.claimToken = c.claimToken ∧ (c'.status = .pending ↔ c.status = .pending) := by
    intro c' hc'
    obtain ⟨c, hc, hcid, hcs, htoken, ⟨rfl, hst⟩ | rfl⟩ := Store.mem_complete hc'
    · exact ⟨c, hc, hcid, hcs, htoken, iff_of_false hst fun hp => (h.pending_iff c hc).mp hp hid⟩
    · exact ⟨c', hc, hcid, hcs, htoken, Iff.rfl⟩
  have hkeeps : w.state.store.KeepsCommands
      (w.after (exec py) i (.completeCommand id)).state.store := Store.keepsCommands_complete
  refine
    { tokens := ?_, pending_iff := ?_, owned := ?_, nodup := hb ▸ h.nodup, sorted := hb ▸ h.sorted,
      ordered := hb ▸ h.ordered, older := ?_, bounded := ?_,
      accepted := h.accepted_after hkeeps nofun }
  · intro c' hc' tok htok
    obtain ⟨c, hc, -, -, htc, -⟩ := hrow c' hc'
    exact h.tokens c hc tok (htc ▸ htok)
  · intro c' hc'
    obtain ⟨c, hc, hcid, -, -, hst⟩ := hrow c' hc'
    rw [hb, hst, hcid]
    exact h.pending_iff c hc
  · rw [hb]
    exact fun b hbm r hr => hkeeps.row (h.owned b hbm r hr)
  · intro c' hc' d' hd' hs hcs hds
    obtain ⟨c, hc, hcid, hcse, -, hcst⟩ := hrow c' hc'
    obtain ⟨d, hd, hdid, hdse, -, hdst⟩ := hrow d' hd'
    rw [hcid, hdid]
    exact h.older c hc d hd (hcse ▸ hdse ▸ hs) (fun hp => hcs (hcst.mpr hp)) (hdst.mp hds)
  · intro sid
    refine Nat.le_trans (Data.Serial.select_update_length_le _ _ _ (by intro _; rfl)
      fun c => ?_) (h.bounded sid)
    exact Bool.and_eq_false_imp.mpr fun _ => rfl

/-! ### Claiming

The batch is what was pending, it is disjoint from every earlier batch, and it is younger than
the earlier batches of its session.
-/

section Claim

variable {sid claimedBy : String}

theorem batches_claim (h : InboxInv py w) :
    batches (w.after (exec py) i (.claimPendingCommands sid claimedBy)).trace =
      batches w.trace ++ [(sid, (w.state.store.pendingOf sid).map
        (Store.claimRow w.state.clock claimedBy (w.state.fresh py .claimToken)))] := by
  have hnew : ∀ c ∈ w.state.store.commandInbox,
      c.claimToken ≠ some (w.state.fresh py .claimToken) := by
    intro c hc htok
    obtain ⟨k, hk, heq⟩ := h.tokens c hc _ htok
    exact absurd (py.uuid4_inj heq).2 (Nat.ne_of_gt hk)
  rw [batches_after]
  show _ ++ [(sid, (w.state.store.claimPendingCommands _ _ sid claimedBy).1)] = _
  rw [Store.claimPendingCommands_rows hnew]

theorem batchIds_claim (h : InboxInv py w) :
    batchIds (batches (w.after (exec py) i (.claimPendingCommands sid claimedBy)).trace) =
      batchIds (batches w.trace) ++ (w.state.store.pendingOf sid).map CommandRow.id := by
  rw [h.batches_claim, batchIds_append, List.map_map]
  rfl

omit [Field T] [LinearOrder T] in
/-- What is pending is in no batch yet. -/
theorem unclaimed (h : InboxInv py w) {c : CommandRow T} (hc : c ∈ w.state.store.pendingOf sid) :
    c.id ∉ batchIds (batches w.trace) := by
  obtain ⟨hmem, -, hst⟩ := Store.mem_pendingOf.mp hc
  exact (h.pending_iff c hmem).mp hst

theorem claim_tokens (h : InboxInv py w) :
    ∀ c ∈ (w.after (exec py) i (.claimPendingCommands sid claimedBy)).state.store.commandInbox,
      ∀ tok, c.claimToken = some tok →
        ∃ k < (w.after (exec py) i (.claimPendingCommands sid claimedBy)).state.drawn .claimToken,
          tok = py.uuid4 .claimToken k := by
  intro c' hc' tok htok
  have hdrawn : (w.after (exec py) i (.claimPendingCommands sid claimedBy)).state.drawn
      .claimToken = w.state.drawn .claimToken + 1 :=
    World.draw_self (w := w.state) .claimToken
  rw [hdrawn]
  obtain ⟨c, hc, -, -, ⟨-, -, hnewtok⟩ | ⟨-, rfl⟩⟩ := Store.mem_claim hc'
  · exact ⟨_, Nat.lt_succ_self _, Option.some.inj (htok.symm.trans hnewtok)⟩
  · obtain ⟨k, hk, heq⟩ := h.tokens _ hc tok htok
    exact ⟨k, Nat.lt_succ_of_lt hk, heq⟩

theorem claim_pending_iff (h : InboxInv py w) :
    ∀ c ∈ (w.after (exec py) i (.claimPendingCommands sid claimedBy)).state.store.commandInbox,
      c.status = .pending ↔
        c.id ∉ batchIds (batches (w.after (exec py) i (.claimPendingCommands sid claimedBy)).trace) := by
  intro c' hc'
  rw [h.batchIds_claim, List.mem_append, not_or]
  obtain ⟨c, hc, hcid, -, ⟨hp, hst, -⟩ | ⟨hn, rfl⟩⟩ := Store.mem_claim hc'
  · rw [hst, hcid]
    exact iff_of_false nofun fun hout => hout.2 (List.mem_map_of_mem hp)
  · have hout : c'.id ∉ (w.state.store.pendingOf sid).map CommandRow.id := by
      intro hin
      obtain ⟨d, hd, hdid⟩ := List.mem_map.mp hin
      have hdc : d = c' := Data.Serial.eq_of_id (Store.mem_pendingOf.mp hd).1 hc hdid
      exact hn (hdc ▸ hd)
    exact (h.pending_iff _ hc).trans (and_iff_left hout).symm

theorem claim_ids_nodup (h : InboxInv py w) :
    (batchIds (batches (w.after (exec py) i (.claimPendingCommands sid claimedBy)).trace)).Nodup := by
  rw [h.batchIds_claim, List.nodup_append]
  refine ⟨h.nodup, ?_, ?_⟩
  · have hsorted := Data.Serial.select_ordered w.state.store.commandInbox
      fun c => c.sessionId == sid && c.status == .pending
    exact List.pairwise_map.mpr (hsorted.imp fun hlt => Nat.ne_of_lt hlt)
  · rintro x hx y hy rfl
    obtain ⟨c, hc, rfl⟩ := List.mem_map.mp hy
    exact h.unclaimed hc hx

theorem claim_ordered (h : InboxInv py w) :
    (batches (w.after (exec py) i (.claimPendingCommands sid claimedBy)).trace).Pairwise
      fun a b => a.1 = b.1 → ∀ x ∈ a.2, ∀ y ∈ b.2, x.id < y.id := by
  rw [h.batches_claim, List.pairwise_append]
  refine ⟨h.ordered, List.pairwise_singleton _ _, ?_⟩
  intro a ha b hbm hab x hx y hy
  rw [List.mem_singleton.mp hbm] at hab hy
  obtain ⟨c, hc, hcid, hcs⟩ := h.owned a ha x hx
  obtain ⟨d, hd, rfl⟩ := List.mem_map.mp hy
  obtain ⟨hdmem, hds, hdp⟩ := Store.mem_pendingOf.mp hd
  -- `x` has been claimed, and `y` is pending
  have hcp : c.status ≠ .pending := fun hp =>
    (h.pending_iff c hc).mp hp (mem_batchIds.mpr ⟨a, ha, x, hx, hcid.symm⟩)
  rw [← hcid]
  exact h.older c hc d hdmem (hcs.trans (hab.trans hds.symm)) hcp hdp

theorem claim_older (h : InboxInv py w) :
    ∀ c ∈ (w.after (exec py) i (.claimPendingCommands sid claimedBy)).state.store.commandInbox,
      ∀ d ∈ (w.after (exec py) i (.claimPendingCommands sid claimedBy)).state.store.commandInbox,
        c.sessionId = d.sessionId → c.status ≠ .pending → d.status = .pending → c.id < d.id := by
  intro c' hc' d' hd' hs hcs hds
  obtain ⟨d, hd, -, -, ⟨-, hdc, -⟩ | ⟨hdn, rfl⟩⟩ := Store.mem_claim hd'
  · rw [hdc] at hds
    cases hds
  · have hdsid : d'.sessionId ≠ sid := fun heq => hdn (Store.mem_pendingOf.mpr ⟨hd, heq, hds⟩)
    obtain ⟨c, hc, -, hcse, ⟨hcp, -, -⟩ | ⟨-, rfl⟩⟩ := Store.mem_claim hc'
    · exact absurd (hs.symm.trans (hcse.trans (Store.mem_pendingOf.mp hcp).2.1)) hdsid
    · exact h.older _ hc _ hd hs hcs hds

theorem call_claim (h : InboxInv py w) :
    InboxInv py (w.after (exec py) i (.claimPendingCommands sid claimedBy)) := by
  have hkeeps : w.state.store.KeepsCommands
      (w.after (exec py) i (.claimPendingCommands sid claimedBy)).state.store :=
    Store.keepsCommands_claim
  refine
    { tokens := h.claim_tokens, pending_iff := h.claim_pending_iff, owned := ?_,
      nodup := h.claim_ids_nodup, sorted := ?_, ordered := h.claim_ordered, older := h.claim_older,
      bounded := ?_, accepted := h.accepted_after hkeeps nofun }
  · rw [h.batches_claim]
    intro b hbm r hr
    rcases List.mem_append.mp hbm with hbm | hbm
    · exact hkeeps.row (h.owned b hbm r hr)
    · rw [List.mem_singleton.mp hbm] at hr ⊢
      obtain ⟨c, hc, rfl⟩ := List.mem_map.mp hr
      obtain ⟨hmem, hses, -⟩ := Store.mem_pendingOf.mp hc
      exact hkeeps.row ⟨c, hmem, rfl, hses⟩
  · rw [h.batches_claim]
    intro b hbm
    rcases List.mem_append.mp hbm with hbm | hbm
    · exact h.sorted b hbm
    · rw [List.mem_singleton.mp hbm]
      exact List.pairwise_map.mpr (Data.Serial.select_ordered _ _)
  · intro s
    refine Nat.le_trans (Data.Serial.select_update_length_le _ _ _ (by intro _; rfl)
      fun c => ?_) (h.bounded s)
    exact Bool.and_eq_false_imp.mpr fun _ => rfl

end Claim

end InboxInv

/-! ## Batches and announcements -/

/-- What each thread holds after a trace. -/
def heldAt [DecidableEq ι] (tr : Trace ι T) : ι → Held :=
  Role.localAt (fun _ => inboxRole) tr

theorem heldAt_after [DecidableEq ι] (h : Handler (Call T) Call.Ret PyErr (World T))
    (w : Moment ι T) (i : ι) (c : Call T) :
    heldAt (w.after h i c).trace = Function.update (heldAt w.trace) i
      (inboxRole.next (heldAt w.trace i) c (h c w.state).1) :=
  Role.localAt_after _ h w i c

/-- How the batches, what threads hold of them and the announced commands fit
together. -/
structure ReceivedInv [DecidableEq ι] (w : Moment ι T) : Prop where
  held : ∀ i, ∀ id ∈ (heldAt w.trace i).held, id ∈ batchIds (batches w.trace)
  unannounced : ∀ i, ∀ id ∈ (heldAt w.trace i).unannounced, id ∈ batchIds (batches w.trace)
  nodup : ∀ i, (heldAt w.trace i).unannounced.Nodup
  disjoint : ∀ i j, i ≠ j →
    ∀ id ∈ (heldAt w.trace i).unannounced, id ∉ (heldAt w.trace j).unannounced
  announced : ∀ id ∈ receivedIds w.state.store, id ∈ batchIds (batches w.trace)
  /-- What a thread has not announced is not in the log. -/
  fresh : ∀ i, ∀ id ∈ (heldAt w.trace i).unannounced, id ∉ receivedIds w.state.store
  once : (receivedIds w.state.store).Nodup

theorem receivedIds_append {st st' : Store T} {t : T} {sid eventType : String} {payload : Json}
    {actor : Option String} {ev : Event}
    (h : st.appendEvent t sid eventType payload actor = .ok (ev, st')) :
    receivedIds st' = receivedIds st ++
      (if eventType = "command.received" then commandIdOf payload.orEmpty else none).toList := by
  obtain ⟨-, -, rfl⟩ := Store.appendEvent_ok h
  show List.filterMap _ (st.events.rows ++ [_]) = _
  rw [List.filterMap_append, List.filterMap_cons, List.filterMap_nil]
  by_cases ht : eventType = "command.received"
  · rw [if_pos ht]
    simp only [Store.newEvent, ht, if_true]
    cases commandIdOf payload.orEmpty <;> rfl
  · rw [if_neg ht]
    simp only [Store.newEvent, ht, if_false]
    rfl

namespace ReceivedInv

variable [DecidableEq ι] {w w' : Moment ι T}

theorem frame (h : ReceivedInv w) (hq : heldAt w'.trace = heldAt w.trace)
    (hb : batches w'.trace = batches w.trace)
    (hr : receivedIds w'.state.store = receivedIds w.state.store) : ReceivedInv w' where
  held := by
    rw [hq, hb]
    exact h.held
  unannounced := by
    rw [hq, hb]
    exact h.unannounced
  nodup := hq ▸ h.nodup
  disjoint := hq ▸ h.disjoint
  announced := by
    rw [hr, hb]
    exact h.announced
  fresh := by
    rw [hq, hr]
    exact h.fresh
  once := hr ▸ h.once

variable [Field T] [LinearOrder T] {py : Py} {i : ι}

/-- A call that neither claims nor appends. -/
theorem call_other (h : ReceivedInv w) {c : Call T} (hc : c.writes .events = false)
    (hq : ∀ q r, inboxRole.next q c r = q) (hb : ∀ r, batchOf c r = none) :
    ReceivedInv (w.after (exec py) i c) := by
  refine h.frame ?_ ?_ ?_
  · rw [heldAt_after, hq, Function.update_eq_self]
  · rw [batches_after, hb]
    exact List.append_nil _
  · unfold receivedIds
    rw [Point.after_state, exec_events py w.state hc]

/-- Appending an event that announces nothing. -/
theorem call_append (h : ReceivedInv w) {sid eventType : String} {payload : Json}
    {actor : Option String} (hne : eventType ≠ "command.received") :
    ReceivedInv (w.after (exec py) i (.appendEvent sid eventType payload actor)) := by
  refine h.frame ?_ ?_ ?_
  · rw [heldAt_after]
    show Function.update _ i (if eventType = "command.received" then _ else _) = _
    rw [if_neg hne, Function.update_eq_self]
  · rw [batches_after]
    exact List.append_nil _
  · refine World.commit_store (P := fun st => receivedIds st = receivedIds w.state.store) rfl ?_
    intro ev st hok
    rw [receivedIds_append hok, if_neg hne]
    exact List.append_nil _

/-! ### Announcing

The command leaves the list of its thread and enters the log, where it was not.
-/

section Announce

variable {sid : String} {payload : Json} {actor : Option String} {id : Nat}

omit [Field T] [LinearOrder T] in
theorem heldAt_announce (hpay : commandIdOf payload.orEmpty = some id) {r : Except PyErr Event} :
    (inboxRole (T := T)).next (heldAt w.trace i)
        (.appendEvent sid "command.received" payload actor) r =
      ⟨(heldAt w.trace i).held, (heldAt w.trace i).unannounced.erase id⟩ := by
  show (heldAt w.trace i).announce payload = _
  unfold Held.announce
  rw [hpay]

theorem held_announce (hpay : commandIdOf payload.orEmpty = some id) (j : ι) :
    (heldAt (w.after (exec py) i
      (.appendEvent sid "command.received" payload actor)).trace j).held =
        (heldAt w.trace j).held := by
  rw [heldAt_after, heldAt_announce hpay]
  by_cases hj : j = i
  · subst hj
    rw [Function.update_self]
  · rw [Function.update_of_ne hj]

variable (py sid actor) in
/-- What a thread still holds unannounced it held before, and it is another command. -/
theorem unannounced_announce (h : ReceivedInv w) (hid : id ∈ (heldAt w.trace i).unannounced)
    (hpay : commandIdOf payload.orEmpty = some id) (j : ι) :
    (heldAt (w.after (exec py) i
      (.appendEvent sid "command.received" payload actor)).trace j).unannounced.Sublist
        (heldAt w.trace j).unannounced ∧
    id ∉ (heldAt (w.after (exec py) i
      (.appendEvent sid "command.received" payload actor)).trace j).unannounced := by
  rw [heldAt_after, heldAt_announce hpay]
  by_cases hj : j = i
  · subst hj
    rw [Function.update_self]
    exact ⟨List.erase_sublist, (h.nodup j).not_mem_erase⟩
  · rw [Function.update_of_ne hj]
    exact ⟨List.Sublist.refl _, h.disjoint i j (Ne.symm hj) id hid⟩

variable (py sid actor) in
omit [DecidableEq ι] in
/-- The call announces the command, unless it fails. -/
theorem receivedIds_announce (hpay : commandIdOf payload.orEmpty = some id) :
    receivedIds (w.after (exec py) i
        (.appendEvent sid "command.received" payload actor)).state.store =
      receivedIds w.state.store ∨
    receivedIds (w.after (exec py) i
        (.appendEvent sid "command.received" payload actor)).state.store =
      receivedIds w.state.store ++ [id] := by
  refine World.commit_store (P := fun st => receivedIds st = receivedIds w.state.store ∨
    receivedIds st = receivedIds w.state.store ++ [id]) (.inl rfl) fun ev st hok => .inr ?_
  rw [receivedIds_append hok, if_pos rfl, hpay]
  rfl

theorem call_announce (h : ReceivedInv w) (hid : id ∈ (heldAt w.trace i).unannounced)
    (hpay : commandIdOf payload.orEmpty = some id) :
    ReceivedInv (w.after (exec py) i (.appendEvent sid "command.received" payload actor)) := by
  have hb : batches (w.after (exec py) i
      (.appendEvent sid "command.received" payload actor)).trace = batches w.trace := by
    rw [batches_after]
    exact List.append_nil _
  have hstill := h.unannounced_announce py sid actor hid hpay
  have hr := receivedIds_announce (w := w) (i := i) py sid actor hpay
  -- what has been announced now was announced before, or is the command
  have hnew : ∀ x ∈ receivedIds (w.after (exec py) i
      (.appendEvent sid "command.received" payload actor)).state.store,
      x ∈ receivedIds w.state.store ∨ x = id := by
    intro x hx
    rcases hr with hr | hr
    · exact .inl (hr ▸ hx)
    · rw [hr] at hx
      simpa using hx
  refine
    { held := ?_, unannounced := ?_, nodup := fun j => (h.nodup j).sublist (hstill j).1,
      disjoint := ?_, announced := ?_, fresh := ?_, once := ?_ }
  · intro j x hx
    rw [held_announce hpay] at hx
    rw [hb]
    exact h.held j x hx
  · intro j x hx
    rw [hb]
    exact h.unannounced j x ((hstill j).1.subset hx)
  · exact fun j k hjk x hx hx' =>
      h.disjoint j k hjk x ((hstill j).1.subset hx) ((hstill k).1.subset hx')
  · intro x hx
    rw [hb]
    rcases hnew x hx with hx | rfl
    · exact h.announced x hx
    · exact h.unannounced i x hid
  · intro j x hx hx'
    rcases hnew x hx' with hx' | rfl
    · exact h.fresh j x ((hstill j).1.subset hx) hx'
    · exact (hstill j).2 hx
  · rcases hr with hr | hr
    · rw [hr]
      exact h.once
    · rw [hr, List.nodup_append]
      refine ⟨h.once, List.nodup_singleton _, ?_⟩
      rintro x hx y hy rfl
      rw [List.mem_singleton] at hy
      exact h.fresh i id hid (hy ▸ hx)

end Announce

/-- A claim hands its batch, which is new to everyone, to the claiming thread. -/
theorem call_claim (h : ReceivedInv w) {sid claimedBy : String}
    (hbatch : (batchIds (batches
      (w.after (exec py) i (.claimPendingCommands sid claimedBy)).trace)).Nodup) :
    ReceivedInv (w.after (exec py) i (.claimPendingCommands sid claimedBy)) := by
  let ids := (w.state.store.claimPendingCommands w.state.clock
    (w.state.fresh py .claimToken) sid claimedBy).1.map CommandRow.id
  have hb : batchIds (batches (w.after (exec py) i
      (.claimPendingCommands sid claimedBy)).trace) = batchIds (batches w.trace) ++ ids := by
    rw [batches_after]
    exact batchIds_append _ _
  have hq : heldAt (w.after (exec py) i (.claimPendingCommands sid claimedBy)).trace =
      Function.update (heldAt w.trace) i
        ⟨(heldAt w.trace i).held ++ ids, (heldAt w.trace i).unannounced ++ ids⟩ :=
    heldAt_after _ _ _ _
  have hr : receivedIds (w.after (exec py) i
      (.claimPendingCommands sid claimedBy)).state.store = receivedIds w.state.store := rfl
  rw [hb, List.nodup_append] at hbatch
  obtain ⟨-, hids, hapart⟩ := hbatch
  have hnew : ∀ x ∈ ids, x ∉ batchIds (batches w.trace) := fun x hx hx' => hapart x hx' x hx rfl
  -- what a thread holds it held before, or it is the one that claims
  have hheld : ∀ j, ∀ x ∈ (heldAt (w.after (exec py) i
      (.claimPendingCommands sid claimedBy)).trace j).held, x ∈ (heldAt w.trace j).held ∨ x ∈ ids := by
    intro j x hx
    rw [hq] at hx
    by_cases hj : j = i
    · subst hj
      rw [Function.update_self] at hx
      exact List.mem_append.mp hx
    · rw [Function.update_of_ne hj] at hx
      exact .inl hx
  have hun : ∀ j, ∀ x ∈ (heldAt (w.after (exec py) i
      (.claimPendingCommands sid claimedBy)).trace j).unannounced,
      x ∈ (heldAt w.trace j).unannounced ∨ (j = i ∧ x ∈ ids) := by
    intro j x hx
    rw [hq] at hx
    by_cases hj : j = i
    · subst hj
      rw [Function.update_self] at hx
      exact (List.mem_append.mp hx).imp_right fun hx => ⟨rfl, hx⟩
    · rw [Function.update_of_ne hj] at hx
      exact .inl hx
  refine
    { held := ?_, unannounced := ?_, nodup := ?_, disjoint := ?_, announced := ?_, fresh := ?_,
      once := hr ▸ h.once }
  · intro j x hx
    rw [hb, List.mem_append]
    exact (hheld j x hx).imp_left (h.held j x)
  · intro j x hx
    rw [hb, List.mem_append]
    exact (hun j x hx).imp (h.unannounced j x) And.right
  · intro j
    rw [hq]
    by_cases hj : j = i
    · subst hj
      rw [Function.update_self]
      refine List.nodup_append.mpr ⟨h.nodup j, hids, ?_⟩
      rintro x hx y hy rfl
      exact hnew x hy (h.unannounced j x hx)
    · rw [Function.update_of_ne hj]
      exact h.nodup j
  · intro j k hjk x hx hx'
    rcases hun j x hx with hold | ⟨hj, hin⟩
    · rcases hun k x hx' with hold' | ⟨-, hin'⟩
      · exact h.disjoint j k hjk x hold hold'
      · exact hnew x hin' (h.unannounced j x hold)
    · rcases hun k x hx' with hold' | ⟨hk, -⟩
      · exact hnew x hin (h.unannounced k x hold')
      · exact hjk (hj.trans hk.symm)
  · intro x hx
    rw [hb]
    exact List.mem_append_left _ (h.announced x hx)
  · intro j x hx
    rcases hun j x hx with hx | ⟨-, hx⟩
    · exact h.fresh j x hx
    · exact fun hx' => hnew x hx (h.announced x hx')

end ReceivedInv

/-! ## Threads -/

/-- What a thread can be asked to do with an inbox. -/
inductive InboxOp where
  | enqueue (sessionId commandType : String) (payload : Json) (actor : Option String)
  | claim (sessionId claimedBy : String)
  | consume (celld : Celld) (sessionId : String)

variable [Field T] [LinearOrder T] [IsStrictOrderedRing T] [FloorRing T] (py : Py)

/-- The program of one operation. -/
def InboxOp.code : InboxOp → Code T Unit
  | .enqueue sid commandType payload actor => do
    let _ ← call (.enqueueCommand sid commandType payload actor)
    return ()
  | .claim sid claimedBy => do
    let _ ← call (.claimPendingCommands sid claimedBy)
    return ()
  | .consume celld sid => do
    let _ ← celld.consumeCommands py sid
    return ()

/-- A thread does its operations one after the other; one that raises does not
keep it from the next. -/
def runInboxOps : List InboxOp → Code T Unit
  | [] => return ()
  | op :: rest => do
    (op.code py).tryCatch fun _ => return ()
    runInboxOps rest

theorem plays_inboxOp (op : InboxOp) (q : Held) :
    inboxRole.Plays (exec py) (fun _ _ => True) (op.code (T := T) py) q := by
  cases op with
  | enqueue sid commandType payload actor =>
    exact Role.Plays.perform_bind trivial (fun _ _ _ => trivial) fun _ _ _ => trivial
  | claim sid claimedBy =>
    exact Role.Plays.perform_bind trivial (fun _ _ _ => trivial) fun _ _ _ => trivial
  | consume celld sid =>
    exact Role.Plays.bind (plays_consumeCommands py celld sid) (fun _ _ _ => trivial)
      fun _ _ _ => trivial

theorem plays_runInboxOps (ops : List InboxOp) (q : Held) :
    inboxRole.Plays (exec py) (fun _ _ => True) (runInboxOps (T := T) py ops) q := by
  induction ops generalizing q with
  | nil => trivial
  | cons op rest ih =>
    have hserved : inboxRole.Plays (exec py) (fun _ _ => True)
        ((op.code py : Code T Unit).tryCatch fun _ => .pure ()) q :=
      (plays_inboxOp py op q).tryCatch (fun _ _ _ => trivial) fun _ _ _ => trivial
    exact hserved.bind (fun q' _ _ => ih q') fun _ _ _ => trivial

/-! ## Runs -/

section Runs

omit [Field T] [LinearOrder T] [IsStrictOrderedRing T] [FloorRing T] in
/-- Before the first call of a run with an empty inbox. -/
theorem InboxInv.start {w₀ : World T} (hempty : w₀.store.commandInbox.rows = []) :
    InboxInv py (⟨[], w₀⟩ : Moment ι T) := by
  have hnone : ∀ c, c ∉ w₀.store.commandInbox := by
    intro c hc
    rw [Data.Serial.mem_def, hempty] at hc
    cases hc
  exact
    { tokens := fun c hc => absurd hc (hnone c)
      pending_iff := fun c hc => absurd hc (hnone c)
      owned := fun _ h => nomatch h
      nodup := .nil
      sorted := fun _ h => nomatch h
      ordered := .nil
      older := fun c hc => absurd hc (hnone c)
      bounded := fun sid => by
        show (List.filter _ w₀.store.commandInbox.rows).length ≤ _
        rw [hempty]
        exact Nat.zero_le _
      accepted := fun _ _ _ _ _ _ h => nomatch h }

omit [Field T] [LinearOrder T] [IsStrictOrderedRing T] [FloorRing T] in
/-- Before the first call of a run with nothing announced. -/
theorem ReceivedInv.start [DecidableEq ι] {w₀ : World T} (hlog : receivedIds w₀.store = []) :
    ReceivedInv (⟨[], w₀⟩ : Moment ι T) where
  held := fun _ _ h => nomatch h
  unannounced := fun _ _ h => nomatch h
  nodup := fun _ => .nil
  disjoint := fun _ _ _ _ h => nomatch h
  announced := by
    intro id h
    rw [hlog] at h
    cases h
  fresh := fun _ _ h => nomatch h
  once := by
    rw [hlog]
    exact .nil

variable [DecidableEq ι]

omit [IsStrictOrderedRing T] [FloorRing T] in
/-- One permitted call keeps both invariants. -/
theorem inbox_call {w : Moment ι T} {i : ι} {c : Call T}
    (hinbox : InboxInv py w) (hrec : ReceivedInv w)
    (hmay : inboxRole.may (heldAt w.trace i) c) :
    InboxInv py (w.after (exec py) i c) ∧ ReceivedInv (w.after (exec py) i c) := by
  cases c with
  | enqueueCommand sid commandType payload actor =>
    exact ⟨hinbox.call_enqueue, hrec.call_other rfl (fun _ _ => rfl) fun _ => rfl⟩
  | claimPendingCommands sid claimedBy =>
    have hclaim : InboxInv py (w.after (exec py) i (.claimPendingCommands sid claimedBy)) :=
      hinbox.call_claim
    exact ⟨hclaim, hrec.call_claim hclaim.nodup⟩
  | completeCommand id =>
    exact ⟨hinbox.call_complete (hrec.held i id hmay),
      hrec.call_other rfl (fun _ _ => rfl) fun _ => rfl⟩
  | appendEvent sid eventType payload actor =>
    refine ⟨hinbox.call_other rfl, ?_⟩
    by_cases ht : eventType = "command.received"
    · subst ht
      obtain ⟨id, hid, hpay⟩ := hmay rfl
      exact hrec.call_announce hid hpay
    · exact hrec.call_append ht
  | _ => exact ⟨hinbox.call_other rfl, hrec.call_other rfl (fun _ _ => rfl) fun _ => rfl⟩

/-- **At most once.** Threads enqueue, claim and consume on any sessions, from
an empty inbox. In every state they reach: no command id has been returned
twice by claims; every command is pending and in no batch, or in a batch of its
own session; what was accepted is in the inbox; batches are in the order of
their ids, and batches of one session follow one another in that order; every
command is announced at most once; and no session has more pending commands
than allowed. -/
theorem inbox_at_most_once {w₀ : World T} {ops : ι → List InboxOp} {cfg : Threads ι T Unit}
    (hempty : w₀.store.commandInbox.rows = []) (hlog : receivedIds w₀.store = [])
    (hr : Reach (system ι py) (.start (fun i => runInboxOps py (ops i)) w₀) cfg) :
    (batchIds (batches cfg.point.trace)).Nodup ∧
    (∀ c ∈ cfg.point.state.store.commandInbox,
      (c.status = .pending ∧ c.id ∉ batchIds (batches cfg.point.trace)) ∨
      (c.status ≠ .pending ∧ ∃ b ∈ batches cfg.point.trace, b.1 = c.sessionId ∧
        ∃ r ∈ b.2, r.id = c.id)) ∧
    (∀ i sid commandType payload actor n,
      (⟨i, .enqueueCommand sid commandType payload actor, .ok n⟩ :
        Entry ι (Call T) Call.Ret PyErr) ∈ cfg.point.trace →
      ∃ c ∈ cfg.point.state.store.commandInbox, c.id = n ∧ c.sessionId = sid) ∧
    (∀ b ∈ batches cfg.point.trace, b.2.Pairwise fun x y => x.id < y.id) ∧
    ((batches cfg.point.trace).Pairwise fun a b =>
      a.1 = b.1 → ∀ x ∈ a.2, ∀ y ∈ b.2, x.id < y.id) ∧
    (receivedIds cfg.point.state.store).Nodup ∧
    (∀ sid, (cfg.point.state.store.pendingOf sid).length ≤ Store.maxPendingCommands) := by
  have hplay : Role.AllPlay (fun _ : ι => inboxRole) (exec py) (fun _ _ _ => True)
      (.start (fun i => runInboxOps py (ops i)) w₀) :=
    fun i => plays_runInboxOps py (ops i) _
  have hinv : InboxInv py cfg.point ∧ ReceivedInv cfg.point := by
    refine Role.roles_invariant (P := fun w => InboxInv py w ∧ ReceivedInv w) hplay hr ?_ ?_ ?_
    · exact ⟨.start py hempty, .start hlog⟩
    · rintro w i c ⟨hinbox, hrec⟩ hmay -
      exact inbox_call py hinbox hrec hmay
    · rintro w s ⟨hinbox, hrec⟩ ⟨t, f, -, rfl⟩
      exact ⟨hinbox.frame rfl rfl (Nat.le_refl _) fun _ _ _ _ _ _ h => h,
        hrec.frame rfl rfl rfl⟩
  obtain ⟨hinbox, hrec⟩ := hinv
  refine ⟨hinbox.nodup, fun c hc => ?_, hinbox.accepted, hinbox.sorted, hinbox.ordered,
    hrec.once, hinbox.bounded⟩
  by_cases hst : c.status = .pending
  · exact .inl ⟨hst, (hinbox.pending_iff c hc).mp hst⟩
  · exact .inr ⟨hst, hinbox.in_own_batch hc hst⟩

end Runs

/-- Two consumers race for two commands of session `s`. -/
theorem inbox_at_most_once_sample :
    let celld : Celld := ⟨0, "cell-local", ⟨"k"⟩, ⟨⟨"k"⟩, []⟩⟩
    let ops : Fin 3 → List InboxOp := fun i =>
      if i = 0 then [.enqueue "s" "echo" .empty none, .enqueue "s" "echo" .empty none]
      else [.consume celld "s"]
    let w₀ := (exec Py.sample (.createSession "local" none none .null)
      (World.init (0 : ℚ) Sample.files)).2
    let cfg := execute (exec Py.sample) [0, 0, 1, 2, 1, 2, 1, 2, 1, 2, 1, 2, 1, 2, 1, 2, 1, 2]
      (.start (fun i => runInboxOps Py.sample (ops i)) w₀)
    (batchIds (batches cfg.point.trace)).Nodup := by
  intro celld ops w₀ cfg
  have hr : Reach (system (Fin 3) Py.sample)
      (.start (fun i => runInboxOps Py.sample (ops i)) w₀) cfg :=
    reach_execute (fun _ _ _ => trivial) _ _
  exact (inbox_at_most_once Py.sample rfl rfl hr).1

end Nadi
