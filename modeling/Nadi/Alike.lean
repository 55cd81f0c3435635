import Nadi.Bystanders
import Nadi.Data.Renaming
import Nadi.Effect.SideBySide

/-!
# One session in two runs

Two runs hold the same of a session (`Akin`) where its row, its lease, its log,
its inbox and its live cell are the same in both, up to a renaming of what is
numbered for all sessions together: commands, events and the ids of tokens. The
same call for the session then has the same outcome on both sides and keeps them
akin (`SameStep`), the renaming growing by what the call numbers. They are alike
(`Alike`) where the hosts are the same as well.
-/

namespace Nadi

open Effect

variable {T : Type}

/-! ## Names -/

/-- Which command, event and token id of one run is which of the other. -/
structure Names where
  commands : Data.Renaming ℕ ℕ
  events : Data.Renaming ℕ ℕ
  tokens : Data.Renaming ℕ ℕ

/-- More is named. -/
instance : Preorder Names := Preorder.lift fun names => (names.commands, names.events, names.tokens)

/-- What is named has been numbered. -/
structure Names.Bounded (names : Names) (w w' : World T) : Prop where
  commands : names.commands.Bounded (w.store.commandInbox.last + 1) (w'.store.commandInbox.last + 1)
  events : names.events.Bounded (w.store.events.last + 1) (w'.store.events.last + 1)
  tokens : names.tokens.Bounded (w.drawn .jti) (w'.drawn .jti)

/-- The payload of an event, in which `command.received` gives the id of its command. -/
inductive SamePayload (names : Names) : String → Json → Json → Prop where
  | same (eventType : String) (payload : Json) : SamePayload names eventType payload payload
  | received {id id' : ℕ} (rest : List (String × Json)) (h : names.commands.rel id id') :
    SamePayload names "command.received" (.obj (("command_id", .int id) :: rest))
      (.obj (("command_id", .int id') :: rest))

structure SameEvent (names : Names) (e e' : EventRow T) : Prop where
  id : names.events.rel e.id e'.id
  payload : SamePayload names e.eventType e.payload e'.payload
  rest : e' = { e with id := e'.id, payload := e'.payload }

structure SameCommand (names : Names) (cmd cmd' : CommandRow T) : Prop where
  id : names.commands.rel cmd.id cmd'.id
  rest : cmd' = { cmd with id := cmd'.id, claimToken := cmd'.claimToken }

section Alike

variable (py : Py) (c : Celld) (sid : String) (names : Names)

/-- Tokens signed for the session in the same second, each with its own id. -/
def SameToken (token token' : String) : Prop :=
  ∃ k k' t, token = c.tokenOf py sid k t ∧ token' = c.tokenOf py sid k' t ∧
    names.tokens.rel k k'

/-- Cells that have been built, with the same state. -/
structure SameCell (w w' : World T) (cell cell' : Cell) : Prop where
  owner : cell'.sessionId = cell.sessionId
  token : SameToken py c sid names cell.jwt cell'.jwt
  state : w'.heap cell'.addr = w.heap cell.addr
  built : cell.addr < w.nextAddr
  built' : cell'.addr < w'.nextAddr

/-- What the database holds of the session. -/
structure SameRecord (w w' : World T) : Prop where
  row : w'.store.sessions.find? sid = w.store.sessions.find? sid
  lease : w'.store.sessionLeases.find? sid = w.store.sessionLeases.find? sid
  log : List.Forall₂ (SameEvent names) (w.store.eventsOf sid) (w'.store.eventsOf sid)
  inbox : List.Forall₂ (SameCommand names) (w.store.inboxOf sid) (w'.store.inboxOf sid)

/-- What a request for the session finds of it, once its host is known. -/
structure Akin (w w' : World T) : Prop extends SameRecord sid names w w' where
  objects : w'.objects = w.objects
  cell : Option.Rel (SameCell py c sid names w w') (w.cells c.ref sid) (w'.cells c.ref sid)
  bounded : names.Bounded w w'

/-- All that a request for the session depends on. -/
structure Alike (w w' : World T) : Prop extends Akin py c sid names w w' where
  hosts : w'.store.cellHosts = w.store.cellHosts

end Alike

/-! ## More names -/

section More

variable {py : Py} {c : Celld} {sid : String} {names names' : Names} {w w' v v' : World T}

theorem SamePayload.mono (h : names ≤ names') {eventType : String} {payload payload' : Json}
    (hp : SamePayload names eventType payload payload') :
    SamePayload names' eventType payload payload' := by
  cases hp with
  | same => exact .same _ _
  | received rest hid => exact .received rest (h.1 _ _ hid)

theorem SamePayload.orEmpty {eventType : String} {payload payload' : Json}
    (hp : SamePayload names eventType payload payload') :
    SamePayload names eventType payload.orEmpty payload'.orEmpty := by
  cases hp with
  | same => exact .same _ _
  | received rest hid =>
    rw [Json.orEmpty_of_isObj rfl, Json.orEmpty_of_isObj rfl]
    exact .received rest hid

theorem SameEvent.mono (h : names ≤ names') {e e' : EventRow T} (he : SameEvent names e e') :
    SameEvent names' e e' :=
  ⟨h.2.1 _ _ he.id, he.payload.mono h, he.rest⟩

theorem SameCommand.mono (h : names ≤ names') {cmd cmd' : CommandRow T}
    (hc : SameCommand names cmd cmd') : SameCommand names' cmd cmd' :=
  ⟨h.1 _ _ hc.id, hc.rest⟩

theorem SameToken.mono (h : names ≤ names') {token token' : String}
    (ht : SameToken py c sid names token token') : SameToken py c sid names' token token' := by
  obtain ⟨k, k', t, htoken, htoken', hk⟩ := ht
  exact ⟨k, k', t, htoken, htoken', h.2.2 _ _ hk⟩

theorem SameCell.mono (h : names ≤ names') {cell cell' : Cell}
    (hc : SameCell py c sid names w w' cell cell') : SameCell py c sid names' w w' cell cell' :=
  ⟨hc.owner, hc.token.mono h, hc.state, hc.built, hc.built'⟩

/-- A cell stays the same where its state does. -/
theorem SameCell.keep {cell cell' : Cell} (h : SameCell py c sid names w w' cell cell')
    (hstate : v'.heap cell'.addr = v.heap cell.addr) (hnext : w.nextAddr ≤ v.nextAddr)
    (hnext' : w'.nextAddr ≤ v'.nextAddr) : SameCell py c sid names v v' cell cell' :=
  ⟨h.owner, h.token, hstate, h.built.trans_le hnext, h.built'.trans_le hnext'⟩

/-- Live cells stay the same where no other is registered. -/
theorem Akin.cells (h : Akin py c sid names w w') (hv : v.cells c.ref sid = w.cells c.ref sid)
    (hv' : v'.cells c.ref sid = w'.cells c.ref sid)
    (hkeep : ∀ cell cell', w.cells c.ref sid = some cell → w'.cells c.ref sid = some cell' →
      SameCell py c sid names w w' cell cell' → SameCell py c sid names' v v' cell cell') :
    Option.Rel (SameCell py c sid names' v v') (v.cells c.ref sid) (v'.cells c.ref sid) := by
  have hcell := h.cell
  rw [hv, hv']
  generalize hfound : w.cells c.ref sid = found at hcell ⊢
  generalize hfound' : w'.cells c.ref sid = found' at hcell ⊢
  cases hcell with
  | none => exact .none
  | some hc => exact .some (hkeep _ _ hfound hfound' hc)

theorem Names.Bounded.mono (h : names.Bounded w w')
    (hinbox : w.store.commandInbox.last ≤ v.store.commandInbox.last)
    (hinbox' : w'.store.commandInbox.last ≤ v'.store.commandInbox.last)
    (hevents : w.store.events.last ≤ v.store.events.last)
    (hevents' : w'.store.events.last ≤ v'.store.events.last)
    (hdrawn : w.drawn .jti ≤ v.drawn .jti) (hdrawn' : w'.drawn .jti ≤ v'.drawn .jti) :
    names.Bounded v v' :=
  ⟨h.commands.mono (Nat.succ_le_succ hinbox) (Nat.succ_le_succ hinbox'),
    h.events.mono (Nat.succ_le_succ hevents) (Nat.succ_le_succ hevents'),
    h.tokens.mono hdrawn hdrawn'⟩

/-- And where neither side has moved, as far as the session is concerned. -/
theorem Akin.unmoved (h : Akin py c sid names w w') (hw : Unmoved c sid w v)
    (hw' : Unmoved c sid w' v') : Akin py c sid names v v' where
  row := by rw [hw'.store.row, hw.store.row, h.row]
  lease := by rw [hw'.store.lease, hw.store.lease, h.lease]
  objects := by rw [hw'.objects, hw.objects, h.objects]
  log := by rw [hw'.store.log, hw.store.log]; exact h.log
  inbox := by rw [hw'.store.inbox, hw.store.inbox]; exact h.inbox
  cell := h.cells hw.cell hw'.cell fun cell cell' hfound hfound' hc =>
    hc.keep ((hw'.state cell' hfound').trans (hc.state.trans (hw.state cell hfound).symm))
      hw.nextAddr hw'.nextAddr
  bounded := h.bounded.mono hw.inbox hw'.inbox hw.events hw'.events hw.drawn hw'.drawn

/-- A world is akin to itself where its cell has been built with a token of its own. -/
theorem Akin.refl (hcells : ∀ cell, w.cells c.ref sid = some cell →
      cell.addr < w.nextAddr ∧ ∃ k t, cell.jwt = c.tokenOf py sid k t ∧ k < w.drawn .jti) :
    Akin py c sid ⟨.below (w.store.commandInbox.last + 1), .below (w.store.events.last + 1),
      .below (w.drawn .jti)⟩ w w where
  row := rfl
  lease := rfl
  objects := rfl
  log := by
    refine List.forall₂_same.mpr fun ev hev => ⟨⟨Nat.lt_succ_of_le ?_, rfl⟩, .same _ _, rfl⟩
    exact Data.Serial.id_le_last (Store.mem_eventsOf.mp hev).1
  inbox := by
    refine List.forall₂_same.mpr fun cmd hcmd => ⟨⟨Nat.lt_succ_of_le ?_, rfl⟩, rfl⟩
    exact Data.Serial.id_le_last (Store.mem_inboxOf.mp hcmd).1
  cell := by
    generalize hfound : w.cells c.ref sid = found
    cases found with
    | none => exact .none
    | some cell =>
      obtain ⟨hbuilt, k, t, htoken, hk⟩ := hcells cell hfound
      exact .some ⟨rfl, ⟨k, k, t, htoken, htoken, hk, rfl⟩, rfl, hbuilt, hbuilt⟩
  bounded := ⟨Data.Renaming.bounded_below _, Data.Renaming.bounded_below _,
    Data.Renaming.bounded_below _⟩

end More

/-! ## What is read of the session -/

section Records

variable {sid : String} {names : Names} {w w' : World T}

theorem SameRecord.hasSession (h : SameRecord sid names w w') :
    w'.store.hasSession sid = w.store.hasSession sid :=
  congrArg Option.isSome h.row

theorem SameRecord.pendingOf (h : SameRecord sid names w w') :
    List.Forall₂ (SameCommand names) (w.store.pendingOf sid) (w'.store.pendingOf sid) := by
  rw [Store.pendingOf_eq_filter, Store.pendingOf_eq_filter]
  refine List.rel_filter (fun cmd cmd' hcmd => ?_) h.inbox
  rw [hcmd.rest]

/-- The log is read in order. -/
theorem SameRecord.getEvents (h : SameRecord sid names w w') (hw : w.store.Contiguous)
    (hw' : w'.store.Contiguous) (after : ℤ) :
    List.Forall₂ (SameEvent names) (w.store.getEvents sid after) (w'.store.getEvents sid after) := by
  rw [hw.getEvents_eq_filter, hw'.getEvents_eq_filter]
  refine List.rel_filter (fun ev ev' hev => ?_) h.log
  rw [hev.rest]

/-- A command is taken or refused alike. -/
theorem SameRecord.enqueueCommand [Field T] (h : SameRecord sid names w w') (t : T)
    (commandType : String) (payload : Json) (actor : Option String) :
    (w'.store.enqueueCommand t sid commandType payload actor).map (fun _ => ()) =
      (w.store.enqueueCommand t sid commandType payload actor).map fun _ => () := by
  unfold Store.enqueueCommand
  rw [← h.pendingOf.length_eq, ← h.log.length_eq, h.hasSession]
  split
  · rfl
  split
  · rfl
  split <;> rfl

end Records

/-! ## Calls for the session -/

section Calls

variable [Field T] [LinearOrder T] {py : Py} {c : Celld} {sid : String} {names : Names}
  {w w' : World T}

variable (py c sid names) in
/-- A call on each side comes out the same, up to names, and keeps the sides akin. -/
def SameStep (d d' : Call T) (V : Names → d.Ret → d'.Ret → Prop) (w w' : World T) : Prop :=
  SameEnd (fun a b v v' => ∃ names', names ≤ names' ∧ V names' a b ∧ Akin py c sid names' v v')
    (Akin py c sid names) (exec py d w) (exec py d' w')

/-- Calls that have nothing to do with any session. -/
theorem Akin.neutral (h : Akin py c sid names w w') {d d' : Call T} (hd : d.neutral)
    (hd' : d'.neutral) : Akin py c sid names (exec py d w).2 (exec py d' w').2 :=
  h.unmoved (exec_neutral hd) (exec_neutral hd')

theorem Akin.sameStep (h : Akin py c sid names w w') (d d' : Call T) (hd : d.neutral)
    (hd' : d'.neutral) {V : Names → d.Ret → d'.Ret → Prop} {a : d.Ret} {b : d'.Ret}
    (ha : (exec py d w).1 = .ok a) (hb : (exec py d' w').1 = .ok b) (hV : V names a b) :
    SameStep py c sid names d d' V w w' := by
  have hafter := h.neutral hd hd'
  unfold SameStep
  generalize exec py d w = x at *
  generalize exec py d' w' = y at *
  obtain ⟨r, v⟩ := x
  obtain ⟨r', v'⟩ := y
  obtain rfl : r = .ok a := ha
  obtain rfl : r' = .ok b := hb
  exact .ok ⟨names, le_refl _, hV, hafter⟩

/-- A command is put into the inbox under the next number, or refused. -/
theorem Akin.enqueue (h : Akin py c sid names w w') (hclock : w'.clock = w.clock)
    (commandType : String) (payload : Json) (actor : Option String) :
    SameStep py c sid names (.enqueueCommand sid commandType payload actor)
      (.enqueueCommand sid commandType payload actor) (fun names a b => names.commands.rel a b)
      w w' := by
  have hpending := h.pendingOf.length_eq
  have hlog := h.log.length_eq
  show SameEnd _ _
    (w.commit (w.store.enqueueCommand w.clock sid commandType payload actor))
    (w'.commit (w'.store.enqueueCommand w'.clock sid commandType payload actor))
  by_cases hpend : Store.maxPendingCommands ≤ (w.store.pendingOf sid).length
  · have hpend' := hpending ▸ hpend
    unfold Store.enqueueCommand
    rw [if_pos hpend, if_pos hpend']
    exact .error _ h
  by_cases hfull : Store.maxEventsPerSession ≤ (w.store.eventsOf sid).length
  · have hpend' := hpending ▸ hpend
    have hfull' := hlog ▸ hfull
    unfold Store.enqueueCommand
    rw [if_neg hpend, if_neg hpend', if_pos hfull, if_pos hfull']
    exact .error _ h
  cases hses : w.store.hasSession sid with
  | false =>
    have hpend' := hpending ▸ hpend
    have hfull' := hlog ▸ hfull
    unfold Store.enqueueCommand
    rw [if_neg hpend, if_neg hpend', if_neg hfull, if_neg hfull', h.hasSession, hses]
    exact .error _ h
  | true =>
    have hses' := h.hasSession.trans hses
    obtain ⟨st, hr⟩ : ∃ st, w.store.enqueueCommand w.clock sid commandType payload actor =
        .ok (w.store.commandInbox.last + 1, st) :=
      Store.enqueueCommand_eq (Nat.not_le.mp hpend) (Nat.not_le.mp hfull) hses
    obtain ⟨st', hr'⟩ : ∃ st', w'.store.enqueueCommand w'.clock sid commandType payload actor =
        .ok (w'.store.commandInbox.last + 1, st') :=
      Store.enqueueCommand_eq (Nat.not_le.mp (hpending ▸ hpend)) (Nat.not_le.mp (hlog ▸ hfull))
        hses'
    have hinbox := Store.inboxOf_enqueueCommand hr sid
    have hinbox' := Store.inboxOf_enqueueCommand hr' sid
    rw [if_pos rfl] at hinbox hinbox'
    obtain ⟨-, -, -, -, rfl⟩ := Store.enqueueCommand_ok hr
    obtain ⟨-, -, -, -, rfl⟩ := Store.enqueueCommand_ok hr'
    rw [hr, hr']
    -- both counters hand out the number of the command
    let names' : Names := { names with commands := names.commands.extend h.bounded.commands }
    have hle : names ≤ names' := ⟨Data.Renaming.le_extend h.bounded.commands, le_refl _, le_refl _⟩
    have hid := Data.Renaming.extend_rel h.bounded.commands
    have hnew : SameCommand names'
        (Store.newCommand w.clock sid commandType payload actor (w.store.commandInbox.last + 1))
        (Store.newCommand w'.clock sid commandType payload actor
          (w'.store.commandInbox.last + 1)) := ⟨hid, by rw [hclock]; rfl⟩
    refine .ok ⟨names', hle, hid, ?_⟩
    exact {
      row := h.row
      lease := h.lease
      objects := h.objects
      log := h.log.imp fun _ _ => SameEvent.mono hle
      inbox := hinbox.symm ▸ hinbox'.symm ▸ List.rel_append
        (h.inbox.imp fun _ _ => SameCommand.mono hle) (.cons hnew .nil)
      cell := h.cells rfl rfl fun _ _ _ _ hc =>
        (hc.mono hle).keep hc.state (Nat.le_refl _) (Nat.le_refl _)
      bounded := ⟨Data.Renaming.bounded_extend h.bounded.commands (Nat.lt_succ_self _)
        (Nat.lt_succ_self _),
        h.bounded.events, h.bounded.tokens⟩ }

omit [Field T] [LinearOrder T] in
theorem Akin.nextSequence (h : Akin py c sid names w w') :
    w'.store.nextSequence sid = w.store.nextSequence sid := by
  have hsequences : List.Forall₂ (· = ·) ((w'.store.eventsOf sid).map EventRow.sequence)
      ((w.store.eventsOf sid).map EventRow.sequence) := by
    refine List.forall₂_map_left_iff.mpr (List.forall₂_map_right_iff.mpr ?_)
    refine h.log.flip.imp fun ev' ev hev => ?_
    rw [hev.rest]
  rw [List.forall₂_eq_eq_eq] at hsequences
  unfold Store.nextSequence
  rw [hsequences]

/-- An event is appended under the next number. -/
theorem Akin.append (h : Akin py c sid names w w') (hclock : w'.clock = w.clock)
    {eventType : String} {payload payload' : Json}
    (hp : SamePayload names eventType payload payload') :
    SameStep py c sid names (.appendEvent sid eventType payload none)
      (.appendEvent sid eventType payload' none)
      (fun _ ev ev' => payload' = payload → ev' = ev) w w' := by
  show SameEnd _ _
    (w.commit (w.store.appendEvent w.clock sid eventType payload none))
    (w'.commit (w'.store.appendEvent w'.clock sid eventType payload' none))
  cases hses : w.store.hasSession sid with
  | false =>
    rw [Store.appendEvent_missing hses, Store.appendEvent_missing (h.hasSession.trans hses)]
    exact .error _ h
  | true =>
    obtain ⟨ev, st, hr⟩ : ∃ ev st,
        w.store.appendEvent w.clock sid eventType payload none = .ok (ev, st) :=
      ⟨_, _, Store.appendEvent_eq hses⟩
    obtain ⟨ev', st', hr'⟩ : ∃ ev' st',
        w'.store.appendEvent w'.clock sid eventType payload' none = .ok (ev', st') :=
      ⟨_, _, Store.appendEvent_eq (h.hasSession.trans hses)⟩
    have hlog := Store.eventsOf_append hr sid
    have hlog' := Store.eventsOf_append hr' sid
    rw [if_pos rfl] at hlog hlog'
    obtain ⟨rfl, -, rfl⟩ := Store.appendEvent_ok hr
    obtain ⟨rfl, -, rfl⟩ := Store.appendEvent_ok hr'
    rw [hr, hr']
    -- the rows may be numbered differently: the two numbers are paired from here on
    let names' : Names := { names with events := names.events.extend h.bounded.events }
    have hle : names ≤ names' :=
      ⟨le_refl _, Data.Renaming.le_extend h.bounded.events, le_refl _⟩
    have hnew : SameEvent names'
        (Store.newEvent w.clock sid (w.store.nextSequence sid) eventType payload none
          (w.store.events.last + 1))
        (Store.newEvent w'.clock sid (w'.store.nextSequence sid) eventType payload' none
          (w'.store.events.last + 1)) :=
      ⟨Data.Renaming.extend_rel h.bounded.events, hp.orEmpty.mono hle, by
        rw [hclock, h.nextSequence]
        rfl⟩
    refine .ok ⟨names', hle, fun heq => by rw [heq, h.nextSequence], ?_⟩
    exact {
      row := h.row
      lease := h.lease
      objects := h.objects
      log := hlog.symm ▸ hlog'.symm ▸ List.rel_append
        (h.log.imp fun _ _ => SameEvent.mono hle) (.cons hnew .nil)
      inbox := h.inbox.imp fun _ _ => SameCommand.mono hle
      cell := h.cells rfl rfl fun _ _ _ _ hc =>
        (hc.mono hle).keep hc.state (Nat.le_refl _) (Nat.le_refl _)
      bounded := ⟨h.bounded.commands, Data.Renaming.bounded_extend h.bounded.events
        (Nat.lt_succ_self _) (Nat.lt_succ_self _), h.bounded.tokens⟩ }

/-- What is pending is claimed. -/
theorem Akin.claim (h : Akin py c sid names w w') (hclock : w'.clock = w.clock)
    (hclaims : w.ClaimsDrawn py) (hclaims' : w'.ClaimsDrawn py) (claimedBy : String) :
    SameStep py c sid names (.claimPendingCommands sid claimedBy)
      (.claimPendingCommands sid claimedBy)
      (fun names cmds cmds' => List.Forall₂ (SameCommand names) cmds cmds') w w' := by
  have hclaim : ∀ {cmd cmd' : CommandRow T} (token token' : String), SameCommand names cmd cmd' →
      SameCommand names (Store.claimRow w.clock claimedBy token cmd)
        (Store.claimRow w'.clock claimedBy token' cmd') := by
    intro cmd cmd' token token' hcmd
    refine ⟨hcmd.id, ?_⟩
    rw [hcmd.rest, hclock]
    rfl
  have hout := exec_claimPendingCommands py hclaims sid claimedBy
  have hout' := exec_claimPendingCommands py hclaims' sid claimedBy
  have hafter : Akin py c sid names (exec py (.claimPendingCommands sid claimedBy) w).2
      (exec py (.claimPendingCommands sid claimedBy) w').2 := {
    row := h.row
    lease := h.lease
    objects := h.objects
    log := h.log
    inbox := by
      have hinbox := Store.inboxOf_claimPendingCommands w.store w.clock
        (w.fresh py .claimToken) sid claimedBy sid
      have hinbox' := Store.inboxOf_claimPendingCommands w'.store w'.clock
        (w'.fresh py .claimToken) sid claimedBy sid
      refine hinbox.symm ▸ hinbox'.symm ▸ List.rel_map (fun cmd cmd' hcmd => ?_) h.inbox
      have hsame : (cmd'.sessionId == sid && cmd'.status == .pending) =
          (cmd.sessionId == sid && cmd.status == .pending) := by rw [hcmd.rest]
      rw [hsame]
      split
      · exact hclaim _ _ hcmd
      · exact hcmd
    cell := h.cells rfl rfl fun _ _ _ _ hc => hc.keep hc.state (Nat.le_refl _) (Nat.le_refl _)
    bounded := ⟨h.bounded.commands, h.bounded.events, h.bounded.tokens⟩ }
  unfold SameStep
  generalize exec py (.claimPendingCommands sid claimedBy) w = x at *
  generalize exec py (.claimPendingCommands sid claimedBy) w' = y at *
  obtain ⟨r, v⟩ := x
  obtain ⟨r', v'⟩ := y
  obtain rfl : r = _ := hout
  obtain rfl : r' = _ := hout'
  refine .ok ⟨names, le_refl _, List.forall₂_map_left_iff.mpr ?_, hafter⟩
  exact List.forall₂_map_right_iff.mpr (h.pendingOf.imp fun _ _ => hclaim _ _)

/-- A command is completed under its own id. -/
theorem Akin.complete (h : Akin py c sid names w w') (hclock : w'.clock = w.clock) {id id' : ℕ}
    (hid : names.commands.rel id id') :
    SameStep py c sid names (.completeCommand id) (.completeCommand id') (fun _ _ _ => True)
      w w' := by
  refine .ok ⟨names, le_refl _, trivial, ?_⟩
  exact {
    row := h.row
    lease := h.lease
    objects := h.objects
    log := h.log
    inbox := by
      have hinbox := Store.inboxOf_completeCommand w.store w.clock id sid
      have hinbox' := Store.inboxOf_completeCommand w'.store w'.clock id' sid
      refine hinbox.symm ▸ hinbox'.symm ▸ List.rel_map (fun cmd cmd' hcmd => ?_) h.inbox
      have hsame : (cmd'.id == id') = (cmd.id == id) := by
        rw [Bool.beq_eq_decide_eq, Bool.beq_eq_decide_eq]
        exact decide_eq_decide.mpr (names.commands.eq_iff hcmd.id hid).symm
      rw [hsame]
      split
      · refine ⟨hcmd.id, ?_⟩
        rw [hcmd.rest, hclock]
        rfl
      · exact hcmd
    cell := h.cells rfl rfl fun _ _ _ _ hc => hc.keep hc.state (Nat.le_refl _) (Nat.le_refl _)
    bounded := ⟨h.bounded.commands, h.bounded.events, h.bounded.tokens⟩ }

/-- The status of the session is set. -/
theorem Akin.setStatus (h : Akin py c sid names w w') (hclock : w'.clock = w.clock)
    (status : SessionStatus) :
    Akin py c sid names (exec py (.updateSessionStatus sid status) w).2
      (exec py (.updateSessionStatus sid status) w').2 where
  row := by
    show (w'.store.updateSessionStatus w'.clock sid status).sessions.find? sid =
      (w.store.updateSessionStatus w.clock sid status).sessions.find? sid
    unfold Store.updateSessionStatus
    dsimp only
    rw [Data.Table.find?_update, Data.Table.find?_update, h.row, hclock]
  lease := h.lease
  objects := h.objects
  log := h.log
  inbox := h.inbox
  cell := h.cells rfl rfl fun _ _ _ _ hc => hc.keep hc.state (Nat.le_refl _) (Nat.le_refl _)
  bounded := ⟨h.bounded.commands, h.bounded.events, h.bounded.tokens⟩

/-! ### Cells -/

variable (c sid) in
/-- Cells that are live on both sides or share their states with neither live cell. -/
def Together (w w' : World T) (cell cell' : Cell) : Prop :=
  ∀ live live', w.cells c.ref sid = some live → w'.cells c.ref sid = some live' →
    (live.addr = cell.addr ↔ live'.addr = cell'.addr)

omit [Field T] [LinearOrder T] in
/-- The same is made of an event in the same state. -/
theorem SamePayload.applyEvent {eventType : String} {payload payload' : Json}
    (hp : SamePayload names eventType payload payload') (state : CellState) :
    applyEvent state eventType payload' = applyEvent state eventType payload := by
  cases hp with
  | same => rfl
  | received => rfl

variable (py) in
/-- An event is applied to cells with the same state. -/
theorem Akin.apply (h : Akin py c sid names w w') {cell cell' : Cell}
    (hcell : SameCell py c sid names w w' cell cell') (htogether : Together c sid w w' cell cell')
    {eventType : String} {payload payload' : Json}
    (hp : SamePayload names eventType payload payload') :
    SameEnd (fun _ _ v v' => Akin py c sid names v v' ∧ SameCell py c sid names v v' cell cell' ∧
        Together c sid v v' cell cell')
      (Akin py c sid names) (exec py (.apply cell eventType payload) w)
      (exec py (.apply cell' eventType payload') w') := by
  have happlied := hp.applyEvent (w.heap cell.addr)
  rw [← hcell.state] at happlied
  rcases exec_apply py w cell eventType payload with ⟨e, hev, hx⟩ | ⟨state, hev, hx⟩
  · rcases exec_apply py w' cell' eventType payload' with ⟨e', hev', hx'⟩ | ⟨state', hev', hx'⟩
    · rw [happlied, hcell.state, hev] at hev'
      obtain rfl := Except.error.inj hev'
      rw [hx, hx']
      exact .error _ h
    · rw [happlied, hcell.state, hev] at hev'
      cases hev'
  · rcases exec_apply py w' cell' eventType payload' with ⟨e', hev', hx'⟩ | ⟨state', hev', hx'⟩
    · rw [happlied, hcell.state, hev] at hev'
      cases hev'
    rw [happlied, hcell.state, hev] at hev'
    obtain rfl := Except.ok.inj hev'
    rw [hx, hx']
    refine .ok ⟨?_, ?_, htogether⟩
    · exact {
        row := h.row
        lease := h.lease
        objects := h.objects
        log := h.log
        inbox := h.inbox
        cell := by
          refine h.cells rfl rfl fun live live' hlive hlive' hc =>
            hc.keep ?_ (Nat.le_refl _) (Nat.le_refl _)
          -- the live cells are those of the event, or other cells
          have hsame := htogether live live' hlive hlive'
          dsimp only
          by_cases hit : live.addr = cell.addr
          · rw [hit, hsame.mp hit, Function.update_self, Function.update_self]
          · rw [Function.update_of_ne hit, Function.update_of_ne (hsame.not.mp hit), hc.state]
        bounded := ⟨h.bounded.commands, h.bounded.events, h.bounded.tokens⟩ }
    · refine hcell.keep ?_ (Nat.le_refl _) (Nat.le_refl _)
      dsimp only
      rw [Function.update_self, Function.update_self]

variable (py) in
/-- The same cells are registered. -/
theorem Akin.register (h : Akin py c sid names w w') {cell cell' : Cell}
    (hcell : SameCell py c sid names w w' cell cell') :
    Akin py c sid names (exec py (.cellsSet c.ref sid cell) w).2
      (exec py (.cellsSet c.ref sid cell') w').2 where
  row := h.row
  lease := h.lease
  objects := h.objects
  log := h.log
  inbox := h.inbox
  cell := by
    rw [exec_cellsSet_cells, exec_cellsSet_cells, if_pos ⟨rfl, rfl⟩, if_pos ⟨rfl, rfl⟩]
    exact .some (hcell.keep hcell.state (Nat.le_refl _) (Nat.le_refl _))
  bounded := ⟨h.bounded.commands, h.bounded.events, h.bounded.tokens⟩

/-- The live cells are taken out. -/
theorem Akin.unregister (h : Akin py c sid names w w') :
    Akin py c sid names (exec py (.cellsPop c.ref sid) w).2
      (exec py (.cellsPop c.ref sid) w').2 where
  row := h.row
  lease := h.lease
  objects := h.objects
  log := h.log
  inbox := h.inbox
  cell := by
    rw [exec_cellsPop_cells, exec_cellsPop_cells, if_pos ⟨rfl, rfl⟩, if_pos ⟨rfl, rfl⟩]
    exact .none
  bounded := ⟨h.bounded.commands, h.bounded.events, h.bounded.tokens⟩

end Calls

end Nadi
