import Nadi.Capacity
import Nadi.EventLog
import Nadi.Model.Bounds
import Nadi.Model.Rows
import Nadi.Model.Sample
import Mathlib.Data.Rat.Floor

/-!
# Whose answers `send_command` returns

`send_command` enqueues its command and then consumes whatever is pending in the
session (gateway.py:61–68), in a later step: commands of others that are pending
then are answered with its own, and its own may be gone by then. What a call
returns is the answer to its own command exactly if its own command was all that
was pending when it claimed (`own_answer_iff`).
-/

namespace Nadi

open Effect

variable {T ι : Type}

/-! ## What a thread has answered -/

/-- How far a thread has come: the command it has enqueued, the commands it has
claimed, the commands it has completed with the events it appended for each, and
the events since it reported the command in hand. -/
structure Serving where
  enqueued : Option ℕ
  claimed : Option (List ℕ)
  answered : List (ℕ × List Event)
  since : List Event

namespace Serving

/-- The events a thread has appended for commands. -/
def events (q : Serving) : List Event := q.answered.flatMap Prod.snd ++ q.since

/-- How a call moves a thread on. -/
def next (q : Serving) : (d : Call T) → Except PyErr d.Ret → Serving
  | .enqueueCommand .., .ok id => { q with enqueued := some id }
  | .claimPendingCommands .., .ok rows => { q with claimed := some (rows.map CommandRow.id) }
  | .appendEvent _ eventType _ _, .ok ev =>
    if eventType = "command.received" then { q with since := [] }
    else { q with since := q.since ++ [ev] }
  | .completeCommand id, _ => { q with answered := q.answered ++ [(id, q.since)], since := [] }
  | _, _ => q

/-- What a thread may do that serves one session: it claims once, and completes a
command after one event. -/
def May (sid : String) (q : Serving) : Call T → Prop
  | .appendEvent s .. => s = sid
  | .claimPendingCommands s _ => s = sid ∧ q.claimed = none
  | .completeCommand _ => ∃ ev, q.since = [ev]
  | _ => True

end Serving

/-- Serving one session. -/
def servingRole (T : Type) (sid : String) : Role Serving (Call T) Call.Ret PyErr where
  init := ⟨none, none, [], []⟩
  may := Serving.May sid
  next := Serving.next

/-- The calls that answer no command. -/
def Call.besideAnswers : Call T → Prop
  | .enqueueCommand .. => False
  | .claimPendingCommands .. => False
  | .appendEvent .. => False
  | .completeCommand _ => False
  | _ => True

theorem Serving.next_of_beside {d : Call T} (h : d.besideAnswers) (q : Serving)
    (r : Except PyErr d.Ret) : q.next d r = q := by
  cases d <;> first | rfl | exact h.elim

/-- Only a claim claims. -/
theorem Serving.next_claimed {d : Call T} (h : ∀ s claimedBy, d ≠ .claimPendingCommands s claimedBy)
    (q : Serving) (r : Except PyErr d.Ret) : (q.next d r).claimed = q.claimed := by
  cases d with
  | claimPendingCommands s claimedBy => exact absurd rfl (h s claimedBy)
  | enqueueCommand => cases r <;> rfl
  | appendEvent s eventType payload actor =>
    cases r with
    | error e => rfl
    | ok ev =>
      show (if eventType = "command.received" then { q with since := [] }
        else { q with since := q.since ++ [ev] } : Serving).claimed = _
      split <;> rfl
  | _ => rfl

/-- Only a completion answers. -/
theorem Serving.next_answered {d : Call T} (h : ∀ id, d ≠ .completeCommand id)
    (q : Serving) (r : Except PyErr d.Ret) : (q.next d r).answered = q.answered := by
  cases d with
  | completeCommand id => exact absurd rfl (h id)
  | claimPendingCommands | enqueueCommand => cases r <;> rfl
  | appendEvent s eventType payload actor =>
    cases r with
    | error e => rfl
    | ok ev =>
      show (if eventType = "command.received" then { q with since := [] }
        else { q with since := q.since ++ [ev] } : Serving).answered = _
      split <;> rfl
  | _ => rfl

theorem Serving.may_of_beside {d : Call T} (h : d.besideAnswers) (sid : String) (q : Serving) :
    q.May sid d := by
  cases d <;> trivial

theorem Call.besideAnswers_of_ofSandbox {d : Call T} (h : d.ofSandbox) : d.besideAnswers := by
  cases d <;> trivial

theorem Call.besideAnswers_of_ofCell {c : Celld} {sid : String} {d : Call T}
    (h : d.ofCell c sid) : d.besideAnswers := by
  cases d <;> trivial

/-! ## The programs serve -/

section Plays

variable {sid : String} {h : Handler (Call T) Call.Ret PyErr (World T)} {c : Celld} {q : Serving}

/-- What answers no command leaves a thread where it is. -/
theorem plays_serving_beside {α : Type} {ok : Call T → Prop} {value : α → Prop} {p : Code T α}
    (hp : p.Within ok value) (hok : ∀ d, ok d → d.besideAnswers) :
    (servingRole T sid).Plays h (fun q' r => q' = q ∧ ∀ a, r = .ok a → value a) p q :=
  Role.Plays.of_within hp (fun d hd => Serving.may_of_beside (hok d hd) sid q)
    fun d r hd => Serving.next_of_beside (hok d hd) q r

theorem plays_serving_received (payload : Json) :
    (servingRole T sid).Plays h (fun q' r => r.toBool = true → q' = { q with since := [] })
      (c.appendEvent sid "command.received" payload : Code T Event) q := by
  refine Role.Plays.perform_bind rfl (fun _ ev _ => ?_) fun _ _ _ h => nomatch h
  refine Role.Plays.perform_bind trivial (fun _ found _ => ?_) fun _ _ _ h => nomatch h
  cases found with
  | none => exact fun _ => rfl
  | some cell =>
    exact Role.Plays.perform_bind trivial (fun _ _ _ _ => rfl) fun _ _ _ h => nomatch h

theorem plays_serving_output {eventType : String} (htype : isOutput eventType) (payload : Json) :
    (servingRole T sid).Plays h
      (fun q' r => ∀ ev, r = .ok ev → q' = { q with since := q.since ++ [ev] })
      (c.appendEvent sid eventType payload : Code T Event) q := by
  refine Role.Plays.perform_bind rfl (fun _ ev _ => ?_) fun _ _ _ _ h => nomatch h
  have hnext : (servingRole T sid).next q (.appendEvent sid eventType payload.orEmpty none)
      (.ok ev) = { q with since := q.since ++ [ev] } := if_neg htype.ne_received
  rw [hnext]
  refine Role.Plays.perform_bind trivial (fun _ found _ => ?_) fun _ _ _ _ h => nomatch h
  cases found with
  | none =>
    intro ev' h'
    cases h'
    rfl
  | some cell =>
    refine Role.Plays.perform_bind trivial (fun _ _ _ ev' h' => ?_) fun _ _ _ _ h => nomatch h
    cases h'
    rfl

/-- The one event of a handler. -/
theorem plays_serving_appendEvents {o : String × Json} (htype : isOutput o.1) :
    (servingRole T sid).Plays h
      (fun q' r => ∀ evs, r = .ok evs →
        ∃ ev, evs = [ev] ∧ q' = { q with since := q.since ++ [ev] })
      (c.appendEvents sid [o] : Code T (List Event)) q := by
  refine Role.Plays.bind (plays_serving_output htype o.2) (fun q' ev hq' evs hevs => ?_)
    fun _ _ _ _ h => nomatch h
  cases hevs
  exact ⟨ev, rfl, hq' ev rfl⟩

variable [Field T] [LinearOrder T] [IsStrictOrderedRing T] [FloorRing T] {py : Py}

/-- What serving a batch adds to the answers of a thread. -/
def Serving.Serves (q : Serving) (ids : List ℕ) (evs : List Event) (q' : Serving) : Prop :=
  q'.enqueued = q.enqueued ∧ q'.claimed = q.claimed ∧
    ∃ answers, q'.answered = q.answered ++ answers ∧ answers.map Prod.fst = ids ∧
      evs = answers.flatMap Prod.snd

theorem plays_serving_consumeLoop (token : String) (commands : List (CommandRow T)) :
    (servingRole T sid).Plays h
      (fun q' r => ∀ evs, r = .ok evs → q.Serves (commands.map CommandRow.id) evs q')
      (c.consumeLoop py sid token commands : Code T (List Event)) q := by
  induction commands generalizing q with
  | nil =>
    intro evs hevs
    cases hevs
    exact ⟨rfl, rfl, [], (List.append_nil _).symm, rfl, rfl⟩
  | cons cmd rest ih =>
    refine Role.Plays.bind (plays_serving_received _) (fun q₁ _ hq₁ => ?_) fun _ _ _ _ h => nomatch h
    obtain rfl := hq₁ rfl
    refine Role.Plays.bind (plays_serving_beside (Runtime.handle_single py c.sandboxd sid token _ _)
      fun _ => Call.besideAnswers_of_ofSandbox) (fun q₂ outs hq₂ => ?_) fun _ _ _ _ h => nomatch h
    obtain ⟨rfl, houts⟩ := hq₂
    obtain ⟨o, rfl, hout, -⟩ := houts outs rfl
    refine Role.Plays.bind (plays_serving_appendEvents hout) (fun q₂ evs hq₂ => ?_)
      fun _ _ _ _ h => nomatch h
    obtain ⟨ev, rfl, rfl⟩ := hq₂ evs rfl
    refine Role.Plays.perform_bind ⟨ev, rfl⟩ (fun _ _ _ => ?_) fun _ _ _ _ h => nomatch h
    refine Role.Plays.bind ih (fun q₃ more hq₃ => ?_) fun _ _ _ _ h => nomatch h
    obtain ⟨henq, hclaim, answers, hans, hids, hmore⟩ := hq₃ more rfl
    intro evs hevs
    cases hevs
    refine ⟨henq, hclaim, (cmd.id, [ev]) :: answers, ?_, ?_, ?_⟩
    · rw [hans]
      exact List.append_assoc _ _ _
    · rw [List.map_cons, hids, List.map_cons]
    · rw [List.flatMap_cons, hmore]

theorem plays_serving_liveCell :
    (servingRole T sid).Plays h (fun q' _ => q' = q) (c.liveCell py sid : Code T Cell) q :=
  (plays_serving_beside (c.liveCell_within py sid) fun _ => Call.besideAnswers_of_ofCell).weaken
    fun _ _ hq => hq.1

/-- What a thread that has sent its command has claimed and answered. -/
def Serving.Sends (q : Serving) (sent : Sent) : Prop :=
  q.enqueued = some sent.commandId ∧ q.claimed = some (q.answered.map Prod.fst) ∧
    sent.events = q.answered.flatMap Prod.snd

/-- **`send_command`** returns what it has answered, for the commands it has
claimed. -/
theorem plays_serving_sendCommand (commandType : String) (payload : Json) (actorResourceId : Option String) :
    (servingRole T sid).Plays h (fun q r => ∀ sent, r = .ok sent → q.Sends sent)
      (Gateway.sendCommand py sid commandType payload actorResourceId : Code T Sent)
      ⟨none, none, [], []⟩ := by
  have hroute : (servingRole T sid).Plays h (fun q _ => q = ⟨none, none, [], []⟩)
      (Gateway.route sid : Code T (Route T)) ⟨none, none, [], []⟩ := by
    refine Role.Plays.perform_bind trivial (fun _ found _ => ?_) fun _ _ _ => rfl
    cases found <;> exact rfl
  refine Role.Plays.bind hroute (fun q _ hq => ?_) fun _ _ _ _ h => nomatch h
  subst hq
  refine Role.Plays.perform_bind trivial (fun _ commandId _ => ?_) fun _ _ _ _ h => nomatch h
  have hcelld : (servingRole T sid).Plays h (fun q _ => q = ⟨some commandId, none, [], []⟩)
      (Broker.celldForRoute sid : Code T Celld) ⟨some commandId, none, [], []⟩ := by
    refine Role.Plays.perform_bind trivial (fun _ found _ => ?_) fun _ _ _ => rfl
    cases found with
    | none => exact rfl
    | some route =>
      refine Role.Plays.perform_bind trivial (fun _ object _ => ?_) fun _ _ _ => rfl
      cases object <;> exact rfl
  refine Role.Plays.bind hcelld (fun q celld hq => ?_) fun _ _ _ _ h => nomatch h
  subst hq
  have hconsume : (servingRole T sid).Plays h
      (fun q r => ∀ evs, r = .ok evs → q.Sends ⟨commandId, evs⟩)
      (celld.consumeCommands py sid : Code T (List Event)) ⟨some commandId, none, [], []⟩ := by
    refine Role.Plays.bind plays_serving_liveCell (fun q cell hq => ?_) fun _ _ _ _ h => nomatch h
    subst hq
    refine Role.Plays.perform_bind ⟨rfl, rfl⟩ (fun _ commands _ => ?_) fun _ _ _ _ h => nomatch h
    refine (plays_serving_consumeLoop cell.jwt commands).weaken fun q r hq evs hevs => ?_
    obtain ⟨henq, hclaim, answers, hans, hids, hevents⟩ := hq evs hevs
    have hall : q.answered = answers := hans
    subst hall
    exact ⟨henq, hclaim.trans (congrArg some hids.symm), hevents⟩
  refine Role.Plays.bind hconsume (fun q evs hq sent hsent => ?_) fun _ _ _ _ h => nomatch h
  cases hsent
  exact hq evs rfl

end Plays

/-! ## No two threads append one event -/

section Runs

variable [DecidableEq ι]

/-- How far each thread has come. -/
def servingAt (sid : String) (tr : Trace ι T) : ι → Serving :=
  Role.localAt (fun _ => servingRole T sid) tr

/-- Some thread has completed a command, and has appended the given events for it. -/
def Answered (sid : String) (tr : Trace ι T) (id : ℕ) (events : List Event) : Prop :=
  ∃ i, (id, events) ∈ (servingAt sid tr i).answered

/-- Each command has been answered with one event, and the events of different
threads differ in their numbers. -/
structure Separate (sid : String) (p : Moment ι T) : Prop where
  single : ∀ i, ∀ a ∈ (servingAt sid p.trace i).answered, ∃ ev, a.2 = [ev]
  below : ∀ i, ∀ ev ∈ (servingAt sid p.trace i).events,
    ev.sequence < p.state.store.nextSequence sid
  apart : ∀ i j, i ≠ j → ∀ ev ∈ (servingAt sid p.trace i).events,
    ∀ ev' ∈ (servingAt sid p.trace j).events, ev.sequence ≠ ev'.sequence

variable [Field T] [LinearOrder T] {py : Py} {sid : String}

omit [DecidableEq ι] in
/-- An event that a call adds has the next number, and takes it. -/
theorem Serving.mem_events_next {q : Serving} {d : Call T} {w : World T} {ev : Event}
    (hmay : q.May sid d) (hev : ev ∈ (q.next d (exec py d w).1).events) :
    ev ∈ q.events ∨ (ev.sequence = w.store.nextSequence sid ∧
      w.store.nextSequence sid < (exec py d w).2.store.nextSequence sid) := by
  cases d with
  | enqueueCommand s commandType payload actor =>
    cases hr : (exec py (.enqueueCommand s commandType payload actor) w).1 <;> rw [hr] at hev <;>
      exact .inl hev
  | claimPendingCommands => exact .inl hev
  | completeCommand id =>
    left
    change ev ∈ (q.answered ++ [(id, q.since)]).flatMap Prod.snd ++ [] at hev
    simpa [Serving.events] using hev
  | appendEvent s eventType payload actor =>
    obtain rfl : s = sid := hmay
    have hexec : exec py (.appendEvent s eventType payload actor) w =
        w.commit (w.store.appendEvent w.clock s eventType payload actor) := rfl
    rw [hexec] at hev ⊢
    cases hout : w.store.appendEvent w.clock s eventType payload actor with
    | error e =>
      rw [hout] at hev
      exact .inl hev
    | ok out =>
      obtain ⟨new, st⟩ := out
      rw [hout] at hev
      change ev ∈ (if eventType = "command.received" then { q with since := [] }
        else { q with since := q.since ++ [new] } : Serving).events at hev
      split at hev
      · exact .inl (List.mem_append_left _ (by simpa [Serving.events] using hev))
      · rcases List.mem_append.mp hev with hold | hsince
        · exact .inl (List.mem_append_left _ hold)
        rcases List.mem_append.mp hsince with hold | hnew
        · exact .inl (List.mem_append_right _ hold)
        · obtain rfl := List.mem_singleton.mp hnew
          right
          have hlog := Store.eventsOf_append hout s
          rw [if_pos rfl] at hlog
          refine ⟨by rw [(Store.appendEvent_ok hout).1], ?_⟩
          have hmem : Store.newEvent w.clock s (w.store.nextSequence s) eventType payload actor
              (w.store.events.last + 1) ∈ st.eventsOf s := by
            rw [hlog]
            exact List.mem_append_right _ (List.mem_singleton_self _)
          exact Store.lt_nextSequence hmem
  | _ => exact .inl hev

/-- A call moves its thread only. -/
theorem servingAt_after (p : Moment ι T) (i : ι) (d : Call T) :
    servingAt sid (p.after (exec py) i d).trace = Function.update (servingAt sid p.trace) i
      ((servingAt sid p.trace i).next d (exec py d p.state).1) :=
  Role.localAt_after _ (exec py) p i d

namespace Separate

variable {p : Moment ι T} {i : ι}

omit [Field T] [LinearOrder T] in
theorem start (w : World T) : Separate sid (⟨[], w⟩ : Moment ι T) where
  single := fun _ _ h => nomatch h
  below := fun _ _ h => nomatch h
  apart := fun _ _ _ _ h => nomatch h

/-- One call of a thread that serves. -/
theorem call (h : Separate sid p) {d : Call T} (hmay : (servingAt sid p.trace i).May sid d) :
    Separate sid (p.after (exec py) i d) := by
  have hserving : servingAt sid (p.after (exec py) i d).trace =
      Function.update (servingAt sid p.trace) i
        ((servingAt sid p.trace i).next d (exec py d p.state).1) := servingAt_after p i d
  have hmono : p.state.store.nextSequence sid ≤
      (p.after (exec py) i d).state.store.nextSequence sid :=
    Store.nextSequence_mono (eventsOf_grow py d p.state sid)
  -- the events of a thread are old, or the event that this call has appended
  have hevents : ∀ j, ∀ ev ∈ (servingAt sid (p.after (exec py) i d).trace j).events,
      ev ∈ (servingAt sid p.trace j).events ∨
        (j = i ∧ ev.sequence = p.state.store.nextSequence sid ∧
          p.state.store.nextSequence sid <
            (p.after (exec py) i d).state.store.nextSequence sid) := by
    intro j ev hev
    rw [hserving] at hev
    by_cases hj : j = i
    · subst hj
      rw [Function.update_self] at hev
      rcases Serving.mem_events_next hmay hev with hold | hnew
      · exact .inl hold
      · exact .inr ⟨rfl, hnew⟩
    · rw [Function.update_of_ne hj] at hev
      exact .inl hev
  constructor
  case single =>
    intro j a ha
    rw [hserving] at ha
    by_cases hj : j = i
    · subst hj
      rw [Function.update_self] at ha
      by_cases hd : ∃ id, d = .completeCommand id
      · obtain ⟨id, rfl⟩ := hd
        rcases List.mem_append.mp ha with hold | hnew
        · exact h.single j a hold
        · rw [List.mem_singleton.mp hnew]
          exact hmay
      · rw [Serving.next_answered fun id hid => hd ⟨id, hid⟩] at ha
        exact h.single j a ha
    · rw [Function.update_of_ne hj] at ha
      exact h.single j a ha
  case below =>
    intro j ev hev
    rcases hevents j ev hev with hold | ⟨-, hseq, hlt⟩
    · exact (h.below j ev hold).trans_le hmono
    · exact hseq ▸ hlt
  case apart =>
    intro j k hjk ev hev ev' hev'
    rcases hevents j ev hev with hold | ⟨rfl, hseq, -⟩
    · rcases hevents k ev' hev' with hold' | ⟨rfl, hseq', -⟩
      · exact h.apart j k hjk ev hold ev' hold'
      · exact hseq' ▸ Nat.ne_of_lt (h.below j ev hold)
    · rcases hevents k ev' hev' with hold' | ⟨rfl, -, -⟩
      · exact hseq ▸ Nat.ne_of_gt (h.below k ev' hold')
      · exact absurd rfl hjk

end Separate

/-! ## Own answers -/

variable [IsStrictOrderedRing T] [FloorRing T] {sends : ι → Send}
  {w : World T} {cfg : Threads ι T Sent} {i : ι}

/-- Any number of threads send commands to one session. -/
def senders (py : Py) (sid : String) (sends : ι → Send) (w : World T) :
    Threads ι T Sent :=
  .start (fun i => (sends i).code py sid) w

/-- Along the run from `first` to `last`, thread `i` claims the commands of the
session when exactly those with the given ids are pending. -/
def ClaimsWhen (py : Py) (sid : String) (first last : Threads ι T Sent) (i : ι)
    (ids : List ℕ) : Prop :=
  ∃ cfg claimedBy k, Reach (system ι py) first cfg ∧
    cfg.threads i = .call (.claimPendingCommands sid claimedBy) k ∧
    Reach (system ι py) (cfg.act (exec py) i _ k) last ∧
    (cfg.point.state.store.pendingOf sid).map CommandRow.id = ids

theorem senders_play (py : Py) (sid : String) (sends : ι → Send)
    (w : World T) :
    Role.AllPlay (fun _ => servingRole T sid) (exec py)
      (fun _ q r => ∀ sent, r = .ok sent → q.Sends sent) (senders py sid sends w) :=
  fun _ => plays_serving_sendCommand _ _ _

omit [IsStrictOrderedRing T] [FloorRing T] in
/-- The outcome of a claim. -/
theorem claimed_after {p : Moment ι T} (hdrawn : p.state.ClaimsDrawn py) (claimedBy : String) :
    (servingAt sid (p.after (exec py) i (.claimPendingCommands sid claimedBy)).trace i).claimed =
      some ((p.state.store.pendingOf sid).map CommandRow.id) := by
  rw [servingAt_after, Function.update_self, exec_claimPendingCommands py hdrawn]
  show some (((p.state.store.pendingOf sid).map _).map CommandRow.id) = _
  rw [List.map_map]
  rfl

/-- A thread has claimed what was pending at the step of its claim. -/
theorem claimed_iff (hdrawn : w.ClaimsDrawn py)
    (hr : Reach (system ι py) (senders py sid sends w) cfg) (ids : List ℕ) :
    (servingAt sid cfg.point.trace i).claimed = some ids ↔
      ClaimsWhen py sid (senders py sid sends w) cfg i ids := by
  have hdrawnAt : ∀ {a}, Reach (system ι py) (senders py sid sends w) a →
      a.point.state.ClaimsDrawn py := by
    intro a ha
    refine ha.point_invariant (P := fun p => p.state.ClaimsDrawn py) hdrawn ?_ ?_
    · exact fun p _ c hp _ => exec_claimsDrawn py c hp
    · rintro p _ hp ⟨t, f, -, rfl⟩
      exact hp
  constructor
  · intro hclaimed
    obtain ⟨a, b, ha, hs, hb, hbefore, hafter⟩ := hr.turn
      (P := fun c => (servingAt sid c.point.trace i).claimed = some ids) (fun h => nomatch h)
      hclaimed
    cases hs with
    | env he => exact absurd hafter hbefore
    | @act j c k hj hal =>
      have hafter' : (servingAt sid (a.point.after (exec py) j c).trace i).claimed = some ids :=
        hafter
      by_cases hij : i = j
      · subst hij
        by_cases hc : ∃ s claimedBy, c = .claimPendingCommands s claimedBy
        · obtain ⟨s, claimedBy, rfl⟩ := hc
          have hmay := ((senders_play py sid sends w).reach (S := system ι py) ha) i
          rw [hj] at hmay
          obtain rfl : s = sid := hmay.1.1
          rw [claimed_after (hdrawnAt ha)] at hafter'
          exact ⟨a, claimedBy, k, ha, hj, hb, Option.some.inj hafter'⟩
        · rw [servingAt_after, Function.update_self,
            Serving.next_claimed fun s by' hd => hc ⟨s, by', hd⟩] at hafter'
          exact absurd hafter' hbefore
      · rw [servingAt_after, Function.update_of_ne hij] at hafter'
        exact absurd hafter' hbefore
  · rintro ⟨a, claimedBy, k, ha, hi, hb, rfl⟩
    have hstep : Step (system ι py) a (a.act (exec py) i _ k) := .act hi trivial
    have hplay := ((senders_play py sid sends w).reach (S := system ι py) ha).step hstep
    -- nobody claims twice
    refine Role.roles_invariant (S := system ι py)
      (P := fun p => (servingAt sid p.trace i).claimed =
        some ((a.point.state.store.pendingOf sid).map CommandRow.id)) hplay hb ?_ ?_ ?_
    · exact claimed_after (hdrawnAt ha) claimedBy
    · rintro p j c hp hmay -
      show (servingAt sid (p.after (exec py) j c).trace i).claimed = _
      rw [servingAt_after]
      by_cases hij : i = j
      · subst hij
        rw [Function.update_self, Serving.next_claimed]
        · exact hp
        · rintro s by' rfl
          cases hp.symm.trans hmay.2
      · rw [Function.update_of_ne hij]
        exact hp
    · rintro p _ hp ⟨t, f, -, rfl⟩
      exact hp

theorem separate_reach (hr : Reach (system ι py) (senders py sid sends w) cfg) :
    Separate sid cfg.point := by
  refine Role.roles_invariant (S := system ι py) (P := fun p => Separate sid p)
    (senders_play py sid sends w) hr (.start w) ?_ ?_
  · exact fun p j c hp hmay _ => hp.call hmay
  · rintro p _ hp ⟨t, f, -, rfl⟩
    exact ⟨hp.single, hp.below, hp.apart⟩

/-- **A caller gets its own answer exactly if it claims its own command alone.**
Let any number of threads send commands to one session, whatever is pending in
it. A call that has returned has returned the events that its command was
answered with if and only if, at the step in which it claimed, its own command
was all that was pending. -/
theorem own_answer_iff (hdrawn : w.ClaimsDrawn py)
    (hr : Reach (system ι py) (senders py sid sends w) cfg) {sent : Sent}
    (hi : cfg.threads i = .pure sent) :
    Answered sid cfg.point.trace sent.commandId sent.events ↔
      ClaimsWhen py sid (senders py sid sends w) cfg i [sent.commandId] := by
  have hplay := senders_play py sid sends w
  obtain ⟨-, hclaimed, hevents⟩ := ((hplay.reach (S := system ι py) hr).returned hi) sent rfl
  have hclaimed' : (servingAt sid cfg.point.trace i).claimed =
      some ((servingAt sid cfg.point.trace i).answered.map Prod.fst) := hclaimed
  have hsep := separate_reach hr
  rw [← claimed_iff hdrawn hr, hclaimed', Option.some_inj]
  change sent.events = (servingAt sid cfg.point.trace i).answered.flatMap Prod.snd at hevents
  have hsingle := hsep.single i
  constructor
  · rintro ⟨j, hj⟩
    obtain ⟨ev, hev⟩ := hsep.single j _ hj
    dsimp only at hev
    -- the one event is the thread's own, so it was the thread that answered
    have hown : ev ∈ (servingAt sid cfg.point.trace i).events := by
      refine List.mem_append_left _ ?_
      rw [← hevents, hev]
      exact List.mem_singleton_self ev
    have hother : ev ∈ (servingAt sid cfg.point.trace j).events := by
      refine List.mem_append_left _ (List.mem_flatMap.mpr ⟨_, hj, ?_⟩)
      rw [hev]
      exact List.mem_singleton_self ev
    have hij : i = j := by
      by_contra hne
      exact hsep.apart i j hne ev hown ev hother rfl
    subst hij
    cases hans : (servingAt sid cfg.point.trace i).answered with
    | nil =>
      rw [hans] at hj
      cases hj
    | cons a rest =>
      rw [hans] at hj hsingle hevents
      obtain ⟨ev₁, hev₁⟩ := hsingle a List.mem_cons_self
      rw [List.flatMap_cons, hev, hev₁] at hevents
      have hrest : rest = [] := by
        refine List.eq_nil_iff_forall_not_mem.mpr fun b hb => ?_
        obtain ⟨ev₂, hev₂⟩ := hsingle b (List.mem_cons_of_mem _ hb)
        have hnil : [] = rest.flatMap Prod.snd := (List.cons.inj hevents).2
        have hmem : ev₂ ∈ rest.flatMap Prod.snd :=
          List.mem_flatMap.mpr ⟨b, hb, hev₂ ▸ List.mem_singleton_self ev₂⟩
        rw [← hnil] at hmem
        cases hmem
      subst hrest
      rw [← List.mem_singleton.mp hj]
      rfl
  · intro hids
    refine ⟨i, ?_⟩
    obtain ⟨a, hans, hid⟩ := List.map_eq_singleton_iff.mp hids
    rw [hans] at hevents ⊢
    rw [hevents, List.mem_singleton, List.flatMap_singleton]
    exact Prod.ext hid.symm rfl

end Runs

/-! ## Samples -/

/-- What an `echo` says. -/
def Event.text (ev : Event) : String :=
  match ev.payload with
  | .obj [(_, .str text)] => text
  | _ => ""

/-- A session in which a command of someone else is pending. -/
def aliceWaits : World ℚ :=
  ((call (.enqueueCommand "s" "echo" (.obj [("text", .str "for alice")]) (some "alice"))).run
    (exec Py.sample) oneSession).2

/-- Senders of one word each, under a schedule. -/
def sendersOf {ι : Type} [DecidableEq ι] (words : ι → String) (w : World ℚ) (schedule : List ι) :
    Threads ι ℚ Sent :=
  execute (exec Py.sample) schedule
    (senders Py.sample "s" (fun i => ⟨"echo", .obj [("text", .str (words i))], none⟩) w)

/-- A caller is given the answer of someone else with its own. Of two callers
that enqueue before either claims, one is given both answers, the other none. -/
theorem answers_of_others :
    (let cfg := sendersOf (fun _ : Unit => "mine") aliceWaits (List.replicate 30 ())
      ∃ sent, cfg.threads () = .pure sent ∧ sent.commandId = 2 ∧
        sent.events.map Event.text = ["for alice", "mine"] ∧
        ¬ Answered "s" cfg.point.trace sent.commandId sent.events) ∧
    (let cfg := sendersOf (fun b : Bool => if b then "a" else "b") oneSession
        (List.replicate 5 true ++ List.replicate 20 false ++ List.replicate 30 true)
      ∃ sent, cfg.threads true = .pure sent ∧ sent.commandId = 1 ∧ sent.events = [] ∧
        ¬ Answered "s" cfg.point.trace sent.commandId sent.events) := by
  have hlength : ∀ {ι : Type} [DecidableEq ι] (words : ι → String) w schedule id events,
      Answered "s" (sendersOf words w schedule).point.trace id events → events.length = 1 := by
    rintro ι _ words w schedule id events ⟨i, hi⟩
    have hr : Reach (system ι Py.sample) (senders Py.sample "s"
        (fun i => ⟨"echo", .obj [("text", .str (words i))], none⟩) w)
        (sendersOf words w schedule) := reach_execute (fun _ _ _ => trivial) _ _
    obtain ⟨ev, hev⟩ := (separate_reach hr).single i _ hi
    exact congrArg List.length hev
  constructor
  · intro cfg
    have hrun : (cfg.threads ()).value?.map (fun sent =>
        (sent.commandId, sent.events.map Event.text)) = some (2, ["for alice", "mine"]) := by
      decide +kernel
    obtain ⟨sent, hsent, hout⟩ := Option.map_eq_some_iff.mp hrun
    obtain ⟨hid, htext⟩ := Prod.mk.inj hout
    refine ⟨sent, Prog.eq_pure_of_value? hsent, hid, htext, fun h => ?_⟩
    have htwo := congrArg List.length htext
    rw [List.length_map, hlength _ _ _ _ _ h] at htwo
    cases htwo
  · intro cfg
    have hrun : (cfg.threads true).value?.map (fun sent =>
        (sent.commandId, sent.events.map Event.text)) = some (1, []) := by decide +kernel
    obtain ⟨sent, hsent, hout⟩ := Option.map_eq_some_iff.mp hrun
    obtain ⟨hid, htext⟩ := Prod.mk.inj hout
    have hnil := List.map_eq_nil_iff.mp htext
    refine ⟨sent, Prog.eq_pure_of_value? hsent, hid, hnil, fun h => ?_⟩
    have hone := hlength _ _ _ _ _ h
    rw [hnil] at hone
    cases hone

/-- With nothing else pending a caller gets its answer. -/
theorem own_answer_iff_sample :
    let cfg := sendersOf (fun _ : Unit => "mine") oneSession (List.replicate 30 ())
    ∃ sent, cfg.threads () = .pure sent ∧ sent.events.map Event.text = ["mine"] ∧
      Answered "s" cfg.point.trace sent.commandId sent.events := by
  intro cfg
  have hrun : (cfg.threads ()).value?.map (fun sent =>
      (sent.commandId, sent.events.map Event.text)) = some (1, ["mine"]) := by decide +kernel
  obtain ⟨sent, hsent, hout⟩ := Option.map_eq_some_iff.mp hrun
  obtain ⟨hid, htext⟩ := Prod.mk.inj hout
  have hdrawn : oneSession.ClaimsDrawn Py.sample := by
    have hempty : oneSession.store.commandInbox.rows.length = 0 := by decide +kernel
    intro row hrow
    rw [Data.Serial.mem_def, List.eq_nil_of_length_eq_zero hempty] at hrow
    cases hrow
  have hr : Reach (system Unit Py.sample) (senders Py.sample "s"
      (fun _ => ⟨"echo", .obj [("text", .str "mine")], none⟩) oneSession) cfg :=
    reach_execute (fun _ _ _ => trivial) _ _
  have hclaimed : (servingAt "s" cfg.point.trace ()).claimed = some [1] := by decide +kernel
  refine ⟨sent, Prog.eq_pure_of_value? hsent, htext,
    (own_answer_iff hdrawn hr (Prog.eq_pure_of_value? hsent)).mpr ?_⟩
  rw [hid]
  exact (claimed_iff hdrawn hr [1]).mp hclaimed

end Nadi
