import Nadi.Chat.Bot
import Nadi.EventCap
import Nadi.Responses
import Nadi.Restarts

/-!
# The stack behind a bot

`Conversing` relates the tables to a `Bot`. Sending to the session of a conversation
keeps it: the command is the only one that waits, so that it is answered at once, and
the log is two events longer at most.
-/

namespace Nadi

open Effect

variable {T : Type}

/-! ## One command -/

section Command

variable [Field T] [LinearOrder T] [IsStrictOrderedRing T] [FloorRing T] {py : Py} {tm : Timing T}
  {s : Ticking T} {sid : String}

/-- What a command comes to that is the only one: its session is left with nothing to do and
up to two more events, which can be replayed; and what is said is made of the last. -/
structure Served (py : Py) (sid answer : String) (st : Store T) (r : Except PyErr (List Event))
    (st' : Store T) : Prop where
  idle : st'.pendingOf sid = []
  log : (st'.eventsOf sid).length ≤ (st.eventsOf sid).length + 2
  payloads : (∀ ev ∈ st.eventsOf sid, ev.payload.isObj = true) →
    ∀ ev ∈ st'.eventsOf sid, ev.payload.isObj = true
  raises : ∀ e, r = .error e → answer = ""
  returns : ∀ evs, r = .ok evs → extractReplyText py (evs.map Event.dict) false = .ok answer

variable (py tm) in
omit [IsStrictOrderedRing T] [FloorRing T] in
/-- An event is added to the log of its session, and no command. -/
theorem run_appendEvent_log (c : Celld) (eventType : String) {payload : Json}
    (hses : s.world.store.hasSession sid = true) (hobj : payload.isObj = true) :
    ∃ n s', (c.appendEvent sid eventType payload).run (timed py tm) s =
        (.ok ⟨sid, n, eventType, payload, none⟩, s') ∧
      s'.reading = s.reading + 1 ∧ s'.world.store.hasSession sid = true ∧
      s'.world.store.commandInbox = s.world.store.commandInbox ∧
      ∃ row, row.payload = payload ∧
        s'.world.store.eventsOf sid = s.world.store.eventsOf sid ++ [row] := by
  obtain ⟨heap, hrun, -⟩ : ∃ heap, (c.appendEvent sid eventType payload).run (timed py tm) s = _ ∧
      _ := run_appendEvent py tm c hses (Json.orEmpty_isObj hobj)
  rw [Json.orEmpty_of_isObj hobj] at hrun
  have happend : s.world.store.appendEvent (tm.now s.reading) sid eventType payload none = _ :=
    Store.appendEvent_eq hses
  have hlog := Store.eventsOf_append happend sid
  rw [if_pos rfl] at hlog
  refine ⟨_, _, hrun, rfl, hses, rfl, _, ?_, hlog⟩
  show payload.orEmpty = payload
  exact Json.orEmpty_of_isObj hobj

omit [Field T] [LinearOrder T] [IsStrictOrderedRing T] [FloorRing T] in
theorem Store.pendingOf_congr {st st' : Store T} (h : st'.commandInbox = st.commandInbox)
    (sid : String) : st'.pendingOf sid = st.pendingOf sid := by
  unfold pendingOf
  rw [h]

omit [Field T] [LinearOrder T] [IsStrictOrderedRing T] [FloorRing T] in
theorem Store.eventsOf_congr {st st' : Store T} (h : st'.events = st.events) (sid : String) :
    st'.eventsOf sid = st.eventsOf sid := by
  unfold eventsOf
  rw [h]

omit [Field T] [LinearOrder T] [IsStrictOrderedRing T] [FloorRing T] in
/-- Where nothing waits, nothing does after a command has been completed. -/
theorem Store.completeCommand_idle {st : Store T} (h : st.pendingOf sid = []) (t : T) (id : ℕ) :
    (st.completeCommand t id).pendingOf sid = [] := by
  have hle := pendingOf_length_map sid st (st.completeCommand t id) _ (inboxOf_completeCommand ..)
    fun cmd hcmd => by
      split at hcmd
      · cases hcmd
      · exact hcmd
  rw [h] at hle
  exact List.length_eq_zero_iff.mp (Nat.le_zero.mp hle)

theorem forall_mem_concat {α : Type} {P : α → Prop} {l : List α} {a : α} (hl : ∀ b ∈ l, P b)
    (ha : P a) : ∀ b ∈ l ++ [a], P b :=
  List.forall_mem_append.mpr ⟨hl, List.forall_mem_singleton.mpr ha⟩

variable (py tm) in
/-- **The loop** over the one command that a bot has sent. -/
theorem consumeLoop_serves (c : Celld) (token : String) (bot : ChatBot) (message : ChatMessage)
    (cmd : CommandRow T) (hses : s.world.store.hasSession sid = true)
    (hidle : s.world.store.pendingOf sid = [])
    (htype : cmd.commandType = (bot.send message).commandType)
    (hpayload : cmd.payload = (bot.send message).payload) :
    ∃ r s', (c.consumeLoop py sid token [cmd]).run (timed py tm) s = (r, s') ∧
      Served py sid (answered bot.commandType message.text) s.world.store r s'.world.store := by
  obtain ⟨n₁, s₁, hreceived, -, hses₁, hinbox₁, row₁, hrow₁, hlog₁⟩ := run_appendEvent_log py
    tm c "command.received" hses (show (Celld.received cmd).isObj = true from rfl)
  unfold Celld.consumeLoop
  simp only [Prog.bind_eq, Prog.pure_eq]
  rw [Prog.run_bind_ok _ hreceived, htype, hpayload]
  have hsilent := run_silent py tm (s := s₁)
    (handle_silent py c.sandboxd sid token (bot.send message).commandType (bot.send message).payload)
  rcases hhandle : (Runtime.handle py c.sandboxd sid token (bot.send message).commandType
    (bot.send message).payload).run (timed py tm) s₁ with ⟨e | outs, s₂⟩
  · obtain ⟨hraises, -⟩ := handle_answers py sid 0 tm c.sandboxd token bot message hhandle
    rw [hhandle] at hsilent
    obtain ⟨hevents, hinbox⟩ := hsilent
    have hlog₂ : s₂.world.store.eventsOf sid = s.world.store.eventsOf sid ++ [row₁] :=
      (Store.eventsOf_congr hevents sid).trans hlog₁
    refine ⟨_, _, Prog.run_bind_error _ hhandle, ?_, ?_, ?_, fun _ _ => hraises e rfl,
      fun _ h => (by cases h)⟩
    · exact (Store.pendingOf_congr (hinbox.trans hinbox₁) sid).trans hidle
    · rw [hlog₂, List.length_append, List.length_singleton]
      omega
    · rw [hlog₂]
      exact fun hold => forall_mem_concat hold (hrow₁ ▸ rfl)
  · rw [hhandle] at hsilent
    obtain ⟨hevents, hinbox⟩ := hsilent
    have hses₂ := run_hasSession py tm (Runtime.handle py c.sandboxd sid token
      (bot.send message).commandType (bot.send message).payload) hses₁
    rw [hhandle] at hses₂
    obtain ⟨out, rfl, hobj, -⟩ :=
      (handle_answers py sid 0 tm c.sandboxd token bot message hhandle).2 outs rfl
    -- the event of the handler
    obtain ⟨n₂, s₃, hout, -, -, hinbox₃, row₂, hrow₂, hlog₃⟩ := run_appendEvent_log py tm c
      out.1 hses₂ hobj
    obtain ⟨out', hout', -, hreply⟩ :=
      (handle_answers py sid n₂ tm c.sandboxd token bot message hhandle).2 [out] rfl
    obtain rfl := List.singleton_inj.mp hout'
    obtain ⟨s₄, hcomplete, hstore₄⟩ : ∃ s₄,
        (call (.completeCommand cmd.id)).run (timed py tm) s₃ = (.ok (), s₄) ∧
          s₄.world.store = s₃.world.store.completeCommand (tm.now s₃.reading) cmd.id :=
      ⟨_, rfl, rfl⟩
    have houts : (c.appendEvents sid [out]).run (timed py tm) s₂ =
        (.ok [⟨sid, n₂, out.1, out.2, none⟩], s₃) := Prog.run_bind_ok _ hout
    have hlog₄ : s₄.world.store.eventsOf sid = s.world.store.eventsOf sid ++ [row₁] ++ [row₂] := by
      have hsame : s₄.world.store.eventsOf sid = s₃.world.store.eventsOf sid := by
        rw [hstore₄]
        rfl
      rw [hsame, hlog₃, Store.eventsOf_congr hevents sid, hlog₁]
    refine ⟨.ok [⟨sid, n₂, out.1, out.2, none⟩], s₄, ?_, ?_, ?_, ?_, fun _ h => (by cases h),
      fun evs h => ?_⟩
    · rw [Prog.run_bind_ok _ hhandle, Prog.run_bind_ok _ houts, Prog.run_bind_ok _ hcomplete]
      rfl
    · rw [hstore₄]
      refine Store.completeCommand_idle ?_ _ _
      exact (Store.pendingOf_congr (hinbox₃.trans (hinbox.trans hinbox₁)) sid).trans hidle
    · rw [hlog₄, List.length_append, List.length_append, List.length_singleton,
        List.length_singleton]
    · rw [hlog₄]
      exact fun hold => forall_mem_concat (forall_mem_concat hold (hrow₁ ▸ rfl)) (hrow₂ ▸ hobj)
    · obtain rfl := Except.ok.inj h
      exact hreply

variable (tm) in
/-- **Consuming** it, with the cell that is there or one that is rebuilt. -/
theorem consumeCommands_serves (c : Celld) (bot : ChatBot) (message : ChatMessage)
    {cmd : CommandRow T} (hrooted : s.world.Rooted py)
    (hses : s.world.store.hasSession sid = true)
    (hobj : ∀ ev ∈ s.world.store.eventsOf sid, ev.payload.isObj = true)
    (hwaits : s.world.store.pendingOf sid = [cmd])
    (htype : cmd.commandType = (bot.send message).commandType)
    (hpayload : cmd.payload = (bot.send message).payload) :
    ∃ r s', (c.consumeCommands py sid).run (timed py tm) s = (r, s') ∧
      Served py sid (answered bot.commandType message.text) s.world.store r s'.world.store := by
  -- the cell
  obtain ⟨s₁, hreading, hstore, hids, hlive⟩ := run_liveCell_cases py tm c sid s
  have hcell : ∃ cell, (c.liveCell py sid).run (timed py tm) s = (.ok cell, s₁) := by
    have hlog : s.world.store.getEvents sid 0 = s.world.store.eventsOf sid :=
      hrooted.contiguous.getEvents sid 0
    obtain ⟨done, hdone⟩ := replay_of_isObj hobj .initial
    rw [← hlog] at hdone
    rw [hdone] at hlive
    cases hcell : s.world.cells c.ref sid with
    | some cell =>
      rw [hcell] at hlive
      exact ⟨_, hlive⟩
    | none =>
      rw [hcell] at hlive
      exact ⟨_, hlive⟩
  obtain ⟨cell, hcell⟩ := hcell
  -- the claim
  have hclaims : s₁.world.ClaimsDrawn py := by
    unfold World.ClaimsDrawn
    rw [hstore, hids]
    exact hrooted.sound.claims
  obtain ⟨s₂, hclaim, -, -, hstore₂⟩ := run_claimPendingCommands py tm c sid s₁ hclaims
  rw [hstore] at hclaim hstore₂
  rw [hwaits] at hclaim
  have hidle : s₂.world.store.pendingOf sid = [] := by
    rw [hstore₂]
    exact List.length_eq_zero_iff.mp (Store.pendingOf_claimPendingCommands sid _ _ _ _)
  have hlog : s₂.world.store.eventsOf sid = s.world.store.eventsOf sid := by
    rw [hstore₂]
    rfl
  have hses₂ : s₂.world.store.hasSession sid = true := by
    rw [hstore₂]
    exact hses
  obtain ⟨r, s', hloop, hserved⟩ := consumeLoop_serves py tm c cell.jwt bot message
    (Store.claimRow (tm.now s₁.reading) c.hostId (s₁.world.fresh py .claimToken) cmd) hses₂ hidle
    htype hpayload
  refine ⟨r, s', ?_, hserved.idle, ?_, ?_, hserved.raises, hserved.returns⟩
  · unfold Celld.consumeCommands
    simp only [Prog.bind_eq]
    rw [Prog.run_bind_ok _ hcell, Prog.run_bind_ok _ hclaim]
    exact hloop
  · rw [← hlog]
    exact hserved.log
  · rw [← hlog]
    exact hserved.payloads

end Command

/-! ## The stack behind the bots -/

/-- When the conversation of a channel ends, as the tables have it. -/
def Store.endsOf (st : Store T) (key : String × String × String) : Option T :=
  (st.channels.find? key).bind fun row =>
    (st.sessionLeases.find? row.sessionId).map LeaseRow.expiresAt

/-- A session with a short log that can be replayed, and with nothing to do unless its
route has expired. -/
structure Tidy [LT T] (n : ℕ) (now : T) (st : Store T) (sid : String) : Prop where
  log : (st.eventsOf sid).length ≤ n
  payloads : ∀ ev ∈ st.eventsOf sid, ev.payload.isObj = true
  idle : ∀ lease, st.sessionLeases.find? sid = some lease → now < lease.expiresAt →
    st.pendingOf sid = []

/-- What every program leaves that registers nothing. -/
structure Working (py : Py) (cwd : List String) [Field T] [LinearOrder T] (w : World T) : Prop where
  rooted : w.Rooted py
  launched : Launched cwd w
  channelIds : ∀ row ∈ w.store.channels, ∀ n, w.drawn .channel ≤ n → row.id ≠ py.uuid4 .channel n

/-- **The stack behind a bot**, at a time not before `now`: the one host has a slot taken
for each message, and the conversations end when the leases of their sessions do. -/
structure Conversing (py : Py) (cwd : List String) [Field T] [LinearOrder T] (now : T) (b : Bot T)
    (w : World T) : Prop extends Working py cwd w where
  slots : w.store.cellHosts.rows.map CellHostRow.capacityUsed = [b.taken]
  leased : ∀ row ∈ w.store.channels, (w.store.sessionLeases.find? row.sessionId).isSome = true
  ends : ∀ key, w.store.endsOf key = b.ends key
  sessions : ∀ sid, Tidy (2 * b.taken + 1) now w.store sid

section Stack

variable [Field T] [LinearOrder T] {py : Py} {cwd : List String} {now later : T} {b : Bot T}
  {w w' : World T}

omit [Field T] in
/-- A session whose log, inbox and lease stay the same stays tidy. -/
theorem Tidy.congr {n n' : ℕ} {st st' : Store T} {sid : String} (h : Tidy n now st sid)
    (hlog : st'.eventsOf sid = st.eventsOf sid) (hinbox : st'.inboxOf sid = st.inboxOf sid)
    (hlease : st'.sessionLeases.find? sid = st.sessionLeases.find? sid) (hn : n ≤ n')
    (hle : now ≤ later) : Tidy n' later st' sid := by
  refine ⟨?_, ?_, fun lease hfound hexp => ?_⟩
  · rw [hlog]
    exact h.log.trans hn
  · rw [hlog]
    exact h.payloads
  · rw [hlease] at hfound
    rw [Store.pendingOf_eq_filter, hinbox, ← Store.pendingOf_eq_filter]
    exact h.idle lease hfound (hle.trans_lt hexp)

omit [Field T] in
/-- One that is not touched, in particular. -/
theorem Tidy.untouched {n n' : ℕ} {st st' : Store T} {sid : String} (h : Tidy n now st sid)
    (hsame : st.Untouched sid st') (hn : n ≤ n') (hle : now ≤ later) : Tidy n' later st' sid :=
  h.congr hsame.log hsame.inbox hsame.lease hn hle

theorem Conversing.wait (h : Conversing py cwd now b w) (hle : now ≤ later) :
    Conversing py cwd later b w :=
  ⟨h.toWorking, h.slots, h.leased, h.ends, fun sid =>
    (h.sessions sid).congr rfl rfl rfl (Nat.le_refl _) hle⟩

/-- A program that registers nothing. -/
theorem Working.run (tm : Timing T) {s : Ticking T} (h : Working py cwd s.world) {α : Type}
    {post : α → Prop} {p : Code T α}
    (hp : p.Within (fun c => c.settled = true ∨ c = .chooseCellHost) post) :
    Working py cwd (p.run (timed py tm) s).2.world where
  rooted := run_rooted py tm p h.rooted
  launched := by
    refine run_timed_store py tm s hp (I := Launched cwd) (fun _ _ _ h => ?_)
      (fun _ _ hc h => exec_launched h hc) h.launched
    exact ⟨h.callbacks, h.objects, h.cellHost, h.cellHosts, h.sandboxHost, h.sandboxHosts⟩
  channelIds := by
    refine run_timed_store py tm s hp (I := fun w => ∀ row ∈ w.store.channels, ∀ n,
      w.drawn .channel ≤ n → row.id ≠ py.uuid4 .channel n) (fun _ _ _ h => h)
      (fun c _ _ h => exec_channelIds py c h) h.channelIds

/-- A lease is on the one host, which is the host of the one `celld`. -/
theorem Conversing.host (h : Conversing py cwd now b w) :
    ∃ host : CellHostRow T, w.store.cellHosts.rows = [host] ∧ host.hostId = "cell-local" ∧
      host.status = .ready ∧ host.capacityTotal = 100 ∧ host.capacityUsed = b.taken := by
  obtain ⟨host, hrows⟩ := List.length_eq_one_iff.mp
    ((List.length_map _).symm.trans (congrArg List.length h.slots))
  obtain ⟨known, hknown, hname⟩ := h.launched.cellHost
  have hmem : known ∈ w.store.cellHosts.rows := hknown
  rw [hrows] at hmem
  obtain rfl := List.mem_singleton.mp hmem
  obtain ⟨-, -, htotal, hready, -⟩ := h.launched.cellHosts known hknown hname
  have hused := h.slots
  rw [hrows] at hused
  exact ⟨known, hrows, hname, hready, htotal, (List.cons.inj hused).1⟩

/-- A session with a lease has a route until it expires, to the one `celld`. -/
theorem Conversing.route (h : Conversing py cwd now b w) {sid : String} {lease : LeaseRow T}
    (hlease : w.store.sessionLeases.find? sid = some lease) (t : T) :
    ((w.store.getRoute t sid).isSome = true ↔ t < lease.expiresAt) ∧
      ∀ route, w.store.getRoute t sid = some route → w.objects route.hostId = some (localCelld cwd) := by
  obtain ⟨host, hrows, hname, -⟩ := h.host
  obtain ⟨hmem, -⟩ := Data.Table.find?_eq_some.mp hlease
  obtain ⟨-, hhost⟩ := h.rooted.linked lease hmem
  refine ⟨Store.getRoute_isSome hlease hhost, fun route hroute => ?_⟩
  obtain ⟨l, -, owner, howner, hhostId⟩ := Store.ownerOf_eq_some.mp (Store.getRoute_ownerOf hroute)
  have howner' := (Data.Table.find?_eq_some.mp howner).1
  have hmem : owner ∈ w.store.cellHosts.rows := howner'
  rw [hrows] at hmem
  obtain rfl := List.mem_singleton.mp hmem
  rw [h.launched.objects, ← hhostId, hname]
  exact Function.update_self _ _ _

end Stack

/-! ## Sending -/

section Sending

variable [Field T] [LinearOrder T] [IsStrictOrderedRing T] [FloorRing T] {py : Py}
  {cwd : List String} {tm : Timing T} {now : T} {b : Bot T} {s : Ticking T} {sid : String}

/-- What a program comes to is said, unless it raises or there is nothing to say. -/
def said : Except PyErr String → Option String
  | .ok answer => posted answer
  | .error _ => none

/-- Sending writes neither hosts nor leases nor channels. -/
theorem sendCommand_keeps (py : Py) (sid commandType : String) (payload : Json) (actor : Option String)
    {part : Part} (hpart : part = .hosts ∨ part = .leases ∨ part = .channels) :
    (Gateway.sendCommand py sid commandType payload actor : Code T Sent).Within
      (fun c => c.writes part = false) fun _ => True := by
  have hrouting : ∀ {c : Call T}, c.ofRouting sid → c.writes part = false := by
    intro c hc
    rcases hpart with rfl | rfl | rfl <;> cases c <;> first | rfl | exact hc.elim
  have hconsumption : ∀ {celld : Celld} {c : Call T}, c.ofConsumption celld sid →
      c.writes part = false := by
    intro celld c hc
    rcases hpart with rfl | rfl | rfl <;> cases c <;>
      first | rfl | exact hc.elim (fun h => h.elim) fun h => h.elim (fun h => h.elim) fun h => h.elim
  refine .bind ((Gateway.route_within sid).mono_calls fun _ h => hrouting h) fun _ _ => ?_
  refine .bind (.perform ?_ fun _ => trivial) fun commandId _ => ?_
  · rcases hpart with rfl | rfl | rfl <;> rfl
  refine .bind ((Broker.celldForRoute_within sid).mono_calls fun _ h => hrouting h)
    fun celld _ => ?_
  exact .bind ((celld.consumeCommands_within py sid).mono_calls fun _ h => hconsumption h)
    fun _ _ => trivial

/-- What sending leaves, but for the session that is sent to. -/
theorem Conversing.after_send (h : Conversing py cwd now b s.world) {later : T} (hle : now ≤ later)
    (send : Send) {r : Except PyErr Sent} {s' : Ticking T}
    (hrun : (send.code py sid).run (timed py tm) s = (r, s'))
    (htidy : Tidy (2 * b.taken + 1) later s'.world.store sid) :
    Conversing py cwd later b s'.world := by
  have hkeeps : ∀ {part : Part}, part = .hosts ∨ part = .leases ∨ part = .channels →
      Agree part s.world s'.world :=
    fun hpart => agree_of_run py tm (sendCommand_keeps py sid _ _ _ hpart) hrun fun _ hc => hc
  have hhosts : s'.world.store.cellHosts = s.world.store.cellHosts := hkeeps (.inl rfl)
  have hleases : s'.world.store.sessionLeases = s.world.store.sessionLeases :=
    hkeeps (.inr (.inl rfl))
  have hchannels : s'.world.store.channels = s.world.store.channels := hkeeps (.inr (.inr rfl))
  have hworking := h.toWorking.run tm ((Gateway.sendCommand_settled py sid send.commandType
    send.payload send.actorResourceId).mono_calls fun _ hc => Or.inl hc)
  have hothers : ∀ sid' ≠ sid, s.world.store.Untouched sid' s'.world.store := by
    intro sid' hne
    have huntouched := sendCommand_untouched py tm (s := s) h.rooted.sound.claims send.commandType
      send.payload send.actorResourceId hne
    have hrun : (Gateway.sendCommand py sid send.commandType send.payload send.actorResourceId).run
      (timed py tm) s = (r, s') := hrun
    rwa [hrun] at huntouched
  have hrun : (Gateway.sendCommand py sid send.commandType send.payload send.actorResourceId).run
    (timed py tm) s = (r, s') := hrun
  rw [hrun] at hworking
  refine ⟨hworking, ?_, ?_, fun key => ?_, fun sid' => ?_⟩
  · rw [hhosts]
    exact h.slots
  · rw [hchannels, hleases]
    exact h.leased
  · unfold Store.endsOf
    rw [hchannels, hleases]
    exact h.ends key
  · by_cases hsid : sid' = sid
    · exact hsid ▸ htidy
    · exact (h.sessions sid').untouched (hothers sid' hsid) (Nat.le_refl _) hle

omit [IsStrictOrderedRing T] [FloorRing T] in
/-- A command is admitted while the lease lasts. -/
theorem Conversing.admits {w : World T} (h : Conversing py cwd now b w)
    (htaken : b.taken ≤ Bot.capacity) {lease : LeaseRow T}
    (hlease : w.store.sessionLeases.find? sid = some lease)
    (hroom : (w.store.eventsOf sid).length + 2 ≤ 2 * b.taken + 1) {t : T} (hle : now ≤ t)
    (hlt : t < lease.expiresAt) : w.store.Admits t sid := by
  obtain ⟨hmem, rfl⟩ := Data.Table.find?_eq_some.mp hlease
  refine ⟨(h.route hlease _).1.mpr hlt, ?_, ?_, (h.rooted.linked lease hmem).1⟩
  · rw [(h.sessions _).idle lease hlease (hle.trans_lt hlt)]
    exact Nat.zero_lt_succ _
  · have htaken : b.taken ≤ 100 := htaken
    have hroom : (w.store.eventsOf lease.sessionId).length + 2 ≤ 2 * b.taken + 1 := hroom
    show _ < 10000
    omega

variable (tm) in
/-- **Delivered**: the command that waits in the session is answered. -/
theorem Conversing.answers (h : Conversing py cwd now b s.world)
    (hses : s.world.store.hasSession sid = true)
    (hroom : (s.world.store.eventsOf sid).length + 2 ≤ 2 * b.taken + 1) {later : T}
    (bot : ChatBot) (message : ChatMessage) {id : ℕ} {st : Store T} {s₂ : Ticking T}
    (henqueue : s.world.store.enqueueCommand later sid (bot.send message).commandType
      (bot.send message).payload.orEmpty (bot.send message).actorResourceId = .ok (id, st))
    (hidle : s.world.store.pendingOf sid = [])
    (hdeliver : ((bot.send message).deliver sid).run (timed py tm) s =
      (.ok (id, localCelld cwd), s₂)) (hstore : s₂.world.store = st) :
    ∃ r s', ((bot.send message).code py sid).run (timed py tm) s = (r, s') ∧
      (∀ t, Tidy (2 * b.taken + 1) t s'.world.store sid) ∧
      said (r.bind fun sent => extractReplyText py (sent.events.map Event.dict) false) =
        posted (answered bot.commandType message.text) := by
  have htidy := h.sessions sid
  obtain ⟨-, -, -, -, hst⟩ := Store.enqueueCommand_ok henqueue
  have hevents : st.eventsOf sid = s.world.store.eventsOf sid := by
    rw [hst]
    rfl
  -- the command is the only one that waits
  have hwaits := Store.pendingOf_enqueue henqueue sid
  rw [hidle, if_pos rfl, List.nil_append] at hwaits
  have hrooted := run_rooted py tm ((bot.send message).deliver sid) h.rooted
  rw [hdeliver] at hrooted
  obtain ⟨r, s', hconsume, hserved⟩ := consumeCommands_serves tm (localCelld cwd) bot message
    hrooted (hstore.symm ▸ hst ▸ hses) (hstore.symm ▸ hevents.symm ▸ htidy.payloads)
    (hstore.symm ▸ hwaits) rfl rfl
  rw [hstore] at hserved
  have hafter : ∀ t, Tidy (2 * b.taken + 1) t s'.world.store sid := by
    refine fun t => ⟨?_, hserved.payloads (hevents ▸ htidy.payloads), fun _ _ _ => hserved.idle⟩
    have hlog := hserved.log
    rw [hevents] at hlog
    exact hlog.trans hroom
  cases r with
  | error e =>
    refine ⟨.error e, s', ?_, hafter, ?_⟩
    · rw [Send.code_eq, Prog.run_bind_ok _ hdeliver]
      exact Prog.run_bind_error _ hconsume
    · rw [hserved.raises e rfl]
      rfl
  | ok evs =>
    refine ⟨.ok ⟨id, evs⟩, s', ?_, hafter, ?_⟩
    · rw [Send.code_eq, Prog.run_bind_ok _ hdeliver]
      exact Prog.run_bind_ok _ hconsume
    · show said (extractReplyText py (evs.map Event.dict) false) = _
      rw [hserved.returns evs rfl]
      rfl

variable (tm) in
/-- **Sending** to the session of a conversation: it is answered if its lease has not
expired when the broker looks for the `celld`. -/
theorem Conversing.send (h : Conversing py cwd now b s.world) (hnow : now ≤ tm.now s.reading)
    (htaken : b.taken ≤ Bot.capacity) {lease : LeaseRow T}
    (hlease : s.world.store.sessionLeases.find? sid = some lease)
    (hroom : (s.world.store.eventsOf sid).length + 2 ≤ 2 * b.taken + 1)
    (bot : ChatBot) (message : ChatMessage) :
    ∃ r s', ((bot.send message).code py sid).run (timed py tm) s = (r, s') ∧
      Conversing py cwd (tm.now (s.reading + 2)) b s'.world ∧
      said (r.bind fun sent => extractReplyText py (sent.events.map Event.dict) false) =
        if tm.now (s.reading + 2) < lease.expiresAt then
          posted (answered bot.commandType message.text) else none := by
  have hlate : tm.now s.reading ≤ tm.now (s.reading + 2) := tm.now_mono (Nat.le_add_right _ _)
  have hle := hnow.trans hlate
  have htidy := h.sessions sid
  by_cases hadmits : s.world.store.Admits (tm.now s.reading) sid
  swap
  · -- it is refused, so the lease has expired
    have hexpired : ¬ tm.now (s.reading + 2) < lease.expiresAt := fun hlt =>
      hadmits (h.admits htaken hlease hroom hnow (hlate.trans_lt hlt))
    obtain ⟨e, s', hrun, hstore⟩ := sendCommand_refused py tm (bot.send message).commandType
      (bot.send message).payload (bot.send message).actorResourceId hadmits
    have hrun : ((bot.send message).code py sid).run (timed py tm) s = (.error e, s') := hrun
    refine ⟨_, _, hrun, h.after_send hle _ hrun ?_, ?_⟩
    · rw [hstore]
      exact htidy.untouched (.refl _) (Nat.le_refl _) hle
    · rw [if_neg hexpired]
      rfl
  obtain ⟨st, s₂, henqueue, hdeliver, hreading, hstore, hobjects, -, hdrawn⟩ :=
    run_deliver_admitted py tm (bot.send message) hadmits
  obtain ⟨-, -, -, -, hst⟩ := Store.enqueueCommand_ok henqueue
  have hcelld := run_celldForRoute py tm sid s₂
  have hroute : s₂.world.store.getRoute (tm.now s₂.reading) sid =
      s.world.store.getRoute (tm.now (s.reading + 2)) sid := by
    rw [hreading, hstore, hst]
    rfl
  rw [hroute, hobjects] at hcelld
  obtain ⟨hactive, hobject⟩ := h.route hlease (tm.now (s.reading + 2))
  have hleft : (s₂.ready tm).store = st := hstore
  cases hfound : s.world.store.getRoute (tm.now (s.reading + 2)) sid with
  | none =>
    -- the lease has expired since, and the command waits for ever
    rw [hfound] at hcelld hactive
    have hexpired : ¬ tm.now (s.reading + 2) < lease.expiresAt := fun hlt => nomatch hactive.mpr hlt
    rw [Prog.run_bind_error _ hcelld] at hdeliver
    have hrun : ((bot.send message).code py sid).run (timed py tm) s =
        (.error (.runtimeError "no active route"), ⟨s₂.reading + 1, s₂.ready tm⟩) := by
      rw [Send.code_eq]
      exact Prog.run_bind_error _ hdeliver
    refine ⟨_, _, hrun, h.after_send hle (bot.send message) hrun ?_, ?_⟩
    · dsimp only
      rw [hleft, hst]
      refine ⟨htidy.log, htidy.payloads, fun lease' hlease' hlt => ?_⟩
      have hlease' : s.world.store.sessionLeases.find? sid = some lease' := hlease'
      rw [hlease] at hlease'
      exact absurd (Option.some.inj hlease' ▸ hlt) hexpired
    · rw [if_neg hexpired]
      rfl
  | some route =>
    rw [hfound] at hcelld hactive
    dsimp only at hcelld
    rw [hobject route hfound] at hcelld
    rw [Prog.run_bind_ok _ hcelld, Prog.run_pure] at hdeliver
    have hlt : tm.now (s.reading + 2) < lease.expiresAt := hactive.mp rfl
    obtain ⟨r, s', hrun, hafter, hsaid⟩ := h.answers tm hadmits.2.2.2 hroom bot message henqueue
      (htidy.idle lease hlease (hle.trans_lt hlt)) hdeliver hleft
    refine ⟨r, s', hrun, h.after_send hle _ hrun (hafter _), ?_⟩
    rw [if_pos hlt]
    exact hsaid

end Sending

end Nadi
