import Nadi.ChannelCall
import Nadi.EventLog
import Mathlib.Data.Rat.Floor

/-!
# Channel sessions converge

Any number of channel calls run at once, on any keys. The invariant
`ChannelInv` says what each of them has established by the phase it is in, that
candidates belong to one call each, and that every channel row was written by a
call that has been told so. Rows are never rewritten, so this is enough: all
answers for a key come from one row, and nobody abandons a session that a row
points to, because a call only ever abandons its own candidate and a candidate
in a row is no longer pending.
-/

namespace Nadi

open Effect

variable {T ι : Type}

/-! ## What a phase has established -/

/-- The session exists and is not abandoned. -/
def Store.Live (st : Store T) (sid : String) : Prop :=
  ∃ status, st.statusOf sid = some status ∧ status ≠ .abandoned

/-- The log of the session has its first event. -/
def Store.Started (st : Store T) (sid : String) : Prop :=
  ∃ e ∈ st.eventsOf sid, e.eventType = "session.started"

/-- The row of a key gives an answer. -/
def Store.Answers (st : Store T) (key : String × String × String) (answer : String × String) :
    Prop :=
  ∃ row, st.channels.find? key = some row ∧ row.sessionId = answer.1 ∧ row.id = answer.2

/-- What a call for a key has established in each phase. -/
def PhaseOk (key : String × String × String) (st : Store T) : Phase → Prop
  | .start => True
  | .refused => False
  | .created sid => st.Live sid
  | .leased sid => st.Live sid
  | .started sid => st.Live sid ∧ st.Started sid
  | .joined sid actualSid cid created => st.Live sid ∧ st.Started sid ∧
      st.Answers key (actualSid, cid) ∧ (created = true → actualSid = sid)
  | .abandoned sid answer => st.statusOf sid = some .abandoned ∧
      ∀ a, answer = some a → st.Answers key a

/-- What a phase has established survives whatever leaves the status of its
candidate, the log and the channel rows. -/
theorem PhaseOk.stable {key : String × String × String} {st st' : Store T} {q : Phase}
    (h : PhaseOk key st q)
    (hstatus : ∀ sid, q.candidate = some sid → st'.statusOf sid = st.statusOf sid)
    (hlog : ∀ sid, st.Started sid → st'.Started sid)
    (hrow : ∀ a, st.Answers key a → st'.Answers key a) : PhaseOk key st' q := by
  have hlive : ∀ sid, q.candidate = some sid → st.Live sid → st'.Live sid := by
    rintro sid hsid ⟨status, hs, hne⟩
    exact ⟨status, (hstatus sid hsid).trans hs, hne⟩
  cases q with
  | start => trivial
  | refused => exact h
  | created sid => exact hlive sid rfl h
  | leased sid => exact hlive sid rfl h
  | started sid => exact ⟨hlive sid rfl h.1, hlog sid h.2⟩
  | joined sid a cid created =>
    exact ⟨hlive sid rfl h.1, hlog sid h.2.1, hrow _ h.2.2.1, h.2.2.2⟩
  | abandoned sid answer =>
    exact ⟨(hstatus sid rfl).trans h.1, fun a ha => hrow a (h.2 a ha)⟩

/-- A pending candidate is live. -/
theorem PhaseOk.live {key : String × String × String} {st : Store T} {q : Phase} {sid : String}
    (h : PhaseOk key st q) (hq : q.pending = some sid) : st.Live sid := by
  cases q with
  | created | leased =>
    cases hq
    exact h
  | started =>
    cases hq
    exact h.1
  | joined s a cid created =>
    cases created with
    | true => cases hq
    | false =>
      cases hq
      exact h.1
  | start | refused | abandoned => cases hq

/-- Whatever a call has been answered is in the row of its key. -/
theorem PhaseOk.answers {key : String × String × String} {st : Store T} {q : Phase}
    (h : PhaseOk key st q) {a : String × String} (hq : q.answer = some a) : st.Answers key a := by
  cases q with
  | joined =>
    cases hq
    exact h.2.2.1
  | abandoned => exact h.2 a hq
  | _ => cases hq

/-! ## The invariant -/

/-- The phases of the calls and the state agree: ids to come are new, every
phase has established what it says, candidates are distinct, and every channel
row was written by the call whose candidate it names. -/
structure ChannelInv (py : Py) (key : ι → String × String × String) (q : ι → Phase)
    (w : World T) : Prop where
  sessionIds : ∀ s ∈ w.store.sessions, ∀ n, w.drawn .session ≤ n → s.id ≠ py.uuid4 .session n
  channelIds : ∀ c ∈ w.store.channels, ∀ n, w.drawn .channel ≤ n → c.id ≠ py.uuid4 .channel n
  phases : ∀ i, PhaseOk (key i) w.store (q i)
  distinct : ∀ i j sid, (q i).candidate = some sid → (q j).candidate = some sid → i = j
  rows : ∀ row ∈ w.store.channels, ∃ i, key i = row.key ∧
    q i = .joined row.sessionId row.sessionId row.id true

/-- Threads whose candidate exists have it in the table of sessions. -/
theorem PhaseOk.exists_session {key : String × String × String} {st : Store T} {q : Phase}
    (h : PhaseOk key st q) {sid : String} (hq : q.candidate = some sid) :
    ∃ s ∈ st.sessions, s.id = sid := by
  have hsome : ∃ status, st.statusOf sid = some status := by
    cases q with
    | start | refused => cases hq
    | created | leased =>
      cases hq
      exact h.imp fun _ hs => hs.1
    | started | joined =>
      cases hq
      exact h.1.imp fun _ hs => hs.1
    | abandoned =>
      cases hq
      exact ⟨_, h.1⟩
  obtain ⟨status, hstatus⟩ := hsome
  obtain ⟨s, hs, hid, -⟩ := Store.statusOf_eq_some.mp hstatus
  exact ⟨s, hs, hid⟩

namespace ChannelInv

variable [DecidableEq ι] {py : Py} {key : ι → String × String × String} {q : ι → Phase}
  {w w' : World T} {i : ι} {q' : Phase}

/-- A call that touches no candidate but its own, and no channel row but one of
its own. -/
theorem advance (h : ChannelInv py key q w)
    (hopen : ∀ sid a cid, q i ≠ .joined sid a cid true)
    (hsids : ∀ s ∈ w'.store.sessions, ∀ n, w'.drawn .session ≤ n →
      s.id ≠ py.uuid4 .session n)
    (hcids : ∀ c ∈ w'.store.channels, ∀ n, w'.drawn .channel ≤ n →
      c.id ≠ py.uuid4 .channel n)
    (hrows : ∀ row ∈ w'.store.channels, row ∈ w.store.channels ∨
      key i = row.key ∧ q' = .joined row.sessionId row.sessionId row.id true)
    (hans : ∀ k a, w.store.Answers k a → w'.store.Answers k a)
    (hlog : ∀ sid, w.store.Started sid → w'.store.Started sid)
    (hstatus : ∀ sid, q'.candidate ≠ some sid → w'.store.statusOf sid = w.store.statusOf sid)
    (hcand : ∀ sid, q'.candidate = some sid →
      (q i).candidate = some sid ∨ ∀ s ∈ w.store.sessions, s.id ≠ sid)
    (hok : PhaseOk (key i) w'.store q') :
    ChannelInv py key (Function.update q i q') w' := by
  -- the new candidate of `i` is nobody else's
  have hother : ∀ j sid, j ≠ i → (q j).candidate = some sid → q'.candidate ≠ some sid := by
    intro j sid hj hjs hqs
    rcases hcand sid hqs with hold | hnew
    · exact hj (h.distinct j i sid hjs hold)
    · obtain ⟨s, hs, hid⟩ := (h.phases j).exists_session hjs
      exact hnew s hs hid
  refine ⟨hsids, hcids, ?_, ?_, ?_⟩
  · intro j
    by_cases hj : j = i
    · subst hj
      rw [Function.update_self]
      exact hok
    · rw [Function.update_of_ne hj]
      exact (h.phases j).stable (fun sid hsid => hstatus sid (hother j sid hj hsid)) hlog
        (hans _)
  · intro j k sid hj hk
    by_cases hji : j = i <;> by_cases hki : k = i
    · rw [hji, hki]
    · subst hji
      rw [Function.update_self] at hj
      rw [Function.update_of_ne hki] at hk
      exact absurd hj (hother k sid hki hk)
    · subst hki
      rw [Function.update_self] at hk
      rw [Function.update_of_ne hji] at hj
      exact absurd hk (hother j sid hji hj)
    · rw [Function.update_of_ne hji] at hj
      rw [Function.update_of_ne hki] at hk
      exact h.distinct j k sid hj hk
  · intro row hrow
    rcases hrows row hrow with hold | ⟨hkey, hq'⟩
    · obtain ⟨j, hkey, hj⟩ := h.rows row hold
      refine ⟨j, hkey, ?_⟩
      rw [Function.update_of_ne ?_]
      · exact hj
      · rintro rfl
        exact hopen _ _ _ hj
    · exact ⟨i, hkey, (Function.update_self _ _ _).trans hq'⟩

/-- A call that writes no channel row and touches no candidate but its own. -/
theorem advance_same (h : ChannelInv py key q w)
    (hopen : ∀ sid a cid, q i ≠ .joined sid a cid true)
    (hsids : ∀ s ∈ w'.store.sessions, ∀ n, w'.drawn .session ≤ n →
      s.id ≠ py.uuid4 .session n)
    (hchan : w'.store.channels = w.store.channels)
    (hdrawn : w.drawn .channel ≤ w'.drawn .channel)
    (hlog : ∀ sid, w.store.Started sid → w'.store.Started sid)
    (hstatus : ∀ sid, q'.candidate ≠ some sid → w'.store.statusOf sid = w.store.statusOf sid)
    (hcand : ∀ sid, q'.candidate = some sid →
      (q i).candidate = some sid ∨ ∀ s ∈ w.store.sessions, s.id ≠ sid)
    (hok : PhaseOk (key i) w'.store q') :
    ChannelInv py key (Function.update q i q') w' := by
  refine h.advance hopen hsids ?_ ?_ ?_ hlog hstatus hcand hok
  · rw [hchan]
    exact fun c hc n hn => h.channelIds c hc n (hdrawn.trans hn)
  · rw [hchan]
    exact fun row hrow => .inl hrow
  · intro k a ha
    unfold Store.Answers
    rw [hchan]
    exact ha

variable [Field T] [LinearOrder T]

/-- A call that leaves sessions, channels and logs alone, in a phase that says
no more than the one before. -/
theorem keep (h : ChannelInv py key q w) {c : Call T}
    (hopen : ∀ sid a cid, q i ≠ .joined sid a cid true)
    (hses : c.writes .sessions = false) (hev : c.writes .events = false)
    (hchan : c.writes .channels = false) (hcand : q'.candidate = (q i).candidate)
    (hok : PhaseOk (key i) w.store (q i) → PhaseOk (key i) w.store q') :
    ChannelInv py key (Function.update q i q') (exec py c w).2 := by
  have hstatus : ∀ sid, (exec py c w).2.store.statusOf sid = w.store.statusOf sid := by
    intro sid
    unfold Store.statusOf
    rw [exec_sessions py w hses]
  have hlog : ∀ sid, w.store.Started sid → (exec py c w).2.store.Started sid := by
    intro sid hsid
    unfold Store.Started Store.eventsOf
    rw [exec_events py w hev]
    exact hsid
  refine h.advance_same hopen ?_ (exec_channels py w hchan) (exec_drawn_le py w _) hlog
    (fun sid _ => hstatus sid) (fun sid hsid => .inl (hcand ▸ hsid)) ?_
  · rw [exec_sessions py w hses]
    exact fun s hs n hn => h.sessionIds s hs n ((exec_drawn_le py w _).trans hn)
  · refine (hok (h.phases i)).stable (fun sid _ => hstatus sid) hlog fun a ha => ?_
    unfold Store.Answers
    rw [exec_channels py w hchan]
    exact ha

/-- Creating a candidate always succeeds: its id is new. -/
theorem create (h : ChannelInv py key q w) (hi : q i = .start) (tenantId : String)
    (metadata : Json) :
    ChannelInv py key
      (Function.update q i ((q i).next (.createSession tenantId none none metadata)
        (exec py (.createSession tenantId none none metadata) w).1))
      (exec py (.createSession tenantId none none metadata) w).2 := by
  have hnew : ∀ s ∈ w.store.sessions, s.id ≠ w.fresh py .session :=
    fun s hs => h.sessionIds s hs _ (Nat.le_refl _)
  obtain ⟨sessions, hins, hcreate⟩ :=
    Store.createSession_eq w.clock tenantId none metadata hnew
  have hexec : exec py (.createSession tenantId none none metadata) w =
      (.ok (w.fresh py .session),
        { w.draw .session with store := { w.store with sessions } }) := by
    show (w.draw .session).commit (w.store.createSession _ _ _ _ _ _) = _
    rw [hcreate]
    rfl
  rw [hexec, hi]
  show ChannelInv py key (Function.update q i (.created (w.fresh py .session))) _
  have hstatus := Store.statusOf_insert hins
  refine h.advance_same (fun _ _ _ hj => nomatch hi.symm.trans hj) ?_ rfl (Nat.le_of_eq rfl)
    (fun _ hs => hs) (fun sid hsid => ?_) (fun sid hsid => .inr ?_) ?_
  · intro s hs n hn
    rw [World.draw_self] at hn
    rcases (Data.Table.mem_of_insert? hins).mp hs with hold | rfl
    · exact h.sessionIds s hold n (by omega)
    · intro heq
      have := (py.uuid4_inj heq).2
      omega
  · have hne : w.fresh py .session ≠ sid := fun heq => hsid (congrArg some heq)
    exact (hstatus sid).trans (if_neg hne)
  · cases hsid
    exact hnew
  · exact ⟨.pending, (hstatus _).trans (if_pos rfl), by decide⟩

/-- Marking the candidate running. -/
theorem run (h : ChannelInv py key q w) {sid : String} (hi : q i = .leased sid) :
    ChannelInv py key (Function.update q i (.leased sid))
      (exec py (.updateSessionStatus sid .running) w).2 := by
  have hstatus := fun sid' => w.store.statusOf_updateSessionStatus w.clock sid sid' .running
  refine h.advance_same (fun _ _ _ hj => nomatch hi.symm.trans hj) ?_ rfl (Nat.le_refl _)
    (fun _ hs => hs) (fun sid' hsid' => ?_) (fun _ hsid' => .inl (hi ▸ hsid')) ?_
  · intro s hs n hn
    obtain ⟨s₀, hs₀, hid⟩ := Store.mem_updateSessionStatus hs
    exact hid ▸ h.sessionIds s₀ hs₀ n hn
  · have hne : sid' ≠ sid := fun heq => hsid' (congrArg some heq.symm)
    exact (hstatus sid').trans (if_neg hne)
  · have hok := h.phases i
    rw [hi] at hok
    obtain ⟨status, hs, -⟩ := hok
    refine ⟨.running, (hstatus sid).trans ?_, by decide⟩
    rw [if_pos rfl, hs]
    rfl

/-- Abandoning a candidate that is still pending. -/
theorem abandon (h : ChannelInv py key q w) {sid : String} (hi : (q i).pending = some sid) :
    ChannelInv py key (Function.update q i (q i).abandon)
      (exec py (.updateSessionStatus sid .abandoned) w).2 := by
  have hstatus := fun sid' => w.store.statusOf_updateSessionStatus w.clock sid sid' .abandoned
  have hcand : (q i).abandon.candidate = some sid :=
    (Phase.candidate_abandon _).trans (Phase.candidate_of_pending hi)
  refine h.advance_same (fun s a c hj => ?_) ?_ rfl (Nat.le_refl _) (fun _ hs => hs)
    (fun sid' hsid' => ?_) (fun sid' hsid' => .inl ?_) ?_
  · rw [hj] at hi
    cases hi
  · intro s hs n hn
    obtain ⟨s₀, hs₀, hid⟩ := Store.mem_updateSessionStatus hs
    exact hid ▸ h.sessionIds s₀ hs₀ n hn
  · have hne : sid' ≠ sid := fun heq => hsid' (hcand.trans (congrArg some heq.symm))
    exact (hstatus sid').trans (if_neg hne)
  · rw [Phase.candidate_abandon] at hsid'
    exact hsid'
  · rw [Phase.abandon_of_pending hi]
    obtain ⟨status, hs, -⟩ := (h.phases i).live hi
    refine ⟨(hstatus sid).trans ?_, fun a ha => (h.phases i).answers ha⟩
    rw [if_pos rfl, hs]
    rfl

/-- Logging the start of the candidate's cell. -/
theorem report (h : ChannelInv py key q w) {sid : String} (hi : q i = .leased sid)
    (payload : Json) :
    ChannelInv py key
      (Function.update q i ((q i).next (.appendEvent sid "session.started" payload none)
        (exec py (.appendEvent sid "session.started" payload none) w).1))
      (exec py (.appendEvent sid "session.started" payload none) w).2 := by
  have hlive := h.phases i
  rw [hi] at hlive ⊢
  obtain ⟨status, hs, hne⟩ := hlive
  obtain ⟨ev, st, happend⟩ : ∃ ev st,
      w.store.appendEvent w.clock sid "session.started" payload none = .ok (ev, st) :=
    ⟨_, _, Store.appendEvent_eq (Store.hasSession_of_statusOf hs)⟩
  have hexec : exec py (.appendEvent sid "session.started" payload none) w =
      (.ok ev, { w with store := st }) := by
    show w.commit (w.store.appendEvent _ _ _ _ _) = _
    rw [happend]
    rfl
  have hgrow : ∀ sid', w.store.Started sid' →
      (exec py (.appendEvent sid "session.started" payload none) w).2.store.Started sid' :=
    fun sid' ⟨e, he, ht⟩ => ⟨e, (eventsOf_grow py _ w sid').subset he, ht⟩
  have hnew : (exec py (.appendEvent sid "session.started" payload none) w).2.store.Started
      sid := by
    rw [hexec]
    refine ⟨Store.newEvent w.clock sid (w.store.nextSequence sid) "session.started" payload none
      (w.store.events.last + 1), ?_, rfl⟩
    rw [Store.eventsOf_append happend sid, if_pos rfl]
    exact List.mem_append_right _ (List.mem_singleton_self _)
  have hphase : (Phase.leased sid).next (.appendEvent sid "session.started" payload none)
      (exec py (.appendEvent sid "session.started" payload none) w).1 = .started sid := by
    rw [hexec]
    rfl
  have hses := exec_sessions (c := .appendEvent sid "session.started" payload none) py w rfl
  rw [hphase]
  refine h.advance_same (fun _ _ _ hj => nomatch hi.symm.trans hj) ?_ (exec_channels py w rfl)
    (exec_drawn_le py w _) hgrow (fun sid' _ => ?_) (fun _ hsid' => .inl (hi ▸ hsid'))
    ⟨⟨status, ?_, hne⟩, hnew⟩
  · rw [hses]
    exact fun s hs n hn => h.sessionIds s hs n ((exec_drawn_le py w _).trans hn)
  · unfold Store.statusOf
    rw [hses]
  · unfold Store.statusOf
    rw [hses]
    exact hs

omit [DecidableEq ι] [Field T] [LinearOrder T] in
/-- No channel belongs to a candidate that has not been offered yet. -/
theorem ne_started (h : ChannelInv py key q w) {sid : String} (hi : q i = .started sid)
    {row : ChannelRow T} (hrow : row ∈ w.store.channels) : row.sessionId ≠ sid := by
  intro heq
  obtain ⟨j, -, hj⟩ := h.rows row hrow
  have hcj : (q j).candidate = some sid := by
    rw [hj, ← heq]
    rfl
  have hij := h.distinct i j sid (by rw [hi]; rfl) hcj
  subst hij
  cases hi.symm.trans hj

omit [Field T] [LinearOrder T] in
/-- The row of the channel is new and names the candidate. -/
theorem join_new (h : ChannelInv py key q w) {sid : String} (hi : q i = .started sid)
    {initiator : String} {metadata : Json} {channels : Data.Table (ChannelRow T) ChannelRow.key}
    (hinsert : w.store.channels.insert? (Store.newChannel w.clock (w.fresh py .channel)
      (key i).1 (key i).2.1 (key i).2.2 sid initiator metadata) = some channels) :
    ChannelInv py key (Function.update q i (.joined sid sid (w.fresh py .channel) true))
      { w.draw .channel with store := { w.store with channels } } := by
  have hok := h.phases i
  rw [hi] at hok
  obtain ⟨hlive, hstarted⟩ := hok
  have hself : channels.find? (key i) = some (Store.newChannel w.clock (w.fresh py .channel)
      (key i).1 (key i).2.1 (key i).2.2 sid initiator metadata) := by
    rw [Data.Table.find?_of_insert? hinsert]
    exact if_pos rfl
  refine h.advance (fun _ _ _ hj => nomatch hi.symm.trans hj) h.sessionIds ?_ ?_ ?_
    (fun _ hs => hs) (fun _ _ => rfl) (fun _ hs => .inl (hi ▸ hs))
    ⟨hlive, hstarted, ⟨_, hself, rfl, rfl⟩, fun _ => rfl⟩
  · intro c hc n hn
    rw [World.draw_self] at hn
    rcases (Data.Table.mem_of_insert? hinsert).mp hc with hold | rfl
    · exact h.channelIds c hold n (by omega)
    · intro heq
      have := (py.uuid4_inj heq).2
      omega
  · intro c hc
    rcases (Data.Table.mem_of_insert? hinsert).mp hc with hold | rfl
    · exact .inl hold
    · exact .inr ⟨rfl, rfl⟩
  · rintro k a ⟨r, hr, ha⟩
    refine ⟨r, ?_, ha⟩
    obtain ⟨hmem, hk⟩ := Data.Table.find?_eq_some.mp hr
    exact Data.Table.find?_eq_some.mpr
      ⟨(Data.Table.mem_of_insert? hinsert).mpr (.inl hmem), hk⟩

/-- Offering the candidate to the channel: the row is there, and then it names
somebody else's session, or it is written, and then the candidate is in it. -/
theorem join (h : ChannelInv py key q w) {sid : String} (hi : q i = .started sid)
    (initiator : String) (metadata : Json) :
    ChannelInv py key
      (Function.update q i ((q i).next
        (.getOrCreateChannel (key i).1 (key i).2.1 (key i).2.2 sid initiator metadata)
        (exec py (.getOrCreateChannel (key i).1 (key i).2.1 (key i).2.2 sid initiator metadata)
          w).1))
      (exec py (.getOrCreateChannel (key i).1 (key i).2.1 (key i).2.2 sid initiator metadata)
        w).2 := by
  have hopen : ∀ s a cid, q i ≠ .joined s a cid true := fun _ _ _ hj => nomatch hi.symm.trans hj
  have hok := h.phases i
  rw [hi] at hok
  obtain ⟨hlive, hstarted⟩ := hok
  have hdrawn : w.drawn .channel ≤ (w.draw .channel).drawn .channel := by
    rw [World.draw_self]
    exact Nat.le_succ _
  have hexec : exec py
      (.getOrCreateChannel (key i).1 (key i).2.1 (key i).2.2 sid initiator metadata) w =
      (w.draw .channel).commit (w.store.getOrCreateChannel w.clock (w.fresh py .channel)
        (key i).1 (key i).2.1 (key i).2.2 sid initiator metadata) := rfl
  rw [hexec, hi]
  cases hres : w.store.getOrCreateChannel w.clock (w.fresh py .channel)
      (key i).1 (key i).2.1 (key i).2.2 sid initiator metadata with
  | error e =>
    show ChannelInv py key (Function.update q i (.started sid)) (w.draw .channel)
    exact h.advance_same hopen h.sessionIds rfl hdrawn (fun _ hs => hs)
      (fun _ _ => rfl) (fun _ hs => .inl (hi ▸ hs)) ⟨hlive, hstarted⟩
  | ok out =>
    obtain ⟨⟨actualSid, cid, created⟩, st⟩ := out
    obtain ⟨hins, row, hfind, rfl, rfl, hcreated⟩ := Store.getOrCreateChannel_ok hres
    show ChannelInv py key
      (Function.update q i (.joined sid row.sessionId row.id created))
      { w.draw .channel with store := st }
    rcases Store.insertChannel_ok hins with ⟨rfl, -⟩ | ⟨-, -, channels, hinsert, rfl⟩
    · -- the row of the key was there
      have hne := h.ne_started hi (Data.Table.find?_eq_some.mp hfind).1
      have hfalse : created = false := by
        rw [hcreated]
        simp [hne]
      subst hfalse
      exact h.advance_same hopen h.sessionIds rfl hdrawn (fun _ hs => hs) (fun _ _ => rfl)
        (fun _ hs => .inl (hi ▸ hs))
        ⟨hlive, hstarted, ⟨row, hfind, rfl, rfl⟩, fun hc => nomatch hc⟩
    · -- the row is the one that has been written
      have hself : channels.find? (key i) = some (Store.newChannel w.clock (w.fresh py .channel)
          (key i).1 (key i).2.1 (key i).2.2 sid initiator metadata) := by
        rw [Data.Table.find?_of_insert? hinsert]
        exact if_pos rfl
      obtain rfl := Option.some.inj (hself.symm.trans hfind)
      have htrue : created = true := by
        rw [hcreated]
        simp [Store.newChannel]
      subst htrue
      exact h.join_new hi hinsert

/-- **One permitted call** keeps the invariant. -/
theorem call (h : ChannelInv py key q w) {c : Call T} (hmay : ChannelMay (key i) (q i) c) :
    ChannelInv py key (Function.update q i ((q i).next c (exec py c w).1)) (exec py c w).2 := by
  generalize hi : q i = p at hmay
  cases hmay with
  | create tenantId metadata => exact hi ▸ h.create hi tenantId metadata
  | lease sid cellHostId =>
    refine h.keep (fun _ _ _ hj => nomatch hi.symm.trans hj) rfl rfl rfl ?_ fun hok => ?_
    · rw [hi]
      cases (exec py (.createLease sid cellHostId 3600) w).1 <;> rfl
    · rw [hi] at hok
      cases (exec py (.createLease sid cellHostId 3600) w).1 <;> exact hok
  | run sid => exact h.run hi
  | report sid payload => exact hi ▸ h.report hi payload
  | join sid initiator metadata => exact hi ▸ h.join hi initiator metadata
  | abandon hq =>
    subst hi
    exact h.abandon hq
  | quiet hq hc =>
    rw [Phase.next_of_quiet _ hc]
    subst hi
    have hquiet : c.writes .sessions = false ∧ c.writes .events = false ∧
        c.writes .channels = false := by
      cases c <;> first | exact ⟨rfl, rfl, rfl⟩ | exact hc.elim
    refine h.keep (fun sid a cid hj => ?_) hquiet.1 hquiet.2.1 hquiet.2.2 rfl fun hok => hok
    rw [hj] at hq
    rcases hq with hq | hq
    · cases hq
    · cases hq

end ChannelInv

/-! ## What the invariant says of the answers -/

namespace ChannelInv

variable {py : Py} {key : ι → String × String × String} {q : ι → Phase} {w : World T}

/-- A call that has returned has returned the row of its key. -/
theorem answered (h : ChannelInv py key q w) {i : ι} {a : ChannelSession}
    (hends : ChannelEnds (q i) (.ok a)) :
    ∃ row, w.store.channels.find? (key i) = some row ∧ row.sessionId = a.sessionId ∧
      row.id = a.channelId := by
  refine (h.phases i).answers (a := (a.sessionId, a.channelId)) ?_
  obtain ⟨sid, ⟨hq, -⟩ | ⟨hq, -⟩⟩ := hends
  · rw [hq]
    rfl
  · rw [hq]
    rfl

/-- A call that has returned created the session exactly if the row names its
own candidate. -/
theorem created_iff (h : ChannelInv py key q w) {i j : ι} {a : ChannelSession}
    {row : ChannelRow T} (hends : ChannelEnds (q i) (.ok a)) (hkey : key i = key j)
    (hrow : w.store.channels.find? (key j) = some row)
    (hj : q j = .joined row.sessionId row.sessionId row.id true) :
    a.created = true ↔ i = j := by
  obtain ⟨sid, ⟨hq, hcreated⟩ | ⟨hq, hcreated⟩⟩ := hends
  · refine ⟨fun _ => ?_, fun _ => hcreated⟩
    have hok := h.phases i
    rw [hq] at hok
    obtain ⟨row', hrow', hsid', -⟩ := hok.2.2.1
    rw [hkey] at hrow'
    obtain rfl := Option.some.inj (hrow.symm.trans hrow')
    have hown : row.sessionId = sid := hsid'.trans (hok.2.2.2 rfl)
    refine h.distinct i j row.sessionId ?_ ?_
    · rw [hq, hown]
      rfl
    · rw [hj]
      rfl
  · rw [hcreated]
    constructor
    · intro hf
      cases hf
    · rintro rfl
      exact nomatch hq.symm.trans hj

/-- The session of a row is live and started. -/
theorem row_live (h : ChannelInv py key q w) {row : ChannelRow T}
    (hrow : row ∈ w.store.channels) :
    w.store.Live row.sessionId ∧ w.store.Started row.sessionId := by
  obtain ⟨i, -, hi⟩ := h.rows row hrow
  have hok := h.phases i
  rw [hi] at hok
  exact ⟨hok.1, hok.2.1⟩

/-- Rows of distinct keys name distinct sessions. -/
theorem row_session_inj (h : ChannelInv py key q w) {row row' : ChannelRow T}
    (hrow : row ∈ w.store.channels) (hrow' : row' ∈ w.store.channels)
    (heq : row.sessionId = row'.sessionId) : row.key = row'.key := by
  obtain ⟨i, hkey, hi⟩ := h.rows row hrow
  obtain ⟨j, hkey', hj⟩ := h.rows row' hrow'
  have hij : i = j := by
    refine h.distinct i j row.sessionId ?_ ?_
    · rw [hi]
      rfl
    · rw [hj, heq]
      rfl
  rw [← hkey, ← hkey', hij]

end ChannelInv

/-- A call whose candidate is in the row has nothing left to do but return. -/
theorem returned_of_joined {key : String × String × String}
    {h : Handler (Call T) Call.Ret PyErr (World T)} {p : Code T ChannelSession}
    {sid actualSid cid : String}
    (hp : (channelRole key).Plays h ChannelEnds p (.joined sid actualSid cid true)) :
    ∃ a, p = .pure a ∧ a.created = true := by
  cases p with
  | pure a =>
    obtain ⟨s, ⟨-, hcreated⟩ | ⟨hq, -⟩⟩ := hp
    · exact ⟨a, rfl, hcreated⟩
    · cases hq
  | throw e =>
    rcases hp with hq | ⟨s, answer, hq⟩
    · cases hq
    · cases hq
  | call c k =>
    cases hp.1 with
    | abandon hq => cases hq
    | quiet hq hc =>
      rcases hq with hq | hq
      · cases hq
      · cases hq

/-! ## Candidates in the trace -/

/-- The session a call created. -/
def createdId (c : Call T) (r : Except PyErr c.Ret) : Option String :=
  match c, r with
  | .createSession .., .ok sid => some sid
  | _, _ => none

/-- The sessions a thread has created. -/
def candidatesOf [DecidableEq ι] (i : ι) (tr : Trace ι T) : List String :=
  tr.filterMap fun e => if e.thread = i then createdId e.call e.result else none

theorem candidatesOf_after [DecidableEq ι] (h : Handler (Call T) Call.Ret PyErr (World T))
    (w : Moment ι T) (i j : ι) (c : Call T) :
    candidatesOf j (w.after h i c).trace = candidatesOf j w.trace ++
      if i = j then (createdId c (h c w.state).1).toList else [] := by
  unfold candidatesOf
  rw [Point.after_trace, List.filterMap_append, List.filterMap_cons, List.filterMap_nil]
  congr 1
  by_cases hij : i = j
  · simp only [hij, if_true]
    cases createdId c (h c w.state).1 <;> rfl
  · simp only [hij, if_false]

/-- A call has a candidate in its phase once it has created one. -/
theorem candidate_next {key : String × String × String} {q : Phase} {c : Call T}
    (hmay : ChannelMay key q c) (r : Except PyErr c.Ret) :
    (q.next c r).candidate.toList = q.candidate.toList ++ (createdId c r).toList := by
  cases hmay with
  | create tenantId metadata => cases r <;> rfl
  | lease sid cellHostId => cases r <;> rfl
  | run sid => rfl
  | report sid payload => cases r <;> rfl
  | join sid initiator metadata => cases r <;> rfl
  | abandon hq =>
    show q.abandon.candidate.toList = q.candidate.toList ++ []
    rw [Phase.candidate_abandon, List.append_nil]
  | quiet hq hc =>
    have hnone : createdId c r = none := by
      cases c <;> first | rfl | exact hc.elim
    rw [Phase.next_of_quiet _ hc, hnone]
    exact (List.append_nil _).symm

/-! ## Runs -/

/-- A channel row is never rewritten. -/
theorem exec_channel_row [Field T] [LinearOrder T] (py : Py) (c : Call T) (w : World T)
    {key : String × String × String} {row : ChannelRow T}
    (h : w.store.channels.find? key = some row) :
    (exec py c w).2.store.channels.find? key = some row := by
  cases c with
  | getOrCreateChannel platform channelId threadId sid initiator metadata =>
    refine World.commit_store (w := w.draw .channel)
      (P := fun st => st.channels.find? key = some row) h fun answer st hr => ?_
    rcases Store.insertChannel_ok (Store.getOrCreateChannel_ok hr).1 with
      ⟨rfl, -⟩ | ⟨-, -, channels, hins, rfl⟩
    · exact h
    · obtain ⟨hmem, hkey⟩ := Data.Table.find?_eq_some.mp h
      exact Data.Table.find?_eq_some.mpr
        ⟨(Data.Table.mem_of_insert? hins).mpr (.inl hmem), hkey⟩
  | _ =>
    rw [exec_channels py w rfl]
    exact h

section Runs

variable [DecidableEq ι] [Field T] [LinearOrder T] [IsStrictOrderedRing T] [FloorRing T]
  (py : Py) {requests : ι → ChannelRequest} {w₀ : World T} {cfg cfg' : Threads ι T ChannelSession}

/-- The phases of the calls after a trace. -/
def phasesAt (requests : ι → ChannelRequest) (tr : Trace ι T) : ι → Phase :=
  Role.localAt (fun i => channelRole (requests i).key) tr

omit [IsStrictOrderedRing T] [FloorRing T] in
/-- A call moves the phase of its thread only. -/
theorem phasesAt_after (requests : ι → ChannelRequest) (p : Moment ι T) (i : ι)
    (c : Call T) :
    phasesAt requests (p.after (exec py) i c).trace =
      Function.update (phasesAt requests p.trace) i
        ((phasesAt requests p.trace i).next c (exec py c p.state).1) :=
  Role.localAt_after _ (exec py) p i c

omit [Field T] [LinearOrder T] [IsStrictOrderedRing T] [FloorRing T] [DecidableEq ι] in
/-- Before the first call of a run. -/
theorem ChannelInv.start (hempty : w₀.store.channels.rows = [])
    (hfresh : ∀ s ∈ w₀.store.sessions, ∀ n, w₀.drawn .session ≤ n → s.id ≠ py.uuid4 .session n) :
    ChannelInv py (fun i => (requests i).key) (fun _ => .start) w₀ := by
  have hnone : ∀ c, c ∉ w₀.store.channels := by
    intro c hc
    rw [Data.Table.mem_def, hempty] at hc
    cases hc
  exact
    { sessionIds := hfresh
      channelIds := fun c hc => absurd hc (hnone c)
      phases := fun _ => trivial
      distinct := fun _ _ _ h => nomatch h
      rows := fun c hc => absurd hc (hnone c) }

/-- Every call of a run keeps to its phases. -/
theorem channel_plays (requests : ι → ChannelRequest) (w₀ : World T) :
    Role.AllPlay (fun i => channelRole (requests i).key) (exec py) (fun _ => ChannelEnds)
      (.start (fun i => (requests i).run py) w₀) :=
  fun i => plays_channelRequest py (requests i)

/-- The invariant along every run, with the candidates of the trace. -/
theorem channelInv_reach (hempty : w₀.store.channels.rows = [])
    (hfresh : ∀ s ∈ w₀.store.sessions, ∀ n, w₀.drawn .session ≤ n → s.id ≠ py.uuid4 .session n)
    (hr : Reach (system ι py) (.start (fun i => (requests i).run py) w₀) cfg) :
    ChannelInv py (fun i => (requests i).key) (phasesAt requests cfg.point.trace)
      cfg.point.state ∧
    ∀ i, candidatesOf i cfg.point.trace =
      (phasesAt requests cfg.point.trace i).candidate.toList := by
  refine Role.roles_invariant
    (P := fun p => ChannelInv py (fun i => (requests i).key) (phasesAt requests p.trace) p.state ∧
      ∀ i, candidatesOf i p.trace = (phasesAt requests p.trace i).candidate.toList)
    (channel_plays py requests w₀) hr ⟨.start py hempty hfresh, fun _ => rfl⟩ ?_ ?_
  · rintro p i c ⟨hinv, hcand⟩ hmay -
    show ChannelInv py _ (phasesAt requests (p.after (exec py) i c).trace) _ ∧
      ∀ j, candidatesOf j (p.after (exec py) i c).trace =
        (phasesAt requests (p.after (exec py) i c).trace j).candidate.toList
    rw [phasesAt_after]
    refine ⟨hinv.call hmay, fun j => ?_⟩
    rw [candidatesOf_after, hcand j]
    by_cases hij : i = j
    · subst hij
      rw [if_pos rfl, Function.update_self]
      exact (candidate_next hmay _).symm
    · rw [if_neg hij, Function.update_of_ne (Ne.symm hij)]
      exact List.append_nil _
  · rintro p s ⟨hinv, hcand⟩ ⟨t, f, -, rfl⟩
    exact ⟨⟨hinv.sessionIds, hinv.channelIds, hinv.phases, hinv.distinct, hinv.rows⟩, hcand⟩

omit [IsStrictOrderedRing T] [FloorRing T] in
/-- Along a run the row of a key stays. -/
theorem channel_row_stays {key : String × String × String} {row : ChannelRow T}
    (hr : Reach (system ι py) cfg cfg')
    (h : cfg.point.state.store.channels.find? key = some row) :
    cfg'.point.state.store.channels.find? key = some row := by
  refine hr.point_invariant (P := fun p => p.state.store.channels.find? key = some row) h ?_ ?_
  · intro p i c hp _
    exact exec_channel_row py c p.state hp
  · rintro p _ hp ⟨t, f, -, rfl⟩
    exact hp

/-- **Channel sessions converge.** Channel calls run at once, on any keys, from
a database without channel rows. In every state they reach:

- calls with the same key that have returned have returned the same session and
  channel row, the one in the table;
- when a call has returned, exactly one call with its key has returned that it
  created the session;
- the row of a key stays as it is;
- sessions of distinct keys are distinct;
- the session of a row is not abandoned and its first event is logged, and so
  it is for the session a call has returned;
- a call that has returned without having created the session, or has raised,
  has one candidate, and that is abandoned. -/
theorem channel_sessions_converge (hempty : w₀.store.channels.rows = [])
    (hfresh : ∀ s ∈ w₀.store.sessions, ∀ n, w₀.drawn .session ≤ n → s.id ≠ py.uuid4 .session n)
    (hr : Reach (system ι py) (.start (fun i => (requests i).run py) w₀) cfg) :
    (∀ i j a b, (requests i).key = (requests j).key → cfg.threads i = .pure a →
      cfg.threads j = .pure b → a.sessionId = b.sessionId ∧ a.channelId = b.channelId) ∧
    (∀ j b, cfg.threads j = .pure b → ∃ i a, (requests i).key = (requests j).key ∧
      cfg.threads i = .pure a ∧ a.created = true ∧
      ∀ i' a', (requests i').key = (requests j).key → cfg.threads i' = .pure a' →
        (a'.created = true ↔ i' = i)) ∧
    (∀ key row, cfg.point.state.store.channels.find? key = some row →
      ∀ cfg' : Threads ι T ChannelSession, Reach (system ι py) cfg cfg' →
        cfg'.point.state.store.channels.find? key = some row) ∧
    (∀ row ∈ cfg.point.state.store.channels, ∀ row' ∈ cfg.point.state.store.channels,
      row.key ≠ row'.key → row.sessionId ≠ row'.sessionId) ∧
    (∀ row ∈ cfg.point.state.store.channels,
      cfg.point.state.store.Live row.sessionId ∧ cfg.point.state.store.Started row.sessionId) ∧
    (∀ i a, cfg.threads i = .pure a →
      cfg.point.state.store.Live a.sessionId ∧ cfg.point.state.store.Started a.sessionId) ∧
    (∀ i, ((∃ a, cfg.threads i = .pure a ∧ a.created = false) ∨ ∃ e, cfg.threads i = .throw e) →
      ∃ sid, candidatesOf i cfg.point.trace = [sid] ∧
        cfg.point.state.store.statusOf sid = some .abandoned) := by
  obtain ⟨hinv, hcand⟩ := channelInv_reach py hempty hfresh hr
  have hplay := (channel_plays py requests w₀).reach hr
  have hends : ∀ i a, cfg.threads i = .pure a →
      ChannelEnds (phasesAt requests cfg.point.trace i) (.ok a) :=
    fun i a hi => hplay.returned hi
  refine ⟨?_, ?_, ?_, ?_, ?_, ?_, ?_⟩
  · intro i j a b hkey hi hj
    obtain ⟨row, hrow, hsid, hcid⟩ := hinv.answered (hends i a hi)
    obtain ⟨row', hrow', hsid', hcid'⟩ := hinv.answered (hends j b hj)
    rw [hkey] at hrow
    obtain rfl := Option.some.inj (hrow.symm.trans hrow')
    exact ⟨hsid.symm.trans hsid', hcid.symm.trans hcid'⟩
  · intro j b hj
    obtain ⟨row, hrow, -, -⟩ := hinv.answered (hends j b hj)
    obtain ⟨hmem, hrowkey⟩ := Data.Table.find?_eq_some.mp hrow
    -- the row was written by a call, which has returned
    obtain ⟨i, hkey, hi⟩ := hinv.rows row hmem
    have hkey' : (requests i).key = (requests j).key := hkey.trans hrowkey
    have hplayi := hplay i
    have hphase : Role.localAt (fun i => channelRole (requests i).key) cfg.point.trace i =
        .joined row.sessionId row.sessionId row.id true := hi
    rw [hphase] at hplayi
    obtain ⟨a, ha, hcreated⟩ := returned_of_joined hplayi
    refine ⟨i, a, hkey', ha, hcreated, fun i' a' hk hi' => ?_⟩
    exact hinv.created_iff (hends i' a' hi') (hk.trans hkey'.symm) (hkey' ▸ hrow) hi
  · exact fun key row hrow cfg' hr' => channel_row_stays py hr' hrow
  · exact fun row hrow row' hrow' hne heq => hne (hinv.row_session_inj hrow hrow' heq)
  · exact fun row hrow => hinv.row_live hrow
  · intro i a hi
    obtain ⟨row, hrow, hsid, -⟩ := hinv.answered (hends i a hi)
    rw [← hsid]
    exact hinv.row_live (Data.Table.find?_eq_some.mp hrow).1
  · rintro i (⟨a, hi, hcreated⟩ | ⟨e, hi⟩)
    · obtain ⟨sid, ⟨-, htrue⟩ | ⟨hq, -⟩⟩ := hends i a hi
      · rw [hcreated] at htrue
        cases htrue
      · have hok := hinv.phases i
        rw [hq] at hok
        exact ⟨sid, (hcand i).trans (by rw [hq]; rfl), hok.1⟩
    · have hend : ChannelEnds (phasesAt requests cfg.point.trace i) (.error e) :=
        hplay.raised hi
      rcases hend with hq | ⟨sid, answer, hq⟩
      · have hok := hinv.phases i
        rw [hq] at hok
        exact hok.elim
      · have hok := hinv.phases i
        rw [hq] at hok
        exact ⟨sid, (hcand i).trans (by rw [hq]; rfl), hok.1⟩

end Runs

/-- Two callers race for one channel on one host. -/
theorem channel_sessions_converge_sample :
    let celld : Celld := ⟨0, "cell-local", ⟨"k"⟩, ⟨⟨"k"⟩, []⟩⟩
    let w₀ := ((Broker.registerCellHost "cell-local" "local" "inproc://cell" 100 (.celld celld)
      (some celld)).run (exec Py.sample) (World.init (0 : ℚ) Sample.files)).2
    let request : ChannelRequest := ⟨"slack", "C1", "", "local", "", .null⟩
    let cfg := execute (exec Py.sample) ((List.replicate 20 [false, true]).flatten)
      (.start (fun _ : Bool => request.run Py.sample) w₀)
    ∀ a b, cfg.threads false = .pure a → cfg.threads true = .pure b →
      a.sessionId = b.sessionId ∧ a.channelId = b.channelId := by
  intro celld w₀ request cfg a b ha hb
  have hr : Reach (system Bool Py.sample)
      (.start (fun i => ((fun _ : Bool => request) i).run Py.sample) w₀) cfg :=
    reach_execute (fun _ _ _ => trivial) _ _
  have hnone : w₀.store.sessions.rows = [] := rfl
  have hfresh : ∀ s ∈ w₀.store.sessions, ∀ n, w₀.drawn .session ≤ n →
      s.id ≠ Py.sample.uuid4 .session n := by
    intro s hs
    rw [Data.Table.mem_def, hnone] at hs
    cases hs
  exact (channel_sessions_converge Py.sample rfl hfresh hr).1 false true a b rfl ha hb

end Nadi
