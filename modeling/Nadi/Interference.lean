import Nadi.Likewise

/-!
# Sessions do not interfere

Operations on the sessions of a local stack, one after the other, each with its own
readings of the clock and of the file system (`Visit`). Leave out those on other
sessions than one: what is left is answered alike, and that session ends alike
(`sessions_apart`), up to a renaming of what is numbered for all sessions
together: commands, rows of events and the ids of tokens.

- `Visit.apart`: an operation on another session leaves this one as it was.
- `Visit.same`: one on this session is answered alike.
-/

namespace Nadi

open Effect

variable {T : Type}

/-! ## Operations -/

/-- An operation on a session. -/
inductive SessionOp where
  | sendCommand (send : Send)
  | enqueueCommand (send : Send)
  | getSessionEvents (after : ℤ)
  | destroyCell
  | reconstructCell
  /-- The cell is gone from `celld.cells`. -/
  | loseCell

/-- An operation, the session it is on, and the time in which it is served. -/
structure Visit (T : Type) [LE T] where
  sessionId : String
  op : SessionOp
  around : Surroundings T

/-- What an operation returns; of a rebuilt cell, its fields and its state. -/
inductive Returned (T : Type) where
  | sent (sent : Sent)
  | enqueued (commandId : ℕ)
  | events (events : List (EventRow T))
  | rebuilt (sessionId jwt : String) (state : CellState)
  | done

/-- What a run returns, and the state after it. -/
def finish {α : Type} (f : World T → α → Returned T) (r : Except PyErr α × Ticking T) :
    Except PyErr (Returned T) × World T :=
  (r.1.map (f r.2.world), r.2.world)

section Serve

variable [Field T] [LinearOrder T] [IsStrictOrderedRing T] [FloorRing T] (py : Py) (c : Celld)

/-- Serve an operation. -/
def Visit.serve (visit : Visit T) (w : World T) : Except PyErr (Returned T) × World T :=
  match visit.op with
  | .sendCommand send => finish (fun _ sent => .sent sent)
      ((send.code py visit.sessionId).run (amid py visit.around.calm) ⟨0, w⟩)
  | .enqueueCommand send => finish (fun _ commandId => .enqueued commandId)
      ((call (.enqueueCommand visit.sessionId send.commandType send.payload
        send.actorResourceId)).run (amid py visit.around.calm) ⟨0, w⟩)
  | .getSessionEvents after => finish (fun _ events => .events events)
      ((Gateway.getSessionEvents visit.sessionId after).run (amid py visit.around.calm) ⟨0, w⟩)
  | .destroyCell => finish (fun _ _ => .done)
      ((c.destroyCell py visit.sessionId).run (amid py visit.around.calm) ⟨0, w⟩)
  | .reconstructCell => finish (fun w cell => .rebuilt cell.sessionId cell.jwt (w.heap cell.addr))
      ((c.reconstructCell py visit.sessionId).run (amid py visit.around.calm) ⟨0, w⟩)
  | .loseCell => finish (fun _ _ => .done)
      ((call (.cellsPop c.ref visit.sessionId)).run (amid py visit.around.calm) ⟨0, w⟩)

/-- Serve operations in turn: their outcomes, each with its session, and the state
at the end. -/
def serveVisits : List (Visit T) → World T →
    List (String × Except PyErr (Returned T)) × World T
  | [], w => ([], w)
  | visit :: rest, w =>
    let served := visit.serve py c w
    let more := serveVisits rest served.2
    ((visit.sessionId, served.1) :: more.1, more.2)

end Serve

/-- The outcomes of the operations on a session. -/
def outcomesOf {α : Type} (sid : String) (outcomes : List (String × α)) : List α :=
  (outcomes.filter fun o => o.1 == sid).map Prod.snd

/-! ## The same outcomes -/

section Same

variable (py : Py) (c : Celld) (sid : String) (names : Names)

inductive SameReturned : Returned T → Returned T → Prop where
  | sent {a b : Sent} (h : SameSent names a b) : SameReturned (.sent a) (.sent b)
  | enqueued {a b : ℕ} (h : names.commands.rel a b) : SameReturned (.enqueued a) (.enqueued b)
  | events {a b : List (EventRow T)} (h : List.Forall₂ (SameEvent names) a b) :
    SameReturned (.events a) (.events b)
  | rebuilt {jwt jwt' : String} {sessionId : String} {state : CellState}
    (h : SameToken py c sid names jwt jwt') :
    SameReturned (.rebuilt sessionId jwt state) (.rebuilt sessionId jwt' state)
  | done : SameReturned .done .done

/-- The same value up to names, or the same exception. -/
inductive SameOutcome : Except PyErr (Returned T) → Except PyErr (Returned T) → Prop where
  | returned {a b : Returned T} (h : SameReturned py c sid names a b) : SameOutcome (.ok a) (.ok b)
  | raised (e : PyErr) : SameOutcome (.error e) (.error e)

end Same

section Mono

variable {py : Py} {c : Celld} {sid : String} {names names' : Names}

theorem SameReturned.mono (hle : names ≤ names') {a b : Returned T}
    (h : SameReturned py c sid names a b) : SameReturned py c sid names' a b := by
  cases h with
  | sent h => exact .sent ⟨hle.1 _ _ h.commandId, h.events⟩
  | enqueued h => exact .enqueued (hle.1 _ _ h)
  | events h => exact .events (h.imp fun _ _ => SameEvent.mono hle)
  | rebuilt h => exact .rebuilt (h.mono hle)
  | done => exact .done

theorem SameOutcome.mono (hle : names ≤ names') {a b : Except PyErr (Returned T)}
    (h : SameOutcome py c sid names a b) : SameOutcome py c sid names' a b := by
  cases h with
  | returned h => exact .returned (h.mono hle)
  | raised e => exact .raised e

end Mono

/-! ## One operation -/

/-- Live cells are apart, in their tokens and in their states. -/
def Laid (py : Py) (c : Celld) (w : World T) : Prop := Stacked py c w ∧ Placed c w

section Visits

variable [Field T] [LinearOrder T] [IsStrictOrderedRing T] [FloorRing T] {py : Py} {c : Celld}
  {sid : String} {names : Names} {w w' : World T}

omit [IsStrictOrderedRing T] [FloorRing T] in
/-- Any program keeps logs numbered and claim tokens drawn. -/
theorem run_numbered {α : Type} {around : Surroundings T} (p : Code T α) {s : Ticking T}
    (h : Numbered py s.world) : Numbered py (p.run (amid py around) s).2.world := by
  refine (Prog.Within.any p).preserves (I := fun s : Ticking T => Numbered py s.world)
    (fun d s _ h => ?_) h
  exact ⟨exec_contiguous py d _ h.contiguous,
    exec_claimsDrawn py (w := around.met s) d h.claims⟩

theorem Visit.numbered (visit : Visit T) (h : Numbered py w) :
    Numbered py (visit.serve py c w).2 := by
  unfold Visit.serve
  cases visit.op <;> exact run_numbered _ h

/-- Live cells stay apart. -/
theorem Visit.laid (visit : Visit T) (h : Laid py c w) : Laid py c (visit.serve py c w).2 := by
  have life : CellLife py visit.around.calm c _ _ _ := life_laid
  have hmild : ∀ {α : Type} {p : Code T α} {post : α → Prop}, p.Within Call.mild post →
      Laid py c (p.run (amid py visit.around.calm) ⟨0, w⟩).2.world :=
    fun hp => (life.mild none).triple hp _ h
  unfold Visit.serve
  cases visit.op with
  | sendCommand send => exact life.sendCommand visit.sessionId send _ h
  | enqueueCommand send => exact hmild (.perform trivial fun _ => trivial)
  | getSessionEvents after =>
    exact hmild (Gateway.getSessionEvents_calls (fun _ hd => hd.mild) trivial)
  | destroyCell => exact life.destroyCell visit.sessionId _ h
  | reconstructCell => exact (life.reconstructCell visit.sessionId ⟨0, w⟩ h).1
  | loseCell => exact hmild (.perform trivial fun _ => trivial)

/-- **An operation on another session** leaves this one as it was. -/
theorem Visit.apart (visit : Visit T) (hne : sid ≠ visit.sessionId) (hlaid : Laid py c w)
    (hclaims : w.ClaimsDrawn py) : Unmoved c sid w (visit.serve py c w).2 := by
  have hstart : Elsewhere py c sid visit.sessionId w (fun _ => False) w := by
    refine ⟨.refl w, fun _ _ hid => hid.elim, hclaims, fun cell hcell mine hmine heq => ?_,
      fun mine hmine => hlaid.2.allocated sid mine hmine⟩
    exact hne (hlaid.2.distinct _ _ cell mine hcell hmine heq).symm
  have hwithin : ∀ {α : Type} {p : Code T α} {post : α → Prop},
      p.Within (Call.elsewhere c sid visit.sessionId w fun _ => False) post →
      Unmoved c sid w (p.run (amid py visit.around.calm) ⟨0, w⟩).2.world :=
    fun hp => (Elsewhere.within hne hp ⟨0, w⟩ hstart).unmoved
  unfold Visit.serve
  cases visit.op with
  | sendCommand send => exact (elsewhere_sendCommand hne send ⟨0, w⟩ ⟨hstart, hlaid⟩).unmoved
  | enqueueCommand send => exact hwithin (.perform ⟨rfl, trivial⟩ fun _ => trivial)
  | getSessionEvents after =>
    refine hwithin (Gateway.getSessionEvents_calls (fun d hd => ?_) ⟨trivial, trivial⟩)
    cases d <;> first | exact hd.elim | exact ⟨trivial, trivial⟩
  | destroyCell => exact (elsewhere_destroyCell hne ⟨0, w⟩ hstart).unmoved
  | reconstructCell => exact (elsewhere_reconstructCell hne ⟨0, w⟩ hstart).unmoved
  | loseCell => exact hwithin (.perform ⟨trivial, rfl⟩ fun _ => trivial)

/-- The hosts are as they were, as another session can tell. -/
theorem Visit.hosts (visit : Visit T) (hlaid : Laid py c w) (hclaims : w.ClaimsDrawn py) :
    (visit.serve py c w).2.store.cellHosts = w.store.cellHosts := by
  obtain ⟨other, hne⟩ : ∃ other, other ≠ visit.sessionId := by
    by_cases hempty : visit.sessionId = ""
    · exact ⟨"other", fun heq => absurd (heq.trans hempty) (by decide)⟩
    · exact ⟨"", fun heq => hempty heq.symm⟩
  exact (visit.apart hne hlaid hclaims).hosts

variable (py c sid) in
/-- Two stacks between operations that hold the same of a session. -/
structure Abreast (names : Names) (w w' : World T) : Prop where
  laid : Laid py c w
  laid' : Laid py c w'
  numbered : Numbered py w
  numbered' : Numbered py w'
  alike : Alike py c sid names w w'

omit [Field T] [LinearOrder T] [IsStrictOrderedRing T] [FloorRing T] in
/-- The tokens of a stack that were revoked had been drawn. -/
theorem Stacked.unspent (h : Stacked py c w) : Unspent py w := by
  intro k hk
  have hnone : w.store.revokedTokens.find? (py.uuid4 .jti k) = none := by
    refine Data.Table.find?_eq_none.mpr fun row hrow hjti => ?_
    obtain ⟨k', hk', hjti'⟩ := h.rows row hrow
    exact absurd (py.uuid4_inj (hjti'.symm.trans hjti)).2 (Nat.ne_of_lt (hk'.trans_le hk))
  unfold Store.revokedUntil
  rw [hnone]
  rfl

omit [Field T] [IsStrictOrderedRing T] [FloorRing T] in
/-- A session of a stack has its seat at the one daemon. -/
theorem Abreast.seated (h : Abreast py c sid names w w') :
    Seated py c sid w.objects w w' where
  objects := rfl
  route t := by
    unfold Store.getRoute
    rw [h.alike.lease, h.alike.hosts]
  celld _ route object _ hobject := h.laid.1.objects route.hostId object hobject
  token cell cell' k k' t hcell hcell' htoken htoken' := by
    have hnone : ∀ {w : World T} {cell : Cell} {k : ℕ} {t : ℤ}, Laid py c w →
        w.cells c.ref sid = some cell → cell.jwt = c.tokenOf py sid k t →
        w.store.revokedUntil (py.uuid4 .jti k) = none := by
      intro w cell k t hlaid hfound hjwt
      obtain ⟨k₁, t₁, hjwt₁, hgood⟩ := hlaid.1.cells sid cell hfound
      obtain rfl := (Celld.tokenOf_inj (hjwt₁.symm.trans hjwt)).1
      unfold Store.revokedUntil
      rw [Data.Table.find?_eq_none.mpr hgood.unrevoked]
      rfl
    exact (hnone h.laid' hcell' htoken').trans (hnone h.laid hcell htoken).symm
  unspent := h.laid.1.unspent
  unspent' := h.laid'.1.unspent

omit [Field T] [IsStrictOrderedRing T] [FloorRing T] in
theorem Abreast.along (h : Abreast py c sid names w w') :
    Along py c sid (Seated py c sid w.objects) names ⟨0, w⟩ ⟨0, w'⟩ :=
  ⟨⟨rfl, h.numbered, h.numbered', h.seated⟩, h.alike.toAkin⟩

omit [IsStrictOrderedRing T] [FloorRing T] in
/-- What a program returns on both stacks. -/
theorem finish_same {α : Type} {around : Surroundings T} {p : Code T α}
    {Q : α → α → Ticking T → Ticking T → Prop} {f : World T → α → Returned T}
    (h : Abreast py c sid names w w')
    (hp : SideBySide (amid py around.calm) (Along py c sid (Seated py c sid w.objects) names) Q
      (Astray py c sid names) p p)
    (hQ : ∀ a b s t, Q a b s t → ∃ names', names ≤ names' ∧
      SameReturned py c sid names' (f s.world a) (f t.world b) ∧
        Along py c sid (fun _ _ => True) names' s t) :
    ∃ names', names ≤ names' ∧
      SameOutcome py c sid names' (finish f (p.run (amid py around.calm) ⟨0, w⟩)).1
        (finish f (p.run (amid py around.calm) ⟨0, w'⟩)).1 ∧
      Akin py c sid names' (finish f (p.run (amid py around.calm) ⟨0, w⟩)).2
        (finish f (p.run (amid py around.calm) ⟨0, w'⟩)).2 := by
  have hend := hp _ _ h.along
  generalize p.run (amid py around.calm) ⟨0, w⟩ = x at hend ⊢
  generalize p.run (amid py around.calm) ⟨0, w'⟩ = y at hend ⊢
  cases hend with
  | ok hq =>
    obtain ⟨names', hle, hreturned, hafter⟩ := hQ _ _ _ _ hq
    exact ⟨names', hle, .returned hreturned, hafter.2⟩
  | error e he =>
    obtain ⟨names', hle, hafter⟩ := he
    exact ⟨names', hle, .raised e, hafter.2⟩

/-- **An operation on this session** is answered alike. -/
theorem Visit.same (visit : Visit T) (hsid : visit.sessionId = sid)
    (hjwt : c.sandboxd.jwt = c.jwt) (h : Abreast py c sid names w w') :
    ∃ names', names ≤ names' ∧
      SameOutcome py c sid names' (visit.serve py c w).1 (visit.serve py c w').1 ∧
      Akin py c sid names' (visit.serve py c w).2 (visit.serve py c w').2 := by
  subst hsid
  have hh : Punctual py (amid py visit.around.calm) := punctual_amid py fun _ _ => rfl
  unfold Visit.serve
  cases visit.op with
  | sendCommand send =>
    refine finish_same h (likewise_sendCommand hh hjwt send) ?_
    rintro a b s t ⟨names', hle, hsent, hafter⟩
    exact ⟨names', hle, .sent hsent, hafter⟩
  | enqueueCommand send =>
    refine finish_same h (likewise_enqueueCommand hh lasting_seated _ _ _).agreed ?_
    rintro a b s t ⟨names', hle, hid, hafter⟩
    exact ⟨names', hle, .enqueued hid, hafter⟩
  | getSessionEvents after =>
    refine finish_same h (likewise_getSessionEvents hh after).agreed ?_
    rintro a b s t ⟨names', hle, hevents, hafter⟩
    exact ⟨names', hle, .events hevents, hafter⟩
  | destroyCell =>
    refine finish_same h likewise_destroyCell ?_
    rintro a b s t ⟨names', hle, -, hafter⟩
    exact ⟨names', hle, .done, hafter⟩
  | reconstructCell =>
    refine finish_same h (likewise_reconstructCell hh) ?_
    rintro a b s t ⟨names', k, k', t₀, hle, htoken, htoken', hbeside⟩
    refine ⟨names', hle, ?_, hbeside.along.1.forget, hbeside.along.2⟩
    rw [hbeside.same.owner, hbeside.same.state]
    exact .rebuilt hbeside.same.token
  | loseCell =>
    have hpop : SideBySide (amid py visit.around.calm)
        (Along py c visit.sessionId (Seated py c visit.sessionId w.objects) names)
        (fun _ _ => Along py c visit.sessionId (fun _ _ => True) names)
        (Astray py c visit.sessionId names) (call (.cellsPop c.ref visit.sessionId))
        (call (.cellsPop c.ref visit.sessionId)) := by
      refine SideBySide.perform (c := Call.cellsPop c.ref visit.sessionId)
        (d := Call.cellsPop c.ref visit.sessionId) fun s t hst => ?_
      exact .ok (hst.step visit.around _ _ fun now files =>
        (untimed_akin _ _ now files now files hst.2).unregister)
    exact finish_same h hpop fun a b s t hq => ⟨names, le_refl _, .done, hq⟩

/-! ## Runs -/

/-- **Whole runs**, by induction on the operations: those on other sessions may be
left out. -/
theorem serveVisits_same (hjwt : c.sandboxd.jwt = c.jwt) (visits : List (Visit T))
    (h : Abreast py c sid names w w') :
    ∃ names', names ≤ names' ∧
      List.Forall₂ (SameOutcome py c sid names') (outcomesOf sid (serveVisits py c visits w).1)
        (outcomesOf sid
          (serveVisits py c (visits.filter fun visit => visit.sessionId == sid) w').1) ∧
      Abreast py c sid names' (serveVisits py c visits w).2
        (serveVisits py c (visits.filter fun visit => visit.sessionId == sid) w').2 := by
  induction visits generalizing names w w' with
  | nil => exact ⟨names, le_refl _, .nil, h⟩
  | cons visit rest ih =>
    obtain ⟨hlaid, hlaid', hnumbered, hnumbered', halike⟩ := id h
    by_cases hsid : visit.sessionId = sid
    · obtain ⟨names₁, hle₁, houtcome, hafter⟩ := visit.same hsid hjwt h
      have hhosts : (visit.serve py c w').2.store.cellHosts = (visit.serve py c w).2.store.cellHosts := by
        rw [visit.hosts hlaid' hnumbered'.claims, visit.hosts hlaid hnumbered.claims, halike.hosts]
      have hnext : Abreast py c sid names₁ (visit.serve py c w).2 (visit.serve py c w').2 :=
        ⟨visit.laid hlaid, visit.laid hlaid', visit.numbered hnumbered, visit.numbered hnumbered',
          ⟨hafter, hhosts⟩⟩
      obtain ⟨names₂, hle₂, houtcomes, hend⟩ := ih hnext
      rw [List.filter_cons_of_pos (by simpa using hsid)]
      refine ⟨names₂, hle₁.trans hle₂, ?_, hend⟩
      unfold serveVisits outcomesOf
      rw [List.filter_cons_of_pos (by simpa using hsid),
        List.filter_cons_of_pos (by simpa using hsid)]
      exact .cons (houtcome.mono hle₂) houtcomes
    · -- the other run makes no step
      have hunmoved := visit.apart (Ne.symm hsid) hlaid hnumbered.claims
      have hnext : Abreast py c sid names (visit.serve py c w).2 w' :=
        ⟨visit.laid hlaid, hlaid', visit.numbered hnumbered, hnumbered',
          ⟨halike.toAkin.unmoved hunmoved (.refl w'), halike.hosts.trans hunmoved.hosts.symm⟩⟩
      obtain ⟨names', hle, houtcomes, hend⟩ := ih hnext
      rw [List.filter_cons_of_neg (by simpa using hsid)]
      refine ⟨names', hle, ?_, hend⟩
      have hskip : outcomesOf sid (serveVisits py c (visit :: rest) w).1 =
          outcomesOf sid (serveVisits py c rest (visit.serve py c w).2).1 :=
        congrArg (List.map Prod.snd) (List.filter_cons_of_neg (by simpa using hsid))
      rw [hskip]
      exact houtcomes

omit [Field T] [LinearOrder T] [IsStrictOrderedRing T] [FloorRing T] in
/-- A stack is abreast of itself. -/
theorem abreast_refl (sid : String) (hlaid : Laid py c w) (hnumbered : Numbered py w) :
    ∃ names, Abreast py c sid names w w := by
  refine ⟨_, hlaid, hlaid, hnumbered, hnumbered, .refl fun cell hcell => ?_, rfl⟩
  obtain ⟨k, t, htoken, hgood⟩ := hlaid.1.cells sid cell hcell
  exact ⟨hlaid.2.allocated sid cell hcell, k, t, htoken, hgood.drawn⟩

end Visits

section Apart

variable [Field T] [LinearOrder T] [IsStrictOrderedRing T] [FloorRing T]

/-- **Sessions do not interfere.** On a local stack on which any requests have been
served, and sessions created by them, take any operations in turn, and leave out
those on other sessions than one. The operations on that session have the same
outcomes in both runs, and the session ends with the same row, log, inbox and live
cell, up to a renaming of the numbers of commands and events and of the ids of
tokens, which keeps their order. -/
theorem sessions_apart (py : Py) (cwd : List String) (clock : T) (files : Files)
    (around : Surroundings T) (requests : List StackRequest) (visits : List (Visit T))
    (sid : String) :
    let c := localCelld cwd
    let start := (StackRequest.serveAll py around c requests
      ⟨0, localWorld py cwd clock files⟩).world
    let all := serveVisits py c visits start
    let own := serveVisits py c (visits.filter fun visit => visit.sessionId == sid) start
    ∃ names, List.Forall₂ (SameOutcome py c sid names) (outcomesOf sid all.1)
        (outcomesOf sid own.1) ∧
      Alike py c sid names all.2 own.2 := by
  intro c start all own
  have life : CellLife py around c _ _ _ := life_laid
  have hlaid : Laid py c start := life.serveAll requests (s := ⟨0, localWorld py cwd clock files⟩)
    ⟨stacked_localWorld cwd clock files, placed_localWorld cwd clock files⟩
  have hrooted := rooted_localWorld py cwd clock files
  have hserved : ∀ (requests : List StackRequest) (s : Ticking T), Numbered py s.world →
      Numbered py (StackRequest.serveAll py around c requests s).world := by
    intro requests
    induction requests with
    | nil => exact fun _ h => h
    | cons request rest ih => exact fun s h => ih _ (run_numbered (request.code py c) h)
  have hnumbered : Numbered py start :=
    hserved requests _ ⟨hrooted.contiguous, hrooted.sound.claims⟩
  obtain ⟨names, hstart⟩ := abreast_refl sid hlaid hnumbered
  obtain ⟨names', -, houtcomes, hend⟩ := serveVisits_same rfl visits hstart
  exact ⟨names', houtcomes, hend.alike⟩

end Apart

/-! ## Two neighbours -/

/-- Nothing happens around the calls. -/
def undisturbed : Surroundings ℚ := .still 0 Sample.files fun _ _ => false

/-- A local stack with two sessions. -/
def twoSessions : World ℚ :=
  (StackRequest.serveAll Py.sample undisturbed (localCelld [])
    [.createSession "local" .null, .createSession "local" .null]
    ⟨0, localWorld Py.sample [] 0 Sample.files⟩).world

/-- Each gets a command, and the first is asked for its events. -/
def neighbours : List (Visit ℚ) := [
  ⟨"s1", .sendCommand ⟨"echo", .obj [("text", .str "there")], none⟩, undisturbed⟩,
  ⟨"s", .sendCommand ⟨"echo", .obj [("text", .str "here")], none⟩, undisturbed⟩,
  ⟨"s", .getSessionEvents 0, undisturbed⟩]

/-- The numbers of the rows that an outcome shows. -/
def rowIds : Except PyErr (Returned ℚ) → List ℕ
  | .ok (.events events) => events.map EventRow.id
  | _ => []

/-- The first session is served as if it were alone. -/
theorem sessions_apart_sample :
    let all := serveVisits Py.sample (localCelld []) neighbours twoSessions
    let own := serveVisits Py.sample (localCelld [])
      (neighbours.filter fun visit => visit.sessionId == "s") twoSessions
    ∃ names, List.Forall₂ (SameOutcome Py.sample (localCelld []) "s" names)
        (outcomesOf "s" all.1) (outcomesOf "s" own.1) ∧
      Alike Py.sample (localCelld []) "s" names all.2 own.2 :=
  sessions_apart Py.sample [] 0 Sample.files undisturbed _ neighbours "s"

/-- **The rows of events are numbered for all sessions together**: no renaming of
commands and tokens alone relates the outcomes. -/
theorem event_rows_renumbered :
    let all := serveVisits Py.sample (localCelld []) neighbours twoSessions
    let own := serveVisits Py.sample (localCelld [])
      (neighbours.filter fun visit => visit.sessionId == "s") twoSessions
    ¬ ∃ names : Names, (∀ a b, names.events.rel a b → a = b) ∧
      List.Forall₂ (SameOutcome Py.sample (localCelld []) "s" names)
        (outcomesOf "s" all.1) (outcomesOf "s" own.1) := by
  intro all own
  rintro ⟨names, hfixed, hsame⟩
  have hrows : ∀ {o o' : Except PyErr (Returned ℚ)},
      SameOutcome Py.sample (localCelld []) "s" names o o' → rowIds o = rowIds o' := by
    intro o o' h
    cases h with
    | raised e => rfl
    | returned h =>
      cases h with
      | @events a b hevents =>
        have hids : List.Forall₂ (· = ·) (a.map EventRow.id) (b.map EventRow.id) :=
          List.forall₂_map_left_iff.mpr (List.forall₂_map_right_iff.mpr
            (hevents.imp fun ev ev' hev => hfixed _ _ hev.id))
        rwa [List.forall₂_eq_eq_eq] at hids
      | _ => rfl
  have hids : List.Forall₂ (· = ·) ((outcomesOf "s" all.1).map rowIds)
      ((outcomesOf "s" own.1).map rowIds) :=
    List.forall₂_map_left_iff.mpr (List.forall₂_map_right_iff.mpr
      (hsame.imp fun _ _ => hrows))
  rw [List.forall₂_eq_eq_eq] at hids
  revert hids
  decide +kernel

end Nadi
