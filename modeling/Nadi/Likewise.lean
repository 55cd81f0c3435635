import Nadi.Alike
import Nadi.Handling
import Nadi.Model.Punctual

/-!
# Requests for one session in two runs

The same request for a session, made in two states that are akin for it, is
answered alike and leaves them akin. Both runs have taken the same number of
readings, and calls of the same pace are served at the same time.

- `Along`: what relates the runs between two steps. `Likewise`: two programs whose
  runs stay so related, while more and more is named.
- `Seated`: what the route and the token of the session's cell have in common.
- One rule for each program of the stack, up to `likewise_sendCommand`,
  `likewise_reconstructCell` and `likewise_destroyCell`.
-/

namespace Nadi

open Effect

variable {T : Type}

/-! ## Two runs -/

/-- Logs are numbered from one, and claim tokens have been drawn. -/
structure Numbered (py : Py) (w : World T) : Prop where
  contiguous : w.store.Contiguous
  claims : w.ClaimsDrawn py

/-- Nothing has been leased or registered, and the revoked tokens are the same. -/
structure Still (c : Celld) (w v : World T) : Prop where
  steady : Steady c w v
  revoked : v.store.revokedTokens = w.store.revokedTokens

/-- The calls after which that is so. -/
def Call.gentle : Call T → Prop
  | .isTokenRevoked _ => False
  | d => d.mild

/-- A fact about two states that lasts while both are still. -/
def Lasting (c : Celld) (X : World T → World T → Prop) : Prop :=
  ∀ w w' v v', Still c w v → Still c w' v' → X w w' → X v v'

section Runs

variable (py : Py) (c : Celld) (sid : String) (X : World T → World T → Prop)

/-- Two runs after the same number of readings, with a fact about both. -/
structure Level (s t : Ticking T) : Prop where
  reading : s.reading = t.reading
  numbered : Numbered py s.world
  numbered' : Numbered py t.world
  both : X s.world t.world

/-- And they hold the same of the session. -/
def Along (names : Names) (s t : Ticking T) : Prop :=
  Level py X s t ∧ Akin py c sid names s.world t.world

/-- The runs have ended with the same exception. -/
def Astray (names : Names) (s t : Ticking T) : Prop :=
  ∃ names', names ≤ names' ∧ Along py c sid (fun _ _ => True) names' s t

variable (h : Handler (Call T) Call.Ret PyErr (Ticking T))

/-- The programs come out the same, up to names, which may become more. -/
def Likewise {α β : Type} (names : Names) (V : Names → α → β → Prop) (p : Code T α)
    (q : Code T β) : Prop :=
  SideBySide h (Along py c sid X names)
    (fun a b s t => ∃ names', names ≤ names' ∧ V names' a b ∧ Along py c sid X names' s t)
    (Astray py c sid names) p q

end Runs

section Rules

variable {py : Py} {c : Celld} {sid : String} {X : World T → World T → Prop}
  {names names' : Names} {s t : Ticking T} {α β γ δ : Type} {w w' v : World T}

theorem Still.refl (w : World T) : Still c w w := ⟨.refl w, rfl⟩

theorem Still.trans (h : Still c w w') (h' : Still c w' v) : Still c w v :=
  ⟨h.steady.trans h'.steady, h'.revoked.trans h.revoked⟩

theorem Still.pass (h : Still c w v) (now : T) (files : Files) : Still c w (v.pass now files) :=
  ⟨h.steady.trans ⟨rfl, rfl, rfl, rfl, fun _ h => h, Nat.le_refl _, fun _ _ h => h⟩, h.revoked⟩

theorem Lasting.untimed (hX : Lasting c X) : Untimed X :=
  fun w w' _ _ _ _ h => hX w w' _ _ ((Still.refl w).pass _ _) ((Still.refl w').pass _ _) h

theorem untimed_akin : Untimed (Akin py c sid names : World T → World T → Prop) :=
  fun _ _ _ _ _ _ h => {
    row := h.row
    lease := h.lease
    log := h.log
    inbox := h.inbox
    objects := h.objects
    cell := h.cells rfl rfl fun _ _ _ _ hc => hc.keep hc.state (Nat.le_refl _) (Nat.le_refl _)
    bounded := ⟨h.bounded.commands, h.bounded.events, h.bounded.tokens⟩ }

theorem Numbered.pass (h : Numbered py w) (now : T) (files : Files) :
    Numbered py (w.pass now files) := ⟨h.contiguous, h.claims⟩

theorem Level.forget (h : Level py X s t) : Level py (fun _ _ => True) s t :=
  ⟨h.reading, h.numbered, h.numbered', trivial⟩

theorem Along.astray (h : Along py c sid X names' s t) (hle : names ≤ names') :
    Astray py c sid names s t :=
  ⟨names', hle, h.1.forget, h.2⟩

theorem Astray.mono (h : Astray py c sid names' s t) (hle : names ≤ names') :
    Astray py c sid names s t := by
  obtain ⟨names'', hle', hst⟩ := h
  exact ⟨names'', hle.trans hle', hst⟩

variable [Field T] [LinearOrder T] {h : Handler (Call T) Call.Ret PyErr (Ticking T)}

theorem exec_still {d : Call T} (hd : d.gentle) : Still c w (exec py d w).2 := by
  refine ⟨?_, ?_⟩
  · cases d <;> first | exact hd.elim | exact exec_steady hd
  · refine exec_revoked py w ?_
    cases d <;> first | exact hd.elim | rfl

theorem exec_numbered (d : Call T) (h : Numbered py w) : Numbered py (exec py d w).2 :=
  ⟨exec_contiguous py d _ h.contiguous, exec_claimsDrawn py (w := w) d h.claims⟩

/-- **Any call on each side**, from what is known of both states: what it comes to, and
the runs after it. -/
theorem Along.serve (hh : Punctual py h) (hX : Untimed X) (hst : Along py c sid X names s t)
    {d e : Call T} (hpace : d.pace = e.pace) {Y : World T → World T → Prop} (hY : Untimed Y)
    {Q : d.Ret → e.Ret → World T → World T → Prop} (hQ : ∀ a b, Untimed (Q a b))
    (hstep : ∀ w w', Akin py c sid names w w' → w'.clock = w.clock → w'.files = w.files →
      Numbered py w → Numbered py w' → X w w' →
      SameEnd Q (Akin py c sid names) (exec py d w) (exec py e w') ∧
        Y (exec py d w).2 (exec py e w').2) :
    SameEnd (fun a b s' t' => Level py Y s' t' ∧ Q a b s'.world t'.world)
      (Along py c sid Y names) (h d s) (h e t) := by
  obtain ⟨⟨hreading, hn, hn', hboth⟩, hakin⟩ := hst
  have hknown : ∀ now files,
      SameEnd (fun a b v v' => Q a b v v' ∧ Numbered py v ∧ Numbered py v' ∧ Y v v')
        (fun v v' => Akin py c sid names v v' ∧ Numbered py v ∧ Numbered py v' ∧ Y v v')
        (exec py d (s.world.pass now files)) (exec py e (t.world.pass now files)) := by
    intro now files
    obtain ⟨hend, hafter⟩ := hstep _ _ (untimed_akin _ _ _ _ _ _ hakin) rfl rfl (hn.pass now files)
      (hn'.pass now files) (hX _ _ _ _ _ _ hboth)
    exact hend.and ⟨exec_numbered d (hn.pass now files), exec_numbered e (hn'.pass now files),
      hafter⟩
  refine (hh.serve hpace hreading (fun a b w w' now files now' files' h => ?_)
    (fun w w' now files now' files' h => ?_) hknown).mono ?_ ?_
  · exact ⟨hQ a b _ _ _ _ _ _ h.1, h.2.1.pass _ _, h.2.2.1.pass _ _, hY _ _ _ _ _ _ h.2.2.2⟩
  · exact ⟨untimed_akin _ _ _ _ _ _ h.1, h.2.1.pass _ _, h.2.2.1.pass _ _, hY _ _ _ _ _ _ h.2.2.2⟩
  · rintro a b s' t' ⟨hreading', hq, hs, ht, hafter⟩
    exact ⟨⟨hreading', hs, ht, hafter⟩, hq⟩
  · rintro s' t' ⟨hreading', hakin', hs, ht, hafter⟩
    exact ⟨⟨hreading', hs, ht, hafter⟩, hakin'⟩

/-- A gentle call on each side leaves what is known. -/
theorem Along.call (hh : Punctual py h) (hX : Lasting c X) (hst : Along py c sid X names s t)
    {d e : Call T} (hpace : d.pace = e.pace) (hd : d.gentle) (hd' : e.gentle)
    {Q : d.Ret → e.Ret → World T → World T → Prop} (hQ : ∀ a b, Untimed (Q a b))
    (hstep : ∀ w w', Akin py c sid names w w' → w'.clock = w.clock → w'.files = w.files →
      Numbered py w → Numbered py w' → X w w' →
      SameEnd Q (Akin py c sid names) (exec py d w) (exec py e w')) :
    SameEnd (fun a b s' t' => Level py X s' t' ∧ Q a b s'.world t'.world)
      (Along py c sid X names) (h d s) (h e t) :=
  hst.serve hh hX.untimed hpace hX.untimed hQ fun w w' hakin hclock hfiles hn hn' hboth =>
    ⟨hstep w w' hakin hclock hfiles hn hn' hboth,
      hX _ _ _ _ (exec_still hd) (exec_still hd') hboth⟩

variable (py c sid names) in
/-- Calls that have nothing to do with any session, and return what is related. -/
theorem along_reads (hh : Punctual py h) (hX : Lasting c X) (d d' : Call T)
    (hpace : d.pace = d'.pace) (hd : d.gentle) (hd' : d'.gentle) (hn : d.neutral) (hn' : d'.neutral)
    {Q : d.Ret → d'.Ret → Prop}
    (hout : ∀ w w', Akin py c sid names w w' → w'.clock = w.clock → w'.files = w.files →
      Numbered py w → Numbered py w' → X w w' →
      ∃ a b, (exec py d w).1 = .ok a ∧ (exec py d' w').1 = .ok b ∧ Q a b) :
    SideBySide h (Along py c sid X names) (fun a b s t => Q a b ∧ Along py c sid X names s t)
      (Astray py c sid names) (call d) (call d') := by
  refine SideBySide.perform fun s t hst => ?_
  have hend := hst.call hh hX hpace hd hd'
    (Q := fun a b v v' => Q a b ∧ Akin py c sid names v v')
    (fun a b _ _ _ _ _ _ h => ⟨h.1, untimed_akin _ _ _ _ _ _ h.2⟩)
    fun w w' hakin hclock hfiles hnum hnum' hboth => by
      obtain ⟨a, b, ha, hb, hQ⟩ := hout w w' hakin hclock hfiles hnum hnum' hboth
      have hafter : Akin py c sid names (exec py d w).2 (exec py d' w').2 := hakin.neutral hn hn'
      generalize exec py d w = x at *
      generalize exec py d' w' = y at *
      obtain ⟨r, v⟩ := x
      obtain ⟨r', v'⟩ := y
      obtain rfl : r = .ok a := ha
      obtain rfl : r' = .ok b := hb
      exact .ok ⟨hQ, hafter⟩
  exact hend.mono (fun _ _ _ _ h => ⟨h.2.1, h.1, h.2.2⟩) fun _ _ he => he.astray (le_refl _)

namespace Likewise

variable {V : Names → α → β → Prop} {W : Names → γ → δ → Prop}

omit [Field T] [LinearOrder T] in
theorem pure {a : α} {b : β} (hV : V names a b) :
    Likewise py c sid X h names V (.pure a) (.pure b) :=
  SideBySide.pure fun _ _ h => ⟨names, le_refl _, hV, h⟩

omit [Field T] [LinearOrder T] in
theorem throw {e : PyErr} :
    Likewise py c sid X h names V (.throw e : Code T α) (.throw e : Code T β) :=
  SideBySide.throw fun _ _ h => h.astray (le_refl _)

omit [Field T] [LinearOrder T] in
theorem bind {p : Code T α} {q : Code T β} {f : α → Code T γ} {g : β → Code T δ}
    (hp : Likewise py c sid X h names V p q)
    (hf : ∀ names' a b, names ≤ names' → V names' a b →
      Likewise py c sid X h names' W (f a) (g b)) :
    Likewise py c sid X h names W (p.bind f) (q.bind g) := by
  refine SideBySide.bind hp fun a b => SideBySide.of_exists fun names' => ?_
  refine SideBySide.of_prop fun hle => SideBySide.of_prop fun hV => fun s t h => ?_
  refine (hf names' a b hle hV s t h).mono ?_ fun _ _ he => he.mono hle
  rintro _ _ _ _ ⟨names'', hle', hW⟩
  exact ⟨names'', hle.trans hle', hW⟩

omit [Field T] [LinearOrder T] in
theorem weaken {p : Code T α} {q : Code T β} {V' : Names → α → β → Prop}
    (hp : Likewise py c sid X h names V p q) (hV : ∀ names a b, V names a b → V' names a b) :
    Likewise py c sid X h names V' p q :=
  SideBySide.weaken hp (fun _ _ h => h) fun _ _ _ _ ⟨names', hle, h, hst⟩ =>
    ⟨names', hle, hV _ _ _ h, hst⟩

/-- One gentle call on each side. -/
theorem call (hh : Punctual py h) (hX : Lasting c X) (d d' : Call T) (hpace : d.pace = d'.pace)
    (hd : d.gentle) (hd' : d'.gentle) {V : Names → d.Ret → d'.Ret → Prop}
    (hstep : ∀ w w', Akin py c sid names w w' → w'.clock = w.clock → w'.files = w.files →
      Numbered py w → Numbered py w' → X w w' → SameStep py c sid names d d' V w w') :
    Likewise py c sid X h names V (Nadi.call d) (Nadi.call d') := by
  refine SideBySide.perform fun s t hst => ?_
  refine (hst.call hh hX hpace hd hd' (fun a b _ _ _ _ _ _ h => ?_) hstep).mono ?_
    fun _ _ he => he.astray (le_refl _)
  · obtain ⟨names', hle, hV, hakin⟩ := h
    exact ⟨names', hle, hV, untimed_akin _ _ _ _ _ _ hakin⟩
  · rintro a b s' t' ⟨hlevel, names', hle, hV, hafter⟩
    exact ⟨names', hle, hV, hlevel, hafter⟩

end Likewise

end Rules

/-! ## The seat of a session -/

/-- Until when a token is refused. -/
def Store.revokedUntil (st : Store T) (jti : String) : Option T :=
  (st.revokedTokens.find? jti).map RevokedRow.expiresAt

section Seated

variable (py : Py) (c : Celld) (sid : String)

/-- Neither id is revoked, or both until the same time. -/
def SameRevoked (k k' : ℕ) (w w' : World T) : Prop :=
  w'.store.revokedUntil (py.uuid4 .jti k') = w.store.revokedUntil (py.uuid4 .jti k)

/-- No id of a token is revoked before it is drawn. -/
def Unspent (w : World T) : Prop :=
  ∀ k, w.drawn .jti ≤ k → w.store.revokedUntil (py.uuid4 .jti k) = none

/-- The session is routed to the same place in both states, where it meets `c`, and
the tokens of its cells are revoked alike. -/
structure Seated [LinearOrder T] (hosted : String → Option Celld) (w w' : World T) : Prop where
  objects : w.objects = hosted
  route : ∀ t, w'.store.getRoute t sid = w.store.getRoute t sid
  celld : ∀ t route object, w.store.getRoute t sid = some route →
    hosted route.hostId = some object → object = c
  token : ∀ cell cell' k k' t, w.cells c.ref sid = some cell → w'.cells c.ref sid = some cell' →
    cell.jwt = c.tokenOf py sid k t → cell'.jwt = c.tokenOf py sid k' t → SameRevoked py k k' w w'
  unspent : Unspent py w
  unspent' : Unspent py w'

end Seated

section Seats

variable {py : Py} {c : Celld} {sid : String} {hosted : String → Option Celld} {w w' v v' : World T}
  {k k' : ℕ}

theorem Still.revokedUntil (h : Still c w v) (jti : String) :
    v.store.revokedUntil jti = w.store.revokedUntil jti := by
  unfold Store.revokedUntil
  rw [h.revoked]

theorem Still.unspent (h : Still c w v) (hw : Unspent py w) : Unspent py v := by
  intro k hk
  rw [h.revokedUntil]
  exact hw k (h.steady.drawn.trans hk)

theorem Still.getRoute [LinearOrder T] (h : Still c w v) (t : T) :
    v.store.getRoute t sid = w.store.getRoute t sid := by
  unfold Store.getRoute
  rw [h.steady.leases, h.steady.hosts]

variable (py) in
theorem lasting_sameRevoked (k k' : ℕ) : Lasting c (SameRevoked py k k' : World T → World T → Prop) := by
  intro w w' v v' hv hv' h
  unfold SameRevoked
  rw [hv'.revokedUntil, hv.revokedUntil]
  exact h

theorem lasting_seated [LinearOrder T] :
    Lasting c (Seated py c sid hosted : World T → World T → Prop) :=
  fun w w' v v' hv hv' h => {
    objects := hv.steady.objects.trans h.objects
    route := fun t => by rw [hv'.getRoute, hv.getRoute, h.route]
    celld := fun t route object hroute => h.celld t route object (hv.getRoute t ▸ hroute)
    token := fun cell cell' k k' t hcell hcell' htoken htoken' =>
      lasting_sameRevoked py k k' w w' v v' hv hv' (h.token cell cell' k k' t
        (hv.steady.cells _ _ hcell) (hv'.steady.cells _ _ hcell') htoken htoken')
    unspent := hv.unspent h.unspent
    unspent' := hv'.unspent h.unspent' }

/-- The rows that have lapsed are dropped, and what is left is looked at. -/
theorem Store.isTokenRevoked_until [LinearOrder T] (st : Store T) (t : T) (jti jti' : String) :
    (st.isTokenRevoked t jti).1 =
        ((st.revokedUntil jti).filter fun exp => !decide (exp < t)).isSome ∧
      (st.isTokenRevoked t jti).2.revokedUntil jti' =
        (st.revokedUntil jti').filter fun exp => !decide (exp < t) := by
  have hfind : ∀ jti, ((st.revokedTokens.delete fun r => decide (r.expiresAt < t)).find? jti).map
      RevokedRow.expiresAt = (st.revokedUntil jti).filter fun exp => !decide (exp < t) := by
    intro jti
    unfold Store.revokedUntil
    rw [Data.Table.find?_delete, Option.filter_map]
    rfl
  refine ⟨?_, hfind jti'⟩
  rw [← hfind, Option.isSome_map]
  rfl

end Seats

/-! ## Delivering a command -/

section Deliver

variable [Field T] [LinearOrder T] {py : Py} {h : Handler (Call T) Call.Ret PyErr (Ticking T)}
  {c : Celld} {sid : String} {hosted : String → Option Celld} {names : Names}
  (hh : Punctual py h)

include hh

theorem likewise_getRoute :
    Likewise py c sid (Seated py c sid hosted) h names
      (fun _ a b => b = a ∧ ∀ route object, a = some route →
        hosted route.hostId = some object → object = c)
      (call (.getRoute sid)) (call (.getRoute sid)) := by
  refine Likewise.call hh lasting_seated (.getRoute sid) (.getRoute sid) rfl trivial trivial
    fun w w' hakin hclock _ _ _ hseat => ?_
  refine hakin.sameStep (.getRoute sid) (.getRoute sid) trivial trivial rfl rfl ⟨?_, ?_⟩
  · rw [hseat.route, hclock]
  · exact fun route object => hseat.celld _ route object

theorem likewise_route :
    Likewise py c sid (Seated py c sid hosted) h names (fun _ _ _ => True) (Gateway.route sid)
      (Gateway.route sid) := by
  refine (likewise_getRoute hh).bind fun names' found found' _ hsame => ?_
  rw [hsame.1]
  cases found with
  | none => exact .throw
  | some route => exact .pure trivial

theorem likewise_celldForRoute :
    Likewise py c sid (Seated py c sid hosted) h names (fun _ a b => a = c ∧ b = c)
      (Broker.celldForRoute sid) (Broker.celldForRoute sid) := by
  refine (likewise_getRoute hh).bind fun names' found found' _ hsame => ?_
  obtain ⟨hfound, hcelld⟩ := hsame
  rw [hfound]
  cases found with
  | none => exact .throw
  | some route =>
    have hobject : Likewise py c sid (Seated py c sid hosted) h names'
        (fun _ a b => b = a ∧ a = hosted route.hostId) (call (.object route.hostId))
        (call (.object route.hostId)) := by
      refine Likewise.call hh lasting_seated (.object route.hostId) (.object route.hostId) rfl trivial
        trivial fun w w' hakin _ _ _ _ hseat => ?_
      refine hakin.sameStep (.object route.hostId) (.object route.hostId) trivial trivial rfl rfl
        ⟨?_, ?_⟩
      · rw [hakin.objects]
      · rw [hseat.objects]
    refine hobject.bind fun names'' object object' _ hsame => ?_
    rw [hsame.1]
    cases object with
    | none => exact .throw
    | some celld =>
      have hc : celld = c := hcelld route celld rfl hsame.2.symm
      exact .pure ⟨hc, hc⟩

theorem likewise_enqueueCommand {X : World T → World T → Prop} (hX : Lasting c X)
    (commandType : String) (payload : Json) (actor : Option String) :
    Likewise py c sid X h names (fun names a b => names.commands.rel a b)
      (call (.enqueueCommand sid commandType payload actor))
      (call (.enqueueCommand sid commandType payload actor)) :=
  Likewise.call hh hX (.enqueueCommand ..) (.enqueueCommand ..) rfl trivial trivial
    fun _ _ hakin hclock _ _ _ _ => hakin.enqueue hclock _ _ _

theorem likewise_deliver (send : Send) :
    Likewise py c sid (Seated py c sid hosted) h names
      (fun names a b => names.commands.rel a.1 b.1 ∧ a.2 = c ∧ b.2 = c) (send.deliver sid)
      (send.deliver sid) := by
  refine (likewise_route hh).bind fun names₁ _ _ _ _ => ?_
  refine (likewise_enqueueCommand hh lasting_seated _ _ _).bind
    fun names₂ commandId commandId' _ hid => ?_
  refine (likewise_celldForRoute hh).bind fun names₃ celld celld' hle hsame => ?_
  exact .pure ⟨hle.1 _ _ hid, hsame⟩

theorem likewise_getSessionEvents (after : ℤ) :
    Likewise py c sid (Seated py c sid hosted) h names
      (fun names evs evs' => List.Forall₂ (SameEvent names) evs evs')
      (Gateway.getSessionEvents sid after) (Gateway.getSessionEvents sid after) := by
  refine (likewise_route hh).bind fun names' _ _ _ _ => ?_
  refine Likewise.call hh lasting_seated (.getEvents sid after) (.getEvents sid after) rfl trivial
    trivial fun w w' hakin _ _ hn hn' _ => ?_
  exact hakin.sameStep (.getEvents sid after) (.getEvents sid after) trivial trivial rfl rfl
    (hakin.getEvents hn.contiguous hn'.contiguous after)

end Deliver

/-! ## Appending events -/

section Append

variable [Field T] [LinearOrder T] {py : Py} {h : Handler (Call T) Call.Ret PyErr (Ticking T)}
  {c : Celld} {sid : String} {X : World T → World T → Prop} {names : Names}

variable (py c sid X names) in
/-- Two runs, and cells of theirs that are the same. -/
structure Beside (cell cell' : Cell) (s t : Ticking T) : Prop where
  along : Along py c sid X names s t
  same : SameCell py c sid names s.world t.world cell cell'
  together : Together c sid s.world t.world cell cell'

variable (py c sid X names) in
/-- What is found in two runs: no cells, or live ones that are the same. -/
inductive Found : Option Cell → Option Cell → Ticking T → Ticking T → Prop where
  | none {s t : Ticking T} (along : Along py c sid X names s t) : Found none none s t
  | some {cell cell' : Cell} {s t : Ticking T} (beside : Beside py c sid X names cell cell' s t)
    (live : s.world.cells c.ref sid = some cell) (live' : t.world.cells c.ref sid = some cell') :
    Found (some cell) (some cell') s t

variable (py c sid names) in
/-- Cells that are the same, and live on both sides or on neither. -/
def Paralleled (cell cell' : Cell) (w w' : World T) : Prop :=
  SameCell py c sid names w w' cell cell' ∧ Together c sid w w' cell cell'

omit [Field T] [LinearOrder T] in
theorem untimed_paralleled (cell cell' : Cell) :
    Untimed (Paralleled py c sid names cell cell' : World T → World T → Prop) :=
  fun _ _ _ _ _ _ hcells => ⟨hcells.1.keep hcells.1.state (Nat.le_refl _) (Nat.le_refl _), hcells.2⟩

variable (hh : Punctual py h) (hX : Lasting c X)

include hh hX

/-- A call on each side, next to cells that are the same. -/
theorem beside_serve (cell cell' : Cell) (d d' : Call T) (hpace : d.pace = d'.pace)
    {V : d.Ret → d'.Ret → Prop}
    (hstep : ∀ w w', Akin py c sid names w w' → Numbered py w → Numbered py w' → X w w' →
      Paralleled py c sid names cell cell' w w' →
      SameEnd (fun a b v v' => V a b ∧ Akin py c sid names v v' ∧
          Paralleled py c sid names cell cell' v v') (Akin py c sid names) (exec py d w)
        (exec py d' w') ∧ X (exec py d w).2 (exec py d' w').2) :
    SideBySide h (Beside py c sid X names cell cell')
      (fun a b s t => V a b ∧ Beside py c sid X names cell cell' s t) (Astray py c sid names)
      (call d) (call d') := by
  refine SideBySide.perform fun s t hbeside => ?_
  -- what is known of the cells is known of the states
  let Z : World T → World T → Prop := fun w w' =>
    X w w' ∧ Paralleled py c sid names cell cell' w w'
  have hZ : Untimed Z := fun _ _ _ _ _ _ hz =>
    ⟨hX.untimed _ _ _ _ _ _ hz.1, untimed_paralleled cell cell' _ _ _ _ _ _ hz.2⟩
  obtain ⟨⟨⟨hreading, hn, hn', hboth⟩, hakin⟩, hsame, htogether⟩ := hbeside
  have hst : Along py c sid Z names s t := ⟨⟨hreading, hn, hn', hboth, hsame, htogether⟩, hakin⟩
  have hend := hst.serve hh hZ hpace hX.untimed
    (fun a b _ _ _ _ _ _ hq => ⟨hq.1, untimed_akin _ _ _ _ _ _ hq.2.1,
      untimed_paralleled cell cell' _ _ _ _ _ _ hq.2.2⟩)
    fun w w' hakin _ _ hn hn' hz => hstep w w' hakin hn hn' hz.1 hz.2
  refine hend.mono ?_ fun _ _ he => he.astray (le_refl _)
  rintro a b s' t' ⟨hlevel, hV, hakin', hsame', htogether'⟩
  exact ⟨hV, ⟨hlevel, hakin'⟩, hsame', htogether'⟩

/-- A gentle one. -/
theorem beside_call (cell cell' : Cell) (d d' : Call T) (hpace : d.pace = d'.pace)
    (hd : d.gentle) (hd' : d'.gentle) {V : d.Ret → d'.Ret → Prop}
    (hstep : ∀ w w', Akin py c sid names w w' → Numbered py w → Numbered py w' →
      Paralleled py c sid names cell cell' w w' →
      SameEnd (fun a b v v' => V a b ∧ Akin py c sid names v v' ∧
        Paralleled py c sid names cell cell' v v') (Akin py c sid names) (exec py d w)
        (exec py d' w')) :
    SideBySide h (Beside py c sid X names cell cell')
      (fun a b s t => V a b ∧ Beside py c sid X names cell cell' s t) (Astray py c sid names)
      (call d) (call d') :=
  beside_serve hh hX cell cell' d d' hpace fun w w' hakin hn hn' hboth hcells =>
    ⟨hstep w w' hakin hn hn' hcells, hX _ _ _ _ (exec_still hd) (exec_still hd') hboth⟩

/-- An event is applied on both sides. -/
theorem beside_apply (cell cell' : Cell) {eventType : String} {payload payload' : Json}
    (hp : SamePayload names eventType payload payload') :
    SideBySide h (Beside py c sid X names cell cell')
      (fun _ _ => Beside py c sid X names cell cell') (Astray py c sid names)
      (call (.apply cell eventType payload)) (call (.apply cell' eventType payload')) := by
  have hcall : SideBySide h (Beside py c sid X names cell cell')
      (fun _ _ s t => True ∧ Beside py c sid X names cell cell' s t) (Astray py c sid names)
      (call (.apply cell eventType payload)) (call (.apply cell' eventType payload')) :=
    beside_call hh hX cell cell' (.apply cell eventType payload) (.apply cell' eventType payload')
      rfl trivial trivial fun w w' hakin _ _ hcells =>
        (hakin.apply py hcells.1 hcells.2 hp).mono (fun _ _ _ _ hq => ⟨trivial, hq⟩) fun _ _ he => he
  exact hcall.weaken (fun _ _ hst => hst) fun _ _ _ _ hq => hq.2

/-- Events of a log are applied on both sides, one after the other. -/
theorem beside_applyEvents (cell cell' : Cell) {events events' : List (EventRow T)}
    (hevents : List.Forall₂ (SameEvent names) events events') :
    SideBySide h (Beside py c sid X names cell cell')
      (fun _ _ => Beside py c sid X names cell cell') (Astray py c sid names)
      (Celld.applyEvents cell events) (Celld.applyEvents cell' events') := by
  induction hevents with
  | nil => exact SideBySide.pure fun _ _ h => h
  | @cons ev ev' rest rest' hev _ ih =>
    have htype : ev'.eventType = ev.eventType := by rw [hev.rest]
    unfold Celld.applyEvents
    rw [htype]
    exact (beside_apply hh hX cell cell' hev.payload).bind fun _ _ => ih

/-- The log is read on both sides. -/
theorem beside_getEvents (cell cell' : Cell) (after : ℤ) :
    SideBySide h (Beside py c sid X names cell cell')
      (fun events events' s t => List.Forall₂ (SameEvent names) events events' ∧
        Beside py c sid X names cell cell' s t)
      (Astray py c sid names) (call (.getEvents sid after)) (call (.getEvents sid after)) := by
  refine beside_call hh hX cell cell' (.getEvents sid after) (.getEvents sid after) rfl trivial
    trivial fun w w' hakin hn hn' hcells => .ok ⟨?_, hakin, hcells⟩
  exact hakin.getEvents hn.contiguous hn'.contiguous after

/-- What a lookup finds on both sides: nothing, or cells that are the same. -/
theorem beside_cellsGet :
    SideBySide h (Along py c sid X names) (Found py c sid X names) (Astray py c sid names)
      (call (.cellsGet c.ref sid)) (call (.cellsGet c.ref sid)) := by
  refine SideBySide.perform (c := Call.cellsGet c.ref sid) (d := Call.cellsGet c.ref sid)
    fun s t hst => ?_
  have hend := hst.call hh hX (d := .cellsGet c.ref sid) (e := .cellsGet c.ref sid) rfl trivial
    trivial (Q := fun found found' v v' => Akin py c sid names v v' ∧
      v.cells c.ref sid = found ∧ v'.cells c.ref sid = found')
    (fun _ _ _ _ _ _ _ _ hq => ⟨untimed_akin _ _ _ _ _ _ hq.1, hq.2⟩)
    fun w w' hakin _ _ _ _ _ => .ok ⟨hakin, rfl, rfl⟩
  refine hend.mono ?_ fun _ _ he => he.astray (le_refl _)
  rintro found found' s' t' ⟨hlevel, hakin, hfound, hfound'⟩
  have hcell := hakin.cell
  rw [hfound, hfound'] at hcell
  cases hcell with
  | none => exact .none ⟨hlevel, hakin⟩
  | some hc =>
    refine .some ⟨⟨hlevel, hakin⟩, hc, fun live live' hlive hlive' => ?_⟩ hfound hfound'
    obtain rfl := Option.some.inj (hfound.symm.trans hlive)
    obtain rfl := Option.some.inj (hfound'.symm.trans hlive')
    exact iff_of_true rfl rfl

/-- An event is appended to the log, and applied to the cell if it is live. -/
theorem likewise_appendEvent {eventType : String} {payload payload' : Json}
    (hp : SamePayload names eventType payload payload') :
    Likewise py c sid X h names (fun _ ev ev' => payload' = payload → ev' = ev)
      (c.appendEvent sid eventType payload) (c.appendEvent sid eventType payload') := by
  have happend : Likewise py c sid X h names
      (fun _ ev ev' => payload'.orEmpty = payload.orEmpty → ev' = ev)
      (call (.appendEvent sid eventType payload.orEmpty none))
      (call (.appendEvent sid eventType payload'.orEmpty none)) :=
    Likewise.call hh hX (.appendEvent sid eventType payload.orEmpty none)
      (.appendEvent sid eventType payload'.orEmpty none) rfl trivial trivial
      fun _ _ hakin hclock _ _ _ _ => hakin.append hclock hp.orEmpty
  refine happend.bind fun names' ev ev' hle hev => ?_
  have hsaid : payload' = payload → ev' = ev := fun heq => hev (congrArg Json.orEmpty heq)
  simp only [Prog.bind_eq, Prog.pure_eq]
  refine (beside_cellsGet hh hX).bind fun found found' s t hfound => ?_
  cases hfound with
  | none h => exact .ok ⟨names', le_refl _, hsaid, h⟩
  | @some cell cell' _ _ hbeside =>
    have happly : SideBySide h (Beside py c sid X names' cell cell')
        (fun _ _ => Beside py c sid X names' cell cell') (Astray py c sid names')
        (call (.apply cell eventType payload.orEmpty))
        (call (.apply cell' eventType payload'.orEmpty)) :=
      beside_apply hh hX cell cell' (hp.orEmpty.mono hle)
    refine (SideBySide.bind happly fun _ _ => SideBySide.pure fun s' t' h' => ?_) _ _ hbeside
    exact ⟨names', le_refl _, hsaid, h'.along⟩

/-- The same events are appended. -/
theorem likewise_appendEvents (outs : List (String × Json)) :
    Likewise py c sid X h names (fun _ evs evs' => evs' = evs) (c.appendEvents sid outs)
      (c.appendEvents sid outs) := by
  induction outs generalizing names with
  | nil => exact .pure rfl
  | cons out rest ih =>
    refine (likewise_appendEvent hh hX (.same out.1 out.2)).bind fun _ ev ev' _ hev => ?_
    refine ih.bind fun _ evs evs' _ hevs => .pure ?_
    rw [hev rfl, hevs]

end Append

/-! ## A batch -/

section Batch

variable [Field T] [LinearOrder T] [IsStrictOrderedRing T] [FloorRing T] {py : Py}
  {h : Handler (Call T) Call.Ret PyErr (Ticking T)} {c : Celld} {sid : String} {names : Names}
  {k k' : ℕ} (hh : Punctual py h)

include hh

omit [IsStrictOrderedRing T] [FloorRing T] in
/-- Ids that are revoked alike are looked for alike, and are so after the look. -/
theorem sameRevoked_look :
    SideBySide h (Along py c sid (SameRevoked py k k') names)
      (fun a b s t => b = a ∧ Along py c sid (SameRevoked py k k') names s t) (Astray py c sid names)
      (call (.isTokenRevoked (py.uuid4 .jti k))) (call (.isTokenRevoked (py.uuid4 .jti k'))) := by
  have hlasting : Lasting c (SameRevoked py k k' : World T → World T → Prop) :=
    lasting_sameRevoked py k k'
  refine SideBySide.perform (c := Call.isTokenRevoked (py.uuid4 .jti k))
    (d := Call.isTokenRevoked (py.uuid4 .jti k')) fun s t hst => ?_
  have hend := hst.serve hh hlasting.untimed (d := .isTokenRevoked (py.uuid4 .jti k))
    (e := .isTokenRevoked (py.uuid4 .jti k')) rfl hlasting.untimed
    (Q := fun a b v v' => b = a ∧ Akin py c sid names v v')
    (fun _ _ _ _ _ _ _ _ hq => ⟨hq.1, untimed_akin _ _ _ _ _ _ hq.2⟩)
    fun w w' hakin hclock _ _ _ hrevoked => ?_
  · refine hend.mono ?_ fun _ _ he => he.astray (le_refl _)
    exact fun a b s' t' hq => ⟨hq.2.1, hq.1, hq.2.2⟩
  have hlook := w.store.isTokenRevoked_until w.clock (py.uuid4 .jti k) (py.uuid4 .jti k)
  have hlook' := w'.store.isTokenRevoked_until w'.clock (py.uuid4 .jti k') (py.uuid4 .jti k')
  have hsame : w'.store.revokedUntil (py.uuid4 .jti k') = w.store.revokedUntil (py.uuid4 .jti k) :=
    hrevoked
  rw [hclock, hsame] at hlook'
  have hafter : Akin py c sid names (exec py (.isTokenRevoked (py.uuid4 .jti k)) w).2
      (exec py (.isTokenRevoked (py.uuid4 .jti k')) w').2 := hakin.neutral trivial trivial
  refine ⟨.ok ⟨?_, hafter⟩, ?_⟩
  · rw [hclock]
    exact hlook'.1.trans hlook.1.symm
  · unfold SameRevoked
    show (w'.store.isTokenRevoked w'.clock (py.uuid4 .jti k')).2.revokedUntil (py.uuid4 .jti k') =
      (w.store.isTokenRevoked w.clock (py.uuid4 .jti k)).2.revokedUntil (py.uuid4 .jti k)
    rw [hclock]
    exact hlook'.2.trans hlook.2.symm

/-- Tokens signed in the same second and revoked alike verify alike. -/
theorem likewise_verify (hjwt : c.sandboxd.jwt = c.jwt) (t₀ : ℤ) :
    SideBySide h (Along py c sid (SameRevoked py k k') names)
      (fun _ _ => Along py c sid (SameRevoked py k k') names) (Astray py c sid names)
      (c.sandboxd.jwt.verify py (c.tokenOf py sid k t₀) sid "tool")
      (c.sandboxd.jwt.verify py (c.tokenOf py sid k' t₀) sid "tool") := by
  have hthrow : ∀ {e : PyErr}, SideBySide h (Along py c sid (SameRevoked py k k') names)
      (fun _ _ => Along py c sid (SameRevoked py k k') names) (Astray py c sid names)
      (.throw e : Code T Json) (.throw e : Code T Json) :=
    SideBySide.throw fun _ _ hst => hst.astray (le_refl _)
  have htool : "tool" ∈ splitWords "cell tool" := by decide +kernel
  rw [hjwt]
  unfold Celld.tokenOf
  rw [SessionJWT.verify_sign py c.jwt t₀ (py.uuid4_ne_empty .jti k),
    SessionJWT.verify_sign py c.jwt t₀ (py.uuid4_ne_empty .jti k')]
  have htime := along_reads py c sid names hh (lasting_sameRevoked py k k') (.time .verify)
    (.time .verify) rfl trivial trivial trivial trivial (Q := fun a b => b = a)
    fun w w' _ hclock _ _ _ _ => ⟨_, _, rfl, rfl, hclock⟩
  refine htime.bind fun t t' => SideBySide.of_prop fun hsame => ?_
  rw [hsame]
  by_cases hexpired : SessionJWT.expiry t₀ 3600 < truncate t
  · rw [if_pos hexpired, if_pos hexpired]
    exact hthrow
  rw [if_neg hexpired, if_neg hexpired, if_pos rfl, if_pos rfl, if_pos (.inl htool),
    if_pos (.inl htool)]
  have hlook : SideBySide h (Along py c sid (SameRevoked py k k') names)
      (fun a b s t => b = a ∧ Along py c sid (SameRevoked py k k') names s t) (Astray py c sid names)
      (call (.isTokenRevoked (py.uuid4 .jti k))) (call (.isTokenRevoked (py.uuid4 .jti k'))) :=
    sameRevoked_look hh
  refine hlook.bind fun revoked revoked' => SideBySide.of_prop fun hsame => ?_
  rw [hsame]
  cases revoked with
  | true => exact hthrow
  | false => exact SideBySide.pure fun _ _ hst => hst

/-- Either token will do for the handlers. -/
theorem likewise_tokens (hjwt : c.sandboxd.jwt = c.jwt) (t₀ : ℤ) :
    TokensAlike py h (Along py c sid (SameRevoked py k k') names) (Astray py c sid names)
      c.sandboxd sid (c.tokenOf py sid k t₀) (c.tokenOf py sid k' t₀) where
  verify := likewise_verify hh hjwt t₀
  audit actor action payload := by
    have haudit := along_reads py c sid names hh (lasting_sameRevoked py k k')
      (.audit actor action (some sid) payload) (.audit actor action (some sid) payload) rfl trivial
      trivial trivial trivial (Q := fun _ _ => True)
      fun w w' _ _ _ _ _ _ => ⟨_, _, rfl, rfl, trivial⟩
    exact haudit.weaken (fun _ _ hst => hst) fun _ _ _ _ hq => hq.2
  files := along_reads py c sid names hh (lasting_sameRevoked py k k') .files .files rfl trivial
    trivial trivial trivial fun w w' _ _ hfiles _ _ _ => ⟨_, _, rfl, rfl, hfiles.symm⟩
  raise _ _ hst := hst.astray (le_refl _)

/-- **A batch** is worked off alike, with one token on either side. -/
theorem likewise_consumeLoop (hjwt : c.sandboxd.jwt = c.jwt) (t₀ : ℤ)
    {cmds cmds' : List (CommandRow T)} (hcmds : List.Forall₂ (SameCommand names) cmds cmds') :
    Likewise py c sid (SameRevoked py k k') h names (fun _ evs evs' => evs' = evs)
      (c.consumeLoop py sid (c.tokenOf py sid k t₀) cmds)
      (c.consumeLoop py sid (c.tokenOf py sid k' t₀) cmds') := by
  have hlasting : Lasting c (SameRevoked py k k' : World T → World T → Prop) :=
    lasting_sameRevoked py k k'
  induction cmds generalizing cmds' names with
  | nil =>
    cases hcmds
    exact .pure rfl
  | cons cmd rest ih =>
    cases hcmds with
    | @cons _ cmd' _ rest' hcmd hrest =>
      have htype : cmd'.commandType = cmd.commandType := by rw [hcmd.rest]
      have hpayload : cmd'.payload = cmd.payload := by rw [hcmd.rest]
      have hreceived : SamePayload names "command.received" (Celld.received cmd)
          (Celld.received cmd') := by
        unfold Celld.received
        rw [htype, hpayload]
        exact .received _ hcmd.id
      unfold Celld.consumeLoop
      simp only [Prog.bind_eq, Prog.pure_eq]
      rw [htype, hpayload]
      refine (likewise_appendEvent hh hlasting hreceived).bind fun names₁ _ _ hle₁ _ => ?_
      have hhandle : Likewise py c sid (SameRevoked py k k') h names₁
          (fun _ outs outs' => outs' = outs)
          (Runtime.handle py c.sandboxd sid (c.tokenOf py sid k t₀) cmd.commandType cmd.payload)
          (Runtime.handle py c.sandboxd sid (c.tokenOf py sid k' t₀) cmd.commandType cmd.payload) :=
        ((likewise_tokens hh hjwt t₀).handle _ _).weaken (fun _ _ hst => hst)
          fun _ _ _ _ hq => ⟨names₁, le_refl _, hq.1.symm, hq.2⟩
      refine hhandle.bind fun names₂ outs outs' hle₂ houts => ?_
      rw [houts]
      refine (likewise_appendEvents hh hlasting outs).bind fun names₃ evs evs' hle₃ hevs => ?_
      have hle := hle₁.trans (hle₂.trans hle₃)
      have hcomplete : Likewise py c sid (SameRevoked py k k') h names₃ (fun _ _ _ => True)
          (call (.completeCommand cmd.id)) (call (.completeCommand cmd'.id)) :=
        Likewise.call hh hlasting (.completeCommand cmd.id) (.completeCommand cmd'.id) rfl trivial trivial
          fun _ _ hakin hclock _ _ _ _ => hakin.complete hclock (hle.1 _ _ hcmd.id)
      refine hcomplete.bind fun names₄ _ _ hle₄ _ => ?_
      refine (ih (hrest.imp fun _ _ => SameCommand.mono (hle.trans hle₄))).bind
        fun _ more more' _ hmore => .pure ?_
      rw [hevs, hmore]

end Batch

/-! ## Cells -/

section Cells

variable [Field T] [LinearOrder T] {py : Py} {h : Handler (Call T) Call.Ret PyErr (Ticking T)}
  {c : Celld} {sid : String} {hosted : String → Option Celld} {names : Names}

variable (py c sid) in
/-- Cells that are the same, with tokens signed in the same second and revoked alike. -/
def Manned (names : Names) (cell cell' : Cell) (s t : Ticking T) : Prop :=
  ∃ names' k k' t₀, names ≤ names' ∧ cell.jwt = c.tokenOf py sid k t₀ ∧
    cell'.jwt = c.tokenOf py sid k' t₀ ∧
    Beside py c sid (SameRevoked py k k') names' cell cell' s t

variable (hh : Punctual py h)

include hh

/-- Both sides draw an id for a token, which has not been revoked. -/
theorem likewise_drawToken :
    SideBySide h (Along py c sid (Seated py c sid hosted) names)
      (fun jti jti' s t => ∃ names' k k', names ≤ names' ∧ jti = py.uuid4 .jti k ∧
        jti' = py.uuid4 .jti k' ∧ names'.tokens.rel k k' ∧
        Along py c sid (SameRevoked py k k') names' s t)
      (Astray py c sid names) (call (.uuid4 .jti)) (call (.uuid4 .jti)) := by
  refine SideBySide.perform (c := Call.uuid4 .jti) (d := Call.uuid4 .jti) fun s t hst => ?_
  have hend := hst.call hh lasting_seated (d := .uuid4 .jti) (e := .uuid4 .jti) rfl trivial trivial
    (Q := fun jti jti' v v' => ∃ names' k k', names ≤ names' ∧ jti = py.uuid4 .jti k ∧
      jti' = py.uuid4 .jti k' ∧ names'.tokens.rel k k' ∧ Akin py c sid names' v v' ∧
      SameRevoked py k k' v v')
    (fun _ _ _ _ _ _ _ _ hq => ?_) fun w w' hakin _ _ _ _ hseat => ?_
  · refine hend.mono ?_ fun _ _ he => he.astray (le_refl _)
    rintro jti jti' s' t' ⟨hlevel, names', k, k', hle, hjti, hjti', hk, hakin, hrevoked⟩
    exact ⟨names', k, k', hle, hjti, hjti', hk,
      ⟨hlevel.reading, hlevel.numbered, hlevel.numbered', hrevoked⟩, hakin⟩
  · obtain ⟨names', k, k', hle, hjti, hjti', hk, hakin, hrevoked⟩ := hq
    exact ⟨names', k, k', hle, hjti, hjti', hk, untimed_akin _ _ _ _ _ _ hakin, hrevoked⟩
  -- both counters hand out the number of the token
  let names' : Names := { names with tokens := names.tokens.extend hakin.bounded.tokens }
  have hle : names ≤ names' :=
    ⟨le_refl _, le_refl _, Data.Renaming.le_extend hakin.bounded.tokens⟩
  refine .ok ⟨names', w.drawn .jti, w'.drawn .jti, hle, rfl, rfl,
    Data.Renaming.extend_rel hakin.bounded.tokens, ?_, ?_⟩
  · exact {
      row := hakin.row
      lease := hakin.lease
      log := hakin.log.imp fun _ _ => SameEvent.mono hle
      inbox := hakin.inbox.imp fun _ _ => SameCommand.mono hle
      objects := hakin.objects
      cell := hakin.cells rfl rfl fun _ _ _ _ hc =>
        (hc.mono hle).keep hc.state (Nat.le_refl _) (Nat.le_refl _)
      bounded := by
        refine ⟨hakin.bounded.commands, hakin.bounded.events, ?_⟩
        show names'.tokens.Bounded ((w.draw .jti).drawn .jti) ((w'.draw .jti).drawn .jti)
        rw [World.draw_self, World.draw_self]
        exact Data.Renaming.bounded_extend hakin.bounded.tokens (Nat.lt_succ_self _)
          (Nat.lt_succ_self _) }
  · exact (hseat.unspent' _ (Nat.le_refl _)).trans (hseat.unspent _ (Nat.le_refl _)).symm

/-- Cells are built on both sides, with a token each. -/
theorem likewise_newCell {k k' : ℕ} {t₀ : ℤ} (hk : names.tokens.rel k k') :
    SideBySide h (Along py c sid (SameRevoked py k k') names)
      (fun cell cell' s t => (cell.jwt = c.tokenOf py sid k t₀ ∧
        cell'.jwt = c.tokenOf py sid k' t₀) ∧
        Beside py c sid (SameRevoked py k k') names cell cell' s t)
      (Astray py c sid names) (call (.newCell sid (c.tokenOf py sid k t₀)))
      (call (.newCell sid (c.tokenOf py sid k' t₀))) := by
  refine SideBySide.perform (c := Call.newCell sid (c.tokenOf py sid k t₀))
    (d := Call.newCell sid (c.tokenOf py sid k' t₀)) fun s t hst => ?_
  have hend := hst.call hh (lasting_sameRevoked py k k')
    (d := .newCell sid (c.tokenOf py sid k t₀)) (e := .newCell sid (c.tokenOf py sid k' t₀)) rfl
    trivial trivial (Q := fun cell cell' v v' => (cell.jwt = c.tokenOf py sid k t₀ ∧
      cell'.jwt = c.tokenOf py sid k' t₀) ∧ Akin py c sid names v v' ∧
      Paralleled py c sid names cell cell' v v')
    (fun cell cell' _ _ _ _ _ _ hq => ⟨hq.1, untimed_akin _ _ _ _ _ _ hq.2.1,
      untimed_paralleled cell cell' _ _ _ _ _ _ hq.2.2⟩) fun w w' hakin _ _ _ _ _ => ?_
  · refine hend.mono ?_ fun _ _ he => he.astray (le_refl _)
    exact fun cell cell' s' t' hq => ⟨hq.2.1, ⟨hq.1, hq.2.2.1⟩, hq.2.2.2.1, hq.2.2.2.2⟩
  have hother : ∀ {cell cell' : Cell}, SameCell py c sid names w w' cell cell' →
      Function.update w'.heap w'.nextAddr .initial cell'.addr =
        Function.update w.heap w.nextAddr .initial cell.addr := by
    intro cell cell' hc
    rw [Function.update_of_ne (Nat.ne_of_lt hc.built'), Function.update_of_ne (Nat.ne_of_lt hc.built),
      hc.state]
  refine .ok ⟨⟨rfl, rfl⟩, ?_, ⟨rfl, ⟨k, k', t₀, rfl, rfl, hk⟩, ?_, Nat.lt_succ_self _,
    Nat.lt_succ_self _⟩, ?_⟩
  · exact {
      row := hakin.row
      lease := hakin.lease
      log := hakin.log
      inbox := hakin.inbox
      objects := hakin.objects
      cell := hakin.cells rfl rfl fun _ _ _ _ hc =>
        hc.keep (hother hc) (Nat.le_succ _) (Nat.le_succ _)
      bounded := ⟨hakin.bounded.commands, hakin.bounded.events, hakin.bounded.tokens⟩ }
  · show Function.update w'.heap w'.nextAddr .initial w'.nextAddr =
      Function.update w.heap w.nextAddr .initial w.nextAddr
    rw [Function.update_self, Function.update_self]
  · -- the live cells have been built before
    intro live live' hlive hlive'
    have hcell := hakin.cell
    rw [show w.cells c.ref sid = some live from hlive,
      show w'.cells c.ref sid = some live' from hlive'] at hcell
    cases hcell with
    | some hc => exact iff_of_false (Nat.ne_of_lt hc.built) (Nat.ne_of_lt hc.built')

/-- The cells are registered. -/
theorem likewise_register {k k' : ℕ} (cell cell' : Cell) :
    SideBySide h (Beside py c sid (SameRevoked py k k') names cell cell')
      (fun _ _ => Beside py c sid (SameRevoked py k k') names cell cell') (Astray py c sid names)
      (call (.cellsSet c.ref sid cell)) (call (.cellsSet c.ref sid cell')) := by
  have hcall : SideBySide h (Beside py c sid (SameRevoked py k k') names cell cell')
      (fun _ _ s t => True ∧ Beside py c sid (SameRevoked py k k') names cell cell' s t)
      (Astray py c sid names) (call (.cellsSet c.ref sid cell)) (call (.cellsSet c.ref sid cell')) := by
    refine beside_serve hh (lasting_sameRevoked py k k') cell cell' (.cellsSet c.ref sid cell)
      (.cellsSet c.ref sid cell') rfl fun w w' hakin _ _ hrevoked hcells => ⟨.ok ?_, hrevoked⟩
    refine ⟨trivial, hakin.register py hcells.1,
      hcells.1.keep hcells.1.state (Nat.le_refl _) (Nat.le_refl _), fun live live' hlive hlive' => ?_⟩
    -- the cells are live now
    have hset : ∀ (cell : Cell) (w : World T),
        (exec py (.cellsSet c.ref sid cell) w).2.cells c.ref sid = some cell := by
      intro cell w
      rw [exec_cellsSet_cells, if_pos ⟨rfl, rfl⟩]
    obtain rfl := Option.some.inj ((hset cell w).symm.trans hlive)
    obtain rfl := Option.some.inj ((hset cell' w').symm.trans hlive')
    exact iff_of_true rfl rfl
  exact hcall.weaken (fun _ _ hst => hst) fun _ _ _ _ hq => hq.2

variable [IsStrictOrderedRing T] [FloorRing T]

/-- **Cells are rebuilt** from logs that are the same. -/
theorem likewise_reconstructCell :
    SideBySide h (Along py c sid (Seated py c sid hosted) names) (Manned py c sid names)
      (Astray py c sid names) (c.reconstructCell py sid) (c.reconstructCell py sid) := by
  unfold Celld.reconstructCell SessionJWT.signNow
  simp only [Prog.bind_eq, Prog.pure_eq, Prog.bind_assoc, Prog.pure_bind]
  -- a token is signed on each side
  have htime : SideBySide h (Along py c sid (Seated py c sid hosted) names)
      (fun a b s t => b = a ∧ Along py c sid (Seated py c sid hosted) names s t)
      (Astray py c sid names) (call (.time .reconstructCell)) (call (.time .reconstructCell)) :=
    along_reads py c sid names hh lasting_seated (.time .reconstructCell) (.time .reconstructCell)
      rfl trivial trivial trivial trivial fun w w' _ hclock _ _ _ _ => ⟨_, _, rfl, rfl, hclock⟩
  refine htime.bind fun now now' => SideBySide.of_prop fun hsame => ?_
  rw [hsame]
  refine (likewise_drawToken hh).bind fun jti jti' => SideBySide.of_exists fun names' =>
    SideBySide.of_exists fun k => SideBySide.of_exists fun k' => SideBySide.of_prop fun hle =>
    SideBySide.of_prop fun hjti => SideBySide.of_prop fun hjti' => SideBySide.of_prop fun hk => ?_
  rw [hjti, hjti']
  -- and a cell is built with it, to which the log is applied
  have hrest : SideBySide h (Along py c sid (SameRevoked py k k') names')
      (Manned py c sid names) (Astray py c sid names')
      ((call (.newCell sid (c.tokenOf py sid k (truncate now)))).bind fun cell =>
        (call (.getEvents sid 0)).bind fun events => (Celld.applyEvents cell events).bind fun _ =>
          (call (.cellsSet c.ref sid cell)).bind fun _ => .pure cell)
      ((call (.newCell sid (c.tokenOf py sid k' (truncate now)))).bind fun cell =>
        (call (.getEvents sid 0)).bind fun events => (Celld.applyEvents cell events).bind fun _ =>
          (call (.cellsSet c.ref sid cell)).bind fun _ => .pure cell) := by
    refine (likewise_newCell hh hk).bind fun cell cell' => SideBySide.of_prop fun htokens => ?_
    refine (beside_getEvents hh (lasting_sameRevoked py k k') cell cell' 0).bind
      fun events events' => SideBySide.of_prop fun hevents => ?_
    refine (beside_applyEvents hh (lasting_sameRevoked py k k') cell cell' hevents).bind
      fun _ _ => ?_
    refine (likewise_register hh cell cell').bind fun _ _ => SideBySide.pure fun s t hbeside => ?_
    exact ⟨names', k, k', _, hle, htokens.1, htokens.2, hbeside⟩
  exact hrest.weaken_error fun _ _ he => he.mono hle

/-- **The cell to work with** is live on both sides, or rebuilt on both. -/
theorem likewise_liveCell :
    SideBySide h (Along py c sid (Seated py c sid hosted) names) (Manned py c sid names)
      (Astray py c sid names) (c.liveCell py sid) (c.liveCell py sid) := by
  unfold Celld.liveCell
  simp only [Prog.bind_eq, Prog.pure_eq]
  refine (beside_cellsGet hh lasting_seated).bind fun found found' s t hfound => ?_
  cases hfound with
  | none hst => exact likewise_reconstructCell hh _ _ hst
  | @some cell cell' _ _ hbeside hlive hlive' =>
    obtain ⟨⟨hlevel, hakin⟩, hsame, htogether⟩ := hbeside
    obtain ⟨k, k', t₀, htoken, htoken', hk⟩ := hsame.token
    have hrevoked := hlevel.both.token cell cell' k k' t₀ hlive hlive' htoken htoken'
    exact .ok ⟨names, k, k', t₀, le_refl _, htoken, htoken',
      ⟨⟨hlevel.reading, hlevel.numbered, hlevel.numbered', hrevoked⟩, hakin⟩, hsame, htogether⟩

end Cells

/-! ## Requests -/

section Requests

variable [Field T] [LinearOrder T] {py : Py} {h : Handler (Call T) Call.Ret PyErr (Ticking T)}
  {c : Celld} {sid : String} {hosted : String → Option Celld} {names : Names}

variable (py c sid) in
/-- The runs have come out the same, up to names. -/
def Agreed {α β : Type} (V : Names → α → β → Prop) (names : Names) (a : α) (b : β)
    (s t : Ticking T) : Prop :=
  ∃ names', names ≤ names' ∧ V names' a b ∧ Along py c sid (fun _ _ => True) names' s t

omit [Field T] [LinearOrder T] in
theorem Likewise.agreed {X : World T → World T → Prop} {α β : Type} {V : Names → α → β → Prop}
    {p : Code T α} {q : Code T β} (hp : Likewise py c sid X h names V p q) :
    SideBySide h (Along py c sid X names) (Agreed py c sid V names) (Astray py c sid names) p q :=
  SideBySide.weaken hp (fun _ _ h => h) fun _ _ _ _ ⟨names', hle, hV, hst⟩ =>
    ⟨names', hle, hV, hst.1.forget, hst.2⟩

/-- What `send_command` returns: the id of the command, and events. -/
structure SameSent (names : Names) (a b : Sent) : Prop where
  commandId : names.commands.rel a.commandId b.commandId
  events : b.events = a.events

variable [IsStrictOrderedRing T] [FloorRing T] (hh : Punctual py h)

include hh

theorem likewise_consumeCommands (hjwt : c.sandboxd.jwt = c.jwt) :
    SideBySide h (Along py c sid (Seated py c sid hosted) names)
      (Agreed py c sid (fun _ evs evs' => evs' = evs) names) (Astray py c sid names)
      (c.consumeCommands py sid) (c.consumeCommands py sid) := by
  refine (likewise_liveCell hh).bind fun cell cell' => ?_
  rintro s t ⟨names', k, k', t₀, hle, htoken, htoken', hbeside⟩
  have hclaim : Likewise py c sid (SameRevoked py k k') h names'
      (fun names cmds cmds' => List.Forall₂ (SameCommand names) cmds cmds')
      (call (.claimPendingCommands sid c.hostId)) (call (.claimPendingCommands sid c.hostId)) :=
    Likewise.call hh (lasting_sameRevoked py k k') (.claimPendingCommands sid c.hostId)
      (.claimPendingCommands sid c.hostId) rfl trivial trivial
      fun _ _ hakin hclock _ hn hn' _ => hakin.claim hclock hn.claims hn'.claims _
  have hrest := hclaim.bind fun names'' cmds cmds' _ hcmds =>
    likewise_consumeLoop hh hjwt t₀ hcmds
  rw [htoken, htoken']
  refine (hrest.agreed s t hbeside.along).mono ?_ fun _ _ he => he.mono hle
  rintro _ _ _ _ ⟨names'', hle', hevs⟩
  exact ⟨names'', hle.trans hle', hevs⟩

/-- **`send_command`** is answered alike. -/
theorem likewise_sendCommand (hjwt : c.sandboxd.jwt = c.jwt) (send : Send) :
    SideBySide h (Along py c sid (Seated py c sid hosted) names) (Agreed py c sid SameSent names)
      (Astray py c sid names) (send.code py sid) (send.code py sid) := by
  have hdeliver : Likewise py c sid (Seated py c sid hosted) h names
      (fun names a b => names.commands.rel a.1 b.1 ∧ a.2 = c ∧ b.2 = c) (send.deliver sid)
      (send.deliver sid) := likewise_deliver hh send
  rw [Send.code_eq]
  refine SideBySide.bind hdeliver fun delivered delivered' => SideBySide.of_exists fun names' =>
    SideBySide.of_prop fun hle => SideBySide.of_prop fun hids => ?_
  -- the command is for the one `celld`
  rw [hids.2.1, hids.2.2]
  refine (((likewise_consumeCommands hh hjwt).weaken_error fun _ _ he => he.mono hle).bind
    fun evs evs' => ?_)
  refine SideBySide.pure fun s t hst => ?_
  obtain ⟨names'', hle', hevs, hafter⟩ := hst
  exact ⟨names'', hle.trans hle', ⟨hle'.1 _ _ hids.1, hevs⟩, hafter⟩

end Requests

/-! ## Taking a cell out -/

section Destroy

variable [Field T] [LinearOrder T] {py : Py} {around : Surroundings T} {c : Celld} {sid : String}
  {X : World T → World T → Prop} {names : Names} {s t : Ticking T}

variable (around) in
/-- One call on each side that leaves the states akin. -/
theorem Along.step (hst : Along py c sid X names s t) (d d' : Call T)
    (hstep : ∀ now files, Akin py c sid names (exec py d (s.world.pass now files)).2
      (exec py d' (t.world.pass now files)).2) :
    Along py c sid (fun _ _ => True) names (amid py around.calm d s).2
      (amid py around.calm d' t).2 := by
  refine ⟨⟨congrArg (· + 1) hst.1.reading, ?_, ?_, trivial⟩, ?_⟩
  · exact exec_numbered d (hst.1.numbered.pass _ _)
  · exact exec_numbered d' (hst.1.numbered'.pass _ _)
  · have hafter := hstep (around.now s.reading) (around.files s.reading)
    show Akin py c sid names
      (exec py d (s.world.pass (around.now s.reading) (around.files s.reading))).2
      (exec py d' (t.world.pass (around.now t.reading) (around.files t.reading))).2
    rw [← hst.1.reading]
    exact hafter

/-- **`destroy_cell`** takes the cell out on both sides, and revokes its token. -/
theorem likewise_destroyCell :
    SideBySide (amid py around.calm) (Along py c sid X names)
      (Agreed py c sid (fun _ _ _ => True) names) (Astray py c sid names) (c.destroyCell py sid)
      (c.destroyCell py sid) := by
  intro s t hst
  have hmet : ∀ {X : World T → World T → Prop} {s t : Ticking T}, Along py c sid X names s t →
      Akin py c sid names (around.calm.met s) (around.calm.met t) := by
    intro X s t hst
    exact hst.2.unmoved met_unmoved met_unmoved
  have hpop : Along py c sid (fun _ _ => True) names (amid py around.calm (.cellsPop c.ref sid) s).2
      (amid py around.calm (.cellsPop c.ref sid) t).2 :=
    hst.step around (.cellsPop c.ref sid) (.cellsPop c.ref sid) fun now files =>
      (untimed_akin _ _ now files now files hst.2).unregister
  have hcell := (hmet hst).cell
  generalize hfound : (around.calm.met s).cells c.ref sid = found at hcell
  generalize hfound' : (around.calm.met t).cells c.ref sid = found' at hcell
  cases hcell with
  | none =>
    rw [run_destroyCell_missed hfound, run_destroyCell_missed hfound']
    exact .ok ⟨names, le_refl _, trivial, hpop⟩
  | some hc =>
    obtain ⟨k, k', t₀, htoken, htoken', -⟩ := hc.token
    rw [run_destroyCell_found hfound htoken, run_destroyCell_found hfound' htoken']
    have hrevoke := hpop.step around
      (.revokeToken (py.uuid4 .jti k) ((SessionJWT.expiry t₀ 3600 : ℤ) : T))
      (.revokeToken (py.uuid4 .jti k') ((SessionJWT.expiry t₀ 3600 : ℤ) : T)) fun now files =>
        (untimed_akin _ _ now files now files hpop.2).neutral trivial trivial
    have hstopped := hrevoke.step around (.updateSessionStatus sid .stopped)
      (.updateSessionStatus sid .stopped) fun now files =>
        (untimed_akin _ _ now files now files hrevoke.2).setStatus rfl .stopped
    exact .ok ⟨names, le_refl _, trivial, hstopped⟩

end Destroy

end Nadi
