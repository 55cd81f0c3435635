import Nadi.Model.Bounds
import Nadi.Model.Surroundings
import Nadi.Model.Sample
import Nadi.Revocation

/-!
# What destroying a cell revokes

`destroy_cell` revokes the token of the cell it finds in `celld.cells`. A `celld`
signs a new token whenever it creates or rebuilds a cell; a token whose cell has
been lost or replaced is found by no `destroy_cell` after that and stays good
until it expires.

- `Accounted`: the account of the tokens of a run that every request keeps.
- `earlier_token_refused_iff`: a token signed before a `destroy_cell` is refused
  afterwards exactly where it has expired, or some `destroy_cell` has found it
  and it is looked up no later than its expiry.
- `lost_token_accepted`: a token whose cell was lost before `destroy_cell`.
-/

namespace Nadi

open Effect

variable {T : Type}

/-! ## The tokens of a session -/

/-- The token a `celld` signs with the `k`-th id in the second `t`. -/
def Celld.tokenOf (py : Py) (c : Celld) (sid : String) (k : ℕ) (t : ℤ) : String :=
  c.jwt.sign py t (py.uuid4 .jti k) sid "cell tool" 3600 c.hostId

variable [Field T] [LinearOrder T] {py : Py} {around : Surroundings T} {c : Celld} {sid : String}

omit [LinearOrder T] in
/-- `destroy_cell` reads the id and the expiry of a signed token. -/
theorem Celld.tokenToRevoke_tokenOf (k : ℕ) (t : ℤ) :
    Celld.tokenToRevoke py (c.tokenOf py sid k t) =
      some (some (py.uuid4 .jti k), ((SessionJWT.expiry t 3600 : ℤ) : T)) := by
  have hclaims : (SessionJWT.claims c.hostId sid "cell tool" (SessionJWT.expiry t 3600)
      (py.uuid4 .jti k)).isFlat = true := rfl
  have hexp : (SessionJWT.claims c.hostId sid "cell tool" (SessionJWT.expiry t 3600)
      (py.uuid4 .jti k)).get "exp" (.int 0) = .ok (.int (SessionJWT.expiry t 3600)) := rfl
  have hdot : '.' ∉ SessionJWT.signature py c.jwt (b64e (py.dumps SessionJWT.header))
      (b64e (py.dumps (SessionJWT.claims c.hostId sid "cell tool" (SessionJWT.expiry t 3600)
        (py.uuid4 .jti k)))) := dot_not_mem_b64e _
  unfold Celld.tokenToRevoke Celld.tokenOf SessionJWT.sign
  rw [SessionJWT.splitOn_parts (dot_not_mem_b64e _) (dot_not_mem_b64e _) hdot]
  simp only [b64d_b64e, Option.bind_some, py.loads_dumps hclaims, hexp,
    SessionJWT.jtiOf_claims py _ _ _ _ (py.uuid4_ne_empty .jti k), Option.bind_eq_bind,
    Except.toOption, Celld.floatOf]
  rfl

/-- Tokens with different ids or of different seconds are different. -/
theorem Celld.tokenOf_inj {k k' : ℕ} {t t' : ℤ}
    (h : c.tokenOf py sid k t = c.tokenOf py sid k' t') : k = k' ∧ t = t' := by
  have hread := congrArg (c.jwt.read py) h
  unfold Celld.tokenOf at hread
  rw [SessionJWT.read_sign, SessionJWT.read_sign] at hread
  simp only [SessionJWT.claims, SessionJWT.expiry, Except.ok.injEq, Json.obj.injEq,
    List.cons.injEq, Prod.mk.injEq, Json.int.injEq, Json.str.injEq, true_and, and_true] at hread
  exact ⟨(py.uuid4_inj hread.2).2, by omega⟩

/-! ## The account -/

variable (py around c sid) in
/-- What is known of the tokens of a run: `signed` lists those that the `celld`
has signed since `first` ids were drawn, `destroyed` those it has revoked. -/
structure Accounted (first : ℕ) (signed destroyed : List String) (s : Ticking T) : Prop where
  since : first ≤ s.world.drawn .jti
  drawn : ∀ token ∈ signed, ∃ k t, first ≤ k ∧ k < s.world.drawn .jti ∧
    token = c.tokenOf py sid k t
  unique : ∀ k t t', c.tokenOf py sid k t ∈ signed → c.tokenOf py sid k t' ∈ signed → t = t'
  ofSigned : ∀ token ∈ destroyed, token ∈ signed
  live : ∀ cell, s.world.cells c.ref sid = some cell → cell.jwt ∈ signed ∧ cell.jwt ∉ destroyed
  revoked : ∀ k t, c.tokenOf py sid k t ∈ destroyed →
    around.now s.reading ≤ ((SessionJWT.expiry t 3600 : ℤ) : T) →
      s.world.store.Revoked (py.uuid4 .jti k) ((SessionJWT.expiry t 3600 : ℤ) : T)
  rows : ∀ r ∈ s.world.store.revokedTokens, ∀ k, first ≤ k → r.jti = py.uuid4 .jti k →
    ∃ t, c.tokenOf py sid k t ∈ destroyed ∧ r.expiresAt = ((SessionJWT.expiry t 3600 : ℤ) : T)

/-- The token with which a call builds a cell of a session. -/
def Call.tokenFor (sid : String) : Call T → Option String
  | .newCell sid' token => if sid' = sid then some token else none
  | _ => none

/-- A call that builds no cell of the session. -/
def Call.BuildsNone (sid : String) (d : Call T) : Prop := d.tokenFor sid = none

/-- The calls that neither build nor move cells nor revoke. -/
def Call.quiet : Call T → Prop
  | .newCell .. => False
  | .cellsSet .. => False
  | .cellsPop .. => False
  | .revokeToken .. => False
  | _ => True

namespace Call.quiet

omit [Field T] [LinearOrder T]

variable {d : Call T}

theorem tokenFor (h : d.quiet) (sid : String) : d.tokenFor sid = none := by
  cases d with
  | newCell => exact h.elim
  | _ => rfl

theorem writes_cells (h : d.quiet) : d.writes .cells = false := by
  cases d with
  | cellsSet | cellsPop => exact h.elim
  | _ => rfl

theorem ne_revokeToken (h : d.quiet) (jti : String) (exp : T) : d ≠ .revokeToken jti exp := by
  rintro rfl
  exact h

end Call.quiet

/-- Only `revoke_token` adds a row. -/
theorem exec_revoked_mem {d : Call T} (h : ∀ jti exp, d ≠ .revokeToken jti exp) {w : World T} {r}
    (hr : r ∈ (exec py d w).2.store.revokedTokens) : r ∈ w.store.revokedTokens := by
  cases d with
  | revokeToken jti exp => exact absurd rfl (h jti exp)
  | isTokenRevoked jti => exact (Data.Table.mem_delete.mp hr).1
  | _ =>
    rw [exec_revoked py w rfl] at hr
    exact hr

namespace Accounted

variable {first : ℕ} {signed destroyed : List String} {s : Ticking T}

/-- A call that neither moves cells nor revokes keeps the account. -/
theorem passive (h : Accounted py around c sid first signed destroyed s) {d : Call T}
    (hcells : d.writes .cells = false) (hrevoke : ∀ jti exp, d ≠ .revokeToken jti exp) :
    Accounted py around c sid first signed destroyed (amid py around d s).2 where
  since := h.since.trans (exec_drawn_le py (around.met s) .jti)
  drawn token htoken := by
    obtain ⟨k, t, hfirst, hk, rfl⟩ := h.drawn token htoken
    exact ⟨k, t, hfirst, hk.trans_le (exec_drawn_le py (around.met s) .jti), rfl⟩
  unique := h.unique
  ofSigned := h.ofSigned
  live cell hcell := by
    change (exec py d (around.met s)).2.cells c.ref sid = some cell at hcell
    rw [exec_cells py _ hcells] at hcell
    exact h.live cell (Surroundings.met_cells hcell)
  revoked k t ht hle := by
    have hmet : (around.met s).clock ≤ ((SessionJWT.expiry t 3600 : ℤ) : T) →
        (around.met s).store.Revoked (py.uuid4 .jti k) ((SessionJWT.expiry t 3600 : ℤ) : T) :=
      h.revoked k t ht
    refine exec_revoked_row hmet d ?_
    rw [(exec_passive py (around.met s)).1]
    exact (around.now_le s.reading).trans hle
  rows r hr := h.rows r (exec_revoked_mem (w := around.met s) hrevoke hr)

/-- A token signed with an id that no token before has. -/
theorem sign (h : Accounted py around c sid first signed destroyed s) {k : ℕ} {t : ℤ}
    (hfirst : first ≤ k) (hk : k < s.world.drawn .jti)
    (hnew : ∀ t, c.tokenOf py sid k t ∉ signed) :
    Accounted py around c sid first (signed ++ [c.tokenOf py sid k t]) destroyed s where
  since := h.since
  drawn token htoken := by
    rcases List.mem_append.mp htoken with hold | hlast
    · exact h.drawn token hold
    · exact ⟨k, t, hfirst, hk, List.mem_singleton.mp hlast⟩
  unique k' t₁ t₂ h₁ h₂ := by
    simp only [List.mem_append, List.mem_singleton] at h₁ h₂
    rcases h₁ with h₁ | h₁
    · rcases h₂ with h₂ | h₂
      · exact h.unique k' t₁ t₂ h₁ h₂
      · obtain ⟨rfl, rfl⟩ := Celld.tokenOf_inj h₂
        exact absurd h₁ (hnew t₁)
    · obtain ⟨rfl, rfl⟩ := Celld.tokenOf_inj h₁
      rcases h₂ with h₂ | h₂
      · exact absurd h₂ (hnew t₂)
      · exact (Celld.tokenOf_inj h₂).2.symm
  ofSigned token htoken := List.mem_append_left _ (h.ofSigned token htoken)
  live cell hcell := ⟨List.mem_append_left _ (h.live cell hcell).1, (h.live cell hcell).2⟩
  revoked := h.revoked
  rows := h.rows

/-- A cell is registered whose token is signed and not destroyed. -/
theorem register (h : Accounted py around c sid first signed destroyed s) {cell : Cell}
    (hsigned : cell.jwt ∈ signed) (hlive : cell.jwt ∉ destroyed) :
    Accounted py around c sid first signed destroyed
      (amid py around (.cellsSet c.ref sid cell) s).2 where
  since := h.since
  drawn := h.drawn
  unique := h.unique
  ofSigned := h.ofSigned
  live cell' hcell' := by
    have hset := exec_cellsSet_cells py (around.met s) c.ref c.ref sid sid cell
    rw [if_pos ⟨rfl, rfl⟩] at hset
    cases hset.symm.trans hcell'
    exact ⟨hsigned, hlive⟩
  revoked k t ht hle := h.revoked k t ht ((around.now_le s.reading).trans hle)
  rows := h.rows

/-- A cell is taken out. -/
theorem pop (h : Accounted py around c sid first signed destroyed s) :
    Accounted py around c sid first signed destroyed
      (amid py around (.cellsPop c.ref sid) s).2 where
  since := h.since
  drawn := h.drawn
  unique := h.unique
  ofSigned := h.ofSigned
  live cell' hcell' := by
    have hpop := exec_cellsPop_cells py (around.met s) c.ref c.ref sid sid
    rw [if_pos ⟨rfl, rfl⟩] at hpop
    cases hpop.symm.trans hcell'
  revoked k t ht hle := h.revoked k t ht ((around.now_le s.reading).trans hle)
  rows := h.rows

/-- A token that was not on the list is revoked, with its own expiry. -/
theorem revoke (h : Accounted py around c sid first signed destroyed s) {k : ℕ} {t : ℤ}
    (hfirst : first ≤ k) (hsigned : c.tokenOf py sid k t ∈ signed)
    (hlive : c.tokenOf py sid k t ∉ destroyed) (hnone : s.world.cells c.ref sid = none) :
    Accounted py around c sid first signed (destroyed ++ [c.tokenOf py sid k t])
      (amid py around (.revokeToken (py.uuid4 .jti k) ((SessionJWT.expiry t 3600 : ℤ) : T)) s).2
      where
  since := h.since
  drawn := h.drawn
  unique := h.unique
  ofSigned token htoken := by
    rcases List.mem_append.mp htoken with hold | hlast
    · exact h.ofSigned token hold
    · rw [List.mem_singleton.mp hlast]
      exact hsigned
  live cell hcell := by
    have hmet : (around.met s).cells c.ref sid = some cell := hcell
    cases hnone.symm.trans (Surroundings.met_cells hmet)
  revoked k' t' ht' hle := by
    have hclock := (around.now_le s.reading).trans hle
    rcases List.mem_append.mp ht' with hold | hlast
    · exact (h.revoked k' t' hold hclock).revokeToken _ _
    · obtain ⟨rfl, rfl⟩ := Celld.tokenOf_inj (List.mem_singleton.mp hlast)
      refine Store.revoked_revokeToken fun r hr hjti => ?_
      -- a row with this id would be of a token destroyed before
      obtain ⟨t'', hold, -⟩ := h.rows r hr k' hfirst hjti
      rw [h.unique k' t'' t' (h.ofSigned _ hold) hsigned] at hold
      exact absurd hold hlive
  rows r hr k' hk' hjti := by
    rcases Store.mem_revokeToken hr with hold | rfl
    · obtain ⟨t', ht', hexp⟩ := h.rows r hold k' hk' hjti
      exact ⟨t', List.mem_append_left _ ht', hexp⟩
    · obtain rfl := (py.uuid4_inj hjti).2
      exact ⟨t, List.mem_append_right _ (List.mem_singleton_self _), rfl⟩

end Accounted

/-! ## Runs -/

/-- What a `celld` is asked to do about a session. -/
inductive CellRequest where
  | createCell
  | reconstructCell
  | consumeCommands
  | destroyCell

/-- A run so far: the state it has led to, the tokens signed for the session,
and those of the cells that `destroy_cell` has found. -/
structure CellRun (T : Type) where
  state : Ticking T
  signed : List String
  destroyed : List String

/-- Nothing has been signed. -/
def CellRun.start (w : World T) : CellRun T := ⟨⟨0, w⟩, [], []⟩

variable [IsStrictOrderedRing T] [FloorRing T]

section Runs

variable (py : Py) (around : Surroundings T) (c : Celld) (sid : String)

/-- Serve a request, dropping what it returns. -/
def CellRequest.code : CellRequest → Code T Unit
  | .createCell => do
    let _ ← c.createCell py sid
    return ()
  | .reconstructCell => do
    let _ ← c.reconstructCell py sid
    return ()
  | .consumeCommands => do
    let _ ← c.consumeCommands py sid
    return ()
  | .destroyCell => c.destroyCell py sid

/-- The token of the cell that a `destroy_cell` beginning now finds. -/
def CellRun.found (run : CellRun T) : Option String :=
  ((around.met run.state).cells c.ref sid).map Cell.jwt

/-- A run after one more request, whatever becomes of it. -/
def CellRun.serve (run : CellRun T) (request : CellRequest) : CellRun T where
  state := ((request.code py c sid).run (amid py around) run.state).2
  signed := run.signed ++
    ((request.code py c sid).calls (amid py around) run.state).filterMap (Call.tokenFor sid)
  destroyed :=
    match request with
    | .destroyCell => run.destroyed ++ (run.found around c sid).toList
    | _ => run.destroyed

/-- A run after more requests. -/
def CellRun.serveAll (run : CellRun T) (requests : List CellRequest) : CellRun T :=
  requests.foldl (fun run request => run.serve py around c sid request) run

/-- Presented now, whatever for, a token is refused by both who verify it. -/
def Refused (box : Sandboxd) (token : String) (s : Ticking T) : Prop :=
  ∀ sessionId,
    (∀ audience, ∃ msg, ((box.exchange py sessionId token audience).run (amid py around) s).1 =
      .error (.jwtError msg)) ∧
    ∀ name args, ∃ msg, ((box.executeTool py sessionId token name args).run (amid py around) s).1 =
      .error (.jwtError msg)

end Runs

/-! ## What requests do to the account -/

section Quiet

omit [Field T] [LinearOrder T]

variable {d : Call T}

omit [IsStrictOrderedRing T] [FloorRing T] in
theorem Call.ofAppend.quiet (h : d.ofAppend c sid) : d.quiet := by
  cases d <;> trivial

omit [IsStrictOrderedRing T] [FloorRing T] in
theorem Call.ofLoop.quiet {ids : ℕ → Prop} (h : d.ofLoop c sid ids) : d.quiet := by
  cases d with
  | newCell | cellsSet | cellsPop | revokeToken => exact h.elim (fun h => h) fun h => h
  | _ => trivial

end Quiet

variable {α β : Type} {first : ℕ} {signed destroyed : List String}

variable (py around c sid first) in
/-- From an account with the given tokens a program keeps account, the tokens
of the cells it builds included. -/
def Accounts (signed destroyed : List String) (p : Code T α) : Prop :=
  ∀ s, Accounted py around c sid first signed destroyed s →
    Accounted py around c sid first
      (signed ++ (p.calls (amid py around) s).filterMap (Call.tokenFor sid)) destroyed
      (p.run (amid py around) s).2

namespace Accounts

omit [IsStrictOrderedRing T] [FloorRing T]

theorem quiet {p : Code T α} {post : α → Prop} (hp : p.Within Call.quiet post) :
    Accounts py around c sid first signed destroyed p := by
  intro s h
  have hnone : (p.calls (amid py around) s).filterMap (Call.tokenFor sid) = [] :=
    List.filterMap_eq_nil_iff.mpr fun d hd => (hp.calls d hd).tokenFor sid
  rw [hnone, List.append_nil]
  refine hp.preserves (fun d s hd h => ?_) h
  exact h.passive hd.writes_cells hd.ne_revokeToken

theorem pure (a : α) : Accounts py around c sid first signed destroyed (.pure a : Code T α) := by
  have hpure : (.pure a : Code T α).Within Call.quiet fun _ => True := trivial
  exact quiet hpure

theorem bind {p : Code T α} {f : α → Code T β}
    (hp : Accounts py around c sid first signed destroyed p)
    (hf : ∀ a more, Accounts py around c sid first (signed ++ more) destroyed (f a)) :
    Accounts py around c sid first signed destroyed (p.bind f) := by
  intro s h
  have hdone := hp s h
  rcases hrun : p.run (amid py around) s with ⟨e | a, s'⟩
  · rw [Prog.run_bind_error _ hrun, Prog.calls_bind_error _ hrun]
    rw [hrun] at hdone
    exact hdone
  · rw [Prog.run_bind_ok _ hrun, Prog.calls_bind_ok _ hrun, List.filterMap_append,
      ← List.append_assoc]
    rw [hrun] at hdone
    exact hf a _ s' hdone

/-- A cell is registered whose token is signed and not destroyed. -/
theorem register {cell : Cell} (hsigned : cell.jwt ∈ signed) (hlive : cell.jwt ∉ destroyed) :
    Accounts py around c sid first signed destroyed (call (.cellsSet c.ref sid cell)) := by
  intro s h
  rw [Prog.calls_perform, run_call_amid]
  show Accounted py around c sid first (signed ++ []) destroyed _
  rw [List.append_nil]
  exact h.register hsigned hlive

end Accounts

/-- A token is signed and a cell is built with it. -/
theorem Accounts.newCell {f : String → Cell → Code T α} (site : ClockSite)
    (hf : ∀ cell, cell.jwt ∉ destroyed →
      Accounts py around c sid first (signed ++ [cell.jwt]) destroyed (f cell.jwt cell)) :
    Accounts py around c sid first signed destroyed
      ((c.jwt.signNow py site sid "cell tool" 3600 c.hostId).bind fun token =>
        (call (.newCell sid token)).bind (f token)) := by
  intro s h
  let k := s.world.drawn .jti
  let token := c.tokenOf py sid k (truncate (around.now s.reading))
  let s₁ := (amid py around (.time site) s).2
  let s₂ := (amid py around (.uuid4 .jti) s₁).2
  let s₃ := (amid py around (.newCell sid token) s₂).2
  have hsign : (c.jwt.signNow py site sid "cell tool" 3600 c.hostId).run (amid py around) s =
      (.ok token, s₂) := rfl
  have hbuild : (call (.newCell sid token)).run (amid py around) s₂ =
      (.ok ⟨s.world.nextAddr, sid, token⟩, s₃) := rfl
  have hcalls : (c.jwt.signNow py site sid "cell tool" 3600 c.hostId).calls (amid py around) s =
      [.time site, .uuid4 .jti] := rfl
  rw [Prog.run_bind_ok _ hsign, Prog.run_bind_ok _ hbuild, Prog.calls_bind_ok _ hsign,
    Prog.calls_bind_ok _ hbuild, hcalls, Prog.calls_perform]
  -- no token before has the id just drawn
  have hnew : ∀ t, c.tokenOf py sid k t ∉ signed := by
    intro t ht
    obtain ⟨k', t', -, hk', heq⟩ := h.drawn _ ht
    exact absurd (Celld.tokenOf_inj heq).1 (Nat.ne_of_gt hk')
  have h₁ : Accounted py around c sid first signed destroyed s₁ :=
    h.passive (d := .time site) rfl fun _ _ => nofun
  have h₂ : Accounted py around c sid first signed destroyed s₂ :=
    h₁.passive (d := .uuid4 .jti) rfl fun _ _ => nofun
  have h₃ : Accounted py around c sid first signed destroyed s₃ :=
    h₂.passive (d := .newCell sid token) rfl fun _ _ => nofun
  have hdrawn : s₃.world.drawn .jti = k + 1 := World.draw_self .jti
  have hlast : Accounted py around c sid first (signed ++ [token]) destroyed s₃ :=
    h₃.sign h.since (hdrawn ▸ Nat.lt_succ_self k) hnew
  have hrest := hf ⟨s.world.nextAddr, sid, token⟩ (fun hd => hnew _ (h.ofSigned _ hd)) s₃ hlast
  have hone : (Call.newCell sid token : Call T).tokenFor sid = some token := if_pos rfl
  simp only [List.cons_append, List.nil_append]
  rw [List.filterMap_cons_none rfl, List.filterMap_cons_none rfl, List.filterMap_cons_some hone,
    List.append_cons]
  exact hrest

section Requests

theorem accounts_createCell : Accounts py around c sid first signed destroyed
    (c.createCell py sid : Code T Cell) := by
  unfold Celld.createCell
  simp only [Prog.bind_eq]
  refine .newCell .createCell fun cell hlive => ?_
  refine .bind (.register (List.mem_append_right _ (List.mem_singleton_self _)) hlive)
    fun _ _ => ?_
  refine .bind (.quiet (.perform trivial fun _ => trivial)) fun _ _ => ?_
  exact .bind (.quiet ((c.appendEvent_within sid _ _).mono_calls fun _ h => h.quiet)) fun _ _ => .pure _

theorem accounts_reconstructCell : Accounts py around c sid first signed destroyed
    (c.reconstructCell py sid : Code T Cell) := by
  unfold Celld.reconstructCell
  simp only [Prog.bind_eq]
  refine .newCell .reconstructCell fun cell hlive => ?_
  refine .bind (.quiet (.perform trivial fun _ => trivial)) fun events _ => ?_
  refine .bind (.quiet (Celld.applyEvents_calls (fun _ _ => trivial) events)) fun _ _ => ?_
  refine .bind (.register ?_ hlive) fun _ _ => .pure _
  simp

theorem accounts_consumeCommands : Accounts py around c sid first signed destroyed
    (c.consumeCommands py sid : Code T (List Event)) := by
  have hlive : Accounts py around c sid first signed destroyed
      (c.liveCell py sid : Code T Cell) := by
    refine .bind (.quiet (.perform trivial fun _ => trivial)) fun found _ => ?_
    cases found with
    | none => exact accounts_reconstructCell
    | some cell => exact .pure cell
  refine .bind hlive fun cell _ => ?_
  refine .bind (.quiet (.perform trivial fun _ => trivial)) fun commands _ => ?_
  exact .quiet ((c.consumeLoop_within py sid cell.jwt commands).mono_calls fun _ h => h.quiet)

omit [IsStrictOrderedRing T] [FloorRing T] in
/-- Where `destroy_cell` finds no cell, it does nothing more. -/
theorem run_destroyCell_missed {s : Ticking T}
    (hnone : (around.met s).cells c.ref sid = none) :
    (c.destroyCell py sid).run (amid py around) s =
      (.ok (), (amid py around (.cellsPop c.ref sid) s).2) := by
  have hpop : (call (.cellsPop c.ref sid)).run (amid py around) s =
      (.ok ((around.met s).cells c.ref sid), (amid py around (.cellsPop c.ref sid) s).2) := rfl
  unfold Celld.destroyCell
  simp only [Prog.bind_eq]
  rw [Prog.run_bind_ok _ hpop, hnone]
  rfl

omit [IsStrictOrderedRing T] [FloorRing T] in
/-- Where `destroy_cell` finds a cell with a token of its own, it revokes that
token and marks the session. -/
theorem run_destroyCell_found {s : Ticking T} {cell : Cell}
    (hfound : (around.met s).cells c.ref sid = some cell) {k : ℕ} {t : ℤ}
    (htoken : cell.jwt = c.tokenOf py sid k t) :
    (c.destroyCell py sid).run (amid py around) s =
      (.ok (), (amid py around (.updateSessionStatus sid .stopped)
        (amid py around
          (.revokeToken (py.uuid4 .jti k) ((SessionJWT.expiry t 3600 : ℤ) : T))
          (amid py around (.cellsPop c.ref sid) s).2).2).2) := by
  have hpop : (call (.cellsPop c.ref sid)).run (amid py around) s =
      (.ok ((around.met s).cells c.ref sid), (amid py around (.cellsPop c.ref sid) s).2) := rfl
  have hrevoke : (Celld.revokeTokenOf py cell).run (amid py around)
      (amid py around (.cellsPop c.ref sid) s).2 = (.ok (), (amid py around
        (.revokeToken (py.uuid4 .jti k) ((SessionJWT.expiry t 3600 : ℤ) : T))
        (amid py around (.cellsPop c.ref sid) s).2).2) := by
    unfold Celld.revokeTokenOf
    rw [htoken, Celld.tokenToRevoke_tokenOf]
    exact run_call_amid _ _
  unfold Celld.destroyCell
  simp only [Prog.bind_eq]
  rw [Prog.run_bind_ok _ hpop, hfound]
  dsimp only
  rw [Prog.run_bind_ok _ hrevoke, run_call_amid]
  rfl

omit [IsStrictOrderedRing T] [FloorRing T] in
/-- The cell that is found is taken out and its token revoked. -/
theorem Accounted.destroyCell {s : Ticking T}
    (h : Accounted py around c sid first signed destroyed s) :
    Accounted py around c sid first signed
      (destroyed ++ (((around.met s).cells c.ref sid).map Cell.jwt).toList)
      ((c.destroyCell py sid).run (amid py around) s).2 := by
  cases hfound : (around.met s).cells c.ref sid with
  | none =>
    rw [run_destroyCell_missed hfound, Option.map_none, Option.toList_none, List.append_nil]
    exact h.pop
  | some cell =>
    obtain ⟨hsigned, hlive⟩ := h.live cell (Surroundings.met_cells hfound)
    obtain ⟨k, t, hfirst, -, htoken⟩ := h.drawn _ hsigned
    rw [htoken] at hsigned hlive
    have hgone := (exec_cellsPop_cells py (around.met s) c.ref c.ref sid sid).trans
      (if_pos ⟨rfl, rfl⟩)
    rw [run_destroyCell_found hfound htoken, Option.map_some, Option.toList_some, htoken]
    exact (h.pop.revoke hfirst hsigned hlive hgone).passive rfl fun _ _ => nofun

omit [LinearOrder T] [IsStrictOrderedRing T] [FloorRing T] in
theorem destroyCell_builds : (c.destroyCell py sid : Code T Unit).Within (Call.BuildsNone sid)
    fun _ => True := by
  refine .bind (.perform rfl fun _ => trivial) fun found _ => ?_
  cases found with
  | none => trivial
  | some cell =>
    have hrevoke : (Celld.revokeTokenOf py cell : Code T Unit).Within (Call.BuildsNone sid)
        fun _ => True := by
      unfold Celld.revokeTokenOf
      split
      · exact .perform rfl fun _ => trivial
      · trivial
    exact .bind hrevoke fun _ _ => .perform rfl fun _ => trivial

variable (py around c sid first) in
/-- The account of a run. -/
def CellRun.Balanced (run : CellRun T) : Prop :=
  Accounted py around c sid first run.signed run.destroyed run.state

/-- **Every request keeps the account.** -/
theorem CellRun.Balanced.serve {run : CellRun T} (h : run.Balanced py around c sid first)
    (request : CellRequest) :
    (run.serve py around c sid request).Balanced py around c sid first := by
  have hserve : ∀ {α : Type} {p : Code T α},
      Accounts py around c sid first run.signed run.destroyed p →
      Accounts py around c sid first run.signed run.destroyed (p.bind fun _ => .pure ()) :=
    fun hp => hp.bind fun _ _ => .pure ()
  cases request with
  | createCell => exact hserve accounts_createCell _ h
  | reconstructCell => exact hserve accounts_reconstructCell _ h
  | consumeCommands => exact hserve accounts_consumeCommands _ h
  | destroyCell =>
    have hnone : ((c.destroyCell py sid).calls (amid py around) run.state).filterMap
        (Call.tokenFor sid) = [] :=
      List.filterMap_eq_nil_iff.mpr fun d hd => destroyCell_builds.calls d hd
    unfold Balanced CellRun.serve CellRun.found CellRequest.code
    dsimp only
    rw [hnone, List.append_nil]
    exact Accounted.destroyCell h

theorem CellRun.Balanced.serveAll {run : CellRun T} (h : run.Balanced py around c sid first)
    (requests : List CellRequest) :
    (run.serveAll py around c sid requests).Balanced py around c sid first := by
  induction requests generalizing run with
  | nil => exact h
  | cons request rest ih => exact ih (h.serve request)

/-- What has been signed stays signed. -/
theorem CellRun.signed_serveAll {run : CellRun T} {token : String} (h : token ∈ run.signed)
    (requests : List CellRequest) : token ∈ (run.serveAll py around c sid requests).signed := by
  induction requests generalizing run with
  | nil => exact h
  | cons request rest ih => exact ih (List.mem_append_left _ h)

omit [IsStrictOrderedRing T] [FloorRing T] in
/-- A `celld` that is new, on a database that has no row of an id to come. -/
theorem CellRun.balanced_start {w : World T} (hnew : w.cells c.ref sid = none)
    (hids : ∀ r ∈ w.store.revokedTokens, ∀ k, w.drawn .jti ≤ k → r.jti ≠ py.uuid4 .jti k) :
    (CellRun.start w).Balanced py around c sid (w.drawn .jti) where
  since := Nat.le_refl _
  drawn _ htoken := nomatch htoken
  unique _ _ _ ht := nomatch ht
  ofSigned _ htoken := nomatch htoken
  live _ hcell := nomatch hnew.symm.trans hcell
  revoked _ _ ht := nomatch ht
  rows r hr k hk hjti := absurd hjti (hids r hr k hk)

end Requests

/-! ## Presenting a token -/

section Presented

variable {root : List String} {token : String} {s : Ticking T}

/-- What is not verified is refused. -/
theorem refused_of_verify
    (h : ∀ sessionId, ∃ msg,
      ((c.jwt.verify py token sessionId "tool" : Code T Json).run (amid py around) s).1 =
        .error (.jwtError msg)) :
    Refused py around ⟨c.jwt, root⟩ token s := by
  intro sessionId
  obtain ⟨msg, hmsg⟩ := h sessionId
  rcases hrun : (c.jwt.verify py token sessionId "tool" : Code T Json).run (amid py around) s
    with ⟨r, s'⟩
  rw [hrun] at hmsg
  obtain rfl : r = .error (.jwtError msg) := hmsg
  exact ⟨fun audience => ⟨msg, congrArg Prod.fst (Prog.run_bind_error _ hrun)⟩,
    fun name args => ⟨msg, congrArg Prod.fst (Prog.run_bind_error _ hrun)⟩⟩

/-- What is verified for some session is exchanged for a credential. -/
theorem not_refused_of_verify {sessionId : String} {data : Json} {s' : Ticking T}
    (h : (c.jwt.verify py token sessionId "tool" : Code T Json).run (amid py around) s =
      (.ok data, s')) : ¬ Refused py around ⟨c.jwt, root⟩ token s := by
  intro hrefused
  obtain ⟨msg, hmsg⟩ := (hrefused sessionId).1 ""
  have hrun : ((Sandboxd.mk c.jwt root).exchange py sessionId token "").run (amid py around) s =
      (.ok (Sandboxd.fakeCredential sessionId ""), _) := Prog.run_bind_ok _ h
  rw [hrun] at hmsg
  cases hmsg

/-- **The verdict** on a token that is accounted for: it is refused once the
whole seconds of the clock have passed its expiry, or where it has been
destroyed and is looked up no later than its expiry. -/
theorem Accounted.refused_iff (h : Accounted py around c sid first signed destroyed s) {k : ℕ}
    {t : ℤ} (hfirst : first ≤ k) (hsigned : c.tokenOf py sid k t ∈ signed) :
    Refused py around ⟨c.jwt, root⟩ (c.tokenOf py sid k t) s ↔
      SessionJWT.expiry t 3600 < truncate (around.now s.reading) ∨
        (c.tokenOf py sid k t ∈ destroyed ∧
          around.now (s.reading + 1) ≤ ((SessionJWT.expiry t 3600 : ℤ) : T)) := by
  let s₁ := (amid py around (.time .verify) s).2
  have h₁ : Accounted py around c sid first signed destroyed s₁ :=
    h.passive (d := .time .verify) rfl fun _ _ => nofun
  have hverify := fun sessionId => SessionJWT.verify_sign (T := T) py c.jwt t
    (py.uuid4_ne_empty .jti k) sid "cell tool" 3600 c.hostId sessionId "tool"
  have htime : (call (.time .verify) : Code T T).run (amid py around) s =
      (.ok (around.now s.reading), s₁) := rfl
  have hlook : (call (.isTokenRevoked (py.uuid4 .jti k)) : Code T Bool).run (amid py around) s₁ =
      (.ok (s₁.world.store.isTokenRevoked (around.now (s.reading + 1)) (py.uuid4 .jti k)).1, _) :=
    run_call_amid _ _
  have hscope : "tool" ∈ splitWords "cell tool" ∨ "cell tool" = "*" := .inl (by decide)
  by_cases hexp : SessionJWT.expiry t 3600 < truncate (around.now s.reading)
  · refine iff_of_true (refused_of_verify fun sessionId => ⟨"token expired", ?_⟩) (.inl hexp)
    unfold Celld.tokenOf
    rw [hverify, Prog.run_bind_ok _ htime, if_pos hexp]
    rfl
  by_cases hdead : c.tokenOf py sid k t ∈ destroyed ∧
      around.now (s.reading + 1) ≤ ((SessionJWT.expiry t 3600 : ℤ) : T)
  · -- the row is there and is found
    have hrow := h₁.revoked k t hdead.1 hdead.2
    rw [hrow.isTokenRevoked_eq hdead.2] at hlook
    refine iff_of_true (refused_of_verify fun sessionId => ?_) (.inr hdead)
    unfold Celld.tokenOf
    rw [hverify, Prog.run_bind_ok _ htime, if_neg hexp]
    by_cases hsid : sid = sessionId
    · refine ⟨"token revoked", ?_⟩
      rw [if_pos hsid, if_pos hscope, Prog.run_bind_ok _ hlook]
      rfl
    · refine ⟨"wrong session", ?_⟩
      rw [if_neg hsid]
      rfl
  · -- there is no row, or it is dropped before the look-up
    have hnone : (s₁.world.store.isTokenRevoked (around.now (s.reading + 1))
        (py.uuid4 .jti k)).1 = false := by
      refine Store.isTokenRevoked_of_lt fun r hr hjti => ?_
      obtain ⟨t', ht', hrow⟩ := h₁.rows r hr k hfirst hjti
      obtain rfl := h.unique k t' t (h.ofSigned _ ht') hsigned
      rw [hrow]
      exact not_le.mp fun hle => hdead ⟨ht', hle⟩
    rw [hnone] at hlook
    have hrun : (c.jwt.verify py (c.tokenOf py sid k t) sid "tool" : Code T Json).run
        (amid py around) s = (.ok (SessionJWT.claims c.hostId sid "cell tool"
          (SessionJWT.expiry t 3600) (py.uuid4 .jti k)),
          (amid py around (.isTokenRevoked (py.uuid4 .jti k)) s₁).2) := by
      unfold Celld.tokenOf
      rw [hverify, Prog.run_bind_ok _ htime, if_neg hexp, if_pos rfl, if_pos hscope,
        Prog.run_bind_ok _ hlook]
      rfl
    exact iff_of_false (not_refused_of_verify hrun) fun hor => hor.elim hexp hdead

/-- **Tokens signed before a `destroy_cell`.** A new `celld` serves requests
about a session in any order, one of them a `destroy_cell`, while time passes
and cells are lost between any two calls. A token signed before that
`destroy_cell` is refused at the end of the run exactly where it has expired, or
a `destroy_cell` of the run has found its cell in `celld.cells` and its
revocation is looked up no later than its expiry. -/
theorem earlier_token_refused_iff (py : Py) (around : Surroundings T) (c : Celld) (sid : String)
    (root : List String) {w₀ : World T} (hnew : w₀.cells c.ref sid = none)
    (hids : ∀ r ∈ w₀.store.revokedTokens, ∀ k, w₀.drawn .jti ≤ k → r.jti ≠ py.uuid4 .jti k)
    (before after : List CellRequest) :
    let upTo := (CellRun.start w₀).serveAll py around c sid before
    let run := upTo.serveAll py around c sid (.destroyCell :: after)
    ∀ token ∈ upTo.signed, ∃ data exp,
      c.jwt.read py token = .ok data ∧ data.get "exp" (.int 0) = .ok (.int exp) ∧
      (Refused py around ⟨c.jwt, root⟩ token run.state ↔
        exp < truncate (around.now run.state.reading) ∨
          (token ∈ run.destroyed ∧ around.now (run.state.reading + 1) ≤ (exp : T))) := by
  intro upTo run token htoken
  have hupTo : upTo.Balanced py around c sid (w₀.drawn .jti) :=
    (CellRun.balanced_start hnew hids).serveAll before
  have hrun : run.Balanced py around c sid (w₀.drawn .jti) :=
    hupTo.serveAll (.destroyCell :: after)
  obtain ⟨k, t, hfirst, -, rfl⟩ := hupTo.drawn token htoken
  exact ⟨_, SessionJWT.expiry t 3600, SessionJWT.read_sign .., rfl,
    Accounted.refused_iff hrun hfirst (CellRun.signed_serveAll htoken _)⟩

end Presented

/-- A cell is created and destroyed; its token is refused. -/
theorem earlier_token_refused_iff_sample :
    let c := localCelld []
    let around : Surroundings ℚ := .still 0 Sample.files fun _ _ => false
    let w₀ : World ℚ := (exec Py.sample (.createSession "local" none none .null)
      (World.init 0 Sample.files)).2
    let upTo := (CellRun.start w₀).serveAll Py.sample around c "s" [.createCell]
    let run := upTo.serveAll Py.sample around c "s" [.destroyCell]
    let token := c.tokenOf Py.sample "s" 0 0
    token ∈ upTo.signed ∧ Refused Py.sample around ⟨c.jwt, []⟩ token run.state := by
  intro c around w₀ upTo run token
  have hsigned : token ∈ upTo.signed := List.mem_singleton_self token
  have hdestroyed : token ∈ run.destroyed := List.mem_singleton_self token
  refine ⟨hsigned, ?_⟩
  have hnew : w₀.cells c.ref "s" = none := rfl
  obtain ⟨data, exp, hread, hexp, hiff⟩ := earlier_token_refused_iff Py.sample around c "s" []
    hnew (fun r hr => nomatch hr) [.createCell] [] token hsigned
  obtain rfl := Except.ok.inj ((SessionJWT.read_sign ..).symm.trans hread)
  obtain rfl : SessionJWT.expiry 0 3600 = exp := Json.int.inj (Except.ok.inj hexp)
  refine hiff.mpr (.inr ⟨hdestroyed, ?_⟩)
  show (0 : ℚ) ≤ ((SessionJWT.expiry 0 3600 : ℤ) : ℚ)
  decide +kernel

/-- A cell is created and lost; `destroy_cell` finds none and returns, and the
token of the cell is still accepted. -/
theorem lost_token_accepted :
    let c := localCelld []
    let around : Surroundings ℚ := .still 0 Sample.files fun n _ => n == 8
    let w₀ : World ℚ := (exec Py.sample (.createSession "local" none none .null)
      (World.init 0 Sample.files)).2
    let upTo := (CellRun.start w₀).serveAll Py.sample around c "s" [.createCell]
    let run := upTo.serveAll Py.sample around c "s" [.destroyCell]
    upTo.state.world.cells c.ref "s" ≠ none ∧
      ((c.destroyCell Py.sample "s").run (amid Py.sample around) upTo.state).1 = .ok () ∧
      ¬ ∀ token ∈ upTo.signed, Refused Py.sample around ⟨c.jwt, []⟩ token run.state := by
  intro c around w₀ upTo run
  let token := c.tokenOf Py.sample "s" 0 0
  have hsigned : token ∈ upTo.signed := List.mem_singleton_self token
  refine ⟨by decide +kernel, rfl, fun h => ?_⟩
  have hstart : (CellRun.start w₀).Balanced Py.sample around c "s" (w₀.drawn .jti) :=
    CellRun.balanced_start rfl fun r hr => nomatch hr
  have hrun : run.Balanced Py.sample around c "s" (w₀.drawn .jti) :=
    (hstart.serveAll [.createCell]).serveAll [.destroyCell]
  rcases (Accounted.refused_iff (k := 0) (t := 0) hrun (Nat.zero_le 0)
    (CellRun.signed_serveAll hsigned [.destroyCell])).mp (h token hsigned) with hlate | hdead
  · exact absurd hlate (by decide +kernel)
  · exact absurd hdead.1 (List.not_mem_nil)

end Nadi
