import Nadi.Effect.Role
import Nadi.Model.Frame
import Nadi.Model.Programs
import Nadi.Model.Sample
import Mathlib.Data.Rat.Floor
import Mathlib.Tactic.NormNum

/-!
# Revoked tokens

`verify` rejects a token once the *whole* seconds of the clock have passed its
expiry; `is_token_revoked` drops a revocation once the clock itself has. In the
second that begins at the expiry both checks let a revoked token through.

- `revoked_accepted_in_last_second`: it happens.
- `revoked_never_accepted`: it happens only there. In every run in which the
  revocation of the token is looked up before its expiry, no verification of it
  ever returns.
-/

namespace Nadi

open Effect

variable {T ι : Type}

/-! ## Revocation rows -/

/-- The token is on the list, with an expiry not before `exp`. -/
def Store.Revoked [LE T] (st : Store T) (jti : String) (exp : T) : Prop :=
  ∃ r ∈ st.revokedTokens, r.jti = jti ∧ exp ≤ r.expiresAt

namespace Store

variable [LinearOrder T] {st : Store T} {t exp : T} {jti : String}

/-- Where no older row with an earlier expiry is in the way, revoking revokes. -/
theorem revoked_revokeToken (h : ∀ r ∈ st.revokedTokens, r.jti = jti → exp ≤ r.expiresAt) :
    (st.revokeToken t jti exp).Revoked jti exp := by
  unfold revokeToken
  cases hins : st.revokedTokens.insert? ⟨jti, exp, t⟩ with
  | none =>
    obtain ⟨r, hr, hjti⟩ := Data.Table.insert?_eq_none.mp hins
    exact ⟨r, hr, hjti, h r hr hjti⟩
  | some revokedTokens =>
    exact ⟨_, (Data.Table.mem_of_insert? hins).mpr (.inr rfl), rfl, le_refl exp⟩

omit [LinearOrder T] in
/-- Revoking adds at most its own row. -/
theorem mem_revokeToken {r} (hr : r ∈ (st.revokeToken t jti exp).revokedTokens) :
    r ∈ st.revokedTokens ∨ r = ⟨jti, exp, t⟩ := by
  unfold revokeToken at hr
  cases hins : st.revokedTokens.insert? ⟨jti, exp, t⟩ with
  | none =>
    rw [hins] at hr
    exact .inl hr
  | some revokedTokens =>
    rw [hins] at hr
    exact (Data.Table.mem_of_insert? hins).mp hr

/-- Revoking keeps what is on the list. -/
theorem Revoked.revokeToken (h : st.Revoked jti exp) (jti' : String) (exp' : T) :
    (st.revokeToken t jti' exp').Revoked jti exp := by
  obtain ⟨r, hr, hrow⟩ := h
  unfold Store.revokeToken
  cases hins : st.revokedTokens.insert? ⟨jti', exp', t⟩ with
  | none => exact ⟨r, hr, hrow⟩
  | some revokedTokens => exact ⟨r, (Data.Table.mem_of_insert? hins).mpr (.inl hr), hrow⟩

/-- A purge up to the expiry keeps what is on the list. -/
theorem Revoked.isTokenRevoked (h : st.Revoked jti exp) (ht : t ≤ exp) (jti' : String) :
    (st.isTokenRevoked t jti').2.Revoked jti exp := by
  obtain ⟨r, hr, hjti, hexp⟩ := h
  refine ⟨r, Data.Table.mem_delete.mpr ⟨hr, ?_⟩, hjti, hexp⟩
  simpa using ht.trans hexp

/-- Up to the expiry the list is believed. -/
theorem Revoked.isTokenRevoked_eq (h : st.Revoked jti exp) (ht : t ≤ exp) :
    (st.isTokenRevoked t jti).1 = true := by
  obtain ⟨r, hr, hjti, -⟩ := h.isTokenRevoked ht jti
  exact Data.Table.find?_isSome.mpr ⟨r, hr, hjti⟩

/-- After the expiry of its row a token is off the list. -/
theorem isTokenRevoked_of_lt (h : ∀ r ∈ st.revokedTokens, r.jti = jti → r.expiresAt < t) :
    (st.isTokenRevoked t jti).1 = false := by
  have hnone : (st.revokedTokens.delete fun r => decide (r.expiresAt < t)).find? jti = none := by
    refine Data.Table.find?_eq_none.mpr fun r hr hjti => ?_
    obtain ⟨hold, hkeep⟩ := Data.Table.mem_delete.mp hr
    have hlt := h r hold hjti
    simp only [decide_eq_false_iff_not] at hkeep
    exact hkeep hlt
  unfold isTokenRevoked
  dsimp only
  rw [hnone]
  rfl

end Store

/-- Until the clock passes the expiry, no call takes the token off the list. -/
theorem exec_revoked_row [Field T] [LinearOrder T] {py : Py} {w : World T} {jti : String}
    {exp : T} (h : w.clock ≤ exp → w.store.Revoked jti exp) (c : Call T) :
    (exec py c w).2.clock ≤ exp → (exec py c w).2.store.Revoked jti exp := by
  intro hclock
  rw [(exec_passive py w).1] at hclock
  cases c with
  | revokeToken jti' exp' => exact (h hclock).revokeToken jti' exp'
  | isTokenRevoked jti' => exact (h hclock).isTokenRevoked hclock jti'
  | _ =>
    unfold Store.Revoked
    rw [exec_revoked py w rfl]
    exact h hclock

/-! ## What a verification has been told -/

/-- The local state: whether the table has ever denied that `jti` is revoked. -/
def revocationRole (jti : String) : Role Bool (Call T) Call.Ret PyErr where
  init := false
  may _ _ := True
  next q
    | .isTokenRevoked jti', .ok false => q || jti' == jti
    | _, _ => q

/-- A thread has been told of a denial when it had been, or this look-up denies. -/
theorem revocationRole_lookup [Field T] [LinearOrder T] (py : Py) (w : World T)
    (jti jti' : String) (q : Bool) :
    (revocationRole jti).next q (.isTokenRevoked jti') (exec py (.isTokenRevoked jti') w).1 =
      (q || (!(w.store.isTokenRevoked w.clock jti').1 && jti' == jti)) := by
  have hres : (exec py (.isTokenRevoked jti') w).1 =
      .ok (w.store.isTokenRevoked w.clock jti').1 := rfl
  rw [hres]
  cases (w.store.isTokenRevoked w.clock jti').1 with
  | true => simp [revocationRole]
  | false => simp [revocationRole]

section Verify

variable [Field T] [LinearOrder T] [IsStrictOrderedRing T] [FloorRing T] (py : Py)
  (jwt : SessionJWT)

/-- A verification of a signed token returns only where the table has denied
its revocation. -/
theorem plays_verify {h : Handler (Call T) Call.Ret PyErr (World T)} (now : Int) {jti : String}
    (hjti : jti ≠ "") (sid scope : String) (ttlSeconds : Int)
    (subject sessionId wanted : String) (q : Bool) :
    (revocationRole jti).Plays h (fun q r => ∀ data, r = .ok data → q = true)
      (jwt.verify py (jwt.sign py now jti sid scope ttlSeconds subject) sessionId wanted :
        Code T Json) q := by
  have hthrow : ∀ (e : PyErr) (q : Bool), (revocationRole jti : Role Bool (Call T) _ _).Plays h
      (fun q r => ∀ data, r = .ok data → q = true) (.throw e : Code T Json) q :=
    fun _ _ _ hdata => nomatch hdata
  rw [SessionJWT.verify_sign py jwt now hjti]
  refine .perform_bind trivial (fun s t _ => ?_) fun _ _ _ _ hdata => nomatch hdata
  split
  · exact hthrow _ _
  split
  · split
    · refine .perform_bind trivial (fun s revoked _ => ?_) fun _ _ _ _ hdata => nomatch hdata
      cases revoked with
      | true => exact hthrow _ _
      | false =>
        intro data _
        show (_ || jti == jti) = true
        rw [beq_self_eq_true, Bool.or_true]
    · exact hthrow _ _
  · exact hthrow _ _

/-- **The window.** While the row of a revoked token carries the token's own
expiry and the clock stands still, the token verifies exactly in the second
that begins at the expiry, the instant itself excepted. -/
theorem verify_revoked_iff (now : Int) {jti : String} (hjti : jti ≠ "") (sid scope : String)
    (ttlSeconds : Int) (subject sessionId wanted : String) {w : World T}
    (hlist : w.store.Revoked jti (SessionJWT.expiry now ttlSeconds : T))
    (hrow : ∀ r ∈ w.store.revokedTokens, r.jti = jti →
      r.expiresAt = (SessionJWT.expiry now ttlSeconds : T)) :
    (∃ data, ((jwt.verify py (jwt.sign py now jti sid scope ttlSeconds subject) sessionId
      wanted).run (exec py) w).1 = .ok data) ↔
    sid = sessionId ∧ (wanted ∈ splitWords scope ∨ scope = "*") ∧
      (SessionJWT.expiry now ttlSeconds : T) < w.clock ∧
      truncate w.clock ≤ SessionJWT.expiry now ttlSeconds := by
  have htime : (call (.time .verify) : Code T T).run (exec py) w = (.ok w.clock, w) :=
    Prog.run_perform _ _ _
  have hlook : (call (.isTokenRevoked jti) : Code T Bool).run (exec py) w =
      exec py (.isTokenRevoked jti) w := Prog.run_perform _ _ _
  rw [SessionJWT.verify_sign py jwt now hjti, Prog.run_bind_ok _ htime]
  by_cases hexp : SessionJWT.expiry now ttlSeconds < truncate w.clock
  · rw [if_pos hexp]
    exact ⟨fun ⟨_, h⟩ => (nomatch h), fun h => absurd h.2.2.2 (not_le.mpr hexp)⟩
  rw [if_neg hexp]
  by_cases hsid : sid = sessionId
  case neg =>
    rw [if_neg hsid]
    exact ⟨fun ⟨_, h⟩ => (nomatch h), fun h => absurd h.1 hsid⟩
  rw [if_pos hsid]
  by_cases hscope : wanted ∈ splitWords scope ∨ scope = "*"
  case neg =>
    rw [if_neg hscope]
    exact ⟨fun ⟨_, h⟩ => (nomatch h), fun h => absurd h.2.1 hscope⟩
  rw [if_pos hscope]
  by_cases hclock : w.clock ≤ (SessionJWT.expiry now ttlSeconds : T)
  · have hyes := hlist.isTokenRevoked_eq hclock
    have hrun : (call (.isTokenRevoked jti) : Code T Bool).run (exec py) w =
        (.ok true, (exec py (.isTokenRevoked jti) w).2) := by
      rw [hlook, ← hyes]
      rfl
    rw [Prog.run_bind_ok _ hrun]
    exact ⟨fun ⟨_, h⟩ => (nomatch h), fun h => absurd h.2.2.1 (not_lt.mpr hclock)⟩
  · have hlt := not_le.mp hclock
    have hno : (w.store.isTokenRevoked w.clock jti).1 = false :=
      Store.isTokenRevoked_of_lt fun r hr hj => (hrow r hr hj).trans_lt hlt
    have hrun : (call (.isTokenRevoked jti) : Code T Bool).run (exec py) w =
        (.ok false, (exec py (.isTokenRevoked jti) w).2) := by
      rw [hlook, ← hno]
      rfl
    rw [Prog.run_bind_ok _ hrun]
    exact ⟨fun _ => ⟨hsid, hscope, hlt, not_lt.mp hexp⟩, fun _ => ⟨_, rfl⟩⟩

variable [DecidableEq ι]

/-- **Revocation holds up to the expiry.** A token is revoked with its own
expiry; then any threads run anything, one of them a verification of the token.
If that verification looks the token up only while the clock has not passed the
expiry, it never returns the claims. -/
theorem revoked_never_accepted {w₀ : World T} {programs : ι → Code T Json} {v : ι}
    {cfg : Threads ι T Json} (now : Int) (n : Nat) (sid scope : String) (ttlSeconds : Int)
    (subject sessionId wanted : String)
    (hrow : ∀ r ∈ w₀.store.revokedTokens, r.jti = py.uuid4 .jti n →
      (SessionJWT.expiry now ttlSeconds : T) ≤ r.expiresAt)
    (hv : programs v = jwt.verify py
      (jwt.sign py now (py.uuid4 .jti n) sid scope ttlSeconds subject) sessionId wanted)
    (hr : Reach
      { system ι py with
        allow := fun p i c => i = v → c = .isTokenRevoked (py.uuid4 .jti n) →
          p.state.clock ≤ (SessionJWT.expiry now ttlSeconds : T) }
      (.start programs
        (exec py (.revokeToken (py.uuid4 .jti n) (SessionJWT.expiry now ttlSeconds : T)) w₀).2)
      cfg) :
    ∀ data, cfg.threads v ≠ .pure data := by
  intro data hdata
  have hplay : Role.AllPlay (fun _ : ι => revocationRole (py.uuid4 .jti n)) (exec py)
      (fun i q r => i = v → ∀ data : Json, r = .ok data → q = true)
      (.start programs
        (exec py (.revokeToken (py.uuid4 .jti n) (SessionJWT.expiry now ttlSeconds : T)) w₀).2)
      := by
    intro i
    by_cases hi : i = v
    · subst hi
      show (revocationRole _).Plays _ _ (programs i) _
      rw [hv]
      exact (plays_verify py jwt now (py.uuid4_ne_empty _ _) sid scope ttlSeconds subject
        sessionId wanted _).weaken fun _ _ h _ => h
    · exact .of_free (fun _ _ => trivial) (fun _ _ h => absurd h hi) _
  -- the token is listed until it expires, so `v` is never told that it is not
  have hinv := Role.roles_invariant
    (P := fun p : Moment ι T =>
      (p.state.clock ≤ (SessionJWT.expiry now ttlSeconds : T) →
        p.state.store.Revoked (py.uuid4 .jti n) (SessionJWT.expiry now ttlSeconds : T)) ∧
      Role.localAt (fun _ : ι => revocationRole (py.uuid4 .jti n)) p.trace v = false)
    hplay hr ⟨fun _ => Store.revoked_revokeToken hrow, rfl⟩ ?_ ?_
  · have htold := (hplay.reach hr).returned hdata rfl data rfl
    rw [hinv.2] at htold
    cases htold
  · rintro p i c ⟨hlist, htold⟩ - hallow
    refine ⟨exec_revoked_row hlist c, ?_⟩
    rw [Role.localAt_after]
    by_cases hi : v = i
    · subst hi
      rw [Function.update_self, htold]
      cases c with
      | isTokenRevoked jti =>
        refine (revocationRole_lookup py p.state _ jti false).trans ?_
        by_cases hj : jti = py.uuid4 .jti n
        · subst hj
          have hclock := hallow rfl rfl
          rw [(hlist hclock).isTokenRevoked_eq hclock]
          rfl
        · simp [hj]
      | _ => rfl
    · rw [Function.update_of_ne hi]
      exact htold
  · rintro p s ⟨hlist, htold⟩ ⟨t, f, hle, rfl⟩
    exact ⟨fun hclock => hlist (hle.trans hclock), htold⟩

end Verify

/-- A token that was revoked is verified at the instant at which it expires. -/
theorem revoked_never_accepted_sample :
    let jwt : SessionJWT := ⟨"k"⟩
    let jti := Py.sample.uuid4 .jti 0
    let token := jwt.sign Py.sample 0 jti "s" "cell tool" 3600 "cell-local"
    let verify : Code ℚ Json := jwt.verify Py.sample token "s" "tool"
    let w₀ : World ℚ := World.init 3600 Sample.files
    let cfg := execute (exec Py.sample) [(), ()]
      (.start (fun _ => verify) (exec Py.sample (.revokeToken jti 3600) w₀).2)
    ∀ data, cfg.threads () ≠ .pure data := by
  intro jwt jti token verify w₀ cfg
  have hexp : ((SessionJWT.expiry 0 3600 : Int) : ℚ) = 3600 := by decide +kernel
  have hnever := @revoked_never_accepted ℚ Unit _ _ _ _ Py.sample jwt _ w₀ (fun _ => verify) ()
    cfg 0 0 "s" "cell tool" 3600 "cell-local" "s" "tool"
  rw [hexp] at hnever
  refine hnever (fun r hr => nomatch hr) rfl ?_
  refine reach_execute_of (I := fun p => p.state.clock ≤ 3600) (fun p i c hp _ _ => hp) ?_ _ _
    (le_refl _)
  intro p i c hp
  show (exec Py.sample c p.state).2.clock ≤ 3600
  rw [(exec_passive Py.sample p.state).1]
  exact hp

/-- A token that expires at 3600 is revoked at 0 and accepted at 3600.5: there
the expiry check is passed, and the look-up drops the row before it looks. -/
theorem revoked_accepted_in_last_second :
    let jwt : SessionJWT := ⟨"k"⟩
    let jti := Py.sample.uuid4 .jti 0
    let token := jwt.sign Py.sample 0 jti "s" "cell tool" 3600 "cell-local"
    let w₀ := (exec Py.sample (.revokeToken jti 3600) (World.init (0 : ℚ) Sample.files)).2
    let w₁ := { w₀ with clock := 7201 / 2 }
    w₀.Passes w₁ ∧ w₁.store.Revoked jti 3600 ∧
      ¬ SessionJWT.expiry 0 3600 < truncate w₁.clock ∧
      (w₁.store.isTokenRevoked w₁.clock jti).1 = false ∧
      ∃ data, ((jwt.verify Py.sample token "s" "tool").run (exec Py.sample) w₁).1 = .ok data := by
  intro jwt jti token w₀ w₁
  have hexp : ((SessionJWT.expiry 0 3600 : Int) : ℚ) = 3600 := by decide +kernel
  have hrows : w₁.store.revokedTokens.rows = [⟨jti, 3600, 0⟩] := rfl
  have hrow : ∀ r ∈ w₁.store.revokedTokens, r.jti = jti → r.expiresAt = 3600 := by
    intro r hr _
    rw [Data.Table.mem_def, hrows, List.mem_singleton] at hr
    rw [hr]
  have hlist : w₁.store.Revoked jti 3600 := by
    refine ⟨⟨jti, 3600, 0⟩, ?_, rfl, le_refl _⟩
    rw [Data.Table.mem_def, hrows]
    exact List.mem_singleton_self _
  have hlate : (3600 : ℚ) < w₁.clock := by
    show (3600 : ℚ) < 7201 / 2
    norm_num
  have hgood : ¬ SessionJWT.expiry 0 3600 < truncate w₁.clock := by
    show ¬ SessionJWT.expiry 0 3600 < truncate (7201 / 2 : ℚ)
    decide +kernel
  have hjti : jti ≠ "" := Py.sample.uuid4_ne_empty _ _
  have hwindow := fun hlist hrow => verify_revoked_iff Py.sample jwt 0 hjti "s" "cell tool" 3600
    "cell-local" "s" "tool" (hlist : w₁.store.Revoked jti _) hrow
  rw [hexp] at hwindow
  have hpasses : w₀.Passes w₁ := by
    refine ⟨7201 / 2, Sample.files, ?_, rfl⟩
    show (0 : ℚ) ≤ 7201 / 2
    norm_num
  have hfalse : (w₁.store.isTokenRevoked w₁.clock jti).1 = false :=
    Store.isTokenRevoked_of_lt fun r hr hj => (hrow r hr hj).trans_lt hlate
  exact ⟨hpasses, hlist, hgood, hfalse, (hwindow hlist hrow).mpr
    ⟨rfl, .inl (by decide +kernel), hlate, not_lt.mp hgood⟩⟩

end Nadi
