import Nadi.Model.CodePoints
import Nadi.Model.Sample
import Mathlib.Data.Rat.Floor

/-!
# What leaves `SessionJWT.verify`

The three parts of a token come from outside, and each step of `verify` has
failures of its own. Six of them are not turned into a `JWTError`
(`SessionJWT.Escape`), and these are all (`verify_closed_iff`).
-/

namespace Nadi

open Effect (Prog)

/-- JSON text of which only the empty list is read. -/
def Sample.codes : PyCodes where
  loads raw := if raw = [0x5b, 0x5d] then some (.arr []) else none
  repr _ := []
  reprFloat _ := ""

namespace PyJson

/-- Whether the value is a dict. -/
def isObj : PyJson → Bool
  | .obj _ => true
  | _ => false

/-- Whether the value compares with an integer. -/
def isNumber : PyJson → Bool
  | .bool _ => true
  | .int _ => true
  | .float _ => true
  | _ => false

/-- Whether `sqlite3` binds the value to a parameter. -/
def binds : PyJson → Bool
  | .str s => s.chars.isSome
  | .int n => SessionJWT.fitsSqlite n
  | .arr _ => false
  | .obj _ => false
  | _ => true

theorem get_isObj {j : PyJson} (key : String) (default : PyJson) :
    (∃ v, j.get key default = .ok v) ↔ j.isObj = true := by
  cases j with
  | obj fields => exact iff_of_true ⟨_, rfl⟩ rfl
  | _ => exact iff_of_false (fun ⟨_, h⟩ => (nomatch h)) Bool.false_ne_true

theorem get_error {j : PyJson} {key : String} {default : PyJson} {e : PyErr}
    (h : j.get key default = .error e) : j.isObj = false ∧ ∃ msg, e = .attributeError msg := by
  cases j with
  | obj fields => cases h
  | _ =>
    cases h
    exact ⟨rfl, _, rfl⟩

theorem ltInt_error {j : PyJson} {now : Int} {e : PyErr} (h : j.ltInt now = .error e) :
    j.isNumber = false ∧ ∃ msg, e = .typeError msg := by
  cases j with
  | float x => cases x <;> cases h
  | bool | int => cases h
  | _ =>
    cases h
    exact ⟨rfl, _, rfl⟩

theorem ltInt_ok {j : PyJson} {now : Int} {b : Bool} (h : j.ltInt now = .ok b) :
    j.isNumber = true := by
  cases j with
  | float | bool | int => rfl
  | _ => cases h

end PyJson

namespace SessionJWT

variable (py : Py) (codes : PyCodes) (jwt : SessionJWT) (token : PyStr)

/-! ## How far a token gets -/

/-- The token has three parts, the first of which decodes to a JSON value. -/
structure Headed (head payload sig : PyStr) (header : PyJson) : Prop where
  parts : token.splitOn (.char '.') = [head, payload, sig]
  decodes : (b64dCodes head).bind codes.loads = some header

/-- The header is an object that names the algorithm. -/
structure Supported (head payload sig : PyStr) : Prop where
  headed : ∃ header, Headed codes token head payload sig header ∧
    ∃ alg, header.get "alg" .null = .ok alg ∧ alg.isStr (.ofString "HS256") = true

/-- The token carries the signature of its first two parts, and the second decodes
to a JSON value. -/
structure Authentic (data : PyJson) : Prop where
  signed : ∃ head payload sig body, Supported codes token head payload sig ∧
    PyStr.encode (head ++ .char '.' :: payload) = some body ∧
    (b64e (py.hmacSha256 (utf8 jwt.secret) body)).map .char = sig ∧
    (b64dCodes payload).bind codes.loads = some data

/-- The failures that are not turned into a `JWTError`, at the reading `now` of
`int(time.time())`. -/
inductive Escape (withStore : Bool) (sessionId scope : PyStr) (now : Int) : Prop where
  /-- The header is JSON, and no object. -/
  | header {head payload sig : PyStr} {header : PyJson}
      (headed : Headed codes token head payload sig header) (other : header.isObj = false)
  /-- The first two parts have a lone surrogate. -/
  | encoding {head payload sig : PyStr} (supported : Supported codes token head payload sig)
      (surrogate : PyStr.encode (head ++ .char '.' :: payload) = none)
  /-- The signature has a character that is not ASCII. -/
  | signature {head payload sig : PyStr} (supported : Supported codes token head payload sig)
      (encoded : (PyStr.encode (head ++ .char '.' :: payload)).isSome = true)
      (other : sig.isAscii = false)
  /-- The payload is authentic JSON, and no object. -/
  | payload {data : PyJson} (authentic : Authentic py codes jwt token data)
      (other : data.isObj = false)
  /-- The payload is authentic, and its expiry no number. -/
  | expiry {data exp : PyJson} (authentic : Authentic py codes jwt token data)
      (found : data.get "exp" (.int 0) = .ok exp) (other : exp.isNumber = false)
  /-- The claims are good, and their id is nothing that `sqlite3` binds. -/
  | jti {data jti : PyJson} (store : withStore = true)
      (authentic : Authentic py codes jwt token data)
      (good : judgeCodes codes data now sessionId scope = .ok ())
      (found : data.get "jti" .null = .ok jti) (truthy : jti.truthy = true)
      (other : jti.binds = false)

variable {py codes jwt token} {head payload sig : PyStr} {header data : PyJson}

/-! ## Reading -/

theorem isAscii_chars (cs : List Char) (h : (cs.all fun c => c.toNat < 128) = true) :
    PyStr.isAscii (cs.map .char) = true := by
  unfold PyStr.isAscii
  rw [List.all_map]
  exact h

theorem Headed.readCodes_other (h : Headed codes token head payload sig header)
    (hother : header.isObj = false) :
    ∃ msg, readCodes py codes jwt token = .error (.attributeError msg) := by
  unfold readCodes
  simp only [h.parts, h.decodes]
  cases hget : header.get "alg" .null with
  | ok v => exact absurd ((PyJson.get_isObj _ _).mp ⟨v, hget⟩) (by simp [hother])
  | error e =>
    obtain ⟨-, msg, rfl⟩ := PyJson.get_error hget
    exact ⟨msg, rfl⟩

theorem Supported.readCodes_encoding (h : Supported codes token head payload sig)
    (hnone : PyStr.encode (head ++ .char '.' :: payload) = none) :
    ∃ msg, readCodes py codes jwt token = .error (.valueError msg) := by
  obtain ⟨header, hheaded, alg, halg, hname⟩ := h.headed
  unfold readCodes
  simp only [hheaded.parts, hheaded.decodes, halg, hname, hnone, if_true]
  exact ⟨_, rfl⟩

theorem Supported.readCodes_signature (h : Supported codes token head payload sig)
    (hsome : (PyStr.encode (head ++ .char '.' :: payload)).isSome = true)
    (hother : sig.isAscii = false) :
    ∃ msg, readCodes py codes jwt token = .error (.typeError msg) := by
  obtain ⟨header, hheaded, alg, halg, hname⟩ := h.headed
  obtain ⟨body, hbody⟩ := Option.isSome_iff_exists.mp hsome
  unfold readCodes
  simp only [hheaded.parts, hheaded.decodes, halg, hname, hbody, hother, if_true]
  exact ⟨_, rfl⟩

theorem Authentic.readCodes_eq (h : Authentic py codes jwt token data) :
    readCodes py codes jwt token = .ok data := by
  obtain ⟨head, payload, sig, body, hsupported, hbody, rfl, hdata⟩ := h.signed
  obtain ⟨header, hheaded, alg, halg, hname⟩ := hsupported.headed
  unfold readCodes
  simp only [hheaded.parts, hheaded.decodes, halg, hname, hbody, hdata, if_true,
    isAscii_chars _ (b64e_ascii _)]

/-- What is read is authentic. -/
theorem authentic_of_readCodes (h : readCodes py codes jwt token = .ok data) :
    Authentic py codes jwt token data := by
  unfold readCodes at h
  split at h
  · rename_i head payload sig hparts
    split at h
    · cases h
    rename_i header hdecodes
    split at h
    · cases h
    rename_i alg halg
    split at h
    · rename_i hname
      have hsupported : Supported codes token head payload sig :=
        ⟨header, ⟨hparts, hdecodes⟩, alg, halg, hname⟩
      split at h
      · cases h
      rename_i body hbody
      split at h
      · split at h
        · rename_i hsig
          split at h
          · cases h
          rename_i data' hdata
          cases h
          exact ⟨head, payload, sig, body, hsupported, hbody, hsig, hdata⟩
        · cases h
      · cases h
    · cases h
  · cases h

/-- What is not read raises a `JWTError`, or escapes. -/
theorem readCodes_error {e : PyErr} {withStore : Bool} {sessionId scope : PyStr} {now : Int}
    (h : readCodes py codes jwt token = .error e) :
    (∃ msg, e = .jwtError msg) ∨ Escape py codes jwt token withStore sessionId scope now := by
  unfold readCodes at h
  split at h
  · rename_i head payload sig hparts
    split at h
    · cases h
      exact .inl ⟨_, rfl⟩
    rename_i header hdecodes
    split at h
    · rename_i hget
      exact .inr (.header ⟨hparts, hdecodes⟩ (PyJson.get_error hget).1)
    rename_i alg halg
    split at h
    · rename_i hname
      have hsupported : Supported codes token head payload sig :=
        ⟨header, ⟨hparts, hdecodes⟩, alg, halg, hname⟩
      split at h
      · rename_i hbody
        exact .inr (.encoding hsupported hbody)
      rename_i body hbody
      split at h
      · split at h
        · split at h
          · cases h
            exact .inl ⟨_, rfl⟩
          · cases h
        · cases h
          exact .inl ⟨_, rfl⟩
      · rename_i hascii
        exact .inr (.signature hsupported (by rw [hbody]; rfl) (by simpa using hascii))
    · cases h
      exact .inl ⟨_, rfl⟩
  · cases h
    exact .inl ⟨_, rfl⟩

/-! ## Judging -/

theorem judgeCodes_error {e : PyErr} {withStore : Bool} {sessionId scope : PyStr} {now : Int}
    (hdata : Authentic py codes jwt token data)
    (h : judgeCodes codes data now sessionId scope = .error e) :
    (∃ msg, e = .jwtError msg) ∨ Escape py codes jwt token withStore sessionId scope now := by
  unfold judgeCodes at h
  rcases error_of_bind h with h | ⟨exp, hexp, h⟩
  · exact .inr (.payload hdata (PyJson.get_error h).1)
  have hobj := (PyJson.get_isObj _ _).mp ⟨exp, hexp⟩
  rcases error_of_bind h with h | ⟨expired, hexpired, h⟩
  · exact .inr (.expiry hdata hexp (PyJson.ltInt_error h).1)
  refine .inl ?_
  cases expired with
  | true =>
    cases h
    exact ⟨_, rfl⟩
  | false =>
    simp only [Bool.false_eq_true, if_false] at h
    rcases error_of_bind h with h | ⟨sid, hsid, h⟩
    · exact absurd hobj (by simp [(PyJson.get_error h).1])
    split at h
    · rcases error_of_bind h with h | ⟨scopes, hscopes, h⟩
      · exact absurd hobj (by simp [(PyJson.get_error h).1])
      rcases error_of_bind h with h | ⟨scopeOrNone, hscope, h⟩
      · exact absurd hobj (by simp [(PyJson.get_error h).1])
      split at h
      · cases h
      · cases h
        exact ⟨_, rfl⟩
    · cases h
      exact ⟨_, rfl⟩

theorem judgeCodes_payload {sessionId scope : PyStr} {now : Int} (hother : data.isObj = false) :
    ∃ msg, judgeCodes codes data now sessionId scope = .error (.attributeError msg) := by
  unfold judgeCodes
  cases hget : data.get "exp" (.int 0) with
  | ok v => exact absurd ((PyJson.get_isObj _ _).mp ⟨v, hget⟩) (by simp [hother])
  | error e =>
    obtain ⟨-, msg, rfl⟩ := PyJson.get_error hget
    exact ⟨msg, rfl⟩

theorem judgeCodes_expiry {exp : PyJson} {sessionId scope : PyStr} {now : Int}
    (hexp : data.get "exp" (.int 0) = .ok exp) (hother : exp.isNumber = false) :
    ∃ msg, judgeCodes codes data now sessionId scope = .error (.typeError msg) := by
  unfold judgeCodes
  rw [hexp]
  cases hlt : exp.ltInt now with
  | ok b => exact absurd (PyJson.ltInt_ok hlt) (by simp [hother])
  | error e =>
    obtain ⟨-, msg, rfl⟩ := PyJson.ltInt_error hlt
    exact ⟨msg, by simp [bind, Except.bind, hlt]⟩

/-- The id of good claims is bound where it can be. -/
theorem jtiCodes_error {jti : PyJson} {e : PyErr} (hjti : data.get "jti" .null = .ok jti)
    (h : jtiCodes codes data = .error e) :
    jti.truthy = true ∧ jti.binds = false ∧ ∀ msg, e ≠ .jwtError msg := by
  unfold jtiCodes at h
  rw [hjti] at h
  change (if jti.truthy then _ else _) = _ at h
  split at h
  · rename_i htruthy
    refine ⟨htruthy, ?_⟩
    cases jti with
    | str s =>
      dsimp only at h
      split at h
      · cases h
      · rename_i hchars
        cases h
        exact ⟨by simp [PyJson.binds, hchars], fun _ h => nomatch h⟩
    | int n =>
      dsimp only at h
      split at h
      · cases h
      · rename_i hfits
        cases h
        exact ⟨by simpa [PyJson.binds] using hfits, fun _ h => nomatch h⟩
    | arr | obj =>
      cases h
      exact ⟨rfl, fun _ h => nomatch h⟩
    | null => cases htruthy
    | bool | float => cases h
  · cases h

theorem jtiCodes_ok {jti : PyJson} {key : Option String} (hjti : data.get "jti" .null = .ok jti)
    (h : jtiCodes codes data = .ok key) : ¬ (jti.truthy = true ∧ jti.binds = false) := by
  rintro ⟨htruthy, hbinds⟩
  unfold jtiCodes at h
  rw [hjti] at h
  change (if jti.truthy then _ else _) = _ at h
  rw [if_pos htruthy] at h
  cases jti with
  | str s =>
    simp only [PyJson.binds] at hbinds
    cases hchars : s.chars with
    | none =>
      simp only [hchars] at h
      cases h
    | some cs => simp [hchars] at hbinds
  | int n =>
    simp only [PyJson.binds] at hbinds
    simp only [hbinds] at h
    cases h
  | arr | obj => cases h
  | null | bool | float => cases hbinds

variable {T : Type} [Field T] [LinearOrder T] [IsStrictOrderedRing T] [FloorRing T]

/-- What `verify` returns, step by step. -/
theorem run_verifyCodes (withStore : Bool) (token sessionId scope : PyStr) (w : World T) :
    ((verifyCodes py codes jwt withStore token sessionId scope).run (exec py) w).1 =
      (readCodes py codes jwt token).bind fun data =>
        (judgeCodes codes data (truncate w.clock) sessionId scope).bind fun _ =>
          if withStore then
            (jtiCodes codes data).bind fun key =>
              if key.any fun jti => (w.store.isTokenRevoked w.clock jti).1 then
                .error (.jwtError "token revoked")
              else .ok data
          else .ok data := by
  have htime : (call (.time .verify)).run (exec py) w = (.ok w.clock, w) := rfl
  unfold verifyCodes
  simp only [Prog.bind_eq]
  cases readCodes py codes jwt token with
  | error e => rfl
  | ok data =>
    rw [Prog.run_bind_ok _ (Prog.run_ofExcept _ _ w), Prog.run_bind_ok _ htime]
    show _ = (judgeCodes codes data (truncate w.clock) sessionId scope).bind _
    cases judgeCodes codes data (truncate w.clock) sessionId scope with
    | error e => rfl
    | ok _ =>
      rw [Prog.run_bind_ok _ (Prog.run_ofExcept _ _ w)]
      cases withStore with
      | false => rfl
      | true =>
        show (Prog.run (exec py) ((Prog.ofExcept (jtiCodes codes data)).bind _) w).1 =
          (jtiCodes codes data).bind _
        rcases jtiCodes codes data with e | _ | jti
        · rfl
        · rfl
        · rw [Prog.run_bind_ok _ (Prog.run_ofExcept _ _ w)]
          have hrevoked : (call (.isTokenRevoked jti)).run (exec py) w =
              (.ok (w.store.isTokenRevoked w.clock jti).1,
                { w with store := (w.store.isTokenRevoked w.clock jti).2 }) := rfl
          dsimp only
          rw [Prog.run_bind_ok _ hrevoked]
          show _ = if (w.store.isTokenRevoked w.clock jti).1 = true then _ else _
          cases (w.store.isTokenRevoked w.clock jti).1 <;> rfl

/-- An escape raises something else than a `JWTError`. -/
theorem Escape.raises {withStore : Bool} {sessionId scope : PyStr} {w : World T}
    (h : Escape py codes jwt token withStore sessionId scope (truncate w.clock)) :
    ∃ e, ((verifyCodes py codes jwt withStore token sessionId scope).run (exec py) w).1 =
      .error e ∧ ∀ msg, e ≠ .jwtError msg := by
  rw [run_verifyCodes]
  cases h with
  | header headed other =>
    obtain ⟨msg, hread⟩ : ∃ msg, readCodes py codes jwt token = .error (.attributeError msg) :=
      headed.readCodes_other other
    rw [hread]
    exact ⟨_, rfl, fun _ h => nomatch h⟩
  | encoding supported surrogate =>
    obtain ⟨msg, hread⟩ := supported.readCodes_encoding surrogate
    rw [hread]
    exact ⟨_, rfl, fun _ h => nomatch h⟩
  | signature supported encoded other =>
    obtain ⟨msg, hread⟩ := supported.readCodes_signature encoded other
    rw [hread]
    exact ⟨_, rfl, fun _ h => nomatch h⟩
  | payload authentic other =>
    obtain ⟨msg, hjudge⟩ := judgeCodes_payload other
    rw [authentic.readCodes_eq]
    show ∃ e, (judgeCodes _ _ _ _ _).bind _ = _ ∧ _
    rw [hjudge]
    exact ⟨_, rfl, fun _ h => nomatch h⟩
  | expiry authentic found other =>
    obtain ⟨msg, hjudge⟩ := judgeCodes_expiry found other
    rw [authentic.readCodes_eq]
    show ∃ e, (judgeCodes _ _ _ _ _).bind _ = _ ∧ _
    rw [hjudge]
    exact ⟨_, rfl, fun _ h => nomatch h⟩
  | jti store authentic good found truthy other =>
    rw [authentic.readCodes_eq]
    show ∃ e, (judgeCodes _ _ _ _ _).bind _ = _ ∧ _
    rw [good, store]
    cases hkey : jtiCodes codes _ with
    | ok key => exact absurd ⟨truthy, other⟩ (jtiCodes_ok found hkey)
    | error e => exact ⟨e, rfl, (jtiCodes_error found hkey).2.2⟩

/-- What is raised is a `JWTError`, or comes from an escape. -/
theorem escape_of_raises {withStore : Bool} {sessionId scope : PyStr} {w : World T} {e : PyErr}
    (h : ((verifyCodes py codes jwt withStore token sessionId scope).run (exec py) w).1 =
      .error e) :
    (∃ msg, e = .jwtError msg) ∨
      Escape py codes jwt token withStore sessionId scope (truncate w.clock) := by
  rw [run_verifyCodes] at h
  rcases error_of_bind h with h | ⟨data, hread, h⟩
  · exact readCodes_error h
  have hdata := authentic_of_readCodes hread
  rcases error_of_bind h with h | ⟨_, hgood, h⟩
  · exact judgeCodes_error hdata h
  split at h
  · rename_i hstore
    rcases error_of_bind h with h | ⟨key, hkey, h⟩
    · cases hget : data.get "jti" .null with
      | error e' =>
        obtain ⟨msg, hjudge⟩ := judgeCodes_payload (PyJson.get_error hget).1
        cases hjudge.symm.trans hgood
      | ok jti =>
        obtain ⟨htruthy, hbinds, -⟩ := jtiCodes_error hget h
        exact .inr (.jti hstore hdata hgood hget htruthy hbinds)
    · split at h
      · cases h
        exact .inl ⟨_, rfl⟩
      · cases h
  · cases h

/-- **Verification fails closed with one error** exactly on the inputs that are no escape. -/
theorem verify_closed_iff (py : Py) (codes : PyCodes) (jwt : SessionJWT) (withStore : Bool)
    (token sessionId scope : PyStr) (w : World T) :
    (∀ e, ((verifyCodes py codes jwt withStore token sessionId scope).run (exec py) w).1 =
        .error e → ∃ msg, e = .jwtError msg) ↔
      ¬ Escape py codes jwt token withStore sessionId scope (truncate w.clock) := by
  constructor
  · intro h hescape
    obtain ⟨e, hraises, hne⟩ := hescape.raises
    obtain ⟨msg, rfl⟩ := h e hraises
    exact hne msg rfl
  · intro h e hraises
    exact (escape_of_raises hraises).resolve_right h

/-- A header that is a list is an escape, a text without dots is none. -/
theorem verify_closed_iff_sample :
    Escape Py.sample Sample.codes ⟨"k"⟩ (.ofString "W10..") false (.ofString "s")
        (.ofString "tool") (truncate (0 : ℚ)) ∧
      ¬ Escape Py.sample Sample.codes ⟨"k"⟩ (.ofString "W10") false (.ofString "s")
        (.ofString "tool") (truncate (0 : ℚ)) := by
  have hclosed := fun token => verify_closed_iff Py.sample Sample.codes ⟨"k"⟩ false
    (.ofString token) (.ofString "s") (.ofString "tool") (World.init (0 : ℚ) Sample.files)
  constructor
  · by_contra hescape
    obtain ⟨msg, hmsg⟩ := (hclosed "W10..").mpr hescape
      (.attributeError "'list' object has no attribute 'get'") (by with_unfolding_all rfl)
    cases hmsg
  · refine (hclosed "W10").mp fun e hraises => ⟨"malformed token", ?_⟩
    refine Except.error.inj (hraises.symm.trans ?_)
    with_unfolding_all rfl

/-- A token whose header is an empty list, and nothing else. -/
theorem listed_header_escapes :
    ((verifyCodes Py.sample Sample.codes ⟨"k"⟩ false (.ofString "W10..") (.ofString "s")
      (.ofString "tool")).run (exec Py.sample) (World.init (0 : ℚ) Sample.files)).1 =
        .error (.attributeError "'list' object has no attribute 'get'") := by
  with_unfolding_all rfl

end SessionJWT

end Nadi
