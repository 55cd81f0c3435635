import Nadi.Data.Base64Url
import Nadi.Model.Python
import Mathlib.Algebra.Order.Field.Basic
import Mathlib.Algebra.Order.Floor.Ring

/-!
# `nadi/security.py`: session tokens

The wire format of `SessionJWT`: three dot-separated base64url parts, the last
of which authenticates the first two. `sign` and the two halves of `verify`
(reading a token, judging its claims) are pure; the clock and the revocation
table join them in `Nadi.Model.Programs`.

`read_sign` and `judge_claims` are what the rest of the development uses of
this module: a signed token reads back as the claims it was signed with, and
claims are judged by expiry, session and scope in that order.
-/

namespace Nadi

/-- `_MAX_TTL_SECONDS`. -/
def maxTtlSeconds : Int := 86400

/-- `_b64e`. -/
def b64e (raw : List UInt8) : List Char := Data.Base64Url.rstrip (Data.Base64Url.encode raw)

/-- `_b64d`; `none` where it raises. -/
def b64d (data : List Char) : Option (List UInt8) :=
  Data.Base64Url.decode (Data.Base64Url.pad data)

/-- Stripping and recomputing the padding is the identity on what was encoded. -/
theorem b64d_b64e (raw : List UInt8) : b64d (b64e raw) = some raw := by
  unfold b64d b64e
  rw [Data.Base64Url.pad_rstrip_encode, Data.Base64Url.decode_encode]

theorem dot_not_mem_b64e (raw : List UInt8) : '.' ∉ b64e raw :=
  fun h => (Data.Base64Url.rstrip_encode raw '.' h).2 rfl

/-- `int(time.time())`: truncation towards zero. -/
def truncate {T : Type} [Field T] [LinearOrder T] [IsStrictOrderedRing T] [FloorRing T]
    (t : T) : Int :=
  if 0 ≤ t then ⌊t⌋ else ⌈t⌉

section Truncate

variable {T : Type} [Field T] [LinearOrder T] [IsStrictOrderedRing T] [FloorRing T]

theorem truncate_mono {s t : T} (h : s ≤ t) : truncate s ≤ truncate t := by
  unfold truncate
  split
  · rename_i hs
    rw [if_pos (hs.trans h)]
    exact Int.floor_le_floor h
  · rename_i hs
    split
    · rename_i ht
      exact (Int.ceil_le.mpr (by simpa using (not_le.mp hs).le)).trans (Int.floor_nonneg.mpr ht)
    · exact Int.ceil_le_ceil h

/-- Truncation gains at most as many seconds as pass. -/
theorem truncate_add_le (t : T) (n : ℕ) : truncate (t + n) ≤ truncate t + n := by
  unfold truncate
  by_cases ht : 0 ≤ t
  · rw [if_pos (add_nonneg ht (Nat.cast_nonneg n)), if_pos ht, Int.floor_add_natCast]
  · rw [if_neg ht]
    split
    · rw [Int.floor_add_natCast]
      exact Int.add_le_add_right (Int.floor_le_ceil t) _
    · rw [Int.ceil_add_natCast]

end Truncate

/-- An object that signs and verifies with one secret. -/
structure SessionJWT where
  secret : String
  deriving DecidableEq

namespace SessionJWT

/-- The header of every signed token. -/
def header : Json := .obj [("alg", .str "HS256"), ("typ", .str "JWT")]

/-- The payload of a signed token. -/
def claims (subject sessionId scope : String) (exp : Int) (jti : String) : Json :=
  .obj [("sub", .str subject), ("sid", .str sessionId), ("scope", .str scope),
    ("exp", .int exp), ("jti", .str jti)]

/-- The expiry `sign` gives a token at the reading `now`. -/
def expiry (now : Int) (ttlSeconds : Int) : Int := now + min ttlSeconds maxTtlSeconds

/-- The signature part over the first two parts. -/
def signature (py : Py) (jwt : SessionJWT) (head payload : List Char) : List Char :=
  b64e (py.hmacSha256 (utf8 jwt.secret) (utf8 (String.ofList (head ++ '.' :: payload))))

/-- security.py:34–43, at the reading `now` of `int(time.time())`. -/
def sign (py : Py) (jwt : SessionJWT) (now : Int) (jti sessionId scope : String)
    (ttlSeconds : Int) (subject : String) : String :=
  let head := b64e (py.dumps header)
  let payload := b64e (py.dumps
    (claims subject sessionId scope (expiry now ttlSeconds) jti))
  String.ofList (['.'].intercalate [head, payload, signature py jwt head payload])

/-- `value == text` for a JSON value and a string. -/
def isStr (j : Json) (text : String) : Bool :=
  match j with
  | .str s => s == text
  | _ => false

/-- security.py:45–69: from the text of a token to its payload. -/
def read (py : Py) (jwt : SessionJWT) (token : String) : Except PyErr Json :=
  match token.toList.splitOn '.' with
  | [head, payload, sig] =>
    match (b64d head).bind py.loads with
    | none => .error (.jwtError "malformed header")
    | some headerData =>
      match headerData.get "alg" .null with
      | .error e => .error e
      | .ok alg =>
        if isStr alg "HS256" then
          if sig.all fun c => c.toNat < 128 then
            if signature py jwt head payload = sig then
              match (b64d payload).bind py.loads with
              | none => .error (.jwtError "malformed payload")
              | some data => .ok data
            else .error (.jwtError "bad signature")
          else
            .error (.typeError "comparing strings with non-ASCII characters is not supported")
        else .error (.jwtError "unsupported algorithm")
  | _ => .error (.jwtError "malformed token")

/-- `value < now` for a JSON value and an integer. -/
def ltInt (j : Json) (now : Int) : Except PyErr Bool :=
  match j with
  | .int n => .ok (decide (n < now))
  | .float q => .ok (decide (q < now))
  | .bool b => .ok (decide ((if b then 1 else 0) < now))
  | j => .error (.typeError ("'<' not supported between instances of '" ++ j.typeName ++
      "' and 'int'"))

/-- security.py:71–77, at the reading `now` of `int(time.time())`. -/
def judge (py : Py) (data : Json) (now : Int) (sessionId scope : String) :
    Except PyErr Unit :=
  match data.get "exp" (.int 0) with
  | .error e => .error e
  | .ok exp =>
    match ltInt exp now with
    | .error e => .error e
    | .ok true => .error (.jwtError "token expired")
    | .ok false =>
      match data.get "sid" .null, data.get "scope" .null, data.get "scope" (.str "") with
      | .ok sid, .ok scopeOrNone, .ok scopes =>
        if isStr sid sessionId then
          if scope ∈ splitWords (scopes.pyStr py) ∨ isStr scopeOrNone "*" then .ok ()
          else .error (.jwtError "missing scope")
        else .error (.jwtError "wrong session")
      | _, _, _ => .error (.attributeError "unreachable: 'exp' was read")

/-- Whether `sqlite3` binds the integer: it has to fit in 64 bits. -/
def fitsSqlite (n : Int) : Bool := decide (-2 ^ 63 ≤ n ∧ n < 2 ^ 63)

/-- `data.get("jti")`, as the key `is_token_revoked` looks up: `none` for a
value that is not truthy, and what `sqlite3` binds to a TEXT column otherwise. -/
def jtiOf (py : Py) (data : Json) : Except PyErr (Option String) :=
  match data.get "jti" .null with
  | .error e => .error e
  | .ok jti =>
    if jti.truthy then
      match jti with
      | .str s => .ok (some s)
      | .int n =>
        if fitsSqlite n then .ok (some (toString n))
        else .error (.overflowError "Python int too large to convert to SQLite INTEGER")
      | .bool _ => .ok (some "1")
      | .float q => .ok (some (py.reprFloat q))
      | j => .error (.sqliteError ("Error binding parameter 1: type '" ++ j.typeName ++
          "' is not supported"))
    else .ok none

/-! ## Signed tokens -/

variable (py : Py) (jwt : SessionJWT)

theorem b64e_ascii (raw : List UInt8) : ((b64e raw).all fun c => c.toNat < 128) = true := by
  obtain ⟨body, p, hbody, hplain, -, -⟩ := Data.Base64Url.encode_shape raw
  have hstrip : b64e raw = body := by
    unfold b64e
    rw [hbody, Data.Base64Url.rstrip_append_replicate fun c hc => (hplain c hc).1]
  rw [hstrip, List.all_eq_true]
  intro c hc
  simpa using (hplain c hc).2.2

/-- Three dot-free parts joined by dots split into these parts. -/
theorem splitOn_parts {a b c : List Char} (ha : '.' ∉ a) (hb : '.' ∉ b) (hc : '.' ∉ c) :
    (String.ofList (['.'].intercalate [a, b, c])).toList.splitOn '.' = [a, b, c] := by
  rw [String.toList_ofList]
  refine List.splitOn_intercalate '.' ?_ (List.cons_ne_nil _ _)
  intro l hl
  simp only [List.mem_cons, List.not_mem_nil, or_false] at hl
  rcases hl with rfl | rfl | rfl
  · exact ha
  · exact hb
  · exact hc

/-- **Reading a signed token** gives the claims it was signed with. -/
theorem read_sign (now : Int) (jti sessionId scope : String) (ttlSeconds : Int)
    (subject : String) :
    jwt.read py (jwt.sign py now jti sessionId scope ttlSeconds subject) =
      .ok (claims subject sessionId scope (expiry now ttlSeconds) jti) := by
  have hclaims : (claims subject sessionId scope (expiry now ttlSeconds) jti).isFlat = true := rfl
  have halg : header.get "alg" .null = .ok (.str "HS256") := rfl
  have hsig : ((signature py jwt (b64e (py.dumps header)) (b64e (py.dumps
      (claims subject sessionId scope (expiry now ttlSeconds) jti)))).all
        fun c => c.toNat < 128) = true := b64e_ascii _
  have hdot : '.' ∉ signature py jwt (b64e (py.dumps header)) (b64e (py.dumps
      (claims subject sessionId scope (expiry now ttlSeconds) jti))) := dot_not_mem_b64e _
  unfold read sign
  rw [splitOn_parts (dot_not_mem_b64e _) (dot_not_mem_b64e _) hdot]
  simp only [b64d_b64e, Option.bind_some, py.loads_dumps (j := header) rfl,
    py.loads_dumps hclaims, halg, hsig, isStr, beq_self_eq_true, if_true]

/-- Claims are judged by expiry, then session, then scope. -/
theorem judge_claims (subject sid scope : String) (exp : Int) (jti : String) (now : Int)
    (sessionId wanted : String) :
    judge py (claims subject sid scope exp jti) now sessionId wanted =
      if exp < now then .error (.jwtError "token expired")
      else if sid = sessionId then
        if wanted ∈ splitWords scope ∨ scope = "*" then .ok ()
        else .error (.jwtError "missing scope")
      else .error (.jwtError "wrong session") := by
  have hexp : (claims subject sid scope exp jti).get "exp" (.int 0) = .ok (.int exp) := rfl
  have hsid : (claims subject sid scope exp jti).get "sid" .null = .ok (.str sid) := rfl
  have hscope : ∀ d, (claims subject sid scope exp jti).get "scope" d = .ok (.str scope) :=
    fun _ => rfl
  unfold judge
  by_cases h : exp < now
  · simp [hexp, ltInt, h]
  · simp [hexp, ltInt, h, hsid, hscope, isStr, Json.pyStr]

theorem jtiOf_claims (subject sid scope : String) (exp : Int) {jti : String} (h : jti ≠ "") :
    jtiOf py (claims subject sid scope exp jti) = .ok (some jti) := by
  have hjti : (claims subject sid scope exp jti).get "jti" .null = .ok (.str jti) := rfl
  simp [jtiOf, hjti, Json.truthy, h]

end SessionJWT

end Nadi
