import Nadi.Model.Programs

/-!
# `SessionJWT.verify` on any Python string

A Python string is a sequence of code points and may hold lone surrogates, which
no `String` has: they come with a token from outside, or from an escape inside
its JSON. Here `security.py:45–82` is written over such strings; on tokens without
surrogates it is `SessionJWT.verify` (`verifyCodes_eq_verify`).
-/

namespace Nadi

open Effect.Prog (ofExcept)

/-- A code point of a Python string. -/
inductive CodePoint where
  | char (c : Char)
  | surrogate (n : Fin 2048)
  deriving DecidableEq, Repr

/-- `str`. -/
abbrev PyStr := List CodePoint

/-- `float`, as `json.loads` reads it. -/
inductive PyFloat where
  | finite (q : ℚ)
  | infinite (negative : Bool)
  | nan

/-- A value that `json.loads` returns. -/
inductive PyJson where
  | null
  | bool (b : Bool)
  | int (n : Int)
  | float (x : PyFloat)
  | str (s : PyStr)
  | arr (xs : List PyJson)
  | obj (fields : List (PyStr × PyJson))

/-- What Python does with such values. -/
structure PyCodes where
  /-- `json.loads(raw)`; `none` where it raises. -/
  loads : List UInt8 → Option PyJson
  /-- `repr(value)`. -/
  repr : PyJson → PyStr
  /-- The text that SQLite compares a REAL with a TEXT column as. -/
  reprFloat : PyFloat → String

namespace PyStr

/-- A text as a Python string. -/
def ofString (s : String) : PyStr := s.toList.map .char

/-- The characters of a string without lone surrogates. -/
def chars : PyStr → Option (List Char)
  | [] => some []
  | .char c :: s => (chars s).map (c :: ·)
  | .surrogate _ :: _ => none

/-- `text.encode()`; `none` where it raises. -/
def encode (s : PyStr) : Option (List UInt8) := s.chars.map fun cs => utf8 (String.ofList cs)

/-- `text.isascii()`. -/
def isAscii (s : PyStr) : Bool :=
  s.all fun
    | .char c => c.toNat < 128
    | .surrogate _ => false

/-- `text.split()`. -/
def splitWords (s : PyStr) : List PyStr :=
  (s.splitOnP fun
    | .char c => isSpace c
    | .surrogate _ => false).filter fun w => !w.isEmpty

end PyStr

namespace PyJson

/-- `type(value).__name__`. -/
def typeName : PyJson → String
  | .null => "NoneType"
  | .bool _ => "bool"
  | .int _ => "int"
  | .float _ => "float"
  | .str _ => "str"
  | .arr _ => "list"
  | .obj _ => "dict"

/-- `value.get(key, default)`, which only a dict has. -/
def get (j : PyJson) (key : String) (default : PyJson) : Except PyErr PyJson :=
  match j with
  | .obj fields => .ok ((fields.lookup (.ofString key)).getD default)
  | j => .error (.attributeError ("'" ++ j.typeName ++ "' object has no attribute 'get'"))

/-- Python truthiness. -/
def truthy : PyJson → Bool
  | .null => false
  | .bool b => b
  | .int n => n != 0
  | .float (.finite q) => q != 0
  | .float _ => true
  | .str s => !s.isEmpty
  | .arr xs => !xs.isEmpty
  | .obj fields => !fields.isEmpty

/-- `value == text` for a string. -/
def isStr (j : PyJson) (text : PyStr) : Bool :=
  match j with
  | .str s => s == text
  | _ => false

/-- `str(value)`. -/
def pyStr (codes : PyCodes) : PyJson → PyStr
  | .str s => s
  | j => codes.repr j

/-- `value < now` for an integer. -/
def ltInt (j : PyJson) (now : Int) : Except PyErr Bool :=
  match j with
  | .int n => .ok (decide (n < now))
  | .float (.finite q) => .ok (decide (q < now))
  | .float (.infinite negative) => .ok negative
  | .float .nan => .ok false
  | .bool b => .ok (decide ((if b then 1 else 0) < now))
  | j => .error (.typeError ("'<' not supported between instances of '" ++ j.typeName ++
      "' and 'int'"))

end PyJson

namespace SessionJWT

variable (py : Py) (codes : PyCodes) (jwt : SessionJWT)

/-- `_b64d`; `none` where it raises. -/
def b64dCodes (data : PyStr) : Option (List UInt8) := data.chars.bind b64d

/-- security.py:45–69. A `UnicodeEncodeError` is a `ValueError`. -/
def readCodes (token : PyStr) : Except PyErr PyJson :=
  match token.splitOn (.char '.') with
  | [head, payload, sig] =>
    match (b64dCodes head).bind codes.loads with
    | none => .error (.jwtError "malformed header")
    | some headerData =>
      match headerData.get "alg" .null with
      | .error e => .error e
      | .ok alg =>
        if alg.isStr (.ofString "HS256") then
          match PyStr.encode (head ++ .char '.' :: payload) with
          | none => .error (.valueError "'utf-8' codec can't encode: surrogates not allowed")
          | some body =>
            if PyStr.isAscii sig then
              if (b64e (py.hmacSha256 (utf8 jwt.secret) body)).map .char = sig then
                match (b64dCodes payload).bind codes.loads with
                | none => .error (.jwtError "malformed payload")
                | some data => .ok data
              else .error (.jwtError "bad signature")
            else
              .error (.typeError "comparing strings with non-ASCII characters is not supported")
        else .error (.jwtError "unsupported algorithm")
  | _ => .error (.jwtError "malformed token")

/-- security.py:71–77, at the reading `now` of `int(time.time())`. -/
def judgeCodes (data : PyJson) (now : Int) (sessionId scope : PyStr) : Except PyErr Unit := do
  let exp ← data.get "exp" (.int 0)
  if ← exp.ltInt now then .error (.jwtError "token expired")
  else
    let sid ← data.get "sid" .null
    if sid.isStr sessionId then
      let scopes ← data.get "scope" (.str [])
      let scopeOrNone ← data.get "scope" .null
      if scope ∈ (scopes.pyStr codes).splitWords ∨ scopeOrNone.isStr (.ofString "*") then .ok ()
      else .error (.jwtError "missing scope")
    else .error (.jwtError "wrong session")

/-- `data.get("jti")`, as the key `is_token_revoked` looks up. -/
def jtiCodes (data : PyJson) : Except PyErr (Option String) := do
  let jti ← data.get "jti" .null
  if jti.truthy then
    match jti with
    | .str s =>
      match s.chars with
      | some cs => return some (String.ofList cs)
      | none => .error (.valueError "'utf-8' codec can't encode: surrogates not allowed")
    | .int n =>
      if fitsSqlite n then return some (toString n)
      else .error (.overflowError "Python int too large to convert to SQLite INTEGER")
    | .bool _ => return some "1"
    | .float x => return some (codes.reprFloat x)
    | j => .error (.sqliteError ("Error binding parameter 1: type '" ++ j.typeName ++
        "' is not supported"))
  else return none

/-- security.py:45–82; `withStore` says whether a store is given. -/
def verifyCodes [Field T] [LinearOrder T] [IsStrictOrderedRing T] [FloorRing T]
    (withStore : Bool) (token sessionId scope : PyStr) : Code T PyJson := do
  let data ← ofExcept (readCodes py codes jwt token)
  let now ← call (.time .verify)
  ofExcept (judgeCodes codes data (truncate now) sessionId scope)
  if withStore then
    match ← ofExcept (jtiCodes codes data) with
    | none => return data
    | some jti =>
      if ← call (.isTokenRevoked jti) then
        .throw (.jwtError "token revoked")
      else
        return data
  else return data

end SessionJWT

/-! ## Texts without surrogates -/

section Texts

variable {py : Py} {codes : PyCodes}

theorem splitOnP_map {α β : Type} (f : α → β) (p : β → Bool) (l : List α) :
    (l.map f).splitOnP p = (l.splitOnP fun a => p (f a)).map (List.map f) := by
  induction l with
  | nil => simp [List.splitOnP_nil]
  | cons a l ih =>
    rw [List.map_cons, List.splitOnP_cons_eq_if_modifyHead, List.splitOnP_cons_eq_if_modifyHead, ih]
    cases p (f a) with
    | true => simp
    | false =>
      cases h : l.splitOnP fun a => p (f a) with
      | nil => exact absurd h (List.splitOnP_ne_nil _ l)
      | cons w ws => simp

namespace PyStr

theorem ofString_inj {s t : String} : ofString s = ofString t ↔ s = t := by
  unfold ofString
  rw [List.map_inj_right fun _ _ h => CodePoint.char.inj h, String.toList_inj]

theorem chars_map (cs : List Char) : chars (cs.map .char) = some cs := by
  induction cs with
  | nil => rfl
  | cons c cs ih => simp [chars, ih]

theorem isAscii_map (cs : List Char) : isAscii (cs.map .char) = cs.all fun c => c.toNat < 128 := by
  unfold isAscii
  rw [List.all_map]
  rfl

theorem splitWords_ofString (s : String) :
    splitWords (ofString s) = (Nadi.splitWords s).map ofString := by
  unfold splitWords Nadi.splitWords ofString
  rw [splitOnP_map, List.filter_map, List.map_map]
  have hchars : (fun s : String => s.toList.map CodePoint.char) ∘ String.ofList =
      List.map CodePoint.char := by
    funext w
    simp
  have hempty : (fun w : PyStr => !w.isEmpty) ∘ List.map CodePoint.char =
      fun w : List Char => !w.isEmpty := by
    funext w
    cases w <;> rfl
  rw [hchars, hempty]

end PyStr

mutual

/-- A JSON value without lone surrogates. -/
def PyJson.ofJson : Json → PyJson
  | .null => .null
  | .bool b => .bool b
  | .int n => .int n
  | .float q => .float (.finite q)
  | .str s => .str (.ofString s)
  | .arr xs => .arr (PyJson.ofElems xs)
  | .obj fields => .obj (PyJson.ofFields fields)

def PyJson.ofElems : List Json → List PyJson
  | [] => []
  | x :: xs => PyJson.ofJson x :: PyJson.ofElems xs

def PyJson.ofFields : List (String × Json) → List (PyStr × PyJson)
  | [] => []
  | (k, v) :: fields => (.ofString k, PyJson.ofJson v) :: PyJson.ofFields fields

end

/-- Both do the same on values without lone surrogates. -/
structure PyCodes.Extends (codes : PyCodes) (py : Py) : Prop where
  loads : ∀ raw, codes.loads raw = (py.loads raw).map PyJson.ofJson
  repr : ∀ j : Json, codes.repr (.ofJson j) = .ofString (j.repr py)
  reprFloat : ∀ q, codes.reprFloat (.finite q) = py.reprFloat q

namespace PyJson

theorem lookup_ofFields (fields : List (String × Json)) (key : String) :
    (ofFields fields).lookup (.ofString key) = (fields.lookup key).map ofJson := by
  induction fields with
  | nil => rfl
  | cons f fields ih =>
    obtain ⟨k, v⟩ := f
    rw [ofFields, List.lookup_cons, List.lookup_cons, ih]
    have hkey : (PyStr.ofString key == PyStr.ofString k) = (key == k) :=
      Bool.eq_iff_iff.mpr (by simp only [beq_iff_eq, PyStr.ofString_inj])
    rw [hkey]
    cases key == k <;> rfl

theorem get_ofJson (j default : Json) (key : String) :
    (ofJson j).get key (ofJson default) = (j.get key default).map ofJson := by
  cases j with
  | obj fields =>
    show Except.ok (((ofFields fields).lookup (.ofString key)).getD (ofJson default)) = _
    rw [lookup_ofFields]
    cases h : fields.lookup key <;> simp [Json.get, h, Except.map]
  | _ => rfl

theorem isStr_ofJson (j : Json) (text : String) :
    (ofJson j).isStr (.ofString text) = SessionJWT.isStr j text := by
  cases j with
  | str s =>
    refine Bool.eq_iff_iff.mpr ?_
    simp [isStr, ofJson, SessionJWT.isStr, PyStr.ofString_inj]
  | _ => rfl

theorem truthy_ofJson (j : Json) : (ofJson j).truthy = j.truthy := by
  cases j with
  | str s =>
    have hempty : PyStr.ofString s = [] ↔ s = "" := @PyStr.ofString_inj s ""
    refine Bool.eq_iff_iff.mpr ?_
    simp [truthy, ofJson, Json.truthy, hempty]
  | arr xs => cases xs <;> rfl
  | obj fields =>
    cases fields with
    | nil => rfl
    | cons f fields => rfl
  | _ => rfl

theorem pyStr_ofJson (h : codes.Extends py) (j : Json) :
    (ofJson j).pyStr codes = .ofString (j.pyStr py) := by
  have hrepr := h.repr j
  cases j with
  | str s => rfl
  | _ => exact hrepr

theorem ltInt_ofJson (j : Json) (now : Int) : (ofJson j).ltInt now = SessionJWT.ltInt j now := by
  cases j <;> rfl

end PyJson

namespace SessionJWT

variable (jwt : SessionJWT)

theorem b64dCodes_loads (h : codes.Extends py) (cs : List Char) :
    (b64dCodes (cs.map .char)).bind codes.loads = ((b64d cs).bind py.loads).map PyJson.ofJson := by
  unfold b64dCodes
  rw [PyStr.chars_map, Option.bind_some]
  cases b64d cs with
  | none => rfl
  | some raw => exact h.loads raw

theorem encode_map (cs : List Char) :
    PyStr.encode (cs.map .char) = some (utf8 (String.ofList cs)) := by
  unfold PyStr.encode
  rw [PyStr.chars_map]
  rfl

theorem splitOn_ofString (token : String) :
    List.splitOn (CodePoint.char '.') (PyStr.ofString token) =
      (token.toList.splitOn '.').map (List.map CodePoint.char) := by
  have hdot : (fun c => CodePoint.char c == CodePoint.char '.') = (· == '.') := by
    funext c
    exact Bool.eq_iff_iff.mpr (by simp)
  rw [List.splitOn_eq_splitOnP, List.splitOn_eq_splitOnP]
  unfold PyStr.ofString
  rw [splitOnP_map, hdot]

theorem readCodes_ofString (h : codes.Extends py) (token : String) :
    readCodes py codes jwt (.ofString token) = (read py jwt token).map PyJson.ofJson := by
  unfold readCodes read
  rw [splitOn_ofString]
  match token.toList.splitOn '.' with
  | [] => rfl
  | [_] => rfl
  | [_, _] => rfl
  | _ :: _ :: _ :: _ :: _ => rfl
  | [head, payload, sig] =>
    simp only [List.map_cons, List.map_nil, b64dCodes_loads h]
    cases (b64d head).bind py.loads with
    | none => rfl
    | some header =>
      have halg := PyJson.get_ofJson header .null "alg"
      have hbody : head.map CodePoint.char ++ .char '.' :: payload.map CodePoint.char =
          (head ++ '.' :: payload).map CodePoint.char := by simp
      have hsig : ∀ cs : List Char, cs.map CodePoint.char = sig.map CodePoint.char ↔ cs = sig :=
        fun cs => List.map_inj_right fun _ _ h => CodePoint.char.inj h
      have hmac : b64e (py.hmacSha256 (utf8 jwt.secret)
          (utf8 (String.ofList (head ++ '.' :: payload)))) = signature py jwt head payload := rfl
      simp only [PyJson.ofJson] at halg
      simp only [Option.map_some, halg]
      cases header.get "alg" .null with
      | error e => rfl
      | ok alg =>
        simp only [Except.map, PyJson.isStr_ofJson, hbody, encode_map, PyStr.isAscii_map, hsig,
          hmac]
        split
        · split
          · split
            · cases (b64d payload).bind py.loads <;> rfl
            · rfl
          · rfl
        · rfl

theorem judgeCodes_ofJson (h : codes.Extends py) (data : Json) (now : Int)
    (sessionId scope : String) :
    judgeCodes codes (.ofJson data) now (.ofString sessionId) (.ofString scope) =
      judge py data now sessionId scope := by
  have hexp := PyJson.get_ofJson data (.int 0) "exp"
  have hsid := PyJson.get_ofJson data .null "sid"
  have hscope := PyJson.get_ofJson data .null "scope"
  have hscopes := PyJson.get_ofJson data (.str "") "scope"
  have hempty : PyStr.ofString "" = [] := rfl
  simp only [PyJson.ofJson, hempty] at hexp hsid hscope hscopes
  unfold judgeCodes judge
  rw [hexp, hsid, hscope, hscopes]
  cases data with
  | obj fields =>
    have hmem : ∀ words : List String, PyStr.ofString scope ∈ words.map PyStr.ofString ↔
        scope ∈ words := fun words => by simp [PyStr.ofString_inj]
    simp only [Json.get, Except.map, bind, Except.bind, PyJson.ltInt_ofJson, PyJson.isStr_ofJson,
      PyJson.pyStr_ofJson h, PyStr.splitWords_ofString, hmem]
    cases ltInt ((fields.lookup "exp").getD (.int 0)) now with
    | error e => rfl
    | ok expired => cases expired <;> rfl
  | _ => rfl

theorem jtiCodes_ofJson (h : codes.Extends py) (data : Json) :
    jtiCodes codes (.ofJson data) = jtiOf py data := by
  have hjti := PyJson.get_ofJson data .null "jti"
  simp only [PyJson.ofJson] at hjti
  unfold jtiCodes jtiOf
  rw [hjti]
  cases data.get "jti" .null with
  | error e => rfl
  | ok jti =>
    simp only [Except.map, bind, Except.bind, PyJson.truthy_ofJson]
    split
    · cases jti with
      | str s =>
        simp only [PyJson.ofJson, PyStr.ofString, PyStr.chars_map, String.ofList_toList]
        rfl
      | float q => simp only [PyJson.ofJson, h.reprFloat]; rfl
      | _ => rfl
    · rfl

/-- **On texts without surrogates** it is `verify`. -/
theorem verifyCodes_eq_verify {T : Type} [Field T] [LinearOrder T] [IsStrictOrderedRing T]
    [FloorRing T] (h : codes.Extends py) (token sessionId scope : String) :
    (verifyCodes py codes jwt true (.ofString token) (.ofString sessionId) (.ofString scope) :
      Code T PyJson) =
    (verify py jwt token sessionId scope).bind fun data => .pure (.ofJson data) := by
  unfold verifyCodes verify
  simp only [Effect.Prog.bind_eq]
  rw [readCodes_ofString jwt h]
  cases read py jwt token with
  | error e => rfl
  | ok data =>
    simp only [Except.map, Effect.Prog.ofExcept_ok, Effect.Prog.pure_bind,
      Effect.Prog.bind_assoc, judgeCodes_ofJson h, jtiCodes_ofJson h, if_true]
    refine congrArg (Effect.Prog.bind _) (funext fun now => ?_)
    refine congrArg (Effect.Prog.bind _) (funext fun _ => ?_)
    refine congrArg (Effect.Prog.bind _) (funext fun key => ?_)
    cases key with
    | none => rfl
    | some jti =>
      show _ = (Effect.Prog.bind _ _).bind _
      rw [Effect.Prog.bind_assoc]
      refine congrArg (Effect.Prog.bind _) (funext fun revoked => ?_)
      cases revoked <;> rfl

end SessionJWT

end Texts

end Nadi
