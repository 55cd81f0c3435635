import Mathlib.Data.Rat.Defs

/-!
# What the program takes from Python

- `PyErr`: the exceptions the modelled code raises or lets through.
- `Json`: the values a JSON column or a request body holds. A `dict` is the list
  of its items in key order: Python compares dicts without regard to order, and
  `Store._json` writes them with `sort_keys=True`.
- `Py`: the parts of the standard library and of the machine whose result the
  source does not determine (random ids, the MAC, the JSON text codec, Unicode
  tables). Every theorem holds for all of them.
- `Files`: what the sandbox tools can see of the file system.
-/

namespace Nadi

/-- Exceptions, by class and message. -/
inductive PyErr where
  | valueError (msg : String)
  | runtimeError (msg : String)
  | keyError (msg : String)
  | attributeError (msg : String)
  | typeError (msg : String)
  | osError (msg : String)
  | integrityError (msg : String)
  | sqliteError (msg : String)
  | overflowError (msg : String)
  | jwtError (msg : String)
  deriving DecidableEq, Repr

/-- A computation that returns has returned from its first part. -/
theorem eq_ok_of_bind {α β : Type} {x : Except PyErr α} {f : α → Except PyErr β} {b : β}
    (h : x >>= f = .ok b) : ∃ a, x = .ok a ∧ f a = .ok b := by
  cases x with
  | error e => cases h
  | ok a => exact ⟨a, rfl, h⟩

theorem error_of_bind {α β : Type} {x : Except PyErr α} {f : α → Except PyErr β} {e : PyErr}
    (h : x >>= f = .error e) : x = .error e ∨ ∃ a, x = .ok a ∧ f a = .error e := by
  cases x with
  | error e' =>
    cases h
    exact .inl rfl
  | ok a => exact .inr ⟨a, rfl, h⟩

theorem exists_ok_bind {α β : Type} {x : Except PyErr α} {f : α → Except PyErr β} :
    (∃ b, x >>= f = .ok b) ↔ ∃ a, x = .ok a ∧ ∃ b, f a = .ok b := by
  constructor
  · rintro ⟨b, h⟩
    obtain ⟨a, hx, hf⟩ := eq_ok_of_bind h
    exact ⟨a, hx, b, hf⟩
  · rintro ⟨a, rfl, b, hf⟩
    exact ⟨b, hf⟩

/-- JSON values. A float is the rational number it denotes. -/
inductive Json where
  | null
  | bool (b : Bool)
  | int (n : Int)
  | float (q : ℚ)
  | str (s : String)
  | arr (xs : List Json)
  | obj (fields : List (String × Json))

namespace Json

/-- `{}`. -/
def empty : Json := .obj []

/-- Python truthiness. -/
def truthy : Json → Bool
  | .null => false
  | .bool b => b
  | .int n => n != 0
  | .float q => q != 0
  | .str s => s != ""
  | .arr xs => !xs.isEmpty
  | .obj fields => !fields.isEmpty

/-- `value or {}`. -/
def orEmpty (j : Json) : Json := if j.truthy then j else empty

@[simp] theorem orEmpty_orEmpty (j : Json) : j.orEmpty.orEmpty = j.orEmpty := by
  unfold orEmpty
  by_cases h : j.truthy
  · rw [if_pos h, if_pos h]
  · rw [if_neg h]
    rfl

/-- `type(value).__name__`. -/
def typeName : Json → String
  | .null => "NoneType"
  | .bool _ => "bool"
  | .int _ => "int"
  | .float _ => "float"
  | .str _ => "str"
  | .arr _ => "list"
  | .obj _ => "dict"

/-- `value.get(key, default)`, which only a dict has. -/
def get (j : Json) (key : String) (default : Json) : Except PyErr Json :=
  match j with
  | .obj fields => .ok ((fields.lookup key).getD default)
  | j => .error (.attributeError ("'" ++ j.typeName ++ "' object has no attribute 'get'"))

/-- Whether `value` is a dict. -/
def isObj : Json → Bool
  | .obj _ => true
  | _ => false

theorem orEmpty_isObj {j : Json} (h : j.isObj = true) : j.orEmpty.isObj = true := by
  unfold orEmpty
  split
  · exact h
  · rfl

/-- A dict stays what it is. -/
theorem orEmpty_of_isObj {j : Json} (h : j.isObj = true) : j.orEmpty = j := by
  cases j with
  | obj fields => cases fields <;> rfl
  | _ => cases h

theorem get_of_isObj {j : Json} (h : j.isObj = true) (key : String) (default : Json) :
    ∃ v, j.get key default = .ok v := by
  cases j with
  | obj fields => exact ⟨_, rfl⟩
  | _ => cases h

end Json

/-- The call sites of `uuid.uuid4()`. Splitting the one random stream by site
loses nothing: only that drawn ids differ from one another is ever used. -/
inductive IdSite where
  | session
  | claimToken
  | cellHost
  | sandboxHost
  | leaseToken
  | channel
  | anonymous
  | jti
  deriving DecidableEq, Repr

/-- Values that `json` writes and reads back unchanged without more ado: an
object of strings and integers. -/
def Json.isFlat : Json → Bool
  | .obj fields => fields.all fun f =>
      match f.2 with
      | .str _ => true
      | .int _ => true
      | _ => false
  | _ => false

/-- What the source does not determine. -/
structure Py where
  /-- The `n`-th id drawn at a site. -/
  uuid4 : IdSite → Nat → String
  uuid4_inj : ∀ {s s' n n'}, uuid4 s n = uuid4 s' n' → s = s' ∧ n = n'
  uuid4_ne_empty : ∀ s n, uuid4 s n ≠ ""
  /-- `hmac.new(key, msg, hashlib.sha256).digest()`. -/
  hmacSha256 : List UInt8 → List UInt8 → List UInt8
  /-- `json.dumps(value, separators=(",", ":")).encode()`. -/
  dumps : Json → List UInt8
  /-- `json.loads(raw)`; `none` where it raises. -/
  loads : List UInt8 → Option Json
  loads_dumps : ∀ {j : Json}, j.isFlat = true → loads (dumps j) = some j
  /-- `str.isprintable` for one character. -/
  printable : Char → Bool
  /-- `str.upper`. -/
  upper : String → String
  /-- `repr` of a float. -/
  reprFloat : ℚ → String

/-! ## `str` and `repr` -/

/-- A hexadecimal digit. -/
def hexDigit (n : Nat) : Char :=
  if n < 10 then Char.ofNat (48 + n) else Char.ofNat (87 + n)

/-- The last `width` hexadecimal digits of `n`. -/
def hex : (width : Nat) → Nat → List Char
  | 0, _ => []
  | w + 1, n => hex w (n / 16) ++ [hexDigit (n % 16)]

/-- One character inside the `repr` of a string quoted by `quote`. -/
def reprChar (py : Py) (quote c : Char) : List Char :=
  if c = quote ∨ c = '\\' then ['\\', c]
  else if c = '\n' then ['\\', 'n']
  else if c = '\r' then ['\\', 'r']
  else if c = '\t' then ['\\', 't']
  else if c.toNat < 32 ∨ c.toNat = 127 then ['\\', 'x'] ++ hex 2 c.toNat
  else if c.toNat < 127 ∨ py.printable c then [c]
  else if c.toNat < 256 then ['\\', 'x'] ++ hex 2 c.toNat
  else if c.toNat < 65536 then ['\\', 'u'] ++ hex 4 c.toNat
  else ['\\', 'U'] ++ hex 8 c.toNat

/-- `repr(s)`: single quotes unless the text has one and no double quote. -/
def reprStr (py : Py) (s : String) : String :=
  let quote := if '\'' ∈ s.toList ∧ '"' ∉ s.toList then '"' else '\''
  String.ofList ([quote] ++ s.toList.flatMap (reprChar py quote) ++ [quote])

mutual

/-- `repr(value)`. -/
def Json.repr (py : Py) : Json → String
  | .null => "None"
  | .bool b => if b then "True" else "False"
  | .int n => toString n
  | .float q => py.reprFloat q
  | .str s => reprStr py s
  | .arr xs => "[" ++ Json.reprElems py xs ++ "]"
  | .obj fields => "\x7b" ++ Json.reprFields py fields ++ "\x7d"

/-- The elements of a list, separated by commas. -/
def Json.reprElems (py : Py) : List Json → String
  | [] => ""
  | [x] => x.repr py
  | x :: y :: rest => x.repr py ++ ", " ++ Json.reprElems py (y :: rest)

/-- The items of a dict, separated by commas. -/
def Json.reprFields (py : Py) : List (String × Json) → String
  | [] => ""
  | [(k, v)] => reprStr py k ++ ": " ++ v.repr py
  | (k, v) :: f :: rest =>
    reprStr py k ++ ": " ++ v.repr py ++ ", " ++ Json.reprFields py (f :: rest)

end

/-- `str(value)`. -/
def Json.pyStr (py : Py) : Json → String
  | .str s => s
  | j => j.repr py

/-- `str.isspace` for one character. -/
def isSpace (c : Char) : Bool :=
  let n := c.toNat
  (9 ≤ n ∧ n ≤ 13) ∨ (28 ≤ n ∧ n ≤ 32) ∨ n = 0x85 ∨ n = 0xa0 ∨ n = 0x1680 ∨
    (0x2000 ≤ n ∧ n ≤ 0x200a) ∨ n = 0x2028 ∨ n = 0x2029 ∨ n = 0x202f ∨ n = 0x205f ∨ n = 0x3000

/-- `text.split()`: the maximal runs of characters that are not white space. -/
def splitWords (s : String) : List String :=
  ((s.toList.splitOnP isSpace).filter fun w => !w.isEmpty).map String.ofList

/-- `text.encode()`. -/
def utf8 (s : String) : List UInt8 := s.toUTF8.data.toList

/-- The file system as a sandbox sees it. A resolved path is the list of its
components. -/
structure Files where
  /-- `(root / rel).resolve()`. -/
  resolve : List String → String → Except PyErr (List String)
  /-- `path.is_dir()`. -/
  isDir : List String → Except PyErr Bool
  /-- The names in `path.iterdir()`, in directory order. -/
  iterdir : List String → Except PyErr (List String)

end Nadi
