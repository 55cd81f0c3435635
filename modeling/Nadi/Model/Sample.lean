import Nadi.Model.Python

/-!
# A machine to run the model on

`Py.sample` instantiates what the source does not determine, so that the
programs can be run on concrete inputs. Ids are numbered by site. JSON text is
replaced by a prefix code: an object of strings and integers becomes a list of
numbers, and each number a run of ones closed by a zero. Only that reading
gives back what was written is ever used of it.
-/

namespace Nadi

namespace Sample

/-! ## Numbers as bytes -/

/-- Each number as a run of ones closed by a zero. -/
def toBytes (ns : List Nat) : List UInt8 := ns.flatMap fun n => List.replicate n 1 ++ [0]

/-- Read runs of ones, `run` of which have been seen; `none` on an open run. -/
def ofBytes : List UInt8 → (run : Nat) → Option (List Nat)
  | [], run => if run = 0 then some [] else none
  | b :: bs, run =>
    if b = 0 then (ofBytes bs 0).map (run :: ·)
    else ofBytes bs (run + 1)

theorem ofBytes_run (n run : Nat) (bs : List UInt8) :
    ofBytes (List.replicate n 1 ++ bs) run = ofBytes bs (run + n) := by
  induction n generalizing run with
  | zero => rfl
  | succ n ih =>
    have hone : ofBytes (1 :: (List.replicate n 1 ++ bs)) run =
        ofBytes (List.replicate n 1 ++ bs) (run + 1) := if_neg (by decide)
    rw [List.replicate_succ, List.cons_append, hone, ih, Nat.add_assoc, Nat.add_comm 1 n]

theorem ofBytes_toBytes (ns : List Nat) : ofBytes (toBytes ns) 0 = some ns := by
  induction ns with
  | nil => rfl
  | cons n ns ih =>
    have hcons : toBytes (n :: ns) = List.replicate n 1 ++ (0 :: toBytes ns) := by
      unfold toBytes
      rw [List.flatMap_cons, List.append_assoc]
      rfl
    rw [hcons, ofBytes_run]
    unfold ofBytes
    rw [if_pos rfl, ih, Nat.zero_add]
    rfl

/-! ## Objects as numbers -/

/-- A text as its length and its characters. -/
def ofText (s : String) : List Nat := s.toList.length :: s.toList.map Char.toNat

/-- Read a text off the front. -/
def toText : List Nat → Option (String × List Nat)
  | [] => none
  | n :: ns => some (String.ofList ((ns.take n).map Char.ofNat), ns.drop n)

theorem toText_ofText (s : String) (rest : List Nat) :
    toText (ofText s ++ rest) = some (s, rest) := by
  have hchars : (s.toList.map Char.toNat).map Char.ofNat = s.toList := by
    rw [List.map_map]
    have hid : Char.ofNat ∘ Char.toNat = id := funext Char.ofNat_toNat
    rw [hid, List.map_id]
  show some (String.ofList (((s.toList.map Char.toNat ++ rest).take s.toList.length).map
    Char.ofNat), (s.toList.map Char.toNat ++ rest).drop s.toList.length) = _
  rw [List.take_left' (by simp), List.drop_left' (by simp), hchars, String.ofList_toList]

/-- A member of an object: its key, a tag, its value. -/
def ofField : String × Json → List Nat
  | (k, .str s) => ofText k ++ 0 :: ofText s
  | (k, .int (.ofNat n)) => ofText k ++ [1, n]
  | (k, .int (.negSucc n)) => ofText k ++ [2, n]
  | (k, _) => ofText k ++ [3]

/-- Read a member off the front. -/
def toField (ns : List Nat) : Option ((String × Json) × List Nat) :=
  match toText ns with
  | none => none
  | some (k, rest) =>
    match rest with
    | 0 :: rest => (toText rest).map fun p => ((k, .str p.1), p.2)
    | 1 :: n :: rest => some ((k, .int (.ofNat n)), rest)
    | 2 :: n :: rest => some ((k, .int (.negSucc n)), rest)
    | _ => none

/-- Whether a member is a string or an integer. -/
def flatField (f : String × Json) : Bool :=
  match f.2 with
  | .str _ => true
  | .int _ => true
  | _ => false

theorem toField_ofField {f : String × Json} (h : flatField f = true) (rest : List Nat) :
    toField (ofField f ++ rest) = some (f, rest) := by
  obtain ⟨k, v⟩ := f
  cases v with
  | str s =>
    unfold toField ofField
    rw [List.append_assoc, toText_ofText]
    simp only [List.cons_append, toText_ofText, Option.map_some]
  | int n =>
    unfold toField
    cases n with
    | ofNat n =>
      unfold ofField
      rw [List.append_assoc, toText_ofText]
      rfl
    | negSucc n =>
      unfold ofField
      rw [List.append_assoc, toText_ofText]
      rfl
  | null | bool | float | arr | obj => cases h

/-- Read a given number of members. -/
def toFields : Nat → List Nat → Option (List (String × Json))
  | 0, _ => some []
  | n + 1, ns =>
    match toField ns with
    | none => none
    | some (f, rest) => (toFields n rest).map (f :: ·)

theorem toFields_ofFields {fields : List (String × Json)}
    (h : fields.all flatField = true) : toFields fields.length (fields.flatMap ofField) =
      some fields := by
  induction fields with
  | nil => rfl
  | cons f fields ih =>
    rw [List.all_cons, Bool.and_eq_true] at h
    rw [List.flatMap_cons, List.length_cons]
    unfold toFields
    rw [toField_ofField h.1]
    show (toFields fields.length (fields.flatMap ofField)).map (f :: ·) = _
    rw [ih h.2]
    rfl

/-- The code of a value; values that are not flat objects have none. -/
def dumps : Json → List UInt8
  | .obj fields => toBytes (fields.length :: fields.flatMap ofField)
  | _ => []

/-- The object with a given code. -/
def loads (bs : List UInt8) : Option Json :=
  match ofBytes bs 0 with
  | some (n :: ns) => (toFields n ns).map .obj
  | _ => none

theorem loads_dumps {j : Json} (h : j.isFlat = true) : loads (dumps j) = some j := by
  cases j with
  | obj fields =>
    have hflat : fields.all flatField = true := h
    unfold loads dumps
    rw [ofBytes_toBytes]
    show (toFields fields.length (fields.flatMap ofField)).map Json.obj = _
    rw [toFields_ofFields hflat]
    rfl
  | _ => cases h

/-! ## Ids -/

/-- One letter for each site. -/
def letter : IdSite → Char
  | .session => 's'
  | .claimToken => 'k'
  | .cellHost => 'h'
  | .sandboxHost => 'b'
  | .leaseToken => 'l'
  | .channel => 'c'
  | .anonymous => 'a'
  | .jti => 'j'

/-- The `n`-th id of a site: its letter and `n` strokes. -/
def uuid4 (site : IdSite) (n : Nat) : String :=
  String.ofList (letter site :: List.replicate n '1')

theorem uuid4_inj {s s' : IdSite} {n n' : Nat} (h : uuid4 s n = uuid4 s' n') :
    s = s' ∧ n = n' := by
  have hlist := String.ofList_inj.mp h
  rw [List.cons.injEq] at hlist
  obtain ⟨hsite, hnum⟩ := hlist
  have hlen := congrArg List.length hnum
  rw [List.length_replicate, List.length_replicate] at hlen
  refine ⟨?_, hlen⟩
  cases s <;> cases s' <;> first | rfl | exact absurd hsite (by decide)

theorem uuid4_ne_empty (s : IdSite) (n : Nat) : uuid4 s n ≠ "" := by
  intro h
  have hlist : (letter s :: List.replicate n '1') = [] := String.ofList_inj.mp h
  cases hlist

/-- A file system with one empty directory. -/
def files : Files where
  resolve := fun root _ => .ok root
  isDir := fun _ => .ok true
  iterdir := fun _ => .ok []

end Sample

/-- A machine with numbered ids. -/
def Py.sample : Py where
  uuid4 := Sample.uuid4
  uuid4_inj := Sample.uuid4_inj
  uuid4_ne_empty := Sample.uuid4_ne_empty
  hmacSha256 := fun key msg => key ++ msg
  dumps := Sample.dumps
  loads := Sample.loads
  loads_dumps := Sample.loads_dumps
  printable := fun _ => true
  upper := fun s => String.ofList (s.toList.map Char.toUpper)
  reprFloat := fun q => toString q.num ++ "/" ++ toString q.den

end Nadi
