import Mathlib.Data.List.DropRight

/-!
# Base64 with the URL-safe alphabet

`encode` writes padded base64 over `A–Z a–z 0–9 - _`. `decode` is the lenient
reader of Python's `base64.urlsafe_b64decode`: the two alphabets are both
accepted, characters outside them are skipped, and the text ends at the first
padding that completes a quantum.

- `decode_encode`: reading back what was written.
- `encode_shape`: an encoding is alphabet characters followed by the padding
  its length calls for, so the padding can be stripped and recomputed
  (`rstrip_encode`, `pad_rstrip_encode`).
-/

namespace Data.Base64Url

/-- The character of a sextet. -/
def sextet (n : Nat) : Char :=
  if n < 26 then Char.ofNat (65 + n)
  else if n < 52 then Char.ofNat (97 + (n - 26))
  else if n < 62 then Char.ofNat (48 + (n - 52))
  else if n = 62 then '-'
  else '_'

/-- The sextet of a character, in either alphabet. -/
def value? (c : Char) : Option Nat :=
  if 65 ≤ c.toNat ∧ c.toNat ≤ 90 then some (c.toNat - 65)
  else if 97 ≤ c.toNat ∧ c.toNat ≤ 122 then some (c.toNat - 97 + 26)
  else if 48 ≤ c.toNat ∧ c.toNat ≤ 57 then some (c.toNat - 48 + 52)
  else if c = '-' ∨ c = '+' then some 62
  else if c = '_' ∨ c = '/' then some 63
  else none

theorem value?_sextet {n : Nat} (h : n < 64) : value? (sextet n) = some n := by
  have hall : ∀ m : Fin 64, value? (sextet m.val) = some m.val := by decide
  exact hall ⟨n, h⟩

/-- The characters of an encoding are neither padding nor a dot, and ASCII. -/
theorem sextet_plain {n : Nat} (h : n < 64) :
    sextet n ≠ '=' ∧ sextet n ≠ '.' ∧ (sextet n).toNat < 128 := by
  have hall : ∀ m : Fin 64,
      sextet m.val ≠ '=' ∧ sextet m.val ≠ '.' ∧ (sextet m.val).toNat < 128 := by decide
  exact hall ⟨n, h⟩

/-- `base64.urlsafe_b64encode`. -/
def encode : List UInt8 → List Char
  | [] => []
  | [a] => [sextet (a.toNat / 4), sextet (a.toNat % 4 * 16), '=', '=']
  | [a, b] =>
    [sextet (a.toNat / 4), sextet (a.toNat % 4 * 16 + b.toNat / 16),
      sextet (b.toNat % 16 * 4), '=']
  | a :: b :: c :: rest =>
    sextet (a.toNat / 4) :: sextet (a.toNat % 4 * 16 + b.toNat / 16) ::
      sextet (b.toNat % 16 * 4 + c.toNat / 64) :: sextet (c.toNat % 64) :: encode rest

/-- The decoding loop: `quad` characters of the current quantum have been read,
`left` holds their bits that are not yet written, `pads` counts padding. -/
def decodeLoop : List Char → (quad left pads : Nat) → List UInt8 → Option (List UInt8)
  | [], quad, _, _, out => if quad = 0 then some out.reverse else none
  | c :: rest, quad, left, pads, out =>
    if c = '=' then
      if 2 ≤ quad ∧ 4 ≤ quad + (pads + 1) then some out.reverse
      else decodeLoop rest quad left (if 2 ≤ quad then pads + 1 else pads) out
    else
      match value? c with
      | none => decodeLoop rest quad left pads out
      | some v =>
        if quad = 0 then decodeLoop rest 1 v 0 out
        else if quad = 1 then
          decodeLoop rest 2 (v % 16) 0 (UInt8.ofNat (left * 4 + v / 16) :: out)
        else if quad = 2 then
          decodeLoop rest 3 (v % 4) 0 (UInt8.ofNat (left * 16 + v / 4) :: out)
        else decodeLoop rest 0 0 0 (UInt8.ofNat (left * 64 + v) :: out)

/-- `base64.urlsafe_b64decode`; `none` where it raises. -/
def decode (cs : List Char) : Option (List UInt8) :=
  if cs.all fun c => c.toNat < 128 then decodeLoop cs 0 0 0 [] else none

/-! ## Reading one character -/

theorem decodeLoop_sextet {n : Nat} (h : n < 64) (rest : List Char) (quad left pads : Nat)
    (out : List UInt8) :
    decodeLoop (sextet n :: rest) quad left pads out =
      if quad = 0 then decodeLoop rest 1 n 0 out
      else if quad = 1 then
        decodeLoop rest 2 (n % 16) 0 (UInt8.ofNat (left * 4 + n / 16) :: out)
      else if quad = 2 then
        decodeLoop rest 3 (n % 4) 0 (UInt8.ofNat (left * 16 + n / 4) :: out)
      else decodeLoop rest 0 0 0 (UInt8.ofNat (left * 64 + n) :: out) := by
  rw [decodeLoop, if_neg (sextet_plain h).1, value?_sextet h]

theorem ofNat_eq {a : UInt8} {n : Nat} (h : n = a.toNat) : UInt8.ofNat n = a := by
  rw [h, UInt8.ofNat_toNat]

theorem decodeLoop_encode : ∀ (bs out : List UInt8),
    decodeLoop (encode bs) 0 0 0 out = some (out.reverse ++ bs)
  | [], out => by simp [encode, decodeLoop]
  | [a], out => by
    have ha := a.toNat_lt
    have h1 : UInt8.ofNat (a.toNat / 4 * 4 + a.toNat % 4 * 16 / 16) = a := ofNat_eq (by omega)
    rw [encode, decodeLoop_sextet (by omega), if_pos rfl, decodeLoop_sextet (by omega),
      if_neg (by decide), if_pos rfl, h1]
    simp [decodeLoop]
  | [a, b], out => by
    have ha := a.toNat_lt
    have hb := b.toNat_lt
    have h1 : UInt8.ofNat (a.toNat / 4 * 4 + (a.toNat % 4 * 16 + b.toNat / 16) / 16) = a :=
      ofNat_eq (by omega)
    have h2 : UInt8.ofNat ((a.toNat % 4 * 16 + b.toNat / 16) % 16 * 16
        + b.toNat % 16 * 4 / 4) = b := ofNat_eq (by omega)
    rw [encode, decodeLoop_sextet (by omega), if_pos rfl, decodeLoop_sextet (by omega),
      if_neg (by decide), if_pos rfl, decodeLoop_sextet (by omega), if_neg (by decide),
      if_neg (by decide), if_pos rfl, h1, h2]
    simp [decodeLoop]
  | a :: b :: c :: rest, out => by
    have ha := a.toNat_lt
    have hb := b.toNat_lt
    have hc := c.toNat_lt
    have h1 : UInt8.ofNat (a.toNat / 4 * 4 + (a.toNat % 4 * 16 + b.toNat / 16) / 16) = a :=
      ofNat_eq (by omega)
    have h2 : UInt8.ofNat ((a.toNat % 4 * 16 + b.toNat / 16) % 16 * 16
        + (b.toNat % 16 * 4 + c.toNat / 64) / 4) = b := ofNat_eq (by omega)
    have h3 : UInt8.ofNat ((b.toNat % 16 * 4 + c.toNat / 64) % 4 * 64 + c.toNat % 64) = c :=
      ofNat_eq (by omega)
    rw [encode, decodeLoop_sextet (by omega), if_pos rfl, decodeLoop_sextet (by omega),
      if_neg (by decide), if_pos rfl, decodeLoop_sextet (by omega), if_neg (by decide),
      if_neg (by decide), if_pos rfl, decodeLoop_sextet (by omega), if_neg (by decide),
      if_neg (by decide), if_neg (by decide), h1, h2, h3, decodeLoop_encode rest]
    simp

/-! ## The shape of an encoding -/

/-- An encoding is a run of alphabet characters followed by as much padding as
fills the last quantum. -/
theorem encode_shape : ∀ bs : List UInt8, ∃ (body : List Char) (p : Nat),
    encode bs = body ++ List.replicate p '=' ∧
      (∀ c ∈ body, c ≠ '=' ∧ c ≠ '.' ∧ c.toNat < 128) ∧
      p ≤ 2 ∧ (body.length + p) % 4 = 0
  | [] => ⟨[], 0, rfl, by simp, by omega, rfl⟩
  | [a] => by
    have ha := a.toNat_lt
    refine ⟨[sextet (a.toNat / 4), sextet (a.toNat % 4 * 16)], 2, rfl, ?_, le_refl _, by simp⟩
    simpa using ⟨sextet_plain (by omega), sextet_plain (by omega)⟩
  | [a, b] => by
    have ha := a.toNat_lt
    have hb := b.toNat_lt
    refine ⟨[sextet (a.toNat / 4), sextet (a.toNat % 4 * 16 + b.toNat / 16),
      sextet (b.toNat % 16 * 4)], 1, rfl, ?_, by omega, by simp⟩
    simpa using ⟨sextet_plain (by omega), sextet_plain (by omega), sextet_plain (by omega)⟩
  | a :: b :: c :: rest => by
    have ha := a.toNat_lt
    have hb := b.toNat_lt
    have hc := c.toNat_lt
    obtain ⟨body, p, hbody, hplain, hp, hlen⟩ := encode_shape rest
    refine ⟨sextet (a.toNat / 4) :: sextet (a.toNat % 4 * 16 + b.toNat / 16) ::
      sextet (b.toNat % 16 * 4 + c.toNat / 64) :: sextet (c.toNat % 64) :: body, p, ?_, ?_, hp, ?_⟩
    · rw [encode, hbody]
      rfl
    · intro x hx
      rcases List.mem_cons.mp hx with rfl | hx
      · exact sextet_plain (by omega)
      rcases List.mem_cons.mp hx with rfl | hx
      · exact sextet_plain (by omega)
      rcases List.mem_cons.mp hx with rfl | hx
      · exact sextet_plain (by omega)
      rcases List.mem_cons.mp hx with rfl | hx
      · exact sextet_plain (by omega)
      · exact hplain x hx
    · simp only [List.length_cons]
      omega

/-- **Reading back**: decoding an encoding gives the bytes it was made of. -/
theorem decode_encode (bs : List UInt8) : decode (encode bs) = some bs := by
  have hascii : (encode bs).all (fun c => c.toNat < 128) = true := by
    obtain ⟨body, p, hbody, hplain, -, -⟩ := encode_shape bs
    rw [List.all_eq_true]
    intro c hc
    rw [hbody, List.mem_append] at hc
    rcases hc with hc | hc
    · simpa using (hplain c hc).2.2
    · rw [List.eq_of_mem_replicate hc]
      decide
  rw [decode, if_pos hascii, decodeLoop_encode]
  rfl

/-! ## Stripping and recomputing the padding -/

/-- `text.rstrip("=")`. -/
def rstrip (cs : List Char) : List Char := cs.rdropWhile (· = '=')

/-- Fill up to a multiple of four: `text + "=" * (-len(text) % 4)`. -/
def pad (cs : List Char) : List Char := cs ++ List.replicate ((4 - cs.length % 4) % 4) '='

theorem rstrip_append_replicate {body : List Char} (h : ∀ c ∈ body, c ≠ '=') :
    ∀ p, rstrip (body ++ List.replicate p '=') = body
  | 0 => by
    rw [List.replicate_zero, List.append_nil]
    refine List.rdropWhile_eq_self_iff.mpr fun hne => ?_
    simpa using h _ (List.getLast_mem hne)
  | p + 1 => by
    rw [List.replicate_succ', ← List.append_assoc]
    show List.rdropWhile _ _ = _
    rw [List.rdropWhile_concat_pos _ _ _ (by simp)]
    exact rstrip_append_replicate h p

/-- A stripped encoding has neither padding nor dots. -/
theorem rstrip_encode (bs : List UInt8) : ∀ c ∈ rstrip (encode bs), c ≠ '=' ∧ c ≠ '.' := by
  obtain ⟨body, p, hbody, hplain, -, -⟩ := encode_shape bs
  rw [hbody, rstrip_append_replicate fun c hc => (hplain c hc).1]
  exact fun c hc => ⟨(hplain c hc).1, (hplain c hc).2.1⟩

/-- Padding the stripped encoding restores it. -/
theorem pad_rstrip_encode (bs : List UInt8) : pad (rstrip (encode bs)) = encode bs := by
  obtain ⟨body, p, hbody, hplain, hp, hlen⟩ := encode_shape bs
  rw [hbody, rstrip_append_replicate fun c hc => (hplain c hc).1, pad]
  have : (4 - body.length % 4) % 4 = p := by omega
  rw [this]

end Data.Base64Url
