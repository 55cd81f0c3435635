import Nadi.Model.Programs
import Nadi.Model.Sample
import Mathlib.Data.Rat.Floor

/-!
# Tokens mean what was signed

The claims of a signed token come back unchanged, from the session and for the
scopes it was signed for, until the second of its expiry
(`run_verifyWithoutStore_sign`). Where the MAC tells bodies apart, no part of a
token can be replaced: a text is read only with the signature of its own first
two parts (`read_eq_ok`), and no other two parts have that signature
(`signature_inj`).
-/

namespace Nadi

open Effect (Prog)

theorem utf8_inj {s t : String} (h : utf8 s = utf8 t) : s = t := by
  unfold utf8 at h
  rw [String.toUTF8_eq_toByteArray, String.toUTF8_eq_toByteArray] at h
  exact String.toByteArray_inj.mp (ByteArray.ext (Array.toList_inj.mp h))

theorem b64e_inj {raw raw' : List UInt8} (h : b64e raw = b64e raw') : raw = raw' := by
  have hback := congrArg b64d h
  rw [b64d_b64e, b64d_b64e] at hback
  exact Option.some.inj hback

namespace SessionJWT

variable {py : Py} {jwt : SessionJWT} {head head' payload payload' sig sig' : List Char}

/-! ## Framing -/

/-- The text of a token with the given parts. -/
def join (head payload sig : List Char) : String :=
  String.ofList (['.'].intercalate [head, payload, sig])

/-- Two bodies that agree agree in both parts, where the first has no dot. -/
theorem body_inj (hhead : '.' ∉ head) (hhead' : '.' ∉ head')
    (h : head ++ '.' :: payload = head' ++ '.' :: payload') : head = head' ∧ payload = payload' := by
  have hsplit := congrArg (List.splitOn '.') h
  rw [List.splitOn_append_cons_self_of_not_mem hhead,
    List.splitOn_append_cons_self_of_not_mem hhead'] at hsplit
  obtain ⟨rfl, -⟩ := List.cons.inj hsplit
  exact ⟨rfl, (List.cons.inj (List.append_cancel_left h)).2⟩

/-- The first two parts of a text are found whatever follows them. -/
theorem splitOn_join (hhead : '.' ∉ head) (hpayload : '.' ∉ payload) :
    (join head payload sig).toList.splitOn '.' = head :: payload :: sig.splitOn '.' := by
  have htext : (join head payload sig).toList = head ++ '.' :: (payload ++ '.' :: sig) := by
    unfold join
    rw [String.toList_ofList]
    simp [List.intercalate]
  rw [htext, List.splitOn_append_cons_self_of_not_mem hhead,
    List.splitOn_append_cons_self_of_not_mem hpayload]

/-- A text is read only where its third part is the signature of the first two. -/
theorem read_eq_ok {token : String} {data : Json} (h : jwt.read py token = .ok data) :
    ∃ head payload, token.toList.splitOn '.' =
      [head, payload, signature py jwt head payload] := by
  unfold read at h
  split at h
  · rename_i head payload sig hsplit
    split at h
    · cases h
    split at h
    · cases h
    split at h
    swap
    · cases h
    split at h
    swap
    · cases h
    split at h
    · rename_i hsig
      exact ⟨head, payload, hsig.symm ▸ hsplit⟩
    · cases h
  · cases h

/-! ## Replaced parts -/

/-- The MAC gives different bodies different tags. -/
def TagsDiffer (py : Py) (jwt : SessionJWT) : Prop :=
  ∀ m m', py.hmacSha256 (utf8 jwt.secret) m = py.hmacSha256 (utf8 jwt.secret) m' → m = m'

/-- Such a MAC gives different parts different signatures. -/
theorem signature_inj (hmac : TagsDiffer py jwt) (hhead : '.' ∉ head) (hhead' : '.' ∉ head')
    (h : signature py jwt head payload = signature py jwt head' payload') :
    head = head' ∧ payload = payload' := by
  have hbody := String.ofList_inj.mp (utf8_inj (hmac _ _ (b64e_inj h)))
  exact body_inj hhead hhead' hbody

/-- A token whose first or second part has been replaced is not read. -/
theorem read_replaced_body (hmac : TagsDiffer py jwt) (hhead : '.' ∉ head)
    (hhead' : '.' ∉ head') (hpayload' : '.' ∉ payload')
    (hne : (head', payload') ≠ (head, payload)) (data : Json) :
    jwt.read py (join head' payload' (signature py jwt head payload)) ≠ .ok data := by
  intro h
  obtain ⟨h₁, p₁, hsplit⟩ := read_eq_ok h
  have hdot : '.' ∉ signature py jwt head payload := dot_not_mem_b64e _
  rw [show (join head' payload' (signature py jwt head payload)) = _ from rfl,
    splitOn_join hhead' hpayload'] at hsplit
  obtain ⟨rfl, hsplit⟩ := List.cons.inj hsplit
  obtain ⟨rfl, hsplit⟩ := List.cons.inj hsplit
  have hsig := congrArg (List.intercalate ['.']) hsplit
  rw [List.intercalate_splitOn, List.intercalate_singleton] at hsig
  obtain ⟨rfl, rfl⟩ := signature_inj hmac hhead hhead' hsig
  exact hne rfl

/-- A token whose third part has been replaced is not read. -/
theorem read_replaced_signature (hhead : '.' ∉ head) (hpayload : '.' ∉ payload)
    (hne : sig' ≠ signature py jwt head payload) (data : Json) :
    jwt.read py (join head payload sig') ≠ .ok data := by
  intro h
  obtain ⟨h₁, p₁, hsplit⟩ := read_eq_ok h
  rw [splitOn_join hhead hpayload] at hsplit
  obtain ⟨rfl, hsplit⟩ := List.cons.inj hsplit
  obtain ⟨rfl, hsplit⟩ := List.cons.inj hsplit
  have hsig := congrArg (List.intercalate ['.']) hsplit
  rw [List.intercalate_splitOn, List.intercalate_singleton] at hsig
  exact hne hsig

/-! ## Signing and verifying -/

variable {T : Type} [Field T] [LinearOrder T] [IsStrictOrderedRing T] [FloorRing T]

/-- Without a store, in the given state, a token is accepted and its claims are
returned. -/
def Accepts (py : Py) (jwt : SessionJWT) (w : World T) (token sessionId scope : String)
    (data : Json) : Prop :=
  ((jwt.verifyWithoutStore py token sessionId scope : Code T Json).run (exec py) w).1 = .ok data

/-- In the given state a token is accepted for no session and scope, with a
store or without. -/
def Refuses (py : Py) (jwt : SessionJWT) (w : World T) (token : String) : Prop :=
  ∀ sessionId scope data, ¬ Accepts py jwt w token sessionId scope data ∧
    ((jwt.verify py token sessionId scope : Code T Json).run (exec py) w).1 ≠ .ok data

/-- What is not read is refused. -/
theorem refuses_of_read {token : String} (h : ∀ data, jwt.read py token ≠ .ok data)
    (w : World T) : Refuses py jwt w token := by
  intro sessionId scope data
  unfold Accepts verifyWithoutStore verify
  cases hread : jwt.read py token with
  | ok data => exact absurd hread (h data)
  | error e => exact ⟨fun h => (nomatch h), fun h => (nomatch h)⟩

/-- Signing at the reading of the clock, with the next id. -/
theorem run_signNow (site : ClockSite) (sid scope : String) (ttlSeconds : Int) (subject : String)
    (w : World T) :
    (jwt.signNow py site sid scope ttlSeconds subject : Code T String).run (exec py) w =
      (.ok (jwt.sign py (truncate w.clock) (w.fresh py .jti) sid scope ttlSeconds subject),
        w.draw .jti) := rfl

/-- **Verifying a signed token**, without a store: expiry, session and scope. -/
theorem accepts_sign (now : Int) (jti sid scope : String) (ttlSeconds : Int) (subject : String)
    (w : World T) (sessionId wanted : String) (data : Json) :
    Accepts py jwt w (jwt.sign py now jti sid scope ttlSeconds subject) sessionId wanted data ↔
      data = claims subject sid scope (expiry now ttlSeconds) jti ∧ sessionId = sid ∧
        (wanted ∈ splitWords scope ∨ scope = "*") ∧
        truncate w.clock ≤ expiry now ttlSeconds := by
  unfold Accepts verifyWithoutStore
  rw [read_sign]
  show (((Prog.ofExcept (judge py _ (truncate w.clock) sessionId wanted)).bind fun _ =>
    Prog.pure _ : Code T Json).run (exec py) w).1 = .ok data ↔ _
  rw [judge_claims]
  by_cases hexp : expiry now ttlSeconds < truncate w.clock
  · rw [if_pos hexp]
    exact ⟨fun h => (nomatch h), fun h => absurd h.2.2.2 (not_le.mpr hexp)⟩
  rw [if_neg hexp]
  by_cases hsid : sid = sessionId
  · rw [if_pos hsid]
    by_cases hscope : wanted ∈ splitWords scope ∨ scope = "*"
    · rw [if_pos hscope]
      constructor
      · intro h
        exact ⟨(Except.ok.inj h).symm, hsid.symm, hscope, not_lt.mp hexp⟩
      · rintro ⟨rfl, -⟩
        rfl
    · rw [if_neg hscope]
      exact ⟨fun h => (nomatch h), fun h => absurd h.2.2.1 hscope⟩
  · rw [if_neg hsid]
    exact ⟨fun h => (nomatch h), fun h => absurd h.2.1.symm hsid⟩

end SessionJWT

section Tokens

open SessionJWT

variable {T : Type} [Field T] [LinearOrder T] [IsStrictOrderedRing T] [FloorRing T]

/-- **Tokens mean exactly what was signed.** A token signed at one time and
verified at another, without a store, is accepted exactly for the session it was
signed for, for a scope among the words of its own or where its own is the star,
until the second of its expiry; and what is returned are the claims signed. The
clock is rounded towards zero, that is down, as it does not read before 1970.
Where the MAC tells bodies apart, nothing is accepted in which the first or the
second part of the token is another, or the third. -/
theorem signed_token_exact (py : Py) (jwt : SessionJWT) (site : ClockSite)
    (sid scope : String) (ttlSeconds : Int) (subject : String) (w₀ w₁ : World T) {token : String}
    (hsign : ((jwt.signNow py site sid scope ttlSeconds subject).run (exec py) w₀).1 =
      .ok token) :
    (∀ sid' wanted, (∃ data, Accepts py jwt w₁ token sid' wanted data) ↔
      sid' = sid ∧ (wanted ∈ splitWords scope ∨ scope = "*") ∧
        truncate w₁.clock ≤ truncate w₀.clock + min ttlSeconds 86400) ∧
    (0 ≤ w₀.clock → 0 ≤ w₁.clock →
      ∀ sid' wanted, (∃ data, Accepts py jwt w₁ token sid' wanted data) ↔
        sid' = sid ∧ (wanted ∈ splitWords scope ∨ scope = "*") ∧
          ⌊w₁.clock⌋ ≤ ⌊w₀.clock⌋ + min ttlSeconds 86400) ∧
    (∀ sid' wanted data, Accepts py jwt w₁ token sid' wanted data →
      data = claims subject sid scope (truncate w₀.clock + min ttlSeconds 86400)
        (w₀.fresh py .jti)) ∧
    (TagsDiffer py jwt → ∃ head payload sig,
      token = SessionJWT.join head payload sig ∧ '.' ∉ head ∧ '.' ∉ payload ∧
      (∀ head' payload', '.' ∉ head' → '.' ∉ payload' → (head', payload') ≠ (head, payload) →
        Refuses py jwt w₁ (SessionJWT.join head' payload' sig)) ∧
      ∀ sig', sig' ≠ sig → Refuses py jwt w₁ (SessionJWT.join head payload sig')) := by
  rw [run_signNow] at hsign
  obtain rfl := Except.ok.inj hsign
  have haccept : ∀ sid' wanted, (∃ data, Accepts py jwt w₁ (jwt.sign py (truncate w₀.clock)
      (w₀.fresh py .jti) sid scope ttlSeconds subject) sid' wanted data) ↔
      sid' = sid ∧ (wanted ∈ splitWords scope ∨ scope = "*") ∧
        truncate w₁.clock ≤ truncate w₀.clock + min ttlSeconds 86400 := by
    intro sid' wanted
    constructor
    · rintro ⟨data, h⟩
      exact ((accepts_sign _ _ _ _ _ _ _ _ _ _).mp h).2
    · intro h
      exact ⟨_, (accepts_sign _ _ _ _ _ _ _ _ _ _).mpr ⟨rfl, h⟩⟩
  refine ⟨haccept, fun h₀ h₁ => ?_, fun sid' wanted data h => ?_, fun hmac => ?_⟩
  · have hfloor : ∀ {t : T}, 0 ≤ t → truncate t = ⌊t⌋ := fun ht => if_pos ht
    rw [← hfloor h₀, ← hfloor h₁]
    exact haccept
  · exact ((accepts_sign _ _ _ _ _ _ _ _ _ _).mp h).1
  · have hhead : '.' ∉ b64e (py.dumps header) := dot_not_mem_b64e _
    have hpayload := dot_not_mem_b64e (py.dumps (claims subject sid scope
      (expiry (truncate w₀.clock) ttlSeconds) (w₀.fresh py .jti)))
    refine ⟨_, _, _, rfl, hhead, hpayload, ?_, ?_⟩
    · intro head' payload' hhead' hpayload' hne
      exact refuses_of_read (read_replaced_body hmac hhead hhead' hpayload' hne) w₁
    · intro sig' hne
      exact refuses_of_read (read_replaced_signature hhead hpayload hne) w₁

/-- A token signed half a second past noon for a minute is good for that minute
and refused after it, and for other sessions and scopes; and so is the token
with another signature. -/
theorem signed_token_exact_sample :
    let w₁ : World ℚ := World.init (43260 + 3 / 4) Sample.files
    let w₂ : World ℚ := World.init 43261 Sample.files
    let token := (SessionJWT.mk "k").sign Py.sample 43200 "j" "s" "cell tool" 60 "c"
    ((∃ data, Accepts Py.sample ⟨"k"⟩ w₁ token "s" "tool" data) ∧
      (¬ ∃ data, Accepts Py.sample ⟨"k"⟩ w₁ token "s1" "tool" data) ∧
      (¬ ∃ data, Accepts Py.sample ⟨"k"⟩ w₁ token "s" "too" data)) ∧
      (¬ ∃ data, Accepts Py.sample ⟨"k"⟩ w₂ token "s" "tool" data) ∧
      ∃ head payload sig, token = SessionJWT.join head payload sig ∧
        ∀ sig', sig' ≠ sig → Refuses Py.sample ⟨"k"⟩ w₁ (SessionJWT.join head payload sig') := by
  intro w₁ w₂ token
  have hsign : (((SessionJWT.mk "k").signNow Py.sample .createCell "s" "cell tool" 60 "c").run
      (exec Py.sample) (World.init (43200 + 1 / 2 : ℚ) Sample.files)).1 = .ok token := by
    have hclock : truncate (43200 + 1 / 2 : ℚ) = 43200 := by decide +kernel
    rw [run_signNow]
    show Except.ok ((SessionJWT.mk "k").sign Py.sample (truncate (43200 + 1 / 2 : ℚ)) _ _ _ _ _) = _
    rw [hclock]
    rfl
  have hat := signed_token_exact Py.sample ⟨"k"⟩ .createCell "s" "cell tool" 60 "c" _ w₁ hsign
  have hafter := signed_token_exact Py.sample ⟨"k"⟩ .createCell "s" "cell tool" 60 "c" _ w₂ hsign
  have hmac : TagsDiffer Py.sample ⟨"k"⟩ := fun _ _ h => List.append_cancel_left h
  refine ⟨⟨(hat.1 _ _).mpr ⟨rfl, ?_⟩, fun h => ?_, fun h => ?_⟩, fun h => ?_, ?_⟩
  · decide +kernel
  · exact absurd ((hat.1 _ _).mp h).1 (by decide)
  · exact absurd ((hat.1 _ _).mp h).2.1 (by decide +kernel)
  · exact absurd ((hafter.1 _ _).mp h).2.2 (by decide +kernel)
  · obtain ⟨head, payload, sig, htoken, -, -, -, hsig⟩ := hat.2.2.2 hmac
    exact ⟨head, payload, sig, htoken, hsig⟩

end Tokens

end Nadi
