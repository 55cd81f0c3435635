import Mathlib.Data.List.Induction
import Nadi.Effect.Transaction

/-!
# Programs that are cut off

- `Prog.runFor`: the state after at most `k` calls of a program.
- `Modifies ok`: of the calls that modify, only those in `ok`. What each of them
  keeps holds wherever a program of them is cut off (`sustained`).
- `Atomic`: wherever the program is cut off, what is committed is what was, or all
  that the program leaves. `Durable`: a program that returns has committed all
  that it leaves.
- `Whole`: all three of a program, with a rule for each way to begin one.
- `committed_prefix`: of programs run one after the other, what is committed when
  the next one is cut off is all that some of the first of them leave.
-/

namespace Effect

namespace Prog

variable {C : Type} {R : C → Type} {ε σ α β : Type} (h : Handler C R ε σ)

/-- The state after at most `k` calls. -/
def runFor : ℕ → Prog C R ε α → σ → σ
  | 0, _, s => s
  | _ + 1, .pure _, s => s
  | _ + 1, .throw _, s => s
  | k + 1, .call c f, s => (f (h c s).1).runFor k (h c s).2

@[simp] theorem runFor_zero (p : Prog C R ε α) (s : σ) : p.runFor h 0 s = s := rfl

@[simp] theorem runFor_pure (k : ℕ) (a : α) (s : σ) :
    (.pure a : Prog C R ε α).runFor h k s = s := by cases k <;> rfl

@[simp] theorem runFor_throw (k : ℕ) (e : ε) (s : σ) :
    (.throw e : Prog C R ε α).runFor h k s = s := by cases k <;> rfl

/-- A program that is not cut off runs to its end. -/
theorem runFor_calls (p : Prog C R ε α) (s : σ) :
    p.runFor h (p.calls h s).length s = (p.run h s).2 := by
  induction p generalizing s with
  | pure a => rfl
  | throw e => rfl
  | call c f ih => exact ih _ _

/-- A value made at the end makes no difference. -/
theorem runFor_bind_pure (k : ℕ) (p : Prog C R ε α) (f : α → β) (s : σ) :
    (p.bind fun a => .pure (f a)).runFor h k s = p.runFor h k s := by
  induction p generalizing k s with
  | pure a =>
    show (Prog.pure (f a) : Prog C R ε β).runFor h k s = _
    rw [runFor_pure, runFor_pure]
  | throw e =>
    show (Prog.throw e : Prog C R ε β).runFor h k s = _
    rw [runFor_throw, runFor_throw]
  | call c g ih =>
    cases k with
    | zero => rfl
    | succ k => exact ih _ k _

variable {h}

/-- What every call of a kind preserves holds wherever a program of such calls is
cut off. -/
theorem Within.preserves_runFor {ok : C → Prop} {post : α → Prop} {p : Prog C R ε α}
    (hp : p.Within ok post) {I : σ → Prop} (hcall : ∀ c s, ok c → I s → I (h c s).2) (k : ℕ)
    {s : σ} (hI : I s) : I (p.runFor h k s) := by
  induction p generalizing k s with
  | pure a =>
    rw [runFor_pure]
    exact hI
  | throw e =>
    rw [runFor_throw]
    exact hI
  | call c f ih =>
    cases k with
    | zero => exact hI
    | succ k => exact ih _ (hp.2 _) k (hcall c s hp.1 hI)

end Prog

/-- `I` holds of what is committed, and of what is seen. -/
def Connection.Has {D : Type} (I : D → Prop) (c : Connection D) : Prop := I c.committed ∧ I c.seen

namespace SqlCall

variable {D A V R ε α β : Type}

/-! ## What every statement keeps -/

/-- The calls that modify are in `ok`. -/
def Modifies (ok : List A → ((ℕ → V) → D → Except ε (Int × D)) → Prop) :
    SqlCall D A V R ε → Prop
  | .modify params change => ok params change
  | _ => True

/-- No database without `I` is made from one that has it. -/
def Sustains (I : D → Prop) (change : (ℕ → V) → D → Except ε (Int × D)) : Prop :=
  ∀ p d n d', change p d = .ok (n, d') → I d → I d'

variable [Inhabited V] {bind : A → Except ε V} {c : Connection D}

variable (R bind) in
/-- A statement is refused, and nothing is changed, or it changes what is pending. -/
theorem exec_modify (params : List A) (change : (ℕ → V) → D → Except ε (Int × D))
    (c : Connection D) :
    (∃ e, exec bind (.modify params change : SqlCall D A V R ε) c = (.error e, c.after c.seen)) ∨
      ∃ p n d', change p c.seen = .ok (n, d') ∧
        exec bind (.modify params change : SqlCall D A V R ε) c = (.ok n, c.after d') := by
  cases hbound : bound bind params with
  | error e =>
    refine .inl ⟨e, ?_⟩
    simp only [exec, hbound]
  | ok p =>
    rcases hchange : change p c.seen with e | ⟨n, d'⟩
    · refine .inl ⟨e, ?_⟩
      simp only [exec, hbound, hchange]
    · refine .inr ⟨p, n, d', hchange, ?_⟩
      simp only [exec, hbound, hchange]

theorem has_exec_modify {I : D → Prop} {params : List A}
    {change : (ℕ → V) → D → Except ε (Int × D)} (hchange : Sustains I change) (hc : c.Has I) :
    (exec bind (.modify params change : SqlCall D A V R ε) c).2.Has I := by
  rcases exec_modify R bind params change c with ⟨e, hexec⟩ | ⟨p, n, d', hd', hexec⟩
  · rw [hexec]
    exact hc
  · rw [hexec]
    exact ⟨hc.1, hchange p _ _ _ hd' hc.2⟩

/-- What its statements sustain is seen after a program. -/
theorem sustained_seen {ok : List A → ((ℕ → V) → D → Except ε (Int × D)) → Prop} {I : D → Prop}
    {post : α → Prop} {p : Prog (SqlCall D A V R ε) Ret ε α} (hp : p.Within (Modifies ok) post)
    (hok : ∀ params change, ok params change → Sustains I change) (hc : I c.seen) :
    I (p.run (exec bind) c).2.seen := by
  refine hp.preserves (I := fun c : Connection D => I c.seen) (fun call c hcall hc => ?_) hc
  cases call with
  | select => exact hc
  | number => exact hc
  | modify params change =>
    rcases exec_modify R bind params change c with ⟨e, hexec⟩ | ⟨p, n, d', hd', hexec⟩
    · rw [hexec]
      exact hc
    · rw [hexec]
      exact hok _ _ hcall p _ _ _ hd' hc
  | commit => exact hc

/-- **Wherever a program is cut off**, what its statements sustain holds. -/
theorem sustained {ok : List A → ((ℕ → V) → D → Except ε (Int × D)) → Prop} {I : D → Prop}
    {post : α → Prop} {p : Prog (SqlCall D A V R ε) Ret ε α} (hp : p.Within (Modifies ok) post)
    (hok : ∀ params change, ok params change → Sustains I change) (k : ℕ) (hc : c.Has I) :
    (p.runFor (exec bind) k c).Has I := by
  refine hp.preserves_runFor (fun call c hcall hc => ?_) k hc
  cases call with
  | select => exact hc
  | number => exact hc
  | modify params change => exact has_exec_modify (hok _ _ hcall) hc
  | commit => exact ⟨hc.2, hc.2⟩

/-! ## All or nothing -/

variable (bind) in
/-- What is committed is what was, or all that the program leaves. -/
def Atomic (p : Prog (SqlCall D A V R ε) Ret ε α) : Prop :=
  ∀ (c : Connection D) (k : ℕ), (p.runFor (exec bind) k c).committed = c.committed ∨
    (p.runFor (exec bind) k c).committed = (p.run (exec bind) c).2.seen

variable (bind) in
/-- A program that returns has committed all that it leaves. -/
def Durable (p : Prog (SqlCall D A V R ε) Ret ε α) : Prop :=
  ∀ (c : Connection D) (a : α), (p.run (exec bind) c).1 = .ok a →
    (p.run (exec bind) c).2.committed = (p.run (exec bind) c).2.seen

variable {p : Prog (SqlCall D A V R ε) Ret ε α} {f : α → Prog (SqlCall D A V R ε) Ret ε β}

theorem runFor_reads (hp : p.Within Reads fun _ => True) (k : ℕ) :
    p.runFor (exec bind) k c = c := by
  refine hp.preserves_runFor (I := fun c' => c' = c) ?_ k rfl
  rintro (_ | _ | _ | _) s hs rfl
  · rfl
  · rfl
  · exact hs.elim
  · exact hs.elim

theorem atomic_reads (hp : p.Within Reads fun _ => True) : Atomic bind p := by
  intro c k
  rw [runFor_reads hp]
  exact .inl rfl

/-- A program that reads first. -/
theorem atomic_bind_reads (hp : p.Within Reads fun _ => True) (hf : ∀ a, Atomic bind (f a)) :
    Atomic bind (p.bind f) := by
  induction p with
  | pure a => exact hf a
  | throw e => exact atomic_reads trivial
  | call call g ih =>
    intro c k
    have hstate : (exec bind call c).2 = c := by
      cases call with
      | select => rfl
      | number => rfl
      | modify => exact hp.1.elim
      | commit => exact hp.1.elim
    cases k with
    | zero => exact .inl rfl
    | succ k =>
      have hrest := ih (exec bind call c).1 (hp.2 _) (exec bind call c).2 k
      rw [hstate] at hrest
      have hcut : ((Prog.call call g).bind f).runFor (exec bind) (k + 1) c =
          ((g (exec bind call c).1).bind f).runFor (exec bind) k c := by
        show ((g _).bind f).runFor (exec bind) k (exec bind call c).2 = _
        rw [hstate]
      have hend : ((Prog.call call g).bind f).run (exec bind) c =
          ((g (exec bind call c).1).bind f).run (exec bind) c := by
        show ((g _).bind f).run (exec bind) (exec bind call c).2 = _
        rw [hstate]
      rw [hcut, hend]
      exact hrest

/-- A statement only changes what is pending. -/
theorem committed_exec_modify (params : List A) (change : (ℕ → V) → D → Except ε (Int × D)) :
    (exec bind (.modify params change : SqlCall D A V R ε) c).2.committed = c.committed := by
  rcases exec_modify R bind params change c with ⟨e, hexec⟩ | ⟨p, n, d', -, hexec⟩
  · rw [hexec]
    rfl
  · rw [hexec]
    rfl

theorem runFor_issue_succ {call : SqlCall D A V R ε}
    {f : call.Ret → Prog (SqlCall D A V R ε) Ret ε α} (k : ℕ) :
    ((issue call).bind f).runFor (exec bind) (k + 1) c =
      ((Prog.ofExcept (exec bind call c).1).bind f).runFor (exec bind) k (exec bind call c).2 := rfl

theorem run_issue_bind {call : SqlCall D A V R ε}
    {f : call.Ret → Prog (SqlCall D A V R ε) Ret ε α} :
    ((issue call).bind f).run (exec bind) c =
      ((Prog.ofExcept (exec bind call c).1).bind f).run (exec bind) (exec bind call c).2 := rfl

/-- A statement, and then a program that is atomic. -/
theorem atomic_bind_modify {params : List A} {change : (ℕ → V) → D → Except ε (Int × D)}
    {f : Int → Prog (SqlCall D A V R ε) Ret ε α} (hf : ∀ n, Atomic bind (f n)) :
    Atomic bind ((issue (.modify params change)).bind f) := by
  intro c k
  cases k with
  | zero => exact .inl rfl
  | succ k =>
    have hatomic : Atomic bind
        ((Prog.ofExcept (exec bind (.modify params change : SqlCall D A V R ε) c).1).bind f) :=
      atomic_bind_reads (.ofExcept fun _ _ => trivial) hf
    have hrest := hatomic (exec bind (.modify params change : SqlCall D A V R ε) c).2 k
    rw [committed_exec_modify] at hrest
    rw [runFor_issue_succ, run_issue_bind]
    exact hrest

/-- A commit, and then reads. -/
theorem atomic_bind_commit {f : Unit → Prog (SqlCall D A V R ε) Ret ε α}
    (hf : (f ()).Within Reads fun _ => True) : Atomic bind ((issue .commit).bind f) := by
  intro c k
  cases k with
  | zero => exact .inl rfl
  | succ k =>
    refine .inr ?_
    rw [runFor_issue_succ, run_issue_bind]
    show ((f ()).runFor (exec bind) k ⟨c.seen, none⟩).committed =
      ((f ()).run (exec bind) ⟨c.seen, none⟩).2.seen
    rw [runFor_reads hf, run_reads hf]
    rfl

theorem atomic_commit : Atomic bind (issue .commit : Prog (SqlCall D A V R ε) Ret ε Unit) := by
  have hlast : (issue .commit : Prog (SqlCall D A V R ε) Ret ε Unit) = (issue .commit).bind .pure :=
    (Prog.bind_pure _).symm
  rw [hlast]
  exact atomic_bind_commit trivial

theorem Atomic.map (hp : Atomic bind p) (f : α → β) :
    Atomic bind (p.bind fun a => .pure (f a)) := by
  intro c k
  rw [Prog.runFor_bind_pure, Prog.run_bind_pure]
  exact hp c k

/-- What is left last decides. -/
theorem durable_bind (hf : ∀ a, Durable bind (f a)) : Durable bind (p.bind f) := by
  intro c b h
  rcases hrun : p.run (exec bind) c with ⟨e | a, c'⟩
  · rw [Prog.run_bind_error _ hrun] at h
    cases h
  · rw [Prog.run_bind_ok _ hrun] at h ⊢
    exact hf a c' b h

theorem durable_throw {e : ε} :
    Durable bind (.throw e : Prog (SqlCall D A V R ε) Ret ε α) := by
  intro c a h
  cases h

theorem durable_bind_commit {f : Unit → Prog (SqlCall D A V R ε) Ret ε α}
    (hf : (f ()).Within Reads fun _ => True) : Durable bind ((issue .commit).bind f) := by
  intro c a _
  rw [run_issue_bind]
  show ((f ()).run (exec bind) ⟨c.seen, none⟩).2.committed =
    ((f ()).run (exec bind) ⟨c.seen, none⟩).2.seen
  rw [run_reads hf]
  rfl

theorem durable_commit : Durable bind (issue .commit : Prog (SqlCall D A V R ε) Ret ε Unit) := by
  have hlast : (issue .commit : Prog (SqlCall D A V R ε) Ret ε Unit) = (issue .commit).bind .pure :=
    (Prog.bind_pure _).symm
  rw [hlast]
  exact durable_bind_commit trivial

theorem Durable.map (hp : Durable bind p) (f : α → β) :
    Durable bind (p.bind fun a => .pure (f a)) := by
  intro c b h
  rw [Prog.run_bind_pure]
  rcases hrun : p.run (exec bind) c with ⟨e | a, c'⟩
  · rw [Prog.run_bind_error _ hrun] at h
    cases h
  · have hlast := hp c a
    rw [hrun] at hlast
    exact hlast rfl

/-! ## Both at once -/

variable (bind) in
/-- A program whose statements are in `ok`, which is atomic, and durable if it `lasts`. -/
structure Whole (ok : List A → ((ℕ → V) → D → Except ε (Int × D)) → Prop) (lasts : Prop)
    (p : Prog (SqlCall D A V R ε) Ret ε α) : Prop where
  within : p.Within (Modifies ok) fun _ => True
  atomic : Atomic bind p
  durable : lasts → Durable bind p

namespace Whole

variable {ok : List A → ((ℕ → V) → D → Except ε (Int × D)) → Prop} {lasts : Prop}

omit [Inhabited V] in
theorem within_reads (hp : p.Within Reads fun _ => True) : p.Within (Modifies ok) fun _ => True := by
  refine hp.mono_calls ?_
  rintro (_ | _ | _ | _) h
  · trivial
  · trivial
  · exact h.elim
  · trivial

/-- Only reads, and nothing to last. -/
theorem reads (hp : p.Within Reads fun _ => True) : Whole bind ok False p :=
  ⟨within_reads hp, atomic_reads hp, False.elim⟩

theorem throw {e : ε} : Whole bind ok lasts (.throw e : Prog (SqlCall D A V R ε) Ret ε α) :=
  ⟨trivial, atomic_reads trivial, fun _ => durable_throw⟩

theorem bind_reads (hp : p.Within Reads fun _ => True) (hf : ∀ a, Whole bind ok lasts (f a)) :
    Whole bind ok lasts (p.bind f) :=
  ⟨(within_reads hp).bind fun a _ => (hf a).within, atomic_bind_reads hp fun a => (hf a).atomic,
    fun h => durable_bind fun a => (hf a).durable h⟩

theorem bind_ofExcept {r : Except ε α} (hf : ∀ a, Whole bind ok lasts (f a)) :
    Whole bind ok lasts ((Prog.ofExcept r).bind f) :=
  bind_reads (.ofExcept fun _ _ => trivial) hf

theorem bind_modify {params : List A} {change : (ℕ → V) → D → Except ε (Int × D)}
    {f : Int → Prog (SqlCall D A V R ε) Ret ε α}
    (hchange : ok params change)
    (hf : ∀ n, Whole bind ok lasts (f n)) :
    Whole bind ok lasts ((issue (.modify params change)).bind f) :=
  ⟨.bind (.perform hchange fun _ => trivial) fun n _ => (hf n).within,
    atomic_bind_modify fun n => (hf n).atomic, fun h => durable_bind fun n => (hf n).durable h⟩

theorem bind_commit {f : Unit → Prog (SqlCall D A V R ε) Ret ε α}
    (hf : (f ()).Within Reads fun _ => True) : Whole bind ok lasts ((issue .commit).bind f) :=
  ⟨.bind (.perform trivial fun _ => trivial) fun _ _ => within_reads hf, atomic_bind_commit hf,
    fun _ => durable_bind_commit hf⟩

theorem commit : Whole bind ok lasts (issue .commit : Prog (SqlCall D A V R ε) Ret ε Unit) :=
  ⟨.perform trivial fun _ => trivial, atomic_commit, fun _ => durable_commit⟩

theorem imp {lasts' : Prop} (hp : Whole bind ok lasts p) (h : lasts' → lasts) :
    Whole bind ok lasts' p := ⟨hp.within, hp.atomic, fun hlasts => hp.durable (h hlasts)⟩

theorem map (hp : Whole bind ok lasts p) (f : α → β) :
    Whole bind ok lasts (p.bind fun a => .pure (f a)) :=
  ⟨hp.within.bind fun _ _ => trivial, hp.atomic.map f, fun h => (hp.durable h).map f⟩

end Whole

/-! ## Sequences of programs -/

section Sequence

variable {S : Type} (code : S → Prog (SqlCall D A V R ε) Ret ε Unit) (bind)

/-- The connection after programs that run one after the other. -/
def runAll (steps : List S) (c : Connection D) : Connection D :=
  steps.foldl (fun c step => ((code step).run (exec bind) c).2) c

theorem runAll_append (steps more : List S) (c : Connection D) :
    runAll bind code (steps ++ more) c = runAll bind code more (runAll bind code steps c) :=
  List.foldl_append

/-- The program at a place returns, when those before it have run. -/
def Returned (steps : List S) (c : Connection D) (i : ℕ) (step : S) : Prop :=
  steps[i]? = some step ∧
    ((code step).run (exec bind) (runAll bind code (steps.take i) c)).1 = .ok ()

/-- What is committed is all that the first `n` programs leave, and `n` is beyond every
program that committed what it left and returned. -/
def Prefixed (steps : List S) (c : Connection D) (committed : D) (n : ℕ) : Prop :=
  committed = (runAll bind code (steps.take n) c).seen ∧
    ∀ i step, Returned bind code steps c i step → Durable bind (code step) → i < n

variable {bind code}

theorem Prefixed.append {steps : List S} {d : D} {n : ℕ} (h : Prefixed bind code steps c d n)
    (hn : n ≤ steps.length) {step : S}
    (hlast : Durable bind (code step) →
      ((code step).run (exec bind) (runAll bind code steps c)).1 ≠ .ok ()) :
    Prefixed bind code (steps ++ [step]) c d n := by
  obtain ⟨hd, hreturned⟩ := h
  refine ⟨?_, fun i other hother hdurable => ?_⟩
  · rw [List.take_append_of_le_length hn]
    exact hd
  · obtain ⟨hget, hok⟩ := hother
    rcases Nat.lt_trichotomy i steps.length with hlt | rfl | hgt
    · rw [List.getElem?_append_left hlt] at hget
      rw [List.take_append_of_le_length (Nat.le_of_lt hlt)] at hok
      exact hreturned i other ⟨hget, hok⟩ hdurable
    · rw [List.getElem?_concat_length] at hget
      cases hget
      rw [List.take_append_of_le_length (Nat.le_refl _), List.take_length] at hok
      exact absurd hok (hlast hdurable)
    · rw [List.getElem?_eq_none (by simp; omega)] at hget
      cases hget

/-- All of the programs. -/
theorem prefixed_all (steps : List S) {d : D} (hd : d = (runAll bind code steps c).seen) :
    Prefixed bind code steps c d steps.length := by
  refine ⟨by rw [List.take_length]; exact hd, fun i step hstep _ => ?_⟩
  by_contra hge
  have hget := hstep.1
  rw [List.getElem?_eq_none (by omega)] at hget
  cases hget

/-- **After programs that are atomic**, by induction from the last one: what is
committed is all that the first of them leave. -/
theorem runAll_prefixed (hatomic : ∀ step, Atomic bind (code step)) (hc : c.Idle)
    (steps : List S) :
    ∃ n ≤ steps.length, Prefixed bind code steps c (runAll bind code steps c).committed n := by
  induction steps using List.reverseRecOn with
  | nil => exact ⟨0, Nat.le_refl _, prefixed_all [] (Connection.quiet_iff.mpr hc).published.symm⟩
  | append_singleton steps step ih =>
    obtain ⟨n, hn, hprefixed⟩ := ih
    have hall : ∀ d, d = (runAll bind code (steps ++ [step]) c).seen →
        ∃ n ≤ (steps ++ [step]).length, Prefixed bind code (steps ++ [step]) c d n :=
      fun d hd => ⟨_, Nat.le_refl _, prefixed_all _ hd⟩
    have hrun : runAll bind code (steps ++ [step]) c =
        ((code step).run (exec bind) (runAll bind code steps c)).2 := runAll_append bind code ..
    have hone := hatomic step (runAll bind code steps c)
      ((code step).calls (exec bind) (runAll bind code steps c)).length
    rw [Prog.runFor_calls, ← hrun] at hone
    rcases hone with hsame | hseen
    · rw [hsame]
      by_cases hlast : Durable bind (code step) ∧
          ((code step).run (exec bind) (runAll bind code steps c)).1 = .ok ()
      · have hpublished := hlast.1 _ _ hlast.2
        rw [← hrun, hsame] at hpublished
        exact hall _ hpublished
      · refine ⟨n, Nat.le_trans hn (by simp), hprefixed.append hn fun hdurable hok => hlast ⟨hdurable, hok⟩⟩
    · exact hall _ hseen

/-- **When the next program is cut off**, what is committed is all that the first
programs leave, this one among them or not, and no program that returned is missing. -/
theorem committed_prefix (hatomic : ∀ step, Atomic bind (code step)) (hc : c.Idle)
    (steps : List S) (step : S) (k : ℕ) :
    ∃ n ≤ steps.length + 1,
      ((code step).runFor (exec bind) k (runAll bind code steps c)).committed =
          (runAll bind code ((steps ++ [step]).take n) c).seen ∧
        ∀ i done, Returned bind code steps c i done → Durable bind (code done) → i < n := by
  obtain ⟨n, hn, hd, hreturned⟩ := runAll_prefixed hatomic hc steps
  rcases hatomic step (runAll bind code steps c) k with hsame | hseen
  · refine ⟨n, Nat.le_trans hn (Nat.le_succ _), ?_, hreturned⟩
    rw [hsame, List.take_append_of_le_length hn]
    exact hd
  · refine ⟨steps.length + 1, Nat.le_refl _, ?_, fun i done hdone _ => ?_⟩
    · rw [hseen, List.take_of_length_le (by simp), runAll_append]
      rfl
    · by_contra hge
      have hget := hdone.1
      rw [List.getElem?_eq_none (by omega)] at hget
      cases hget

end Sequence

end SqlCall

end Effect
