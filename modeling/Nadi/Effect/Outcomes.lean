import Mathlib.Data.List.Forall2
import Nadi.Effect.Transaction

/-!
# What a program on a connection gives, and what it leaves

`Ends p c r d`: run on the connection `c`, the program `p` gives or raises `r`,
and reads then see the database `d`, whether it is committed or not. One rule for
each call, with its parameters bound: a statement that is accepted goes on with
the changed database, one that is refused ends the program with the database as
it was, and a commit changes nothing that is seen.
-/

namespace Effect

namespace SqlCall

variable {D A V R ε α β : Type} [Inhabited V] (bind : A → Except ε V)

/-- Run on a connection, a program gives or raises `r` and leaves `d` to be seen. -/
structure Ends (p : Prog (SqlCall D A V R ε) Ret ε α) (c : Connection D) (r : Except ε α)
    (d : D) : Prop where
  gives : (p.run (exec bind) c).1 = r
  leaves : (p.run (exec bind) c).2.seen = d

/-- Parameters that can be bound one by one can be bound. -/
theorem bound_eq {params : List A} {vs : List V}
    (h : List.Forall₂ (fun a v => bind a = .ok v) params vs) :
    bound bind params = .ok fun n => vs.getD n default := by
  have hmap : params.mapM bind = .ok vs := by
    induction h with
    | nil => rfl
    | cons hv _ ih =>
      rw [List.mapM_cons, hv, ih]
      rfl
  unfold bound
  rw [hmap]
  rfl

variable {bind} {c c' : Connection D} {p : ℕ → V} {r : Except ε α} {d d' : D}

/-! ## Programs without calls -/

theorem ends_pure {a : α} :
    Ends bind (.pure a : Prog (SqlCall D A V R ε) Ret ε α) c (.ok a) c.seen := ⟨rfl, rfl⟩

theorem ends_throw {e : ε} :
    Ends bind (.throw e : Prog (SqlCall D A V R ε) Ret ε α) c (.error e) c.seen := ⟨rfl, rfl⟩

theorem ends_ofExcept {r : Except ε α} :
    Ends bind (.ofExcept r : Prog (SqlCall D A V R ε) Ret ε α) c r c.seen := by
  cases r with
  | error e => exact ends_throw
  | ok a => exact ends_pure

/-- A value that does not raise is computed first. -/
theorem ends_value {s : Except ε β} {b : β} {f : β → Prog (SqlCall D A V R ε) Ret ε α}
    (hs : s = .ok b) (hf : Ends bind (f b) c r d) :
    Ends bind ((Prog.ofExcept s).bind f) c r d := by
  subst hs
  exact hf

/-- What a program gives, passed to a function. -/
theorem Ends.map {p : Prog (SqlCall D A V R ε) Ret ε β} {r : Except ε β}
    (h : Ends bind p c r d) (f : β → α) :
    Ends bind (p.bind fun b => .pure (f b)) c (r.map f) d := by
  obtain ⟨hgives, hleaves⟩ := h
  rcases hrun : p.run (exec bind) c with ⟨e | b, c'⟩
  · rw [hrun] at hgives hleaves
    subst hgives
    exact ⟨by rw [Prog.run_bind_error _ hrun]; rfl, by rw [Prog.run_bind_error _ hrun]; exact hleaves⟩
  · rw [hrun] at hgives hleaves
    subst hgives
    exact ⟨by rw [Prog.run_bind_ok _ hrun]; rfl, by rw [Prog.run_bind_ok _ hrun]; exact hleaves⟩

/-- A program that returns first, and what comes next on any connection that sees
what it leaves. -/
theorem Ends.andThen {p : Prog (SqlCall D A V R ε) Ret ε β} {b : β}
    {f : β → Prog (SqlCall D A V R ε) Ret ε α} (h : Ends bind p c (.ok b) d')
    (hf : ∀ c' : Connection D, c'.seen = d' → Ends bind (f b) c' r d) :
    Ends bind (p.bind f) c r d := by
  obtain ⟨hgives, hleaves⟩ := h
  rcases hrun : p.run (exec bind) c with ⟨e | b', c'⟩
  · rw [hrun] at hgives
    cases hgives
  · rw [hrun] at hgives hleaves
    cases hgives
    have hnext := hf c' hleaves
    exact ⟨by rw [Prog.run_bind_ok _ hrun]; exact hnext.gives,
      by rw [Prog.run_bind_ok _ hrun]; exact hnext.leaves⟩

/-! ## One call first -/

section Bind

variable {call : SqlCall D A V R ε} {f : call.Ret → Prog (SqlCall D A V R ε) Ret ε α}

theorem ends_call {b : call.Ret} (hcall : exec bind call c = (.ok b, c'))
    (hf : Ends bind (f b) c' r d) : Ends bind ((issue call).bind f) c r d := by
  have hrun : (issue call).run (exec bind) c = (.ok b, c') := (Prog.run_perform _ _ _).trans hcall
  exact ⟨by rw [Prog.run_bind_ok _ hrun]; exact hf.gives,
    by rw [Prog.run_bind_ok _ hrun]; exact hf.leaves⟩

theorem ends_call_error {e : ε} (hcall : exec bind call c = (.error e, c')) :
    Ends bind ((issue call).bind f) c (.error e) c'.seen := by
  have hrun : (issue call).run (exec bind) c = (.error e, c') :=
    (Prog.run_perform _ _ _).trans hcall
  exact ⟨by rw [Prog.run_bind_error _ hrun], by rw [Prog.run_bind_error _ hrun]⟩

end Bind

theorem ends_select {params : List A} {query : (ℕ → V) → D → R}
    {f : R → Prog (SqlCall D A V R ε) Ret ε α} {a : R} (hbound : bound bind params = .ok p)
    (ha : query p c.seen = a) (hf : Ends bind (f a) c r d) :
    Ends bind ((issue (.select params query)).bind f) c r d := by
  refine ends_call ?_ hf
  show ((bound bind params).map fun p => query p c.seen, c) = _
  rw [hbound, ← ha]
  rfl

theorem ends_number {params : List A} {query : (ℕ → V) → D → Int}
    {f : Int → Prog (SqlCall D A V R ε) Ret ε α} {n : Int} (hbound : bound bind params = .ok p)
    (hn : query p c.seen = n) (hf : Ends bind (f n) c r d) :
    Ends bind ((issue (.number params query)).bind f) c r d := by
  refine ends_call ?_ hf
  show ((bound bind params).map fun p => query p c.seen, c) = _
  rw [hbound, ← hn]
  rfl

section Modify

variable {params : List A} {change : (ℕ → V) → D → Except ε (Int × D)}
  {f : Int → Prog (SqlCall D A V R ε) Ret ε α}

theorem ends_modify {n : Int} (hbound : bound bind params = .ok p)
    (hchange : change p c.seen = .ok (n, d')) (hf : Ends bind (f n) (c.after d') r d) :
    Ends bind ((issue (.modify params change)).bind f) c r d := by
  refine ends_call ?_ hf
  simp only [exec, hbound, hchange]

theorem ends_modify_error {e : ε} (hbound : bound bind params = .ok p)
    (hchange : change p c.seen = .error e) :
    Ends bind ((issue (.modify params change)).bind f) c (.error e) c.seen := by
  have hcall : exec bind (.modify params change : SqlCall D A V R ε) c =
      (.error e, c.after c.seen) := by
    simp only [exec, hbound, hchange]
  exact (ends_call_error hcall : Ends bind _ _ _ (c.after c.seen).seen)

theorem ends_unbound {e : ε} (hbound : bound bind params = .error e) :
    Ends bind ((issue (.modify params change)).bind f) c (.error e) c.seen := by
  have hcall : exec bind (.modify params change : SqlCall D A V R ε) c =
      (.error e, c.after c.seen) := by
    simp only [exec, hbound]
  exact (ends_call_error hcall : Ends bind _ _ _ (c.after c.seen).seen)

end Modify

theorem ends_commit {f : Unit → Prog (SqlCall D A V R ε) Ret ε α}
    (hf : Ends bind (f ()) ⟨c.seen, none⟩ r d) :
    Ends bind ((issue .commit).bind f) c r d := ends_call rfl hf

/-- A statement that is accepted, and a commit. -/
theorem ends_save {params : List A} {change : (ℕ → V) → D → Except ε (Int × D)}
    {f : Int → Prog (SqlCall D A V R ε) Ret ε α} {n : Int} (hbound : bound bind params = .ok p)
    (hchange : change p c.seen = .ok (n, d')) (hf : Ends bind (f n) ⟨d', none⟩ r d) :
    Ends bind ((issue (.modify params change)).bind fun id =>
      (issue .commit).bind fun _ => f id) c r d :=
  ends_modify hbound hchange (ends_commit hf)

end SqlCall

end Effect
