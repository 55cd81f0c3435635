import Nadi.Effect.Prog
import Mathlib.Data.Nat.Notation

/-!
# A connection that opens transactions by itself

- `Connection`: the database that is committed, and what an open transaction has
  made of it.
- `SqlCall`: the calls on a connection. A statement that modifies opens a transaction
  before its parameters are bound, and leaves it open whether or not it is
  accepted; one that is refused has changed nothing. Only `commit` closes it.
- `idle_*`: where a program leaves the connection idle, rule by rule. What reads
  leaves it as it is; a statement followed by a commit leaves it idle if and only
  if it is accepted.
- `always_quiet_iff`: from programs to sequences of them.
-/

namespace Effect

/-- The database, and the open transaction if there is one. -/
structure Connection (D : Type) where
  committed : D
  pending : Option D

namespace Connection

variable {D : Type}

/-- What the next read sees. -/
def seen (c : Connection D) : D := c.pending.getD c.committed

/-- No transaction is open. -/
def Idle (c : Connection D) : Prop := c.pending = none

/-- After a statement has made something of the database. -/
def after (c : Connection D) (d : D) : Connection D := ⟨c.committed, some d⟩

/-- No transaction is open, and reads see what is committed. -/
structure Quiet (c : Connection D) : Prop where
  idle : c.Idle
  published : c.seen = c.committed

theorem quiet_iff {c : Connection D} : c.Quiet ↔ c.Idle := by
  refine ⟨Quiet.idle, fun h => ⟨h, ?_⟩⟩
  unfold seen
  rw [h]
  rfl

theorem not_idle_after (c : Connection D) (d : D) : ¬ (c.after d).Idle := nofun

@[simp] theorem seen_after (c : Connection D) (d : D) : (c.after d).seen = d := rfl

end Connection

/-- Calls on a connection to a database `D`, with parameters in `A` that are bound
as values in `V`. A query gives an `R`, or a number. -/
inductive SqlCall (D A V R ε : Type) where
  | select (params : List A) (query : (ℕ → V) → D → R)
  | number (params : List A) (query : (ℕ → V) → D → Int)
  | modify (params : List A) (change : (ℕ → V) → D → Except ε (Int × D))
  | commit

namespace SqlCall

variable {D A V R ε α β : Type}

abbrev Ret : SqlCall D A V R ε → Type
  | .select .. => R
  | .number .. => Int
  | .modify .. => Int
  | .commit => Unit

/-- Make one call. -/
def issue (call : SqlCall D A V R ε) : Prog (SqlCall D A V R ε) Ret ε call.Ret := .perform call

/-- The call changes nothing. -/
def Reads : SqlCall D A V R ε → Prop
  | .select .. => True
  | .number .. => True
  | _ => False

/-- A read makes a program that reads. -/
theorem issue_reads {call : SqlCall D A V R ε} (h : call.Reads) :
    (issue call).Within Reads fun _ => True := .perform h fun _ => trivial

variable [Inhabited V] (bind : A → Except ε V)

/-- The values of parameters, by position. -/
def bound (params : List A) : Except ε (ℕ → V) :=
  (params.mapM bind).map fun vs n => vs.getD n default

theorem bound_singleton (a : A) :
    bound bind [a] = (bind a).map fun v n => [v].getD n default := by
  unfold bound
  rw [List.mapM_cons, List.mapM_nil]
  cases bind a <;> rfl

/-- What a call does, with what it gives or raises. -/
def exec : Handler (SqlCall D A V R ε) Ret ε (Connection D)
  | .select params query, c => ((bound bind params).map fun p => query p c.seen, c)
  | .number params query, c => ((bound bind params).map fun p => query p c.seen, c)
  | .modify params change, c =>
    match bound bind params with
    | .error e => (.error e, c.after c.seen)
    | .ok p =>
      match change p c.seen with
      | .error e => (.error e, c.after c.seen)
      | .ok (id, d) => (.ok id, c.after d)
  | .commit, c => (.ok (), ⟨c.seen, none⟩)

variable {bind} {c : Connection D}

/-! ## Where a program leaves the connection idle -/

/-- A program that only reads leaves the connection as it is. -/
theorem run_reads {p : Prog (SqlCall D A V R ε) Ret ε α} (hp : p.Within Reads fun _ => True) :
    (p.run (exec bind) c).2 = c := by
  refine hp.preserves (I := fun c' => c' = c) ?_ rfl
  rintro (_ | _ | _ | _) s hs rfl
  · rfl
  · rfl
  · exact hs.elim
  · exact hs.elim

theorem idle_reads {p : Prog (SqlCall D A V R ε) Ret ε α} (hp : p.Within Reads fun _ => True)
    (hc : c.Idle) : (p.run (exec bind) c).2.Idle := by
  rw [run_reads hp]
  exact hc

/-- After reads, what comes next decides. -/
theorem idle_bind_reads {p : Prog (SqlCall D A V R ε) Ret ε α}
    {f : α → Prog (SqlCall D A V R ε) Ret ε β} (hp : p.Within Reads fun _ => True) (hc : c.Idle) :
    ((p.bind f).run (exec bind) c).2.Idle ↔
      ∀ a, (p.run (exec bind) c).1 = .ok a → ((f a).run (exec bind) c).2.Idle := by
  have hstate : (p.run (exec bind) c).2 = c := run_reads hp
  rcases hrun : p.run (exec bind) c with ⟨e | a, c'⟩
  · rw [hrun] at hstate
    rw [Prog.run_bind_error _ hrun]
    exact iff_of_true (hstate ▸ hc) fun _ h => nomatch h
  · rw [hrun] at hstate
    rw [Prog.run_bind_ok _ hrun]
    obtain rfl : c' = c := hstate
    exact ⟨fun h b hb => Except.ok.inj hb ▸ h, fun h => h a rfl⟩

/-- A value that may raise is computed before what comes next. -/
theorem idle_bind_ofExcept {r : Except ε α} {f : α → Prog (SqlCall D A V R ε) Ret ε β}
    (hc : c.Idle) :
    (((Prog.ofExcept r).bind f).run (exec bind) c).2.Idle ↔
      ∀ a, r = .ok a → ((f a).run (exec bind) c).2.Idle := by
  have hreads : (Prog.ofExcept r : Prog (SqlCall D A V R ε) Ret ε α).Within Reads fun _ => True :=
    .ofExcept fun _ _ => trivial
  rw [idle_bind_reads hreads hc, Prog.run_ofExcept]

/-- A guard raises before what comes next. -/
theorem idle_guard {φ : Prop} [Decidable φ] {e : ε} {p : Prog (SqlCall D A V R ε) Ret ε α}
    (hc : c.Idle) :
    ((if φ then .throw e else p).run (exec bind) c).2.Idle ↔
      (¬ φ → (p.run (exec bind) c).2.Idle) := by
  split
  · rename_i h
    exact iff_of_true hc fun hnot => absurd h hnot
  · rename_i h
    exact ⟨fun hidle _ => hidle, fun hidle => hidle h⟩

/-- A read with one parameter raises where it cannot be bound. -/
theorem idle_bind_query {a : A} (call : SqlCall D A V R ε) {answer : (ℕ → V) → call.Ret}
    {f : call.Ret → Prog (SqlCall D A V R ε) Ret ε α} (hreads : call.Reads)
    (hexec : exec bind call c = ((bound bind [a]).map answer, c)) (hc : c.Idle) :
    (((issue call).bind f).run (exec bind) c).2.Idle ↔
      ∀ v, bind a = .ok v → ((f (answer fun n => [v].getD n default)).run (exec bind) c).2.Idle := by
  have hrun : (issue call).run (exec bind) c = ((bound bind [a]).map answer, c) :=
    (Prog.run_perform _ _ _).trans hexec
  rw [idle_bind_reads (issue_reads hreads) hc, hrun, bound_singleton]
  cases bind a with
  | error e => exact iff_of_true (fun _ h => nomatch h) fun _ h => nomatch h
  | ok v => exact ⟨fun h w hw => Except.ok.inj hw ▸ h _ rfl, fun h w hw => Except.ok.inj hw ▸ h v rfl⟩

theorem idle_bind_select {a : A} {query : (ℕ → V) → D → R}
    {f : R → Prog (SqlCall D A V R ε) Ret ε α} (hc : c.Idle) :
    (((issue (.select [a] query)).bind f).run (exec bind) c).2.Idle ↔
      ∀ v, bind a = .ok v →
        ((f (query (fun n => [v].getD n default) c.seen)).run (exec bind) c).2.Idle :=
  idle_bind_query (.select [a] query) trivial rfl hc

theorem idle_bind_number {a : A} {query : (ℕ → V) → D → Int}
    {f : Int → Prog (SqlCall D A V R ε) Ret ε α} (hc : c.Idle) :
    (((issue (.number [a] query)).bind f).run (exec bind) c).2.Idle ↔
      ∀ v, bind a = .ok v →
        ((f (query (fun n => [v].getD n default) c.seen)).run (exec bind) c).2.Idle :=
  idle_bind_query (.number [a] query) trivial rfl hc

/-- The parameters of a statement can be bound, and it is accepted. -/
def Accepted (bind : A → Except ε V) (params : List A)
    (change : (ℕ → V) → D → Except ε (Int × D)) (d : D) : Prop :=
  ∃ p id d', bound bind params = .ok p ∧ change p d = .ok (id, d')

/-- After a statement, it must have been accepted, and what comes next decides. -/
theorem idle_bind_modify {params : List A} {change : (ℕ → V) → D → Except ε (Int × D)}
    {f : Int → Prog (SqlCall D A V R ε) Ret ε α} :
    (((issue (.modify params change)).bind f).run (exec bind) c).2.Idle ↔
      ∃ p id d', bound bind params = .ok p ∧ change p c.seen = .ok (id, d') ∧
        ((f id).run (exec bind) (c.after d')).2.Idle := by
  have hrun : (issue (.modify params change : SqlCall D A V R ε)).run (exec bind) c =
      match bound bind params with
      | .error e => (.error e, c.after c.seen)
      | .ok p =>
        match change p c.seen with
        | .error e => (.error e, c.after c.seen)
        | .ok (id, d) => (.ok id, c.after d) := Prog.run_perform _ _ _
  cases hbound : bound bind params with
  | error e =>
    rw [hbound] at hrun
    rw [Prog.run_bind_error _ hrun]
    exact iff_of_false (c.not_idle_after _) fun ⟨_, _, _, h, _⟩ => nomatch h
  | ok p =>
    rw [hbound] at hrun
    dsimp only at hrun
    rcases hchange : change p c.seen with e | ⟨id, d'⟩
    · rw [hchange] at hrun
      rw [Prog.run_bind_error _ hrun]
      refine iff_of_false (c.not_idle_after _) ?_
      rintro ⟨p', id, d', hp, hchange', -⟩
      cases hp
      cases hchange.symm.trans hchange'
    · rw [hchange] at hrun
      rw [Prog.run_bind_ok _ hrun]
      constructor
      · exact fun h => ⟨p, id, d', rfl, hchange, h⟩
      · rintro ⟨p', id', d'', hp, hchange', h⟩
        cases hp
        cases hchange.symm.trans hchange'
        exact h

/-- A commit closes what is open, whatever is read after it. -/
theorem idle_bind_commit {f : Unit → Prog (SqlCall D A V R ε) Ret ε α}
    (hf : (f ()).Within Reads fun _ => True) :
    (((issue .commit).bind f).run (exec bind) c).2.Idle := by
  have hrun : (issue (.commit : SqlCall D A V R ε)).run (exec bind) c = (.ok (), ⟨c.seen, none⟩) :=
    Prog.run_perform _ _ _
  rw [Prog.run_bind_ok _ hrun]
  exact idle_reads hf rfl

/-- **A statement and a commit** leave the connection idle if and only if the
statement is accepted. -/
theorem idle_write {params : List A} {change : (ℕ → V) → D → Except ε (Int × D)}
    {f : Int → Prog (SqlCall D A V R ε) Ret ε α}
    (hf : ∀ id, (f id).Within Reads fun _ => True) :
    (((issue (.modify params change)).bind fun id =>
      (issue .commit).bind fun _ => f id).run (exec bind) c).2.Idle ↔
      Accepted bind params change c.seen := by
  rw [idle_bind_modify]
  constructor
  · rintro ⟨p, id, d', hbound, hchange, -⟩
    exact ⟨p, id, d', hbound, hchange⟩
  · rintro ⟨p, id, d', hbound, hchange⟩
    exact ⟨p, id, d', hbound, hchange, idle_bind_commit (hf id)⟩

/-- Without a commit, a statement leaves its transaction open. -/
theorem not_idle_modify {params : List A} {change : (ℕ → V) → D → Except ε (Int × D)}
    {f : Int → Prog (SqlCall D A V R ε) Ret ε α}
    (hf : ∀ id, (f id).Within Reads fun _ => True) :
    ¬ (((issue (.modify params change)).bind f).run (exec bind) c).2.Idle := by
  rw [idle_bind_modify]
  rintro ⟨p, id, d', -, -, h⟩
  rw [run_reads (hf id)] at h
  exact c.not_idle_after d' h

/-! ## Sequences of programs -/

variable {S : Type} (code : S → Prog (SqlCall D A V R ε) Ret ε Unit)

/-- The connection is quiet after each of the programs, run one after the other. -/
def AlwaysQuiet (bind : A → Except ε V) : List S → Connection D → Prop
  | [], _ => True
  | step :: rest, c =>
    ((code step).run (exec bind) c).2.Quiet ∧
      AlwaysQuiet bind rest ((code step).run (exec bind) c).2

/-- Every program finds a database that it settles in. -/
def AlwaysSettles (bind : A → Except ε V) (settles : S → D → Prop) :
    List S → Connection D → Prop
  | [], _ => True
  | step :: rest, c =>
    settles step c.seen ∧ AlwaysSettles bind settles rest ((code step).run (exec bind) c).2

/-- **From one program to all of them**, if one leaves an idle connection idle
exactly where it settles. -/
theorem always_quiet_iff {settles : S → D → Prop} {steps : List S} (hc : c.Idle)
    (hstep : ∀ step ∈ steps, ∀ c : Connection D, c.Idle →
      (((code step).run (exec bind) c).2.Idle ↔ settles step c.seen)) :
    AlwaysQuiet code bind steps c ↔ AlwaysSettles code bind settles steps c := by
  induction steps generalizing c with
  | nil => exact Iff.rfl
  | cons step rest ih =>
    have hone := Connection.quiet_iff.trans (hstep step List.mem_cons_self c hc)
    have hrest := fun hidle => ih (c := ((code step).run (exec bind) c).2) hidle
      fun step h => hstep step (List.mem_cons_of_mem _ h)
    constructor
    · rintro ⟨hquiet, hall⟩
      exact ⟨hone.mp hquiet, (hrest hquiet.idle).mp hall⟩
    · rintro ⟨hsettles, hall⟩
      have hquiet := hone.mpr hsettles
      exact ⟨hquiet, (hrest hquiet.idle).mpr hall⟩

end SqlCall

end Effect
