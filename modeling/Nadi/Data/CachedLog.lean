import Mathlib.Data.List.Nodup
import Mathlib.Data.List.Infix
import Mathlib.Logic.Function.Basic

/-!
# A log and the copy that threads keep beside it

Threads append entries to a log and apply each to a copy of what the log adds
up to, in a second step: between the two, others append and apply as well. A
thread that finds no copy builds one: it reads the log, loads what it has read,
and publishes the result, while others go on appending.

`Move` lists the steps. Two of them are guarded: an entry is applied to the copy
in use only after the entries before it, up to exchange (`Move.apply`), and a
copy is published only if what it has read is what nobody else will apply to it
(`Move.publish`). Under these guards the copy in use is always what the settled
entries add up to (`Inv`), hence what the log adds up to when no thread is in
between (`Inv.agrees_of_idle`).
-/

namespace Data.CachedLog

variable {ι E σ : Type}

/-! ## Folding a log out of order -/

section Fold

variable (step : σ → E → σ)

/-- Two entries, in this order or the other. -/
def Swaps (a b : E) : Prop := ∀ s, step (step s a) b = step (step s b) a

/-- An entry that adds nothing. -/
def Neutral (a : E) : Prop := ∀ s, step s a = s

variable {step} {a b : E}

theorem Neutral.swaps (h : Neutral step a) : Swaps step a b := fun s => by rw [h, h]

theorem Neutral.swaps' (h : Neutral step b) : Swaps step a b := fun s => by rw [h, h]

/-- An entry may be moved past entries it swaps with. -/
theorem foldl_swaps {later : List E} (h : ∀ b ∈ later, Swaps step a b) (s : σ) :
    later.foldl step (step s a) = step (later.foldl step s) a := by
  induction later generalizing s with
  | nil => rfl
  | cons b rest ih =>
    rw [List.foldl_cons, List.foldl_cons, h b List.mem_cons_self,
      ih fun c hc => h c (List.mem_cons_of_mem _ hc)]

/-- One entry more in the selection is the entry at the end. -/
theorem foldl_filter_add {p q : E → Bool} {before later : List E} (hp : p a = false)
    (hq : q a = true) (hsame : ∀ b ∈ before ++ later, q b = p b)
    (hswaps : ∀ b ∈ later, p b = true → Swaps step a b) (s : σ) :
    ((before ++ a :: later).filter q).foldl step s =
      step (((before ++ a :: later).filter p).foldl step s) a := by
  have hbefore : before.filter q = before.filter p :=
    List.filter_congr fun b hb => hsame b (List.mem_append_left _ hb)
  have hlater : later.filter q = later.filter p :=
    List.filter_congr fun b hb => hsame b (List.mem_append_right _ hb)
  rw [List.filter_append, List.filter_append, List.filter_cons_of_pos hq,
    List.filter_cons_of_neg (by simp [hp]), hbefore, hlater, List.foldl_append, List.foldl_append,
    List.foldl_cons]
  exact foldl_swaps (fun b hb => hswaps b (List.mem_filter.mp hb).1 (List.mem_filter.mp hb).2) _

/-- Selections that differ in neutral entries add up to the same. -/
theorem foldl_filter_neutral {p q : E → Bool} {log : List E}
    (h : ∀ a ∈ log, Neutral step a ∨ p a = q a) (s : σ) :
    (log.filter p).foldl step s = (log.filter q).foldl step s := by
  induction log generalizing s with
  | nil => rfl
  | cons a rest ih =>
    have hrest := ih fun b hb => h b (List.mem_cons_of_mem _ hb)
    rcases h a List.mem_cons_self with hneutral | hsame
    · have hskip : ∀ r : E → Bool, ((a :: rest).filter r).foldl step s =
          (rest.filter r).foldl step s := by
        intro r
        rw [List.filter_cons]
        split
        · rw [List.foldl_cons, hneutral]
        · rfl
      rw [hskip, hskip, hrest]
    · rw [List.filter_cons, List.filter_cons, hsame]
      split
      · exact hrest _
      · exact hrest _

end Fold

/-! ## The protocol -/

/-- What a thread is doing. -/
inductive Phase (E : Type) where
  | idle
  /-- It has appended an entry and looks for the copy next. -/
  | wrote (e : E)
  /-- It has found a copy and applies its entry to it next. -/
  | holding (addr : ℕ) (e : E)
  /-- It has a new copy that nobody else knows. -/
  | fresh (addr : ℕ)
  /-- It has read the log, the rest of which it has to load into its copy. -/
  | building (addr : ℕ) (read rest : List E)

/-- The entry a thread has appended and not yet applied. -/
def Phase.carried? : Phase E → Option E
  | .wrote e => some e
  | .holding _ e => some e
  | _ => none

/-- The copy a thread has to itself. -/
def Phase.private? : Phase E → Option ℕ
  | .fresh a => some a
  | .building a _ _ => some a
  | _ => none

/-- The log, the copy in use, and all the copies. -/
structure Board (E σ : Type) where
  log : List E
  slot : Option ℕ
  heap : ℕ → σ
  next : ℕ

/-- An entry that a thread has yet to apply to the copy in use. -/
def Pending (φ : ι → Phase E) (slot : Option ℕ) (e : E) : Prop :=
  ∃ i, φ i = .wrote e ∨ ∃ a, φ i = .holding a e ∧ slot = some a

/-- One entry stands before another. -/
def Before (log : List E) (a b : E) : Prop := [a, b].Sublist log

theorem before_of_mem {before later : List E} {a b : E} (hb : b ∈ later) :
    Before (before ++ a :: later) a b :=
  ((List.singleton_sublist.mpr hb).cons_cons a).trans (List.sublist_append_right _ _)

/-- The start of a log without duplicates is the selection of its members. -/
theorem filter_mem_start {read rest : List E} (hnodup : (read ++ rest).Nodup) :
    (read ++ rest).filter (fun e => open Classical in decide (e ∈ read)) = read := by
  have hdisjoint := (List.nodup_append.mp hnodup).2.2
  rw [List.filter_append, List.filter_eq_self.mpr (by simp), List.filter_eq_nil_iff.mpr,
    List.append_nil]
  intro e he
  simpa using fun hread => hdisjoint e hread e he rfl

/-- A new entry stands before no other. -/
theorem before_append {log : List E} {a b e : E} (h : Before (log ++ [e]) a b) (hne : b ≠ e) :
    Before log a b := by
  obtain ⟨l, r, heq, hl, hr⟩ := List.sublist_append_iff.mp h
  cases r with
  | nil =>
    rw [List.append_nil] at heq
    subst heq
    exact hl
  | cons x rest =>
    obtain ⟨rfl, hrest⟩ : x = e ∧ rest = [] := by simpa using hr
    have hlast : b = x := by
      have hget := congrArg List.getLast? heq
      simpa [hrest] using hget
    exact absurd hlast hne

/-- Nothing in the rest of a log stands before what is in its start. -/
theorem not_before_of_append {read rest : List E} {a b : E} (hnodup : (read ++ rest).Nodup)
    (ha : a ∉ read) (hb : b ∈ read) : ¬Before (read ++ rest) a b := by
  intro h
  obtain ⟨l, r, heq, hl, hr⟩ := List.sublist_append_iff.mp h
  cases l with
  | nil =>
    rw [List.nil_append] at heq
    have hmem : b ∈ rest := hr.subset (heq ▸ by simp)
    exact (List.nodup_append.mp hnodup).2.2 b hb b hmem rfl
  | cons x l =>
    have hx : a = x := (List.cons.inj heq).1
    exact ha (hl.subset (hx ▸ List.mem_cons_self))

/-- When an entry may be applied to the copy in use. -/
def MayApply (step : σ → E → σ) (φ : ι → Phase E) (b : Board E σ) (e : E) : Prop :=
  ∀ e', Before b.log e' e → Pending φ b.slot e' → Swaps step e' e

/-- When a copy of what has been read may be published: of the entries that add
something, it has read those whose threads will not look for it. -/
def MayPublish (step : σ → E → σ) (φ : ι → Phase E) (b : Board E σ) (read : List E) : Prop :=
  ∀ e ∈ b.log, Neutral step e ∨ (e ∈ read ↔ ¬∃ i, φ i = .wrote e)

section Moves

variable [DecidableEq ι] (step : σ → E → σ) (init : σ)

/-- The steps of the threads. -/
inductive Move : (ι → Phase E) → Board E σ → (ι → Phase E) → Board E σ → Prop where
  | append {φ b} (i : ι) (e : E) (hi : φ i = .idle) (hnew : e ∉ b.log) :
      Move φ b (Function.update φ i (.wrote e)) { b with log := b.log ++ [e] }
  | miss {φ b} (i : ι) (e : E) (hi : φ i = .wrote e) (hslot : b.slot = none) :
      Move φ b (Function.update φ i .idle) b
  | find {φ b} (i : ι) (a : ℕ) (e : E) (hi : φ i = .wrote e) (hslot : b.slot = some a) :
      Move φ b (Function.update φ i (.holding a e)) b
  | apply {φ b} (i : ι) (a : ℕ) (e : E) (hi : φ i = .holding a e)
      (hguard : b.slot = some a → MayApply step φ b e) :
      Move φ b (Function.update φ i .idle)
        { b with heap := Function.update b.heap a (step (b.heap a) e) }
  | alloc {φ b} (i : ι) (hi : φ i = .idle) :
      Move φ b (Function.update φ i (.fresh b.next))
        { b with heap := Function.update b.heap b.next init, next := b.next + 1 }
  | read {φ b} (i : ι) (a : ℕ) (hi : φ i = .fresh a) :
      Move φ b (Function.update φ i (.building a b.log b.log)) b
  | load {φ b} (i : ι) (a : ℕ) (e : E) (read rest : List E)
      (hi : φ i = .building a read (e :: rest)) :
      Move φ b (Function.update φ i (.building a read rest))
        { b with heap := Function.update b.heap a (step (b.heap a) e) }
  | leave {φ b} (i : ι) (hi : (φ i).carried? = none) : Move φ b (Function.update φ i .idle) b
  | publish {φ b} (i : ι) (a : ℕ) (read : List E) (hi : φ i = .building a read [])
      (hguard : MayPublish step φ b read) :
      Move φ b (Function.update φ i .idle) { b with slot := some a }

/-- The settled entries of the log. -/
noncomputable def settled (φ : ι → Phase E) (b : Board E σ) : List E :=
  open Classical in b.log.filter fun e => decide (¬Pending φ b.slot e)

/-- The invariant: whose entries are where, whose copies are whose, what is in
each of them, and that no entry has overtaken one it does not swap with. -/
structure Inv (φ : ι → Phase E) (b : Board E σ) : Prop where
  nodup : b.log.Nodup
  logged : ∀ i e, (φ i).carried? = some e → e ∈ b.log
  own : ∀ i j e, (φ i).carried? = some e → (φ j).carried? = some e → i = j
  allocated : ∀ a, b.slot = some a → a < b.next
  held : ∀ i a e, φ i = .holding a e → a < b.next
  privateLt : ∀ i a, (φ i).private? = some a → a < b.next
  privateSlot : ∀ i a, (φ i).private? = some a → b.slot ≠ some a
  privateHeld : ∀ i j a e, (φ i).private? = some a → φ j ≠ .holding a e
  privateOwn : ∀ i j a, (φ i).private? = some a → (φ j).private? = some a → i = j
  fresh : ∀ i a, φ i = .fresh a → b.heap a = init
  built : ∀ i a read rest, φ i = .building a read rest →
    read <+: b.log ∧ rest.foldl step (b.heap a) = read.foldl step init
  agrees : ∀ a, b.slot = some a → b.heap a = (settled φ b).foldl step init
  ordered : ∀ a, b.slot = some a → ∀ d e, Before b.log d e → Pending φ b.slot d →
    ¬Pending φ b.slot e → Swaps step d e

variable {step init} {φ φ' : ι → Phase E} {b b' : Board E σ} {i : ι} {a : ℕ} {e : E}

omit [DecidableEq ι] in
theorem settled_congr (hlog : b'.log = b.log)
    (h : ∀ e ∈ b.log, Pending φ' b'.slot e ↔ Pending φ b.slot e) : settled φ' b' = settled φ b := by
  unfold settled
  rw [hlog]
  exact List.filter_congr fun e he => decide_eq_decide.mpr (not_congr (h e he))

/-! ## What each step preserves -/

attribute [local grind =] Phase.carried? Phase.private? Function.update_apply

theorem pending_append (hi : φ i = .idle) {d : E} :
    Pending (Function.update φ i (.wrote e)) b.slot d ↔ Pending φ b.slot d ∨ d = e := by
  constructor
  · rintro ⟨j, hj⟩
    grind [Pending]
  · rintro (⟨j, hj⟩ | rfl)
    · exact ⟨j, by grind⟩
    · exact ⟨i, .inl (Function.update_self _ _ _)⟩

theorem pending_find {slot : Option ℕ} (hi : φ i = .wrote e) (hslot : slot = some a) {d : E} :
    Pending (Function.update φ i (.holding a e)) slot d ↔ Pending φ slot d := by
  constructor
  · rintro ⟨j, hj⟩
    grind [Pending]
  · rintro ⟨j, hj⟩
    exact ⟨j, by grind⟩

/-- Threads that have nothing appended may do what they like. -/
theorem pending_other {slot : Option ℕ} {p : Phase E} (hi : (φ i).carried? = none)
    (hp : p.carried? = none) {d : E} :
    Pending (Function.update φ i p) slot d ↔ Pending φ slot d := by
  constructor
  · rintro ⟨j, hj⟩
    grind [Pending]
  · rintro ⟨j, hj⟩
    exact ⟨j, by grind⟩

/-- An entry that is applied to the copy in use is settled. -/
theorem pending_apply (hi : φ i = .holding a e)
    (hown : ∀ j, (φ j).carried? = some e → j = i) {d : E} :
    Pending (Function.update φ i .idle) (some a) d ↔ Pending φ (some a) d ∧ d ≠ e := by
  constructor
  · rintro ⟨j, hj⟩
    have hji : j ≠ i := by grind
    rw [Function.update_of_ne hji] at hj
    refine ⟨⟨j, hj⟩, fun heq => hji (hown j ?_)⟩
    grind
  · rintro ⟨⟨j, hj⟩, hne⟩
    have hji : j ≠ i := by grind
    exact ⟨j, by rwa [Function.update_of_ne hji]⟩

/-- To a copy that is not in use, nothing pending is applied. -/
theorem pending_apply_other {slot : Option ℕ} (hi : φ i = .holding a e) (hslot : slot ≠ some a)
    {d : E} : Pending (Function.update φ i .idle) slot d ↔ Pending φ slot d := by
  constructor
  · rintro ⟨j, hj⟩
    have hji : j ≠ i := by grind
    exact ⟨j, by rwa [Function.update_of_ne hji] at hj⟩
  · rintro ⟨j, hj⟩
    have hji : j ≠ i := by grind
    exact ⟨j, by rwa [Function.update_of_ne hji]⟩

/-- For a copy that only one thread knows, the entries to come are those whose
threads have not looked for it. -/
theorem pending_publish (hi : (φ i).carried? = none) (hheld : ∀ j e, φ j ≠ .holding a e) {d : E} :
    Pending (Function.update φ i .idle) (some a) d ↔ ∃ j, φ j = .wrote d := by
  constructor
  · rintro ⟨j, hj⟩
    have hji : j ≠ i := by grind
    rw [Function.update_of_ne hji] at hj
    rcases hj with hj | ⟨a', hj, ha'⟩
    · exact ⟨j, hj⟩
    · cases ha'
      exact absurd hj (hheld j d)
  · rintro ⟨j, hj⟩
    have hji : j ≠ i := by grind
    exact ⟨j, .inl (by rwa [Function.update_of_ne hji])⟩

namespace Inv

theorem append (h : Inv step init φ b) (hi : φ i = .idle) (hnew : e ∉ b.log) :
    Inv step init (Function.update φ i (.wrote e)) { b with log := b.log ++ [e] } := by
  obtain ⟨nodup, logged, own, allocated, held, privateLt, privateSlot, privateHeld, privateOwn,
    fresh, built, agrees, ordered⟩ := h
  have hpending : ∀ d, Pending (Function.update φ i (.wrote e)) b.slot d ↔
      Pending φ b.slot d ∨ d = e := fun d => pending_append hi
  constructor
  · grind [List.nodup_append]
  · grind
  · grind
  · exact allocated
  · grind
  · grind
  · grind
  · grind
  · grind
  · grind
  · intro j a read rest hj
    have hold : φ j = .building a read rest := by grind
    obtain ⟨hread, hrest⟩ := built j a read rest hold
    exact ⟨hread.trans (List.prefix_append _ _), hrest⟩
  · intro a ha
    -- the new entry is pending, and nothing else has changed
    have hsettled : settled (Function.update φ i (.wrote e)) { b with log := b.log ++ [e] } =
        settled φ b := by
      unfold settled
      rw [List.filter_append]
      have hlast : [e].filter (fun d => open Classical in
          decide (¬Pending (Function.update φ i (.wrote e)) b.slot d)) = [] := by
        simp [hpending]
      have hrest : b.log.filter (fun d => open Classical in
          decide (¬Pending (Function.update φ i (.wrote e)) b.slot d)) =
          b.log.filter fun d => open Classical in decide (¬Pending φ b.slot d) := by
        refine List.filter_congr fun d hd => ?_
        have hne : d ≠ e := fun heq => hnew (heq ▸ hd)
        simp [hpending, hne]
      exact (congrArg₂ _ hrest hlast).trans (List.append_nil _)
    rw [hsettled]
    exact agrees a ha
  · intro a ha d d' hbefore hd hd'
    rw [hpending] at hd hd'
    obtain ⟨hd', hne⟩ := not_or.mp hd'
    have hbefore' : Before b.log d d' := before_append hbefore hne
    rcases hd with hd | rfl
    · exact ordered a ha d d' hbefore' hd hd'
    · exact absurd (hbefore'.subset List.mem_cons_self) hnew

theorem miss (h : Inv step init φ b) (hslot : b.slot = none) :
    Inv step init (Function.update φ i .idle) b := by
  obtain ⟨nodup, logged, own, allocated, held, privateLt, privateSlot, privateHeld, privateOwn,
    fresh, built, agrees, ordered⟩ := h
  constructor <;> grind

theorem find (h : Inv step init φ b) (hi : φ i = .wrote e) (hslot : b.slot = some a) :
    Inv step init (Function.update φ i (.holding a e)) b := by
  have hpending : ∀ d, Pending (Function.update φ i (.holding a e)) b.slot d ↔
      Pending φ b.slot d := fun d => pending_find hi hslot
  have hsettled : settled (Function.update φ i (.holding a e)) b = settled φ b :=
    settled_congr rfl fun d _ => hpending d
  obtain ⟨nodup, logged, own, allocated, held, privateLt, privateSlot, privateHeld, privateOwn,
    fresh, built, agrees, ordered⟩ := h
  constructor
  case agrees => rwa [hsettled]
  case ordered => simpa only [hpending] using ordered
  all_goals grind

/-- A thread that has nothing appended turns to something else that is its own. -/
theorem alloc (h : Inv step init φ b) (hi : φ i = .idle) :
    Inv step init (Function.update φ i (.fresh b.next))
      { b with heap := Function.update b.heap b.next init, next := b.next + 1 } := by
  have hpending : ∀ d, Pending (Function.update φ i (.fresh b.next)) b.slot d ↔
      Pending φ b.slot d := fun d => pending_other (by rw [hi]; rfl) rfl
  have hsettled : settled (Function.update φ i (.fresh b.next))
      { b with heap := Function.update b.heap b.next init, next := b.next + 1 } = settled φ b :=
    settled_congr rfl fun d _ => hpending d
  obtain ⟨nodup, logged, own, allocated, held, privateLt, privateSlot, privateHeld, privateOwn,
    fresh, built, agrees, ordered⟩ := h
  constructor
  case agrees =>
    intro a ha
    have hne : a ≠ b.next := Nat.ne_of_lt (allocated a ha)
    rw [hsettled]
    exact (Function.update_of_ne hne _ _).trans (agrees a ha)
  case ordered => simpa only [hpending] using ordered
  all_goals grind

theorem read (h : Inv step init φ b) (hi : φ i = .fresh a) :
    Inv step init (Function.update φ i (.building a b.log b.log)) b := by
  have hpending : ∀ d, Pending (Function.update φ i (.building a b.log b.log)) b.slot d ↔
      Pending φ b.slot d := fun d => pending_other (by rw [hi]; rfl) rfl
  have hsettled : settled (Function.update φ i (.building a b.log b.log)) b = settled φ b :=
    settled_congr rfl fun d _ => hpending d
  obtain ⟨nodup, logged, own, allocated, held, privateLt, privateSlot, privateHeld, privateOwn,
    fresh, built, agrees, ordered⟩ := h
  constructor
  case agrees => rwa [hsettled]
  case ordered => simpa only [hpending] using ordered
  all_goals grind

theorem load {read rest : List E} (h : Inv step init φ b)
    (hi : φ i = .building a read (e :: rest)) :
    Inv step init (Function.update φ i (.building a read rest))
      { b with heap := Function.update b.heap a (step (b.heap a) e) } := by
  have hpending : ∀ d, Pending (Function.update φ i (.building a read rest)) b.slot d ↔
      Pending φ b.slot d := fun d => pending_other (by rw [hi]; rfl) rfl
  have hsettled : settled (Function.update φ i (.building a read rest))
      { b with heap := Function.update b.heap a (step (b.heap a) e) } = settled φ b :=
    settled_congr rfl fun d _ => hpending d
  obtain ⟨nodup, logged, own, allocated, held, privateLt, privateSlot, privateHeld, privateOwn,
    fresh, built, agrees, ordered⟩ := h
  have hown : (φ i).private? = some a := by rw [hi]; rfl
  constructor
  case agrees =>
    intro a' ha'
    have hne : a' ≠ a := fun heq => privateSlot i a hown (heq ▸ ha')
    rw [hsettled]
    exact (Function.update_of_ne hne _ _).trans (agrees a' ha')
  case ordered => simpa only [hpending] using ordered
  case built =>
    intro j a' read' rest' hj
    by_cases hij : j = i
    · subst hij
      rw [Function.update_self] at hj
      cases hj
      dsimp only
      rw [Function.update_self]
      exact built j a read (e :: rest) hi
    · rw [Function.update_of_ne hij] at hj
      have hne : a' ≠ a := by grind
      dsimp only
      rw [Function.update_of_ne hne]
      exact built j a' read' rest' hj
  all_goals grind

/-- An entry is applied; where this is the copy in use, after all before it. -/
theorem apply (h : Inv step init φ b) (hi : φ i = .holding a e)
    (hguard : b.slot = some a → MayApply step φ b e) :
    Inv step init (Function.update φ i .idle)
      { b with heap := Function.update b.heap a (step (b.heap a) e) } := by
  classical
  have hown : ∀ j, (φ j).carried? = some e → j = i := fun j hj => h.own j i e hj (by rw [hi]; rfl)
  have hmem : e ∈ b.log := h.logged i e (by rw [hi]; rfl)
  obtain ⟨nodup, logged, own, allocated, held, privateLt, privateSlot, privateHeld, privateOwn,
    fresh, built, agrees, ordered⟩ := h
  constructor
  case agrees =>
    intro a' ha'
    by_cases ha : a' = a
    · subst ha
      obtain ⟨before, later, hlog⟩ := List.append_of_mem hmem
      have hpending : ∀ d, Pending (Function.update φ i .idle) b.slot d ↔
          Pending φ b.slot d ∧ d ≠ e := fun d => ha' ▸ pending_apply hi hown
      have hother : ∀ d ∈ before ++ later, d ≠ e := by
        rw [hlog] at nodup
        grind [List.nodup_append]
      -- what is settled grows by `e`, which no settled entry follows
      have hadd : (b.log.filter fun d => open Classical in
            decide (¬Pending (Function.update φ i .idle) b.slot d)).foldl step init =
          step ((b.log.filter fun d => open Classical in
            decide (¬Pending φ b.slot d)).foldl step init) e := by
        rw [hlog]
        refine foldl_filter_add ?_ ?_ (fun d hd => ?_) (fun d hd hsettled => ?_) init
        · exact decide_eq_false (not_not.mpr ⟨i, .inr ⟨a', hi, ha'⟩⟩)
        · exact decide_eq_true (by simp [hpending])
        · exact decide_eq_decide.mpr (by simp [hpending, hother d hd])
        · refine ordered a' ha' e d ?_ ⟨i, .inr ⟨a', hi, ha'⟩⟩ (of_decide_eq_true hsettled)
          exact hlog ▸ before_of_mem hd
      refine (Function.update_self _ _ _).trans ?_
      rw [agrees a' ha']
      exact hadd.symm
    · have hslot : b.slot ≠ some a := fun heq => ha (Option.some.inj (ha'.symm.trans heq))
      have hsettled : settled (Function.update φ i .idle)
          { b with heap := Function.update b.heap a (step (b.heap a) e) } = settled φ b :=
        settled_congr rfl fun d _ => pending_apply_other hi hslot
      rw [hsettled]
      exact (Function.update_of_ne ha _ _).trans (agrees a' ha')
  case ordered =>
    intro a' ha' d d' hbefore hd hd'
    by_cases ha : a' = a
    · subst ha
      have hpending : ∀ d, Pending (Function.update φ i .idle) b.slot d ↔
          Pending φ b.slot d ∧ d ≠ e := fun d => ha' ▸ pending_apply hi hown
      rw [hpending] at hd hd'
      by_cases he : d' = e
      -- the guard: nothing before `e` is pending
      · exact he ▸ hguard ha' d (he ▸ hbefore) hd.1
      · exact ordered a' ha' d d' hbefore hd.1 fun hp => hd' ⟨hp, he⟩
    · have hslot : b.slot ≠ some a := fun heq => ha (Option.some.inj (ha'.symm.trans heq))
      rw [pending_apply_other hi hslot] at hd hd'
      exact ordered a' ha' d d' hbefore hd hd'
  case built =>
    intro j a' read rest hj
    have hne : a' ≠ a := by grind
    have hold : φ j = .building a' read rest := by grind
    dsimp only
    rw [Function.update_of_ne hne]
    exact built j a' read rest hold
  all_goals grind

theorem publish {read : List E} (h : Inv step init φ b) (hi : φ i = .building a read [])
    (hguard : MayPublish step φ b read) :
    Inv step init (Function.update φ i .idle) { b with slot := some a } := by
  have hprivate : (φ i).private? = some a := by rw [hi]; rfl
  have hpending : ∀ d, Pending (Function.update φ i .idle) (some a) d ↔ ∃ j, φ j = .wrote d :=
    fun d => pending_publish (by rw [hi]; rfl) (fun j e => h.privateHeld i j a e hprivate)
  obtain ⟨nodup, logged, own, allocated, held, privateLt, privateSlot, privateHeld, privateOwn,
    fresh, built, agrees, ordered⟩ := h
  obtain ⟨⟨rest, hlog⟩, hread⟩ := built i a read [] hi
  constructor
  case agrees =>
    intro a' ha'
    cases ha'
    show b.heap a = (b.log.filter fun d => open Classical in
      decide (¬Pending (Function.update φ i .idle) (some a) d)).foldl step init
    rw [List.foldl_nil] at hread
    have hparts : (read ++ rest).Nodup := hlog.symm ▸ nodup
    have hstart := filter_mem_start hparts
    rw [hlog] at hstart
    refine (hread.trans (congrArg (List.foldl step init) hstart.symm)).trans ?_
    refine (foldl_filter_neutral (fun d hd => ?_) init).symm
    rcases hguard d hd with hneutral | hiff
    · exact .inl hneutral
    · exact .inr (decide_eq_decide.mpr (by rw [hpending, hiff]))
  case ordered =>
    intro a' ha' d d' hbefore hd hd'
    cases ha'
    rw [hpending] at hd hd'
    have hsub : ∀ {x}, x = d ∨ x = d' → x ∈ b.log := fun hx =>
      hbefore.subset (by simpa using hx)
    rcases hguard d (hsub (.inl rfl)) with hneutral | hiff
    · exact hneutral.swaps
    rcases hguard d' (hsub (.inr rfl)) with hneutral | hiff'
    · exact hneutral.swaps'
    · -- what stands before an entry that was read was read as well
      rw [← hlog] at nodup
      have hnot : d ∉ read := fun hmem => hiff.mp hmem hd
      have hnone := not_before_of_append nodup hnot (hiff'.mpr hd')
      rw [hlog] at hnone
      exact absurd hbefore hnone
  all_goals grind

/-- A thread gives up a copy that it was building. -/
theorem leave (h : Inv step init φ b) (hi : (φ i).carried? = none) :
    Inv step init (Function.update φ i .idle) b := by
  have hpending : ∀ d, Pending (Function.update φ i .idle) b.slot d ↔ Pending φ b.slot d :=
    fun d => pending_other hi rfl
  have hsettled : settled (Function.update φ i .idle) b = settled φ b :=
    settled_congr rfl fun d _ => hpending d
  obtain ⟨nodup, logged, own, allocated, held, privateLt, privateSlot, privateHeld, privateOwn,
    fresh, built, agrees, ordered⟩ := h
  constructor
  case agrees => rwa [hsettled]
  case ordered => simpa only [hpending] using ordered
  all_goals grind

/-- **Every step** keeps the invariant. -/
theorem move (h : Inv step init φ b) (hm : Move step init φ b φ' b') : Inv step init φ' b' := by
  cases hm with
  | append i e hi hnew => exact h.append hi hnew
  | miss i e hi hslot => exact h.miss hslot
  | find i a e hi hslot => exact h.find hi hslot
  | apply i a e hi hguard => exact h.apply hi hguard
  | alloc i hi => exact h.alloc hi
  | read i a hi => exact h.read hi
  | load i a e read rest hi => exact h.load hi
  | leave i hi => exact h.leave hi
  | publish i a read hi hguard => exact h.publish hi hguard

omit [DecidableEq ι] in
/-- Where no thread is in between, everything is settled. -/
theorem settled_of_idle (hidle : ∀ i, φ i = .idle) : settled φ b = b.log := by
  classical
  refine List.filter_eq_self.mpr fun e _ => decide_eq_true ?_
  rintro ⟨i, hi⟩
  grind

omit [DecidableEq ι] in
/-- A start from which the copy in use, if any, is what the log adds up to. -/
theorem start (hidle : ∀ i, φ i = .idle) (hnodup : b.log.Nodup)
    (hallocated : ∀ a, b.slot = some a → a < b.next)
    (hagrees : ∀ a, b.slot = some a → b.heap a = b.log.foldl step init) : Inv step init φ b := by
  have hsettled : settled φ b = b.log := settled_of_idle hidle
  constructor
  case agrees => rwa [hsettled]
  case ordered =>
    rintro a ha d e - ⟨i, hi⟩
    grind
  all_goals grind

omit [DecidableEq ι] in
/-- **When no thread is in between**, the copy in use is what the log adds up to. -/
theorem agrees_of_idle (h : Inv step init φ b) (hidle : ∀ i, φ i = .idle)
    (hslot : b.slot = some a) : b.heap a = b.log.foldl step init := by
  rw [h.agrees a hslot, settled_of_idle hidle]

end Inv

end Moves

end Data.CachedLog
