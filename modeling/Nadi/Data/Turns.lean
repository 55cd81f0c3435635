import Mathlib.Data.List.Basic
import Mathlib.Data.Nat.Notation
import Mathlib.Logic.Function.Basic
import Mathlib.Logic.Relation
import Mathlib.Order.Basic

/-!
# Workers that take batches from one queue

Items are numbered as they arrive. A worker with nothing to do takes all that
waits as its batch, and then works through it: it begins an item, ends it, begins
the next. Workers know nothing of each other, so one may begin an item while
another is in the middle of one, or still holds an earlier one. Where each item is
begun only when neither is the case (`Board.MayBegin`), the items are done one
after the other and in the order of their numbers (`Orderly.moves`).

A worker may give up at any moment, leaving what it holds undone, and an item
that waits may be withdrawn.
-/

namespace Data.Turns

variable {ι κ : Type}

/-- What of a worker's doings is recorded. -/
inductive Deed (κ : Type) where
  | began (id : κ)
  | ended

/-- What a worker is at: whether it is in the middle of an item, and what is left
of its batch. -/
structure Task (κ : Type) where
  begun : Bool
  left : List κ

/-- Nothing to do. -/
def Task.idle : Task κ := ⟨false, []⟩

/-- The last number given, what waits, what the workers are at, and the record. -/
structure Board (ι κ : Type) where
  last : κ
  waiting : List κ
  tasks : ι → Task κ
  deeds : List (ι × Deed κ)

/-! ## Records -/

/-- The item that a deed begins. -/
def Deed.begins : Deed κ → Option κ
  | .began id => some id
  | .ended => none

/-- The items that were begun, in order. -/
def begunIds (deeds : List (ι × Deed κ)) : List κ := deeds.filterMap fun d => d.2.begins

@[simp] theorem begunIds_nil : begunIds ([] : List (ι × Deed κ)) = [] := rfl

@[simp] theorem begunIds_began (deeds : List (ι × Deed κ)) (i : ι) (id : κ) :
    begunIds (deeds ++ [(i, .began id)]) = begunIds deeds ++ [id] := by
  unfold begunIds
  rw [List.filterMap_append]
  rfl

@[simp] theorem begunIds_ended (deeds : List (ι × Deed κ)) (i : ι) :
    begunIds (deeds ++ [(i, .ended)]) = begunIds deeds := by
  unfold begunIds
  rw [List.filterMap_append]
  exact List.append_nil _

/-- **One after the other**: items are begun in the order of their numbers, and
what ends comes right after its own beginning. -/
structure InTurn [Preorder κ] (deeds : List (ι × Deed κ)) : Prop where
  increasing : (begunIds deeds).Pairwise (· < ·)
  results : ∀ i before after, deeds = before ++ (i, .ended) :: after →
    ∃ earlier id, before = earlier ++ [(i, .began id)]

/-- Where an ended item stands in a record that is one deed longer. -/
theorem ended_cases {deeds before after : List (ι × Deed κ)} {d : ι × Deed κ} {i : ι}
    (h : deeds ++ [d] = before ++ (i, .ended) :: after) :
    (∃ rest, deeds = before ++ (i, .ended) :: rest) ∨ (before = deeds ∧ d = (i, .ended)) := by
  rcases List.eq_nil_or_concat after with rfl | ⟨rest, e, rfl⟩
  · obtain ⟨rfl, hd⟩ := List.append_inj' h rfl
    exact .inr ⟨rfl, List.singleton_inj.mp hd⟩
  · left
    refine ⟨rest, ?_⟩
    have hsplit : deeds ++ [d] = (before ++ (i, .ended) :: rest) ++ [e] := by
      rw [h, List.append_assoc, List.cons_append, List.concat_eq_append]
    exact (List.append_inj' hsplit rfl).1

section Records

variable [Preorder κ] {deeds : List (ι × Deed κ)} {i : ι} {id : κ}

theorem InTurn.nil : InTurn ([] : List (ι × Deed κ)) :=
  ⟨.nil, fun _ before after h => by simp at h⟩

theorem InTurn.began (h : InTurn deeds) (hid : ∀ x ∈ begunIds deeds, x < id) :
    InTurn (deeds ++ [(i, .began id)]) where
  increasing := by
    rw [begunIds_began, List.pairwise_append]
    refine ⟨h.increasing, List.pairwise_singleton _ _, fun x hx y hy => ?_⟩
    rw [List.mem_singleton.mp hy]
    exact hid x hx
  results j before after hdeeds := by
    rcases ended_cases hdeeds with ⟨rest, hold⟩ | ⟨-, hnew⟩
    · exact h.results j before rest hold
    · cases hnew

theorem InTurn.ended (h : InTurn (deeds ++ [(i, .began id)])) :
    InTurn (deeds ++ [(i, .began id)] ++ [(i, .ended)]) where
  increasing := by
    rw [begunIds_ended]
    exact h.increasing
  results j before after hdeeds := by
    rcases ended_cases hdeeds with ⟨rest, hold⟩ | ⟨rfl, hnew⟩
    · exact h.results j before rest hold
    · cases hnew
      exact ⟨deeds, id, rfl⟩

end Records

/-! ## The workers -/

section Moves

variable [DecidableEq ι] [Preorder κ]

/-- No other worker is in the middle of an item, or holds an earlier one. -/
def Board.MayBegin (b : Board ι κ) (i : ι) (id : κ) : Prop :=
  ∀ j, j ≠ i → (b.tasks j).begun = false ∧ ∀ x ∈ (b.tasks j).left, id < x

/-- The moves of the workers, and of those who fill the queue. -/
inductive Move (b : Board ι κ) : Board ι κ → Prop where
  | number (n : κ) (hn : b.last ≤ n) : Move b { b with last := n }
  | arrive (id : κ) (hid : b.last < id) :
      Move b { b with last := id, waiting := b.waiting ++ [id] }
  | withdraw (kept : List κ) (hkept : kept.Sublist b.waiting) : Move b { b with waiting := kept }
  | take (i : ι) (hi : b.tasks i = .idle) :
      Move b { b with waiting := [], tasks := Function.update b.tasks i ⟨false, b.waiting⟩ }
  | begin (i : ι) (id : κ) (rest : List κ) (hi : b.tasks i = ⟨false, id :: rest⟩)
      (hmay : b.MayBegin i id) :
      Move b { b with
        tasks := Function.update b.tasks i ⟨true, rest⟩, deeds := b.deeds ++ [(i, .began id)] }
  | finish (i : ι) (hi : (b.tasks i).begun = true) :
      Move b { b with
        tasks := Function.update b.tasks i ⟨false, (b.tasks i).left⟩
        deeds := b.deeds ++ [(i, .ended)] }
  | giveUp (i : ι) : Move b { b with tasks := Function.update b.tasks i .idle }

/-- How a worker's task fits in: what the worker is in the middle of is the last
that was recorded, and what is left of its batch lies between what was begun and
what waits. -/
structure Fits (deeds : List (ι × Deed κ)) (waiting : List κ) (last : κ) (i : ι) (t : Task κ) :
    Prop where
  current : t.begun = true → ∃ before id, deeds = before ++ [(i, .began id)]
  after_begun : ∀ x ∈ begunIds deeds, ∀ y ∈ t.left, x < y
  sorted : t.left.Pairwise (· < ·)
  before_waiting : ∀ x ∈ t.left, ∀ y ∈ waiting, x < y
  numbered : ∀ x ∈ t.left, x ≤ last

/-- The invariant: the record is in turn, every task fits in, and what waits comes
after what was begun. -/
structure Orderly (b : Board ι κ) : Prop where
  inTurn : InTurn b.deeds
  fits : ∀ i, Fits b.deeds b.waiting b.last i (b.tasks i)
  begun_waiting : ∀ x ∈ begunIds b.deeds, ∀ y ∈ b.waiting, x < y
  sorted : b.waiting.Pairwise (· < ·)
  begun_numbered : ∀ x ∈ begunIds b.deeds, x ≤ b.last
  numbered : ∀ x ∈ b.waiting, x ≤ b.last

omit [DecidableEq ι] in
/-- A worker with nothing to do fits in anywhere. -/
theorem Fits.idle (deeds : List (ι × Deed κ)) (waiting : List κ) (last : κ) (i : ι) :
    Fits deeds waiting last i .idle where
  current h := nomatch h
  after_begun _ _ _ h := nomatch h
  sorted := .nil
  before_waiting _ h := nomatch h
  numbered _ h := nomatch h

namespace Orderly

variable {b b' : Board ι κ} {i : ι} {id : κ}

omit [DecidableEq ι] in
/-- Before anything has arrived. -/
theorem start (last : κ) : Orderly (⟨last, [], fun _ => .idle, []⟩ : Board ι κ) where
  inTurn := .nil
  fits := Fits.idle [] [] last
  begun_waiting _ h := nomatch h
  sorted := .nil
  begun_numbered _ h := nomatch h
  numbered _ h := nomatch h

/-- A worker's new task fits in, and the others are at what they were. -/
theorem fits_update (h : Orderly b) {t : Task κ} (ht : Fits b.deeds b.waiting b.last i t) :
    ∀ j, Fits b.deeds b.waiting b.last j (Function.update b.tasks i t j) :=
  (Function.forall_update_iff b.tasks _).mpr ⟨ht, fun j _ => h.fits j⟩

omit [DecidableEq ι] in
theorem number (h : Orderly b) {n : κ} (hn : b.last ≤ n) : Orderly { b with last := n } :=
  { h with
    fits := fun i => { h.fits i with numbered := fun x hx => ((h.fits i).numbered x hx).trans hn }
    begun_numbered := fun x hx => (h.begun_numbered x hx).trans hn
    numbered := fun x hx => (h.numbered x hx).trans hn }

omit [DecidableEq ι] in
/-- What arrives comes after everything else. -/
theorem arrive (h : Orderly b) (hid : b.last < id) :
    Orderly { b with last := id, waiting := b.waiting ++ [id] } := by
  have hafter : ∀ x, x ≤ b.last → (∀ y ∈ b.waiting, x < y) → ∀ y ∈ b.waiting ++ [id], x < y := by
    intro x hx hwaiting y hy
    rcases List.mem_append.mp hy with hy | hy
    · exact hwaiting y hy
    · exact List.mem_singleton.mp hy ▸ hx.trans_lt hid
  exact {
    inTurn := h.inTurn
    fits := fun i => { h.fits i with
      before_waiting := fun x hx =>
        hafter x ((h.fits i).numbered x hx) ((h.fits i).before_waiting x hx)
      numbered := fun x hx => ((h.fits i).numbered x hx).trans hid.le }
    begun_waiting := fun x hx => hafter x (h.begun_numbered x hx) (h.begun_waiting x hx)
    sorted := by
      refine List.pairwise_append.mpr ⟨h.sorted, List.pairwise_singleton _ _, fun x hx y hy => ?_⟩
      exact List.mem_singleton.mp hy ▸ (h.numbered x hx).trans_lt hid
    begun_numbered := fun x hx => (h.begun_numbered x hx).trans hid.le
    numbered := fun x hx => by
      rcases List.mem_append.mp hx with hx | hx
      · exact (h.numbered x hx).trans hid.le
      · exact (List.mem_singleton.mp hx).le }

omit [DecidableEq ι] in
theorem withdraw (h : Orderly b) {kept : List κ} (hkept : kept.Sublist b.waiting) :
    Orderly { b with waiting := kept } where
  inTurn := h.inTurn
  fits i := { h.fits i with
    before_waiting := fun x hx y hy => (h.fits i).before_waiting x hx y (hkept.subset hy) }
  begun_waiting x hx y hy := h.begun_waiting x hx y (hkept.subset hy)
  sorted := h.sorted.sublist hkept
  begun_numbered := h.begun_numbered
  numbered x hx := h.numbered x (hkept.subset hx)

/-- A batch keeps the place of what waited. -/
theorem take (h : Orderly b) :
    Orderly { b with waiting := [], tasks := Function.update b.tasks i ⟨false, b.waiting⟩ } := by
  have hempty : Orderly { b with waiting := [] } := h.withdraw (List.nil_sublist _)
  refine { hempty with fits := hempty.fits_update ?_ }
  exact {
    current := nofun
    after_begun := h.begun_waiting
    sorted := h.sorted
    before_waiting := fun _ _ _ hy => nomatch hy
    numbered := h.numbered }

/-- What a worker begins in its turn comes after all that was begun, and before
all that is held or waits. -/
theorem begin (h : Orderly b) {rest : List κ} (hi : b.tasks i = ⟨false, id :: rest⟩)
    (hmay : b.MayBegin i id) :
    Orderly { b with
      tasks := Function.update b.tasks i ⟨true, rest⟩, deeds := b.deeds ++ [(i, .began id)] } := by
  have hfits : Fits b.deeds b.waiting b.last i ⟨false, id :: rest⟩ := hi ▸ h.fits i
  obtain ⟨hrest, hsorted⟩ := List.pairwise_cons.mp hfits.sorted
  have hid : id ∈ id :: rest := List.mem_cons_self
  -- what was begun is what was begun before, or this
  have hbegun : ∀ {P : κ → Prop}, (∀ x ∈ begunIds b.deeds, P x) → P id →
      ∀ x ∈ begunIds (b.deeds ++ [(i, .began id)]), P x := by
    intro P hold hnew x hx
    rw [begunIds_began] at hx
    rcases List.mem_append.mp hx with hx | hx
    · exact hold x hx
    · exact List.mem_singleton.mp hx ▸ hnew
  refine {
    inTurn := h.inTurn.began fun x hx => hfits.after_begun x hx id hid
    fits := (Function.forall_update_iff b.tasks _).mpr ⟨?_, fun j hj => ?_⟩
    begun_waiting := hbegun h.begun_waiting (hfits.before_waiting id hid)
    sorted := h.sorted
    begun_numbered := hbegun h.begun_numbered (hfits.numbered id hid)
    numbered := h.numbered }
  · exact {
      current := fun _ => ⟨b.deeds, id, rfl⟩
      after_begun := hbegun
        (fun x hx y hy => hfits.after_begun x hx y (List.mem_cons_of_mem id hy)) hrest
      sorted := hsorted
      before_waiting := fun x hx => hfits.before_waiting x (List.mem_cons_of_mem id hx)
      numbered := fun x hx => hfits.numbered x (List.mem_cons_of_mem id hx) }
  · obtain ⟨hidle, hlater⟩ := hmay j hj
    exact { h.fits j with
      current := fun hbegun => absurd (hidle.symm.trans hbegun) Bool.false_ne_true
      after_begun := hbegun (h.fits j).after_begun hlater }

/-- What a worker ends is what was recorded last. -/
theorem finish (h : Orderly b) (hi : (b.tasks i).begun = true) :
    Orderly { b with
      tasks := Function.update b.tasks i ⟨false, (b.tasks i).left⟩
      deeds := b.deeds ++ [(i, .ended)] } := by
  obtain ⟨before, id, hdeeds⟩ := (h.fits i).current hi
  have hbegun : begunIds (b.deeds ++ [(i, .ended)]) = begunIds b.deeds := begunIds_ended _ _
  refine {
    inTurn := ?_
    fits := (Function.forall_update_iff b.tasks _).mpr ⟨?_, fun j hj => ?_⟩
    begun_waiting := hbegun ▸ h.begun_waiting
    sorted := h.sorted
    begun_numbered := hbegun ▸ h.begun_numbered
    numbered := h.numbered }
  · have hinTurn := h.inTurn
    rw [hdeeds] at hinTurn
    show InTurn (b.deeds ++ [(i, .ended)])
    rw [hdeeds]
    exact hinTurn.ended
  · exact { h.fits i with current := nofun, after_begun := hbegun ▸ (h.fits i).after_begun }
  · refine { h.fits j with current := fun hj' => ?_, after_begun := hbegun ▸ (h.fits j).after_begun }
    -- no other worker is in the middle of an item
    obtain ⟨before', id', hdeeds'⟩ := (h.fits j).current hj'
    have hlast := List.append_inj' (hdeeds'.symm.trans hdeeds) rfl
    exact absurd (congrArg Prod.fst (List.singleton_inj.mp hlast.2)) hj

theorem giveUp (h : Orderly b) : Orderly { b with tasks := Function.update b.tasks i .idle } :=
  { h with fits := h.fits_update (Fits.idle _ _ _ i) }

/-- Every move keeps the order. -/
theorem move (h : Orderly b) (hmove : Move b b') : Orderly b' := by
  cases hmove with
  | number n hn => exact h.number hn
  | arrive id hid => exact h.arrive hid
  | withdraw kept hkept => exact h.withdraw hkept
  | take i hi => exact h.take
  | begin i id rest hi hmay => exact h.begin hi hmay
  | finish i hi => exact h.finish hi
  | giveUp i => exact h.giveUp

/-- **Every run of moves keeps the order.** -/
theorem moves (h : Orderly b) (hmoves : Relation.ReflTransGen Move b b') : Orderly b' := by
  induction hmoves with
  | refl => exact h
  | tail _ hmove ih => exact ih.move hmove

end Orderly

end Moves

end Data.Turns
