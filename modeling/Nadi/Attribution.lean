import Nadi.Story

/-!
# Whose events they are

A command carries the user who has sent it, from `send_command` to the row that a
consumer claims, and the table of events has a column for the user. But
`Celld.append_event` has no parameter for one: whatever a command's handling
appends to the log is appended without a user.
-/

namespace Nadi

open Effect

variable {T : Type}

/-- The handling of the command has begun. -/
def Attempt.Reached (attempt : Attempt) : Prop := attempt.outcome ≠ .unreached

/-- The rows are those that the attempt has written. -/
def Attempt.Wrote (attempt : Attempt) (rows : List (EventRow T)) : Prop :=
  rows.map EventRow.saying = attempt.entries

/-- The rows have the user who has sent the command. -/
def Attempt.Attributed (attempt : Attempt) (rows : List (EventRow T)) : Prop :=
  ∀ row ∈ rows, row.actorResourceId = attempt.asked.actorResourceId

/-- What is reached writes something. -/
theorem Attempt.Reached.entries_ne_nil {attempt : Attempt} (h : attempt.Reached) :
    attempt.entries ≠ [] := by
  unfold Attempt.entries
  split
  · exact List.cons_ne_nil _ _
  · exact List.cons_ne_nil _ _
  · exact absurd ‹_› h

/-- Rows without a user are attributed where there is none. -/
theorem Attempt.Logged.attributed {attempt : Attempt} {rows : List (EventRow T)}
    (h : attempt.Logged rows) :
    attempt.Attributed rows ↔ (attempt.Reached → attempt.asked.actorResourceId = none) := by
  obtain ⟨hsaying, hnobody⟩ := h
  constructor
  · intro hattributed hreached
    have hne : rows ≠ [] := fun hnil => hreached.entries_ne_nil (by rw [← hsaying, hnil]; rfl)
    obtain ⟨row, hrow⟩ := List.exists_mem_of_ne_nil rows hne
    exact (hattributed row hrow).symm.trans (hnobody row hrow)
  · intro hnone row hrow
    have hreached : attempt.Reached := by
      intro hunreached
      have hnil : rows = [] := by
        unfold Attempt.entries at hsaying
        rw [hunreached] at hsaying
        exact List.map_eq_nil_iff.mp hsaying
      rw [hnil] at hrow
      cases hrow
    rw [hnobody row hrow, hnone hreached]

/-- And so are those of all attempts, by induction on them. -/
theorem forall₂_attributed_iff {attempts : List Attempt} {rowss : List (List (EventRow T))}
    (h : List.Forall₂ Attempt.Logged attempts rowss) :
    List.Forall₂ Attempt.Attributed attempts rowss ↔
      ∀ attempt ∈ attempts, attempt.Reached → attempt.asked.actorResourceId = none := by
  induction h with
  | nil => exact iff_of_true .nil fun _ h => nomatch h
  | cons hrow _ ih => rw [List.forall₂_cons, hrow.attributed, ih, List.forall_mem_cons]

variable [Field T] [LinearOrder T] [IsStrictOrderedRing T] [FloorRing T]

/-- **Events are attributed** if and only if there is nobody to attribute them to.
After any run on a new local stack the log of a session falls into what it started
with and the rows of the attempts at its commands, which are commands of its
inbox; and all these rows have the user of their command exactly if every command
that was reached has none. -/
theorem attributed_iff (py : Py) (tm : Timing T) (cwd : List String) (clock : T) (files : Files)
    (jobs : List Job) (sid : String) :
    let attempts := (history py tm sid jobs ⟨0, localWorld py cwd clock files⟩).flatten
    let st := (serveJobs py tm jobs ⟨0, localWorld py cwd clock files⟩).world.store
    ∃ began rowss, st.eventsOf sid = began ++ rowss.flatten ∧
      IsOpening (began.map EventRow.saying) ∧ List.Forall₂ Attempt.Wrote attempts rowss ∧
      (∀ attempt ∈ attempts, ∃ cmd ∈ st.inboxOf sid, cmd.asked = attempt.asked) ∧
      (List.Forall₂ Attempt.Attributed attempts rowss ↔
        ∀ attempt ∈ attempts, attempt.Reached → attempt.asked.actorResourceId = none) := by
  intro attempts st
  obtain ⟨opening, hopening, htold, -⟩ := told_localWorld py tm cwd clock files jobs sid
  obtain ⟨began, rowss, hevents, rfl, hrows⟩ := htold.log
  exact ⟨began, rowss, hevents.trans (List.append_nil _), hopening, hrows.imp fun _ _ h => h.1,
    fun attempt hattempt => (htold.known attempt hattempt).imp fun cmd h => ⟨h.1, h.2.1⟩,
    forall₂_attributed_iff hrows⟩

/-- A command of nobody in particular. -/
def anonymousJobs : List Job := [
  .client (.createSession "local" .empty),
  .client (.sendCommand "s" "echo" (.obj [("text", .str "hi")]) none)]

/-- Its events are attributed. -/
theorem attributed_iff_sample :
    let start : Ticking ℚ := ⟨0, localWorld Py.sample [] 0 Sample.files⟩
    let attempts := (history Py.sample (.still 0 Sample.files) "s" anonymousJobs start).flatten
    let st := (serveJobs Py.sample (.still 0 Sample.files) anonymousJobs start).world.store
    attempts.length = 1 ∧ ∃ began rowss, st.eventsOf "s" = began ++ rowss.flatten ∧
      List.Forall₂ Attempt.Attributed attempts rowss := by
  have hnobody : let start : Ticking ℚ := ⟨0, localWorld Py.sample [] 0 Sample.files⟩
      let attempts := (history Py.sample (.still 0 Sample.files) "s" anonymousJobs start).flatten
      attempts.length = 1 ∧ ∀ attempt ∈ attempts, attempt.asked.actorResourceId = none := by
    decide +kernel
  obtain ⟨began, rowss, hevents, -, -, -, hattributed⟩ := attributed_iff Py.sample
    (.still (0 : ℚ) Sample.files) [] 0 Sample.files anonymousJobs "s"
  refine ⟨hnobody.1, began, rowss, hevents, hattributed.mpr fun attempt hattempt _ => ?_⟩
  exact hnobody.2 attempt hattempt

/-- A command of a user of a chat. -/
def attributedJobs : List Job := [
  .client (.createSession "local" .empty),
  .client (.sendCommand "s" "echo" (.obj [("text", .str "hi")]) (some "slack:U1"))]

/-- Its events are nobody's. -/
theorem events_unattributed :
    let st := (serveJobs Py.sample (.still 0 Sample.files : Timing ℚ) attributedJobs
      ⟨0, localWorld Py.sample [] 0 Sample.files⟩).world.store
    (st.inboxOf "s").map CommandRow.actorResourceId = [some "slack:U1"] ∧
      (st.eventsOf "s").map (fun ev => (ev.eventType, ev.actorResourceId)) =
        [("session.started", none), ("command.received", none), ("assistant.message", none)] := by
  decide +kernel

end Nadi
