import Nadi.Telling

/-!
# The log tells the story of the inbox

The log of a session is one `session.started` and then a block for each command
that was reached, in the order of their ids: `command.received`, and the event of
its handler unless that raised. A command is completed if its block has that
event, pending only if it has no block, and claimed for ever if its own handler
or one before it in its batch has raised (`log_tells_story`).
-/

namespace Nadi

open Effect

variable {T : Type}

/-! ## Attempts -/

/-- The type of the event that a command's handler gives. -/
def resultType (commandType : String) : String :=
  if commandType = "echo" then "assistant.message"
  else if commandType = "model" then "model.response"
  else if commandType = "tool" then "tool.result"
  else "command.error"

/-- A batch is cut short by the first handler that raises, and not otherwise. -/
def CutShort (batch : List Attempt) : Prop :=
  ∀ before attempt after, batch = before ++ attempt :: after →
    (attempt.status = .claimed ↔
      ∃ failed ∈ before ++ [attempt], ∃ e, failed.outcome = .raised e)

/-- Nothing is reached after a handler that raises. -/
theorem CutShort.raised (asked : Asked) (e : PyErr) (left : List Asked) :
    CutShort (⟨asked, .raised e⟩ :: left.map fun asked => ⟨asked, .unreached⟩) := by
  intro before attempt after h
  have hclaimed : attempt.status = .claimed := by
    have hmem : attempt ∈ (⟨asked, .raised e⟩ :: left.map fun asked => ⟨asked, .unreached⟩ :
        List Attempt) := by simp [h]
    rcases List.mem_cons.mp hmem with rfl | hmem
    · rfl
    · obtain ⟨asked', -, rfl⟩ := List.mem_map.mp hmem
      rfl
  refine iff_of_true hclaimed ⟨⟨asked, .raised e⟩, ?_, e, rfl⟩
  -- the first of the batch is there in every case
  cases before with
  | nil => simp [(List.cons.inj h).1]
  | cons first before => simp [(List.cons.inj h).1]

/-- A handler that returns changes nothing for the commands after it. -/
theorem CutShort.handled {batch : List Attempt} (h : CutShort batch) (asked : Asked)
    (outs : List (String × Json)) : CutShort (⟨asked, .handled outs⟩ :: batch) := by
  intro before attempt after heq
  cases before with
  | nil =>
    obtain ⟨rfl, -⟩ := List.cons.inj heq
    refine iff_of_false (fun h => nomatch h) ?_
    rintro ⟨failed, hmem, e, hfailed⟩
    rw [List.mem_singleton.mp hmem] at hfailed
    cases hfailed
  | cons first before =>
    obtain ⟨rfl, hrest⟩ := List.cons.inj heq
    rw [h before attempt after hrest]
    constructor
    · rintro ⟨failed, hmem, hfailed⟩
      exact ⟨failed, List.mem_cons_of_mem _ hmem, hfailed⟩
    · rintro ⟨failed, hmem, e, hfailed⟩
      rcases List.mem_cons.mp hmem with rfl | hmem
      · cases hfailed
      · exact ⟨failed, hmem, e, hfailed⟩

section Attempts

variable [Field T] [LinearOrder T] [IsStrictOrderedRing T] [FloorRing T] (py : Py)
  (tm : Timing T) (sid : String)

/-- What became of the command is what its handler did. -/
def Attempt.Genuine (attempt : Attempt) : Prop :=
  match attempt.outcome with
  | .handled outs => ∃ (sandbox : Sandboxd) (token : String) (s : Ticking T),
    ((Runtime.handle py sandbox sid token attempt.asked.commandType attempt.asked.payload).run
      (timed py tm) s).1 = .ok outs
  | .raised e => ∃ (sandbox : Sandboxd) (token : String) (s : Ticking T),
    ((Runtime.handle py sandbox sid token attempt.asked.commandType attempt.asked.payload).run
      (timed py tm) s).1 = .error e
  | .unreached => True

theorem Runtime.handle_result (sandbox : Sandboxd) (token commandType : String) (payload : Json) :
    (Runtime.handle py sandbox sid token commandType payload :
      Code T (List (String × Json))).Within (fun _ => True)
        fun outs => ∃ result, outs = [(resultType commandType, result)] := by
  unfold Runtime.handle resultType
  split
  · exact .bind (.any _) fun _ _ => ⟨_, rfl⟩
  split
  · exact .bind (.any _) fun _ _ => ⟨_, rfl⟩
  split
  · exact .bind (.any _) fun _ _ => .bind (.any _) fun _ _ => .bind (.any _) fun _ _ => ⟨_, rfl⟩
  · exact ⟨_, rfl⟩

variable {py tm sid}

/-- A handler that returns gives one event, of the type of its command. -/
theorem Attempt.Genuine.result {asked : Asked} {outs : List (String × Json)}
    (h : Attempt.Genuine py tm sid ⟨asked, .handled outs⟩) :
    ∃ result, outs = [(resultType asked.commandType, result)] := by
  obtain ⟨sandbox, token, s, hrun⟩ := h
  exact (Runtime.handle_result py sid sandbox token _ _).returned hrun

/-- The attempts of a batch are genuine, and the batch is cut short where one of
its handlers raises. -/
theorem Celld.attempts_spec (c : Celld) (token : String) (cmds : List (CommandRow T))
    (s : Ticking T) :
    (∀ attempt ∈ c.attempts py tm sid token cmds s, attempt.Genuine py tm sid) ∧
      CutShort (c.attempts py tm sid token cmds s) := by
  induction cmds generalizing s with
  | nil =>
    refine ⟨fun _ h => (nomatch h), fun before attempt after h => ?_⟩
    exact absurd h.symm (by simp [Celld.attempts])
  | cons cmd rest ih =>
    unfold Celld.attempts
    dsimp only
    split
    · rename_i e herror
      constructor
      · intro attempt hattempt
        rcases List.mem_cons.mp hattempt with rfl | hattempt
        · exact ⟨_, _, _, herror⟩
        · obtain ⟨cmd', -, rfl⟩ := List.mem_map.mp hattempt
          trivial
      · have hcut := CutShort.raised cmd.asked e (rest.map CommandRow.asked)
        rw [List.map_map] at hcut
        exact hcut
    · rename_i outs hok
      obtain ⟨hgenuine, hcut⟩ := ih ((call (.completeCommand cmd.id)).run (timed py tm)
        ((c.appendEvents sid outs).run (timed py tm) ((Runtime.handle py c.sandboxd sid token
          cmd.commandType cmd.payload).run (timed py tm) ((c.appendEvent sid "command.received"
            (received cmd)).run (timed py tm) s).2).2).2).2
      constructor
      · intro attempt hattempt
        rcases List.mem_cons.mp hattempt with rfl | hattempt
        · exact ⟨_, _, _, hok⟩
        · exact hgenuine attempt hattempt
      · exact hcut.handled cmd.asked outs

/-- What holds of the attempts of a loop holds of every batch in the history. -/
theorem history_forall {P : List Attempt → Prop} (hnil : P [])
    (hloop : ∀ (c : Celld) token cmds s, P (c.attempts py tm sid token cmds s)) (jobs : List Job)
    (s : Ticking T) : ∀ batch ∈ history py tm sid jobs s, P batch := by
  have hafter : ∀ {α : Type} {p : Code T α} {f : α → Ticking T → List Attempt} {s : Ticking T},
      (∀ a s, P (f a s)) → P (tellAfter py tm p f s) := by
    intro α p f s hf
    rcases hrun : p.run (timed py tm) s with ⟨e | a, s'⟩
    · rw [tellAfter_error hrun]
      exact hnil
    · rw [tellAfter_ok hrun]
      exact hf a s'
  have hbatch : ∀ (job : Job) s, P (job.batch py tm sid s) := by
    intro job s
    unfold Job.batch
    split
    · split
      · exact hafter fun delivered s => hafter fun cell s => hafter fun cmds s => hloop _ _ _ _
      · exact hnil
    · exact hnil
  induction jobs generalizing s with
  | nil => exact fun batch h => nomatch h
  | cons job rest ih =>
    intro batch h
    rcases List.mem_cons.mp h with rfl | h
    · exact hbatch job s
    · exact ih _ batch h

end Attempts

/-! ## Blocks -/

/-- What the log holds of a command. -/
structure Block where
  command : Asked
  result : Option (String × Json)

/-- The entries of a block. -/
def Block.entries (block : Block) : List (String × Json) :=
  ("command.received", block.command.received) :: block.result.toList

/-- The block of an attempt, if it was reached. -/
def Attempt.block? (attempt : Attempt) : Option Block :=
  match attempt.outcome with
  | .handled outs => some ⟨attempt.asked, outs.head?⟩
  | .raised _ => some ⟨attempt.asked, none⟩
  | .unreached => none

/-- The blocks of a log tell the story of an inbox whose commands were tried in
these batches. -/
structure Tells (batches : List (List Attempt)) (blocks : List Block)
    (inbox : List (CommandRow T)) : Prop where
  ordered : blocks.Pairwise fun a b => a.command.id < b.command.id
  known : ∀ block ∈ blocks, ∃ row ∈ inbox, row.asked = block.command
  results : ∀ block ∈ blocks, ∀ r, block.result = some r →
    r.1 = resultType block.command.commandType ∧
      ∃ batch ∈ batches, ⟨block.command, .handled [r]⟩ ∈ batch
  completed : ∀ row ∈ inbox, row.status = .completed ↔
    ∃ block ∈ blocks, block.command = row.asked ∧ block.result.isSome = true
  pending : ∀ row ∈ inbox, row.status = .pending → ∀ block ∈ blocks, block.command.id ≠ row.id
  claimed : ∀ row ∈ inbox, row.status = .claimed ↔
    ∃ batch ∈ batches, ∃ before attempt after, batch = before ++ attempt :: after ∧
      attempt.asked = row.asked ∧ ∃ failed ∈ before ++ [attempt], ∃ e, failed.outcome = .raised e

section Blocks

variable {attempts : List Attempt} {attempt : Attempt} {block : Block}

theorem Attempt.block?_eq_some : attempt.block? = some block ↔
    block.command = attempt.asked ∧
      ((∃ outs, attempt.outcome = .handled outs ∧ block.result = outs.head?) ∨
        (∃ e, attempt.outcome = .raised e) ∧ block.result = none) := by
  obtain ⟨asked, outcome⟩ := attempt
  obtain ⟨command, result⟩ := block
  cases outcome <;> simp [Attempt.block?, eq_comm]

/-- The entries of the attempts are those of their blocks, where handlers give
one event. -/
theorem flatMap_block? (hsingle : ∀ attempt ∈ attempts, ∀ outs, attempt.outcome = .handled outs →
      ∃ r, outs = [r]) :
    (attempts.filterMap Attempt.block?).flatMap Block.entries =
      attempts.flatMap Attempt.entries := by
  induction attempts with
  | nil => rfl
  | cons attempt rest ih =>
    have hrest := ih fun a ha => hsingle a (List.mem_cons_of_mem _ ha)
    obtain ⟨asked, outcome⟩ := attempt
    cases outcome with
    | handled outs =>
      obtain ⟨r, rfl⟩ := hsingle _ List.mem_cons_self outs rfl
      simpa [Attempt.block?, Block.entries, Attempt.entries] using hrest
    | raised e => simpa [Attempt.block?, Block.entries, Attempt.entries] using hrest
    | unreached => exact (congrArg _ (List.filterMap_cons_none rfl)).trans hrest

/-- Entries with one id are one. -/
theorem brief_unique {briefs : List Brief} (h : briefs.Pairwise fun a b => a.1.id < b.1.id)
    {a b : Brief} (ha : a ∈ briefs) (hb : b ∈ briefs) (hid : a.1.id = b.1.id) : a = b := by
  have hnodup : (briefs.map fun brief => brief.1.id).Nodup :=
    List.pairwise_map.mpr (h.imp fun hlt => Nat.ne_of_lt hlt)
  exact List.inj_on_of_nodup_map hnodup ha hb hid

end Blocks

section Story

variable [Field T] [LinearOrder T] [IsStrictOrderedRing T] [FloorRing T] {py : Py}
  {tm : Timing T} {sid : String} {batches : List (List Attempt)} {st : Store T}
  {opening : List (String × Json)}

omit [Field T] [LinearOrder T] [IsStrictOrderedRing T] [FloorRing T] in
/-- A command of the inbox is one that was tried or one that waits. -/
theorem Told.tried_or_pending {attempts : List Attempt} (h : Told sid opening attempts st)
    {row : CommandRow T} (hrow : row ∈ st.inboxOf sid) :
    (∃ attempt ∈ attempts, row.asked = attempt.asked ∧ row.status = attempt.status) ∨
      row.status = .pending := by
  obtain ⟨waiting, hbriefs⟩ := h.inbox
  rw [List.map_nil, List.append_nil] at hbriefs
  have hmem : row.brief ∈ (st.inboxOf sid).map CommandRow.brief := List.mem_map_of_mem hrow
  rw [hbriefs] at hmem
  rcases List.mem_append.mp hmem with hmem | hmem
  · obtain ⟨attempt, hattempt, heq⟩ := List.mem_map.mp hmem
    obtain ⟨hasked, hstatus⟩ := Prod.mk.inj heq
    exact .inl ⟨attempt, hattempt, hasked.symm, hstatus.symm⟩
  · obtain ⟨asked, -, heq⟩ := List.mem_map.mp hmem
    exact .inr (Prod.mk.inj heq).2.symm

omit [Field T] [LinearOrder T] [IsStrictOrderedRing T] [FloorRing T] in
/-- An attempt is at the command of the inbox that has its id. -/
theorem Told.row_of_id {attempts : List Attempt} (h : Told sid opening attempts st)
    {row : CommandRow T} (hrow : row ∈ st.inboxOf sid) {attempt : Attempt}
    (hattempt : attempt ∈ attempts) (hid : attempt.asked.id = row.id) :
    row.asked = attempt.asked ∧ row.status = attempt.status := by
  obtain ⟨row', hrow', hasked, hstatus⟩ := h.known attempt hattempt
  have heq : row.brief = row'.brief := brief_unique (st.briefs_ordered sid)
    (List.mem_map_of_mem hrow) (List.mem_map_of_mem hrow')
    (hid.symm.trans (congrArg Asked.id hasked).symm)
  obtain ⟨hasked', hstatus'⟩ := Prod.mk.inj heq
  exact ⟨hasked'.trans hasked, hstatus'.trans hstatus⟩

/-- **The blocks of the history** tell the story of the inbox. -/
theorem Telling.tells (h : Told sid opening batches.flatten st)
    (hbatches : ∀ batch ∈ batches,
      (∀ attempt ∈ batch, attempt.Genuine py tm sid) ∧ CutShort batch) :
    Tells batches (batches.flatten.filterMap Attempt.block?) (st.inboxOf sid) := by
  have hblock : ∀ block ∈ batches.flatten.filterMap Attempt.block?,
      ∃ attempt ∈ batches.flatten, attempt.block? = some block :=
    fun block h => List.mem_filterMap.mp h
  constructor
  case ordered =>
    have hordered := st.briefs_ordered sid
    obtain ⟨waiting, hbriefs⟩ := h.inbox
    rw [hbriefs, List.map_nil, List.append_nil] at hordered
    have hattempts : batches.flatten.Pairwise fun a b => a.brief.1.id < b.brief.1.id :=
      (List.pairwise_map (f := Attempt.brief) (R := fun a b : Brief => a.1.id < b.1.id)).mp
        (List.pairwise_append.mp hordered).1
    refine hattempts.filterMap _ fun a b hlt block hab block' hab' => ?_
    rw [(Attempt.block?_eq_some.mp hab).1, (Attempt.block?_eq_some.mp hab').1]
    exact hlt
  case known =>
    intro block hmem
    obtain ⟨attempt, hattempt, heq⟩ := hblock block hmem
    obtain ⟨row, hrow, hasked, -⟩ := h.known attempt hattempt
    exact ⟨row, hrow, hasked.trans (Attempt.block?_eq_some.mp heq).1.symm⟩
  case results =>
    -- a block is that of an attempt, which was made in a batch
    intro block hmem r hr
    obtain ⟨⟨asked, outcome⟩, hattempt, heq⟩ := hblock block hmem
    obtain ⟨batch, hbatch, hin⟩ := List.mem_flatten.mp hattempt
    obtain ⟨rfl, ⟨outs, rfl, hresult⟩ | ⟨-, hnone⟩⟩ := Attempt.block?_eq_some.mp heq
    · obtain ⟨payload, rfl⟩ := ((hbatches batch hbatch).1 _ hin).result
      obtain rfl := Option.some.inj (hr.symm.trans hresult)
      exact ⟨rfl, batch, hbatch, hin⟩
    · cases hr.symm.trans hnone
  case completed =>
    intro row hmem
    constructor
    · intro hcompleted
      rcases h.tried_or_pending hmem with ⟨⟨asked, outcome⟩, hattempt, hasked, hstatus⟩ | hpending
      · rw [hcompleted] at hstatus
        cases outcome with
        | handled outs =>
          obtain ⟨batch, hbatch, hin⟩ := List.mem_flatten.mp hattempt
          obtain ⟨payload, rfl⟩ := ((hbatches batch hbatch).1 _ hin).result
          exact ⟨_, List.mem_filterMap.mpr ⟨_, hattempt, rfl⟩, hasked.symm, rfl⟩
        | raised e => cases hstatus
        | unreached => cases hstatus
      · cases hcompleted.symm.trans hpending
    · rintro ⟨block, hblk, hcommand, hresult⟩
      obtain ⟨attempt, hattempt, heq⟩ := hblock block hblk
      obtain ⟨hasked, ⟨outs, houts, -⟩ | ⟨-, hnone⟩⟩ := Attempt.block?_eq_some.mp heq
      · have hid : attempt.asked.id = row.id := congrArg Asked.id (hasked.symm.trans hcommand)
        rw [(h.row_of_id hmem hattempt hid).2]
        unfold Attempt.status
        rw [houts]
      · rw [hnone] at hresult
        cases hresult
  case pending =>
    intro row hmem hpending block hblk hid
    obtain ⟨attempt, hattempt, heq⟩ := hblock block hblk
    rw [(Attempt.block?_eq_some.mp heq).1] at hid
    exact attempt.status_ne_pending ((h.row_of_id hmem hattempt hid).2.symm.trans hpending)
  case claimed =>
    -- what is left claimed is what the failure of its batch left
    intro row hmem
    constructor
    · intro hclaimed
      rcases h.tried_or_pending hmem with ⟨attempt, hattempt, hasked, hstatus⟩ | hpending
      · obtain ⟨batch, hbatch, hin⟩ := List.mem_flatten.mp hattempt
        obtain ⟨before, after, rfl⟩ := List.append_of_mem hin
        exact ⟨_, hbatch, before, attempt, after, rfl, hasked.symm,
          ((hbatches _ hbatch).2 before attempt after rfl).mp (hstatus.symm.trans hclaimed)⟩
      · cases hclaimed.symm.trans hpending
    · rintro ⟨batch, hbatch, before, attempt, after, rfl, hasked, hfailed⟩
      have hattempt : attempt ∈ batches.flatten := List.mem_flatten.mpr ⟨_, hbatch, by simp⟩
      rw [(h.row_of_id hmem hattempt (congrArg Asked.id hasked)).2]
      exact ((hbatches _ hbatch).2 before attempt after rfl).mpr hfailed

/-- **The log tells the story of the inbox.** After any run on a new local stack,
the log of every session created is one `session.started` and then the blocks of
the commands that were reached, and these tell which of its commands are
completed, pending and claimed. -/
theorem log_tells_story (py : Py) (tm : Timing T) (cwd : List String) (clock : T) (files : Files)
    (jobs : List Job) (sid : String)
    (hcreated : SomeCreates py tm sid jobs ⟨0, localWorld py cwd clock files⟩) :
    let batches := history py tm sid jobs ⟨0, localWorld py cwd clock files⟩
    let st := (serveJobs py tm jobs ⟨0, localWorld py cwd clock files⟩).world.store
    ∃ host blocks, (st.getEvents sid 0).map EventRow.saying =
        started host :: blocks.flatMap Block.entries ∧
      Tells batches blocks (st.inboxOf sid) ∧
      ∀ batch ∈ batches, ∀ attempt ∈ batch, attempt.Genuine py tm sid := by
  intro batches st
  obtain ⟨opening, hopening, htold, hne⟩ := told_localWorld py tm cwd clock files jobs sid
  obtain ⟨host, rfl⟩ := hopening.resolve_left (hne (.inr hcreated))
  have hbatches : ∀ batch ∈ batches,
      (∀ attempt ∈ batch, attempt.Genuine py tm sid) ∧ CutShort batch :=
    history_forall ⟨fun _ h => (nomatch h), fun before attempt after h => by simp at h⟩
      (fun c token cmds s => c.attempts_spec token cmds s) jobs _
  refine ⟨host, _, ?_, htold.tells hbatches, fun batch hbatch => (hbatches batch hbatch).1⟩
  have hrooted : (serveJobs py tm jobs ⟨0, localWorld py cwd clock files⟩).world.Rooted py :=
    serveJobs_rooted py tm jobs (rooted_localWorld py cwd clock files)
  refine (congrArg _ (hrooted.contiguous.getEvents sid 0)).trans ?_
  rw [List.drop_zero, htold.saying, flatMap_block? fun attempt hattempt outs houts => ?_]
  · rfl
  · obtain ⟨batch, hbatch, hin⟩ := List.mem_flatten.mp hattempt
    obtain ⟨asked, outcome⟩ := attempt
    obtain rfl : outcome = .handled outs := houts
    obtain ⟨payload, hsingle⟩ := ((hbatches batch hbatch).1 _ hin).result
    exact ⟨_, hsingle⟩

end Story

/-- A batch of three commands, of which the second has a payload that is no dict. -/
def sampleJobs : List Job := [
  .client (.createSession "local" .empty),
  .client (.enqueueCommand "s" "echo" (.obj [("text", .str "hi")]) none),
  .client (.enqueueCommand "s" "echo" (.str "hi") none),
  .client (.sendCommand "s" "model" (.obj [("prompt", .str "hi")]) none)]

/-- One command is completed, two are claimed. -/
theorem log_tells_story_sample :
    let start : Ticking ℚ := ⟨0, localWorld Py.sample [] 0 Sample.files⟩
    let tm : Timing ℚ := .still 0 Sample.files
    let batches := history Py.sample tm "s" sampleJobs start
    let st := (serveJobs Py.sample tm sampleJobs start).world.store
    (st.inboxOf "s").map CommandRow.status = [.completed, .claimed, .claimed] ∧
      ∃ host blocks, (st.getEvents "s" 0).map EventRow.saying =
          started host :: blocks.flatMap Block.entries ∧
        Tells batches blocks (st.inboxOf "s") ∧
        ∀ batch ∈ batches, ∀ attempt ∈ batch, attempt.Genuine Py.sample tm "s" := by
  have hcreated : SomeCreates Py.sample (.still 0 Sample.files : Timing ℚ) "s" sampleJobs
      ⟨0, localWorld Py.sample [] 0 Sample.files⟩ :=
    .inl ⟨⟨"s", "running", "s", "cell-local", "l", "inproc://cell"⟩, _, by with_unfolding_all rfl, rfl⟩
  have hstory := log_tells_story Py.sample _ [] 0 Sample.files sampleJobs "s" hcreated
  refine ⟨?_, hstory⟩
  decide +kernel

end Nadi
