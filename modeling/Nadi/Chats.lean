import Nadi.Chat.Finding

/-!
# What the chat bots say

The adapters on a local stack are refined from the machine of `Bot`: message by
message they post what it says, and the slots and leases they leave are its own
(`chats_refined`). Cells that are lost are rebuilt, and a process that starts again
finds its tables, so that neither is noticed.
-/

namespace Nadi

open Effect

variable {T : Type}

/-! ## One message -/

/-- No resource is anonymous. -/
theorem makeResourceId_ne_empty (platform userId : String) : makeResourceId platform userId ≠ "" := by
  intro h
  have hlength := congrArg String.length h
  simp [makeResourceId] at hlength

section Hearing

variable [Field T] [LinearOrder T] [IsStrictOrderedRing T] [FloorRing T] {py : Py}
  {cwd : List String} {tm : Timing T} {now : T} {b : Bot T} {w : World T}

/-- What the `try` posts. -/
theorem run_respond {bot : ChatBot} {message : ChatMessage} {s s' : Ticking T}
    {r : Except PyErr String} (hrun : (bot.reply py message).run (timed py tm) s = (r, s')) :
    (bot.respond py message).run (timed py tm) s = (.ok (said r), s') := by
  unfold ChatBot.respond
  simp only [Prog.bind_eq, Prog.pure_eq]
  rw [Prog.run_tryCatch]
  cases r with
  | error e =>
    rw [Prog.run_bind_error _ hrun]
    rfl
  | ok answer =>
    rw [Prog.run_bind_ok _ hrun]
    rfl

variable (tm) in
/-- **One message** to a bot. -/
theorem Conversing.hear (h : Conversing py cwd now b w) (hnow : now ≤ tm.now 0) (bot : ChatBot)
    (message : ChatMessage) :
    ∃ s' k, (bot.respond py message).run (timed py tm) ⟨0, w⟩ =
        (.ok (b.hear tm bot message).1, s') ∧
      Conversing py cwd (tm.now k) (b.hear tm bot message).2 s'.world := by
  have hinitiator : (bot.request message).initiatorResourceId ≠ "" :=
    makeResourceId_ne_empty bot.platform message.userId
  unfold Bot.hear
  by_cases htaken : b.taken < Bot.capacity
  · obtain ⟨session, s₁, lease, hjoin, hreading, h₁, hlease, hcloses, hlog⟩ :=
      Conversing.join tm (s := ⟨0, w⟩) h rfl htaken (bot.request message) hinitiator
    obtain ⟨r, s₂, hsend, h₂, hsaid⟩ := h₁.send tm
      (hnow.trans (tm.now_mono (Nat.zero_le _))) htaken hlease (by
        show _ ≤ 2 * (b.taken + 1) + 1
        omega) bot message
    rw [hreading, hcloses] at hsaid
    rw [if_pos htaken]
    have hreply : (bot.reply py message).run (timed py tm) ⟨0, w⟩ =
        (r.bind fun sent => extractReplyText py (sent.events.map Event.dict) false, s₂) := by
      unfold ChatBot.reply
      simp only [Prog.bind_eq]
      rw [Prog.run_bind_ok _ hjoin]
      cases r with
      | error e => exact Prog.run_bind_error _ hsend
      | ok sent =>
        rw [Prog.run_bind_ok _ hsend, Prog.run_ofExcept]
        rfl
    exact ⟨s₂, s₁.reading + 2, hsaid ▸ run_respond hreply, h₂⟩
  · obtain ⟨e, s', hjoin, h'⟩ := Conversing.full tm (s := ⟨0, w⟩) h htaken
      (bot.request message) hinitiator
    rw [if_neg htaken]
    have hreply : (bot.reply py message).run (timed py tm) ⟨0, w⟩ = (.error e, s') := by
      unfold ChatBot.reply
      simp only [Prog.bind_eq]
      exact Prog.run_bind_error _ hjoin
    exact ⟨s', 0, run_respond hreply, h'.wait hnow⟩

end Hearing

/-! ## Mishaps -/

section Mishaps

variable [Field T] [LinearOrder T] [IsStrictOrderedRing T] [FloorRing T] {py : Py}
  {cwd : List String} {now : T} {b : Bot T} {w : World T}

omit [IsStrictOrderedRing T] [FloorRing T] in
/-- Cells that are lost are not missed. -/
theorem Conversing.lose (h : Conversing py cwd now b w) (lost : String → Bool) :
    Conversing py cwd now b (w.lose lost) where
  rooted := ⟨⟨h.rooted.sound.sessionIds, h.rooted.sound.claims, h.rooted.sound.channels⟩,
    h.rooted.owned, h.rooted.linked, h.rooted.logged, h.rooted.contiguous⟩
  launched := ⟨h.launched.callbacks, h.launched.objects, h.launched.cellHost, h.launched.cellHosts,
    h.launched.sandboxHost, h.launched.sandboxHosts⟩
  channelIds := h.channelIds
  slots := h.slots
  leased := h.leased
  ends := h.ends
  sessions := h.sessions

omit [IsStrictOrderedRing T] [FloorRing T] in
/-- A process that starts again finds its tables as they were. -/
theorem Conversing.restart (h : Conversing py cwd now b w) (t : T) :
    Conversing py cwd now b (w.restart py cwd t) := by
  have hwiped : Launched cwd { w.wiped with clock := t } :=
    ⟨h.launched.callbacks, h.launched.objects, h.launched.cellHost, h.launched.cellHosts,
      h.launched.sandboxHost, h.launched.sandboxHosts⟩
  have hsame : (w.restart py cwd t).timeless = { w.wiped with clock := t }.timeless :=
    h.launched.restart t
  have hstore := congrArg World.store hsame
  -- what does not depend on times is as it was
  have hpart : ∀ {α : Type} (f : Store T → α), (∀ st, f st.timeless = f st) →
      f (w.restart py cwd t).store = f w.store :=
    fun f hf => (hf _).symm.trans ((congrArg f hstore).trans (hf _))
  have hslots := hpart (fun st => st.cellHosts.rows.map CellHostRow.capacityUsed)
    fun _ => List.map_map.trans rfl
  have hleases := hpart Store.sessionLeases fun _ => rfl
  have hchannels := hpart Store.channels fun _ => rfl
  have hevents := hpart Store.events fun _ => rfl
  have hinbox := hpart Store.commandInbox fun _ => rfl
  have hrun : ∀ {I : World T → Prop}, (∀ c v, I v → I (exec py c v).2) →
      I { w.boot with clock := t } → I (w.restart py cwd t) :=
    fun hcall hI => (Prog.Within.any (localStack cwd)).preserves (fun c v _ hv => hcall c v hv) hI
  refine ⟨⟨?_, hwiped.of_timeless hsame, ?_⟩, ?_, ?_, fun key => ?_, fun sid => ?_⟩
  · refine hrun (I := fun v => v.Rooted py) (fun c v hv => exec_rooted py c hv) ?_
    exact ⟨⟨h.rooted.sound.sessionIds, h.rooted.sound.claims, h.rooted.sound.channels⟩,
      h.rooted.owned, h.rooted.linked, h.rooted.logged, h.rooted.contiguous⟩
  · exact hrun (I := fun v => ∀ row ∈ v.store.channels, ∀ n, v.drawn .channel ≤ n →
      row.id ≠ py.uuid4 .channel n) (fun c v hv => exec_channelIds py c hv) h.channelIds
  · exact hslots.trans h.slots
  · rw [hchannels, hleases]
    exact h.leased
  · unfold Store.endsOf
    rw [hchannels, hleases]
    exact h.ends key
  · refine (h.sessions sid).congr (Store.eventsOf_congr hevents sid) ?_ (by rw [hleases])
      (Nat.le_refl _) (le_refl _)
    unfold Store.inboxOf
    rw [hinbox]

omit [IsStrictOrderedRing T] [FloorRing T] in
theorem Conversing.befall (h : Conversing py cwd now b w) (mishaps : List (Mishap T)) :
    Conversing py cwd now b (mishaps.foldl (fun w mishap => mishap.befall py cwd w) w) := by
  induction mishaps generalizing w with
  | nil => exact h
  | cons mishap rest ih =>
    cases mishap with
    | losses lost => exact ih (h.lose lost)
    | restart t => exact ih (h.restart t)

end Mishaps

/-! ## Runs -/

/-- A message, and when it is handled. -/
structure ChatTurn (T : Type) [LE T] where
  timing : Timing T
  incoming : Incoming

section Runs

variable [Field T] [LinearOrder T] [IsStrictOrderedRing T] [FloorRing T] (py : Py)
  (cwd : List String) (settings : ChatSettings)

/-- Handle messages in turn, with mishaps before each: what comes of them, and the state
at the end. -/
def serveChats (mishaps : ℕ → List (Mishap T)) :
    List (ChatTurn T) → World T → List (Except PyErr (Option Post)) × World T
  | [], w => ([], w)
  | turn :: rest, w =>
    let handled := (turn.incoming.code py settings).run (timed py turn.timing)
      ⟨0, (mishaps 0).foldl (fun w mishap => mishap.befall py cwd w) w⟩
    let more := serveChats (fun n => mishaps (n + 1)) rest handled.2.world
    (handled.1 :: more.1, more.2)

/-- **One message** to whichever bot it is for. -/
def Bot.serve (b : Bot T) (turn : ChatTurn T) : Except PyErr (Option Post) × Bot T :=
  match turn.incoming.asks py settings with
  | .error e => (.error e, b)
  | .ok none => (.ok none, b)
  | .ok (some (bot, message)) =>
    (.ok ((b.hear turn.timing bot message).1.map turn.incoming.post),
      (b.hear turn.timing bot message).2)

/-- Messages in turn. -/
def Bot.serveAll : List (ChatTurn T) → Bot T → List (Except PyErr (Option Post)) × Bot T
  | [], b => ([], b)
  | turn :: rest, b =>
    ((b.serve py settings turn).1 :: (serveAll rest (b.serve py settings turn).2).1,
      (serveAll rest (b.serve py settings turn).2).2)

variable {py cwd settings} {now : T} {b : Bot T} {w : World T}

variable (settings) in
theorem Conversing.serve (h : Conversing py cwd now b w) (turn : ChatTurn T)
    (hnow : now ≤ turn.timing.now 0) :
    ∃ s' k, (turn.incoming.code py settings).run (timed py turn.timing) ⟨0, w⟩ =
        ((b.serve py settings turn).1, s') ∧
      Conversing py cwd (turn.timing.now k) (b.serve py settings turn).2 s'.world := by
  rw [Incoming.code_eq]
  unfold Bot.serve
  rcases turn.incoming.asks py settings with e | _ | ⟨bot, message⟩
  · exact ⟨_, 0, rfl, h.wait hnow⟩
  · exact ⟨_, 0, rfl, h.wait hnow⟩
  · obtain ⟨s', k, hrun, h'⟩ := h.hear turn.timing hnow bot message
    exact ⟨s', k, Prog.run_bind_ok _ hrun, h'⟩

variable (settings) in
/-- **Whole runs**, by induction on the messages. -/
theorem Conversing.serve_all {turns : List (ChatTurn T)} (h : Conversing py cwd now b w)
    (hnow : ∀ turn ∈ turns, now ≤ turn.timing.now 0)
    (hordered : turns.Pairwise fun a b => ∀ k, a.timing.now k ≤ b.timing.now 0)
    (mishaps : ℕ → List (Mishap T)) :
    (serveChats py cwd settings mishaps turns w).1 = (b.serveAll py settings turns).1 ∧
      ∃ later, Conversing py cwd later (b.serveAll py settings turns).2
        (serveChats py cwd settings mishaps turns w).2 := by
  induction turns generalizing now b w mishaps with
  | nil => exact ⟨rfl, now, h⟩
  | cons turn rest ih =>
    obtain ⟨hfirst, hrest⟩ := List.pairwise_cons.mp hordered
    obtain ⟨s', k, hrun, h'⟩ := (h.befall (mishaps 0)).serve settings turn
      (hnow turn List.mem_cons_self)
    obtain ⟨hposts, later, hlater⟩ := ih h' (fun next hnext => hfirst next hnext k) hrest
      fun n => mishaps (n + 1)
    unfold serveChats Bot.serveAll
    dsimp only
    rw [hrun]
    exact ⟨congrArg _ hposts, later, hlater⟩

variable (py cwd)

omit [IsStrictOrderedRing T] [FloorRing T] in
/-- Nobody has talked to the bots of a new stack. -/
theorem conversing_localWorld (now clock : T) (files : Files) :
    Conversing py cwd now Bot.new (localWorld py cwd clock files) where
  rooted := rooted_localWorld py cwd clock files
  launched := launched_localWorld clock files
  channelIds := fun _ h => nomatch h
  slots := rfl
  leased := fun _ h => nomatch h
  ends := fun _ => rfl
  sessions := fun _ => ⟨Nat.zero_le _, fun _ h => (nomatch h), fun _ _ _ => rfl⟩

variable (settings)

/-- From a new stack on. -/
theorem conversing_serves (clock : T) (files : Files) (turns : List (ChatTurn T))
    (mishaps : ℕ → List (Mishap T))
    (hordered : turns.Pairwise fun a b => ∀ k, a.timing.now k ≤ b.timing.now 0) :
    let handled := serveChats py cwd settings mishaps turns (localWorld py cwd clock files)
    let bot := (Bot.new : Bot T).serveAll py settings turns
    handled.1 = bot.1 ∧ ∃ later, Conversing py cwd later bot.2 handled.2 := by
  obtain ⟨now, hnow⟩ : ∃ now, ∀ turn ∈ turns, now ≤ turn.timing.now 0 := by
    cases turns with
    | nil => exact ⟨clock, fun _ h => nomatch h⟩
    | cons first rest =>
      refine ⟨first.timing.now 0, fun turn hturn => ?_⟩
      rcases List.mem_cons.mp hturn with rfl | hturn
      · exact le_refl _
      · exact (List.pairwise_cons.mp hordered).1 turn hturn 0
  exact (conversing_localWorld py cwd now clock files).serve_all settings hnow hordered mishaps

/-- **The bots on a local stack** post what the machine says, message by message, whatever
cells are lost and however often the process is restarted in between; and the slots and
the leases they leave are those of the machine. -/
theorem chats_refined (clock : T) (files : Files) (turns : List (ChatTurn T))
    (mishaps : ℕ → List (Mishap T))
    (hordered : turns.Pairwise fun a b => ∀ k, a.timing.now k ≤ b.timing.now 0) :
    let handled := serveChats py cwd settings mishaps turns (localWorld py cwd clock files)
    let bot := (Bot.new : Bot T).serveAll py settings turns
    handled.1 = bot.1 ∧
      handled.2.store.cellHosts.rows.map CellHostRow.capacityUsed = [bot.2.taken] ∧
      ∀ key, handled.2.store.endsOf key = bot.2.ends key := by
  obtain ⟨hposts, later, hlater⟩ := conversing_serves py cwd settings clock files turns mishaps hordered
  exact ⟨hposts, hlater.slots, hlater.ends⟩

end Runs

/-- A greeting in a thread. -/
def sampleMention (t : ℚ) : ChatTurn ℚ :=
  ⟨.still t Sample.files,
    .slackMention ⟨some "C", some "1.0", some "U", some (.str "hi <@U2>"), none, none, none⟩⟩

/-- One, another within the hour, and one after it. -/
def sampleChat : List (ChatTurn ℚ) := [sampleMention 0, sampleMention 100, sampleMention 5000]

/-- The first two are answered. -/
example : ((Bot.new : Bot ℚ).serveAll Py.sample .default sampleChat).1.map Except.toOption =
    [some (some ⟨"deterministic-model:hi ", some "1.0"⟩),
      some (some ⟨"deterministic-model:hi ", some "1.0"⟩), some none] := by decide +kernel

theorem sampleChat_ordered :
    sampleChat.Pairwise fun a b => ∀ k, a.timing.now k ≤ b.timing.now 0 := by
  norm_num [sampleChat, sampleMention, Timing.still]

theorem chats_refined_sample :
    let handled := serveChats Py.sample [] .default (fun _ => [.restart 5, .losses fun _ => true])
      sampleChat (localWorld Py.sample [] 0 Sample.files)
    let bot := (Bot.new : Bot ℚ).serveAll Py.sample .default sampleChat
    handled.1 = bot.1 ∧
      handled.2.store.cellHosts.rows.map CellHostRow.capacityUsed = [bot.2.taken] ∧
      ∀ key, handled.2.store.endsOf key = bot.2.ends key := by
  exact chats_refined Py.sample [] .default 0 Sample.files sampleChat
    (fun _ => [.restart 5, .losses fun _ => true]) sampleChat_ordered

end Nadi
