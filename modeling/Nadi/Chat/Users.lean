import Nadi.Chats

/-!
# What the users of a bot can rely on

Two readings of the machine behind the bots. The first is closed: whether a message is
answered is told by the messages before it, of which only the first of its conversation
and their number count (`chats_answered`). The second is about two runs: what is said to
one message does not depend on the texts of the others (`chats_private`).
-/

namespace Nadi

variable {T : Type} [Field T] [LinearOrder T] (py : Py) (settings : ChatSettings)

/-! ## The messages before -/

/-- The conversation of a message, if it is for a bot. -/
def Incoming.key (incoming : Incoming) : Option (String × String × String) :=
  match incoming.asks py settings with
  | .ok (some (bot, message)) => some (bot.request message).key
  | _ => none

/-- How many of the messages are for a bot. -/
def askedIn (before : List (ChatTurn T)) : ℕ :=
  before.countP fun turn => (turn.incoming.key py settings).isSome

/-- When a conversation ends that has begun: an hour after the first of its messages. -/
def endIn (before : List (ChatTurn T)) (key : String × String × String) : Option T :=
  (before.find? fun turn => turn.incoming.key py settings = some key).map fun first =>
    first.timing.now 1 + (3600 : ℤ)

/-- What is said to a message after others. -/
def saidAfter (before : List (ChatTurn T)) (tm : Timing T) (bot : ChatBot) (message : ChatMessage) :
    Option String :=
  let ends := endIn py settings before (bot.request message).key
  if askedIn py settings before < 100 ∧
      tm.now (if ends.isSome then 9 else 8) < ends.getD (tm.now 1 + (3600 : ℤ)) then
    posted (answered bot.commandType message.text)
  else none

/-- What a bot remembers of the messages before. -/
structure Bot.Remembers (before : List (ChatTurn T)) (b : Bot T) : Prop where
  taken : b.taken = min capacity (askedIn py settings before)
  ends : b.taken < capacity → ∀ key, b.ends key = endIn py settings before key

variable {py settings} {before : List (ChatTurn T)} {b : Bot T} {turn : ChatTurn T}

/-- What becomes of a bot depends on the conversation and on the time only. -/
theorem Bot.serve_snd (b : Bot T) (turn : ChatTurn T) :
    (b.serve py settings turn).2 =
      match turn.incoming.key py settings with
      | none => b
      | some key => if b.taken < capacity then b.take turn.timing key else b := by
  unfold serve Incoming.key
  rcases turn.incoming.asks py settings with e | _ | ⟨bot, message⟩
  · rfl
  · rfl
  · show (b.hear turn.timing bot message).2 = ite _ _ _
    unfold hear
    dsimp only
    split <;> rfl

omit [Field T] in
theorem askedIn_concat :
    askedIn py settings (before ++ [turn]) =
      askedIn py settings before + if (turn.incoming.key py settings).isSome then 1 else 0 := by
  unfold askedIn
  rw [List.countP_append, List.countP_singleton]

theorem endIn_concat (key : String × String × String) :
    endIn py settings (before ++ [turn]) key =
      (endIn py settings before key).or
        (if turn.incoming.key py settings = some key then some (turn.timing.now 1 + (3600 : ℤ))
          else none) := by
  unfold endIn
  rw [List.find?_append, Option.map_or]
  congr 1
  by_cases hkey : turn.incoming.key py settings = some key
  · simp [hkey]
  · simp [hkey]

/-- **One message more** to remember. -/
theorem Bot.Remembers.serve (h : b.Remembers py settings before) (turn : ChatTurn T) :
    (b.serve py settings turn).2.Remembers py settings (before ++ [turn]) := by
  have htaken := h.taken
  rw [Bot.serve_snd]
  cases hkey : turn.incoming.key py settings with
  | none =>
    constructor
    · rw [askedIn_concat, hkey]
      exact htaken
    · intro hroom key
      rw [endIn_concat, hkey, if_neg nofun, Option.or_none]
      exact h.ends hroom key
  | some key =>
    have hasked : askedIn py settings (before ++ [turn]) = askedIn py settings before + 1 := by
      rw [askedIn_concat, hkey, Option.isSome_some, if_pos rfl]
    by_cases hroom : b.taken < capacity
    · dsimp only
      rw [if_pos hroom]
      constructor
      · rw [hasked]
        show b.taken + 1 = _
        omega
      · intro _ key'
        rw [endIn_concat, hkey, ← h.ends hroom]
        unfold take closes
        dsimp only
        by_cases heq : key' = key
        · subst heq
          rw [Function.update_self, if_pos rfl]
          cases b.ends key' <;> rfl
        · rw [Function.update_of_ne heq, if_neg fun h => heq (Option.some.inj h).symm, Option.or_none]
    · dsimp only
      rw [if_neg hroom]
      constructor
      · rw [hasked]
        omega
      · exact fun h => absurd h hroom

/-- **Whole runs**, by induction on the messages. -/
theorem Bot.Remembers.serveAll {turns : List (ChatTurn T)} (h : b.Remembers py settings before) :
    (b.serveAll py settings turns).2.Remembers py settings (before ++ turns) := by
  induction turns generalizing before b with
  | nil =>
    rw [List.append_nil]
    exact h
  | cons turn rest ih =>
    have hmore := ih (h.serve turn)
    rw [List.append_assoc] at hmore
    exact hmore

theorem Bot.remembers_new : (Bot.new : Bot T).Remembers py settings [] :=
  ⟨rfl, fun _ _ => rfl⟩

/-- What a bot says to a message is told by what it remembers. -/
theorem Bot.Remembers.said (h : b.Remembers py settings before) {bot : ChatBot}
    {message : ChatMessage} (hasks : turn.incoming.asks py settings = .ok (some (bot, message))) :
    (b.serve py settings turn).1 =
      .ok ((saidAfter py settings before turn.timing bot message).map turn.incoming.post) := by
  have htaken := h.taken
  unfold Bot.serve saidAfter hear
  rw [hasks]
  dsimp only
  by_cases hroom : b.taken < capacity
  · have hasked : askedIn py settings before < 100 := by
      unfold capacity at hroom htaken
      omega
    rw [if_pos hroom, ← h.ends hroom]
    unfold looks closes
    simp only [hasked, true_and]
  · have hasked : ¬ askedIn py settings before < 100 := by
      unfold capacity at hroom htaken
      omega
    rw [if_neg hroom, if_neg fun hand => hasked hand.1]

/-! ## Runs -/

theorem Bot.serveAll_append (b : Bot T) (turns rest : List (ChatTurn T)) :
    (b.serveAll py settings (turns ++ rest)).1 =
      (b.serveAll py settings turns).1 ++
        ((b.serveAll py settings turns).2.serveAll py settings rest).1 := by
  induction turns generalizing b with
  | nil => rfl
  | cons turn turns ih => exact congrArg _ (ih _)

theorem Bot.serveAll_length (b : Bot T) (turns : List (ChatTurn T)) :
    (b.serveAll py settings turns).1.length = turns.length := by
  induction turns generalizing b with
  | nil => rfl
  | cons turn turns ih => exact congrArg (· + 1) (ih _)

/-- Of the time of a message only the clock counts. -/
theorem Bot.serve_congr (b : Bot T) {turn turn' : ChatTurn T}
    (hnow : turn.timing.now = turn'.timing.now) (hincoming : turn.incoming = turn'.incoming) :
    b.serve py settings turn = b.serve py settings turn' := by
  unfold Bot.serve hear take closes
  rw [hincoming, hnow]

/-- Two messages of one conversation at one time leave the bot alike. -/
theorem Bot.serve_snd_congr (b : Bot T) {turn turn' : ChatTurn T}
    (hnow : turn.timing.now = turn'.timing.now)
    (hkey : turn.incoming.key py settings = turn'.incoming.key py settings) :
    (b.serve py settings turn).2 = (b.serve py settings turn').2 := by
  rw [Bot.serve_snd, Bot.serve_snd, hkey]
  unfold take closes
  rw [hnow]

/-- Messages of the same conversations at the same times: what is said to one that is the
same in both is the same. -/
theorem Bot.serveAll_alike {turns turns' : List (ChatTurn T)}
    (hseen : turns.map (fun turn => (turn.timing.now, turn.incoming.key py settings)) =
      turns'.map fun turn => (turn.timing.now, turn.incoming.key py settings))
    (b : Bot T) {j : ℕ}
    (hsame : turns[j]?.map ChatTurn.incoming = turns'[j]?.map ChatTurn.incoming) :
    (b.serveAll py settings turns).1[j]? = (b.serveAll py settings turns').1[j]? := by
  induction turns generalizing turns' b j with
  | nil =>
    obtain rfl := List.map_eq_nil_iff.mp hseen.symm
    rfl
  | cons turn rest ih =>
    cases turns' with
    | nil => cases hseen
    | cons turn' rest' =>
      obtain ⟨hfirst, hrest⟩ := List.cons.inj hseen
      obtain ⟨hnow, hkey⟩ := Prod.mk.inj hfirst
      cases j with
      | zero =>
        have hserve : b.serve py settings turn = b.serve py settings turn' :=
          b.serve_congr hnow (Option.some.inj hsame)
        exact congrArg (fun served => some served.1) hserve
      | succ j =>
        have hmore := ih hrest (b.serve py settings turn).2 hsame
        rw [b.serve_snd_congr hnow hkey] at hmore
        unfold serveAll
        rw [b.serve_snd_congr hnow hkey]
        exact hmore

section Runs

variable [IsStrictOrderedRing T] [FloorRing T] (py settings) (cwd : List String)

/-- **Who is answered.** In every run a message is answered if fewer than a hundred messages
came before it and its conversation began less than an hour ago; and what is said does not
depend on anything else that was said. -/
theorem chats_answered (clock : T) (files : Files) (before after : List (ChatTurn T))
    (turn : ChatTurn T) (mishaps : ℕ → List (Mishap T)) (bot : ChatBot) (message : ChatMessage)
    (hasks : turn.incoming.asks py settings = .ok (some (bot, message)))
    (hordered : (before ++ turn :: after).Pairwise fun a b => ∀ k, a.timing.now k ≤ b.timing.now 0) :
    (serveChats py cwd settings mishaps (before ++ turn :: after)
      (localWorld py cwd clock files)).1[before.length]? =
        some (.ok ((saidAfter py settings before turn.timing bot message).map turn.incoming.post)) := by
  have hmachine := (conversing_serves py cwd settings clock files _ mishaps hordered).1
  have hremembers : ((Bot.new : Bot T).serveAll py settings before).2.Remembers py settings before :=
    Bot.remembers_new.serveAll
  rw [hmachine, Bot.serveAll_append, List.getElem?_append_right (Bot.serveAll_length _ _).le,
    Bot.serveAll_length, Nat.sub_self]
  exact congrArg some (hremembers.said hasks)

/-- The second greeting is answered, after a restart. -/
theorem chats_answered_sample :
    (serveChats Py.sample [] .default (fun _ => [.restart 5]) sampleChat
      (localWorld Py.sample [] 0 Sample.files)).1[1]? =
        some (.ok (some ⟨"deterministic-model:hi ", some "1.0"⟩)) := by
  refine (chats_answered Py.sample .default [] 0 Sample.files [sampleMention 0]
    [sampleMention 5000] (sampleMention 100) (fun _ => [.restart 5]) _ _ rfl
    sampleChat_ordered).trans ?_
  refine congrArg (fun reply => some (Except.ok reply)) ?_
  decide +kernel

/-- **What others say** is not told. Two runs of which a user sees the same, that is when
messages come and of which conversations they are, post the same to each message that is
the same in both, whatever the others say, which cells are lost and when the process is
restarted. -/
theorem chats_private (clock clock' : T) (files files' : Files) (turns turns' : List (ChatTurn T))
    (mishaps mishaps' : ℕ → List (Mishap T))
    (hseen : turns.map (fun turn => (turn.timing.now, turn.incoming.key py settings)) =
      turns'.map fun turn => (turn.timing.now, turn.incoming.key py settings))
    (hordered : turns.Pairwise fun a b => ∀ k, a.timing.now k ≤ b.timing.now 0)
    (j : ℕ) (hsame : turns[j]?.map ChatTurn.incoming = turns'[j]?.map ChatTurn.incoming) :
    (serveChats py cwd settings mishaps turns (localWorld py cwd clock files)).1[j]? =
      (serveChats py cwd settings mishaps' turns' (localWorld py cwd clock' files')).1[j]? := by
  have hclocks : turns.map (fun turn => turn.timing.now) = turns'.map fun turn => turn.timing.now := by
    have h := congrArg (List.map Prod.fst) hseen
    rw [List.map_map, List.map_map] at h
    exact h
  have hordered' : turns'.Pairwise fun a b => ∀ k, a.timing.now k ≤ b.timing.now 0 := by
    have hmap : (turns.map fun turn => turn.timing.now).Pairwise fun a b => ∀ k, a k ≤ b 0 :=
      List.pairwise_map.mpr hordered
    rw [hclocks] at hmap
    exact List.pairwise_map.mp hmap
  rw [(conversing_serves py cwd settings clock files turns mishaps hordered).1,
    (conversing_serves py cwd settings clock' files' turns' mishaps' hordered').1]
  exact Bot.serveAll_alike hseen _ hsame

end Runs

/-- The sample, but for what is said first, by whom, and with which files there. -/
def sampleOther : List (ChatTurn ℚ) :=
  ⟨.still 0 { Sample.files with isDir := fun _ => .ok false },
    .slackMention ⟨some "C", some "1.0", some "U3", some (.str "a secret"), none, none, none⟩⟩ ::
      sampleChat.tail

theorem chats_private_sample :
    (serveChats Py.sample [] .default (fun _ => [.restart 5]) sampleChat
      (localWorld Py.sample [] 0 Sample.files)).1[1]? =
      (serveChats Py.sample [] .default (fun _ => []) sampleOther
        (localWorld Py.sample [] 9 Sample.files)).1[1]? :=
  chats_private Py.sample .default [] 0 9 Sample.files Sample.files sampleChat sampleOther
    (fun _ => [.restart 5]) (fun _ => []) rfl sampleChat_ordered 1 rfl

end Nadi
