import Nadi.Model.Chat
import Nadi.Story

/-!
# A chat bot as its users know it

Two parts are behind what a bot says: how many messages it has taken, and when each
of its conversations ends. A conversation ends an hour after its first message,
whatever is said in it, and after a hundred messages the bot is silent for ever:
each message takes a slot of the one host, be its conversation new or not.

The platforms differ only in what is read off a message and in how a reply is
posted; and what is replied is a function of the text.
-/

namespace Nadi

open Effect

variable {T : Type}

/-! ## The machine -/

/-- What is answered to a text, in one piece. -/
def answered (commandType text : String) : String :=
  if commandType = "echo" then sanitize text
  else if commandType = "model" then sanitize ("deterministic-model:" ++ text)
  else if commandType = "tool" then ""
  else "Error: " ++ sanitize ("unknown command: " ++ commandType)

/-- What is posted of an answer: nothing, if it is empty. -/
def posted (answer : String) : Option String := if answer ≠ "" then some answer else none

/-- A bot as its users know it. -/
structure Bot (T : Type) where
  taken : ℕ
  /-- When a conversation ends, once it has begun. -/
  ends : String × String × String → Option T

/-- One that nobody has talked to. -/
def Bot.new : Bot T := ⟨0, fun _ => none⟩

/-- The number of messages it takes. -/
def Bot.capacity : ℕ := 100

section Machine

variable [Field T] [LinearOrder T] (py : Py) (tm : Timing T) (settings : ChatSettings)

/-- When a conversation ends that a message is about to be taken in. -/
def Bot.closes (b : Bot T) (key : String × String × String) : T :=
  (b.ends key).getD (tm.now 1 + (3600 : ℤ))

/-- The message is taken. -/
def Bot.take (b : Bot T) (key : String × String × String) : Bot T where
  taken := b.taken + 1
  ends := Function.update b.ends key (some (b.closes tm key))

/-- The reading of the clock at which its route is looked up for the last time. A
candidate that is not needed has been abandoned before that. -/
def Bot.looks (b : Bot T) (key : String × String × String) : ℕ :=
  if (b.ends key).isSome then 9 else 8

/-- **One message**: what is said to it, and the bot after it. -/
def Bot.hear (b : Bot T) (bot : ChatBot) (message : ChatMessage) : Option String × Bot T :=
  let key := (bot.request message).key
  if b.taken < capacity then
    (if tm.now (b.looks key) < b.closes tm key then posted (answered bot.commandType message.text)
      else none, b.take tm key)
  else (none, b)

end Machine

/-! ## What the platforms differ in -/

namespace Incoming

/-- Whom a message is for, if it is not ignored, and what it says. -/
def asks (py : Py) (settings : ChatSettings) :
    Incoming → Except PyErr (Option (ChatBot × ChatMessage))
  | .slackMessage event =>
    .ok (if given event.botId || given event.subtype then none
      else some (⟨"slack", settings.slack.1, settings.slack.2⟩, event.message py))
  | .slackMention event => .ok (some (⟨"slack", settings.slack.1, settings.slack.2⟩, event.message py))
  | .discordMessage message =>
    .ok (if message.authorBot then none
      else some (⟨"discord", settings.discord.1, settings.discord.2⟩, message.message))
  | .telegramUpdate update =>
    match update.userId with
    | none => .error (.attributeError "'NoneType' object has no attribute 'id'")
    | some userId =>
      .ok (some (⟨"telegram", settings.telegram.1, settings.telegram.2⟩, update.message userId))

/-- How a reply is posted. -/
def post : Incoming → String → Post
  | .slackMessage event, reply => ⟨reply, some (event.threadTs.getD "")⟩
  | .slackMention event, reply => ⟨reply, some (event.threadTs.getD "")⟩
  | .discordMessage _, reply => ⟨String.ofList (reply.toList.take 2000), none⟩
  | .telegramUpdate _, reply => ⟨reply, none⟩

variable [Field T] [LinearOrder T] [IsStrictOrderedRing T] [FloorRing T] (py : Py)
  (settings : ChatSettings)

/-- **The handlers** are one, but for what they read and how they post. -/
theorem code_eq (incoming : Incoming) :
    (incoming.code py settings : Code T (Option Post)) =
      match incoming.asks py settings with
      | .error e => .throw e
      | .ok none => .pure none
      | .ok (some (bot, message)) =>
        (bot.respond py message).bind fun reply => .pure (reply.map incoming.post) := by
  cases incoming with
  | slackMessage event =>
    show SlackAdapter.onMessage py settings.slack.1 settings.slack.2 event = _
    unfold asks SlackAdapter.onMessage
    dsimp only
    split <;> rfl
  | slackMention event => rfl
  | discordMessage message =>
    show DiscordAdapter.onMessage py settings.discord.1 settings.discord.2 message = _
    unfold asks DiscordAdapter.onMessage
    dsimp only
    split <;> rfl
  | telegramUpdate update =>
    show TelegramAdapter.handle py settings.telegram.1 settings.telegram.2 update = _
    unfold asks TelegramAdapter.handle
    dsimp only
    cases update.userId <;> rfl

end Incoming

/-! ## What is answered -/

section Answers

variable (py : Py)

/-- The one part of a reply, if there is one. -/
theorem extractReplyText_single {ev : Json} {part : Option String}
    (h : replyPart py false ev = .ok part) :
    extractReplyText py [ev] false = .ok (part.getD "") := by
  unfold extractReplyText replyParts replyParts
  rw [h]
  cases part <;> rfl

variable (sid : String) (n : ℕ)

/-- What is made of an event that carries a text. -/
theorem replyPart_text {eventType : String}
    (htype : eventType = "assistant.message" ∨ eventType = "model.response") (text : String) :
    replyPart py false (Event.dict ⟨sid, n, eventType, .obj [("text", .str text)], none⟩) =
      .ok (posted (sanitize text)) := by
  rcases htype with rfl | rfl
  · rfl
  · rfl

/-- A result of a tool is not for users. -/
theorem replyPart_tool (result : Json) :
    replyPart py false (Event.dict ⟨sid, n, "tool.result", result, none⟩) = .ok none := rfl

theorem replyPart_error (error : String) :
    replyPart py false
        (Event.dict ⟨sid, n, "command.error", .obj [("error", .str error)], none⟩) =
      .ok (some ("Error: " ++ sanitize error)) := rfl

variable [Field T] [LinearOrder T] [IsStrictOrderedRing T] [FloorRing T] (tm : Timing T)

/-- **Handling** a message that was sent gives one event, of which the answer is made. It
raises only where a tool is called, and then nothing is said in either case. -/
theorem handle_answers (sandbox : Sandboxd) (token : String) (bot : ChatBot) (message : ChatMessage)
    {s s' : Ticking T} {r : Except PyErr (List (String × Json))}
    (hrun : (Runtime.handle py sandbox sid token (bot.send message).commandType
      (bot.send message).payload).run (timed py tm) s = (r, s')) :
    (∀ e, r = .error e → answered bot.commandType message.text = "") ∧
      ∀ outs, r = .ok outs → ∃ out, outs = [out] ∧ out.2.isObj = true ∧
        extractReplyText py [Event.dict ⟨sid, n, out.1, out.2, none⟩] false =
          .ok (answered bot.commandType message.text) := by
  have hposted : ∀ answer, (posted answer).getD "" = answer := by
    intro answer
    unfold posted
    by_cases h : answer = "" <;> simp [h]
  have houtcome := congrArg Prod.fst hrun
  unfold answered
  by_cases hecho : bot.commandType = "echo"
  · rw [if_pos hecho]
    unfold ChatBot.send Runtime.handle at houtcome
    dsimp only at houtcome
    rw [if_pos hecho] at houtcome
    subst houtcome
    refine ⟨fun _ h => (nomatch h), fun outs h => ?_⟩
    obtain rfl := Except.ok.inj h
    refine ⟨_, rfl, rfl, ?_⟩
    rw [extractReplyText_single py (replyPart_text py sid n (.inl rfl) _), hposted]
    rfl
  by_cases hmodel : bot.commandType = "model"
  · rw [if_neg hecho, if_pos hmodel]
    unfold ChatBot.send Runtime.handle at houtcome
    dsimp only at houtcome
    rw [if_neg hecho, if_pos hmodel] at houtcome
    subst houtcome
    refine ⟨fun _ h => (nomatch h), fun outs h => ?_⟩
    obtain rfl := Except.ok.inj h
    refine ⟨_, rfl, rfl, ?_⟩
    rw [extractReplyText_single py (replyPart_text py sid n (.inr rfl) _), hposted]
    rfl
  rw [if_neg hecho, if_neg hmodel]
  by_cases htool : bot.commandType = "tool"
  · -- results of tools are not shown, whether the tool runs or raises
    rw [if_pos htool]
    refine ⟨fun _ _ => rfl, fun outs h => ?_⟩
    rw [h] at houtcome
    obtain ⟨out, rfl, -, hobj⟩ := (Runtime.handle_single py sandbox sid token _ _).returned houtcome
    obtain ⟨result, hresult⟩ := (Runtime.handle_result py sid sandbox token _ _).returned houtcome
    have htype : resultType (bot.send message).commandType = "tool.result" := by
      show resultType bot.commandType = _
      rw [htool]
      rfl
    obtain rfl := List.singleton_inj.mp hresult
    refine ⟨_, rfl, hobj, ?_⟩
    rw [htype]
    exact extractReplyText_single py (replyPart_tool py sid n result)
  · -- a type that the runtime does not know: the error is what is said
    rw [if_neg htool]
    unfold ChatBot.send Runtime.handle at houtcome
    dsimp only at houtcome
    rw [if_neg hecho, if_neg hmodel, if_neg htool] at houtcome
    subst houtcome
    refine ⟨fun _ h => (nomatch h), fun outs h => ?_⟩
    obtain rfl := Except.ok.inj h
    exact ⟨_, rfl, rfl, extractReplyText_single py (replyPart_error py sid n _)⟩

end Answers

end Nadi
