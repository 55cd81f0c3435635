import Nadi.Model.Programs
import Nadi.Model.Reply

/-!
# `nadi/adapters/`: the chat bots

A handler reads a message of its platform, finds the session of its conversation,
sends the text there as a command, and posts what it makes of the events. The
three platforms differ in what they read and in what they cut off; the `try` in
their handlers is the same, and is `ChatBot.respond`.

What is left out is the libraries of the platforms, which call the handlers and
take what is posted.
-/

namespace Nadi

open Effect.Prog (ofExcept)

variable {T : Type}

/-! ## `nadi/adapters/base.py` -/

/-- base.py:70–71. -/
def makeResourceId (platform userId : String) : String := platform ++ ":" ++ userId

/-- The dict that `append_event` returns. -/
def Event.dict (ev : Event) : Json :=
  .obj [
    ("actor_resource_id", ev.actorResourceId.elim .null .str),
    ("event_type", .str ev.eventType),
    ("payload", ev.payload),
    ("sequence", .int ev.sequence),
    ("session_id", .str ev.sessionId)]

/-- What its handler reads off an adapter. -/
structure ChatBot where
  platform : String
  tenantId : String
  commandType : String

/-- What a handler reads off a message. -/
structure ChatMessage where
  channelId : String
  threadId : String
  userId : String
  text : String
  metadata : Json

namespace ChatBot

/-- The arguments of `get_or_create_channel_session`. -/
def request (bot : ChatBot) (message : ChatMessage) : ChannelRequest where
  platform := bot.platform
  channelId := message.channelId
  threadId := message.threadId
  tenantId := bot.tenantId
  initiatorResourceId := makeResourceId bot.platform message.userId
  metadata := message.metadata

/-- The arguments of `send_command`. -/
def send (bot : ChatBot) (message : ChatMessage) : Send where
  commandType := bot.commandType
  payload := .obj [("prompt", .str message.text), ("text", .str message.text)]
  actorResourceId := some (makeResourceId bot.platform message.userId)

variable [Field T] [LinearOrder T] [IsStrictOrderedRing T] [FloorRing T] (py : Py)

/-- The body of the `try`, up to `reply`. -/
def reply (bot : ChatBot) (message : ChatMessage) : Code T String := do
  let routing ← (bot.request message).run py
  let result ← (bot.send message).code py routing.sessionId
  ofExcept (extractReplyText py (result.events.map Event.dict) false)

/-- The `try` of a `_handle`: what is posted, if anything. An exception is only
logged. -/
def respond (bot : ChatBot) (message : ChatMessage) : Code T (Option String) :=
  Effect.Prog.tryCatch
    (do
      let reply ← bot.reply py message
      return if reply ≠ "" then some reply else none)
    fun _ => return none

end ChatBot

/-- What is posted, and the thread that `say` is given. -/
structure Post where
  text : String
  threadTs : Option String
  deriving DecidableEq

/-- Whether a string that may be missing is truthy. -/
def given (s : Option String) : Bool := s.any (· ≠ "")

/-! ## `nadi/adapters/slack_adapter.py` -/

/-- The items of an event that are read. Slack gives strings; the text is made one. -/
structure SlackEvent where
  channel : Option String
  threadTs : Option String
  user : Option String
  text : Option Json
  team : Option String
  botId : Option String
  subtype : Option String

/-- `SlackAdapter._MAX_TEXT`. -/
def SlackAdapter.maxText : ℕ := 8000

/-- slack_adapter.py:81–90. -/
def SlackEvent.message (py : Py) (event : SlackEvent) : ChatMessage where
  channelId := event.channel.getD ""
  threadId := event.threadTs.getD ""
  userId := event.user.getD "unknown"
  text := String.ofList (((event.text.getD (.str "")).pyStr py).toList.take SlackAdapter.maxText)
  metadata := .obj [("team", event.team.elim .null .str)]

namespace SlackAdapter

variable [Field T] [LinearOrder T] [IsStrictOrderedRing T] [FloorRing T] (py : Py)
  (tenantId commandType : String)

/-- slack_adapter.py:80–114. -/
def handle (event : SlackEvent) : Code T (Option Post) := do
  let reply ← ChatBot.respond py ⟨"slack", tenantId, commandType⟩ (event.message py)
  return reply.map fun reply => ⟨reply, some (event.threadTs.getD "")⟩

/-- slack_adapter.py:65–71: messages of bots and edits are ignored. -/
def onMessage (event : SlackEvent) : Code T (Option Post) :=
  if given event.botId || given event.subtype then return none
  else handle py tenantId commandType event

/-- slack_adapter.py:73–76. -/
def onMention (event : SlackEvent) : Code T (Option Post) := handle py tenantId commandType event

end SlackAdapter

/-! ## `nadi/adapters/discord_adapter.py` -/

/-- What is read off a `discord.Message`. -/
structure DiscordMessage where
  authorId : ℕ
  authorBot : Bool
  channelId : ℕ
  /-- Its channel is a `discord.Thread`. -/
  inThread : Bool
  content : Option String
  guildId : Option ℕ

/-- `DiscordAdapter._MAX_TEXT`. -/
def DiscordAdapter.maxText : ℕ := 8000

/-- discord_adapter.py:68–73. -/
def DiscordMessage.message (message : DiscordMessage) : ChatMessage where
  channelId := toString message.channelId
  threadId := if message.inThread then toString message.channelId else ""
  userId := toString message.authorId
  text := String.ofList ((message.content.getD "").toList.take DiscordAdapter.maxText)
  metadata := .obj [("guild_id", message.guildId.elim .null fun id => .str (toString id))]

namespace DiscordAdapter

variable [Field T] [LinearOrder T] [IsStrictOrderedRing T] [FloorRing T] (py : Py)
  (tenantId commandType : String)

/-- discord_adapter.py:65–95. -/
def handle (message : DiscordMessage) : Code T (Option Post) := do
  let reply ← ChatBot.respond py ⟨"discord", tenantId, commandType⟩ message.message
  return reply.map fun reply => ⟨String.ofList (reply.toList.take 2000), none⟩

/-- discord_adapter.py:57–61. -/
def onMessage (message : DiscordMessage) : Code T (Option Post) :=
  if message.authorBot then return none
  else handle py tenantId commandType message

end DiscordAdapter

/-! ## `nadi/adapters/telegram_adapter.py` -/

/-- What is read off an `Update` with a text message. A post in a channel has no user. -/
structure TelegramUpdate where
  chatId : ℤ
  chatType : String
  userId : Option ℤ
  messageThreadId : Option ℤ
  text : Option String

/-- telegram_adapter.py:57–61, for the id of the user. -/
def TelegramUpdate.message (update : TelegramUpdate) (userId : ℤ) : ChatMessage where
  channelId := toString update.chatId
  threadId := match update.messageThreadId with
    | none => ""
    | some id => if id ≠ 0 then toString id else ""
  userId := toString userId
  text := update.text.getD ""
  metadata := .obj [("chat_type", .str update.chatType)]

namespace TelegramAdapter

variable [Field T] [LinearOrder T] [IsStrictOrderedRing T] [FloorRing T] (py : Py)
  (tenantId commandType : String)

/-- telegram_adapter.py:52–83. The user is read outside the `try`. -/
def handle (update : TelegramUpdate) : Code T (Option Post) :=
  match update.userId with
  | none => .throw (.attributeError "'NoneType' object has no attribute 'id'")
  | some userId => do
    let reply ← ChatBot.respond py ⟨"telegram", tenantId, commandType⟩ (update.message userId)
    return reply.map fun reply => ⟨reply, none⟩

end TelegramAdapter

/-! ## The three on one gateway -/

/-- What `__init__` is given by its callers: a tenant and a type of commands for each. -/
structure ChatSettings where
  slack : String × String
  discord : String × String
  telegram : String × String

/-- The default arguments. -/
def ChatSettings.default : ChatSettings :=
  ⟨("slack", "model"), ("discord", "model"), ("telegram", "model")⟩

/-- What a platform calls a handler with. -/
inductive Incoming where
  | slackMessage (event : SlackEvent)
  | slackMention (event : SlackEvent)
  | discordMessage (message : DiscordMessage)
  | telegramUpdate (update : TelegramUpdate)

/-- Call it. -/
def Incoming.code [Field T] [LinearOrder T] [IsStrictOrderedRing T] [FloorRing T] (py : Py)
    (settings : ChatSettings) : Incoming → Code T (Option Post)
  | .slackMessage event => SlackAdapter.onMessage py settings.slack.1 settings.slack.2 event
  | .slackMention event => SlackAdapter.onMention py settings.slack.1 settings.slack.2 event
  | .discordMessage message =>
    DiscordAdapter.onMessage py settings.discord.1 settings.discord.2 message
  | .telegramUpdate update => TelegramAdapter.handle py settings.telegram.1 settings.telegram.2 update

end Nadi
