import Nadi.Data.Delimited
import Nadi.Model.Security

/-!
# `nadi/adapters/base.py`: what is sent back to a chat

The texts of the events are stripped of control sequences, one by one, and then
joined.
-/

namespace Nadi

open SessionJWT (isStr)

/-- `<[@#!]`. -/
def opensControl (a b : Char) : Bool := a == '<' && ['@', '#', '!'].contains b

/-- `>`. -/
def closesControl (c : Char) : Bool := c == '>'

/-- `_PLATFORM_CONTROLS`: the length of a match of `<[@#!][^>]*>` at the start. -/
def platformControls : List Char → Option ℕ := Data.Delimited.stretch opensControl closesControl

/-- The character that quotes code, which has the code 96. -/
def backtick : Char := Char.ofNat 96

/-- `"'" if c == backtick else c`. -/
def unquote (c : Char) : Char := if c = backtick then '\'' else c

/-- base.py:11–16. -/
def sanitize (text : String) : String :=
  let text := Data.Delimited.sub platformControls 0 text.toList
  let text := text.map unquote
  String.ofList (text.take 4000)

/-- base.py:52–66: what the loop appends to `parts` for an event, if anything. -/
def replyPart (py : Py) (includeToolResults : Bool) (ev : Json) : Except PyErr (Option String) := do
  let payload ← ev.get "payload" .empty
  let et ← ev.get "event_type" (.str "")
  if isStr et "assistant.message" || isStr et "model.response" then
    let text := sanitize ((← payload.get "text" (.str "")).pyStr py)
    return if text ≠ "" then some text else none
  else if isStr et "tool.result" && includeToolResults then
    let result ← payload.get "result" .empty
    let toolName := sanitize ((← payload.get "tool" (.str "tool")).pyStr py)
    let text := sanitize ((← result.get "text" (.str "")).pyStr py)
    return if text ≠ "" then some ("[" ++ toolName ++ "] " ++ text) else none
  else if isStr et "command.error" then
    let error := sanitize ((← payload.get "error" (.str "unknown error")).pyStr py)
    return some ("Error: " ++ error)
  else return none

/-- base.py:51–66: `parts` after the loop. -/
def replyParts (py : Py) (includeToolResults : Bool) : List Json → Except PyErr (List String)
  | [] => return []
  | ev :: events => do
    let part ← replyPart py includeToolResults ev
    let parts ← replyParts py includeToolResults events
    return part.toList ++ parts

/-- base.py:39–67. -/
def extractReplyText (py : Py) (events : List Json) (includeToolResults : Bool) :
    Except PyErr String := do
  let parts ← replyParts py includeToolResults events
  return if parts.isEmpty then "" else "\n".intercalate parts

end Nadi
