import Nadi.Model.Reply
import Nadi.Model.Sample

/-!
# What a reply can do in a chat

Each text is stripped in one pass, which deletes what lies in a match of
`<[@#!][^>]*>`; the deletion itself, and the joining of the texts, may put new
matches together. A reply has none exactly if no text opens one across deleted
parts, or opens one that it does not close, with a `>` to come that is shown
(`reply_safe_iff`). Backticks never come through.
-/

namespace Nadi

open Data.Delimited
open SessionJWT (isStr)

/-! ## The condition -/

/-- The character lies in a match of `<[@#!][^>]*>`. -/
def Controlled (text : List Char) (i : ℕ) : Prop := Covered opensControl closesControl text i

/-- The character is one of the first 4000 that lie in no match. -/
def Shown (text : List Char) : ℕ → Prop := Among 4000 fun i => ¬ Controlled text i

/-- Some character of the text is shown. -/
def Visible (text : List Char) : Prop := ∃ i, Shown text i ∧ i < text.length

/-- `value.get(key, default)` for a dict, and the default for any other value. -/
def Json.field (j : Json) (key : String) (default : Json) : Json :=
  match j with
  | .obj fields => (fields.lookup key).getD default
  | _ => default

open Classical in
/-- The texts of an event that go into the reply, as they are in the event. -/
noncomputable def replyTexts (py : Py) (includeToolResults : Bool) (ev : Json) : List (List Char) :=
  let payload := ev.field "payload" .empty
  let et := ev.field "event_type" (.str "")
  let text (j : Json) (key default : String) := ((j.field key (.str default)).pyStr py).toList
  if isStr et "assistant.message" || isStr et "model.response" then
    if Visible (text payload "text" "") then [text payload "text" ""] else []
  else if isStr et "tool.result" && includeToolResults then
    let result := payload.field "result" .empty
    if Visible (text result "text" "") then
      [text payload "tool" "tool", text result "text" ""]
    else []
  else if isStr et "command.error" then [text payload "error" "unknown error"]
  else []

/-- Two characters next to each other among those shown of a text are `<` and one of
`@`, `#` and `!`, and a `>` behind them is shown, of this text or of a later one. -/
def Injects (texts : List (List Char)) : Prop :=
  ∃ before text later, texts = before ++ text :: later ∧
    ∃ i, ExposedAt opensControl closesControl
      (∃ text' ∈ later, ∃ k, Shown text' k ∧ text'[k]? = some '>') (Shown text) text i

/-- The text has neither a backtick nor a match of `<[@#!][^>]*>`. -/
def Harmless (text : String) : Prop :=
  backtick ∉ text.toList ∧ ∀ j k, ¬ StretchAt opensControl closesControl text.toList j k

/-! ## Stripping one text -/

theorem opensControl_closes (a b : Char) (h : opensControl a b = true) :
    closesControl a = false ∧ closesControl b = false := by
  simp only [opensControl, Bool.and_eq_true, beq_iff_eq, List.contains_eq_mem, List.mem_cons,
    List.not_mem_nil, or_false, decide_eq_true_eq] at h
  obtain ⟨rfl, rfl | rfl | rfl⟩ := h <;> decide

theorem unquote_eq {c d : Char} (hd : d ≠ backtick) (hd' : d ≠ '\'') : unquote c = d ↔ c = d := by
  unfold unquote
  split
  · rename_i h
    subst h
    exact iff_of_false hd'.symm hd.symm
  · rfl

theorem unquote_opens (a b : Char) :
    opensControl (unquote a) (unquote b) = opensControl a b := by
  have hiff : opensControl (unquote a) (unquote b) = true ↔ opensControl a b = true := by
    simp only [opensControl, Bool.and_eq_true, beq_iff_eq, List.contains_eq_mem, List.mem_cons,
      List.not_mem_nil, or_false, decide_eq_true_eq]
    rw [unquote_eq (by decide) (by decide), unquote_eq (by decide) (by decide),
      unquote_eq (by decide) (by decide), unquote_eq (by decide) (by decide)]
  exact Bool.eq_iff_iff.mpr hiff

theorem unquote_closes (a : Char) : closesControl (unquote a) = closesControl a := by
  have hiff : closesControl (unquote a) = true ↔ closesControl a = true := by
    simp only [closesControl, beq_iff_eq]
    exact unquote_eq (by decide) (by decide)
  exact Bool.eq_iff_iff.mpr hiff

/-- The characters of a text that are shown, with `'` for backticks. -/
noncomputable def shownText (text : List Char) : List Char := (kept (Shown text) text).map unquote

theorem sanitize_toList (text : String) : (sanitize text).toList = shownText text.toList := by
  unfold sanitize platformControls
  rw [String.toList_ofList, ← List.map_take, sub_stretch opensControl_closes, take_kept]
  rfl

theorem sanitize_ne_empty {text : String} : sanitize text ≠ "" ↔ Visible text.toList := by
  have hempty : sanitize text = "" ↔ ∀ c, c ∉ kept (Shown text.toList) text.toList := by
    rw [← String.toList_inj, sanitize_toList, String.toList_empty, shownText,
      List.map_eq_nil_iff, List.eq_nil_iff_forall_not_mem]
  rw [ne_eq, hempty, not_forall_not]
  constructor
  · rintro ⟨c, hc⟩
    obtain ⟨i, hi, hget⟩ := mem_kept.mp hc
    exact ⟨i, hi, (List.getElem?_eq_some_iff.mp hget).1⟩
  · rintro ⟨i, hi, hlt⟩
    exact ⟨_, mem_kept.mpr ⟨i, hi, List.getElem?_eq_getElem hlt⟩⟩

theorem backtick_shownText (text : List Char) : backtick ∉ shownText text := by
  intro h
  obtain ⟨c, -, hc⟩ := List.mem_map.mp h
  unfold unquote at hc
  split at hc
  · cases hc
  · rename_i hne
    exact hne hc

theorem closes_shownText (text : List Char) :
    (∃ c ∈ shownText text, closesControl c = true) ↔ ∃ k, Shown text k ∧ text[k]? = some '>' := by
  unfold shownText
  simp only [List.mem_map, mem_kept, closesControl, beq_iff_eq]
  constructor
  · rintro ⟨_, ⟨c, ⟨k, hk, hget⟩, rfl⟩, hc⟩
    rw [unquote_eq (by decide) (by decide)] at hc
    exact ⟨k, hk, hc ▸ hget⟩
  · rintro ⟨k, hk, hget⟩
    exact ⟨'>', ⟨'>', ⟨k, hk, hget⟩, rfl⟩, rfl⟩

/-- Control sequences are put together from what is shown where the texts inject them. -/
theorem exposedIn_shownText (texts : List (List Char)) :
    ExposedIn opensControl closesControl (texts.map shownText) ↔ Injects texts := by
  have hexposed : ∀ (text : List Char) (later : List (List Char)), Exposed opensControl closesControl
      (∃ w ∈ later.map shownText, ∃ c ∈ w, closesControl c = true) (shownText text) ↔
        ∃ i, ExposedAt opensControl closesControl
          (∃ text' ∈ later, ∃ k, Shown text' k ∧ text'[k]? = some '>') (Shown text) text i := by
    intro text later
    rw [shownText, exposed_map unquote_opens unquote_closes, exposed_kept opensControl_closes]
    simp only [List.mem_map, exists_exists_and_eq_and, closes_shownText]
  constructor
  · rintro ⟨before, w, later, heq, hw⟩
    obtain ⟨before, rest, rfl, rfl, hrest⟩ := List.map_eq_append_iff.mp heq
    obtain ⟨text, later, rfl, rfl, rfl⟩ := List.map_eq_cons_iff.mp hrest
    exact ⟨before, text, later, rfl, (hexposed text later).mp hw⟩
  · rintro ⟨before, text, later, rfl, hi⟩
    refine ⟨before.map shownText, shownText text, later.map shownText, by simp, ?_⟩
    exact (hexposed text later).mpr hi

/-! ## Joining the texts -/

/-- What is put before and between the texts of an event. -/
def separators : List (List Char) := ["\n".toList, "\n[".toList, "] ".toList, "\nError: ".toList]

theorem separators_neutral {s : List Char} (hs : s ∈ separators) :
    s ≠ [] ∧ ∀ c ∈ s, Neutral opensControl closesControl c := by
  have hneutral : ∀ c : Char, c ∉ ['<', '>', '@', '#', '!'] →
      Neutral opensControl closesControl c := by
    intro c hc
    simp only [List.mem_cons, List.not_mem_nil, or_false, not_or] at hc
    simp [Neutral, opensControl, closesControl, hc]
  have hall : ∀ s ∈ separators, s ≠ [] ∧
      (s.all fun c => !(['<', '>', '@', '#', '!'].contains c)) = true := by decide
  obtain ⟨hne, hchars⟩ := hall s hs
  refine ⟨hne, fun c hc => hneutral c ?_⟩
  simpa using List.all_eq_true.mp hchars c hc

/-- The reply is made of the texts that are shown, with separators before them. -/
def Woven (out : List Char) (texts : List (List Char)) : Prop :=
  ∃ pieces : List (List Char × List Char), (∀ p ∈ pieces, p.1 ∈ separators) ∧
    pieces.map Prod.snd = texts ∧ out = pieces.flatMap fun p => p.1 ++ p.2

theorem Woven.append {out out' : List Char} {texts texts' : List (List Char)}
    (h : Woven out texts) (h' : Woven out' texts') : Woven (out ++ out') (texts ++ texts') := by
  obtain ⟨pieces, hsep, rfl, rfl⟩ := h
  obtain ⟨pieces', hsep', rfl, rfl⟩ := h'
  refine ⟨pieces ++ pieces', fun p hp => ?_, by simp, by simp⟩
  rcases List.mem_append.mp hp with hp | hp
  · exact hsep p hp
  · exact hsep' p hp

variable {py : Py} {includeToolResults : Bool}

theorem Json.get_eq_field {j v default : Json} {key : String} (h : j.get key default = .ok v) :
    v = j.field key default := by
  cases j with
  | obj fields => exact (Except.ok.inj h).symm
  | _ => cases h

theorem woven_piece (sep : List Char) (hsep : sep ∈ separators) (text : String) :
    Woven (sep ++ (sanitize text).toList) [shownText text.toList] :=
  ⟨[(sep, (sanitize text).toList)], by simpa using hsep, by simp [sanitize_toList], by simp⟩

/-- The part of an event is woven of its texts. -/
theorem replyPart_woven {ev : Json} {part : Option String}
    (h : replyPart py includeToolResults ev = .ok part) :
    Woven (part.toList.flatMap fun s => '\n' :: s.toList)
      ((replyTexts py includeToolResults ev).map shownText) := by
  have hnone : Woven [] [] := ⟨[], by simp, rfl, rfl⟩
  unfold replyPart at h
  unfold replyTexts
  obtain ⟨payload, hpayload, h⟩ := eq_ok_of_bind h
  obtain rfl := Json.get_eq_field hpayload
  obtain ⟨et, het, h⟩ := eq_ok_of_bind h
  obtain rfl := Json.get_eq_field het
  dsimp only
  -- a message, the result of a tool, or an error
  split at h
  · rename_i hmessage
    rw [if_pos hmessage]
    obtain ⟨text, htext, h⟩ := eq_ok_of_bind h
    obtain rfl := Json.get_eq_field htext
    obtain rfl := Except.ok.inj h
    split
    · rename_i hvisible
      rw [if_pos (sanitize_ne_empty.mp hvisible)]
      simpa using woven_piece "\n".toList (by decide) _
    · rename_i hvisible
      rw [if_neg (mt sanitize_ne_empty.mpr hvisible)]
      exact hnone
  rename_i hmessage
  rw [if_neg hmessage]
  split at h
  · rename_i htool
    rw [if_pos htool]
    obtain ⟨result, hresult, h⟩ := eq_ok_of_bind h
    obtain rfl := Json.get_eq_field hresult
    obtain ⟨tool, htoolname, h⟩ := eq_ok_of_bind h
    obtain rfl := Json.get_eq_field htoolname
    obtain ⟨text, htext, h⟩ := eq_ok_of_bind h
    obtain rfl := Json.get_eq_field htext
    obtain rfl := Except.ok.inj h
    split
    · rename_i hvisible
      rw [if_pos (sanitize_ne_empty.mp hvisible)]
      have hname := woven_piece "\n[".toList (by decide)
      have htext := woven_piece "] ".toList (by decide)
      simpa using (hname _).append (htext _)
    · rename_i hvisible
      rw [if_neg (mt sanitize_ne_empty.mpr hvisible)]
      exact hnone
  rename_i htool
  rw [if_neg htool]
  split at h
  · rename_i herror
    rw [if_pos herror]
    obtain ⟨error, hfield, h⟩ := eq_ok_of_bind h
    obtain rfl := Json.get_eq_field hfield
    obtain rfl := Except.ok.inj h
    simpa using woven_piece "\nError: ".toList (by decide) _
  · rename_i herror
    rw [if_neg herror]
    obtain rfl := Except.ok.inj h
    exact hnone

theorem replyParts_woven {events : List Json} {parts : List String}
    (h : replyParts py includeToolResults events = .ok parts) :
    Woven (parts.flatMap fun s => '\n' :: s.toList)
      ((events.flatMap (replyTexts py includeToolResults)).map shownText) := by
  induction events generalizing parts with
  | nil =>
    cases h
    exact ⟨[], by simp, rfl, rfl⟩
  | cons ev events ih =>
    obtain ⟨part, hpart, h⟩ := eq_ok_of_bind h
    obtain ⟨rest, hrest, h⟩ := eq_ok_of_bind h
    obtain rfl := Except.ok.inj h
    rw [List.flatMap_append, List.flatMap_cons, List.map_append]
    exact (replyPart_woven hpart).append (ih hrest)

theorem newline_intercalate {parts : List String} (h : parts ≠ []) :
    '\n' :: ("\n".intercalate parts).toList = parts.flatMap fun s => '\n' :: s.toList := by
  rw [String.toList_intercalate]
  induction parts with
  | nil => exact absurd rfl h
  | cons part parts ih =>
    cases parts with
    | nil => simp [List.intercalate]
    | cons part' parts =>
      have hrest := ih (List.cons_ne_nil _ _)
      rw [List.flatMap_cons, ← hrest]
      simp [List.intercalate]

/-- What is woven has a control sequence where the texts inject one, and no backtick. -/
theorem Woven.exposed_iff {out : List Char} {texts : List (List Char)}
    (h : Woven out (texts.map shownText)) :
    Exposed opensControl closesControl False out ↔ Injects texts := by
  obtain ⟨pieces, hsep, htexts, rfl⟩ := h
  rw [exposed_flatMap fun p hp => separators_neutral (hsep p hp), htexts, exposedIn_shownText]

theorem Woven.backtick {out : List Char} {texts : List (List Char)}
    (h : Woven out (texts.map shownText)) : backtick ∉ out := by
  obtain ⟨pieces, hsep, htexts, rfl⟩ := h
  have hall : ∀ s ∈ separators, Nadi.backtick ∉ s := by decide
  intro hmem
  obtain ⟨p, hp, hc⟩ := List.mem_flatMap.mp hmem
  rcases List.mem_append.mp hc with hc | hc
  · exact hall p.1 (hsep p hp) hc
  · have hshown : p.2 ∈ texts.map shownText := htexts ▸ List.mem_map_of_mem hp
    obtain ⟨text, -, htext⟩ := List.mem_map.mp hshown
    rw [← htext] at hc
    exact backtick_shownText text hc

theorem harmless_iff (text : String) : Harmless text ↔ backtick ∉ text.toList ∧
    ¬ Exposed opensControl closesControl False text.toList := by
  unfold Harmless
  rw [Data.Delimited.exposed_iff opensControl_closes]
  simp only [not_exists]

/-- **A reply is harmless** if and only if the texts of its events inject nothing. -/
theorem reply_safe_iff {events : List Json} {out : String}
    (h : extractReplyText py events includeToolResults = .ok out) :
    Harmless out ↔ ¬ Injects (events.flatMap (replyTexts py includeToolResults)) := by
  obtain ⟨parts, hparts, h⟩ := eq_ok_of_bind h
  obtain rfl := Except.ok.inj h
  have hwoven := replyParts_woven hparts
  rw [harmless_iff, ← hwoven.exposed_iff]
  cases parts with
  | nil => exact iff_of_true ⟨List.not_mem_nil, id⟩ id
  | cons part parts =>
    -- a line break in front changes nothing
    have hline := newline_intercalate (List.cons_ne_nil part parts)
    have hneutral : ∀ c ∈ ['\n'], Neutral opensControl closesControl c :=
      (separators_neutral (by decide)).2
    have hfront : ∀ w, Exposed opensControl closesControl False ('\n' :: w) ↔
        Exposed opensControl closesControl False w := fun _ => exposed_neutral hneutral
    rw [← hline, hfront]
    refine and_iff_right fun hmem => hwoven.backtick ?_
    rw [← hline]
    exact List.mem_cons_of_mem _ hmem

/-- A message that a pass of the stripping turns into a mention. -/
def nestedMention : List Json :=
  [.obj [("event_type", .str "assistant.message"),
    ("payload", .obj [("text", .str "<<@a>@b>")])]]

/-- The mention reaches the chat. -/
theorem mention_injected :
    extractReplyText Py.sample nestedMention false = .ok "<@b>" ∧ ¬ Harmless "<@b>" := by
  refine ⟨by with_unfolding_all rfl, fun h => h.2 0 3 ?_⟩
  exact stretch_eq_some.mp (by decide)

/-- A message with a mention and a channel, a result and an error. -/
def mixedEvents : List Json :=
  [.obj [("event_type", .str "assistant.message"),
      ("payload", .obj [("text", .str "hi <@U1>, see <#C2>")])],
    .obj [("event_type", .str "tool.result"),
      ("payload", .obj [("tool", .str "echo"), ("result", .obj [("text", .str "1 < 2")])])],
    .obj [("event_type", .str "command.error"), ("payload", .obj [("error", .str "no <!here> `")])]]

/-- All control sequences are gone from their segments, and with them what they might
have made of one another. -/
theorem reply_safe_mixed :
    Harmless "hi , see \n[echo] 1 < 2\nError: no  '" ↔
      ¬ Injects (mixedEvents.flatMap (replyTexts Py.sample true)) :=
  reply_safe_iff (by with_unfolding_all rfl)

end Nadi
