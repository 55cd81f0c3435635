import Nadi.Responses

/-!
# The limits on a request

`_body` compares the declared length with its limit and then reads as much as was
declared, which for a negative length is all there is (server.py:42–46). The
fields of `POST /channels` are measured where they are texts, and stored as what
`str` makes of them (server.py:79–91). So a request keeps within the limits if
and only if its length is not negative, or the stream is short, and no other
value that is stored has a long text (`input_limits_iff`).
-/

namespace Nadi

open Effect

/-! ## The bytes of a body -/

namespace NadiHandler

variable {http : HttpPy} {h : NadiHandler} {req : HttpRequest}

variable (http req) in
/-- What `_body` reads of the connection. -/
def bytesRead : List UInt8 :=
  match http.int (req.contentLength.getD "0") with
  | .error _ => []
  | .ok n => if maxBodyBytes < n then [] else readStream req.rfile n

/-- What is read and is the text of a value is that value. -/
theorem body_of_bytesRead {n : ℤ} {body : Json}
    (hint : http.int (req.contentLength.getD "0") = .ok n) (hn : n ≤ maxBodyBytes)
    (hne : readStream req.rfile n ≠ []) (hloads : http.loads (readStream req.rfile n) = some body) :
    NadiHandler.body http req = .ok body := by
  unfold NadiHandler.body
  rw [hint]
  dsimp only
  rw [if_neg (not_lt.mpr hn)]
  split
  · rename_i hnil
    exact absurd hnil hne
  · rw [hloads]

variable (http req) in
/-- The declared length is not negative, or the stream is short. -/
def LengthFits : Prop :=
  ∀ n, http.int (req.contentLength.getD "0") = .ok n → n < 0 → req.rfile.length ≤ maxBodyBytes

/-- Only a negative length lets `_body` read more than its limit. -/
theorem bytesRead_le_iff : (bytesRead http req).length ≤ maxBodyBytes ↔ LengthFits http req := by
  unfold bytesRead LengthFits
  cases hint : http.int (req.contentLength.getD "0") with
  | error msg =>
    have hzero : (0 : ℤ) ≤ maxBodyBytes := by decide
    exact iff_of_true hzero fun _ h => nomatch h
  | ok n =>
    have hiff : (∀ n', (.ok n : Except String ℤ) = .ok n' → n' < 0 →
        (req.rfile.length : ℤ) ≤ maxBodyBytes) ↔ (n < 0 → (req.rfile.length : ℤ) ≤ maxBodyBytes) :=
      ⟨fun h => h n rfl, fun h n' heq => Except.ok.inj heq ▸ h⟩
    rw [hiff]
    dsimp only
    by_cases hbig : maxBodyBytes < n
    · rw [if_pos hbig]
      have hzero : (0 : ℤ) ≤ maxBodyBytes := by decide
      refine iff_of_true hzero fun hneg => ?_
      omega
    rw [if_neg hbig]
    unfold readStream
    by_cases hneg : n < 0
    · rw [if_pos hneg]
      exact ⟨fun h _ => h, fun h => h hneg⟩
    · rw [if_neg hneg]
      refine iff_of_true ?_ fun h => absurd h hneg
      have htake := List.length_take_le n.toNat req.rfile
      omega

end NadiHandler

/-! ## The texts of a channel -/

/-- A text within the limit of a field. -/
def Fits (text : String) : Prop := (utf8 text).length ≤ maxFieldBytes

instance (text : String) : Decidable (Fits text) :=
  inferInstanceAs (Decidable ((utf8 text).length ≤ maxFieldBytes))

/-- The texts that reach the gateway. -/
def ChannelRequest.texts (request : ChannelRequest) : List String :=
  [request.platform, request.channelId, request.threadId, request.initiatorResourceId]

/-- The texts in a row of `channels`. -/
def ChannelRow.texts {T : Type} (row : ChannelRow T) : List String :=
  [row.platform, row.channelId, row.threadId, row.initiatorResourceId]

namespace NadiHandler

variable {http : HttpPy} {h : NadiHandler} {req : HttpRequest} {body : Json}
  {request : ChannelRequest}

/-- What passes the check has no long text in the fields checked. -/
theorem oversizedField_none {fields : List String} (hnone : oversizedField http body fields = .ok none)
    {field text : String} (hfield : field ∈ fields)
    (hget : body.get field (.str "") = .ok (.str text)) : Fits text := by
  induction fields with
  | nil => cases hfield
  | cons first rest ih =>
    obtain ⟨value, hvalue, hrest⟩ := eq_ok_of_bind hnone
    rcases List.mem_cons.mp hfield with rfl | hfield
    · obtain rfl := Except.ok.inj (hvalue.symm.trans hget)
      dsimp only at hrest
      split at hrest
      · split at hrest
        · cases hrest
        · rename_i hle
          exact Nat.le_of_not_lt hle
      · cases hrest
    · refine ih ?_ hfield
      cases value with
      | str other =>
        dsimp only at hrest
        split at hrest
        · split at hrest
          · cases hrest
          · exact hrest
        · cases hrest
      | _ => exact hrest

variable (http body) in
/-- The values of a body that are checked without being texts have short ones. -/
def OthersFit : Prop :=
  ∀ field ∈ channelFields, ∀ value, body.get field (.str "") = .ok value →
    (∀ text, value ≠ .str text) → Fits (value.pyStr http.toPy)

/-- The texts of a channel request are those of its fields. -/
theorem channelRequest_texts (hrequest : h.channelRequest http body = .ok request) :
    channelFields.map (textField http body) = request.texts.map .ok := by
  obtain ⟨platform, hplatform, hrequest⟩ := eq_ok_of_bind hrequest
  obtain ⟨channelId, hchannelId, hrequest⟩ := eq_ok_of_bind hrequest
  obtain ⟨threadId, hthreadId, hrequest⟩ := eq_ok_of_bind hrequest
  obtain ⟨initiator, hinitiator, hrequest⟩ := eq_ok_of_bind hrequest
  obtain ⟨_, -, hrequest⟩ := eq_ok_of_bind hrequest
  obtain ⟨metadata, -, hrequest⟩ := eq_ok_of_bind hrequest
  cases hrequest
  simp only [channelFields, ChannelRequest.texts, List.map_cons, List.map_nil, hplatform,
    hchannelId, hthreadId, hinitiator]

/-- All the texts are short if and only if those of other values are. -/
theorem AsksChannel.fits_iff (hasks : h.AsksChannel http req body request) :
    (∀ text ∈ request.texts, Fits text) ↔ OthersFit http body := by
  have htexts := channelRequest_texts hasks.asked
  constructor
  · intro hfits field hfield value hvalue _
    have htext : textField http body field ∈ request.texts.map .ok :=
      htexts ▸ List.mem_map_of_mem hfield
    obtain ⟨text, hmem, heq⟩ := List.mem_map.mp htext
    obtain ⟨value', hvalue', hstr⟩ := eq_ok_of_bind heq.symm
    cases hvalue.symm.trans hvalue'
    rw [← http.str_eq hstr]
    exact hfits _ hmem
  · intro hothers text hmem
    have htext : (.ok text : Except PyErr String) ∈ channelFields.map (textField http body) :=
      htexts ▸ List.mem_map_of_mem hmem
    obtain ⟨field, hfield, heq⟩ := List.mem_map.mp htext
    obtain ⟨value, hvalue, htext⟩ := eq_ok_of_bind heq
    obtain rfl := http.str_eq htext
    by_cases hstr : ∃ text, value = .str text
    · obtain ⟨text, rfl⟩ := hstr
      exact oversizedField_none hasks.checked hfield hvalue
    · exact hothers field hfield value hvalue fun text heq => hstr ⟨text, heq⟩

/-- Which requests call the gateway for a channel. -/
theorem action_channelSession_iff :
    (∃ status, h.action http req = .ok (.channelSession status request)) ↔
      ∃ body, h.AsksChannel http req body request := by
  constructor
  · rintro ⟨status, haction⟩
    cases action_leads haction with
    | channelSession asks => exact ⟨_, asks⟩
  · rintro ⟨body, hasks⟩
    refine ⟨200, ?_⟩
    have hchecked := hasks.checked
    unfold channelFields at hchecked
    unfold action
    rw [hasks.post]
    dsimp only
    unfold doPost
    rw [if_pos hasks.key, hasks.path]
    simp only [hasks.read]
    show h.post http "/channels" body = _
    unfold post
    rw [if_neg (by decide), if_pos rfl, hchecked]
    show (do return Action.channelSession 200 (← h.channelRequest http body)) = _
    rw [hasks.asked]
    rfl

end NadiHandler

/-! ## What is stored -/

variable {T : Type} [Field T] [LinearOrder T] [IsStrictOrderedRing T] [FloorRing T]

omit [Field T] [IsStrictOrderedRing T] [FloorRing T] in
/-- A row is stored for the request: its channel is new, and a candidate can be
placed. -/
def ChannelRequest.Stores (request : ChannelRequest) (w : World T) : Prop :=
  w.store.channels.find? request.key = none ∧ ¬ w.PlacementFails

section Stored

variable (py : Py) (tm : Timing T) {s : Ticking T}

/-- Without a candidate the channels stay as they are. -/
theorem channelSession_fails_channels (hsound : s.world.Sound py) (request : ChannelRequest)
    (hfails : s.world.PlacementFails) :
    ((request.run py).run (timed py tm) s).2.world.store.channels = s.world.store.channels := by
  obtain ⟨s₁, hcall, -, hses, -, hchannels, -, hvacancy⟩ := run_candidate py tm hsound request
  obtain ⟨e, s₂, hplace, -⟩ := placeSession_fails py tm hses
    ((World.placementFails_congr hvacancy).mpr hfails)
  have hsame := run_noJoin_channels py tm (s := s₁) (Broker.placeSession_noJoin py
    (s.world.fresh py .session))
  rw [hplace] at hsame
  rw [hcall, ← hchannels, ← hsame, guarded_fails py tm request _ hplace]
  rfl

/-- **The row a channel request stores** has the texts of the request, with the
initiator resolved; where none is stored the channels stay as they are. -/
theorem channelSession_stored (hsound : s.world.Sound py)
    (hids : ∀ row ∈ s.world.store.channels, ∀ n, s.world.drawn .channel ≤ n →
      row.id ≠ py.uuid4 .channel n) (request : ChannelRequest) (row : ChannelRow T) :
    let after := ((request.run py).run (timed py tm) s).2.world.store.channels
    (row ∈ after ∧ row ∉ s.world.store.channels → request.Stores s.world ∧ row.texts =
        [request.platform, request.channelId, request.threadId, request.initiator py s.world]) ∧
      (request.Stores s.world → ∃ row, row ∈ after ∧ row ∉ s.world.store.channels) := by
  intro after
  by_cases hfails : s.world.PlacementFails
  · have hsame : after = s.world.store.channels :=
      channelSession_fails_channels py tm hsound request hfails
    rw [hsame]
    exact ⟨fun h => absurd h.1 h.2, fun h => absurd hfails h.2⟩
  obtain ⟨st, st', t, ⟨_, _, _⟩, hst, hjoined, -, hafter⟩ :=
    channelSession_joins py tm hsound hids request hfails
  obtain ⟨hins, row', hfound, -⟩ := Store.getOrCreateChannel_ok hjoined
  have hafter' : after = st'.channels := hafter
  rw [hafter', ← hst]
  rcases Store.insertChannel_ok hins with ⟨rfl, hkept⟩ | ⟨-, -, channels, hinsert, rfl⟩
  · refine ⟨fun h => absurd h.1 h.2, fun h => ?_⟩
    have hnone : st'.channels.find? request.key = none := hst ▸ h.1
    cases hnone.symm.trans hfound
  obtain ⟨hfresh, -⟩ := Data.Table.insert?_eq_some.mp hinsert
  refine ⟨fun ⟨hrow, hnot⟩ => ?_, fun _ => ?_⟩
  · rcases (Data.Table.mem_of_insert? hinsert).mp hrow with hold | rfl
    · exact absurd hold hnot
    · refine ⟨⟨?_, hfails⟩, rfl⟩
      rw [← hst]
      exact Data.Table.find?_eq_none.mpr hfresh
  · refine ⟨_, (Data.Table.mem_of_insert? hinsert).mpr (.inr rfl), fun hold => ?_⟩
    exact hfresh _ hold rfl

end Stored

section Limits

variable (http : HttpPy) (tm : Timing T) (h : NadiHandler) (req : HttpRequest)

/-- The rows of `channels` that are stored while a request is handled. -/
def NadiHandler.storedRows (s : Ticking T) : Set (ChannelRow T) :=
  fun row => row ∈ ((h.handle http req).run (timed http.toPy tm) s).2.world.store.channels ∧
    row ∉ s.world.store.channels

/-- A request keeps the limits: `_body` reads no more than its limit, and no long
text that reaches the gateway is stored. -/
structure NadiHandler.KeepsLimits (s : Ticking T) : Prop where
  bytes : (bytesRead http req).length ≤ maxBodyBytes
  texts : ∀ status request, h.action http req = .ok (.channelSession status request) →
    ∀ row ∈ h.storedRows http tm req s, ∀ text ∈ request.texts, text ∈ row.texts → Fits text

/-- The handler of an action other than a channel request joins no channel. -/
theorem Action.perform_noJoin {action : Action}
    (haction : ∀ status request, action ≠ .channelSession status request) :
    (action.perform http : Code T (Response T)).Within Call.noJoin fun _ => True := by
  cases action with
  | respond status error => cases error <;> trivial
  | createSession => exact .bind (Gateway.createSession_noJoin http.toPy ..) fun _ _ => trivial
  | channelSession status request => exact absurd rfl (haction status request)
  | getSessionEvents => exact .bind (Gateway.getSessionEvents_noJoin ..) fun _ _ => trivial
  | sendCommand status sid commandType payload actor =>
    have hvalues : (Gateway.sendValues http sid commandType payload actor : Code T Sent).Within
        Call.noJoin fun _ => True := by
      unfold Gateway.sendValues
      split
      · exact Gateway.sendCommand_noJoin http.toPy ..
      · exact .bind (Gateway.route_noJoin sid) fun _ _ => trivial
    exact .bind hvalues fun _ _ => trivial

variable {http tm h req}

/-- A row is stored for a channel request only. -/
theorem asks_of_stored {s : Ticking T} {row : ChannelRow T}
    (hrow : row ∈ h.storedRows http tm req s) :
    ∃ body request, h.AsksChannel http req body request := by
  obtain ⟨hafter, hnot⟩ := hrow
  by_contra hnone
  refine hnot ?_
  have hsame : ((h.handle http req).run (timed http.toPy tm) s).2.world.store.channels =
      s.world.store.channels := by
    unfold NadiHandler.handle
    cases haction : h.action http req with
    | error e => rfl
    | ok action =>
      refine run_noJoin_channels http.toPy tm (Action.perform_noJoin http ?_)
      rintro status request rfl
      obtain ⟨body, hasks⟩ := NadiHandler.action_channelSession_iff.mp ⟨status, haction⟩
      exact hnone ⟨body, request, hasks⟩
  rwa [hsame] at hafter

/-- The rows stored for a channel request. -/
theorem storedRows_eq {s : Ticking T} {body : Json} {request : ChannelRequest}
    (hasks : h.AsksChannel http req body request) (row : ChannelRow T) :
    row ∈ h.storedRows http tm req s ↔
      row ∈ ((request.run http.toPy).run (timed http.toPy tm) s).2.world.store.channels ∧
        row ∉ s.world.store.channels := by
  obtain ⟨status, haction⟩ := NadiHandler.action_channelSession_iff.mpr ⟨body, hasks⟩
  have hrun : ((h.handle http req).run (timed http.toPy tm) s).2 =
      ((request.run http.toPy).run (timed http.toPy tm) s).2 := by
    unfold NadiHandler.handle
    rw [haction]
    show (((request.run http.toPy).bind fun session =>
      .pure ⟨status, .channel session⟩ : Code T (Response T)).run (timed http.toPy tm) s).2 = _
    rcases hreq : (request.run http.toPy).run (timed http.toPy tm) s with ⟨e | session, s'⟩
    · rw [Prog.run_bind_error _ hreq]
    · rw [Prog.run_bind_ok _ hreq]
      rfl
  unfold NadiHandler.storedRows
  rw [hrun]
  rfl

variable (tm) in
/-- A channel request has at most one row stored, with its texts. -/
theorem NadiHandler.AsksChannel.stored {s : Ticking T} (hsound : s.world.Sound http.toPy)
    (hids : ∀ row ∈ s.world.store.channels, ∀ n, s.world.drawn .channel ≤ n →
      row.id ≠ http.uuid4 .channel n) {body : Json} {request : ChannelRequest}
    (hasks : h.AsksChannel http req body request) :
    (∀ row ∈ h.storedRows http tm req s, request.Stores s.world ∧ row.texts =
        [request.platform, request.channelId, request.threadId,
          request.initiator http.toPy s.world]) ∧
      (request.Stores s.world → ∃ row, row ∈ h.storedRows http tm req s) := by
  refine ⟨fun row hrow => ?_, fun hstores => ?_⟩
  · exact (channelSession_stored http.toPy tm hsound hids request row).1
      ((storedRows_eq hasks row).mp hrow)
  · obtain ⟨row, hrow⟩ := (channelSession_stored http.toPy tm hsound hids request
      (Store.newChannel 0 "" "" "" "" "" "" .null)).2 hstores
    exact ⟨row, (storedRows_eq hasks row).mpr hrow⟩

omit [Field T] [LinearOrder T] [IsStrictOrderedRing T] [FloorRing T] in
/-- Only an empty text of the request is not stored as it is. -/
theorem ChannelRequest.mem_texts (py : Py) {request : ChannelRequest} (w : World T)
    {text : String} (hmem : text ∈ request.texts) : text = "" ∨
      text ∈ [request.platform, request.channelId, request.threadId, request.initiator py w] := by
  unfold initiator
  by_cases hempty : request.initiatorResourceId = ""
  · rw [if_pos hempty]
    unfold texts at hmem
    rw [hempty] at hmem
    simp only [List.mem_cons, List.not_mem_nil, or_false] at hmem ⊢
    tauto
  · rw [if_neg hempty]
    exact .inr hmem

theorem fits_empty : Fits "" := by decide

/-- Where the limits are kept the texts of a request that has a row stored are short. -/
theorem NadiHandler.KeepsLimits.fits {s : Ticking T} (hkeeps : h.KeepsLimits http tm req s)
    (hsound : s.world.Sound http.toPy)
    (hids : ∀ row ∈ s.world.store.channels, ∀ n, s.world.drawn .channel ≤ n →
      row.id ≠ http.uuid4 .channel n) {body : Json} {request : ChannelRequest}
    (hasks : h.AsksChannel http req body request) (hstores : request.Stores s.world)
    {text : String} (hmem : text ∈ request.texts) : Fits text := by
  obtain ⟨status, haction⟩ := NadiHandler.action_channelSession_iff.mpr ⟨body, hasks⟩
  obtain ⟨hrows, hrow⟩ := hasks.stored tm hsound hids
  obtain ⟨row, hrow⟩ := hrow hstores
  obtain ⟨-, htexts⟩ := hrows row hrow
  rcases ChannelRequest.mem_texts http.toPy s.world hmem with rfl | hrest
  · exact fits_empty
  · exact hkeeps.texts status request haction row hrow text hmem (htexts ▸ hrest)

variable (http tm h req)

/-- **When the limits hold.** In every state that threads of any processes may have
left, a request keeps the limits if and only if the length it declares is not
negative, or the stream is short, and in a channel request that has a row stored
no value that is not a text has a long one. All the texts of the row are short if
moreover its initiator is, which may be an anonymous one. -/
theorem input_limits_iff {ι α : Type} [DecidableEq ι] {clock : T} {files : Files}
    {programs : ι → Code T α} {cfg : Threads ι T α}
    (hr : Reach (processes ι http.toPy) (.start programs (World.init clock files)) cfg) :
    (h.KeepsLimits http tm req ⟨0, cfg.point.state⟩ ↔ NadiHandler.LengthFits http req ∧
        ∀ body request, h.AsksChannel http req body request → request.Stores cfg.point.state →
          NadiHandler.OthersFit http body) ∧
      ((∀ row ∈ h.storedRows http tm req ⟨0, cfg.point.state⟩, ∀ text ∈ row.texts, Fits text) ↔
        ∀ body request, h.AsksChannel http req body request → request.Stores cfg.point.state →
          NadiHandler.OthersFit http body ∧
            Fits (request.initiator http.toPy cfg.point.state)) := by
  have hstored := fun {body request} (hasks : h.AsksChannel http req body request) =>
    hasks.stored tm (s := ⟨0, cfg.point.state⟩) (reach_sound hr) (reach_channelIds hr)
  refine ⟨⟨fun hkeeps => ⟨NadiHandler.bytesRead_le_iff.mp hkeeps.bytes, ?_⟩, ?_⟩, ?_, ?_⟩
  · intro body request hasks hstores
    exact hasks.fits_iff.mp fun text hmem =>
      hkeeps.fits (reach_sound hr) (reach_channelIds hr) hasks hstores hmem
  · rintro ⟨hlength, hothers⟩
    refine ⟨NadiHandler.bytesRead_le_iff.mpr hlength, fun status request haction row hrow => ?_⟩
    obtain ⟨body, hasks⟩ := NadiHandler.action_channelSession_iff.mp ⟨status, haction⟩
    obtain ⟨hstores, -⟩ := (hstored hasks).1 row hrow
    exact fun text hmem _ => hasks.fits_iff.mpr (hothers body request hasks hstores) text hmem
  · intro hfits body request hasks hstores
    obtain ⟨row, hrow⟩ := (hstored hasks).2 hstores
    obtain ⟨-, htexts⟩ := (hstored hasks).1 row hrow
    have hrowfits := hfits row hrow
    rw [htexts] at hrowfits
    refine ⟨hasks.fits_iff.mp fun text hmem => ?_, hrowfits _ (by simp)⟩
    rcases ChannelRequest.mem_texts http.toPy cfg.point.state hmem with rfl | hrest
    · exact fits_empty
    · exact hrowfits text hrest
  · intro hcond row hrow text hmem
    obtain ⟨body, request, hasks⟩ := asks_of_stored hrow
    obtain ⟨hstores, htexts⟩ := (hstored hasks).1 row hrow
    obtain ⟨hothers, hinitiator⟩ := hcond body request hasks hstores
    have hrequest := hasks.fits_iff.mpr hothers
    rw [htexts] at hmem
    simp only [List.mem_cons, List.not_mem_nil, or_false] at hmem
    rcases hmem with rfl | rfl | rfl | rfl
    · exact hrequest _ (by simp [ChannelRequest.texts])
    · exact hrequest _ (by simp [ChannelRequest.texts])
    · exact hrequest _ (by simp [ChannelRequest.texts])
    · exact hinitiator

end Limits

/-! ## Samples -/

theorem length_utf8 (s : String) : (utf8 s).length = s.utf8ByteSize := by
  unfold utf8
  rw [String.toUTF8_eq_toByteArray]
  exact Array.length_toList

namespace Sample

/-- A list of three thousand zeros. -/
def zeros : Json := .arr (List.replicate 3000 (.int 0))

/-- A JSON object with that list as a platform. -/
def longList : Json := .obj [("platform", zeros)]

/-- Its text. -/
def longListText : List UInt8 :=
  123 :: utf8 ("\"platform\": " ++ zeros.repr Py.sample ++ "\x7d")

/-- Each zero takes three bytes, but for the comma after the last one. -/
theorem size_reprElems (py : Py) (n : ℕ) :
    (Json.reprElems py (List.replicate (n + 1) (.int 0))).utf8ByteSize = 3 * n + 1 := by
  induction n with
  | zero => rfl
  | succ n ih =>
    have hcons : Json.reprElems py (List.replicate (n + 1 + 1) (.int 0)) =
        "0" ++ ", " ++ Json.reprElems py (List.replicate (n + 1) (.int 0)) := rfl
    have hhead : ("0" ++ ", ").utf8ByteSize = 3 := rfl
    rw [hcons, String.utf8ByteSize_append, ih, hhead]
    omega

theorem size_zeros (py : Py) : (zeros.repr py).utf8ByteSize = 9000 := by
  have hrepr : zeros.repr py = "[" ++ Json.reprElems py (List.replicate (2999 + 1) (.int 0)) ++ "]" :=
    rfl
  have hopen : "[".utf8ByteSize = 1 := rfl
  have hclose : "]".utf8ByteSize = 1 := rfl
  rw [hrepr, String.utf8ByteSize_append, String.utf8ByteSize_append, size_reprElems, hopen, hclose]

theorem length_longListText : longListText.length = 9014 := by
  have hkey : "\"platform\": ".utf8ByteSize = 12 := rfl
  have hclose : "\x7d".utf8ByteSize = 1 := rfl
  unfold longListText
  rw [List.length_cons, length_utf8, String.utf8ByteSize_append, String.utf8ByteSize_append,
    size_zeros, hkey, hclose]

/-- A code has no byte but zeros and ones. -/
theorem mem_dumps {j : Json} {b : UInt8} (h : b ∈ dumps j) : b = 0 ∨ b = 1 := by
  cases j with
  | obj fields =>
    obtain ⟨n, -, hb⟩ := List.mem_flatMap.mp (show b ∈ toBytes _ from h)
    rcases List.mem_append.mp hb with hone | hzero
    · exact .inr (List.eq_of_mem_replicate hone)
    · exact .inl (List.mem_singleton.mp hzero)
  | _ => cases h

/-- Read the codes, and the text of that object. -/
def listLoads (raw : List UInt8) : Option Json :=
  if raw = longListText then some longList else loads raw

theorem listLoads_longListText : listLoads longListText = some longList := by
  unfold listLoads
  rw [if_pos rfl]

/-- The machine of the samples, where the text of that object is read too. -/
def listPy : Py where
  __ := Py.sample
  loads := listLoads
  loads_dumps := by
    intro j hflat
    have hne : Py.sample.dumps j ≠ longListText := by
      intro heq
      have hmem : (123 : UInt8) ∈ Py.sample.dumps j := heq ▸ List.mem_cons_self
      rcases mem_dumps hmem with hzero | hone
      · exact absurd hzero (by decide)
      · exact absurd hone (by decide)
    show listLoads (Py.sample.dumps j) = some j
    unfold listLoads
    rw [if_neg hne]
    exact loads_dumps hflat

/-- The lengths that the samples declare are read too. -/
def listHttp : HttpPy where
  __ := HttpPy.sample
  toPy := listPy
  int := fun text =>
    if text = "-1" then .ok (-1) else if text = "9014" then .ok 9014 else .ok 0

/-- A `POST` that declares a negative length, and has more than a megabyte to read. -/
def negativeLength : HttpRequest :=
  ⟨.post, "/sessions", none, some "-1", List.replicate (1024 * 1024 + 1) 32⟩

/-- A `POST` that asks for a channel on a platform that is a list. -/
def listPlatform : HttpRequest := ⟨.post, "/channels", none, some "9014", longListText⟩

/-- The channel it asks for. -/
def listRequest : ChannelRequest := ⟨zeros.pyStr listPy, "", "", "local", "", .empty⟩

theorem not_fits_platform : ¬ Fits listRequest.platform := by
  intro hfits
  have htext : listRequest.platform = zeros.repr listPy := rfl
  unfold Fits at hfits
  rw [htext, length_utf8, size_zeros] at hfits
  exact absurd hfits (by decide)

end Sample

/-- A local stack for these machines. -/
def limitStack : Threads Unit ℚ Unit :=
  execute (exec Sample.listPy) (List.replicate 20 ())
    (.start (fun _ => localStack []) (World.init (0 : ℚ) Sample.files))

theorem reach_limitStack : Reach (processes Unit Sample.listPy)
    (.start (fun _ => localStack []) (World.init (0 : ℚ) Sample.files)) limitStack :=
  reach_execute (S := processes Unit Sample.listPy) (fun _ _ _ => trivial) _ _

/-- A body with nothing but a platform. -/
theorem channelRequest_platform (http : HttpPy) (h : NadiHandler) {platform : Json} {text : String}
    (hstr : http.str platform = .ok text) (hdumped : http.dumped .empty = .ok .empty) :
    h.channelRequest http (.obj [("platform", platform)]) =
      .ok ⟨text, "", "", h.tenantId, "", .empty⟩ := by
  show (do
    let platform ← http.str platform
    let metadata ← http.dumped .empty
    return ChannelRequest.mk platform "" "" h.tenantId "" metadata : Except PyErr ChannelRequest) = _
  rw [hstr, hdumped]
  rfl

/-- A list has no length that is checked. -/
theorem oversizedField_list (xs : List Json) :
    NadiHandler.oversizedField Sample.listHttp (.obj [("platform", .arr xs)]) channelFields =
      .ok none := rfl

theorem asks_listPlatform : (NadiHandler.mk none "local").AsksChannel Sample.listHttp
    Sample.listPlatform Sample.longList Sample.listRequest where
  post := rfl
  key := rfl
  path := rfl
  read := by
    have htake : readStream Sample.listPlatform.rfile 9014 = Sample.longListText := by
      show Sample.longListText.take 9014 = _
      rw [← Sample.length_longListText, List.take_length]
    refine NadiHandler.body_of_bytesRead (n := 9014) rfl (by decide) ?_ ?_
    · rw [htake]
      exact List.cons_ne_nil _ _
    · have hloads : Sample.listHttp.loads = Sample.listLoads := rfl
      rw [htake, hloads, Sample.listLoads_longListText]
  checked := oversizedField_list (List.replicate 3000 (.int 0))
  asked := channelRequest_platform _ _ rfl rfl

theorem stores_listPlatform : Sample.listRequest.Stores limitStack.point.state := by
  refine ⟨?_, fun hfails => ?_⟩
  · have hempty : limitStack.point.state.store.channels.rows.isEmpty = true := by decide +kernel
    refine Data.Table.find?_eq_none.mpr fun row hrow => ?_
    rw [Data.Table.mem_def, List.isEmpty_iff.mp hempty] at hrow
    cases hrow
  · have hhost : (limitStack.point.state.store.chooseCellHost.toOption.map CellHostRow.hostId) =
        some "cell-local" := by decide +kernel
    have hcallback : limitStack.point.state.callbacks "cell-local" = some (.celld (localCelld [])) := by
      with_unfolding_all rfl
    cases hchoose : limitStack.point.state.store.chooseCellHost with
    | error e =>
      rw [hchoose] at hhost
      cases hhost
    | ok host =>
      rw [hchoose] at hhost
      have heq : host.hostId = "cell-local" := Option.some.inj hhost
      exact hfails host hchoose _ (heq ▸ hcallback)

/-- **The limits do not hold for every request.** A negative length has the whole
stream read, and a platform that is a list is stored as a text that is too long. -/
theorem limits_exceeded :
    let s : Ticking ℚ := ⟨0, limitStack.point.state⟩
    let tm : Timing ℚ := .still 1 Sample.files
    let server : NadiHandler := ⟨none, "local"⟩
    ¬ server.KeepsLimits Sample.listHttp tm Sample.negativeLength s ∧
      ¬ server.KeepsLimits Sample.listHttp tm Sample.listPlatform s := by
  intro s tm server
  constructor
  · intro hkeeps
    have hlength := NadiHandler.bytesRead_le_iff.mp hkeeps.bytes (-1) rfl (by decide)
    have hstream : Sample.negativeLength.rfile.length = 1024 * 1024 + 1 := List.length_replicate
    rw [hstream] at hlength
    exact absurd hlength (by decide)
  · intro hkeeps
    have hmem : Sample.listRequest.platform ∈ Sample.listRequest.texts := List.mem_cons_self
    exact Sample.not_fits_platform (hkeeps.fits (reach_sound reach_limitStack)
      (reach_channelIds reach_limitStack) asks_listPlatform stores_listPlatform hmem)

/-- A request for a channel that is given no platform keeps them, and the others do
not. -/
theorem input_limits_iff_sample :
    let s : Ticking ℚ := ⟨0, limitStack.point.state⟩
    let tm : Timing ℚ := .still 1 Sample.files
    let server : NadiHandler := ⟨none, "local"⟩
    server.KeepsLimits Sample.listHttp tm (postRequest "/channels") s ∧
      ¬ server.KeepsLimits Sample.listHttp tm Sample.negativeLength s := by
  intro s tm server
  have hiff := fun req => (input_limits_iff Sample.listHttp tm server req reach_limitStack).1
  constructor
  · refine (hiff _).mpr ⟨?_, ?_⟩
    · intro n hn hneg
      cases hn
      exact absurd hneg (by decide)
    · intro body request hasks _ field hfield value hvalue hother
      cases hasks.read
      obtain rfl := Except.ok.inj hvalue
      exact absurd rfl (hother "")
  · intro hkeeps
    have hlength := ((hiff _).mp hkeeps).1 (-1) rfl (by decide)
    have hstream : Sample.negativeLength.rfile.length = 1024 * 1024 + 1 := List.length_replicate
    rw [hstream] at hlength
    exact absurd hlength (by decide)

end Nadi
