import Nadi.Effect.Role
import Nadi.Model.Bounds
import Nadi.Model.Frame

/-!
# The phases of a channel call

`get_or_create_channel_session` creates a candidate session, leases it, starts
a cell for it, and only then offers it to the channel; a candidate that is not
taken is abandoned. `channelRole` is this order as an automaton over the calls
of one thread, and `plays_channelSession` says that the program keeps to it,
whatever its calls return. What several such calls do to one another is the
subject of `Nadi.Channels`, what one of them costs of `Nadi.ChannelLookup`.
-/

namespace Nadi

open Effect
open Effect.Prog (ofExcept)

variable {T : Type}

/-- How far a channel call has come with its candidate `sid`. -/
inductive Phase where
  | start
  /-- The candidate could not be created. -/
  | refused
  | created (sid : String)
  | leased (sid : String)
  /-- `session.started` is in the log. -/
  | started (sid : String)
  /-- The channel has answered. -/
  | joined (sid actualSid cid : String) (created : Bool)
  | abandoned (sid : String) (answer : Option (String × String))
  deriving DecidableEq

namespace Phase

/-- The candidate. -/
def candidate : Phase → Option String
  | .start => none
  | .refused => none
  | .created sid => some sid
  | .leased sid => some sid
  | .started sid => some sid
  | .joined sid _ _ _ => some sid
  | .abandoned sid _ => some sid

/-- The candidate of a call that may still abandon it. -/
def pending : Phase → Option String
  | .created sid => some sid
  | .leased sid => some sid
  | .started sid => some sid
  | .joined sid _ _ false => some sid
  | _ => none

/-- What the channel has answered. -/
def answer : Phase → Option (String × String)
  | .joined _ actualSid cid _ => some (actualSid, cid)
  | .abandoned _ answer => answer
  | _ => none

/-- After the candidate has been abandoned. -/
def abandon : Phase → Phase
  | .created sid => .abandoned sid none
  | .leased sid => .abandoned sid none
  | .started sid => .abandoned sid none
  | .joined sid actualSid cid _ => .abandoned sid (some (actualSid, cid))
  | q => q

/-- The candidate has been leased. -/
def IsLeased : Phase → Prop
  | .leased _ => True
  | .started _ => True
  | .joined .. => True
  | .abandoned _ (some _) => True
  | _ => False

theorem candidate_of_pending {q : Phase} {sid : String} (h : q.pending = some sid) :
    q.candidate = some sid := by
  cases q with
  | joined s a c created =>
    cases created with
    | true => cases h
    | false => exact h
  | start | refused | abandoned => cases h
  | _ => exact h

@[simp] theorem candidate_abandon (q : Phase) : q.abandon.candidate = q.candidate := by
  cases q <;> rfl

@[simp] theorem answer_abandon (q : Phase) : q.abandon.answer = q.answer := by
  cases q <;> rfl

/-- Only a candidate that was leased is abandoned as a leased one. -/
theorem isLeased_of_abandon {q : Phase} (h : q.abandon.IsLeased) : q.IsLeased := by
  cases q with
  | joined => trivial
  | created | leased | started => exact h.elim
  | start | refused => exact h
  | abandoned => exact h

/-- Abandoning a candidate ends the call's claim to it. -/
theorem abandon_of_pending {q : Phase} {sid : String} (h : q.pending = some sid) :
    q.abandon = .abandoned sid q.answer := by
  cases q with
  | joined s a c created =>
    cases created with
    | true => cases h
    | false =>
      cases h
      rfl
  | start | refused | abandoned => cases h
  | _ =>
    cases h
    rfl

end Phase

/-- The calls of a channel call that concern neither sessions nor channels. -/
def Call.isQuiet : Call T → Prop
  | .chooseCellHost => True
  | .callback _ => True
  | .time _ => True
  | .uuid4 site => site = .anonymous ∨ site = .jti
  | .newCell .. => True
  | .apply .. => True
  | .cellsGet .. => True
  | .cellsSet .. => True
  | _ => False

/-- What a call for a key may do in each phase. -/
inductive ChannelMay (key : String × String × String) : Phase → Call T → Prop
  | create (tenantId : String) (metadata : Json) :
      ChannelMay key .start (.createSession tenantId none none metadata)
  | lease (sid cellHostId : String) :
      ChannelMay key (.created sid) (.createLease sid cellHostId 3600)
  | run (sid : String) : ChannelMay key (.leased sid) (.updateSessionStatus sid .running)
  | report (sid : String) (payload : Json) :
      ChannelMay key (.leased sid) (.appendEvent sid "session.started" payload none)
  | join (sid initiatorResourceId : String) (metadata : Json) :
      ChannelMay key (.started sid)
        (.getOrCreateChannel key.1 key.2.1 key.2.2 sid initiatorResourceId metadata)
  | abandon {q : Phase} {sid : String} (hq : q.pending = some sid) :
      ChannelMay key q (.updateSessionStatus sid .abandoned)
  | quiet {q : Phase} {c : Call T} (hq : q = .start ∨ q.pending.isSome = true)
      (hc : c.isQuiet) : ChannelMay key q c

/-- How a call moves the phase. -/
def Phase.next (q : Phase) (c : Call T) (r : Except PyErr c.Ret) : Phase :=
  match c, r with
  | .createSession .., .ok sid => .created sid
  | .createSession .., .error _ => .refused
  | .createLease .., .ok _ =>
    match q with
    | .created sid => .leased sid
    | q => q
  | .appendEvent .., .ok _ =>
    match q with
    | .leased sid => .started sid
    | q => q
  | .getOrCreateChannel .., .ok (actualSid, cid, isNew) =>
    match q with
    | .started sid => .joined sid actualSid cid isNew
    | q => q
  | .updateSessionStatus _ .abandoned, _ => q.abandon
  | _, _ => q

/-- The protocol of one channel call. -/
def channelRole (key : String × String × String) : Role Phase (Call T) Call.Ret PyErr where
  init := .start
  may := ChannelMay key
  next := Phase.next

theorem Phase.next_of_quiet (q : Phase) {c : Call T} (hc : c.isQuiet) (r : Except PyErr c.Ret) :
    q.next c r = q := by
  cases c <;> first | exact rfl | exact hc.elim

/-- How a channel call ends: with the answer it was given, its candidate being
taken or abandoned; or with an exception, its candidate abandoned. -/
def ChannelEnds (q : Phase) (r : Except PyErr ChannelSession) : Prop :=
  match r with
  | .ok a => ∃ sid, q = .joined sid a.sessionId a.channelId true ∧ a.created = true ∨
      q = .abandoned sid (some (a.sessionId, a.channelId)) ∧ a.created = false
  | .error _ => q = .refused ∨ ∃ sid answer, q = .abandoned sid answer

section Plays

variable [Field T] [LinearOrder T] [IsStrictOrderedRing T] [FloorRing T] (py : Py)

variable {key : String × String × String} {q : Phase} {sid : String}

omit [IsStrictOrderedRing T] [FloorRing T] in
/-- Quiet calls leave the phase alone. -/
theorem plays_quiet {α : Type} {value : α → Prop} {p : Code T α}
    (hq : q = .start ∨ q.pending.isSome = true) (hp : p.Within Call.isQuiet value) :
    (channelRole key).Plays (exec py) (fun q' _ => q' = q) p q :=
  (Role.Plays.of_within hp (fun _ hc => ChannelMay.quiet hq hc)
    fun _ _ hc => Phase.next_of_quiet q hc _).weaken fun _ _ h => h.1

/-- Starting a cell for a leased candidate. -/
theorem plays_createCell (c : Celld) :
    (channelRole key).Plays (exec py)
      (fun q r => match r with
        | .ok _ => q = .started sid
        | .error _ => q.pending = some sid)
      (c.createCell py sid : Code T Cell) (.leased sid) := by
  unfold Celld.createCell
  have hsign : (c.jwt.signNow py .createCell sid "cell tool" 3600 c.hostId :
      Code T String).Within Call.isQuiet fun _ => True :=
    SessionJWT.signNow_calls py trivial (.inr rfl) c.jwt sid _ _ _
  refine (plays_quiet py (.inr rfl) hsign).bind ?_ ?_
  rotate_left
  · rintro _ e rfl
    rfl
  rintro _ token rfl
  refine .perform_bind (.quiet (.inr rfl) trivial) (fun s cell _ => ?_) fun _ _ _ => rfl
  refine .perform_bind (.quiet (.inr rfl) trivial) (fun _ _ _ => ?_) fun _ _ _ => rfl
  refine .perform_bind (.run sid) (fun _ _ _ => ?_) fun _ _ _ => rfl
  have happend : (channelRole key).Plays (exec py)
      (fun q r => match r with
        | .ok _ => q = .started sid
        | .error _ => q.pending = some sid)
      (c.appendEvent sid "session.started" (.obj [("cell_host", .str c.hostId)]) : Code T Event)
      (.leased sid) := by
    refine .perform_bind (.report sid _) (fun _ ev _ => ?_) fun _ _ _ => rfl
    refine .perform_bind (.quiet (.inr rfl) trivial) (fun _ found _ => ?_) fun _ _ _ => rfl
    cases found with
    | none => exact rfl
    | some live =>
      exact .perform_bind (.quiet (.inr rfl) trivial) (fun _ _ _ => rfl) fun _ _ _ => rfl
  refine happend.bind (fun _ _ h => h) fun _ _ h => h

/-- Placing a candidate. -/
theorem plays_placeSession :
    (channelRole key).Plays (exec py)
      (fun q r => match r with
        | .ok _ => q = .started sid
        | .error _ => q.pending = some sid)
      (Broker.placeSession py sid : Code T Placement) (.created sid) := by
  unfold Broker.placeSession
  refine .perform_bind (.quiet (.inr rfl) trivial) (fun _ host _ => ?_) fun _ _ _ => rfl
  refine .perform_bind (.lease sid host.id) (fun _ lease _ => ?_) fun _ _ _ => rfl
  refine .perform_bind (.quiet (.inr rfl) trivial) (fun _ found _ => ?_) fun _ _ _ => rfl
  cases found with
  | none => exact rfl
  | some createCell =>
    cases createCell with
    | raises e => exact rfl
    | celld c =>
      have hcreate : (channelRole key).Plays (exec py)
          (fun q r => match r with
            | .ok _ => q = .started sid
            | .error _ => q.pending = some sid)
          (Broker.runCallback py sid (.celld c) : Code T Unit) (.leased sid) :=
        (plays_createCell py c).bind (fun _ _ h => h) fun _ _ h => h
      exact hcreate.bind (fun _ _ h => h) fun _ _ h => h

/-- Placing a candidate and offering it to the channel. -/
theorem plays_joinChannel (platform channelId threadId resourceId : String) (metadata : Json) :
    (channelRole (platform, channelId, threadId)).Plays (exec py)
      (fun q r => match r with
        | .ok _ => ChannelEnds q r
        | .error _ => q.pending = some sid)
      (Gateway.joinChannel py platform channelId threadId resourceId metadata sid :
        Code T ChannelSession) (.created sid) := by
  unfold Gateway.joinChannel
  refine (plays_placeSession py).bind ?_ fun _ _ h => h
  rintro _ placement rfl
  have hjoin : (channelRole (platform, channelId, threadId)).may (.started sid)
      (.getOrCreateChannel platform channelId threadId sid resourceId metadata : Call T) :=
    .join sid resourceId metadata
  refine .perform_bind hjoin (fun _ answer _ => ?_) fun _ _ _ => rfl
  obtain ⟨actualSid, cid, created⟩ := answer
  cases created with
  | true => exact ⟨sid, .inl ⟨rfl, rfl⟩⟩
  | false =>
    refine .perform_bind (.abandon rfl) (fun _ _ _ => ?_) fun _ _ h => nomatch h
    exact ⟨sid, .inr ⟨rfl, rfl⟩⟩

/-- **A channel call keeps to its phases**, and ends with its candidate either
taken by the channel or abandoned. -/
theorem plays_channelRequest (r : ChannelRequest) :
    (channelRole r.key).Plays (exec py) ChannelEnds (r.run py : Code T ChannelSession) .start := by
  unfold ChannelRequest.run Gateway.getOrCreateChannelSession
  -- the id of an anonymous initiator comes before the candidate
  have hresource : (channelRole r.key).Plays (exec py) (fun q r => q = .start ∧ ∃ a, r = .ok a)
      (Gateway.resourceId r.platform r.initiatorResourceId : Code T String) .start := by
    unfold Gateway.resourceId
    split
    · exact .perform_bind (.quiet (.inl rfl) (.inl rfl)) (fun _ _ _ => ⟨rfl, _, rfl⟩)
        fun _ _ h => nomatch h
    · exact ⟨rfl, _, rfl⟩
  refine hresource.bind ?_ fun _ _ h => nomatch h.2.choose_spec
  rintro _ resourceId ⟨rfl, -⟩
  refine .perform_bind (.create r.tenantId _) (fun _ sid _ => ?_) fun _ _ _ => .inl rfl
  refine (plays_joinChannel py r.platform r.channelId r.threadId resourceId r.metadata).tryCatch
    (fun _ _ h => h) fun q e hq => ?_
  refine .perform_bind (.abandon hq) (fun _ _ _ => ?_) fun _ _ h => nomatch h
  exact .inr ⟨sid, q.answer, Phase.abandon_of_pending hq⟩

end Plays

end Nadi
