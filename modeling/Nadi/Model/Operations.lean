import Nadi.Model.Bounds

/-!
# Operations

The requests that come in from outside the four tiers, and what a thread does
that serves one after the other: a request that raises does not stop the next.
-/

namespace Nadi

open Effect (Prog)

variable {T : Type}

/-- A request to a gateway, a broker or a celld. -/
inductive Operation where
  | registerCellHost (hostId zone address : String) (capacityTotal : Int)
      (createCell : CreateCell) (objectRef : Option Celld)
  | registerSandboxHost (hostId zone address : String)
  | createSession (tenantId : String) (metadata : Json)
  | placeSession (sessionId : String)
  | channelSession (request : ChannelRequest)
  | sendCommand (sessionId commandType : String) (payload : Json)
      (actorResourceId : Option String)
  | enqueueCommand (sessionId commandType : String) (payload : Json)
      (actorResourceId : Option String)
  | getSessionEvents (sessionId : String) (after : Int)
  | createCell (celld : Celld) (sessionId : String)
  | reconstructCell (celld : Celld) (sessionId : String)
  | consumeCommands (celld : Celld) (sessionId : String)
  | destroyCell (celld : Celld) (sessionId : String)

section

variable [Field T] [LinearOrder T] [IsStrictOrderedRing T] [FloorRing T] (py : Py)

/-- Serve a request, dropping what it returns. -/
def Operation.code : Operation → Code T Unit
  | .registerCellHost hostId zone address capacityTotal callback objectRef => do
    let _ ← Broker.registerCellHost hostId zone address capacityTotal callback objectRef
    return ()
  | .registerSandboxHost hostId zone address => do
    let _ ← Broker.registerSandboxHost hostId zone address
    return ()
  | .createSession tenantId metadata => do
    let _ ← Gateway.createSession py tenantId metadata
    return ()
  | .placeSession sessionId => do
    let _ ← Broker.placeSession py sessionId
    return ()
  | .channelSession request => do
    let _ ← request.run py
    return ()
  | .sendCommand sessionId commandType payload actorResourceId => do
    let _ ← Gateway.sendCommand py sessionId commandType payload actorResourceId
    return ()
  | .enqueueCommand sessionId commandType payload actorResourceId => do
    let _ ← call (.enqueueCommand sessionId commandType payload actorResourceId)
    return ()
  | .getSessionEvents sessionId after => do
    let _ ← Gateway.getSessionEvents sessionId after
    return ()
  | .createCell celld sessionId => do
    let _ ← celld.createCell py sessionId
    return ()
  | .reconstructCell celld sessionId => do
    let _ ← celld.reconstructCell py sessionId
    return ()
  | .consumeCommands celld sessionId => do
    let _ ← celld.consumeCommands py sessionId
    return ()
  | .destroyCell celld sessionId => celld.destroyCell py sessionId

/-- Serve requests in turn, whatever becomes of each. -/
def runOperations : List Operation → Code T Unit
  | [] => return ()
  | op :: rest => do
    (op.code py).tryCatch fun _ => return ()
    runOperations rest

end

/-! ## Who joins channels -/

/-- The calls other than `Store.get_or_create_channel`. -/
def Call.noJoin : Call T → Prop
  | .getOrCreateChannel .. => False
  | _ => True

section NoJoin

variable {c : Call T} {celld : Celld} {sid : String}

theorem Call.ofConsumption.noJoin (h : c.ofConsumption celld sid) : c.noJoin := by
  cases c with
  | getOrCreateChannel => exact h.elim (fun h => h) fun h => h.elim (fun h => h) fun h => h
  | _ => trivial

theorem Call.ofCreation.noJoin (h : c.ofCreation celld sid) : c.noJoin := by
  cases c <;> trivial

theorem Call.ofPlacement.noJoin (h : c.ofPlacement sid) : c.noJoin := by
  cases c with
  | getOrCreateChannel => exact h.elim fun _ h => h
  | _ => trivial

theorem Call.ofDestruction.noJoin (h : c.ofDestruction celld sid) : c.noJoin := by
  cases c <;> trivial

theorem Call.ofRouting.noJoin (h : c.ofRouting sid) : c.noJoin := by
  cases c <;> trivial

theorem Call.ofRegistration.noJoin {createCell : CreateCell} {objectRef : Option Celld}
    (h : c.ofRegistration sid createCell objectRef) : c.noJoin := by
  cases c <;> trivial

variable [Field T] [LinearOrder T] [IsStrictOrderedRing T] [FloorRing T] (py : Py)

namespace Celld

theorem reconstructCell_noJoin (c : Celld) (sid : String) :
    (c.reconstructCell py sid : Code T Cell).Within Call.noJoin fun _ => True :=
  (c.reconstructCell_within py sid).mono_calls fun _ h => (Call.ofConsumption_of_ofCell _ h).noJoin

theorem consumeCommands_noJoin (c : Celld) (sid : String) :
    (c.consumeCommands py sid : Code T (List Event)).Within Call.noJoin fun _ => True :=
  (c.consumeCommands_within py sid).mono_calls fun _ h => h.noJoin

end Celld

namespace Broker

theorem runCallback_noJoin (sid : String) (createCell : CreateCell) :
    (runCallback py sid createCell : Code T Unit).Within Call.noJoin fun _ => True := by
  refine (runCallback_within py sid createCell).mono_calls ?_
  rintro d ⟨c, -, hd⟩
  exact hd.noJoin

theorem placeSession_noJoin (sid : String) :
    (placeSession py sid : Code T Placement).Within Call.noJoin fun _ => True :=
  (placeSession_within py sid).mono_calls fun _ h => h.noJoin

end Broker

namespace Gateway

omit [Field T] [LinearOrder T] [IsStrictOrderedRing T] [FloorRing T] in
theorem route_noJoin (sid : String) :
    (route sid : Code T (Route T)).Within Call.noJoin fun _ => True :=
  (route_within sid).mono_calls fun _ h => h.noJoin

omit [Field T] [LinearOrder T] [IsStrictOrderedRing T] [FloorRing T] in
theorem getSessionEvents_noJoin (sid : String) (after : Int) :
    (getSessionEvents sid after : Code T (List (EventRow T))).Within Call.noJoin
      fun _ => True := getSessionEvents_calls (fun _ h => h.noJoin) trivial

theorem createSession_noJoin (tenantId : String) (metadata : Json) :
    (createSession py tenantId metadata : Code T Created).Within Call.noJoin fun _ => True := by
  refine .bind (.perform trivial fun _ => trivial) fun sid _ => ?_
  exact .bind (Broker.placeSession_noJoin py sid) fun _ _ => trivial

theorem sendCommand_noJoin (sid commandType : String) (payload : Json)
    (actor : Option String) :
    (sendCommand py sid commandType payload actor : Code T Sent).Within Call.noJoin
      fun _ => True := by
  refine .bind (route_noJoin sid) fun _ _ => ?_
  refine .bind (.perform trivial fun _ => trivial) fun commandId _ => ?_
  refine .bind ((Broker.celldForRoute_within sid).mono_calls fun _ h => h.noJoin)
    fun celld _ => ?_
  exact .bind (celld.consumeCommands_noJoin py sid) fun _ _ => trivial

end Gateway

/-- Only channel calls join channels. -/
theorem Operation.code_noJoin {op : Operation} (hop : ∀ r, op ≠ .channelSession r) :
    (op.code py : Code T Unit).Within Call.noJoin fun _ => True := by
  cases op with
  | channelSession request => exact absurd rfl (hop request)
  | registerCellHost =>
    refine .bind ((Broker.registerCellHost_within ..).mono_calls fun _ h => h.noJoin)
      fun _ _ => trivial
  | registerSandboxHost hostId zone address =>
    have hcall : (Broker.registerSandboxHost hostId zone address : Code T String).Within
        Call.noJoin fun _ => True := .perform trivial fun _ => trivial
    exact hcall.bind fun _ _ => trivial
  | createSession => exact .bind (Gateway.createSession_noJoin py ..) fun _ _ => trivial
  | placeSession => exact .bind (Broker.placeSession_noJoin py _) fun _ _ => trivial
  | sendCommand => exact .bind (Gateway.sendCommand_noJoin py ..) fun _ _ => trivial
  | enqueueCommand => exact .bind (.perform trivial fun _ => trivial) fun _ _ => trivial
  | getSessionEvents => exact .bind (Gateway.getSessionEvents_noJoin ..) fun _ _ => trivial
  | createCell celld sid =>
    exact .bind ((celld.createCell_within py sid).mono_calls fun _ h => h.noJoin) fun _ _ => trivial
  | reconstructCell celld sid =>
    exact .bind (celld.reconstructCell_noJoin py sid) fun _ _ => trivial
  | consumeCommands celld sid =>
    exact .bind (celld.consumeCommands_noJoin py sid) fun _ _ => trivial
  | destroyCell celld sid =>
    exact (celld.destroyCell_within py sid).mono_calls fun _ h => h.noJoin

end NoJoin

end Nadi
