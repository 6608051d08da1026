import VntClient.Node

/-!
Which packets the handlers take as meant for their node, and what becomes of the others:
the P2P handler forwards or drops them, the server handler drops them.
-/

namespace VntClient

def Entrance.takes (config : NodeConfig) (header : NetHeader) : Entrance → Bool
  | .p2p _ =>
      match config.network with
      | none => false
      | some net =>
          header.srcId != header.destId &&
            decide (header.decrTtl.currTtl < header.decrTtl.maxTtl) &&
            !P2pInboundHandler.elsewhere net header.destId
  | .server none => false
  | .server (some net) =>
      isBroadcast header.destId || isUnspecified header.destId || net.ip == header.destId

section Handlers
variable {config : NodeConfig} {wire : NetPacket} {msgType : MsgType}

/-- What the P2P handler does not take it drops or forwards along the route to the destination,
and keeps its state. -/
theorem P2pInboundHandler.nextHandle_refused (clock : Clock) (routeKey : RouteKey)
    (state : NodeState) (typed : wire.msgType = .ok msgType)
    (refused : (Entrance.p2p routeKey).takes config wire.header = false) :
    (nextHandle config clock routeKey state wire.buffer).state = state ∧
      ((nextHandle config clock routeKey state wire.buffer).effects = [] ∨
        ∃ next, state.routeTable.getRouteById wire.destId = some next ∧
          (nextHandle config clock routeKey state wire.buffer).effects =
            [.forward next.routeKey wire.decrTtl]) := by
  rw [Entrance.takes] at refused
  simp only [nextHandle, triage, NetPacket.new_buffer, typed, Outcome.ok_bind, Outcome.pure_eq]
  by_cases own : wire.srcId = wire.destId
  · rw [if_pos own]
    exact ⟨rfl, Or.inl rfl⟩
  · rw [if_neg own]
    by_cases spent : wire.decrTtl.maxTtl ≤ wire.decrTtl.ttl
    · rw [if_pos spent]
      exact ⟨rfl, Or.inl rfl⟩
    · rw [if_neg spent]
      cases network : config.network with
      | none => exact ⟨rfl, Or.inl rfl⟩
      | some net =>
          have hops : wire.header.decrTtl.currTtl < wire.header.decrTtl.maxTtl :=
            UInt8.not_le.mp spent
          have distinct : (wire.header.srcId != wire.header.destId) = true := bne_iff_ne.mpr own
          simp only [network, distinct, decide_eq_true hops, Bool.true_and, Bool.not_eq_false']
            at refused
          have there : elsewhere net wire.destId = true := refused
          simp only [there, ↓reduceIte]
          by_cases left : 1 ≤ wire.decrTtl.ttl
          · rw [if_pos left]
            cases found : state.routeTable.getRouteById wire.destId with
            | none => exact ⟨rfl, Or.inl rfl⟩
            | some next => exact ⟨rfl, Or.inr ⟨next, rfl, rfl⟩⟩
          · rw [if_neg left]
            exact ⟨rfl, Or.inl rfl⟩

/-- What it takes it handles under the fields of the header. -/
theorem P2pInboundHandler.nextHandle_takes (clock : Clock) (routeKey : RouteKey)
    (state : NodeState) (typed : wire.msgType = .ok msgType)
    (taken : (Entrance.p2p routeKey).takes config wire.header = true) :
    ∃ net, config.network = some net ∧ nextHandle config clock routeKey state wire.buffer =
      handleLocal config clock routeKey net
        ⟨msgType, wire.srcId, wire.destId, wire.decrTtl.maxTtl, wire.decrTtl.ttl⟩ state
        wire.decrTtl := by
  rw [Entrance.takes] at taken
  cases network : config.network with
  | none =>
      rw [network] at taken
      cases taken
  | some net =>
      simp only [network, Bool.and_eq_true, bne_iff_ne, decide_eq_true_eq, Bool.not_eq_true']
        at taken
      obtain ⟨⟨distinct, hops⟩, here⟩ := taken
      exact ⟨net, rfl, nextHandle_local config clock routeKey state wire msgType net typed distinct
        network here hops⟩

theorem ServerTurnInboundHandler.handle_refused (clock : Clock) (state : NodeState)
    {networkAddr : Option NetworkAddr} (client : wire.isGateway = false)
    (refused : (Entrance.server networkAddr).takes config wire.header = false) :
    (handle config clock networkAddr state wire.buffer).state = state ∧
      (handle config clock networkAddr state wire.buffer).effects = [] := by
  cases networkAddr with
  | none =>
      simp only [handle, NetPacket.new_buffer, Handled.attempt]
      exact ⟨trivial, trivial⟩
  | some net =>
      rw [Entrance.takes, Bool.or_eq_false_iff, Bool.or_eq_false_iff, beq_eq_false_iff_ne]
        at refused
      obtain ⟨⟨one, unspecified⟩, other⟩ := refused
      have foreign : (!isBroadcast wire.destId && !isUnspecified wire.destId &&
          net.ip != wire.destId) = true := by
        rw [Bool.and_eq_true, Bool.and_eq_true, Bool.not_eq_true', Bool.not_eq_true', bne_iff_ne]
        exact ⟨⟨one, unspecified⟩, other⟩
      simp only [handle, NetPacket.new_buffer, Handled.attempt, client, Bool.false_eq_true,
        ↓reduceIte, if_pos foreign]
      exact ⟨rfl, rfl⟩

theorem ServerTurnInboundHandler.handle_takes (clock : Clock) {net : NetworkAddr}
    (state : NodeState) (client : wire.isGateway = false)
    (taken : (Entrance.server (some net)).takes config wire.header = true) :
    handle config clock (some net) state wire.buffer =
      handleClientData config clock net state wire.buffer := by
  rw [Entrance.takes, Bool.or_eq_true, Bool.or_eq_true, beq_iff_eq] at taken
  have meant : ¬ (!isBroadcast wire.destId && !isUnspecified wire.destId &&
      net.ip != wire.destId) = true := by
    rw [Bool.and_eq_true, Bool.and_eq_true, Bool.not_eq_true', Bool.not_eq_true', bne_iff_ne]
    rintro ⟨⟨one, unspecified⟩, other⟩
    rcases taken with (broadcast | every) | own
    · exact Bool.false_ne_true (one.symm.trans broadcast)
    · exact Bool.false_ne_true (unspecified.symm.trans every)
    · exact other own
  simp only [handle, NetPacket.new_buffer, Handled.attempt, client, Bool.false_eq_true, ↓reduceIte,
    if_neg meant]

end Handlers
end VntClient
