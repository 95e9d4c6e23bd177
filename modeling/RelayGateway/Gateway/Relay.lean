import RelayGateway.Gateway.State

/-! # Relaying through a gateway

* `Partners`: the quota service and the upstreams, which may change the gateway while they are asked.
* `Gateway.answerRelay`: a call of a run answered by the gateway and its partners.
* `Gateway.relayThrough`: a whole run; the failures it reports are looked into after it has ended.
-/

set_option autoImplicit false

namespace RelayGateway

/-- The quota service and the upstreams. `ε` is what they keep for themselves. -/
structure Partners (ε : Type) where
  reserve : Charge → StateM (Gateway × ε) (Except ServiceError Reservation)
  dispatch : Channel → String → RelayRequest →
    StateM (Gateway × ε) (Except DispatchFailure DispatchOutcome)
  settle : Reservation → Usage → Bool → StateM (Gateway × ε) (Except ServiceError Unit)
  reverse : Reservation → StateM (Gateway × ε) (Except ServiceError Unit)
  /-- How long a run has been attempting, in nanoseconds. -/
  elapsed : ε → Nat
  /-- The words from which a choice is drawn. -/
  draws : ε → Draws

namespace Gateway

variable {ε : Type}

def answerRelay (partners : Partners ε) (call : RelayCall) :
    StateM (Gateway × ε) (RelayReply call) := fun (gateway, own) =>
  match call with
  | .look => (gateway.sight (partners.draws own), (gateway, own))
  | .elapsed => (partners.elapsed own, (gateway, own))
  | .storedChannel id => (gateway.store.channel? id, (gateway, own))
  | .reserve charge => partners.reserve charge (gateway, own)
  | .dispatch channel key request => partners.dispatch channel key request (gateway, own)
  | .settle reservation usage stream => partners.settle reservation usage stream (gateway, own)
  | .reverse reservation => partners.reverse reservation (gateway, own)
  | .cool id key =>
    let (cooling, gateway) := cool id key 0 gateway
    (cooling, (gateway, own))
  | .report channel err =>
    ((), ({ gateway with reports := gateway.reports ++ [(channel, err)] }, own))

/-- Relays a request, and then looks into the failures on the way. -/
def relayThrough (partners : Partners ε) (request : RelayRequest) :
    StateM (Gateway × ε) RelayResult := fun (gateway, own) =>
  let run : StateM (Gateway × ε) RelayResult :=
    (relay gateway.policy request).run (answerRelay partners)
  let (result, (gateway, own)) := run (gateway, own)
  let ((), gateway) := settleReports gateway
  (result, (gateway, own))

end Gateway

end RelayGateway
