import RelayGateway.Gateway.State
import RelayGateway.Health.Flight

/-! # Disabling a channel for many reporters

* `Gateway.disableForAll`: several reporters of one channel at the same moment; the channel is disabled
  once, and all of them learn what came of it.
-/

set_option autoImplicit false

namespace RelayGateway.Gateway

/-- Callers enter a flight for a channel one after the other. -/
def enterAll (id : ChannelId) (callers : List String) : FlightTable ChannelId DisableOutcome :=
  callers.foldl (fun table caller => table.enter caller id) .empty

/-- Disables a channel for several callers who ask at the same moment. -/
def disableForAll (id : ChannelId) (name reason : String) (callers : Nat) :
    StateM Gateway (List DisableOutcome) := do
  let names := (List.range callers).map fun n => s!"{n}"
  match names with
  | [] => return []
  | leader :: _ =>
    let outcome ← perform (disableChannel id name reason true)
    let (landings, _) := (enterAll id names).finish leader outcome
    return landings.map (·.value)

end RelayGateway.Gateway
