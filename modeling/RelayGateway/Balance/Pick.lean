import RelayGateway.Balance.Draw
import RelayGateway.Channel.Basic

/-! # Weighted choice among equals

* `totalWeight`: the sum of the weights.
* `walk`: the channel in whose share of the total a number falls.
* `pick`: the only candidate; the first if no candidate has a weight; else one drawn by weight.
* `pickMany`: picks that share one supply of random words.
-/

set_option autoImplicit false

namespace RelayGateway

def totalWeight : List Channel → Nat
  | [] => 0
  | channel :: channels => channel.weight.toNat + totalWeight channels

/-- The channel in whose share a number falls; shares lie side by side in the order of the list. -/
def walk : List Channel → Nat → Option Channel
  | [], _ => none
  | channel :: channels, remaining =>
    if remaining < channel.weight.toNat then some channel
    else walk channels (remaining - channel.weight.toNat)

/-- One of the candidates, and the words left of the draws. A word is drawn only if there are
several candidates and one of them has a weight. -/
def pick (candidates : List Channel) (draws : Draws) : Option Channel × Draws :=
  match candidates with
  | [] => (none, draws)
  | [only] => (some only, draws)
  | first :: _ =>
    let total := totalWeight candidates
    if total = 0 then (some first, draws)
    else
      let (number, rest) := draws.below total
      (walk candidates number, rest)

/-- Several picks from the same candidates, one after the other. -/
def pickMany (candidates : List Channel) : Nat → Draws → List (Option Channel) × Draws
  | 0, draws => ([], draws)
  | count + 1, draws =>
    let (first, draws) := pick candidates draws
    let (others, draws) := pickMany candidates count draws
    (first :: others, draws)

def drawable (candidates : List Channel) : List Channel :=
  match candidates with
  | [] => []
  | [only] => [only]
  | first :: _ =>
    if totalWeight candidates = 0 then [first]
    else candidates.filter fun channel => channel.weight != 0

end RelayGateway
