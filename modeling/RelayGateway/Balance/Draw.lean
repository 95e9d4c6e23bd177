/-! # Uniform numbers from random words

* `Draws`: the words that a generator will yield, 64 bits each; after the listed ones it yields zeros.
* `acceptZone`, `accepts?`: a word is widened to `word * total`; its upper half is the result if its
  lower half lies in the zone, in which every result has equally many words.
* `below`: the result of the first word that is accepted.
-/

set_option autoImplicit false

namespace RelayGateway

/-- The words that a generator will yield; zeros follow the listed ones. -/
abbrev Draws := List UInt64

namespace Draws

def wordCount : Nat := 1 <<< 64

/-- The number of leading zeros of a 64-bit number above zero. -/
def leadingZeros (total : Nat) : Nat := 63 - total.log2

/-- The greatest lower half that is accepted for results below `total`. -/
def acceptZone (total : Nat) : Nat := (total <<< leadingZeros total) - 1

/-- The result that a word gives, unless the word is rejected. -/
def accepts? (total : Nat) (word : UInt64) : Option Nat :=
  let wide := word.toNat * total
  if wide % wordCount ≤ acceptZone total then some (wide / wordCount) else none

/-- A number below `total`, and the words left after the one that gave it. A zero word is always
accepted and gives zero. -/
def below (total : Nat) : Draws → Nat × Draws
  | [] => (0, [])
  | word :: words =>
    match accepts? total word with
    | some result => (result, words)
    | none => below total words

end Draws

end RelayGateway
