import RelayGateway.Json
import RelayGateway.Text.Fields
import RelayGateway.Text.Numeral

/-! # Numbers of a settings document

* `whole?`: a whole number in base ten, sixteen, eight or two; single underscores may stand between
  digits.
* `float?`: a number with a fraction, an exponent, or neither finite nor a number.

Settings take no fractions, so of a number that is not finite only its kind is kept.
-/

set_option autoImplicit false

namespace RelayGateway.Toml

def plainDigits? (cs : List Char) : Option (List Char) :=
  let groups := Text.fields '_' cs
  if groups.all fun group => !group.isEmpty then some groups.flatten else none

/-- The number that digits with underscores denote. -/
def number? (base : Nat) (cs : List Char) : Option Nat := do
  Text.digits? base (← plainDigits? cs)

/-- A decimal number; no zero stands in front of other digits. -/
def decimal? (cs : List Char) : Option Nat :=
  match cs with
  | '0' :: _ :: _ => none
  | cs => number? 10 cs

def signed : List Char → Bool × List Char
  | '+' :: cs => (false, cs)
  | '-' :: cs => (true, cs)
  | cs => (false, cs)

/-- The greatest whole number that a document may hold. -/
def maxWhole : Nat := (1 <<< 128) - 1

/-- The greatest magnitude of a negative whole number that a document may hold. -/
def maxNegative : Nat := 1 <<< 127

/-- A whole number that is not too great for any field. -/
def bounded? (negative : Bool) (magnitude : Nat) : Option Json :=
  if negative then
    if magnitude ≤ maxNegative then some (.int (-(Int.ofNat magnitude))) else none
  else if magnitude ≤ maxWhole then some (.int (Int.ofNat magnitude)) else none

def whole? (cs : List Char) : Option Json := do
  match cs with
  | '0' :: 'x' :: digits => bounded? false (← number? 16 digits)
  | '0' :: 'o' :: digits => bounded? false (← number? 8 digits)
  | '0' :: 'b' :: digits => bounded? false (← number? 2 digits)
  | cs =>
    let (negative, digits) := signed cs
    bounded? negative (← decimal? digits)

/-- The least magnitude that no finite double is nearest to. -/
def overflowBound : Nat := (1 <<< 1024) - (1 <<< 970)

def tenTo (exponent : Nat) : Nat := Nat.pow 10 exponent

/-- The number `mantissa * 10 ^ exponent` unless a double cannot hold it. A mantissa with many digits
is compared by its decimal length first, so that no great power has to be formed. -/
def finite? (negative : Bool) (mantissa : Nat) (exponent : Int) : Option Json :=
  let sign : Int := if negative then -1 else 1
  let length : Int := (Nat.toDigits 10 mantissa).length
  if mantissa = 0 then some (.real 0 0)
  else if exponent < 0 then
    let places := exponent.natAbs
    if length + exponent ≤ 308 || mantissa < overflowBound * tenTo places then
      some (.real (sign * mantissa) places)
    else none
  else if 310 < length + exponent then none
  else
    let magnitude := mantissa * tenTo exponent.toNat
    if magnitude < overflowBound then some (.real (sign * magnitude) 0) else none

def exponent? (cs : List Char) : Option Int := do
  let (negative, digits) := signed cs
  let n ← number? 10 digits
  return if negative then -(Int.ofNat n) else Int.ofNat n

/-- A text cut in two at the first character with a property, which goes with neither part. -/
def cutAt (isCut : Char → Bool) (cs : List Char) : List Char × Option (List Char) :=
  match cs.span fun c => !isCut c with
  | (before, []) => (before, none)
  | (before, _ :: after) => (before, some after)

/-- The exponent that a number is written with, zero if with none. -/
def shownExponent? : Option (List Char) → Option Int
  | none => some 0
  | some cs => exponent? cs

def fraction? (cs : List Char) : Option Json := do
  let (negative, unsigned) := signed cs
  let (body, power) := cutAt (fun c => c == 'e' || c == 'E') unsigned
  let (front, places) := cutAt (fun c => c == '.') body
  let exponent ← shownExponent? power
  let head ← decimal? front
  match places with
  | none =>
    if power.isNone then none else finite? negative head exponent
  | some digits =>
    let tail ← plainDigits? digits
    let n ← Text.digits? 10 tail
    finite? negative (head * tenTo tail.length + n) (exponent - tail.length)

/-- A number that is neither whole nor anything but a number. -/
def float? (cs : List Char) : Option Json :=
  let (_, body) := signed cs
  if body = "inf".toList ∨ body = "nan".toList then some (.real 0 1) else fraction? cs

end RelayGateway.Toml
