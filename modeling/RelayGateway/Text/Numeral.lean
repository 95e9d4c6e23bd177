import RelayGateway.Text.Search

/-! # Numerals

* `digits?`: a non-empty run of decimal digits as a number.
* `natural?`, `integer?`: a decimal numeral with an optional sign, within bounds.
* `hexDigits`: a number as exactly so many lower-case hexadecimal digits.
-/

set_option autoImplicit false

namespace RelayGateway.Text

/-- The value of a digit in a base of at most 36, by digits and ASCII letters. -/
def digitValue? (base : Nat) (c : Char) : Option Nat :=
  let code := c.toNat
  let value :=
    if 0x30 ≤ code ∧ code ≤ 0x39 then some (code - 0x30)
    else if 0x61 ≤ code ∧ code ≤ 0x7A then some (code - 0x61 + 10)
    else if 0x41 ≤ code ∧ code ≤ 0x5A then some (code - 0x41 + 10)
    else none
  value.filter fun v => v < base

/-- Reads the remaining digits of a number of which `acc` has been read. -/
def digitsFrom? (base : Nat) (acc : Nat) : List Char → Option Nat
  | [] => some acc
  | c :: cs =>
    match digitValue? base c with
    | some v => digitsFrom? base (acc * base + v) cs
    | none => none

def digits? (base : Nat) : List Char → Option Nat
  | [] => none
  | c :: cs => digitsFrom? base 0 (c :: cs)

/-- A decimal numeral without a minus sign, at most `max`; a plus sign is allowed. -/
def natural? (max : Nat) (text : String) : Option Nat :=
  let number :=
    match text.toList with
    | '+' :: cs => digits? 10 cs
    | cs => digits? 10 cs
  number.filter fun n => n ≤ max

/-- A decimal numeral with an optional sign, between `min` and `max`. -/
def integer? (min max : Int) (text : String) : Option Int :=
  let number : Option Int :=
    match text.toList with
    | '+' :: cs => (digits? 10 cs).map Int.ofNat
    | '-' :: cs => (digits? 10 cs).map fun n => -(Int.ofNat n)
    | cs => (digits? 10 cs).map Int.ofNat
  number.filter fun n => min ≤ n && n ≤ max

/-- The lower-case hexadecimal digit of a value below sixteen. -/
def hexDigit (value : Nat) : Char :=
  if value < 10 then Char.ofNat (0x30 + value) else Char.ofNat (0x61 + value - 10)

/-- The lowest `width` hexadecimal digits of a number, most significant first. -/
def hexDigits : Nat → Nat → List Char
  | 0, _ => []
  | width + 1, n => hexDigits width (n / 16) ++ [hexDigit (n % 16)]

end RelayGateway.Text
