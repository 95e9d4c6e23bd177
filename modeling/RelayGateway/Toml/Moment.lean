import RelayGateway.Text.Numeral

/-! # Dates and times of a settings document

* `isMoment`: a date, a time of day, or both, the latter with or without an offset from universal time.
* `endsAtDate`: a date after which a blank may separate a time of day.
-/

set_option autoImplicit false

namespace RelayGateway.Toml

/-- A number of two digits between bounds, and what follows it. -/
def twoDigits? (least greatest : Nat) : List Char → Option (Nat × List Char)
  | a :: b :: cs => do
    let n ← Text.digits? 10 [a, b]
    if least ≤ n ∧ n ≤ greatest then some (n, cs) else none
  | _ => none

def daysOf (year month : Nat) : Nat :=
  if month = 2 then
    (if year % 4 = 0 ∧ (year % 100 ≠ 0 ∨ year % 400 = 0) then 29 else 28)
  else if month = 4 ∨ month = 6 ∨ month = 9 ∨ month = 11 then 30
  else 31

def afterDate? : List Char → Option (List Char)
  | a :: b :: c :: d :: '-' :: cs => do
    let year ← Text.digits? 10 [a, b, c, d]
    match ← twoDigits? 1 12 cs with
    | (month, '-' :: rest) =>
      let (_, after) ← twoDigits? 1 (daysOf year month) rest
      return after
    | _ => none
  | _ => none

/-- What follows the digits of a fraction of a second. -/
def afterFraction? : List Char → Option (List Char)
  | '.' :: cs =>
    let (digits, rest) := cs.span Char.isDigit
    if digits.isEmpty then none else some rest
  | cs => some cs

def afterTime? (cs : List Char) : Option (List Char) := do
  match ← twoDigits? 0 23 cs with
  | (_, ':' :: cs) =>
    match ← twoDigits? 0 59 cs with
    | (_, ':' :: cs) =>
      let (_, rest) ← twoDigits? 0 60 cs
      afterFraction? rest
    | _ => none
  | _ => none

/-- Whether an offset from universal time, or nothing, stands here. -/
def isOffset : List Char → Bool
  | [] => true
  | ['Z'] | ['z'] => true
  | c :: cs =>
    (c == '+' || c == '-') &&
      match twoDigits? 0 23 cs with
      | some (_, ':' :: rest) => (twoDigits? 0 59 rest).map (·.2) == some []
      | _ => false

def endsAtDate (cs : List Char) : Bool :=
  afterDate? cs == some []

/-- Whether the characters are a date, a time of day, or both. -/
def isMoment (cs : List Char) : Bool :=
  match afterDate? cs with
  | some [] => true
  | some (c :: rest) =>
    (c == 'T' || c == 't' || c == ' ') && (afterTime? rest).any isOffset
  | none => afterTime? cs == some []

end RelayGateway.Toml
