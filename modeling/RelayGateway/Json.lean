/-! # JSON values

* `Json`: the value type. Integers are kept apart from numbers written with a fraction or an
  exponent, because only the former can stand for whole quantities.
* `Json.members?`: the members of a record, given by name or by position.
* `Json.field?` and the readers `int?`, `text?`, `flag?`, `texts?`: typed access.
-/

set_option autoImplicit false

namespace RelayGateway

/-- A JSON value; members of an object are kept in the order in which they were written. -/
inductive Json where
  | null
  | bool (value : Bool)
  | int (value : Int)
  /-- The number `mantissa / 10 ^ places`, written with a fraction or an exponent. -/
  | real (mantissa : Int) (places : Nat)
  | str (value : String)
  | arr (items : List Json)
  | obj (members : List (String × Json))
  deriving Inhabited

namespace Json

/-- What happens to items of a positional record beyond its last field. -/
inductive Surplus where
  | refused
  | ignored

/-- The value of the first member with the given name. -/
def field? (members : List (String × Json)) (name : String) : Option Json :=
  (members.find? fun member => member.1 == name).map (·.2)

/-- The members of a record. An array stands for the record too: its items are the values of the
fields in their declared order, and fields beyond its end are missing. -/
def members? (fields : List String) (surplus : Surplus) : Json → Option (List (String × Json))
  | .obj members => some members
  | .arr items =>
    match surplus with
    | .ignored => some (fields.zip items)
    | .refused => if fields.length < items.length then none else some (fields.zip items)
  | _ => none

def int? (min max : Int) : Json → Option Int
  | .int value => if min ≤ value ∧ value ≤ max then some value else none
  | _ => none

def text? : Json → Option String
  | .str value => some value
  | _ => none

def flag? : Json → Option Bool
  | .bool value => some value
  | _ => none

def texts? : Json → Option (List String)
  | .arr items => items.mapM text?
  | _ => none

/-- `null` for nothing, else the value that `read` accepts. -/
def optional? {α : Type} (read : Json → Option α) : Json → Option (Option α)
  | .null => some none
  | value => (read value).map some

def required? {α : Type} (members : List (String × Json)) (name : String)
    (read : Json → Option α) : Option α :=
  (field? members name).bind read

/-- A field that may be missing; one that is there must be readable. -/
def withDefault? {α : Type} (members : List (String × Json)) (name : String) (default : α)
    (read : Json → Option α) : Option α :=
  match field? members name with
  | none => some default
  | some value => read value

def ofTexts (texts : List String) : Json :=
  .arr (texts.map .str)

def ofText? : Option String → Json
  | none => .null
  | some text => .str text

end Json

def maxUInt32 : Nat := 4294967295

def maxUInt64 : Nat := 18446744073709551615

/-- The 32-bit signed number that a value denotes. -/
def Json.int32? (value : Json) : Option Int32 :=
  (value.int? Int32.minValue.toInt Int32.maxValue.toInt).map Int32.ofInt

/-- The 64-bit signed number that a value denotes. -/
def Json.int64? (value : Json) : Option Int64 :=
  (value.int? Int64.minValue.toInt Int64.maxValue.toInt).map Int64.ofInt

/-- The 16-bit unsigned number that a value denotes. -/
def Json.uint16? (value : Json) : Option UInt16 :=
  (value.int? 0 65535).map fun n => UInt16.ofNat n.toNat

/-- The 32-bit unsigned number that a value denotes. -/
def Json.uint32? (value : Json) : Option UInt32 :=
  (value.int? 0 maxUInt32).map fun n => UInt32.ofNat n.toNat

/-- The 64-bit unsigned number that a value denotes. -/
def Json.uint64? (value : Json) : Option UInt64 :=
  (value.int? 0 maxUInt64).map fun n => UInt64.ofNat n.toNat

end RelayGateway
