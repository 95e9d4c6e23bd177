import RelayGateway.Json
import RelayGateway.Text.Numeral

/-! # JSON values as text

* `escapeChar`: how a character is written inside a string.
* `Json.text`: a value on one line, without blanks between its parts.
-/

set_option autoImplicit false

namespace RelayGateway.Json

/-- How a character is written inside a string: quotation marks, backslashes and control characters
are escaped, all others stand for themselves. -/
def escapeChar (c : Char) : List Char :=
  match c with
  | '"' => ['\\', '"']
  | '\\' => ['\\', '\\']
  | '\n' => ['\\', 'n']
  | '\r' => ['\\', 'r']
  | '\t' => ['\\', 't']
  | _ => if c.toNat < 0x20 then '\\' :: 'u' :: Text.hexDigits 4 c.toNat else [c]

def quoted (text : String) : String :=
  "\"" ++ String.ofList (text.toList.flatMap escapeChar) ++ "\""

/-- The number `mantissa / 10 ^ places`, with as many places as are given. -/
def decimal (mantissa : Int) (places : Nat) : String :=
  let digits := (toString mantissa.natAbs).toList
  let padded := List.replicate (places + 1 - digits.length) '0' ++ digits
  let whole := String.ofList (padded.take (padded.length - places))
  let part := String.ofList (padded.drop (padded.length - places))
  (if mantissa < 0 then "-" else "") ++ whole ++ "." ++ (if places = 0 then "0" else part)

mutual

def text : Json → String
  | .null => "null"
  | .bool value => if value then "true" else "false"
  | .int value => toString value
  | .real mantissa places => decimal mantissa places
  | .str value => quoted value
  | .arr items => "[" ++ String.intercalate "," (itemTexts items) ++ "]"
  | .obj members => "\x7b" ++ String.intercalate "," (memberTexts members) ++ "\x7d"

def itemTexts : List Json → List String
  | [] => []
  | item :: items => text item :: itemTexts items

def memberTexts : List (String × Json) → List String
  | [] => []
  | (name, value) :: members => (quoted name ++ ":" ++ text value) :: memberTexts members

end

end RelayGateway.Json
