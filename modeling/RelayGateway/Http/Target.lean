import RelayGateway.Text.Fields
import RelayGateway.Text.Numeral
import RelayGateway.Text.Search

/-! # Request targets

* `Target`: the segments of the path and the query of a request, neither of them decoded.
* `percentDecode`: the bytes that a percent-encoded text stands for; a percent sign that does not begin
  a code stands for itself.
* `queryPairs`: the names and values of a query, decoded; a plus sign stands for a blank.
-/

set_option autoImplicit false

namespace RelayGateway.Http

/-- The target of a request. -/
structure Target where
  /-- The parts of the path between slashes; the one before the first slash is empty. -/
  segments : List String
  query : String
  deriving DecidableEq

def utf8 (text : String) : List UInt8 := text.toUTF8.toList

/-- The text that bytes are the UTF-8 form of, if they are. -/
def ofUtf8? (bytes : List UInt8) : Option String :=
  String.fromUTF8? ⟨bytes.toArray⟩

def hexValue? (byte : UInt8) : Option Nat :=
  Text.digitValue? 16 (Char.ofNat byte.toNat)

def hexByte? (high low : UInt8) : Option UInt8 := do
  let h ← hexValue? high
  let l ← hexValue? low
  return UInt8.ofNat (16 * h + l)

/-- Replaces each percent sign that two hexadecimal digits follow by the byte they denote. -/
def percentDecode : List UInt8 → List UInt8
  | sign :: high :: low :: after =>
    match if sign = 0x25 then hexByte? high low else none with
    | some decoded => decoded :: percentDecode after
    | none => sign :: percentDecode (high :: low :: after)
  | byte :: rest => byte :: percentDecode rest
  | [] => []

/-- The bytes of a decoded name or value of a query. -/
def queryDecode (text : String) : List UInt8 :=
  percentDecode ((utf8 text).map fun byte => if byte = 0x2B then 0x20 else byte)

/-- A piece of a query as name and value. Without an equals sign the value is empty. -/
def queryPair (piece : String) : List UInt8 × List UInt8 :=
  let (name, rest) := piece.toList.span fun c => c != '='
  (queryDecode (String.ofList name), queryDecode (String.ofList (rest.drop 1)))

def queryPairs (query : String) : List (List UInt8 × List UInt8) :=
  ((Text.splitAt '&' query).filter fun piece => piece != "").map queryPair

def afterAuthority (cs : List Char) : List Char :=
  cs.dropWhile fun c => c != '/' && c != '?' && c != '#'

/-- The path and the query of an address, which may begin with a scheme and an authority. -/
def localPart : List Char → List Char
  | '/' :: cs => '/' :: cs
  | cs =>
    match cs.dropWhile fun c => c != ':' with
    | ':' :: '/' :: '/' :: rest =>
      match afterAuthority rest with
      | '/' :: path => '/' :: path
      | rest => '/' :: rest
    | _ => cs

namespace Target

def ofText (text : String) : Target :=
  let shown := (localPart text.toList).takeWhile fun c => c != '#'
  let (path, query) := shown.span fun c => c != '?'
  ⟨Text.splitAt '/' (String.ofList path), String.ofList (query.drop 1)⟩

end Target

end RelayGateway.Http
