import RelayGateway.Json
import RelayGateway.Text.Blank
import RelayGateway.Text.Lowercase
import RelayGateway.Text.Numeral

/-! # Requests and responses

* `Request`, `Response`: what the management interface gets and gives.
* `isHeaderValue`, `isReadable`: the bytes that a header may carry, and those that are also text.
* `requestId?`: the request id that a client brought along, if it can be used.
* `freshRequestId`: a request id made of random bytes.
-/

set_option autoImplicit false

namespace RelayGateway.Http

/-- A request. -/
structure Request where
  method : String
  target : String
  headers : List (String × List UInt8)

/-- What a response carries. -/
inductive Body where
  | empty
  | text (content : String)
  | json (content : Json)

/-- A response. -/
structure Response where
  status : Nat
  /-- The headers that the gateway itself sets, in lower case. -/
  headers : List (String × List UInt8)
  body : Body

/-- Whether a header may carry the byte: control characters other than the tab are refused. -/
def isHeaderByte (byte : UInt8) : Bool :=
  byte == 9 || (32 ≤ byte && byte != 127)

def isHeaderValue (bytes : List UInt8) : Bool :=
  bytes.all isHeaderByte

def isReadable (bytes : List UInt8) : Bool :=
  bytes.all fun byte => byte == 9 || (32 ≤ byte && byte < 127)

def readableText (bytes : List UInt8) : String :=
  String.ofList (bytes.map fun byte => Char.ofNat byte.toNat)

/-- The longest request id that is taken over from a client. -/
def maxRequestIdLength : Nat := 128

/-- A header value as a request id: readable, and after trimming neither empty nor too long. -/
def requestId? (value : List UInt8) : Option String :=
  if isReadable value then
    let id := Text.trim (readableText value)
    if id ≠ "" ∧ id.length ≤ maxRequestIdLength then some id else none
  else none

/-- Sixteen random bytes as a random UUID: four bits tell the version, two the variant. -/
def markedBytes (bytes : List UInt8) : List UInt8 :=
  bytes.zipIdx.map fun (byte, place) =>
    if place = 6 then byte &&& 0x0F ||| 0x40
    else if place = 8 then byte &&& 0x3F ||| 0x80
    else byte

def cutInto {α : Type} : List Nat → List α → List (List α)
  | [], _ => []
  | length :: lengths, items => items.take length :: cutInto lengths (items.drop length)

def freshRequestId (bytes : List UInt8) : String :=
  let digits := (markedBytes bytes).flatMap fun byte => Text.hexDigits 2 byte.toNat
  String.intercalate "-" ((cutInto [8, 4, 4, 4, 12] digits).map String.ofList)

/-- The value of the header with the given name in lower case. -/
def Request.header? (request : Request) (name : String) : Option (List UInt8) :=
  (request.headers.find? fun header => Text.toLower header.1 == name).map (·.2)

/-- The request id of a request, or else a fresh one. -/
def Request.id (request : Request) (fresh : String) : String :=
  ((request.header? "x-request-id").bind requestId?).getD fresh

end RelayGateway.Http
