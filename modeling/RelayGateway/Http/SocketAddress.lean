import RelayGateway.ServiceError
import RelayGateway.Text.Fields
import RelayGateway.Text.Numeral

/-! # Addresses to listen on

* `HostAddress`, `SocketAddress`: a numeric address with a port.
* `SocketAddress.ofText?`: four decimal numbers, or eight groups of hexadecimal digits in brackets.
* `SocketAddress.text`: the canonical form; the longest run of zero groups is left out.
* `listenAddress`, `bind`: the address of the management interface, and whether it can be taken.
-/

set_option autoImplicit false

namespace RelayGateway.Http

/-- A numeric host address. -/
inductive HostAddress where
  /-- Four numbers up to 255. -/
  | v4 (octets : List Nat)
  /-- Eight numbers up to 65535, and the zone in which the address is meant. -/
  | v6 (groups : List Nat) (zone : Nat)
  deriving DecidableEq

/-- A host address with a port. -/
structure SocketAddress where
  host : HostAddress
  port : Nat
  deriving DecidableEq

/-- One of the four decimal numbers; zeros in front are refused. -/
def octet? (cs : List Char) : Option Nat :=
  match cs with
  | '0' :: _ :: _ => none
  | cs => if cs.length ≤ 3 then (Text.digits? 10 cs).filter (· ≤ 255) else none

def octets? (cs : List Char) : Option (List Nat) :=
  let parts := Text.fields '.' cs
  if parts.length = 4 then parts.mapM octet? else none

def group? (cs : List Char) : Option Nat :=
  if cs.length ≤ 4 then Text.digits? 16 cs else none

/-- The groups of a part of an address. At its end may stand four decimal numbers, which make two
groups. -/
def groups? (decimalEnd : Bool) : List (List Char) → Option (List Nat)
  | [] => some []
  | [last] =>
    match group? last with
    | some n => some [n]
    | none =>
      match if decimalEnd then octets? last else none with
      | some [a, b, c, d] => some [256 * a + b, 256 * c + d]
      | _ => none
  | part :: parts => do
    let n ← group? part
    return n :: (← groups? decimalEnd parts)

/-- The parts of an address between colons; an empty text has none. -/
def colonParts (cs : List Char) : List (List Char) :=
  if cs.isEmpty then [] else Text.fields ':' cs

/-- A text cut in two at the first pair of colons. -/
def cutAtGap : List Char → Option (List Char × List Char)
  | ':' :: ':' :: cs => some ([], cs)
  | c :: cs => (cutAtGap cs).map fun (before, after) => (c :: before, after)
  | [] => none

/-- Eight groups; a pair of colons stands for one or more groups of zero. -/
def v6Groups? (cs : List Char) : Option (List Nat) :=
  match cutAtGap cs with
  | none => do
    let groups ← groups? true (colonParts cs)
    if groups.length = 8 then some groups else none
  | some (before, after) => do
    let head ← groups? false (colonParts before)
    let tail ← groups? true (colonParts after)
    if head.length + tail.length ≤ 7 then
      some (head ++ List.replicate (8 - head.length - tail.length) 0 ++ tail)
    else none

def port? (cs : List Char) : Option Nat :=
  (Text.digits? 10 cs).filter (· ≤ 65535)

def bracketed? (cs : List Char) : Option HostAddress :=
  match cs.span fun c => c != '%' with
  | (body, []) => (v6Groups? body).map fun groups => .v6 groups 0
  | (body, _ :: zone) => do
    let groups ← v6Groups? body
    let n ← (Text.digits? 10 zone).filter (· ≤ 4294967295)
    return .v6 groups n

/-- A run of zero groups: where it begins and how long it is. -/
structure ZeroRun where
  start : Nat
  length : Nat

/-- The longest run of zero groups, and of several such the first. `current` is the run that the groups
read so far end in. -/
def longestRun (best current : ZeroRun) (position : Nat) : List Nat → ZeroRun
  | [] => best
  | 0 :: groups =>
    let run :=
      if current.length = 0 then ⟨position, 1⟩ else ⟨current.start, current.length + 1⟩
    longestRun (if best.length < run.length then run else best) run (position + 1) groups
  | _ :: groups => longestRun best ⟨0, 0⟩ (position + 1) groups

/-- A number in hexadecimal digits, without zeros in front. -/
def hexText (n : Nat) : String := String.ofList (Nat.toDigits 16 n)

def groupsText (groups : List Nat) : String :=
  String.intercalate ":" (groups.map hexText)

def octetsText (octets : List Nat) : String :=
  String.intercalate "." (octets.map fun n => s!"{n}")

def v6Text (groups : List Nat) : String :=
  match groups with
  | [0, 0, 0, 0, 0, 0xFFFF, high, low] =>
    "::ffff:" ++ octetsText [high / 256, high % 256, low / 256, low % 256]
  | groups =>
    let run := longestRun ⟨0, 0⟩ ⟨0, 0⟩ 0 groups
    if run.length < 2 then groupsText groups
    else
      groupsText (groups.take run.start) ++ "::" ++
        groupsText (groups.drop (run.start + run.length))

namespace SocketAddress

def ofText? (text : String) : Option SocketAddress :=
  match text.toList with
  | '[' :: cs =>
    match cs.span fun c => c != ']' with
    | (body, ']' :: ':' :: port) => do return ⟨← bracketed? body, ← port? port⟩
    | _ => none
  | cs =>
    match Text.fields ':' cs with
    | [body, port] => do return ⟨.v4 (← octets? body), ← port? port⟩
    | _ => none

def text (address : SocketAddress) : String :=
  match address.host with
  | .v4 octets => s!"{octetsText octets}:{address.port}"
  | .v6 groups zone =>
    let shown := if zone = 0 then v6Text groups else s!"{v6Text groups}%{zone}"
    s!"[{shown}]:{address.port}"

/-- Whether an address belongs to every machine: the unspecified one, or one that leads back to the
machine itself. -/
def isOwn (address : SocketAddress) : Bool :=
  match address.host with
  | .v4 octets => octets == [0, 0, 0, 0] || octets.head? == some 127
  | .v6 [0, 0, 0, 0, 0, 0, 0, low] _ => low ≤ 1
  | .v6 [0, 0, 0, 0, 0, 0xFFFF, high, low] _ => (high == 0 && low == 0) || high / 256 == 127
  | .v6 .. => false

end SocketAddress

/-- The address at which the management interface listens. -/
def listenAddress (host : String) (port : UInt16) : Except ServiceError SocketAddress :=
  let shown := s!"{host}:{port.toNat}"
  match SocketAddress.ofText? shown with
  | some address => .ok address
  | none => .error (.config s!"管理服务监听地址无效: {shown}" (some "invalid socket address syntax"))

/-- Takes an address for listening, unless it is in use or not one of this machine. -/
def bind (address : SocketAddress) (inUse : Bool) : Except ServiceError Unit :=
  if address.isOwn && !inUse then .ok ()
  else .error (.serverStart s!"绑定 {address.text} 失败" (some "address not available"))

end RelayGateway.Http
