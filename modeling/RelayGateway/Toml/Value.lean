import RelayGateway.Toml.Moment
import RelayGateway.Toml.Numeral
import RelayGateway.Toml.Quoted
import RelayGateway.Toml.Table

/-! # Keys and values of a settings document

* `dottedKey`: one or more simple keys joined by dots.
* `value`: a text, a number, a truth value, a moment, a list, or a table written in one line.

A moment is a record with one member that no section has. Lists and inline tables are nested at most
`maxNesting` deep.
-/

set_option autoImplicit false

namespace RelayGateway.Toml

def isBare (c : Char) : Bool :=
  c.isAlphanum || c == '_' || c == '-'

def simpleKey : Scan String
  | '"' :: cs => basic [] cs
  | '\x27' :: cs => literal [] cs
  | cs =>
    match cs.span isBare with
    | ([], _) => none
    | (key, rest) => some (String.ofList key, rest)

/-- The parts of a key, at most `fuel` of them after the first, which is given. -/
def keyParts : Nat → List String → String → Scan (List String × String)
  | 0, _, _, _ => none
  | fuel + 1, path, key, cs =>
    match skipBlanks cs with
    | '.' :: rest => do
      let (next, rest) ← simpleKey (skipBlanks rest)
      keyParts fuel (path ++ [key]) next rest
    | rest => some ((path, key), rest)

/-- A key, as the parts before its last one and the last one, and what follows the blanks after it. -/
def dottedKey (cs : List Char) : Option ((List String × String) × List Char) := do
  let (key, rest) ← simpleKey (skipBlanks cs)
  keyParts (rest.length + 1) [] key rest

/-- The characters of a value without quotes or brackets. -/
def isPlain (c : Char) : Bool :=
  c.isAlphanum || c == '_' || c == '-' || c == '+' || c == '.' || c == ':'

def momentJson (cs : List Char) : Json :=
  .obj [("moment", .str (String.ofList cs))]

def plain? (cs : List Char) : Option Json :=
  if cs = "true".toList then some (.bool true)
  else if cs = "false".toList then some (.bool false)
  else if isMoment cs then some (momentJson cs)
  else (whole? cs).or (float? cs)

/-- A value without quotes or brackets. A blank may stand between a date and a time of day. -/
def plainValue (cs : List Char) : Option (Json × List Char) := do
  let (word, rest) := cs.span isPlain
  let (word, rest) :=
    match rest with
    | ' ' :: after =>
      let (time, left) := after.span isPlain
      if endsAtDate word && !time.isEmpty then (word ++ ' ' :: time, left) else (word, rest)
    | rest => (word, rest)
  return (← plain? word, rest)

/-- How deep lists and inline tables may be nested. -/
def maxNesting : Nat := 80

mutual

/-- A value; `depth` is how much deeper it may be nested. -/
def valueAt : Nat → Nat → Scan Json
  | 0, _, _ => none
  | fuel + 1, depth, cs =>
    match cs with
    | '"' :: '"' :: '"' :: rest => do
      let (text, rest) ← multiBasic false [] (skipFirstBreak rest)
      return (.str text, rest)
    | '"' :: rest => do
      let (text, rest) ← basic [] rest
      return (.str text, rest)
    | '\x27' :: '\x27' :: '\x27' :: rest => do
      let (text, rest) ← multiLiteral [] (skipFirstBreak rest)
      return (.str text, rest)
    | '\x27' :: rest => do
      let (text, rest) ← literal [] rest
      return (.str text, rest)
    | '[' :: rest =>
      match depth with
      | 0 => none
      | depth + 1 => listItems fuel depth [] rest
    | '{' :: rest =>
      match depth with
      | 0 => none
      | depth + 1 =>
        match skipBlanks rest with
        | '}' :: rest => some (.obj [], rest)
        | rest => inlineMembers fuel depth [] rest
    | cs => plainValue cs

/-- The items of a list, after those already read. -/
def listItems : Nat → Nat → List Json → Scan Json
  | 0, _, _, _ => none
  | fuel + 1, depth, items, cs => do
    match ← skipVoid cs with
    | ']' :: rest => some (.arr items.reverse, rest)
    | start =>
      let (item, rest) ← valueAt fuel depth start
      match ← skipVoid rest with
      | ',' :: rest => listItems fuel depth (item :: items) rest
      | ']' :: rest => some (.arr (item :: items).reverse, rest)
      | _ => none

/-- The members of an inline table, after those already read. -/
def inlineMembers : Nat → Nat → Members → Scan Json
  | 0, _, _, _ => none
  | fuel + 1, depth, members, cs => do
    let ((path, key), rest) ← dottedKey cs
    match rest with
    | '=' :: rest =>
      let (item, rest) ← valueAt fuel depth (skipBlanks rest)
      let members ← Members.insert members path key item
      match skipBlanks rest with
      | ',' :: rest => inlineMembers fuel depth members rest
      | '}' :: rest => some (.obj (membersToJson members), rest)
      | _ => none
    | _ => none

end

def value (cs : List Char) : Option (Json × List Char) :=
  valueAt (2 * cs.length + 2) maxNesting cs

end RelayGateway.Toml
