import RelayGateway.Toml.Value

/-! # Settings documents

* `Draft`: the tables read so far and the table to which the next keys belong.
* `statement`: a key with its value, or a header.
* `parse?`: a whole document as a record; nothing if it is malformed.
-/

set_option autoImplicit false

namespace RelayGateway.Toml

/-- A document of which some statements have been read. -/
structure Draft where
  root : Members
  /-- The path of the table to which the next keys belong. -/
  current : List String

namespace Draft

def empty : Draft := ⟨[], []⟩

/-- Adds a value under a dotted key of the current table. -/
def define (draft : Draft) (path : List String) (key : String) (json : Json) : Option Draft := do
  let root ←
    Members.atPath (fun here => Members.insert here path key json) draft.current draft.root
  return { draft with root }

def enter (draft : Draft) (path : List String) (key : String) : Option Draft := do
  return ⟨← Members.openTable draft.root path key, path ++ [key]⟩

def enterListed (draft : Draft) (path : List String) (key : String) : Option Draft := do
  return ⟨← Members.openListed draft.root path key, path ++ [key]⟩

end Draft

/-- One statement, which starts at a character that is no blank. -/
def statement (draft : Draft) : Scan Draft
  | '[' :: '[' :: cs => do
    match ← dottedKey cs with
    | ((path, key), ']' :: ']' :: rest) => return (← draft.enterListed path key, rest)
    | _ => none
  | '[' :: cs => do
    match ← dottedKey cs with
    | ((path, key), ']' :: rest) => return (← draft.enter path key, rest)
    | _ => none
  | cs => do
    match ← dottedKey cs with
    | ((path, key), '=' :: rest) =>
      let (json, rest) ← value (skipBlanks rest)
      return (← draft.define path key json, rest)
    | _ => none

/-- The remaining statements of a document, at most `fuel` of them. -/
def statements : Nat → Draft → List Char → Option Draft
  | 0, _, _ => none
  | fuel + 1, draft, cs => do
    match ← skipVoid cs with
    | [] => some draft
    | start =>
      let (draft, rest) ← statement draft start
      statements fuel draft (← skipLineEnd rest)

/-- The text after a byte order mark at its beginning. -/
def withoutMark : List Char → List Char
  | '\uFEFF' :: cs => cs
  | cs => cs

def parse? (text : String) : Option Json := do
  let cs := withoutMark text.toList
  let draft ← statements (cs.length + 1) .empty cs
  return .obj (membersToJson draft.root)

end RelayGateway.Toml
