import RelayGateway.Json

/-! # Tables of a settings document

* `Entry`: what a key stands for: a value, a table, or a list of tables that may still grow.
* `Origin`: how a table came to be, which decides who may add to it.
* `Members.insert`: adds a value under a dotted key.
* `Members.openTable`, `Members.openListed`: what a header does.

A table has one definition: by a header, or by dotted keys. A table that was only passed through on the
way to another may still be defined by a header.
-/

set_option autoImplicit false

namespace RelayGateway.Toml

/-- How a table came to be. -/
inductive Origin where
  /-- A header named a table inside it. -/
  | passed
  | header
  | dotted
  deriving DecidableEq

/-- What a key stands for. -/
inductive Entry where
  | value (json : Json)
  | table (origin : Origin) (members : List (String × Entry))
  | listed (tables : List (List (String × Entry)))

abbrev Members := List (String × Entry)

mutual

def Entry.toJson : Entry → Json
  | .value json => json
  | .table _ members => .obj (membersToJson members)
  | .listed tables => .arr (tablesToJson tables)

def membersToJson : List (String × Entry) → List (String × Json)
  | [] => []
  | (key, entry) :: rest => (key, entry.toJson) :: membersToJson rest

def tablesToJson : List (List (String × Entry)) → List Json
  | [] => []
  | members :: rest => .obj (membersToJson members) :: tablesToJson rest

end

namespace Members

def entry? (members : Members) (key : String) : Option Entry :=
  (members.find? fun member => member.1 == key).map (·.2)

def put (members : Members) (key : String) (entry : Entry) : Members :=
  if (members.entry? key).isSome then
    members.map fun member => if member.1 = key then (key, entry) else member
  else members ++ [(key, entry)]

def add (members : Members) (key : String) (json : Json) : Option Members :=
  match members.entry? key with
  | none => some (members.put key (.value json))
  | some _ => none

/-- Adds a value under the key at the end of a path of keys. Every table on the path is made by dotted
keys, here or before. -/
def insertAt : List String → String → Json → Origin → Members → Option Members
  | [], key, json, origin, members => if origin = .dotted then members.add key json else none
  | next :: path, key, json, _, members =>
    match members.entry? next with
    | none => do
      return members.put next (.table .dotted (← insertAt path key json .dotted []))
    | some (.table origin inner) =>
      if origin = .header then none
      else do return members.put next (.table origin (← insertAt path key json origin inner))
    | some _ => none

/-- Adds a value under a dotted key, whose last part is `key`. -/
def insert (members : Members) (path : List String) (key : String) (json : Json) :
    Option Members :=
  match path with
  | [] => members.add key json
  | path => insertAt path key json .header members

/-- Changes the table at the end of a path of headers. -/
def atPath (change : Members → Option Members) : List String → Members → Option Members
  | [], members => change members
  | next :: path, members =>
    match members.entry? next with
    | none => do return members.put next (.table .passed (← atPath change path []))
    | some (.table origin inner) => do
      return members.put next (.table origin (← atPath change path inner))
    | some (.listed tables) =>
      match tables.getLast? with
      | none => none
      | some last => do
        return members.put next (.listed (tables.dropLast ++ [← atPath change path last]))
    | some (.value _) => none

def openTable (members : Members) (path : List String) (key : String) : Option Members :=
  atPath (fun here =>
    match here.entry? key with
    | none => some (here.put key (.table .header []))
    | some (.table .passed inner) => some (here.put key (.table .header inner))
    | some _ => none) path members

def openListed (members : Members) (path : List String) (key : String) : Option Members :=
  atPath (fun here =>
    match here.entry? key with
    | none => some (here.put key (.listed [[]]))
    | some (.listed tables) => some (here.put key (.listed (tables ++ [[]])))
    | some _ => none) path members

end Members

end RelayGateway.Toml
