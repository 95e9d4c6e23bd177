import RelayGateway.Relay.Request
import RelayGateway.ServiceError

/-! # User groups

* `UserGroup`: a group with its billing ratio; only enabled groups are kept after a load.
* `GroupTable.load`: the groups after a load; a failed one leaves them as they were.
* `GroupTable.authorize`: whether a user may use the group of a token, and at which ratio.
-/

set_option autoImplicit false

namespace RelayGateway

/-- A group of users. -/
structure UserGroup where
  symbol : String
  name : String
  ratio : Ratio
  isPublic : Bool
  enabled : Bool
  deriving DecidableEq, Inhabited

/-- The JSON object of a group; the ratio is shown by its bits. -/
def UserGroup.toJson (group : UserGroup) : Json :=
  .obj [
    ("symbol", .str group.symbol),
    ("name", .str group.name),
    ("ratio", group.ratio.toJson),
    ("public", .bool group.isPublic),
    ("enabled", .bool group.enabled)]

/-- The leave to use a group. -/
structure GroupGrant where
  userGroup : String
  /-- The group that is routed and billed. -/
  tokenGroup : String
  ratio : Ratio
  deriving DecidableEq

/-- The enabled groups, one for each symbol. -/
structure GroupTable where
  groups : List UserGroup
  deriving DecidableEq

namespace GroupTable

def empty : GroupTable := ⟨[]⟩

/-- Adds a group, in the place of an earlier one with the same symbol. -/
def put (groups : List UserGroup) (group : UserGroup) : List UserGroup :=
  if groups.any fun g => g.symbol == group.symbol then
    groups.map fun g => if g.symbol = group.symbol then group else g
  else groups ++ [group]

/-- The table of the enabled groups among those given. -/
def ofGroups (groups : List UserGroup) : GroupTable :=
  ⟨(groups.filter (·.enabled)).foldl put []⟩

/-- The table after a load, and the number of groups or the error of the load. -/
def load (table : GroupTable) (fetched : Except ServiceError (List UserGroup)) :
    Except ServiceError Nat × GroupTable :=
  match fetched with
  | .ok groups =>
    let table := ofGroups groups
    (.ok table.groups.length, table)
  | .error err => (.error err, table)

def group? (table : GroupTable) (symbol : String) : Option UserGroup :=
  table.groups.find? fun group => group.symbol == symbol

/-- The leave of a user to use the group of a token. A token without a group uses that of its user; a
group other than the user's own has to be public. -/
def authorize (table : GroupTable) (userGroup : String) (tokenGroup : String) :
    Except ServiceError GroupGrant :=
  let routed := effectiveGroup userGroup tokenGroup
  match table.group? routed with
  | none => .error (.permission s!"分组 {routed} 不存在")
  | some group =>
    if routed ≠ userGroup ∧ !group.isPublic then .error (.permission s!"无权使用分组 {routed}")
    else .ok ⟨userGroup, routed, group.ratio⟩

end GroupTable

end RelayGateway
