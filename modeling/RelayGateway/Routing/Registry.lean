import RelayGateway.Balance.Cooldown
import RelayGateway.Balance.Filter
import RelayGateway.Balance.Pick
import RelayGateway.Routing.Error
import RelayGateway.Routing.Snapshot

/-! # The channel registry

* `Registry`: the current routing table with the runtime flags of its channels.
* `Registry.install`: puts a new table in place of the old one and clears all flags.
* `Registry.setEnabled`: sets the flag of a channel of the table.
* `Registry.resolve`, `Registry.selectKey`, `Registry.select`, `Registry.countAvailable`: resolution of
  a model name, selection for a key or a name, and the number of channels that selection can use.

Selection and counting share one notion of eligibility (`Registry.isEligible`).
-/

set_option autoImplicit false

namespace RelayGateway

/-- The counts reported after a load. -/
structure LoadSummary where
  channels : Nat
  groups : Nat
  wildcardModels : Nat
  deriving DecidableEq

/-- How the registry reads what it loads. -/
structure RegistryOptions where
  /-- The weight of channels whose own weight is zero. -/
  defaultWeight : UInt32
  /-- Whether model names are also matched up to letter case. -/
  ignoreCase : Bool
  deriving DecidableEq

/-- The current routing table and the channels disabled at run time. -/
structure Registry where
  options : RegistryOptions
  snapshot : Snapshot
  disabled : List ChannelId
  deriving DecidableEq

/-- What decides, besides the registry, whether a channel can be chosen at a moment. -/
structure Conditions where
  cooldowns : CooldownTable
  now : Instant
  filters : List Filter

namespace Registry

def empty (options : RegistryOptions) : Registry := ⟨options, .empty, []⟩

/-- Puts a new table in place; none of its channels is disabled at run time. -/
def install (registry : Registry) (snapshot : Snapshot) : Registry :=
  { registry with snapshot, disabled := [] }

/-- The table that a list of channels gives under the options. -/
def tableOf (registry : Registry) (channels : List Channel) : Snapshot :=
  .build channels registry.options.defaultWeight

def summary (snapshot : Snapshot) : LoadSummary :=
  ⟨snapshot.channels.length, snapshot.groups.length, snapshot.wildcards.length⟩

/-- Whether a channel of the table is disabled at run time. -/
def isDisabled (registry : Registry) (id : ChannelId) : Bool :=
  registry.disabled.contains id

/-- Sets the runtime flag of a channel and says whether the table has the channel. -/
def setEnabled (registry : Registry) (id : ChannelId) (enabled : Bool) : Bool × Registry :=
  if (registry.snapshot.channel? id).isSome then
    let others := registry.disabled.filter fun other => other != id
    (true, { registry with disabled := if enabled then others else id :: others })
  else (false, registry)

/-- Whether the table has a channel and it is not disabled at run time. -/
def isChannelEnabled (registry : Registry) (id : ChannelId) : Bool :=
  (registry.snapshot.channel? id).isSome && !registry.isDisabled id

/-- The routing key of a requested model, if the group has one. -/
def matchedKey? (registry : Registry) (group model : String) : Option String :=
  resolveModel registry.options.ignoreCase (registry.snapshot.keys group)
    registry.snapshot.wildcards model

/-- The routing key of a requested model in a group. -/
def resolve (registry : Registry) (group model : String) : Except RoutingError String :=
  if registry.snapshot.hasGroup group then
    match registry.matchedKey? group model with
    | some key => .ok key
    | none => .error (.modelNotFoundInGroup group model)
  else .error (.groupNotFound group)

/-- Whether a channel can be chosen for a model key. -/
def isEligible (registry : Registry) (conditions : Conditions) (model : String)
    (channel : Channel) : Bool :=
  !registry.isDisabled channel.id &&
    !conditions.cooldowns.isCooling channel.id model conditions.now &&
    !isFiltered conditions.filters channel

/-- The channels of a tier that can be chosen, in the order of the tier. -/
def candidates (registry : Registry) (conditions : Conditions) (model : String)
    (tier : List ChannelId) : List Channel :=
  (tier.filterMap registry.snapshot.channel?).filter (registry.isEligible conditions model)

/-- A channel from the first tier that has a candidate. -/
def pickFromTiers (registry : Registry) (conditions : Conditions) (model : String) :
    List (List ChannelId) → Draws → Option Channel × Draws
  | [], draws => (none, draws)
  | tier :: tiers, draws =>
    match pick (registry.candidates conditions model tier) draws with
    | (some channel, rest) => (some channel, rest)
    | (none, rest) => registry.pickFromTiers conditions model tiers rest

/-- A listed id that the table has no channel for. -/
def danglingId? (registry : Registry) (tiers : List (List ChannelId)) : Option ChannelId :=
  tiers.flatten.find? fun id => (registry.snapshot.channel? id).isNone

/-- Selects a channel for a routing key of a group. -/
def selectKey (registry : Registry) (conditions : Conditions) (group key : String)
    (draws : Draws) : Except RoutingError Channel :=
  if registry.snapshot.hasGroup group then
    match registry.snapshot.tiers group key with
    | none => .error (.modelNotFoundInGroup group key)
    | some [] => .error (.noChannelsAvailable group key)
    | some tiers =>
      match (registry.pickFromTiers conditions key tiers draws).1 with
      | some channel => .ok channel
      | none =>
        match registry.danglingId? tiers with
        | some id => .error (.databaseConsistencyBroken id)
        | none => .error (.noAvailableChannelsAfterFiltering group key)
  else .error (.groupNotFound group)

/-- Resolves a requested model and selects a channel for it. -/
def select (registry : Registry) (conditions : Conditions) (group model : String)
    (draws : Draws) : Except RoutingError Channel :=
  if registry.snapshot.hasGroup group then
    match registry.matchedKey? group model with
    | none => .error (.modelNotFound model)
    | some key =>
      let tiers := (registry.snapshot.tiers group key).getD []
      match (registry.pickFromTiers conditions key tiers draws).1 with
      | some channel => .ok channel
      | none => .error .channelNotFound
  else .error (.groupNotFound group)

/-- The ids routed for a key whose channels can be chosen, each once. -/
def availableIds (registry : Registry) (conditions : Conditions) (group key : String) :
    List ChannelId :=
  ((registry.snapshot.tiers group key).getD []).flatten.eraseDups.filter fun id =>
    match registry.snapshot.channel? id with
    | some channel => registry.isEligible conditions key channel
    | none => false

/-- The number of channels that selection for a key can use. -/
def countAvailable (registry : Registry) (conditions : Conditions) (group key : String) : Nat :=
  (registry.availableIds conditions group key).length

/-- The channels that selection for a key can yield, depending on the draws. -/
def selectable (registry : Registry) (conditions : Conditions) (key : String) :
    List (List ChannelId) → List Channel
  | [] => []
  | tier :: tiers =>
    match registry.candidates conditions key tier with
    | [] => registry.selectable conditions key tiers
    | candidates => drawable candidates

def describe (registry : Registry) : String :=
  "ChannelRegistry \x7b options: RegistryOptions \x7b default_weight: " ++
    toString registry.options.defaultWeight.toNat ++ ", case_insensitive: " ++
    (if registry.options.ignoreCase then "true" else "false") ++ " \x7d, channels: " ++
    toString registry.snapshot.channels.length ++ ", .. \x7d"

/-- The model keys of a group, in ascending order. -/
def groupModels (registry : Registry) (group : String) : Except RoutingError (List String) :=
  if registry.snapshot.hasGroup group then .ok (registry.snapshot.groupModels group)
  else .error (.groupNotFound group)

end Registry

end RelayGateway
