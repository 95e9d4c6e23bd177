import RelayGateway.Channel.Basic
import RelayGateway.Routing.Resolution

/-! # The routing table

* `amend`: entries by key, one of them made from what it was before.
* `Tier`: the channels of one priority; `insertTier` keeps tiers in descending order of priority.
* `Snapshot`: the channels of the table, the rule that routes to them, the patterns among the model keys
  and the groups of each model key.
* `Draft`: a table in the making, whose indexes are filled side by side. `Draft.list` lists a channel under
  one group and model key, `Draft.add` under all of its own, as often as they are named.
* `Snapshot.build`: the table made from a list of channels. Only enabled channels count, a weight of
  zero becomes the default weight, and blank group and model names are dropped.
* `Snapshot.tiers`, `Snapshot.groupModels`, `Snapshot.modelsGroups`: views of the table.
-/

set_option autoImplicit false

namespace RelayGateway

/-- Entries by key after the one of a key has been made anew. `next` makes it from what it was, and a new
key comes last. -/
def amend {κ α : Type} [BEq κ] (key : κ) (next : Option α → α) : List (κ × α) → List (κ × α)
  | [] => [(key, next none)]
  | (other, value) :: entries =>
    if key == other then (other, next (some value)) :: entries
    else (other, value) :: amend key next entries

/-- Puts a text in its place among ascending ones, once. -/
def insertText (text : String) : List String → List String
  | [] => [text]
  | first :: others =>
    if text < first then text :: first :: others
    else if text = first then first :: others
    else first :: insertText text others

def sortTexts (texts : List String) : List String :=
  texts.mergeSort fun a b => !decide (b < a)

/-- The group names of a channel, trimmed, without blank ones. -/
def Channel.listedGroups (channel : Channel) : List String :=
  (channel.groups.map Text.trim).filter fun name => name != ""

/-- The model keys of a channel, trimmed, without blank ones. -/
def Channel.listedModels (channel : Channel) : List String :=
  (channel.models.map Text.trim).filter fun name => name != ""

/-- The channels of one priority, in the order in which they were listed. -/
structure Tier where
  priority : Int64
  members : List ChannelId
  deriving DecidableEq

/-- Lists a channel in the tier of its priority, once. -/
def insertTier (priority : Int64) (id : ChannelId) : List Tier → List Tier
  | [] => [⟨priority, [id]⟩]
  | tier :: tiers =>
    if tier.priority < priority then ⟨priority, [id]⟩ :: tier :: tiers
    else if tier.priority = priority then
      (if tier.members.contains id then tier else { tier with members := tier.members ++ [id] })
        :: tiers
    else tier :: insertTier priority id tiers

/-- For a group and a model key, the ids that are routed, one list for each tier. -/
abbrev RoutingRule := List (String × List (String × List (List ChannelId)))

namespace RoutingRule

def tiers (rule : RoutingRule) (group model : String) : Option (List (List ChannelId)) :=
  (rule.lookup group).bind fun models => models.lookup model

/-- Sets the tiers of a group and a model key. -/
def route (rule : RoutingRule) (group model : String) (tiers : List (List ChannelId)) : RoutingRule :=
  amend group (fun models => amend model (fun _ => tiers) (models.getD [])) rule

/-- The rule of the tiers that have been kept for pairs of a group and a model key. -/
def ofBuckets (buckets : List ((String × String) × List Tier)) : RoutingRule :=
  buckets.foldl (fun (rule : RoutingRule) bucket =>
    rule.route bucket.1.1 bucket.1.2 (bucket.2.map (·.members))) []

end RoutingRule

/-- A routing table. -/
structure Snapshot where
  /-- The channels, one for each id. -/
  channels : List Channel
  rule : RoutingRule
  /-- The patterns among the model keys, in ascending order. -/
  wildcards : List String
  /-- For every model key, the groups that have it. -/
  groupsByModel : List (String × List String)
  deriving DecidableEq

/-- A table in the making. The tiers still have their priorities, and are kept for pairs of a group and a
model key. -/
structure Draft where
  channels : List Channel
  buckets : List ((String × String) × List Tier)
  wildcards : List String
  groupsByModel : List (String × List String)

namespace Snapshot

/-- Adds a channel, in the place of an earlier one with the same id. -/
def putChannel (channels : List Channel) (channel : Channel) : List Channel :=
  if channels.any fun c => c.id == channel.id then
    channels.map fun c => if c.id = channel.id then channel else c
  else channels ++ [channel]

/-- A channel with the default weight in the place of weight zero. -/
def withWeight (defaultWeight : UInt32) (channel : Channel) : Channel :=
  if channel.weight = 0 then { channel with weight := defaultWeight } else channel

end Snapshot

namespace Draft

def empty : Draft := ⟨[], [], [], []⟩

/-- Lists a channel under a group and a model key. -/
def list (draft : Draft) (channel : Channel) (group model : String) : Draft :=
  { draft with
    buckets := amend (group, model)
      (fun tiers => insertTier channel.priority channel.id (tiers.getD [])) draft.buckets
    wildcards := if isWildcard model then insertText model draft.wildcards else draft.wildcards
    groupsByModel := amend model (fun groups => (groups.getD []).insert group) draft.groupsByModel }

/-- Takes a channel in, and lists it under every one of the groups with every one of the models. -/
def enrol (draft : Draft) (channel : Channel) (groups models : List String) : Draft :=
  let listed := groups.foldl (fun draft group =>
    models.foldl (fun draft model => draft.list channel group model) draft) draft
  { listed with channels := Snapshot.putChannel listed.channels channel }

/-- Takes a channel in if it is enabled. -/
def add (defaultWeight : UInt32) (draft : Draft) (channel : Channel) : Draft :=
  if channel.status = .enabled then
    let weighted := Snapshot.withWeight defaultWeight channel
    draft.enrol weighted weighted.listedGroups weighted.listedModels
  else draft

/-- The finished table. -/
def finish (draft : Draft) : Snapshot where
  channels := draft.channels
  rule := .ofBuckets draft.buckets
  wildcards := draft.wildcards
  groupsByModel := draft.groupsByModel

end Draft

namespace Snapshot

def empty : Snapshot := ⟨[], [], [], []⟩

def build (channels : List Channel) (defaultWeight : UInt32) : Snapshot :=
  (channels.foldl (Draft.add defaultWeight) .empty).finish

def channel? (snapshot : Snapshot) (id : ChannelId) : Option Channel :=
  snapshot.channels.find? fun channel => channel.id == id

def groups (snapshot : Snapshot) : List String :=
  snapshot.rule.map (·.1)

def hasGroup (snapshot : Snapshot) (group : String) : Bool :=
  (snapshot.rule.lookup group).isSome

def keys (snapshot : Snapshot) (group : String) : List String :=
  ((snapshot.rule.lookup group).getD []).map (·.1)

/-- The ids routed for a model key in a group, one list for each tier. -/
def tiers (snapshot : Snapshot) (group model : String) : Option (List (List ChannelId)) :=
  snapshot.rule.tiers group model

/-- The model keys of a group, in ascending order. -/
def groupModels (snapshot : Snapshot) (group : String) : List String :=
  sortTexts (snapshot.keys group)

/-- The model keys of all groups, in ascending order. -/
def models (snapshot : Snapshot) : List String :=
  sortTexts (snapshot.groupsByModel.map (·.1))

/-- The groups that have a model key, in ascending order. -/
def modelGroups (snapshot : Snapshot) (model : String) : List String :=
  sortTexts ((snapshot.groupsByModel.lookup model).getD [])

/-- Every model key with the groups that have it. -/
def modelsGroups (snapshot : Snapshot) : List (String × List String) :=
  snapshot.models.map fun model => (model, snapshot.modelGroups model)

end Snapshot

end RelayGateway
