import RelayGateway.Channel.Provider
import RelayGateway.Channel.Status
import RelayGateway.Text.Fields

/-! # Upstream channels

* `Channel`: one way to reach a vendor, with the groups and models it serves.
* `ChannelRow`: how the store keeps a channel; `Channel.ofRow` reads it.
* `Channel.allowsStream`, `Channel.servesGroup`: literal membership tests.
-/

set_option autoImplicit false

namespace RelayGateway

/-- The identity of a channel, its primary key in the store. -/
abbrev ChannelId := Int32

/-- An upstream channel. -/
structure Channel where
  id : ChannelId
  name : String
  provider : Provider
  /-- The credential; it is read but never shown. -/
  key : String
  baseUrl : Option String
  groups : List String
  models : List String
  weight : UInt32
  priority : Int64
  status : ChannelStatus
  onlyChat : Bool
  /-- The models for which streaming is banned; `*` bans it for all. -/
  disabledStream : List String
  deriving DecidableEq, Inhabited

/-- A stored channel. Lists are comma-separated, and `none` is a missing value. -/
structure ChannelRow where
  id : ChannelId
  providerCode : Int32
  name : String
  key : String
  baseUrl : Option String
  groups : String
  models : String
  weight : Option Int32
  priority : Option Int64
  statusCode : Int32
  onlyChat : Bool
  disabledStream : Option String
  deriving DecidableEq, Inhabited

namespace Channel

/-- Streaming is allowed unless the ban list names the model, or everything. -/
def allowsStream (channel : Channel) (model : String) : Bool :=
  !channel.disabledStream.any fun entry => entry == "*" || entry == model

def servesGroup (channel : Channel) (group : String) : Bool :=
  channel.groups.any fun g => g == group

/-- A stored weight; a missing or negative one counts as zero. -/
def weightOfStored : Option Int32 → UInt32
  | some weight => if 0 ≤ weight then weight.toUInt32 else 0
  | none => 0

def ofRow (row : ChannelRow) : Channel where
  id := row.id
  name := row.name
  provider := .ofCode row.providerCode
  key := row.key
  baseUrl := row.baseUrl
  groups := Text.splitList row.groups
  models := Text.splitList row.models
  weight := weightOfStored row.weight
  priority := row.priority.getD 0
  status := .ofCode row.statusCode
  onlyChat := row.onlyChat
  disabledStream := (row.disabledStream.map Text.splitList).getD []

end Channel

end RelayGateway
